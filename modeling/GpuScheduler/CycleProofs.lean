import GpuScheduler.SelectionProofs

/-! # The scheduling cycle

    `runSchedulingCycle` takes the namespaces one by one; in the first where it can
    admit anything it admits up to `MaxAdmissionsPerCycle` workloads and returns.
    Between two admissions of a batch the API is not read again: the loop decides on
    a working copy that `ApplyVirtualAdmission` updates.

    The calls that leave the process (API, simulator) are a parameter: functions on
    an outside state that report success.  The batch is safe whatever they do. -/

namespace GpuCycle

open GoStrings GoMaps GpuInputs GpuFairness GpuPreemption GpuSelection

variable {σ : Type}

/-- The outside calls of a cycle; each returns the new outside state and whether it
    succeeded.  `patchAdmitted` and `markPreempted` are the retried status updates. -/
structure CycleCalls (σ : Type) where
  snapshotForNamespace : σ → String → Option SchedulingInputs
  markPreempted : String → String → σ → σ × Bool
  preempt : String → σ → σ × Bool
  release : String → σ → σ × Bool
  patchAdmitted : String → String → String → String → σ → σ × Bool

/-- The namespace and the name in a workload ID: `strings.Cut(id, "/")`, both parts
    non-empty. -/
def workloadKey (workloadID : String) : Option (String × String) :=
  match cut workloadID '/' with
  | none => none
  | some (ns, name) => if ns = "" ∨ name = "" then none else some (ns, name)

/-- `markVictimsPreemptedAndRelease`: victims with a malformed ID are skipped. -/
def markVictimsPreemptedAndRelease (calls : CycleCalls σ) :
    List RunningWorkload → σ → σ × Bool
  | [], s => (s, true)
  | v :: rest, s =>
      match workloadKey v.workloadID with
      | none => markVictimsPreemptedAndRelease calls rest s
      | some (ns, name) =>
        match calls.markPreempted ns name s with
        | (s, false) => (s, false)
        | (s, true) =>
          match calls.preempt v.workloadID s with
          | (s, false) => (s, false)
          | (s, true) =>
            match calls.release v.workloadID s with
            | (s, false) => (s, false)
            | (s, true) => markVictimsPreemptedAndRelease calls rest s

/-- `patchWorkloadAdmittedAndScheduled`: a malformed ID is an error. -/
def patchWorkloadAdmittedAndScheduled (calls : CycleCalls σ)
    (workloadID reason message : String) (s : σ) : σ × Bool :=
  match workloadKey workloadID with
  | none => (s, false)
  | some (ns, name) => calls.patchAdmitted ns name reason message s

/-- How an iteration that selected a workload ended: the labels of its metric. -/
inductive Verdict where
  | errorPreempt | errorPatch | admitted
  deriving DecidableEq, Repr

/-- One iteration that selected a workload: the working copy it decided on, the
    selection, and how it ended. -/
structure Iteration where
  working : SchedulingInputs
  selection : Selection
  verdict : Verdict

/-- What one turn of the batch loop does next. -/
inductive Turn (σ : Type) where
  | noCandidate (reason : NoAdmissionReason)
  | stop (it : Iteration) (working : SchedulingInputs) (s : σ)
  | next (it : Iteration) (working : SchedulingInputs) (s : σ)

/-- What stands for the inputs beside an error: `ApplyVirtualAdmission` returns its half-updated
    copy there, and the cycle, which has admitted something by then, stops without reading it. -/
def zeroInputs : SchedulingInputs := ⟨[], [], [], ⟨0, 0, none⟩, ∅⟩

/-- The calls of one iteration: preempt the victims if there are any, then patch. -/
def perform (calls : CycleCalls σ) (sel : Selection) (s : σ) : σ × Verdict :=
  match (if sel.victims = [] then (s, true)
      else markVictimsPreemptedAndRelease calls sel.victims s) with
  | (s, false) => (s, .errorPreempt)
  | (s, true) =>
    match patchWorkloadAdmittedAndScheduled calls sel.selectedID sel.reason sel.message s with
    | (s, false) => (s, .errorPatch)
    | (s, true) => (s, .admitted)

/-- The test for victims only saves a loop over nothing. -/
theorem markVictims_if (calls : CycleCalls σ) (victims : List RunningWorkload) (s : σ) :
    (if victims = [] then (s, true) else markVictimsPreemptedAndRelease calls victims s)
      = markVictimsPreemptedAndRelease calls victims s := by
  split_ifs with hnil
  · rw [hnil]
    rfl
  · rfl

/-- One turn of the loop `for admittedCount < maxAdmissions`. -/
def turn (calls : CycleCalls σ) (now : Int) (working : SchedulingInputs) (s : σ) : Turn σ :=
  let sel := selectOneForAdmission working
  if sel.selectedID = "" then .noCandidate sel.noAdmissionReason
  else match perform calls sel s with
  | (s, .admitted) =>
    match queuedWorkloadByID working sel.selectedID with
    | none => .stop ⟨working, sel, .admitted⟩ working s
    | some admitted =>
      match applyVirtualAdmission working admitted now with
      | .error _ => .stop ⟨working, sel, .admitted⟩ zeroInputs s
      | .ok working' => .next ⟨working, sel, .admitted⟩ working' s
  | (s, verdict) => .stop ⟨working, sel, verdict⟩ working s

/-- What the batch loop leaves behind. -/
structure Batch (σ : Type) where
  iterations : List Iteration
  working : SchedulingInputs
  lastNoAdmissionReason : NoAdmissionReason
  state : σ

/-- The batch loop; `n` is `maxAdmissions - admittedCount`. -/
def batch (calls : CycleCalls σ) (now : Int) : Nat → SchedulingInputs → σ → Batch σ
  | 0, working, s => ⟨[], working, .empty, s⟩
  | n + 1, working, s =>
      match turn calls now working s with
      | .noCandidate reason => ⟨[], working, reason, s⟩
      | .stop it working' s' => ⟨[it], working', .empty, s'⟩
      | .next it working' s' =>
        let rest := batch calls now n working' s'
        { rest with iterations := it :: rest.iterations }

/-- `maxAdmissions`. -/
def maxAdmissions (maxAdmissionsPerCycle : Int) : Nat :=
  if maxAdmissionsPerCycle ≤ 0 then 1 else maxAdmissionsPerCycle.toNat

/-- The ID of an iteration that ended in an admission. -/
def Iteration.admittedID (it : Iteration) : Option String :=
  if it.verdict = .admitted then some it.selection.selectedID else none

/-- The workload of an iteration that ended in an admission, with its victims. -/
def Iteration.admission (it : Iteration) : Option (QueuedWorkload × List RunningWorkload) :=
  if it.verdict = .admitted then
    (queuedWorkloadByID it.working it.selection.selectedID).map
      (fun w => (w, it.selection.victims))
  else none

/-- The IDs a batch admitted, in order. -/
def admittedIDs (its : List Iteration) : List String := its.filterMap Iteration.admittedID

/-- The workloads a batch admitted, in order, with their victims. -/
def admissions (its : List Iteration) : List (QueuedWorkload × List RunningWorkload) :=
  its.filterMap Iteration.admission

/-- `runSchedulingCycle` over the namespaces of `namespacesWithQueueAndFleet`, in the
    order the map yields them.  It returns after the first namespace with an
    admission. -/
def runSchedulingCycle (calls : CycleCalls σ) (maxAdmissionsPerCycle : Int)
    (now : String → Int) : List String → σ → σ
  | [], s => s
  | ns :: rest, s =>
      match calls.snapshotForNamespace s ns with
      | none => runSchedulingCycle calls maxAdmissionsPerCycle now rest s
      | some inputs =>
        if inputs.queuedWorkloads = [] then
          runSchedulingCycle calls maxAdmissionsPerCycle now rest s
        else match validate inputs with
        | .error _ => runSchedulingCycle calls maxAdmissionsPerCycle now rest s
        | .ok () =>
          let b := batch calls (now ns) (maxAdmissions maxAdmissionsPerCycle) inputs s
          if admittedIDs b.iterations = [] then
            runSchedulingCycle calls maxAdmissionsPerCycle now rest b.state
          else b.state

/-! ## One turn -/

/-- A turn that goes on: the first workload of the fair order that fits was admitted
    without victims, and its devices left the working copy. -/
structure GoesOn (calls : CycleCalls σ) (now : Int) (working : SchedulingInputs) (s : σ)
    (it : Iteration) (working' : SchedulingInputs) (s' : σ) (w : QueuedWorkload)
    (cap : ProfileFreeCapacity) : Prop where
  mem : w ∈ working.queuedWorkloads
  eligible : Eligible working w cap
  count : w.gpuCount ≤ cap.freeDevices
  first : (fairOrder working.queuedWorkloads working.tenantQuotas).find?
    (fitsWithoutPreemption working) = some w
  admission : it.admission = some (w, [])
  admittedID : it.admittedID = some w.workloadID
  victims : it.selection.victims = []
  performed : perform calls it.selection s = (s', .admitted)
  copy : applyVirtualAdmission working w now = .ok working'

/-- An iteration decides on its working copy; its workload is in the copy's queue. -/
structure Decides (it : Iteration) (w : QueuedWorkload) (cap : ProfileFreeCapacity) : Prop where
  selection : it.selection = selectOneForAdmission it.working
  mem : w ∈ it.working.queuedWorkloads
  id : it.selection.selectedID = w.workloadID
  byID : queuedWorkloadByID it.working it.selection.selectedID = some w
  eligible : Eligible it.working w cap
  count : it.selection.victims = [] → w.gpuCount ≤ cap.freeDevices
  short : it.selection.victims ≠ [] → cap.freeDevices < w.gpuCount

section
variable {calls : CycleCalls σ} {now : Int} {working working' : SchedulingInputs} {s s' : σ}
  {it : Iteration}

/-- Over a valid copy, an iteration that selected something has its workload. -/
private theorem exists_decides (hv : Valid working) (hw : it.working = working)
    (hsel : it.selection = selectOneForAdmission working)
    (hid : it.selection.selectedID ≠ "") : ∃ w cap, Decides it w cap := by
  have hnd := hv.nodup_queued
  rw [hsel] at hid
  cases selection_cases hv with
  | fits w cap _ mem eligible count first id victims =>
      refine ⟨w, cap, by rw [hw]; exact hsel, by rw [hw]; exact mem, by rw [hsel]; exact id,
        ?_, by rw [hw]; exact eligible, fun _ => count, ?_⟩
      · rw [hw, hsel, id]
        exact queuedWorkloadByID_of_mem hnd mem
      · intro hne
        rw [hsel] at hne
        exact absurd victims hne
  | preempts w cap _ mem eligible short picked noFit first id =>
      refine ⟨w, cap, by rw [hw]; exact hsel, by rw [hw]; exact mem, by rw [hsel]; exact id,
        ?_, by rw [hw]; exact eligible, ?_, fun _ => short⟩
      · rw [hw, hsel, id]
        exact queuedWorkloadByID_of_mem hnd mem
      · intro hnil
        rw [hsel] at hnil
        exact absurd hnil (widen_victims picked).1
  | nothing _ none id victims => exact absurd id hid

/-- The iteration of a turn that selected something. -/
theorem turn_selects
    (h : turn calls now working s = .stop it working' s'
      ∨ turn calls now working s = .next it working' s') :
    it.working = working ∧ it.selection = selectOneForAdmission working
      ∧ it.selection.selectedID ≠ ""
      ∧ perform calls it.selection s = (s', it.verdict) := by
  simp only [turn] at h
  by_cases hid : (selectOneForAdmission working).selectedID = ""
  · rw [if_pos hid] at h
    rcases h with h | h <;> cases h
  · rw [if_neg hid] at h
    cases hp : perform calls (selectOneForAdmission working) s with
    | mk s₁ verdict =>
      rw [hp] at h
      cases verdict with
      | errorPreempt =>
          rcases h with h | h
          · cases h; exact ⟨rfl, rfl, hid, hp⟩
          · cases h
      | errorPatch =>
          rcases h with h | h
          · cases h; exact ⟨rfl, rfl, hid, hp⟩
          · cases h
      | admitted =>
          simp only at h
          split at h
          · rcases h with h | h
            · cases h; exact ⟨rfl, rfl, hid, hp⟩
            · cases h
          · split at h
            · rcases h with h | h
              · cases h; exact ⟨rfl, rfl, hid, hp⟩
              · cases h
            · rcases h with h | h
              · cases h
              · cases h; exact ⟨rfl, rfl, hid, hp⟩

/-- A turn that stops has decided on the working copy. -/
theorem turn_stop (hv : Valid working) (h : turn calls now working s = .stop it working' s') :
    it.working = working ∧ (∃ w cap, Decides it w cap)
      ∧ perform calls it.selection s = (s', it.verdict) := by
  obtain ⟨hw, hsel, hid, hp⟩ := turn_selects (Or.inl h)
  exact ⟨hw, exists_decides hv hw hsel hid, hp⟩

/-- **A TURN THAT GOES ON HAS NO VICTIMS**: the shortfall that calls for victims is the
    negative capacity that stops the batch. -/
theorem turn_next (hv : Valid working) (h : turn calls now working s = .next it working' s') :
    it.working = working ∧ ∃ w cap, Decides it w cap
      ∧ GoesOn calls now working s it working' s' w cap := by
  obtain ⟨hw, hsel, hid, hp⟩ := turn_selects (Or.inr h)
  obtain ⟨w, cap, hd⟩ := exists_decides hv hw hsel hid
  have hbyID := hd.byID
  rw [hw, hsel] at hbyID
  rw [hsel] at hid hp
  simp only [turn, if_neg hid, hp] at h
  -- only the admitted branch with a virtual admission goes on
  cases hverdict : it.verdict with
  | errorPreempt => rw [hverdict] at h; cases h
  | errorPatch => rw [hverdict] at h; cases h
  | admitted =>
    rw [hverdict] at h
    simp only [hbyID] at h
    cases hcopy : applyVirtualAdmission working w now with
    | error e => rw [hcopy] at h; cases h
    | ok out =>
      rw [hcopy] at h
      have hout : out = working' := by cases h; rfl
      subst hout
      obtain ⟨cap', hentry, hle, -, -⟩ := applyVirtualAdmission_ok_iff.mp hcopy
      have he := hd.eligible
      rw [hw] at he
      have hcap : cap' = cap := Option.some.inj (hentry.symm.trans he.entry)
      subst hcap
      have hnil : it.selection.victims = [] := by
        by_contra hne
        exact absurd hle (not_le.mpr (hd.short hne))
      have hfirst : (fairOrder working.queuedWorkloads working.tenantQuotas).find?
          (fitsWithoutPreemption working) = some w := by
        have hnd := hv.nodup_queued
        have hmem := hd.mem
        have hidw := hd.id
        rw [hw] at hmem
        rw [hsel] at hidw hnil
        cases selection_cases hv with
        | fits w' _ _ mem _ _ first id _ =>
            rw [first, List.inj_on_of_nodup_map hnd mem hmem (id.symm.trans hidw)]
        | preempts _ _ _ _ _ _ picked _ _ _ => exact absurd hnil (widen_victims picked).1
        | nothing _ _ id _ => exact absurd id hid
      refine ⟨hw, w, cap', hd, by rw [← hw]; exact hd.mem, he, hle, hfirst, ?_, ?_, hnil, ?_,
        hcopy⟩
      · rw [Iteration.admission, if_pos hverdict, hd.byID, hnil]
        rfl
      · rw [Iteration.admittedID, if_pos hverdict, hd.id]
      · rw [hsel, hp, hverdict]

/-- The copy after a turn that goes on. -/
theorem GoesOn.valid {w : QueuedWorkload} {cap : ProfileFreeCapacity}
    (h : GoesOn calls now working s it working' s' w cap) (hv : Valid working)
    (hnow : now ≠ 0) : Valid working' :=
  valid_applyVirtualAdmission hv h.mem hnow h.copy

/-- The copy after a turn that goes on, field by field. -/
theorem GoesOn.eq_afterAdmission {w : QueuedWorkload} {cap : ProfileFreeCapacity}
    (h : GoesOn calls now working s it working' s' w cap) :
    working' = working.afterAdmission w cap now := by
  obtain ⟨cap', hentry, -, -, hout⟩ := applyVirtualAdmission_ok_iff.mp h.copy
  have hcap : cap' = cap := Option.some.inj (hentry.symm.trans h.eligible.entry)
  rw [hout, hcap]

end

/-! ## Batches -/

/-- **BATCH INDUCTION**: a property of the working copy and the iterations from there on
    that holds of a batch that ends, and extends over a turn that goes on, holds of
    every batch. -/
theorem batch_induction {calls : CycleCalls σ} {now : Int} (hnow : now ≠ 0)
    {P : Nat → SchedulingInputs → List Iteration → Prop}
    (hnil : ∀ n working, Valid working → P n working [])
    (hstop : ∀ n it w cap, Valid it.working → Decides it w cap → P (n + 1) it.working [it])
    (hnext : ∀ n it w cap working' s s' its, Valid it.working → Decides it w cap →
      GoesOn calls now it.working s it working' s' w cap → P n working' its →
      P (n + 1) it.working (it :: its))
    (n : Nat) {working : SchedulingInputs} (hv : Valid working) (s : σ) :
    P n working (batch calls now n working s).iterations := by
  induction n generalizing working s with
  | zero => exact hnil 0 working hv
  | succ n ih =>
      rw [batch]
      cases ht : turn calls now working s with
      | noCandidate reason => exact hnil (n + 1) working hv
      | stop it working' s' =>
          obtain ⟨hw, ⟨w, cap, hd⟩, -⟩ := turn_stop hv ht
          subst hw
          exact hstop n it w cap hv hd
      | next it working' s' =>
          obtain ⟨hw, w, cap, hd, hgo⟩ := turn_next hv ht
          subst hw
          exact hnext n it w cap working' s s' _ hv hd hgo (ih (hgo.valid hv hnow) s')

/-- The free devices of a profile; a profile without an entry has none. -/
def freeDevicesOf (inputs : SchedulingInputs) (profile : String) : Int :=
  match inputs.fleetFreeCapacity.entry profile with
  | some cap => cap.freeDevices
  | none => 0

/-- The GPUs admitted on a profile without victims. -/
def gpusWithoutVictims (profile : String)
    (adms : List (QueuedWorkload × List RunningWorkload)) : Int :=
  sumOf (fun a => a.1.profile) (fun a => a.1.gpuCount) profile
    (adms.filter (fun a => a.2 = []))

/-- The GPUs admitted for a tenant. -/
def gpusAdmittedFor (tenant : String)
    (adms : List (QueuedWorkload × List RunningWorkload)) : Int :=
  sumOf (fun a => a.1.tenant) (fun a => a.1.gpuCount) tenant adms

/-- The GPUs a tenant has committed: scheduled and running. -/
def committed (inputs : SchedulingInputs) (tenant : String) : Int :=
  tenantGPUs tenant (inputs.scheduledWorkloads ++ inputs.runningWorkloads)

theorem freeDevicesOf_nonneg {inputs : SchedulingInputs} (hv : Valid inputs) (p : String) :
    0 ≤ freeDevicesOf inputs p := by
  rw [freeDevicesOf]
  cases hentry : inputs.fleetFreeCapacity.entry p with
  | none => exact le_refl _
  | some cap =>
      exact (hv.fleet.profiles ⟨p, cap⟩ (AList.mem_lookup_iff.mp hentry)).freeDevices

section
variable {calls : CycleCalls σ} {now : Int} {working working' : SchedulingInputs} {s s' : σ}
  {it : Iteration} {w : QueuedWorkload} {cap : ProfileFreeCapacity}

/-- A turn that goes on takes its workload's devices out of its profile only. -/
theorem GoesOn.freeDevicesOf (h : GoesOn calls now working s it working' s' w cap)
    (p : String) :
    freeDevicesOf working p
      = freeDevicesOf working' p + if w.profile = p then w.gpuCount else 0 := by
  rw [h.eq_afterAdmission, GpuCycle.freeDevicesOf, GpuCycle.freeDevicesOf,
    entry_afterAdmission]
  by_cases hp : p = w.profile
  · rw [if_pos hp, if_pos hp.symm, hp, h.eligible.entry]
    show cap.freeDevices = cap.freeDevices - w.gpuCount + w.gpuCount
    omega
  · rw [if_neg hp, if_neg (fun e => hp e.symm), Int.add_zero]

/-- A turn that goes on adds its workload's GPUs to its tenant's commitment only. -/
theorem GoesOn.committed (h : GoesOn calls now working s it working' s' w cap)
    (tenant : String) :
    committed working' tenant
      = committed working tenant + if w.tenant = tenant then w.gpuCount else 0 := by
  rw [h.eq_afterAdmission]
  show tenantGPUs tenant (working.scheduledWorkloads
    ++ (working.runningWorkloads ++ [w.asRunning now])) = _
  rw [← List.append_assoc, tenantGPUs, sumOf_append, sumOf_cons, sumOf_nil, Int.add_zero]
  rfl

theorem GoesOn.tenantQuotas (h : GoesOn calls now working s it working' s' w cap) :
    working'.tenantQuotas = working.tenantQuotas := by
  rw [h.eq_afterAdmission]
  rfl

theorem GoesOn.mem_queued (h : GoesOn calls now working s it working' s' w cap)
    {q : QueuedWorkload} :
    q ∈ working'.queuedWorkloads
      ↔ q ∈ working.queuedWorkloads ∧ q.workloadID ≠ w.workloadID := by
  rw [h.eq_afterAdmission]
  show q ∈ working.queuedWorkloads.filter (fun q => q.workloadID ≠ w.workloadID) ↔ _
  simp

/-- The admission of an iteration, when there is one, is its workload's. -/
theorem Decides.admission (h : Decides it w cap) :
    (it.admission = some (w, it.selection.victims) ∧ it.admittedID = some w.workloadID)
      ∨ (it.admission = none ∧ it.admittedID = none) := by
  rw [Iteration.admission, Iteration.admittedID]
  by_cases hverdict : it.verdict = .admitted
  · rw [if_pos hverdict, if_pos hverdict, h.byID, h.id]
    exact Or.inl ⟨rfl, rfl⟩
  · rw [if_neg hverdict, if_neg hverdict]
    exact Or.inr ⟨rfl, rfl⟩

end

section
variable (calls : CycleCalls σ) {now : Int} (hnow : now ≠ 0) (n : Nat)
  {working : SchedulingInputs} (hv : Valid working) (s : σ)
include hnow hv

/-- Admitted IDs are those of admitted workloads, which come from the queue. -/
theorem batch_admissions_mem :
    (admissions (batch calls now n working s).iterations).map (fun a => a.1.workloadID)
        = admittedIDs (batch calls now n working s).iterations
      ∧ ∀ a ∈ admissions (batch calls now n working s).iterations,
        a.1 ∈ working.queuedWorkloads := by
  refine batch_induction (P := fun _ working its =>
    (admissions its).map (fun a => a.1.workloadID) = admittedIDs its
      ∧ ∀ a ∈ admissions its, a.1 ∈ working.queuedWorkloads) hnow ?_ ?_ ?_ n hv s
  · intro _ _ _
    exact ⟨rfl, fun a ha => by cases ha⟩
  · intro _ it w cap _ hd
    rw [admissions, admittedIDs, List.filterMap_cons, List.filterMap_cons]
    rcases hd.admission with ⟨h1, h2⟩ | ⟨h1, h2⟩
    · rw [h1, h2]
      refine ⟨rfl, fun a ha => ?_⟩
      rw [List.mem_singleton.mp ha]
      exact hd.mem
    · rw [h1, h2]
      exact ⟨rfl, fun a ha => by cases ha⟩
  · rintro _ it w cap working' _ _ its _ _ hgo ⟨ih1, ih2⟩
    rw [admissions, admittedIDs, List.filterMap_cons, List.filterMap_cons, hgo.admission,
      hgo.admittedID]
    refine ⟨?_, fun a ha => ?_⟩
    · rw [List.map_cons]
      exact congrArg _ ih1
    · rcases List.mem_cons.mp ha with rfl | ha
      · exact hgo.mem
      · exact (hgo.mem_queued.mp (ih2 a ha)).1

/-- No workload is admitted twice: an admitted workload leaves the queue. -/
theorem batch_admittedIDs_nodup :
    (admittedIDs (batch calls now n working s).iterations).Nodup := by
  refine (batch_induction (P := fun _ working its => (admittedIDs its).Nodup
    ∧ ∀ id ∈ admittedIDs its, id ∈ working.queuedWorkloads.map QueuedWorkload.workloadID)
    hnow ?_ ?_ ?_ n hv s).1
  · intro _ _ _
    exact ⟨List.nodup_nil, fun id hid => by cases hid⟩
  · intro _ it w cap _ hd
    rw [admittedIDs, List.filterMap_cons]
    rcases hd.admission with ⟨-, h⟩ | ⟨-, h⟩
    · rw [h]
      refine ⟨List.nodup_singleton _, fun id hid => ?_⟩
      rw [List.mem_singleton.mp hid]
      exact List.mem_map.mpr ⟨w, hd.mem, rfl⟩
    · rw [h]
      exact ⟨List.nodup_nil, fun id hid => by cases hid⟩
  · rintro _ it w cap working' _ _ its _ _ hgo ⟨ihnd, ihmem⟩
    rw [admittedIDs, List.filterMap_cons, hgo.admittedID]
    refine ⟨List.nodup_cons.mpr ⟨fun hid => ?_, ihnd⟩, fun id hid => ?_⟩
    · obtain ⟨q, hq, hqid⟩ := List.mem_map.mp (ihmem _ hid)
      exact (hgo.mem_queued.mp hq).2 hqid
    · rcases List.mem_cons.mp hid with rfl | hid
      · exact List.mem_map.mpr ⟨w, hgo.mem, rfl⟩
      · obtain ⟨q, hq, rfl⟩ := List.mem_map.mp (ihmem _ hid)
        exact List.mem_map.mpr ⟨q, (hgo.mem_queued.mp hq).1, rfl⟩

/-- Admissions without victims stay within the free devices of each profile. -/
theorem batch_gpusWithoutVictims_le (profile : String) :
    gpusWithoutVictims profile (admissions (batch calls now n working s).iterations)
      ≤ freeDevicesOf working profile := by
  refine batch_induction (P := fun _ working its =>
    gpusWithoutVictims profile (admissions its) ≤ freeDevicesOf working profile)
    hnow ?_ ?_ ?_ n hv s
  · intro _ working hv
    exact freeDevicesOf_nonneg hv profile
  · intro _ it w cap hv hd
    have h0 := freeDevicesOf_nonneg hv profile
    rw [admissions, List.filterMap_cons]
    rcases hd.admission with ⟨h, -⟩ | ⟨h, -⟩
    · rw [h]
      show sumOf _ _ profile ([(w, it.selection.victims)].filter _) ≤ _
      by_cases hnil : it.selection.victims = []
      · rw [List.filter_cons, if_pos (by simpa using hnil), List.filter_nil, sumOf_cons,
          sumOf_nil, Int.add_zero]
        by_cases hp : w.profile = profile
        · rw [if_pos hp, ← hp, freeDevicesOf, hd.eligible.entry]
          exact hd.count hnil
        · rw [if_neg hp]
          exact h0
      · rw [List.filter_cons, if_neg (by simpa using hnil), List.filter_nil]
        exact h0
    · rw [h]
      exact h0
  · intro _ it w cap working' _ _ its _ _ hgo ih
    rw [admissions, List.filterMap_cons, hgo.admission, hgo.freeDevicesOf profile]
    show sumOf _ _ profile (((w, []) :: admissions its).filter _) ≤ _
    rw [List.filter_cons, if_pos (by simp), sumOf_cons]
    show (if w.profile = profile then w.gpuCount else 0) + _ ≤ _
    rw [gpusWithoutVictims] at ih
    omega

/-- Victims end the batch: every admission before the last one had none. -/
theorem batch_victims_last {pre post : List (QueuedWorkload × List RunningWorkload)}
    {a : QueuedWorkload × List RunningWorkload}
    (h : admissions (batch calls now n working s).iterations = pre ++ a :: post)
    (ha : a.2 ≠ []) : post = [] := by
  revert pre
  refine batch_induction (P := fun _ _ its =>
    ∀ {pre}, admissions its = pre ++ a :: post → post = []) hnow ?_ ?_ ?_ n hv s
  · intro _ _ _ pre h
    exact absurd h.symm (by simp [admissions])
  · intro _ it w cap _ hd pre h
    have hlen := congrArg List.length h
    rw [admissions, List.filterMap_cons] at hlen
    rcases hd.admission with ⟨h', -⟩ | ⟨h', -⟩ <;> rw [h'] at hlen <;>
      simp only [List.filterMap_nil, List.length_cons, List.length_nil,
        List.length_append] at hlen
    · exact List.length_eq_zero_iff.mp (by omega)
    · omega
  · intro _ it w cap working' _ _ its _ _ hgo ih pre h
    rw [admissions, List.filterMap_cons, hgo.admission] at h
    cases pre with
    | nil => exact absurd (congrArg Prod.snd (List.cons.inj h).1).symm ha
    | cons b pre => exact ih (List.cons.inj h).2

/-- A tenant that receives an admission stays within its positive cap. -/
theorem batch_committed_le {tenant : String} {q : TenantQuota}
    (hq : working.tenantQuotas.lookup tenant = some q) (hpos : 0 < q.maxGPUs)
    (hadm : ∃ a ∈ admissions (batch calls now n working s).iterations, a.1.tenant = tenant) :
    committed working tenant
      + gpusAdmittedFor tenant (admissions (batch calls now n working s).iterations)
      ≤ q.maxGPUs := by
  have hunder : ∀ {working : SchedulingInputs} {w : QueuedWorkload}
      {cap : ProfileFreeCapacity}, Eligible working w cap →
      working.tenantQuotas.lookup tenant = some q → w.tenant = tenant →
      committed working tenant + w.gpuCount ≤ q.maxGPUs := by
    intro working w cap he hq ht
    subst ht
    exact le_maxGPUs_of_not_exceeds he.underCap hq hpos
  revert hadm
  refine batch_induction (P := fun _ working its =>
    working.tenantQuotas.lookup tenant = some q →
    (∃ a ∈ admissions its, a.1.tenant = tenant) →
    committed working tenant + gpusAdmittedFor tenant (admissions its) ≤ q.maxGPUs)
    hnow ?_ ?_ ?_ n hv s hq
  · rintro _ _ _ _ ⟨a, ha, -⟩
    cases ha
  · intro _ it w cap _ hd hq hadm
    rw [admissions, List.filterMap_cons] at hadm ⊢
    rcases hd.admission with ⟨h, -⟩ | ⟨h, -⟩
    · rw [h] at hadm ⊢
      obtain ⟨a, ha, ht⟩ := hadm
      rw [List.mem_singleton.mp ha] at ht
      show _ + sumOf _ _ tenant [(w, it.selection.victims)] ≤ _
      rw [sumOf_cons, sumOf_nil, Int.add_zero, if_pos ht]
      exact hunder hd.eligible hq ht
    · rw [h] at hadm
      obtain ⟨a, ha, -⟩ := hadm
      cases ha
  · intro _ it w cap working' _ _ its _ _ hgo ih hq hadm
    rw [admissions, List.filterMap_cons, hgo.admission] at hadm ⊢
    have hcommit := hgo.committed tenant
    show _ + sumOf _ _ tenant ((w, []) :: admissions its) ≤ _
    rw [sumOf_cons]
    show _ + ((if w.tenant = tenant then w.gpuCount else 0) + _) ≤ _
    by_cases hrest : ∃ a ∈ admissions its, a.1.tenant = tenant
    · -- a later admission of the tenant counted this one in its check
      have := ih (by rw [hgo.tenantQuotas]; exact hq) hrest
      rw [gpusAdmittedFor] at this
      omega
    · have h0 : sumOf (fun a : QueuedWorkload × List RunningWorkload => a.1.tenant)
          (fun a => a.1.gpuCount) tenant (admissions its) = 0 :=
        sumOf_eq_zero (fun a ha ht => hrest ⟨a, ha, ht⟩)
      obtain ⟨a, ha, ht⟩ := hadm
      rcases List.mem_cons.mp ha with rfl | ha
      · rw [if_pos ht, h0, Int.add_zero]
        exact hunder hgo.eligible hq ht
      · exact absurd ⟨a, ha, ht⟩ hrest

end

/-! ## The outside state over a cycle -/

section
variable {calls : CycleCalls σ} {I : σ → Prop}

/-- Marking the victims keeps what each of its calls keeps. -/
theorem markVictims_invariant
    (hmark : ∀ ns name s, I s → I (calls.markPreempted ns name s).1)
    (hpreempt : ∀ id s, I s → I (calls.preempt id s).1)
    (hrelease : ∀ id s, I s → I (calls.release id s).1)
    (victims : List RunningWorkload) {s : σ} (hs : I s) :
    I (markVictimsPreemptedAndRelease calls victims s).1 := by
  induction victims generalizing s with
  | nil => exact hs
  | cons v rest ih =>
      rw [markVictimsPreemptedAndRelease]
      split
      · exact ih hs
      · rename_i ns name _
        have h1 := hmark ns name s hs
        split
        · rename_i s₁ hm
          rw [hm] at h1
          exact h1
        · rename_i s₁ hm
          rw [hm] at h1
          have h2 := hpreempt v.workloadID s₁ h1
          split
          · rename_i s₂ hp
            rw [hp] at h2
            exact h2
          · rename_i s₂ hp
            rw [hp] at h2
            have h3 := hrelease v.workloadID s₂ h2
            split
            · rename_i s₃ hr
              rw [hr] at h3
              exact h3
            · rename_i s₃ hr
              rw [hr] at h3
              exact ih h3

/-- The calls of one iteration: one that fails keeps what each call keeps, and one that
    succeeds ends with the admission of the selected workload. -/
theorem perform_cases
    (hmark : ∀ ns name s, I s → I (calls.markPreempted ns name s).1)
    (hpreempt : ∀ id s, I s → I (calls.preempt id s).1)
    (hrelease : ∀ id s, I s → I (calls.release id s).1)
    (hfail : ∀ ns name reason message s, I s →
      (calls.patchAdmitted ns name reason message s).2 = false →
      I (calls.patchAdmitted ns name reason message s).1)
    {sel : Selection} {s s' : σ} {verdict : Verdict} (hs : I s)
    (h : perform calls sel s = (s', verdict)) :
    (verdict ≠ .admitted → I s')
      ∧ (verdict = .admitted → ∃ s₁ ns name, I s₁ ∧ (sel.victims = [] → s₁ = s)
        ∧ workloadKey sel.selectedID = some (ns, name)
        ∧ calls.patchAdmitted ns name sel.reason sel.message s₁ = (s', true)) := by
  have hvictims : I (markVictimsPreemptedAndRelease calls sel.victims s).1 :=
    markVictims_invariant hmark hpreempt hrelease _ hs
  have hsame : sel.victims = [] → (markVictimsPreemptedAndRelease calls sel.victims s).1 = s := by
    intro hnil
    rw [hnil]
    rfl
  rw [perform, markVictims_if] at h
  rcases hv : markVictimsPreemptedAndRelease calls sel.victims s with ⟨s₁, ok⟩
  rw [hv] at h hvictims hsame
  cases ok with
  | false =>
      obtain ⟨rfl, rfl⟩ := Prod.mk.inj h
      exact ⟨fun _ => hvictims, fun hadm => by cases hadm⟩
  | true =>
    simp only [patchWorkloadAdmittedAndScheduled] at h
    cases hk : workloadKey sel.selectedID with
    | none =>
        rw [hk] at h
        obtain ⟨rfl, rfl⟩ := Prod.mk.inj h
        exact ⟨fun _ => hvictims, fun hadm => by cases hadm⟩
    | some k =>
      rw [hk] at h
      simp only at h
      rcases ha : calls.patchAdmitted k.1 k.2 sel.reason sel.message s₁ with ⟨s₂, ok⟩
      have hf := hfail k.1 k.2 sel.reason sel.message s₁ hvictims
      rw [ha] at h hf
      cases ok with
      | false =>
          obtain ⟨rfl, rfl⟩ := Prod.mk.inj h
          exact ⟨fun _ => hf rfl, fun hadm => by cases hadm⟩
      | true =>
          obtain ⟨rfl, rfl⟩ := Prod.mk.inj h
          exact ⟨fun hne => absurd rfl hne,
            fun _ => ⟨s₁, k.1, k.2, hvictims, hsame, rfl, ha⟩⟩

/-- A batch that admits nothing has made at most one failed attempt. -/
theorem batch_no_admission {now : Int} {n : Nat} {working : SchedulingInputs} {s : σ}
    (hs : I s) (hfail : ∀ it working' s', turn calls now working s = .stop it working' s' →
      it.verdict ≠ .admitted → I s')
    (hv : Valid working)
    (h : admittedIDs (batch calls now n working s).iterations = []) :
    I (batch calls now n working s).state := by
  cases n with
  | zero => exact hs
  | succ n =>
      rw [batch] at h ⊢
      cases ht : turn calls now working s with
      | noCandidate reason => exact hs
      | stop it working' s' =>
          rw [ht] at h
          refine hfail it working' s' ht (fun hadm => ?_)
          rw [admittedIDs, List.filterMap_cons, Iteration.admittedID, if_pos hadm] at h
          cases h
      | next it working' s' =>
          obtain ⟨-, w, cap, -, hgo⟩ := turn_next hv ht
          rw [ht] at h
          simp only at h
          rw [admittedIDs, List.filterMap_cons, hgo.admittedID] at h
          cases h

/-- **BATCH RULE FOR THE OUTSIDE STATE**: a relation between the working copy and the
    outside state that every turn that goes on keeps gives, where the batch ends, what
    each way of ending gives. -/
theorem batch_state {now : Int} (hnow : now ≠ 0) {J : Nat → SchedulingInputs → σ → Prop}
    {Q : σ → Prop} (hfull : ∀ working s, Valid working → J 0 working s → Q s)
    (hnothing : ∀ n working s, Valid working → J (n + 1) working s →
      (selectOneForAdmission working).selectedID = "" → Q s)
    (hstop : ∀ n it w cap working' s s', Valid it.working → Decides it w cap →
      J (n + 1) it.working s → turn calls now it.working s = .stop it working' s' → Q s')
    (hnext : ∀ n it w cap working' s s', Valid it.working → Decides it w cap →
      GoesOn calls now it.working s it working' s' w cap → J (n + 1) it.working s →
      J n working' s')
    (n : Nat) {working : SchedulingInputs} (hv : Valid working) {s : σ} (hJ : J n working s) :
    Q (batch calls now n working s).state := by
  induction n generalizing working s with
  | zero => exact hfull working s hv hJ
  | succ n ih =>
      rw [batch]
      cases ht : turn calls now working s with
      | noCandidate reason =>
          refine hnothing n working s hv hJ ?_
          by_contra hid
          simp only [turn, if_neg hid] at ht
          split at ht
          · split at ht
            · cases ht
            · split at ht <;> cases ht
          · cases ht
      | stop it working' s' =>
          obtain ⟨rfl, ⟨w, cap, hd⟩, -⟩ := turn_stop hv ht
          exact hstop n it w cap working' s s' hv hd hJ ht
      | next it working' s' =>
          obtain ⟨rfl, w, cap, hd, hgo⟩ := turn_next hv ht
          exact ih (hgo.valid hv hnow) (hnext n it w cap working' s s' hv hd hgo hJ)

/-- **CYCLE RULE**: an invariant that every batch without an admission keeps gives, after
    the cycle, what every batch gives. -/
theorem runSchedulingCycle_rule {Q : σ → Prop} {maxAdmissionsPerCycle : Int}
    {now : String → Int} (hIQ : ∀ s, I s → Q s)
    (hbatch : ∀ ns inputs s, I s → calls.snapshotForNamespace s ns = some inputs →
      Valid inputs → now ns ≠ 0 →
      (admittedIDs (batch calls (now ns) (maxAdmissions maxAdmissionsPerCycle) inputs
          s).iterations = [] →
        I (batch calls (now ns) (maxAdmissions maxAdmissionsPerCycle) inputs s).state)
      ∧ Q (batch calls (now ns) (maxAdmissions maxAdmissionsPerCycle) inputs s).state)
    {namespaces : List String} (hnow : ∀ ns ∈ namespaces, now ns ≠ 0) {s : σ} (hs : I s) :
    Q (runSchedulingCycle calls maxAdmissionsPerCycle now namespaces s) := by
  induction namespaces generalizing s with
  | nil => exact hIQ s hs
  | cons ns rest ih =>
      have hrest : ∀ ns ∈ rest, now ns ≠ 0 := fun ns h => hnow ns (List.mem_cons_of_mem _ h)
      rw [runSchedulingCycle]
      cases hsnap : calls.snapshotForNamespace s ns with
      | none => exact ih hrest hs
      | some inputs =>
        by_cases hq : inputs.queuedWorkloads = []
        · simp only [if_pos hq]
          exact ih hrest hs
        · simp only [if_neg hq]
          cases hval : validate inputs with
          | error e => exact ih hrest hs
          | ok u =>
            have hv : Valid inputs := validate_ok_iff.mp hval
            obtain ⟨h1, h2⟩ := hbatch ns inputs s hs hsnap hv (hnow ns (List.mem_cons_self ..))
            by_cases hnone : admittedIDs (batch calls (now ns)
                (maxAdmissions maxAdmissionsPerCycle) inputs s).iterations = []
            · simp only [if_pos hnone]
              exact ih hrest (h1 hnone)
            · simp only [if_neg hnone]
              exact h2

/-- An invariant of every call is an invariant of the cycle. -/
theorem runSchedulingCycle_invariant
    (hmark : ∀ ns name s, I s → I (calls.markPreempted ns name s).1)
    (hpreempt : ∀ id s, I s → I (calls.preempt id s).1)
    (hrelease : ∀ id s, I s → I (calls.release id s).1)
    (hpatch : ∀ ns name reason message s, I s → I (calls.patchAdmitted ns name reason message s).1)
    (maxAdmissionsPerCycle : Int) {now : String → Int} {namespaces : List String}
    (hnow : ∀ ns ∈ namespaces, now ns ≠ 0) {s : σ} (hs : I s) :
    I (runSchedulingCycle calls maxAdmissionsPerCycle now namespaces s) := by
  have hperform : ∀ sel s s' verdict, I s → perform calls sel s = (s', verdict) → I s' := by
    intro sel s s' verdict hs h
    obtain ⟨hother, hadm⟩ := perform_cases hmark hpreempt hrelease
      (fun ns name reason message s hs _ => hpatch ns name reason message s hs) hs h
    by_cases hv : verdict = .admitted
    · obtain ⟨s₁, ns, name, hs₁, -, -, ha⟩ := hadm hv
      have := hpatch ns name sel.reason sel.message s₁ hs₁
      rw [ha] at this
      exact this
    · exact hother hv
  refine runSchedulingCycle_rule (Q := I) (fun _ h => h)
    (fun ns inputs s hs _ hv hns => ?_) hnow hs
  have hbatch : I (batch calls (now ns) (maxAdmissions maxAdmissionsPerCycle) inputs s).state :=
    batch_state hns (J := fun _ _ s => I s) (fun _ _ _ h => h) (fun _ _ _ _ h _ => h)
      (fun _ it _ _ _ s s' _ _ h ht =>
        hperform it.selection s s' it.verdict h (turn_selects (Or.inl ht)).2.2.2)
      (fun _ it _ _ _ s s' _ _ hgo h => hperform it.selection s s' .admitted h hgo.performed)
      _ hv hs
  exact ⟨fun _ => hbatch, hbatch⟩

end

/-- What a batch admitted from `inputs` is allowed to be. -/
structure BatchSafe (inputs : SchedulingInputs) (its : List Iteration) : Prop where
  /-- Every admitted ID is the ID of an admitted workload of the queue. -/
  ids : (admissions its).map (fun a => a.1.workloadID) = admittedIDs its
  inQueue : ∀ a ∈ admissions its, a.1 ∈ inputs.queuedWorkloads
  distinct : (admittedIDs its).Nodup
  /-- What is admitted without victims fits the free devices together. -/
  withinFree : ∀ profile,
    gpusWithoutVictims profile (admissions its) ≤ freeDevicesOf inputs profile
  /-- An admission with victims is the last one. -/
  victimsLast : ∀ pre a post, admissions its = pre ++ a :: post → a.2 ≠ [] → post = []
  /-- A capped tenant that receives an admission ends within its cap. -/
  withinCap : ∀ tenant q, inputs.tenantQuotas.lookup tenant = some q → 0 < q.maxGPUs →
    (∃ a ∈ admissions its, a.1.tenant = tenant) →
    committed inputs tenant + gpusAdmittedFor tenant (admissions its) ≤ q.maxGPUs

/-- **A BATCH IS SAFE**: from every snapshot that `Validate` accepts, for every bound on
    the admissions and whatever the outside calls do. -/
theorem batch_safe (calls : CycleCalls σ) {now : Int} (hnow : now ≠ 0)
    (maxAdmissionsPerCycle : Int) {inputs : SchedulingInputs}
    (hv : validate inputs = .ok ()) (s : σ) :
    BatchSafe inputs
      (batch calls now (maxAdmissions maxAdmissionsPerCycle) inputs s).iterations := by
  have hvalid := validate_ok_iff.mp hv
  obtain ⟨hids, hmem⟩ := batch_admissions_mem calls hnow
    (maxAdmissions maxAdmissionsPerCycle) hvalid s
  exact ⟨hids, hmem, batch_admittedIDs_nodup calls hnow _ hvalid s,
    batch_gpusWithoutVictims_le calls hnow _ hvalid s,
    fun _ _ _ h ha => batch_victims_last calls hnow _ hvalid s h ha,
    fun _ _ hq hpos hadm => batch_committed_le calls hnow _ hvalid s hq hpos hadm⟩

/-- Outside calls that always succeed. -/
def succeeding : CycleCalls σ where
  snapshotForNamespace _ _ := none
  markPreempted _ _ s := (s, true)
  preempt _ s := (s, true)
  release _ s := (s, true)
  patchAdmitted _ _ _ _ s := (s, true)

/-- Every call of the cycle to the API and to the simulator succeeds. -/
structure Succeeds (calls : CycleCalls σ) : Prop where
  markPreempted : ∀ ns name s, (calls.markPreempted ns name s).2 = true
  preempt : ∀ id s, (calls.preempt id s).2 = true
  release : ∀ id s, (calls.release id s).2 = true
  patchAdmitted : ∀ ns name reason message s,
    (calls.patchAdmitted ns name reason message s).2 = true

theorem succeeds_succeeding : Succeeds (succeeding : CycleCalls σ) :=
  ⟨fun _ _ _ => rfl, fun _ _ => rfl, fun _ _ => rfl, fun _ _ _ _ _ => rfl⟩

section
variable {calls : CycleCalls σ} (hcalls : Succeeds calls)
include hcalls

theorem Succeeds.markVictims (victims : List RunningWorkload) (s : σ) :
    (markVictimsPreemptedAndRelease calls victims s).2 = true := by
  induction victims generalizing s with
  | nil => rfl
  | cons v rest ih =>
      rw [markVictimsPreemptedAndRelease]
      split
      · exact ih s
      · rename_i ns name _
        have h1 := hcalls.markPreempted ns name s
        split
        · rename_i s₁ hm
          rw [hm] at h1
          exact h1
        · rename_i s₁ hm
          have h2 := hcalls.preempt v.workloadID s₁
          split
          · rename_i s₂ hp
            rw [hp] at h2
            exact h2
          · rename_i s₂ hp
            have h3 := hcalls.release v.workloadID s₂
            split
            · rename_i s₃ hr
              rw [hr] at h3
              exact h3
            · exact ih _

/-- An iteration ends in an admission unless the selected ID is malformed. -/
theorem Succeeds.perform (sel : Selection) (s : σ) :
    (perform calls sel s).2
      = if (workloadKey sel.selectedID).isSome then .admitted else .errorPatch := by
  have hvictims := hcalls.markVictims sel.victims s
  rw [GpuCycle.perform, markVictims_if]
  rcases hv : markVictimsPreemptedAndRelease calls sel.victims s with ⟨s₁, ok⟩
  rw [hv] at hvictims
  obtain rfl : ok = true := hvictims
  simp only [patchWorkloadAdmittedAndScheduled]
  cases hk : workloadKey sel.selectedID with
  | none => rfl
  | some k =>
      have hp := hcalls.patchAdmitted k.1 k.2 sel.reason sel.message s₁
      rcases ha : calls.patchAdmitted k.1 k.2 sel.reason sel.message s₁ with ⟨s₂, ok⟩
      rw [ha] at hp
      obtain rfl : ok = true := hp
      simp only [ha]
      rfl

end

/-- Two free devices; a small urgent workload and a large one, of one capped tenant. -/
def twoQueued : SchedulingInputs where
  queuedWorkloads :=
    [⟨"ns/small", "t", 10, 1, 1, 40, "h100_sxm", 5, .training⟩,
     ⟨"ns/large", "t", 1, 2, 2, 40, "h100_sxm", 5, .training⟩]
  scheduledWorkloads := []
  runningWorkloads := []
  fleetFreeCapacity :=
    ⟨2, 160, some ((∅ : GoMap String ProfileFreeCapacity).insert "h100_sxm" ⟨2, 160, 80⟩)⟩
  tenantQuotas := (∅ : GoMap String TenantQuota).insert "t" ⟨3, 0, 1⟩

/-- With room for both and a cap of three, the second admission needs a victim. -/
theorem batch_safe_twoQueued :
    admittedIDs (batch succeeding 7 (maxAdmissions 2) twoQueued ()).iterations
        = ["ns/small", "ns/large"]
      ∧ BatchSafe twoQueued (batch succeeding 7 (maxAdmissions 2) twoQueued ()).iterations :=
  ⟨by decide +kernel, batch_safe succeeding (by decide) 2 rfl ()⟩

end GpuCycle
