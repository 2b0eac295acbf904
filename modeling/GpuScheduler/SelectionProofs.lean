import GpuScheduler.FairnessProofs
import GpuScheduler.PreemptionProofs

/-! # Selecting one workload for admission

    `SelectOneForAdmission` walks the fair order twice: first for a workload that
    fits the free capacity, then for one that preemption can make fit.  Over valid
    inputs each outcome has a declarative reading (`selection_cases`), and nothing
    is selected exactly when no queued workload is admissible
    (`selectedID_eq_empty_iff`). -/

namespace GpuSelection

open GoStrings GoMaps GpuInputs GpuFairness GpuCompat GpuPreemption

/-- `NoAdmissionReasonQuota`, `NoAdmissionReasonNoFit`, `NoAdmissionReasonEmpty`. -/
inductive NoAdmissionReason where
  | quota | noFit | empty
  deriving DecidableEq, Repr

/-- The five results of `SelectOneForAdmission`. -/
structure Selection where
  selectedID : String
  victims : List RunningWorkload
  reason : String
  message : String
  noAdmissionReason : NoAdmissionReason
  deriving DecidableEq, Repr

/-! ## The model -/

section
variable (norm : Int → Int)

/-- `TenantGPUsUsed` over the scheduled and the running workloads; `norm` says what is kept
    of a sum. -/
def usageWith (inputs : SchedulingInputs) : GoMap String Int :=
  tenantGPUsUsedWith norm (inputs.scheduledWorkloads ++ inputs.runningWorkloads)

/-- The body of the first pass: the candidate is under its cap and fits. -/
def fitsWithoutPreemptionWith (inputs : SchedulingInputs) (candidate : QueuedWorkload) : Bool :=
  if exceedsTenantGPUCapWith norm candidate (usageWith norm inputs) inputs.tenantQuotas then
    false
  else match compatibleProfileAndKind candidate inputs.fleetFreeCapacity with
  | .error _ => false
  | .ok () =>
    match fitsGPUCount candidate inputs.fleetFreeCapacity with
    | .error _ => false
    | .ok false => false
    | .ok true =>
      match fitsPerDeviceMemory candidate inputs.fleetFreeCapacity with
      | .error _ => false
      | .ok fitsMemory => fitsMemory

/-- The body of the second pass: the candidate with its victims, when there are any. -/
def admitWithPreemptionWith (inputs : SchedulingInputs) (candidate : QueuedWorkload) :
    Option (QueuedWorkload × List RunningWorkload) :=
  if exceedsTenantGPUCapWith norm candidate (usageWith norm inputs) inputs.tenantQuotas then
    none
  else match compatibleProfileAndKind candidate inputs.fleetFreeCapacity with
  | .error _ => none
  | .ok () =>
    match selectPreemptionVictimsGreedyMinimalWith norm candidate inputs.runningWorkloads
        inputs.fleetFreeCapacity with
    | .error _ => none
    | .ok victims => if victims = [] then none else some (candidate, victims)

/-- `SelectOneForAdmission`. -/
def selectOneForAdmissionWith (inputs : SchedulingInputs) : Selection :=
  let fair := fairOrder inputs.queuedWorkloads inputs.tenantQuotas
  match fair.find? (fitsWithoutPreemptionWith norm inputs) with
  | some candidate =>
      ⟨candidate.workloadID, [], "SelectedForAdmission",
        "Scheduler selected this workload for admission", .empty⟩
  | none =>
    match fair.findSome? (admitWithPreemptionWith norm inputs) with
    | some (candidate, victims) =>
        ⟨candidate.workloadID, victims, "AdmittedWithPreemption",
          "Scheduler selected this workload for admission with preemption", .empty⟩
    | none =>
        if fair = [] then ⟨"", [], "", "", .empty⟩
        else if fair.all (fun candidate =>
            exceedsTenantGPUCapWith norm candidate (usageWith norm inputs)
              inputs.tenantQuotas) then
          ⟨"", [], "", "", .quota⟩
        else ⟨"", [], "", "", .noFit⟩

end

/-- The usage, with exact sums. -/
def SchedulingInputs.usage (inputs : SchedulingInputs) : GoMap String Int :=
  tenantGPUsUsed (inputs.scheduledWorkloads ++ inputs.runningWorkloads)

theorem usageWith_id : usageWith id = SchedulingInputs.usage := rfl

/-- The body of the first pass, with exact sums. -/
def fitsWithoutPreemption : SchedulingInputs → QueuedWorkload → Bool :=
  fitsWithoutPreemptionWith id

/-- The body of the second pass, with exact sums. -/
def admitWithPreemption : SchedulingInputs → QueuedWorkload →
    Option (QueuedWorkload × List RunningWorkload) := admitWithPreemptionWith id

/-- `SelectOneForAdmission`, with exact sums. -/
def selectOneForAdmission : SchedulingInputs → Selection := selectOneForAdmissionWith id

/-! ## What each pass looks for -/

/-- The checks both passes share: under the cap, compatible, and devices of the
    profile are large enough; `cap` is the profile's capacity entry. -/
structure Eligible (inputs : SchedulingInputs) (w : QueuedWorkload)
    (cap : ProfileFreeCapacity) : Prop where
  underCap : exceedsTenantGPUCap w (SchedulingInputs.usage inputs) inputs.tenantQuotas = false
  compatible : compatibleProfileAndKind w inputs.fleetFreeCapacity = .ok ()
  entry : inputs.fleetFreeCapacity.entry w.profile = some cap
  memory : w.gpuMemoryMiB ≤ cap.memoryMiBPerDevice

/-- The GPUs running workloads hold on a profile. -/
def held (profile : String) (running : List RunningWorkload) : Int :=
  gpuSum (running.filter (fun r => r.profile = profile))

/-- Some pass can admit the workload: free and held devices together suffice. -/
def Admissible (inputs : SchedulingInputs) (w : QueuedWorkload) : Prop :=
  ∃ cap, Eligible inputs w cap
    ∧ w.gpuCount ≤ cap.freeDevices + held w.profile inputs.runningWorkloads

/-- What admissibility depends on: the fleet, the quotas, the GPUs the tenant uses, and
    the GPUs held on the profile. -/
def AdmissibleGiven (w : QueuedWorkload) (fleet : FleetFreeCapacity)
    (quotas : GoMap String TenantQuota) (used heldGPUs : Int) : Prop :=
  overCap w used quotas = false ∧ compatibleProfileAndKind w fleet = .ok ()
    ∧ ∃ cap, fleet.entry w.profile = some cap ∧ w.gpuMemoryMiB ≤ cap.memoryMiBPerDevice
      ∧ w.gpuCount ≤ cap.freeDevices + heldGPUs

theorem admissible_iff_given (inputs : SchedulingInputs) (w : QueuedWorkload) :
    Admissible inputs w ↔ AdmissibleGiven w inputs.fleetFreeCapacity inputs.tenantQuotas
      (tenantGPUs w.tenant (inputs.scheduledWorkloads ++ inputs.runningWorkloads))
      (held w.profile inputs.runningWorkloads) := by
  rw [AdmissibleGiven, ← exceedsTenantGPUCap_eq]
  constructor
  · rintro ⟨cap, he, hle⟩
    exact ⟨he.underCap, he.compatible, cap, he.entry, he.memory, hle⟩
  · rintro ⟨hcap, hcompat, cap, hentry, hmem, hle⟩
    exact ⟨cap, ⟨hcap, hcompat, hentry, hmem⟩, hle⟩

/-- Less usage and more held GPUs keep a workload admissible. -/
theorem AdmissibleGiven.mono {w : QueuedWorkload} {fleet : FleetFreeCapacity}
    {quotas : GoMap String TenantQuota} {used used' heldGPUs heldGPUs' : Int}
    (h : AdmissibleGiven w fleet quotas used heldGPUs) (hused : used' ≤ used)
    (hheld : heldGPUs ≤ heldGPUs') : AdmissibleGiven w fleet quotas used' heldGPUs' := by
  obtain ⟨hcap, hcompat, cap, hentry, hmem, hle⟩ := h
  exact ⟨overCap_mono hcap hused, hcompat, cap, hentry, hmem, by omega⟩

/-- A blank string is empty once trimmed, so a non-blank one is not empty. -/
theorem ne_empty_of_trim {s : String} (h : trimSpace s ≠ "") : s ≠ "" := by
  rintro rfl
  exact h (by decide)

section
variable {inputs : SchedulingInputs} {w : QueuedWorkload}

/-- What the first pass checks, whatever is kept of the sums. -/
theorem fitsWithoutPreemptionWith_iff {norm : Int → Int} :
    fitsWithoutPreemptionWith norm inputs w = true
      ↔ exceedsTenantGPUCapWith norm w (usageWith norm inputs) inputs.tenantQuotas = false
        ∧ compatibleProfileAndKind w inputs.fleetFreeCapacity = .ok ()
        ∧ fitsGPUCount w inputs.fleetFreeCapacity = .ok true
        ∧ fitsPerDeviceMemory w inputs.fleetFreeCapacity = .ok true := by
  rw [fitsWithoutPreemptionWith]
  cases exceedsTenantGPUCapWith norm w (usageWith norm inputs) inputs.tenantQuotas with
  | true => simp
  | false =>
    cases compatibleProfileAndKind w inputs.fleetFreeCapacity with
    | error e => simp
    | ok u =>
      cases fitsGPUCount w inputs.fleetFreeCapacity with
      | error e => simp
      | ok fitsCount =>
        cases fitsCount with
        | false => simp
        | true =>
          cases fitsPerDeviceMemory w inputs.fleetFreeCapacity with
          | error e => simp
          | ok fitsMemory => simp

/-- What the second pass checks: there are victims, and the candidate is the one that was
    asked about. -/
theorem admitWithPreemptionWith_iff {norm : Int → Int}
    {r : QueuedWorkload × List RunningWorkload} :
    admitWithPreemptionWith norm inputs w = some r
      ↔ exceedsTenantGPUCapWith norm w (usageWith norm inputs) inputs.tenantQuotas = false
        ∧ compatibleProfileAndKind w inputs.fleetFreeCapacity = .ok ()
        ∧ selectPreemptionVictimsGreedyMinimalWith norm w inputs.runningWorkloads
          inputs.fleetFreeCapacity = .ok r.2
        ∧ r.2 ≠ [] ∧ r.1 = w := by
  obtain ⟨candidate, victims⟩ := r
  rw [admitWithPreemptionWith]
  cases exceedsTenantGPUCapWith norm w (usageWith norm inputs) inputs.tenantQuotas with
  | true => simp
  | false =>
    cases compatibleProfileAndKind w inputs.fleetFreeCapacity with
    | error e => simp
    | ok u =>
      cases selectPreemptionVictimsGreedyMinimalWith norm w inputs.runningWorkloads
          inputs.fleetFreeCapacity with
      | error e => simp
      | ok found =>
        by_cases hnil : found = []
        · simp only [hnil]
          grind
        · simp only [if_neg hnil]
          grind

/-- A workload that passes the first pass. -/
theorem fitsWithoutPreemption_iff (hw : w.fields.Ok) :
    fitsWithoutPreemption inputs w = true
      ↔ ∃ cap, Eligible inputs w cap ∧ w.gpuCount ≤ cap.freeDevices := by
  have hp : w.profile ≠ "" := ne_empty_of_trim hw.profile
  rw [fitsWithoutPreemption, fitsWithoutPreemptionWith_iff, ← exceedsTenantGPUCap, usageWith_id,
    fitsGPUCount_true_iff inputs.fleetFreeCapacity hw.gpuCount hp,
    fitsPerDeviceMemory_true_iff inputs.fleetFreeCapacity hw.gpuMemoryMiB hp]
  constructor
  · rintro ⟨hx, hc, ⟨cap, hentry, hle⟩, cap', hentry', hle'⟩
    rw [hentry] at hentry'
    rw [← Option.some.inj hentry'] at hle'
    exact ⟨cap, ⟨hx, hc, hentry, hle'⟩, hle⟩
  · rintro ⟨cap, he, hle⟩
    exact ⟨he.underCap, he.compatible, ⟨cap, he.entry, hle⟩, cap, he.entry, he.memory⟩

/-- A workload that passes the second pass, with its victims. -/
theorem admitWithPreemption_iff (hw : w.fields.Ok) {r : QueuedWorkload × List RunningWorkload} :
    admitWithPreemption inputs w = some r
      ↔ r.1 = w ∧ ∃ cap, Eligible inputs w cap ∧ cap.freeDevices < w.gpuCount
        ∧ widen (w.gpuCount - cap.freeDevices) []
          (candidatesOn w.profile inputs.runningWorkloads) = some r.2 := by
  have hp : w.profile ≠ "" := ne_empty_of_trim hw.profile
  have hvic := victims_ok_iff inputs.runningWorkloads r.2 inputs.fleetFreeCapacity
    hw.gpuCount hw.gpuMemoryMiB hp
  rw [admitWithPreemption, admitWithPreemptionWith_iff, ← exceedsTenantGPUCap, usageWith_id,
    ← selectPreemptionVictimsGreedyMinimal]
  constructor
  · rintro ⟨hx, hc, hv, hnil, hr⟩
    obtain ⟨-, cap, hentry, hlt, hle, hwid⟩ := hvic.mp ⟨hv, hnil⟩
    exact ⟨hr, cap, ⟨hx, hc, hentry, hle⟩, hlt, hwid⟩
  · rintro ⟨hr, cap, he, hlt, hwid⟩
    obtain ⟨hv, hnil⟩ := hvic.mpr ⟨he.compatible, cap, he.entry, hlt, he.memory, hwid⟩
    exact ⟨he.underCap, he.compatible, hv, hnil, hr⟩

/-- The second pass has victims for some workload exactly when the devices held on its
    profile cover the shortfall. -/
theorem exists_admitWithPreemption_iff (hv : Valid inputs) (hw : w.fields.Ok) :
    (admitWithPreemption inputs w).isSome = true
      ↔ ∃ cap, Eligible inputs w cap ∧ cap.freeDevices < w.gpuCount
        ∧ w.gpuCount ≤ cap.freeDevices + held w.profile inputs.runningWorkloads := by
  have hpos : ∀ r ∈ inputs.runningWorkloads, 0 ≤ r.gpuCount :=
    fun r hr => le_of_lt (hv.running r hr).gpuCount
  rw [Option.isSome_iff_exists]
  constructor
  · rintro ⟨r, hr⟩
    obtain ⟨-, cap, he, hlt, hwid⟩ := (admitWithPreemption_iff hw).mp hr
    have := (widen_exists_iff w.profile (by omega) hpos).mp ⟨r.2, hwid⟩
    refine ⟨cap, he, hlt, ?_⟩
    rw [held]
    omega
  · rintro ⟨cap, he, hlt, hle⟩
    rw [held] at hle
    have hneed : 0 < w.gpuCount - cap.freeDevices := by omega
    obtain ⟨vs, hvs⟩ := (widen_exists_iff w.profile hneed hpos).mpr (by omega)
    exact ⟨(w, vs), (admitWithPreemption_iff hw).mpr ⟨rfl, cap, he, hlt, hvs⟩⟩

/-- A workload is admissible exactly when one of the passes takes it. -/
theorem admissible_iff (hv : Valid inputs) (hw : w ∈ inputs.queuedWorkloads) :
    Admissible inputs w
      ↔ fitsWithoutPreemption inputs w = true
        ∨ (admitWithPreemption inputs w).isSome = true := by
  have hok := hv.queued w hw
  have hheld : 0 ≤ held w.profile inputs.runningWorkloads :=
    gpuSum_nonneg (fun r hr =>
      le_of_lt (hv.running r (List.mem_of_mem_filter hr)).gpuCount)
  rw [fitsWithoutPreemption_iff hok, exists_admitWithPreemption_iff hv hok]
  constructor
  · rintro ⟨cap, he, hle⟩
    by_cases hfit : w.gpuCount ≤ cap.freeDevices
    · exact Or.inl ⟨cap, he, hfit⟩
    · exact Or.inr ⟨cap, he, not_le.mp hfit, hle⟩
  · rintro (⟨cap, he, hle⟩ | ⟨cap, he, -, hle⟩)
    · exact ⟨cap, he, by omega⟩
    · exact ⟨cap, he, hle⟩

end

/-! ## The outcomes of the selection -/

/-- What `SelectOneForAdmission` does, one case per outcome. -/
inductive Outcome (inputs : SchedulingInputs) : Selection → Prop where
  /-- The first workload of the fair order that fits. -/
  | fits (w : QueuedWorkload) (cap : ProfileFreeCapacity) (sel : Selection)
      (mem : w ∈ inputs.queuedWorkloads) (eligible : Eligible inputs w cap)
      (count : w.gpuCount ≤ cap.freeDevices)
      (first : (fairOrder inputs.queuedWorkloads inputs.tenantQuotas).find?
        (fitsWithoutPreemption inputs) = some w)
      (id : sel.selectedID = w.workloadID) (victims : sel.victims = []) : Outcome inputs sel
  /-- Nothing fits: the first workload of the fair order that preemption admits. -/
  | preempts (w : QueuedWorkload) (cap : ProfileFreeCapacity) (sel : Selection)
      (mem : w ∈ inputs.queuedWorkloads) (eligible : Eligible inputs w cap)
      (short : cap.freeDevices < w.gpuCount)
      (picked : widen (w.gpuCount - cap.freeDevices) []
        (candidatesOn w.profile inputs.runningWorkloads) = some sel.victims)
      (noFit : ∀ q ∈ inputs.queuedWorkloads, fitsWithoutPreemption inputs q = false)
      (first : (fairOrder inputs.queuedWorkloads inputs.tenantQuotas).find?
        (fun q => (admitWithPreemption inputs q).isSome) = some w)
      (id : sel.selectedID = w.workloadID) : Outcome inputs sel
  /-- No queued workload is admissible. -/
  | nothing (sel : Selection)
      (none : ∀ q ∈ inputs.queuedWorkloads, ¬ Admissible inputs q)
      (id : sel.selectedID = "") (victims : sel.victims = []) : Outcome inputs sel

/-- A search with a partial function depends on its values on the list. -/
theorem findSome?_congr {α β : Type} {f g : α → Option β} {l : List α}
    (h : ∀ a ∈ l, f a = g a) : l.findSome? f = l.findSome? g := by
  induction l with
  | nil => rfl
  | cons a l ih =>
      rw [List.findSome?_cons, List.findSome?_cons, h a (List.mem_cons_self ..),
        ih (fun b hb => h b (List.mem_cons_of_mem _ hb))]

/-- The first success of a partial function is a success at the first element of its
    domain. -/
private theorem find?_of_findSome? {α β : Type} {f : α → Option (α × β)}
    (hf : ∀ a r, f a = some r → r.1 = a) {l : List α} {r : α × β}
    (h : l.findSome? f = some r) :
    l.find? (fun a => (f a).isSome) = some r.1 ∧ f r.1 = some r := by
  induction l with
  | nil => cases h
  | cons a l ih =>
      rw [List.findSome?_cons] at h
      cases hfa : f a with
      | none =>
          rw [hfa] at h
          obtain ⟨h1, h2⟩ := ih h
          exact ⟨by rw [List.find?_cons, hfa]; exact h1, h2⟩
      | some r' =>
          rw [hfa] at h
          have hr := Option.some.inj h
          subst hr
          rw [hf a r' hfa, List.find?_cons, hfa]
          exact ⟨rfl, rfl⟩

/-- **THE SELECTION, CASE BY CASE**. -/
theorem selection_cases {inputs : SchedulingInputs} (hv : Valid inputs) :
    Outcome inputs (selectOneForAdmission inputs) := by
  have hmem : ∀ q, q ∈ fairOrder inputs.queuedWorkloads inputs.tenantQuotas
      ↔ q ∈ inputs.queuedWorkloads := fun q => mem_fairOrder
  have hok : ∀ q ∈ fairOrder inputs.queuedWorkloads inputs.tenantQuotas, q.fields.Ok :=
    fun q hq => hv.queued q ((hmem q).mp hq)
  rw [selectOneForAdmission, selectOneForAdmissionWith, ← fitsWithoutPreemption,
    ← admitWithPreemption, ← exceedsTenantGPUCap, usageWith_id]
  cases hfirst : (fairOrder inputs.queuedWorkloads inputs.tenantQuotas).find?
      (fitsWithoutPreemption inputs) with
  | some w =>
      have hw := List.mem_of_find?_eq_some hfirst
      obtain ⟨cap, he, hle⟩ :=
        (fitsWithoutPreemption_iff (hok w hw)).mp (List.find?_some hfirst)
      exact .fits w cap _ ((hmem w).mp hw) he hle hfirst rfl rfl
  | none =>
    have hnofit : ∀ q ∈ inputs.queuedWorkloads, fitsWithoutPreemption inputs q = false := by
      intro q hq
      exact Bool.eq_false_iff.mpr (List.find?_eq_none.mp hfirst q ((hmem q).mpr hq))
    cases hsecond : (fairOrder inputs.queuedWorkloads inputs.tenantQuotas).findSome?
        (admitWithPreemption inputs) with
    | some r =>
        obtain ⟨w, victims⟩ := r
        have hfst : ∀ a r, admitWithPreemption inputs a = some r → r.1 = a :=
          fun a r h => (admitWithPreemptionWith_iff.mp h).2.2.2.2
        obtain ⟨hfind, hadm⟩ := find?_of_findSome? hfst hsecond
        have hw := List.mem_of_find?_eq_some hfind
        obtain ⟨-, cap, he, hlt, hwid⟩ := (admitWithPreemption_iff (hok w hw)).mp hadm
        exact .preempts w cap _ ((hmem w).mp hw) he hlt hwid hnofit hfind rfl
    | none =>
        have hnone : ∀ q ∈ inputs.queuedWorkloads, ¬ Admissible inputs q := by
          intro q hq hadm
          rcases (admissible_iff hv hq).mp hadm with h | h
          · rw [hnofit q hq] at h
            cases h
          · rw [List.findSome?_eq_none_iff.mp hsecond q ((hmem q).mpr hq)] at h
            cases h
        simp only
        split_ifs
        · exact .nothing _ hnone rfl rfl
        · exact .nothing _ hnone rfl rfl
        · exact .nothing _ hnone rfl rfl

/-- **NOTHING SELECTED** exactly when nothing is admissible. -/
theorem selectedID_eq_empty_iff {inputs : SchedulingInputs} (hv : Valid inputs) :
    (selectOneForAdmission inputs).selectedID = ""
      ↔ ∀ w ∈ inputs.queuedWorkloads, ¬ Admissible inputs w := by
  have hid : ∀ w ∈ inputs.queuedWorkloads, w.workloadID ≠ "" :=
    fun w hw => ne_empty_of_trim (hv.queued w hw).workloadID
  cases selection_cases hv with
  | fits w cap _ mem eligible count first id victims =>
      refine ⟨fun h => absurd (id.symm.trans h) (hid w mem), fun h => ?_⟩
      refine absurd ((admissible_iff hv mem).mpr (Or.inl ?_)) (h w mem)
      exact List.find?_some first
  | preempts w cap _ mem eligible short picked noFit first id =>
      refine ⟨fun h => absurd (id.symm.trans h) (hid w mem), fun h => ?_⟩
      refine absurd ((admissible_iff hv mem).mpr (Or.inr ?_)) (h w mem)
      exact List.find?_some (p := fun q => (admitWithPreemption inputs q).isSome) first
  | nothing _ none id victims => exact ⟨fun _ => none, fun _ => id⟩

/-- The victims of a selection on valid inputs: running workloads of the selected
    profile, each once, which together with the free devices cover the workload. -/
theorem selection_victims {inputs : SchedulingInputs} (hv : Valid inputs)
    (hsel : (selectOneForAdmission inputs).selectedID ≠ "") :
    ∃ w cap, w ∈ inputs.queuedWorkloads
      ∧ (selectOneForAdmission inputs).selectedID = w.workloadID ∧ Eligible inputs w cap
      ∧ w.gpuCount ≤ cap.freeDevices + gpuSum (selectOneForAdmission inputs).victims
      ∧ (∀ v ∈ (selectOneForAdmission inputs).victims,
        v ∈ inputs.runningWorkloads ∧ v.profile = w.profile)
      ∧ ((selectOneForAdmission inputs).victims.map RunningWorkload.workloadID).Nodup := by
  cases selection_cases hv with
  | fits w cap _ mem eligible count first id victims =>
      refine ⟨w, cap, mem, id, eligible, ?_, ?_, ?_⟩
      · rw [victims, gpuSum_nil, Int.add_zero]
        exact count
      · intro v hvv
        rw [victims] at hvv
        cases hvv
      · rw [victims]
        exact List.nodup_nil
  | preempts w cap _ mem eligible short picked noFit first id =>
      obtain ⟨-, hmem, hneed, hsub⟩ := widen_victims picked
      refine ⟨w, cap, mem, id, eligible, by omega, hmem, ?_⟩
      obtain ⟨l, hl, hsl⟩ := hsub
      refine (hl.map RunningWorkload.workloadID).nodup_iff.mp (hv.nodup_running.sublist ?_)
      exact (hsl.trans List.filter_sublist).map _
  | nothing _ none id victims => exact absurd id hsel

end GpuSelection
