import GpuScheduler.BatchDrainProofs
import GpuScheduler.RoundRobinProofs

/-! # The order in which a cycle admits

    A cycle recomputes the fair order for every admission, on a queue that has lost the
    workload admitted last.  The first workload of the fair order is the first of the
    sorted queue, and taking it away leaves the rest of the sorted queue sorted: when
    everything fits, the admissions follow `OrderQueued` (`batch_order`) and the
    round-robin never gets past its first turn.

    So the admissions follow the one-shot fair order exactly when `OrderQueued` is in
    turn already (`fair_iff`). -/

namespace GpuAdmissionOrder

open GoStrings GoMaps GoSort GpuInputs GpuFairness GpuCompat GpuPreemption GpuSelection
open GpuCycle GpuBatchDrain GpuRoundRobin

variable {σ : Type}

/-- There is room for the whole queue: every workload is compatible, the free devices of
    every profile cover the demand, their memory is the devices' memory, and no cap can be
    exceeded. -/
structure Roomy (inputs : SchedulingInputs) : Prop where
  compatible : ∀ q ∈ inputs.queuedWorkloads,
    compatibleProfileAndKind q inputs.fleetFreeCapacity = .ok ()
  devices : ∀ p, demandOn p inputs.queuedWorkloads ≤ GpuCycle.freeDevicesOf inputs p
  memory : ∀ p cap, inputs.fleetFreeCapacity.entry p = some cap →
    cap.freeMemoryMiB = cap.freeDevices * cap.memoryMiBPerDevice
  caps : ∀ tenant q, inputs.tenantQuotas.lookup tenant = some q → 0 < q.maxGPUs →
    committed inputs tenant + demandOf tenant inputs.queuedWorkloads ≤ q.maxGPUs

/-- What a queued workload needs to be admitted where there is room: an ID that can be
    patched, and devices with enough memory. -/
structure Placeable (inputs : SchedulingInputs) (q : QueuedWorkload) : Prop where
  key : (workloadKey q.workloadID).isSome
  memory : ∀ cap, inputs.fleetFreeCapacity.entry q.profile = some cap →
    q.gpuMemoryMiB ≤ cap.memoryMiBPerDevice

/-! ## Sorted queues -/

theorem nodup_orderQueued {inputs : SchedulingInputs} (hv : Valid inputs) :
    (orderQueued inputs.queuedWorkloads).Nodup :=
  (sliceStable_perm queuedLess _).nodup_iff.mpr (hv.nodup_queued.of_map _)

/-- The first workload of the fair order is the first of the sorted queue. -/
theorem head?_fairOrder {inputs : SchedulingInputs} (hv : Valid inputs) :
    (fairOrder inputs.queuedWorkloads inputs.tenantQuotas).head?
      = (orderQueued inputs.queuedWorkloads).head? := by
  have hnd := nodup_orderQueued hv
  rw [fairOrder]
  cases horder : orderQueued inputs.queuedWorkloads with
  | nil => rfl
  | cons x rest =>
      rw [horder] at hnd
      obtain ⟨rest', hwrr⟩ := head_wrr inputs.tenantQuotas hnd
      rw [hwrr]
      rfl

/-- Without its first workload the queue is sorted as before. -/
theorem orderQueued_filter {queued : List QueuedWorkload}
    (hnd : (queued.map QueuedWorkload.workloadID).Nodup) {w : QueuedWorkload}
    {rest : List QueuedWorkload} (h : orderQueued queued = w :: rest) :
    orderQueued (queued.filter (fun q => q.workloadID ≠ w.workloadID)) = rest := by
  have hperm : (w :: rest).Perm queued := by
    rw [← h]
    exact sliceStable_perm queuedLess queued
  have hids := (hperm.map QueuedWorkload.workloadID).nodup_iff.mpr hnd
  rw [orderQueued, sliceStable_filter queuedLess_strictWeak]
  show (orderQueued queued).filter _ = rest
  rw [h, List.filter_cons_of_neg (by simp), List.filter_eq_self]
  intro q hq
  rw [decide_eq_true_iff]
  intro heq
  exact (List.nodup_cons.mp hids).1 (List.mem_map.mpr ⟨q, hq, heq⟩)

/-- Lists of queued workloads with the same IDs are the same. -/
theorem eq_of_map_ids {inputs : SchedulingInputs} (hv : Valid inputs)
    {l l' : List QueuedWorkload} (hl : ∀ q ∈ l, q ∈ inputs.queuedWorkloads)
    (hl' : ∀ q ∈ l', q ∈ inputs.queuedWorkloads)
    (h : l.map QueuedWorkload.workloadID = l'.map QueuedWorkload.workloadID) : l = l' := by
  have hback : ∀ k : List QueuedWorkload, (∀ q ∈ k, q ∈ inputs.queuedWorkloads) →
      (k.map QueuedWorkload.workloadID).filterMap (queuedWorkloadByID inputs) = k := by
    intro k hk
    rw [List.filterMap_map, List.filterMap_congr (g := some), List.filterMap_some]
    intro q hq
    exact queuedWorkloadByID_of_mem hv.nodup_queued (hk q hq)
  rw [← hback l hl, h, hback l' hl']

/-! ## The admissions of a batch -/

/-- The IDs of all these workloads can be patched. -/
def Patchable (ws : List QueuedWorkload) : Prop :=
  ∀ q ∈ ws, (workloadKey q.workloadID).isSome

/-- With succeeding calls the patch of a selected one succeeds, and the others stay
    patchable. -/
theorem patch_of_patchable {calls : CycleCalls σ} (hcalls : Succeeds calls)
    (ws : List QueuedWorkload) (working : SchedulingInputs) (w : QueuedWorkload)
    (cap : ProfileFreeCapacity) (s : σ) (_ : Valid working) (hws : Patchable ws) (hw : w ∈ ws)
    (_ : Eligible working w cap)
    (hid : (selectOneForAdmission working).selectedID = w.workloadID)
    (_ : (selectOneForAdmission working).victims = []) :
    ∃ s', perform calls (selectOneForAdmission working) s = (s', .admitted)
      ∧ Patchable (ws.filter (fun q => q.workloadID ≠ w.workloadID)) := by
  have hverdict := hcalls.perform (selectOneForAdmission working) s
  rw [hid, if_pos (hws w hw)] at hverdict
  exact ⟨(perform calls (selectOneForAdmission working) s).1, Prod.ext rfl hverdict,
    fun q hq => hws q (List.mem_of_mem_filter hq)⟩

section
variable {calls : CycleCalls σ} (hcalls : Succeeds calls) {now : Int} (hnow : now ≠ 0)
include hcalls hnow

/-- **THE ADMISSIONS FOLLOW `OrderQueued`** in a batch that drains its queue. -/
theorem batch_order (n : Nat) {inputs : SchedulingInputs} (hv : Valid inputs)
    (h : Drains n inputs.queuedWorkloads inputs)
    (hkeys : Patchable inputs.queuedWorkloads) (s : σ) :
    admittedIDs (batch calls now n inputs s).iterations
      = (orderQueued inputs.queuedWorkloads).map QueuedWorkload.workloadID := by
  induction n generalizing inputs s with
  | zero =>
      have hnil : inputs.queuedWorkloads = [] :=
        List.length_eq_zero_iff.mp (Nat.le_zero.mp h.count)
      rw [hnil]
      rfl
  | succ n ih =>
      rw [batch]
      rcases h.turn (K := fun ws _ _ => Patchable ws) (patch_of_patchable hcalls) hv
        hkeys with ⟨hnil, reason, hturn⟩ | ⟨it, working', s', w, cap, hturn, hgo, hd, hkeys'⟩
      · rw [hturn, hnil]
        rfl
      · have hfirst : (orderQueued inputs.queuedWorkloads).head? = some w := by
          rw [← head?_fairOrder hv]
          have hfind := hgo.first
          cases hfair : fairOrder inputs.queuedWorkloads inputs.tenantQuotas with
          | nil =>
              rw [hfair] at hfind
              cases hfind
          | cons x rest =>
              have hx : x ∈ inputs.queuedWorkloads := by
                refine (fairOrder_perm _ inputs.tenantQuotas).mem_iff.mp ?_
                rw [hfair]
                exact List.mem_cons_self ..
              rw [hfair, List.find?_cons_of_pos (h.fits hv hx)] at hfind
              exact hfind
        obtain ⟨rest, horder⟩ := List.head?_eq_some_iff.mp hfirst
        have hqueue : working'.queuedWorkloads
            = inputs.queuedWorkloads.filter (fun q => q.workloadID ≠ w.workloadID) := by
          rw [hgo.eq_afterAdmission]
          rfl
        rw [← hqueue] at hd hkeys'
        rw [hturn]
        show admittedIDs (it :: (batch calls now n working' s').iterations) = _
        rw [admittedIDs, List.filterMap_cons, hgo.admittedID, horder, List.map_cons,
          ← orderQueued_filter hv.nodup_queued horder, ← hqueue]
        exact congrArg (List.cons w.workloadID) (ih (hgo.valid hv hnow) hd hkeys' s')

/-- What a batch admits can be placed. -/
theorem placeable_of_mem (n : Nat) {working : SchedulingInputs} (hv : Valid working) (s : σ)
    {q : QueuedWorkload} (hq : q ∈ working.queuedWorkloads)
    (h : q.workloadID ∈ admittedIDs (batch calls now n working s).iterations) :
    Placeable working q := by
  induction n generalizing working s with
  | zero => cases h
  | succ n ih =>
      -- an iteration that admits has patched the ID of an eligible workload
      have hdecided : ∀ it w cap s' verdict, Decides it w cap → it.working = working →
          perform calls it.selection s = (s', verdict) → verdict = .admitted →
          q.workloadID = w.workloadID → Placeable working q := by
        intro it w cap s' verdict hd hw hp hadm hid
        have hverdict := hcalls.perform it.selection s
        have he := hd.eligible
        have hmem := hd.mem
        rw [hw] at he hmem
        obtain rfl : q = w := List.inj_on_of_nodup_map hv.nodup_queued hq hmem hid
        refine ⟨?_, fun cap' hentry => ?_⟩
        · rw [hp, hadm, hd.id] at hverdict
          by_contra hnone
          rw [if_neg hnone] at hverdict
          cases hverdict
        · obtain rfl := Option.some.inj (he.entry.symm.trans hentry)
          exact he.memory
      rw [batch] at h
      cases ht : turn calls now working s with
      | noCandidate reason =>
          rw [ht] at h
          cases h
      | stop it working' s' =>
          rw [ht] at h
          obtain ⟨hw, ⟨w, cap, hd⟩, hp⟩ := turn_stop hv ht
          rcases hd.admission with ⟨-, hid⟩ | ⟨-, hid⟩
          · rw [admittedIDs, List.filterMap_cons, hid] at h
            have hqw : q.workloadID = w.workloadID := List.mem_singleton.mp h
            have hadm : it.verdict = .admitted := by
              by_contra hne
              rw [Iteration.admittedID, if_neg hne] at hid
              cases hid
            exact hdecided it w cap s' it.verdict hd hw hp hadm hqw
          · rw [admittedIDs, List.filterMap_cons, hid] at h
            cases h
      | next it working' s' =>
          rw [ht] at h
          obtain ⟨hw, w, cap, hd, hgo⟩ := turn_next hv ht
          by_cases hqw : q.workloadID = w.workloadID
          · exact hdecided it w cap s' .admitted hd hw hgo.performed rfl hqw
          · have hrest : q.workloadID
                ∈ admittedIDs (batch calls now n working' s').iterations := by
              have h' : q.workloadID
                  ∈ admittedIDs (it :: (batch calls now n working' s').iterations) := h
              rw [admittedIDs, List.filterMap_cons, hgo.admittedID] at h'
              exact (List.mem_cons.mp h').resolve_left hqw
            have hplace := ih (hgo.valid hv hnow) s' (hgo.mem_queued.mpr ⟨hq, hqw⟩) hrest
            refine ⟨hplace.key, fun cap' hentry => ?_⟩
            -- an admission leaves the memory per device as it is
            have hmem := hplace.memory
            rw [hgo.eq_afterAdmission, entry_afterAdmission] at hmem
            by_cases hp : q.profile = w.profile
            · rw [hp, hgo.eligible.entry] at hentry
              obtain rfl := Option.some.inj hentry
              exact hmem (cap.take w.gpuCount) (if_pos hp)
            · exact hmem cap' (by rw [if_neg hp]; exact hentry)

end

/-- A queue with room, all of it placeable, drains. -/
theorem Roomy.drains {inputs : SchedulingInputs} (hv : Valid inputs) (h : Roomy inputs)
    (hplace : ∀ q ∈ inputs.queuedWorkloads, Placeable inputs q) {n : Nat}
    (hn : inputs.queuedWorkloads.length ≤ n) : Drains n inputs.queuedWorkloads inputs := by
  have hnonneg : ∀ q ∈ inputs.queuedWorkloads, 0 ≤ q.gpuCount :=
    fun q hq => le_of_lt (hv.queued q hq).gpuCount
  have hdevices : ∀ p cap, inputs.fleetFreeCapacity.entry p = some cap →
      demandOn p inputs.queuedWorkloads ≤ cap.freeDevices := by
    intro p cap hentry
    have hle := h.devices p
    rw [GpuCycle.freeDevicesOf, hentry] at hle
    exact hle
  refine ⟨fun q hq => hq, hv.nodup_queued, fun q hq _ => hq, fun q hq => ?_, hn,
    ⟨hdevices, fun p cap hentry => ?_, h.caps⟩⟩
  · have hpos : 0 < q.gpuCount := (hv.queued q hq).gpuCount
    have hdemand : q.gpuCount ≤ demandOn q.profile inputs.queuedWorkloads :=
      le_sumOf_of_mem hq hnonneg
    cases hentry : inputs.fleetFreeCapacity.entry q.profile with
    | none =>
        have hle := h.devices q.profile
        rw [GpuCycle.freeDevicesOf, hentry] at hle
        have hle' : demandOn q.profile inputs.queuedWorkloads ≤ 0 := hle
        omega
    | some cap => exact ⟨cap, h.compatible q hq, rfl, (hplace q hq).memory cap hentry⟩
  · have hok := hv.fleet.profiles ⟨p, cap⟩ (AList.mem_lookup_iff.mp hentry)
    have hle := hdevices p cap hentry
    have h0 : 0 ≤ demandOn p inputs.queuedWorkloads := sumOf_nonneg hnonneg
    rw [h.memory p cap hentry]
    by_cases hfree : 0 < cap.freeDevices
    · exact Int.mul_le_mul_of_nonneg_right hle (le_of_lt (hok.memoryMiBPerDevice hfree))
    · have hz : demandOn p inputs.queuedWorkloads = cap.freeDevices := by omega
      rw [hz]

/-- **FAIRNESS AND THE ADMISSIONS**: where there is room for the whole queue, a cycle whose
    calls succeed admits in the order of the one-shot round-robin exactly when every
    workload can be placed and `OrderQueued` is in turn already. -/
theorem fair_iff {calls : CycleCalls σ} (hcalls : Succeeds calls) {now : Int} (hnow : now ≠ 0)
    {inputs : SchedulingInputs} (hvalid : validate inputs = .ok ()) (hroomy : Roomy inputs)
    {maxAdmissionsPerCycle : Int}
    (hmax : (inputs.queuedWorkloads.length : Int) ≤ maxAdmissionsPerCycle) (s : σ) :
    admittedIDs (batch calls now (maxAdmissions maxAdmissionsPerCycle) inputs s).iterations
        = (weightedRoundRobinByTenant (orderQueued inputs.queuedWorkloads)
            inputs.tenantQuotas).map QueuedWorkload.workloadID
      ↔ (∀ q ∈ inputs.queuedWorkloads, Placeable inputs q)
        ∧ InTurn inputs.tenantQuotas (orderQueued inputs.queuedWorkloads) := by
  have hv : Valid inputs := validate_ok_iff.mp hvalid
  have hn : inputs.queuedWorkloads.length ≤ maxAdmissions maxAdmissionsPerCycle := by
    rw [maxAdmissions]
    split_ifs <;> omega
  have hmem : ∀ q, q ∈ orderQueued inputs.queuedWorkloads ↔ q ∈ inputs.queuedWorkloads :=
    fun q => mem_sliceStable
  have hmem' : ∀ q, q ∈ weightedRoundRobinByTenant (orderQueued inputs.queuedWorkloads)
      inputs.tenantQuotas ↔ q ∈ inputs.queuedWorkloads := fun q => mem_fairOrder
  rw [← wrr_eq_self_iff inputs.tenantQuotas (nodup_orderQueued hv)]
  constructor
  · intro heq
    have hplace : ∀ q ∈ inputs.queuedWorkloads, Placeable inputs q := by
      intro q hq
      refine placeable_of_mem hcalls hnow (maxAdmissions maxAdmissionsPerCycle) hv s hq ?_
      rw [heq]
      exact List.mem_map_of_mem ((hmem' q).mpr hq)
    refine ⟨hplace, ?_⟩
    rw [batch_order hcalls hnow _ hv (hroomy.drains hv hplace hn)
      (fun q hq => (hplace q hq).key)] at heq
    exact (eq_of_map_ids hv (fun q => (hmem q).mp) (fun q => (hmem' q).mp) heq).symm
  · rintro ⟨hplace, hturn⟩
    rw [batch_order hcalls hnow _ hv (hroomy.drains hv hplace hn)
      (fun q hq => (hplace q hq).key), hturn]

/-! ## Two queues -/

/-- One workload of a tenant, as the examples below use it. -/
private def one (id tenant : String) (queuedAt : Int) : QueuedWorkload :=
  ⟨id, tenant, 1, queuedAt, 1, 40, "h100_sxm", 5, .training⟩

/-- Three free devices, no cap, and the given queue. -/
private def threeFree (queued : List QueuedWorkload) : SchedulingInputs where
  queuedWorkloads := queued
  scheduledWorkloads := []
  runningWorkloads := []
  fleetFreeCapacity :=
    ⟨3, 240, some ((∅ : GoMap String ProfileFreeCapacity).insert "h100_sxm" ⟨3, 240, 80⟩)⟩
  tenantQuotas := ∅

/-- The first tenant arrives twice before the second arrives. -/
def firstTenantTwice : SchedulingInputs :=
  threeFree [one "ns/a1" "a" 1, one "ns/a2" "a" 2, one "ns/b1" "b" 3]

/-- The tenants arrive alternately. -/
def alternating : SchedulingInputs :=
  threeFree [one "ns/a1" "a" 1, one "ns/b1" "b" 2, one "ns/a2" "a" 3]

private theorem entry_threeFree {queued : List QueuedWorkload} {p : String}
    {cap : ProfileFreeCapacity}
    (h : (threeFree queued).fleetFreeCapacity.entry p = some cap) :
    p = "h100_sxm" ∧ cap = ⟨3, 240, 80⟩ := by
  have hmem : (⟨p, cap⟩ : Sigma fun _ : String => ProfileFreeCapacity)
      ∈ [⟨"h100_sxm", ⟨3, 240, 80⟩⟩] := AList.mem_lookup_iff.mp h
  have heq := List.mem_singleton.mp hmem
  exact ⟨congrArg Sigma.fst heq, eq_of_heq (Sigma.mk.inj heq).2⟩

private theorem roomy_threeFree {queued : List QueuedWorkload}
    (hcompat : ∀ q ∈ queued, compatibleProfileAndKind q (threeFree queued).fleetFreeCapacity
      = .ok ())
    (hprofile : ∀ q ∈ queued, q.profile = "h100_sxm")
    (hdemand : demandOn "h100_sxm" queued ≤ 3) : Roomy (threeFree queued) := by
  refine ⟨hcompat, fun p => ?_, fun p cap hentry => ?_, fun tenant q hq => by cases hq⟩
  · by_cases hp : p = "h100_sxm"
    · rw [hp]
      exact hdemand
    · have hzero : demandOn p queued = 0 :=
        sumOf_eq_zero (fun q hq heq => hp (heq.symm.trans (hprofile q hq)))
      have hnone : (threeFree queued).fleetFreeCapacity.entry p = none := by
        rw [Option.eq_none_iff_forall_ne_some]
        intro cap hentry
        exact hp (entry_threeFree hentry).1
      show demandOn p queued ≤ _
      rw [hzero, GpuCycle.freeDevicesOf, hnone]
  · rw [(entry_threeFree hentry).2]
    rfl

private theorem placeable_threeFree {queued : List QueuedWorkload} {q : QueuedWorkload}
    (hkey : (workloadKey q.workloadID).isSome) (hmem : q.gpuMemoryMiB ≤ 80) :
    Placeable (threeFree queued) q := by
  refine ⟨hkey, fun cap hentry => ?_⟩
  rw [(entry_threeFree hentry).2]
  exact hmem

/-- The cycle admits both workloads of the first tenant before the second tenant. -/
theorem firstTenantTwice_unfair :
    ¬ ∀ (calls : CycleCalls Unit) (now : Int) (inputs : SchedulingInputs)
        (maxAdmissionsPerCycle : Int),
      Succeeds calls → now ≠ 0 → validate inputs = .ok () → Roomy inputs →
      (inputs.queuedWorkloads.length : Int) ≤ maxAdmissionsPerCycle →
      admittedIDs (batch calls now (maxAdmissions maxAdmissionsPerCycle) inputs ()).iterations
        = (weightedRoundRobinByTenant (orderQueued inputs.queuedWorkloads)
            inputs.tenantQuotas).map QueuedWorkload.workloadID := by
  intro hall
  have h := hall succeeding 7 firstTenantTwice 3 succeeds_succeeding (by decide) rfl
    (roomy_threeFree (by decide +kernel) (by decide +kernel) (by decide +kernel))
    (by decide +kernel)
  revert h
  decide +kernel

/-- With alternating arrivals the cycle is fair. -/
theorem alternating_fair :
    admittedIDs (batch succeeding 7 (maxAdmissions 3) alternating ()).iterations
      = (weightedRoundRobinByTenant (orderQueued alternating.queuedWorkloads)
          alternating.tenantQuotas).map QueuedWorkload.workloadID := by
  refine (fair_iff succeeds_succeeding (by decide) rfl
    (roomy_threeFree (by decide +kernel) (by decide +kernel) (by decide +kernel))
    (by decide +kernel) ()).mpr ⟨fun q hq => ?_, by decide +kernel⟩
  refine placeable_threeFree ?_ ?_
  · revert q
    decide +kernel
  · revert q
    decide +kernel

end GpuAdmissionOrder
