import GpuScheduler.CycleProofs

/-! # Batches that admit everything admissible

    When the admissible workloads of a queue fit the free capacity and the tenant caps
    all together, and there are no more of them than a cycle may admit, a batch whose
    calls succeed admits every one of them: each turn finds a workload that fits, and
    admitting it leaves the rest fitting together (`batch_drains`).

    Admitting a workload moves devices from the free ones to the held ones of its
    profile, so it makes no other workload admissible (`admissible_of_goesOn`). -/

namespace GpuBatchDrain

open GoStrings GoMaps GpuInputs GpuFairness GpuCompat GpuPreemption GpuSelection GpuCycle

variable {σ : Type}

section
variable {calls : CycleCalls σ} {now : Int} {working working' : SchedulingInputs} {s s' : σ}
  {it : Iteration} {w : QueuedWorkload} {cap : ProfileFreeCapacity}

theorem held_append_singleton (p : String) (running : List RunningWorkload)
    (r : RunningWorkload) :
    held p (running ++ [r]) = held p running + if r.profile = p then r.gpuCount else 0 := by
  rw [held, held, List.filter_append, gpuSum, List.map_append, List.sum_append]
  by_cases hp : r.profile = p
  · simp [hp, gpuSum]
  · simp [hp, gpuSum]

/-- An admission keeps the keys of the capacity map. -/
theorem inSnapshot_afterAdmission (now : Int)
    (hentry : working.fleetFreeCapacity.entry w.profile = some cap) (p : String) :
    inSnapshot (working.afterAdmission w cap now).fleetFreeCapacity p
      = inSnapshot working.fleetFreeCapacity p := by
  have hafter : inSnapshot (working.afterAdmission w cap now).fleetFreeCapacity p
      = (((working.fleetFreeCapacity.byProfile.getD ∅).insert w.profile
        (cap.take w.gpuCount)).lookup p).isSome := rfl
  rw [hafter, inSnapshot]
  cases hm : working.fleetFreeCapacity.byProfile with
  | none =>
      rw [FleetFreeCapacity.entry, hm] at hentry
      cases hentry
  | some m =>
      rw [FleetFreeCapacity.entry, hm] at hentry
      by_cases hp : p = w.profile
      · subst hp
        have hm' : m.lookup w.profile = some cap := hentry
        rw [AList.lookup_insert]
        simp only [hm', Option.isSome_some]
      · rw [AList.lookup_insert_ne hp]
        rfl

/-- Compatibility does not read the amounts of the capacity map. -/
theorem compatible_afterAdmission (now : Int)
    (hentry : working.fleetFreeCapacity.entry w.profile = some cap) (q : QueuedWorkload) :
    compatibleProfileAndKind q (working.afterAdmission w cap now).fleetFreeCapacity
      = compatibleProfileAndKind q working.fleetFreeCapacity := by
  rw [compatibleProfileAndKind, compatibleProfileAndKind,
    inSnapshot_afterAdmission now hentry]

/-- **ADMITTING MAKES NOTHING ADMISSIBLE**: what it takes from the free devices of its
    profile it adds to the held ones. -/
theorem admissible_of_goesOn (h : GoesOn calls now working s it working' s' w cap)
    (hv : Valid working) {q : QueuedWorkload} (hq : Admissible working' q) :
    Admissible working q := by
  have hpos : 0 < w.gpuCount := (hv.queued w h.mem).gpuCount
  rw [admissible_iff_given] at hq ⊢
  obtain ⟨hcap, hcompat, cap', hentry, hmem, hle⟩ := hq
  have hcommit : committed working q.tenant ≤ committed working' q.tenant := by
    rw [h.committed]
    split_ifs <;> omega
  refine ⟨overCap_mono (by rw [h.tenantQuotas] at hcap; exact hcap) hcommit, ?_, ?_⟩
  · rw [h.eq_afterAdmission, compatible_afterAdmission now h.eligible.entry] at hcompat
    exact hcompat
  · rw [h.eq_afterAdmission] at hentry hle
    rw [entry_afterAdmission] at hentry
    have hheld : held q.profile (working.afterAdmission w cap now).runningWorkloads
        = held q.profile working.runningWorkloads
          + if w.profile = q.profile then w.gpuCount else 0 :=
      held_append_singleton q.profile working.runningWorkloads (w.asRunning now)
    rw [hheld] at hle
    by_cases hp : q.profile = w.profile
    · rw [if_pos hp] at hentry
      obtain rfl := Option.some.inj hentry
      rw [if_pos hp.symm] at hle
      refine ⟨cap, by rw [hp]; exact h.eligible.entry, hmem, ?_⟩
      have htake : (cap.take w.gpuCount).freeDevices = cap.freeDevices - w.gpuCount := rfl
      omega
    · rw [if_neg hp] at hentry
      rw [if_neg (fun e => hp e.symm), Int.add_zero] at hle
      exact ⟨cap', hentry, hmem, hle⟩

end

/-! ## Fitting together -/

/-- The GPUs a list of workloads asks for on a profile. -/
def demandOn (p : String) (ws : List QueuedWorkload) : Int :=
  sumOf QueuedWorkload.profile QueuedWorkload.gpuCount p ws

/-- The GPUs a list of workloads asks for in the name of a tenant. -/
def demandOf (tenant : String) (ws : List QueuedWorkload) : Int :=
  sumOf QueuedWorkload.tenant QueuedWorkload.gpuCount tenant ws

/-- The workloads fit the free devices, their memory, and the caps all together. -/
structure FitTogether (inputs : SchedulingInputs) (ws : List QueuedWorkload) : Prop where
  devices : ∀ p cap, inputs.fleetFreeCapacity.entry p = some cap →
    demandOn p ws ≤ cap.freeDevices
  memory : ∀ p cap, inputs.fleetFreeCapacity.entry p = some cap →
    demandOn p ws * cap.memoryMiBPerDevice ≤ cap.freeMemoryMiB
  caps : ∀ tenant q, inputs.tenantQuotas.lookup tenant = some q → 0 < q.maxGPUs →
    committed inputs tenant + demandOf tenant ws ≤ q.maxGPUs

instance (inputs : SchedulingInputs) (ws : List QueuedWorkload) :
    Decidable (FitTogether inputs ws) :=
  decidable_of_iff
    ((∀ e ∈ (inputs.fleetFreeCapacity.byProfile.getD ∅).entries,
        demandOn e.1 ws ≤ e.2.freeDevices
          ∧ demandOn e.1 ws * e.2.memoryMiBPerDevice ≤ e.2.freeMemoryMiB)
      ∧ ∀ e ∈ inputs.tenantQuotas.entries, 0 < e.2.maxGPUs →
        committed inputs e.1 + demandOf e.1 ws ≤ e.2.maxGPUs)
    ⟨fun h => ⟨fun p cap hentry => (h.1 ⟨p, cap⟩ (AList.mem_lookup_iff.mp hentry)).1,
        fun p cap hentry => (h.1 ⟨p, cap⟩ (AList.mem_lookup_iff.mp hentry)).2,
        fun t q hq => h.2 ⟨t, q⟩ (AList.mem_lookup_iff.mp hq)⟩,
      fun h => ⟨fun e he => ⟨h.devices e.1 e.2 (AList.mem_lookup_iff.mpr he),
          h.memory e.1 e.2 (AList.mem_lookup_iff.mpr he)⟩,
        fun e he => h.caps e.1 e.2 (AList.mem_lookup_iff.mpr he)⟩⟩

/-- A working copy whose admissible workloads are among `ws`, which fit together and are
    at most `n`. -/
structure Drains (n : Nat) (ws : List QueuedWorkload) (working : SchedulingInputs) :
    Prop where
  queued : ∀ q ∈ ws, q ∈ working.queuedWorkloads
  distinct : (ws.map QueuedWorkload.workloadID).Nodup
  only : ∀ q ∈ working.queuedWorkloads, Admissible working q → q ∈ ws
  fitting : ∀ q ∈ ws, ∃ cap, compatibleProfileAndKind q working.fleetFreeCapacity = .ok ()
    ∧ working.fleetFreeCapacity.entry q.profile = some cap
    ∧ q.gpuMemoryMiB ≤ cap.memoryMiBPerDevice
  count : ws.length ≤ n
  together : FitTogether working ws

section
variable {n : Nat} {ws : List QueuedWorkload} {working : SchedulingInputs}

private theorem gpuCount_nonneg (hv : Valid working) (h : Drains n ws working) :
    ∀ q ∈ ws, 0 ≤ q.gpuCount :=
  fun q hq => le_of_lt (hv.queued q (h.queued q hq)).gpuCount

/-- Every one of them fits as things stand. -/
theorem Drains.fits (hv : Valid working) (h : Drains n ws working) {q : QueuedWorkload}
    (hq : q ∈ ws) : fitsWithoutPreemption working q = true := by
  obtain ⟨cap, hcompat, hentry, hmem⟩ := h.fitting q hq
  have hnonneg := gpuCount_nonneg hv h
  have hdemand : q.gpuCount ≤ demandOn q.profile ws := le_sumOf_of_mem hq hnonneg
  have htenant : q.gpuCount ≤ demandOf q.tenant ws := le_sumOf_of_mem hq hnonneg
  have hdevices := h.together.devices q.profile cap hentry
  refine (fitsWithoutPreemption_iff (hv.queued q (h.queued q hq))).mpr
    ⟨cap, ⟨?_, hcompat, hentry, hmem⟩, by omega⟩
  rw [SchedulingInputs.usage, exceedsTenantGPUCap_eq]
  refine overCap_eq_false (fun quota hquota => ?_)
  have hok := hv.quotas ⟨q.tenant, quota⟩ (AList.mem_lookup_iff.mp hquota)
  refine ⟨hok.maxGPUs, fun hpos => ?_⟩
  have hcaps := h.together.caps q.tenant quota hquota hpos
  rw [committed] at hcaps
  omega

/-- While any is left, the selection takes one of them, without victims; when none is
    left, it takes nothing. -/
theorem Drains.selection (hv : Valid working) (h : Drains n ws working) :
    (ws = [] ∧ (selectOneForAdmission working).selectedID = "")
      ∨ ∃ w cap, w ∈ ws ∧ Eligible working w cap ∧ w.gpuCount ≤ cap.freeDevices
        ∧ (selectOneForAdmission working).selectedID = w.workloadID
        ∧ (selectOneForAdmission working).victims = [] := by
  have hheld : ∀ q : QueuedWorkload, 0 ≤ held q.profile working.runningWorkloads :=
    fun q => gpuSum_nonneg (fun r hr =>
      le_of_lt (hv.running r (List.mem_of_mem_filter hr)).gpuCount)
  cases selection_cases hv with
  | fits w cap _ mem eligible count first id victims =>
      have hadm : Admissible working w := ⟨cap, eligible, by have := hheld w; omega⟩
      exact Or.inr ⟨w, cap, h.only w mem hadm, eligible, count, id, victims⟩
  | preempts w cap _ mem eligible short picked noFit first id =>
      -- the workload that preempts is admissible, so it is one of them, so it fits
      obtain ⟨hw, hadm⟩ := List.find?_eq_some_iff_append.mp first
      have hmem : w ∈ ws := h.only w mem ((admissible_iff hv mem).mpr (Or.inr hw))
      have hfits := h.fits hv hmem
      rw [noFit w mem] at hfits
      cases hfits
  | nothing _ none id victims =>
      refine Or.inl ⟨?_, id⟩
      cases ws with
      | nil => rfl
      | cons q rest =>
          have hq : q ∈ q :: rest := List.mem_cons_self ..
          have hmem := h.queued q hq
          exact absurd ((admissible_iff hv hmem).mpr (Or.inl (h.fits hv hq))) (none q hmem)

/-- A batch with none of them admits nothing. -/
theorem Drains.batch_nil (hv : Valid working) (h : Drains n [] working)
    (calls : CycleCalls σ) (now : Int) (s : σ) :
    admittedIDs (batch calls now n working s).iterations = [] := by
  rcases h.selection hv with ⟨-, hid⟩ | ⟨w, cap, hw, -⟩
  · cases n with
    | zero => rfl
    | succ n =>
        have hturn : turn calls now working s
            = .noCandidate (selectOneForAdmission working).noAdmissionReason := by
          rw [turn]
          exact if_pos hid
        rw [batch, hturn]
        rfl
  · cases hw

/-- The devices and the memory of one of them can be taken out of the copy. -/
theorem Drains.virtualAdmission (hv : Valid working) (h : Drains n ws working)
    {w : QueuedWorkload} {cap : ProfileFreeCapacity} (hw : w ∈ ws)
    (he : Eligible working w cap) (hle : w.gpuCount ≤ cap.freeDevices) (now : Int) :
    ∃ working', applyVirtualAdmission working w now = .ok working' := by
  have hpos : 0 < w.gpuCount := (hv.queued w (h.queued w hw)).gpuCount
  have hprofile := hv.fleet.profiles ⟨w.profile, cap⟩ (AList.mem_lookup_iff.mp he.entry)
  have hfree : 0 < cap.freeDevices := by omega
  have hm : 0 < cap.memoryMiBPerDevice := hprofile.memoryMiBPerDevice hfree
  have hdemand : w.gpuCount ≤ demandOn w.profile ws :=
    le_sumOf_of_mem hw (gpuCount_nonneg hv h)
  have hmemory := h.together.memory w.profile cap he.entry
  have hmono : w.gpuCount * cap.memoryMiBPerDevice
      ≤ demandOn w.profile ws * cap.memoryMiBPerDevice :=
    Int.mul_le_mul_of_nonneg_right hdemand (le_of_lt hm)
  exact ⟨_, applyVirtualAdmission_ok_iff.mpr ⟨cap, he.entry, hle, by omega, rfl⟩⟩

/-- One of a list with distinct IDs, and the others. -/
theorem perm_cons_filter {w : QueuedWorkload} (hw : w ∈ ws)
    (hnd : (ws.map QueuedWorkload.workloadID).Nodup) :
    ws.Perm (w :: ws.filter (fun q => q.workloadID ≠ w.workloadID)) := by
  have hone : ws.filter (fun q => q.workloadID = w.workloadID) = [w] := by
    refine List.perm_singleton.mp ((List.perm_ext_iff_of_nodup
      ((hnd.of_map _).filter _) (List.nodup_singleton w)).mpr (fun q => ?_))
    rw [List.mem_filter, List.mem_singleton]
    constructor
    · rintro ⟨hq, hid⟩
      exact List.inj_on_of_nodup_map hnd hq hw (of_decide_eq_true hid)
    · rintro rfl
      exact ⟨hw, decide_eq_true rfl⟩
  have hperm := List.filter_append_perm (fun q => q.workloadID = w.workloadID) ws
  rw [hone] at hperm
  simpa using hperm.symm

variable {calls : CycleCalls σ} {now : Int} {working' : SchedulingInputs} {s s' : σ}
  {it : Iteration} {w : QueuedWorkload} {cap : ProfileFreeCapacity}

/-- A profile after an admission, with the demand on it: less of both on the profile of the
    admitted workload, the same on every other. -/
theorem demand_cases (hgo : GoesOn calls now working s it working' s' w cap)
    (rest : List QueuedWorkload) {p : String} {cap' : ProfileFreeCapacity}
    (hentry : working'.fleetFreeCapacity.entry p = some cap') :
    (working.fleetFreeCapacity.entry p = some cap ∧ cap' = cap.take w.gpuCount
        ∧ demandOn p (w :: rest) = w.gpuCount + demandOn p rest)
      ∨ (working.fleetFreeCapacity.entry p = some cap'
        ∧ demandOn p (w :: rest) = demandOn p rest) := by
  have hd : demandOn p (w :: rest)
      = (if w.profile = p then w.gpuCount else 0) + demandOn p rest := sumOf_cons _ _ p w rest
  rw [hgo.eq_afterAdmission, entry_afterAdmission] at hentry
  by_cases hp : p = w.profile
  · rw [if_pos hp] at hentry
    rw [if_pos hp.symm] at hd
    exact Or.inl ⟨by rw [hp]; exact hgo.eligible.entry, (Option.some.inj hentry).symm, hd⟩
  · rw [if_neg hp] at hentry
    rw [if_neg (fun e => hp e.symm), Int.zero_add] at hd
    exact Or.inr ⟨hentry, hd⟩

/-- What one admission leaves of a set that fits together still does. -/
theorem FitTogether.goesOn (hgo : GoesOn calls now working s it working' s' w cap)
    {rest : List QueuedWorkload} (h : FitTogether working (w :: rest)) :
    FitTogether working' rest := by
  have hof : ∀ t, demandOf t (w :: rest)
      = (if w.tenant = t then w.gpuCount else 0) + demandOf t rest :=
    fun t => sumOf_cons _ _ t w rest
  refine ⟨fun p cap' hentry => ?_, fun p cap' hentry => ?_, fun t q hq hq0 => ?_⟩
  · rcases demand_cases hgo rest hentry with ⟨hold, rfl, hd⟩ | ⟨hold, hd⟩
    · have hle := h.devices p cap hold
      show demandOn p rest ≤ cap.freeDevices - w.gpuCount
      omega
    · rw [← hd]
      exact h.devices p cap' hold
  · rcases demand_cases hgo rest hentry with ⟨hold, rfl, hd⟩ | ⟨hold, hd⟩
    · have hle := h.memory p cap hold
      rw [hd, Int.add_mul] at hle
      show demandOn p rest * cap.memoryMiBPerDevice
        ≤ cap.freeMemoryMiB - w.gpuCount * cap.memoryMiBPerDevice
      omega
    · rw [← hd]
      exact h.memory p cap' hold
  · rw [hgo.tenantQuotas] at hq
    have hcap := h.caps t q hq hq0
    rw [hof t] at hcap
    rw [hgo.committed]
    omega

/-- A turn that goes on drains one of them. -/
theorem Drains.goesOn (hv : Valid working)
    (hgo : GoesOn calls now working s it working' s' w cap) (hw : w ∈ ws)
    (h : Drains (n + 1) ws working) :
    Drains n (ws.filter (fun q => q.workloadID ≠ w.workloadID)) working' := by
  have hperm := perm_cons_filter hw h.distinct
  have hfilter : ∀ q ∈ ws.filter (fun q => q.workloadID ≠ w.workloadID),
      q ∈ ws ∧ q.workloadID ≠ w.workloadID :=
    fun q hq => ⟨List.mem_of_mem_filter hq, of_decide_eq_true (List.mem_filter.mp hq).2⟩
  refine ⟨fun q hq => ?_, ?_, fun q hq hadm => ?_, fun q hq => ?_, ?_, ?_⟩
  · obtain ⟨hmem, hne⟩ := hfilter q hq
    exact hgo.mem_queued.mpr ⟨h.queued q hmem, hne⟩
  · exact h.distinct.sublist (List.filter_sublist.map _)
  · obtain ⟨hmem, hne⟩ := hgo.mem_queued.mp hq
    exact List.mem_filter.mpr ⟨h.only q hmem (admissible_of_goesOn hgo hv hadm), decide_eq_true hne⟩
  · obtain ⟨hmem, -⟩ := hfilter q hq
    obtain ⟨cap', hcompat, hentry, hmemory⟩ := h.fitting q hmem
    rw [hgo.eq_afterAdmission, compatible_afterAdmission now hgo.eligible.entry,
      entry_afterAdmission]
    by_cases hp : q.profile = w.profile
    · rw [if_pos hp]
      rw [hp, hgo.eligible.entry] at hentry
      obtain rfl := Option.some.inj hentry
      exact ⟨_, hcompat, rfl, hmemory⟩
    · rw [if_neg hp]
      exact ⟨cap', hcompat, hentry, hmemory⟩
  · have := hperm.length_eq
    rw [List.length_cons] at this
    have := h.count
    omega
  · have htogether : FitTogether working
        (w :: ws.filter (fun q => q.workloadID ≠ w.workloadID)) := by
      have hd : ∀ p, demandOn p ws = demandOn p _ := fun p => sumOf_perm _ _ p hperm
      have ht : ∀ t, demandOf t ws = demandOf t _ := fun t => sumOf_perm _ _ t hperm
      refine ⟨fun p cap hentry => ?_, fun p cap hentry => ?_, fun t q hq h0 => ?_⟩
      · rw [← hd]; exact h.together.devices p cap hentry
      · rw [← hd]; exact h.together.memory p cap hentry
      · rw [← ht]; exact h.together.caps t q hq h0
    exact htogether.goesOn hgo

end

/-! ## Draining batches -/

section
variable {calls : CycleCalls σ} {now : Int}
  {K : List QueuedWorkload → SchedulingInputs → σ → Prop}
  (hpatch : ∀ ws working w cap s, Valid working → K ws working s → w ∈ ws →
    Eligible working w cap → (selectOneForAdmission working).selectedID = w.workloadID →
    (selectOneForAdmission working).victims = [] →
    ∃ s', perform calls (selectOneForAdmission working) s = (s', .admitted)
      ∧ K (ws.filter (fun q => q.workloadID ≠ w.workloadID))
        (working.afterAdmission w cap now) s')
include hpatch

/-- A turn over a copy that drains: nothing is left, or one more is admitted and the copy
    still drains. -/
theorem Drains.turn {n : Nat} {ws : List QueuedWorkload} {working : SchedulingInputs} {s : σ}
    (hv : Valid working) (h : Drains (n + 1) ws working) (hK : K ws working s) :
    (ws = [] ∧ ∃ reason, turn calls now working s = .noCandidate reason)
      ∨ ∃ it working' s' w cap, turn calls now working s = .next it working' s'
        ∧ GoesOn calls now working s it working' s' w cap
        ∧ Drains n (ws.filter (fun q => q.workloadID ≠ w.workloadID)) working'
        ∧ K (ws.filter (fun q => q.workloadID ≠ w.workloadID)) working' s' := by
  rcases h.selection hv with ⟨hnil, hid⟩ | ⟨w, cap, hw, he, hle, hid, hvictims⟩
  · exact Or.inl ⟨hnil, (selectOneForAdmission working).noAdmissionReason,
      by rw [GpuCycle.turn]; exact if_pos hid⟩
  · obtain ⟨s', hperform, hK'⟩ := hpatch ws working w cap s hv hK hw he hid hvictims
    obtain ⟨working', hva⟩ := h.virtualAdmission hv hw he hle now
    have hnd := hv.nodup_queued
    have hmem := h.queued w hw
    have hne : (selectOneForAdmission working).selectedID ≠ "" := by
      rw [hid]
      intro hempty
      exact (hv.queued w hmem).workloadID (by
        show trimSpace w.workloadID = ""
        rw [hempty]
        decide)
    have hbyID : queuedWorkloadByID working (selectOneForAdmission working).selectedID
        = some w := by
      rw [hid]
      exact queuedWorkloadByID_of_mem hnd hmem
    have hturn : GpuCycle.turn calls now working s
        = .next ⟨working, selectOneForAdmission working, .admitted⟩ working' s' := by
      simp only [GpuCycle.turn, if_neg hne, hperform, hbyID, hva]
    obtain ⟨-, w', cap', hd, hgo⟩ := turn_next hv hturn
    have hww : w' = w :=
      List.inj_on_of_nodup_map hnd hgo.mem hmem (hd.id.symm.trans hid)
    subst hww
    have hcap : cap' = cap := Option.some.inj (hgo.eligible.entry.symm.trans he.entry)
    subst hcap
    rw [← hgo.eq_afterAdmission] at hK'
    exact Or.inr ⟨_, working', s', w', cap', hturn, hgo, h.goesOn hv hgo hw, hK'⟩

/-- **A BATCH DRAINS** the workloads that fit together. -/
theorem batch_drains (hnow : now ≠ 0) (n : Nat) {ws : List QueuedWorkload}
    {inputs : SchedulingInputs} {s : σ} (hv : Valid inputs) (h : Drains n ws inputs)
    (hK : K ws inputs s) : ∃ working, K [] working (batch calls now n inputs s).state := by
  induction n generalizing ws inputs s with
  | zero =>
      have hnil : ws = [] := List.length_eq_zero_iff.mp (Nat.le_zero.mp h.count)
      subst hnil
      exact ⟨inputs, hK⟩
  | succ n ih =>
      rw [batch]
      rcases h.turn hpatch hv hK with ⟨rfl, reason, hturn⟩ | ⟨it, working', s', w, cap, hturn,
        hgo, hd, hK'⟩
      · rw [hturn]
        exact ⟨inputs, hK⟩
      · rw [hturn]
        exact ih (hgo.valid hv hnow) hd hK'

/-- A draining batch that admits nothing has called nothing. -/
theorem batch_drains_nothing {n : Nat} {ws : List QueuedWorkload} {inputs : SchedulingInputs}
    {s : σ} (hv : Valid inputs) (h : Drains n ws inputs) (hK : K ws inputs s)
    (hnone : admittedIDs (batch calls now n inputs s).iterations = []) :
    (batch calls now n inputs s).state = s := by
  cases n with
  | zero => rfl
  | succ n =>
      rw [batch] at hnone ⊢
      rcases h.turn hpatch hv hK with ⟨-, reason, hturn⟩ | ⟨it, working', s', w, cap, hturn,
        hgo, -, -⟩
      · rw [hturn]
      · rw [hturn] at hnone
        simp only at hnone
        rw [admittedIDs, List.filterMap_cons, hgo.admittedID] at hnone
        cases hnone

end

end GpuBatchDrain
