import GpuScheduler.BatchVictimsProofs
import GpuScheduler.VictimsProofs

/-! # Laws of one selection

    `SelectOneForAdmission` is sound and complete for a plain notion of feasibility
    (`selection_sound_complete`): nothing that can be placed is missed, and preemption is
    used only when no queued workload fits what is free.

    An admission of a workload that fits can be taken into the working copy: the copy keeps
    the input contract and the devices of the workload are accounted for
    (`admission_keeps`).

    Priorities are another matter.  The second pass compares no priority of the incoming
    workload with those of its victims, so a workload can evict one that outranks it;
    `evictsLower_iff` says for which inputs it does not.

    Nor does either pass read the memory cap of a tenant, though the contract checks it and
    the quota declares it a hard one; `keepsMemoryCap_iff` says for which inputs it is
    respected. -/

namespace GpuSelectionLaws

open GoStrings GoMaps GpuInputs GpuFairness GpuCompat GpuPreemption GpuSelection
  GpuBatchVictims GpuVictims

section
variable {inputs : SchedulingInputs} {w : QueuedWorkload}

/-- Queued workloads are told apart by their IDs. -/
theorem queued_ext (hv : Valid inputs) {w' : QueuedWorkload} (hw : w ∈ inputs.queuedWorkloads)
    (hw' : w' ∈ inputs.queuedWorkloads) (hid : w.workloadID = w'.workloadID) : w = w' :=
  List.inj_on_of_nodup_map hv.nodup_queued hw hw' hid

/-- A queued workload has an ID. -/
theorem workloadID_ne_empty (hv : Valid inputs) (hw : w ∈ inputs.queuedWorkloads) :
    w.workloadID ≠ "" :=
  ne_empty_of_trim (hv.queued w hw).workloadID

end

/-! ## Sound and complete -/

/-- The workload can be placed: its tenant stays within the cap, its kind and profile are
    known, and the devices of the profile are large enough and, free or held by running
    workloads, many enough. -/
structure Feasible (inputs : SchedulingInputs) (w : QueuedWorkload) : Prop where
  quota : ∀ q, inputs.tenantQuotas.lookup w.tenant = some q → 0 < q.maxGPUs →
    tenantGPUs w.tenant (inputs.scheduledWorkloads ++ inputs.runningWorkloads) + w.gpuCount
      ≤ q.maxGPUs
  kind : w.kind.supported = true
  profile : w.profile ∈ hardwareProfiles
  capacity : ∃ cap, inputs.fleetFreeCapacity.entry w.profile = some cap
    ∧ w.gpuMemoryMiB ≤ cap.memoryMiBPerDevice
    ∧ w.gpuCount ≤ cap.freeDevices + held w.profile inputs.runningWorkloads

/-- The profile has enough free devices. -/
def EnoughFree (inputs : SchedulingInputs) (w : QueuedWorkload) : Prop :=
  ∃ cap, inputs.fleetFreeCapacity.entry w.profile = some cap ∧ w.gpuCount ≤ cap.freeDevices

/-- Victims for a workload: distinct running workloads of its profile which, with the free
    devices, cover its count. -/
structure VictimsFor (inputs : SchedulingInputs) (w : QueuedWorkload)
    (victims : List RunningWorkload) : Prop where
  running : victims.Subperm inputs.runningWorkloads
  distinct : (victims.map RunningWorkload.workloadID).Nodup
  profile : ∀ v ∈ victims, v.profile = w.profile
  covers : ∃ cap, inputs.fleetFreeCapacity.entry w.profile = some cap
    ∧ w.gpuCount ≤ cap.freeDevices + gpuSum victims

/-- What a selection says about the queue. -/
structure SoundComplete (inputs : SchedulingInputs) (sel : Selection) : Prop where
  empty_iff : sel.selectedID = "" ↔ ∀ w ∈ inputs.queuedWorkloads, ¬Feasible inputs w
  selected : sel.selectedID ≠ "" →
    ∃ w ∈ inputs.queuedWorkloads, w.workloadID = sel.selectedID ∧ Feasible inputs w
      ∧ (sel.victims = []
        ↔ ∃ q ∈ inputs.queuedWorkloads, Feasible inputs q ∧ EnoughFree inputs q)
      ∧ (sel.victims ≠ [] → VictimsFor inputs w sel.victims)

section
variable {inputs : SchedulingInputs} {w : QueuedWorkload}

/-- For a normalised profile name the compatibility check asks for a supported kind and a
    known profile of the snapshot. -/
theorem compatible_iff_of_normal (hnorm : normalizeProfileName w.profile = w.profile)
    (hne : w.profile ≠ "") {cap : ProfileFreeCapacity} {fleet : FleetFreeCapacity}
    (hentry : fleet.entry w.profile = some cap) :
    compatibleProfileAndKind w fleet = .ok ()
      ↔ w.kind.supported = true ∧ w.profile ∈ hardwareProfiles := by
  have hin : inSnapshot fleet w.profile = true := by
    cases hmap : fleet.byProfile with
    | none =>
        rw [FleetFreeCapacity.entry, hmap] at hentry
        cases hentry
    | some m =>
        rw [FleetFreeCapacity.entry, hmap, Option.getD_some] at hentry
        simp only [inSnapshot, hmap, hentry, Option.isSome_some]
  rw [compatibleProfileAndKind, hnorm, if_neg hne, hin, if_neg Bool.false_ne_true.symm]
  by_cases hkind : w.kind.supported = true
  · rw [if_neg (by rw [hkind]; exact Bool.false_ne_true.symm)]
    by_cases hknown : w.profile ∈ hardwareProfiles
    · rw [if_neg (not_not.mpr hknown)]
      exact ⟨fun _ => ⟨hkind, hknown⟩, fun _ => rfl⟩
    · rw [if_pos hknown]
      exact ⟨fun h => (by cases h), fun h => absurd h.2 hknown⟩
  · rw [if_pos (Bool.not_eq_true _ ▸ hkind)]
    exact ⟨fun h => (by cases h), fun h => absurd h.1 hkind⟩

/-- With valid quotas the cap check is the arithmetic of positive caps. -/
theorem underCap_iff (hv : Valid inputs) :
    exceedsTenantGPUCap w (SchedulingInputs.usage inputs) inputs.tenantQuotas = false
      ↔ ∀ q, inputs.tenantQuotas.lookup w.tenant = some q → 0 < q.maxGPUs →
        tenantGPUs w.tenant (inputs.scheduledWorkloads ++ inputs.runningWorkloads) + w.gpuCount
          ≤ q.maxGPUs := by
  constructor
  · intro h q hq hpos
    exact le_maxGPUs_of_not_exceeds h hq hpos
  · intro h
    rw [SchedulingInputs.usage, exceedsTenantGPUCap_eq]
    refine overCap_eq_false (fun q hq => ⟨?_, h q hq⟩)
    exact (hv.quotas ⟨w.tenant, q⟩ (AList.mem_lookup_iff.mp hq)).maxGPUs

/-- A queued workload with a normalised profile name is feasible exactly when one of the
    passes can admit it. -/
theorem feasible_iff_admissible (hv : Valid inputs) (hw : w ∈ inputs.queuedWorkloads)
    (hnorm : normalizeProfileName w.profile = w.profile) :
    Feasible inputs w ↔ Admissible inputs w := by
  have hne := ne_empty_of_trim (hv.queued w hw).profile
  constructor
  · intro h
    obtain ⟨cap, hentry, hmem, hle⟩ := h.capacity
    have hcompat := (compatible_iff_of_normal hnorm hne hentry).mpr ⟨h.kind, h.profile⟩
    exact ⟨cap, ⟨(underCap_iff hv).mpr h.quota, hcompat, hentry, hmem⟩, hle⟩
  · rintro ⟨cap, he, hle⟩
    obtain ⟨hkind, hprofile⟩ := (compatible_iff_of_normal hnorm hne he.entry).mp he.compatible
    exact ⟨(underCap_iff hv).mp he.underCap, hkind, hprofile, cap, he.entry, he.memory, hle⟩

/-- A feasible workload with enough free devices fits, and the other way around. -/
theorem feasible_enoughFree_iff (hv : Valid inputs) (hw : w ∈ inputs.queuedWorkloads)
    (hnorm : normalizeProfileName w.profile = w.profile) :
    Feasible inputs w ∧ EnoughFree inputs w ↔ fitsWithoutPreemption inputs w = true := by
  rw [feasible_iff_admissible hv hw hnorm, fitsWithoutPreemption_iff (hv.queued w hw)]
  constructor
  · rintro ⟨⟨cap, he, -⟩, cap', hentry', hle⟩
    -- both capacities are the one of the profile
    rw [he.entry] at hentry'
    rw [← Option.some.inj hentry'] at hle
    exact ⟨cap, he, hle⟩
  · rintro ⟨cap, he, hle⟩
    have hheld : 0 ≤ held w.profile inputs.runningWorkloads :=
      gpuSum_nonneg (fun r hr => le_of_lt (hv.running r (List.mem_of_mem_filter hr)).gpuCount)
    exact ⟨⟨cap, he, by omega⟩, cap, he.entry, hle⟩

/-- **SOUND AND COMPLETE**, for valid inputs whose queued profiles are lower-case and
    trimmed. -/
theorem selection_sound_complete (hvalid : validate inputs = .ok ())
    (hlower : ∀ w ∈ inputs.queuedWorkloads,
      toLower w.profile = w.profile ∧ trimSpace w.profile = w.profile) :
    SoundComplete inputs (selectOneForAdmission inputs) := by
  have hv : Valid inputs := validate_ok_iff.mp hvalid
  have hnorm : ∀ w ∈ inputs.queuedWorkloads, normalizeProfileName w.profile = w.profile := by
    intro w hw
    rw [normalizeProfileName, (hlower w hw).2, (hlower w hw).1]
  have hfeasible := fun w hw => feasible_iff_admissible hv hw (hnorm w hw)
  refine ⟨?_, fun hsel => ?_⟩
  · rw [selectedID_eq_empty_iff hv]
    exact forall₂_congr (fun w hw => not_congr (hfeasible w hw).symm)
  · have hvictims := selection_victims hv hsel
    cases selection_cases hv with
    | fits w cap _ mem eligible count first id victims =>
        have hfits := (feasible_enoughFree_iff hv mem (hnorm w mem)).mpr
          (List.find?_some first)
        exact ⟨w, mem, id.symm, hfits.1, ⟨fun _ => ⟨w, mem, hfits⟩, fun _ => victims⟩,
          fun h => absurd victims h⟩
    | preempts w cap _ mem eligible short picked noFit first id =>
        obtain ⟨hne, hmem, hneed, hsub⟩ := widen_victims picked
        obtain ⟨-, -, -, -, -, -, -, hnodup⟩ := hvictims
        have hadm := (admissible_iff hv mem).mpr (Or.inr
          (List.find?_some (p := fun q => (admitWithPreemption inputs q).isSome) first))
        refine ⟨w, mem, id.symm, (hfeasible w mem).mpr hadm, ⟨fun h => absurd h hne, ?_⟩,
          fun _ => ⟨?_, hnodup, fun v hvv => (hmem v hvv).2, cap, eligible.entry, by omega⟩⟩
        · rintro ⟨q, hq, hfree⟩
          have hfits := (feasible_enoughFree_iff hv hq (hnorm q hq)).mp hfree
          rw [noFit q hq] at hfits
          cases hfits
        · exact hsub.trans List.filter_sublist.subperm
    | nothing _ none id victims => exact absurd id hsel

end

/-- One free device, and two workloads running. -/
def crowded (queued : List QueuedWorkload) : SchedulingInputs where
  queuedWorkloads := queued
  scheduledWorkloads := []
  runningWorkloads := [runningOn "ns/a" 1 10 1, runningOn "ns/b" 7 11 2]
  fleetFreeCapacity := oneFree
  tenantQuotas := ∅

/-- Four devices are asked for and one is free, so both running workloads have to go. -/
theorem crowded_sound_complete :
    (selectOneForAdmission (crowded [asking 4])).victims
        = [runningOn "ns/b" 7 11 2, runningOn "ns/a" 1 10 1]
      ∧ SoundComplete (crowded [asking 4]) (selectOneForAdmission (crowded [asking 4])) := by
  refine ⟨by decide +kernel, selection_sound_complete rfl (fun w hw => ?_)⟩
  rw [List.mem_singleton.mp hw]
  decide +kernel

/-! ## Priorities -/

/-- Every victim has a strictly lower priority than the selected workload. -/
def EvictsLower (inputs : SchedulingInputs) : Prop :=
  ∀ w ∈ inputs.queuedWorkloads, w.workloadID = (selectOneForAdmission inputs).selectedID →
    ∀ v ∈ (selectOneForAdmission inputs).victims, v.priority < w.priority

/-- The GPUs held on a profile by running workloads below a priority. -/
def heldBelow (profile : String) (p : Int) (running : List RunningWorkload) : Int :=
  gpuSum (running.filter (fun r => r.profile = profile ∧ r.priority < p))

/-- **LOWER PRIORITIES SUFFICE**: if no queued workload fits what is free, then for the
    first one in the fair order that preemption can place, free devices and those held
    below its own priority are enough. -/
def LowerSuffice (inputs : SchedulingInputs) : Prop :=
  (∀ q ∈ inputs.queuedWorkloads, ¬FitsFree inputs q) →
  ∀ w cap, FirstInOrder inputs (Preemptable inputs) w →
    inputs.fleetFreeCapacity.entry w.profile = some cap →
    w.gpuCount ≤ cap.freeDevices + heldBelow w.profile w.priority inputs.runningWorkloads

theorem heldBelow_eq (profile : String) (p : Int) (running : List RunningWorkload) :
    heldBelow profile p running = gpuSum (under profile (p - 1) running) := by
  rw [heldBelow, under]
  refine congrArg gpuSum (List.filter_congr (fun r _ => ?_))
  rw [decide_eq_decide, Int.le_sub_one_iff]

/-- **WHEN ONLY LOWER PRIORITIES ARE EVICTED**. -/
theorem evictsLower_iff {inputs : SchedulingInputs} (hvalid : validate inputs = .ok ()) :
    EvictsLower inputs ↔ LowerSuffice inputs := by
  have hv : Valid inputs := validate_ok_iff.mp hvalid
  have hpos : ∀ r ∈ inputs.runningWorkloads, 0 < r.gpuCount :=
    fun r hr => (hv.running r hr).gpuCount
  rw [EvictsLower]
  cases selection_cases hv with
  | fits w cap _ mem eligible count first id victims =>
      -- nobody is evicted, and the condition asks nothing
      rw [victims]
      refine ⟨fun _ hno => ?_, fun _ w' _ _ v hmem => by cases hmem⟩
      exact absurd ⟨cap, eligible, count⟩ (hno w mem)
  | nothing _ none id victims =>
      rw [victims]
      refine ⟨fun _ _ w _ hfirst => ?_, fun _ w' _ _ v hmem => by cases hmem⟩
      exact absurd hfirst.admissible (none w hfirst.mem)
  | preempts w cap _ mem eligible short picked noFit first id =>
      have hok := hv.queued w mem
      obtain ⟨hgreedy, hne⟩ := (victims_ok_iff inputs.runningWorkloads _
        inputs.fleetFreeCapacity hok.gpuCount hok.gpuMemoryMiB
        (ne_empty_of_trim hok.profile)).mpr
        ⟨eligible.compatible, cap, eligible.entry, short, eligible.memory, picked⟩
      -- the victims reach up to the least sufficient priority, and one of them has it
      obtain ⟨p, hleast, htaken⟩ := greedy_taken hpos hgreedy hne
      have hlower := (htaken.minimal hpos hleast).lower_iff (fun r hr => le_of_lt (hpos r hr))
        w.priority
      have hsuff : Sufficient w inputs.runningWorkloads inputs.fleetFreeCapacity
            (w.priority - 1)
          ↔ w.gpuCount ≤ cap.freeDevices
            + heldBelow w.profile w.priority inputs.runningWorkloads := by
        rw [Sufficient, shortfall, eligible.entry, heldBelow_eq, Option.map_some,
          Option.getD_some]
        omega
      have hfirst := (find?_preempts_iff hv).mp first
      constructor
      · intro h _ w' cap' hfirst' hentry'
        have hsame := first.symm.trans ((find?_preempts_iff hv).mpr hfirst')
        obtain rfl := Option.some.inj hsame
        rw [eligible.entry] at hentry'
        rw [← Option.some.inj hentry']
        exact hsuff.mp (hlower.mp (h w mem id.symm))
      · intro h w' hw' hid'
        obtain rfl := queued_ext hv mem hw' (id.symm.trans hid'.symm)
        exact hlower.mpr (hsuff.mpr (h (not_fitsFree hv noFit) w cap hfirst eligible.entry))

/-- A workload of priority 5 evicts one of priority 7. -/
theorem crowded_evicts_higher :
    ¬ ∀ inputs : SchedulingInputs, validate inputs = .ok () →
      (selectOneForAdmission inputs).victims ≠ [] → EvictsLower inputs := by
  intro h
  have hlow := h (crowded [asking 3]) rfl (by decide +kernel) (asking 3)
    (List.mem_singleton_self _) (by decide +kernel) (runningOn "ns/b" 7 11 2)
    (by decide +kernel)
  exact absurd hlow (by decide)

/-- For two devices the workload of priority 1 is enough. -/
theorem crowded_evicts_lower :
    (selectOneForAdmission (crowded [asking 2])).victims = [runningOn "ns/a" 1 10 1]
      ∧ LowerSuffice (crowded [asking 2]) := by
  have hvictims : (selectOneForAdmission (crowded [asking 2])).victims
      = [runningOn "ns/a" 1 10 1] := by decide +kernel
  refine ⟨hvictims, (evictsLower_iff rfl).mp (fun w hw _ v hvv => ?_)⟩
  rw [hvictims] at hvv
  rw [List.mem_singleton.mp hw, List.mem_singleton.mp hvv]
  decide

/-! ## Memory caps -/

/-- The memory of a tenant's workloads: devices times memory per device. -/
def tenantMemory (tenant : String) (ws : List RunningWorkload) : Int :=
  sumOf RunningWorkload.tenant (fun r => r.gpuCount * r.gpuMemoryMiB) tenant ws

/-- The memory cap of the workload's tenant, if there is one, has room for the workload on
    top of what the tenant has scheduled and running. -/
def MemoryRoom (inputs : SchedulingInputs) (w : QueuedWorkload) : Prop :=
  ∀ q, inputs.tenantQuotas.lookup w.tenant = some q → 0 < q.maxMemoryMiB →
    tenantMemory w.tenant (inputs.scheduledWorkloads ++ inputs.runningWorkloads)
      + w.gpuCount * w.gpuMemoryMiB ≤ q.maxMemoryMiB

/-- An admitted workload is within the memory cap of its tenant. -/
def KeepsMemoryCap (inputs : SchedulingInputs) : Prop :=
  ∀ w ∈ inputs.queuedWorkloads, w.workloadID = (selectOneForAdmission inputs).selectedID →
    MemoryRoom inputs w

/-- **FIRST IN LINE HAVE ROOM**: the first workload of the fair order that fits what is
    free is within its memory cap; if none fits, the first that preemption can place is. -/
structure FirstHaveRoom (inputs : SchedulingInputs) : Prop where
  fits : ∀ w, FirstInOrder inputs (FitsFree inputs) w → MemoryRoom inputs w
  preempts : (∀ q ∈ inputs.queuedWorkloads, ¬FitsFree inputs q) →
    ∀ w, FirstInOrder inputs (Preemptable inputs) w → MemoryRoom inputs w

/-- **WHEN THE MEMORY CAP IS RESPECTED**. -/
theorem keepsMemoryCap_iff {inputs : SchedulingInputs} (hvalid : validate inputs = .ok ()) :
    KeepsMemoryCap inputs ↔ FirstHaveRoom inputs := by
  have hv : Valid inputs := validate_ok_iff.mp hvalid
  rw [KeepsMemoryCap]
  cases selection_cases hv with
  | fits w cap _ mem eligible count first id victims =>
      have hno : ¬∀ q ∈ inputs.queuedWorkloads, ¬FitsFree inputs q :=
        fun h => h w mem ⟨cap, eligible, count⟩
      constructor
      · intro h
        refine ⟨fun w' hfirst' => ?_, fun h' => absurd h' hno⟩
        have hsame := first.symm.trans ((find?_fits_iff hv).mpr hfirst')
        obtain rfl := Option.some.inj hsame
        exact h w mem id.symm
      · intro h w' hw' hid'
        obtain rfl := queued_ext hv mem hw' (id.symm.trans hid'.symm)
        exact h.fits w ((find?_fits_iff hv).mp first)
  | preempts w cap _ mem eligible short picked noFit first id =>
      have hno := not_fitsFree hv noFit
      constructor
      · intro h
        refine ⟨fun w' hfirst' => ?_, fun _ w' hfirst' => ?_⟩
        · have hmem' := hfirst'.mem
          obtain ⟨-, -, -, hfits', -⟩ := hfirst'
          exact absurd hfits' (hno w' hmem')
        · have hsame := first.symm.trans ((find?_preempts_iff hv).mpr hfirst')
          obtain rfl := Option.some.inj hsame
          exact h w mem id.symm
      · intro h w' hw' hid'
        obtain rfl := queued_ext hv mem hw' (id.symm.trans hid'.symm)
        exact h.preempts hno w ((find?_preempts_iff hv).mp first)
  | nothing _ none id victims =>
      -- nobody is selected, and nobody is first in either line
      constructor
      · intro _
        refine ⟨fun w hfirst => ?_, fun _ w hfirst => ?_⟩
        · have hfits := (find?_fits_iff hv).mpr hfirst
          refine absurd ((admissible_iff hv hfirst.mem).mpr (Or.inl ?_)) (none w hfirst.mem)
          exact List.find?_some hfits
        · exact absurd hfirst.admissible (none w hfirst.mem)
      · intro _ w hw hid
        exact absurd (hid.trans id) (workloadID_ne_empty hv hw)

/-- A tenant may use 150 MiB. -/
def memoryCapped (queued : List QueuedWorkload) : SchedulingInputs :=
  { crowded queued with tenantQuotas := AList.insert "team" ⟨0, 150, 1⟩ ∅ }

/-- With 120 MiB running, the tenant gets another workload of 40. -/
theorem memoryCapped_exceeds :
    ¬ ∀ inputs : SchedulingInputs, validate inputs = .ok () → KeepsMemoryCap inputs := by
  intro h
  have hroom := h (memoryCapped [asking 1]) rfl (asking 1) (List.mem_singleton_self _)
    (by decide +kernel) ⟨0, 150, 1⟩ rfl (by decide)
  exact absurd hroom (by decide +kernel)

/-- A workload of another tenant, for which there is no cap, may go ahead. -/
theorem memoryCapped_other_tenant :
    (selectOneForAdmission (memoryCapped [{ asking 1 with tenant := "other" }])).selectedID
        = "ns/new"
      ∧ FirstHaveRoom (memoryCapped [{ asking 1 with tenant := "other" }]) := by
  refine ⟨by decide +kernel, (keepsMemoryCap_iff rfl).mp (fun w hw _ q hq _ => ?_)⟩
  rw [List.mem_singleton.mp hw] at hq
  cases hq

/-! ## Taking an admission into the working copy -/

/-- The free memory of each profile is that of its free devices. -/
def MemoryMatches (inputs : SchedulingInputs) : Prop :=
  ∀ p cap, inputs.fleetFreeCapacity.entry p = some cap →
    cap.freeMemoryMiB = cap.freeDevices * cap.memoryMiBPerDevice

/-- The second inputs are the first with one workload moved from the queue to the running
    list and its devices and their memory taken from its profile and from the totals. -/
structure Moved (inputs out : SchedulingInputs) (w : QueuedWorkload) (now : Int) : Prop where
  queue : out.queuedWorkloads = inputs.queuedWorkloads.erase w
  running : out.runningWorkloads = inputs.runningWorkloads ++ [w.asRunning now]
  capacity : ∃ cap, inputs.fleetFreeCapacity.entry w.profile = some cap
    ∧ out.fleetFreeCapacity.entry w.profile
      = some ⟨cap.freeDevices - w.gpuCount,
          cap.freeMemoryMiB - w.gpuCount * cap.memoryMiBPerDevice, cap.memoryMiBPerDevice⟩
    ∧ out.fleetFreeCapacity.totalFreeDevices
      = inputs.fleetFreeCapacity.totalFreeDevices - w.gpuCount
    ∧ out.fleetFreeCapacity.totalFreeMemoryMiB
      = inputs.fleetFreeCapacity.totalFreeMemoryMiB - w.gpuCount * cap.memoryMiBPerDevice
  profiles : ∀ p, p ≠ w.profile →
    out.fleetFreeCapacity.entry p = inputs.fleetFreeCapacity.entry p
  scheduled : out.scheduledWorkloads = inputs.scheduledWorkloads
  quotas : out.tenantQuotas = inputs.tenantQuotas

section
variable {inputs : SchedulingInputs} {w : QueuedWorkload}

/-- With distinct IDs, dropping an ID from the queue drops one workload. -/
theorem filter_ids_eq_erase (hv : Valid inputs) (hw : w ∈ inputs.queuedWorkloads) :
    inputs.queuedWorkloads.filter (fun q => q.workloadID ≠ w.workloadID)
      = inputs.queuedWorkloads.erase w := by
  rw [(hv.nodup_queued.of_map _).erase_eq_filter]
  refine List.filter_congr (fun q hq => ?_)
  by_cases h : q = w
  · simp [h]
  · have hid : q.workloadID ≠ w.workloadID := fun hid => h (queued_ext hv hq hw hid)
    simp [h, hid]

/-- Taking devices with their memory keeps the memory matched. -/
theorem memoryMatches_afterAdmission {cap : ProfileFreeCapacity} {now : Int}
    (hmem : MemoryMatches inputs) (hentry : inputs.fleetFreeCapacity.entry w.profile = some cap) :
    MemoryMatches (inputs.afterAdmission w cap now) := by
  intro p cap' hentry'
  rw [entry_afterAdmission] at hentry'
  split_ifs at hentry' with hp
  · rw [← Option.some.inj hentry', ProfileFreeCapacity.take, takeWith]
    simp only [id_eq]
    rw [hmem _ cap hentry, Int.sub_mul]
  · exact hmem p cap' hentry'

/-- The copy of an admission is the inputs with the workload moved. -/
theorem moved_afterAdmission {cap : ProfileFreeCapacity} {now : Int} (hv : Valid inputs)
    (hw : w ∈ inputs.queuedWorkloads)
    (hentry : inputs.fleetFreeCapacity.entry w.profile = some cap) :
    Moved inputs (inputs.afterAdmission w cap now) w now := by
  refine ⟨filter_ids_eq_erase hv hw, rfl, ⟨cap, hentry, ?_, rfl, rfl⟩, fun p hp => ?_, rfl, rfl⟩
  · rw [entry_afterAdmission, if_pos rfl]
    rfl
  · rw [entry_afterAdmission, if_neg hp]

/-- **ADMISSION KEEPS THE CONTRACT** and moves exactly the workload, when the devices of its
    profile cover it. -/
theorem admission_keeps {cap : ProfileFreeCapacity} {now : Int} (hv : Valid inputs)
    (hmem : MemoryMatches inputs) (hw : w ∈ inputs.queuedWorkloads) (hnow : now ≠ 0)
    (hentry : inputs.fleetFreeCapacity.entry w.profile = some cap)
    (hcount : w.gpuCount ≤ cap.freeDevices) (hper : w.gpuMemoryMiB ≤ cap.memoryMiBPerDevice) :
    applyVirtualAdmission inputs w now = .ok (inputs.afterAdmission w cap now)
      ∧ Valid (inputs.afterAdmission w cap now)
      ∧ MemoryMatches (inputs.afterAdmission w cap now)
      ∧ Moved inputs (inputs.afterAdmission w cap now) w now := by
  have hmemory : w.gpuCount * cap.memoryMiBPerDevice ≤ cap.freeMemoryMiB := by
    rw [hmem w.profile cap hentry]
    have hnonneg : 0 ≤ cap.memoryMiBPerDevice :=
      le_of_lt (lt_of_lt_of_le (hv.queued w hw).gpuMemoryMiB hper)
    exact mul_le_mul_of_nonneg_right hcount hnonneg
  have hok : applyVirtualAdmission inputs w now = .ok (inputs.afterAdmission w cap now) :=
    applyVirtualAdmission_ok_iff.mpr ⟨cap, hentry, hcount, hmemory, rfl⟩
  exact ⟨hok, valid_applyVirtualAdmission hv hw hnow hok,
    memoryMatches_afterAdmission hmem hentry, moved_afterAdmission hv hw hentry⟩

end

end GpuSelectionLaws
