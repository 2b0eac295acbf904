import GpuScheduler.IntVictimsProofs
import GpuScheduler.SelectionLawsProofs

/-! # Selection and virtual admission on 64-bit integers

    `Validate`, `SelectOneForAdmission` and `ApplyVirtualAdmission` with the sums of the
    machine: free devices are counted in `int`, free memory in `int64`, a tenant's GPUs in
    `int`, and each of these wraps around.

    Where the sums of an input fit, the functions are the exact ones of `GpuInputs` and
    `GpuSelection` (`validate_eq`, `selectOneForAdmission_eq`), so what is proved about those
    holds of the code there.  The counts of the custom resources are `int32`, which leaves
    room for more than `2 ^ 31` of them.

    Virtual admission keeps the contract as soon as the free memory of the profiles does not
    wrap when summed (`virtual_admission_keeps`); nothing else can wrap then.  If it does
    wrap, `Validate` compares the totals with the wrapped sums and accepts them, and an
    admission takes the totals below zero (`wrapping_not_kept`). -/

namespace GpuIntAdmission

open GoStrings GoMaps GoInt GpuCompat GpuPreemption GpuVictims GpuSelectionLaws
open GpuInputs hiding validate applyVirtualAdmission
open GpuFairness hiding exceedsTenantGPUCap_eq counter_tenantGPUsUsed
open GpuSelection hiding selectOneForAdmission
open GpuIntVictims (IntCounts)

/-- `SchedulingInputs.Validate`. -/
def validate : SchedulingInputs → Except InputsError Unit := validateWith wrap

/-- `SelectOneForAdmission`. -/
def selectOneForAdmission : SchedulingInputs → Selection := selectOneForAdmissionWith wrap

/-- `ApplyVirtualAdmission`. -/
def applyVirtualAdmission : SchedulingInputs → QueuedWorkload → Int →
    Except AdmissionError SchedulingInputs := applyVirtualAdmissionWith wrap

/-! ## Validate -/

/-- The loop fails as the exact one does, and otherwise ends in its sums, reduced. -/
theorem checkProfiles_eq (d m : Int) (es : List (Sigma fun _ : String => ProfileFreeCapacity)) :
    checkProfilesWith wrap (wrap d) (wrap m) es
      = (checkProfilesWith id d m es).map (Prod.map wrap wrap) := by
  induction es generalizing d m with
  | nil => rfl
  | cons e es ih =>
      obtain ⟨profile, cap⟩ := e
      rw [checkProfilesWith, checkProfilesWith, wrap_wrap_add, wrap_wrap_add, ih]
      split_ifs <;> rfl

/-- The sums over the profiles fit. -/
structure SumsFit (fleet : FleetFreeCapacity) : Prop where
  devices : Fits ((fleet.byProfile.getD ∅).entries.map (fun e => e.2.freeDevices)).sum
  memory : Fits ((fleet.byProfile.getD ∅).entries.map (fun e => e.2.freeMemoryMiB)).sum

theorem checkFleet_eq {fleet : FleetFreeCapacity}
    (h : (∀ e ∈ (fleet.byProfile.getD ∅).entries, ProfileOk e.1 e.2) → SumsFit fleet) :
    checkFleetWith wrap fleet = checkFleet fleet := by
  have hprofiles := checkProfiles_eq 0 0 (fleet.byProfile.getD ∅).entries
  have hzero : wrap 0 = 0 := rfl
  rw [hzero] at hprofiles
  rw [checkFleet, checkFleetWith, checkFleetWith, hprofiles]
  cases hp : checkProfilesWith id 0 0 (fleet.byProfile.getD ∅).entries with
  | error e => rfl
  | ok r =>
      obtain ⟨hall, rfl⟩ := checkProfiles_ok_iff.mp hp
      obtain ⟨hdevices, hmemory⟩ := h hall
      simp only [Except.map, Prod.map, Int.zero_add, wrap_of_fits hdevices, wrap_of_fits hmemory]

/-- **`Validate` IS THE EXACT ONE** when the free devices and the free memory of well-formed
    profiles do not wrap when summed. -/
theorem validate_eq {inputs : SchedulingInputs}
    (h : (∀ e ∈ (inputs.fleetFreeCapacity.byProfile.getD ∅).entries, ProfileOk e.1 e.2) →
      SumsFit inputs.fleetFreeCapacity) :
    validate inputs = GpuInputs.validate inputs := by
  rw [validate, GpuInputs.validate, validateWith, validateWith, checkFleet_eq h, checkFleet]

/-! ## Selection -/

/-- A counter of the machine is the exact sum, reduced. -/
theorem counter_tenantGPUsUsed (tenant : String) (ws : List RunningWorkload) :
    counter (tenantGPUsUsedWith wrap ws) tenant = wrap (tenantGPUs tenant ws) := by
  have hfold : ∀ (l : List RunningWorkload) (m : GoMap String Int) (n : Int),
      counter m tenant = wrap n →
      counter (l.foldl
          (fun m r => m.insert r.tenant (wrap (counter m r.tenant + r.gpuCount))) m) tenant
        = wrap (n + tenantGPUs tenant l) := by
    intro l
    induction l with
    | nil =>
        intro m n hm
        rw [List.foldl_nil, hm, tenantGPUs, sumOf_nil, Int.add_zero]
    | cons r l ih =>
        intro m n hm
        rw [List.foldl_cons, tenantGPUs, sumOf_cons, ← tenantGPUs]
        by_cases hr : r.tenant = tenant
        · rw [ih _ (n + r.gpuCount), if_pos hr, Int.add_assoc]
          rw [hr, counter, AList.lookup_insert, Option.getD_some, hm, wrap_wrap_add]
        · rw [ih _ n, if_neg hr, Int.zero_add]
          rw [counter, AList.lookup_insert_ne (Ne.symm hr), ← counter, hm]
  rw [tenantGPUsUsedWith, hfold ws ∅ 0 rfl, Int.zero_add]

/-- The sums a selection takes for the queued workloads fit. -/
structure CountsFit (inputs : SchedulingInputs) : Prop where
  int : ∀ w ∈ inputs.queuedWorkloads, IntCounts w inputs.fleetFreeCapacity
  held : ∀ w ∈ inputs.queuedWorkloads, Fits (held w.profile inputs.runningWorkloads)
  used : ∀ w ∈ inputs.queuedWorkloads,
    Fits (tenantGPUs w.tenant (inputs.scheduledWorkloads ++ inputs.runningWorkloads) + w.gpuCount)

section
variable {inputs : SchedulingInputs} {w : QueuedWorkload}

/-- The cap check is the exact one. -/
theorem exceedsTenantGPUCap_eq
    (h : Fits (tenantGPUs w.tenant (inputs.scheduledWorkloads ++ inputs.runningWorkloads)
      + w.gpuCount)) :
    exceedsTenantGPUCapWith wrap w (usageWith wrap inputs) inputs.tenantQuotas
      = exceedsTenantGPUCapWith id w (usageWith id inputs) inputs.tenantQuotas := by
  have hexact : counter (usageWith id inputs) w.tenant = _ :=
    GpuFairness.counter_tenantGPUsUsed w.tenant
      (inputs.scheduledWorkloads ++ inputs.runningWorkloads)
  rw [exceedsTenantGPUCapWith, exceedsTenantGPUCapWith, hexact, usageWith,
    counter_tenantGPUsUsed, wrap_wrap_add, wrap_of_fits h, id_eq]

/-- The shortfall of a queued workload fits: its count is positive, and so are the free
    devices or there are none. -/
theorem shortfall_fits (hv : Valid inputs) (hw : w ∈ inputs.queuedWorkloads)
    (hint : IntCounts w inputs.fleetFreeCapacity) :
    Fits (shortfall w inputs.fleetFreeCapacity) := by
  have hpos := (hv.queued w hw).gpuCount
  have hcount : 0 < w.gpuCount := hpos
  obtain ⟨-, hhigh⟩ := hint.gpuCount
  rw [shortfall]
  cases hentry : inputs.fleetFreeCapacity.entry w.profile with
  | none =>
      simp only [Option.map_none, Option.getD_none]
      exact ⟨by omega, by omega⟩
  | some cap =>
      obtain ⟨-, hfree⟩ := hint.freeDevices cap hentry
      have hnonneg := (hv.fleet.profiles ⟨w.profile, cap⟩
        (AList.mem_lookup_iff.mp hentry)).freeDevices
      simp only [Option.map_some, Option.getD_some] at hnonneg ⊢
      exact ⟨by omega, by omega⟩

variable (hv : Valid inputs) (hfit : CountsFit inputs)
include hv hfit

omit hv in
theorem fitsWithoutPreemption_eq (hw : w ∈ inputs.queuedWorkloads) :
    fitsWithoutPreemptionWith wrap inputs w = fitsWithoutPreemptionWith id inputs w := by
  rw [fitsWithoutPreemptionWith, fitsWithoutPreemptionWith,
    exceedsTenantGPUCap_eq (hfit.used w hw)]

theorem admitWithPreemption_eq (hw : w ∈ inputs.queuedWorkloads) :
    admitWithPreemptionWith wrap inputs w = admitWithPreemptionWith id inputs w := by
  have hgreedy : selectPreemptionVictimsGreedyMinimalWith wrap w inputs.runningWorkloads
      inputs.fleetFreeCapacity = selectPreemptionVictimsGreedyMinimalWith id w _ _ :=
    GpuIntVictims.greedy_eq (fun r hr => (hv.running r hr).gpuCount) (hfit.held w hw)
      (shortfall_fits hv hw (hfit.int w hw))
  rw [admitWithPreemptionWith, admitWithPreemptionWith, exceedsTenantGPUCap_eq (hfit.used w hw),
    hgreedy]

/-- **SELECTION IS THE EXACT ONE** on valid inputs whose GPU counts do not wrap when
    summed. -/
theorem selectOneForAdmission_eq :
    selectOneForAdmission inputs = GpuSelection.selectOneForAdmission inputs := by
  have hmem : ∀ w ∈ fairOrder inputs.queuedWorkloads inputs.tenantQuotas,
      w ∈ inputs.queuedWorkloads := fun w hw => mem_fairOrder.mp hw
  have hfind : (fairOrder inputs.queuedWorkloads inputs.tenantQuotas).find?
        (fitsWithoutPreemptionWith wrap inputs)
      = (fairOrder inputs.queuedWorkloads inputs.tenantQuotas).find?
        (fitsWithoutPreemptionWith id inputs) :=
    List.find?_congr (fun w hw => fitsWithoutPreemption_eq hfit (hmem w hw))
  have hfindSome : (fairOrder inputs.queuedWorkloads inputs.tenantQuotas).findSome?
        (admitWithPreemptionWith wrap inputs)
      = (fairOrder inputs.queuedWorkloads inputs.tenantQuotas).findSome?
        (admitWithPreemptionWith id inputs) :=
    findSome?_congr (fun w hw => admitWithPreemption_eq hv hfit (hmem w hw))
  have hall : (fairOrder inputs.queuedWorkloads inputs.tenantQuotas).all
        (fun w => exceedsTenantGPUCapWith wrap w (usageWith wrap inputs) inputs.tenantQuotas)
      = (fairOrder inputs.queuedWorkloads inputs.tenantQuotas).all
        (fun w => exceedsTenantGPUCapWith id w (usageWith id inputs) inputs.tenantQuotas) := by
    rw [Bool.eq_iff_iff, List.all_eq_true, List.all_eq_true]
    refine forall₂_congr (fun w hw => ?_)
    rw [exceedsTenantGPUCap_eq (hfit.used w (hmem w hw))]
  simp only [selectOneForAdmission, GpuSelection.selectOneForAdmission, selectOneForAdmissionWith,
    hfind, hfindSome, hall]

end

/-! ## Virtual admission -/

/-- The free memory of the profiles does not wrap when summed. -/
def MemoryFits (fleet : FleetFreeCapacity) : Prop :=
  Fits ((fleet.byProfile.getD ∅).entries.map (fun e => e.2.freeMemoryMiB)).sum

instance (fleet : FleetFreeCapacity) : Decidable (MemoryFits fleet) :=
  inferInstanceAs (Decidable (Fits _))

section
variable {inputs : SchedulingInputs} {w : QueuedWorkload}

/-- A profile has no more free devices than free memory: a device has some. -/
theorem devices_le_memory {profile : String} {cap : ProfileFreeCapacity}
    (hok : ProfileOk profile cap)
    (hmem : cap.freeMemoryMiB = cap.freeDevices * cap.memoryMiBPerDevice) :
    cap.freeDevices ≤ cap.freeMemoryMiB := by
  rw [hmem]
  rcases lt_or_eq_of_le hok.freeDevices with hpos | hzero
  · have hper := hok.memoryMiBPerDevice hpos
    exact le_mul_of_one_le_right hok.freeDevices hper
  · rw [← hzero, Int.zero_mul]

/-- When the memory fits, so do the devices. -/
theorem sumsFit_of_memory (hmem : MemoryMatches inputs)
    (hfits : MemoryFits inputs.fleetFreeCapacity)
    (hall : ∀ e ∈ (inputs.fleetFreeCapacity.byProfile.getD ∅).entries, ProfileOk e.1 e.2) :
    SumsFit inputs.fleetFreeCapacity := by
  refine ⟨hfits.of_nonneg ?_ ?_, hfits⟩
  · refine List.sum_nonneg (fun x hx => ?_)
    obtain ⟨e, he, rfl⟩ := List.mem_map.mp hx
    exact (hall e he).freeDevices
  · refine List.sum_le_sum (fun e he => ?_)
    exact devices_le_memory (hall e he) (hmem e.1 e.2 (AList.mem_lookup_iff.mpr he))

/-- A selection without victims is one of the first pass: the workload fits what is free. -/
theorem fits_of_selected (hv : Valid inputs) (hw : w ∈ inputs.queuedWorkloads)
    (hsel : (selectOneForAdmission inputs).selectedID = w.workloadID)
    (hvictims : (selectOneForAdmission inputs).victims = []) :
    fitsGPUCount w inputs.fleetFreeCapacity = .ok true
      ∧ fitsPerDeviceMemory w inputs.fleetFreeCapacity = .ok true := by
  rw [selectOneForAdmission, selectOneForAdmissionWith] at hsel hvictims
  cases hfirst : (fairOrder inputs.queuedWorkloads inputs.tenantQuotas).find?
      (fitsWithoutPreemptionWith wrap inputs) with
  | some candidate =>
      rw [hfirst] at hsel
      obtain rfl := queued_ext hv (mem_fairOrder.mp (List.mem_of_find?_eq_some hfirst)) hw hsel
      obtain ⟨-, -, hcount, hmemory⟩ := fitsWithoutPreemptionWith_iff.mp (List.find?_some hfirst)
      exact ⟨hcount, hmemory⟩
  | none =>
      rw [hfirst] at hsel hvictims
      simp only at hsel hvictims
      cases hsecond : (fairOrder inputs.queuedWorkloads inputs.tenantQuotas).findSome?
          (admitWithPreemptionWith wrap inputs) with
      | some r =>
          -- the second pass returns no empty list of victims
          obtain ⟨candidate, victims⟩ := r
          rw [hsecond] at hvictims
          obtain ⟨_, -, hadmitted⟩ := List.exists_of_findSome?_eq_some hsecond
          exact absurd hvictims (admitWithPreemptionWith_iff.mp hadmitted).2.2.2.1
      | none =>
          rw [hsecond] at hsel
          have hempty := workloadID_ne_empty hv hw
          simp only at hsel
          split_ifs at hsel
          · exact absurd hsel.symm hempty
          · exact absurd hsel.symm hempty
          · exact absurd hsel.symm hempty

/-- The numbers an admission subtracts from, and what it subtracts, all fit. -/
structure RoomFits (inputs : SchedulingInputs) (w : QueuedWorkload) (cap : ProfileFreeCapacity) :
    Prop where
  product : Fits (w.gpuCount * cap.memoryMiBPerDevice)
  devices : Fits (cap.freeDevices - w.gpuCount)
  memory : Fits (cap.freeMemoryMiB - w.gpuCount * cap.memoryMiBPerDevice)
  totalDevices : Fits (inputs.fleetFreeCapacity.totalFreeDevices - w.gpuCount)
  totalMemory : Fits (inputs.fleetFreeCapacity.totalFreeMemoryMiB
    - w.gpuCount * cap.memoryMiBPerDevice)

/-- Nothing an admission subtracts exceeds what it is subtracted from. -/
theorem roomFits {cap : ProfileFreeCapacity} (hv : Valid inputs) (hmem : MemoryMatches inputs)
    (hfits : MemoryFits inputs.fleetFreeCapacity) (hw : w ∈ inputs.queuedWorkloads)
    (hentry : inputs.fleetFreeCapacity.entry w.profile = some cap)
    (hcount : w.gpuCount ≤ cap.freeDevices) : RoomFits inputs w cap := by
  have hpos : 0 < w.gpuCount := (hv.queued w hw).gpuCount
  have he : (⟨w.profile, cap⟩ : Sigma fun _ : String => ProfileFreeCapacity)
      ∈ (inputs.fleetFreeCapacity.byProfile.getD ∅).entries := AList.mem_lookup_iff.mp hentry
  have hok : ProfileOk w.profile cap := hv.fleet.profiles _ he
  have hper := hok.memoryMiBPerDevice (by omega)
  have hproduct : 0 ≤ w.gpuCount * cap.memoryMiBPerDevice := by positivity
  have hle : w.gpuCount * cap.memoryMiBPerDevice ≤ cap.freeMemoryMiB := by
    rw [hmem w.profile cap hentry]
    exact mul_le_mul_of_nonneg_right hcount (le_of_lt hper)
  obtain ⟨hdevices, hmemory⟩ := sumsFit_of_memory hmem hfits hv.fleet.profiles
  -- one entry is no more than the sum over all of them, which is the total
  have hdtotal : cap.freeDevices ≤ inputs.fleetFreeCapacity.totalFreeDevices := by
    rw [← hv.fleet.sumDevices]
    refine List.single_le_sum (fun x hx => ?_) _ (List.mem_map.mpr ⟨_, he, rfl⟩)
    obtain ⟨e, he', rfl⟩ := List.mem_map.mp hx
    exact (hv.fleet.profiles e he').freeDevices
  have hmtotal : cap.freeMemoryMiB ≤ inputs.fleetFreeCapacity.totalFreeMemoryMiB := by
    rw [← hv.fleet.sumMemory]
    refine List.single_le_sum (fun x hx => ?_) _ (List.mem_map.mpr ⟨_, he, rfl⟩)
    obtain ⟨e, he', rfl⟩ := List.mem_map.mp hx
    exact (hv.fleet.profiles e he').freeMemoryMiB
  rw [hv.fleet.sumDevices] at hdevices
  rw [hv.fleet.sumMemory] at hmemory
  exact ⟨hmemory.of_nonneg hproduct (by omega), hdevices.of_nonneg (by omega) (by omega),
    hmemory.of_nonneg (by omega) (by omega), hdevices.of_nonneg (by omega) (by omega),
    hmemory.of_nonneg (by omega) (by omega)⟩

/-- Virtual admission is the exact one when what it subtracts fits. -/
theorem applyVirtualAdmission_eq {cap : ProfileFreeCapacity} {now : Int}
    (hentry : inputs.fleetFreeCapacity.entry w.profile = some cap) (h : RoomFits inputs w cap) :
    applyVirtualAdmission inputs w now = GpuInputs.applyVirtualAdmission inputs w now := by
  have htake : takeWith wrap cap w.gpuCount = takeWith id cap w.gpuCount := by
    rw [takeWith, takeWith, wrap_of_fits h.product, wrap_of_fits h.devices, wrap_of_fits h.memory]
    rfl
  have hafter : afterAdmissionWith wrap inputs w cap now
      = afterAdmissionWith id inputs w cap now := by
    rw [afterAdmissionWith, afterAdmissionWith, htake, wrap_of_fits h.product,
      wrap_of_fits h.totalDevices, wrap_of_fits h.totalMemory]
    rfl
  rw [applyVirtualAdmission, GpuInputs.applyVirtualAdmission, applyVirtualAdmissionWith,
    applyVirtualAdmissionWith, hentry]
  simp only [htake, hafter]

/-- The sums of the copy fit: an admission leaves less than there was. -/
theorem sumsFit_afterAdmission {cap : ProfileFreeCapacity} {now : Int}
    (h : RoomFits inputs w cap) (hv : Valid (inputs.afterAdmission w cap now)) :
    SumsFit (inputs.afterAdmission w cap now).fleetFreeCapacity := by
  refine ⟨?_, ?_⟩
  · rw [hv.fleet.sumDevices]
    exact h.totalDevices
  · rw [hv.fleet.sumMemory]
    exact h.totalMemory

/-- **VIRTUAL ADMISSION KEEPS THE CONTRACT** and moves exactly the selected workload, when
    the free memory of the profiles does not wrap when summed. -/
theorem virtual_admission_keeps (hvalid : validate inputs = .ok ())
    (hmem : MemoryMatches inputs) (hfits : MemoryFits inputs.fleetFreeCapacity)
    (hw : w ∈ inputs.queuedWorkloads)
    (hsel : (selectOneForAdmission inputs).selectedID = w.workloadID)
    (hvictims : (selectOneForAdmission inputs).victims = []) {now : Int} (hnow : now ≠ 0) :
    ∃ out, applyVirtualAdmission inputs w now = .ok out ∧ validate out = .ok ()
      ∧ MemoryMatches out ∧ Moved inputs out w now := by
  rw [validate_eq (sumsFit_of_memory hmem hfits)] at hvalid
  have hv : Valid inputs := validate_ok_iff.mp hvalid
  have hok := hv.queued w hw
  have hp : w.profile ≠ "" := ne_empty_of_trim hok.profile
  obtain ⟨hfitsCount, hfitsMemory⟩ := fits_of_selected hv hw hsel hvictims
  obtain ⟨cap, hentry, hcount⟩ := (fitsGPUCount_true_iff _ hok.gpuCount hp).mp hfitsCount
  obtain ⟨cap', hentry', hper⟩ :=
    (fitsPerDeviceMemory_true_iff _ hok.gpuMemoryMiB hp).mp hfitsMemory
  obtain rfl : cap = cap' := Option.some.inj (hentry.symm.trans hentry')
  have hroom := roomFits hv hmem hfits hw hentry hcount
  obtain ⟨hadmitted, hvout, hmemout, hmoved⟩ := admission_keeps hv hmem hw hnow hentry hcount hper
  refine ⟨_, (applyVirtualAdmission_eq hentry hroom).trans hadmitted, ?_, hmemout, hmoved⟩
  rw [validate_eq (fun _ => sumsFit_afterAdmission hroom hvout)]
  exact validate_ok_iff.mpr hvout

end

/-- Memory that matches in every entry of the map. -/
theorem memoryMatches_of_entries {inputs : SchedulingInputs}
    (h : ∀ e ∈ (inputs.fleetFreeCapacity.byProfile.getD ∅).entries,
      e.2.freeMemoryMiB = e.2.freeDevices * e.2.memoryMiBPerDevice) : MemoryMatches inputs :=
  fun p cap hentry => h ⟨p, cap⟩ (AList.mem_lookup_iff.mp hentry)

/-- The last free device goes to a workload that asks for one. -/
theorem crowded_last_device :
    (selectOneForAdmission (crowded [asking 1])).selectedID = "ns/new"
      ∧ ∃ out, applyVirtualAdmission (crowded [asking 1]) (asking 1) 9 = .ok out
        ∧ validate out = .ok () ∧ MemoryMatches out
        ∧ Moved (crowded [asking 1]) out (asking 1) 9 :=
  ⟨by decide +kernel, virtual_admission_keeps rfl
    (memoryMatches_of_entries (by decide +kernel)) (by decide +kernel)
    (List.mem_singleton_self _) (by decide +kernel) (by decide +kernel) (by decide)⟩

/-! ## Totals that wrap -/

/-- Three profiles with one free device each, of as much memory as an `int64` can count; the
    totals are the sums as the machine has them. -/
def wrapping : SchedulingInputs where
  queuedWorkloads := [asking 1]
  scheduledWorkloads := []
  runningWorkloads := []
  fleetFreeCapacity :=
    ⟨3, 2 ^ 63 - 3, some ((((∅ : GoMap String ProfileFreeCapacity).insert "a100_80gb"
      ⟨1, 2 ^ 63 - 1, 2 ^ 63 - 1⟩).insert "l40s" ⟨1, 2 ^ 63 - 1, 2 ^ 63 - 1⟩).insert "h100_sxm"
      ⟨1, 2 ^ 63 - 1, 2 ^ 63 - 1⟩)⟩
  tenantQuotas := ∅

/-- The inputs pass `Validate` and the workload is selected without victims, but the copy of
    its admission has a negative total and does not pass. -/
theorem wrapping_not_kept :
    validate wrapping = .ok () ∧ MemoryMatches wrapping
      ∧ (selectOneForAdmission wrapping).selectedID = (asking 1).workloadID
      ∧ (selectOneForAdmission wrapping).victims = []
      ∧ ∃ out, applyVirtualAdmission wrapping (asking 1) 9 = .ok out
        ∧ validate out = .error (.totalFreeMemoryMiBNegative (-2)) :=
  ⟨by decide +kernel, memoryMatches_of_entries (by decide +kernel), by decide +kernel,
    by decide +kernel,
    afterAdmissionWith wrap wrapping (asking 1) ⟨1, 2 ^ 63 - 1, 2 ^ 63 - 1⟩ 9, rfl,
    by decide +kernel⟩

end GpuIntAdmission
