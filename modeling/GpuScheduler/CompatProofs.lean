import GpuScheduler.InputsProofs

/-! # Compatibility and fit of one queued workload

    The checks of `compat.go` and `fit.go` on the aggregated capacity.  They read
    the profile twice: `CompatibleProfileAndKind` under its normalised name, the fit
    checks under the name as given. -/

namespace GpuCompat

open GoStrings GoMaps GpuInputs

/-- The profile names of the embedded `hardware_profiles.json`: the keys of
    `sim.HardwareProfiles()`. -/
def hardwareProfiles : List String :=
  ["h100_sxm", "a100_80gb", "tpu_v5e_chip", "trn1_instance"]

/-- `normalizeProfileName`. -/
def normalizeProfileName (p : String) : String := toLower (trimSpace p)

/-- A normalized name is its own normal form. -/
theorem normalizeProfileName_idem (p : String) :
    normalizeProfileName (normalizeProfileName p) = normalizeProfileName p :=
  toLower_trimSpace_idem p

/-- The errors of the three checks. -/
inductive FitError where
  | unsupportedKind (kind : WorkloadKind)
  | profileRequired
  | profileNotInSnapshot (profile : String)
  | profileUnknown (profile : String)
  | gpuCountNotPositive (got : Int)
  | gpuMemoryMiBNotPositive (got : Int)
  | noCapacityEntry (profile : String)
  | missingMemoryMiBPerDevice (profile : String)
  deriving DecidableEq, Repr

/-- The key is in the capacity map; a nil map is not consulted. -/
def inSnapshot (fleet : FleetFreeCapacity) (profile : String) : Bool :=
  match fleet.byProfile with
  | none => true
  | some m => (m.lookup profile).isSome

/-- `CompatibleProfileAndKind`. -/
def compatibleProfileAndKind (w : QueuedWorkload) (fleet : FleetFreeCapacity) :
    Except FitError Unit :=
  if w.kind.supported = false then .error (.unsupportedKind w.kind)
  else if normalizeProfileName w.profile = "" then .error .profileRequired
  else if inSnapshot fleet (normalizeProfileName w.profile) = false then
    .error (.profileNotInSnapshot (normalizeProfileName w.profile))
  else if normalizeProfileName w.profile ∉ hardwareProfiles then
    .error (.profileUnknown (normalizeProfileName w.profile))
  else .ok ()

/-- `FitsGPUCount`. -/
def fitsGPUCount (w : QueuedWorkload) (fleet : FleetFreeCapacity) : Except FitError Bool :=
  if w.gpuCount ≤ 0 then .error (.gpuCountNotPositive w.gpuCount)
  else if w.profile = "" then .error .profileRequired
  else match fleet.entry w.profile with
  | none => .error (.noCapacityEntry w.profile)
  | some cap => .ok (decide (w.gpuCount ≤ cap.freeDevices))

/-- `FitsPerDeviceMemory`. -/
def fitsPerDeviceMemory (w : QueuedWorkload) (fleet : FleetFreeCapacity) :
    Except FitError Bool :=
  if w.gpuMemoryMiB ≤ 0 then .error (.gpuMemoryMiBNotPositive w.gpuMemoryMiB)
  else if w.profile = "" then .error .profileRequired
  else match fleet.entry w.profile with
  | none => .error (.noCapacityEntry w.profile)
  | some cap =>
      if cap.memoryMiBPerDevice ≤ 0 then .error (.missingMemoryMiBPerDevice w.profile)
      else .ok (decide (w.gpuMemoryMiB ≤ cap.memoryMiBPerDevice))

/-- The count fits exactly when the profile's entry has the devices. -/
theorem fitsGPUCount_true_iff {w : QueuedWorkload} (fleet : FleetFreeCapacity)
    (hg : 0 < w.gpuCount) (hp : w.profile ≠ "") :
    fitsGPUCount w fleet = .ok true
      ↔ ∃ cap, fleet.entry w.profile = some cap ∧ w.gpuCount ≤ cap.freeDevices := by
  rw [fitsGPUCount, if_neg (not_le.mpr hg), if_neg hp]
  cases hc : fleet.entry w.profile with
  | none => simp
  | some cap => simp

/-- The memory fits exactly when the profile's devices are large enough. -/
theorem fitsPerDeviceMemory_true_iff {w : QueuedWorkload} (fleet : FleetFreeCapacity)
    (hm : 0 < w.gpuMemoryMiB) (hp : w.profile ≠ "") :
    fitsPerDeviceMemory w fleet = .ok true
      ↔ ∃ cap, fleet.entry w.profile = some cap
        ∧ w.gpuMemoryMiB ≤ cap.memoryMiBPerDevice := by
  rw [fitsPerDeviceMemory, if_neg (not_le.mpr hm), if_neg hp]
  cases hc : fleet.entry w.profile with
  | none => simp
  | some cap =>
      by_cases h0 : cap.memoryMiBPerDevice ≤ 0
      · simp only [if_pos h0]
        constructor
        · intro h; cases h
        · rintro ⟨cap', hcap, hle⟩
          have := Option.some.inj hcap
          subst this
          omega
      · simp [h0]

end GpuCompat
