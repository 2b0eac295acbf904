import GpuScheduler.GoFmtProofs
import GpuScheduler.CRNameProofs
import GpuScheduler.CRDProofs

/-! # The texts of the simulator's errors

    The reconciler tells two errors from all others by searching their texts, and most texts
    quote something: an ID, a profile, a kind.  Here every error has its text.  What a stored
    workload's name contributes is harmless; its profiles are free texts, and an error about
    one of them looks like what the profile says (`looksRunning`). -/

namespace GpuErrorText

open GoStrings GoFmt GpuInputs GpuWorkload GpuPlacement GpuSimulator GpuCRD

variable (v : Verbs)

/-! ## Texts -/

/-- The text of a kind. -/
def kindText : WorkloadKind → String
  | .training => "training"
  | .inference => "inference"
  | .eval => "eval"
  | .fineTune => "fine_tune"
  | .rlhf => "rlhf"
  | .embedding => "embedding"
  | .dataPreprocess => "data_preprocess"
  | .distillation => "distillation"
  | .other raw _ => raw

/-- The path of a fraction, and its range. -/
def fractionText : FractionField → String
  | .jitterPct => "jitter.pct must be in (0,1]"
  | .evalMetricOverheadPct => "eval.metricOverheadPct must be in [0,1]"
  | .evalValidationOverheadPct => "eval.validationOverheadPct must be in [0,1]"
  | .fineTuneWarmStartOverheadPct => "fineTune.warmStartOverheadPct must be in [0,1]"
  | .fineTuneCheckpointLoadOverheadPct => "fineTune.checkpointLoadOverheadPct must be in [0,1]"
  | .dataPreprocessTokenizationOverheadPct =>
      "dataPreprocess.tokenizationOverheadPct must be in [0,1]"
  | .dataPreprocessAugmentationOverheadPct =>
      "dataPreprocess.augmentationOverheadPct must be in [0,1]"
  | .distillationTeacherForwardOverheadPct =>
      "distillation.teacherForwardOverheadPct must be in [0,1]"

/-- The text of a refused specification. -/
def buildText : BuildError → String
  | .nodeCountNotPositive got => "NodeCount must be positive, got " ++ fmtInt got
  | .devicesPerNodeNotPositive got => "DevicesPerNode must be positive, got " ++ fmtInt got
  | .memoryMiBPerDeviceNotPositive got =>
      "MemoryMiBPerDevice must be positive, got " ++ fmtInt got

/-- The text of a failed placement. -/
def placementText : PlacementError → String
  | .noSingleNode need =>
      "requireSameNode=true but no node has " ++ fmtNat need ++ " eligible devices"
  | .unknownPolicy raw => "unknown placementPolicy " ++ quote v raw

/-- `err.Error()` of the simulator's errors. -/
def errorText : SimError → String
  | .build err => buildText err
  | .workloadIDRequired => "workloadID is required"
  | .gpuCountNotPositive got => "gpuCount must be positive, got " ++ fmtInt got
  | .memMiBNotPositive got => "memMiB must be positive, got " ++ fmtInt got
  | .alreadyAllocated id => "workload " ++ quote v id ++ " already has an allocation"
  | .fleetNotRegistered => "fleet is not registered"
  | .maxNodesNegative got => "maxNodes must be >= 0, got " ++ fmtInt got
  | .placementFailed id err =>
      "placement failed for workload " ++ quote v id ++ ": " ++ placementText v err
  | .insufficientDevices id need memMiB found =>
      "insufficient free devices for workload " ++ quote v id
        ++ (": need " ++ fmtInt need ++ " devices with >=" ++ fmtInt memMiB
          ++ " MiB each, found " ++ fmtInt found)
  | .tokensNotPositive got => "tokens must be positive, got " ++ fmtInt got
  | .profileRequired => "profile is required"
  | .unsupportedKind kind => "unsupported workload kind " ++ quote v (kindText kind)
  | .fractionOutOfRange field got => fractionText field ++ ", got " ++ fmtFloat v got
  | .unknownTeacherProfile profile =>
      "unknown teacher profile " ++ quote v profile ++ " for distillation"
  | .noAllocation id =>
      "workload " ++ quote v id ++ " has no allocation; call Allocate first"
  | .allocationEmpty id => "workload " ++ quote v id ++ " allocation has no devices"
  | .alreadyRunning id runID =>
      "workload " ++ quote v id ++ " already has a running run (" ++ runID ++ ")"
  | .deviceCountNotPositive got => "deviceCount must be positive, got " ++ fmtInt got
  | .unknownRuntimeProfile profile =>
      "unknown profile " ++ quote v profile ++ " for runtime estimation"
  | .unknownHardwareProfile profile =>
      "unknown profile " ++ quote v profile ++ " for hardware metadata"
  | .runIDRequired => "runID is required"
  | .runNotFound runID => "run " ++ quote v runID ++ " not found"
  | .runForWorkloadNotFound id => "run for workload " ++ quote v id ++ " not found"

/-- `isAlreadyAllocatedErr`. -/
def isAlreadyAllocatedErr (e : SimError) : Bool :=
  contains (toLower (errorText v e)) "already has an allocation"

/-- `isAlreadyRunningErr`. -/
def isAlreadyRunningErr (e : SimError) : Bool :=
  contains (toLower (errorText v e)) "already has a running run"

/-! ## What the texts say -/

/-- What the API server requires of a namespace and a name: lower-case letters, digits and
    hyphens, in a name dots too, and a letter or a digit at the front. -/
structure Nameable (ns name : String) : Prop where
  ns_valid : ∀ c ∈ ns.toList, GpuCRName.dns1123Invalid c = false
  ns_front : ns.toList.head?.any GpuCRName.isAlnum = true
  name_valid : ∀ c ∈ name.toList, GpuCRName.dns1123Invalid c = false ∨ c = '.'
  name_front : name.toList.head?.any GpuCRName.isAlnum = true

/-- The check of a namespace and a name. -/
def nameable (ns name : String) : Bool :=
  ns.toList.all (fun c => !GpuCRName.dns1123Invalid c)
    && ns.toList.head?.any GpuCRName.isAlnum
    && name.toList.all (fun c => !GpuCRName.dns1123Invalid c || c == '.')
    && name.toList.head?.any GpuCRName.isAlnum

theorem nameable_iff {ns name : String} : nameable ns name = true ↔ Nameable ns name := by
  simp only [nameable, Bool.and_eq_true, List.all_eq_true, Bool.or_eq_true, beq_iff_eq,
    Bool.not_eq_true']
  constructor
  · rintro ⟨⟨⟨hns, hfront⟩, hname⟩, hname_front⟩
    exact ⟨hns, hfront, hname, hname_front⟩
  · exact fun h => ⟨⟨⟨h.ns_valid, h.ns_front⟩, h.name_valid⟩, h.name_front⟩

instance (ns name : String) : Decidable (Nameable ns name) := decidable_of_iff _ nameable_iff

/-- A stored workload: besides the declared rules, its names are those of an object. -/
structure Stored extends Accepted where
  names : Nameable workload.ns workload.name

/-- The text, quoted, reads like the error that a run exists. -/
def looksRunning (text : String) : Bool :=
  contains (toLower (escape v text)) "already has a running run"

theorem plain_of_valid {c : Char} (h : GpuCRName.dns1123Invalid c = false) : Plain c := by
  have hrange : (97 ≤ c.toNat ∧ c.toNat ≤ 122) ∨ (48 ≤ c.toNat ∧ c.toNat ≤ 57)
      ∨ c.toNat = 45 := by
    simp only [GpuCRName.dns1123Invalid, GpuCRName.isAlnum, Bool.not_eq_false', Bool.or_eq_true,
      Bool.and_eq_true, decide_eq_true_eq, beq_iff_eq] at h
    rcases h with (h | h) | h
    · exact Or.inl ⟨UInt32.le_iff_toNat_le.mp h.1, UInt32.le_iff_toNat_le.mp h.2⟩
    · exact Or.inr (Or.inl ⟨UInt32.le_iff_toNat_le.mp h.1, UInt32.le_iff_toNat_le.mp h.2⟩)
    · exact Or.inr (Or.inr (congrArg Char.toNat h))
  refine ⟨⟨by omega, by omega⟩, by omega, fun heq => ?_, fun heq => ?_⟩
  · have hquote : c.toNat = 34 := congrArg Char.toNat heq
    omega
  · have hback : c.toNat = 92 := congrArg Char.toNat heq
    omega

/-- The ID of an object is made of plain characters. -/
theorem Nameable.plain {w : GPUWorkload} (h : Nameable w.ns w.name) :
    ∀ c ∈ w.id.toList, Plain c := by
  intro c hc
  rw [GPUWorkload.id, workloadID, String.toList_append, String.toList_append] at hc
  rcases List.mem_append.mp hc with hc | hc
  · rcases List.mem_append.mp hc with hc | hc
    · exact plain_of_valid (h.ns_valid c hc)
    · rw [List.mem_singleton.mp hc]
      exact ⟨by decide, by decide, by decide, by decide⟩
  · rcases h.name_valid c hc with hvalid | rfl
    · exact plain_of_valid hvalid
    · exact ⟨by decide, by decide, by decide, by decide⟩

theorem plain_id (a : Stored) : ∀ c ∈ a.workload.id.toList, Plain c := a.names.plain

/-- Parts of the texts that are the same for every workload. -/
def constantParts : List String :=
  ["workload ", " allocation has no devices", " has no allocation; call Allocate first",
    "profile is required", "workloadID is required", "tokens must be positive, got ",
    "jitter.pct must be in (0,1], got 0", "unknown teacher profile ", " for distillation",
    "unknown profile ", " for runtime estimation", "memMiB must be positive, got ",
    "fleet is not registered", "insufficient free devices for workload ", ": need ",
    " devices with >=", " MiB each, found "]

/-- Both of the searched texts have a letter that none of the constant parts has. -/
theorem not_mem_y_constant : ∀ t ∈ constantParts, 'y' ∉ (toLower t).toList := by
  have hascii : constantParts.all (fun t => t.toList.all (fun d =>
      d.toNat < 128 && (d != 'y' && Char.ofNat (d.toNat + 32) != 'y'))) = true := by
    decide +kernel
  intro t ht
  refine not_mem_toLower_of_ascii (fun d hd => ?_)
  have hd' := List.all_eq_true.mp (List.all_eq_true.mp hascii t ht) d hd
  simp only [Bool.and_eq_true, decide_eq_true_eq, bne_iff_ne] at hd'
  exact hd'

/-- A text without that letter does not read like that of a running run. -/
theorem not_running_of_not_mem {text : String} (h : 'y' ∉ (toLower text).toList) :
    contains (toLower text) "already has a running run" = false :=
  not_contains_of_not_mem (show 'y' ∈ "already has a running run".toList by decide) h

/-- Nor like that of an existing allocation. -/
theorem not_allocated_of_not_mem {text : String} (h : 'y' ∉ (toLower text).toList) :
    contains (toLower text) "already has an allocation" = false :=
  not_contains_of_not_mem (show 'y' ∈ "already has an allocation".toList by decide) h

theorem not_running_constant {t : String} (h : t ∈ constantParts) :
    contains (toLower t) "already has a running run" = false :=
  not_running_of_not_mem (not_mem_y_constant t h)

/-- No number has the letter either. -/
theorem not_mem_y_fmtInt (n : Int) : 'y' ∉ (toLower (fmtInt n)).toList :=
  not_mem_toLower_fmtInt (by decide) (by decide) n

/-- The two errors say what is searched for. -/
theorem searched_found :
    contains (toLower " already has a running run (") "already has a running run" = true
      ∧ contains (toLower " already has an allocation") "already has an allocation" = true := by
  decide +kernel

/-- An unknown teacher profile looks like a running run when its text does. -/
theorem isAlreadyRunningErr_teacher (profile : String) :
    isAlreadyRunningErr v (.unknownTeacherProfile profile) = looksRunning v profile :=
  contains_quoted v profile (by decide) (not_running_constant (by simp [constantParts]))
    (not_running_constant (by simp [constantParts]))

/-- So does an unknown profile. -/
theorem isAlreadyRunningErr_profile (profile : String) :
    isAlreadyRunningErr v (.unknownRuntimeProfile profile) = looksRunning v profile :=
  contains_quoted v profile (by decide) (not_running_constant (by simp [constantParts]))
    (not_running_constant (by simp [constantParts]))

theorem isAlreadyRunningErr_running (id runID : String) :
    isAlreadyRunningErr v (.alreadyRunning id runID) = true :=
  contains_append_left _ (contains_append_left _ (contains_append_right _ searched_found.1))

theorem isAlreadyAllocatedErr_allocated (id : String) :
    isAlreadyAllocatedErr v (.alreadyAllocated id) = true :=
  contains_append_right _ searched_found.2

/-- A text that quotes the ID of an object between constant parts does not look so. -/
theorem not_running_quoted {id : String} (hid : ∀ c ∈ id.toList, Plain c) {front back : String}
    (hfront : front ∈ constantParts) (hback : back ∈ constantParts) :
    contains (toLower (front ++ quote v id ++ back)) "already has a running run" = false :=
  (contains_quoted v id (by decide) (not_running_constant hfront)
    (not_running_constant hback)).trans (not_contains_of_plain v hid (by decide))

theorem isAlreadyRunningErr_empty {id : String} (hid : ∀ c ∈ id.toList, Plain c) :
    isAlreadyRunningErr v (.allocationEmpty id) = false :=
  not_running_quoted v hid (by simp [constantParts]) (by simp [constantParts])

theorem isAlreadyRunningErr_noAllocation {id : String} (hid : ∀ c ∈ id.toList, Plain c) :
    isAlreadyRunningErr v (.noAllocation id) = false :=
  not_running_quoted v hid (by simp [constantParts]) (by simp [constantParts])

theorem isAlreadyRunningErr_workloadIDRequired :
    isAlreadyRunningErr v .workloadIDRequired = false :=
  not_running_constant (t := "workloadID is required") (by simp [constantParts])

theorem isAlreadyRunningErr_tokens (got : Int) :
    isAlreadyRunningErr v (.tokensNotPositive got) = false :=
  not_running_of_not_mem (not_mem_append
    (not_mem_y_constant "tokens must be positive, got " (by simp [constantParts]))
    (not_mem_y_fmtInt got))

theorem isAlreadyRunningErr_profileRequired :
    isAlreadyRunningErr v .profileRequired = false :=
  not_running_constant (t := "profile is required") (by simp [constantParts])

theorem isAlreadyRunningErr_jitter :
    isAlreadyRunningErr v (.fractionOutOfRange .jitterPct 0) = false := by
  show contains (toLower "jitter.pct must be in (0,1], got 0") "already has a running run" = false
  exact not_running_constant (by simp [constantParts])

theorem isAlreadyAllocatedErr_memory (got : Int) :
    isAlreadyAllocatedErr v (.memMiBNotPositive got) = false := by
  have hconst := not_mem_y_constant "memMiB must be positive, got " (by simp [constantParts])
  exact not_allocated_of_not_mem (not_mem_append hconst (not_mem_y_fmtInt got))

theorem isAlreadyAllocatedErr_fleet : isAlreadyAllocatedErr v .fleetNotRegistered = false :=
  not_allocated_of_not_mem
    (not_mem_y_constant "fleet is not registered" (by simp [constantParts]))

theorem isAlreadyAllocatedErr_insufficient {id : String} (hid : ∀ c ∈ id.toList, Plain c)
    (need memMiB : Int) (found : Nat) :
    isAlreadyAllocatedErr v (.insufficientDevices id need memMiB found) = false := by
  have h1 := not_mem_y_constant ": need " (by simp [constantParts])
  have h2 := not_mem_y_constant " devices with >=" (by simp [constantParts])
  have h3 := not_mem_y_constant " MiB each, found " (by simp [constantParts])
  have hpost := not_allocated_of_not_mem (not_mem_append (not_mem_append (not_mem_append
    (not_mem_append (not_mem_append h1 (not_mem_y_fmtInt need)) h2) (not_mem_y_fmtInt memMiB)) h3)
    (not_mem_y_fmtInt found))
  have hpre := not_allocated_of_not_mem
    (not_mem_y_constant "insufficient free devices for workload " (by simp [constantParts]))
  have hquoted := contains_quoted v id (by decide) hpre hpost
  exact hquoted.trans (not_contains_of_plain v hid (by decide))

end GpuErrorText
