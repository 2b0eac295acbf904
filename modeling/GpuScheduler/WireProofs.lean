import GpuScheduler.GoJsonProofs
import GpuScheduler.ErrorTextProofs
import GpuScheduler.RequestProofs

/-! # Wire formats of the simulator's HTTP interface

    The requests and responses of the interface as JSON structures, under the names that the
    Go types and their tags give the fields.  Both sides use the same ones, so a request that
    a client writes is the request that the server reads, provided that its enumerations are
    values and not texts in disguise (`startRequest_faithful`). -/

namespace GpuWire

open GoStrings GoJson GpuInputs GpuPlacement GpuSimulator GpuRequest GpuErrorText

/-! ## Texts of the enumerations -/


/-- The text of a placement policy. -/
def policyText : PlacementPolicy → String
  | .unset => ""
  | .firstFit => "first_fit"
  | .pack => "pack"
  | .spread => "spread"
  | .localityAware => "locality_aware"
  | .other raw _ => raw

/-- The policies by their texts. -/
def policies : List (String × PlacementPolicy) :=
  [("", .unset), ("first_fit", .firstFit), ("pack", .pack), ("spread", .spread),
    ("locality_aware", .localityAware)]

theorem not_policyName_of_lookup {s : String} (h : policies.lookup s = none) :
    s ∉ policyNames := by
  intro hmem
  have hsome : policyNames.all (fun s => (policies.lookup s).isSome) = true := by decide
  have hfound := List.all_eq_true.mp hsome s hmem
  rw [h] at hfound
  cases hfound

/-- The conversion of a string to a `PlacementPolicy`. -/
def placementPolicy (s : String) : PlacementPolicy :=
  match h : policies.lookup s with
  | some policy => policy
  | none => .other s (not_policyName_of_lookup h)

/-- The text of a run's status. -/
def statusText : RunStatus → String
  | .running => "Running"
  | .succeeded => "Succeeded"
  | .failed => "Failed"
  | .preempted => "Preempted"

/-- `AllocationOptions`. -/
def allocationOptions : Struct AllocationOptions where
  fields :=
    [(string.via policyText placementPolicy).field "PlacementPolicy" (fun o => o.placementPolicy)
        (fun p o => { o with placementPolicy := p }),
      boolean.field "RequireSameNode" (fun o => o.requireSameNode)
        (fun b o => { o with requireSameNode := b }),
      integer.field "MaxNodes" (fun o => o.maxNodes) (fun n o => { o with maxNodes := n }),
      string.field "PreferredDeviceType" (fun o => o.preferredDeviceType)
        (fun s o => { o with preferredDeviceType := s }),
      string.field "PreferredProfile" (fun o => o.preferredProfile)
        (fun s o => { o with preferredProfile := s })]
  distinct := by decide
  complete _ _ := rfl

/-- `GPUNodePoolSpec`. -/
def nodePoolSpec : Struct GPUNodePoolSpec where
  fields :=
    [integer.field "NodeCount" (fun p => p.nodeCount) (fun n p => { p with nodeCount := n }),
      integer.field "DevicesPerNode" (fun p => p.devicesPerNode)
        (fun n p => { p with devicesPerNode := n }),
      integer.field "MemoryMiBPerDevice" (fun p => p.memoryMiBPerDevice)
        (fun n p => { p with memoryMiBPerDevice := n }),
      string.field "DeviceType" (fun p => p.deviceType) (fun s p => { p with deviceType := s }),
      string.field "Profile" (fun p => p.profile) (fun s p => { p with profile := s })]
  distinct := by decide
  complete _ _ := rfl

/-- `TrainingRuntime`. -/
def trainingRuntime : Struct TrainingRuntime where
  fields :=
    [integer.field "GlobalBatchSize" (fun t => t.globalBatchSize)
        (fun n t => { t with globalBatchSize := n }),
      integer.field "MicroBatchSize" (fun t => t.microBatchSize)
        (fun n t => { t with microBatchSize := n }),
      integer.field "GradAccumSteps" (fun t => t.gradAccumSteps)
        (fun n t => { t with gradAccumSteps := n }),
      integer.field "SequenceLength" (fun t => t.sequenceLength)
        (fun n t => { t with sequenceLength := n })]
  distinct := by decide
  complete _ _ := rfl

/-- `InferenceRuntime`, which is its batch size. -/
def inferenceRuntime : Struct Int where
  fields := [integer.field "BatchSize" (fun n => n) (fun n _ => n)]
  distinct := by decide
  complete _ _ := rfl

/-- `EvalRuntime`. -/
def evalRuntime : Struct EvalRuntime where
  fields :=
    [integer.field "BatchSize" (fun e => e.batchSize) (fun n e => { e with batchSize := n }),
      float.field "MetricOverheadPct" (fun e => e.metricOverheadPct)
        (fun x e => { e with metricOverheadPct := x }),
      float.field "ValidationOverheadPct" (fun e => e.validationOverheadPct)
        (fun x e => { e with validationOverheadPct := x })]
  distinct := by decide
  complete _ _ := rfl

/-- `FineTuneRuntime`. -/
def fineTuneRuntime : Struct FineTuneRuntime where
  fields :=
    [integer.field "GlobalBatchSize" (fun f => f.globalBatchSize)
        (fun n f => { f with globalBatchSize := n }),
      integer.field "MicroBatchSize" (fun f => f.microBatchSize)
        (fun n f => { f with microBatchSize := n }),
      integer.field "GradAccumSteps" (fun f => f.gradAccumSteps)
        (fun n f => { f with gradAccumSteps := n }),
      float.field "WarmStartOverheadPct" (fun f => f.warmStartOverheadPct)
        (fun x f => { f with warmStartOverheadPct := x }),
      float.field "CheckpointLoadOverheadPct" (fun f => f.checkpointLoadOverheadPct)
        (fun x f => { f with checkpointLoadOverheadPct := x })]
  distinct := by decide
  complete _ _ := rfl

/-- `RLHFRuntime`. -/
def rlhfRuntime : Struct RLHFRuntime where
  fields :=
    [integer.field "RolloutBatchSize" (fun r => r.rolloutBatchSize)
        (fun n r => { r with rolloutBatchSize := n }),
      integer.field "RewardBatchSize" (fun r => r.rewardBatchSize)
        (fun n r => { r with rewardBatchSize := n }),
      integer.field "UpdateBatchSize" (fun r => r.updateBatchSize)
        (fun n r => { r with updateBatchSize := n }),
      integer.field "PolicyUpdateSteps" (fun r => r.policyUpdateSteps)
        (fun n r => { r with policyUpdateSteps := n })]
  distinct := by decide
  complete _ _ := rfl

/-- `EmbeddingRuntime`. -/
def embeddingRuntime : Struct EmbeddingRuntime where
  fields :=
    [integer.field "BatchSize" (fun e => e.batchSize) (fun n e => { e with batchSize := n }),
      integer.field "VectorDimension" (fun e => e.vectorDimension)
        (fun n e => { e with vectorDimension := n }),
      integer.field "AvgTokenLength" (fun e => e.avgTokenLength)
        (fun n e => { e with avgTokenLength := n })]
  distinct := by decide
  complete _ _ := rfl

/-- `DataPreprocessRuntime`. -/
def dataPreprocessRuntime : Struct DataPreprocessRuntime where
  fields :=
    [integer.field "InputBytes" (fun d => d.inputBytes) (fun n d => { d with inputBytes := n }),
      float.field "TokenizationOverheadPct" (fun d => d.tokenizationOverheadPct)
        (fun x d => { d with tokenizationOverheadPct := x }),
      float.field "AugmentationOverheadPct" (fun d => d.augmentationOverheadPct)
        (fun x d => { d with augmentationOverheadPct := x })]
  distinct := by decide
  complete _ _ := rfl

/-- `DistillationRuntime`. -/
def distillationRuntime : Struct DistillationRuntime where
  fields :=
    [string.field "TeacherProfile" (fun d => d.teacherProfile)
        (fun s d => { d with teacherProfile := s }),
      integer.field "BatchSize" (fun d => d.batchSize) (fun n d => { d with batchSize := n }),
      float.field "TeacherForwardOverheadPct" (fun d => d.teacherForwardOverheadPct)
        (fun x d => { d with teacherForwardOverheadPct := x })]
  distinct := by decide
  complete _ _ := rfl

/-- `JitterConfig`. -/
def jitterConfig : Struct JitterConfig where
  fields :=
    [boolean.field "Enabled" (fun j => j.enabled) (fun b j => { j with enabled := b }),
      float.field "Pct" (fun j => j.pct) (fun x j => { j with pct := x }),
      integer.field "Seed" (fun j => j.seed) (fun n j => { j with seed := n })]
  distinct := by decide
  complete _ _ := rfl

/-- `allocateRequest`. -/
structure AllocateRequest where
  workloadID : String
  gpuCount : Int
  memMiB : Int
  options : AllocationOptions

/-- `registerFleetRequest`. -/
structure RegisterFleetRequest where
  poolKey : String
  spec : GPUNodePoolSpec

section
variable (folding : Folding) (strict : Bool)

/-- `allocateRequest`, as the client writes it and the server reads it. -/
def allocateRequest : Struct AllocateRequest where
  fields :=
    [string.field "workloadID" (fun r => r.workloadID) (fun s r => { r with workloadID := s }),
      integer.field "gpuCount" (fun r => r.gpuCount) (fun n r => { r with gpuCount := n }),
      integer.field "memMiB" (fun r => r.memMiB) (fun n r => { r with memMiB := n }),
      (allocationOptions.codec folding strict).field "options" (fun r => r.options)
        (fun o r => { r with options := o })]
  distinct := (by decide : ["workloadID", "gpuCount", "memMiB", "options"].Nodup)
  complete _ _ := rfl

/-- `registerFleetRequest`. -/
def registerFleetRequest : Struct RegisterFleetRequest where
  fields :=
    [string.field "poolKey" (fun r => r.poolKey) (fun s r => { r with poolKey := s }),
      (nodePoolSpec.codec folding strict).field "spec" (fun r => r.spec)
        (fun p r => { r with spec := p })]
  distinct := (by decide : ["poolKey", "spec"].Nodup)
  complete _ _ := rfl

/-- `startRequest`: the fields of the embedded `RuntimeInput`. -/
def startRequest : Struct RuntimeInput where
  fields :=
    [string.field "WorkloadID" (fun i => i.workloadID) (fun s i => { i with workloadID := s }),
      integer.field "Tokens" (fun i => i.tokens) (fun n i => { i with tokens := n }),
      string.field "Profile" (fun i => i.profile) (fun s i => { i with profile := s }),
      (string.via kindText workloadKind).field "Kind" (fun i => i.kind)
        (fun k i => { i with kind := k }),
      (trainingRuntime.pointer folding strict ⟨0, 0, 0, 0⟩).field "Training"
        (fun i => i.training) (fun p i => { i with training := p }),
      (inferenceRuntime.pointer folding strict 0).field "Inference"
        (fun i => i.inference) (fun p i => { i with inference := p }),
      (evalRuntime.pointer folding strict ⟨0, 0, 0⟩).field "Eval"
        (fun i => i.eval) (fun p i => { i with eval := p }),
      (fineTuneRuntime.pointer folding strict ⟨0, 0, 0, 0, 0⟩).field "FineTune"
        (fun i => i.fineTune) (fun p i => { i with fineTune := p }),
      (rlhfRuntime.pointer folding strict ⟨0, 0, 0, 0⟩).field "RLHF"
        (fun i => i.rlhf) (fun p i => { i with rlhf := p }),
      (embeddingRuntime.pointer folding strict ⟨0, 0, 0⟩).field "Embedding"
        (fun i => i.embedding) (fun p i => { i with embedding := p }),
      (dataPreprocessRuntime.pointer folding strict ⟨0, 0, 0⟩).field "DataPreprocess"
        (fun i => i.dataPreprocess) (fun p i => { i with dataPreprocess := p }),
      (distillationRuntime.pointer folding strict ⟨"", 0, 0⟩).field "Distillation"
        (fun i => i.distillation) (fun p i => { i with distillation := p }),
      (jitterConfig.pointer folding strict ⟨false, 0, 0⟩).field "Jitter"
        (fun i => i.jitter) (fun p i => { i with jitter := p })]
  distinct := (by decide : ["WorkloadID", "Tokens", "Profile", "Kind", "Training", "Inference",
    "Eval", "FineTune", "RLHF", "Embedding", "DataPreprocess", "Distillation", "Jitter"].Nodup)
  complete a z := by
    cases a
    cases z
    rfl

end

/-- `deregisterFleetRequest`: the pool's key. -/
def deregisterFleetRequest : Struct String where
  fields := [string.field "poolKey" (fun s => s) (fun s _ => s)]
  distinct := by decide
  complete _ _ := rfl

/-- `startResponse`: the run's ID. -/
def startResponse : Struct String where
  fields := [string.field "runID" (fun s => s) (fun s _ => s)]
  distinct := by decide
  complete _ _ := rfl

/-- `runStatusResponse`; Go's `RunStatus` is its text. -/
structure RunStatusResponse where
  runID : String
  status : String

/-- `runStatusResponse`, as the server writes it and the client reads it. -/
def runStatusResponse : Struct RunStatusResponse where
  fields :=
    [string.field "runID" (fun r => r.runID) (fun s r => { r with runID := s }),
      string.field "status" (fun r => r.status) (fun s r => { r with status := s })]
  distinct := by decide
  complete _ _ := rfl

/-- `errorResponse`, which the client reads through a field of another name. -/
def errorResponse (name : String) : Struct String where
  fields := [string.field name (fun s => s) (fun s _ => s)]
  distinct := List.nodup_singleton _
  complete _ _ := rfl

/-! ## What survives -/

/-- A structure all of whose values survive. -/
def Plain {σ : Type} (c : Struct σ) : Prop := ∀ f ∈ c.fields, ∀ a, f.Faithful a

theorem plain_trainingRuntime : Plain trainingRuntime := by
  simp [Plain, trainingRuntime, Codec.field, integer]

theorem plain_inferenceRuntime : Plain inferenceRuntime := by
  simp [Plain, inferenceRuntime, Codec.field, integer]

theorem plain_evalRuntime : Plain evalRuntime := by
  simp [Plain, evalRuntime, Codec.field, integer, float]

theorem plain_fineTuneRuntime : Plain fineTuneRuntime := by
  simp [Plain, fineTuneRuntime, Codec.field, integer, float]

theorem plain_rlhfRuntime : Plain rlhfRuntime := by
  simp [Plain, rlhfRuntime, Codec.field, integer]

theorem plain_embeddingRuntime : Plain embeddingRuntime := by
  simp [Plain, embeddingRuntime, Codec.field, integer]

theorem plain_dataPreprocessRuntime : Plain dataPreprocessRuntime := by
  simp [Plain, dataPreprocessRuntime, Codec.field, integer, float]

theorem plain_distillationRuntime : Plain distillationRuntime := by
  simp [Plain, distillationRuntime, Codec.field, integer, string, float]

theorem plain_jitterConfig : Plain jitterConfig := by
  simp [Plain, jitterConfig, Codec.field, boolean, integer, float]

theorem plain_nodePoolSpec : Plain nodePoolSpec := by
  simp [Plain, nodePoolSpec, Codec.field, integer, string]

/-- A field that points to such a structure survives. -/
theorem Plain.field {σ τ : Type} {c : Struct σ} (h : Plain c) {folding : Folding} {strict : Bool}
    {zero : σ} {name : String} {get : τ → Option σ} {set : Option σ → τ → τ} (a : τ) :
    ((c.pointer folding strict zero).field name get set).Faithful a :=
  fun x _ f hf => h f hf x

section
variable (folding : Folding) (strict : Bool)

/-- The request of an allocation survives when its policy is read back. -/
theorem allocateRequest_faithful {r : AllocateRequest}
    (h : placementPolicy (policyText r.options.placementPolicy) = r.options.placementPolicy) :
    ∀ f ∈ (allocateRequest folding strict).fields, f.Faithful r := by
  have hoptions : ∀ f ∈ allocationOptions.fields, f.Faithful r.options :=
    List.forall_mem_cons.mpr ⟨⟨trivial, h⟩, List.forall_mem_cons.mpr ⟨trivial,
      List.forall_mem_cons.mpr ⟨trivial, List.forall_mem_cons.mpr ⟨trivial,
        List.forall_mem_singleton.mpr trivial⟩⟩⟩⟩
  exact List.forall_mem_cons.mpr ⟨trivial, List.forall_mem_cons.mpr ⟨trivial,
    List.forall_mem_cons.mpr ⟨trivial, List.forall_mem_singleton.mpr hoptions⟩⟩⟩

/-- The request of a registration survives. -/
theorem registerFleetRequest_faithful (r : RegisterFleetRequest) :
    ∀ f ∈ (registerFleetRequest folding strict).fields, f.Faithful r :=
  List.forall_mem_cons.mpr ⟨trivial,
    List.forall_mem_singleton.mpr (fun f hf => plain_nodePoolSpec f hf r.spec)⟩

/-- The request of a start survives when its kind is read back. -/
theorem startRequest_faithful {input : RuntimeInput}
    (h : workloadKind (kindText input.kind) = input.kind) :
    ∀ f ∈ (startRequest folding strict).fields, f.Faithful input := by
  refine List.forall_mem_cons.mpr ⟨trivial, List.forall_mem_cons.mpr ⟨trivial,
    List.forall_mem_cons.mpr ⟨trivial, List.forall_mem_cons.mpr ⟨⟨trivial, h⟩, ?_⟩⟩⟩⟩
  -- the sections and the jitter are pointers to structures of numbers and texts
  exact List.forall_mem_cons.mpr ⟨plain_trainingRuntime.field input,
    List.forall_mem_cons.mpr ⟨plain_inferenceRuntime.field input,
    List.forall_mem_cons.mpr ⟨plain_evalRuntime.field input,
    List.forall_mem_cons.mpr ⟨plain_fineTuneRuntime.field input,
    List.forall_mem_cons.mpr ⟨plain_rlhfRuntime.field input,
    List.forall_mem_cons.mpr ⟨plain_embeddingRuntime.field input,
    List.forall_mem_cons.mpr ⟨plain_dataPreprocessRuntime.field input,
    List.forall_mem_cons.mpr ⟨plain_distillationRuntime.field input,
    List.forall_mem_singleton.mpr (plain_jitterConfig.field input)⟩⟩⟩⟩⟩⟩⟩⟩

end

/-- A supported kind is read back. -/
theorem workloadKind_kindText {kind : WorkloadKind} (h : kind.supported = true) :
    workloadKind (kindText kind) = kind := by
  cases kind with
  | other raw _ => cases h
  | _ => decide

end GpuWire
