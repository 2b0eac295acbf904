import GpuScheduler.SimulatorProofs
import GpuScheduler.IsolationProofs

/-! # The validation rules of the GPUWorkload CRD

    The API server stores a `GPUWorkload` only if its specification satisfies the rules
    declared on the types: lengths and minima of the common fields, the enumeration of
    the kinds, the section that the kind needs, and the bounds of every section that is
    there.  The scheduler then checks the records it converts the object into once more,
    and skips the whole namespace for one bad entry.

    The two sets of rules are not the same: `suits_iff` says which stored workloads the
    scheduler's contract accepts. -/

namespace GpuCRD

open GoStrings GoMaps GpuInputs GpuCompat GpuWorkload GpuSimulator GpuCycle GpuIsolation

/-! ## The declared rules -/

/-- `JitterConfigSpec`. -/
structure JitterConfigSpec where
  enabled : Bool
  pct : Rat
  seed : Option Int
  deriving DecidableEq, Repr

/-- `GPUWorkloadSpec`, whole: the scheduler's part and the rest.  The sections have the
    fields of the simulator's; `inference` is the batch size. -/
structure Spec extends GPUWorkloadSpec where
  maxRuntimeSeconds : Option Int
  training : Option TrainingRuntime
  inference : Option Int
  eval : Option EvalRuntime
  fineTune : Option FineTuneRuntime
  rlhf : Option RLHFRuntime
  embedding : Option EmbeddingRuntime
  dataPreprocess : Option DataPreprocessRuntime
  distillation : Option DistillationRuntime
  jitter : Option JitterConfigSpec
  deriving DecidableEq, Repr

/-- The bounded fields of a section: integers with `Minimum=0`, and fractions with
    `Minimum=0` and `Maximum=1`. -/
structure Bounded where
  integers : List Int
  fractions : List Rat

/-- The bounds hold. -/
def Bounded.Ok (b : Bounded) : Prop := (∀ n ∈ b.integers, 0 ≤ n) ∧ ∀ x ∈ b.fractions, 0 ≤ x ∧ x ≤ 1

instance (b : Bounded) : Decidable b.Ok := inferInstanceAs (Decidable (_ ∧ _))

/-- `TrainingRuntimeSpec`. -/
def boundedTraining (t : TrainingRuntime) : Bounded :=
  ⟨[t.globalBatchSize, t.microBatchSize, t.gradAccumSteps, t.sequenceLength], []⟩

/-- `InferenceRuntimeSpec`. -/
def boundedInference (batchSize : Int) : Bounded := ⟨[batchSize], []⟩

/-- `EvalRuntimeSpec`. -/
def boundedEval (e : EvalRuntime) : Bounded :=
  ⟨[e.batchSize], [e.metricOverheadPct, e.validationOverheadPct]⟩

/-- `FineTuneRuntimeSpec`. -/
def boundedFineTune (f : FineTuneRuntime) : Bounded :=
  ⟨[f.globalBatchSize, f.microBatchSize, f.gradAccumSteps],
    [f.warmStartOverheadPct, f.checkpointLoadOverheadPct]⟩

/-- `RLHFRuntimeSpec`. -/
def boundedRLHF (r : RLHFRuntime) : Bounded :=
  ⟨[r.rolloutBatchSize, r.rewardBatchSize, r.updateBatchSize, r.policyUpdateSteps], []⟩

/-- `EmbeddingRuntimeSpec`. -/
def boundedEmbedding (e : EmbeddingRuntime) : Bounded :=
  ⟨[e.batchSize, e.vectorDimension, e.avgTokenLength], []⟩

/-- `DataPreprocessRuntimeSpec`. -/
def boundedDataPreprocess (d : DataPreprocessRuntime) : Bounded :=
  ⟨[d.inputBytes], [d.tokenizationOverheadPct, d.augmentationOverheadPct]⟩

/-- `DistillationRuntimeSpec`. -/
def boundedDistillation (d : DistillationRuntime) : Bounded :=
  ⟨[d.batchSize], [d.teacherForwardOverheadPct]⟩

/-- `JitterConfigSpec`. -/
def boundedJitter (j : JitterConfigSpec) : Bounded := ⟨[], [j.pct]⟩

/-- The sections that are there. -/
def Spec.sections (spec : Spec) : List Bounded :=
  (spec.training.map boundedTraining).toList ++ (spec.inference.map boundedInference).toList
    ++ (spec.eval.map boundedEval).toList ++ (spec.fineTune.map boundedFineTune).toList
    ++ (spec.rlhf.map boundedRLHF).toList ++ (spec.embedding.map boundedEmbedding).toList
    ++ (spec.dataPreprocess.map boundedDataPreprocess).toList
    ++ (spec.distillation.map boundedDistillation).toList
    ++ (spec.jitter.map boundedJitter).toList

/-- The eight `has(...)` rules, at one kind. -/
def Spec.has (spec : Spec) : WorkloadKind → Bool
  | .training => spec.training.isSome
  | .inference => spec.inference.isSome
  | .eval => spec.eval.isSome
  | .fineTune => spec.fineTune.isSome
  | .rlhf => spec.rlhf.isSome
  | .embedding => spec.embedding.isSome
  | .dataPreprocess => spec.dataPreprocess.isSome
  | .distillation => spec.distillation.isSome
  | .other _ _ => true

/-- **THE DECLARED RULES** of `GPUWorkloadSpec`. -/
structure Spec.Valid (spec : Spec) : Prop where
  tenant : spec.tenant ≠ ""
  gpuCount : 1 ≤ spec.gpuCount
  gpuMemoryMiB : 0 ≤ spec.gpuMemoryMiB
  tokens : 1 ≤ spec.tokens
  profile : spec.profile ≠ ""
  maxRuntimeSeconds : ∀ s ∈ spec.maxRuntimeSeconds, 1 ≤ s
  kind : spec.kind.supported = true
  payload : spec.has spec.kind = true
  bounds : ∀ b ∈ spec.sections, b.Ok

/-- A stored workload: its specification satisfies the declared rules. -/
structure Accepted where
  workload : GPUWorkload
  spec : Spec
  same : workload.spec = spec.toGPUWorkloadSpec
  valid : spec.Valid

/-! ## One entry in the scheduler's snapshot -/

/-- What `Validate` reads of a workload converted for one of its lists. -/
def entry (list : WorkloadList) (w : GPUWorkload) (id : String) (time : Int) : WorkloadFields :=
  match list with
  | .queuedWorkloads => (gpuWorkloadToQueuedWorkload w id time).fields
  | .scheduledWorkloads => (gpuWorkloadToRunningWorkload w id time).scheduledFields
  | .runningWorkloads => (gpuWorkloadToRunningWorkload w id time).runningFields

/-- The snapshot with a workload converted into one of its lists. -/
def add (list : WorkloadList) (w : GPUWorkload) (id : String) (time : Int)
    (inputs : SchedulingInputs) : SchedulingInputs :=
  match list with
  | .queuedWorkloads =>
      { inputs with
        queuedWorkloads := gpuWorkloadToQueuedWorkload w id time :: inputs.queuedWorkloads }
  | .scheduledWorkloads =>
      { inputs with
        scheduledWorkloads :=
          gpuWorkloadToRunningWorkload w id time :: inputs.scheduledWorkloads }
  | .runningWorkloads =>
      { inputs with
        runningWorkloads := gpuWorkloadToRunningWorkload w id time :: inputs.runningWorkloads }

/-- The same snapshot in another order of the workload maps. -/
structure Reordered (inputs inputs' : SchedulingInputs) : Prop where
  queued : inputs'.queuedWorkloads.Perm inputs.queuedWorkloads
  scheduled : inputs'.scheduledWorkloads.Perm inputs.scheduledWorkloads
  running : inputs'.runningWorkloads.Perm inputs.runningWorkloads
  fleet : inputs'.fleetFreeCapacity = inputs.fleetFreeCapacity
  quotas : inputs'.tenantQuotas = inputs.tenantQuotas

/-- What the scheduler asks of a stored workload beyond the declared rules: names that are
    not blank, a positive memory, an ID, and the time that the list reads. -/
structure Suits (list : WorkloadList) (w : GPUWorkload) (id : String) (time : Int) : Prop where
  tenant : trimSpace w.spec.tenant ≠ ""
  profile : trimSpace w.spec.profile ≠ ""
  gpuMemoryMiB : 0 < w.spec.gpuMemoryMiB
  id : trimSpace id ≠ ""
  time : list ≠ .scheduledWorkloads → time ≠ 0

/-- A profile is blank after normalisation exactly when it was before. -/
theorem trimSpace_normalizeProfileName_eq_empty_iff (p : String) :
    trimSpace (normalizeProfileName p) = "" ↔ trimSpace p = "" := by
  rw [normalizeProfileName, trimSpace_toLower_trimSpace, toLower_eq_empty_iff]

/-- The time is the only field that depends on the list. -/
theorem missingTime_entry_iff (list : WorkloadList) (w : GPUWorkload) (id : String)
    (time : Int) :
    (entry list w id time).missingTime = none
      ↔ (list ≠ .scheduledWorkloads → time ≠ 0) := by
  cases list with
  | queuedWorkloads =>
      show (if time = 0 then _ else _) = none ↔ _
      by_cases ht : time = 0
      · simp [ht]
      · simp [ht]
  | scheduledWorkloads => exact ⟨fun _ hne => absurd rfl hne, fun _ => rfl⟩
  | runningWorkloads =>
      show (if time = 0 then _ else _) = none ↔ _
      by_cases ht : time = 0
      · simp [ht]
      · simp [ht]

theorem entry_fields (list : WorkloadList) (w : GPUWorkload) (id : String) (time : Int) :
    entry list w id time
      = ⟨id, w.spec.tenant, (entry list w id time).time, w.spec.gpuCount, w.spec.gpuMemoryMiB,
        normalizeProfileName w.spec.profile, w.spec.tokens, w.spec.kind⟩ := by
  cases list with
  | queuedWorkloads => rfl
  | scheduledWorkloads => rfl
  | runningWorkloads => rfl

/-- The entry of a stored workload passes the checks exactly when the workload suits. -/
theorem entry_ok_iff (a : Accepted) (list : WorkloadList) (id : String) (time : Int) :
    (entry list a.workload id time).Ok ↔ Suits list a.workload id time := by
  have hspec := a.same
  have hprofile := trimSpace_normalizeProfileName_eq_empty_iff a.workload.spec.profile
  have htime := missingTime_entry_iff list a.workload id time
  rw [entry_fields] at htime ⊢
  constructor
  · intro h
    exact ⟨h.tenant, fun he => h.profile (hprofile.mpr he), h.gpuMemoryMiB, h.workloadID,
      htime.mp h.time⟩
  · intro h
    refine ⟨h.id, h.tenant, htime.mpr h.time, ?_, h.gpuMemoryMiB,
      fun he => h.profile (hprofile.mp he), ?_, ?_⟩
    · show 0 < a.workload.spec.gpuCount
      rw [hspec]
      exact a.valid.gpuCount
    · show 0 < a.workload.spec.tokens
      rw [hspec]
      exact a.valid.tokens
    · show a.workload.spec.kind.supported = true
      rw [hspec]
      exact a.valid.kind

/-! ## The snapshot and the cycle -/

theorem Reordered.ids {inputs inputs' : SchedulingInputs} (h : Reordered inputs inputs') :
    inputs'.ids.Perm inputs.ids :=
  (h.queued.map _).append ((h.scheduled.map _).append (h.running.map _))

/-- The contract does not depend on the order of the maps. -/
theorem Reordered.valid_iff {inputs inputs' : SchedulingInputs} (h : Reordered inputs inputs') :
    Valid inputs' ↔ Valid inputs := by
  constructor
  · intro hv
    exact ⟨fun w hw => hv.queued w (h.queued.mem_iff.mpr hw),
      fun w hw => hv.scheduled w (h.scheduled.mem_iff.mpr hw),
      fun w hw => hv.running w (h.running.mem_iff.mpr hw),
      h.ids.nodup_iff.mp hv.ids, h.fleet ▸ hv.fleet, h.quotas ▸ hv.quotas⟩
  · intro hv
    exact ⟨fun w hw => hv.queued w (h.queued.mem_iff.mp hw),
      fun w hw => hv.scheduled w (h.scheduled.mem_iff.mp hw),
      fun w hw => hv.running w (h.running.mem_iff.mp hw),
      h.ids.nodup_iff.mpr hv.ids, h.fleet.symm ▸ hv.fleet, h.quotas.symm ▸ hv.quotas⟩

theorem ids_add (list : WorkloadList) (w : GPUWorkload) (id : String) (time : Int)
    (inputs : SchedulingInputs) : (add list w id time inputs).ids.Perm (id :: inputs.ids) := by
  cases list with
  | queuedWorkloads => exact .refl _
  | scheduledWorkloads => exact List.perm_middle
  | runningWorkloads =>
      rw [SchedulingInputs.ids, SchedulingInputs.ids, ← List.append_assoc, ← List.append_assoc]
      exact List.perm_middle

/-- A valid snapshot stays valid exactly when a fresh entry passes its checks. -/
theorem valid_add_iff {inputs : SchedulingInputs} (hv : Valid inputs) (list : WorkloadList)
    (w : GPUWorkload) {id : String} (hfresh : id ∉ inputs.ids) (time : Int) :
    Valid (add list w id time inputs) ↔ (entry list w id time).Ok := by
  have hids : (add list w id time inputs).ids.Nodup :=
    (ids_add list w id time inputs).nodup_iff.mpr (List.nodup_cons.mpr ⟨hfresh, hv.ids⟩)
  cases list with
  | queuedWorkloads =>
      refine ⟨fun h => h.queued _ (List.mem_cons_self ..), fun hok => ?_⟩
      exact ⟨List.forall_mem_cons.mpr ⟨hok, hv.queued⟩, hv.scheduled, hv.running, hids, hv.fleet,
        hv.quotas⟩
  | scheduledWorkloads =>
      refine ⟨fun h => h.scheduled _ (List.mem_cons_self ..), fun hok => ?_⟩
      exact ⟨hv.queued, List.forall_mem_cons.mpr ⟨hok, hv.scheduled⟩, hv.running, hids, hv.fleet,
        hv.quotas⟩
  | runningWorkloads =>
      refine ⟨fun h => h.running _ (List.mem_cons_self ..), fun hok => ?_⟩
      exact ⟨hv.queued, hv.scheduled, List.forall_mem_cons.mpr ⟨hok, hv.running⟩, hids, hv.fleet,
        hv.quotas⟩

variable {σ : Type}

/-- The cycle runs a batch in a namespace with a queue exactly when its snapshot passes. -/
theorem cycleBatches_ne_nil_iff {calls : CycleCalls σ} {s : σ} {ns : String}
    {inputs : SchedulingInputs} (hsnap : calls.snapshotForNamespace s ns = some inputs)
    (hqueue : inputs.queuedWorkloads ≠ []) (maxAdmissionsPerCycle : Int) (now : String → Int) :
    cycleBatches calls maxAdmissionsPerCycle now [ns] s ≠ [] ↔ validate inputs = .ok () := by
  rw [cycleBatches, hsnap]
  simp only [if_neg hqueue]
  cases hval : validate inputs with
  | error e => simp [cycleBatches]
  | ok u => simp

/-- **ONE STORED WORKLOAD IN A VALID NAMESPACE**: under a fresh ID, in any of the three lists
    and any order of the maps, its entry passes the checks, the snapshot stays valid and
    the cycle goes on serving the namespace, each exactly when the workload suits. -/
theorem suits_iff (a : Accepted) (list : WorkloadList) {id : String} (time : Int)
    {inputs inputs' : SchedulingInputs} (hv : validate inputs = .ok ())
    (hfresh : id ∉ inputs.ids) (hadd : Reordered (add list a.workload id time inputs) inputs') :
    ((entry list a.workload id time).Ok ↔ Suits list a.workload id time)
      ∧ (validate inputs' = .ok () ↔ Suits list a.workload id time)
      ∧ ∀ (calls : CycleCalls σ) (s : σ) (ns : String) (maxAdmissionsPerCycle : Int)
          (now : String → Int),
        calls.snapshotForNamespace s ns = some inputs' → inputs'.queuedWorkloads ≠ [] →
          (cycleBatches calls maxAdmissionsPerCycle now [ns] s ≠ []
            ↔ Suits list a.workload id time) := by
  have hok := entry_ok_iff a list id time
  have hvalid : validate inputs' = .ok () ↔ Suits list a.workload id time := by
    rw [validate_ok_iff, hadd.valid_iff, valid_add_iff (validate_ok_iff.mp hv) list _ hfresh, hok]
  refine ⟨hok, hvalid, ?_⟩
  intro calls s ns maxAdmissionsPerCycle now hsnap hqueue
  rw [cycleBatches_ne_nil_iff hsnap hqueue, hvalid]

/-- An inference request for one device with some memory. -/
def inferenceSpec (gpuMemoryMiB : Int) : Spec :=
  { tenant := "t", priority := 1, gpuCount := 1, gpuMemoryMiB := gpuMemoryMiB
    profile := "h100_sxm", tokens := 1, kind := .inference, maxRuntimeSeconds := none
    training := none, inference := some 4, eval := none, fineTune := none, rlhf := none
    embedding := none, dataPreprocess := none, distillation := none, jitter := none }

theorem valid_inferenceSpec {gpuMemoryMiB : Int} (h : 0 ≤ gpuMemoryMiB) :
    (inferenceSpec gpuMemoryMiB).Valid := by
  refine ⟨?_, le_refl _, h, le_refl _, ?_, fun s hs => ?_, rfl, rfl, ?_⟩
  · show "t" ≠ ""
    decide
  · show "h100_sxm" ≠ ""
    decide
  · cases hs
  · show ∀ b ∈ [boundedInference 4], b.Ok
    decide

/-- The stored inference request. -/
def inference (gpuMemoryMiB : Int) (h : 0 ≤ gpuMemoryMiB) : Accepted where
  workload := ⟨"ns", "new", ∅, none, (inferenceSpec gpuMemoryMiB).toGPUWorkloadSpec, .queued,
    some 1⟩
  spec := inferenceSpec gpuMemoryMiB
  same := rfl
  valid := valid_inferenceSpec h

/-- A workload that asks for no memory is stored, and makes its namespace invalid. -/
theorem noMemory_poisons :
    ¬∀ (a : Accepted) (list : WorkloadList) (id : String) (time : Int)
      (inputs : SchedulingInputs),
      trimSpace id ≠ "" → time ≠ 0 → validate inputs = .ok () → id ∉ inputs.ids →
        (entry list a.workload id time).Ok
          ∧ validate (add list a.workload id time inputs) = .ok () := by
  intro h
  have hpoison := h (inference 0 (le_refl _)) .queuedWorkloads "ns/new" 1 twoQueued (by decide)
    (by decide) rfl (by decide)
  exact absurd hpoison.1.gpuMemoryMiB (lt_irrefl 0)

/-- A workload with memory joins the queue. -/
theorem memory_suits :
    validate (add .queuedWorkloads (inference 40 (by decide)).workload "ns/new" 1 twoQueued)
      = .ok () :=
  (suits_iff (σ := Unit) (inference 40 (by decide)) .queuedWorkloads 1 rfl (by decide)
    ⟨.refl _, .refl _, .refl _, rfl, rfl⟩).2.1.mpr
    ⟨by decide, by decide, by decide, by decide, fun _ => by decide⟩

end GpuCRD
