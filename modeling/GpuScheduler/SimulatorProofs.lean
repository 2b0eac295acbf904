import GpuScheduler.StepRunsProofs
import GpuScheduler.GoIntProofs
import GpuScheduler.CompatProofs
import GpuScheduler.PlacementProofs

/-! # The simulator

    The simulator holds the pools' devices, the allocations and the runs.  Every
    public operation is a step on that state; an operation that fails leaves it
    unchanged.  Where the code ranges over a map, the step carries the order, any
    permutation of the map's keys.

    Device exclusivity is an invariant of all runs (`exclusive_of_runs`): it survives
    pools that shrink, grow or disappear under their allocations, because a device ID
    is never given to a second workload while the first allocation stands. -/

namespace GpuSimulator

open GoStrings GoMaps GpuInputs GpuCompat GpuPlacement StepRuns

/-! ## Data -/

/-- `sim.Allocation`. -/
structure Allocation where
  workloadID : String
  deviceIDs : List String
  deriving DecidableEq, Repr

/-- `sim.AllocationOptions`. -/
structure AllocationOptions where
  placementPolicy : PlacementPolicy
  requireSameNode : Bool
  maxNodes : Int
  preferredDeviceType : String
  preferredProfile : String
  deriving DecidableEq, Repr

/-- The policy in force: an unset one defaults to first-fit. -/
def AllocationOptions.policy (opts : AllocationOptions) : PlacementPolicy :=
  if opts.placementPolicy = .unset then .firstFit else opts.placementPolicy

/-- `TrainingRuntime`. -/
structure TrainingRuntime where
  globalBatchSize : Int
  microBatchSize : Int
  gradAccumSteps : Int
  sequenceLength : Int
  deriving DecidableEq, Repr

/-- `EvalRuntime`. -/
structure EvalRuntime where
  batchSize : Int
  metricOverheadPct : Rat
  validationOverheadPct : Rat
  deriving DecidableEq, Repr

/-- `FineTuneRuntime`. -/
structure FineTuneRuntime where
  globalBatchSize : Int
  microBatchSize : Int
  gradAccumSteps : Int
  warmStartOverheadPct : Rat
  checkpointLoadOverheadPct : Rat
  deriving DecidableEq, Repr

/-- `RLHFRuntime`. -/
structure RLHFRuntime where
  rolloutBatchSize : Int
  rewardBatchSize : Int
  updateBatchSize : Int
  policyUpdateSteps : Int
  deriving DecidableEq, Repr

/-- `EmbeddingRuntime`. -/
structure EmbeddingRuntime where
  batchSize : Int
  vectorDimension : Int
  avgTokenLength : Int
  deriving DecidableEq, Repr

/-- `DataPreprocessRuntime`. -/
structure DataPreprocessRuntime where
  inputBytes : Int
  tokenizationOverheadPct : Rat
  augmentationOverheadPct : Rat
  deriving DecidableEq, Repr

/-- `DistillationRuntime`. -/
structure DistillationRuntime where
  teacherProfile : String
  batchSize : Int
  teacherForwardOverheadPct : Rat
  deriving DecidableEq, Repr

/-- `JitterConfig`. -/
structure JitterConfig where
  enabled : Bool
  pct : Rat
  seed : Int
  deriving DecidableEq, Repr

/-- `RuntimeInput`; the unset kind is the empty string.  `inference` is the batch size. -/
structure RuntimeInput where
  workloadID : String
  tokens : Int
  profile : String
  kind : WorkloadKind
  training : Option TrainingRuntime
  inference : Option Int
  eval : Option EvalRuntime
  fineTune : Option FineTuneRuntime
  rlhf : Option RLHFRuntime
  embedding : Option EmbeddingRuntime
  dataPreprocess : Option DataPreprocessRuntime
  distillation : Option DistillationRuntime
  jitter : Option JitterConfig
  deriving DecidableEq, Repr

/-- `RunStatus`. -/
inductive RunStatus where
  | running | succeeded | failed | preempted
  deriving DecidableEq, Repr

/-- `runRecord`. -/
structure RunRecord where
  runID : String
  workloadID : String
  profile : String
  tokens : Int
  runtime : RuntimeInput
  startedAt : Int
  endsAt : Int
  status : RunStatus
  deriving DecidableEq, Repr

/-- `Simulator`. -/
structure Simulator where
  pools : GoMap String (List Node)
  allocations : GoMap String Allocation
  runs : GoMap String RunRecord
  nextRunID : Nat

/-- `NewSimulator`. -/
def newSimulator : Simulator := ⟨∅, ∅, ∅, 0⟩

/-- The fraction a runtime check is about. -/
inductive FractionField where
  | jitterPct
  | evalMetricOverheadPct | evalValidationOverheadPct
  | fineTuneWarmStartOverheadPct | fineTuneCheckpointLoadOverheadPct
  | dataPreprocessTokenizationOverheadPct | dataPreprocessAugmentationOverheadPct
  | distillationTeacherForwardOverheadPct
  deriving DecidableEq, Repr

/-- The errors of the simulator's operations. -/
inductive SimError where
  | build (err : BuildError)
  | workloadIDRequired
  | gpuCountNotPositive (got : Int)
  | memMiBNotPositive (got : Int)
  | alreadyAllocated (workloadID : String)
  | fleetNotRegistered
  | maxNodesNegative (got : Int)
  | placementFailed (workloadID : String) (err : PlacementError)
  | insufficientDevices (workloadID : String) (need memMiB : Int) (found : Nat)
  | tokensNotPositive (got : Int)
  | profileRequired
  | unsupportedKind (kind : WorkloadKind)
  | fractionOutOfRange (field : FractionField) (got : Rat)
  | unknownTeacherProfile (profile : String)
  | noAllocation (workloadID : String)
  | allocationEmpty (workloadID : String)
  | alreadyRunning (workloadID runID : String)
  | deviceCountNotPositive (got : Nat)
  | unknownRuntimeProfile (profile : String)
  | unknownHardwareProfile (profile : String)
  | runIDRequired
  | runNotFound (runID : String)
  | runForWorkloadNotFound (workloadID : String)
  deriving DecidableEq, Repr

/-! ## Operations -/

/-- `RegisterFleet`. -/
def registerFleet (s : Simulator) (poolKey : String) (spec : GPUNodePoolSpec) :
    Except SimError Simulator :=
  let poolKey := if poolKey = "" then defaultPoolKey else poolKey
  match buildNodesWithPoolKey spec poolKey with
  | .error e => .error (.build e)
  | .ok nodes => .ok { s with pools := s.pools.insert poolKey nodes }

/-- `DeleteFleet`. -/
def deleteFleet (s : Simulator) (poolKey : String) : Simulator :=
  if poolKey = "" then s else { s with pools := s.pools.erase poolKey }

/-- `allNodes`, visiting the pools in the given order. -/
def allNodes (s : Simulator) (order : List String) : List Node :=
  order.flatMap (fun key => (s.pools.lookup key).getD [])

/-- The device IDs in all allocations: `usedDevices`. -/
def allocatedIDs (s : Simulator) : List String :=
  s.allocations.entries.flatMap (fun e => e.2.deviceIDs)

/-- `AllocateWithOptions`; `order` is the order in which the pools are visited. -/
def allocateWithOptions (s : Simulator) (order : List String) (workloadID : String)
    (gpuCount memMiB : Int) (opts : AllocationOptions) :
    Except SimError (Allocation × Simulator) :=
  if workloadID = "" then .error .workloadIDRequired
  else if gpuCount ≤ 0 then .error (.gpuCountNotPositive gpuCount)
  else if memMiB ≤ 0 then .error (.memMiBNotPositive memMiB)
  else if (s.allocations.lookup workloadID).isSome then .error (.alreadyAllocated workloadID)
  else if s.pools.entries = [] then .error .fleetNotRegistered
  else if opts.maxNodes < 0 then .error (.maxNodesNegative opts.maxNodes)
  else
    let perNode := computeEligibleDevicesPerNode (allNodes s order) (allocatedIDs s) memMiB
      opts.preferredDeviceType opts.preferredProfile
    match pickDevices perNode gpuCount.toNat opts.policy opts.requireSameNode
        opts.maxNodes.toNat with
    | .error e => .error (.placementFailed workloadID e)
    | .ok deviceIDs =>
      if (deviceIDs.length : Int) < gpuCount then
        .error (.insufficientDevices workloadID gpuCount memMiB deviceIDs.length)
      else
        let allocation : Allocation := ⟨workloadID, deviceIDs⟩
        .ok (allocation, { s with allocations := s.allocations.insert workloadID allocation })

/-- A default for a count that is not positive. -/
def orDefault (n dflt : Int) : Int := if n ≤ 0 then dflt else n

/-- The defaults of an evaluation. -/
def EvalRuntime.withDefaults (e : EvalRuntime) : EvalRuntime :=
  { e with batchSize := orDefault e.batchSize 1 }

/-- The defaults of an embedding run. -/
def EmbeddingRuntime.withDefaults (e : EmbeddingRuntime) : EmbeddingRuntime :=
  ⟨orDefault e.batchSize 1, orDefault e.vectorDimension 1024, orDefault e.avgTokenLength 512⟩

/-- The defaults of a preprocessing run: four bytes per token, in an `int64`. -/
def DataPreprocessRuntime.withDefaults (d : DataPreprocessRuntime) (tokens : Int) :
    DataPreprocessRuntime :=
  { d with inputBytes := orDefault d.inputBytes (GoInt.wrap (tokens * 4)) }

/-- The defaults of an RLHF run: reward batches follow rollout batches. -/
def RLHFRuntime.withDefaults (r : RLHFRuntime) : RLHFRuntime :=
  ⟨orDefault r.rolloutBatchSize 1,
    orDefault r.rewardBatchSize (orDefault r.rolloutBatchSize 1),
    orDefault r.updateBatchSize 1, orDefault r.policyUpdateSteps 1⟩

/-- The defaults of a distillation: the teacher runs on the workload's own profile. -/
def DistillationRuntime.withDefaults (d : DistillationRuntime) (profile : String) :
    DistillationRuntime :=
  { d with
    batchSize := orDefault d.batchSize 1
    teacherProfile := if trimSpace d.teacherProfile = "" then profile else d.teacherProfile }

/-- An unset kind means training. -/
def defaultKind (input : RuntimeInput) : RuntimeInput :=
  if input.kind = .unset then { input with kind := .training } else input

/-- The per-kind defaults of `StartWithRuntimeInput`; a missing payload is the zero one. -/
def applyDefaults (input : RuntimeInput) : RuntimeInput :=
  match input.kind with
  | .inference => { input with inference := some (orDefault (input.inference.getD 0) 1) }
  | .eval => { input with eval := some (input.eval.getD ⟨0, 0, 0⟩).withDefaults }
  | .embedding =>
      { input with embedding := some (input.embedding.getD ⟨0, 0, 0⟩).withDefaults }
  | .dataPreprocess =>
      { input with
        dataPreprocess := some
          ((input.dataPreprocess.getD ⟨0, 0, 0⟩).withDefaults input.tokens) }
  | .rlhf => { input with rlhf := some (input.rlhf.getD ⟨0, 0, 0, 0⟩).withDefaults }
  | .distillation =>
      { input with
        distillation := some
          ((input.distillation.getD ⟨"", 0, 0⟩).withDefaults input.profile) }
  | _ => input

/-- A fraction outside `[0, 1]` is an error. -/
def checkFraction (field : FractionField) (pct : Rat) : Option SimError :=
  if pct < 0 ∨ 1 < pct then some (.fractionOutOfRange field pct) else none

/-- The range checks of `StartWithRuntimeInput`, in order; `none` when all pass. -/
def checkRuntime (input : RuntimeInput) : Option SimError :=
  let jitter := match input.jitter with
    | some j =>
        if j.enabled = true ∧ (j.pct ≤ 0 ∨ 1 < j.pct) then
          some (SimError.fractionOutOfRange .jitterPct j.pct)
        else none
    | none => none
  let kindChecks := match input.kind with
    | .eval =>
        match input.eval with
        | some e => (checkFraction .evalMetricOverheadPct e.metricOverheadPct).orElse
            (fun _ => checkFraction .evalValidationOverheadPct e.validationOverheadPct)
        | none => none
    | .fineTune =>
        match input.fineTune with
        | some f => (checkFraction .fineTuneWarmStartOverheadPct f.warmStartOverheadPct).orElse
            (fun _ => checkFraction .fineTuneCheckpointLoadOverheadPct
              f.checkpointLoadOverheadPct)
        | none => none
    | .dataPreprocess =>
        match input.dataPreprocess with
        | some d => (checkFraction .dataPreprocessTokenizationOverheadPct
              d.tokenizationOverheadPct).orElse
            (fun _ => checkFraction .dataPreprocessAugmentationOverheadPct
              d.augmentationOverheadPct)
        | none => none
    | .distillation =>
        match input.distillation with
        | some d => (checkFraction .distillationTeacherForwardOverheadPct
              d.teacherForwardOverheadPct).orElse
            (fun _ =>
              if normalizeProfileName d.teacherProfile ∉ hardwareProfiles then
                some (.unknownTeacherProfile d.teacherProfile)
              else none)
        | none => none
    | _ => none
  jitter.orElse (fun _ => kindChecks)

/-- The run of a workload that a loop over the runs finds first. -/
def findRunning (s : Simulator) (order : List String) (workloadID : String) :
    Option RunRecord :=
  order.findSome? (fun id => (s.runs.lookup id).filter (fun r =>
    r.workloadID = workloadID ∧ r.status = .running))

/-- The estimator of run durations: any function of the clock, which jitter without a seed draws
    from, the input and the device count. -/
abbrev Estimator := Int → RuntimeInput → Nat → Except SimError Int

/-- `StartWithRuntimeInput` at time `now`; the estimate of the duration is a parameter. -/
def startWithRuntimeInput (estimateDuration : Estimator) (s : Simulator)
    (order : List String) (now : Int) (input : RuntimeInput) :
    Except SimError (String × Simulator) :=
  if input.workloadID = "" then .error .workloadIDRequired
  else if input.tokens ≤ 0 then .error (.tokensNotPositive input.tokens)
  else if input.profile = "" then .error .profileRequired
  else
    let input := defaultKind input
    if input.kind.supported = false then .error (.unsupportedKind input.kind)
    else
      let input := applyDefaults input
      match checkRuntime input with
      | some e => .error e
      | none =>
        match s.allocations.lookup input.workloadID with
        | none => .error (.noAllocation input.workloadID)
        | some allocation =>
          if allocation.deviceIDs = [] then .error (.allocationEmpty input.workloadID)
          else match findRunning s order input.workloadID with
          | some r => .error (.alreadyRunning input.workloadID r.runID)
          | none =>
            match estimateDuration now input allocation.deviceIDs.length with
            | .error e => .error e
            | .ok duration =>
              let runID := "run-" ++ fmtNat (s.nextRunID + 1)
              .ok (runID, { s with
                nextRunID := s.nextRunID + 1
                runs := s.runs.insert runID ⟨runID, input.workloadID, input.profile,
                  input.tokens, input, now, now + duration, .running⟩ })

/-- The lazy completion of a run on read. -/
def RunRecord.refresh (r : RunRecord) (now : Int) : RunRecord :=
  if r.status = .running ∧ r.endsAt ≤ now then { r with status := .succeeded } else r

/-- `GetStatus` at time `now`. -/
def getStatus (s : Simulator) (now : Int) (runID : String) :
    Except SimError (RunStatus × Simulator) :=
  if runID = "" then .error .runIDRequired
  else match s.runs.lookup runID with
  | none => .error (.runNotFound runID)
  | some run =>
      .ok ((run.refresh now).status, { s with runs := s.runs.insert runID (run.refresh now) })

/-- The loop of `GetLatestRunStatusForWorkload`: the latest run, with its key. -/
def latestRun (s : Simulator) (workloadID : String) :
    List String → Option (String × RunRecord) → Option (String × RunRecord)
  | [], latest => latest
  | id :: order, latest =>
      match s.runs.lookup id with
      | none => latestRun s workloadID order latest
      | some run =>
        if run.workloadID ≠ workloadID then latestRun s workloadID order latest
        else match latest with
          | none => latestRun s workloadID order (some (id, run))
          | some l =>
              if l.2.startedAt < run.startedAt then latestRun s workloadID order (some (id, run))
              else latestRun s workloadID order (some l)

/-- `GetLatestRunStatusForWorkload` at time `now`. -/
def getLatestRunStatusForWorkload (s : Simulator) (order : List String) (now : Int)
    (workloadID : String) : Except SimError (RunStatus × Simulator) :=
  if workloadID = "" then .error .workloadIDRequired
  else match latestRun s workloadID order none with
  | none => .error (.runForWorkloadNotFound workloadID)
  | some (id, run) =>
      .ok ((run.refresh now).status, { s with runs := s.runs.insert id (run.refresh now) })

/-- `Preempt`: the first running run of the workload, if any, is marked. -/
def preempt (s : Simulator) (order : List String) (workloadID : String) :
    Except SimError Simulator :=
  if workloadID = "" then .error .workloadIDRequired
  else match order.findSome? (fun id => ((s.runs.lookup id).filter (fun r =>
      r.workloadID = workloadID ∧ r.status = .running)).map (fun r => (id, r))) with
  | none => .ok s
  | some (id, run) => .ok { s with runs := s.runs.insert id { run with status := .preempted } }

/-- `Release`. -/
def release (s : Simulator) (workloadID : String) : Except SimError Simulator :=
  if workloadID = "" then .error .workloadIDRequired
  else .ok { s with allocations := s.allocations.erase workloadID }

/-! ## The simulator as a step system -/

/-- One call of the simulator, with the clock and the map orders it meets. -/
inductive Op where
  | registerFleet (poolKey : String) (spec : GPUNodePoolSpec)
  | deleteFleet (poolKey : String)
  | allocateWithOptions (order : List String) (workloadID : String) (gpuCount memMiB : Int)
      (opts : AllocationOptions)
  | startWithRuntimeInput (order : List String) (now : Int) (input : RuntimeInput)
  | getStatus (now : Int) (runID : String)
  | getLatestRunStatusForWorkload (order : List String) (now : Int) (workloadID : String)
  | preempt (order : List String) (workloadID : String)
  | release (workloadID : String)

/-- The state after a call that may fail. -/
def after {α : Type} (s : Simulator) : Except SimError (α × Simulator) → Simulator
  | .ok r => r.2
  | .error _ => s

/-- The state after a call without a result that may fail. -/
def afterUnit (s : Simulator) : Except SimError Simulator → Simulator
  | .ok t => t
  | .error _ => s

/-- One call.  A map order is admitted when it lists the map's keys, each once. -/
def step (est : Estimator) (s : Simulator) : Op → Option Simulator
  | .registerFleet poolKey spec => some (afterUnit s (registerFleet s poolKey spec))
  | .deleteFleet poolKey => some (deleteFleet s poolKey)
  | .allocateWithOptions order workloadID gpuCount memMiB opts =>
      if order.Perm s.pools.keys then
        some (after s (allocateWithOptions s order workloadID gpuCount memMiB opts))
      else none
  | .startWithRuntimeInput order now input =>
      if order.Perm s.runs.keys then
        some (after s (startWithRuntimeInput est s order now input))
      else none
  | .getStatus now runID => some (after s (getStatus s now runID))
  | .getLatestRunStatusForWorkload order now workloadID =>
      if order.Perm s.runs.keys then
        some (after s (getLatestRunStatusForWorkload s order now workloadID))
      else none
  | .preempt order workloadID =>
      if order.Perm s.runs.keys then some (afterUnit s (preempt s order workloadID)) else none
  | .release workloadID => some (afterUnit s (release s workloadID))

/-- The error of a result. -/
def errorOf {α : Type} : Except SimError α → Option SimError
  | .error e => some e
  | .ok _ => none

/-- The error of a call. -/
def failure (est : Estimator) (s : Simulator) : Op → Option SimError
  | .registerFleet poolKey spec => errorOf (registerFleet s poolKey spec)
  | .deleteFleet _ => none
  | .allocateWithOptions order workloadID gpuCount memMiB opts =>
      errorOf (allocateWithOptions s order workloadID gpuCount memMiB opts)
  | .startWithRuntimeInput order now input =>
      errorOf (startWithRuntimeInput est s order now input)
  | .getStatus now runID => errorOf (getStatus s now runID)
  | .getLatestRunStatusForWorkload order now workloadID =>
      errorOf (getLatestRunStatusForWorkload s order now workloadID)
  | .preempt order workloadID => errorOf (preempt s order workloadID)
  | .release workloadID => errorOf (release s workloadID)

/-- What a call that succeeds does. -/
inductive Done (est : Estimator) (s : Simulator) : Op → Simulator → Prop where
  | registerFleet {poolKey : String} {spec : GPUNodePoolSpec} {t : Simulator} :
      GpuSimulator.registerFleet s poolKey spec = .ok t → Done est s (.registerFleet poolKey spec) t
  | deleteFleet (poolKey : String) :
      Done est s (.deleteFleet poolKey) (GpuSimulator.deleteFleet s poolKey)
  | allocateWithOptions {order : List String} {workloadID : String} {gpuCount memMiB : Int}
      {opts : AllocationOptions} {a : Allocation} {t : Simulator} : order.Perm s.pools.keys →
      GpuSimulator.allocateWithOptions s order workloadID gpuCount memMiB opts = .ok (a, t) →
      Done est s (.allocateWithOptions order workloadID gpuCount memMiB opts) t
  | startWithRuntimeInput {order : List String} {now : Int} {input : RuntimeInput} {id : String}
      {t : Simulator} : order.Perm s.runs.keys →
      GpuSimulator.startWithRuntimeInput est s order now input = .ok (id, t) →
      Done est s (.startWithRuntimeInput order now input) t
  | getStatus {now : Int} {runID : String} {st : RunStatus} {t : Simulator} :
      GpuSimulator.getStatus s now runID = .ok (st, t) → Done est s (.getStatus now runID) t
  | getLatestRunStatusForWorkload {order : List String} {now : Int} {workloadID : String}
      {st : RunStatus} {t : Simulator} :
      GpuSimulator.getLatestRunStatusForWorkload s order now workloadID = .ok (st, t) →
      Done est s (.getLatestRunStatusForWorkload order now workloadID) t
  | preempt {order : List String} {workloadID : String} {t : Simulator} :
      GpuSimulator.preempt s order workloadID = .ok t → Done est s (.preempt order workloadID) t
  | release {workloadID : String} {t : Simulator} :
      GpuSimulator.release s workloadID = .ok t → Done est s (.release workloadID) t

/-- A result with a value: an error and the old state, or a success. -/
theorem after_or {α : Type} {P : Simulator → Prop} (s : Simulator)
    (o : Except SimError (α × Simulator)) (h : ∀ a t, o = .ok (a, t) → P t) :
    (errorOf o ≠ none ∧ after s o = s) ∨ (errorOf o = none ∧ P (after s o)) := by
  cases o with
  | error e => exact Or.inl ⟨Option.some_ne_none e, rfl⟩
  | ok r => exact Or.inr ⟨rfl, h r.1 r.2 rfl⟩

/-- A result without one. -/
theorem afterUnit_or {P : Simulator → Prop} (s : Simulator) (o : Except SimError Simulator)
    (h : ∀ t, o = .ok t → P t) :
    (errorOf o ≠ none ∧ afterUnit s o = s) ∨ (errorOf o = none ∧ P (afterUnit s o)) := by
  cases o with
  | error e => exact Or.inl ⟨Option.some_ne_none e, rfl⟩
  | ok t => exact Or.inr ⟨rfl, h t rfl⟩

/-- **ONE CALL** fails and changes nothing, or it is done. -/
theorem failed_or_done {est : Estimator} {s t : Simulator} {op : Op}
    (h : step est s op = some t) :
    (failure est s op ≠ none ∧ t = s) ∨ (failure est s op = none ∧ Done est s op t) := by
  cases op with
  | registerFleet poolKey spec =>
      rw [← Option.some.inj h]
      exact afterUnit_or s _ (fun _ => .registerFleet)
  | deleteFleet poolKey =>
      rw [← Option.some.inj h]
      exact Or.inr ⟨rfl, .deleteFleet poolKey⟩
  | allocateWithOptions order workloadID gpuCount memMiB opts =>
      simp only [step] at h
      split_ifs at h with horder
      rw [← Option.some.inj h]
      exact after_or s _ (fun _ _ => .allocateWithOptions horder)
  | startWithRuntimeInput order now input =>
      simp only [step] at h
      split_ifs at h with horder
      rw [← Option.some.inj h]
      exact after_or s _ (fun _ _ => .startWithRuntimeInput horder)
  | getStatus now runID =>
      rw [← Option.some.inj h]
      exact after_or s _ (fun _ _ => .getStatus)
  | getLatestRunStatusForWorkload order now workloadID =>
      simp only [step] at h
      split_ifs at h
      rw [← Option.some.inj h]
      exact after_or s _ (fun _ _ => .getLatestRunStatusForWorkload)
  | preempt order workloadID =>
      simp only [step] at h
      split_ifs at h
      rw [← Option.some.inj h]
      exact afterUnit_or s _ (fun _ => .preempt)
  | release workloadID =>
      rw [← Option.some.inj h]
      exact afterUnit_or s _ (fun _ => .release)

/-- The state is left alone, or the call is done. -/
theorem same_or_done {est : Estimator} {s t : Simulator} {op : Op} (h : step est s op = some t) :
    t = s ∨ Done est s op t :=
  (failed_or_done h).imp And.right And.right

/-! ## The invariant -/

/-- What every reachable state satisfies. -/
structure Sound (s : Simulator) : Prop where
  /-- Every pool was built under its own, non-empty key. -/
  built : ∀ key nodes, s.pools.lookup key = some nodes →
    key ≠ "" ∧ ∃ spec, buildNodesWithPoolKey spec key = .ok nodes
  /-- No device ID occurs twice among the allocations. -/
  allocated : (allocatedIDs s).Nodup
  /-- Every allocation holds something and is stored under its workload. -/
  own : ∀ id a, s.allocations.lookup id = some a → a.workloadID = id ∧ a.deviceIDs ≠ []

theorem sound_newSimulator : Sound newSimulator where
  built _ _ h := by cases h
  allocated := List.nodup_nil
  own _ _ h := by cases h

/-- The devices that are visited are those of the registered pools. -/
theorem mem_devicesOf_allNodes {s : Simulator} {order : List String} {d : Device} :
    d ∈ devicesOf (allNodes s order)
      ↔ ∃ key ∈ order, ∃ nodes, s.pools.lookup key = some nodes ∧ d ∈ devicesOf nodes := by
  rw [devicesOf, allNodes, List.flatMap_assoc, List.mem_flatMap]
  refine exists_congr (fun key => and_congr_right (fun _ => ?_))
  cases s.pools.lookup key with
  | none =>
      constructor
      · intro h
        cases h
      · rintro ⟨_, hl, _⟩
        cases hl
  | some nodes =>
      constructor
      · intro h
        exact ⟨nodes, rfl, h⟩
      · rintro ⟨_, hl, h⟩
        rw [Option.some.inj hl]
        exact h

/-- The devices of distinct pools are distinct, in whatever order they are visited. -/
theorem Sound.nodup_devices {s : Simulator} (hs : Sound s) {order : List String}
    (hnd : order.Nodup) : ((devicesOf (allNodes s order)).map Device.id).Nodup := by
  induction order with
  | nil => exact List.nodup_nil
  | cons key order ih =>
      obtain ⟨hnot, hnd'⟩ := List.nodup_cons.mp hnd
      have hcons : devicesOf (allNodes s (key :: order))
          = devicesOf ((s.pools.lookup key).getD []) ++ devicesOf (allNodes s order) := by
        rw [devicesOf, allNodes, List.flatMap_cons, List.flatMap_append]
        rfl
      rw [hcons, List.map_append]
      cases hl : s.pools.lookup key with
      | none => exact ih hnd'
      | some nodes =>
          obtain ⟨hkey, spec, hbuild⟩ := hs.built key nodes hl
          refine (nodup_devicesOf_build hkey hbuild).append (ih hnd') ?_
          -- an ID in another pool would give that pool the same key
          intro x hx hx'
          obtain ⟨d, hd, rfl⟩ := List.mem_map.mp hx
          obtain ⟨d', hd', heq⟩ := List.mem_map.mp hx'
          obtain ⟨i, -, j, -, rfl⟩ := (mem_devicesOf_build hbuild).mp hd
          obtain ⟨key', hkey', nodes', hl', hd'⟩ := mem_devicesOf_allNodes.mp hd'
          obtain ⟨hne', spec', hbuild'⟩ := hs.built key' nodes' hl'
          obtain ⟨i', -, j', -, rfl⟩ := (mem_devicesOf_build hbuild').mp hd'
          have := (deviceID_injective hne' hkey heq).1
          rw [this] at hkey'
          exact hnot hkey'

/-- What a successful allocation has done. -/
theorem allocateWithOptions_ok {s t : Simulator} {order : List String} {workloadID : String}
    {gpuCount memMiB : Int} {opts : AllocationOptions} {a : Allocation}
    (h : allocateWithOptions s order workloadID gpuCount memMiB opts = .ok (a, t)) :
    s.allocations.lookup workloadID = none ∧ 0 < gpuCount ∧ a.workloadID = workloadID
      ∧ (a.deviceIDs.length : Int) = gpuCount
      ∧ a.deviceIDs.Subperm (((devicesOf (allNodes s order)).filter
          (eligible (allocatedIDs s) memMiB opts.preferredDeviceType
            opts.preferredProfile)).map Device.id)
      ∧ t = { s with allocations := s.allocations.insert workloadID a } := by
  rw [allocateWithOptions] at h
  split_ifs at h with h1 h2 h3 h4 h5 h6
  simp only at h
  cases hpick : pickDevices (computeEligibleDevicesPerNode (allNodes s order) (allocatedIDs s)
      memMiB opts.preferredDeviceType opts.preferredProfile) gpuCount.toNat opts.policy
      opts.requireSameNode opts.maxNodes.toNat with
  | error e => rw [hpick] at h; cases h
  | ok picked =>
      rw [hpick] at h
      simp only at h
      split_ifs at h with hlen
      have hr := Except.ok.inj h
      have ha : a = ⟨workloadID, picked⟩ := (congrArg Prod.fst hr).symm
      have ht := (congrArg Prod.snd hr).symm
      have hpos : 0 < gpuCount := not_le.mp h2
      have hpo := pickDevices_pickOf (by omega) hpick
      rw [flat_computeEligible] at hpo
      have hle := hpo.length
      subst ha
      refine ⟨Option.not_isSome_iff_eq_none.mp h4, hpos, rfl, ?_, hpo.subperm, ht⟩
      show (picked.length : Int) = gpuCount
      omega

/-- An allocation fails for this reason only when there is one. -/
theorem allocated_of_error {s : Simulator} {order : List String} {workloadID id : String}
    {gpuCount memMiB : Int} {opts : AllocationOptions}
    (h : allocateWithOptions s order workloadID gpuCount memMiB opts
      = .error (.alreadyAllocated id)) : (s.allocations.lookup workloadID).isSome := by
  by_contra hnone
  rw [allocateWithOptions, if_neg hnone] at h
  split_ifs at h
  any_goals cases h
  simp only at h
  split at h
  · cases h
  · split at h <;> cases h

/-- An allocation adds its devices to those in use. -/
theorem allocatedIDs_insert {s : Simulator} {workloadID : String} (a : Allocation)
    (h : s.allocations.lookup workloadID = none) :
    allocatedIDs { s with allocations := s.allocations.insert workloadID a }
      = a.deviceIDs ++ allocatedIDs s := by
  have hnot : workloadID ∉ s.allocations := AList.lookup_eq_none.mp h
  show ((s.allocations.insert workloadID a).entries).flatMap _ = _
  rw [AList.entries_insert_of_notMem hnot]
  rfl

/-- A release takes its devices from those in use. -/
theorem allocatedIDs_erase (s : Simulator) (workloadID : String) :
    (allocatedIDs { s with allocations := s.allocations.erase workloadID }).Sublist
      (allocatedIDs s) :=
  (List.kerase_sublist _ _).flatMap _

private theorem nodup_of_subperm {l l' : List String} (h : l.Subperm l') (hnd : l'.Nodup) :
    l.Nodup := by
  obtain ⟨m, hm, hsub⟩ := h
  exact hm.nodup_iff.mp (hnd.sublist hsub)

/-- A successful allocation keeps the state sound. -/
theorem Sound.allocate {s t : Simulator} (hs : Sound s) {order : List String}
    (horder : order.Perm s.pools.keys) {workloadID : String} {gpuCount memMiB : Int}
    {opts : AllocationOptions} {a : Allocation}
    (h : allocateWithOptions s order workloadID gpuCount memMiB opts = .ok (a, t)) :
    Sound t := by
  obtain ⟨hfresh, hpos, hid, hlen, hsub, rfl⟩ := allocateWithOptions_ok h
  have hnd : order.Nodup := horder.nodup_iff.mpr s.pools.keys_nodup
  have hdisj : ∀ x ∈ a.deviceIDs, x ∉ allocatedIDs s := by
    intro x hx
    obtain ⟨d, hd, rfl⟩ := List.mem_map.mp (hsub.subset hx)
    have hel := (List.mem_filter.mp hd).2
    rw [eligible] at hel
    intro hused
    rw [if_pos hused] at hel
    cases hel
  refine ⟨hs.built, ?_, ?_⟩
  · rw [allocatedIDs_insert a hfresh]
    refine (nodup_of_subperm hsub ?_).append hs.allocated (fun x hx => hdisj x hx)
    exact (hs.nodup_devices hnd).sublist (List.filter_sublist.map Device.id)
  · intro id b hb
    rcases lookup_insert_eq_some.mp hb with ⟨rfl, rfl⟩ | ⟨-, hb⟩
    · refine ⟨hid, fun hnil => ?_⟩
      rw [hnil, List.length_nil] at hlen
      omega
    · exact hs.own id b hb

/-- Registering a pool keeps the state sound, whatever was registered under its key. -/
theorem Sound.register {s t : Simulator} (hs : Sound s) {poolKey : String}
    {spec : GPUNodePoolSpec} (h : registerFleet s poolKey spec = .ok t) : Sound t := by
  rw [registerFleet] at h
  have hne : (if poolKey = "" then defaultPoolKey else poolKey) ≠ "" := by
    split_ifs with hk
    · decide
    · exact hk
  cases hb : buildNodesWithPoolKey spec (if poolKey = "" then defaultPoolKey else poolKey) with
  | error e => simp only [hb] at h; cases h
  | ok nodes =>
      simp only [hb] at h
      rw [← Except.ok.inj h]
      refine ⟨fun key ns hl => ?_, hs.allocated, hs.own⟩
      rcases lookup_insert_eq_some.mp hl with ⟨rfl, rfl⟩ | ⟨-, hl⟩
      · exact ⟨hne, spec, hb⟩
      · exact hs.built key ns hl

/-- Deleting a pool keeps the state sound; its allocations stay. -/
theorem Sound.delete {s : Simulator} (hs : Sound s) (poolKey : String) :
    Sound (deleteFleet s poolKey) := by
  rw [deleteFleet]
  split_ifs with hk
  · exact hs
  · refine ⟨fun key nodes hl => ?_, hs.allocated, hs.own⟩
    exact hs.built key nodes (lookup_erase_eq_some.mp hl).2

/-- What a successful release has done. -/
theorem release_ok {s t : Simulator} {workloadID : String} (h : release s workloadID = .ok t) :
    t = { s with allocations := s.allocations.erase workloadID } := by
  rw [release] at h
  split_ifs at h
  exact (Except.ok.inj h).symm

/-- Releasing an allocation keeps the state sound. -/
theorem Sound.release {s t : Simulator} (hs : Sound s) {workloadID : String}
    (h : release s workloadID = .ok t) : Sound t := by
  rw [release_ok h]
  refine ⟨hs.built, hs.allocated.sublist (allocatedIDs_erase s workloadID), fun id a hl => ?_⟩
  exact hs.own id a (lookup_erase_eq_some.mp hl).2

/-- An operation that leaves pools and allocations alone keeps the state sound. -/
theorem Sound.of_same {s t : Simulator} (hs : Sound s) (hp : t.pools = s.pools)
    (ha : t.allocations = s.allocations) : Sound t := by
  refine ⟨by rw [hp]; exact hs.built, ?_, by rw [ha]; exact hs.own⟩
  rw [allocatedIDs, ha]
  exact hs.allocated

/-! ## The operations on runs leave pools and allocations alone -/

theorem startWithRuntimeInput_same {est : Estimator} {s t : Simulator} {order : List String}
    {now : Int} {input : RuntimeInput} {id : String}
    (h : startWithRuntimeInput est s order now input = .ok (id, t)) :
    t.pools = s.pools ∧ t.allocations = s.allocations := by
  rw [startWithRuntimeInput] at h
  split_ifs at h
  simp only at h
  split_ifs at h
  split at h
  · cases h
  · split at h
    · cases h
    · split_ifs at h
      split at h
      · cases h
      · split at h
        · cases h
        · have ht : _ = t := congrArg Prod.snd (Except.ok.inj h)
          rw [← ht]
          exact ⟨rfl, rfl⟩

theorem getStatus_same {s t : Simulator} {now : Int} {runID : String} {st : RunStatus}
    (h : getStatus s now runID = .ok (st, t)) :
    t.pools = s.pools ∧ t.allocations = s.allocations := by
  rw [getStatus] at h
  split_ifs at h
  split at h
  · cases h
  · have ht : _ = t := congrArg Prod.snd (Except.ok.inj h)
    rw [← ht]
    exact ⟨rfl, rfl⟩

theorem getLatestRunStatusForWorkload_same {s t : Simulator} {order : List String} {now : Int}
    {workloadID : String} {st : RunStatus}
    (h : getLatestRunStatusForWorkload s order now workloadID = .ok (st, t)) :
    t.pools = s.pools ∧ t.allocations = s.allocations := by
  rw [getLatestRunStatusForWorkload] at h
  split_ifs at h
  split at h
  · cases h
  · have ht : _ = t := congrArg Prod.snd (Except.ok.inj h)
    rw [← ht]
    exact ⟨rfl, rfl⟩

theorem preempt_same {s t : Simulator} {order : List String} {workloadID : String}
    (h : preempt s order workloadID = .ok t) :
    t.pools = s.pools ∧ t.allocations = s.allocations := by
  rw [preempt] at h
  split_ifs at h
  split at h
  · rw [← Except.ok.inj h]
    exact ⟨rfl, rfl⟩
  · rw [← Except.ok.inj h]
    exact ⟨rfl, rfl⟩

/-! ## Every run -/

/-- Every call keeps the state sound. -/
theorem Sound.step {est : Estimator} {s t : Simulator} {op : Op} (hs : Sound s)
    (h : step est s op = some t) : Sound t := by
  rcases same_or_done h with rfl | hdone
  · exact hs
  cases hdone with
  | registerFleet h => exact hs.register h
  | deleteFleet poolKey => exact hs.delete poolKey
  | allocateWithOptions horder h => exact hs.allocate horder h
  | startWithRuntimeInput _ h =>
      obtain ⟨hpools, hallocations⟩ := startWithRuntimeInput_same h
      exact hs.of_same hpools hallocations
  | getStatus h =>
      obtain ⟨hpools, hallocations⟩ := getStatus_same h
      exact hs.of_same hpools hallocations
  | getLatestRunStatusForWorkload h =>
      obtain ⟨hpools, hallocations⟩ := getLatestRunStatusForWorkload_same h
      exact hs.of_same hpools hallocations
  | preempt h =>
      obtain ⟨hpools, hallocations⟩ := preempt_same h
      exact hs.of_same hpools hallocations
  | release h => exact hs.release h

/-- Every reachable state is sound. -/
theorem sound_of_runs {est : Estimator} {ops : List Op} {s : Simulator}
    (h : Runs (step est) Always newSimulator ops s) : Sound s :=
  h.invariant (fun _ _ _ hs _ hst => hs.step hst) sound_newSimulator

/-- The device IDs of all registered pools, pool by pool. -/
def deviceIDs (s : Simulator) : List String :=
  s.pools.entries.flatMap (fun e => (devicesOf e.2).map Device.id)

/-- Device exclusivity. -/
structure Exclusive (s : Simulator) : Prop where
  /-- No device ID occurs in two allocations, or twice in one. -/
  allocatedOnce : (allocatedIDs s).Nodup
  /-- The device IDs of all registered pools are pairwise distinct. -/
  devicesDistinct : (deviceIDs s).Nodup
  /-- Every allocation is non-empty and stored under its own workload ID. -/
  own : ∀ id a, s.allocations.lookup id = some a → a.workloadID = id ∧ a.deviceIDs ≠ []

/-- Pool by pool or node by node, the registered devices are the same. -/
private theorem deviceIDs_eq (s : Simulator) :
    deviceIDs s = (devicesOf (allNodes s s.pools.keys)).map Device.id := by
  have hlook : ∀ e ∈ s.pools.entries, (s.pools.lookup e.1).getD [] = e.2 := by
    intro e he
    have hl : s.pools.lookup e.1 = some e.2 := AList.mem_lookup_iff.mpr he
    rw [hl]
    rfl
  have hnodes : allNodes s s.pools.keys = s.pools.entries.flatMap (fun e => e.2) := by
    show (s.pools.entries.map Sigma.fst).flatMap _ = _
    rw [List.flatMap_map]
    exact List.flatMap_congr hlook
  rw [hnodes, devicesOf, List.flatMap_assoc, List.map_flatMap]
  rfl

/-- Sound states are exclusive. -/
theorem Sound.exclusive {s : Simulator} (hs : Sound s) : Exclusive s := by
  refine ⟨hs.allocated, ?_, hs.own⟩
  rw [deviceIDs_eq]
  exact hs.nodup_devices s.pools.keys_nodup

/-- **DEVICE EXCLUSIVITY** holds in every state reachable from a new simulator, by any
    sequence of calls and for every order in which maps are visited. -/
theorem exclusive_of_runs (est : Estimator) {ops : List Op} {s : Simulator}
    (h : Runs (step est) Always newSimulator ops s) : Exclusive s :=
  (sound_of_runs h).exclusive

/-- A pool that shrinks under an allocation of both its devices. -/
def shrinkingPool : List Op :=
  [.registerFleet "ns/a" ⟨2, 1, 80, "gpu", "h100_sxm"⟩,
   .allocateWithOptions ["ns/a"] "ns/w" 2 40 ⟨.spread, false, 0, "", "h100_sxm"⟩,
   .registerFleet "ns/a" ⟨1, 1, 80, "gpu", "h100_sxm"⟩,
   .allocateWithOptions ["ns/a"] "ns/v" 1 40 ⟨.firstFit, false, 0, "", ""⟩]

/-- The second workload gets no device: the only one left is still allocated. -/
theorem exclusive_shrinkingPool :
    ∃ s, exec (step (fun _ _ _ => .ok 1)) newSimulator shrinkingPool = some s
      ∧ allocatedIDs s = ["ns/a/node-0/gpu-0", "ns/a/node-1/gpu-0"]
      ∧ deviceIDs s = ["ns/a/node-0/gpu-0"] ∧ Exclusive s := by
  have hexec : exec (step (fun _ _ _ => .ok 1)) newSimulator shrinkingPool = some _ := rfl
  exact ⟨_, hexec, by decide +kernel, by decide +kernel,
    exclusive_of_runs _ (Runs.of_exec hexec)⟩

end GpuSimulator
