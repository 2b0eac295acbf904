import GpuScheduler.GoHeapProofs
import GpuScheduler.RunHistoryProofs

/-! # The simulator with its pointers

    `SimulatorProofs` takes the payloads of a `RuntimeInput` as values.  In the code they are
    pointers: `StartWithRuntimeInput` writes its defaults through them, before it has made
    all its checks, and the record of a run keeps the pointers it was started with.  Here the
    payloads are cells of a heap, a call returns the state it leaves together with its result,
    and an error is returned with whatever was written before it.

    `view` reads through the pointers and gives a simulator of the value model.  `simulates` is
    the connection: a call does to the view what the value model's call does, except that
    the defaults of a start are also seen through every record that shares the cell. -/

namespace GpuSimMemory

open GoStrings GoMaps GoHeap GpuInputs GpuCompat GpuPlacement GpuSimulator GpuRunHistory
  StepRuns

/-! ## Data -/

/-- The pointer fields of `RuntimeInput`. -/
inductive Payload where
  | training | inference | eval | fineTune | rlhf | embedding | dataPreprocess | distillation
  | jitter
  deriving DecidableEq, Repr

/-- The struct a field points to; of `InferenceRuntime` the batch size. -/
@[reducible] def Payload.Cell : Payload → Type
  | .training => TrainingRuntime
  | .inference => Int
  | .eval => EvalRuntime
  | .fineTune => FineTuneRuntime
  | .rlhf => RLHFRuntime
  | .embedding => EmbeddingRuntime
  | .dataPreprocess => DataPreprocessRuntime
  | .distillation => DistillationRuntime
  | .jitter => JitterConfig

/-- `RuntimeInput`, with its pointers. -/
structure RuntimeArgs where
  workloadID : String
  tokens : Int
  profile : String
  kind : WorkloadKind
  pointers : Pointers Payload

/-- `runRecord`, with the pointers of its runtime input. -/
structure StoredRun where
  runID : String
  workloadID : String
  profile : String
  tokens : Int
  runtime : RuntimeArgs
  startedAt : Int
  endsAt : Int
  status : RunStatus

/-- `Simulator`, and the payload cells. -/
structure Machine where
  pools : GoMap String (List Node)
  allocations : GoMap String Allocation
  runs : GoMap String StoredRun
  nextRunID : Nat
  heap : Heap Payload.Cell

/-! ## Reading through the pointers -/

/-- The input with given payloads. -/
def RuntimeArgs.filled (input : RuntimeArgs) (payloads : (p : Payload) → Option p.Cell) :
    RuntimeInput where
  workloadID := input.workloadID
  tokens := input.tokens
  profile := input.profile
  kind := input.kind
  training := payloads .training
  inference := payloads .inference
  eval := payloads .eval
  fineTune := payloads .fineTune
  rlhf := payloads .rlhf
  embedding := payloads .embedding
  dataPreprocess := payloads .dataPreprocess
  distillation := payloads .distillation
  jitter := payloads .jitter

/-- The input as a value. -/
def RuntimeArgs.read (heap : Heap Payload.Cell) (input : RuntimeArgs) : RuntimeInput :=
  input.filled (load heap input.pointers)

/-- The record as a value. -/
def StoredRun.read (heap : Heap Payload.Cell) (r : StoredRun) : RunRecord :=
  ⟨r.runID, r.workloadID, r.profile, r.tokens, r.runtime.read heap, r.startedAt, r.endsAt,
    r.status⟩

/-- The simulator as a value. -/
def Machine.view (m : Machine) : Simulator :=
  ⟨m.pools, m.allocations, mapValues (StoredRun.read m.heap) m.runs, m.nextRunID⟩

theorem lookup_view (m : Machine) (id : String) :
    m.view.runs.lookup id = (m.runs.lookup id).map (StoredRun.read m.heap) :=
  lookup_mapValues _ _ _

/-! ## The operations -/

/-- `RegisterFleet`. -/
def registerFleet (m : Machine) (poolKey : String) (spec : GPUNodePoolSpec) :
    Machine × Except SimError Unit :=
  let poolKey := if poolKey = "" then defaultPoolKey else poolKey
  match buildNodesWithPoolKey spec poolKey with
  | .error e => (m, .error (.build e))
  | .ok nodes => ({ m with pools := m.pools.insert poolKey nodes }, .ok ())

/-- `DeleteFleet`. -/
def deleteFleet (m : Machine) (poolKey : String) : Machine :=
  if poolKey = "" then m else { m with pools := m.pools.erase poolKey }

/-- `AllocateWithOptions`; `order` is the order in which the pools are visited. -/
def allocateWithOptions (m : Machine) (order : List String) (workloadID : String)
    (gpuCount memMiB : Int) (opts : AllocationOptions) : Machine × Except SimError Allocation :=
  if workloadID = "" then (m, .error .workloadIDRequired)
  else if gpuCount ≤ 0 then (m, .error (.gpuCountNotPositive gpuCount))
  else if memMiB ≤ 0 then (m, .error (.memMiBNotPositive memMiB))
  else if (m.allocations.lookup workloadID).isSome then (m, .error (.alreadyAllocated workloadID))
  else if m.pools.entries = [] then (m, .error .fleetNotRegistered)
  else if opts.maxNodes < 0 then (m, .error (.maxNodesNegative opts.maxNodes))
  else
    let usedDevices := m.allocations.entries.flatMap (fun e => e.2.deviceIDs)
    let nodes := order.flatMap (fun key => (m.pools.lookup key).getD [])
    let perNode := computeEligibleDevicesPerNode nodes usedDevices memMiB
      opts.preferredDeviceType opts.preferredProfile
    match pickDevices perNode gpuCount.toNat opts.policy opts.requireSameNode
        opts.maxNodes.toNat with
    | .error e => (m, .error (.placementFailed workloadID e))
    | .ok deviceIDs =>
      if (deviceIDs.length : Int) < gpuCount then
        (m, .error (.insufficientDevices workloadID gpuCount memMiB deviceIDs.length))
      else
        let allocation : Allocation := ⟨workloadID, deviceIDs⟩
        ({ m with allocations := m.allocations.insert workloadID allocation }, .ok allocation)

/-- The payload for which a kind has defaults. -/
def defaultedPayload : WorkloadKind → Option Payload
  | .inference => some .inference
  | .eval => some .eval
  | .embedding => some .embedding
  | .dataPreprocess => some .dataPreprocess
  | .rlhf => some .rlhf
  | .distillation => some .distillation
  | _ => none

/-- The zero struct. -/
def zeroCell : (p : Payload) → p.Cell
  | .training => ⟨0, 0, 0, 0⟩
  | .inference => (0 : Int)
  | .eval => ⟨0, 0, 0⟩
  | .fineTune => ⟨0, 0, 0, 0, 0⟩
  | .rlhf => ⟨0, 0, 0, 0⟩
  | .embedding => ⟨0, 0, 0⟩
  | .dataPreprocess => ⟨0, 0, 0⟩
  | .distillation => ⟨"", 0, 0⟩
  | .jitter => ⟨false, 0, 0⟩

/-- The defaults that are written to a payload. -/
def withDefaults (tokens : Int) (profile : String) : (p : Payload) → p.Cell → p.Cell
  | .inference => fun batchSize => orDefault batchSize 1
  | .eval => EvalRuntime.withDefaults
  | .embedding => EmbeddingRuntime.withDefaults
  | .dataPreprocess => fun d => d.withDefaults tokens
  | .rlhf => RLHFRuntime.withDefaults
  | .distillation => fun d => d.withDefaults profile
  | .training => id
  | .fineTune => id
  | .jitter => id

/-- An unset kind means training. -/
def RuntimeArgs.defaultKind (input : RuntimeArgs) : RuntimeArgs :=
  if input.kind = .unset then { input with kind := .training } else input

/-- The per-kind defaults, written through the payload's pointer; a nil pointer gets a new
    cell. -/
def applyDefaults (heap : Heap Payload.Cell) (fresh : Addr) (input : RuntimeArgs) :
    Heap Payload.Cell × RuntimeArgs :=
  match defaultedPayload input.kind with
  | none => (heap, input)
  | some p =>
      let (heap, pointers) := edit heap fresh input.pointers p (zeroCell p)
        (withDefaults input.tokens input.profile p)
      (heap, { input with pointers := pointers })

/-- The run of a workload that a loop over the runs finds first, with its key. -/
def Machine.findRunning (m : Machine) (order : List String) (workloadID : String) :
    Option (String × StoredRun) :=
  order.findSome? (fun id => ((m.runs.lookup id).filter (fun r =>
    r.workloadID = workloadID ∧ r.status = .running)).map (fun r => (id, r)))

/-- `StartWithRuntimeInput` at time `now`; `fresh` is where a new payload is put. -/
def startWithRuntimeInput (estimateDuration : Estimator) (m : Machine) (order : List String)
    (now : Int) (fresh : Addr) (input : RuntimeArgs) : Machine × Except SimError String :=
  if input.workloadID = "" then (m, .error .workloadIDRequired)
  else if input.tokens ≤ 0 then (m, .error (.tokensNotPositive input.tokens))
  else if input.profile = "" then (m, .error .profileRequired)
  else
    let input := input.defaultKind
    if input.kind.supported = false then (m, .error (.unsupportedKind input.kind))
    else
      let (heap, input) := applyDefaults m.heap fresh input
      let m := { m with heap := heap }
      match checkRuntime (input.read heap) with
      | some e => (m, .error e)
      | none =>
        match m.allocations.lookup input.workloadID with
        | none => (m, .error (.noAllocation input.workloadID))
        | some allocation =>
          if allocation.deviceIDs = [] then (m, .error (.allocationEmpty input.workloadID))
          else match m.findRunning order input.workloadID with
          | some r => (m, .error (.alreadyRunning input.workloadID r.2.runID))
          | none =>
            match estimateDuration now (input.read heap) allocation.deviceIDs.length with
            | .error e => (m, .error e)
            | .ok duration =>
              let runID := "run-" ++ fmtNat (m.nextRunID + 1)
              ({ m with
                nextRunID := m.nextRunID + 1
                runs := m.runs.insert runID ⟨runID, input.workloadID, input.profile,
                  input.tokens, input, now, now + duration, .running⟩ }, .ok runID)

/-- The lazy completion of a run on read. -/
def StoredRun.refresh (r : StoredRun) (now : Int) : StoredRun :=
  if r.status = .running ∧ r.endsAt ≤ now then { r with status := .succeeded } else r

/-- `GetStatus` at time `now`. -/
def getStatus (m : Machine) (now : Int) (runID : String) : Machine × Except SimError RunStatus :=
  if runID = "" then (m, .error .runIDRequired)
  else match m.runs.lookup runID with
  | none => (m, .error (.runNotFound runID))
  | some run =>
      ({ m with runs := m.runs.insert runID (run.refresh now) }, .ok (run.refresh now).status)

/-- The loop of `GetLatestRunStatusForWorkload`: the latest run, with its key. -/
def Machine.latestRun (m : Machine) (workloadID : String) :
    List String → Option (String × StoredRun) → Option (String × StoredRun)
  | [], latest => latest
  | id :: order, latest =>
      match m.runs.lookup id with
      | none => m.latestRun workloadID order latest
      | some run =>
        if run.workloadID ≠ workloadID then m.latestRun workloadID order latest
        else match latest with
          | none => m.latestRun workloadID order (some (id, run))
          | some l =>
              if l.2.startedAt < run.startedAt then m.latestRun workloadID order (some (id, run))
              else m.latestRun workloadID order (some l)

/-- `GetLatestRunStatusForWorkload` at time `now`. -/
def getLatestRunStatusForWorkload (m : Machine) (order : List String) (now : Int)
    (workloadID : String) : Machine × Except SimError RunStatus :=
  if workloadID = "" then (m, .error .workloadIDRequired)
  else match m.latestRun workloadID order none with
  | none => (m, .error (.runForWorkloadNotFound workloadID))
  | some (id, run) =>
      ({ m with runs := m.runs.insert id (run.refresh now) }, .ok (run.refresh now).status)

/-- `Preempt`: the first running run of the workload, if any, is marked. -/
def preempt (m : Machine) (order : List String) (workloadID : String) :
    Machine × Except SimError Unit :=
  if workloadID = "" then (m, .error .workloadIDRequired)
  else match m.findRunning order workloadID with
  | none => (m, .ok ())
  | some (id, run) =>
      ({ m with runs := m.runs.insert id { run with status := .preempted } }, .ok ())

/-- `Release`. -/
def release (m : Machine) (workloadID : String) : Machine × Except SimError Unit :=
  if workloadID = "" then (m, .error .workloadIDRequired)
  else ({ m with allocations := m.allocations.erase workloadID }, .ok ())

/-! ## Calls -/

/-- One call of the simulator, with the clock, the map orders and the new cell it meets. -/
inductive Call where
  | registerFleet (poolKey : String) (spec : GPUNodePoolSpec)
  | deleteFleet (poolKey : String)
  | allocateWithOptions (order : List String) (workloadID : String) (gpuCount memMiB : Int)
      (opts : AllocationOptions)
  | startWithRuntimeInput (order : List String) (now : Int) (fresh : Addr) (input : RuntimeArgs)
  | getStatus (now : Int) (runID : String)
  | getLatestRunStatusForWorkload (order : List String) (now : Int) (workloadID : String)
  | preempt (order : List String) (workloadID : String)
  | release (workloadID : String)

/-- The state a call leaves, and its error. -/
def call (est : Estimator) (m : Machine) : Call → Machine × Option SimError
  | .registerFleet poolKey spec => (registerFleet m poolKey spec).map id errorOf
  | .deleteFleet poolKey => (deleteFleet m poolKey, none)
  | .allocateWithOptions order workloadID gpuCount memMiB opts =>
      (allocateWithOptions m order workloadID gpuCount memMiB opts).map id errorOf
  | .startWithRuntimeInput order now fresh input =>
      (startWithRuntimeInput est m order now fresh input).map id errorOf
  | .getStatus now runID => (getStatus m now runID).map id errorOf
  | .getLatestRunStatusForWorkload order now workloadID =>
      (getLatestRunStatusForWorkload m order now workloadID).map id errorOf
  | .preempt order workloadID => (preempt m order workloadID).map id errorOf
  | .release workloadID => (release m workloadID).map id errorOf

/-- The call with its input as a value. -/
def Call.op (heap : Heap Payload.Cell) : Call → Op
  | .registerFleet poolKey spec => .registerFleet poolKey spec
  | .deleteFleet poolKey => .deleteFleet poolKey
  | .allocateWithOptions order workloadID gpuCount memMiB opts =>
      .allocateWithOptions order workloadID gpuCount memMiB opts
  | .startWithRuntimeInput order now _ input =>
      .startWithRuntimeInput order now (input.read heap)
  | .getStatus now runID => .getStatus now runID
  | .getLatestRunStatusForWorkload order now workloadID =>
      .getLatestRunStatusForWorkload order now workloadID
  | .preempt order workloadID => .preempt order workloadID
  | .release workloadID => .release workloadID

/-- The checks that `StartWithRuntimeInput` makes before it writes defaults. -/
def RuntimeArgs.Checked (input : RuntimeArgs) : Prop :=
  input.workloadID ≠ "" ∧ 0 < input.tokens ∧ input.profile ≠ ""
    ∧ input.defaultKind.kind.supported = true

instance (input : RuntimeArgs) : Decidable input.Checked := inferInstanceAs (Decidable (_ ∧ _))

/-- The state with the defaults of a call written. -/
def Machine.defaulted (m : Machine) : Call → Machine
  | .startWithRuntimeInput _ _ fresh input =>
      if input.Checked then { m with heap := (applyDefaults m.heap fresh input.defaultKind).1 }
      else m
  | _ => m

/-! ## The view of each call -/

section
variable (m : Machine)

theorem registerFleet_view (poolKey : String) (spec : GPUNodePoolSpec) :
    (registerFleet m poolKey spec).1.view
        = afterUnit m.view (GpuSimulator.registerFleet m.view poolKey spec)
      ∧ errorOf (registerFleet m poolKey spec).2
        = errorOf (GpuSimulator.registerFleet m.view poolKey spec) := by
  simp only [registerFleet, GpuSimulator.registerFleet]
  cases buildNodesWithPoolKey spec (if poolKey = "" then defaultPoolKey else poolKey) with
  | error e => exact ⟨rfl, rfl⟩
  | ok nodes => exact ⟨rfl, rfl⟩

theorem deleteFleet_view (poolKey : String) :
    (deleteFleet m poolKey).view = GpuSimulator.deleteFleet m.view poolKey := by
  rw [deleteFleet, GpuSimulator.deleteFleet]
  split_ifs
  · rfl
  · rfl

theorem allocateWithOptions_view (order : List String) (workloadID : String)
    (gpuCount memMiB : Int) (opts : AllocationOptions) :
    (allocateWithOptions m order workloadID gpuCount memMiB opts).1.view
        = after m.view
          (GpuSimulator.allocateWithOptions m.view order workloadID gpuCount memMiB opts)
      ∧ errorOf (allocateWithOptions m order workloadID gpuCount memMiB opts).2
        = errorOf
          (GpuSimulator.allocateWithOptions m.view order workloadID gpuCount memMiB opts) := by
  have hallocations : m.view.allocations = m.allocations := rfl
  have hpools : m.view.pools = m.pools := rfl
  simp only [allocateWithOptions, GpuSimulator.allocateWithOptions, allNodes, allocatedIDs,
    hallocations, hpools]
  split_ifs
  any_goals exact ⟨rfl, rfl⟩
  cases pickDevices _ gpuCount.toNat opts.policy opts.requireSameNode opts.maxNodes.toNat with
  | error e => exact ⟨rfl, rfl⟩
  | ok deviceIDs =>
      simp only
      split_ifs
      · exact ⟨rfl, rfl⟩
      · exact ⟨rfl, rfl⟩

theorem release_view (workloadID : String) :
    (release m workloadID).1.view = afterUnit m.view (GpuSimulator.release m.view workloadID)
      ∧ errorOf (release m workloadID).2 = errorOf (GpuSimulator.release m.view workloadID) := by
  rw [release, GpuSimulator.release]
  split_ifs
  · exact ⟨rfl, rfl⟩
  · exact ⟨rfl, rfl⟩

/-- A write to one record. -/
theorem view_insert (id : String) (r : StoredRun) :
    Machine.view { m with runs := m.runs.insert id r }
      = { m.view with runs := m.view.runs.insert id (r.read m.heap) } := by
  show (⟨_, _, mapValues _ _, _⟩ : Simulator) = _
  rw [mapValues_insert]
  rfl

theorem read_refresh (heap : Heap Payload.Cell) (r : StoredRun) (now : Int) :
    (r.refresh now).read heap = (r.read heap).refresh now := by
  rw [StoredRun.refresh, RunRecord.refresh]
  show StoredRun.read heap (if r.status = .running ∧ r.endsAt ≤ now then _ else _)
    = if r.status = .running ∧ r.endsAt ≤ now then _ else _
  split_ifs
  · rfl
  · rfl

theorem getStatus_view (now : Int) (runID : String) :
    (getStatus m now runID).1.view = after m.view (GpuSimulator.getStatus m.view now runID)
      ∧ errorOf (getStatus m now runID).2 = errorOf (GpuSimulator.getStatus m.view now runID) := by
  rw [getStatus, GpuSimulator.getStatus, lookup_view]
  split_ifs
  · exact ⟨rfl, rfl⟩
  · cases m.runs.lookup runID with
    | none => exact ⟨rfl, rfl⟩
    | some run =>
        refine ⟨?_, rfl⟩
        show Machine.view { m with runs := _ } = _
        rw [view_insert, read_refresh]
        rfl

/-- A scan sees the same runs through the view. -/
theorem preemptTarget_view (order : List String) (workloadID : String) :
    preemptTarget m.view order workloadID
      = (m.findRunning order workloadID).map (Prod.map id (StoredRun.read m.heap)) := by
  rw [preemptTarget, Machine.findRunning, List.map_findSome?]
  congr 1
  funext id
  rw [Function.comp_apply, lookup_view]
  cases m.runs.lookup id with
  | none => rfl
  | some r =>
      rw [Option.map_some, Option.filter_some, Option.filter_some]
      show Option.map _ (if decide (r.workloadID = workloadID ∧ r.status = .running) = true
        then _ else _) = _
      split_ifs
      · rfl
      · rfl

theorem findRunning_view (order : List String) (workloadID : String) :
    GpuSimulator.findRunning m.view order workloadID
      = (m.findRunning order workloadID).map (fun r => r.2.read m.heap) := by
  have htarget : GpuSimulator.findRunning m.view order workloadID
      = (preemptTarget m.view order workloadID).map Prod.snd := by
    rw [preemptTarget, List.map_findSome?, GpuSimulator.findRunning]
    congr 1
    funext id
    rw [Function.comp_apply, Option.map_map]
    exact Option.map_id'.symm
  rw [htarget, preemptTarget_view, Option.map_map]
  rfl

theorem preempt_view (order : List String) (workloadID : String) :
    (preempt m order workloadID).1.view
        = afterUnit m.view (GpuSimulator.preempt m.view order workloadID)
      ∧ errorOf (preempt m order workloadID).2
        = errorOf (GpuSimulator.preempt m.view order workloadID) := by
  rw [preempt, preempt_eq, preemptTarget_view]
  split_ifs
  · exact ⟨rfl, rfl⟩
  · cases m.findRunning order workloadID with
    | none => exact ⟨rfl, rfl⟩
    | some p => exact ⟨view_insert m p.1 { p.2 with status := .preempted }, rfl⟩

/-- The loop for the latest run sees the same runs through the view. -/
theorem latestRun_view (workloadID : String) (order : List String)
    (latest : Option (String × StoredRun)) :
    GpuSimulator.latestRun m.view workloadID order
        (latest.map (Prod.map id (StoredRun.read m.heap)))
      = (m.latestRun workloadID order latest).map (Prod.map id (StoredRun.read m.heap)) := by
  induction order generalizing latest with
  | nil => rfl
  | cons key order ih =>
      rw [GpuSimulator.latestRun, Machine.latestRun, lookup_view]
      cases m.runs.lookup key with
      | none => exact ih latest
      | some run =>
          have hw : (run.read m.heap).workloadID = run.workloadID := rfl
          simp only [Option.map_some, hw]
          split_ifs
          · exact ih latest
          · cases latest with
            | none => exact ih (some (key, run))
            | some l =>
                have hlt : (Prod.map id (StoredRun.read m.heap) l).2.startedAt
                    < (run.read m.heap).startedAt ↔ l.2.startedAt < run.startedAt := Iff.rfl
                simp only [Option.map_some, hlt]
                split_ifs
                · exact ih (some (key, run))
                · exact ih (some l)

theorem getLatestRunStatusForWorkload_view (order : List String) (now : Int)
    (workloadID : String) :
    (getLatestRunStatusForWorkload m order now workloadID).1.view
        = after m.view
          (GpuSimulator.getLatestRunStatusForWorkload m.view order now workloadID)
      ∧ errorOf (getLatestRunStatusForWorkload m order now workloadID).2
        = errorOf
          (GpuSimulator.getLatestRunStatusForWorkload m.view order now workloadID) := by
  have hlatest := latestRun_view m workloadID order none
  rw [Option.map_none] at hlatest
  rw [getLatestRunStatusForWorkload, GpuSimulator.getLatestRunStatusForWorkload, hlatest]
  split_ifs
  · exact ⟨rfl, rfl⟩
  · cases m.latestRun workloadID order none with
    | none => exact ⟨rfl, rfl⟩
    | some p =>
        refine ⟨?_, rfl⟩
        show Machine.view { m with runs := _ } = _
        rw [view_insert, read_refresh]
        rfl

/-! ## The view of a start -/

theorem read_defaultKind (heap : Heap Payload.Cell) (input : RuntimeArgs) :
    GpuSimulator.defaultKind (input.read heap) = input.defaultKind.read heap := by
  rw [GpuSimulator.defaultKind, RuntimeArgs.defaultKind]
  show (if input.kind = .unset then _ else _) = _
  split_ifs
  · rfl
  · rfl

/-- The defaults of the value model replace one payload. -/
theorem applyDefaults_filled (input : RuntimeArgs) (payloads : (p : Payload) → Option p.Cell) :
    GpuSimulator.applyDefaults (input.filled payloads)
      = (defaultedPayload input.kind).elim (input.filled payloads) (fun p =>
        input.filled (Function.update payloads p (some
          (withDefaults input.tokens input.profile p ((payloads p).getD (zeroCell p)))))) := by
  obtain ⟨workloadID, tokens, profile, kind, pointers⟩ := input
  cases kind with
  | _ => rfl

/-- Through the pointers of the input the defaults are those of the value model. -/
theorem read_applyDefaults (heap : Heap Payload.Cell) (fresh : Addr) (input : RuntimeArgs) :
    (applyDefaults heap fresh input).2.read (applyDefaults heap fresh input).1
      = GpuSimulator.applyDefaults (input.read heap) := by
  rw [RuntimeArgs.read, RuntimeArgs.read, applyDefaults_filled, applyDefaults]
  cases defaultedPayload input.kind with
  | none => rfl
  | some p =>
      rw [Option.elim_some, ← load_edit heap fresh]
      rfl

/-- A start does what the value model does, to the state with the defaults written. -/
theorem startWithRuntimeInput_view (est : Estimator) (order : List String) (now : Int)
    (fresh : Addr) (input : RuntimeArgs) :
    (startWithRuntimeInput est m order now fresh input).1.view
        = after (m.defaulted (.startWithRuntimeInput order now fresh input)).view
          (GpuSimulator.startWithRuntimeInput est
            (m.defaulted (.startWithRuntimeInput order now fresh input)).view order now
            (input.read m.heap))
      ∧ errorOf (startWithRuntimeInput est m order now fresh input).2
        = errorOf (GpuSimulator.startWithRuntimeInput est
            (m.defaulted (.startWithRuntimeInput order now fresh input)).view order now
            (input.read m.heap)) := by
  rw [startWithRuntimeInput, GpuSimulator.startWithRuntimeInput, read_defaultKind]
  simp only [Machine.defaulted]
  have hid : (input.read m.heap).workloadID = input.workloadID := rfl
  have htokens : (input.read m.heap).tokens = input.tokens := rfl
  have hprofile : (input.read m.heap).profile = input.profile := rfl
  have hkind : (input.defaultKind.read m.heap).kind = input.defaultKind.kind := rfl
  rw [hid, htokens, hprofile, hkind, ← read_applyDefaults m.heap fresh]
  by_cases h1 : input.workloadID = ""
  · rw [if_pos h1, if_pos h1, if_neg (fun h => h.1 h1)]
    exact ⟨rfl, rfl⟩
  by_cases h2 : input.tokens ≤ 0
  · rw [if_neg h1, if_neg h1, if_pos h2, if_pos h2, if_neg (fun h => absurd h.2.1 (not_lt.mpr h2))]
    exact ⟨rfl, rfl⟩
  by_cases h3 : input.profile = ""
  · rw [if_neg h1, if_neg h1, if_neg h2, if_neg h2, if_pos h3, if_pos h3,
      if_neg (fun h => h.2.2.1 h3)]
    exact ⟨rfl, rfl⟩
  by_cases h4 : input.defaultKind.kind.supported = false
  · rw [if_neg h1, if_neg h1, if_neg h2, if_neg h2, if_neg h3, if_neg h3, if_pos h4, if_pos h4,
      if_neg (fun h => absurd h.2.2.2 (by rw [h4]; exact Bool.false_ne_true))]
    exact ⟨rfl, rfl⟩
  rw [if_neg h1, if_neg h1, if_neg h2, if_neg h2, if_neg h3, if_neg h3, if_neg h4, if_neg h4,
    if_pos ⟨h1, not_le.mp h2, h3, by simpa using h4⟩]
  -- from here on both read the state with the defaults written
  generalize hdefaults : applyDefaults m.heap fresh input.defaultKind = written
  obtain ⟨heap, input'⟩ := written
  simp only
  cases checkRuntime (input'.read heap) with
  | some e => exact ⟨rfl, rfl⟩
  | none =>
      have hallocation : (Machine.view { m with heap := heap }).allocations.lookup
          (input'.read heap).workloadID = m.allocations.lookup input'.workloadID := rfl
      have hrunning : GpuSimulator.findRunning (Machine.view { m with heap := heap }) order
          (input'.read heap).workloadID
          = (Machine.findRunning { m with heap := heap } order input'.workloadID).map
            (fun r => r.2.read heap) := findRunning_view _ _ _
      rw [hallocation, hrunning]
      cases m.allocations.lookup input'.workloadID with
      | none => exact ⟨rfl, rfl⟩
      | some allocation =>
          simp only
          split_ifs
          · exact ⟨rfl, rfl⟩
          · cases Machine.findRunning { m with heap := heap } order input'.workloadID with
            | some r => exact ⟨rfl, rfl⟩
            | none =>
                simp only [Option.map_none]
                cases est now (input'.read heap) allocation.deviceIDs.length with
                | error e => exact ⟨rfl, rfl⟩
                | ok duration =>
                    refine ⟨?_, rfl⟩
                    show Machine.view { m with heap := heap, nextRunID := _, runs := _ } = _
                    rw [view_insert { m with heap := heap, nextRunID := m.nextRunID + 1 }]
                    rfl

end

/-! ## Runs of calls -/

/-- No record points to the cell. -/
def Fresh (m : Machine) (a : Addr) : Prop :=
  ∀ r ∈ values m.runs, ∀ p, r.runtime.pointers p ≠ some a

/-- A map order lists the map's keys, each once, and a new cell is one that is not in use. -/
def Enabled (m : Machine) : Call → Prop
  | .allocateWithOptions order _ _ _ _ => order.Perm m.pools.keys
  | .startWithRuntimeInput order _ fresh _ => order.Perm m.runs.keys ∧ Fresh m fresh
  | .getLatestRunStatusForWorkload order _ _ => order.Perm m.runs.keys
  | .preempt order _ => order.Perm m.runs.keys
  | _ => True

/-- The pointer fields. -/
def Payload.all : List Payload :=
  [.training, .inference, .eval, .fineTune, .rlhf, .embedding, .dataPreprocess, .distillation,
    .jitter]

theorem Payload.mem_all (p : Payload) : p ∈ Payload.all := by
  cases p <;> decide

instance (m : Machine) (a : Addr) : Decidable (Fresh m a) :=
  decidable_of_iff (∀ r ∈ values m.runs, ∀ p ∈ Payload.all, r.runtime.pointers p ≠ some a)
    ⟨fun h r hr p => h r hr p p.mem_all, fun h r hr p _ => h r hr p⟩

instance (m : Machine) (c : Call) : Decidable (Enabled m c) :=
  match c with
  | .registerFleet _ _ => .isTrue trivial
  | .deleteFleet _ => .isTrue trivial
  | .allocateWithOptions order _ _ _ _ => inferInstanceAs (Decidable (order.Perm m.pools.keys))
  | .startWithRuntimeInput order _ fresh _ =>
      inferInstanceAs (Decidable (order.Perm m.runs.keys ∧ Fresh m fresh))
  | .getStatus _ _ => .isTrue trivial
  | .getLatestRunStatusForWorkload order _ _ =>
      inferInstanceAs (Decidable (order.Perm m.runs.keys))
  | .preempt order _ => inferInstanceAs (Decidable (order.Perm m.runs.keys))
  | .release _ => .isTrue trivial

/-- What happens: a call, or a caller writes a payload. -/
inductive Action where
  | call (c : Call)
  | store (p : Payload) (a : Addr) (v : p.Cell)

/-- One action. -/
def step (est : Estimator) (m : Machine) : Action → Option Machine
  | .call c => if Enabled m c then some (call est m c).1 else none
  | .store p a v => some { m with heap := write m.heap p a v }

/-- `NewSimulator`, among arbitrary payloads. -/
def newMachine (heap : Heap Payload.Cell) : Machine := ⟨∅, ∅, ∅, 0, heap⟩

/-- **SIMULATION**: with the defaults of the call written first, the value model's call leaves the
    view of what the call leaves, and they return the same error. -/
theorem simulates (est : Estimator) {m : Machine} {c : Call} (hc : Enabled m c) :
    GpuSimulator.step est (m.defaulted c).view (c.op m.heap) = some (call est m c).1.view
      ∧ failure est (m.defaulted c).view (c.op m.heap) = (call est m c).2 := by
  have hkeys : ∀ m' : Machine, m'.runs = m.runs → m'.view.runs.keys = m.runs.keys := by
    intro m' hm'
    rw [← hm']
    exact keys_mapValues _ _
  cases c with
  | registerFleet poolKey spec =>
      obtain ⟨hview, herror⟩ := registerFleet_view m poolKey spec
      exact ⟨congrArg some hview.symm, herror.symm⟩
  | deleteFleet poolKey => exact ⟨congrArg some (deleteFleet_view m poolKey).symm, rfl⟩
  | allocateWithOptions order workloadID gpuCount memMiB opts =>
      obtain ⟨hview, herror⟩ := allocateWithOptions_view m order workloadID gpuCount memMiB opts
      have horder : order.Perm m.view.pools.keys := hc
      exact ⟨(if_pos horder).trans (congrArg some hview.symm), herror.symm⟩
  | startWithRuntimeInput order now fresh input =>
      obtain ⟨hview, herror⟩ := startWithRuntimeInput_view m est order now fresh input
      have hruns : (m.defaulted (.startWithRuntimeInput order now fresh input)).runs = m.runs := by
        rw [Machine.defaulted]
        split_ifs
        · rfl
        · rfl
      have horder : order.Perm
          (m.defaulted (.startWithRuntimeInput order now fresh input)).view.runs.keys := by
        rw [hkeys _ hruns]
        exact hc.1
      exact ⟨(if_pos horder).trans (congrArg some hview.symm), herror.symm⟩
  | getStatus now runID =>
      obtain ⟨hview, herror⟩ := getStatus_view m now runID
      exact ⟨congrArg some hview.symm, herror.symm⟩
  | getLatestRunStatusForWorkload order now workloadID =>
      obtain ⟨hview, herror⟩ := getLatestRunStatusForWorkload_view m order now workloadID
      have horder : order.Perm m.view.runs.keys := by
        rw [hkeys m rfl]
        exact hc
      exact ⟨(if_pos horder).trans (congrArg some hview.symm), herror.symm⟩
  | preempt order workloadID =>
      obtain ⟨hview, herror⟩ := preempt_view m order workloadID
      have horder : order.Perm m.view.runs.keys := by
        rw [hkeys m rfl]
        exact hc
      exact ⟨(if_pos horder).trans (congrArg some hview.symm), herror.symm⟩
  | release workloadID =>
      obtain ⟨hview, herror⟩ := release_view m workloadID
      exact ⟨congrArg some hview.symm, herror.symm⟩

/-- The log of the runs does not depend on the payloads. -/
theorem logged_of_heap {m : Machine} (h : Logged m.view) (heap : Heap Payload.Cell) :
    Logged (Machine.view { m with heap := heap }) := by
  -- a record seen in the one heap is the record seen in the other, up to its payloads
  have hsame : ∀ id r, (Machine.view { m with heap := heap }).runs.lookup id = some r →
      ∃ q, m.view.runs.lookup id = some q ∧ q.runID = r.runID ∧ q.workloadID = r.workloadID
        ∧ q.status = r.status := by
    intro id r hr
    rw [lookup_view] at hr
    obtain ⟨stored, hstored, rfl⟩ := Option.map_eq_some_iff.mp hr
    have hstored' : m.runs.lookup id = some stored := hstored
    exact ⟨stored.read m.heap, by rw [lookup_view, hstored', Option.map_some], rfl, rfl, rfl⟩
  constructor
  · intro id r hr
    obtain ⟨q, hq, hid, -, -⟩ := hsame id r hr
    rw [← hid]
    exact h.issued id q hq
  · intro id id' r r' hr hr' hw hrun hrun'
    obtain ⟨q, hq, -, hqw, hqs⟩ := hsame id r hr
    obtain ⟨q', hq', -, hqw', hqs'⟩ := hsame id' r' hr'
    exact h.one id id' q q' hq hq' (by rw [hqw, hqw', hw]) (by rw [hqs, hrun])
      (by rw [hqs', hrun'])

/-- Writing defaults changes only the heap. -/
theorem defaulted_eq (m : Machine) (c : Call) :
    ∃ heap, m.defaulted c = { m with heap := heap } := by
  cases c with
  | startWithRuntimeInput order now fresh input =>
      rw [Machine.defaulted]
      split_ifs
      · exact ⟨_, rfl⟩
      · exact ⟨m.heap, rfl⟩
  | _ => exact ⟨m.heap, rfl⟩

/-- The log is kept in every run. -/
theorem logged_of_runs {est : Estimator} {heap : Heap Payload.Cell} {actions : List Action}
    {m : Machine} (h : Runs (step est) Always (newMachine heap) actions m) : Logged m.view := by
  have hstep : ∀ m action m', Logged m.view → Always m action → step est m action = some m' →
      Logged m'.view := by
    intro m action m' hm _ hstep
    cases action with
    | call c =>
        simp only [step] at hstep
        split_ifs at hstep with hc
        rw [← Option.some.inj hstep]
        obtain ⟨heap, hheap⟩ := defaulted_eq m c
        refine Logged.step ?_ (simulates est hc).1
        rw [hheap]
        exact logged_of_heap hm heap
    | store p a v =>
        rw [← Option.some.inj hstep]
        exact logged_of_heap hm _
  exact h.invariant hstep logged_newSimulator

end GpuSimMemory
