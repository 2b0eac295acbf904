import GpuScheduler.CompatProofs

/-! # The GPUWorkload resource

    The custom resource every component shares: the submitter creates it, the
    scheduler moves it to `Scheduled`, a worker or the reconciler runs it.  Of the
    specification the model keeps what the scheduler converts into its own records;
    of the status, the phase and the queue time. -/

namespace GpuWorkload

open GoStrings GoMaps GpuInputs GpuCompat

/-- The empty string and the values of the `GPUWorkloadPhase` constants. -/
def phaseNames : List String :=
  ["", "Queued", "Scheduled", "Running", "Succeeded", "Failed", "Preempted"]

/-- `GPUWorkloadPhase`; `unset` is the empty string and `other` a string outside the
    enumeration. -/
inductive Phase where
  | unset | queued | scheduled | running | succeeded | failed | preempted
  | other (raw : String) (unknown : raw ∉ phaseNames)
  deriving DecidableEq, Repr

/-- The specification, as far as scheduling reads it. -/
structure GPUWorkloadSpec where
  tenant : String
  priority : Int
  gpuCount : Int
  gpuMemoryMiB : Int
  profile : String
  tokens : Int
  kind : WorkloadKind
  deriving DecidableEq, Repr

/-- The `GPUWorkload` CR. -/
structure GPUWorkload where
  ns : String
  name : String
  annotations : GoMap String String
  deletionTimestamp : Option Int
  spec : GPUWorkloadSpec
  phase : Phase
  queuedAt : Option Int

/-- `workloadID`: the scheduler's name for a workload. -/
def workloadID (ns name : String) : String := ns ++ "/" ++ name

/-- The ID of a resource. -/
def GPUWorkload.id (w : GPUWorkload) : String := workloadID w.ns w.name

/-- `GPUWorkloadToQueuedWorkload`; the kinds of the two packages are the same. -/
def gpuWorkloadToQueuedWorkload (w : GPUWorkload) (workloadID : String) (queuedAt : Int) :
    QueuedWorkload :=
  ⟨workloadID, w.spec.tenant, w.spec.priority, queuedAt, w.spec.gpuCount, w.spec.gpuMemoryMiB,
    normalizeProfileName w.spec.profile, w.spec.tokens, w.spec.kind⟩

/-- `GPUWorkloadToRunningWorkload`. -/
def gpuWorkloadToRunningWorkload (w : GPUWorkload) (workloadID : String) (startedAt : Int) :
    RunningWorkload :=
  ⟨workloadID, w.spec.tenant, w.spec.priority, startedAt, w.spec.gpuCount, w.spec.gpuMemoryMiB,
    normalizeProfileName w.spec.profile, w.spec.tokens, w.spec.kind⟩

/-- The queue time of the status, or the clock. -/
def GPUWorkload.since (w : GPUWorkload) (now : Int) : Int := w.queuedAt.getD now

/-- The record of a queued workload. -/
def GPUWorkload.asQueued (w : GPUWorkload) (now : Int) : QueuedWorkload :=
  gpuWorkloadToQueuedWorkload w w.id (w.since now)

/-- The record of a scheduled or running workload. -/
def GPUWorkload.asRunning (w : GPUWorkload) (now : Int) : RunningWorkload :=
  gpuWorkloadToRunningWorkload w w.id (w.since now)

end GpuWorkload
