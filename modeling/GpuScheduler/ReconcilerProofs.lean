import GpuScheduler.ExecuteAdmissionProofs
import GpuScheduler.CompletionCountProofs

/-! # One reconciler

    `Reconcile`, with `executeAdmission` and `pollRunningStatus`, appears in several models,
    each with what its properties need: the scheduler's state beside it (`GpuInProcess`), the
    finalizer and the lives of a name (`GpuLiveRun`), the result of an admission
    (`GpuExecuteAdmission`), the versions of the object with its annotations
    (`GpuCompletionCount`), the status alone among other writers (`GpuLifecycle`).

    They are models of one function.  Where the simulator is part of the model it is called in
    the same way (`sim_agrees`, `executeAdmission_eq`), and the status that is written is
    always the one of `GpuLifecycle.reconciled` for the simulator's answer
    (`liveRun_reconciled`, `inProcess_reconciled`, `completionCount_reconciled`). -/

namespace GpuReconciler

open GoMaps GoFmt GpuWorkload GpuSimulator GpuCluster GpuErrorText GpuStoredStart
open GpuInProcess (Context Plant Fleet isTerminalPhase startAdmitted)
open GpuLiveRun (Site Object targetPhase)
open GpuLifecycle (reconciled)

/-- The status of a workload. -/
def status (w : GPUWorkload) : Phase × Option Int := (w.phase, w.queuedAt)

/-- What the simulator answers to a reconcile: `running` after a start, the status of the
    latest run in a poll. -/
def answer (v : Verbs) (est : Estimator) (x : Context) (w : GPUWorkload) (s : Simulator) :
    Option RunStatus :=
  match w.phase with
  | .scheduled =>
      ((GpuInProcess.allocateAdmitted x w s).bind (startAdmitted v est x w)).toOption.map
        (fun _ => .running)
  | .running => (getLatestRunStatusForWorkload s x.runs x.now w.id).toOption.map Prod.fst
  | _ => none

/-! ## The admission -/

/-- What an admission leaves of a site: the simulator, and the phase after a success. -/
def afterAdmission (k : String) (o : Object) (s : Site) :
    Except GpuExecuteAdmission.AdmissionError Unit × Simulator → Site
  | (.ok _, sim) => Site.put { s with sim := sim } k (o.withPhase .running)
  | (.error _, sim) => { s with sim := sim }

/-- **ONE ADMISSION**: for a stored workload the two models call the simulator alike, and
    `Running` is written exactly when the result is `nil`. -/
theorem executeAdmission_eq (v : Verbs) (duration : Int → RuntimeInput → Nat → Int)
    (x : GpuExecuteAdmission.Attempt) (a : Stored) (hphase : a.workload.phase = .scheduled)
    {o : Object} (ho : o.workload = a.workload) (k : String) (s : Site) :
    GpuLiveRun.executeAdmission v (estimateDuration duration) (x.context a) x.running k o s
      = afterAdmission k o s (GpuExecuteAdmission.executeAdmission v duration x a s.sim) := by
  have hscheduled : ¬ (a.workload.phase ≠ .scheduled ∧ x.scheduled = false) :=
    fun h => h.1 hphase
  rw [GpuLiveRun.executeAdmission, GpuExecuteAdmission.executeAdmission, if_neg hscheduled, ho,
    GpuExecuteAdmission.allocateAdmitted_eq]
  cases GpuInProcess.allocateAdmitted (x.context a) a.workload s.sim with
  | error e => rfl
  | ok t =>
      simp only [GpuExecuteAdmission.runAdmitted, GpuExecuteAdmission.startAdmitted]
      cases startAdmitted v (estimateDuration duration) (x.context a) a.workload t with
      | error e => rfl
      | ok u =>
          cases x.running with
          | false => rfl
          | true => rfl

/-! ## The status that is written -/

section
variable {v : Verbs} {est : Estimator} {x : Context}

/-- **ONE RECONCILE** of an object with its finalizer, whose write is accepted. -/
theorem liveRun_reconciled {s : Site} {k : String} {o : Object} (ho : s.api.lookup k = some o)
    (hkey : o.workload.id = k) (hfin : o.finalizer = true)
    (hdeleted : o.workload.deletionTimestamp = none) :
    ∃ o', (GpuLiveRun.reconcile v est x true k s).api.lookup k = some o'
      ∧ status o'.workload = status ((reconciled false (answer v est x o.workload s.sim) x.now
        o.workload).getD o.workload) := by
  have hput : ∀ (t : Site) (o' : Object), (t.put k o').api.lookup k = some o' :=
    fun t o' => AList.lookup_insert _
  have hreleased : (s.release k).api.lookup k = some o := ho
  simp only [GpuLiveRun.reconcile, ho, reconciled, answer, hdeleted, hfin, ne_eq,
    not_true_eq_false, if_false, Bool.true_eq_false, if_true]
  cases hphase : o.workload.phase with
  | unset => exact ⟨_, hput _ _, rfl⟩
  | queued => exact ⟨o, ho, rfl⟩
  | succeeded => exact ⟨o, hreleased, rfl⟩
  | failed => exact ⟨o, hreleased, rfl⟩
  | preempted => exact ⟨o, hreleased, rfl⟩
  | other raw h => exact ⟨o, ho, rfl⟩
  | scheduled =>
      simp only [isTerminalPhase, Bool.false_eq_true, if_false, GpuLiveRun.executeAdmission]
      cases GpuInProcess.allocateAdmitted x o.workload s.sim with
      | error e => exact ⟨o, ho, rfl⟩
      | ok t =>
          simp only [Except.bind]
          obtain ⟨e | u, hstart⟩ : ∃ r, startAdmitted v est x o.workload t = r := ⟨_, rfl⟩
          · simp only [hstart]
            exact ⟨o, ho, rfl⟩
          · simp only [hstart]
            exact ⟨_, hput _ _, rfl⟩
  | running =>
      simp only [isTerminalPhase, Bool.false_eq_true, if_false, GpuLiveRun.pollRunningStatus,
        hkey]
      cases getLatestRunStatusForWorkload s.sim x.runs x.now k with
      | error e => exact ⟨o, ho, rfl⟩
      | ok r =>
          obtain ⟨st, t⟩ := r
          cases st with
          | running => exact ⟨o, ho, rfl⟩
          | succeeded => exact ⟨_, hput _ _, rfl⟩
          | failed => exact ⟨_, hput _ _, rfl⟩
          | preempted => exact ⟨_, hput _ _, rfl⟩

/-- Delivering an event writes nothing to the API. -/
theorem api_settle (now : Int) (c : Cluster) : (GpuInProcess.settle now c).api = c.api := by
  rw [GpuInProcess.settle, Cluster.deliver]
  cases c.pending[0]? <;> rfl

/-- The object after it was written. -/
theorem lookup_update (p : Plant) (w : GPUWorkload) (now : Int) :
    (p.update w now).cluster.api.lookup (key w) = some w := by
  rw [Plant.update, api_settle]
  exact lookup_put_self p.cluster w

/-- **THE SAME RECONCILE** with the scheduler beside it. -/
theorem inProcess_reconciled {f : Fleet} {p : Plant} {w : GPUWorkload}
    (hw : p.cluster.api.lookup (key w) = some w) (hdeleted : w.deletionTimestamp = none) :
    ∃ w', (GpuInProcess.reconcile v est f x (key w) p).cluster.api.lookup (key w) = some w'
      ∧ status w' = status ((reconciled false (answer v est x w p.sim) x.now w).getD w) := by
  have hupdate : ∀ (q : Plant) (w' : GPUWorkload), key w' = key w →
      (q.update w' x.now).cluster.api.lookup (key w) = some w' :=
    fun q w' hkey => hkey ▸ lookup_update q w' x.now
  simp only [GpuInProcess.reconcile, hw, reconciled, answer, hdeleted, ne_eq, not_true_eq_false,
    if_false]
  cases hphase : w.phase with
  | unset => exact ⟨_, hupdate _ _ rfl, rfl⟩
  | queued => exact ⟨w, hw, rfl⟩
  | succeeded =>
      -- the marker may be set on the way
      simp only [isTerminalPhase, if_true, true_and]
      split_ifs
      · exact ⟨w, hw, rfl⟩
      · exact ⟨_, hupdate p (GpuInProcess.withCompletionCounted w) rfl, rfl⟩
  | failed => exact ⟨w, hw, rfl⟩
  | preempted => exact ⟨w, hw, rfl⟩
  | other raw h => exact ⟨w, hw, rfl⟩
  | scheduled =>
      simp only [isTerminalPhase, Bool.false_eq_true, if_false, GpuInProcess.executeAdmission]
      cases GpuInProcess.allocateAdmitted x w p.sim with
      | error e => exact ⟨w, hw, rfl⟩
      | ok t =>
          simp only [Except.bind]
          obtain ⟨e | u, hstart⟩ : ∃ r, startAdmitted v est x w t = r := ⟨_, rfl⟩
          · simp only [hstart]
            exact ⟨w, hw, rfl⟩
          · simp only [hstart]
            exact ⟨_, hupdate _ _ rfl, rfl⟩
  | running =>
      simp only [isTerminalPhase, Bool.false_eq_true, if_false, GpuInProcess.pollRunningStatus]
      cases getLatestRunStatusForWorkload p.sim x.runs x.now w.id with
      | error e => exact ⟨w, hw, rfl⟩
      | ok r =>
          obtain ⟨st, t⟩ := r
          cases st with
          | running => exact ⟨w, hw, rfl⟩
          | succeeded => exact ⟨_, hupdate _ _ rfl, rfl⟩
          | failed => exact ⟨_, hupdate _ _ rfl, rfl⟩
          | preempted => exact ⟨_, hupdate _ _ rfl, rfl⟩

/-! ## The simulator that is left -/

/-- The two admissions, of objects with one name and specification. -/
theorem sim_executeAdmission {f : Fleet} {p : Plant} {s : Site} {w : GPUWorkload} {o : Object}
    (hsim : p.sim = s.sim) (hid : w.id = o.workload.id) (hspec : w.spec = o.workload.spec)
    (written : Bool) (k : String) :
    (GpuInProcess.executeAdmission v est f x w p).sim
      = (GpuLiveRun.executeAdmission v est x written k o s).sim := by
  have hallocate : GpuInProcess.allocateAdmitted x w p.sim
      = GpuInProcess.allocateAdmitted x o.workload s.sim := by
    simp only [GpuInProcess.allocateAdmitted, hsim, hid, hspec]
  have hstart : ∀ t, startAdmitted v est x w t = startAdmitted v est x o.workload t := by
    intro t
    simp only [startAdmitted, GpuInProcess.buildRuntimeInput, hid, hspec]
  rw [GpuInProcess.executeAdmission, GpuLiveRun.executeAdmission, hallocate]
  cases GpuInProcess.allocateAdmitted x o.workload s.sim with
  | error e => exact hsim
  | ok t =>
      simp only [hstart]
      cases startAdmitted v est x o.workload t with
      | error e => rfl
      | ok u => cases written <;> rfl

/-- The two polls. -/
theorem sim_pollRunningStatus {f : Fleet} {p : Plant} {s : Site} {w : GPUWorkload} {o : Object}
    (hsim : p.sim = s.sim) :
    (GpuInProcess.pollRunningStatus f x w p).sim
      = (GpuLiveRun.pollRunningStatus x true w.id o s).sim := by
  rw [GpuInProcess.pollRunningStatus, GpuLiveRun.pollRunningStatus, hsim]
  cases getLatestRunStatusForWorkload s.sim x.runs x.now w.id with
  | error e => exact hsim
  | ok r =>
      obtain ⟨st, t⟩ := r
      cases st <;> rfl

/-- **AND THE SAME CALLS**: on objects with one name, specification, phase and deletion
    timestamp, whatever their annotations, the two leave the same simulator. -/
theorem sim_agrees {f : Fleet} {p : Plant} {s : Site} {w : GPUWorkload} {o : Object}
    (hsim : p.sim = s.sim) (hw : p.cluster.api.lookup (key w) = some w)
    (ho : s.api.lookup w.id = some o) (hfin : o.finalizer = true) (hid : w.id = o.workload.id)
    (hspec : w.spec = o.workload.spec) (hphase : w.phase = o.workload.phase)
    (hdeleted : w.deletionTimestamp = o.workload.deletionTimestamp) :
    (GpuInProcess.reconcile v est f x (key w) p).sim
      = (GpuLiveRun.reconcile v est x true w.id s).sim := by
  have hreleased : ∀ q : Plant, q.sim = s.sim →
      (Plant.releaseDevices f q w.id).sim = (s.release w.id).sim := by
    intro q hq
    rw [Plant.releaseDevices, Site.release, hq]
    rfl
  simp only [GpuInProcess.reconcile, GpuLiveRun.reconcile, hw, ho, hfin, hdeleted, hphase,
    Bool.true_eq_false, if_false, if_true]
  by_cases hgone : o.workload.deletionTimestamp = none
  · simp only [hgone, ne_eq, not_true_eq_false, if_false]
    cases o.workload.phase with
    | unset => exact hsim
    | queued => exact hsim
    | other raw h => exact hsim
    | scheduled => exact sim_executeAdmission hsim hid hspec true w.id
    | running => exact sim_pollRunningStatus hsim
    | succeeded =>
        simp only [isTerminalPhase, if_true, true_and]
        split_ifs
        · exact hreleased p hsim
        · exact hreleased _ hsim
    | failed => exact hreleased p hsim
    | preempted => exact hreleased p hsim
  · simp only [hgone, ne_eq, not_false_eq_true, if_true]
    refine (hreleased p hsim).trans ?_
    rw [Site.release]
    cases release s.sim w.id <;> rfl

end

/-! ## The versions of the object -/

open GpuCompletionCount (Call Store Resource)

/-- The simulator's answer, in a model where it is given. -/
def heard (x : Call) (w : GPUWorkload) : Option RunStatus :=
  match w.phase with
  | .scheduled => if x.admits then some .running else none
  | .running => x.latest
  | _ => none

/-- The version that a poll leaves has the phase of the run. -/
theorem versions_pollRunningStatus {x : Call} {s : Store} {o : Resource} {rest : List Resource}
    (hversions : s.versions = o :: rest) (hcurrent : x.current = true) :
    ∃ o' rest', (GpuCompletionCount.pollRunningStatus x o s).versions = o' :: rest'
      ∧ status o'.workload
        = ((x.latest.bind targetPhase).getD o.workload.phase, o.workload.queuedAt) := by
  by_cases hlatest : x.latest = some .succeeded
  · obtain ⟨rest', h⟩ :=
      GpuCompletionCount.pollRunningStatus_succeeded hversions hcurrent hlatest
    exact ⟨_, rest', congrArg Store.versions h, by rw [hlatest]; rfl⟩
  · rw [GpuCompletionCount.pollRunningStatus]
    cases hphase : x.latest.bind targetPhase with
    | none => exact ⟨o, rest, hversions, rfl⟩
    | some phase =>
        have hne : phase ≠ .succeeded := by
          rintro rfl
          exact hlatest (GpuCompletionCount.succeeded_of_target hphase)
        simp only [Store.updateStatus, hversions, hcurrent, if_true, if_neg hne]
        exact ⟨_, _, rfl, rfl⟩

/-- **THE SAME STATUS** in the versions of an object, in both modes. -/
theorem completionCount_reconciled {useWorkerPool : Bool} {x : Call} {s : Store} {o : Resource}
    (hread : s.versions[x.read]? = some o) (hcurrent : x.current = true)
    (hfin : o.finalizer = true) (hdeleted : o.workload.deletionTimestamp = none) :
    ∃ o' rest, (GpuCompletionCount.reconcile useWorkerPool x s).versions = o' :: rest
      ∧ status o'.workload = status ((reconciled useWorkerPool (heard x o.workload) x.now
        o.workload).getD o.workload) := by
  obtain ⟨rest, hversions⟩ := GpuCompletionCount.head_of_current hread hcurrent
  have hstatus : ∀ o' : Resource, (s.updateStatus x.current o').getD s
      = s.put { o with workload := GpuLifecycle.withStatus o'.workload o.workload } := by
    intro o'
    simp only [Store.updateStatus, hversions, hcurrent, if_true, Option.getD_some]
  have hrecorded : ∃ o' rest', (if GpuCompletionCount.NeedRecord o.workload then
        GpuCompletionCount.recordCompletion x o s else s).versions = o' :: rest'
      ∧ status o'.workload = status o.workload := by
    split_ifs
    · simp only [GpuCompletionCount.recordCompletion, Store.update, hversions, hcurrent, if_true,
        Option.getD_some]
      exact ⟨_, _, rfl, rfl⟩
    · exact ⟨o, rest, hversions, rfl⟩
  simp only [GpuCompletionCount.reconcile, hread, reconciled, heard, hdeleted, hfin, ne_eq,
    not_true_eq_false, if_false, Bool.true_eq_false, hstatus]
  cases hphase : o.workload.phase with
  | unset => exact ⟨_, _, rfl, rfl⟩
  | queued => exact ⟨o, rest, hversions, rfl⟩
  | other raw h => exact ⟨o, rest, hversions, rfl⟩
  | succeeded => exact hrecorded
  | failed => exact hrecorded
  | preempted => exact hrecorded
  | scheduled =>
      cases useWorkerPool with
      | true => exact ⟨o, rest, hversions, rfl⟩
      | false =>
          cases x.admits with
          | false => exact ⟨o, rest, hversions, rfl⟩
          | true => exact ⟨_, _, rfl, rfl⟩
  | running =>
      cases useWorkerPool with
      | true => exact ⟨o, rest, hversions, rfl⟩
      | false =>
          obtain ⟨o', rest', hpoll, hwritten⟩ := versions_pollRunningStatus hversions hcurrent
          refine ⟨o', rest', hpoll, hwritten.trans ?_⟩
          cases x.latest with
          | none => rfl
          | some st => cases st <;> rfl

end GpuReconciler
