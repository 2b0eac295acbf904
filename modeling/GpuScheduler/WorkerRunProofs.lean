import GpuScheduler.SimClientProofs

/-! # Workers and the remote simulator

    A worker runs one workload at a time: `runOneWorkload` allocates devices in the remote
    simulator, starts a run, polls it, reports the outcome in the workload's phase and
    releases the devices.  Many workers share the simulator.  A request or its response may
    be lost, a worker may stop anywhere, and the simulator keeps its state in memory only.

    Two properties of the system are characterised exactly over all interleavings:

    - every allocation has a worker that will release it, until one of three events happens
      (`no_orphans_iff`);
    - what a worker polls and reports is a run of its own workload, until the simulator
      restarts under it (`backed_iff`).

    A run that has reached its end is reported and its devices are free after three calls
    of its worker that are heard, whatever the others do in between (`run_ends`). -/

namespace GpuWorkerRun

open GoStrings GoMaps GoPath StepRuns GpuPlacement GpuWorkload GpuSimulator GpuRunHistory
  GpuProfileText GpuErrorText GpuStatusCode GpuStoredStart GpuExecuteAdmission GpuWire GpuHttp
  GpuSimClient

/-! ## The system -/

/-- The next call of `runOneWorkload`.  After `setWorkloadPhase` the devices are released,
    unless `Allocate` had failed. -/
inductive Stage where
  | allocating
  | starting
  | polling (runID : String)
  | reporting (phase : Phase) (held : Bool)
  | releasing
  deriving DecidableEq, Repr

/-- A worker's workload and where it is with it. -/
structure Job where
  claimed : Stored
  stage : Stage

/-- The ID of a job's workload. -/
def Job.id (job : Job) : String := job.claimed.workload.id

/-- The remote simulator, the workers that run a workload, and the phases they wrote. -/
structure World where
  sim : Simulator
  jobs : GoMap String Job
  reports : List (String × Phase)

/-- What can happen: a worker takes on a workload, makes its next call, or stops; the pools
    are registered and removed; the simulator restarts.  `written` tells whether a status
    update succeeds. -/
inductive Event where
  | claim (worker : String) (a : Stored)
  | call (worker : String) (x : Moment) (d : Delivery) (written : Bool)
  | stop (worker : String)
  | registerFleet (poolKey : String) (spec : GPUNodePoolSpec)
  | deleteFleet (poolKey : String)
  | restart

/-- After `Allocate`. -/
def afterAllocate : Option Unit → Stage
  | some _ => .starting
  | none => .reporting .failed false

/-- After `Start`. -/
def afterStart : Option String → Stage
  | some runID => .polling runID
  | none => .reporting .failed true

/-- After `GetRunStatus`: errors and unknown statuses are polled again. -/
def afterPoll (runID : String) (status : Option String) : Stage :=
  if status = some (statusText .succeeded) then .reporting .succeeded true
  else if status = some (statusText .failed) then .reporting .failed true
  else if status = some (statusText .preempted) then .releasing
  else .polling runID

/-- A worker goes on with its workload; `none` when it is done with it. -/
def World.goto (w : World) (worker : String) (a : Stored) (t : Simulator) : Option Stage → World
  | some stage => { w with sim := t, jobs := w.jobs.insert worker ⟨a, stage⟩ }
  | none => { w with sim := t, jobs := w.jobs.erase worker }

variable (lib : Lib) (duration : Int → RuntimeInput → Nat → Int)

/-- `runOneWorkload`, up to and including its next call. -/
def runOneWorkload (w : World) (worker : String) (a : Stored) (x : Moment) (d : Delivery)
    (written : Bool) : Stage → World
  | .allocating =>
      let r := outcome (allocate lib duration x d a.workload.id a.workload.spec.gpuCount
        a.workload.spec.gpuMemoryMiB a.workload.spec.profile w.sim)
      w.goto worker a r.2 (some (afterAllocate r.1))
  | .starting =>
      let r := outcome (start lib duration x d (workloadToRuntimeInput a) w.sim)
      w.goto worker a r.2 (some (afterStart r.1))
  | .polling runID =>
      let r := outcome (getRunStatus lib duration x d runID w.sim)
      w.goto worker a r.2 (some (afterPoll runID r.1))
  | .reporting phase held =>
      let w := if written then { w with reports := (a.workload.id, phase) :: w.reports } else w
      w.goto worker a w.sim (if held then some .releasing else none)
  | .releasing =>
      w.goto worker a (GpuSimClient.release lib duration x d a.workload.id w.sim).2 none

/-- One event. -/
def step (w : World) : Event → Option World
  | .claim worker a =>
      if w.jobs.lookup worker = none then some (w.goto worker a w.sim (some .allocating)) else none
  | .call worker x d written =>
      match w.jobs.lookup worker with
      | none => none
      | some job =>
          if x.Meets w.sim then
            some (runOneWorkload lib duration w worker job.claimed x d written job.stage)
          else none
  | .stop worker =>
      match w.jobs.lookup worker with
      | none => none
      | some job => some (w.goto worker job.claimed w.sim none)
  | .registerFleet poolKey spec =>
      some { w with sim := afterUnit w.sim (registerFleet w.sim poolKey spec) }
  | .deleteFleet poolKey => some { w with sim := deleteFleet w.sim poolKey }
  | .restart => some { w with sim := newSimulator }

/-- No worker has a workload, and the simulator is new. -/
def idle : World := ⟨newSimulator, ∅, []⟩

/-! ## The four calls -/

section
variable {lib duration} {x : Moment} {d : Delivery} {s t : Simulator}

/-- What a call can come to when its messages may be lost. -/
inductive Sent {α : Type} (d : Delivery) (s : Simulator) (r : Except SimError (α × Simulator)) :
    Option α × Simulator → Prop where
  | lost : d = .requestLost → Sent d s r (none, s)
  | refused (e : SimError) : d ≠ .requestLost → r = .error e → Sent d s r (none, s)
  | unheard (a : α) (t : Simulator) : d = .responseLost → r = .ok (a, t) → Sent d s r (none, t)
  | answered (a : α) (t : Simulator) : d = .delivered → r = .ok (a, t) →
      Sent d s r (some a, t)

theorem sent_through {α : Type} (r : Except SimError (α × Simulator)) :
    Sent d s r (through d s (result s r)) := by
  cases d with
  | requestLost => exact .lost rfl
  | delivered =>
      cases r with
      | error e => exact .refused e (by decide) rfl
      | ok r => exact .answered r.1 r.2 rfl rfl
  | responseLost =>
      cases r with
      | error e => exact .refused e (by decide) rfl
      | ok r => exact .unheard r.1 r.2 rfl rfl

/-- `Allocate`: refused, or with devices that the worker may not hear of. -/
inductive Allocates (d : Delivery) (s : Simulator) (a : Stored) :
    Option Unit × Simulator → Prop where
  | refused : d = .requestLost ∨ ¬ Obtains s a.workload → Allocates d s a (none, s)
  | unheard (t : Simulator) : d = .responseLost → Obtains s a.workload →
      Taken s a.workload.id t → Allocates d s a (none, t)
  | taken (t : Simulator) : d = .delivered → Taken s a.workload.id t →
      Allocates d s a (some (), t)

theorem allocates_of_call (hv : Numeric lib.verbs) (a : Stored) (hx : x.Meets s) :
    Allocates d s a (outcome (allocate lib duration x d a.workload.id a.workload.spec.gpuCount
      a.workload.spec.gpuMemoryMiB a.workload.spec.profile s)) := by
  have hmeets : (Attempt.mk x.pools x.runs x.now true true).Meets s := hx
  have hiff := allocateAdmitted_ok_iff (v := lib.verbs) (a := a) hmeets
  have hout : outcome (allocate lib duration x .delivered a.workload.id a.workload.spec.gpuCount
      a.workload.spec.gpuMemoryMiB a.workload.spec.profile s) = _ :=
    outcome_allocate_stored hv a
  have hcontext : contextOf x a = (Attempt.mk x.pools x.runs x.now true true).context a := rfl
  rw [hcontext, ← allocateAdmitted_eq (v := lib.verbs)] at hout
  rw [allocate] at hout ⊢
  rw [outcome_ask, hout]
  generalize hr : (allocateAdmitted lib.verbs ⟨x.pools, x.runs, x.now, true, true⟩ a s)
    = r at hiff
  have hsent := sent_through (d := d) (s := s) (r.map (fun t => ((), t)))
  generalize through d s (result s (r.map (fun t => ((), t)))) = o at hsent
  cases hsent with
  | lost hd => exact .refused (Or.inl hd)
  | refused e _ hfail =>
      refine .refused (Or.inr (fun hobtains => ?_))
      obtain ⟨t, ht⟩ := hiff.mpr hobtains
      rw [ht] at hfail
      cases hfail
  | unheard u t hd hok =>
      cases r with
      | error e => cases hok
      | ok t' =>
          obtain ⟨-, rfl⟩ := Prod.mk.inj (Except.ok.inj hok)
          exact .unheard t' hd (hiff.mp ⟨t', rfl⟩) (taken_of_ok hr)
  | answered u t hd hok =>
      cases r with
      | error e => cases hok
      | ok t' =>
          obtain ⟨-, rfl⟩ := Prod.mk.inj (Except.ok.inj hok)
          exact .taken t' hd (taken_of_ok hr)

/-- `Start`. -/
theorem sent_start (a : Stored) :
    Sent d s (startWithRuntimeInput (estimateDuration duration) s x.runs x.now
        (buildRuntimeInput a))
      (outcome (start lib duration x d (workloadToRuntimeInput a) s)) := by
  rw [start, outcome_ask, ← start, outcome_start (supported_kind a)]
  exact sent_through _

/-- `GetRunStatus`. -/
theorem sent_getRunStatus (n : Nat) :
    Sent d s ((getStatus s x.now ("run-" ++ fmtNat n)).map (fun r => (statusText r.1, r.2)))
      (outcome (getRunStatus lib duration x d ("run-" ++ fmtNat n) s)) := by
  rw [getRunStatus, outcome_ask, ← getRunStatus, outcome_getRunStatus]
  exact sent_through _

/-- `Release`: the allocation is gone, unless the request is lost. -/
theorem release_sent (a : Stored) :
    (GpuSimClient.release lib duration x d a.workload.id s).2
      = if d = .requestLost then s
        else { s with allocations := s.allocations.erase a.workload.id } := by
  have hne : a.workload.id ≠ "" := id_ne_empty _
  have hout : outcome (GpuSimClient.release lib duration x .delivered a.workload.id s) = _ :=
    outcome_release (addressable_of_nameable a.names)
  rw [GpuSimulator.release, if_neg hne, GpuSimClient.release, if_neg hne] at hout
  have hsim : ∀ r : Except ClientError Unit × Simulator, r.2 = (outcome r).2 := fun _ => rfl
  rw [GpuSimClient.release, if_neg hne, hsim, outcome_ask, hout]
  cases d with
  | delivered => rfl
  | requestLost => rfl
  | responseLost => rfl

end

/-! ## What an event can do -/

/-- The estimate that the remote simulator works with. -/
def estimator : Estimator := estimateDuration duration

/-- The runs of a world: recorded soundly, running or succeeded, and the polled IDs are IDs
    that the simulator gives out. -/
structure Regular (w : World) : Prop where
  logged : Logged w.sim
  status : ∀ runID r, w.sim.runs.lookup runID = some r → r.status = .running ∨ r.status = .succeeded
  named : ∀ worker job runID, w.jobs.lookup worker = some job → job.stage = .polling runID →
    ∃ n, runID = "run-" ++ fmtNat n

/-- One event, with what its call comes to. -/
inductive Effect (w : World) : Event → World → Prop where
  | claim {worker : String} (a : Stored) : w.jobs.lookup worker = none →
      Effect w (.claim worker a) (w.goto worker a w.sim (some .allocating))
  | allocate {worker : String} {x : Moment} {d : Delivery} {written : Bool} (a : Stored)
      (o : Option Unit) (t : Simulator) : w.jobs.lookup worker = some ⟨a, .allocating⟩ →
      Allocates d w.sim a (o, t) →
      Effect w (.call worker x d written) (w.goto worker a t (some (afterAllocate o)))
  | start {worker : String} {x : Moment} {d : Delivery} {written : Bool} (a : Stored)
      (o : Option String) (t : Simulator) : w.jobs.lookup worker = some ⟨a, .starting⟩ →
      x.Meets w.sim →
      Sent d w.sim (startWithRuntimeInput (estimator duration) w.sim x.runs x.now
        (buildRuntimeInput a)) (o, t) →
      Effect w (.call worker x d written) (w.goto worker a t (some (afterStart o)))
  | poll {worker : String} {x : Moment} {d : Delivery} {written : Bool} (a : Stored)
      (runID : String) (o : Option String) (t : Simulator) :
      w.jobs.lookup worker = some ⟨a, .polling runID⟩ →
      Sent d w.sim ((getStatus w.sim x.now runID).map (fun r => (statusText r.1, r.2))) (o, t) →
      Effect w (.call worker x d written) (w.goto worker a t (some (afterPoll runID o)))
  | report {worker : String} {x : Moment} {d : Delivery} {written : Bool} (a : Stored)
      (phase : Phase) (held : Bool) : w.jobs.lookup worker = some ⟨a, .reporting phase held⟩ →
      Effect w (.call worker x d written) (World.goto
        (if written then { w with reports := (a.workload.id, phase) :: w.reports } else w) worker a
        w.sim (if held then some .releasing else none))
  | release {worker : String} {x : Moment} {d : Delivery} {written : Bool} (a : Stored) :
      w.jobs.lookup worker = some ⟨a, .releasing⟩ →
      Effect w (.call worker x d written) (w.goto worker a
        (if d = .requestLost then w.sim
          else { w.sim with allocations := w.sim.allocations.erase a.workload.id }) none)
  | stop {worker : String} (job : Job) : w.jobs.lookup worker = some job →
      Effect w (.stop worker) (w.goto worker job.claimed w.sim none)
  | registerFleet (poolKey : String) (spec : GPUNodePoolSpec) :
      Effect w (.registerFleet poolKey spec)
        { w with sim := afterUnit w.sim (registerFleet w.sim poolKey spec) }
  | deleteFleet (poolKey : String) :
      Effect w (.deleteFleet poolKey) { w with sim := deleteFleet w.sim poolKey }
  | restart : Effect w .restart { w with sim := newSimulator }

section
variable {lib duration} {w u : World} {e : Event}

theorem Regular.effect (hv : Numeric lib.verbs) (hw : Regular w)
    (h : step lib duration w e = some u) : Effect duration w e u := by
  cases e with
  | claim worker a =>
      simp only [step] at h
      split_ifs at h with hidle
      rw [← Option.some.inj h]
      exact .claim a hidle
  | call worker x d written =>
      simp only [step] at h
      cases hjob : w.jobs.lookup worker with
      | none =>
          rw [hjob] at h
          cases h
      | some job =>
          obtain ⟨a, stage⟩ := job
          simp only [hjob] at h
          split_ifs at h with hx
          rw [← Option.some.inj h]
          cases stage with
          | allocating => exact .allocate a _ _ hjob (allocates_of_call hv a hx)
          | starting => exact .start a _ _ hjob hx (sent_start a)
          | polling runID =>
              obtain ⟨n, rfl⟩ := hw.named worker _ runID hjob rfl
              exact .poll a _ _ _ hjob (sent_getRunStatus n)
          | reporting phase held =>
              cases written with
              | true => exact .report a phase held hjob
              | false => exact .report a phase held hjob
          | releasing =>
              rw [runOneWorkload, release_sent]
              exact .release a hjob
  | stop worker =>
      simp only [step] at h
      cases hjob : w.jobs.lookup worker with
      | none =>
          rw [hjob] at h
          cases h
      | some job =>
          rw [hjob] at h
          rw [← Option.some.inj h]
          exact .stop job hjob
  | registerFleet poolKey spec =>
      rw [← Option.some.inj h]
      exact .registerFleet poolKey spec
  | deleteFleet poolKey =>
      rw [← Option.some.inj h]
      exact .deleteFleet poolKey
  | restart =>
      rw [← Option.some.inj h]
      exact .restart

/-! ## The recorded runs -/

/-- What an event can do to the recorded runs: nothing, or what a call of the simulator does
    that is not `Preempt`. -/
inductive RunsMove (est : Estimator) (s t : Simulator) : Prop where
  | same : t.runs = s.runs → t.nextRunID = s.nextRunID → RunsMove est s t
  | call (op : Op) : (∀ order id, op ≠ .preempt order id) →
      GpuSimulator.step est s op = some t → RunsMove est s t

theorem RunsMove.logged {est : Estimator} {s t : Simulator} (h : RunsMove est s t)
    (hs : Logged s) : Logged t := by
  cases h with
  | same hruns hnext => exact hs.of_runs_eq hruns hnext
  | call op _ hstep => exact hs.step hstep

theorem RunsMove.continues {est : Estimator} {s t : Simulator} (h : RunsMove est s t)
    (hs : Logged s) {runID : String} {r : RunRecord} (hr : s.runs.lookup runID = some r) :
    ∃ r', t.runs.lookup runID = some r' ∧ Continues r r' := by
  cases h with
  | same hruns _ => exact ⟨r, by rw [hruns]; exact hr, .refl r⟩
  | call op _ hstep =>
      obtain ⟨r', hr', hmoves⟩ := hs.moves hstep hr
      exact ⟨r', hr', hmoves.continues⟩

/-- Without `Preempt`, a run is running or has succeeded. -/
theorem RunsMove.status {est : Estimator} {s t : Simulator} (h : RunsMove est s t)
    (hs : ∀ runID r, s.runs.lookup runID = some r → r.status = .running ∨ r.status = .succeeded)
    {runID : String} {r : RunRecord} (hr : t.runs.lookup runID = some r) :
    r.status = .running ∨ r.status = .succeeded := by
  have hinsert : ∀ (key : String) (q : RunRecord), (q.status = .running ∨ q.status = .succeeded) →
      t.runs = s.runs.insert key q → r.status = .running ∨ r.status = .succeeded := by
    intro key q hq hruns
    rw [hruns] at hr
    rcases lookup_insert_eq_some.mp hr with ⟨-, rfl⟩ | ⟨-, hr⟩
    · exact hq
    · exact hs runID r hr
  cases h with
  | same hruns _ =>
      rw [hruns] at hr
      exact hs runID r hr
  | call op hop hstep =>
      cases runs_cases hstep with
      | keep hruns _ =>
          rw [hruns] at hr
          exact hs runID r hr
      | start _ _ hrunning hruns _ => exact hinsert _ _ (Or.inl hrunning) hruns
      | move hl hmoves hruns _ =>
          cases hmoves with
          | stays => exact hinsert _ _ (hs _ _ hl) hruns
          | completes _ _ _ => exact hinsert _ _ (Or.inr rfl) hruns
          | preempted hpreempt _ => exact absurd hpreempt (hop _ _)

/-- A call that is sent leaves the simulator alone or has its effect. -/
theorem Sent.cases_sim {α : Type} {d : Delivery} {s t : Simulator} {o : Option α}
    {r : Except SimError (α × Simulator)} (h : Sent d s r (o, t)) :
    (o = none ∧ t = s) ∨ ∃ a, r = .ok (a, t) ∧ (o = none ∨ o = some a) := by
  cases h with
  | lost _ => exact Or.inl ⟨rfl, rfl⟩
  | refused e _ _ => exact Or.inl ⟨rfl, rfl⟩
  | unheard a _ _ hok => exact Or.inr ⟨a, hok, Or.inl rfl⟩
  | answered a _ _ hok => exact Or.inr ⟨a, hok, Or.inr rfl⟩

theorem runsMove_of_allocates {est : Estimator} {d : Delivery} {s t : Simulator} {a : Stored}
    {o : Option Unit} (h : Allocates d s a (o, t)) : RunsMove est s t := by
  have htaken : Taken s a.workload.id t → RunsMove est s t := by
    intro htaken
    cases htaken with
    | had _ => exact .same rfl rfl
    | got _ _ _ => exact .same rfl rfl
  cases h with
  | refused _ => exact .same rfl rfl
  | unheard _ _ _ h => exact htaken h
  | taken _ _ h => exact htaken h

/-- The status that a poll hears, and the run it is about. -/
theorem getStatus_heard {s t : Simulator} {now : Int} {runID text : String}
    (h : (getStatus s now runID).map (fun r => (statusText r.1, r.2)) = .ok (text, t)) :
    ∃ r, s.runs.lookup runID = some r ∧ text = statusText (r.refresh now).status
      ∧ t = { s with runs := s.runs.insert runID (r.refresh now) } := by
  rw [getStatus] at h
  split_ifs at h
  · cases h
  · cases hr : s.runs.lookup runID with
    | none =>
        rw [hr] at h
        cases h
    | some r =>
        rw [hr] at h
        obtain ⟨htext, ht⟩ := Prod.mk.inj (Except.ok.inj h)
        exact ⟨r, rfl, htext.symm, ht.symm⟩

theorem getStatus_step {est : Estimator} {s t : Simulator} {now : Int} {runID text : String}
    (h : (getStatus s now runID).map (fun r => (statusText r.1, r.2)) = .ok (text, t)) :
    GpuSimulator.step est s (.getStatus now runID) = some t := by
  cases hcall : getStatus s now runID with
  | error e =>
      rw [hcall] at h
      cases h
  | ok r =>
      rw [hcall] at h
      have ht : r.2 = t := congrArg Prod.snd (Except.ok.inj h)
      rw [GpuSimulator.step, hcall, ← ht]
      rfl

/-- Every event but a restart only adds runs and completes them. -/
theorem Effect.runsMove (h : Effect duration w e u) (hne : e ≠ .restart) :
    RunsMove (estimator duration) w.sim u.sim := by
  cases h with
  | claim a _ => exact .same rfl rfl
  | allocate a o t _ hcall => exact runsMove_of_allocates hcall
  | @start worker x d written a o t _ hx hcall =>
      rcases hcall.cases_sim with ⟨-, rfl⟩ | ⟨id, hok, -⟩
      · exact .same rfl rfl
      · have hstep : GpuSimulator.step (estimator duration) w.sim
            (.startWithRuntimeInput x.runs x.now (buildRuntimeInput a)) = some t := by
          rw [GpuSimulator.step, if_pos hx.2, hok]
          rfl
        exact .call _ (fun _ _ h => by cases h) hstep
  | poll a runID o t _ hcall =>
      rcases hcall.cases_sim with ⟨-, rfl⟩ | ⟨text, hok, -⟩
      · exact .same rfl rfl
      · exact .call (.getStatus _ _) (fun _ _ h => by cases h) (getStatus_step hok)
  | @report worker x d written a phase held _ =>
      cases held with
      | true => exact .same rfl rfl
      | false => exact .same rfl rfl
  | @release worker x d written a _ =>
      by_cases hd : d = .requestLost
      · refine .same ?_ ?_ <;> rw [if_pos hd] <;> rfl
      · refine .same ?_ ?_ <;> rw [if_neg hd] <;> rfl
  | stop job _ => exact .same rfl rfl
  | registerFleet poolKey spec =>
      exact .call (.registerFleet poolKey spec) (fun _ _ h => by cases h) rfl
  | deleteFleet poolKey => exact .call (.deleteFleet poolKey) (fun _ _ h => by cases h) rfl
  | restart => exact absurd rfl hne

theorem lookup_goto (w : World) (worker : String) (a : Stored) (t : Simulator)
    (stage : Option Stage) :
    (w.goto worker a t stage).jobs.lookup worker = stage.map (fun stage => ⟨a, stage⟩) := by
  cases stage with
  | none => exact AList.lookup_erase _ _
  | some stage => exact AList.lookup_insert _

theorem lookup_goto_ne {other worker : String} (h : other ≠ worker) (w : World) (a : Stored)
    (t : Simulator) (stage : Option Stage) :
    (w.goto worker a t stage).jobs.lookup other = w.jobs.lookup other := by
  cases stage with
  | none => exact AList.lookup_erase_ne h
  | some stage => exact AList.lookup_insert_ne h

@[simp] theorem sim_goto (w : World) (worker : String) (a : Stored) (t : Simulator)
    (stage : Option Stage) : (w.goto worker a t stage).sim = t := by
  cases stage <;> rfl

/-- The job of a worker after another, or it, has gone on. -/
theorem job_goto {other worker : String} {a : Stored} {t : Simulator} {stage : Option Stage}
    {job : Job} (h : (w.goto worker a t stage).jobs.lookup other = some job) :
    (∃ st, stage = some st ∧ job = ⟨a, st⟩) ∨ w.jobs.lookup other = some job := by
  by_cases heq : other = worker
  · rw [heq, lookup_goto] at h
    obtain ⟨st, hst, rfl⟩ := Option.map_eq_some_iff.mp h
    exact Or.inl ⟨st, hst, rfl⟩
  · rw [lookup_goto_ne heq] at h
    exact Or.inr h

/-- A stage that relies on no run. -/
def Stage.free : Stage → Bool
  | .polling _ => false
  | .reporting phase _ => phase ≠ .succeeded
  | _ => true

/-- Where a job's stage comes from: it is as before, relies on no run, polls the run that its
    worker has just started, or reports the success that a poll has just seen. -/
inductive Origin (est : Estimator) (w : World) (t : Simulator) (worker : String) :
    Job → Prop where
  | kept (job : Job) : w.jobs.lookup worker = some job → Origin est w t worker job
  | free (job : Job) : job.stage.free = true → Origin est w t worker job
  | started (a : Stored) (runID : String) (x : Moment) :
      startWithRuntimeInput est w.sim x.runs x.now (buildRuntimeInput a)
        = .ok (runID, t) →
      Origin est w t worker ⟨a, .polling runID⟩
  | completed (a : Stored) (runID : String) (r : RunRecord) (now : Int) :
      w.jobs.lookup worker = some ⟨a, .polling runID⟩ → w.sim.runs.lookup runID = some r →
      (r.refresh now).status = .succeeded → t.runs.lookup runID = some (r.refresh now) →
      Origin est w t worker ⟨a, .reporting .succeeded true⟩

/-- The `switch` of `runOneWorkload` over the statuses of a run. -/
def afterStatus (runID : String) : RunStatus → Stage
  | .running => .polling runID
  | .succeeded => .reporting .succeeded true
  | .failed => .reporting .failed true
  | .preempted => .releasing

theorem afterPoll_statusText (runID : String) (status : RunStatus) :
    afterPoll runID (some (statusText status)) = afterStatus runID status := by
  cases status <;> rfl

theorem Effect.origin (h : Effect duration w e u) {worker : String} {job : Job}
    (hjob : u.jobs.lookup worker = some job) : Origin (estimator duration) w u.sim worker job := by
  cases h with
  | claim a _ =>
      rcases job_goto hjob with ⟨st, hst, rfl⟩ | hkept
      · rw [← Option.some.inj hst]
        exact .free _ rfl
      · exact .kept job hkept
  | allocate a o t _ _ =>
      rcases job_goto hjob with ⟨st, hst, rfl⟩ | hkept
      · rw [← Option.some.inj hst]
        cases o with
        | none => exact .free _ rfl
        | some _ => exact .free _ rfl
      · exact .kept job hkept
  | start a o t _ _ hcall =>
      rcases job_goto hjob with ⟨st, hst, rfl⟩ | hkept
      · rw [← Option.some.inj hst]
        rcases hcall.cases_sim with ⟨rfl, -⟩ | ⟨id, hok, rfl | rfl⟩
        · exact .free _ rfl
        · exact .free _ rfl
        · exact .started a id _ hok
      · exact .kept job hkept
  | @poll worker' x d written a runID o t hpolls hcall =>
      by_cases heq : worker = worker'
      · rw [heq, lookup_goto] at hjob
        rw [heq, ← Option.some.inj hjob]
        rcases hcall.cases_sim with ⟨rfl, -⟩ | ⟨text, hok, rfl | rfl⟩
        · exact .kept _ hpolls
        · exact .kept _ hpolls
        · obtain ⟨r, hr, rfl, rfl⟩ := getStatus_heard hok
          rw [afterPoll_statusText]
          cases hstatus : (r.refresh x.now).status with
          | running => exact .kept _ hpolls
          | succeeded => exact .completed a runID r x.now hpolls hr hstatus (AList.lookup_insert _)
          | failed => exact .free _ rfl
          | preempted => exact .free _ rfl
      · rw [lookup_goto_ne heq] at hjob
        exact .kept job hjob
  | @report worker' x d written a phase held _ =>
      have hreports : (if written then { w with reports := (a.workload.id, phase) :: w.reports }
          else w).jobs = w.jobs := by cases written <;> rfl
      rcases job_goto hjob with ⟨st, hst, rfl⟩ | hkept
      · cases held with
        | true =>
            rw [← Option.some.inj hst]
            exact .free _ rfl
        | false => cases hst
      · rw [hreports] at hkept
        exact .kept job hkept
  | release a _ =>
      rcases job_goto hjob with ⟨st, hst, -⟩ | hkept
      · cases hst
      · exact .kept job hkept
  | stop _ _ =>
      rcases job_goto hjob with ⟨st, hst, -⟩ | hkept
      · cases hst
      · exact .kept job hkept
  | registerFleet poolKey spec => exact .kept job hjob
  | deleteFleet poolKey => exact .kept job hjob
  | restart => exact .kept job hjob

/-- Every event keeps the worlds regular. -/
theorem Regular.step (hv : Numeric lib.verbs) (hw : Regular w)
    (h : GpuWorkerRun.step lib duration w e = some u) : Regular u := by
  have heffect := hw.effect hv h
  have hnamed : ∀ worker job runID, u.jobs.lookup worker = some job →
      job.stage = .polling runID → ∃ n, runID = "run-" ++ fmtNat n := by
    intro worker job runID hjob hstage
    cases heffect.origin hjob with
    | kept _ hkept => exact hw.named worker job runID hkept hstage
    | free _ hfree =>
        rw [hstage] at hfree
        cases hfree
    | started a id x hok =>
        obtain ⟨rfl, -⟩ := startWithRuntimeInput_ok hok
        rw [← Stage.polling.inj hstage]
        exact ⟨_, rfl⟩
    | completed a id r now _ _ _ _ => cases hstage
  by_cases hrestart : e = .restart
  · rw [hrestart] at h
    rw [← Option.some.inj h] at hnamed ⊢
    exact ⟨logged_newSimulator, fun _ _ hr => (by cases hr), hnamed⟩
  · have hmove := heffect.runsMove hrestart
    exact ⟨hmove.logged hw.logged, fun _ _ hr => hmove.status hw.status hr, hnamed⟩

theorem regular_idle : Regular idle where
  logged := logged_newSimulator
  status _ _ h := by cases h
  named _ _ _ h := by cases h

/-! ## Reports are about the worker's own run -/

/-- A stage relies on a run that the simulator has recorded for the workload: one that it
    polls, or one that has succeeded. -/
def Stage.Backed (s : Simulator) (id : String) : Stage → Prop
  | .polling runID => ∃ r, s.runs.lookup runID = some r ∧ r.workloadID = id
  | .reporting phase _ => phase = .succeeded →
      ∃ runID r, s.runs.lookup runID = some r ∧ r.workloadID = id ∧ r.status = .succeeded
  | _ => True

/-- Every worker polls a run of its own workload, and is about to report success only if
    such a run has succeeded. -/
def Backed (w : World) : Prop :=
  ∀ worker job, w.jobs.lookup worker = some job → job.stage.Backed w.sim job.id

/-- The simulator restarts while a worker relies on one of its runs. -/
def RestartsUnder (w : World) (e : Event) : Prop :=
  e = .restart ∧ ∃ worker job, w.jobs.lookup worker = some job ∧ job.stage.free = false

theorem backed_of_free {s : Simulator} {id : String} {stage : Stage} (h : stage.free = true) :
    stage.Backed s id := by
  cases stage with
  | polling runID => cases h
  | reporting phase held =>
      intro hphase
      rw [hphase] at h
      cases h
  | allocating => trivial
  | starting => trivial
  | releasing => trivial

/-- A simulator without runs backs the free stages only. -/
theorem backed_iff_free {s : Simulator} (hs : s.runs.keys = []) {id : String} {stage : Stage} :
    stage.Backed s id ↔ stage.free = true := by
  have hnone : ∀ {runID : String} {r : RunRecord}, s.runs.lookup runID ≠ some r := by
    intro runID r hr
    have hmem := mem_keys_iff.mpr ⟨r, hr⟩
    rw [hs] at hmem
    cases hmem
  refine ⟨fun h => ?_, backed_of_free⟩
  cases stage with
  | polling runID =>
      obtain ⟨r, hr, -⟩ := h
      exact absurd hr hnone
  | reporting phase held =>
      rw [Stage.free, decide_eq_true_iff]
      intro hphase
      obtain ⟨runID, r, hr, -⟩ := h hphase
      exact hnone hr
  | allocating => rfl
  | starting => rfl
  | releasing => rfl

/-- What backs a stage stays, except in a restart. -/
theorem RunsMove.backed {est : Estimator} {s t : Simulator} (h : RunsMove est s t) (hs : Logged s)
    {id : String} {stage : Stage} (hstage : stage.Backed s id) : stage.Backed t id := by
  cases stage with
  | polling runID =>
      obtain ⟨r, hr, hid⟩ := hstage
      obtain ⟨r', hr', hcont⟩ := h.continues hs hr
      exact ⟨r', hr', hcont.workloadID.trans hid⟩
  | reporting phase held =>
      intro hphase
      obtain ⟨runID, r, hr, hid, hsucceeded⟩ := hstage hphase
      obtain ⟨r', hr', hcont⟩ := h.continues hs hr
      refine ⟨runID, r', hr', hcont.workloadID.trans hid, ?_⟩
      rw [hcont.ended (by rw [hsucceeded]; decide), hsucceeded]
  | allocating => trivial
  | starting => trivial
  | releasing => trivial

theorem workloadID_refresh (r : RunRecord) (now : Int) :
    (r.refresh now).workloadID = r.workloadID := by
  rw [RunRecord.refresh]
  split_ifs <;> rfl

/-- One event keeps the workers backed, unless it is a restart under one of them. -/
theorem Regular.backed_step (hv : Numeric lib.verbs) (hw : Regular w) (hbacked : Backed w)
    (h : GpuWorkerRun.step lib duration w e = some u) : Backed u ↔ ¬ RestartsUnder w e := by
  have heffect := hw.effect hv h
  by_cases hrestart : e = .restart
  · rw [hrestart] at h
    rw [← Option.some.inj h]
    constructor
    · rintro hu ⟨-, worker, job, hjob, hfree⟩
      rw [(backed_iff_free rfl).mp (hu worker job hjob)] at hfree
      cases hfree
    · intro hnot worker job hjob
      refine (backed_iff_free rfl).mpr ?_
      by_contra hfree
      exact hnot ⟨hrestart, worker, job, hjob, Bool.eq_false_iff.mpr hfree⟩
  · refine iff_of_true (fun worker job hjob => ?_) (fun hunder => hrestart hunder.1)
    have hmove := heffect.runsMove hrestart
    cases heffect.origin hjob with
    | kept _ hkept => exact hmove.backed hw.logged (hbacked worker job hkept)
    | free _ hfree => exact backed_of_free hfree
    | started a runID x hok =>
        obtain ⟨rfl, -, r, hid, -, -, -, hruns⟩ := startWithRuntimeInput_ok hok
        exact ⟨r, by rw [hruns, AList.lookup_insert], hid⟩
    | completed a runID r now hpolls hr hsucceeded hafter =>
        obtain ⟨q, hq, hid⟩ := hbacked worker _ hpolls
        rw [hr] at hq
        obtain rfl := Option.some.inj hq
        exact fun _ => ⟨runID, _, hafter, (workloadID_refresh r now).trans hid, hsucceeded⟩

/-- **WORKERS REPORT THEIR OWN RUNS**, over every interleaving of workers, lost messages and
    fleet changes, exactly until the simulator restarts while a worker polls a run or is about
    to report one. -/
theorem backed_iff (hv : Numeric lib.verbs) {events : List Event}
    (h : exec (GpuWorkerRun.step lib duration) idle events = some u) :
    (∀ pre suf t, events = pre ++ suf → exec (GpuWorkerRun.step lib duration) idle pre = some t →
      Backed t)
    ↔ Runs (GpuWorkerRun.step lib duration) (fun w e => ¬ RestartsUnder w e) idle events u :=
  every_state_iff_runs (fun _ _ _ hw hst => hw.step hv hst)
    (fun _ _ _ hw hbacked hst => hw.backed_step hv hbacked hst) h regular_idle
    (fun _ _ hjob => by cases hjob)

/-- The workloads `ns/w` and `ns/v`. -/
def distillingW : Stored := taught ""

def distillingV : Stored :=
  distillation "v" (.tail _ (.head _)) "" none pct_of_none

/-- A pool with one device, and a worker that starts a run of `ns/w` on it. -/
def startsW : List Event :=
  [.registerFleet "ns/a" ⟨1, 1, 80, "gpu", "h100_sxm"⟩, .claim "one" distillingW,
   .call "one" ⟨["ns/a"], [], 0⟩ .delivered true, .call "one" ⟨["ns/a"], [], 0⟩ .delivered true]

/-- After a restart the same run ID goes to `ns/v`, and the first worker asks for it. -/
def restartsUnderW : List Event :=
  [.restart, .registerFleet "ns/a" ⟨1, 1, 80, "gpu", "h100_sxm"⟩, .claim "two" distillingV,
   .call "two" ⟨["ns/a"], [], 10⟩ .delivered true, .call "two" ⟨["ns/a"], [], 10⟩ .delivered true,
   .call "one" ⟨["ns/a"], ["run-1"], 20⟩ .delivered true,
   .call "one" ⟨["ns/a"], ["run-1"], 20⟩ .delivered true]

/-- The workload `ns/w` is reported as succeeded on the strength of a run of `ns/v`. -/
theorem backed_restart :
    ∃ u, exec (step plainLib (fun _ _ _ => 1)) idle (startsW ++ restartsUnderW) = some u
      ∧ u.reports = [("ns/w", .succeeded)]
      ∧ u.sim.runs.entries.map (fun e => e.2.workloadID) = ["ns/v"]
      ∧ ¬ Runs (step plainLib (fun _ _ _ => 1)) (fun w e => ¬ RestartsUnder w e) idle
        (startsW ++ restartsUnderW) u := by
  have hexec : (exec (step plainLib (fun _ _ _ => 1)) idle (startsW ++ restartsUnderW)).map
      (fun u => (u.reports, u.sim.runs.entries.map (fun e => e.2.workloadID)))
      = some ([("ns/w", .succeeded)], ["ns/v"]) := by decide +kernel
  have hpre : (exec (step plainLib (fun _ _ _ => 1)) idle (startsW ++ [.restart])).map
      (fun t => ((t.jobs.lookup "one").map (fun job => job.stage.free), t.sim.runs.keys))
      = some (some false, []) := by decide +kernel
  obtain ⟨u, hu, hafter⟩ := Option.map_eq_some_iff.mp hexec
  obtain ⟨hreports, hruns⟩ := Prod.mk.inj hafter
  refine ⟨u, hu, hreports, hruns, fun hall => ?_⟩
  obtain ⟨t, ht, hat⟩ := Option.map_eq_some_iff.mp hpre
  obtain ⟨hstage, hkeys⟩ := Prod.mk.inj hat
  obtain ⟨job, hjob, hfree⟩ := Option.map_eq_some_iff.mp hstage
  have hbacked := (backed_iff numeric_halves hu).mpr hall (startsW ++ [.restart])
    restartsUnderW.tail t rfl ht "one" job hjob
  rw [(backed_iff_free hkeys).mp hbacked] at hfree
  cases hfree

/-! ## Devices have a worker that releases them -/

/-- A worker in this stage will release the devices. -/
def Stage.holds : Stage → Bool
  | .allocating => false
  | .reporting _ held => held
  | _ => true

/-- The worker holds the devices of a workload. -/
def HeldBy (w : World) (worker id : String) : Prop :=
  ∃ job, w.jobs.lookup worker = some job ∧ job.id = id ∧ job.stage.holds = true

/-- Another worker holds them. -/
def HeldElsewhere (w : World) (worker id : String) : Prop :=
  ∃ other, other ≠ worker ∧ HeldBy w other id

/-- Every allocation has a worker that will release it. -/
def NoOrphans (w : World) : Prop :=
  Covered (fun id => (w.sim.allocations.lookup id).isSome = true) (HeldBy w)

/-- The events that orphan an allocation: the answer to a successful `Allocate` is lost, so
    that the worker gives up without a release; a `Release` is lost, which is not repeated; a
    worker stops that holds devices.  No other worker may hold the same devices. -/
inductive Leaks (w : World) : Event → Prop where
  | unheard {worker : String} {x : Moment} {written : Bool} (a : Stored) :
      w.jobs.lookup worker = some ⟨a, .allocating⟩ → Obtains w.sim a.workload →
      ¬ HeldElsewhere w worker a.workload.id → Leaks w (.call worker x .responseLost written)
  | unreleased {worker : String} {x : Moment} {written : Bool} (a : Stored) :
      w.jobs.lookup worker = some ⟨a, .releasing⟩ →
      (w.sim.allocations.lookup a.workload.id).isSome →
      ¬ HeldElsewhere w worker a.workload.id → Leaks w (.call worker x .requestLost written)
  | stopped {worker : String} (job : Job) : w.jobs.lookup worker = some job →
      job.stage.holds = true → (w.sim.allocations.lookup job.id).isSome →
      ¬ HeldElsewhere w worker job.id → Leaks w (.stop worker)

/-- Whether a worker holds devices after another has gone on. -/
theorem heldBy_goto_ne {other worker : String} (h : other ≠ worker) (w : World) (a : Stored)
    (t : Simulator) (stage : Option Stage) (id : String) :
    HeldBy (w.goto worker a t stage) other id ↔ HeldBy w other id := by
  rw [HeldBy, HeldBy, lookup_goto_ne h]

/-- Whether it does itself. -/
theorem heldBy_goto (w : World) (worker : String) (a : Stored) (t : Simulator)
    (stage : Option Stage) (id : String) :
    HeldBy (w.goto worker a t stage) worker id
      ↔ a.workload.id = id ∧ ∃ st, stage = some st ∧ st.holds = true := by
  rw [HeldBy, lookup_goto]
  constructor
  · rintro ⟨job, hjob, hid, hholds⟩
    obtain ⟨st, hst, rfl⟩ := Option.map_eq_some_iff.mp hjob
    exact ⟨hid, st, hst, hholds⟩
  · rintro ⟨hid, st, hst, hholds⟩
    rw [hst]
    exact ⟨⟨a, st⟩, rfl, hid, hholds⟩

/-- **ONE WORKER'S TURN**: when nothing was orphaned before and only the allocation of its
    workload may have changed, nothing is orphaned afterwards exactly when that one is held. -/
theorem NoOrphans.goto_iff (h : NoOrphans w) {worker : String} {a : Stored} {t : Simulator}
    {stage : Option Stage} (hown : ∀ job, w.jobs.lookup worker = some job → job.claimed = a)
    (hsame : ∀ id, id ≠ a.workload.id → t.allocations.lookup id = w.sim.allocations.lookup id) :
    NoOrphans (w.goto worker a t stage) ↔ ((t.allocations.lookup a.workload.id).isSome →
      (∃ st, stage = some st ∧ st.holds = true) ∨ HeldElsewhere w worker a.workload.id) := by
  have hneed : ∀ id, id ≠ a.workload.id →
      ((w.goto worker a t stage).sim.allocations.lookup id).isSome = true →
      (w.sim.allocations.lookup id).isSome = true := by
    intro id hid hsome
    rw [sim_goto, hsame id hid] at hsome
    exact hsome
  have hcarries : ∀ id, id ≠ a.workload.id → ∀ other, HeldBy w other id →
      ∃ other', HeldBy (w.goto worker a t stage) other' id := by
    intro id hid other hother
    have hne : other ≠ worker := by
      rintro rfl
      obtain ⟨job, hjob, hjobid, -⟩ := hother
      rw [Job.id, hown job hjob] at hjobid
      exact hid hjobid.symm
    exact ⟨other, (heldBy_goto_ne hne w a t stage id).mpr hother⟩
  refine (h.step_iff hneed hcarries).trans ?_
  rw [sim_goto]
  refine imp_congr_right (fun _ => ⟨?_, ?_⟩)
  · rintro ⟨other, hheld⟩
    by_cases heq : other = worker
    · rw [heq, heldBy_goto] at hheld
      exact Or.inl hheld.2
    · rw [heldBy_goto_ne heq] at hheld
      exact Or.inr ⟨other, heq, hheld⟩
  · rintro (hst | ⟨other, hne, hother⟩)
    · exact ⟨worker, (heldBy_goto w worker a t stage _).mpr ⟨rfl, hst⟩⟩
    · exact ⟨other, (heldBy_goto_ne hne w a t stage _).mpr hother⟩

/-- Before the turn, the worker's own allocation is held by it or elsewhere. -/
theorem NoOrphans.elsewhere (h : NoOrphans w) {worker id : String}
    (hsome : (w.sim.allocations.lookup id).isSome) (hnot : ¬ HeldBy w worker id) :
    HeldElsewhere w worker id := by
  obtain ⟨other, hother⟩ := h id hsome
  refine ⟨other, ?_, hother⟩
  rintro rfl
  exact hnot hother

theorem lookup_of_taken {s t : Simulator} {id : String} (h : Taken s id t) {other : String}
    (hne : other ≠ id) : t.allocations.lookup other = s.allocations.lookup other := by
  cases h with
  | had _ => rfl
  | got allocation _ _ => exact AList.lookup_insert_ne hne

theorem isSome_of_taken {s t : Simulator} {id : String} (h : Taken s id t) :
    (t.allocations.lookup id).isSome := by
  cases h with
  | had hsome => exact hsome
  | got allocation _ _ =>
      rw [AList.lookup_insert]
      rfl

/-- A worker that does not hold devices in its stage does not hold them. -/
theorem not_heldBy {worker id : String} {job : Job} (hjob : w.jobs.lookup worker = some job)
    (h : job.stage.holds = false) : ¬ HeldBy w worker id := by
  rintro ⟨job', hjob', -, hholds⟩
  rw [hjob] at hjob'
  rw [← Option.some.inj hjob', h] at hholds
  cases hholds

/-- When a call orphans an allocation. -/
theorem leaks_call_iff {worker : String} {x : Moment} {d : Delivery} {written : Bool} {a : Stored}
    {stage : Stage} (hjob : w.jobs.lookup worker = some ⟨a, stage⟩) :
    Leaks w (.call worker x d written) ↔ ¬ HeldElsewhere w worker a.workload.id
      ∧ ((stage = .allocating ∧ d = .responseLost ∧ Obtains w.sim a.workload)
        ∨ (stage = .releasing ∧ d = .requestLost
          ∧ (w.sim.allocations.lookup a.workload.id).isSome)) := by
  constructor
  · intro hleaks
    cases hleaks with
    | unheard a' hjob' hobtains hnot =>
        rw [hjob] at hjob'
        obtain ⟨rfl, rfl⟩ := Job.mk.inj (Option.some.inj hjob')
        exact ⟨hnot, Or.inl ⟨rfl, rfl, hobtains⟩⟩
    | unreleased a' hjob' hsome hnot =>
        rw [hjob] at hjob'
        obtain ⟨rfl, rfl⟩ := Job.mk.inj (Option.some.inj hjob')
        exact ⟨hnot, Or.inr ⟨rfl, rfl, hsome⟩⟩
  · rintro ⟨hnot, ⟨rfl, rfl, hobtains⟩ | ⟨rfl, rfl, hsome⟩⟩
    · exact .unheard a hjob hobtains hnot
    · exact .unreleased a hjob hsome hnot

/-- A call that neither allocates nor releases orphans nothing. -/
theorem not_leaks_call {worker : String} {x : Moment} {d : Delivery} {written : Bool} {a : Stored}
    {stage : Stage} (hjob : w.jobs.lookup worker = some ⟨a, stage⟩)
    (hallocating : stage ≠ .allocating) (hreleasing : stage ≠ .releasing) :
    ¬ Leaks w (.call worker x d written) := by
  rw [leaks_call_iff hjob]
  rintro ⟨-, ⟨hstage, -⟩ | ⟨hstage, -⟩⟩
  · exact hallocating hstage
  · exact hreleasing hstage

theorem claimed_of_lookup {worker : String} {job : Job} (hjob : w.jobs.lookup worker = some job) :
    ∀ job', w.jobs.lookup worker = some job' → job'.claimed = job.claimed := by
  intro job' hjob'
  rw [hjob] at hjob'
  rw [← Option.some.inj hjob']

/-- A worker that goes on to a stage in which it holds its devices orphans nothing. -/
theorem NoOrphans.goto_holds (h : NoOrphans w) {worker : String} {job : Job} {t : Simulator}
    {stage : Stage} (hjob : w.jobs.lookup worker = some job)
    (hsame : ∀ id, id ≠ job.id → t.allocations.lookup id = w.sim.allocations.lookup id)
    (hholds : stage.holds = true) : NoOrphans (w.goto worker job.claimed t (some stage)) :=
  (h.goto_iff (claimed_of_lookup hjob) hsame).mpr (fun _ => Or.inl ⟨stage, rfl, hholds⟩)

/-- Nor does one that held none before, if the allocations stay. -/
theorem NoOrphans.goto_free (h : NoOrphans w) {worker : String} {a : Stored}
    {stage : Option Stage} (hown : ∀ job, w.jobs.lookup worker = some job → job.claimed = a)
    (hnot : ¬ HeldBy w worker a.workload.id) : NoOrphans (w.goto worker a w.sim stage) :=
  (h.goto_iff hown (fun _ _ => rfl)).mpr (fun hsome => Or.inr (h.elsewhere hsome hnot))

/-- An allocation over HTTP orphans nothing, unless its answer is lost. -/
theorem NoOrphans.allocate_iff (h : NoOrphans w) {worker : String} {x : Moment} {d : Delivery}
    {written : Bool} {a : Stored} {o : Option Unit} {t : Simulator}
    (hjob : w.jobs.lookup worker = some ⟨a, .allocating⟩) (hcall : Allocates d w.sim a (o, t)) :
    NoOrphans (w.goto worker a t (some (afterAllocate o)))
      ↔ ¬ Leaks w (.call worker x d written) := by
  rw [leaks_call_iff hjob]
  cases hcall with
  | refused hd =>
      refine iff_of_true (h.goto_free (claimed_of_lookup hjob) (not_heldBy hjob rfl)) ?_
      rintro ⟨-, ⟨-, rfl, hobtains⟩ | ⟨hstage, -⟩⟩
      · rcases hd with hd | hd
        · cases hd
        · exact hd hobtains
      · cases hstage
  | unheard _ hd hobtains htaken =>
      rw [h.goto_iff (claimed_of_lookup hjob) (fun _ => lookup_of_taken htaken)]
      constructor
      · rintro hheld ⟨hnot, -⟩
        rcases hheld (isSome_of_taken htaken) with ⟨st, hst, hholds⟩ | helse
        · rw [← Option.some.inj hst] at hholds
          cases hholds
        · exact hnot helse
      · intro hleaks _
        by_contra hnot
        exact hleaks ⟨fun helse => hnot (Or.inr helse), Or.inl ⟨rfl, hd, hobtains⟩⟩
  | taken _ hd htaken =>
      refine iff_of_true (h.goto_holds hjob (fun _ => lookup_of_taken htaken) rfl) ?_
      rintro ⟨-, ⟨-, hlost, -⟩ | ⟨hstage, -⟩⟩
      · rw [hd] at hlost
        cases hlost
      · cases hstage

/-- Nor does a release, unless it does not arrive. -/
theorem NoOrphans.release_iff (h : NoOrphans w) {worker : String} {x : Moment} {d : Delivery}
    {written : Bool} {a : Stored} (hjob : w.jobs.lookup worker = some ⟨a, .releasing⟩) :
    NoOrphans (w.goto worker a
        (if d = .requestLost then w.sim
          else { w.sim with allocations := w.sim.allocations.erase a.workload.id }) none)
      ↔ ¬ Leaks w (.call worker x d written) := by
  rw [leaks_call_iff hjob]
  by_cases hd : d = .requestLost
  · rw [if_pos hd, h.goto_iff (claimed_of_lookup hjob) (fun _ _ => rfl)]
    constructor
    · rintro hheld ⟨hnot, ⟨hstage, -⟩ | ⟨-, -, hsome⟩⟩
      · cases hstage
      · rcases hheld hsome with ⟨st, hst, -⟩ | helse
        · cases hst
        · exact hnot helse
    · intro hleaks hsome
      by_contra hnot
      exact hleaks ⟨fun helse => hnot (Or.inr helse), Or.inr ⟨rfl, hd, hsome⟩⟩
  · rw [if_neg hd]
    refine iff_of_true ?_ ?_
    · rw [h.goto_iff (claimed_of_lookup hjob) (fun _ hne => AList.lookup_erase_ne hne)]
      intro hsome
      rw [AList.lookup_erase] at hsome
      cases hsome
    · rintro ⟨-, ⟨hstage, -⟩ | ⟨-, hlost, -⟩⟩
      · cases hstage
      · exact hd hlost

/-- When a stop orphans an allocation. -/
theorem leaks_stop_iff {worker : String} {job : Job} (hjob : w.jobs.lookup worker = some job) :
    Leaks w (.stop worker) ↔ job.stage.holds = true ∧ (w.sim.allocations.lookup job.id).isSome
      ∧ ¬ HeldElsewhere w worker job.id := by
  constructor
  · intro hleaks
    cases hleaks with
    | stopped job' hjob' hholds hsome hnot =>
        rw [hjob] at hjob'
        obtain rfl := Option.some.inj hjob'
        exact ⟨hholds, hsome, hnot⟩
  · rintro ⟨hholds, hsome, hnot⟩
    exact .stopped job hjob hholds hsome hnot

/-- Nor does a worker that stops, unless it holds devices that no other worker holds. -/
theorem NoOrphans.stop_iff (h : NoOrphans w) {worker : String} {job : Job}
    (hjob : w.jobs.lookup worker = some job) :
    NoOrphans (w.goto worker job.claimed w.sim none) ↔ ¬ Leaks w (.stop worker) := by
  rw [leaks_stop_iff hjob]
  by_cases hholds : job.stage.holds = true
  · rw [h.goto_iff (claimed_of_lookup hjob) (fun _ _ => rfl)]
    constructor
    · rintro hheld ⟨-, hsome, hnot⟩
      rcases hheld hsome with ⟨st, hst, -⟩ | helse
      · cases hst
      · exact hnot helse
    · intro hleaks hsome
      by_contra hnot
      exact hleaks ⟨hholds, hsome, fun helse => hnot (Or.inr helse)⟩
  · exact iff_of_true (h.goto_free (claimed_of_lookup hjob)
      (not_heldBy hjob (Bool.eq_false_iff.mpr hholds))) (fun hleaks => hholds hleaks.1)

theorem afterStart_holds (o : Option String) : (afterStart o).holds = true := by
  cases o <;> rfl

theorem afterPoll_holds (runID : String) (o : Option String) :
    (afterPoll runID o).holds = true := by
  rw [afterPoll]
  split_ifs <;> rfl

theorem allocations_registerFleet (s : Simulator) (poolKey : String) (spec : GPUNodePoolSpec) :
    (afterUnit s (registerFleet s poolKey spec)).allocations = s.allocations := by
  rw [registerFleet]
  split <;> rfl

theorem allocations_deleteFleet (s : Simulator) (poolKey : String) :
    (deleteFleet s poolKey).allocations = s.allocations := by
  rw [deleteFleet]
  split_ifs <;> rfl

/-- One event orphans nothing, unless it is one of the three. -/
theorem Effect.noOrphans_iff (hw : NoOrphans w) (h : Effect duration w e u) :
    NoOrphans u ↔ ¬ Leaks w e := by
  cases h with
  | @claim worker a hidle =>
      refine iff_of_true (hw.goto_free (fun job hjob => ?_) ?_) (fun hleaks => by cases hleaks)
      · rw [hidle] at hjob
        cases hjob
      · rintro ⟨job, hjob, -⟩
        rw [hidle] at hjob
        cases hjob
  | @allocate worker x d written a o t hjob hcall => exact hw.allocate_iff hjob hcall
  | @start worker x d written a o t hjob _ hcall =>
      have hsame : t.allocations = w.sim.allocations := by
        rcases hcall.cases_sim with ⟨-, rfl⟩ | ⟨id, hok, -⟩
        · rfl
        · exact (startWithRuntimeInput_same hok).2
      exact iff_of_true (hw.goto_holds hjob (fun _ _ => by rw [hsame]) (afterStart_holds o))
        (not_leaks_call hjob nofun nofun)
  | @poll worker x d written a runID o t hjob hcall =>
      have hsame : t.allocations = w.sim.allocations := by
        rcases hcall.cases_sim with ⟨-, rfl⟩ | ⟨text, hok, -⟩
        · rfl
        · obtain ⟨r, -, -, rfl⟩ := getStatus_heard hok
          rfl
      exact iff_of_true (hw.goto_holds hjob (fun _ _ => by rw [hsame]) (afterPoll_holds runID o))
        (not_leaks_call hjob nofun nofun)
  | @report worker x d written a phase held hjob =>
      -- the report itself is neither a job nor a device
      have hreports : ∀ stage, NoOrphans (w.goto worker a w.sim stage) →
          NoOrphans ((if written then { w with reports := (a.workload.id, phase) :: w.reports }
            else w).goto worker a w.sim stage) := by
        intro stage hstage
        cases written <;> cases stage <;> exact hstage
      refine iff_of_true (hreports _ ?_) (not_leaks_call hjob nofun nofun)
      -- a worker that still holds its devices goes on to release them
      cases held with
      | true => exact hw.goto_holds hjob (fun _ _ => rfl) rfl
      | false => exact hw.goto_free (claimed_of_lookup hjob) (not_heldBy hjob rfl)
  | @release worker x d written a hjob => exact hw.release_iff hjob
  | @stop worker job hjob => exact hw.stop_iff hjob
  | registerFleet poolKey spec =>
      refine iff_of_true (fun id hsome => hw id ?_) (fun hleaks => by cases hleaks)
      rw [← allocations_registerFleet w.sim poolKey spec]
      exact hsome
  | deleteFleet poolKey =>
      refine iff_of_true (fun id hsome => hw id ?_) (fun hleaks => by cases hleaks)
      rw [← allocations_deleteFleet w.sim poolKey]
      exact hsome
  | restart => exact iff_of_true (fun id hsome => by cases hsome) (fun hleaks => by cases hleaks)

/-- **NO ORPHANED DEVICES**, over every interleaving: every allocation of the remote simulator
    has a worker that will release it, exactly until the answer of a successful `Allocate` is
    lost, a `Release` is lost, or a worker stops that holds devices. -/
theorem no_orphans_iff (hv : Numeric lib.verbs) {events : List Event}
    (h : exec (GpuWorkerRun.step lib duration) idle events = some u) :
    (∀ pre suf t, events = pre ++ suf → exec (GpuWorkerRun.step lib duration) idle pre = some t →
      NoOrphans t)
    ↔ Runs (GpuWorkerRun.step lib duration) (fun w e => ¬ Leaks w e) idle events u :=
  every_state_iff_runs (fun _ _ _ hw hst => hw.step hv hst)
    (fun _ _ _ hw horphans hst => (hw.effect hv hst).noOrphans_iff horphans) h regular_idle
    (fun _ hsome => by cases hsome)

/-- The answer to a worker's `Allocate` is lost. -/
def unheardW : List Event :=
  [.registerFleet "ns/a" ⟨1, 1, 80, "gpu", "h100_sxm"⟩, .claim "one" distillingW,
   .call "one" ⟨["ns/a"], [], 0⟩ .responseLost true, .call "one" ⟨["ns/a"], [], 0⟩ .delivered true]

/-- The workload is reported as failed, no worker is left, and the device stays allocated. -/
theorem no_orphans_unheard :
    ∃ u, exec (step plainLib (fun _ _ _ => 1)) idle unheardW = some u
      ∧ u.reports = [("ns/w", .failed)] ∧ u.jobs.keys = []
      ∧ allocatedIDs u.sim = ["ns/a/node-0/gpu-0"]
      ∧ ¬ Runs (step plainLib (fun _ _ _ => 1)) (fun w e => ¬ Leaks w e) idle unheardW u := by
  have hexec : (exec (step plainLib (fun _ _ _ => 1)) idle unheardW).map
      (fun u => (u.reports, u.jobs.keys, allocatedIDs u.sim,
        (u.sim.allocations.lookup "ns/w").isSome))
      = some ([("ns/w", .failed)], [], ["ns/a/node-0/gpu-0"], true) := by decide +kernel
  obtain ⟨u, hu, hafter⟩ := Option.map_eq_some_iff.mp hexec
  obtain ⟨hreports, hafter⟩ := Prod.mk.inj hafter
  obtain ⟨hkeys, hafter⟩ := Prod.mk.inj hafter
  obtain ⟨hids, hsome⟩ := Prod.mk.inj hafter
  refine ⟨u, hu, hreports, hkeys, hids, fun hall => ?_⟩
  obtain ⟨worker, job, hjob, -⟩ :=
    (no_orphans_iff numeric_halves hu).mpr hall unheardW [] u (List.append_nil _).symm hu "ns/w"
      hsome
  have hmem := mem_keys_iff.mpr ⟨job, hjob⟩
  rw [hkeys] at hmem
  cases hmem

/-! ## A run that has reached its end -/

/-- The call is one of the worker's. -/
def Event.isCallOf (worker : String) : Event → Bool
  | .call other _ _ _ => other = worker
  | _ => false

/-- What a worker needs to come to the end of a run: it does not stop, its messages arrive, its
    updates succeed and its clock has reached the run's end; and the simulator does not
    restart. -/
def Favourable (worker : String) (endsAt : Int) : Event → Prop
  | .call other x d written => other = worker → d = .delivered ∧ written = true ∧ endsAt ≤ x.now
  | .stop other => other ≠ worker
  | .restart => False
  | .claim _ _ | .registerFleet _ _ | .deleteFleet _ => True

/-- How far a worker has come with a run after some of its calls. -/
inductive Progress (worker : String) (a : Stored) (endsAt : Int) (w : World) : Nat → Prop where
  | polls (runID : String) (r : RunRecord) : w.jobs.lookup worker = some ⟨a, .polling runID⟩ →
      w.sim.runs.lookup runID = some r → r.endsAt = endsAt → Progress worker a endsAt w 0
  | reports : w.jobs.lookup worker = some ⟨a, .reporting .succeeded true⟩ →
      Progress worker a endsAt w 1
  | releases : w.jobs.lookup worker = some ⟨a, .releasing⟩ →
      (a.workload.id, .succeeded) ∈ w.reports → Progress worker a endsAt w 2

/-- A run whose end has come is complete when it is read. -/
theorem refresh_status_of_ended {r : RunRecord} {now : Int}
    (h : r.status = .running ∨ r.status = .succeeded) (hend : r.endsAt ≤ now) :
    (r.refresh now).status = .succeeded := by
  rw [RunRecord.refresh]
  split_ifs with hrunning
  · rfl
  · rcases h with h | h
    · exact absurd ⟨h, hend⟩ hrunning
    · exact h

/-- The worker that an event is about. -/
def Event.worker : Event → Option String
  | .claim worker _ | .call worker _ _ _ | .stop worker => some worker
  | _ => none

@[simp] theorem reports_goto (w : World) (worker : String) (a : Stored) (t : Simulator)
    (stage : Option Stage) : (w.goto worker a t stage).reports = w.reports := by
  cases stage <;> rfl

/-- Events of others leave a worker's job alone, and reports stay. -/
theorem Effect.frame (h : Effect duration w e u) {worker : String}
    (hne : e.worker ≠ some worker) :
    u.jobs.lookup worker = w.jobs.lookup worker ∧ ∀ p ∈ w.reports, p ∈ u.reports := by
  have hgoto : ∀ {worker' : String} (a : Stored) (t : Simulator) (stage : Option Stage)
      (v : World), some worker' ≠ some worker → v.jobs = w.jobs →
      (∀ p ∈ w.reports, p ∈ v.reports) →
      (v.goto worker' a t stage).jobs.lookup worker = w.jobs.lookup worker
        ∧ ∀ p ∈ w.reports, p ∈ (v.goto worker' a t stage).reports := by
    intro worker' a t stage v hworker hjobs hreports
    rw [lookup_goto_ne (fun heq => hworker (by rw [heq])), hjobs, reports_goto]
    exact ⟨rfl, hreports⟩
  cases h with
  | claim a _ => exact hgoto a _ _ w hne rfl (fun _ hp => hp)
  | allocate a o t _ _ => exact hgoto a t _ w hne rfl (fun _ hp => hp)
  | start a o t _ _ _ => exact hgoto a t _ w hne rfl (fun _ hp => hp)
  | poll a runID o t _ _ => exact hgoto a t _ w hne rfl (fun _ hp => hp)
  | @report worker' x d written a phase held _ =>
      cases written with
      | true => exact hgoto a _ _ _ hne rfl (fun _ hp => List.mem_cons_of_mem _ hp)
      | false => exact hgoto a _ _ w hne rfl (fun _ hp => hp)
  | release a _ => exact hgoto a _ _ w hne rfl (fun _ hp => hp)
  | stop job _ => exact hgoto _ _ _ w hne rfl (fun _ hp => hp)
  | registerFleet poolKey spec => exact ⟨rfl, fun _ hp => hp⟩
  | deleteFleet poolKey => exact ⟨rfl, fun _ hp => hp⟩
  | restart => exact ⟨rfl, fun _ hp => hp⟩

/-- A recorded run is found under its ID. -/
theorem getStatus_recorded {s : Simulator} {n : Nat} {r : RunRecord} (now : Int)
    (h : s.runs.lookup ("run-" ++ fmtNat n) = some r) :
    (getStatus s now ("run-" ++ fmtNat n)).map (fun r => (statusText r.1, r.2))
      = .ok (statusText (r.refresh now).status,
        { s with runs := s.runs.insert ("run-" ++ fmtNat n) (r.refresh now) }) := by
  rw [getStatus, if_neg (proper_runID n).2.1, h]
  rfl

/-- What a call of a worker with a workload does. -/
theorem step_call {worker : String} {x : Moment} {d : Delivery} {written : Bool} {job : Job}
    (hjob : w.jobs.lookup worker = some job)
    (h : GpuWorkerRun.step lib duration w (.call worker x d written) = some u) :
    u = runOneWorkload lib duration w worker job.claimed x d written job.stage := by
  simp only [GpuWorkerRun.step, hjob] at h
  split_ifs at h
  exact (Option.some.inj h).symm

/-- The worker's own call brings it one stage further, up to the release. -/
theorem Progress.own (hw : Regular w) {worker : String} {x : Moment} {a : Stored} {endsAt : Int}
    {n : Nat} (hp : Progress worker a endsAt w n) (hn : n < 2)
    (h : GpuWorkerRun.step lib duration w (.call worker x .delivered true) = some u)
    (hend : endsAt ≤ x.now) : Progress worker a endsAt u (n + 1) := by
  cases hp with
  | polls runID r hjob hr hends =>
      obtain ⟨k, rfl⟩ := hw.named worker _ runID hjob rfl
      have hstatus := refresh_status_of_ended (hw.status _ r hr) (hends.trans_le hend)
      have hanswer : outcome (getRunStatus lib duration x .delivered ("run-" ++ fmtNat k) w.sim)
          = _ := outcome_getRunStatus k
      rw [getStatus_recorded x.now hr, hstatus] at hanswer
      refine .reports ?_
      rw [step_call hjob h, runOneWorkload, hanswer, lookup_goto]
      rfl
  | reports hjob =>
      rw [step_call hjob h]
      exact .releases (lookup_goto ..) (List.mem_cons_self ..)
  | releases hjob hreported => exact absurd hn (lt_irrefl 2)

/-- The others' events change nothing about it. -/
theorem Progress.others (hw : Regular w) {worker : String} {a : Stored} {endsAt : Int} {n : Nat}
    (hp : Progress worker a endsAt w n) (h : Effect duration w e u)
    (hne : e.worker ≠ some worker) (hrestart : e ≠ .restart) : Progress worker a endsAt u n := by
  obtain ⟨hjobs, hreports⟩ := h.frame hne
  cases hp with
  | polls runID r hjob hr hends =>
      obtain ⟨r', hr', hcont⟩ := (h.runsMove hrestart).continues hw.logged hr
      exact .polls runID r' (by rw [hjobs]; exact hjob) hr' (hcont.endsAt.trans hends)
  | reports hjob => exact .reports (by rw [hjobs]; exact hjob)
  | releases hjob hreported => exact .releases (by rw [hjobs]; exact hjob) (hreports _ hreported)

/-- A worker in progress has its workload. -/
theorem Progress.busy {worker : String} {a : Stored} {endsAt : Int} {n : Nat}
    (hp : Progress worker a endsAt w n) : w.jobs.lookup worker ≠ none := by
  intro hnone
  cases hp with
  | polls runID r hjob hr hends => rw [hnone] at hjob; cases hjob
  | reports hjob => rw [hnone] at hjob; cases hjob
  | releases hjob hreported => rw [hnone] at hjob; cases hjob

/-- The calls of a worker among some events. -/
def callsOf (worker : String) (events : List Event) : Nat := events.countP (Event.isCallOf worker)

/-- **ONE STEP OF PROGRESS**, by a call of the worker; the other events keep it. -/
theorem Progress.step (hv : Numeric lib.verbs) (hw : Regular w) {worker : String} {a : Stored}
    {endsAt : Int} {n : Nat} (hp : Progress worker a endsAt w n)
    (hn : n + callsOf worker [e] ≤ 2) (h : GpuWorkerRun.step lib duration w e = some u)
    (hfav : Favourable worker endsAt e) :
    Progress worker a endsAt u (n + callsOf worker [e]) := by
  have hothers : e.worker ≠ some worker → e ≠ .restart → callsOf worker [e] = 0 →
      Progress worker a endsAt u (n + callsOf worker [e]) := by
    intro hne hrestart hcalls
    rw [hcalls]
    exact hp.others hw (hw.effect hv h) hne hrestart
  cases e with
  | claim other b =>
      -- the worker itself is busy
      refine hothers (fun heq => ?_) (fun h => by cases h) rfl
      rw [GpuWorkerRun.step, Option.some.inj heq, if_neg hp.busy] at h
      cases h
  | call other x d written =>
      by_cases heq : other = worker
      · subst heq
        obtain ⟨rfl, rfl, hend⟩ := hfav rfl
        have hone : callsOf other [.call other x .delivered true] = 1 := by
          simp [callsOf, Event.isCallOf]
        rw [hone] at hn ⊢
        exact hp.own hw hn h hend
      · refine hothers (fun h => heq (Option.some.inj h)) (fun h => by cases h) ?_
        simp [callsOf, Event.isCallOf, heq]
  | stop other => exact hothers (fun h => hfav (Option.some.inj h)) (fun h => by cases h) rfl
  | registerFleet poolKey spec => exact hothers (fun h => by cases h) (fun h => by cases h) rfl
  | deleteFleet poolKey => exact hothers (fun h => by cases h) (fun h => by cases h) rfl
  | restart => exact hfav.elim

/-- A worker nears the end of a run: up to its release, its calls so far count the stages. -/
structure Nearing (worker : String) (a : Stored) (endsAt : Int) (past : List Event)
    (w : World) : Prop where
  regular : Regular w
  progress : callsOf worker past ≤ 2 → Progress worker a endsAt w (callsOf worker past)

theorem Nearing.step (hv : Numeric lib.verbs) {worker : String} {a : Stored} {endsAt : Int}
    {past : List Event} (hw : Nearing worker a endsAt past w)
    (h : GpuWorkerRun.step lib duration w e = some u) (hfav : Favourable worker endsAt e) :
    Nearing worker a endsAt (past ++ [e]) u where
  regular := hw.regular.step hv h
  progress := by
    rw [callsOf, List.countP_append, ← callsOf, ← callsOf]
    intro hn
    exact (hw.progress (by omega)).step hv hw.regular hn h hfav

/-- **A RUN THAT HAS REACHED ITS END** is reported as succeeded and its devices are released
    by the third call of its worker, whatever the other workers, also those with the same
    workload, and the operator do in between. -/
theorem run_ends (hv : Numeric lib.verbs) {past events : List Event} {v : World}
    (hpast : Runs (GpuWorkerRun.step lib duration) Always idle past w)
    {worker runID : String} {a : Stored} {r : RunRecord} {x : Moment}
    (hjob : w.jobs.lookup worker = some ⟨a, .polling runID⟩)
    (hrun : w.sim.runs.lookup runID = some r)
    (h : Runs (GpuWorkerRun.step lib duration) (fun _ e => Favourable worker r.endsAt e) w
      events v)
    (hcalls : callsOf worker events = 2)
    (hthird : GpuWorkerRun.step lib duration v (.call worker x .delivered true) = some u) :
    u.jobs.lookup worker = none ∧ (a.workload.id, .succeeded) ∈ u.reports
      ∧ u.sim.allocations.lookup a.workload.id = none := by
  have hregular : Regular w :=
    hpast.invariant (fun _ _ _ hw _ hst => hw.step hv hst) regular_idle
  have hstart : Nearing worker a r.endsAt [] w :=
    ⟨hregular, fun _ => .polls runID r hjob hrun rfl⟩
  obtain ⟨-, hp⟩ := h.history (fun _ _ _ _ hinv hfav hst => hinv.step hv hst hfav) hstart
  rw [List.nil_append, hcalls] at hp
  cases hp (le_refl 2) with
  | releases hjob hreported =>
      rw [step_call hjob hthird, runOneWorkload, release_sent]
      exact ⟨lookup_goto .., hreported, AList.lookup_erase _ _⟩

/-- The run of `ns/w` is polled and reported while its pool is removed, and another worker takes
    on the same workload and fails for lack of it. -/
def endsW : List Event :=
  [.call "one" ⟨["ns/a"], ["run-1"], 20⟩ .delivered true, .deleteFleet "ns/a",
   .claim "two" distillingW, .call "one" ⟨[], ["run-1"], 20⟩ .delivered true,
   .call "two" ⟨[], ["run-1"], 20⟩ .responseLost false]

theorem favourable_endsW : ∀ e ∈ endsW, Favourable "one" 1 e := by
  simp [endsW, Favourable]

theorem run_ends_distilling :
    ∃ w v u, exec (step plainLib (fun _ _ _ => 1)) idle startsW = some w
      ∧ exec (step plainLib (fun _ _ _ => 1)) w endsW = some v
      ∧ step plainLib (fun _ _ _ => 1) v (.call "one" ⟨[], ["run-1"], 21⟩ .delivered true) = some u
      ∧ u.jobs.lookup "one" = none ∧ ("ns/w", .succeeded) ∈ u.reports
      ∧ u.sim.allocations.lookup "ns/w" = none := by
  have hexec : (exec (step plainLib (fun _ _ _ => 1)) idle startsW).map (fun w =>
      ((w.jobs.lookup "one").map (fun job => (job.id, job.stage)),
        (w.sim.runs.lookup "run-1").map (fun r => r.endsAt),
        ((exec (step plainLib (fun _ _ _ => 1)) w endsW).bind (fun v =>
          step plainLib (fun _ _ _ => 1) v
            (.call "one" ⟨[], ["run-1"], 21⟩ .delivered true))).isSome))
      = some (some ("ns/w", .polling "run-1"), some 1, true) := by decide +kernel
  obtain ⟨w, hw, hafter⟩ := Option.map_eq_some_iff.mp hexec
  obtain ⟨hstage, hafter⟩ := Prod.mk.inj hafter
  obtain ⟨hend, hsome⟩ := Prod.mk.inj hafter
  obtain ⟨u, hu⟩ := Option.isSome_iff_exists.mp hsome
  obtain ⟨v, hv, hthird⟩ := Option.bind_eq_some_iff.mp hu
  obtain ⟨⟨a, stage⟩, hjob, hjobat⟩ := Option.map_eq_some_iff.mp hstage
  obtain ⟨hid, rfl⟩ := Prod.mk.inj hjobat
  obtain ⟨r, hr, hends⟩ := Option.map_eq_some_iff.mp hend
  have haid : a.workload.id = "ns/w" := hid
  have hruns : Runs (step plainLib (fun _ _ _ => 1))
      (fun _ e => Favourable "one" r.endsAt e) w endsW v := by
    rw [hends]
    exact ((Runs.of_exec hv).and_labels favourable_endsW).weaken (fun _ _ h => h.2)
  have hdone := run_ends numeric_halves (Runs.of_exec hw) hjob hr hruns rfl hthird
  rw [haid] at hdone
  exact ⟨w, v, u, hw, hv, hthird, hdone⟩

end

end GpuWorkerRun
