import GpuScheduler.InProcessProofs
import GpuScheduler.RunHistoryProofs

/-! # Live runs and the lives of objects

    A GPUWorkload can be deleted while it runs and created again under the same name; the
    simulator, in the same process, knows workloads by name only.  Two things should hold
    along every sequence of creations, deletions, admissions and reconciles: a run that has
    not reached its end has devices (`LiveRunsHeld`), and an object becomes `Succeeded` only
    by a run that was started in its own life (`OwnCompletions`).

    The delete path of the reconciler releases the devices and leaves the run alone.  So
    both fail when a running workload is deleted.  They hold as long as deletions are
    reconciled after the run has been recorded as ended, a start is not made in the same
    instant as an earlier one of the workload, and no error of the start reads like the one
    that a run exists already (`Orderly`, `live_runs_of_orderly`). -/

namespace GpuLiveRun

open GoStrings GoMaps GoFmt GpuInputs GpuWorkload GpuSimulator GpuRunHistory GpuErrorText
  GpuInProcess StepRuns

/-! ## Objects and reconciles -/

/-- One life of a GPUWorkload: the resource, whether it has the finalizer, and the IDs of
    the runs there were when it was created. -/
structure Object where
  workload : GPUWorkload
  finalizer : Bool
  before : List String

/-- The object in another phase. -/
def Object.withPhase (o : Object) (phase : Phase) : Object :=
  { o with workload := { o.workload with phase := phase } }

/-- An object was set to `Succeeded`: the run whose status was read, and the runs from
    before the object. -/
structure Completion where
  run : String
  before : List String

/-- The objects by workload ID, the simulator, the clock, and the completions so far. -/
structure Site where
  api : GoMap String Object
  sim : Simulator
  clock : Int
  completions : List Completion

/-- Some pools, and nothing else yet. -/
def start (pools : GoMap String (List GpuPlacement.Node)) (clock : Int) : Site :=
  ⟨∅, ⟨pools, ∅, ∅, 0⟩, clock, []⟩

/-- Write an object. -/
def Site.put (s : Site) (k : String) (o : Object) : Site := { s with api := s.api.insert k o }

/-- `Release` of a workload's devices. -/
def Site.release (s : Site) (k : String) : Site :=
  { s with sim := afterUnit s.sim (GpuSimulator.release s.sim k) }

/-- `executeAdmission`; `written` says whether the write to the API succeeds. -/
def executeAdmission (v : Verbs) (est : Estimator) (x : Context) (written : Bool) (k : String)
    (o : Object) (s : Site) : Site :=
  match allocateAdmitted x o.workload s.sim with
  | .error _ => s
  | .ok allocated =>
    match startAdmitted v est x o.workload allocated with
    -- the allocation stays, for the next reconcile to find
    | .error _ => { s with sim := allocated }
    | .ok started =>
      if written then Site.put { s with sim := started } k (o.withPhase .running)
      else { s with sim := started }

/-- `targetPhase`. -/
def targetPhase : RunStatus → Option Phase
  | .running => none
  | .succeeded => some .succeeded
  | .failed => some .failed
  | .preempted => some .preempted

/-- The completion that a poll records, if it is one. -/
def completion (s : Simulator) (x : Context) (k : String) (o : Object) (phase : Phase) :
    List Completion :=
  if phase = .succeeded then
    ((latestRun s k x.runs none).map (fun p => ⟨p.1, o.before⟩)).toList
  else []

/-- `pollRunningStatus`: the devices are released once the phase is written. -/
def pollRunningStatus (x : Context) (written : Bool) (k : String) (o : Object) (s : Site) :
    Site :=
  match getLatestRunStatusForWorkload s.sim x.runs x.now k with
  | .error _ => s
  | .ok (status, polled) =>
    match targetPhase status with
    | none => { s with sim := polled }
    | some phase =>
      -- a failed write returns before the release
      if written then
        Site.release
          { Site.put { s with sim := polled } k (o.withPhase phase) with
            completions := s.completions ++ completion s.sim x k o phase } k
      else { s with sim := polled }

/-- `Reconcile` in in-process mode. -/
def reconcile (v : Verbs) (est : Estimator) (x : Context) (written : Bool) (k : String)
    (s : Site) : Site :=
  match s.api.lookup k with
  | none => s
  | some o =>
    if o.workload.deletionTimestamp ≠ none then
      match GpuSimulator.release s.sim k with
      | .error _ => s
      -- without its finalizer the object is gone
      | .ok sim => if written then { s with api := s.api.erase k, sim := sim }
          else { s with sim := sim }
    else if isTerminalPhase o.workload.phase then s.release k
    else if o.finalizer = false then
      if written then s.put k { o with finalizer := true } else s
    else match o.workload.phase with
    | .unset =>
        if written then
          s.put k { o with workload :=
            { o.workload with phase := .queued, queuedAt := some x.now } }
        else s
    | .scheduled => executeAdmission v est x written k o s
    | .running => pollRunningStatus x written k o s
    | _ => s

/-- One event. -/
inductive Label where
  | create (w : GPUWorkload) (finalizer : Bool)
  | delete (k : String)
  | admission (k : String)
  | reconcile (x : Context) (written : Bool) (k : String)
  | advance (now : Int)

/-- The events.  The API server checks the names; a deleted object stays until its finalizer is
    removed; only a queued one is admitted; a reconcile reads the clock. -/
def step (v : Verbs) (est : Estimator) (s : Site) : Label → Option Site
  | .create w finalizer =>
      -- the runs of earlier objects of the name are still there
      if s.api.lookup w.id = none ∧ w.phase = .unset ∧ w.deletionTimestamp = none
          ∧ Nameable w.ns w.name then
        some (s.put w.id ⟨w, finalizer, s.sim.runs.keys⟩)
      else none
  | .delete k =>
      match s.api.lookup k with
      | none => none
      | some o =>
        if o.finalizer then
          some (s.put k { o with workload :=
            { o.workload with deletionTimestamp := some s.clock } })
        else some { s with api := s.api.erase k }
  | .admission k =>
      match s.api.lookup k with
      | none => none
      | some o =>
        if o.workload.phase = .queued then some (s.put k (o.withPhase .scheduled)) else none
  | .reconcile x written k =>
      if x.pools.Perm s.sim.pools.keys ∧ x.runs.Perm s.sim.runs.keys ∧ x.now = s.clock then
        some (reconcile v est x written k s)
      else none
  | .advance now => if s.clock ≤ now then some { s with clock := now } else none

/-! ## The properties -/

/-- A run that is running and has not reached its end has devices. -/
def LiveRunsHeld (s : Site) : Prop :=
  ∀ id r, s.sim.runs.lookup id = some r → r.status = .running → s.clock < r.endsAt →
    (s.sim.allocations.lookup r.workloadID).isSome

/-- Every completion is by a run that was started after the object was created. -/
def OwnCompletions (s : Site) : Prop := ∀ c ∈ s.completions, c.run ∉ c.before

/-- Nothing of a runtime input makes a check or the estimate fail with a message that reads,
    with its texts quoted, like the error that a run exists already. -/
structure PlainTexts (v : Verbs) (est : Estimator) (now : Int) (input : RuntimeInput) : Prop where
  kind : isAlreadyRunningErr v (.unsupportedKind (defaultKind input).kind) = false
  checks : ∀ e, checkRuntime (applyDefaults (defaultKind input)) = some e →
    isAlreadyRunningErr v e = false
  estimate : ∀ n e, est now (applyDefaults (defaultKind input)) n = .error e →
    isAlreadyRunningErr v e = false

/-- **ORDERLY**: a deleted workload is reconciled only when none of its runs is recorded as
    running; an admitted one only later than its ended runs were started, and with plain
    texts. -/
def Orderly (v : Verbs) (est : Estimator) (s : Site) : Label → Prop
  | .reconcile x _ k => ∀ o, s.api.lookup k = some o →
      (o.workload.deletionTimestamp ≠ none → Idle s.sim k)
      ∧ (o.workload.deletionTimestamp = none → o.workload.phase = .scheduled →
        PlainTexts v est x.now (buildRuntimeInput x.sections o.workload)
        ∧ ∀ id r, s.sim.runs.lookup id = some r → r.workloadID = k → r.status ≠ .running →
          r.startedAt < x.now)
  | _ => True

/-! ## What holds in between -/

/-- The object is about to run, or runs. -/
def Object.Active (o : Object) : Prop :=
  o.workload.phase = .scheduled ∨ o.workload.phase = .running

/-- What holds between an object and the runs. -/
structure ObjectOk (sim : Simulator) (k : String) (o : Object) : Prop where
  keyed : o.workload.id = k
  named : Nameable o.workload.ns o.workload.name
  /-- The finalizer comes first. -/
  finalized : o.finalizer = false → o.workload.phase = .unset
  /-- The runs from before are among the runs. -/
  past : ∀ id ∈ o.before, (sim.runs.lookup id).isSome
  /-- The workload's own runs were started later than those from before. -/
  later : ∀ id r id' r', sim.runs.lookup id = some r → sim.runs.lookup id' = some r' →
    r.workloadID = k → r'.workloadID = k → id ∈ o.before → id' ∉ o.before →
    r.startedAt < r'.startedAt
  /-- A running object has a run of its own. -/
  begun : o.workload.phase = .running →
    ∃ id r, sim.runs.lookup id = some r ∧ r.workloadID = k ∧ id ∉ o.before

/-- **THE INVARIANT**. -/
structure Bound (s : Site) : Prop where
  logged : Logged s.sim
  objects : ∀ k o, s.api.lookup k = some o → ObjectOk s.sim k o
  /-- A running run has devices, whatever the clock says. -/
  held : ∀ id r, s.sim.runs.lookup id = some r → r.status = .running →
    (s.sim.allocations.lookup r.workloadID).isSome
  /-- It belongs to an active object, and to its present life. -/
  owned : ∀ id r, s.sim.runs.lookup id = some r → r.status = .running →
    ∃ o, s.api.lookup r.workloadID = some o ∧ o.Active ∧ id ∉ o.before
  /-- It was started later than every other run of the workload. -/
  newest : ∀ id r id' r', s.sim.runs.lookup id = some r → s.sim.runs.lookup id' = some r' →
    r.status = .running → r'.workloadID = r.workloadID → id' ≠ id → r'.startedAt < r.startedAt
  own : OwnCompletions s

theorem Bound.live {s : Site} (h : Bound s) : LiveRunsHeld s :=
  fun id r hr hrun _ => h.held id r hr hrun

theorem bound_start (pools : GoMap String (List GpuPlacement.Node)) (clock : Int) :
    Bound (start pools clock) where
  logged := ⟨fun id r h => (by cases h), fun id id' r r' h => (by cases h)⟩
  objects k o h := by cases h
  held id r h := by cases h
  owned id r h := by cases h
  newest id r id' r' h := by cases h
  own c h := by cases h

section
variable {s : Site} {k : String} {o o' : Object}

/-- The object that a running run belongs to. -/
theorem Bound.owner (h : Bound s) (ho : s.api.lookup k = some o) {id : String} {r : RunRecord}
    (hr : s.sim.runs.lookup id = some r) (hrun : r.status = .running) (hw : r.workloadID = k) :
    o.Active ∧ id ∉ o.before := by
  obtain ⟨o', ho', hown⟩ := h.owned id r hr hrun
  rw [hw, ho] at ho'
  rw [Option.some.inj ho']
  exact hown

/-- A workload whose object is not active is idle. -/
theorem Bound.idle (h : Bound s) (ho : s.api.lookup k = some o) (hnot : ¬o.Active) :
    Idle s.sim k :=
  fun _ _ hr hw hrun => hnot (h.owner ho hr hrun hw).1

/-- Another version of an object of the same life. -/
theorem Bound.put (h : Bound s) (ho' : ObjectOk s.sim k o')
    (howned : ∀ id r, s.sim.runs.lookup id = some r → r.status = .running → r.workloadID = k →
      o'.Active ∧ id ∉ o'.before) : Bound (s.put k o') := by
  refine ⟨h.logged, fun k' p hp => ?_, h.held, fun id r hr hrun => ?_, h.newest, h.own⟩
  · have hlookup : (s.api.insert k o').lookup k' = some p := hp
    rcases lookup_insert_eq_some.mp hlookup with ⟨rfl, rfl⟩ | ⟨-, hlookup⟩
    · exact ho'
    · exact h.objects k' p hlookup
  · show ∃ o, (s.api.insert k o').lookup r.workloadID = some o ∧ o.Active ∧ id ∉ o.before
    by_cases hk : r.workloadID = k
    · rw [hk, AList.lookup_insert]
      exact ⟨o', rfl, howned id r hr hrun hk⟩
    · rw [AList.lookup_insert_ne hk]
      exact h.owned id r hr hrun

/-- The object of an idle workload may go. -/
theorem Bound.erase (h : Bound s) (hidle : Idle s.sim k) :
    Bound { s with api := s.api.erase k } := by
  refine ⟨h.logged, fun k' p hp => ?_, h.held, fun id r hr hrun => ?_, h.newest, h.own⟩
  · have hlookup : (s.api.erase k).lookup k' = some p := hp
    exact h.objects k' p (lookup_erase_eq_some.mp hlookup).2
  · show ∃ o, (s.api.erase k).lookup r.workloadID = some o ∧ o.Active ∧ id ∉ o.before
    have hk : r.workloadID ≠ k := fun hk => hidle id r hr hk hrun
    rw [AList.lookup_erase_ne hk]
    exact h.owned id r hr hrun

/-- A change of the simulator that leaves the runs alone and running workloads their
    devices. -/
theorem Bound.setSim (h : Bound s) {t : Simulator} (hlogged : Logged t)
    (hruns : t.runs = s.sim.runs)
    (hheld : ∀ id r, s.sim.runs.lookup id = some r → r.status = .running →
      (t.allocations.lookup r.workloadID).isSome) : Bound { s with sim := t } := by
  refine ⟨hlogged, fun k o ho => ?_, ?_, ?_, ?_, h.own⟩
  · obtain ⟨hkeyed, hnamed, hfin, hpast, hlater, hbegun⟩ := h.objects k o ho
    exact ⟨hkeyed, hnamed, hfin, hruns ▸ hpast, hruns ▸ hlater, hruns ▸ hbegun⟩
  · intro id r hr
    exact hheld id r (hruns ▸ hr)
  · intro id r hr
    exact h.owned id r (hruns ▸ hr)
  · intro id r id' r' hr hr'
    exact h.newest id r id' r' (hruns ▸ hr) (hruns ▸ hr')

/-- The devices of an idle workload may be released. -/
theorem Bound.release (h : Bound s) (hidle : Idle s.sim k) : Bound (s.release k) := by
  have hstep : GpuSimulator.step (fun _ _ _ => .ok 0) s.sim (.release k)
      = some (afterUnit s.sim (GpuSimulator.release s.sim k)) := rfl
  have hlogged := h.logged.step hstep
  rw [Site.release]
  cases hrel : GpuSimulator.release s.sim k with
  | error e => exact h
  | ok t =>
      rw [hrel] at hlogged
      obtain rfl := release_ok hrel
      refine h.setSim hlogged rfl (fun id r hr hrun => ?_)
      have hk : r.workloadID ≠ k := fun hk => hidle id r hr hk hrun
      show ((s.sim.allocations.erase k).lookup r.workloadID).isSome
      rw [AList.lookup_erase_ne hk]
      exact h.held id r hr hrun

/-! ## Polling -/

/-- Reading the status of a run changes nothing but the status, and a run that is still
    running not at all. -/
theorem refresh_keeps (r : RunRecord) (now : Int) :
    (r.refresh now).workloadID = r.workloadID ∧ (r.refresh now).startedAt = r.startedAt
      ∧ ((r.refresh now).status = .running → r.refresh now = r) := by
  rw [RunRecord.refresh]
  split_ifs
  · exact ⟨rfl, rfl, fun h => (by cases h)⟩
  · exact ⟨rfl, rfl, fun _ => rfl⟩

/-- The runs after a status was read: those before, up to what reading changes. -/
theorem lookup_refreshed {runs : GoMap String RunRecord} {key : String} {r : RunRecord}
    (hr : runs.lookup key = some r) {now : Int} {id : String} {q : RunRecord}
    (hq : (runs.insert key (r.refresh now)).lookup id = some q) :
    ∃ q₀, runs.lookup id = some q₀ ∧ q.workloadID = q₀.workloadID
      ∧ q.startedAt = q₀.startedAt ∧ (q.status = .running → q = q₀) := by
  rcases lookup_insert_eq_some.mp hq with ⟨rfl, rfl⟩ | ⟨-, hq⟩
  · obtain ⟨hw, hs, hrun⟩ := refresh_keeps r now
    exact ⟨r, hr, hw, hs, hrun⟩
  · exact ⟨q, hq, rfl, rfl, fun _ => rfl⟩

/-- And the other way around. -/
theorem exists_refreshed {runs : GoMap String RunRecord} {key : String} {r : RunRecord}
    (hr : runs.lookup key = some r) (now : Int) {id : String} {q : RunRecord}
    (hq : runs.lookup id = some q) :
    ∃ q', (runs.insert key (r.refresh now)).lookup id = some q'
      ∧ q'.workloadID = q.workloadID := by
  by_cases hid : id = key
  · rw [hid, hr] at hq
    obtain rfl := Option.some.inj hq
    exact ⟨_, by rw [hid, AList.lookup_insert], (refresh_keeps r now).1⟩
  · exact ⟨q, by rw [AList.lookup_insert_ne hid]; exact hq, rfl⟩

theorem ObjectOk.refreshed {sim : Simulator} (h : ObjectOk sim k o) {key : String}
    {r : RunRecord} (hr : sim.runs.lookup key = some r) (now : Int) :
    ObjectOk { sim with runs := sim.runs.insert key (r.refresh now) } k o := by
  refine ⟨h.keyed, h.named, h.finalized, fun id hid => ?_, ?_, fun hphase => ?_⟩
  · obtain ⟨q, hq⟩ := Option.isSome_iff_exists.mp (h.past id hid)
    obtain ⟨q', hq', -⟩ := exists_refreshed hr now hq
    exact Option.isSome_iff_exists.mpr ⟨q', hq'⟩
  · intro id q id' q' hq hq' hw hw' hmem hnot
    obtain ⟨q₀, hq₀, hw₀, hs₀, -⟩ := lookup_refreshed hr hq
    obtain ⟨q₁, hq₁, hw₁, hs₁, -⟩ := lookup_refreshed hr hq'
    rw [hs₀, hs₁]
    exact h.later id q₀ id' q₁ hq₀ hq₁ (hw₀.symm.trans hw) (hw₁.symm.trans hw') hmem hnot
  · obtain ⟨id, q, hq, hw, hnot⟩ := h.begun hphase
    obtain ⟨q', hq', hw'⟩ := exists_refreshed hr now hq
    exact ⟨id, q', hq', hw'.trans hw, hnot⟩

/-- Reading the status of a run keeps the invariant. -/
theorem Bound.refreshed (h : Bound s) {key : String} {r : RunRecord}
    (hr : s.sim.runs.lookup key = some r) (now : Int)
    (hlogged : Logged { s.sim with runs := s.sim.runs.insert key (r.refresh now) }) :
    Bound { s with sim := { s.sim with runs := s.sim.runs.insert key (r.refresh now) } } := by
  refine ⟨hlogged, fun k o ho => (h.objects k o ho).refreshed hr now, ?_, ?_, ?_, h.own⟩
  · intro id q hq hrun
    obtain ⟨q₀, hq₀, -, -, hsame⟩ := lookup_refreshed hr hq
    obtain rfl := hsame hrun
    exact h.held id q hq₀ hrun
  · intro id q hq hrun
    obtain ⟨q₀, hq₀, -, -, hsame⟩ := lookup_refreshed hr hq
    obtain rfl := hsame hrun
    exact h.owned id q hq₀ hrun
  · intro id q id' q' hq hq' hrun hw hne
    obtain ⟨q₀, hq₀, -, -, hsame⟩ := lookup_refreshed hr hq
    obtain ⟨q₁, hq₁, hw₁, hs₁, -⟩ := lookup_refreshed hr hq'
    obtain rfl := hsame hrun
    rw [hs₁]
    exact h.newest id q id' q₁ hq₀ hq₁ hrun (hw₁.symm.trans hw) hne

/-- The run that a poll reads. -/
structure Polled (sim : Simulator) (k : String) (p : String × RunRecord) : Prop where
  run : sim.runs.lookup p.1 = some p.2
  workload : p.2.workloadID = k
  latest : ∀ id r, sim.runs.lookup id = some r → r.workloadID = k →
    r.startedAt ≤ p.2.startedAt

theorem polled_latestRun {sim : Simulator} {order : List String}
    (horder : order.Perm sim.runs.keys) {p : String × RunRecord}
    (h : latestRun sim k order none = some p) : Polled sim k p := by
  obtain ⟨hw, -, hmax⟩ := latestRun_max h (fun l hl => by cases hl)
  refine ⟨lookup_latestRun (fun l hl => by cases hl) h, hw, fun id r hr => ?_⟩
  exact hmax id (horder.mem_iff.mpr (AList.lookup_isSome.mp (by rw [hr]; rfl))) r hr

/-- A poll of a running object reads a run of its own life. -/
theorem ObjectOk.polled_own {sim : Simulator} (h : ObjectOk sim k o)
    (hphase : o.workload.phase = .running) {p : String × RunRecord} (hp : Polled sim k p) :
    p.1 ∉ o.before := by
  intro hmem
  obtain ⟨id, r, hr, hw, hnot⟩ := h.begun hphase
  have hlt := h.later p.1 p.2 id r hp.run hr hp.workload hw hmem hnot
  exact absurd (hp.latest id r hr hw) (not_le.mpr hlt)

/-- Once the run that a poll reads has ended, the workload is idle. -/
theorem Bound.idle_polled (h : Bound s) {p : String × RunRecord} (hp : Polled s.sim k p)
    {now : Int} (hended : (p.2.refresh now).status ≠ .running) :
    Idle { s.sim with runs := s.sim.runs.insert p.1 (p.2.refresh now) } k := by
  intro id q hq hw hrun
  by_cases hid : id = p.1
  · have hlookup : (s.sim.runs.insert p.1 (p.2.refresh now)).lookup id = some q := hq
    rw [hid, AList.lookup_insert] at hlookup
    rw [← Option.some.inj hlookup] at hrun
    exact hended hrun
  · obtain ⟨q₀, hq₀, -, -, hsame⟩ := lookup_refreshed hp.run hq
    obtain rfl := hsame hrun
    have hlt := h.newest id q p.1 p.2 hq₀ hp.run hrun (hp.workload.trans hw.symm)
      (fun he => hid he.symm)
    exact absurd (hp.latest id q hq₀ hw) (not_le.mpr hlt)

/-- More completions by runs of the object's own life. -/
theorem Bound.complete (h : Bound s) {cs : List Completion}
    (hcs : ∀ c ∈ cs, c.run ∉ c.before) :
    Bound { s with completions := s.completions ++ cs } := by
  refine ⟨h.logged, h.objects, h.held, h.owned, h.newest, fun c hc => ?_⟩
  rcases List.mem_append.mp hc with hc | hc
  · exact h.own c hc
  · exact hcs c hc

/-- Another phase than running, for an object with its finalizer. -/
theorem ObjectOk.withPhase {sim : Simulator} (h : ObjectOk sim k o) (hfin : o.finalizer = true)
    {phase : Phase} (hphase : phase ≠ .running) : ObjectOk sim k (o.withPhase phase) := by
  refine ⟨h.keyed, h.named, fun hnot => ?_, h.past, h.later, fun hrun => absurd hrun hphase⟩
  rw [Object.withPhase, hfin] at hnot
  cases hnot

/-- **POLLING** keeps the invariant. -/
theorem Bound.pollRunningStatus (h : Bound s) {x : Context}
    (hruns : x.runs.Perm s.sim.runs.keys) (ho : s.api.lookup k = some o)
    (hphase : o.workload.phase = .running) (hfin : o.finalizer = true) (written : Bool) :
    Bound (pollRunningStatus x written k o s) := by
  rw [GpuLiveRun.pollRunningStatus]
  cases hget : getLatestRunStatusForWorkload s.sim x.runs x.now k with
  | error e => exact h
  | ok result =>
      obtain ⟨status, t⟩ := result
      have hstep : GpuSimulator.step (fun _ _ _ => .ok 0) s.sim
          (.getLatestRunStatusForWorkload x.runs x.now k) = some t := by
        simp only [GpuSimulator.step, if_pos hruns, hget, after]
      have hlogged := h.logged.step hstep
      obtain ⟨id, r, hlatest, -, rfl, rfl⟩ := getLatestRunStatusForWorkload_ok hget
      have hp := polled_latestRun hruns hlatest
      have hbound := h.refreshed hp.run x.now hlogged
      simp only
      cases htarget : targetPhase (r.refresh x.now).status with
      | none => exact hbound
      | some phase =>
          have hended : (r.refresh x.now).status ≠ .running := by
            intro hrun
            rw [hrun] at htarget
            cases htarget
          have hidle := h.idle_polled hp hended
          have hnew : phase ≠ .running := by
            intro hrun
            rw [hrun] at htarget
            revert htarget
            cases (r.refresh x.now).status <;> decide
          cases written with
          | false => exact hbound
          | true =>
              have hok := (hbound.objects k o ho).withPhase hfin hnew
              have hput := hbound.put hok
                (fun id r hr hrun hw => absurd hrun (hidle id r hr hw))
              refine (hput.complete (fun c hc => ?_)).release hidle
              -- what is recorded is the run that was read
              rw [completion] at hc
              split_ifs at hc
              · rw [hlatest] at hc
                rw [List.mem_singleton.mp hc]
                exact (h.objects k o ho).polled_own hphase hp
              · cases hc

/-! ## Starting -/

/-- The IDs given out so far do not include the next one. -/
theorem ObjectOk.nextID_notMem {sim : Simulator} (h : ObjectOk sim k o) (hlog : Logged sim) :
    nextID sim ∉ o.before := by
  intro hmem
  have hsome := h.past _ hmem
  rw [hlog.lookup_nextID] at hsome
  cases hsome

/-- A run that is started: of this workload, running, from now on. -/
structure Started (sim t : Simulator) (k : String) (now : Int) (r : RunRecord) : Prop where
  workload : r.workloadID = k
  startedAt : r.startedAt = now
  runs : t.runs = sim.runs.insert (nextID sim) r
  allocations : t.allocations = sim.allocations
  allocated : (sim.allocations.lookup k).isSome
  idle : Idle sim k

section
variable {sim t : Simulator} {now : Int} {r : RunRecord}

theorem Started.lookup_old (h : Started sim t k now r) (hlog : Logged sim) {id : String}
    {q : RunRecord} (hq : sim.runs.lookup id = some q) : t.runs.lookup id = some q := by
  have hne : id ≠ nextID sim := by
    intro heq
    rw [heq, hlog.lookup_nextID] at hq
    cases hq
  rw [h.runs, AList.lookup_insert_ne hne]
  exact hq

/-- The runs afterwards: the new one and those before. -/
theorem Started.lookup_cases (h : Started sim t k now r) {id : String} {q : RunRecord}
    (hq : t.runs.lookup id = some q) :
    id = nextID sim ∧ q = r ∨ id ≠ nextID sim ∧ sim.runs.lookup id = some q := by
  rw [h.runs] at hq
  exact lookup_insert_eq_some.mp hq

theorem ObjectOk.started {k' : String} (h : ObjectOk sim k' o) (hlog : Logged sim)
    (hst : Started sim t k now r)
    (hlater : ∀ id q, sim.runs.lookup id = some q → q.workloadID = k → q.startedAt < now) :
    ObjectOk t k' o := by
  refine ⟨h.keyed, h.named, h.finalized, fun id hid => ?_, ?_, fun hphase => ?_⟩
  · obtain ⟨q, hq⟩ := Option.isSome_iff_exists.mp (h.past id hid)
    exact Option.isSome_iff_exists.mpr ⟨q, hst.lookup_old hlog hq⟩
  · intro id q id' q' hq hq' hw hw' hmem hnot
    rcases hst.lookup_cases hq with ⟨rfl, -⟩ | ⟨-, hq⟩
    · -- the new run is not from before
      exact absurd hmem (h.nextID_notMem hlog)
    · rcases hst.lookup_cases hq' with ⟨-, rfl⟩ | ⟨-, hq'⟩
      · rw [hst.startedAt]
        exact hlater id q hq (hw.trans (hw'.symm.trans hst.workload))
      · exact h.later id q id' q' hq hq' hw hw' hmem hnot
  · obtain ⟨id, q, hq, hw, hnot⟩ := h.begun hphase
    exact ⟨id, q, hst.lookup_old hlog hq, hw, hnot⟩

/-- Starting a run of an active, idle workload keeps the invariant. -/
theorem Bound.started (h : Bound s) (hst : Started s.sim t k now r) (hlogged : Logged t)
    (ho : s.api.lookup k = some o) (hactive : o.Active)
    (hlater : ∀ id q, s.sim.runs.lookup id = some q → q.workloadID = k → q.startedAt < now) :
    Bound { s with sim := t } := by
  refine ⟨hlogged, fun k' o' ho' => (h.objects k' o' ho').started h.logged hst hlater, ?_, ?_, ?_,
    h.own⟩
  · intro id q hq hrun
    show (t.allocations.lookup q.workloadID).isSome
    rw [hst.allocations]
    rcases hst.lookup_cases hq with ⟨-, rfl⟩ | ⟨-, hq⟩
    · rw [hst.workload]
      exact hst.allocated
    · exact h.held id q hq hrun
  · intro id q hq hrun
    rcases hst.lookup_cases hq with ⟨rfl, rfl⟩ | ⟨-, hq⟩
    · rw [hst.workload]
      exact ⟨o, ho, hactive, (h.objects k o ho).nextID_notMem h.logged⟩
    · exact h.owned id q hq hrun
  · intro id q id' q' hq hq' hrun hw hne
    rcases hst.lookup_cases hq with ⟨rfl, rfl⟩ | ⟨-, hq⟩
    · rcases hst.lookup_cases hq' with ⟨heq, -⟩ | ⟨-, hq'⟩
      · exact absurd heq hne
      · rw [hst.startedAt]
        exact hlater id' q' hq' (hw.trans hst.workload)
    · rcases hst.lookup_cases hq' with ⟨-, rfl⟩ | ⟨-, hq'⟩
      · -- an old run of the workload does not run any more
        exact absurd hrun (hst.idle id q hq (hw.symm.trans hst.workload))
      · exact h.newest id q id' q' hq hq' hrun hw hne

end

/-- A start that fails like one with a run already there, with plain texts, has found one. -/
theorem findRunning_of_alreadyRunning {v : Verbs} {est : Estimator}
    {allocation : Option Allocation} {running : Option RunRecord} {runID : String} {now : Int}
    {input : RuntimeInput} {e : SimError}
    (h : startedRun est allocation running runID now input = .error e)
    (he : isAlreadyRunningErr v e = true) (hplain : PlainTexts v est now input)
    (hid : ∀ c ∈ input.workloadID.toList, Plain c) : ∃ r, running = some r := by
  rw [startedRun] at h
  split_ifs at h
  · rw [← Except.error.inj h, isAlreadyRunningErr_workloadIDRequired] at he; cases he
  · rw [← Except.error.inj h, isAlreadyRunningErr_tokens] at he; cases he
  · rw [← Except.error.inj h, isAlreadyRunningErr_profileRequired] at he; cases he
  · simp only at h
    have hid' : ∀ c ∈ (applyDefaults (defaultKind input)).workloadID.toList, Plain c := by
      rw [workloadID_applyDefaults]
      exact hid
    split_ifs at h
    · rw [← Except.error.inj h, hplain.kind] at he
      cases he
    · split at h
      · rename_i e' hcheck
        rw [← Except.error.inj h, hplain.checks e' hcheck] at he
        cases he
      · split at h
        · rw [← Except.error.inj h, isAlreadyRunningErr_noAllocation v hid'] at he; cases he
        · split_ifs at h
          · rw [← Except.error.inj h, isAlreadyRunningErr_empty v hid'] at he; cases he
          · split at h
            · exact ⟨_, rfl⟩
            · split at h
              · rename_i e' hest
                rw [← Except.error.inj h, hplain.estimate _ e' hest] at he
                cases he
              · cases h

/-- **THE START** of an admitted workload: a run is started, or there is one already. -/
theorem startAdmitted_cases {v : Verbs} {est : Estimator} {x : Context} {w : GPUWorkload}
    {sim t : Simulator} (hruns : x.runs.Perm sim.runs.keys) (hnamed : Nameable w.ns w.name)
    (hplain : PlainTexts v est x.now (buildRuntimeInput x.sections w))
    (h : startAdmitted v est x w sim = .ok t) :
    (∃ r, Started sim t w.id x.now r)
      ∨ t = sim ∧ ∃ id r, sim.runs.lookup id = some r ∧ r.workloadID = w.id
        ∧ r.status = .running := by
  have hid : (applyDefaults (defaultKind (buildRuntimeInput x.sections w))).workloadID = w.id :=
    workloadID_applyDefaults _
  rw [startAdmitted, startWithRuntimeInput_eq] at h
  cases hr : startedRun est
      (sim.allocations.lookup (applyDefaults (defaultKind
        (buildRuntimeInput x.sections w))).workloadID)
      (findRunning sim x.runs (applyDefaults (defaultKind
        (buildRuntimeInput x.sections w))).workloadID) (nextID sim) x.now
      (buildRuntimeInput x.sections w) with
  | error e =>
      rw [hr] at h
      simp only [Except.map] at h
      split_ifs at h with he
      obtain ⟨r, hfound⟩ := findRunning_of_alreadyRunning hr he hplain hnamed.plain
      obtain ⟨id, hlookup, hw, hrun⟩ := lookup_of_findRunning hfound
      exact Or.inr ⟨(Except.ok.inj h).symm, id, r, hlookup, hw.trans hid, hrun⟩
  | ok r =>
      rw [hr] at h
      obtain ⟨halloc, hnone, -, hw, hnow, -⟩ := startedRun_ok hr
      rw [← Except.ok.inj h]
      refine Or.inl ⟨r, hw.trans hid, hnow, rfl, rfl, ?_, fun id q hq hq' => ?_⟩
      · rw [← hid]
        exact Option.isSome_iff_ne_none.mpr halloc
      · exact findRunning_none hruns hnone id q hq (hq'.trans hid.symm)

/-- The allocation of an admitted workload leaves the runs alone and takes no devices
    away. -/
theorem allocateAdmitted_ok {x : Context} {w : GPUWorkload} {sim t : Simulator}
    (h : allocateAdmitted x w sim = .ok t) :
    t.runs = sim.runs ∧ t.nextRunID = sim.nextRunID
      ∧ ∀ id, (sim.allocations.lookup id).isSome → (t.allocations.lookup id).isSome := by
  rw [allocateAdmitted] at h
  split at h
  · rename_i a t' hok
    obtain ⟨-, -, -, -, -, rfl⟩ := allocateWithOptions_ok hok
    rw [← Except.ok.inj h]
    refine ⟨rfl, rfl, fun id hid => ?_⟩
    show ((sim.allocations.insert w.id a).lookup id).isSome
    by_cases hw : id = w.id
    · rw [hw, AList.lookup_insert]
      rfl
    · rw [AList.lookup_insert_ne hw]
      exact hid
  · rw [← Except.ok.inj h]
    exact ⟨rfl, rfl, fun _ hid => hid⟩
  · cases h

/-- The start of an admitted workload keeps the log. -/
theorem logged_startAdmitted {v : Verbs} {est : Estimator} {x : Context} {w : GPUWorkload}
    {sim t : Simulator} (hlog : Logged sim) (hruns : x.runs.Perm sim.runs.keys)
    (h : startAdmitted v est x w sim = .ok t) : Logged t := by
  rw [startAdmitted] at h
  split at h
  · rename_i id t' hok
    have hstep : GpuSimulator.step est sim (.startWithRuntimeInput x.runs x.now
        (buildRuntimeInput x.sections w)) = some t' := by
      simp only [GpuSimulator.step, if_pos hruns, hok, after]
    rw [← Except.ok.inj h]
    exact hlog.step hstep
  · split_ifs at h
    rw [← Except.ok.inj h]
    exact hlog

/-- An active object with a run of its own may be set to `Running`. -/
theorem Bound.begin (h : Bound s) (ho : s.api.lookup k = some o) (hfin : o.finalizer = true)
    {id : String} {r : RunRecord} (hr : s.sim.runs.lookup id = some r) (hw : r.workloadID = k)
    (hown : id ∉ o.before) : Bound (s.put k (o.withPhase .running)) := by
  obtain ⟨hkeyed, hnamed, -, hpast, hlater, -⟩ := h.objects k o ho
  refine h.put ⟨hkeyed, hnamed, fun hnot => ?_, hpast, hlater, fun _ => ⟨id, r, hr, hw, hown⟩⟩ ?_
  · rw [Object.withPhase, hfin] at hnot
    cases hnot
  · exact fun id' q hq hrun hk => ⟨Or.inr rfl, (h.owner ho hq hrun hk).2⟩

/-- **ADMISSION** keeps the invariant. -/
theorem Bound.executeAdmission (h : Bound s) {v : Verbs} {est : Estimator} {x : Context}
    (hruns : x.runs.Perm s.sim.runs.keys) (ho : s.api.lookup k = some o)
    (hphase : o.workload.phase = .scheduled) (hfin : o.finalizer = true)
    (hplain : PlainTexts v est x.now (buildRuntimeInput x.sections o.workload))
    (hearlier : ∀ id r, s.sim.runs.lookup id = some r → r.workloadID = k →
      r.status ≠ .running → r.startedAt < x.now) (written : Bool) :
    Bound (executeAdmission v est x written k o s) := by
  have hkeyed : o.workload.id = k := (h.objects k o ho).keyed
  have hnamed := (h.objects k o ho).named
  rw [GpuLiveRun.executeAdmission]
  cases halloc : allocateAdmitted x o.workload s.sim with
  | error e => exact h
  | ok allocated =>
      obtain ⟨hsame, hnext, hkept⟩ := allocateAdmitted_ok halloc
      have hlogged : Logged allocated := h.logged.of_runs_eq hsame hnext
      have hbound : Bound { s with sim := allocated } :=
        h.setSim hlogged hsame (fun id r hr hrun => hkept _ (h.held id r hr hrun))
      have horder : x.runs.Perm allocated.runs.keys := hsame ▸ hruns
      simp only
      cases hstart : startAdmitted v est x o.workload allocated with
      | error e => exact hbound
      | ok started =>
          suffices hboth : Bound { s with sim := started }
              ∧ ∃ id r, started.runs.lookup id = some r ∧ r.workloadID = k ∧ id ∉ o.before by
            obtain ⟨hstarted, id, r, hr, hw, hown⟩ := hboth
            cases written with
            | false => exact hstarted
            | true => exact hstarted.begin ho hfin hr hw hown
          rcases startAdmitted_cases horder hnamed hplain hstart
            with ⟨r, hst⟩ | ⟨rfl, id, r, hr, hw, hrun⟩
          · -- a run of this life
            rw [hkeyed] at hst
            have hlog : Logged started := logged_startAdmitted hlogged horder hstart
            refine ⟨hbound.started hst hlog ho (Or.inl hphase) (fun id q hq hw => ?_),
              nextID allocated, r, ?_, hst.workload,
              (hbound.objects k o ho).nextID_notMem hlogged⟩
            · have hidle := hst.idle id q hq hw
              rw [hsame] at hq
              exact hearlier id q hq hw hidle
            · rw [hst.runs, AList.lookup_insert]
          · -- the run that was there is of this life, since it is running
            rw [hkeyed] at hw
            exact ⟨hbound, id, r, hr, hw, (hbound.owner ho hr hrun hw).2⟩

/-! ## Every event -/

/-- A new object: every run there is, is from before. -/
theorem Bound.create (h : Bound s) {w : GPUWorkload} {finalizer : Bool}
    (hnone : s.api.lookup w.id = none) (hphase : w.phase = .unset)
    (hnamed : Nameable w.ns w.name) : Bound (s.put w.id ⟨w, finalizer, s.sim.runs.keys⟩) := by
  refine h.put ⟨rfl, hnamed, fun _ => hphase, fun id hid => ?_, ?_, fun hrun => ?_⟩ ?_
  · exact AList.lookup_isSome.mpr hid
  · intro id r id' r' _ hr' _ _ _ hnot
    exact absurd (AList.lookup_isSome.mp (Option.isSome_iff_exists.mpr ⟨r', hr'⟩)) hnot
  · rw [hphase] at hrun
    cases hrun
  · intro id r hr hrun hk
    obtain ⟨o', ho', -⟩ := h.owned id r hr hrun
    rw [hk, hnone] at ho'
    cases ho'

/-- Another version of an object in the same phase. -/
theorem Bound.samePhase (h : Bound s) (ho : s.api.lookup k = some o)
    (hns : o'.workload.ns = o.workload.ns) (hname : o'.workload.name = o.workload.name)
    (hphase : o'.workload.phase = o.workload.phase)
    (hfin : o'.finalizer = false → o.finalizer = false) (hbefore : o'.before = o.before) :
    Bound (s.put k o') := by
  obtain ⟨hkeyed, hnamed, hfinalized, hpast, hlater, hbegun⟩ := h.objects k o ho
  refine h.put ⟨?_, by rw [hns, hname]; exact hnamed, ?_, ?_, ?_, ?_⟩ ?_
  · rw [← hkeyed, GPUWorkload.id, GPUWorkload.id, hns, hname]
  · exact fun hnot => hphase.trans (hfinalized (hfin hnot))
  · exact hbefore ▸ hpast
  · exact hbefore ▸ hlater
  · intro hrun
    rw [hbefore]
    exact hbegun (hphase.symm.trans hrun)
  · intro id r hr hrun hk
    rw [Object.Active, hphase, hbefore]
    exact h.owner ho hr hrun hk

/-- The next phase of an object that was not active, with its finalizer. -/
theorem Bound.nextPhase (h : Bound s) (ho : s.api.lookup k = some o) (hnot : ¬o.Active)
    (hns : o'.workload.ns = o.workload.ns) (hname : o'.workload.name = o.workload.name)
    (hfin : o'.finalizer = true)
    (hphase : o'.workload.phase ≠ .running) (hbefore : o'.before = o.before) :
    Bound (s.put k o') := by
  obtain ⟨hkeyed, hnamed, -, hpast, hlater, -⟩ := h.objects k o ho
  refine h.put ⟨?_, by rw [hns, hname]; exact hnamed, ?_, hbefore ▸ hpast, hbefore ▸ hlater,
    ?_⟩ ?_
  · rw [← hkeyed, GPUWorkload.id, GPUWorkload.id, hns, hname]
  · intro hfalse
    rw [hfin] at hfalse
    cases hfalse
  · exact fun hrun => absurd hrun hphase
  · exact fun id r hr hrun hk => absurd hrun (h.idle ho hnot id r hr hk)

theorem not_active_of_phase {phase : Phase} (h : o.workload.phase = phase)
    (hscheduled : phase ≠ .scheduled) (hrunning : phase ≠ .running) : ¬o.Active := by
  rintro (hphase | hphase)
  · exact hscheduled (h.symm.trans hphase)
  · exact hrunning (h.symm.trans hphase)

theorem not_active_of_terminal (h : isTerminalPhase o.workload.phase = true) : ¬o.Active := by
  refine not_active_of_phase rfl ?_ ?_
  · intro hphase
    rw [hphase] at h
    cases h
  · intro hphase
    rw [hphase] at h
    cases h

/-- A finalizer is there when the phase is set. -/
theorem ObjectOk.finalizer {sim : Simulator} (h : ObjectOk sim k o)
    (hphase : o.workload.phase ≠ .unset) : o.finalizer = true := by
  by_contra hnot
  exact hphase (h.finalized (Bool.eq_false_iff.mpr hnot))

/-- **ONE RECONCILE** keeps the invariant. -/
theorem Bound.reconcile (h : Bound s) {v : Verbs} {est : Estimator} {x : Context}
    {written : Bool} (hruns : x.runs.Perm s.sim.runs.keys)
    (horderly : Orderly v est s (.reconcile x written k)) :
    Bound (reconcile v est x written k s) := by
  rw [GpuLiveRun.reconcile]
  cases ho : s.api.lookup k with
  | none => exact h
  | some o =>
      obtain ⟨hdeleted, hscheduled⟩ := horderly o ho
      simp only
      by_cases hdel : o.workload.deletionTimestamp ≠ none
      · -- the run is over
        have hidle : Idle s.sim k := hdeleted hdel
        have hreleased := h.release hidle
        have herased := (h.erase hidle).release hidle
        rw [Site.release] at hreleased herased
        rw [if_pos hdel]
        cases hrel : GpuSimulator.release s.sim k with
        | error e => exact h
        | ok t =>
            rw [hrel] at hreleased herased
            cases written with
            | false => exact hreleased
            | true => exact herased
      rw [if_neg hdel]
      by_cases hterminal : isTerminalPhase o.workload.phase = true
      · rw [if_pos hterminal]
        exact h.release (h.idle ho (not_active_of_terminal hterminal))
      rw [if_neg hterminal]
      by_cases hfin : o.finalizer = false
      · rw [if_pos hfin]
        split_ifs
        · exact h.samePhase ho rfl rfl rfl (fun hnot => (by cases hnot)) rfl
        · exact h
      rw [if_neg hfin]
      have hfinalizer : o.finalizer = true := Bool.eq_true_of_not_eq_false hfin
      cases hphase : o.workload.phase with
      | unset =>
          have hnot : ¬o.Active := not_active_of_phase hphase (by decide) (by decide)
          simp only
          split_ifs
          · exact h.nextPhase ho hnot rfl rfl hfinalizer (fun hrun => (by cases hrun)) rfl
          · exact h
      | scheduled =>
          obtain ⟨hplain, hearlier⟩ := hscheduled (not_not.mp hdel) hphase
          exact h.executeAdmission hruns ho hphase hfinalizer hplain hearlier written
      | running => exact h.pollRunningStatus hruns ho hphase hfinalizer written
      | queued => exact h
      | succeeded => exact h
      | failed => exact h
      | preempted => exact h
      | other raw _ => exact h

/-- **ONE EVENT** keeps the invariant. -/
theorem Bound.step (h : Bound s) {v : Verbs} {est : Estimator} {label : Label} {t : Site}
    (horderly : Orderly v est s label) (hstep : step v est s label = some t) : Bound t := by
  cases label with
  | create w finalizer =>
      rw [GpuLiveRun.step] at hstep
      split_ifs at hstep with hnew
      obtain ⟨hnone, hphase, -, hnamed⟩ := hnew
      rw [← Option.some.inj hstep]
      exact h.create hnone hphase hnamed
  | delete k =>
      rw [GpuLiveRun.step] at hstep
      cases ho : s.api.lookup k with
      | none =>
          rw [ho] at hstep
          cases hstep
      | some o =>
          rw [ho] at hstep
          simp only at hstep
          split_ifs at hstep with hfin
          · rw [← Option.some.inj hstep]
            exact h.samePhase ho rfl rfl rfl (fun hnot => hnot) rfl
          · -- without its finalizer the object has not been reconciled
            have hphase := (h.objects k o ho).finalized (Bool.eq_false_iff.mpr hfin)
            rw [← Option.some.inj hstep]
            exact h.erase (h.idle ho (not_active_of_phase hphase (by decide) (by decide)))
  | admission k =>
      rw [GpuLiveRun.step] at hstep
      cases ho : s.api.lookup k with
      | none =>
          rw [ho] at hstep
          cases hstep
      | some o =>
          rw [ho] at hstep
          simp only at hstep
          split_ifs at hstep with hphase
          have hfin : o.finalizer = true := by
            refine (h.objects k o ho).finalizer ?_
            rw [hphase]
            decide
          rw [← Option.some.inj hstep]
          exact h.nextPhase ho (not_active_of_phase hphase (by decide) (by decide)) rfl rfl hfin
            (fun hrun => (by cases hrun)) rfl
  | reconcile x written k =>
      rw [GpuLiveRun.step] at hstep
      split_ifs at hstep with hreads
      obtain ⟨-, hruns, -⟩ := hreads
      rw [← Option.some.inj hstep]
      exact h.reconcile hruns horderly
  | advance now =>
      rw [GpuLiveRun.step] at hstep
      split_ifs at hstep
      rw [← Option.some.inj hstep]
      exact ⟨h.logged, h.objects, h.held, h.owned, h.newest, h.own⟩

end

theorem bound_of_runs {v : Verbs} {est : Estimator}
    {pools : GoMap String (List GpuPlacement.Node)} {clock : Int} {labels : List Label} {s : Site}
    (h : Runs (step v est) (Orderly v est) (start pools clock) labels s) : Bound s :=
  h.invariant (fun _ _ _ hs horderly hst => hs.step horderly hst) (bound_start pools clock)

/-- **LIVE RUNS KEEP THEIR DEVICES**, and completions are by runs of the object's own life, in
    every state that orderly events lead to. -/
theorem live_runs_of_orderly {v : Verbs} {est : Estimator}
    {pools : GoMap String (List GpuPlacement.Node)} {clock : Int} {labels : List Label} {s : Site}
    (h : Runs (step v est) (Orderly v est) (start pools clock) labels s) :
    LiveRunsHeld s ∧ OwnCompletions s := by
  have hbound := bound_of_runs h
  exact ⟨hbound.live, hbound.own⟩

/-! ## Two lives of one name -/

/-- A workload for one device. -/
def single : GPUWorkload := ⟨"ns", "w", ∅, none, ⟨"t", 1, 1, 10, "h100_sxm", 100, .training⟩,
  .unset, none⟩

/-- No runtime sections. -/
def noSections : RuntimeInput :=
  ⟨"", 0, "", .training, none, none, none, none, none, none, none, none, none⟩

/-- One pool with one device. -/
def onePool : GoMap String (List GpuPlacement.Node) :=
  (∅ : GoMap String (List GpuPlacement.Node)).insert "p"
    [GpuPlacement.buildNode ⟨1, 1, 80, "", "h100_sxm"⟩ "p" 0]

/-- A reconcile of the workload. -/
def turn (runs : List String) (now : Int) : Label :=
  .reconcile ⟨["p"], runs, now, noSections⟩ true "ns/w"

/-- From creation to a started run. -/
def life (runs : List String) (now : Int) : List Label :=
  [.create single false, turn runs now, turn runs now, .admission "ns/w", turn runs now]

/-- The run is polled to its end; then the object is deleted, and created again. -/
def ended : List Label :=
  life [] 100 ++ [.advance 110, turn ["run-1"] 110, .delete "ns/w", turn ["run-1"] 110]
    ++ life ["run-1"] 110 ++ [.advance 115]

/-- The object is deleted while it runs. -/
def deletedRunning : List Label := life [] 100 ++ [.delete "ns/w", turn ["run-1"] 100]

/-- Then it is created again, and polled at the end of the first life's run. -/
def recreated : List Label :=
  deletedRunning ++ [.advance 105] ++ life ["run-1"] 105 ++ [.advance 110, turn ["run-1"] 110]

/-- `Orderly`, for one runtime input and by looking through the runs. -/
def orderlyFor (input : RuntimeInput) (s : Site) : Label → Bool
  | .reconcile x _ k => decide (∀ o ∈ s.api.lookup k,
      (o.workload.deletionTimestamp ≠ none →
        ∀ e ∈ s.sim.runs.entries, e.2.workloadID = k → e.2.status ≠ .running)
      ∧ (o.workload.deletionTimestamp = none → o.workload.phase = .scheduled →
        buildRuntimeInput x.sections o.workload = input
        ∧ ∀ e ∈ s.sim.runs.entries, e.2.workloadID = k → e.2.status ≠ .running →
          e.2.startedAt < x.now))
  | _ => true

theorem orderly_of_orderlyFor {v : Verbs} {est : Estimator} {input : RuntimeInput}
    (hplain : ∀ now, PlainTexts v est now input) (s : Site) (label : Label)
    (h : orderlyFor input s label = true) : Orderly v est s label := by
  cases label with
  | reconcile x written k =>
      intro o ho
      obtain ⟨hdeleted, hscheduled⟩ := of_decide_eq_true h o ho
      refine ⟨fun hdel id r hr => ?_, fun hdel hphase => ?_⟩
      · exact hdeleted hdel ⟨id, r⟩ (AList.mem_lookup_iff.mp hr)
      · obtain ⟨hinput, hearlier⟩ := hscheduled hdel hphase
        rw [hinput]
        exact ⟨hplain x.now, fun id r hr => hearlier ⟨id, r⟩ (AList.mem_lookup_iff.mp hr)⟩
  | create _ _ => trivial
  | delete _ => trivial
  | admission _ => trivial
  | advance _ => trivial

theorem plainTexts_single (now : Int) :
    PlainTexts allPrint (fun _ _ _ => .ok 10) now (buildRuntimeInput noSections single) where
  kind := by decide +kernel
  checks e he := by
    revert he
    have hnone : checkRuntime (applyDefaults (defaultKind (buildRuntimeInput noSections single)))
        = none := by decide +kernel
    rw [hnone]
    intro he
    cases he
  estimate n e he := by cases he

/-- Two lives, each with its own run. -/
theorem ended_live : ∃ s,
    Runs (step allPrint (fun _ _ _ => .ok 10)) (Orderly allPrint (fun _ _ _ => .ok 10))
      (start onePool 100) ended s
      ∧ LiveRunsHeld s ∧ OwnCompletions s := by
  have hexec : (exec (guarded (step allPrint (fun _ _ _ => .ok 10))
      (fun s a => orderlyFor (buildRuntimeInput noSections single) s a = true))
      (start onePool 100) ended).isSome = true := by decide +kernel
  obtain ⟨s, hs⟩ := Option.isSome_iff_exists.mp hexec
  have hruns := (Runs.of_exec_guarded hs).weaken (orderly_of_orderlyFor plainTexts_single)
  exact ⟨s, hruns, live_runs_of_orderly hruns⟩

/-- The run goes on without devices when its object is deleted, and the object's next life is
    completed by it. -/
theorem deletedRunning_not_live :
    (¬ ∀ (v : Verbs) (est : Estimator) (pools : GoMap String (List GpuPlacement.Node))
      (clock : Int) (labels : List Label) (s : Site),
      Runs (step v est) Always (start pools clock) labels s → LiveRunsHeld s)
    ∧ ¬ ∀ (v : Verbs) (est : Estimator) (pools : GoMap String (List GpuPlacement.Node))
      (clock : Int) (labels : List Label) (s : Site),
      Runs (step v est) Always (start pools clock) labels s → OwnCompletions s := by
  constructor
  · intro h
    have hexec : (exec (step allPrint (fun _ _ _ => .ok 10)) (start onePool 100) deletedRunning).any
        (fun s => (s.sim.runs.lookup "run-1").any (fun r => r.status = .running
          ∧ s.clock < r.endsAt ∧ s.sim.allocations.lookup r.workloadID = none)) = true := by
      decide +kernel
    obtain ⟨s, hs, hany⟩ := (Option.any_eq_true _ _).mp hexec
    obtain ⟨r, hr, hlive⟩ := (Option.any_eq_true _ _).mp hany
    obtain ⟨hrun, hclock, hnone⟩ := of_decide_eq_true hlive
    have hheld := h _ _ _ _ _ s (Runs.of_exec hs) "run-1" r hr hrun hclock
    rw [hnone] at hheld
    cases hheld
  · intro h
    have hexec : (exec (step allPrint (fun _ _ _ => .ok 10)) (start onePool 100) recreated).any
        (fun s => s.completions.any (fun c => c.run ∈ c.before)) = true := by
      decide +kernel
    obtain ⟨s, hs, hany⟩ := (Option.any_eq_true _ _).mp hexec
    obtain ⟨c, hc, hold⟩ := List.any_eq_true.mp hany
    exact h _ _ _ _ _ s (Runs.of_exec hs) c hc (of_decide_eq_true hold)

end GpuLiveRun
