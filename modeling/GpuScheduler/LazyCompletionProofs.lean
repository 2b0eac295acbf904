import GpuScheduler.RunHistoryProofs

/-! # Lazy completion

    A run that has reached its end stays recorded as running until somebody asks for its
    status.  Ideally nobody could tell: more queries would not change what any other call
    returns.

    That is so as long as `StartWithRuntimeInput` and `Preempt`, which look at the recorded
    status and not at the clock, do not meet such a run (`Settled`).  The history without
    the extra queries is then simulated by the history with them, whose simulator is only
    ahead in completing runs (`Ahead`), and all calls answer the same
    (`lazy_completion_unobservable`).  Otherwise a run that has ended can still be
    preempted, or keep its workload from starting again. -/

namespace GpuLazyCompletion

open GoStrings GoMaps GpuPlacement GpuSimulator GpuRunHistory StepRuns

/-! ## Histories -/

/-- A call with the reading of the clock when it is made. -/
structure Timed where
  now : Int
  op : Op

/-- The simulator with the last reading of the clock. -/
structure Clocked where
  clock : Int
  sim : Simulator

/-- The clock as a call reads it itself. -/
def reading : Op → Option Int
  | .startWithRuntimeInput _ now _ => some now
  | .getStatus now _ => some now
  | .getLatestRunStatusForWorkload _ now _ => some now
  | _ => none

/-- One call; the readings of the clock do not decrease. -/
def timedStep (est : Estimator) (s : Clocked) (a : Timed) : Option Clocked :=
  if s.clock ≤ a.now ∧ (reading a.op).getD a.now = a.now then
    (step est s.sim a.op).map (fun t => ⟨a.now, t⟩)
  else none

/-- What a call returns. -/
inductive Answer where
  | done (r : Except SimError Unit)
  | allocation (r : Except SimError Allocation)
  | run (r : Except SimError String)
  | status (r : Except SimError RunStatus)
  deriving DecidableEq

/-- The answer of a call in a state. -/
def answer (est : Estimator) (s : Simulator) : Op → Answer
  | .registerFleet poolKey spec => .done ((registerFleet s poolKey spec).map (fun _ => ()))
  | .deleteFleet _ => .done (.ok ())
  | .allocateWithOptions order workloadID gpuCount memMiB opts =>
      .allocation ((allocateWithOptions s order workloadID gpuCount memMiB opts).map Prod.fst)
  | .startWithRuntimeInput order now input =>
      .run ((startWithRuntimeInput est s order now input).map Prod.fst)
  | .getStatus now runID => .status ((getStatus s now runID).map Prod.fst)
  | .getLatestRunStatusForWorkload order now workloadID =>
      .status ((getLatestRunStatusForWorkload s order now workloadID).map Prod.fst)
  | .preempt order workloadID => .done ((preempt s order workloadID).map (fun _ => ()))
  | .release workloadID => .done ((release s workloadID).map (fun _ => ()))

/-- The two calls that complete runs. -/
def isQuery : Op → Bool
  | .getStatus _ _ => true
  | .getLatestRunStatusForWorkload _ _ _ => true
  | _ => false

/-- A call of a history, and whether it is an extra one. -/
structure Entry where
  extra : Bool
  call : Timed

/-- The answers of the calls that are not extra; `none` when the readings decrease or a
    map order is none. -/
def answers (est : Estimator) : Clocked → List Entry → Option (List Answer)
  | _, [] => some []
  | s, e :: rest =>
      match timedStep est s e.call with
      | none => none
      | some t => (answers est t rest).map (fun later =>
          if e.extra then later else answer est s.sim e.call.op :: later)

/-- The history without its extra calls. -/
def plain (history : List Entry) : List Entry := history.filter (fun e => e.extra = false)

/-- The calls of a history. -/
def calls (history : List Entry) : List Timed := history.map Entry.call

/-- No run of the workload is still recorded as running at its end. -/
def NoneOverdue (s : Simulator) (now : Int) (workloadID : String) : Prop :=
  ∀ id r, s.runs.lookup id = some r → r.workloadID = workloadID → r.status = .running →
    now < r.endsAt

theorem noneOverdue_iff {s : Simulator} {now : Int} {workloadID : String} :
    NoneOverdue s now workloadID ↔ ∀ e ∈ s.runs.entries, e.2.workloadID = workloadID →
      e.2.status = .running → now < e.2.endsAt := by
  constructor
  · intro h e he
    exact h e.1 e.2 (AList.mem_lookup_iff.mpr he)
  · intro h id r hr
    exact h ⟨id, r⟩ (AList.mem_lookup_iff.mp hr)

instance (s : Simulator) (now : Int) (workloadID : String) :
    Decidable (NoneOverdue s now workloadID) :=
  decidable_of_iff _ noneOverdue_iff.symm

/-- The workload whose recorded runs decide what a call does. -/
def consults : Op → Option String
  | .startWithRuntimeInput _ _ input => some input.workloadID
  | .preempt _ workloadID => some workloadID
  | _ => none

/-- **SETTLED**: a workload that is started or preempted has no overdue run. -/
def Settled (s : Clocked) (a : Timed) : Prop :=
  ∀ workloadID ∈ consults a.op, NoneOverdue s.sim a.now workloadID

instance (s : Clocked) (a : Timed) : Decidable (Settled s a) :=
  inferInstanceAs (Decidable (∀ workloadID ∈ consults a.op, NoneOverdue s.sim a.now workloadID))

/-! ## Being ahead -/

/-- The second record is the first, or the first completed by some time. -/
inductive Late (now : Int) (r : RunRecord) : RunRecord → Prop where
  | same : Late now r r
  | completed : r.status = .running → r.endsAt ≤ now →
      Late now r { r with status := .succeeded }

section
variable {now now' : Int} {r r' : RunRecord}

theorem Late.mono (h : Late now r r') (hle : now ≤ now') : Late now' r r' := by
  cases h with
  | same => exact .same
  | completed hrun hend => exact .completed hrun (hend.trans hle)

theorem Late.workloadID (h : Late now r r') : r'.workloadID = r.workloadID := by
  cases h with
  | same => rfl
  | completed _ _ => rfl

theorem Late.startedAt (h : Late now r r') : r'.startedAt = r.startedAt := by
  cases h with
  | same => rfl
  | completed _ _ => rfl

/-- Reading the status makes up for the delay. -/
theorem Late.refresh_eq (h : Late now r r') (hle : now ≤ now') :
    r'.refresh now' = r.refresh now' := by
  cases h with
  | same => rfl
  | completed hrun hend =>
      have hdue : r.refresh now' = { r with status := .succeeded } :=
        if_pos ⟨hrun, hend.trans hle⟩
      rw [hdue]
      exact if_neg (fun h => RunStatus.noConfusion h.1)

/-- A record that was read is the other one, completed or not. -/
theorem Late.refresh (h : Late now r r') (hle : now ≤ now') : Late now' r (r'.refresh now') := by
  rw [h.refresh_eq hle, RunRecord.refresh]
  split_ifs with hdue
  · exact .completed hdue.1 hdue.2
  · exact .same

/-- A record that is not overdue is the same. -/
theorem Late.eq_of_notDue (h : Late now r r') (hdue : r.status = .running → now < r.endsAt) :
    r' = r := by
  cases h with
  | same => rfl
  | completed hrun hend => exact absurd (hdue hrun) (not_lt.mpr hend)

end

/-- The second simulator is the first with some overdue runs completed. -/
structure Ahead (now : Int) (s s' : Simulator) : Prop where
  pools : s'.pools = s.pools
  allocations : s'.allocations = s.allocations
  nextRunID : s'.nextRunID = s.nextRunID
  runs : ∀ id, Option.Rel (Late now) (s.runs.lookup id) (s'.runs.lookup id)

section
variable {now now' : Int} {s s' : Simulator}

theorem Ahead.refl (now : Int) (s : Simulator) : Ahead now s s := by
  refine ⟨rfl, rfl, rfl, fun id => ?_⟩
  cases s.runs.lookup id with
  | none => exact .none
  | some r => exact .some .same

theorem Ahead.mono (h : Ahead now s s') (hle : now ≤ now') : Ahead now' s s' := by
  refine ⟨h.pools, h.allocations, h.nextRunID, fun id => ?_⟩
  have hrel := h.runs id
  generalize s.runs.lookup id = found at hrel ⊢
  generalize s'.runs.lookup id = found' at hrel ⊢
  cases hrel with
  | none => exact .none
  | some hlate => exact .some (hlate.mono hle)

/-- Both have the same run IDs. -/
theorem Ahead.keys (h : Ahead now s s') : s'.runs.keys.Perm s.runs.keys := by
  refine (List.perm_ext_iff_of_nodup s'.runs.keys_nodup s.runs.keys_nodup).mpr (fun id => ?_)
  rw [← AList.mem_keys, ← AList.mem_keys, ← AList.lookup_isSome, ← AList.lookup_isSome]
  have hrel := h.runs id
  generalize s.runs.lookup id = found at hrel ⊢
  generalize s'.runs.lookup id = found' at hrel ⊢
  cases hrel with
  | none => exact Iff.rfl
  | some _ => exact Iff.rfl

/-- Records stored under one ID on both sides. -/
theorem Ahead.insert (h : Ahead now s s') {r r' : RunRecord} (hlate : Late now r r')
    (id : String) {n n' : Nat} (hn : n' = n) :
    Ahead now { s with runs := s.runs.insert id r, nextRunID := n }
      { s' with runs := s'.runs.insert id r', nextRunID := n' } := by
  refine ⟨h.pools, h.allocations, hn, fun id' => ?_⟩
  by_cases hid : id' = id
  · rw [hid, AList.lookup_insert, AList.lookup_insert]
    exact .some hlate
  · rw [AList.lookup_insert_ne hid, AList.lookup_insert_ne hid]
    exact h.runs id'

/-- A run of one side and its counterpart. -/
theorem Ahead.lookup (h : Ahead now s s') {id : String} {r' : RunRecord}
    (hr' : s'.runs.lookup id = some r') :
    ∃ r, s.runs.lookup id = some r ∧ Late now r r' := by
  have hrel := h.runs id
  rw [hr'] at hrel
  generalize s.runs.lookup id = found at hrel ⊢
  cases hrel with
  | some hlate => exact ⟨_, rfl, hlate⟩

/-- A query of the second simulator only. -/
theorem Ahead.query (h : Ahead now s s') (hle : now ≤ now') {id : String} {r' : RunRecord}
    (hr' : s'.runs.lookup id = some r') :
    Ahead now' s { s' with runs := s'.runs.insert id (r'.refresh now') } := by
  obtain ⟨r, hr, hlate⟩ := h.lookup hr'
  refine ⟨h.pools, h.allocations, h.nextRunID, fun id' => ?_⟩
  by_cases hid : id' = id
  · rw [hid, AList.lookup_insert, hr]
    exact .some (hlate.refresh hle)
  · rw [AList.lookup_insert_ne hid]
    exact (h.mono hle).runs id'

/-- Without overdue runs of a workload both scans see the same of it. -/
theorem Ahead.filter_eq (h : Ahead now s s') (hle : now ≤ now') {workloadID : String}
    (hdue : NoneOverdue s now' workloadID) (id : String) :
    (s'.runs.lookup id).filter (fun r => r.workloadID = workloadID ∧ r.status = .running)
      = (s.runs.lookup id).filter (fun r => r.workloadID = workloadID ∧ r.status = .running) := by
  have hdue' := hdue id
  have hrel := h.runs id
  generalize s.runs.lookup id = found at hrel hdue' ⊢
  generalize s'.runs.lookup id = found' at hrel ⊢
  cases hrel with
  | none => rfl
  | @some r r' hlate =>
      by_cases hw : r.workloadID = workloadID
      · rw [(hlate.mono hle).eq_of_notDue (hdue' r rfl hw)]
      · rw [Option.filter_some_neg (by rw [hlate.workloadID]; simp [hw]),
          Option.filter_some_neg (by simp [hw])]

end

/-! ## What each call does -/

/-- Two outcomes: the same error, or related results. -/
inductive Alike {α : Type} (R : α → α → Prop) : Except SimError α → Except SimError α → Prop where
  | error (e : SimError) : Alike R (.error e) (.error e)
  | ok {a a' : α} : R a a' → Alike R (.ok a) (.ok a')

/-- The same value, and a simulator that is ahead. -/
def SameAhead {α : Type} (now : Int) (p p' : α × Simulator) : Prop :=
  p.1 = p'.1 ∧ Ahead now p.2 p'.2

section
variable {now : Int} {s s' : Simulator}

theorem Alike.answer_eq {α : Type} {r r' : Except SimError (α × Simulator)}
    (h : Alike (SameAhead now) r r') : r.map Prod.fst = r'.map Prod.fst := by
  cases h with
  | error e => rfl
  | ok hsame => exact congrArg Except.ok hsame.1

theorem Alike.after {α : Type} {r r' : Except SimError (α × Simulator)}
    (h : Alike (SameAhead now) r r') (hs : Ahead now s s') :
    Ahead now (after s r) (after s' r') := by
  cases h with
  | error e => exact hs
  | ok hsame => exact hsame.2

theorem Alike.answerUnit_eq {r r' : Except SimError Simulator} (h : Alike (Ahead now) r r') :
    r.map (fun _ => ()) = r'.map (fun _ => ()) := by
  cases h with
  | error e => rfl
  | ok _ => rfl

theorem Alike.afterUnit {r r' : Except SimError Simulator} (h : Alike (Ahead now) r r')
    (hs : Ahead now s s') : Ahead now (afterUnit s r) (afterUnit s' r') := by
  cases h with
  | error e => exact hs
  | ok hahead => exact hahead

end

/-- Allocation does not look at the runs. -/
theorem allocateWithOptions_runs (s : Simulator) (runs : GoMap String RunRecord)
    (order : List String) (workloadID : String) (gpuCount memMiB : Int)
    (opts : AllocationOptions) :
    allocateWithOptions { s with runs := runs } order workloadID gpuCount memMiB opts
      = (allocateWithOptions s order workloadID gpuCount memMiB opts).map
        (fun p => (p.1, { p.2 with runs := runs })) := by
  rw [allocateWithOptions, allocateWithOptions]
  simp only
  split_ifs
  · rfl
  · rfl
  · rfl
  · rfl
  · rfl
  · rfl
  · have hnodes : allNodes { s with runs := runs } order = allNodes s order := rfl
    have hused : allocatedIDs { s with runs := runs } = allocatedIDs s := rfl
    rw [hnodes, hused]
    cases pickDevices (computeEligibleDevicesPerNode (allNodes s order) (allocatedIDs s) memMiB
        opts.preferredDeviceType opts.preferredProfile) gpuCount.toNat opts.policy
        opts.requireSameNode opts.maxNodes.toNat with
    | error e => rfl
    | ok deviceIDs =>
        simp only
        split_ifs
        · rfl
        · rfl

section
variable {now now' : Int} {s s' : Simulator}

theorem Ahead.allocate (h : Ahead now s s') (order : List String) (workloadID : String)
    (gpuCount memMiB : Int) (opts : AllocationOptions) :
    Alike (SameAhead now) (allocateWithOptions s order workloadID gpuCount memMiB opts)
      (allocateWithOptions s' order workloadID gpuCount memMiB opts) := by
  -- the two simulators differ in the runs alone
  have hs' : s' = { s with runs := s'.runs } := by
    rw [← h.pools, ← h.allocations, ← h.nextRunID]
  have hruns := allocateWithOptions_runs s s'.runs order workloadID gpuCount memMiB opts
  rw [← hs'] at hruns
  rw [hruns]
  cases hok : allocateWithOptions s order workloadID gpuCount memMiB opts with
  | error e => exact .error e
  | ok p =>
      obtain ⟨a, t⟩ := p
      obtain ⟨-, -, -, -, -, rfl⟩ := allocateWithOptions_ok hok
      exact .ok ⟨rfl, rfl, rfl, rfl, h.runs⟩

theorem Ahead.start (h : Ahead now s s') (hle : now ≤ now') (est : Estimator)
    (order : List String) {input : RuntimeInput}
    (hdue : NoneOverdue s now' input.workloadID) :
    Alike (SameAhead now) (startWithRuntimeInput est s order now' input)
      (startWithRuntimeInput est s' order now' input) := by
  rw [← workloadID_applyDefaults] at hdue
  -- the only place where a start looks at the recorded statuses
  have hfind : findRunning s' order (applyDefaults (defaultKind input)).workloadID
      = findRunning s order (applyDefaults (defaultKind input)).workloadID := by
    rw [findRunning, findRunning]
    exact congrArg (fun f => order.findSome? f) (funext (h.filter_eq hle hdue))
  have hnext : nextID s' = nextID s := by rw [nextID, nextID, h.nextRunID]
  have hplan : startedRun est
        (s'.allocations.lookup (applyDefaults (defaultKind input)).workloadID)
        (findRunning s' order (applyDefaults (defaultKind input)).workloadID) (nextID s') now'
        input
      = startedRun est (s.allocations.lookup (applyDefaults (defaultKind input)).workloadID)
        (findRunning s order (applyDefaults (defaultKind input)).workloadID) (nextID s) now'
        input := by
    rw [hfind, hnext, h.allocations]
  rw [startWithRuntimeInput_eq, startWithRuntimeInput_eq, hplan, hnext]
  cases startedRun est (s.allocations.lookup (applyDefaults (defaultKind input)).workloadID)
      (findRunning s order (applyDefaults (defaultKind input)).workloadID) (nextID s) now'
      input with
  | error e => exact .error e
  | ok r => exact .ok ⟨rfl, h.insert .same _ (congrArg (· + 1) h.nextRunID)⟩

theorem Ahead.getStatus (h : Ahead now s s') (hle : now ≤ now') (runID : String) :
    Alike (SameAhead now') (getStatus s now' runID) (getStatus s' now' runID) := by
  rw [GpuSimulator.getStatus, GpuSimulator.getStatus]
  split_ifs
  · exact .error _
  · have hrel := h.runs runID
    generalize s.runs.lookup runID = found at hrel ⊢
    generalize s'.runs.lookup runID = found' at hrel ⊢
    cases hrel with
    | none => exact .error _
    | @some r r' hlate =>
        simp only
        -- once read, a late record and its completed copy are the same
        rw [hlate.refresh_eq hle]
        exact .ok ⟨rfl, (h.mono hle).insert .same runID h.nextRunID⟩

/-- The two loops for the latest run go along. -/
theorem Ahead.latestRun (h : Ahead now s s') (workloadID : String) (order : List String)
    {l l' : Option (String × RunRecord)}
    (hl : Option.Rel (fun p p' => p.1 = p'.1 ∧ Late now p.2 p'.2) l l') :
    Option.Rel (fun p p' => p.1 = p'.1 ∧ Late now p.2 p'.2)
      (latestRun s workloadID order l) (latestRun s' workloadID order l') := by
  induction order generalizing l l' with
  | nil => exact hl
  | cons id order ih =>
      rw [GpuSimulator.latestRun, GpuSimulator.latestRun]
      have hrel := h.runs id
      generalize s.runs.lookup id = found at hrel ⊢
      generalize s'.runs.lookup id = found' at hrel ⊢
      cases hrel with
      | none => exact ih hl
      | @some r r' hlate =>
          simp only [hlate.workloadID]
          by_cases hw : r.workloadID ≠ workloadID
          · rw [if_pos hw, if_pos hw]
            exact ih hl
          · rw [if_neg hw, if_neg hw]
            cases hl with
            | none => exact ih (.some ⟨rfl, hlate⟩)
            | @some p p' hp =>
                simp only [hlate.startedAt, hp.2.startedAt]
                by_cases hlt : p.2.startedAt < r.startedAt
                · rw [if_pos hlt, if_pos hlt]
                  exact ih (.some ⟨rfl, hlate⟩)
                · rw [if_neg hlt, if_neg hlt]
                  exact ih (.some hp)

theorem Ahead.getLatest (h : Ahead now s s') (hle : now ≤ now') (order : List String)
    (workloadID : String) :
    Alike (SameAhead now') (getLatestRunStatusForWorkload s order now' workloadID)
      (getLatestRunStatusForWorkload s' order now' workloadID) := by
  rw [getLatestRunStatusForWorkload, getLatestRunStatusForWorkload]
  split_ifs
  · exact .error _
  · have hrel := h.latestRun workloadID order .none
    generalize GpuSimulator.latestRun s workloadID order none = found at hrel ⊢
    generalize GpuSimulator.latestRun s' workloadID order none = found' at hrel ⊢
    cases hrel with
    | none => exact .error _
    | @some p p' hp =>
        obtain ⟨id, r⟩ := p
        obtain ⟨id', r'⟩ := p'
        obtain ⟨hid, hlate⟩ := hp
        simp only at hid hlate ⊢
        rw [hlate.refresh_eq hle, ← hid]
        exact .ok ⟨rfl, (h.mono hle).insert .same id h.nextRunID⟩

theorem Ahead.preempt (h : Ahead now s s') (hle : now ≤ now') (order : List String)
    {workloadID : String} (hdue : NoneOverdue s now' workloadID) :
    Alike (Ahead now) (preempt s order workloadID) (preempt s' order workloadID) := by
  have htarget : preemptTarget s' order workloadID = preemptTarget s order workloadID := by
    rw [preemptTarget, preemptTarget]
    refine congrArg (fun f => order.findSome? f) (funext (fun id => ?_))
    rw [h.filter_eq hle hdue]
  rw [preempt_eq, preempt_eq, htarget]
  split_ifs
  · exact .error _
  · cases preemptTarget s order workloadID with
    | none => exact .ok h
    | some p =>
        obtain ⟨id, r⟩ := p
        exact .ok (h.insert .same id h.nextRunID)

theorem Ahead.registerFleet (h : Ahead now s s') (poolKey : String) (spec : GPUNodePoolSpec) :
    Alike (Ahead now) (registerFleet s poolKey spec) (registerFleet s' poolKey spec) := by
  rw [GpuSimulator.registerFleet, GpuSimulator.registerFleet]
  cases buildNodesWithPoolKey spec (if poolKey = "" then defaultPoolKey else poolKey) with
  | error e => exact .error _
  | ok nodes => exact .ok ⟨by rw [h.pools], h.allocations, h.nextRunID, h.runs⟩

theorem Ahead.release (h : Ahead now s s') (workloadID : String) :
    Alike (Ahead now) (release s workloadID) (release s' workloadID) := by
  rw [GpuSimulator.release, GpuSimulator.release]
  split_ifs
  · exact .error _
  · exact .ok ⟨h.pools, by rw [h.allocations], h.nextRunID, h.runs⟩

theorem Ahead.deleteFleet (h : Ahead now s s') (poolKey : String) :
    Ahead now (deleteFleet s poolKey) (deleteFleet s' poolKey) := by
  rw [GpuSimulator.deleteFleet, GpuSimulator.deleteFleet]
  split_ifs
  · exact h
  · exact ⟨by rw [h.pools], h.allocations, h.nextRunID, h.runs⟩

/-- **ONE CALL ON BOTH SIDES**: the same answer, and the second side stays ahead. -/
theorem Ahead.step (h : Ahead now s s') {est : Estimator} {a : Timed} (hle : now ≤ a.now)
    (hreading : (reading a.op).getD a.now = a.now) {c : Int}
    (hsettled : Settled ⟨c, s⟩ a) {t t' : Simulator} (hst : step est s a.op = some t)
    (hst' : step est s' a.op = some t') :
    answer est s a.op = answer est s' a.op ∧ Ahead a.now t t' := by
  obtain ⟨now', op⟩ := a
  cases op with
  | registerFleet poolKey spec =>
      have halike := h.registerFleet poolKey spec
      rw [← Option.some.inj hst, ← Option.some.inj hst']
      exact ⟨congrArg Answer.done halike.answerUnit_eq, (halike.afterUnit h).mono hle⟩
  | deleteFleet poolKey =>
      rw [← Option.some.inj hst, ← Option.some.inj hst']
      exact ⟨rfl, (h.deleteFleet poolKey).mono hle⟩
  | allocateWithOptions order workloadID gpuCount memMiB opts =>
      have halike := h.allocate order workloadID gpuCount memMiB opts
      simp only [GpuSimulator.step] at hst hst'
      split_ifs at hst
      split_ifs at hst'
      rw [← Option.some.inj hst, ← Option.some.inj hst']
      exact ⟨congrArg Answer.allocation halike.answer_eq, (halike.after h).mono hle⟩
  | startWithRuntimeInput order clock input =>
      obtain rfl : clock = now' := hreading
      have halike := h.start hle est order (hsettled _ rfl)
      simp only [GpuSimulator.step] at hst hst'
      split_ifs at hst
      split_ifs at hst'
      rw [← Option.some.inj hst, ← Option.some.inj hst']
      exact ⟨congrArg Answer.run halike.answer_eq, (halike.after h).mono hle⟩
  | getStatus clock runID =>
      obtain rfl : clock = now' := hreading
      have halike := h.getStatus hle runID
      rw [← Option.some.inj hst, ← Option.some.inj hst']
      exact ⟨congrArg Answer.status halike.answer_eq, halike.after (h.mono hle)⟩
  | getLatestRunStatusForWorkload order clock workloadID =>
      obtain rfl : clock = now' := hreading
      have halike := h.getLatest hle order workloadID
      simp only [GpuSimulator.step] at hst hst'
      split_ifs at hst
      split_ifs at hst'
      rw [← Option.some.inj hst, ← Option.some.inj hst']
      exact ⟨congrArg Answer.status halike.answer_eq, halike.after (h.mono hle)⟩
  | preempt order workloadID =>
      have halike := h.preempt hle order (hsettled _ rfl)
      simp only [GpuSimulator.step] at hst hst'
      split_ifs at hst
      split_ifs at hst'
      rw [← Option.some.inj hst, ← Option.some.inj hst']
      exact ⟨congrArg Answer.done halike.answerUnit_eq, (halike.afterUnit h).mono hle⟩
  | release workloadID =>
      have halike := h.release workloadID
      rw [← Option.some.inj hst, ← Option.some.inj hst']
      exact ⟨congrArg Answer.done halike.answerUnit_eq, (halike.afterUnit h).mono hle⟩

/-- **AN EXTRA QUERY**: the second side gets ahead, or stays so. -/
theorem Ahead.extra (h : Ahead now s s') {est : Estimator} {a : Timed} (hle : now ≤ a.now)
    (hreading : (reading a.op).getD a.now = a.now) (hquery : isQuery a.op = true)
    {t' : Simulator} (hst' : GpuSimulator.step est s' a.op = some t') : Ahead a.now s t' := by
  obtain ⟨now', op⟩ := a
  have hsame := h.mono hle
  cases op with
  | getStatus clock runID =>
      obtain rfl : clock = now' := hreading
      rw [← Option.some.inj hst']
      cases hok : GpuSimulator.getStatus s' clock runID with
      | error e => exact hsame
      | ok p =>
          obtain ⟨r', hr', ht'⟩ := getStatus_ok hok
          rw [GpuSimulator.after, ht']
          exact h.query hle hr'
  | getLatestRunStatusForWorkload order clock workloadID =>
      obtain rfl : clock = now' := hreading
      simp only [GpuSimulator.step] at hst'
      split_ifs at hst'
      rw [← Option.some.inj hst']
      cases hok : getLatestRunStatusForWorkload s' order clock workloadID with
      | error e => exact hsame
      | ok p =>
          obtain ⟨id, r', -, hr', -, ht'⟩ := getLatestRunStatusForWorkload_ok hok
          rw [GpuSimulator.after, ht']
          exact h.query hle hr'
  | registerFleet => cases hquery
  | deleteFleet => cases hquery
  | allocateWithOptions => cases hquery
  | startWithRuntimeInput => cases hquery
  | preempt => cases hquery
  | release => cases hquery

end

/-! ## Whole histories -/

theorem timedStep_eq_some {est : Estimator} {s t : Clocked} {a : Timed}
    (h : timedStep est s a = some t) :
    s.clock ≤ a.now ∧ (reading a.op).getD a.now = a.now ∧ t.clock = a.now
      ∧ step est s.sim a.op = some t.sim := by
  rw [timedStep] at h
  split_ifs at h with hcond
  obtain ⟨t', ht', rfl⟩ := Option.map_eq_some_iff.mp h
  exact ⟨hcond.1, hcond.2, rfl, ht'⟩

/-- The history without the extra queries answers like the one with them, when the second
    starts ahead. -/
theorem answers_of_ahead {est : Estimator} {history : List Entry} {s s' u : Clocked}
    (hquery : ∀ e ∈ history, e.extra = true → isQuery e.call.op = true)
    (hahead : Ahead s'.clock s.sim s'.sim)
    (hruns : Runs (timedStep est) Settled s (calls (plain history)) u) {out : List Answer}
    (hout : answers est s' history = some out) :
    answers est s (plain history) = some out := by
  induction history generalizing s s' out with
  | nil => exact hout
  | cons e rest ih =>
      have hrest : ∀ e ∈ rest, e.extra = true → isQuery e.call.op = true :=
        fun e he => hquery e (List.mem_cons_of_mem _ he)
      rw [answers] at hout
      split at hout
      · cases hout
      · rename_i t' ht'
        obtain ⟨hle, hreading, hclock, hst'⟩ := timedStep_eq_some ht'
        obtain ⟨later, hlater, rfl⟩ := Option.map_eq_some_iff.mp hout
        cases hextra : e.extra with
        | true =>
            have hplain : plain (e :: rest) = plain rest :=
              List.filter_cons_of_neg (by simp [hextra])
            rw [hplain] at hruns ⊢
            -- only the history with the extra query moves
            have hnext := hahead.extra hle hreading
              (hquery e (List.mem_cons_self ..) hextra) hst'
            rw [← hclock] at hnext
            exact ih hrest hnext hruns hlater
        | false =>
            have hplain : plain (e :: rest) = e :: plain rest :=
              List.filter_cons_of_pos (by simp [hextra])
            rw [hplain] at hruns ⊢
            -- both histories move
            cases hruns with
            | cons hsettled hst hruns =>
                obtain ⟨-, -, -, hsim⟩ := timedStep_eq_some hst
                obtain ⟨hanswer, hnext⟩ := hahead.step hle hreading hsettled hsim hst'
                rw [← hclock] at hnext
                have hih := ih hrest hnext hruns hlater
                rw [answers, hst]
                simp only [hih, hextra, Option.map_some]
                rw [if_neg Bool.false_ne_true, if_neg Bool.false_ne_true, hanswer]

/-- **LAZY COMPLETION IS UNOBSERVABLE** in every history whose starts and preemptions meet
    no overdue run of their workload. -/
theorem lazy_completion_unobservable {est : Estimator} {s u : Clocked} {history : List Entry}
    (hquery : ∀ e ∈ history, e.extra = true → isQuery e.call.op = true)
    (hruns : Runs (timedStep est) Settled s (calls (plain history)) u) {out : List Answer}
    (hout : answers est s history = some out) :
    answers est s (plain history) = some out :=
  answers_of_ahead hquery (.refl _ _) hruns hout

/-- A run of ten seconds on the only device. -/
def shortRun : List Entry :=
  [⟨false, 0, .registerFleet "ns/a" ⟨1, 1, 80, "gpu", "h100_sxm"⟩⟩,
   ⟨false, 0, .allocateWithOptions ["ns/a"] "ns/w" 1 40 ⟨.firstFit, false, 0, "", ""⟩⟩,
   ⟨false, 100, .startWithRuntimeInput [] 100 ⟨"ns/w", 100, "h100_sxm", .training, none, none,
     none, none, none, none, none, none, none⟩⟩]

/-- It is preempted when it has been over for a while; the extra query would have noticed. -/
def preemptedLate : List Entry :=
  shortRun ++ [⟨true, 115, .getStatus 115 "run-1"⟩, ⟨false, 120, .preempt ["run-1"] "ns/w"⟩,
    ⟨false, 125, .getStatus 125 "run-1"⟩]

/-- A query in time, before the preemption that now finds nothing to do. -/
def preemptedSettled : List Entry :=
  shortRun ++ [⟨true, 105, .getStatus 105 "run-1"⟩,
    ⟨true, 112, .getLatestRunStatusForWorkload ["run-1"] 112 "ns/w"⟩,
    ⟨false, 115, .getStatus 115 "run-1"⟩, ⟨false, 120, .preempt ["run-1"] "ns/w"⟩,
    ⟨false, 125, .getStatus 125 "run-1"⟩]

/-- Both extra queries go unnoticed. -/
theorem preemptedSettled_unobservable :
    ∃ out, answers (fun _ _ _ => .ok 10) ⟨0, newSimulator⟩ preemptedSettled = some out
      ∧ answers (fun _ _ _ => .ok 10) ⟨0, newSimulator⟩ (plain preemptedSettled) = some out := by
  have hexec : (exec (guarded (timedStep (fun _ _ _ => .ok 10)) Settled) ⟨0, newSimulator⟩
      (calls (plain preemptedSettled))).isSome = true := by decide +kernel
  have hsome :
      (answers (fun _ _ _ => .ok 10) ⟨0, newSimulator⟩ preemptedSettled).isSome = true := by
    decide +kernel
  obtain ⟨u, hu⟩ := Option.isSome_iff_exists.mp hexec
  obtain ⟨out, hout⟩ := Option.isSome_iff_exists.mp hsome
  refine ⟨out, hout, lazy_completion_unobservable ?_ (Runs.of_exec_guarded hu) hout⟩
  decide +kernel

/-- The run that is over is preempted, unless someone asked for its status before. -/
theorem preemptedLate_observable :
    ¬ ∀ (est : Estimator) (history : List Entry) (out : List Answer),
      (∀ e ∈ history, e.extra = true → isQuery e.call.op = true) →
      answers est ⟨0, newSimulator⟩ history = some out →
      answers est ⟨0, newSimulator⟩ (plain history) = some out := by
  intro h
  have hsome : (answers (fun _ _ _ => .ok 10) ⟨0, newSimulator⟩ preemptedLate).isSome = true := by
    decide +kernel
  obtain ⟨out, hout⟩ := Option.isSome_iff_exists.mp hsome
  have hplain := h (fun _ _ _ => .ok 10) preemptedLate out (by decide +kernel) hout
  rw [← hout] at hplain
  revert hplain
  decide +kernel

end GpuLazyCompletion
