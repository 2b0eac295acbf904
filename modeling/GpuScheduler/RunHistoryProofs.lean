import GpuScheduler.SimulatorProofs

/-! # The runs of the simulator as a state machine

    `StartWithRuntimeInput`, `GetStatus`, `GetLatestRunStatusForWorkload` and `Preempt`
    are the four calls that touch the map of runs; three of them scan it in an order Go
    does not fix.  `runs_cases` says once what any call can do to that map.  From it, along
    every sequence of calls and whatever the clock reads:

    - a run stays under its ID, and only its status ever changes (`Moves`);
    - a run ID is given out once;
    - a workload has at most one running run (`OneRunning`), so the scan of `Preempt`
      finds the same run in every order. -/

namespace GpuRunHistory

open GoStrings GoMaps GpuSimulator StepRuns

/-! ## What a call can do to a run -/

/-- The reading of the clock that a call compares with the end of a run. -/
def readClock : Op → Option Int
  | .getStatus now _ => some now
  | .getLatestRunStatusForWorkload _ now _ => some now
  | _ => none

/-- What one call can do to a run: nothing, completion, or preemption. -/
inductive Moves (op : Op) (r : RunRecord) : RunRecord → Prop where
  | stays : Moves op r r
  | completes {now : Int} : readClock op = some now → r.status = .running → r.endsAt ≤ now →
      Moves op r { r with status := .succeeded }
  | preempted {order : List String} : op = .preempt order r.workloadID →
      r.status = .running → Moves op r { r with status := .preempted }

/-- The lazy completion on read is a move of the reading call. -/
theorem moves_refresh {op : Op} {now : Int} (hop : readClock op = some now) (r : RunRecord) :
    Moves op r (r.refresh now) := by
  rw [RunRecord.refresh]
  split_ifs with h
  · exact .completes hop h.1 h.2
  · exact .stays

/-- A run as it is later on: the same run, and the same status once it has ended. -/
structure Continues (r r' : RunRecord) : Prop where
  runID : r'.runID = r.runID
  workloadID : r'.workloadID = r.workloadID
  startedAt : r'.startedAt = r.startedAt
  endsAt : r'.endsAt = r.endsAt
  ended : r.status ≠ .running → r'.status = r.status

theorem Continues.refl (r : RunRecord) : Continues r r := ⟨rfl, rfl, rfl, rfl, fun _ => rfl⟩

theorem Continues.trans {r r' r'' : RunRecord} (h : Continues r r') (h' : Continues r' r'') :
    Continues r r'' := by
  refine ⟨h'.runID.trans h.runID, h'.workloadID.trans h.workloadID,
    h'.startedAt.trans h.startedAt, h'.endsAt.trans h.endsAt, fun hne => ?_⟩
  have hst := h.ended hne
  rw [h'.ended (by rw [hst]; exact hne), hst]

theorem Moves.continues {op : Op} {r r' : RunRecord} (h : Moves op r r') : Continues r r' := by
  cases h with
  | stays => exact .refl r
  | completes _ hrun _ => exact ⟨rfl, rfl, rfl, rfl, fun hne => absurd hrun hne⟩
  | preempted _ hrun => exact ⟨rfl, rfl, rfl, rfl, fun hne => absurd hrun hne⟩

/-! ## One lemma per call -/

/-- The ID of the next run. -/
def nextID (s : Simulator) : String := "run-" ++ fmtNat (s.nextRunID + 1)

theorem workloadID_applyDefaults (input : RuntimeInput) :
    (applyDefaults (defaultKind input)).workloadID = input.workloadID := by
  have hkind : (defaultKind input).workloadID = input.workloadID := by
    rw [defaultKind]
    split_ifs <;> rfl
  rw [← hkind, applyDefaults]
  split <;> rfl

/-- What `StartWithRuntimeInput` checks, and the run it makes: of the simulator it reads
    the workload's allocation, the running run and the number of the next one. -/
def startedRun (est : Estimator) (allocation : Option Allocation) (running : Option RunRecord)
    (runID : String) (now : Int) (input : RuntimeInput) : Except SimError RunRecord :=
  if input.workloadID = "" then .error .workloadIDRequired
  else if input.tokens ≤ 0 then .error (.tokensNotPositive input.tokens)
  else if input.profile = "" then .error .profileRequired
  else
    let input := defaultKind input
    if input.kind.supported = false then .error (.unsupportedKind input.kind)
    else
      let input := applyDefaults input
      match checkRuntime input with
      | some e => .error e
      | none =>
        match allocation with
        | none => .error (.noAllocation input.workloadID)
        | some allocation =>
          if allocation.deviceIDs = [] then .error (.allocationEmpty input.workloadID)
          else match running with
          | some r => .error (.alreadyRunning input.workloadID r.runID)
          | none =>
            match est now input allocation.deviceIDs.length with
            | .error e => .error e
            | .ok duration => .ok ⟨runID, input.workloadID, input.profile,
                input.tokens, input, now, now + duration, .running⟩

theorem startWithRuntimeInput_eq (est : Estimator) (s : Simulator) (order : List String)
    (now : Int) (input : RuntimeInput) :
    startWithRuntimeInput est s order now input
      = (startedRun est (s.allocations.lookup (applyDefaults (defaultKind input)).workloadID)
          (findRunning s order (applyDefaults (defaultKind input)).workloadID) (nextID s) now
          input).map
        (fun r => (nextID s, { s with
          runs := s.runs.insert (nextID s) r, nextRunID := s.nextRunID + 1 })) := by
  rw [startWithRuntimeInput, startedRun]
  simp only
  split_ifs
  · rfl
  · rfl
  · rfl
  · rfl
  · cases checkRuntime (applyDefaults (defaultKind input)) with
    | some e => rfl
    | none =>
        cases s.allocations.lookup (applyDefaults (defaultKind input)).workloadID with
        | none => rfl
        | some allocation =>
            simp only
            split_ifs
            · rfl
            · cases findRunning s order (applyDefaults (defaultKind input)).workloadID with
              | some r => rfl
              | none =>
                  simp only
                  cases est now (applyDefaults (defaultKind input)) allocation.deviceIDs.length with
                  | error e => rfl
                  | ok duration => rfl

/-- **WHEN A START SUCCEEDS**: every check passes, and the run is the one it says. -/
theorem startedRun_ok_iff {est : Estimator} {allocation : Option Allocation}
    {running : Option RunRecord} {runID : String} {now : Int} {input : RuntimeInput}
    {r : RunRecord} :
    startedRun est allocation running runID now input = .ok r
      ↔ input.workloadID ≠ "" ∧ 0 < input.tokens ∧ input.profile ≠ ""
        ∧ (defaultKind input).kind.supported = true
        ∧ checkRuntime (applyDefaults (defaultKind input)) = none ∧ running = none
        ∧ ∃ a duration, allocation = some a ∧ a.deviceIDs ≠ []
          ∧ est now (applyDefaults (defaultKind input)) a.deviceIDs.length = .ok duration
          ∧ r = ⟨runID, (applyDefaults (defaultKind input)).workloadID,
            (applyDefaults (defaultKind input)).profile,
            (applyDefaults (defaultKind input)).tokens, applyDefaults (defaultKind input), now,
            now + duration, .running⟩ := by
  constructor
  · intro h
    rw [startedRun] at h
    split_ifs at h with hid htokens hprofile
    simp only at h
    split_ifs at h with hkind
    split at h
    · cases h
    · rename_i hcheck
      split at h
      · cases h
      · rename_i a
        split_ifs at h with hdevices
        split at h
        · cases h
        · split at h
          · cases h
          · rename_i duration hduration
            exact ⟨hid, not_le.mp htokens, hprofile, Bool.not_eq_false _ ▸ hkind, hcheck, rfl, a,
              duration, rfl, hdevices, hduration, (Except.ok.inj h).symm⟩
  · rintro ⟨hid, htokens, hprofile, hkind, hcheck, rfl, a, duration, rfl, hdevices, hduration,
      rfl⟩
    rw [startedRun, if_neg hid, if_neg (not_le.mpr htokens), if_neg hprofile]
    simp only [hkind, hcheck, if_neg hdevices, hduration]
    rfl

theorem startedRun_ok {est : Estimator} {allocation : Option Allocation}
    {running : Option RunRecord} {runID : String} {now : Int} {input : RuntimeInput}
    {r : RunRecord} (h : startedRun est allocation running runID now input = .ok r) :
    allocation ≠ none ∧ running = none ∧ r.runID = runID
      ∧ r.workloadID = (applyDefaults (defaultKind input)).workloadID ∧ r.startedAt = now
      ∧ r.status = .running := by
  obtain ⟨-, -, -, -, -, hfree, a, duration, rfl, -, -, rfl⟩ := startedRun_ok_iff.mp h
  exact ⟨Option.some_ne_none _, hfree, rfl, rfl, rfl, rfl⟩

theorem startWithRuntimeInput_ok {est : Estimator} {s t : Simulator} {order : List String}
    {now : Int} {input : RuntimeInput} {id : String}
    (h : startWithRuntimeInput est s order now input = .ok (id, t)) :
    id = nextID s ∧ t.nextRunID = s.nextRunID + 1
      ∧ ∃ r, r.workloadID = input.workloadID ∧ findRunning s order r.workloadID = none
        ∧ r.runID = nextID s ∧ r.status = .running ∧ t.runs = s.runs.insert (nextID s) r := by
  rw [startWithRuntimeInput_eq] at h
  cases hr : startedRun est (s.allocations.lookup (applyDefaults (defaultKind input)).workloadID)
      (findRunning s order (applyDefaults (defaultKind input)).workloadID) (nextID s) now
      input with
  | error e =>
      rw [hr] at h
      cases h
  | ok r =>
      rw [hr] at h
      obtain ⟨rfl, rfl⟩ := Prod.mk.inj (Except.ok.inj h)
      obtain ⟨-, hfree, hid, hw, -, hrun⟩ := startedRun_ok hr
      exact ⟨rfl, rfl, r, hw.trans (workloadID_applyDefaults input), by rw [hw]; exact hfree, hid,
        hrun, rfl⟩

theorem getStatus_ok {s t : Simulator} {now : Int} {runID : String} {st : RunStatus}
    (h : getStatus s now runID = .ok (st, t)) :
    ∃ r, s.runs.lookup runID = some r
      ∧ t = { s with runs := s.runs.insert runID (r.refresh now) } := by
  rw [getStatus] at h
  split_ifs at h
  split at h
  · cases h
  · rename_i r hr
    exact ⟨r, hr, (congrArg Prod.snd (Except.ok.inj h)).symm⟩

/-- What the loop for the latest run goes on with after one key. -/
structure Later (s : Simulator) (workloadID id : String)
    (latest next : Option (String × RunRecord)) : Prop where
  origin : next = latest ∨ ∃ run, s.runs.lookup id = some run ∧ run.workloadID = workloadID
    ∧ next = some (id, run)
  kept : ∀ l, latest = some l → ∃ l', next = some l' ∧ l.2.startedAt ≤ l'.2.startedAt
  met : ∀ run, s.runs.lookup id = some run → run.workloadID = workloadID →
    ∃ l', next = some l' ∧ run.startedAt ≤ l'.2.startedAt

/-- One turn of the loop for the latest run. -/
theorem exists_later (s : Simulator) (workloadID id : String) (order : List String)
    (latest : Option (String × RunRecord)) :
    ∃ next, latestRun s workloadID (id :: order) latest = latestRun s workloadID order next
      ∧ Later s workloadID id latest next := by
  rw [latestRun]
  cases hrun : s.runs.lookup id with
  | none =>
      refine ⟨latest, rfl, Or.inl rfl, fun l hl => ⟨l, hl, le_rfl⟩, fun run hr => ?_⟩
      rw [hrun] at hr
      cases hr
  | some run =>
      simp only
      by_cases hw : run.workloadID ≠ workloadID
      · rw [if_pos hw]
        refine ⟨latest, rfl, Or.inl rfl, fun l hl => ⟨l, hl, le_rfl⟩, fun q hq hqw => ?_⟩
        rw [hrun] at hq
        rw [← Option.some.inj hq] at hqw
        exact absurd hqw hw
      · rw [if_neg hw]
        have hself : ∀ (next : Option (String × RunRecord)) l', next = some l' →
            run.startedAt ≤ l'.2.startedAt → ∀ q, s.runs.lookup id = some q →
            q.workloadID = workloadID →
              ∃ l', next = some l' ∧ q.startedAt ≤ l'.2.startedAt := by
          intro next l' hnext hle q hq _
          rw [hrun] at hq
          rw [← Option.some.inj hq]
          exact ⟨l', hnext, hle⟩
        have horigin : some (id, run) = latest ∨ ∃ q, s.runs.lookup id = some q
            ∧ q.workloadID = workloadID ∧ some (id, run) = some (id, q) :=
          Or.inr ⟨run, hrun, not_not.mp hw, rfl⟩
        cases latest with
        | none => exact ⟨some (id, run), rfl, horigin, fun l hl => (by cases hl),
            hself _ _ rfl le_rfl⟩
        | some l =>
            simp only
            by_cases hlt : l.2.startedAt < run.startedAt
            · rw [if_pos hlt]
              refine ⟨some (id, run), rfl, horigin, fun q hq => ?_, hself _ _ rfl le_rfl⟩
              rw [← Option.some.inj hq]
              exact ⟨_, rfl, le_of_lt hlt⟩
            · rw [if_neg hlt]
              exact ⟨some l, rfl, Or.inl rfl, fun q hq => ⟨q, hq, le_rfl⟩,
                hself _ _ rfl (not_lt.mp hlt)⟩

/-- The latest run is one of the runs, under its key. -/
theorem lookup_latestRun {s : Simulator} {workloadID : String} {order : List String}
    {latest : Option (String × RunRecord)}
    (hlatest : ∀ p, latest = some p → s.runs.lookup p.1 = some p.2)
    {p : String × RunRecord} (h : latestRun s workloadID order latest = some p) :
    s.runs.lookup p.1 = some p.2 := by
  induction order generalizing latest with
  | nil => exact hlatest p h
  | cons id order ih =>
      obtain ⟨next, hnext, hlater⟩ := exists_later s workloadID id order latest
      rw [hnext] at h
      refine ih (fun q hq => ?_) h
      rcases hlater.origin with rfl | ⟨run, hrun, -, rfl⟩
      · exact hlatest q hq
      · rw [← Option.some.inj hq]
        exact hrun

/-- The loop for the latest run ends at one that no other of the workload is later than. -/
theorem latestRun_max {s : Simulator} {workloadID : String} {order : List String}
    {latest : Option (String × RunRecord)} {p : String × RunRecord}
    (h : latestRun s workloadID order latest = some p)
    (hlatest : ∀ l, latest = some l → l.2.workloadID = workloadID) :
    p.2.workloadID = workloadID
      ∧ (∀ l, latest = some l → l.2.startedAt ≤ p.2.startedAt)
      ∧ ∀ id ∈ order, ∀ r, s.runs.lookup id = some r → r.workloadID = workloadID →
        r.startedAt ≤ p.2.startedAt := by
  induction order generalizing latest with
  | nil =>
      refine ⟨hlatest p h, fun l hl => ?_, fun id hid => by cases hid⟩
      have hpl : latest = some p := h
      rw [hpl] at hl
      rw [Option.some.inj hl]
  | cons id order ih =>
      obtain ⟨next, hnext, hlater⟩ := exists_later s workloadID id order latest
      rw [hnext] at h
      have hown : ∀ l, next = some l → l.2.workloadID = workloadID := by
        intro l hl
        rcases hlater.origin with rfl | ⟨run, -, hw, rfl⟩
        · exact hlatest l hl
        · rw [← Option.some.inj hl]
          exact hw
      obtain ⟨hw, hle, hrest⟩ := ih h hown
      refine ⟨hw, fun l hl => ?_, fun id' hid' r hr hrw => ?_⟩
      · obtain ⟨l', hl', hstart⟩ := hlater.kept l hl
        exact hstart.trans (hle l' hl')
      · rcases List.mem_cons.mp hid' with rfl | hid'
        · obtain ⟨l', hl', hstart⟩ := hlater.met r hr hrw
          exact hstart.trans (hle l' hl')
        · exact hrest id' hid' r hr hrw

theorem getLatestRunStatusForWorkload_ok {s t : Simulator} {order : List String} {now : Int}
    {workloadID : String} {st : RunStatus}
    (h : getLatestRunStatusForWorkload s order now workloadID = .ok (st, t)) :
    ∃ id r, latestRun s workloadID order none = some (id, r) ∧ s.runs.lookup id = some r
      ∧ st = (r.refresh now).status
      ∧ t = { s with runs := s.runs.insert id (r.refresh now) } := by
  rw [getLatestRunStatusForWorkload] at h
  split_ifs at h
  split at h
  · cases h
  · rename_i id r hr
    obtain ⟨rfl, rfl⟩ := Prod.mk.inj (Except.ok.inj h)
    exact ⟨id, r, hr, lookup_latestRun (by rintro p ⟨⟩) hr, rfl, rfl⟩

/-- The run of a workload that the scan of `Preempt` stops at, with its key. -/
def preemptTarget (s : Simulator) (order : List String) (workloadID : String) :
    Option (String × RunRecord) :=
  order.findSome? (fun id => ((s.runs.lookup id).filter (fun r =>
    r.workloadID = workloadID ∧ r.status = .running)).map (fun r => (id, r)))

/-- The marking of the run that was found. -/
def markPreempted (s : Simulator) : Option (String × RunRecord) → Simulator
  | none => s
  | some (id, run) => { s with runs := s.runs.insert id { run with status := .preempted } }

theorem preempt_eq (s : Simulator) (order : List String) (workloadID : String) :
    preempt s order workloadID = if workloadID = "" then .error .workloadIDRequired
      else .ok (markPreempted s (preemptTarget s order workloadID)) := by
  rw [preempt, ← preemptTarget]
  split_ifs
  · rfl
  · cases preemptTarget s order workloadID with
    | none => rfl
    | some p => rfl

theorem preemptTarget_some {s : Simulator} {order : List String} {workloadID : String}
    {p : String × RunRecord} (h : preemptTarget s order workloadID = some p) :
    s.runs.lookup p.1 = some p.2 ∧ p.2.workloadID = workloadID ∧ p.2.status = .running := by
  obtain ⟨id, -, hid⟩ := List.exists_of_findSome?_eq_some h
  obtain ⟨r, hr, hp⟩ := Option.map_eq_some_iff.mp hid
  obtain ⟨hl, hq⟩ := Option.filter_eq_some_iff.mp hr
  rw [← hp]
  exact ⟨hl, of_decide_eq_true hq⟩

/-- A scan that passes over a run of the workload has not seen it running. -/
private theorem ne_running_of_passed {s : Simulator} {order : List String}
    (horder : order.Perm s.runs.keys) {workloadID : String}
    (h : ∀ id ∈ order, (s.runs.lookup id).filter (fun r =>
      r.workloadID = workloadID ∧ r.status = .running) = none)
    {id : String} {r : RunRecord} (hr : s.runs.lookup id = some r)
    (hw : r.workloadID = workloadID) : r.status ≠ .running := by
  intro hrun
  have hmem : id ∈ order :=
    horder.mem_iff.mpr (AList.lookup_isSome.mp (by rw [hr]; rfl))
  have hnone := h id hmem
  rw [hr, Option.filter_some, if_pos (by rw [decide_eq_true_iff]; exact ⟨hw, hrun⟩)] at hnone
  cases hnone

/-- None of the workload's runs is recorded as running. -/
def Idle (s : Simulator) (workloadID : String) : Prop :=
  ∀ id r, s.runs.lookup id = some r → r.workloadID = workloadID → r.status ≠ .running

theorem preemptTarget_none {s : Simulator} {order : List String}
    (horder : order.Perm s.runs.keys) {workloadID : String}
    (h : preemptTarget s order workloadID = none) : Idle s workloadID := by
  intro _ _ hr hw
  refine ne_running_of_passed horder (fun id hid => ?_) hr hw
  exact Option.map_eq_none_iff.mp (List.findSome?_eq_none_iff.mp h id hid)

theorem findRunning_none {s : Simulator} {order : List String}
    (horder : order.Perm s.runs.keys) {workloadID : String}
    (h : findRunning s order workloadID = none) : Idle s workloadID :=
  fun _ _ => ne_running_of_passed horder (List.findSome?_eq_none_iff.mp h)

/-- A running run that was found is one of the runs. -/
theorem lookup_of_findRunning {s : Simulator} {order : List String} {workloadID : String}
    {r : RunRecord} (h : findRunning s order workloadID = some r) :
    ∃ id, s.runs.lookup id = some r ∧ r.workloadID = workloadID ∧ r.status = .running := by
  obtain ⟨id, -, hfound⟩ := List.exists_of_findSome?_eq_some h
  obtain ⟨hr, hmatch⟩ := Option.filter_eq_some_iff.mp hfound
  obtain ⟨hw, hrun⟩ := of_decide_eq_true hmatch
  exact ⟨id, hr, hw, hrun⟩

/-! ## One lemma for all calls -/

/-- What a call can do to the map of runs: nothing, a new run under the next ID for a
    workload without a running run, or a move of one run. -/
inductive RunsStep (s : Simulator) (op : Op) (t : Simulator) : Prop where
  | keep : t.runs = s.runs → t.nextRunID = s.nextRunID → RunsStep s op t
  | start {r : RunRecord} :
      (∀ id q, s.runs.lookup id = some q → q.workloadID = r.workloadID → q.status ≠ .running) →
      r.runID = nextID s → r.status = .running → t.runs = s.runs.insert (nextID s) r →
      t.nextRunID = s.nextRunID + 1 → RunsStep s op t
  | move {id : String} {r r' : RunRecord} : s.runs.lookup id = some r → Moves op r r' →
      t.runs = s.runs.insert id r' → t.nextRunID = s.nextRunID → RunsStep s op t

theorem runs_cases {est : Estimator} {s t : Simulator} {op : Op}
    (h : step est s op = some t) : RunsStep s op t := by
  rcases same_or_done h with rfl | hdone
  · exact .keep rfl rfl
  cases hdone with
  | registerFleet h =>
      rw [registerFleet] at h
      split at h
      · cases h
      · rw [← Except.ok.inj h]
        exact .keep rfl rfl
  | deleteFleet poolKey =>
      rw [deleteFleet]
      split_ifs
      · exact .keep rfl rfl
      · exact .keep rfl rfl
  | allocateWithOptions _ h =>
      obtain ⟨-, -, -, -, -, rfl⟩ := allocateWithOptions_ok h
      exact .keep rfl rfl
  | startWithRuntimeInput horder h =>
      obtain ⟨-, hnext, r, -, hfree, hid, hrun, hruns⟩ := startWithRuntimeInput_ok h
      exact .start (findRunning_none horder hfree) hid hrun hruns hnext
  | getStatus h =>
      obtain ⟨r, hr, rfl⟩ := getStatus_ok h
      exact .move hr (moves_refresh rfl r) rfl rfl
  | getLatestRunStatusForWorkload h =>
      obtain ⟨id, r, -, hr, -, rfl⟩ := getLatestRunStatusForWorkload_ok h
      exact .move hr (moves_refresh rfl r) rfl rfl
  | @preempt order workloadID t h =>
      rw [preempt_eq] at h
      split_ifs at h
      rw [← Except.ok.inj h]
      cases hp : preemptTarget s order workloadID with
      | none => exact .keep rfl rfl
      | some p =>
          obtain ⟨hl, hw, hrun⟩ := preemptTarget_some hp
          exact .move hl (.preempted (by rw [hw]) hrun) rfl rfl
  | release h =>
      rw [release_ok h]
      exact .keep rfl rfl

/-! ## The invariant -/

/-- Each workload has at most one running run. -/
def OneRunning (s : Simulator) : Prop :=
  ∀ id id' r r', s.runs.lookup id = some r → s.runs.lookup id' = some r' →
    r.workloadID = r'.workloadID → r.status = .running → r'.status = .running → id = id'

/-- What every reachable map of runs satisfies. -/
structure Logged (s : Simulator) : Prop where
  /-- A run is stored under its own ID, a number given out already. -/
  issued : ∀ id r, s.runs.lookup id = some r → r.runID = id
    ∧ ∃ n, n ≤ s.nextRunID ∧ id = "run-" ++ fmtNat n
  one : OneRunning s

theorem logged_newSimulator : Logged newSimulator where
  issued _ _ h := by cases h
  one _ _ _ _ h := by cases h

/-- The next ID is not in use. -/
theorem Logged.lookup_nextID {s : Simulator} (hs : Logged s) :
    s.runs.lookup (nextID s) = none := by
  rw [Option.eq_none_iff_forall_ne_some]
  intro r hr
  obtain ⟨-, n, hn, hid⟩ := hs.issued _ _ hr
  have hnat : s.nextRunID + 1 = n := by
    refine fmtNat_injective ?_
    rw [nextID, ← String.toList_inj, String.toList_append, String.toList_append,
      List.append_cancel_left_eq, String.toList_inj] at hid
    exact hid
  omega

/-- Inserting a run that is not running, or whose workload has no other running run,
    leaves at most one. -/
private theorem OneRunning.insert {s t : Simulator} (hs : OneRunning s) {key : String}
    {r : RunRecord} (hruns : t.runs = s.runs.insert key r)
    (h : r.status = .running → ∀ id q, s.runs.lookup id = some q →
      q.workloadID = r.workloadID → q.status = .running → id = key) : OneRunning t := by
  intro id id' q q' hq hq' hw hrun hrun'
  rw [hruns] at hq hq'
  rcases lookup_insert_eq_some.mp hq with ⟨rfl, rfl⟩ | ⟨-, hold⟩
  · rcases lookup_insert_eq_some.mp hq' with ⟨rfl, -⟩ | ⟨-, hold'⟩
    · rfl
    · exact (h hrun id' q' hold' hw.symm hrun').symm
  · rcases lookup_insert_eq_some.mp hq' with ⟨rfl, rfl⟩ | ⟨-, hold'⟩
    · exact h hrun' id q hold hw hrun
    · exact hs id id' q q' hold hold' hw hrun hrun'

/-- The log does not depend on the devices. -/
theorem Logged.of_runs_eq {s t : Simulator} (hs : Logged s) (hruns : t.runs = s.runs)
    (hnext : t.nextRunID = s.nextRunID) : Logged t := by
  refine ⟨fun id r hr => ?_, fun id id' r r' hr hr' => ?_⟩
  · rw [hnext]
    rw [hruns] at hr
    exact hs.issued id r hr
  · rw [hruns] at hr hr'
    exact hs.one id id' r r' hr hr'

/-- Every call keeps the invariant. -/
theorem Logged.step {est : Estimator} {s t : Simulator} {op : Op} (hs : Logged s)
    (h : step est s op = some t) : Logged t := by
  cases runs_cases h with
  | keep hruns hnext => exact hs.of_runs_eq hruns hnext
  | @start r hfree hid hrun hruns hnext =>
      refine ⟨fun id q hq => ?_, ?_⟩
      · rw [hnext]
        rw [hruns] at hq
        rcases lookup_insert_eq_some.mp hq with ⟨rfl, rfl⟩ | ⟨-, hq⟩
        · exact ⟨hid, s.nextRunID + 1, le_rfl, rfl⟩
        · obtain ⟨hown, n, hn, hfmt⟩ := hs.issued id q hq
          exact ⟨hown, n, Nat.le_succ_of_le hn, hfmt⟩
      · exact hs.one.insert hruns (fun _ id q hq hw hq' => absurd hq' (hfree id q hq hw))
  | @move key r r' hl hmove hruns hnext =>
      have hcont := hmove.continues
      refine ⟨fun id q hq => ?_, ?_⟩
      · rw [hnext]
        rw [hruns] at hq
        rcases lookup_insert_eq_some.mp hq with ⟨rfl, rfl⟩ | ⟨-, hq⟩
        · rw [hcont.runID]
          exact hs.issued id r hl
        · exact hs.issued id q hq
      · refine hs.one.insert hruns (fun hrun' id q hq hw hrun => ?_)
        -- a run that is running after a move was running before it
        have hrun0 : r.status = .running := by
          by_contra hne
          rw [hcont.ended hne] at hrun'
          exact hne hrun'
        exact hs.one id key q r hq hl (hw.trans hcont.workloadID) hrun hrun0

theorem logged_of_runs {est : Estimator} {ops : List Op} {s : Simulator}
    (h : Runs (step est) Always newSimulator ops s) : Logged s :=
  h.invariant (fun _ _ _ hs _ hst => hs.step hst) logged_newSimulator

/-! ## Runs over time -/

/-- One call keeps every run and moves it at most as `Moves` says. -/
theorem Logged.moves {est : Estimator} {s t : Simulator} {op : Op} (hs : Logged s)
    (h : GpuSimulator.step est s op = some t) {id : String} {r : RunRecord}
    (hr : s.runs.lookup id = some r) :
    ∃ r', t.runs.lookup id = some r' ∧ Moves op r r' := by
  cases runs_cases h with
  | keep hruns _ => exact ⟨r, by rw [hruns]; exact hr, .stays⟩
  | start _ _ _ hruns _ =>
      refine ⟨r, ?_, .stays⟩
      have hne : id ≠ nextID s := by
        intro heq
        rw [heq, hs.lookup_nextID] at hr
        cases hr
      rw [hruns, AList.lookup_insert_ne hne]
      exact hr
  | @move key q q' hl hmove hruns _ =>
      rw [hruns]
      by_cases heq : id = key
      · rw [heq, hl] at hr
        obtain rfl := Option.some.inj hr
        exact ⟨q', by rw [heq, AList.lookup_insert], hmove⟩
      · exact ⟨r, by rw [AList.lookup_insert_ne heq]; exact hr, .stays⟩

/-- A run of a reachable state is there in every later state, as the same run. -/
theorem Logged.continues {est : Estimator} {s t : Simulator} {ops : List Op} (hs : Logged s)
    (h : Runs (GpuSimulator.step est) Always s ops t) {id : String} {r : RunRecord}
    (hr : s.runs.lookup id = some r) :
    ∃ r', t.runs.lookup id = some r' ∧ Continues r r' := by
  induction h generalizing r with
  | nil s => exact ⟨r, hr, .refl r⟩
  | cons _ hst _ ih =>
      obtain ⟨q, hq, hmove⟩ := hs.moves hst hr
      obtain ⟨r', hr', hcont⟩ := ih (hs.step hst) hq
      exact ⟨r', hr', hmove.continues.trans hcont⟩

/-- The scan of `Preempt` ends at the same run in every order. -/
theorem Logged.preemptTarget_perm {s : Simulator} (hs : Logged s) {order order' : List String}
    (horder : order.Perm s.runs.keys) (horder' : order'.Perm s.runs.keys)
    (workloadID : String) :
    preemptTarget s order workloadID = preemptTarget s order' workloadID := by
  cases h : preemptTarget s order workloadID with
  | none =>
      cases h' : preemptTarget s order' workloadID with
      | none => rfl
      | some q =>
          obtain ⟨hl, hw, hrun⟩ := preemptTarget_some h'
          exact absurd hrun (preemptTarget_none horder h _ _ hl hw)
  | some p =>
      obtain ⟨hl, hw, hrun⟩ := preemptTarget_some h
      cases h' : preemptTarget s order' workloadID with
      | none => exact absurd hrun (preemptTarget_none horder' h' _ _ hl hw)
      | some q =>
          obtain ⟨hl', hw', hrun'⟩ := preemptTarget_some h'
          have hid : p.1 = q.1 := hs.one p.1 q.1 p.2 q.2 hl hl' (hw.trans hw'.symm) hrun hrun'
          have hrec : p.2 = q.2 := by
            rw [← hid, hl] at hl'
            exact Option.some.inj hl'
          rw [Prod.ext hid hrec]

/-- The laws of the runs, at one reachable state. -/
structure RunLaws (est : Estimator) (s : Simulator) : Prop where
  /-- One call keeps every run under its ID; it changes at most the status, from running
      to succeeded once the clock has reached the end, or to preempted. -/
  moves : ∀ op t, step est s op = some t → ∀ id r, s.runs.lookup id = some r →
    ∃ r', t.runs.lookup id = some r' ∧ Moves op r r'
  /-- Any number of calls keep it as the same run, and keep the status it ended with. -/
  continues : ∀ ops t, Runs (step est) Always s ops t → ∀ id r, s.runs.lookup id = some r →
    ∃ r', t.runs.lookup id = some r' ∧ Continues r r'
  /-- A run that starts gets an ID that no run, of any time, has had. -/
  fresh : ∀ order now input id t, startWithRuntimeInput est s order now input = .ok (id, t) →
    s.runs.lookup id = none ∧ (∃ r, t.runs.lookup id = some r ∧ r.runID = id)
  /-- A workload has at most one running run. -/
  one : OneRunning s
  /-- `Preempt` does the same in every order of the map. -/
  preempt : ∀ order order' workloadID, order.Perm s.runs.keys → order'.Perm s.runs.keys →
    GpuSimulator.preempt s order workloadID = GpuSimulator.preempt s order' workloadID

/-- **THE RUN STATE MACHINE** holds in every state that calls can reach from a new
    simulator, for every duration estimate, every map order and every clock. -/
theorem runLaws_of_runs (est : Estimator) {ops : List Op} {s : Simulator}
    (h : Runs (step est) Always newSimulator ops s) : RunLaws est s := by
  have hs := logged_of_runs h
  refine ⟨fun op t hst id r hr => hs.moves hst hr, fun ops t hruns id r hr =>
    hs.continues hruns hr, fun order now input id t hok => ?_, hs.one, ?_⟩
  · obtain ⟨hid, -, r, -, -, hrid, -, hruns⟩ := startWithRuntimeInput_ok hok
    rw [hid]
    refine ⟨hs.lookup_nextID, r, ?_, hrid⟩
    rw [hruns, AList.lookup_insert]
  · intro order order' workloadID horder horder'
    rw [preempt_eq, preempt_eq, hs.preemptTarget_perm horder horder' workloadID]

/-- A training run of the workload `ns/w`. -/
private def trainingInput : RuntimeInput :=
  ⟨"ns/w", 100, "h100_sxm", .training, none, none, none, none, none, none, none, none, none⟩

/-- A workload that completes one run, starts another and is preempted in it, its
    allocation released and made again in between. -/
def twiceStarted : List Op :=
  [.registerFleet "ns/a" ⟨1, 1, 80, "gpu", "h100_sxm"⟩,
   .allocateWithOptions ["ns/a"] "ns/w" 1 40 ⟨.firstFit, false, 0, "", ""⟩,
   .startWithRuntimeInput [] 100 trainingInput,
   .getStatus 105 "run-1",
   .getLatestRunStatusForWorkload ["run-1"] 110 "ns/w",
   .release "ns/w",
   .allocateWithOptions ["ns/a"] "ns/w" 1 40 ⟨.firstFit, false, 0, "", ""⟩,
   .startWithRuntimeInput ["run-1"] 120 trainingInput,
   .preempt ["run-1", "run-2"] "ns/w"]

/-- The two runs end each in its own way, and the laws hold there. -/
theorem runLaws_twiceStarted :
    ∃ s, exec (step (fun _ _ _ => .ok 10)) newSimulator twiceStarted = some s
      ∧ (s.runs.lookup "run-1").map RunRecord.status = some .succeeded
      ∧ (s.runs.lookup "run-2").map RunRecord.status = some .preempted
      ∧ RunLaws (fun _ _ _ => .ok 10) s := by
  have hexec : (exec (step (fun _ _ _ => .ok 10)) newSimulator twiceStarted).map (fun s =>
      ((s.runs.lookup "run-1").map RunRecord.status,
        (s.runs.lookup "run-2").map RunRecord.status))
      = some (some .succeeded, some .preempted) := by decide +kernel
  obtain ⟨s, hs, hst⟩ := Option.map_eq_some_iff.mp hexec
  exact ⟨s, hs, congrArg Prod.fst hst, congrArg Prod.snd hst,
    runLaws_of_runs _ (Runs.of_exec hs)⟩

end GpuRunHistory
