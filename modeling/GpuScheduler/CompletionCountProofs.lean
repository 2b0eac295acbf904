import GpuScheduler.LiveRunProofs
import GpuScheduler.LifecycleProofs

/-! # Counting completions

    A completion is counted at two places.  The terminal branch of `Reconcile` counts an
    object that is `Succeeded` and has no marker, and then sets the marker; a worker's
    completions are counted there.  In in-process mode `pollRunningStatus` counts when it
    writes `Succeeded`, and sets the marker on its copy before the write.

    A status update persists the status only and gives the caller the server's copy back, so
    the marker of the poll is never stored and the next reconcile counts again
    (`polled_counted_again`).  The terminal branch counts before its marker is stored, and an
    update that fails is not repeated before the next count.  `counted_once` says what is left:
    completions that only the terminal branch sees, with every marker stored, and completions
    that only a poll sees, because the object is deleted before it is read again. -/

namespace GpuCompletionCount

open GoStrings GoMaps GpuInputs GpuWorkload GpuSimulator StepRuns
open GpuInProcess (annotationCompletionCounted withCompletionCounted isTerminalPhase)
open GpuLiveRun (targetPhase)
open GpuLifecycle (withStatus)

/-! ## The object and its versions -/

/-- The object: the resource, and whether it has the reconciler's finalizer. -/
structure Resource where
  workload : GPUWorkload
  finalizer : Bool

/-- The versions of the object, the stored one first, and `WorkloadCompletionsCounter`; and,
    for the statements only, whether a poll has counted. -/
structure Store where
  versions : List Resource
  counter : Nat
  polled : Bool

/-- A created object. -/
def start (o : Resource) : Store := ⟨[o], 0, false⟩

/-- Store another version. -/
def Store.put (s : Store) (o : Resource) : Store := { s with versions := o :: s.versions }

/-- `Update` of a copy: the metadata are persisted, not the status.  It fails on a conflict,
    and when the copy is not `current`. -/
def Store.update (s : Store) (current : Bool) (o : Resource) : Option Store :=
  match s.versions with
  | [] => none
  | server :: _ =>
    if current then
      some (s.put ⟨{ server.workload with annotations := o.workload.annotations }, o.finalizer⟩)
    else none

/-- `Status().Update` of a copy: the status is persisted, and nothing else. -/
def Store.updateStatus (s : Store) (current : Bool) (o : Resource) : Option Store :=
  match s.versions with
  | [] => none
  | server :: _ =>
    if current then some (s.put { server with workload := withStatus o.workload server.workload })
    else none

/-! ## The reconciler -/

/-- What a reconcile meets: the version that `Get` returns, the clock, whether the simulator
    allocates and starts, the status of the latest run (`none` for an error), and whether its
    first and second update are made and escape a conflict. -/
structure Call where
  read : Nat
  now : Int
  admits : Bool
  latest : Option RunStatus
  first : Bool
  second : Bool

/-- The first update succeeds: no conflict, and the version that was read is the stored one. -/
def Call.current (x : Call) : Bool := x.first && x.read == 0

/-- The marker is set. -/
def Counted (w : GPUWorkload) : Prop :=
  w.annotations.lookup annotationCompletionCounted = some "true"

/-- `needRecordCompletion`. -/
def NeedRecord (w : GPUWorkload) : Prop := w.phase = .succeeded ∧ ¬ Counted w

instance (w : GPUWorkload) : Decidable (Counted w) := inferInstanceAs (Decidable (_ = _))

instance (w : GPUWorkload) : Decidable (NeedRecord w) := inferInstanceAs (Decidable (_ ∧ _))

/-- The terminal branch, where a completion is to be recorded: count, then store the marker; an
    error is logged. -/
def recordCompletion (x : Call) (o : Resource) (s : Store) : Store :=
  let s := { s with counter := s.counter + 1 }
  (s.update x.current { o with workload := withCompletionCounted o.workload }).getD s

/-- `pollRunningStatus`. -/
def pollRunningStatus (x : Call) (o : Resource) (s : Store) : Store :=
  match x.latest.bind targetPhase with
  | none => s
  | some phase =>
    let w := if phase = .succeeded then withCompletionCounted o.workload else o.workload
    match s.updateStatus x.current { o with workload := { w with phase := phase } } with
    | none => s
    | some s =>
      if phase = .succeeded then
        let s := { s with counter := s.counter + 1, polled := true }
        -- the copy is the server's by now
        match s.versions with
        | [] => s
        | copy :: _ => (s.update x.second copy).getD s
      else s

/-- `Reconcile`, as far as it writes the object or counts. -/
def reconcile (useWorkerPool : Bool) (x : Call) (s : Store) : Store :=
  match s.versions[x.read]? with
  | none => s
  | some o =>
    if o.workload.deletionTimestamp ≠ none then
      -- without its finalizer the object is gone
      if x.current then { s with versions := [] } else s
    else if isTerminalPhase o.workload.phase then
      if NeedRecord o.workload then recordCompletion x o s else s
    else if o.finalizer = false then
      (s.update x.current { o with finalizer := true }).getD s
    else match o.workload.phase with
    | .unset =>
        (s.updateStatus x.current { o with workload :=
          { o.workload with phase := .queued, queuedAt := some x.now } }).getD s
    | .scheduled =>
        if useWorkerPool = false ∧ x.admits = true then
          (s.updateStatus x.current
            { o with workload := { o.workload with phase := .running } }).getD s
        else s
    | .running => if useWorkerPool then s else pollRunningStatus x o s
    | _ => s

/-- One event: a reconcile, a status written by the scheduler or a worker, an annotation
    written by somebody, a request to delete. -/
inductive Label where
  | reconcile (x : Call)
  | status (phase : Phase)
  | annotate (key value : String)
  | delete (now : Int)

/-- The events.  Nobody but the reconciler writes its marker. -/
def step (useWorkerPool : Bool) (s : Store) : Label → Option Store
  | .reconcile x => some (reconcile useWorkerPool x s)
  | .status phase =>
      match s.versions with
      | [] => none
      | server :: _ =>
          some (s.put { server with workload := { server.workload with phase := phase } })
  | .annotate key value =>
      if key = annotationCompletionCounted then none
      else match s.versions with
      | [] => none
      | server :: _ =>
          some (s.put { server with workload :=
            { server.workload with annotations := server.workload.annotations.insert key value } })
  | .delete now =>
      match s.versions with
      | [] => none
      | server :: _ =>
        if server.finalizer then
          some (s.put { server with workload :=
            { server.workload with deletionTimestamp := some now } })
        else some { s with versions := [] }

/-! ## What is counted -/

/-- **THE CONDITION**: a reconcile that finds a completion to record stores its marker, and no
    poll has counted it; a poll that writes a success is the first to count. -/
def StoresMarker (useWorkerPool : Bool) (s : Store) : Label → Prop
  | .reconcile x => ∀ o, s.versions[x.read]? = some o → o.workload.deletionTimestamp = none →
      (NeedRecord o.workload → x.current = true ∧ s.polled = false)
      ∧ (useWorkerPool = false → o.workload.phase = .running → o.finalizer = true →
        x.latest = some .succeeded → x.current = true →
        ¬ Counted o.workload ∧ s.polled = false)
  | _ => True

/-- What a step does to the marker and the counter. -/
inductive Effect (s : Store) : Store → Prop where
  /-- Nothing is stored. -/
  | keep : Effect s s
  /-- A version with the same marker is stored. -/
  | store (server o : Resource) (rest : List Resource) (head : s.versions = server :: rest)
      (same : Counted server.workload → Counted o.workload) : Effect s (s.put o)
  /-- The object is gone. -/
  | gone : Effect s { s with versions := [] }
  /-- A completion is counted, and its marker is stored. -/
  | record (server o : Resource) (rest : List Resource) (head : s.versions = server :: rest)
      (unmarked : ¬ Counted server.workload) (first : s.polled = false)
      (marked : Counted o.workload) : Effect s ⟨o :: s.versions, s.counter + 1, s.polled⟩
  /-- A poll counts a completion. -/
  | poll (server : Resource) (rest versions : List Resource) (head : s.versions = server :: rest)
      (unmarked : ¬ Counted server.workload) (first : s.polled = false) :
      Effect s ⟨versions, s.counter + 1, true⟩

section
variable {useWorkerPool : Bool} {x : Call} {s t : Store} {o : Resource}

theorem counted_withCompletionCounted (w : GPUWorkload) : Counted (withCompletionCounted w) :=
  AList.lookup_insert _

/-- A copy that is current is the stored version. -/
theorem head_of_current (hread : s.versions[x.read]? = some o) (hcurrent : x.current = true) :
    ∃ rest, s.versions = o :: rest := by
  rw [Call.current, Bool.and_eq_true, beq_iff_eq] at hcurrent
  rw [hcurrent.2] at hread
  cases hversions : s.versions with
  | nil =>
      rw [hversions] at hread
      cases hread
  | cons server rest =>
      rw [hversions] at hread
      exact ⟨rest, by rw [Option.some.inj hread]⟩

/-- A status update does not touch the marker. -/
theorem effect_updateStatus (s : Store) (current : Bool) (o : Resource) :
    Effect s ((s.updateStatus current o).getD s) := by
  rw [Store.updateStatus]
  cases hversions : s.versions with
  | nil => exact .keep
  | cons server rest =>
      cases current with
      | false => exact .keep
      | true => exact .store server _ rest hversions (fun h => h)

/-- An update of the copy that was read keeps the marker, unless the copy has lost it. -/
theorem effect_update {o' : Resource} (hread : s.versions[x.read]? = some o)
    (hmark : Counted o.workload → Counted o'.workload) :
    Effect s ((s.update x.current o').getD s) := by
  cases hcurrent : x.current with
  | false =>
      rw [Store.update]
      cases hversions : s.versions with
      | nil => exact .keep
      | cons server rest => exact .keep
  | true =>
      obtain ⟨rest, hversions⟩ := head_of_current hread hcurrent
      simp only [Store.update, hversions, if_true, Option.getD_some]
      exact .store o _ rest hversions hmark

/-- A poll that writes a success counts, and stores a version without the marker. -/
theorem pollRunningStatus_succeeded {rest : List Resource} (hversions : s.versions = o :: rest)
    (hcurrent : x.current = true) (hlatest : x.latest = some .succeeded) :
    ∃ rest', pollRunningStatus x o s
      = ⟨{ o with workload := { o.workload with phase := .succeeded } } :: rest',
          s.counter + 1, true⟩ := by
  simp only [pollRunningStatus, hlatest, Option.bind_some, targetPhase, if_true, hcurrent,
    Store.updateStatus, hversions, Store.put, Store.update]
  cases x.second with
  | false => exact ⟨_, rfl⟩
  | true => exact ⟨_, rfl⟩

/-- Only a run that succeeded makes its workload `Succeeded`. -/
theorem succeeded_of_target {latest : Option RunStatus}
    (h : latest.bind targetPhase = some .succeeded) : latest = some .succeeded := by
  obtain ⟨status, hstatus, htarget⟩ := Option.bind_eq_some_iff.mp h
  cases status with
  | running => cases htarget
  | succeeded => exact hstatus
  | failed => cases htarget
  | preempted => cases htarget

/-- A poll that finds no success leaves the marker and the counter alone. -/
theorem effect_poll_unsuccessful (h : x.latest ≠ some .succeeded) :
    Effect s (pollRunningStatus x o s) := by
  rw [pollRunningStatus]
  cases hlatest : x.latest.bind targetPhase with
  | none => exact .keep
  | some phase =>
      have hphase : phase ≠ .succeeded := by
        rintro rfl
        exact h (succeeded_of_target hlatest)
      simp only [if_neg hphase]
      have heffect := effect_updateStatus s x.current
        { o with workload := { o.workload with phase := phase } }
      cases hupdate : s.updateStatus x.current
          { o with workload := { o.workload with phase := phase } } with
      | none => exact .keep
      | some u =>
          rw [hupdate] at heffect
          exact heffect

/-- A poll, if one that writes a success is the first to count. -/
theorem effect_pollRunningStatus (hread : s.versions[x.read]? = some o)
    (h : x.latest = some .succeeded → x.current = true →
      ¬ Counted o.workload ∧ s.polled = false) : Effect s (pollRunningStatus x o s) := by
  by_cases hlatest : x.latest = some .succeeded
  · cases hcurrent : x.current with
    | false =>
        simp only [pollRunningStatus, hlatest, Option.bind_some, targetPhase, hcurrent,
          Store.updateStatus]
        cases s.versions with
        | nil => exact .keep
        | cons server rest => exact .keep
    | true =>
        obtain ⟨rest, hversions⟩ := head_of_current hread hcurrent
        obtain ⟨hunmarked, hfirst⟩ := h hlatest hcurrent
        obtain ⟨rest', hpoll⟩ := pollRunningStatus_succeeded hversions hcurrent hlatest
        rw [hpoll]
        exact .poll o rest _ hversions hunmarked hfirst
  · exact effect_poll_unsuccessful hlatest

/-- Recording stores the marker. -/
theorem effect_recordCompletion (hread : s.versions[x.read]? = some o)
    (hneed : NeedRecord o.workload) (hcurrent : x.current = true) (hfirst : s.polled = false) :
    Effect s (recordCompletion x o s) := by
  obtain ⟨rest, hversions⟩ := head_of_current hread hcurrent
  rw [recordCompletion]
  simp only [Store.update, hcurrent, hversions, if_true, Option.getD_some, Store.put]
  rw [← hversions]
  exact .record o _ rest hversions hneed.2 hfirst (counted_withCompletionCounted o.workload)

/-- **ONE RECONCILE** that stores its marker. -/
theorem effect_reconcile (h : StoresMarker useWorkerPool s (.reconcile x)) :
    Effect s (reconcile useWorkerPool x s) := by
  rw [reconcile]
  cases hread : s.versions[x.read]? with
  | none => exact .keep
  | some o =>
      simp only
      by_cases hdeleted : o.workload.deletionTimestamp = none
      · obtain ⟨hrecord, hpoll⟩ := h o hread hdeleted
        rw [if_neg (not_not.mpr hdeleted)]
        by_cases hterminal : isTerminalPhase o.workload.phase = true
        · rw [if_pos hterminal]
          split_ifs with hneed
          · exact effect_recordCompletion hread hneed (hrecord hneed).1 (hrecord hneed).2
          · exact .keep
        rw [if_neg hterminal]
        by_cases hfinalizer : o.finalizer = false
        · rw [if_pos hfinalizer]
          exact effect_update hread (fun hcounted => hcounted)
        rw [if_neg hfinalizer]
        cases hphase : o.workload.phase with
        | unset => exact effect_updateStatus _ _ _
        | scheduled =>
            simp only
            split_ifs
            · exact effect_updateStatus _ _ _
            · exact .keep
        | running =>
            simp only
            cases useWorkerPool with
            | true => exact .keep
            | false =>
                exact effect_pollRunningStatus hread
                  (hpoll rfl hphase (Bool.eq_true_of_not_eq_false hfinalizer))
        | queued => exact .keep
        | succeeded => exact .keep
        | failed => exact .keep
        | preempted => exact .keep
        | other raw _ => exact .keep
      · rw [if_pos hdeleted]
        split_ifs
        · exact .gone
        · exact .keep

/-- **ONE STEP** under the condition. -/
theorem effect_step {a : Label} (h : StoresMarker useWorkerPool s a)
    (hst : step useWorkerPool s a = some t) : Effect s t := by
  cases a with
  | reconcile x =>
      rw [← Option.some.inj hst]
      exact effect_reconcile h
  | status phase =>
      rw [step] at hst
      cases hversions : s.versions with
      | nil => rw [hversions] at hst; cases hst
      | cons server rest =>
          rw [hversions] at hst
          rw [← Option.some.inj hst]
          exact .store server _ rest hversions (fun h => h)
  | annotate key value =>
      rw [step] at hst
      split_ifs at hst with hkey
      cases hversions : s.versions with
      | nil => rw [hversions] at hst; cases hst
      | cons server rest =>
          rw [hversions] at hst
          rw [← Option.some.inj hst]
          refine .store server _ rest hversions (fun hcounted => ?_)
          exact (AList.lookup_insert_ne (Ne.symm hkey)).trans hcounted
  | delete now =>
      rw [step] at hst
      cases hversions : s.versions with
      | nil => rw [hversions] at hst; cases hst
      | cons server rest =>
          rw [hversions] at hst
          simp only at hst
          split_ifs at hst
          · rw [← Option.some.inj hst]
            exact .store server _ rest hversions (fun h => h)
          · rw [← Option.some.inj hst]
            exact .gone

/-- Nothing is counted yet, or one completion is: by a poll, or the stored version says so. -/
def Once (s : Store) : Prop :=
  (s.counter = 0 ∧ s.polled = false) ∨ (s.counter = 1 ∧ (s.polled = true
    ∨ ∀ server rest, s.versions = server :: rest → Counted server.workload))

/-- An unmarked object that no poll has counted has not been counted. -/
theorem Once.fresh (h : Once s) {server : Resource} {rest : List Resource}
    (hhead : s.versions = server :: rest) (hunmarked : ¬ Counted server.workload)
    (hfirst : s.polled = false) : s.counter = 0 := by
  rcases h with ⟨hzero, -⟩ | ⟨-, hpolled | hmarked⟩
  · exact hzero
  · rw [hfirst] at hpolled
    cases hpolled
  · exact absurd (hmarked server rest hhead) hunmarked

theorem Once.effect (h : Once s) (he : Effect s t) : Once t := by
  cases he with
  | keep => exact h
  | store server o rest hhead hsame =>
      refine h.imp id (fun hone => ⟨hone.1, hone.2.imp id (fun hmarked server' rest' heq => ?_)⟩)
      rw [← (List.cons.inj heq).1]
      exact hsame (hmarked server rest hhead)
  | gone =>
      exact h.imp id (fun hone => ⟨hone.1, Or.inr (fun server rest heq => (by cases heq))⟩)
  | record server o rest hhead hunmarked hfirst hmarked =>
      refine Or.inr ⟨?_, Or.inr (fun server' rest' heq => ?_)⟩
      · show s.counter + 1 = 1
        rw [h.fresh hhead hunmarked hfirst]
      · rw [← (List.cons.inj heq).1]
        exact hmarked
  | poll server rest versions hhead hunmarked hfirst =>
      refine Or.inr ⟨?_, Or.inl rfl⟩
      show s.counter + 1 = 1
      rw [h.fresh hhead hunmarked hfirst]

/-- A reconcile that reads a completion to record. -/
theorem reconcile_record (hread : s.versions[x.read]? = some o)
    (hdeleted : o.workload.deletionTimestamp = none) (hneed : NeedRecord o.workload) :
    reconcile useWorkerPool x s = recordCompletion x o s := by
  have hterminal : isTerminalPhase o.workload.phase = true := by
    rw [hneed.1]
    rfl
  rw [reconcile, hread]
  simp only
  rw [if_neg (not_not.mpr hdeleted), if_pos hterminal, if_pos hneed]

/-- It counts, whatever becomes of its update. -/
theorem counter_recordCompletion (x : Call) (o : Resource) (s : Store) :
    (recordCompletion x o s).counter = s.counter + 1 := by
  rw [recordCompletion, Store.update]
  cases s.versions with
  | nil => rfl
  | cons server rest =>
      cases x.current with
      | false => rfl
      | true => rfl

/-- **A POLLED COMPLETION IS COUNTED AGAIN** by the next reconcile, and no update has to fail
    for that. -/
theorem polled_counted_again {rest : List Resource} {y : Call}
    (hversions : s.versions = o :: rest) (hdeleted : o.workload.deletionTimestamp = none)
    (hphase : o.workload.phase = .running) (hfinalizer : o.finalizer = true)
    (hunmarked : ¬ Counted o.workload) (hcurrent : x.current = true)
    (hlatest : x.latest = some .succeeded) (hread : y.read = 0) :
    (reconcile false y (reconcile false x s)).counter = s.counter + 2 := by
  have hpoll : reconcile false x s = pollRunningStatus x o s := by
    rw [Call.current, Bool.and_eq_true, beq_iff_eq] at hcurrent
    simp only [reconcile, hversions, hcurrent.2, List.getElem?_cons_zero, hdeleted, hphase,
      hfinalizer, isTerminalPhase, ne_eq, not_true_eq_false, if_false, Bool.false_eq_true,
      Bool.true_eq_false]
  obtain ⟨rest', hpolled⟩ := pollRunningStatus_succeeded hversions hcurrent hlatest
  rw [hpoll, hpolled, reconcile_record
    (o := { o with workload := { o.workload with phase := .succeeded } }) (by rw [hread]; rfl)
    hdeleted ⟨rfl, hunmarked⟩, counter_recordCompletion]

/-- **A COMPLETION WHOSE MARKER IS LOST IS COUNTED AGAIN** by a reconcile that reads the same
    version. -/
theorem unmarked_counted_again {y : Call} (hread : s.versions[x.read]? = some o)
    (hdeleted : o.workload.deletionTimestamp = none) (hneed : NeedRecord o.workload)
    (hcurrent : x.current = false) (hsame : y.read = x.read) :
    (reconcile useWorkerPool y (reconcile useWorkerPool x s)).counter = s.counter + 2 := by
  have hversions : (recordCompletion x o s).versions = s.versions := by
    rw [recordCompletion, Store.update, hcurrent]
    cases s.versions with
    | nil => rfl
    | cons server rest => rfl
  have hagain : (recordCompletion x o s).versions[y.read]? = some o := by
    rw [hversions, hsame]
    exact hread
  rw [reconcile_record hread hdeleted hneed, reconcile_record hagain hdeleted hneed,
    counter_recordCompletion, counter_recordCompletion]

end

/-- A created object. -/
def created : Resource :=
  ⟨⟨"ns", "w", ∅, none, ⟨"t", 1, 1, 10, "h100_sxm", 100, .training⟩, .unset, none⟩, false⟩

/-- A reconcile that reads the stored version, admits, and meets no conflict. -/
def calm (latest : Option RunStatus) : Call := ⟨0, 0, true, latest, true, true⟩

/-- A reconcile whose update is refused. -/
def refused : Call := { calm none with first := false }

/-- A worker runs the object to its end. -/
def workerRun : List Label :=
  [.reconcile (calm none), .reconcile (calm none), .status .scheduled, .status .running,
    .status .succeeded]

end GpuCompletionCount
