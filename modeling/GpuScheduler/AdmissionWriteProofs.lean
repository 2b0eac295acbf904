import GpuScheduler.CycleProofs
import GpuScheduler.VersionedStoreProofs
import GpuScheduler.WorkloadProofs

/-! # The write that admits a workload

    `patchWorkloadAdmittedAndScheduled` reads the workload, gives up if it is no longer
    queued, and otherwise sends its status back with the phase `Scheduled` and the
    condition `Admitted`; on a conflict it starts over, up to `maxConflictRetries` times.

    Around it everything else may happen: before each call other writers change, delete or
    re-create the object, a read may return any version the object has had, and any call
    may fail (`Surroundings`).  The server accepts a status only against the current
    version.  Under all surroundings the function is a compare-and-set of the phase from
    `Queued` to `Scheduled` (`admission_is_compareAndSet`). -/

namespace GpuAdmissionWrite

open GpuWorkload GpuCycle VersionedStore

/-! ## Conditions -/

/-- `metav1.ConditionStatus`. -/
inductive ConditionStatus where
  | conditionTrue | conditionFalse | conditionUnknown
  deriving DecidableEq, Repr

/-- `metav1.Condition`. -/
structure Condition where
  type : String
  status : ConditionStatus
  observedGeneration : Int
  lastTransitionTime : Int
  reason : String
  message : String
  deriving DecidableEq, Repr

/-- `conditionTypeAdmitted`. -/
def conditionTypeAdmitted : String := "Admitted"

/-- What is assumed of `meta.SetStatusCondition`, a function of the Kubernetes libraries: the
    conditions of other types than the new one stay as they are. -/
def KeepsOthers (setStatusCondition : List Condition → Condition → List Condition) : Prop :=
  ∀ conditions newCondition,
    (setStatusCondition conditions newCondition).filter (fun c => c.type ≠ newCondition.type)
      = conditions.filter (fun c => c.type ≠ newCondition.type)

/-! ## Calls and surroundings -/

/-- The resource as the API server stores it: with its generation and its conditions. -/
structure Stored extends GPUWorkload where
  generation : Int
  conditions : List Condition

/-- What a status update keeps of the stored object, and what it takes from the sent one. -/
def Stored.withStatus (current sent : Stored) : Stored :=
  { current with phase := sent.phase, queuedAt := sent.queuedAt, conditions := sent.conditions }

/-- The errors of the API server. -/
inductive ApiError where
  | conflict | notFound
  | other (message : String)
  deriving DecidableEq, Repr

/-- The calls made, as they ended: a `Get`, a status update that was refused, one that
    replaced a stored object, and the message for the workers. -/
inductive Call where
  | get
  | refused (err : ApiError)
  | wrote (before after : Stored)
  | produced (ns name : String)

/-- The object under the key, `none` while there is none, and the calls made so far. -/
structure World where
  object : History (Option Stored)
  calls : List Call

/-- Everything outside of the function, by the number of calls made before: what others
    write in the meantime, what a `Get` answers (an error, or which version), whether a
    status update fails for reasons of its own, and the clock. -/
structure Surroundings where
  writes : Nat → List (Option Stored)
  get : Nat → Except ApiError Nat
  update : Nat → Option ApiError
  now : Nat → Int

section
variable (setStatusCondition : List Condition → Condition → List Condition) (env : Surroundings)

/-- The object when the next call reaches the server. -/
def World.reached (w : World) : History (Option Stored) :=
  w.object.puts (env.writes w.calls.length)

/-- `Client.Get`: a version with its number. -/
def get (w : World) : Except ApiError (Nat × Stored) × World :=
  let object := w.reached env
  let w' : World := ⟨object, w.calls ++ [.get]⟩
  match env.get w.calls.length with
  | .error err => (.error err, w')
  | .ok k =>
    match (object.read k).value with
    | none => (.error .notFound, w')
    | some workload => (.ok ((object.read k).version, workload), w')

/-- `Client.Status().Update`: accepted only against the current version. -/
def statusUpdate (resourceVersion : Nat) (sent : Stored) (w : World) :
    Except ApiError Unit × World :=
  let object := w.reached env
  let refuse := fun err => (Except.error err, (⟨object, w.calls ++ [.refused err]⟩ : World))
  match env.update w.calls.length with
  | some err => refuse err
  | none =>
    match object.current.value with
    | none => refuse .notFound
    | some current =>
      if resourceVersion = object.current.version then
        (.ok (), ⟨object.put (some (current.withStatus sent)),
          w.calls ++ [.wrote current (current.withStatus sent)]⟩)
      else refuse .conflict

/-- The workload as it is sent back. -/
def admittedAndScheduled (reason message : String) (now : Int) (workload : Stored) : Stored :=
  { workload with
    conditions := setStatusCondition workload.conditions
      { type := conditionTypeAdmitted
        status := .conditionTrue
        reason := reason
        message := message
        observedGeneration := workload.generation
        lastTransitionTime := now }
    phase := .scheduled }

/-- The operation that is retried. -/
def admitOnce (reason message : String) (w : World) : Except ApiError Unit × World :=
  match get env w with
  | (.error err, w') => (.error err, w')
  | (.ok (resourceVersion, workload), w') =>
    if workload.phase ≠ .queued then (.ok (), w')
    else statusUpdate env resourceVersion
      (admittedAndScheduled setStatusCondition reason message (env.now w'.calls.length) workload)
      w'

end

/-- `maxConflictRetries`. -/
def maxConflictRetries : Nat := 5

/-- The loop of `runWithConflictRetry`, with the turns left and `lastErr`. -/
def runWithConflictRetry {σ : Type} (op : σ → Except ApiError Unit × σ) :
    Nat → Except ApiError Unit → σ → Except ApiError Unit × σ
  | 0, lastErr, s => (lastErr, s)
  | n + 1, _, s =>
      match op s with
      | (.ok (), s') => (.ok (), s')
      | (.error err, s') =>
          if err = .conflict then runWithConflictRetry op n (.error err) s'
          else (.error err, s')

/-- The errors of `patchWorkloadAdmittedAndScheduled`. -/
inductive PatchError where
  | invalidWorkloadID (workloadID : String)
  | patchWorkload (workloadID : String) (err : ApiError)
  deriving DecidableEq, Repr

/-- `patchWorkloadAdmittedAndScheduled`; an error of the producer, if there is one, is only
    logged. -/
def patchWorkloadAdmittedAndScheduled
    (setStatusCondition : List Condition → Condition → List Condition) (env : Surroundings)
    (claimableProducer : Bool) (workloadID reason message : String) (w : World) :
    Except PatchError Unit × World :=
  match workloadKey workloadID with
  | none => (.error (.invalidWorkloadID workloadID), w)
  | some (ns, name) =>
    match runWithConflictRetry (admitOnce setStatusCondition env reason message)
        maxConflictRetries (.ok ()) w with
    | (.error err, w') => (.error (.patchWorkload workloadID err), w')
    | (.ok (), w') =>
        (.ok (), if claimableProducer then ⟨w'.object, w'.calls ++ [.produced ns name]⟩ else w')

/-! ## Compare-and-set -/

/-- The write admits: it moves the phase from `Queued` to `Scheduled` and changes nothing
    else of the stored object but its `Admitted` condition. -/
structure Admits (before after : Stored) : Prop where
  queued : before.phase = .queued
  scheduled : after.phase = .scheduled
  rest : after = { before with phase := after.phase, conditions := after.conditions }
  others : after.conditions.filter (fun c => c.type ≠ conditionTypeAdmitted)
    = before.conditions.filter (fun c => c.type ≠ conditionTypeAdmitted)

/-- The stored objects that calls have replaced, with what replaced them. -/
def writes (calls : List Call) : List (Stored × Stored) :=
  calls.filterMap (fun call => match call with
    | .wrote before after => some (before, after)
    | _ => none)

/-- How many attempts were begun. -/
def attempts (calls : List Call) : Nat :=
  calls.countP (fun call => match call with
    | .get => true
    | _ => false)

/-- How many status updates were sent. -/
def updates (calls : List Call) : Nat :=
  calls.countP (fun call => match call with
    | .refused _ => true
    | .wrote _ _ => true
    | _ => false)

/-- What some calls have done when they were made in at most `n` attempts, of which the
    last ended with an error or not. -/
structure Attempted (n : Nat) (failed : Prop) (calls : List Call) : Prop where
  admits : ∀ p ∈ writes calls, Admits p.1 p.2
  once : (writes calls).length ≤ 1
  attempts_le : attempts calls ≤ n
  updates_le : updates calls ≤ n
  none_of_failed : failed → writes calls = []

section
variable {n : Nat} {failed : Prop} {calls calls' : List Call}

/-- Calls among which there is no write. -/
theorem Attempted.of_writes_nil (hwrites : writes calls = []) (hattempts : attempts calls ≤ n)
    (hupdates : updates calls ≤ n) : Attempted n failed calls := by
  refine ⟨fun p hp => ?_, ?_, hattempts, hupdates, fun _ => hwrites⟩
  · rw [hwrites] at hp
    cases hp
  · rw [hwrites]
    exact Nat.zero_le 1

/-- A failed attempt, and then others. -/
theorem Attempted.append (h : Attempted 1 True calls) (h' : Attempted n failed calls') :
    Attempted (n + 1) failed (calls ++ calls') := by
  have hwrites : writes (calls ++ calls') = writes calls' := by
    rw [writes, List.filterMap_append, ← writes, ← writes, h.none_of_failed trivial,
      List.nil_append]
  have hattempts := h.attempts_le
  have hattempts' := h'.attempts_le
  have hupdates := h.updates_le
  have hupdates' := h'.updates_le
  refine ⟨?_, ?_, ?_, ?_, ?_⟩
  · rw [hwrites]
    exact h'.admits
  · rw [hwrites]
    exact h'.once
  · rw [attempts] at hattempts hattempts' ⊢
    rw [List.countP_append]
    omega
  · rw [updates] at hupdates hupdates' ⊢
    rw [List.countP_append]
    omega
  · rw [hwrites]
    exact h'.none_of_failed

/-- The message for the workers writes nothing. -/
theorem Attempted.produced (h : Attempted n failed calls) (ns name : String) :
    Attempted n failed (calls ++ [.produced ns name]) := by
  have hwrites : writes (calls ++ [.produced ns name]) = writes calls := by
    rw [writes, List.filterMap_append]
    exact List.append_nil _
  refine ⟨?_, ?_, ?_, ?_, ?_⟩
  · rw [hwrites]
    exact h.admits
  · rw [hwrites]
    exact h.once
  · rw [attempts, List.countP_append]
    exact h.attempts_le
  · rw [updates, List.countP_append]
    exact h.updates_le
  · rw [hwrites]
    exact h.none_of_failed

end

section
variable (env : Surroundings) (reason message : String)

/-- What is sent back admits, when it replaces the version that was read. -/
theorem admits_withStatus {setStatusCondition : List Condition → Condition → List Condition}
    (hset : KeepsOthers setStatusCondition) {workload : Stored} (now : Int)
    (h : workload.phase = .queued) : Admits workload (workload.withStatus
      (admittedAndScheduled setStatusCondition reason message now workload)) :=
  ⟨h, rfl, rfl, hset workload.conditions ⟨conditionTypeAdmitted, .conditionTrue,
    workload.generation, now, reason, message⟩⟩

/-- A `Get` hands out a copy. -/
theorem get_ok {w w' : World} {resourceVersion : Nat} {workload : Stored}
    (h : get env w = (.ok (resourceVersion, workload), w')) :
    w'.calls = w.calls ++ [.get] ∧ CopyOf w'.object.current ⟨resourceVersion, some workload⟩ := by
  rw [get] at h
  cases hget : env.get w.calls.length with
  | error err =>
      simp only [hget] at h
      cases (Prod.mk.inj h).1
  | ok k =>
      have hcopy := (w.reached env).copyOf_read k
      cases hvalue : ((w.reached env).read k).value with
      | none =>
          simp only [hget, hvalue] at h
          cases (Prod.mk.inj h).1
      | some stored =>
          simp only [hget, hvalue] at h
          obtain ⟨hok, rfl⟩ := Prod.mk.inj h
          obtain ⟨rfl, rfl⟩ := Prod.mk.inj (Except.ok.inj hok)
          rw [← hvalue]
          exact ⟨rfl, hcopy⟩

theorem get_error {w w' : World} {err : ApiError} (h : get env w = (.error err, w')) :
    w'.calls = w.calls ++ [.get] := by
  rw [get] at h
  cases hget : env.get w.calls.length with
  | error e =>
      simp only [hget] at h
      rw [← (Prod.mk.inj h).2]
  | ok k =>
      cases hvalue : ((w.reached env).read k).value with
      | none =>
          simp only [hget, hvalue] at h
          rw [← (Prod.mk.inj h).2]
      | some stored =>
          simp only [hget, hvalue] at h
          cases (Prod.mk.inj h).1

/-- A status update sent with a copy either is refused or replaces exactly that copy. -/
theorem statusUpdate_cases {w : World} {resourceVersion : Nat} {workload : Stored}
    (hcopy : CopyOf w.object.current ⟨resourceVersion, some workload⟩) (sent : Stored) :
    (∃ err, (statusUpdate env resourceVersion sent w).1 = .error err
        ∧ (statusUpdate env resourceVersion sent w).2.calls = w.calls ++ [.refused err])
      ∨ ((statusUpdate env resourceVersion sent w).1 = .ok ()
        ∧ (statusUpdate env resourceVersion sent w).2.calls
          = w.calls ++ [.wrote workload (workload.withStatus sent)]) := by
  rw [statusUpdate]
  cases hupdate : env.update w.calls.length with
  | some err => exact Or.inl ⟨err, rfl, rfl⟩
  | none =>
      -- others may have written since the copy was read
      have hlater := hcopy.puts (env.writes w.calls.length)
      rw [← World.reached] at hlater
      cases hvalue : (w.reached env).current.value with
      | none => exact Or.inl ⟨.notFound, rfl, rfl⟩
      | some current =>
          by_cases hversion : resourceVersion = (w.reached env).current.version
          · -- the version has not changed, so neither has the object
            have hsame := congrArg Versioned.value (hlater.same hversion)
            rw [hvalue] at hsame
            obtain rfl := Option.some.inj hsame
            dsimp only
            rw [if_pos hversion]
            exact Or.inr ⟨rfl, rfl⟩
          · dsimp only
            rw [if_neg hversion]
            exact Or.inl ⟨.conflict, rfl, rfl⟩

/-- **ONE ATTEMPT**. -/
theorem admitOnce_attempted {setStatusCondition : List Condition → Condition → List Condition}
    (hset : KeepsOthers setStatusCondition) (w : World) :
    ∃ calls, (admitOnce setStatusCondition env reason message w).2.calls = w.calls ++ calls
      ∧ Attempted 1 (∃ err, (admitOnce setStatusCondition env reason message w).1 = .error err)
        calls := by
  rw [admitOnce]
  cases hget : get env w with
  | mk answer w' =>
      cases answer with
      | error err =>
          exact ⟨[.get], get_error env hget, .of_writes_nil rfl (Nat.le_refl 1) (Nat.zero_le 1)⟩
      | ok read =>
          obtain ⟨resourceVersion, workload⟩ := read
          obtain ⟨hcalls, hcopy⟩ := get_ok env hget
          simp only
          by_cases hphase : workload.phase = .queued
          · rw [if_neg (not_not.mpr hphase)]
            -- what is sent does not matter any more, only that it admits the copy
            have hadmits := admits_withStatus reason message hset (env.now w'.calls.length) hphase
            generalize admittedAndScheduled setStatusCondition reason message
              (env.now w'.calls.length) workload = sent at hadmits ⊢
            rcases statusUpdate_cases env hcopy sent with ⟨err, -, hrefused⟩ | ⟨hok, hwrote⟩
            · refine ⟨[.get, .refused err], ?_, .of_writes_nil rfl (Nat.le_refl 1)
                (Nat.le_refl 1)⟩
              rw [hrefused, hcalls, List.append_assoc]
              rfl
            · refine ⟨[.get, .wrote workload (workload.withStatus sent)], ?_, ?_, Nat.le_refl 1,
                Nat.le_refl 1, Nat.le_refl 1, ?_⟩
              · rw [hwrote, hcalls, List.append_assoc]
                rfl
              · intro p hp
                rw [List.mem_singleton.mp hp]
                exact hadmits
              · rintro ⟨err, herr⟩
                rw [hok] at herr
                cases herr
          · -- already admitted, or terminal
            rw [if_pos hphase]
            exact ⟨[.get], hcalls, .of_writes_nil rfl (Nat.le_refl 1) (Nat.zero_le 1)⟩

/-- **ALL ATTEMPTS**, by induction on the turns left. -/
theorem retry_attempted {setStatusCondition : List Condition → Condition → List Condition}
    (hset : KeepsOthers setStatusCondition) (n : Nat) (lastErr : Except ApiError Unit)
    (w : World) :
    ∃ calls, (runWithConflictRetry (admitOnce setStatusCondition env reason message) n lastErr
        w).2.calls = w.calls ++ calls
      ∧ Attempted n (∃ err, (runWithConflictRetry (admitOnce setStatusCondition env reason message)
        n lastErr w).1 = .error err) calls := by
  induction n generalizing lastErr w with
  | zero =>
      exact ⟨[], (List.append_nil _).symm, .of_writes_nil rfl (Nat.le_refl 0) (Nat.le_refl 0)⟩
  | succ n ih =>
      obtain ⟨calls, hcalls, hone⟩ := admitOnce_attempted env reason message hset w
      rw [runWithConflictRetry]
      cases hop : admitOnce setStatusCondition env reason message w with
      | mk result w' =>
          rw [hop] at hcalls hone
          cases result with
          | ok u =>
              have h1 := hone.attempts_le
              have h2 := hone.updates_le
              refine ⟨calls, hcalls, hone.admits, hone.once, by omega, by omega, ?_⟩
              rintro ⟨err, herr⟩
              cases herr
          | error err =>
              have hfailed : Attempted 1 True calls :=
                ⟨hone.admits, hone.once, hone.attempts_le, hone.updates_le,
                  fun _ => hone.none_of_failed ⟨err, rfl⟩⟩
              simp only
              -- only a conflict is tried again
              by_cases hconflict : err = .conflict
              · rw [if_pos hconflict]
                obtain ⟨later, hlater, hrest⟩ := ih (.error err) w'
                refine ⟨calls ++ later, ?_, hfailed.append hrest⟩
                rw [hlater, hcalls, List.append_assoc]
              · rw [if_neg hconflict]
                have h1 := hone.attempts_le
                have h2 := hone.updates_le
                exact ⟨calls, hcalls, hone.admits, hone.once, by omega, by omega,
                  fun _ => hone.none_of_failed ⟨err, rfl⟩⟩

/-- The whole function, in at most `maxConflictRetries` attempts. -/
theorem patch_attempted {setStatusCondition : List Condition → Condition → List Condition}
    (hset : KeepsOthers setStatusCondition) (claimableProducer : Bool) (workloadID : String)
    (w : World) :
    ∃ calls, (patchWorkloadAdmittedAndScheduled setStatusCondition env claimableProducer
        workloadID reason message w).2.calls = w.calls ++ calls
      ∧ Attempted maxConflictRetries (∃ err, (patchWorkloadAdmittedAndScheduled
        setStatusCondition env claimableProducer workloadID reason message w).1 = .error err)
        calls := by
  rw [patchWorkloadAdmittedAndScheduled]
  cases hkey : workloadKey workloadID with
  | none =>
      exact ⟨[], (List.append_nil _).symm, .of_writes_nil rfl (Nat.zero_le _) (Nat.zero_le _)⟩
  | some key =>
      obtain ⟨ns, name⟩ := key
      obtain ⟨calls, hcalls, h⟩ := retry_attempted env reason message hset maxConflictRetries
        (.ok ()) w
      simp only
      cases hretry : runWithConflictRetry (admitOnce setStatusCondition env reason message)
          maxConflictRetries (.ok ()) w with
      | mk result w' =>
          rw [hretry] at hcalls h
          cases result with
          | error err =>
              exact ⟨calls, hcalls, h.admits, h.once, h.attempts_le, h.updates_le,
                fun _ => h.none_of_failed ⟨err, rfl⟩⟩
          | ok u =>
              have hok : Attempted maxConflictRetries (∃ err : PatchError,
                  (Except.ok () : Except PatchError Unit) = .error err) calls := by
                refine ⟨h.admits, h.once, h.attempts_le, h.updates_le, ?_⟩
                rintro ⟨err, herr⟩
                cases herr
              cases claimableProducer with
              | false => exact ⟨calls, hcalls, hok⟩
              | true =>
                  refine ⟨calls ++ [.produced ns name], ?_, hok.produced ns name⟩
                  show w'.calls ++ [.produced ns name] = _
                  rw [hcalls, List.append_assoc]

end

/-- **ADMISSION IS A COMPARE-AND-SET**, whatever the surroundings do: each of its writes
    admits, there is at most one, and none if an error is returned; it makes at most
    `maxConflictRetries` attempts. -/
theorem admission_is_compareAndSet
    (setStatusCondition : List Condition → Condition → List Condition)
    (hset : KeepsOthers setStatusCondition) (env : Surroundings) (claimableProducer : Bool)
    (workloadID reason message : String) (w : World) :
    ∃ calls, (patchWorkloadAdmittedAndScheduled setStatusCondition env claimableProducer
        workloadID reason message w).2.calls = w.calls ++ calls
      ∧ (∀ p ∈ writes calls, Admits p.1 p.2)
      ∧ (writes calls).length ≤ 1
      ∧ attempts calls ≤ maxConflictRetries ∧ updates calls ≤ maxConflictRetries
      ∧ ((∃ err, (patchWorkloadAdmittedAndScheduled setStatusCondition env claimableProducer
          workloadID reason message w).1 = .error err) → writes calls = []) := by
  obtain ⟨calls, hcalls, h⟩ :=
    patch_attempted env reason message hset claimableProducer workloadID w
  exact ⟨calls, hcalls, h.admits, h.once, h.attempts_le, h.updates_le, h.none_of_failed⟩

/-- A `SetStatusCondition` for concrete runs: the first condition of the type is replaced, and
    without one the condition is appended. -/
def replaceCondition : List Condition → Condition → List Condition
  | [], newCondition => [newCondition]
  | existing :: rest, newCondition =>
      if existing.type = newCondition.type then newCondition :: rest
      else existing :: replaceCondition rest newCondition

theorem keepsOthers_replaceCondition : KeepsOthers replaceCondition := by
  intro conditions newCondition
  induction conditions with
  | nil => simp [replaceCondition]
  | cons existing rest ih =>
      rw [replaceCondition]
      by_cases h : existing.type = newCondition.type
      · rw [if_pos h, List.filter_cons_of_neg (by simp), List.filter_cons_of_neg (by simp [h])]
      · rw [if_neg h, List.filter_cons_of_pos (by simp [h]), ih,
          List.filter_cons_of_pos (by simp [h])]

/-- A condition of another type. -/
def readyCondition : Condition := ⟨"Ready", .conditionFalse, 1, 2, "Queued", ""⟩

/-- A queued workload. -/
def queuedObject : Stored where
  ns := "ns"
  name := "job"
  annotations := ∅
  deletionTimestamp := none
  spec := ⟨"team", 1, 1, 40, "h100_sxm", 5, .training⟩
  phase := .queued
  queuedAt := some 3
  generation := 1
  conditions := [readyCondition]

/-- Someone writes before the first update, and the second read is up to date. -/
def oneConflict : Surroundings where
  writes := fun made => if made = 1 then [some queuedObject] else []
  get := fun made => .ok made
  update := fun _ => none
  now := fun _ => 9

/-- The queued workload, at its fourth version. -/
def queuedWorld : World :=
  ⟨⟨⟨4, some queuedObject⟩, [], fun _ h => absurd h List.not_mem_nil⟩, []⟩

/-- The second attempt admits it, and the other condition is still there. -/
theorem oneConflict_compareAndSet :
    ∃ before after, writes (patchWorkloadAdmittedAndScheduled replaceCondition oneConflict true
        "ns/job" "Selected" "selected" queuedWorld).2.calls = [(before, after)]
      ∧ Admits before after ∧ readyCondition ∈ after.conditions := by
  obtain ⟨calls, hcalls, hadmits, -⟩ := admission_is_compareAndSet replaceCondition
    keepsOthers_replaceCondition oneConflict true "ns/job" "Selected" "selected" queuedWorld
  rw [show queuedWorld.calls = [] from rfl, List.nil_append] at hcalls
  have hwrites : (writes (patchWorkloadAdmittedAndScheduled replaceCondition oneConflict true
      "ns/job" "Selected" "selected" queuedWorld).2.calls).map (fun p => p.2.conditions.head?)
      = [some readyCondition] := by decide +kernel
  rw [hcalls] at hwrites ⊢
  obtain ⟨p, hp, hhead⟩ := List.map_eq_singleton_iff.mp hwrites
  rw [hp] at hadmits
  exact ⟨p.1, p.2, hp, hadmits p (List.mem_singleton_self p), List.mem_of_mem_head? hhead⟩

end GpuAdmissionWrite
