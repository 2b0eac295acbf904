import GpuScheduler.StepRunsProofs
import Mathlib

/-! # The submitter's consumer loop

    `Consumer.Run` takes the messages of a partition one by one.  A message is turned
    into a `GPUWorkload`, or goes to the dead-letter topic when it cannot be; only then
    is its offset committed.  A message whose processing fails is skipped with
    `continue`, to be retried, and the loop fetches the next one.

    Committing is cumulative.  So a later success commits past a failed message, and
    ingestion is at-least-once only if nothing is committed between a failure and the
    next session (`at_least_once`). -/

namespace GpuSubmitter

open StepRuns

/-- The pure parts of `processMessage`: decoding, validation, and the mapping to a CR,
    which is nil when no name can be derived. -/
structure Codec (Req CR : Type) where
  unmarshal : List UInt8 → Except String Req
  validate : Req → Except String Unit
  toGPUWorkload : Req → Option CR

/-- Why a message went to the dead-letter topic. -/
inductive DLQReason where
  | invalidJSON | validationFailed | mapperError
  deriving DecidableEq, Repr

/-- A dead-letter message: the original value, and the headers. -/
structure DLQMessage where
  value : List UInt8
  reason : DLQReason
  detail : String
  deriving DecidableEq, Repr

/-- What `Client.Create` may answer. -/
inductive CreateAnswer where
  | created | alreadyExists | failed
  deriving DecidableEq, Repr

/-- The answers of the outside calls made for one message. -/
structure Answers where
  create : CreateAnswer
  dlqWrite : Bool
  commit : Bool
  deriving DecidableEq, Repr

/-- What became of a message for which `processMessage` returned nil. -/
inductive Done (CR : Type) where
  | created (cr : CR)
  | alreadyExists (cr : CR)
  | deadLettered (m : DLQMessage)

variable {Req CR : Type}

/-- `sendToDLQ`; `none` is an error. -/
def sendToDLQ (answers : Answers) (value : List UInt8) (reason : DLQReason)
    (detail : String) : Option (Done CR) :=
  if answers.dlqWrite then some (.deadLettered ⟨value, reason, detail⟩) else none

/-- `processMessage`; `none` is an error. -/
def processMessage (codec : Codec Req CR) (answers : Answers) (value : List UInt8) :
    Option (Done CR) :=
  match codec.unmarshal value with
  | .error e => sendToDLQ answers value .invalidJSON e
  | .ok req =>
    match codec.validate req with
    | .error e => sendToDLQ answers value .validationFailed e
    | .ok () =>
      match codec.toGPUWorkload req with
      | none => sendToDLQ answers value .mapperError "CR name derived to empty"
      | some cr =>
        match answers.create with
        | .created => some (.created cr)
        | .alreadyExists => some (.alreadyExists cr)
        | .failed => none

/-- A partition and its consumer.  Offsets are positions in the log; `committed` is the
    first offset not yet consumed, `position` the next one the session fetches.  `done`
    records the messages for which `processMessage` returned nil. -/
structure Partition (CR : Type) where
  log : List (List UInt8)
  committed : Nat
  position : Nat
  done : List (Nat × Done CR)

/-- One step of the world around a partition. -/
inductive Label where
  | produce (value : List UInt8)
  | fetchFailed
  | consume (answers : Answers)
  | restart

/-- One turn of `Run` is `fetchFailed` or `consume`.  A fetch blocks at the end of the
    log; a restart begins a session at the committed offset. -/
def step (codec : Codec Req CR) (s : Partition CR) : Label → Option (Partition CR)
  | .produce value => some { s with log := s.log ++ [value] }
  | .fetchFailed => some s
  | .restart => some { s with position := s.committed }
  | .consume answers =>
      (s.log[s.position]?).map (fun value =>
        match processMessage codec answers value with
        | none => { s with position := s.position + 1 }
        | some d =>
          { s with
            position := s.position + 1
            done := (s.position, d) :: s.done
            committed := if answers.commit then s.position + 1 else s.committed })

/-- The partition before its first session. -/
def start (log : List (List UInt8)) : Partition CR := ⟨log, 0, 0, []⟩

/-- `processMessage` has returned nil for the message at an offset. -/
def Partition.Processed (s : Partition CR) (n : Nat) : Prop := ∃ d, (n, d) ∈ s.done

/-- Every offset below the committed one has been processed. -/
def AtLeastOnce (s : Partition CR) : Prop := ∀ n < s.committed, s.Processed n

/-- No message of the session has been left behind. -/
def NoneLeftBehind (s : Partition CR) : Prop :=
  ∀ n, s.committed ≤ n → n < s.position → s.Processed n

/-- Nothing is committed while a message of the session is left behind: only a step whose
    message is processed commits. -/
def CommitsInOrder (codec : Codec Req CR) (s : Partition CR) : Label → Prop
  | .consume answers => ∀ value ∈ s.log[s.position]?,
      (processMessage codec answers value).isSome → answers.commit = true → NoneLeftBehind s
  | _ => True

/-- The loop invariant: the session is never behind the commits. -/
structure Inv (s : Partition CR) : Prop where
  order : s.committed ≤ s.position
  processed : AtLeastOnce s

/-- A success committed at the current position keeps the invariant exactly when no
    message of the session is left behind. -/
theorem atLeastOnce_commit_iff {s : Partition CR} (hs : Inv s) (d : Done CR) :
    AtLeastOnce { s with
        position := s.position + 1
        done := (s.position, d) :: s.done
        committed := s.position + 1 } ↔ NoneLeftBehind s := by
  constructor
  · intro h n _ hlt
    obtain ⟨d', hd⟩ := h n (Nat.lt_succ_of_lt hlt)
    rcases List.mem_cons.mp hd with heq | hmem
    · exact absurd (congrArg Prod.fst heq) (Nat.ne_of_lt hlt)
    · exact ⟨d', hmem⟩
  · intro h n hn
    -- below the old commits, in the session, or the message just processed
    rcases Nat.lt_or_ge n s.committed with hlt | hge
    · obtain ⟨d', hd⟩ := hs.processed n hlt
      exact ⟨d', List.mem_cons_of_mem _ hd⟩
    · rcases Nat.lt_succ_iff_lt_or_eq.mp hn with hlt | rfl
      · obtain ⟨d', hd⟩ := h n hge hlt
        exact ⟨d', List.mem_cons_of_mem _ hd⟩
      · exact ⟨d, List.mem_cons_self ..⟩

/-- A success that is not committed keeps the commits. -/
private theorem atLeastOnce_skip {s : Partition CR} (h : AtLeastOnce s) (d : Done CR) :
    AtLeastOnce { s with
      position := s.position + 1
      done := (s.position, d) :: s.done } := by
  intro n hn
  obtain ⟨d', hmem⟩ := h n hn
  exact ⟨d', List.mem_cons_of_mem _ hmem⟩

/-- STEP: a step that commits in order keeps the invariant. -/
theorem step_inv {codec : Codec Req CR} {s t : Partition CR} {a : Label} (hs : Inv s)
    (hC : CommitsInOrder codec s a) (h : step codec s a = some t) : Inv t := by
  cases a with
  | produce value =>
      obtain rfl := Option.some.inj h
      exact ⟨hs.order, hs.processed⟩
  | fetchFailed =>
      obtain rfl := Option.some.inj h
      exact hs
  | restart =>
      obtain rfl := Option.some.inj h
      exact ⟨Nat.le_refl _, hs.processed⟩
  | consume answers =>
      obtain ⟨value, hvalue, rfl⟩ := Option.map_eq_some_iff.mp h
      have horder := hs.order
      cases hdone : processMessage codec answers value with
      | none => exact ⟨Nat.le_succ_of_le horder, hs.processed⟩
      | some d =>
        cases hcommit : answers.commit with
        | false =>
            exact ⟨Nat.le_succ_of_le horder, atLeastOnce_skip hs.processed d⟩
        | true =>
            have hnone : NoneLeftBehind s :=
              hC value hvalue (by rw [hdone]; rfl) hcommit
            exact ⟨Nat.le_refl _, (atLeastOnce_commit_iff hs d).mpr hnone⟩

/-- **AT-LEAST-ONCE INGESTION**: in every run that never commits while a message of the
    session is left behind, every offset below the committed one has been processed. -/
theorem at_least_once {codec : Codec Req CR} {log : List (List UInt8)} {as : List Label}
    {t : Partition CR} (h : Runs (step codec) (CommitsInOrder codec) (start log) as t) :
    AtLeastOnce t := by
  have hstart : Inv (start log : Partition CR) :=
    ⟨Nat.le_refl _, fun n hn => absurd hn (Nat.not_lt_zero n)⟩
  exact (h.invariant (fun s a t hs hC hst => step_inv hs hC hst) hstart).processed

/-- Every message is its own request and its own CR. -/
def acceptAll : Codec (List UInt8) (List UInt8) := ⟨.ok, fun _ => .ok (), some⟩

/-- A create that fails once, and one that succeeds. -/
def failThenSucceed : List Label :=
  [.consume ⟨.failed, true, true⟩, .consume ⟨.created, true, true⟩]

/-- The second message commits past the first, which has not been processed. -/
theorem failThenSucceed_loses_first :
    ¬∀ as t, Runs (step acceptAll) Always (start [[1], [2]]) as t → AtLeastOnce t := by
  intro h
  have hrun : Runs (step acceptAll) Always (start [[1], [2]]) failThenSucceed
      ⟨[[1], [2]], 2, 2, [(1, .created [2])]⟩ := Runs.of_exec rfl
  obtain ⟨d, hd⟩ := h _ _ hrun 0 (by decide)
  have h0 : (0, d) = ((1, .created [2]) : Nat × Done (List UInt8)) := List.mem_singleton.mp hd
  exact absurd (congrArg Prod.fst h0) Nat.zero_ne_one

/-- A create that fails, a new session, and the retry that succeeds. -/
theorem at_least_once_retry :
    AtLeastOnce (⟨[[1], [2]], 1, 1, [(0, .created [1])]⟩ : Partition (List UInt8)) := by
  have hfresh : ∀ (s : Partition (List UInt8)) (answers : Answers), s.position = 0 →
      CommitsInOrder acceptAll s (.consume answers) := by
    intro s answers hs value _ _ _ n _ hn
    rw [hs] at hn
    exact absurd hn (Nat.not_lt_zero n)
  have hrun : Runs (step acceptAll) (CommitsInOrder acceptAll) (start [[1], [2]])
      [.consume ⟨.failed, true, true⟩, .restart, .consume ⟨.created, true, true⟩]
      ⟨[[1], [2]], 1, 1, [(0, .created [1])]⟩ :=
    .cons (hfresh _ _ rfl) rfl (.cons trivial rfl (.cons (hfresh _ _ rfl) rfl (.nil _)))
  exact at_least_once hrun

end GpuSubmitter
