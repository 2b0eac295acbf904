import GpuScheduler.ClaimProofs
import GpuScheduler.InProcessProofs

/-! # The phases of one workload

    Four components write `Status.Phase`, each by reading the object, checking what it
    has read, and updating the status against the version it has read: the scheduler loop
    (victim marking and admission), the reconcilers, and the workers, which claim the
    workload and later set its final phase.  The API server rejects an update with an old
    version, so an update that takes effect found the phase that was read.

    The lifecycle ends in `Succeeded`, `Failed` or `Preempted`, from where only a
    preempted workload may be queued again.  Victim marking, the second `Get` of a claim
    and `setWorkloadPhase` do not check the phase they have read, so the end can be left.
    It is not left as long as those reads find the workload short of it
    (`lifecycle_of_runs`). -/

namespace GpuLifecycle

open GoMaps StepRuns VersionedStore GpuWorkload GpuClaim GpuSimulator
open GpuInProcess (isTerminalPhase withCompletionCounted)

/-! ## Reads and writes -/

/-- What a component is about to do with the object it has read. -/
inductive Op where
  | markVictim
  | schedule
  | reconcile
  | setPhase (phase : Phase)
  deriving DecidableEq, Repr

/-- The components: the leader's scheduler loop, the reconcilers of all replicas, and the
    workers inside `runOneWorkload`. -/
inductive Writer (ι ρ : Type) where
  | scheduler
  | reconciler (r : ρ)
  | worker (w : ι)
  deriving DecidableEq

variable {ι ρ : Type}

/-- Which component does what. -/
def Writer.performs : Writer ι ρ → Op → Bool
  | .scheduler, .markVictim | .scheduler, .schedule => true
  | .reconciler _, .reconcile => true
  | .worker _, .setPhase phase => phase = .succeeded || phase = .failed
  | _, _ => false

/-- The status a reconcile writes.  `sim` is the answer of the simulator: `running` after a
    start, the status of the latest run in a poll, `none` for an error. -/
def reconciled (useWorkerPool : Bool) (sim : Option RunStatus) (now : Int) (w : GPUWorkload) :
    Option GPUWorkload :=
  if w.deletionTimestamp ≠ none then none
  else match w.phase with
  | .unset => some { w with phase := .queued, queuedAt := some now }
  | .scheduled =>
      if useWorkerPool = false ∧ sim = some .running then some { w with phase := .running }
      else none
  | .running =>
      if useWorkerPool then none
      else match sim with
      | some .succeeded => some { withCompletionCounted w with phase := .succeeded }
      | some .failed => some { w with phase := .failed }
      | some .preempted => some { w with phase := .preempted }
      | some .running | none => none
  | .queued | .succeeded | .failed | .preempted | .other _ _ => none

/-- The object a component updates the status with; `none` if it returns without a write. -/
def written (useWorkerPool : Bool) (sim : Option RunStatus) (now : Int) (w : GPUWorkload) :
    Op → Option GPUWorkload
  | .markVictim => if w.phase = .preempted then none else some { w with phase := .preempted }
  | .schedule => if w.phase ≠ .queued then none else some { w with phase := .scheduled }
  | .reconcile => reconciled useWorkerPool sim now w
  | .setPhase phase => some { w with phase := phase }

/-- A status update takes the status only. -/
def withStatus (v w : GPUWorkload) : GPUWorkload :=
  { w with phase := v.phase, queuedAt := v.queuedAt }

/-! ## Steps -/

/-- The object, the workers in `claimWorkload`, and the reads of the other sequences. -/
structure World (ι ρ : Type) where
  claims : Claims ι
  reads : Writer ι ρ → Option (Op × Object)

/-- The phase on the server. -/
def World.phase (s : World ι ρ) : Phase := s.claims.server.value.phase

/-- One step: a call of `claimWorkload`, a `Get` or a status update of another sequence, a
    call that fails, a write of the main resource, or the documented re-queue. -/
inductive Label (ι ρ : Type) where
  | claim (a : GpuClaim.Label ι)
  | read (k : Writer ι ρ) (op : Op)
  | update (k : Writer ι ρ) (sim : Option RunStatus) (now : Int)
  | fail (k : Writer ι ρ)
  | main (value : GPUWorkload)
  | requeue

/-- The worker that makes a call of `claimWorkload`. -/
def caller : GpuClaim.Label ι → Option ι
  | .discover _ w | .get w | .patch w | .getAgain w | .update w | .fail w | .finish w => some w
  | .other _ => none

/-- Inside `runOneWorkload`. -/
def isRunning : Pc → Bool
  | .running => true
  | .idle | .get | .patch _ | .getAgain | .update _ => false

/-- A component may begin: a worker sets a phase from inside `runOneWorkload` only. -/
def World.free (s : World ι ρ) : Writer ι ρ → Bool
  | .worker w => isRunning (s.claims.pc w)
  | .scheduler | .reconciler _ => true

/-- The object that was there when nobody had begun. -/
def start (server : Object) : World ι ρ := ⟨GpuClaim.start server [], fun _ => none⟩

variable [DecidableEq ι] [DecidableEq ρ]

/-- The end of a sequence; `runOneWorkload` returns after it has set a phase. -/
def World.done (s : World ι ρ) (k : Writer ι ρ) : World ι ρ where
  claims :=
    match k with
    | .worker w => s.claims.goto w .idle
    | .scheduler | .reconciler _ => s.claims
  reads := Function.update s.reads k none

/-- A status update with the copy that was read; a conflict writes nothing. -/
def World.updateStatus (s : World ι ρ) (copy : Object) (v : GPUWorkload) : World ι ρ :=
  match s.claims.server.cas copy.version (withStatus v s.claims.server.value) with
  | none => s
  | some o => { s with claims := s.claims.write o }

/-- The steps of all components.  A retry after a conflict is a new `read`. -/
def step (workerID : ι → String) (useWorkerPool : Bool) (s : World ι ρ) :
    Label ι ρ → Option (World ι ρ)
  | .claim a =>
      match caller a with
      | none => none
      | some w =>
          if (s.reads (.worker w)).isNone then
            (GpuClaim.step workerID s.claims a).map (fun c => { s with claims := c })
          else none
  | .read k op =>
      if k.performs op ∧ s.free k ∧ (s.reads k).isNone then
        some { s with reads := Function.update s.reads k (some (op, s.claims.server)) }
      else none
  | .update k sim now =>
      match s.reads k with
      | none => none
      | some (op, copy) =>
          match written useWorkerPool sim now copy.value op with
          | none => some (s.done k)
          | some v => some ((s.updateStatus copy v).done k)
  | .fail k => if (s.reads k).isNone then none else some (s.done k)
  | .main value =>
      some { s with claims := s.claims.write (s.claims.server.put
        (withStatus s.claims.server.value value)) }
  | .requeue =>
      if s.phase = .preempted then
        some { s with claims := s.claims.write (s.claims.server.put
          { s.claims.server.value with phase := .queued }) }
      else none

/-! ## The lifecycle -/

/-- A change of phase that keeps the end of the lifecycle. -/
def Lawful (old new : Phase) : Prop :=
  isTerminalPhase old = true → new = old ∨ (old = .preempted ∧ new = .queued)

/-- Every version of the object so far is a lawful change of the one before. -/
def Lifecycle (s : World ι ρ) : Prop :=
  s.claims.history.IsChain (fun new old => Lawful old.value.phase new.value.phase)

/-- What an operation may be begun on. -/
def Suits (phase : Phase) : Op → Prop
  | .markVictim => phase ≠ .succeeded ∧ phase ≠ .failed
  | .setPhase target => isTerminalPhase phase = true → phase = target
  | .schedule | .reconcile => True

/-- The condition on the reads that nothing is checked after: victim marking does not find
    the workload `Succeeded` or `Failed`, the second `Get` of a claim finds no final
    phase, and `setWorkloadPhase` finds none but its own. -/
def ReadsInTime (s : World ι ρ) : Label ι ρ → Prop
  | .read _ op => Suits s.phase op
  | .claim (.getAgain _) => isTerminalPhase s.phase = false
  | _ => True

instance (phase : Phase) (op : Op) : Decidable (Suits phase op) :=
  match op with
  | .markVictim => inferInstanceAs (Decidable (_ ∧ _))
  | .setPhase _ => inferInstanceAs (Decidable (_ → _))
  | .schedule | .reconcile => inferInstanceAs (Decidable True)

instance (s : World ι ρ) (a : Label ι ρ) : Decidable (ReadsInTime s a) :=
  match a with
  | .read _ op => inferInstanceAs (Decidable (Suits s.phase op))
  | .claim (.getAgain _) => inferInstanceAs (Decidable (_ = _))
  | .claim (.discover _ _) | .claim (.get _) | .claim (.patch _) | .claim (.update _)
  | .claim (.fail _) | .claim (.finish _) | .claim (.other _) | .update _ _ _ | .fail _
  | .main _ | .requeue => inferInstanceAs (Decidable True)

theorem lawful_of_not_terminal {old : Phase} (h : isTerminalPhase old = false) (new : Phase) :
    Lawful old new := by
  intro ht
  rw [h] at ht
  cases ht

theorem not_terminal {phase : Phase} (hs : phase ≠ .succeeded) (hf : phase ≠ .failed)
    (hp : phase ≠ .preempted) : isTerminalPhase phase = false := by
  cases phase with
  | succeeded => exact absurd rfl hs
  | failed => exact absurd rfl hf
  | preempted => exact absurd rfl hp
  | unset => rfl
  | queued => rfl
  | scheduled => rfl
  | running => rfl
  | other raw _ => rfl

/-- A reconcile leaves the end of the lifecycle alone. -/
theorem not_terminal_of_reconciled {useWorkerPool : Bool} {sim : Option RunStatus} {now : Int}
    {w v : GPUWorkload} (h : reconciled useWorkerPool sim now w = some v) :
    isTerminalPhase w.phase = false := by
  unfold reconciled at h
  by_cases hd : w.deletionTimestamp ≠ none
  · rw [if_pos hd] at h
    cases h
  · rw [if_neg hd] at h
    refine not_terminal ?_ ?_ ?_
    · intro hphase
      rw [hphase] at h
      cases h
    · intro hphase
      rw [hphase] at h
      cases h
    · intro hphase
      rw [hphase] at h
      cases h

/-- What an operation writes is a lawful change of what it was begun on. -/
theorem lawful_written {useWorkerPool : Bool} {sim : Option RunStatus} {now : Int}
    {w v : GPUWorkload} {op : Op} (hop : Suits w.phase op)
    (h : written useWorkerPool sim now w op = some v) : Lawful w.phase v.phase := by
  cases op with
  | markVictim =>
      obtain ⟨hs, hf⟩ : w.phase ≠ .succeeded ∧ w.phase ≠ .failed := hop
      simp only [written] at h
      split_ifs at h with hpre
      exact lawful_of_not_terminal (not_terminal hs hf hpre) _
  | schedule =>
      simp only [written] at h
      split_ifs at h with hne
      refine lawful_of_not_terminal ?_ _
      rw [not_not.mp hne]
      rfl
  | reconcile => exact lawful_of_not_terminal (not_terminal_of_reconciled h) _
  | setPhase phase =>
      obtain rfl := Option.some.inj h
      exact fun ht => Or.inl (hop ht).symm

/-! ## One step -/

/-- The copies held by the components were read in time; the server has the latest
    version. -/
structure Inv (s : World ι ρ) : Prop where
  latest : s.claims.history.head? = some s.claims.server
  lifecycle : Lifecycle s
  claims : ∀ w c, s.claims.pc w = .update c →
    CopyOf s.claims.server c ∧ isTerminalPhase c.value.phase = false
  reads : ∀ k op c, s.reads k = some (op, c) →
    CopyOf s.claims.server c ∧ Suits c.value.phase op

omit [DecidableEq ι] [DecidableEq ρ] in
/-- A lawful write keeps the invariant. -/
theorem Inv.write {s : World ι ρ} (hs : Inv s) {v : GPUWorkload}
    (hv : Lawful s.phase v.phase) :
    Inv { s with claims := s.claims.write (s.claims.server.put v) } := by
  refine ⟨rfl, ?_, fun w c hc => ?_, fun k op c hc => ?_⟩
  · refine List.isChain_cons.mpr ⟨fun o ho => ?_, hs.lifecycle⟩
    rw [hs.latest] at ho
    obtain rfl := Option.some.inj ho
    exact hv
  · exact ⟨(hs.claims w c hc).1.put v, (hs.claims w c hc).2⟩
  · exact ⟨(hs.reads k op c hc).1.put v, (hs.reads k op c hc).2⟩

omit [DecidableEq ρ] in
/-- Moving a worker keeps the invariant, unless it moves to an update with a copy that was
    not read in time. -/
theorem Inv.goto {s : World ι ρ} (hs : Inv s) (w : ι) {pc : Pc}
    (hpc : ∀ c, pc = .update c →
      CopyOf s.claims.server c ∧ isTerminalPhase c.value.phase = false) :
    Inv { s with claims := s.claims.goto w pc } := by
  refine ⟨hs.latest, hs.lifecycle, fun w' c hc => ?_, hs.reads⟩
  change Function.update s.claims.pc w pc w' = .update c at hc
  by_cases hw : w' = w
  · rw [hw, Function.update_self] at hc
    exact hpc c hc
  · rw [Function.update_of_ne hw] at hc
    exact hs.claims w' c hc

omit [DecidableEq ρ] in
/-- So does its entry into `runOneWorkload`. -/
theorem Inv.runOneWorkload {s : World ι ρ} (hs : Inv s) (w : ι) :
    Inv { s with claims := s.claims.runOneWorkload w } := by
  have hmoved := hs.goto w (fun c (hc : Pc.running = .update c) => by cases hc)
  exact ⟨hmoved.latest, hmoved.lifecycle, hmoved.claims, hmoved.reads⟩

/-- The end of a sequence keeps the invariant. -/
theorem Inv.done {s : World ι ρ} (hs : Inv s) (k : Writer ι ρ) : Inv (s.done k) := by
  have hreads : ∀ k' op c, Function.update s.reads k none k' = some (op, c) →
      CopyOf s.claims.server c ∧ Suits c.value.phase op := by
    intro k' op c hc
    by_cases hk : k' = k
    · rw [hk, Function.update_self] at hc
      cases hc
    · rw [Function.update_of_ne hk] at hc
      exact hs.reads k' op c hc
  cases k with
  | scheduler => exact ⟨hs.latest, hs.lifecycle, hs.claims, hreads⟩
  | reconciler r => exact ⟨hs.latest, hs.lifecycle, hs.claims, hreads⟩
  | worker w =>
      have hmoved := hs.goto w (fun c (hc : Pc.idle = .update c) => by cases hc)
      exact ⟨hmoved.latest, hmoved.lifecycle, hmoved.claims, hreads⟩

omit [DecidableEq ι] [DecidableEq ρ] in
/-- **AN UPDATE THAT TAKES EFFECT IS LAWFUL**: it found the phase that was read. -/
theorem Inv.updateStatus {s : World ι ρ} (hs : Inv s) {k : Writer ι ρ} {op : Op}
    {copy : Object} (hread : s.reads k = some (op, copy)) {useWorkerPool : Bool}
    {sim : Option RunStatus} {now : Int} {v : GPUWorkload}
    (hv : written useWorkerPool sim now copy.value op = some v) :
    Inv (s.updateStatus copy v) := by
  obtain ⟨hcopy, hsuits⟩ := hs.reads k op copy hread
  rw [World.updateStatus]
  cases hcas : s.claims.server.cas copy.version (withStatus v s.claims.server.value) with
  | none => exact hs
  | some o =>
      obtain ⟨heq, rfl⟩ := (cas_eq_some_iff hcopy).mp hcas
      refine hs.write ?_
      have hlawful := lawful_written hsuits hv
      rw [heq] at hlawful
      exact hlawful

omit [DecidableEq ρ] in
/-- A call of `claimWorkload` keeps the invariant. -/
theorem Inv.claim {workerID : ι → String} {s : World ι ρ} (hs : Inv s) {a : GpuClaim.Label ι}
    {w : ι} (hw : caller a = some w)
    (hC : ∀ w', a = .getAgain w' → isTerminalPhase s.phase = false) {c : Claims ι}
    (h : GpuClaim.step workerID s.claims a = some c) : Inv { s with claims := c } := by
  have hmove : ∀ w pc, (∀ o, pc ≠ .update o) → Inv { s with claims := s.claims.goto w pc } :=
    fun w pc hne => hs.goto w (fun o ho => absurd ho (hne o))
  cases call_of_step h with
  | @discover mode w hpc => exact hmove w _ (fun o ho => by cases ho)
  | @gone w hpc hphase => exact hs.runOneWorkload w
  | @get w hpc => exact hmove w _ (fun o ho => by cases ho)
  | @patch w copy hpc =>
      have hwritten := hs.write (v := claimPatch copy.value (workerID w) s.claims.server.value)
        (fun _ => Or.inl rfl)
      exact hwritten.goto w (fun o ho => by cases ho)
  | @getAgain w hpc =>
      refine hs.goto w (fun o ho => ?_)
      obtain rfl := Pc.update.inj ho
      exact ⟨CopyOf.refl _, hC w rfl⟩
  | @conflict w copy hpc hcas => exact hmove w _ (fun o ho => by cases ho)
  | @update w copy o hpc hcas =>
      obtain ⟨hcopy, hphase⟩ := hs.claims w copy hpc
      obtain ⟨heq, rfl⟩ := (cas_eq_some_iff hcopy).mp hcas
      rw [heq] at hphase
      have hwritten := hs.write (v := GpuClaim.asRunning copy.value s.claims.server.value)
        (lawful_of_not_terminal hphase _)
      exact hwritten.runOneWorkload w
  | @fail w => exact hmove w _ (fun o ho => by cases ho)
  | @finish w hpc => exact hmove w _ (fun o ho => by cases ho)
  | other hphase => cases hw

/-- STEP: a step whose reads are made in time keeps the invariant. -/
theorem step_inv {workerID : ι → String} {useWorkerPool : Bool} {s t : World ι ρ}
    {a : Label ι ρ} (hs : Inv s) (hC : ReadsInTime s a)
    (h : step workerID useWorkerPool s a = some t) : Inv t := by
  cases a with
  | claim a =>
      simp only [step] at h
      split at h
      · cases h
      · rename_i w hw
        split_ifs at h
        obtain ⟨c, hc, rfl⟩ := Option.map_eq_some_iff.mp h
        refine hs.claim hw (fun w' ha => ?_) hc
        subst ha
        exact hC
  | read k op =>
      simp only [step] at h
      split_ifs at h
      obtain rfl := Option.some.inj h
      refine ⟨hs.latest, hs.lifecycle, hs.claims, fun k' op' c hc => ?_⟩
      by_cases hk : k' = k
      · simp only [hk, Function.update_self, Option.some.injEq, Prod.mk.injEq] at hc
        obtain ⟨rfl, rfl⟩ := hc
        exact ⟨CopyOf.refl _, hC⟩
      · simp only [Function.update_of_ne hk] at hc
        exact hs.reads k' op' c hc
  | update k sim now =>
      simp only [step] at h
      split at h
      · cases h
      · rename_i op copy hread
        split at h
        · obtain rfl := Option.some.inj h
          exact hs.done k
        · rename_i v hv
          obtain rfl := Option.some.inj h
          exact (hs.updateStatus hread hv).done k
  | fail k =>
      simp only [step] at h
      split_ifs at h
      obtain rfl := Option.some.inj h
      exact hs.done k
  | main value =>
      obtain rfl := Option.some.inj h
      exact hs.write (fun _ => Or.inl rfl)
  | requeue =>
      simp only [step] at h
      split_ifs at h with hphase
      obtain rfl := Option.some.inj h
      exact hs.write (fun _ => Or.inr ⟨hphase, rfl⟩)

/-- **THE LIFECYCLE IS KEPT**, in every run whose unchecked reads are all made in time: no
    version of the object leaves a final phase, other than by the re-queue. -/
theorem lifecycle_of_runs {workerID : ι → String} {useWorkerPool : Bool} {server : Object}
    {as : List (Label ι ρ)} {s : World ι ρ}
    (h : Runs (step workerID useWorkerPool) ReadsInTime (start server) as s) : Lifecycle s := by
  have hstart : Inv (start server : World ι ρ) := by
    refine ⟨rfl, List.isChain_singleton _, fun w c hc => ?_, fun k op c hc => ?_⟩
    · cases (show Pc.idle = .update c from hc)
    · cases hc
  exact (h.invariant (fun _ _ _ hs hC hst => step_inv hs hC hst) hstart).lifecycle

/-- A worker claims a `Scheduled` workload. -/
def claimed : List (Label Unit Unit) :=
  [.claim (.discover .poll ()), .claim (.get ()), .claim (.patch ()), .claim (.getAgain ()),
    .claim (.update ())]

/-- It runs to its end; then the scheduler marks it as a victim, out of a snapshot in which
    it was still running. -/
def staleVictim : List (Label Unit Unit) :=
  claimed ++ [.read (.worker ()) (.setPhase .succeeded), .update (.worker ()) none 7,
    .read .scheduler .markVictim, .update .scheduler none 8]

/-- The phases of the versions, the latest first. -/
def World.phases (s : World ι ρ) : List Phase := s.claims.history.map (·.value.phase)

omit [DecidableEq ι] [DecidableEq ρ] in
theorem lifecycle_phases {s : World ι ρ} (h : Lifecycle s) :
    s.phases.IsChain (fun new old => Lawful old new) :=
  (List.isChain_map _).mpr h

/-- `Succeeded` becomes `Preempted`. -/
theorem staleVictim_unlawful :
    ¬∀ (server : Object) (as : List (Label Unit Unit)) (s : World Unit Unit),
      Runs (step (fun _ => "a") true) Always (start server) as s → Lifecycle s := by
  intro h
  have hexec : (exec (step (fun _ => "a") true) (start scheduledObject) staleVictim).map
      World.phases
      = some [.preempted, .succeeded, .running, .scheduled, .scheduled] := by decide +kernel
  obtain ⟨s, hs, hphases⟩ := Option.map_eq_some_iff.mp hexec
  have hchain := lifecycle_phases (h scheduledObject staleVictim s (Runs.of_exec hs))
  rw [hphases, List.isChain_cons_cons] at hchain
  rcases hchain.1 rfl with hsame | ⟨hpre, -⟩
  · cases hsame
  · cases hpre

/-- The victim is marked while it runs, queued again, and scheduled. -/
def requeued : List (Label Unit Unit) :=
  claimed ++ [.read .scheduler .markVictim, .update .scheduler none 7, .requeue,
    .read .scheduler .schedule, .update .scheduler none 8]

/-- The lifecycle is kept on the way. -/
theorem requeued_lawful :
    ∃ s : World Unit Unit, Runs (step (fun _ => "a") true) ReadsInTime (start scheduledObject)
        requeued s
      ∧ s.phases = [.scheduled, .queued, .preempted, .running, .scheduled, .scheduled]
      ∧ Lifecycle s := by
  have hexec : (exec (guarded (step (fun _ => "a") true) ReadsInTime) (start scheduledObject)
      requeued).map World.phases
      = some [.scheduled, .queued, .preempted, .running, .scheduled, .scheduled] := by
    decide +kernel
  obtain ⟨s, hs, hphases⟩ := Option.map_eq_some_iff.mp hexec
  have hrun := Runs.of_exec_guarded hs
  exact ⟨s, hrun, hphases, lifecycle_of_runs hrun⟩

end GpuLifecycle
