import GpuScheduler.StepRunsProofs
import GpuScheduler.VersionedStoreProofs
import GpuScheduler.WorkloadProofs
import Mathlib

/-! # Claiming a scheduled workload

    A worker finds a workload that is `Scheduled` and carries no claim (by polling, in
    the cache of a watch, or through a queue message) and claims it with four API calls:
    a `Get`, an unconditional merge patch of the claim annotation, a second `Get`, and a
    status update to `Running` made against the version of that second `Get`.  Any number
    of workers do so at once; every API call is one step.

    The conditional update lets one worker through per version of the object.  What it
    does not cover is a `Get` that no longer finds the workload `Scheduled`: the first
    then returns nil, which the caller takes for a claim, and the second is not checked.
    The claim is exclusive as long as both find it `Scheduled` (`at_most_one_worker`). -/

namespace GpuClaim

open GoMaps StepRuns VersionedStore GpuWorkload

/-- The object on the API server, or a copy of it. -/
abbrev Object := Versioned GPUWorkload

/-- `AnnotationClaimedBy`. -/
def annotationClaimedBy : String := "scheduler.ishanchopra.dev/claimed-by"

/-- The test all discovery modes make: `Scheduled` and unclaimed. -/
def claimable (w : GPUWorkload) : Bool :=
  w.phase = .scheduled && (w.annotations.lookup annotationClaimedBy).isNone

/-- The discovery modes.  The cache of a watch is some number of versions behind. -/
inductive Mode where
  | poll | queue
  | watch (behind : Nat)
  deriving DecidableEq, Repr

/-- Where a worker stands with the workload: the next call of `claimWorkload`, or inside
    `runOneWorkload`. -/
inductive Pc where
  | idle
  | get
  | patch (copy : Object)
  | getAgain
  | update (copy : Object)
  | running

/-- The workload and the workers around it.  `history` holds every version so far, the
    latest first; `ran` logs the entries into `runOneWorkload`. -/
structure Claims (ι : Type) where
  server : Object
  history : List Object
  pc : ι → Pc
  ran : List ι

variable {ι : Type}

/-- One step: a call of one worker, or a write by somebody else. -/
inductive Label (ι : Type) where
  | discover (mode : Mode) (w : ι)
  | get (w : ι)
  | patch (w : ι)
  | getAgain (w : ι)
  | update (w : ι)
  | fail (w : ι)
  | finish (w : ι)
  | other (value : GPUWorkload)

/-- A new version of the object. -/
def Claims.write (s : Claims ι) (o : Object) : Claims ι :=
  { s with server := o, history := o :: s.history }

/-- The version a discovery looks at: polling and the queue read the server, a watch
    reads its cache. -/
def Claims.shown (s : Claims ι) : Mode → Option Object
  | .poll | .queue => some s.server
  | .watch behind => s.history[behind]?

/-- The merge patch: the annotations of the copy, with the claim. -/
def claimPatch (copy : GPUWorkload) (workerID : String) (w : GPUWorkload) : GPUWorkload :=
  { w with
    annotations := (copy.annotations.insert annotationClaimedBy workerID).entries.foldl
      (fun m e => m.insert e.1 e.2) w.annotations }

/-- The object of the status update: `Running`, the rest of the status from the copy. -/
def asRunning (copy w : GPUWorkload) : GPUWorkload :=
  { w with phase := .running, queuedAt := copy.queuedAt }

/-- The beginning of an episode: nobody has started on the workload. -/
def start (server : Object) (history : List Object) : Claims ι :=
  ⟨server, server :: history, fun _ => .idle, []⟩

/-- At most one worker went on to `runOneWorkload`. -/
def AtMostOneWorker (s : Claims ι) : Prop := ∀ w ∈ s.ran, ∀ w' ∈ s.ran, w = w'

/-- Both `Get`s of a claim are made while the workload is `Scheduled`. -/
def GetsWhileScheduled (s : Claims ι) : Label ι → Prop
  | .get _ | .getAgain _ => s.server.value.phase = .scheduled
  | _ => True

instance (s : Claims ι) (a : Label ι) : Decidable (GetsWhileScheduled s a) :=
  match a with
  | .get _ | .getAgain _ => inferInstanceAs (Decidable (_ = _))
  | .discover _ _ | .patch _ | .update _ | .fail _ | .finish _ | .other _ =>
      inferInstanceAs (Decidable True)

variable [DecidableEq ι]

/-- Move one worker. -/
def Claims.goto (s : Claims ι) (w : ι) (pc : Pc) : Claims ι :=
  { s with pc := Function.update s.pc w pc }

/-- Enter `runOneWorkload`. -/
def Claims.runOneWorkload (s : Claims ι) (w : ι) : Claims ι :=
  { s.goto w .running with ran := w :: s.ran }

/-- The steps of `claimWorkload` and its callers.  Another writer may do anything but
    begin a new `Scheduled` episode. -/
def step (workerID : ι → String) (s : Claims ι) : Label ι → Option (Claims ι)
  | .discover mode w =>
      match s.pc w with
      | .idle =>
          if (s.shown mode).any (fun o => claimable o.value) then some (s.goto w .get)
          else none
      | _ => none
  | .get w =>
      match s.pc w with
      | .get =>
          if s.server.value.phase ≠ .scheduled then some (s.runOneWorkload w)
          else some (s.goto w (.patch s.server))
      | _ => none
  | .patch w =>
      match s.pc w with
      | .patch copy =>
          some ((s.write (s.server.put
            (claimPatch copy.value (workerID w) s.server.value))).goto w .getAgain)
      | _ => none
  | .getAgain w =>
      match s.pc w with
      | .getAgain => some (s.goto w (.update s.server))
      | _ => none
  | .update w =>
      match s.pc w with
      | .update copy =>
          match s.server.cas copy.version (asRunning copy.value s.server.value) with
          | none => some (s.goto w .idle)
          | some o => some ((s.write o).runOneWorkload w)
      | _ => none
  | .fail w =>
      match s.pc w with
      | .idle | .running => none
      | _ => some (s.goto w .idle)
  | .finish w =>
      match s.pc w with
      | .running => some (s.goto w .idle)
      | _ => none
  | .other value =>
      if value.phase = .scheduled ∧ s.server.value.phase ≠ .scheduled then none
      else some (s.write (s.server.put value))

/-- What a step was: the worker's place before it, and the state after it. -/
inductive Call (workerID : ι → String) (s : Claims ι) : Label ι → Claims ι → Prop where
  | discover {mode : Mode} {w : ι} : s.pc w = .idle → Call workerID s (.discover mode w)
      (s.goto w .get)
  | gone {w : ι} : s.pc w = .get → s.server.value.phase ≠ .scheduled →
      Call workerID s (.get w) (s.runOneWorkload w)
  | get {w : ι} : s.pc w = .get → Call workerID s (.get w) (s.goto w (.patch s.server))
  | patch {w : ι} {copy : Object} : s.pc w = .patch copy → Call workerID s (.patch w)
      ((s.write (s.server.put (claimPatch copy.value (workerID w) s.server.value))).goto w
        .getAgain)
  | getAgain {w : ι} : s.pc w = .getAgain → Call workerID s (.getAgain w)
      (s.goto w (.update s.server))
  | conflict {w : ι} {copy : Object} : s.pc w = .update copy →
      s.server.cas copy.version (asRunning copy.value s.server.value) = none →
      Call workerID s (.update w) (s.goto w .idle)
  | update {w : ι} {copy o : Object} : s.pc w = .update copy →
      s.server.cas copy.version (asRunning copy.value s.server.value) = some o →
      Call workerID s (.update w) ((s.write o).runOneWorkload w)
  | fail {w : ι} : Call workerID s (.fail w) (s.goto w .idle)
  | finish {w : ι} : s.pc w = .running → Call workerID s (.finish w) (s.goto w .idle)
  | other {value : GPUWorkload} :
      (value.phase = .scheduled → s.server.value.phase = .scheduled) →
      Call workerID s (.other value) (s.write (s.server.put value))

theorem call_of_step {workerID : ι → String} {s t : Claims ι} {a : Label ι}
    (h : step workerID s a = some t) : Call workerID s a t := by
  cases a with
  | discover mode w =>
      simp only [step] at h
      split at h
      · rename_i hpc
        split_ifs at h
        rw [← Option.some.inj h]
        exact .discover hpc
      · cases h
  | get w =>
      simp only [step] at h
      split at h
      · rename_i hpc
        split_ifs at h with hphase
        · rw [← Option.some.inj h]
          exact .gone hpc hphase
        · rw [← Option.some.inj h]
          exact .get hpc
      · cases h
  | patch w =>
      simp only [step] at h
      split at h
      · rename_i copy hpc
        rw [← Option.some.inj h]
        exact .patch hpc
      · cases h
  | getAgain w =>
      simp only [step] at h
      split at h
      · rename_i hpc
        rw [← Option.some.inj h]
        exact .getAgain hpc
      · cases h
  | update w =>
      simp only [step] at h
      split at h
      · rename_i copy hpc
        split at h
        · rename_i hcas
          rw [← Option.some.inj h]
          exact .conflict hpc hcas
        · rename_i o hcas
          rw [← Option.some.inj h]
          exact .update hpc hcas
      · cases h
  | fail w =>
      simp only [step] at h
      split at h
      · cases h
      · cases h
      · rw [← Option.some.inj h]
        exact .fail
  | finish w =>
      simp only [step] at h
      split at h
      · rename_i hpc
        rw [← Option.some.inj h]
        exact .finish hpc
      · cases h
  | other value =>
      simp only [step] at h
      split_ifs at h with hnew
      rw [← Option.some.inj h]
      exact .other (fun hphase => by_contra (fun hne => hnew ⟨hphase, hne⟩))

/-! ## Exclusivity -/

/-- A copy about to be written as `Running` was read while `Scheduled`; once somebody has
    run the workload, it is `Scheduled` no more. -/
structure Inv (s : Claims ι) : Prop where
  copies : ∀ w c, s.pc w = .update c → CopyOf s.server c ∧ c.value.phase = .scheduled
  ran : s.ran = [] ∨ (∃ w, s.ran = [w]) ∧ s.server.value.phase ≠ .scheduled

/-- Moving a worker keeps the invariant, unless it moves to an update with a copy that
    was not read while `Scheduled`. -/
theorem Inv.goto {s : Claims ι} (hs : Inv s) (w : ι) {pc : Pc}
    (hpc : ∀ c, pc = .update c → CopyOf s.server c ∧ c.value.phase = .scheduled) :
    Inv (s.goto w pc) := by
  refine ⟨fun w' c hc => ?_, hs.ran⟩
  simp only [Claims.goto] at hc
  by_cases hw : w' = w
  · subst hw
    rw [Function.update_self] at hc
    exact hpc c hc
  · rw [Function.update_of_ne hw] at hc
    exact hs.copies w' c hc

/-- Moving a worker anywhere else. -/
theorem Inv.goto_of_ne {s : Claims ι} (hs : Inv s) (w : ι) {pc : Pc}
    (hpc : ∀ c, pc ≠ .update c) : Inv (s.goto w pc) :=
  hs.goto w (fun c hc => absurd hc (hpc c))

omit [DecidableEq ι] in
/-- A write that does not begin a new episode keeps the invariant. -/
theorem Inv.write {s : Claims ι} (hs : Inv s) {v : GPUWorkload}
    (hv : v.phase = .scheduled → s.server.value.phase = .scheduled) :
    Inv (s.write (s.server.put v)) := by
  refine ⟨fun w c hc => ?_, ?_⟩
  · obtain ⟨hcopy, hphase⟩ := hs.copies w c hc
    exact ⟨hcopy.put v, hphase⟩
  · rcases hs.ran with hnil | ⟨hone, hphase⟩
    · exact Or.inl hnil
    · exact Or.inr ⟨hone, fun h => hphase (hv h)⟩

/-- **THE UPDATE IS EXCLUSIVE**: one that succeeds found the workload still `Scheduled`,
    so nobody had run it. -/
theorem Inv.update {s : Claims ι} (hs : Inv s) {w : ι} {copy o : Object}
    (hpc : s.pc w = .update copy)
    (ho : s.server.cas copy.version (asRunning copy.value s.server.value) = some o) :
    Inv ((s.write o).runOneWorkload w) := by
  obtain ⟨hcopy, hphase⟩ := hs.copies w copy hpc
  obtain ⟨heq, rfl⟩ := (cas_eq_some_iff hcopy).mp ho
  have hnil : s.ran = [] := by
    rcases hs.ran with hnil | ⟨-, hne⟩
    · exact hnil
    · rw [heq] at hphase
      exact absurd hphase hne
  have hwritten : Inv (s.write (s.server.put (asRunning copy.value s.server.value))) :=
    hs.write (fun h => by cases h)
  have hmoved : Inv ((s.write _).goto w .running) :=
    hwritten.goto_of_ne w (fun c h => by cases h)
  refine ⟨hmoved.copies, Or.inr ⟨⟨w, ?_⟩, fun h => by cases h⟩⟩
  exact congrArg (w :: ·) hnil

/-- STEP: a step whose `Get`s find the workload `Scheduled` keeps the invariant. -/
theorem step_inv {workerID : ι → String} {s t : Claims ι} {a : Label ι} (hs : Inv s)
    (hC : GetsWhileScheduled s a) (h : step workerID s a = some t) : Inv t := by
  cases call_of_step h with
  | @discover mode w hpc => exact hs.goto_of_ne w (fun c h => by cases h)
  | gone hpc hphase => exact absurd hC hphase
  | @get w hpc => exact hs.goto_of_ne w (fun c h => by cases h)
  | @patch w copy hpc =>
      have hwritten : Inv (s.write (s.server.put
          (claimPatch copy.value (workerID w) s.server.value))) :=
        hs.write (fun hphase => hphase)
      exact hwritten.goto_of_ne w (fun c h => by cases h)
  | @getAgain w hpc =>
      refine hs.goto w (fun c hc => ?_)
      obtain rfl := Pc.update.inj hc
      exact ⟨CopyOf.refl _, hC⟩
  | @conflict w copy hpc hcas => exact hs.goto_of_ne w (fun c h => by cases h)
  | update hpc hcas => exact hs.update hpc hcas
  | @fail w => exact hs.goto_of_ne w (fun c h => by cases h)
  | @finish w hpc => exact hs.goto_of_ne w (fun c h => by cases h)
  | other hphase => exact hs.write hphase

/-- **AT MOST ONE WORKER RUNS THE WORKLOAD**, in every run in which both `Get`s of every
    claim find it `Scheduled`. -/
theorem at_most_one_worker {workerID : ι → String} {server : Object} {history : List Object}
    {as : List (Label ι)} {t : Claims ι}
    (h : Runs (step workerID) GetsWhileScheduled (start server history) as t) :
    AtMostOneWorker t := by
  have hstart : Inv (start server history : Claims ι) := by
    refine ⟨fun w c hc => ?_, Or.inl rfl⟩
    cases (show Pc.idle = .update c from hc)
  have ht := h.invariant (fun s a t hs hC hst => step_inv hs hC hst) hstart
  intro w hw w' hw'
  rcases ht.ran with hnil | ⟨⟨w₀, hone⟩, -⟩
  · rw [hnil] at hw
    cases hw
  · rw [hone] at hw hw'
    rw [List.mem_singleton.mp hw, List.mem_singleton.mp hw']

/-- A workload that has just been scheduled. -/
def scheduledObject : Object :=
  ⟨1, { ns := "ns", name := "w", annotations := ∅, deletionTimestamp := none
        spec := ⟨"team", 1, 1, 1, "h100_sxm", 1, .training⟩, phase := .scheduled
        queuedAt := some 1 }⟩

/-- Two workers race: both patch, and the second status update conflicts. -/
def race : List (Label String) :=
  [.discover .poll "a", .discover (.watch 0) "b",
    .get "a", .get "b", .patch "a", .patch "b", .getAgain "a", .getAgain "b",
    .update "a", .update "b"]

/-- In the race only the first worker runs the workload. -/
theorem at_most_one_worker_race :
    ∃ t, Runs (step id) GetsWhileScheduled (start scheduledObject []) race t
      ∧ t.ran = ["a"] ∧ AtMostOneWorker t := by
  have hexec : (exec (guarded (step id) GetsWhileScheduled) (start scheduledObject [])
      race).map Claims.ran = some ["a"] := by decide +kernel
  obtain ⟨t, ht, hran⟩ := Option.map_eq_some_iff.mp hexec
  have hrun := Runs.of_exec_guarded ht
  exact ⟨t, hrun, hran, at_most_one_worker hrun⟩

/-- One worker has the workload in its queue, another in a cache that is behind. -/
def lateGet : List (Label String) :=
  [.discover .queue "a", .get "a", .patch "a", .getAgain "a", .update "a",
    .discover (.watch 2) "b", .get "b"]

/-- The second worker's `Get` finds the workload `Running`, returns nil, and it is run
    twice. -/
theorem lateGet_runs_twice :
    ¬∀ as t, Runs (step id) Always (start scheduledObject []) as t → AtMostOneWorker t := by
  intro h
  have hexec : (exec (step id) (start scheduledObject []) lateGet).map Claims.ran
      = some ["b", "a"] := by decide +kernel
  obtain ⟨t, ht, hran⟩ := Option.map_eq_some_iff.mp hexec
  have hone := h lateGet t (Runs.of_exec ht) "b" (by rw [hran]; decide) "a"
    (by rw [hran]; decide)
  exact absurd hone (by decide)

end GpuClaim
