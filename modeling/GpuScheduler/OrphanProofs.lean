import GpuScheduler.ClaimProofs

/-! # Orphaned claims

    `claimWorkload` marks a workload with an annotation before it moves it to `Running`,
    and every discovery mode skips a workload that is marked.  If a call after the patch
    fails, or the status update conflicts, the worker gives up and nothing takes the mark
    away: the workload stays `Scheduled`, and no worker looks at it again.

    The steps of the workers are those of `GpuClaim`; the other writers may write
    anything, a new `Scheduled` episode included.  `noOrphan_iff_runs` is the exact
    condition on the steps under which a `Scheduled` workload is always claimable or being
    claimed. -/

namespace GpuOrphan

open GoMaps StepRuns VersionedStore GpuWorkload GpuClaim

variable {ι : Type}

/-- Between the annotation patch and the status update. -/
def claiming : Pc → Bool
  | .getAgain | .update _ => true
  | .idle | .get | .patch _ | .running => false

/-- A `Scheduled` workload passes the test of the discovery modes, or a worker is claiming
    it. -/
def NoOrphan (s : Claims ι) : Prop :=
  s.server.value.phase = .scheduled →
    claimable s.server.value = true ∨ ∃ w, claiming (s.pc w) = true

/-- The same without one of the workers. -/
def NoOrphanWithout (s : Claims ι) (w : ι) : Prop :=
  s.server.value.phase = .scheduled →
    claimable s.server.value = true ∨ ∃ w', w' ≠ w ∧ claiming (s.pc w') = true

/-- The condition on a step, in the state before it.  A call that fails after the patch, or
    a status update that conflicts, does so when the workload has left `Scheduled`, has
    lost its mark, or has another worker claiming it; nor does another writer mark a
    `Scheduled` workload that nobody is claiming. -/
def Keeps (s : Claims ι) : Label ι → Prop
  | .fail w => claiming (s.pc w) = true → NoOrphanWithout s w
  | .update w =>
      (∃ copy, s.pc w = .update copy ∧ copy.version = s.server.version) ∨ NoOrphanWithout s w
  | .other value => value.phase = .scheduled →
      claimable value = true ∨ ∃ w, claiming (s.pc w) = true
  | .discover _ _ | .get _ | .patch _ | .getAgain _ | .finish _ => True

/-- Annotated, and `Scheduled`, is what the first half of `NoOrphan` is about. -/
theorem noOrphan_iff (s : Claims ι) :
    NoOrphan s ↔ ¬(s.server.value.phase = .scheduled
      ∧ (s.server.value.annotations.lookup annotationClaimedBy).isSome = true
      ∧ ∀ w, claiming (s.pc w) = false) := by
  constructor
  · rintro h ⟨hphase, hmark, hnone⟩
    rcases h hphase with hclaimable | ⟨w, hw⟩
    · rw [claimable, Bool.and_eq_true, Option.isNone_iff_eq_none] at hclaimable
      rw [hclaimable.2] at hmark
      cases hmark
    · rw [hnone w] at hw
      cases hw
  · intro h hphase
    by_contra hne
    push Not at hne
    refine h ⟨hphase, ?_, fun w => Bool.eq_false_iff.mpr (hne.2 w)⟩
    cases hlookup : s.server.value.annotations.lookup annotationClaimedBy with
    | none =>
        refine absurd ?_ hne.1
        rw [claimable, hphase, hlookup]
        rfl
    | some id => rfl

/-- A worker that is not claiming does not count. -/
theorem NoOrphan.without {s : Claims ι} (hs : NoOrphan s) {w : ι}
    (hw : claiming (s.pc w) = false) : NoOrphanWithout s w := by
  intro hphase
  rcases hs hphase with hclaimable | ⟨w', hw'⟩
  · exact Or.inl hclaimable
  · refine Or.inr ⟨w', ?_, hw'⟩
    rintro rfl
    rw [hw] at hw'
    cases hw'

variable [DecidableEq ι]

/-- The steps of the workers, and any write by somebody else. -/
def step (workerID : ι → String) (s : Claims ι) : Label ι → Option (Claims ι)
  | .other value => some (s.write (s.server.put value))
  | a => GpuClaim.step workerID s a

/-! ## One step -/

/-- A worker that is claiming keeps the workload from being an orphan. -/
theorem noOrphan_goto_claiming (s : Claims ι) (w : ι) {pc : Pc} (hpc : claiming pc = true) :
    NoOrphan (s.goto w pc) := by
  intro _
  refine Or.inr ⟨w, ?_⟩
  show claiming (Function.update s.pc w pc w) = true
  rw [Function.update_self]
  exact hpc

/-- A worker that is no longer claiming leaves the workload to the others. -/
theorem noOrphan_goto_iff (s : Claims ι) (w : ι) {pc : Pc} (hpc : claiming pc = false) :
    NoOrphan (s.goto w pc) ↔ NoOrphanWithout s w := by
  constructor
  · intro h hphase
    rcases h hphase with hclaimable | ⟨w', hw'⟩
    · exact Or.inl hclaimable
    · refine Or.inr ⟨w', ?_⟩
      change claiming (Function.update s.pc w pc w') = true at hw'
      by_cases hne : w' = w
      · rw [hne, Function.update_self, hpc] at hw'
        cases hw'
      · rw [Function.update_of_ne hne] at hw'
        exact ⟨hne, hw'⟩
  · intro h hphase
    rcases h hphase with hclaimable | ⟨w', hne, hw'⟩
    · exact Or.inl hclaimable
    · refine Or.inr ⟨w', ?_⟩
      show claiming (Function.update s.pc w pc w') = true
      rw [Function.update_of_ne hne]
      exact hw'

/-- A move from and to places where a worker is not claiming. -/
theorem NoOrphan.goto {s : Claims ι} (hs : NoOrphan s) {w : ι} {pc : Pc}
    (hw : claiming (s.pc w) = false) (hpc : claiming pc = false) : NoOrphan (s.goto w pc) :=
  (noOrphan_goto_iff s w hpc).mpr (hs.without hw)

/-- A step of a worker, or the write of somebody else. -/
theorem call_or_other {workerID : ι → String} {s t : Claims ι} {a : Label ι}
    (h : step workerID s a = some t) :
    (∃ value, a = .other value ∧ t = s.write (s.server.put value))
      ∨ ((∀ value, a ≠ .other value) ∧ Call workerID s a t) := by
  cases a with
  | other value => exact Or.inl ⟨value, rfl, (Option.some.inj h).symm⟩
  | _ => exact Or.inr ⟨fun value hne => (by cases hne), call_of_step h⟩

/-- A conflicting update leaves the workload to the others. -/
theorem noOrphan_conflict_iff {s : Claims ι} {w : ι} {copy : Object}
    (hpc : s.pc w = .update copy) (hver : copy.version ≠ s.server.version) :
    NoOrphan (s.goto w .idle) ↔ Keeps s (.update w) := by
  rw [noOrphan_goto_iff s w rfl]
  constructor
  · exact Or.inr
  · rintro (⟨copy', hpc', hver'⟩ | hwithout)
    · rw [hpc] at hpc'
      obtain rfl := Pc.update.inj hpc'
      exact absurd hver' hver
    · exact hwithout

/-- STEP: a step keeps the workload from being an orphan exactly when it meets the
    condition. -/
theorem noOrphan_step_iff {workerID : ι → String} {s t : Claims ι} {a : Label ι}
    (hs : NoOrphan s) (h : step workerID s a = some t) : NoOrphan t ↔ Keeps s a := by
  rcases call_or_other h with ⟨value, rfl, rfl⟩ | ⟨hworker, hcall⟩
  · rfl
  cases hcall with
  | discover hpc => exact iff_of_true (hs.goto (by rw [hpc]; rfl) rfl) trivial
  | gone hpc _ => exact iff_of_true (hs.goto (by rw [hpc]; rfl) rfl) trivial
  | get hpc => exact iff_of_true (hs.goto (by rw [hpc]; rfl) rfl) trivial
  | @patch w copy hpc => exact iff_of_true (noOrphan_goto_claiming _ w rfl) trivial
  | @getAgain w hpc => exact iff_of_true (noOrphan_goto_claiming _ w rfl) trivial
  | conflict hpc hcas =>
      refine noOrphan_conflict_iff hpc (fun hver => ?_)
      rw [Versioned.cas, if_pos hver] at hcas
      cases hcas
  | @update w copy o hpc hcas =>
      rw [Versioned.cas] at hcas
      split_ifs at hcas with hver
      refine iff_of_true (fun hphase => ?_) (Or.inl ⟨copy, hpc, hver⟩)
      rw [← Option.some.inj hcas] at hphase
      cases hphase
  | @fail w =>
      rw [noOrphan_goto_iff s w rfl]
      constructor
      · exact fun hwithout _ => hwithout
      · intro hkeeps
        cases hw : claiming (s.pc w) with
        | false => exact hs.without hw
        | true => exact hkeeps hw
  | finish hpc => exact iff_of_true (hs.goto (by rw [hpc]; rfl) rfl) trivial
  | @other value _ => exact absurd rfl (hworker value)

/-! ## Whole runs -/

/-- **NO ORPHANED CLAIM**: from any object that is not `Scheduled` and marked, an execution
    leaves no orphan in any of its states exactly when each of its steps meets the
    condition. -/
theorem noOrphan_iff_runs {workerID : ι → String} {server : Object} {history : List Object}
    (hstart : server.value.phase = .scheduled → claimable server.value = true)
    {as : List (Label ι)} {u : Claims ι}
    (h : exec (step workerID) (start server history) as = some u) :
    (∀ pre suf t, as = pre ++ suf →
        exec (step workerID) (start server history) pre = some t → NoOrphan t)
      ↔ Runs (step workerID) Keeps (start server history) as u := by
  have hfirst : NoOrphan (start server history : Claims ι) :=
    fun hphase => Or.inl (hstart hphase)
  exact every_state_iff_runs (I := fun _ => True) (P := NoOrphan) (fun _ _ _ _ _ => trivial)
    (fun _ _ _ _ hs hst => noOrphan_step_iff hs hst) h trivial hfirst

/-- The second `Get` of a claim fails. -/
def failedGet : List (Label Unit) := [.discover .poll (), .get (), .patch (), .fail ()]

/-- The workload stays `Scheduled` and marked, and the only worker is not claiming it. -/
theorem failedGet_orphans :
    ¬∀ (as : List (Label Unit)) (t : Claims Unit),
      exec (step (fun _ => "a")) (start scheduledObject []) as = some t → NoOrphan t := by
  intro h
  have hexec : (exec (step (fun _ => "a")) (start scheduledObject []) failedGet).map
      (fun t => (t.server.value.phase, claimable t.server.value, claiming (t.pc ())))
      = some (.scheduled, false, false) := by decide +kernel
  obtain ⟨t, ht, hstate⟩ := Option.map_eq_some_iff.mp hexec
  have hphase : t.server.value.phase = .scheduled := congrArg Prod.fst hstate
  have hclaimable : claimable t.server.value = false := congrArg (·.2.1) hstate
  have hpc : claiming (t.pc ()) = false := congrArg (·.2.2) hstate
  rcases h failedGet t ht hphase with hyes | ⟨w, hw⟩
  · rw [hclaimable] at hyes
    cases hyes
  · rw [hpc] at hw
    cases hw

/-- A first `Get` that fails, and the claim that succeeds. -/
def retriedClaim : List (Label Unit) :=
  [.discover .queue (), .fail (), .discover (.watch 0) (), .get (), .patch (), .getAgain (),
    .update ()]

/-- Nothing is orphaned on the way. -/
theorem retriedClaim_noOrphan :
    ∃ u : Claims Unit,
      exec (step (fun _ => "a")) (start scheduledObject []) retriedClaim = some u
      ∧ ∀ pre suf t, retriedClaim = pre ++ suf →
        exec (step (fun _ => "a")) (start scheduledObject []) pre = some t → NoOrphan t := by
  have hexec : exec (step (fun _ => "a")) (start scheduledObject []) retriedClaim = some _ := rfl
  refine ⟨_, hexec, (noOrphan_iff_runs (fun _ => by decide +kernel) hexec).mpr ?_⟩
  refine .cons trivial rfl (.cons (fun hw => by cases hw) rfl
    (.cons trivial rfl (.cons trivial rfl (.cons trivial rfl (.cons trivial rfl
      (.cons (Or.inl ⟨_, rfl, rfl⟩) rfl (.nil _)))))))

end GpuOrphan
