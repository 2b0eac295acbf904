import GpuScheduler.CycleProofs

/-! # Who is preempted by a batch

    Preemption is meant for running workloads.  The batch loop, however, puts every
    workload it has just admitted into the running list of its working copy, so a
    later turn of the same batch can pick it as a victim.

    Whether that happens is a matter of the snapshot: the copies a batch goes through
    are determined by it (`FitReach`), and on a copy the just-admitted workloads are
    spared exactly when the candidates that come before them in victim order already
    free the shortfall (`Shielded`). -/

namespace GpuBatchVictims

open GoMaps GoSort GpuInputs GpuFairness GpuPreemption GpuSelection GpuCycle

variable {σ : Type}

/-- The workload fits the free capacity. -/
def FitsFree (inputs : SchedulingInputs) (w : QueuedWorkload) : Prop :=
  ∃ cap, Eligible inputs w cap ∧ w.gpuCount ≤ cap.freeDevices

/-- The workload does not fit, and the devices held on its profile cover the shortfall. -/
def Preemptable (inputs : SchedulingInputs) (w : QueuedWorkload) : Prop :=
  ∃ cap, Eligible inputs w cap ∧ cap.freeDevices < w.gpuCount
    ∧ w.gpuCount ≤ cap.freeDevices + held w.profile inputs.runningWorkloads

/-- The first workload of the fair order with a property. -/
def FirstInOrder (inputs : SchedulingInputs) (P : QueuedWorkload → Prop)
    (w : QueuedWorkload) : Prop :=
  ∃ pre post, fairOrder inputs.queuedWorkloads inputs.tenantQuotas = pre ++ w :: post
    ∧ P w ∧ ∀ q ∈ pre, ¬ P q

/-- The lowest priority up to which the candidates can free the need. -/
def LowestCeiling (need : Int) (cands : List RunningWorkload) (p : Int) : Prop :=
  need ≤ gpuSum (upTo p cands)
    ∧ ∀ x ∈ cands, x.priority < p → gpuSum (upTo x.priority cands) < need

/-- **SHIELDED**: if the copy calls for preemption at all, every candidate outside
    `running` stands in victim order behind others that free the need. -/
def Shielded (running : List RunningWorkload) (copy : SchedulingInputs) : Prop :=
  (∀ q ∈ copy.queuedWorkloads, ¬ FitsFree copy q) →
  ∀ w cap, FirstInOrder copy (Preemptable copy) w →
    copy.fleetFreeCapacity.entry w.profile = some cap →
    ∀ c ∈ candidatesOn w.profile copy.runningWorkloads,
      LowestCeiling (w.gpuCount - cap.freeDevices)
        (candidatesOn w.profile copy.runningWorkloads) c.priority →
      ∀ a ∈ upTo c.priority (candidatesOn w.profile copy.runningWorkloads), a ∉ running →
        w.gpuCount - cap.freeDevices
          ≤ gpuSum ((victimOrder (upTo c.priority
            (candidatesOn w.profile copy.runningWorkloads))).takeWhile (fun r => r ≠ a))

/-- The copies a batch goes through: each admits the first workload that fits, which
    must have a well-formed ID, and takes its devices. -/
inductive FitReach (now : Int) (inputs : SchedulingInputs) : Nat → SchedulingInputs → Prop where
  | start : FitReach now inputs 0 inputs
  | fit {k : Nat} {copy copy' : SchedulingInputs} {w : QueuedWorkload} :
      FitReach now inputs k copy → FirstInOrder copy (FitsFree copy) w →
      workloadKey w.workloadID ≠ none → applyVirtualAdmission copy w now = .ok copy' →
      FitReach now inputs (k + 1) copy'

/-! ## The first workload with a property -/

/-- `find?` finds the first element with the property it decides. -/
private theorem find?_eq_some_split {α : Type} {f : α → Bool} {P : α → Prop} {l : List α}
    {w : α} (hP : ∀ q ∈ l, f q = true ↔ P q) :
    l.find? f = some w ↔ ∃ pre post, l = pre ++ w :: post ∧ P w ∧ ∀ q ∈ pre, ¬ P q := by
  rw [List.find?_eq_some_iff_append]
  constructor
  · rintro ⟨hw, pre, post, rfl, hpre⟩
    have hmem : ∀ q ∈ pre, q ∈ pre ++ w :: post := fun q hq =>
      List.mem_append.mpr (Or.inl hq)
    refine ⟨pre, post, rfl, (hP w (by simp)).mp hw, fun q hq hPq => ?_⟩
    have hfq := (hP q (hmem q hq)).mpr hPq
    have hnot := hpre q hq
    rw [hfq] at hnot
    cases hnot
  · rintro ⟨pre, post, rfl, hw, hpre⟩
    refine ⟨(hP w (by simp)).mpr hw, pre, post, rfl, fun q hq => ?_⟩
    cases hfq : f q with
    | false => rfl
    | true => exact absurd ((hP q (List.mem_append.mpr (Or.inl hq))).mp hfq) (hpre q hq)

/-- The first workload with a property is in the queue. -/
theorem FirstInOrder.mem {copy : SchedulingInputs} {P : QueuedWorkload → Prop}
    {w : QueuedWorkload} (h : FirstInOrder copy P w) : w ∈ copy.queuedWorkloads := by
  obtain ⟨pre, post, hfair, -⟩ := h
  have hw : w ∈ fairOrder copy.queuedWorkloads copy.tenantQuotas := by
    rw [hfair]
    simp
  exact mem_fairOrder.mp hw

section
variable {copy : SchedulingInputs} {w : QueuedWorkload}

private theorem fair_ok (hv : Valid copy) :
    ∀ q ∈ fairOrder copy.queuedWorkloads copy.tenantQuotas, q.fields.Ok :=
  fun q hq => hv.queued q (mem_fairOrder.mp hq)

theorem find?_fits_iff (hv : Valid copy) :
    (fairOrder copy.queuedWorkloads copy.tenantQuotas).find? (fitsWithoutPreemption copy)
      = some w ↔ FirstInOrder copy (FitsFree copy) w :=
  find?_eq_some_split (fun q hq => fitsWithoutPreemption_iff (fair_ok hv q hq))

theorem find?_preempts_iff (hv : Valid copy) :
    (fairOrder copy.queuedWorkloads copy.tenantQuotas).find?
        (fun q => (admitWithPreemption copy q).isSome) = some w
      ↔ FirstInOrder copy (Preemptable copy) w :=
  find?_eq_some_split (fun q hq => exists_admitWithPreemption_iff hv (fair_ok hv q hq))

/-- What the first pass turns down does not fit. -/
theorem not_fitsFree (hv : Valid copy)
    (hno : ∀ q ∈ copy.queuedWorkloads, fitsWithoutPreemption copy q = false) :
    ∀ q ∈ copy.queuedWorkloads, ¬ FitsFree copy q := by
  intro q hq hfits
  have htrue := (fitsWithoutPreemption_iff (hv.queued q hq)).mpr hfits
  rw [hno q hq] at htrue
  cases htrue

/-- The first workload that preemption can place is admissible. -/
theorem FirstInOrder.admissible (h : FirstInOrder copy (Preemptable copy) w) :
    Admissible copy w := by
  obtain ⟨-, -, -, ⟨cap, he, -, hle⟩, -⟩ := h
  exact ⟨cap, he, hle⟩

end

/-! ## One copy -/

/-- The victims of the band loop are taken under the lowest ceiling that suffices, and
    that ceiling is the only one. -/
private theorem widen_ceiling {need : Int} {profile : String}
    {running vs : List RunningWorkload} (hpos : ∀ r ∈ running, 0 ≤ r.gpuCount)
    (h : widen need [] (candidatesOn profile running) = some vs) :
    ∃ c ∈ candidatesOn profile running,
      LowestCeiling need (candidatesOn profile running) c.priority
      ∧ takeVictims need 0 (victimOrder (upTo c.priority (candidatesOn profile running)))
        = some vs ∧ 0 < need
      ∧ ∀ c' ∈ candidatesOn profile running,
        LowestCeiling need (candidatesOn profile running) c'.priority →
        c'.priority = c.priority := by
  obtain ⟨c, hc, hpick, hbelow⟩ := widen_some (candidatesOn_sorted profile running) h
  obtain ⟨hneed, htake, -, ⟨rest, hrest⟩, hle⟩ := greedyPick_some hpick
  have hposc : ∀ r ∈ candidatesOn profile running, 0 ≤ r.gpuCount :=
    fun r hr => hpos r (mem_candidatesOn.mp hr).1
  have hposu : ∀ p, ∀ r ∈ upTo p (candidatesOn profile running), 0 ≤ r.gpuCount :=
    fun p r hr => hposc r (List.mem_of_mem_filter hr)
  have hceil : LowestCeiling need (candidatesOn profile running) c.priority := by
    refine ⟨?_, fun x hx hlt => (greedyPick_none_iff (hposu _) hneed).mp (hbelow x hx hlt)⟩
    have hsum := gpuSum_perm (sliceStable_perm victimLess
      (upTo c.priority (candidatesOn profile running)))
    have hord : gpuSum (victimOrder (upTo c.priority (candidatesOn profile running)))
        = gpuSum vs + gpuSum rest := by rw [hrest, gpuSum_append]
    have hrestnn : 0 ≤ gpuSum rest := by
      refine gpuSum_nonneg (fun r hr => hposu c.priority r ?_)
      rw [← mem_victimOrder, hrest]
      exact List.mem_append.mpr (Or.inr hr)
    rw [victimOrder] at hord
    omega
  refine ⟨c, hc, hceil, htake, hneed, fun c' hc' hceil' => ?_⟩
  rcases lt_trichotomy c'.priority c.priority with hlt | heq | hgt
  · exact absurd hceil'.1 (not_le.mpr (hceil.2 c' hc' hlt))
  · exact heq
  · exact absurd hceil.1 (not_le.mpr (hceil'.2 c hc hgt))

/-- The pool under a ceiling inherits distinctness from the running workloads. -/
private theorem nodup_pool (profile : String) (p : Int) {running : List RunningWorkload}
    (hrun : running.Nodup) : (victimOrder (upTo p (candidatesOn profile running))).Nodup := by
  have hcand := (sliceStable_perm candidateLess
    (running.filter (fun r => r.profile = profile))).nodup_iff.mpr (hrun.filter _)
  exact (sliceStable_perm victimLess _).nodup_iff.mpr (hcand.filter _)

/-- **SHIELDED IS EXACT** on one copy: the selection's victims are all in `running`
    exactly when the other candidates are shielded. -/
theorem victims_mem_iff {copy : SchedulingInputs} {running : List RunningWorkload}
    (hv : Valid copy) :
    (∀ v ∈ (selectOneForAdmission copy).victims, v ∈ running) ↔ Shielded running copy := by
  have hpos : ∀ r ∈ copy.runningWorkloads, 0 ≤ r.gpuCount :=
    fun r hr => le_of_lt (hv.running r hr).gpuCount
  cases selection_cases hv with
  | fits w cap _ mem eligible count first id victims =>
      rw [victims]
      refine ⟨fun _ hno => ?_, fun _ v hmem => by cases hmem⟩
      exact absurd ⟨cap, eligible, count⟩ (hno w mem)
  | nothing _ none id victims =>
      rw [victims]
      refine ⟨fun _ _ w _ hfirst => ?_, fun _ v hmem => by cases hmem⟩
      exact absurd hfirst.admissible (none w hfirst.mem)
  | preempts w cap _ mem eligible short picked noFit first id =>
      obtain ⟨c, hc, hceil, htake, hneed, huniq⟩ := widen_ceiling hpos picked
      have hposv : ∀ r ∈ victimOrder (upTo c.priority
          (candidatesOn w.profile copy.runningWorkloads)), 0 ≤ r.gpuCount := by
        intro r hr
        have hr' := List.mem_of_mem_filter (mem_victimOrder.mp hr)
        exact hpos r (mem_candidatesOn.mp hr').1
      have hspared : ∀ a ∈ upTo c.priority (candidatesOn w.profile copy.runningWorkloads),
          a ∉ (selectOneForAdmission copy).victims
            ↔ w.gpuCount - cap.freeDevices ≤ gpuSum ((victimOrder (upTo c.priority
              (candidatesOn w.profile copy.runningWorkloads))).takeWhile (fun r => r ≠ a)) := by
        intro a ha
        have := not_mem_takeVictims_iff htake hneed hposv
          (nodup_pool w.profile c.priority hv.nodup_running.of_map) (mem_victimOrder.mpr ha)
        rw [Int.zero_add] at this
        exact this
      constructor
      · intro hvic _ w' cap' hfirst hentry c' hc' hceil' a ha hnot
        have hw : w' = w := by
          have := (find?_preempts_iff hv).mpr hfirst
          exact Option.some.inj (this.symm.trans first)
        subst hw
        have hcap : cap' = cap := Option.some.inj (hentry.symm.trans eligible.entry)
        subst hcap
        rw [huniq c' hc' hceil'] at ha ⊢
        exact (hspared a ha).mp (fun hmem => hnot (hvic a hmem))
      · intro hsh v hmem
        by_contra hnot
        have hvpool : v ∈ upTo c.priority (candidatesOn w.profile copy.runningWorkloads) := by
          obtain ⟨rest, hl⟩ := takeVictims_append htake
          rw [← mem_victimOrder, hl]
          exact List.mem_append.mpr (Or.inl hmem)
        have hfirst := (find?_preempts_iff hv).mp first
        have hshield := hsh (not_fitsFree hv noFit) w cap hfirst eligible.entry c hc hceil v
          hvpool hnot
        exact (hspared v hvpool).mpr hshield hmem

/-! ## A whole batch -/

/-- All victims of a batch are running workloads of the snapshot. -/
def SparesAdmitted (inputs : SchedulingInputs) (its : List Iteration) : Prop :=
  ∀ it ∈ its, ∀ v ∈ it.selection.victims, v ∈ inputs.runningWorkloads

/-- Each copy within the bound is shielded. -/
def AllShielded (now : Int) (n : Nat) (inputs : SchedulingInputs) : Prop :=
  ∀ k < n, ∀ copy, FitReach now inputs k copy → Shielded inputs.runningWorkloads copy

theorem FitReach.valid {now : Int} {inputs copy : SchedulingInputs} {k : Nat}
    (h : FitReach now inputs k copy) (hv : Valid inputs) (hnow : now ≠ 0) : Valid copy := by
  induction h with
  | start => exact hv
  | fit _ hfirst _ hcopy ih => exact valid_applyVirtualAdmission ih hfirst.mem hnow hcopy

/-- A patch succeeds on well-formed IDs only. -/
private theorem key_of_performed {calls : CycleCalls σ} {sel : Selection} {s s' : σ}
    (h : perform calls sel s = (s', .admitted)) : workloadKey sel.selectedID ≠ none := by
  intro hkey
  rw [perform] at h
  split at h
  · cases congrArg Prod.snd h
  · rw [patchWorkloadAdmittedAndScheduled, hkey] at h
    cases congrArg Prod.snd h

/-- Whatever the calls do, a batch decides on copies it reaches within its bound. -/
theorem batch_fitReach (calls : CycleCalls σ) {now : Int} (hnow : now ≠ 0) (n : Nat)
    {inputs : SchedulingInputs} (hv : Valid inputs) (s : σ) :
    ∀ it ∈ (batch calls now n inputs s).iterations,
      it.selection = selectOneForAdmission it.working
        ∧ ∃ k < n, FitReach now inputs k it.working := by
  -- the copy after `k` turns, and the turns left
  have hrun : ∀ k, FitReach now inputs k inputs →
      ∀ it ∈ (batch calls now n inputs s).iterations,
        it.selection = selectOneForAdmission it.working
          ∧ ∃ j < k + n, FitReach now inputs j it.working := by
    refine batch_induction (P := fun n copy its => ∀ k, FitReach now inputs k copy →
      ∀ it ∈ its, it.selection = selectOneForAdmission it.working
        ∧ ∃ j < k + n, FitReach now inputs j it.working) hnow ?_ ?_ ?_ n hv s
    · intro _ _ _ _ _ it hit
      cases hit
    · intro m it w cap _ hd k hk it' hit'
      rw [List.mem_singleton.mp hit']
      exact ⟨hd.selection, k, by omega, hk⟩
    · intro m it w cap copy' _ _ its hvalid hd hgo ih k hk it' hit'
      have hkey : workloadKey w.workloadID ≠ none := by
        rw [← hd.id]
        exact key_of_performed hgo.performed
      have hnext : FitReach now inputs (k + 1) copy' :=
        .fit hk ((find?_fits_iff hvalid).mp hgo.first) hkey hgo.copy
      rcases List.mem_cons.mp hit' with rfl | hit'
      · exact ⟨hd.selection, k, by omega, hk⟩
      · obtain ⟨hsel, j, hj, hreach⟩ := ih (k + 1) hnext it' hit'
        exact ⟨hsel, j, by omega, hreach⟩
  intro it hit
  obtain ⟨hsel, j, hj, hreach⟩ := hrun 0 .start it hit
  exact ⟨hsel, j, by omega, hreach⟩

/-- With succeeding calls, a selection with a well-formed ID is admitted. -/
private theorem perform_succeeding {sel : Selection} {s : σ}
    (hvictims : sel.victims = []) (hkey : workloadKey sel.selectedID ≠ none) :
    perform succeeding sel s = (s, .admitted) := by
  rw [perform, if_pos hvictims]
  simp only [patchWorkloadAdmittedAndScheduled]
  cases hk : workloadKey sel.selectedID with
  | none => exact absurd hk hkey
  | some p => rfl

/-- With succeeding calls, a batch passes through every copy it can reach. -/
theorem batch_succeeding_suffix {now : Int} (hnow : now ≠ 0) {inputs copy : SchedulingInputs}
    (hv : Valid inputs) (s : σ) {k : Nat} (h : FitReach now inputs k copy) (m : Nat) :
    ∃ pre, (batch succeeding now (k + m) inputs s).iterations
      = pre ++ (batch succeeding now m copy s).iterations := by
  induction h generalizing m with
  | start => exact ⟨[], by rw [Nat.zero_add]; rfl⟩
  | @fit k copy copy' w hreach hfirst hkey hcopy ih =>
      have hvalid := hreach.valid hv hnow
      have hfind := (find?_fits_iff hvalid).mpr hfirst
      obtain ⟨pre, hpre⟩ := ih (m + 1)
      have hsel : (selectOneForAdmission copy).selectedID = w.workloadID
          ∧ (selectOneForAdmission copy).victims = [] := by
        rw [selectOneForAdmission, selectOneForAdmissionWith, ← fitsWithoutPreemption, hfind]
        exact ⟨rfl, rfl⟩
      have hid : (selectOneForAdmission copy).selectedID ≠ "" := by
        intro hempty
        have hnone := (selectedID_eq_empty_iff hvalid).mp hempty
        have hfits : fitsWithoutPreemption copy w = true := List.find?_some hfind
        exact hnone w hfirst.mem ((admissible_iff hvalid hfirst.mem).mpr (Or.inl hfits))
      have hperf : perform succeeding (selectOneForAdmission copy) s = (s, .admitted) :=
        perform_succeeding hsel.2 (by rw [hsel.1]; exact hkey)
      have hbyID : queuedWorkloadByID copy (selectOneForAdmission copy).selectedID = some w := by
        rw [hsel.1]
        exact queuedWorkloadByID_of_mem hvalid.nodup_queued hfirst.mem
      have hturn : turn succeeding now copy s
          = .next ⟨copy, selectOneForAdmission copy, .admitted⟩ copy' s := by
        simp only [turn, if_neg hid, hperf, hbyID, hcopy]
      refine ⟨pre ++ [⟨copy, selectOneForAdmission copy, .admitted⟩], ?_⟩
      have hlen : k + 1 + m = k + (m + 1) := by omega
      rw [hlen, hpre, batch, hturn, List.append_assoc]
      rfl

/-- A batch with a turn left takes the selection on its copy into account. -/
private theorem head_selection (calls : CycleCalls σ) (now : Int) (m : Nat) (s : σ)
    {copy : SchedulingInputs} (hid : (selectOneForAdmission copy).selectedID ≠ "") :
    ∃ it ∈ (batch calls now (m + 1) copy s).iterations,
      it.selection = selectOneForAdmission copy := by
  rw [batch]
  cases ht : turn calls now copy s with
  | noCandidate reason =>
      simp only [turn, if_neg hid] at ht
      split at ht
      · split at ht
        · cases ht
        · split at ht <;> cases ht
      · cases ht
  | stop it copy' s' =>
      exact ⟨it, List.mem_cons_self .., (turn_selects (Or.inl ht)).2.1⟩
  | next it copy' s' =>
      exact ⟨it, List.mem_cons_self .., (turn_selects (Or.inr ht)).2.1⟩

/-- **WHEN A BATCH SPARES WHAT IT ADMITTED**: whatever the outside calls do, all its
    victims are running workloads of the snapshot, exactly when every copy it can
    reach within its bound is shielded. -/
theorem spares_admitted_iff {now : Int} (hnow : now ≠ 0) (maxAdmissionsPerCycle : Int)
    {inputs : SchedulingInputs} (hv : validate inputs = .ok ()) (s : σ) :
    (∀ calls : CycleCalls σ, SparesAdmitted inputs
        (batch calls now (maxAdmissions maxAdmissionsPerCycle) inputs s).iterations)
      ↔ AllShielded now (maxAdmissions maxAdmissionsPerCycle) inputs := by
  have hvalid := validate_ok_iff.mp hv
  constructor
  · intro hspare k hk copy hreach
    have hvc := hreach.valid hvalid hnow
    rw [← victims_mem_iff hvc]
    by_cases hid : (selectOneForAdmission copy).selectedID = ""
    · -- nothing is selected, so there are no victims
      intro v hmem
      cases selection_cases hvc with
      | fits _ _ _ _ _ _ _ _ victims => rw [victims] at hmem; cases hmem
      | nothing _ _ _ victims => rw [victims] at hmem; cases hmem
      | preempts w _ _ mem _ _ _ _ first id =>
          have hnone := (selectedID_eq_empty_iff hvc).mp hid w mem
          exact absurd ((admissible_iff hvc mem).mpr (Or.inr (List.find?_some
            (p := fun q => (admitWithPreemption copy q).isSome) first))) hnone
    · obtain ⟨pre, hpre⟩ := batch_succeeding_suffix hnow hvalid s hreach
        (maxAdmissions maxAdmissionsPerCycle - k)
      have hlen : k + (maxAdmissions maxAdmissionsPerCycle - k)
          = maxAdmissions maxAdmissionsPerCycle := by omega
      obtain ⟨m, hm⟩ : ∃ m, maxAdmissions maxAdmissionsPerCycle - k = m + 1 :=
        ⟨maxAdmissions maxAdmissionsPerCycle - k - 1, by omega⟩
      obtain ⟨it, hit, hsel⟩ := head_selection succeeding now m s hid
      rw [hlen, hm] at hpre
      have := hspare succeeding it (by rw [hpre]; exact List.mem_append.mpr (Or.inr hit))
      rw [hsel] at this
      exact this
  · intro hall calls it hit
    obtain ⟨hsel, k, hk, hreach⟩ := batch_fitReach calls hnow _ hvalid s it hit
    rw [hsel]
    exact (victims_mem_iff (hreach.valid hvalid hnow)).mpr (hall k hk _ hreach)

/-- The large workload of `twoQueued` preempts the small one, which the same batch has
    just admitted; nothing was running. -/
theorem twoQueued_preempts_admitted :
    validate twoQueued = .ok ()
      ∧ ¬ SparesAdmitted twoQueued
        (batch succeeding 7 (maxAdmissions 2) twoQueued ()).iterations := by
  refine ⟨rfl, fun h => ?_⟩
  have hvic : ∃ it ∈ (batch succeeding 7 (maxAdmissions 2) twoQueued ()).iterations,
      it.selection.victims ≠ [] := by decide +kernel
  obtain ⟨it, hit, hne⟩ := hvic
  obtain ⟨v, hmem⟩ := List.exists_mem_of_ne_nil _ hne
  cases h it hit v hmem

/-- The same queue with a large workload of low priority running and one device free. -/
def oneRunning : SchedulingInputs :=
  { twoQueued with
    runningWorkloads := [⟨"ns/old", "u", 0, 1, 2, 40, "h100_sxm", 5, .training⟩]
    fleetFreeCapacity :=
      ⟨1, 80, some ((∅ : GoMap String ProfileFreeCapacity).insert "h100_sxm" ⟨1, 80, 80⟩)⟩ }

/-- There the running workload alone frees the shortfall, and what the batch admits is
    spared. -/
theorem spares_admitted_oneRunning :
    SparesAdmitted oneRunning
      (batch succeeding 7 (maxAdmissions 2) oneRunning ()).iterations := by
  have hvalid : validate oneRunning = .ok () := rfl
  refine (spares_admitted_iff (by decide) 2 hvalid ()).mpr ?_ succeeding
  have hv := validate_ok_iff.mp hvalid
  intro k hk copy hreach
  have hvc := hreach.valid hv (by decide)
  rw [← victims_mem_iff hvc]
  cases hreach with
  | start => decide +kernel
  | fit hreach hfirst hkey hcopy =>
      cases hreach with
      | start =>
          -- the small workload is admitted first
          have hfind := (find?_fits_iff hv).mpr hfirst
          have hsmall : (fairOrder oneRunning.queuedWorkloads oneRunning.tenantQuotas).find?
              (fitsWithoutPreemption oneRunning)
              = some ⟨"ns/small", "t", 10, 1, 1, 40, "h100_sxm", 5, .training⟩ := by
            decide +kernel
          have hw := Option.some.inj (hsmall.symm.trans hfind)
          subst hw
          have hcopy' : applyVirtualAdmission oneRunning
              ⟨"ns/small", "t", 10, 1, 1, 40, "h100_sxm", 5, .training⟩ 7
              = .ok (oneRunning.afterAdmission
                ⟨"ns/small", "t", 10, 1, 1, 40, "h100_sxm", 5, .training⟩ ⟨1, 80, 80⟩ 7) := rfl
          have hc := Except.ok.inj (hcopy'.symm.trans hcopy)
          subst hc
          decide +kernel
      | fit =>
          have hmax : maxAdmissions 2 = 2 := rfl
          omega

end GpuBatchVictims
