import GpuScheduler.CycleProofs
import GpuScheduler.SchedulerStateProofs

/-! # One cycle and its namespaces

    A namespace gets its own snapshot and its own working copy, but the cycle returns
    after the first namespace in which it admits anything.  What it admits in one
    namespace is compared with what it admits when no other namespace has a queue, a
    fleet or a quota (`SchedulerState.onlyIn`): two runs of one loop.

    `cycleBatches` records the iterations that `runSchedulingCycle` makes;
    `runSchedulingCycle_eq` says that they are all it does to the outside.  With
    succeeding calls a namespace gets what it gets on its own (`admittedIn_of_first`) or
    nothing (`admittedIn_of_earlier`), and
    `isolated_iff` is the exact condition for the two runs to agree. -/

namespace GpuIsolation

open GoStrings GoMaps GpuInputs GpuSelection GpuCycle GpuSchedulerState

variable {σ : Type}

/-! ## The iterations of a cycle -/

/-- The iterations of `runSchedulingCycle`, namespace by namespace. -/
def cycleBatches (calls : CycleCalls σ) (maxAdmissionsPerCycle : Int) (now : String → Int) :
    List String → σ → List (String × List Iteration)
  | [], _ => []
  | ns :: rest, s =>
      match calls.snapshotForNamespace s ns with
      | none => cycleBatches calls maxAdmissionsPerCycle now rest s
      | some inputs =>
        if inputs.queuedWorkloads = [] then
          cycleBatches calls maxAdmissionsPerCycle now rest s
        else match validate inputs with
        | .error _ => cycleBatches calls maxAdmissionsPerCycle now rest s
        | .ok () =>
          let b := batch calls (now ns) (maxAdmissions maxAdmissionsPerCycle) inputs s
          (ns, b.iterations) ::
            (if admittedIDs b.iterations = [] then
              cycleBatches calls maxAdmissionsPerCycle now rest b.state
            else [])

/-- The calls that a list of iterations makes, one iteration after another. -/
def replay (calls : CycleCalls σ) (its : List Iteration) (s : σ) : σ :=
  its.foldl (fun s it => (perform calls it.selection s).1) s

theorem replay_append (calls : CycleCalls σ) (its its' : List Iteration) (s : σ) :
    replay calls (its ++ its') s = replay calls its' (replay calls its s) :=
  List.foldl_append

/-- The outside state of a batch is what its iterations made of it. -/
theorem batch_state_eq (calls : CycleCalls σ) (now : Int) (n : Nat)
    (working : SchedulingInputs) (s : σ) :
    (batch calls now n working s).state
      = replay calls (batch calls now n working s).iterations s := by
  induction n generalizing working s with
  | zero => rfl
  | succ n ih =>
      rw [batch]
      cases ht : turn calls now working s with
      | noCandidate reason => rfl
      | stop it working' s' =>
          obtain ⟨-, -, -, hp⟩ := turn_selects (Or.inl ht)
          show s' = (perform calls it.selection s).1
          rw [hp]
      | next it working' s' =>
          obtain ⟨-, -, -, hp⟩ := turn_selects (Or.inr ht)
          show (batch calls now n working' s').state
            = replay calls (batch calls now n working' s').iterations
              (perform calls it.selection s).1
          rw [hp]
          exact ih working' s'

/-- What the cycle does to the outside is what its iterations do. -/
theorem runSchedulingCycle_eq (calls : CycleCalls σ) (maxAdmissionsPerCycle : Int)
    (now : String → Int) (namespaces : List String) (s : σ) :
    runSchedulingCycle calls maxAdmissionsPerCycle now namespaces s
      = replay calls ((cycleBatches calls maxAdmissionsPerCycle now namespaces s).flatMap
          Prod.snd) s := by
  induction namespaces generalizing s with
  | nil => rfl
  | cons ns rest ih =>
      rw [runSchedulingCycle, cycleBatches]
      cases calls.snapshotForNamespace s ns with
      | none => exact ih s
      | some inputs =>
        by_cases hq : inputs.queuedWorkloads = []
        · simp only [if_pos hq]
          exact ih s
        · simp only [if_neg hq]
          cases validate inputs with
          | error e => exact ih s
          | ok u =>
            have hst := batch_state_eq calls (now ns) (maxAdmissions maxAdmissionsPerCycle)
              inputs s
            simp only [List.flatMap_cons]
            rw [replay_append, ← hst]
            split_ifs
            · exact ih _
            · rfl

/-- The workloads, with their victims, that a list of iterations admitted. -/
def admitted (its : List Iteration) : List (String × List RunningWorkload) :=
  its.filterMap (fun it => if it.verdict = .admitted then
    some (it.selection.selectedID, it.selection.victims) else none)

/-- The workloads, with their victims, that a cycle admitted in a namespace. -/
def admittedIn (ns : String) (batches : List (String × List Iteration)) :
    List (String × List RunningWorkload) :=
  (batches.filter (fun b => b.1 = ns)).flatMap (fun b => admitted b.2)

theorem admitted_eq_nil_iff (its : List Iteration) : admitted its = [] ↔ admittedIDs its = [] := by
  rw [admitted, admittedIDs, List.filterMap_eq_nil_iff, List.filterMap_eq_nil_iff]
  refine forall_congr' (fun it => forall_congr' (fun _ => ?_))
  rw [Iteration.admittedID]
  split_ifs with h
  · exact ⟨fun h => (by cases h), fun h => (by cases h)⟩
  · exact ⟨fun _ => rfl, fun _ => rfl⟩

/-! ## Calls that succeed -/

/-- With succeeding calls the iterations of a batch depend on its snapshot alone. -/
theorem batch_iterations_eq {τ : Type} {calls : CycleCalls σ} {calls' : CycleCalls τ}
    (hcalls : Succeeds calls) (hcalls' : Succeeds calls') (now : Int) (n : Nat)
    (working : SchedulingInputs) (s : σ) (s' : τ) :
    (batch calls now n working s).iterations = (batch calls' now n working s').iterations := by
  induction n generalizing working s s' with
  | zero => rfl
  | succ n ih =>
      rw [batch, batch]
      simp only [turn]
      by_cases hid : (selectOneForAdmission working).selectedID = ""
      · rw [if_pos hid, if_pos hid]
      · rw [if_neg hid, if_neg hid]
        have hv := hcalls.perform (selectOneForAdmission working) s
        have hv' := hcalls'.perform (selectOneForAdmission working) s'
        rcases hp : GpuCycle.perform calls (selectOneForAdmission working) s with ⟨t, v⟩
        rcases hp' : GpuCycle.perform calls' (selectOneForAdmission working) s' with ⟨t', v'⟩
        rw [hp] at hv
        rw [hp'] at hv'
        obtain rfl : v = v' := hv.trans hv'.symm
        cases v with
        | errorPreempt => rfl
        | errorPatch => rfl
        | admitted =>
            cases queuedWorkloadByID working (selectOneForAdmission working).selectedID with
            | none => rfl
            | some w =>
                simp only
                cases applyVirtualAdmission working w now with
                | error e => rfl
                | ok working' => exact congrArg (List.cons _) (ih working' t t')

/-- A batch with succeeding calls admits something exactly when its first selection has
    a well-formed ID. -/
theorem batch_admits_iff {calls : CycleCalls σ} (hcalls : Succeeds calls) (now : Int) (n : Nat)
    (working : SchedulingInputs) (s : σ) :
    admittedIDs (batch calls now (n + 1) working s).iterations ≠ []
      ↔ (workloadKey (selectOneForAdmission working).selectedID).isSome := by
  rw [batch]
  simp only [turn]
  by_cases hid : (selectOneForAdmission working).selectedID = ""
  · rw [if_pos hid, hid]
    exact ⟨fun h => absurd rfl h, fun h => by cases h⟩
  · rw [if_neg hid]
    have hv := hcalls.perform (selectOneForAdmission working) s
    rcases hp : GpuCycle.perform calls (selectOneForAdmission working) s with ⟨t, v⟩
    rw [hp] at hv
    by_cases hkey : (workloadKey (selectOneForAdmission working).selectedID).isSome
    · rw [if_pos hkey] at hv
      obtain rfl : v = .admitted := hv
      refine ⟨fun _ => hkey, fun _ => ?_⟩
      cases queuedWorkloadByID working (selectOneForAdmission working).selectedID with
      | none => exact List.cons_ne_nil _ _
      | some w =>
          simp only
          cases applyVirtualAdmission working w now with
          | error e => exact List.cons_ne_nil _ _
          | ok working' => exact List.cons_ne_nil _ _
    · rw [if_neg hkey] at hv
      obtain rfl : v = .errorPatch := hv
      exact ⟨fun h => absurd rfl h, fun h => absurd h hkey⟩

/-! ## What a namespace gets -/

/-- The calls of a cycle over a scheduler state that stays as it is. -/
def reading (calls : CycleCalls σ) (order : MapOrder) (st : SchedulerState) : CycleCalls σ :=
  { calls with snapshotForNamespace := fun _ ns => st.snapshotForNamespace order ns }

/-- A namespace can be given something: its snapshot is valid and the workload selected
    from it has a well-formed ID. -/
def Admits (order : MapOrder) (st : SchedulerState) (ns : String) : Prop :=
  ∃ inputs, st.snapshotForNamespace order ns = some inputs ∧ inputs.queuedWorkloads ≠ []
    ∧ validate inputs = .ok ()
    ∧ (workloadKey (selectOneForAdmission inputs).selectedID).isSome

/-- The iterations in a namespace on its own, all calls succeeding. -/
def ownIterations (order : MapOrder) (st : SchedulerState) (maxAdmissionsPerCycle now : Int)
    (ns : String) : List Iteration :=
  match st.snapshotForNamespace order ns with
  | none => []
  | some inputs =>
    if inputs.queuedWorkloads = [] then []
    else match validate inputs with
    | .error _ => []
    | .ok () => (batch succeeding now (maxAdmissions maxAdmissionsPerCycle) inputs ()).iterations

section
variable (order : MapOrder) (st : SchedulerState) (maxAdmissionsPerCycle : Int)

theorem maxAdmissions_pos : ∃ n, maxAdmissions maxAdmissionsPerCycle = n + 1 := by
  rw [maxAdmissions]
  split_ifs with h
  · exact ⟨0, rfl⟩
  · exact ⟨maxAdmissionsPerCycle.toNat - 1, by omega⟩

theorem admits_iff (now : Int) (ns : String) :
    Admits order st ns
      ↔ admittedIDs (ownIterations order st maxAdmissionsPerCycle now ns) ≠ [] := by
  rw [ownIterations, Admits]
  cases st.snapshotForNamespace order ns with
  | none => exact ⟨fun h => (by obtain ⟨_, h, -⟩ := h; cases h), fun h => absurd rfl h⟩
  | some inputs =>
      by_cases hq : inputs.queuedWorkloads = []
      · simp only [if_pos hq]
        refine ⟨fun h => ?_, fun h => absurd rfl h⟩
        obtain ⟨_, hsome, hne, -⟩ := h
        rw [← Option.some.inj hsome] at hne
        exact absurd hq hne
      · simp only [if_neg hq]
        cases hval : validate inputs with
        | error e =>
            refine ⟨fun h => ?_, fun h => absurd rfl h⟩
            obtain ⟨_, hsome, -, hok, -⟩ := h
            rw [← Option.some.inj hsome, hval] at hok
            cases hok
        | ok u =>
            obtain ⟨n, hn⟩ := maxAdmissions_pos maxAdmissionsPerCycle
            simp only [hn]
            rw [batch_admits_iff succeeds_succeeding]
            refine ⟨fun h => ?_, fun h => ⟨inputs, rfl, hq, hval, h⟩⟩
            obtain ⟨_, hsome, -, -, hkey⟩ := h
            rw [Option.some.inj hsome]
            exact hkey

variable {order st maxAdmissionsPerCycle} {calls : CycleCalls σ} (hcalls : Succeeds calls)
include hcalls

theorem succeeds_reading : Succeeds (reading calls order st) :=
  ⟨hcalls.markPreempted, hcalls.preempt, hcalls.release, hcalls.patchAdmitted⟩

/-- The cycle at its first namespace: its own iterations, and the other namespaces only if
    they admit nothing. -/
theorem admittedIn_cons (now : String → Int) (A ns : String) (rest : List String) (s : σ) :
    ∃ s', admittedIn A (cycleBatches (reading calls order st)
        maxAdmissionsPerCycle now (ns :: rest) s)
      = (if ns = A then admitted (ownIterations order st maxAdmissionsPerCycle (now ns) ns)
          else [])
        ++ (if admittedIDs (ownIterations order st maxAdmissionsPerCycle (now ns) ns) = [] then
            admittedIn A (cycleBatches (reading calls order st)
              maxAdmissionsPerCycle now rest s') else []) := by
  have hread : Succeeds (reading calls order st) := succeeds_reading hcalls
  have hsnap : (reading calls order st).snapshotForNamespace s ns
      = st.snapshotForNamespace order ns := rfl
  rw [cycleBatches, ownIterations, hsnap]
  have hnone : ∀ l : List (String × List RunningWorkload),
      l = (if ns = A then admitted [] else []) ++ if admittedIDs [] = [] then l else [] := by
    intro l
    have hnil : admittedIDs [] = [] := rfl
    rw [if_pos hnil]
    split_ifs <;> rfl
  cases st.snapshotForNamespace order ns with
  | none => exact ⟨s, hnone _⟩
  | some inputs =>
      by_cases hq : inputs.queuedWorkloads = []
      · simp only [if_pos hq]
        exact ⟨s, hnone _⟩
      · simp only [if_neg hq]
        cases validate inputs with
        | error e => exact ⟨s, hnone _⟩
        | ok u =>
            have hits := batch_iterations_eq hread (succeeds_succeeding (σ := Unit)) (now ns)
              (maxAdmissions maxAdmissionsPerCycle) inputs s ()
            refine ⟨(batch (reading calls order st) (now ns)
              (maxAdmissions maxAdmissionsPerCycle) inputs s).state, ?_⟩
            simp only [hits]
            rw [admittedIn, List.filter_cons]
            by_cases hA : ns = A
            · rw [if_pos (decide_eq_true hA), if_pos hA, List.flatMap_cons]
              split_ifs
              · rfl
              · rfl
            · rw [if_neg (by simpa using hA), if_neg hA]
              split_ifs
              · rfl
              · rfl

omit hcalls in
/-- A namespace that is not visited gets nothing. -/
theorem admittedIn_of_absent {now : String → Int} {A : String} {namespaces : List String}
    (hA : A ∉ namespaces) (s : σ) :
    admittedIn A (cycleBatches calls maxAdmissionsPerCycle now namespaces s) = [] := by
  have hkeys : ∀ b ∈ cycleBatches calls maxAdmissionsPerCycle now namespaces s,
      b.1 ∈ namespaces := by
    induction namespaces generalizing s with
    | nil => intro b hb; cases hb
    | cons ns rest ih =>
        have hrest : ∀ s, ∀ b ∈ cycleBatches calls maxAdmissionsPerCycle now rest s,
            b.1 ∈ ns :: rest := fun s b hb =>
          List.mem_cons_of_mem _ (ih (fun h => hA (List.mem_cons_of_mem _ h)) s b hb)
        rw [cycleBatches]
        cases calls.snapshotForNamespace s ns with
        | none => exact hrest s
        | some inputs =>
          by_cases hq : inputs.queuedWorkloads = []
          · simp only [if_pos hq]
            exact hrest s
          · simp only [if_neg hq]
            cases validate inputs with
            | error e => exact hrest s
            | ok u =>
              intro b hb
              rcases List.mem_cons.mp hb with rfl | hb
              · exact List.mem_cons_self ..
              · split_ifs at hb
                · exact hrest _ b hb
                · cases hb
  rw [admittedIn, List.filter_eq_nil_iff.mpr]
  · rfl
  · intro b hb h
    rw [decide_eq_true_iff] at h
    exact hA (h ▸ hkeys b hb)

/-- A namespace that the cycle reaches gets what it gets on its own. -/
theorem admittedIn_of_first (now : String → Int) (A : String) {namespaces : List String}
    (hnd : namespaces.Nodup)
    (hfirst : ∀ ns ∈ namespaces.takeWhile (· ≠ A), ¬ Admits order st ns) (s : σ) :
    admittedIn A (cycleBatches (reading calls order st) maxAdmissionsPerCycle now
        namespaces s)
      = if A ∈ namespaces then
          admitted (ownIterations order st maxAdmissionsPerCycle (now A) A) else [] := by
  induction namespaces generalizing s with
  | nil => rfl
  | cons ns rest ih =>
      obtain ⟨hnot, hnd'⟩ := List.nodup_cons.mp hnd
      obtain ⟨s', hs'⟩ := admittedIn_cons hcalls now A ns rest s
      rw [hs']
      by_cases hA : ns = A
      · -- the namespace itself: nothing of it can follow
        subst hA
        rw [if_pos rfl, if_pos (List.mem_cons_self ..)]
        split_ifs with hnone
        · rw [admittedIn_of_absent hnot, List.append_nil]
        · exact List.append_nil _
      · have htake : (ns :: rest).takeWhile (· ≠ A) = ns :: rest.takeWhile (· ≠ A) :=
          List.takeWhile_cons_of_pos (by simpa using hA)
        rw [htake, List.forall_mem_cons] at hfirst
        have hadm := admits_iff order st maxAdmissionsPerCycle (now ns) ns
        have hnone : admittedIDs (ownIterations order st maxAdmissionsPerCycle (now ns) ns)
            = [] := by
          by_contra hne
          exact hfirst.1 (hadm.mpr hne)
        rw [if_neg hA, List.nil_append, if_pos hnone, ih hnd' hfirst.2 s']
        refine if_congr ?_ rfl rfl
        rw [List.mem_cons]
        exact (or_iff_right (fun h => hA h.symm)).symm

/-- A namespace behind one that gets something gets nothing. -/
theorem admittedIn_of_earlier (now : String → Int) (A : String) {namespaces : List String}
    (hearlier : ∃ ns ∈ namespaces.takeWhile (· ≠ A), Admits order st ns) (s : σ) :
    admittedIn A (cycleBatches (reading calls order st) maxAdmissionsPerCycle now
        namespaces s) = [] := by
  induction namespaces generalizing s with
  | nil => rfl
  | cons ns rest ih =>
      obtain ⟨s', hs'⟩ := admittedIn_cons hcalls now A ns rest s
      obtain ⟨ns', hns', hadmits⟩ := hearlier
      by_cases hA : ns = A
      · rw [List.takeWhile_cons_of_neg (by simpa using hA)] at hns'
        cases hns'
      · rw [List.takeWhile_cons_of_pos (by simpa using hA)] at hns'
        rw [hs', if_neg hA, List.nil_append]
        split_ifs with hnone
        · rcases List.mem_cons.mp hns' with rfl | hns'
          · exact absurd hnone ((admits_iff order st maxAdmissionsPerCycle _ _).mp hadmits)
          · exact ih ⟨ns', hns', hadmits⟩ s'
        · rfl

end

/-! ## The namespace alone -/

/-- The state where every other namespace's queue, fleet and quotas have been removed. -/
def onlyIn (st : SchedulerState) (A : String) : SchedulerState :=
  { st with
    queued := keepOnly st.queued A
    fleet := keepOnly st.fleet A
    quotas := keepOnly st.quotas A }

section
variable (order : MapOrder) (st : SchedulerState) (A : String)

theorem snapshot_onlyIn :
    (onlyIn st A).snapshotForNamespace order A = st.snapshotForNamespace order A := by
  simp only [SchedulerState.snapshotForNamespace, onlyIn, GoMaps.inner, lookup_keepOnly_self]

/-- A namespace that the cycle does not visit has nothing to admit. -/
theorem admits_visited {ns : String} (h : Admits order st ns) :
    ns ∈ st.namespacesWithQueueAndFleet := by
  obtain ⟨inputs, hsnap, hq, -, -⟩ := h
  obtain ⟨fleet, hf, rfl⟩ := Option.map_eq_some_iff.mp hsnap
  have hne : values (GoMaps.inner st.queued ns) ≠ [] := by
    intro hnil
    have hperm := order.queued_perm (values (GoMaps.inner st.queued ns))
    rw [hnil] at hperm
    exact hq (by rw [hnil]; exact hperm.eq_nil)
  have hentries : (GoMaps.inner st.queued ns).entries ≠ [] := by
    intro hnil
    rw [values, hnil] at hne
    exact hne rfl
  refine List.mem_filter.mpr ⟨?_, ?_⟩
  · cases hl : st.queued.lookup ns with
    | none =>
        rw [GoMaps.inner, hl] at hentries
        exact absurd rfl hentries
    | some m => exact AList.lookup_isSome.mp (by rw [hl]; rfl)
  · rw [Bool.and_eq_true, Bool.not_eq_true', hf]
    exact ⟨by simpa using hentries, rfl⟩

/-- On its own, at most the namespace itself is visited. -/
theorem eq_of_mem_onlyIn {ns : String} (h : ns ∈ (onlyIn st A).namespacesWithQueueAndFleet) :
    ns = A := by
  by_contra hne
  obtain ⟨-, hp⟩ := List.mem_filter.mp h
  rw [Bool.and_eq_true] at hp
  have hfleet : (onlyIn st A).fleet.lookup ns = none := lookup_keepOnly_ne _ hne
  rw [hfleet] at hp
  cases hp.2

theorem nodup_namespaces : st.namespacesWithQueueAndFleet.Nodup :=
  st.queued.keys_nodup.filter _

/-- **NAMESPACES AND THE CYCLE**: with all calls succeeding, a namespace gets the same
    workloads and victims as on its own exactly when it gets nothing on its own, or no
    namespace visited before it has anything to admit. -/
theorem isolated_iff {calls : CycleCalls σ} (hcalls : Succeeds calls)
    (maxAdmissionsPerCycle : Int) (now : String → Int) {namespaces alone : List String}
    (hnamespaces : namespaces.Perm st.namespacesWithQueueAndFleet)
    (halone : alone.Perm (onlyIn st A).namespacesWithQueueAndFleet) (s : σ) :
    admittedIn A (cycleBatches (reading calls order st) maxAdmissionsPerCycle now namespaces s)
        = admittedIn A (cycleBatches (reading calls order (onlyIn st A)) maxAdmissionsPerCycle
            now alone s)
      ↔ ¬ Admits order st A
        ∨ ∀ ns ∈ namespaces.takeWhile (· ≠ A), ¬ Admits order st ns := by
  have hnd : namespaces.Nodup := hnamespaces.nodup_iff.mpr (nodup_namespaces st)
  have hnd' : alone.Nodup := halone.nodup_iff.mpr (nodup_namespaces (onlyIn st A))
  have hown : ownIterations order (onlyIn st A) maxAdmissionsPerCycle (now A) A
      = ownIterations order st maxAdmissionsPerCycle (now A) A := by
    rw [ownIterations, ownIterations, snapshot_onlyIn]
  have hadmits : Admits order (onlyIn st A) A ↔ Admits order st A := by
    rw [Admits, Admits, snapshot_onlyIn]
  have hadm := admits_iff order st maxAdmissionsPerCycle (now A) A
  have hbefore : ∀ ns ∈ alone.takeWhile (· ≠ A), ¬ Admits order (onlyIn st A) ns := by
    intro ns hns
    have hA := eq_of_mem_onlyIn st A (halone.mem_iff.mp ((List.takeWhile_sublist _).subset hns))
    exact absurd hA (by simpa using List.mem_takeWhile_imp hns)
  rw [admittedIn_of_first hcalls now A hnd' hbefore, hown]
  by_cases hA : Admits order st A
  · have hX : admitted (ownIterations order st maxAdmissionsPerCycle (now A) A) ≠ [] := by
      rw [Ne, admitted_eq_nil_iff]
      exact hadm.mp hA
    have hmem : A ∈ namespaces := hnamespaces.mem_iff.mpr (admits_visited order st hA)
    have hmem' : A ∈ alone :=
      halone.mem_iff.mpr (admits_visited order (onlyIn st A) (hadmits.mpr hA))
    rw [if_pos hmem']
    by_cases hearlier : ∀ ns ∈ namespaces.takeWhile (· ≠ A), ¬ Admits order st ns
    · rw [admittedIn_of_first hcalls now A hnd hearlier, if_pos hmem]
      exact ⟨fun _ => Or.inr hearlier, fun _ => rfl⟩
    · have hsome : ∃ ns ∈ namespaces.takeWhile (· ≠ A), Admits order st ns := by
        push Not at hearlier
        exact hearlier
      rw [admittedIn_of_earlier hcalls now A hsome]
      refine ⟨fun h => absurd h.symm hX, fun h => ?_⟩
      exact absurd (h.resolve_left (fun hn => hn hA)) hearlier
  · have hX : admitted (ownIterations order st maxAdmissionsPerCycle (now A) A) = [] := by
      rw [admitted_eq_nil_iff]
      by_contra hne
      exact hA (hadm.mpr hne)
    rw [hX, ite_self]
    refine ⟨fun _ => Or.inl hA, fun _ => ?_⟩
    by_cases hearlier : ∃ ns ∈ namespaces.takeWhile (· ≠ A), Admits order st ns
    · exact admittedIn_of_earlier hcalls now A hearlier s
    · push Not at hearlier
      rw [admittedIn_of_first hcalls now A hnd hearlier, hX, ite_self]

end

/-- Two namespaces, each with a device and a workload for it. -/
def twoNamespaces : SchedulerState :=
  let fleet : FleetFreeCapacity :=
    ⟨1, 80, some ((∅ : GoMap String ProfileFreeCapacity).insert "h100_sxm" ⟨1, 80, 80⟩)⟩
  let st := (newSchedulerState.setFleet "a" fleet).setFleet "b" fleet
  (st.upsertQueued "a" ⟨"a/w", "t", 1, 1, 1, 40, "h100_sxm", 5, .training⟩).upsertQueued "b"
    ⟨"b/w", "t", 1, 1, 1, 40, "h100_sxm", 5, .training⟩

/-- The namespace visited second gets nothing although it has a device free. -/
theorem twoNamespaces_interfere :
    ¬ ∀ (order : MapOrder) (st : SchedulerState) (A : String) (calls : CycleCalls Unit)
        (maxAdmissionsPerCycle : Int) (now : String → Int) (namespaces alone : List String),
      Succeeds calls → namespaces.Perm st.namespacesWithQueueAndFleet →
      alone.Perm (onlyIn st A).namespacesWithQueueAndFleet →
      admittedIn A (cycleBatches (reading calls order st) maxAdmissionsPerCycle now namespaces ())
        = admittedIn A (cycleBatches (reading calls order (onlyIn st A)) maxAdmissionsPerCycle
            now alone ()) := by
  intro hall
  have h := hall .entries twoNamespaces "b" succeeding 1 (fun _ => 7) ["a", "b"] ["b"]
    succeeds_succeeding (by decide +kernel) (by decide +kernel)
  have hids := congrArg (List.map Prod.fst) h
  revert hids
  decide +kernel

/-- The namespace visited first gets what it gets on its own. -/
theorem twoNamespaces_first :
    admittedIn "a" (cycleBatches (reading succeeding .entries twoNamespaces) 1 (fun _ => 7)
        ["a", "b"] ())
      = admittedIn "a" (cycleBatches (reading succeeding .entries (onlyIn twoNamespaces "a")) 1
          (fun _ => 7) ["a"] ()) := by
  refine (isolated_iff .entries twoNamespaces "a" succeeds_succeeding 1 (fun _ => 7)
    (by decide +kernel) (by decide +kernel) ()).mpr (Or.inr (fun ns hns => ?_))
  rw [List.takeWhile_cons_of_neg (by decide)] at hns
  cases hns

end GpuIsolation
