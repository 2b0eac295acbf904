import GpuScheduler.StepRunsProofs
import GpuScheduler.MirrorProofs
import GpuScheduler.IsolationProofs

/-! # Evictions that serve nobody

    A cycle evicts the victims of a selection first and moves the selected workload to
    `Scheduled` afterwards.  The move looks at the API, where the workload may have left
    the queue already: then nothing is written and the victims are gone.  So a record that
    is still queued in memory while the API is further on costs victims each time it is
    selected.

    A log beside the cluster, which no step reads, records what every eviction was for.
    `serves_of_runs` proves that no eviction is in vain, and that an entry into the queue
    pays for one eviction at most, in every run whose cycles find every queued record
    `Queued` in the API. -/

namespace GpuEviction

open GoStrings GoMaps StepRuns GpuInputs GpuWorkload GpuPreemption GpuSelection GpuCycle
open GpuSchedulerState GpuCluster GpuIsolation GpuFleet
open GpuMirror (Keyed)

/-! ## The log -/

/-- The phase that the calls of a cycle find under a workload ID. -/
def phaseOf (c : Cluster) (id : String) : Option Phase :=
  (workloadKey id).bind (fun k => (c.api.lookup (k.1, workloadID k.1 k.2)).map GPUWorkload.phase)

/-- Marking the victims moves one of them to `Preempted`. -/
def evicts (c : Cluster) (victims : List RunningWorkload) : Bool :=
  victims.any (fun v => (phaseOf c v.workloadID).any (· ≠ .preempted))

/-- An iteration that evicted somebody: the workload it selected, and its phase before and
    after. -/
structure Eviction where
  selectedID : String
  before : Option Phase
  after : Option Phase
  deriving DecidableEq, Repr

/-- The eviction served the workload it was for. -/
def Eviction.Serves (e : Eviction) : Prop :=
  e.before = some .queued ∧ e.after = some .scheduled

/-- The evictions of a list of iterations, from a state of the cluster on. -/
def evictionsOf (calls : CycleCalls Cluster) : List Iteration → Cluster → List Eviction
  | [], _ => []
  | it :: its, c =>
      (if evicts c it.selection.victims then
        [⟨it.selection.selectedID, phaseOf c it.selection.selectedID,
          phaseOf (perform calls it.selection c).1 it.selection.selectedID⟩]
      else []) ++ evictionsOf calls its (perform calls it.selection c).1

/-- The evictions of a step. -/
def evictionsBy (maxAdmissionsPerCycle : Int) (c : Cluster) : Label → List Eviction
  | .cycle order faults now namespaces =>
      evictionsOf (calls order faults)
        ((cycleBatches (calls order faults) maxAdmissionsPerCycle now namespaces
          { c with trigger := false }).flatMap Prod.snd) { c with trigger := false }
  | .create _ | .update _ | .delete _ | .deliver _ _ | .pool _ _ | .quota _ _ => []

/-- The workload that another component moves into the queue. -/
def enqueuedBy (c : Cluster) : Label → List String
  | .update w => if w.phase = .queued ∧ phaseOf c w.id ≠ some .queued then [w.id] else []
  | .create _ | .delete _ | .deliver _ _ | .pool _ _ | .quota _ _ | .cycle _ _ _ _ => []

/-- The cluster, the entries into the queue, and the evictions. -/
structure World where
  cluster : Cluster
  enqueued : List String
  evictions : List Eviction

/-- A step of the cluster, with the log. -/
def step (maxAdmissionsPerCycle : Int) (s : World) (a : Label) : Option World :=
  (GpuCluster.step maxAdmissionsPerCycle s.cluster a).map (fun c =>
    { cluster := c
      enqueued := enqueuedBy s.cluster a ++ s.enqueued
      evictions := evictionsBy maxAdmissionsPerCycle s.cluster a ++ s.evictions })

/-- A cluster without objects. -/
def start : World := ⟨⟨∅, [], ∅, newSchedulerState, false⟩, [], []⟩

/-- How often somebody was evicted for a workload. -/
def evictedFor (id : String) (es : List Eviction) : Nat := es.countP (fun e => e.selectedID = id)

/-- Every eviction served its workload, and a workload has caused no more evictions than it
    has entered the queue. -/
structure Serves (s : World) : Prop where
  served : ∀ e ∈ s.evictions, e.Serves
  once : ∀ id, evictedFor id s.evictions ≤ s.enqueued.count id

/-- Every record queued in memory is `Queued` in the API. -/
def UpToDate (c : Cluster) : Prop :=
  ∀ ns, ∀ q ∈ values (GoMaps.inner c.mem.queued ns), phaseOf c q.workloadID = some .queued

/-- `UpToDate`, checked entry by entry. -/
theorem upToDate_iff (c : Cluster) :
    UpToDate c ↔ ∀ e ∈ c.mem.queued.entries, ∀ q ∈ values e.2,
      phaseOf c q.workloadID = some .queued := by
  constructor
  · intro h e he q hq
    refine h e.1 q ?_
    have hlookup : c.mem.queued.lookup e.1 = some e.2 := AList.mem_lookup_iff.mpr he
    rw [GoMaps.inner, hlookup]
    exact hq
  · intro h ns q hq
    cases hlookup : c.mem.queued.lookup ns with
    | none =>
        rw [GoMaps.inner, hlookup] at hq
        cases hq
    | some m =>
        rw [GoMaps.inner, hlookup] at hq
        exact h ⟨ns, m⟩ (AList.mem_lookup_iff.mp hlookup) q hq

instance (c : Cluster) : Decidable (UpToDate c) := decidable_of_iff' _ (upToDate_iff c)

/-- A cycle starts with an up-to-date queue. -/
def QueueUpToDate (s : World) : Label → Prop
  | .cycle _ _ _ _ => UpToDate s.cluster
  | .create _ | .update _ | .delete _ | .deliver _ _ | .pool _ _ | .quota _ _ => True

instance (s : World) (a : Label) : Decidable (QueueUpToDate s a) :=
  match a with
  | .cycle _ _ _ _ => inferInstanceAs (Decidable (UpToDate s.cluster))
  | .create _ | .update _ | .delete _ | .deliver _ _ | .pool _ _ | .quota _ _ =>
      inferInstanceAs (Decidable True)

/-- All API and simulator calls of a cycle succeed. -/
def CallsSucceed : Label → Prop
  | .cycle _ faults _ _ => faults = .none
  | .create _ | .update _ | .delete _ | .deliver _ _ | .pool _ _ | .quota _ _ => True

/-- The informer delivers the oldest write. -/
def InWriteOrder : Label → Prop
  | .deliver i _ => i = 0
  | .create _ | .update _ | .delete _ | .pool _ _ | .quota _ _ | .cycle _ _ _ _ => True

/-! ## Phases and writes -/

/-- An ID that parses is put together from its parts. -/
theorem eq_of_workloadKey {id : String} {k : String × String} (h : workloadKey id = some k) :
    id = workloadID k.1 k.2 := by
  rw [workloadKey] at h
  cases hcut : cut id '/' with
  | none =>
      rw [hcut] at h
      cases h
  | some p =>
      rw [hcut] at h
      simp only at h
      split_ifs at h
      obtain rfl := Option.some.inj h
      exact eq_of_cut hcut

theorem phaseOf_eq {c : Cluster} {id : String} {k : String × String}
    (hk : workloadKey id = some k) :
    phaseOf c id = (c.api.lookup (k.1, id)).map GPUWorkload.phase := by
  rw [phaseOf, hk, Option.bind_some, ← eq_of_workloadKey hk]

/-- A write changes the phase under its own ID only. -/
theorem phaseOf_put_ne (c : Cluster) {w : GPUWorkload} {id : String} (h : id ≠ w.id) :
    phaseOf (c.put w) id = phaseOf c id := by
  cases hk : workloadKey id with
  | none => rw [phaseOf, phaseOf, hk]; rfl
  | some k =>
      rw [phaseOf_eq hk, phaseOf_eq hk, lookup_put_ne]
      exact fun heq => h (congrArg Prod.snd heq)

/-- Under its own ID a write is found, unless the ID leads to another key. -/
theorem phaseOf_put_self (c : Cluster) (w : GPUWorkload) :
    phaseOf (c.put w) w.id = phaseOf c w.id
      ∨ phaseOf (c.put w) w.id = some w.phase
        ∧ phaseOf c w.id = (c.api.lookup (key w)).map GPUWorkload.phase := by
  cases hk : workloadKey w.id with
  | none =>
      left
      rw [phaseOf, phaseOf, hk]
      rfl
  | some k =>
      rw [phaseOf_eq hk, phaseOf_eq hk]
      by_cases hns : (k.1, w.id) = key w
      · right
        rw [hns, lookup_put_self]
        exact ⟨rfl, rfl⟩
      · left
        rw [lookup_put_ne c hns]

theorem keyed_put {c : Cluster} (hc : Keyed c.api) (w : GPUWorkload) : Keyed (c.put w).api := by
  intro k w' hk
  by_cases heq : k = key w
  · rw [heq, lookup_put_self] at hk
    rw [heq, ← Option.some.inj hk]
  · rw [lookup_put_ne c heq] at hk
    exact hc k w' hk

/-- A call has moved one workload to a phase and has touched nothing else that a cycle
    reads. -/
structure Moved (c : Cluster) (id : String) (phase : Option Phase) (c' : Cluster) : Prop where
  mem : c'.mem = c.mem
  keyed : Keyed c'.api
  moved : phaseOf c' id = phase
  other : ∀ id', id' ≠ id → phaseOf c' id' = phaseOf c id'

section
variable {c : Cluster} {id : String} {k : String × String}

theorem Moved.refl (hc : Keyed c.api) (id : String) : Moved c id (phaseOf c id) c :=
  ⟨rfl, hc, rfl, fun _ _ => rfl⟩

/-- Writing a new phase to the object under an ID. -/
theorem Moved.put (hc : Keyed c.api) (hk : workloadKey id = some k) {w : GPUWorkload}
    (hw : c.api.lookup (k.1, id) = some w) (phase : Phase) :
    Moved c id (some phase) (c.put { w with phase := phase }) := by
  have hkey : key { w with phase := phase } = (k.1, id) := hc _ w hw
  refine ⟨rfl, keyed_put hc _, ?_, fun id' hne => ?_⟩
  · rw [phaseOf_eq hk, ← hkey, lookup_put_self]
    rfl
  · refine phaseOf_put_ne c (fun heq => hne ?_)
    exact heq.trans (congrArg Prod.snd hkey)

/-- The status update of a victim: the workload is `Preempted` afterwards if it exists. -/
theorem markPreempted_moved (hc : Keyed c.api) (hk : workloadKey id = some k) :
    ∃ c', markPreempted .none k.1 k.2 c = (c', true)
      ∧ Moved c id ((phaseOf c id).map (fun _ => .preempted)) c' := by
  have hfind := phaseOf_eq (c := c) hk
  have hok : ¬Faults.none.markPreempted (workloadID k.1 k.2) = true := Bool.false_ne_true
  rw [markPreempted, if_neg hok, ← eq_of_workloadKey hk]
  cases hw : c.api.lookup (k.1, id) with
  | none =>
      rw [hw] at hfind
      refine ⟨c, rfl, ?_⟩
      have hrefl := Moved.refl hc id
      rw [hfind] at hrefl ⊢
      exact hrefl
  | some w =>
      rw [hw] at hfind
      by_cases hp : w.phase = .preempted
      · refine ⟨c, by simp only [if_pos hp], ?_⟩
        have hrefl := Moved.refl hc id
        rw [hfind] at hrefl ⊢
        rw [Option.map_some, hp] at hrefl ⊢
        exact hrefl
      · refine ⟨c.put { w with phase := .preempted }, by simp only [if_neg hp], ?_⟩
        rw [hfind]
        exact Moved.put hc hk hw .preempted

/-- The status update of a workload that is `Queued` in the API. -/
theorem patchAdmitted_moved (hc : Keyed c.api) (hk : workloadKey id = some k)
    (hq : phaseOf c id = some .queued) :
    ∃ c', patchAdmitted .none k.1 k.2 c = (c', true) ∧ Moved c id (some .scheduled) c' := by
  rw [phaseOf_eq hk] at hq
  obtain ⟨w, hw, hphase⟩ := Option.map_eq_some_iff.mp hq
  refine ⟨c.put { w with phase := .scheduled }, ?_, Moved.put hc hk hw .scheduled⟩
  have hok : ¬Faults.none.patchAdmitted (workloadID k.1 k.2) = true := Bool.false_ne_true
  rw [patchAdmitted, if_neg hok, ← eq_of_workloadKey hk]
  simp only [hw, if_neg (not_not.mpr hphase)]

end

/-! ## One iteration -/

/-- Marking has moved the victims that exist to `Preempted`, and nobody else. -/
structure Marked (ids : List String) (c c' : Cluster) : Prop where
  mem : c'.mem = c.mem
  keyed : Keyed c'.api
  victim : ∀ id ∈ ids, phaseOf c' id = (phaseOf c id).map (fun _ => .preempted)
  other : ∀ id, id ∉ ids → phaseOf c' id = phaseOf c id

theorem Moved.marked {c c₁ c' : Cluster} {id : String} {ids : List String}
    (h : Moved c id ((phaseOf c id).map (fun _ => .preempted)) c₁) (hrest : Marked ids c₁ c') :
    Marked (id :: ids) c c' := by
  have hagain : ∀ p : Option Phase,
      (p.map (fun _ => Phase.preempted)).map (fun _ => Phase.preempted)
        = p.map (fun _ => Phase.preempted) := by
    intro p
    cases p <;> rfl
  refine ⟨hrest.mem.trans h.mem, hrest.keyed, fun id' hid' => ?_, fun id' hid' => ?_⟩
  · by_cases hin : id' ∈ ids
    · rw [hrest.victim id' hin]
      by_cases heq : id' = id
      · rw [heq, h.moved, hagain]
      · rw [h.other id' heq]
    · obtain rfl : id' = id := (List.mem_cons.mp hid').resolve_right hin
      rw [hrest.other id' hin, h.moved]
  · obtain ⟨hne, hin⟩ := List.ne_and_not_mem_of_not_mem_cons hid'
    rw [hrest.other id' hin, h.other id' hne]

/-- Marking the victims, all calls succeeding. -/
theorem markVictims_marked (order : MapOrder) (victims : List RunningWorkload) {c : Cluster}
    (hc : Keyed c.api) :
    ∃ c', markVictimsPreemptedAndRelease (calls order .none) victims c = (c', true)
      ∧ Marked (victims.map RunningWorkload.workloadID) c c' := by
  induction victims generalizing c with
  | nil => exact ⟨c, rfl, rfl, hc, fun _ h => (by cases h), fun _ _ => rfl⟩
  | cons v rest ih =>
      cases hk : workloadKey v.workloadID with
      | none =>
          obtain ⟨c', hrun, hmarked⟩ := ih hc
          refine ⟨c', by simp only [markVictimsPreemptedAndRelease, hk]; exact hrun, ?_⟩
          -- nothing is found under a malformed ID
          have hnone : phaseOf c v.workloadID = none := by rw [phaseOf, hk]; rfl
          have hmoved := Moved.refl hc v.workloadID
          rw [hnone] at hmoved
          exact Moved.marked (by rw [hnone]; exact hmoved) hmarked
      | some k =>
          obtain ⟨c₁, hmark, hmoved⟩ := markPreempted_moved hc hk
          obtain ⟨c', hrun, hmarked⟩ := ih hmoved.keyed
          refine ⟨c', ?_, hmoved.marked hmarked⟩
          have hcall : (calls order .none).markPreempted k.1 k.2 c = (c₁, true) := hmark
          have hpreempt : (calls order .none).preempt v.workloadID c₁ = (c₁, true) := rfl
          have hrelease : (calls order .none).release v.workloadID c₁ = (c₁, true) := rfl
          simp only [markVictimsPreemptedAndRelease, hk, hcall, hpreempt, hrelease]
          exact hrun

/-- `evicts` says what marking does: some victim is newly `Preempted` afterwards. -/
theorem evicts_iff (order : MapOrder) (victims : List RunningWorkload) {c : Cluster}
    (hc : Keyed c.api) :
    evicts c victims = true ↔ ∃ v ∈ victims, phaseOf c v.workloadID ≠ some .preempted
      ∧ phaseOf (markVictimsPreemptedAndRelease (calls order .none) victims c).1 v.workloadID
        = some .preempted := by
  obtain ⟨c', hrun, hmarked⟩ := markVictims_marked order victims hc
  rw [evicts, List.any_eq_true, hrun]
  refine exists_congr (fun v => and_congr_right (fun hv => ?_))
  rw [hmarked.victim _ (List.mem_map_of_mem hv)]
  cases phaseOf c v.workloadID with
  | none => simp
  | some p => simp

/-- An iteration has evicted its victims and has admitted its workload. -/
structure Performed (sel : Selection) (c c' : Cluster) : Prop where
  mem : c'.mem = c.mem
  keyed : Keyed c'.api
  selected : phaseOf c' sel.selectedID = some .scheduled
  queued : ∀ id, phaseOf c' id = some .queued → phaseOf c id = some .queued
  spared : ∀ id, id ≠ sel.selectedID → id ∉ sel.victims.map RunningWorkload.workloadID →
    phaseOf c' id = phaseOf c id

/-- **AN ITERATION FOR A QUEUED WORKLOAD SUCCEEDS**, and the workload gets what the victims
    gave. -/
theorem perform_performed (order : MapOrder) {sel : Selection} {c : Cluster}
    (hc : Keyed c.api) (hq : phaseOf c sel.selectedID = some .queued)
    (hsel : sel.selectedID ∉ sel.victims.map RunningWorkload.workloadID) :
    ∃ c', perform (calls order .none) sel c = (c', .admitted) ∧ Performed sel c c' := by
  obtain ⟨c₁, hrun, hmarked⟩ := markVictims_marked order sel.victims hc
  cases hk : workloadKey sel.selectedID with
  | none =>
      rw [phaseOf, hk] at hq
      cases hq
  | some k =>
      rw [← hmarked.other _ hsel] at hq
      obtain ⟨c', hpatch, hmoved⟩ := patchAdmitted_moved hmarked.keyed hk hq
      refine ⟨c', ?_, hmoved.mem.trans hmarked.mem, hmoved.keyed, hmoved.moved, ?_, ?_⟩
      · have hcall : (calls order .none).patchAdmitted k.1 k.2 sel.reason sel.message c₁
            = (c', true) := hpatch
        rw [perform, markVictims_if, hrun]
        simp only [patchWorkloadAdmittedAndScheduled, hk, hcall]
      · intro id hid
        by_cases heq : id = sel.selectedID
        · rw [heq, hmoved.moved] at hid
          cases hid
        · rw [hmoved.other id heq] at hid
          by_cases hin : id ∈ sel.victims.map RunningWorkload.workloadID
          · rw [hmarked.victim id hin] at hid
            obtain ⟨_, -, h⟩ := Option.map_eq_some_iff.mp hid
            cases h
          · rw [hmarked.other id hin] at hid
            exact hid
      · intro id hne hin
        rw [hmoved.other id hne, hmarked.other id hin]

/-! ## What a list of iterations costs -/

/-- One, while a workload is `Queued` in the API: the entry that still has to be served. -/
def waiting (c : Cluster) (id : String) : Nat := if phaseOf c id = some .queued then 1 else 0

/-- Every eviction of the iterations served its workload and used up its place in the
    queue. -/
structure Accounted (calls : CycleCalls Cluster) (its : List Iteration) (c : Cluster) : Prop where
  keyed : Keyed (replay calls its c).api
  mem : (replay calls its c).mem = c.mem
  served : ∀ e ∈ evictionsOf calls its c, e.Serves
  once : ∀ id, evictedFor id (evictionsOf calls its c) + waiting (replay calls its c) id
    ≤ waiting c id

section
variable {calls : CycleCalls Cluster} {its its' : List Iteration} {c : Cluster}

theorem Accounted.nil (hc : Keyed c.api) : Accounted calls [] c :=
  ⟨hc, rfl, fun _ h => (by cases h), fun _ => (Nat.zero_add _).le⟩

theorem evictionsOf_append (its its' : List Iteration) (c : Cluster) :
    evictionsOf calls (its ++ its') c
      = evictionsOf calls its c ++ evictionsOf calls its' (replay calls its c) := by
  induction its generalizing c with
  | nil => rfl
  | cons it its ih =>
      rw [List.cons_append, evictionsOf, evictionsOf, ih, List.append_assoc]
      rfl

/-- What the first iterations leave waiting bounds what the next ones cost. -/
theorem Accounted.append (h : Accounted calls its c)
    (h' : Accounted calls its' (replay calls its c)) : Accounted calls (its ++ its') c := by
  refine ⟨?_, ?_, ?_, ?_⟩
  · rw [replay_append]
    exact h'.keyed
  · rw [replay_append]
    exact h'.mem.trans h.mem
  · intro e he
    rw [evictionsOf_append] at he
    rcases List.mem_append.mp he with he | he
    · exact h.served e he
    · exact h'.served e he
  · intro id
    have h1 := h.once id
    have h2 := h'.once id
    rw [evictionsOf_append, replay_append, evictedFor, List.countP_append]
    rw [evictedFor] at h1 h2
    omega

end

/-- One iteration for a workload that is `Queued` in the API. -/
theorem accounted_one (order : MapOrder) {it : Iteration} {c : Cluster} (hc : Keyed c.api)
    (hq : phaseOf c it.selection.selectedID = some .queued)
    (hsel : it.selection.selectedID ∉ it.selection.victims.map RunningWorkload.workloadID) :
    Accounted (calls order .none) [it] c := by
  obtain ⟨c', hrun, hperf⟩ := perform_performed order hc hq hsel
  have hreplay : replay (calls order .none) [it] c = c' := by
    show (perform (calls order .none) it.selection c).1 = c'
    rw [hrun]
  have hlog : evictionsOf (calls order .none) [it] c
      = if evicts c it.selection.victims then
          [⟨it.selection.selectedID, some .queued, some .scheduled⟩] else [] := by
    rw [evictionsOf, evictionsOf, List.append_nil, hrun, hq, hperf.selected]
  refine ⟨by rw [hreplay]; exact hperf.keyed, by rw [hreplay]; exact hperf.mem, ?_, ?_⟩
  · intro e he
    rw [hlog] at he
    split_ifs at he
    · obtain rfl := List.mem_singleton.mp he
      exact ⟨rfl, rfl⟩
    · cases he
  · intro id
    rw [hreplay, hlog]
    by_cases hid : id = it.selection.selectedID
    · have hafter : waiting c' id = 0 := by
        rw [waiting, hid, hperf.selected, if_neg (by decide)]
      have hbefore : waiting c id = 1 := by rw [waiting, hid, hq, if_pos rfl]
      rw [hafter, hbefore, Nat.add_zero]
      refine le_trans List.countP_le_length ?_
      split_ifs
      · exact le_refl 1
      · exact Nat.zero_le 1
    · have hnone : ∀ b : Bool, evictedFor id (if b then
          [(⟨it.selection.selectedID, some .queued, some .scheduled⟩ : Eviction)] else []) = 0 := by
        intro b
        cases b with
        | false => rfl
        | true => exact List.countP_eq_zero.mpr (fun e he => by
            obtain rfl := List.mem_singleton.mp he
            exact fun h => hid (of_decide_eq_true h).symm)
      have hmono : waiting c' id ≤ waiting c id := by
        rw [waiting, waiting]
        split_ifs with h1 h2
        · exact le_refl 1
        · exact absurd (hperf.queued id h1) h2
        · exact Nat.zero_le _
        · exact le_refl 0
      rw [hnone, Nat.zero_add]
      exact hmono

/-! ## Batches and cycles -/

/-- The workloads of a working copy's queue are `Queued` in the API. -/
def Fresh (working : SchedulingInputs) (c : Cluster) : Prop :=
  ∀ q ∈ working.queuedWorkloads, phaseOf c q.workloadID = some .queued

/-- On valid inputs a workload is not among its own victims. -/
theorem selected_not_victim {it : Iteration} {w : QueuedWorkload} {cap : ProfileFreeCapacity}
    (hv : Valid it.working) (hd : Decides it w cap) (hne : it.selection.selectedID ≠ "") :
    it.selection.selectedID ∉ it.selection.victims.map RunningWorkload.workloadID := by
  intro hin
  obtain ⟨v, hvic, hid⟩ := List.mem_map.mp hin
  have hsel := hne
  rw [hd.selection] at hsel hvic
  obtain ⟨_, _, -, -, -, -, hrunning, -⟩ := selection_victims hv hsel
  exact hv.queued_ne_running hd.mem (hrunning v hvic).1 (hid.trans hd.id)

/-- **A BATCH ON A FRESH SNAPSHOT** evicts for workloads that it then schedules; one that
    admits nothing has done nothing. -/
theorem accounted_batch (order : MapOrder) {now : Int} (hnow : now ≠ 0) (n : Nat)
    {working : SchedulingInputs} {c : Cluster} (hv : Valid working) (hf : Fresh working c)
    (hc : Keyed c.api) :
    Accounted (calls order .none) (batch (calls order .none) now n working c).iterations c
      ∧ (admittedIDs (batch (calls order .none) now n working c).iterations = [] →
        (batch (calls order .none) now n working c).iterations = []) := by
  induction n generalizing working c with
  | zero => exact ⟨Accounted.nil hc, fun _ => rfl⟩
  | succ n ih =>
      rw [batch]
      cases ht : turn (calls order .none) now working c with
      | noCandidate reason => exact ⟨Accounted.nil hc, fun _ => rfl⟩
      | stop it working' c' =>
          obtain ⟨rfl, ⟨w, cap, hd⟩, hp⟩ := turn_stop hv ht
          obtain ⟨-, -, hne, -⟩ := turn_selects (Or.inl ht)
          have hq : phaseOf c it.selection.selectedID = some .queued := by
            rw [hd.id]
            exact hf w hd.mem
          have hsel := selected_not_victim hv hd hne
          refine ⟨accounted_one order hc hq hsel, fun hnone => ?_⟩
          obtain ⟨c₁, hrun, -⟩ := perform_performed order hc hq hsel
          have hverdict : it.verdict = .admitted := by
            rw [hrun] at hp
            exact (Prod.mk.inj hp).2.symm
          rw [admittedIDs, List.filterMap_cons, Iteration.admittedID, if_pos hverdict] at hnone
          cases hnone
      | next it working' c' =>
          obtain ⟨rfl, w, cap, hd, hgo⟩ := turn_next hv ht
          obtain ⟨-, -, hne, -⟩ := turn_selects (Or.inr ht)
          have hq : phaseOf c it.selection.selectedID = some .queued := by
            rw [hd.id]
            exact hf w hd.mem
          have hsel := selected_not_victim hv hd hne
          have hone := accounted_one order hc hq hsel
          have hreplay : replay (calls order .none) [it] c = c' := by
            show (perform (calls order .none) it.selection c).1 = c'
            rw [hgo.performed]
          -- the rest of the queue is spared, since this turn had no victims
          have hfresh : Fresh working' c' := by
            intro q hqw
            obtain ⟨hmem, hother⟩ := hgo.mem_queued.mp hqw
            obtain ⟨c₁, hrun, hperf⟩ := perform_performed order hc hq hsel
            rw [hgo.performed] at hrun
            obtain rfl := (Prod.mk.inj hrun).1
            rw [hperf.spared q.workloadID (by rw [hd.id]; exact hother)
              (by rw [hgo.victims]; exact List.not_mem_nil)]
            exact hf q hmem
          have hkeyed := hone.keyed
          rw [hreplay] at hkeyed
          obtain ⟨hrest, -⟩ := ih (hgo.valid hv hnow) hfresh hkeyed
          rw [← hreplay] at hrest
          refine ⟨?_, fun hnone => ?_⟩
          · have happ := hone.append hrest
            rw [hreplay] at happ
            exact happ
          · simp only at hnone
            rw [admittedIDs, List.filterMap_cons, hgo.admittedID] at hnone
            cases hnone

/-- **A CYCLE ON AN UP-TO-DATE QUEUE** accounts for its evictions. -/
theorem accounted_cycle (order : MapOrder) (maxAdmissionsPerCycle : Int) {now : String → Int}
    {namespaces : List String} (hnow : ∀ ns ∈ namespaces, now ns ≠ 0) {c : Cluster}
    (hc : Keyed c.api) (hup : UpToDate c) :
    Accounted (calls order .none)
      ((cycleBatches (calls order .none) maxAdmissionsPerCycle now namespaces c).flatMap
        Prod.snd) c := by
  induction namespaces with
  | nil => exact Accounted.nil hc
  | cons ns rest ih =>
      have hrest := ih (fun ns h => hnow ns (List.mem_cons_of_mem _ h))
      rw [cycleBatches]
      cases hsnap : (calls order .none).snapshotForNamespace c ns with
      | none => exact hrest
      | some inputs =>
        by_cases hq : inputs.queuedWorkloads = []
        · simp only [if_pos hq]
          exact hrest
        · simp only [if_neg hq]
          cases hval : validate inputs with
          | error e => exact hrest
          | ok u =>
            have hfresh : Fresh inputs c := fun q hqw =>
              hup ns q ((snapshot_spec hsnap).queued.mem_iff.mp hqw)
            obtain ⟨hacc, hnone⟩ := accounted_batch order (hnow ns (List.mem_cons_self ..))
              (maxAdmissions maxAdmissionsPerCycle) (validate_ok_iff.mp hval) hfresh hc
            simp only [List.flatMap_cons]
            split_ifs with hadm
            · -- nothing was admitted, so nothing was done
              rw [batch_state_eq, hnone hadm]
              exact hrest
            · rw [List.flatMap_nil, List.append_nil]
              exact hacc

/-! ## Steps and runs -/

/-- What every step keeps: the evictions of the log served their workloads, and with the
    workloads still waiting they are covered by the entries into the queue. -/
structure Inv (s : World) : Prop where
  keyed : Keyed s.cluster.api
  served : ∀ e ∈ s.evictions, e.Serves
  once : ∀ id, evictedFor id s.evictions + waiting s.cluster id ≤ s.enqueued.count id

section
variable {s t : World}

/-- A step without evictions keeps the invariant if whoever waits after it did so before,
    or entered the queue. -/
theorem Inv.of_waiting (h : Inv s) {c : Cluster} {entered : List String} (hk : Keyed c.api)
    (hw : ∀ id, waiting c id ≤ entered.count id + waiting s.cluster id) :
    Inv ⟨c, entered ++ s.enqueued, s.evictions⟩ := by
  refine ⟨hk, h.served, fun id => ?_⟩
  have honce := h.once id
  have hwait := hw id
  show evictedFor id s.evictions + waiting c id ≤ (entered ++ s.enqueued).count id
  rw [List.count_append]
  omega

/-- A cycle with succeeding calls and an up-to-date queue. -/
theorem Inv.cycle (h : Inv s) (order : MapOrder) (maxAdmissionsPerCycle : Int)
    {now : String → Int} {namespaces : List String} (hnow : ∀ ns ∈ namespaces, now ns ≠ 0)
    (hup : UpToDate s.cluster) :
    Inv ⟨runSchedulingCycle (calls order .none) maxAdmissionsPerCycle now namespaces
        { s.cluster with trigger := false }, s.enqueued,
      evictionsBy maxAdmissionsPerCycle s.cluster (.cycle order .none now namespaces)
        ++ s.evictions⟩ := by
  have hacc : Accounted (calls order .none) ((cycleBatches (calls order .none)
      maxAdmissionsPerCycle now namespaces { s.cluster with trigger := false }).flatMap Prod.snd)
      { s.cluster with trigger := false } :=
    accounted_cycle order maxAdmissionsPerCycle hnow h.keyed hup
  rw [runSchedulingCycle_eq]
  refine ⟨hacc.keyed, fun e he => ?_, fun id => ?_⟩
  · rcases List.mem_append.mp he with he | he
    · exact hacc.served e he
    · exact h.served e he
  · have h1 := hacc.once id
    have h2 := h.once id
    have hwait : waiting { s.cluster with trigger := false } id = waiting s.cluster id := rfl
    rw [hwait] at h1
    simp only [evictionsBy, evictedFor, List.countP_append] at h1 h2 ⊢
    omega

theorem keyed_remove {c : Cluster} (hc : Keyed c.api) (w : GPUWorkload) :
    Keyed (c.remove w).api := by
  intro k w' hk
  by_cases heq : k = key w
  · rw [heq] at hk
    rw [Cluster.remove, AList.lookup_erase] at hk
    cases hk
  · rw [Cluster.remove, AList.lookup_erase_ne heq] at hk
    exact hc k w' hk

/-- Nobody waits because of a removal. -/
theorem waiting_remove (c : Cluster) (w : GPUWorkload) (id : String) :
    waiting (c.remove w) id ≤ waiting c id := by
  cases hk : workloadKey id with
  | none => rw [waiting, waiting, phaseOf, phaseOf, hk]; exact le_refl _
  | some k =>
      rw [waiting, waiting, phaseOf_eq hk, phaseOf_eq hk, Cluster.remove]
      by_cases heq : (k.1, id) = key w
      · rw [heq, AList.lookup_erase, if_neg (fun h => by cases h)]
        exact Nat.zero_le _
      · rw [AList.lookup_erase_ne heq]

/-- A write makes its workload wait if it is a `Queued` version. -/
theorem waiting_put (c : Cluster) (w : GPUWorkload) (id : String) :
    waiting (c.put w) id ≤ waiting c id
      ∨ id = w.id ∧ w.phase = .queued ∧ phaseOf c w.id ≠ some .queued
        ∧ waiting (c.put w) id = 1 := by
  by_cases hid : id = w.id
  · subst hid
    by_cases hq : phaseOf c w.id = some .queued
    · left
      have hone : waiting c w.id = 1 := by rw [waiting, if_pos hq]
      rw [hone, waiting]
      split_ifs
      · exact le_refl 1
      · exact Nat.zero_le 1
    · rcases phaseOf_put_self c w with hsame | ⟨hnew, -⟩
      · left
        rw [waiting, waiting, hsame]
      · by_cases hphase : w.phase = .queued
        · right
          refine ⟨rfl, hphase, hq, ?_⟩
          rw [waiting, hnew, hphase, if_pos rfl]
        · left
          rw [waiting, hnew, if_neg (fun h => hphase (Option.some.inj h))]
          exact Nat.zero_le _
  · left
    rw [waiting, waiting, phaseOf_put_ne c hid]

/-- STEP: every step keeps the invariant, a cycle if its queue is up to date. -/
theorem step_inv {maxAdmissionsPerCycle : Int} {a : Label} (hs : Inv s)
    (hC : QueueUpToDate s a ∧ CallsSucceed a) (h : step maxAdmissionsPerCycle s a = some t) :
    Inv t := by
  obtain ⟨c, hc, rfl⟩ := Option.map_eq_some_iff.mp h
  -- the log of the steps that neither enqueue nor evict
  have hquiet : ∀ {c : Cluster}, Keyed c.api →
      (∀ id, waiting c id ≤ waiting s.cluster id) → Inv ⟨c, [] ++ s.enqueued, s.evictions⟩ :=
    fun hk hw => hs.of_waiting hk (fun id => (hw id).trans (Nat.le_add_left _ _))
  cases a with
  | create w =>
      obtain ⟨hw, rfl⟩ := step_create hc
      refine hquiet (keyed_put hs.keyed w) (fun id => ?_)
      rcases waiting_put s.cluster w id with hle | ⟨-, hq, -⟩
      · exact hle
      · rw [hw.2.2.1] at hq
        cases hq
  | update w =>
      obtain ⟨old, -, -, rfl⟩ := step_update hc
      refine hs.of_waiting (keyed_put hs.keyed w) (fun id => ?_)
      rcases waiting_put s.cluster w id with hle | ⟨rfl, hq, hnew, hone⟩
      · exact hle.trans (Nat.le_add_left _ _)
      · rw [hone, enqueuedBy, if_pos ⟨hq, hnew⟩, List.count_singleton_self]
        exact Nat.le_add_right _ _
  | delete k =>
      obtain ⟨w, -, rfl⟩ := Option.map_eq_some_iff.mp hc
      exact hquiet (keyed_remove hs.keyed w) (waiting_remove s.cluster w)
  | deliver i now =>
      obtain ⟨x, -, rfl⟩ := Option.map_eq_some_iff.mp hc
      exact hquiet hs.keyed (fun _ => le_refl _)
  | pool ns listed =>
      obtain rfl := Option.some.inj hc
      exact hquiet hs.keyed (fun _ => le_refl _)
  | quota q deleted =>
      obtain rfl := Option.some.inj hc
      exact hquiet hs.keyed (fun _ => le_refl _)
  | cycle order faults now namespaces =>
      obtain ⟨hcond, rfl⟩ := step_cycle hc
      obtain ⟨hup, rfl⟩ := hC
      exact hs.cycle order maxAdmissionsPerCycle hcond.2.2 hup

theorem inv_start : Inv start :=
  ⟨fun k w h => (by cases h), fun e h => (by cases h), fun id => by
    have hnone : phaseOf start.cluster id = none := by
      rw [phaseOf]
      cases workloadKey id with
      | none => rfl
      | some k => rfl
    rw [waiting, hnone]
    exact le_refl 0⟩

/-- **NO PREEMPTION IN VAIN**: in every run with succeeding calls whose cycles start with
    an up-to-date queue, every eviction serves its workload, and a workload causes no more
    evictions than it enters the queue. -/
theorem serves_of_runs {maxAdmissionsPerCycle : Int} {as : List Label}
    (hok : ∀ a ∈ as, CallsSucceed a)
    (h : Runs (step maxAdmissionsPerCycle) QueueUpToDate start as s) : Serves s := by
  have hinv : Inv s := (h.and_labels hok).invariant (fun _ _ _ hs hC hst => step_inv hs hC hst)
    inv_start
  exact ⟨hinv.served, fun id => (Nat.le_add_right _ _).trans (hinv.once id)⟩

end

/-! ## A full pool and an urgent workload -/

/-- A version of a workload for one GPU. -/
def version (name : String) (priority : Int) (phase : Phase) : GPUWorkload :=
  { ns := "ns", name := name, annotations := ∅, deletionTimestamp := none
    spec := ⟨"team", priority, 1, 40, "h100_sxm", 5, .training⟩, phase := phase
    queuedAt := if phase = .unset then none else some 1 }

/-- The status of the pool of two devices changes. -/
def poolWith (free : Int) : Label :=
  .pool "ns" (some [⟨"ns", "pool", 1, 2, 80, "h100_sxm", none, free⟩])

/-- One cycle over the namespace, all calls succeeding. -/
def oneCycle : Label := .cycle .entries .none (fun _ => 7) ["ns"]

/-- A workload is created and queued, and the scheduler learns about it. -/
def arrives (name : String) (priority : Int) : List Label :=
  [.create (version name priority .unset), .update (version name priority .queued),
    .deliver 0 2, .deliver 0 2]

/-- A worker starts a scheduled workload. -/
def starts (name : String) : List Label := [.update (version name 1 .running), .deliver 0 3]

/-- Two workloads take the two devices; then an urgent one is queued. -/
def fullPool : List Label :=
  poolWith 2 :: arrives "a" 1 ++ arrives "b" 1 ++ [oneCycle, .deliver 0 3, .deliver 0 3]
    ++ starts "a" ++ starts "b" ++ [poolWith 0] ++ arrives "urgent" 5

theorem fullPool_plain : ∀ a ∈ fullPool, CallsSucceed a ∧ InWriteOrder a := by
  simp [fullPool, arrives, starts, poolWith, oneCycle, CallsSucceed, InWriteOrder]

/-- One cycle for the urgent workload: it gets the device of its victim. -/
theorem urgent_served :
    ∃ s, Runs (step 2) QueueUpToDate start (fullPool ++ [oneCycle]) s
      ∧ s.evictions = [⟨"ns/urgent", some .queued, some .scheduled⟩] ∧ Serves s := by
  have hexec : (exec (guarded (step 2) QueueUpToDate) start (fullPool ++ [oneCycle])).map
      World.evictions = some [⟨"ns/urgent", some .queued, some .scheduled⟩] := by
    decide +kernel
  obtain ⟨s, hs, hlog⟩ := Option.map_eq_some_iff.mp hexec
  have hrun := Runs.of_exec_guarded hs
  have hok : ∀ a ∈ fullPool ++ [oneCycle], CallsSucceed a :=
    List.forall_mem_append.mpr ⟨fun a ha => (fullPool_plain a ha).1, by
      simp [oneCycle, CallsSucceed]⟩
  exact ⟨s, hrun, hlog, serves_of_runs hok hrun⟩

/-- The victim's event arrives, the urgent workload's own does not: the next cycle evicts
    the other running workload for a workload that is `Scheduled` already. -/
theorem secondVictim_in_vain :
    ¬∀ (maxAdmissionsPerCycle : Int) (as : List Label) (s : World),
      (∀ a ∈ as, CallsSucceed a ∧ InWriteOrder a) →
      Runs (step maxAdmissionsPerCycle) Always start as s → Serves s := by
  intro h
  have hexec : (exec (step 2) start (fullPool ++ [oneCycle, .deliver 0 8, oneCycle])).map
      World.evictions = some [⟨"ns/urgent", some .scheduled, some .scheduled⟩,
        ⟨"ns/urgent", some .queued, some .scheduled⟩] := by
    decide +kernel
  obtain ⟨s, hs, hlog⟩ := Option.map_eq_some_iff.mp hexec
  have hplain : ∀ a ∈ fullPool ++ [oneCycle, .deliver 0 8, oneCycle],
      CallsSucceed a ∧ InWriteOrder a :=
    List.forall_mem_append.mpr ⟨fullPool_plain, by simp [oneCycle, CallsSucceed, InWriteOrder]⟩
  have hserves := h 2 _ s hplain (Runs.of_exec hs)
  have hfirst := hserves.served ⟨"ns/urgent", some .scheduled, some .scheduled⟩
    (by rw [hlog]; exact List.mem_cons_self ..)
  exact absurd hfirst.1 (by decide)

end GpuEviction
