import GpuScheduler.SchedulerStateProofs
import GpuScheduler.VictimsProofs

/-! # Start times and the order of starting

    Victim selection prefers what was started last, and reads that off `StartedAt`.  The
    handler of workload events does not know when a workload was started: it writes the time
    at which the workload was queued, or else the time of the event.

    `Watched` is the scheduler's state together with what an observer of the same events
    knows: which workloads are Running, and with which event each became so.
    `start_order_iff` says for which histories the times tell that order. -/

namespace GpuStartOrder

open GoMaps GoSort GpuInputs GpuPreemption GpuWorkload GpuSchedulerState GpuVictims StepRuns

/-! ## Watching the events -/

/-- The state, and by namespace and ID whether the last event of a workload shows it Running, and
    the number of the event with which it last became so. -/
structure Watched where
  state : SchedulerState
  running : String → String → Bool
  since : String → String → Nat
  count : Nat

/-- Before the first event. -/
def newWatched : Watched := ⟨newSchedulerState, fun _ _ => false, fun _ _ => 0, 0⟩

/-- A change that shows its workload Running. -/
def Shows (c : Change) : Prop := c.bucket = some .running

instance (c : Change) : Decidable (Shows c) := inferInstanceAs (Decidable (_ = _))

/-- One event. -/
def observe (h : Watched) (e : Event) : Watched where
  state := (handle h.state e).1
  running ns id := (e.changeOf ns id).elim (h.running ns id) (fun c => decide (Shows c))
  since ns id := (e.changeOf ns id).elim (h.since ns id)
    (fun c => if Shows c ∧ h.running ns id = false then h.count else h.since ns id)
  count := h.count + 1

/-- The events one after another. -/
def watch (events : List Event) : Watched := events.foldl observe newWatched

/-- The step of the watched system; every event is possible. -/
def step (h : Watched) (e : Event) : Option Watched := some (observe h e)

/-- The record of a workload in the running bucket. -/
def Watched.held (h : Watched) (ns id : String) : Option RunningWorkload :=
  (h.state.slotAt ns id).running

/-- What is watched is the scheduler's state. -/
theorem state_watch (events : List Event) :
    (watch events).state = deliver newSchedulerState events := by
  have hfold : ∀ h : Watched, (events.foldl observe h).state
      = events.foldl (fun st e => (handle st e).1) h.state := by
    induction events with
    | nil => exact fun h => rfl
    | cons e events ih =>
        intro h
        rw [List.foldl_cons, List.foldl_cons, ih]
        rfl
  exact hfold newWatched

theorem exec_watch (events : List Event) : exec step newWatched events = some (watch events) := by
  have hfold : ∀ h : Watched, exec step h events = some (events.foldl observe h) := by
    induction events with
    | nil => exact fun h => rfl
    | cons e events ih => exact fun h => ih (observe h e)
  exact hfold newWatched

/-! ## The property and its condition -/

/-- **START ORDER**: the start times of the running bucket are in the order in which the
    workloads became Running. -/
def StartOrder (h : Watched) : Prop :=
  ∀ ns id ns' id' r r', h.held ns id = some r → h.held ns' id' = some r' →
    (r.startedAt < r'.startedAt ↔ h.since ns id < h.since ns' id')

/-- Either victim selector. -/
def Selects (w : QueuedWorkload) (inputs : SchedulingInputs) (vs : List RunningWorkload) : Prop :=
  selectPreemptionVictims w inputs.runningWorkloads inputs.fleetFreeCapacity = .ok vs
    ∨ selectPreemptionVictimsGreedyMinimal w inputs.runningWorkloads inputs.fleetFreeCapacity
      = .ok vs

/-- **THE TIE-BREAK**: of two running workloads of a namespace with equal profile, priority and
    GPU count, the one that became Running first is a victim only if the other is. -/
def Prefers (h : Watched) : Prop :=
  ∀ ns order inputs w vs id id' r r', h.state.snapshotForNamespace order ns = some inputs →
    Selects w inputs vs → h.held ns id = some r → h.held ns id' = some r' →
    r.profile = r'.profile → r.priority = r'.priority → r.gpuCount = r'.gpuCount →
    h.since ns id < h.since ns id' → r ∈ vs → r' ∈ vs

/-- Two times compare with a third in the same way. -/
def Alike (t t' other : Int) : Prop := (t < other ↔ t' < other) ∧ (other < t ↔ other < t')

/-- **TIMES THAT KEEP THE ORDER**: an event with which a workload becomes Running has a later time
    than all other records of the running bucket; one of a workload that is Running already
    compares with each of them as the workload's record does. -/
def Keeps (h : Watched) : Event → Prop
  | .workload e now =>
      Shows (e.change now) → ∀ ns id r,
        ¬((e.change now).workload.ns = ns ∧ (e.change now).workload.id = id) →
        h.held ns id = some r →
        if h.running (e.change now).workload.ns (e.change now).workload.id then
          ∀ own, h.held (e.change now).workload.ns (e.change now).workload.id = some own →
            Alike ((e.change now).workload.since (e.change now).now) own.startedAt r.startedAt
        else r.startedAt < (e.change now).workload.since (e.change now).now
  | _ => True

/-- What an observer can rely on: numbers are of past events, and a workload that was seen
    Running is in the bucket. -/
structure Consistent (h : Watched) : Prop where
  past : ∀ ns id r, h.held ns id = some r → h.since ns id < h.count
  held : ∀ ns id, h.running ns id = true → ∃ r, h.held ns id = some r

/-! ## One event -/

section
variable {h : Watched} {e : Event} {ns id : String} {c : Change} {r : RunningWorkload}

/-- The bucket after an event. -/
theorem held_observe (h : Watched) (e : Event) (ns id : String) :
    (observe h e).held ns id = (e.changeOf ns id).elim (h.held ns id)
      (fun c => ((h.state.slotAt ns id).apply c).running) := by
  show ((handle h.state e).1.slotAt ns id).running = _
  rw [slotAt_handle]
  cases e.changeOf ns id with
  | none => rfl
  | some c => rfl

/-- An event that shows a workload Running makes its record anew; the observer counts from here
    if the workload was not Running. -/
theorem shown_observe (hc : e.changeOf ns id = some c) (hs : Shows c) :
    (observe h e).held ns id = some (c.workload.asRunning c.now)
      ∧ (observe h e).running ns id = true
      ∧ (observe h e).since ns id
        = if h.running ns id = false then h.count else h.since ns id := by
  have hbucket : c.bucket = some .running := hs
  refine ⟨?_, ?_, ?_⟩
  · rw [held_observe, hc, Option.elim_some, Slot.apply, hbucket]
  · show (e.changeOf ns id).elim _ _ = true
    rw [hc, Option.elim_some, decide_eq_true hs]
  · show (e.changeOf ns id).elim _ _ = _
    simp only [hc, Option.elim_some, hs, true_and]

/-- Any other event leaves the record of a workload or removes it. -/
theorem kept_observe (hno : ∀ c, e.changeOf ns id = some c → ¬Shows c) :
    (∀ r, (observe h e).held ns id = some r → h.held ns id = some r)
      ∧ ((observe h e).running ns id = true → e.changeOf ns id = none ∧ h.running ns id = true)
      ∧ (observe h e).since ns id = h.since ns id := by
  refine ⟨?_, ?_, ?_⟩
  · intro r hr
    rw [held_observe] at hr
    cases hc : e.changeOf ns id with
    | none =>
        rw [hc] at hr
        exact hr
    | some c =>
        rw [hc, Option.elim_some, Slot.apply] at hr
        split at hr
        · cases hr
        · exact hr
        · exact hr
        · exact absurd ‹c.bucket = some .running› (hno c hc)
  · intro hr
    have hr' : (e.changeOf ns id).elim (h.running ns id) (fun c => decide (Shows c)) = true := hr
    cases hc : e.changeOf ns id with
    | none =>
        rw [hc] at hr'
        exact ⟨rfl, hr'⟩
    | some c =>
        rw [hc] at hr'
        exact absurd (of_decide_eq_true hr') (hno c hc)
  · show (e.changeOf ns id).elim _ _ = _
    cases hc : e.changeOf ns id with
    | none => rfl
    | some c => simp only [Option.elim_some, hno c hc, false_and, if_false]

/-- An event either shows a workload Running or does not. -/
theorem shown_or_kept (e : Event) (ns id : String) :
    (∃ c, e.changeOf ns id = some c ∧ Shows c) ∨ ∀ c, e.changeOf ns id = some c → ¬Shows c := by
  by_cases hex : ∃ c, e.changeOf ns id = some c ∧ Shows c
  · exact Or.inl hex
  · exact Or.inr (fun c hc hs => hex ⟨c, hc, hs⟩)

/-- The workload an event is about. -/
theorem changeOf_some (hc : e.changeOf ns id = some c) :
    c.workload.ns = ns ∧ c.workload.id = id ∧ ∃ we now, e = .workload we now
      ∧ c = we.change now := by
  cases e with
  | workload we now =>
      simp only [Event.changeOf] at hc
      split_ifs at hc with hkey
      obtain rfl := Option.some.inj hc
      exact ⟨hkey.1, hkey.2, we, now, rfl, rfl⟩
  | pool ns' listed => cases hc
  | quota q deleted => cases hc

/-- An event that changes one workload changes no other. -/
theorem changeOf_other (hc : e.changeOf ns id = some c) {ns' id' : String}
    (hne : ¬(ns = ns' ∧ id = id')) : e.changeOf ns' id' = none := by
  obtain ⟨rfl, rfl, we, now, rfl, rfl⟩ := changeOf_some hc
  rw [Event.changeOf, if_neg hne]

/-- The record of a workload an event is not about stays. -/
theorem held_other (hc : e.changeOf ns id = none) : (observe h e).held ns id = h.held ns id := by
  rw [held_observe, hc, Option.elim_none]

/-- What the condition asks of an event that shows a workload Running. -/
theorem keeps_iff_of_shows (hc : e.changeOf ns id = some c) (hs : Shows c) :
    Keeps h e ↔ ∀ ns' id' r, ¬(ns = ns' ∧ id = id') → h.held ns' id' = some r →
      if h.running ns id then
        ∀ own, h.held ns id = some own →
          Alike (c.workload.since c.now) own.startedAt r.startedAt
      else r.startedAt < c.workload.since c.now := by
  obtain ⟨rfl, rfl, we, now, rfl, rfl⟩ := changeOf_some hc
  exact ⟨fun hk => hk hs, fun hk _ => hk⟩

/-- The condition is void for any other event. -/
theorem keeps_of_kept (hno : ∀ ns id c, e.changeOf ns id = some c → ¬Shows c) : Keeps h e := by
  cases e with
  | workload we now =>
      intro hs
      refine absurd hs (hno (we.change now).workload.ns (we.change now).workload.id _ ?_)
      rw [Event.changeOf, if_pos ⟨rfl, rfl⟩]
  | pool ns' listed => exact trivial
  | quota q deleted => exact trivial

end

/-- The observer's knowledge stays consistent. -/
theorem Consistent.observe {h : Watched} (hcon : Consistent h) (e : Event) :
    Consistent (observe h e) := by
  constructor
  · intro ns id r hr
    show (GpuStartOrder.observe h e).since ns id < h.count + 1
    rcases shown_or_kept e ns id with ⟨c, hc, hs⟩ | hno
    · obtain ⟨-, -, hsince⟩ := shown_observe (h := h) hc hs
      rw [hsince]
      split_ifs with hrun
      · exact Nat.lt_succ_self _
      · obtain ⟨r', hr'⟩ := hcon.held ns id (by simpa using hrun)
        exact Nat.lt_succ_of_lt (hcon.past ns id r' hr')
    · obtain ⟨hheld, -, hsince⟩ := kept_observe (h := h) hno
      rw [hsince]
      exact Nat.lt_succ_of_lt (hcon.past ns id r (hheld r hr))
  · intro ns id hrun
    rcases shown_or_kept e ns id with ⟨c, hc, hs⟩ | hno
    · exact ⟨_, (shown_observe hc hs).1⟩
    · obtain ⟨hnone, hrun'⟩ := (kept_observe hno).2.1 hrun
      obtain ⟨r, hr⟩ := hcon.held ns id hrun'
      exact ⟨r, by rw [held_other hnone, hr]⟩

/-- Against a workload that an event shows Running, any other compares after the event as the
    condition asks. -/
theorem agree_iff {h : Watched} (hcon : Consistent h) (hord : StartOrder h) {e : Event}
    {ns id ns' id' : String} {c : Change} {r : RunningWorkload}
    (hc : e.changeOf ns id = some c) (hs : Shows c) (hne : ¬(ns = ns' ∧ id = id'))
    (hr : h.held ns' id' = some r) :
    ((c.workload.since c.now < r.startedAt
        ↔ (observe h e).since ns id < (observe h e).since ns' id')
      ∧ (r.startedAt < c.workload.since c.now
        ↔ (observe h e).since ns' id' < (observe h e).since ns id))
      ↔ if h.running ns id then
          ∀ own, h.held ns id = some own →
            Alike (c.workload.since c.now) own.startedAt r.startedAt
        else r.startedAt < c.workload.since c.now := by
  have hnone := changeOf_other hc hne
  have hno : ∀ c', e.changeOf ns' id' = some c' → ¬Shows c' := by
    intro c' hc'
    rw [hnone] at hc'
    cases hc'
  rw [(shown_observe hc hs).2.2, (kept_observe hno).2.2]
  have hpast := hcon.past ns' id' r hr
  cases hrun : h.running ns id with
  | false =>
      -- a new start: its number is the highest
      simp only [if_true, Bool.false_eq_true, if_false]
      constructor
      · rintro ⟨-, hlt⟩
        exact hlt.mpr hpast
      · intro hlt
        exact ⟨⟨fun h => absurd h (by omega), fun h => absurd h (by omega)⟩,
          fun _ => hpast, fun _ => hlt⟩
  | true =>
      -- a workload that was Running keeps its number, and its record has kept the order
      simp only [Bool.true_eq_false, if_false, if_true]
      obtain ⟨own, hown⟩ := hcon.held ns id hrun
      have hleft := hord ns id ns' id' own r hown hr
      have hright := hord ns' id' ns id r own hr hown
      constructor
      · rintro ⟨hlt, hgt⟩ own' hown'
        rw [hown] at hown'
        obtain rfl := Option.some.inj hown'
        exact ⟨hlt.trans hleft.symm, hgt.trans hright.symm⟩
      · intro hall
        obtain ⟨hlt, hgt⟩ := hall own hown
        exact ⟨hlt.trans hleft, hgt.trans hright⟩

/-- **ONE EVENT** keeps the start order exactly under the condition. -/
theorem startOrder_observe_iff {h : Watched} (hcon : Consistent h) (hord : StartOrder h)
    (e : Event) : StartOrder (observe h e) ↔ Keeps h e := by
  by_cases hex : ∃ ns id c, e.changeOf ns id = some c ∧ Shows c
  · obtain ⟨ns, id, c, hc, hs⟩ := hex
    have hheld := (shown_observe (h := h) hc hs).1
    rw [keeps_iff_of_shows hc hs]
    constructor
    · intro hord' ns' id' r hne hr
      have hr' : (observe h e).held ns' id' = some r := by
        rw [held_other (changeOf_other hc hne), hr]
      exact (agree_iff hcon hord hc hs hne hr).mp
        ⟨hord' ns id ns' id' _ r hheld hr', hord' ns' id' ns id r _ hr' hheld⟩
    · intro hkeeps
      -- the event is about one workload; the cases are which of the two it is
      have hother : ∀ ns' id' r, ¬(ns = ns' ∧ id = id') → (observe h e).held ns' id' = some r →
          h.held ns' id' = some r ∧ (observe h e).since ns' id' = h.since ns' id' := by
        intro ns' id' r hne hr
        have hno : ∀ c', e.changeOf ns' id' = some c' → ¬Shows c' := by
          intro c' hc'
          rw [changeOf_other hc hne] at hc'
          cases hc'
        exact ⟨(kept_observe hno).1 r hr, (kept_observe hno).2.2⟩
      intro ns₁ id₁ ns₂ id₂ r₁ r₂ h₁ h₂
      by_cases hk₁ : ns = ns₁ ∧ id = id₁
      · obtain ⟨rfl, rfl⟩ := hk₁
        obtain rfl := Option.some.inj (hheld.symm.trans h₁)
        by_cases hk₂ : ns = ns₂ ∧ id = id₂
        · obtain ⟨rfl, rfl⟩ := hk₂
          obtain rfl := Option.some.inj (hheld.symm.trans h₂)
          exact ⟨fun hlt => absurd hlt (lt_irrefl _), fun hlt => absurd hlt (lt_irrefl _)⟩
        · have hr₂ := (hother ns₂ id₂ r₂ hk₂ h₂).1
          exact ((agree_iff hcon hord hc hs hk₂ hr₂).mpr (hkeeps ns₂ id₂ r₂ hk₂ hr₂)).1
      · obtain ⟨hr₁, hsince₁⟩ := hother ns₁ id₁ r₁ hk₁ h₁
        by_cases hk₂ : ns = ns₂ ∧ id = id₂
        · obtain ⟨rfl, rfl⟩ := hk₂
          obtain rfl := Option.some.inj (hheld.symm.trans h₂)
          exact ((agree_iff hcon hord hc hs hk₁ hr₁).mpr (hkeeps ns₁ id₁ r₁ hk₁ hr₁)).2
        · obtain ⟨hr₂, hsince₂⟩ := hother ns₂ id₂ r₂ hk₂ h₂
          rw [hsince₁, hsince₂]
          exact hord ns₁ id₁ ns₂ id₂ r₁ r₂ hr₁ hr₂
  · have hno : ∀ ns id c, e.changeOf ns id = some c → ¬Shows c :=
      fun ns id c hc hs => hex ⟨ns, id, c, hc, hs⟩
    refine ⟨fun _ => keeps_of_kept hno, fun _ => ?_⟩
    intro ns id ns' id' r r' hr hr'
    obtain ⟨hheld, -, hsince⟩ := kept_observe (h := h) (hno ns id)
    obtain ⟨hheld', -, hsince'⟩ := kept_observe (h := h) (hno ns' id')
    rw [hsince, hsince']
    exact hord ns id ns' id' r r' (hheld r hr) (hheld' r' hr')

/-! ## From the times to the victims -/

/-- Of two workloads of equal profile, priority and GPU count, the plain selector takes the one
    with the earlier start time only together with the other. -/
theorem plain_prefers {w : QueuedWorkload} {running : List RunningWorkload}
    {fleet : FleetFreeCapacity} {vs : List RunningWorkload} {r r' : RunningWorkload}
    (h : selectPreemptionVictims w running fleet = .ok vs) (hr' : r' ∈ running)
    (hprofile : r.profile = r'.profile) (hpriority : r.priority = r'.priority)
    (htime : r.startedAt < r'.startedAt) (hr : r ∈ vs) : r' ∈ vs := by
  obtain ⟨-, htake⟩ := take_of_plain h (List.ne_nil_of_mem hr)
  obtain ⟨rest, hsplit⟩ := takeVictims_append htake
  have hcand : r ∈ candidatesOn w.profile running := by
    rw [hsplit]
    exact List.mem_append_left rest hr
  have hpool : r' ∈ running.filter (fun x => x.profile = w.profile) :=
    List.mem_filter.mpr ⟨hr', decide_eq_true (hprofile ▸ (mem_candidatesOn.mp hcand).2)⟩
  refine mem_front_of_less candidateLess_strictWeak hsplit hr hpool ?_
  rw [candidateLess, if_neg (not_not.mpr hpriority.symm), decide_eq_true htime]

/-- So does the greedy one. -/
theorem greedy_prefers {w : QueuedWorkload} {running : List RunningWorkload}
    {fleet : FleetFreeCapacity} {vs : List RunningWorkload} {r r' : RunningWorkload}
    (h : selectPreemptionVictimsGreedyMinimal w running fleet = .ok vs) (hr' : r' ∈ running)
    (hprofile : r.profile = r'.profile) (hpriority : r.priority = r'.priority)
    (hcount : r.gpuCount = r'.gpuCount) (htime : r.startedAt < r'.startedAt) (hr : r ∈ vs) :
    r' ∈ vs := by
  obtain ⟨-, -, hwiden⟩ := widen_of_greedy h (List.ne_nil_of_mem hr)
  obtain ⟨c, -, hpick, -⟩ := widen_some (candidatesOn_sorted w.profile running) hwiden
  obtain ⟨rest, hsplit⟩ := takeVictims_append (greedyPick_some hpick).2.1
  have hunder : r ∈ under w.profile c.priority running := by
    refine (victimOrder_perm_under w.profile c.priority running).mem_iff.mp ?_
    rw [hsplit]
    exact List.mem_append_left rest hr
  obtain ⟨-, hrprofile, hrpriority⟩ := mem_under.mp hunder
  have hpool : r' ∈ upTo c.priority (candidatesOn w.profile running) :=
    (upTo_perm_under w.profile c.priority running).mem_iff.mpr
      (mem_under.mpr ⟨hr', hprofile ▸ hrprofile, hpriority ▸ hrpriority⟩)
  refine mem_front_of_less victimLess_strictWeak hsplit hr hpool ?_
  rw [victimLess, if_neg (not_not.mpr hcount.symm), decide_eq_true htime]

/-- **START ORDER GIVES THE TIE-BREAK**. -/
theorem StartOrder.prefers {h : Watched} (hord : StartOrder h) : Prefers h := by
  intro ns order inputs w vs id id' r r' hsnap hsel hr hr' hprofile hpriority hcount hsince hmem
  have htime := (hord ns id ns id' r r' hr hr').mpr hsince
  have hrunning : r' ∈ inputs.runningWorkloads :=
    (snapshot_spec hsnap).running.mem_iff.mpr (mem_values.mpr ⟨id', hr'⟩)
  rcases hsel with hplain | hgreedy
  · exact plain_prefers hplain hrunning hprofile hpriority htime hmem
  · exact greedy_prefers hgreedy hrunning hprofile hpriority hcount htime hmem

/-! ## Histories -/

/-- **WHEN THE TIE-BREAK FOLLOWS THE START ORDER**: after every event of a history the start times
    are in the order of starting, and the victims follow it, exactly if every event's time
    keeps the order. -/
theorem start_order_iff (events : List Event) :
    (∀ past future, events = past ++ future → StartOrder (watch past) ∧ Prefers (watch past))
      ↔ Runs step Keeps newWatched events (watch events) := by
  have hnew : ∀ ns id r, newWatched.held ns id ≠ some r := fun ns id r hr => (by cases hr)
  have hcon : Consistent newWatched :=
    ⟨fun ns id r hr => absurd hr (hnew ns id r), fun ns id hrun => (by cases hrun)⟩
  have hord : StartOrder newWatched := fun ns id _ _ r _ hr => absurd hr (hnew ns id r)
  have hinv : ∀ s e t, Consistent s → step s e = some t → Consistent t := by
    intro s e t hs ht
    rw [← Option.some.inj ht]
    exact hs.observe e
  have hone : ∀ s e t, Consistent s → StartOrder s ∧ Prefers s → step s e = some t →
      (StartOrder t ∧ Prefers t ↔ Keeps s e) := by
    intro s e t hs hP ht
    rw [← Option.some.inj ht, ← startOrder_observe_iff hs hP.1 e]
    exact ⟨fun h => h.1, fun h => ⟨h, h.prefers⟩⟩
  rw [← every_state_iff_runs hinv hone (exec_watch events) hcon ⟨hord, hord.prefers⟩]
  constructor
  · intro hall past future t hsplit ht
    rw [exec_watch] at ht
    rw [← Option.some.inj ht]
    exact hall past future hsplit
  · intro hall past future hsplit
    exact hall past future _ hsplit (exec_watch past)

/-- A workload of one GPU. -/
def oneGPU (name : String) (queuedAt : Int) (phase : Phase) : GPUWorkload :=
  { ns := "ns", name := name, annotations := ∅, deletionTimestamp := none
    spec := ⟨"team", 1, 1, 80, "h100_sxm", 1, .training⟩, phase := phase
    queuedAt := some queuedAt }

/-- Two workloads take the two devices of a pool; the one queued first is started last. -/
def lateStart : List Event :=
  [.pool "ns" (some [⟨"ns", "p", 1, 2, 80, "h100_sxm", none, 0⟩]),
    .workload (.add (oneGPU "a" 1 .scheduled)) 3,
    .workload (.add (oneGPU "b" 2 .scheduled)) 4,
    .workload (.update (oneGPU "b" 2 .scheduled) (oneGPU "b" 2 .running)) 5,
    .workload (.update (oneGPU "a" 1 .scheduled) (oneGPU "a" 1 .running)) 6]

/-- A workload that is short of one GPU. -/
def newcomer : QueuedWorkload := ⟨"ns/c", "team", 2, 7, 1, 80, "h100_sxm", 1, .training⟩

/-- The victim is the workload that was started first. -/
theorem lateStart_out_of_order :
    ¬(∀ events, StartOrder (watch events)) ∧ ¬(∀ events, Prefers (watch events)) := by
  have ha : (watch lateStart).held "ns" "ns/a" = some ((oneGPU "a" 1 .running).asRunning 6) := rfl
  have hb : (watch lateStart).held "ns" "ns/b" = some ((oneGPU "b" 2 .running).asRunning 5) := rfl
  constructor
  · intro hall
    have hiff := hall lateStart _ _ _ _ _ _ ha hb
    revert hiff
    decide +kernel
  · intro hall
    obtain ⟨inputs, hsnap, hgreedy⟩ : ∃ inputs,
        (watch lateStart).state.snapshotForNamespace .entries "ns" = some inputs
          ∧ selectPreemptionVictimsGreedyMinimal newcomer inputs.runningWorkloads
            inputs.fleetFreeCapacity = .ok [(oneGPU "b" 2 .running).asRunning 5] :=
      ⟨_, rfl, by decide +kernel⟩
    have hmem := hall lateStart "ns" .entries inputs newcomer _ _ _ _ _ hsnap (Or.inr hgreedy)
      hb ha rfl rfl rfl
    revert hmem
    decide +kernel

end GpuStartOrder
