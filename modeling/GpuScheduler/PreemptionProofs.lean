import GpuScheduler.GoIntProofs
import GpuScheduler.GoSortProofs
import GpuScheduler.CompatProofs

/-! # Victim selection

    `SelectPreemptionVictimsGreedyMinimal` widens a pool of candidates one priority
    band at a time and, in the first pool that can cover the shortfall, takes the
    largest workloads first.  Its specification has three parts:

    * the victims are a prefix of the pool in victim order, the shortest one that
      frees the shortfall (`takeVictims_some_iff`);
    * the pool holds the candidates up to the lowest priority ceiling that can free
      it (`widen_some`);
    * victims exist exactly when all candidates together can free it
      (`widen_exists_iff`).

    What is kept of a sum of GPUs is a parameter of the functions, `norm`.  Here the sums are
    exact (`id`); `GpuIntVictims` has those of the machine. -/

namespace GpuPreemption

open GoMaps GoSort GpuInputs GpuCompat

/-- GPUs held by a list of workloads. -/
def gpuSum (ws : List RunningWorkload) : Int := (ws.map RunningWorkload.gpuCount).sum

@[simp] theorem gpuSum_nil : gpuSum [] = 0 := rfl

@[simp] theorem gpuSum_cons (r : RunningWorkload) (ws : List RunningWorkload) :
    gpuSum (r :: ws) = r.gpuCount + gpuSum ws := by
  simp [gpuSum]

@[simp] theorem gpuSum_append (ws ws' : List RunningWorkload) :
    gpuSum (ws ++ ws') = gpuSum ws + gpuSum ws' := by
  simp [gpuSum]

theorem gpuSum_perm {ws ws' : List RunningWorkload} (h : ws.Perm ws') :
    gpuSum ws = gpuSum ws' :=
  (h.map _).sum_eq

/-- A longer list of workloads with positive counts holds no fewer GPUs. -/
theorem gpuSum_le_of_subperm {ws ws' : List RunningWorkload} (h : ws.Subperm ws')
    (hpos : ∀ r ∈ ws', 0 ≤ r.gpuCount) : gpuSum ws ≤ gpuSum ws' := by
  obtain ⟨l, hl, hsub⟩ := h
  rw [← gpuSum_perm hl]
  refine List.Sublist.sum_le_sum (hsub.map RunningWorkload.gpuCount) ?_
  intro x hx
  obtain ⟨r, hr, rfl⟩ := List.mem_map.mp hx
  exact hpos r hr

theorem gpuSum_nonneg {ws : List RunningWorkload} (h : ∀ r ∈ ws, 0 ≤ r.gpuCount) :
    0 ≤ gpuSum ws := by
  induction ws with
  | nil => exact le_refl _
  | cons r ws ih =>
      rw [gpuSum_cons]
      have hr := h r (List.mem_cons_self ..)
      have hws := ih (fun x hx => h x (List.mem_cons_of_mem _ hx))
      omega

/-! ## The model -/

/-- `preemptionContext`. -/
structure PreemptionContext where
  profile : String
  needToFree : Int
  candidates : List RunningWorkload

/-- The errors of victim selection. -/
inductive PreemptionError where
  | check (err : FitError)
  | memoryTooLow (gpuMemoryMiB : Int) (profile : String)
  | nothingRunning (profile : String) (need : Int)
  | insufficient (profile : String) (need total : Int)
  deriving DecidableEq, Repr

/-- The base order of the candidates: priority ascending, then most recently started. -/
def candidateLess (a b : RunningWorkload) : Bool :=
  if a.priority ≠ b.priority then decide (a.priority < b.priority)
  else decide (b.startedAt < a.startedAt)

/-- The running workloads of a profile in the base order. -/
def candidatesOn (profile : String) (running : List RunningWorkload) :
    List RunningWorkload :=
  sliceStable candidateLess (running.filter (fun r => r.profile = profile))

/-- The order in which the greedy pick visits a pool: most GPUs first, then most
    recently started. -/
def victimLess (a b : RunningWorkload) : Bool :=
  if a.gpuCount ≠ b.gpuCount then decide (b.gpuCount < a.gpuCount)
  else decide (b.startedAt < a.startedAt)

/-- The pool in victim order. -/
def victimOrder (pool : List RunningWorkload) : List RunningWorkload :=
  sliceStable victimLess pool

@[simp] theorem mem_victimOrder {pool : List RunningWorkload} {r : RunningWorkload} :
    r ∈ victimOrder pool ↔ r ∈ pool :=
  mem_sliceStable

/-- `free`: the devices of the profile's entry, if it has one. -/
def freeDevices (fleet : FleetFreeCapacity) (profile : String) : Int :=
  match fleet.entry profile with
  | some cap => cap.freeDevices
  | none => 0

section
variable (norm : Int → Int)

/-- `buildPreemptionContext`; `none` when the workload already fits. -/
def buildPreemptionContextWith (incoming : QueuedWorkload) (running : List RunningWorkload)
    (fleet : FleetFreeCapacity) : Except PreemptionError (Option PreemptionContext) :=
  match compatibleProfileAndKind incoming fleet with
  | .error e => .error (.check e)
  | .ok () =>
    match fitsGPUCount incoming fleet with
    | .error e => .error (.check e)
    | .ok true => .ok none
    | .ok false =>
      match fitsPerDeviceMemory incoming fleet with
      | .error e => .error (.check e)
      | .ok false => .error (.memoryTooLow incoming.gpuMemoryMiB incoming.profile)
      | .ok true =>
        let need := norm (incoming.gpuCount - freeDevices fleet incoming.profile)
        if need ≤ 0 then .ok none
        else .ok (some ⟨incoming.profile, need, candidatesOn incoming.profile running⟩)

/-- The picking loop: append victims until `need` is freed; `none` is the nil slice. -/
def takeVictimsWith (need : Int) : Int → List RunningWorkload → Option (List RunningWorkload)
  | _, [] => none
  | freed, r :: rest =>
      if need ≤ norm (freed + r.gpuCount) then some [r]
      else (takeVictimsWith need (norm (freed + r.gpuCount)) rest).map (fun vs => r :: vs)

/-- `greedyPickVictimsByGPUCount`. -/
def greedyPickVictimsByGPUCountWith (candidates : List RunningWorkload) (need : Int) :
    Option (List RunningWorkload) :=
  if need ≤ 0 then none else takeVictimsWith norm need 0 (victimOrder candidates)

/-- The band loop.  A candidate joins the pool; the pick is tried when the next
    candidate has another priority, that is, when the band is complete. -/
def widenWith (need : Int) : List RunningWorkload → List RunningWorkload →
    Option (List RunningWorkload)
  | _, [] => none
  | pool, [r] => greedyPickVictimsByGPUCountWith norm (pool ++ [r]) need
  | pool, r :: next :: rest =>
      if next.priority = r.priority then widenWith need (pool ++ [r]) (next :: rest)
      else match greedyPickVictimsByGPUCountWith norm (pool ++ [r]) need with
        | some victims => some victims
        | none => widenWith need (pool ++ [r]) (next :: rest)

/-- `total += r.GPUCount` over the candidates. -/
def gpuTotalWith (ws : List RunningWorkload) : Int :=
  GoInt.runningSum norm 0 (ws.map RunningWorkload.gpuCount)

/-- `SelectPreemptionVictimsGreedyMinimal`. -/
def selectPreemptionVictimsGreedyMinimalWith (incoming : QueuedWorkload)
    (running : List RunningWorkload) (fleet : FleetFreeCapacity) :
    Except PreemptionError (List RunningWorkload) :=
  match buildPreemptionContextWith norm incoming running fleet with
  | .error e => .error e
  | .ok none => .ok []
  | .ok (some ctx) =>
    if ctx.candidates = [] then .error (.nothingRunning ctx.profile ctx.needToFree)
    else match widenWith norm ctx.needToFree [] ctx.candidates with
      | some victims => .ok victims
      | none =>
          .error (.insufficient ctx.profile ctx.needToFree (gpuTotalWith norm ctx.candidates))

end

/-- `buildPreemptionContext`, with an exact difference. -/
def buildPreemptionContext : QueuedWorkload → List RunningWorkload → FleetFreeCapacity →
    Except PreemptionError (Option PreemptionContext) := buildPreemptionContextWith id

/-- The picking loop, with exact sums. -/
def takeVictims : Int → Int → List RunningWorkload → Option (List RunningWorkload) :=
  takeVictimsWith id

/-- `greedyPickVictimsByGPUCount`, with exact sums. -/
def greedyPickVictimsByGPUCount : List RunningWorkload → Int → Option (List RunningWorkload) :=
  greedyPickVictimsByGPUCountWith id

/-- The band loop, with exact sums. -/
def widen : Int → List RunningWorkload → List RunningWorkload → Option (List RunningWorkload) :=
  widenWith id

/-- `SelectPreemptionVictimsGreedyMinimal`, with exact sums. -/
def selectPreemptionVictimsGreedyMinimal : QueuedWorkload → List RunningWorkload →
    FleetFreeCapacity → Except PreemptionError (List RunningWorkload) :=
  selectPreemptionVictimsGreedyMinimalWith id

/-! ## The picking loop -/

theorem takeVictims_cons (need freed : Int) (r : RunningWorkload) (rest : List RunningWorkload) :
    takeVictims need freed (r :: rest) = if need ≤ freed + r.gpuCount then some [r]
      else (takeVictims need (freed + r.gpuCount) rest).map (fun vs => r :: vs) := rfl

/-- **SHORTEST PREFIX**: the victims are the first workloads of the list that
    together free the need, and without the last of them it is not freed. -/
theorem takeVictims_some_iff {need freed : Int} {l vs : List RunningWorkload} :
    takeVictims need freed l = some vs
      ↔ ∃ init v rest, vs = init ++ [v] ∧ l = init ++ v :: rest
        ∧ need ≤ freed + gpuSum init + v.gpuCount
        ∧ ∀ pre r suf, init = pre ++ r :: suf → freed + gpuSum pre + r.gpuCount < need := by
  induction l generalizing freed vs with
  | nil =>
      constructor
      · intro h; cases h
      · rintro ⟨init, v, rest, -, hl, -⟩
        exact absurd hl.symm (by simp)
  | cons r l ih =>
      rw [takeVictims_cons]
      by_cases hr : need ≤ freed + r.gpuCount
      · rw [if_pos hr]
        constructor
        · intro h
          refine ⟨[], r, l, (Option.some.inj h).symm, rfl, by simpa using hr, ?_⟩
          intro pre x suf hpre
          exact absurd hpre (by simp)
        · rintro ⟨init, v, rest, rfl, hl, -, hmin⟩
          cases init with
          | nil =>
              have hrv := (List.cons.inj hl).1
              rw [hrv]
              rfl
          | cons x init =>
              -- a longer prefix would not be the shortest
              have hrx := (List.cons.inj hl).1
              have := hmin [] x init rfl
              rw [← hrx, gpuSum_nil, Int.add_zero] at this
              exact absurd hr (not_le.mpr this)
      · rw [if_neg hr, Option.map_eq_some_iff]
        constructor
        · rintro ⟨ws, hws, rfl⟩
          obtain ⟨init, v, rest, rfl, rfl, hneed, hmin⟩ := ih.mp hws
          refine ⟨r :: init, v, rest, rfl, rfl, by rw [gpuSum_cons]; omega, ?_⟩
          intro pre x suf hpre
          cases pre with
          | nil =>
              have hrx := (List.cons.inj hpre).1
              rw [← hrx, gpuSum_nil]
              omega
          | cons y pre =>
              obtain ⟨hry, hpre'⟩ := List.cons.inj hpre
              have := hmin pre x suf hpre'
              rw [← hry, gpuSum_cons]
              omega
        · rintro ⟨init, v, rest, rfl, hl, hneed, hmin⟩
          cases init with
          | nil =>
              have hrv := (List.cons.inj hl).1
              rw [← hrv, gpuSum_nil] at hneed
              exact absurd (by omega) hr
          | cons x init =>
              obtain ⟨hrx, hl'⟩ := List.cons.inj hl
              subst hrx
              refine ⟨init ++ [v], ih.mpr ⟨init, v, rest, rfl, hl', ?_, ?_⟩, rfl⟩
              · rw [gpuSum_cons] at hneed
                omega
              · intro pre y suf hpre
                have := hmin (r :: pre) y suf (by rw [hpre]; rfl)
                rw [gpuSum_cons] at this
                omega

/-- The victims are the first workloads of the list. -/
theorem takeVictims_append {need freed : Int} {l vs : List RunningWorkload}
    (h : takeVictims need freed l = some vs) : ∃ rest, l = vs ++ rest := by
  obtain ⟨init, v, rest, rfl, rfl, -⟩ := takeVictims_some_iff.mp h
  exact ⟨rest, by rw [List.append_assoc]; rfl⟩

/-- The loop finds no victims exactly when every prefix falls short. -/
theorem takeVictims_none_iff {need freed : Int} {l : List RunningWorkload}
    (hpos : ∀ r ∈ l, 0 ≤ r.gpuCount) (hlt : freed < need) :
    takeVictims need freed l = none ↔ freed + gpuSum l < need := by
  induction l generalizing freed with
  | nil =>
      rw [gpuSum_nil, Int.add_zero]
      exact ⟨fun _ => hlt, fun _ => rfl⟩
  | cons r l ih =>
      have hposl : ∀ x ∈ l, 0 ≤ x.gpuCount := fun x hx => hpos x (List.mem_cons_of_mem _ hx)
      have hsum := gpuSum_nonneg hposl
      rw [takeVictims_cons, gpuSum_cons]
      by_cases hr : need ≤ freed + r.gpuCount
      · rw [if_pos hr]
        constructor
        · intro h; cases h
        · intro h; omega
      · rw [if_neg hr, Option.map_eq_none_iff, ih hposl (by omega)]
        constructor <;> intro h <;> omega

/-- The greedy pick succeeds exactly when the pool can free the need. -/
theorem greedyPick_none_iff {need : Int} {pool : List RunningWorkload}
    (hpos : ∀ r ∈ pool, 0 ≤ r.gpuCount) (hneed : 0 < need) :
    greedyPickVictimsByGPUCount pool need = none ↔ gpuSum pool < need := by
  rw [greedyPickVictimsByGPUCount, greedyPickVictimsByGPUCountWith, ← takeVictims,
    if_neg (not_le.mpr hneed), victimOrder,
    takeVictims_none_iff (fun r hr => hpos r (mem_sliceStable.mp hr)) hneed,
    gpuSum_perm (sliceStable_perm victimLess pool), Int.zero_add]

/-! ## The band loop -/

/-- The candidates up to a priority ceiling. -/
def upTo (p : Int) (cands : List RunningWorkload) : List RunningWorkload :=
  cands.filter (fun r => r.priority ≤ p)

theorem candidateLess_strictWeak : StrictWeak candidateLess := by
  constructor
  · intro a b
    simp only [candidateLess]
    split_ifs <;> simp only [decide_eq_false_iff_not] <;> omega
  · intro a b c hab hbc
    simp only [candidateLess] at hab hbc ⊢
    split_ifs at hab hbc ⊢ <;> simp only [decide_eq_false_iff_not] at hab hbc ⊢ <;> omega

/-- Candidates come in bands of ascending priority. -/
theorem candidatesOn_sorted (profile : String) (running : List RunningWorkload) :
    (candidatesOn profile running).Pairwise (fun a b => a.priority ≤ b.priority) := by
  refine (sliceStable_pairwise candidateLess_strictWeak _).imp ?_
  intro a b h
  simp only [candidateLess] at h
  split_ifs at h <;> simp only [decide_eq_false_iff_not] at h <;> omega

theorem mem_candidatesOn {profile : String} {running : List RunningWorkload}
    {r : RunningWorkload} :
    r ∈ candidatesOn profile running ↔ r ∈ running ∧ r.profile = profile := by
  simp [candidatesOn]

/-- A complete band boundary: what is in the pool is what lies under the ceiling. -/
private theorem upTo_split {pool rest : List RunningWorkload} {p : Int}
    (hpool : ∀ x ∈ pool, x.priority ≤ p) (hrest : ∀ x ∈ rest, p < x.priority) :
    upTo p (pool ++ rest) = pool := by
  rw [upTo, List.filter_append]
  have h1 : pool.filter (fun r => r.priority ≤ p) = pool :=
    List.filter_eq_self.mpr (fun x hx => by simpa using hpool x hx)
  have h2 : rest.filter (fun r => r.priority ≤ p) = [] :=
    List.filter_eq_nil_iff.mpr (fun x hx => by simpa using hrest x hx)
  rw [h1, h2, List.append_nil]

/-- A workload of highest priority has every candidate under it. -/
private theorem upTo_top {all : List RunningWorkload} {p : Int}
    (h : ∀ x ∈ all, x.priority ≤ p) : upTo p all = all :=
  List.filter_eq_self.mpr (fun x hx => by simpa using h x hx)

/-- The pick fails under every ceiling that lies below `p`. -/
def FailsBelow (need : Int) (all : List RunningWorkload) (p : Int) : Prop :=
  ∀ x ∈ all, x.priority < p → greedyPickVictimsByGPUCount (upTo x.priority all) need = none

/-- Nothing lies below the first candidate. -/
private theorem failsBelow_first {need : Int} {r : RunningWorkload}
    {rest : List RunningWorkload}
    (hsort : (r :: rest).Pairwise (fun a b => a.priority ≤ b.priority)) :
    FailsBelow need (r :: rest) r.priority := by
  intro x hx hlt
  rcases List.mem_cons.mp hx with rfl | hx
  · exact absurd hlt (lt_irrefl _)
  · exact absurd hlt (not_lt.mpr ((List.pairwise_cons.mp hsort).1 x hx))

/-- The next band: the ceilings below it are those below the band before, and that band's. -/
private theorem FailsBelow.next {need p q : Int} {all : List RunningWorkload}
    (h : FailsBelow need all p)
    (hgap : ∀ x ∈ all, x.priority ≤ p ∨ q ≤ x.priority)
    (hpick : greedyPickVictimsByGPUCount (upTo p all) need = none) : FailsBelow need all q := by
  intro x hx hlt
  rcases hgap x hx with hle | hge
  · rcases lt_or_eq_of_le hle with hxp | hxp
    · exact h x hx hxp
    · rw [hxp]
      exact hpick
  · exact absurd hlt (not_lt.mpr hge)

/-- In sorted candidates what stands before a workload is no higher, and what stands after it
    no lower. -/
private theorem sorted_around {pool rest : List RunningWorkload} {r : RunningWorkload}
    (hsort : (pool ++ r :: rest).Pairwise (fun a b => a.priority ≤ b.priority)) :
    (∀ x ∈ pool ++ [r], x.priority ≤ r.priority) ∧ ∀ x ∈ rest, r.priority ≤ x.priority := by
  obtain ⟨-, hafter, hcross⟩ := List.pairwise_append.mp hsort
  refine ⟨fun x hx => ?_, (List.pairwise_cons.mp hafter).1⟩
  rcases List.mem_append.mp hx with hx | hx
  · exact hcross x hx r (List.mem_cons_self ..)
  · rw [List.mem_singleton.mp hx]

/-- The band loop from any band on, when the bands below have failed. -/
private theorem widen_from {need : Int} {all vs : List RunningWorkload}
    (hsort : all.Pairwise (fun a b => a.priority ≤ b.priority)) :
    ∀ (rest pool : List RunningWorkload) (r : RunningWorkload), all = pool ++ r :: rest →
      FailsBelow need all r.priority → widen need pool (r :: rest) = some vs →
      ∃ c ∈ r :: rest, greedyPickVictimsByGPUCount (upTo c.priority all) need = some vs
        ∧ FailsBelow need all c.priority := by
  intro rest
  induction rest with
  | nil =>
      intro pool r hall hfail h
      rw [hall] at hsort
      refine ⟨r, List.mem_cons_self .., ?_, hfail⟩
      rw [hall, upTo_top (sorted_around hsort).1]
      exact h
  | cons next rest ih =>
      intro pool r hall hfail h
      have hall' : all = (pool ++ [r]) ++ next :: rest := by
        rw [hall, List.append_assoc]
        rfl
      have hpool : ∀ x ∈ pool ++ [r], x.priority ≤ r.priority :=
        (sorted_around (hall ▸ hsort)).1
      have hrest : ∀ x ∈ next :: rest, next.priority ≤ x.priority := by
        intro x hx
        rcases List.mem_cons.mp hx with rfl | hx
        · exact le_refl _
        · exact (sorted_around (hall' ▸ hsort)).2 x hx
      -- what the rest of the loop finds is what the whole loop finds
      have hgo : FailsBelow need all next.priority →
          widen need (pool ++ [r]) (next :: rest) = some vs →
          ∃ c ∈ r :: next :: rest,
            greedyPickVictimsByGPUCount (upTo c.priority all) need = some vs
              ∧ FailsBelow need all c.priority := by
        intro hnext hw
        obtain ⟨c, hc, hfound⟩ := ih (pool ++ [r]) next hall' hnext hw
        exact ⟨c, List.mem_cons_of_mem _ hc, hfound⟩
      rw [widen, widenWith, ← widen, ← greedyPickVictimsByGPUCount] at h
      by_cases hp : next.priority = r.priority
      · rw [if_pos hp] at h
        exact hgo (hp ▸ hfail) h
      rw [if_neg hp] at h
      -- the band of `r` is complete: its pool is what lies under it
      have hlt : r.priority < next.priority :=
        lt_of_le_of_ne ((sorted_around (hall ▸ hsort)).2 next (List.mem_cons_self ..))
          (Ne.symm hp)
      have hband : upTo r.priority all = pool ++ [r] := by
        rw [hall']
        exact upTo_split hpool (fun x hx => lt_of_lt_of_le hlt (hrest x hx))
      cases hpick : greedyPickVictimsByGPUCount (pool ++ [r]) need with
      | some ws =>
          rw [hpick] at h
          exact ⟨r, List.mem_cons_self .., by rw [hband, hpick]; exact h, hfail⟩
      | none =>
          rw [hpick] at h
          refine hgo (hfail.next (fun x hx => ?_) (by rw [hband]; exact hpick)) h
          rw [hall'] at hx
          exact (List.mem_append.mp hx).imp (hpool x) (hrest x)

/-- **LOWEST SUFFICIENT CEILING**: the band loop picks from the candidates under the
    first ceiling, in ascending order, at which the pick succeeds. -/
theorem widen_some {need : Int} {all vs : List RunningWorkload}
    (hsort : all.Pairwise (fun a b => a.priority ≤ b.priority))
    (h : widen need [] all = some vs) :
    ∃ c ∈ all, greedyPickVictimsByGPUCount (upTo c.priority all) need = some vs
      ∧ FailsBelow need all c.priority := by
  cases all with
  | nil => cases h
  | cons r rest => exact widen_from hsort rest [] r rfl (failsBelow_first hsort) h

/-- When the band loop finds no victims, the pick on all candidates fails too. -/
theorem widen_none {need : Int} :
    ∀ (rest pool : List RunningWorkload), rest ≠ [] → widen need pool rest = none →
      greedyPickVictimsByGPUCount (pool ++ rest) need = none := by
  intro rest
  induction rest with
  | nil => intro pool hne _; exact absurd rfl hne
  | cons r rest ih =>
      intro pool _ h
      cases rest with
      | nil => exact h
      | cons next rest =>
          have hassoc : pool ++ r :: next :: rest = (pool ++ [r]) ++ next :: rest := by
            rw [List.append_assoc]; rfl
          rw [widen, widenWith, ← widen, ← greedyPickVictimsByGPUCount] at h
          rw [hassoc]
          by_cases hp : next.priority = r.priority
          · rw [if_pos hp] at h
            exact ih (pool ++ [r]) (by simp) h
          · rw [if_neg hp] at h
            cases hpick : greedyPickVictimsByGPUCount (pool ++ [r]) need with
            | some ws => rw [hpick] at h; cases h
            | none => rw [hpick] at h; exact ih (pool ++ [r]) (by simp) h

/-! ## What the selection returns -/

/-- The greedy pick returns a prefix of its pool in victim order that frees the need. -/
theorem greedyPick_some {need : Int} {pool vs : List RunningWorkload}
    (h : greedyPickVictimsByGPUCount pool need = some vs) :
    0 < need ∧ takeVictims need 0 (victimOrder pool) = some vs ∧ vs ≠ []
      ∧ (∃ rest, victimOrder pool = vs ++ rest) ∧ need ≤ gpuSum vs := by
  rw [greedyPickVictimsByGPUCount, greedyPickVictimsByGPUCountWith, ← takeVictims] at h
  by_cases hn : need ≤ 0
  · rw [if_pos hn] at h; cases h
  · rw [if_neg hn] at h
    have happend := takeVictims_append h
    obtain ⟨init, v, -, rfl, -, hneed, -⟩ := takeVictims_some_iff.mp h
    refine ⟨not_le.mp hn, h, by simp, happend, ?_⟩
    simp only [gpuSum_append, gpuSum_cons, gpuSum_nil]
    omega

/-- The victims of the band loop are running workloads of the profile, distinct when
    the running list is, and free the need. -/
theorem widen_victims {need : Int} {profile : String} {running vs : List RunningWorkload}
    (h : widen need [] (candidatesOn profile running) = some vs) :
    vs ≠ [] ∧ (∀ v ∈ vs, v ∈ running ∧ v.profile = profile) ∧ need ≤ gpuSum vs
      ∧ vs.Subperm (running.filter (fun r => r.profile = profile)) := by
  obtain ⟨c, -, hpick, -⟩ := widen_some (candidatesOn_sorted profile running) h
  obtain ⟨-, -, hne, ⟨rest, hrest⟩, hneed⟩ := greedyPick_some hpick
  -- victims, pool, candidates, running workloads of the profile: each inside the next
  have hsub : vs.Subperm (running.filter (fun r => r.profile = profile)) := by
    have h1 : vs.Subperm (victimOrder (upTo c.priority (candidatesOn profile running))) := by
      rw [hrest]
      exact (List.sublist_append_left vs rest).subperm
    have h2 := h1.trans (sliceStable_perm victimLess _).subperm
    have h3 : (upTo c.priority (candidatesOn profile running)).Subperm
        (candidatesOn profile running) := List.filter_sublist.subperm
    exact (h2.trans h3).trans (sliceStable_perm candidateLess _).subperm
  refine ⟨hne, ?_, hneed, hsub⟩
  intro v hv
  have hmem := List.mem_filter.mp (hsub.subset hv)
  exact ⟨hmem.1, by simpa using hmem.2⟩

/-- Victims exist exactly when the profile's running workloads can free the need. -/
theorem widen_exists_iff {need : Int} (profile : String) {running : List RunningWorkload}
    (hneed : 0 < need) (hpos : ∀ r ∈ running, 0 ≤ r.gpuCount) :
    (∃ vs, widen need [] (candidatesOn profile running) = some vs)
      ↔ need ≤ gpuSum (running.filter (fun r => r.profile = profile)) := by
  have hcand : gpuSum (candidatesOn profile running)
      = gpuSum (running.filter (fun r => r.profile = profile)) :=
    gpuSum_perm (sliceStable_perm candidateLess _)
  have hposc : ∀ r ∈ candidatesOn profile running, 0 ≤ r.gpuCount :=
    fun r hr => hpos r (mem_candidatesOn.mp hr).1
  constructor
  · rintro ⟨vs, hvs⟩
    obtain ⟨-, -, hle, hsub⟩ := widen_victims hvs
    exact hle.trans (gpuSum_le_of_subperm hsub (fun r hr => hpos r (List.mem_of_mem_filter hr)))
  · intro hle
    cases hw : widen need [] (candidatesOn profile running) with
    | some vs => exact ⟨vs, rfl⟩
    | none =>
        exfalso
        have hne : candidatesOn profile running ≠ [] := by
          intro hnil
          rw [← hcand, hnil, gpuSum_nil] at hle
          omega
        have hnone := widen_none _ [] hne hw
        rw [List.nil_append, greedyPick_none_iff hposc hneed, hcand] at hnone
        omega

/-- There is a context when the workload is compatible and its profile has too few free
    devices, of sufficient memory. -/
theorem buildPreemptionContext_some_iff {w : QueuedWorkload} {running : List RunningWorkload}
    {fleet : FleetFreeCapacity} {ctx : PreemptionContext}
    (hg : 0 < w.gpuCount) (hm : 0 < w.gpuMemoryMiB) (hp : w.profile ≠ "") :
    buildPreemptionContext w running fleet = .ok (some ctx)
      ↔ compatibleProfileAndKind w fleet = .ok ()
        ∧ ∃ cap, fleet.entry w.profile = some cap ∧ cap.freeDevices < w.gpuCount
          ∧ w.gpuMemoryMiB ≤ cap.memoryMiBPerDevice
          ∧ ctx = ⟨w.profile, w.gpuCount - cap.freeDevices, candidatesOn w.profile running⟩ := by
  have hmem := fitsPerDeviceMemory_true_iff fleet hm hp
  rw [buildPreemptionContext, buildPreemptionContextWith]
  constructor
  · intro h
    split at h
    · cases h
    · rename_i hcompat
      split at h
      · cases h
      · cases h
      · split at h
        · cases h
        · cases h
        · rename_i hfits
          obtain ⟨cap, hentry, hle⟩ := hmem.mp hfits
          simp only [freeDevices, hentry, id_eq] at h
          split_ifs at h with hneed
          · cases h
          · exact ⟨hcompat, cap, hentry, by omega, hle, (Option.some.inj (Except.ok.inj h)).symm⟩
  · rintro ⟨hcompat, cap, hentry, hlt, hle, rfl⟩
    have hshort : fitsGPUCount w fleet = .ok false := by
      rw [fitsGPUCount, if_neg (not_le.mpr hg), if_neg hp, hentry]
      exact congrArg Except.ok (decide_eq_false (not_le.mpr hlt))
    have hneed : ¬ w.gpuCount - cap.freeDevices ≤ 0 := by omega
    simp only [hcompat, hshort, hmem.mpr ⟨cap, hentry, hle⟩, freeDevices, hentry, id_eq,
      if_neg hneed]

/-- Victims come out of a context, by the band loop. -/
theorem greedy_victims_iff {w : QueuedWorkload} {running vs : List RunningWorkload}
    {fleet : FleetFreeCapacity} :
    (selectPreemptionVictimsGreedyMinimal w running fleet = .ok vs ∧ vs ≠ [])
      ↔ (∃ ctx, buildPreemptionContext w running fleet = .ok (some ctx)
        ∧ widen ctx.needToFree [] ctx.candidates = some vs) ∧ vs ≠ [] := by
  rw [selectPreemptionVictimsGreedyMinimal, selectPreemptionVictimsGreedyMinimalWith,
    ← buildPreemptionContext, ← widen]
  refine and_congr_left (fun hne => ⟨fun h => ?_, ?_⟩)
  · split at h
    · cases h
    · exact absurd (Except.ok.inj h).symm hne
    · rename_i ctx hctx
      split_ifs at h
      split at h
      · rename_i victims hw
        rw [Except.ok.inj h] at hw
        exact ⟨ctx, hctx, hw⟩
      · cases h
  · rintro ⟨ctx, hctx, hw⟩
    have hnil : ctx.candidates ≠ [] := by
      intro hnil
      rw [hnil] at hw
      cases hw
    simp only [hctx, if_neg hnil, hw]

/-- **WHEN THE SELECTION RETURNS VICTIMS**: the workload is compatible, its profile has
    too few free devices of sufficient memory, and the band loop finds victims. -/
theorem victims_ok_iff {w : QueuedWorkload} (running vs : List RunningWorkload)
    (fleet : FleetFreeCapacity)
    (hg : 0 < w.gpuCount) (hm : 0 < w.gpuMemoryMiB) (hp : w.profile ≠ "") :
    (selectPreemptionVictimsGreedyMinimal w running fleet = .ok vs ∧ vs ≠ [])
      ↔ compatibleProfileAndKind w fleet = .ok ()
        ∧ ∃ cap, fleet.entry w.profile = some cap ∧ cap.freeDevices < w.gpuCount
          ∧ w.gpuMemoryMiB ≤ cap.memoryMiBPerDevice
          ∧ widen (w.gpuCount - cap.freeDevices) [] (candidatesOn w.profile running)
            = some vs := by
  rw [greedy_victims_iff]
  constructor
  · rintro ⟨⟨ctx, hctx, hw⟩, -⟩
    obtain ⟨hcompat, cap, hentry, hlt, hle, rfl⟩ :=
      (buildPreemptionContext_some_iff hg hm hp).mp hctx
    exact ⟨hcompat, cap, hentry, hlt, hle, hw⟩
  · rintro ⟨hcompat, cap, hentry, hlt, hle, hw⟩
    exact ⟨⟨_, (buildPreemptionContext_some_iff hg hm hp).mpr
      ⟨hcompat, cap, hentry, hlt, hle, rfl⟩, hw⟩, (widen_victims hw).1⟩

/-! ## Who is spared -/

/-- In a list without repetitions, a workload is spared exactly when those before it
    already free the need. -/
theorem not_mem_takeVictims_iff {need freed : Int} {l vs : List RunningWorkload}
    {a : RunningWorkload} (h : takeVictims need freed l = some vs) (hlt : freed < need)
    (hpos : ∀ r ∈ l, 0 ≤ r.gpuCount) (hnd : l.Nodup) (ha : a ∈ l) :
    a ∉ vs ↔ need ≤ freed + gpuSum (l.takeWhile (fun r => r ≠ a)) := by
  induction l generalizing freed vs with
  | nil => cases ha
  | cons r l ih =>
      obtain ⟨hrl, hndl⟩ := List.nodup_cons.mp hnd
      have hposl : ∀ x ∈ l, 0 ≤ x.gpuCount := fun x hx => hpos x (List.mem_cons_of_mem _ hx)
      rw [takeVictims_cons] at h
      by_cases hra : r = a
      · -- `a` is next: it is taken, and nothing stands before it
        subst hra
        have hmem : r ∈ vs := by
          by_cases hr : need ≤ freed + r.gpuCount
          · rw [if_pos hr] at h
            rw [← Option.some.inj h]
            exact List.mem_cons_self ..
          · rw [if_neg hr, Option.map_eq_some_iff] at h
            obtain ⟨ws, -, rfl⟩ := h
            exact List.mem_cons_self ..
        have htw : (r :: l).takeWhile (fun x => x ≠ r) = [] := by
          rw [List.takeWhile_cons, if_neg (by simp)]
        rw [htw, gpuSum_nil]
        constructor
        · intro hn; exact absurd hmem hn
        · intro hle; omega
      · have hal : a ∈ l := (List.mem_cons.mp ha).resolve_left (fun e => hra e.symm)
        have htw : (r :: l).takeWhile (fun x => x ≠ a) = r :: l.takeWhile (fun x => x ≠ a) := by
          rw [List.takeWhile_cons, if_pos (by simpa using hra)]
        rw [htw, gpuSum_cons]
        by_cases hr : need ≤ freed + r.gpuCount
        · rw [if_pos hr] at h
          have hvs := Option.some.inj h
          have hsum : 0 ≤ gpuSum (l.takeWhile (fun x => x ≠ a)) :=
            gpuSum_nonneg (fun x hx => hposl x ((List.takeWhile_sublist _).subset hx))
          constructor
          · intro _; omega
          · intro _ hmem
            rw [← hvs] at hmem
            exact hra (List.mem_singleton.mp hmem).symm
        · rw [if_neg hr, Option.map_eq_some_iff] at h
          obtain ⟨ws, hws, rfl⟩ := h
          have := ih hws (by omega) hposl hndl hal
          constructor
          · intro hn
            have := this.mp (fun hm => hn (List.mem_cons_of_mem _ hm))
            omega
          · intro hle hmem
            rcases List.mem_cons.mp hmem with heq | hmem
            · exact hra heq.symm
            · exact this.mpr (by omega) hmem

end GpuPreemption
