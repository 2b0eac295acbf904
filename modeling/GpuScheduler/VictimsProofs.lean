import GpuScheduler.GreedyPrefixProofs
import GpuScheduler.PreemptionProofs

/-! # Two victim selectors

    `SelectPreemptionVictims` takes the candidates in their base order, lowest priority
    first, until enough is freed.  `SelectPreemptionVictimsGreedyMinimal` opens the
    priority bands one by one and takes the largest workloads of the first pool that can
    free enough.

    Both stop at the same priority ceiling, the lowest one under which the running
    workloads of the profile hold enough GPUs (`greedy_taken`, `plain_taken`).  Under that
    ceiling the greedy list is as short as any list of victims can be
    (`greedy_minimal`), so it is never longer than the plain one (`selectors_agree`).  The GPU
    counts here are unbounded integers; `GpuIntVictims` has the sums of the machine.

    The documented tie-break, lower priority first, is not what the greedy pick does: its
    second sort looks at sizes and start times only.  `ties_iff_coverage` says when the two
    come to the same. -/

namespace GpuVictims

open GoMaps GoSort GpuInputs GpuCompat GpuPreemption GreedyPrefix

/-- `SelectPreemptionVictims`. -/
def selectPreemptionVictimsWith (norm : Int → Int) (incoming : QueuedWorkload)
    (running : List RunningWorkload) (fleet : FleetFreeCapacity) :
    Except PreemptionError (List RunningWorkload) :=
  match buildPreemptionContextWith norm incoming running fleet with
  | .error e => .error e
  | .ok none => .ok []
  | .ok (some ctx) =>
    match takeVictimsWith norm ctx.needToFree 0 ctx.candidates with
    | some victims => .ok victims
    | none => .error (.insufficient ctx.profile ctx.needToFree (gpuTotalWith norm ctx.candidates))

/-- `SelectPreemptionVictims`, with exact sums. -/
def selectPreemptionVictims : QueuedWorkload → List RunningWorkload → FleetFreeCapacity →
    Except PreemptionError (List RunningWorkload) := selectPreemptionVictimsWith id

/-! ## Ceilings -/

/-- The GPUs a workload is short of on its profile. -/
def shortfall (w : QueuedWorkload) (fleet : FleetFreeCapacity) : Int :=
  w.gpuCount - ((fleet.entry w.profile).map ProfileFreeCapacity.freeDevices).getD 0

/-- The running workloads of a profile up to a priority. -/
def under (profile : String) (p : Int) (running : List RunningWorkload) :
    List RunningWorkload :=
  running.filter (fun r => r.profile = profile ∧ r.priority ≤ p)

/-- The running workloads up to a priority hold what the workload is short of. -/
def Sufficient (w : QueuedWorkload) (running : List RunningWorkload)
    (fleet : FleetFreeCapacity) (p : Int) : Prop :=
  shortfall w fleet ≤ gpuSum (under w.profile p running)

/-- The candidates up to a priority, in any order. -/
theorem upTo_perm_under (profile : String) (p : Int) (running : List RunningWorkload) :
    (upTo p (candidatesOn profile running)).Perm (under profile p running) := by
  have hfilter : under profile p running
      = (running.filter (fun r => r.profile = profile)).filter (fun r => r.priority ≤ p) := by
    rw [under, List.filter_filter]
    refine List.filter_congr (fun r _ => ?_)
    rw [Bool.decide_and, Bool.and_comm]
  rw [hfilter]
  exact (sliceStable_perm candidateLess _).filter _

section
variable {w : QueuedWorkload} {running : List RunningWorkload} {fleet : FleetFreeCapacity}
  {p : Int}

theorem mem_under {profile : String} {r : RunningWorkload} :
    r ∈ under profile p running ↔ r ∈ running ∧ r.profile = profile ∧ r.priority ≤ p := by
  rw [under, List.mem_filter, decide_eq_true_iff]

/-- A sufficient ceiling is sufficient at the priority of some workload under it. -/
theorem exists_sufficient_at (hneed : 0 < shortfall w fleet) (h : Sufficient w running fleet p) :
    ∃ x ∈ under w.profile p running, Sufficient w running fleet x.priority := by
  have hne : (under w.profile p running).toFinset.Nonempty := by
    rw [List.toFinset_nonempty_iff]
    intro hnil
    rw [Sufficient, hnil, gpuSum_nil] at h
    omega
  obtain ⟨x, hx, hmax⟩ := Finset.exists_max_image _ RunningWorkload.priority hne
  have hx' := List.mem_toFinset.mp hx
  have hxp := (mem_under.mp hx').2.2
  refine ⟨x, hx', ?_⟩
  have hsame : under w.profile x.priority running = under w.profile p running := by
    refine List.filter_congr (fun r hr => ?_)
    rw [decide_eq_decide]
    constructor
    · rintro ⟨hprofile, hle⟩
      exact ⟨hprofile, hle.trans hxp⟩
    · rintro ⟨hprofile, hle⟩
      have hmem : r ∈ under w.profile p running := mem_under.mpr ⟨hr, hprofile, hle⟩
      exact ⟨hprofile, hmax r (List.mem_toFinset.mpr hmem)⟩
  rw [Sufficient, hsame]
  exact h

end

/-! ## What a selector takes -/

/-- The shortest prefix of a list that frees what the workload is short of. -/
structure Taken (need : Int) (l vs : List RunningWorkload) : Prop where
  split : ∃ init v rest, vs = init ++ [v] ∧ l = init ++ v :: rest ∧ gpuSum init < need
    ∧ need ≤ gpuSum vs

theorem taken_of_takeVictims {need : Int} {l vs : List RunningWorkload} (hneed : 0 < need)
    (h : takeVictims need 0 l = some vs) : Taken need l vs := by
  obtain ⟨init, v, rest, rfl, rfl, hle, hmin⟩ := takeVictims_some_iff.mp h
  refine ⟨init, v, rest, rfl, rfl, ?_, ?_⟩
  · cases init using List.reverseRecOn with
    | nil => exact hneed
    | append_singleton pre r _ =>
        have hlast := hmin pre r [] rfl
        rw [gpuSum_append, gpuSum_cons, gpuSum_nil]
        omega
  · rw [gpuSum_append, gpuSum_cons, gpuSum_nil]
    omega

/-- The context of a selection that looks for victims. -/
theorem buildPreemptionContext_some {w : QueuedWorkload} {running : List RunningWorkload}
    {fleet : FleetFreeCapacity} {ctx : PreemptionContext}
    (h : buildPreemptionContext w running fleet = .ok (some ctx)) :
    0 < shortfall w fleet
      ∧ ctx = ⟨w.profile, shortfall w fleet, candidatesOn w.profile running⟩ := by
  rw [buildPreemptionContext, buildPreemptionContextWith] at h
  split at h
  · cases h
  · split at h
    · cases h
    · cases h
    · split at h
      · cases h
      · cases h
      · rw [shortfall]
        cases hentry : fleet.entry w.profile with
        | none =>
            simp only [freeDevices, hentry, id_eq] at h
            split_ifs at h with hle
            · cases h
            · exact ⟨not_le.mp hle, (Option.some.inj (Except.ok.inj h)).symm⟩
        | some cap =>
            simp only [freeDevices, hentry, id_eq] at h
            split_ifs at h with hle
            · cases h
            · exact ⟨not_le.mp hle, (Option.some.inj (Except.ok.inj h)).symm⟩

section
variable {w : QueuedWorkload} {running : List RunningWorkload} {fleet : FleetFreeCapacity}
  {vs : List RunningWorkload}

/-- The workload is compatible with the fleet and its devices are large enough, but there
    are too few of them. -/
def Short (w : QueuedWorkload) (running : List RunningWorkload) (fleet : FleetFreeCapacity) :
    Prop :=
  ∃ ctx, buildPreemptionContext w running fleet = .ok (some ctx)

/-- Victims come out of a context, by the band loop. -/
theorem widen_of_greedy (h : selectPreemptionVictimsGreedyMinimal w running fleet = .ok vs)
    (hne : vs ≠ []) :
    Short w running fleet ∧ 0 < shortfall w fleet
      ∧ widen (shortfall w fleet) [] (candidatesOn w.profile running) = some vs := by
  obtain ⟨⟨ctx, hctx, hw⟩, -⟩ := greedy_victims_iff.mp ⟨h, hne⟩
  obtain ⟨hneed, rfl⟩ := buildPreemptionContext_some hctx
  exact ⟨⟨_, hctx⟩, hneed, hw⟩

/-- Victims of the plain selector come out of a context, by the picking loop. -/
theorem take_of_plain (h : selectPreemptionVictims w running fleet = .ok vs) (hne : vs ≠ []) :
    0 < shortfall w fleet
      ∧ takeVictims (shortfall w fleet) 0 (candidatesOn w.profile running) = some vs := by
  rw [selectPreemptionVictims, selectPreemptionVictimsWith, ← takeVictims] at h
  split at h
  · cases h
  · exact absurd (Except.ok.inj h).symm hne
  · rename_i ctx hctx
    obtain ⟨hneed, rfl⟩ := buildPreemptionContext_some hctx
    simp only at h
    split at h
    · rename_i victims hw
      rw [Except.ok.inj h] at hw
      exact ⟨hneed, hw⟩
    · cases h

variable {p : Int} (hpos : ∀ r ∈ running, 0 < r.gpuCount)
include hpos

theorem gpuCount_nonneg_of_mem_upTo {r : RunningWorkload}
    (hr : r ∈ upTo p (candidatesOn w.profile running)) : 0 ≤ r.gpuCount :=
  le_of_lt (hpos r (mem_under.mp ((upTo_perm_under _ _ _).mem_iff.mp hr)).1)

/-- The pick under a ceiling fails exactly when the ceiling is not sufficient. -/
theorem greedyPick_upTo_none_iff (hneed : 0 < shortfall w fleet) :
    greedyPickVictimsByGPUCount (upTo p (candidatesOn w.profile running)) (shortfall w fleet)
      = none ↔ ¬Sufficient w running fleet p := by
  rw [greedyPick_none_iff (fun r hr => gpuCount_nonneg_of_mem_upTo hpos hr) hneed, Sufficient,
    gpuSum_perm (upTo_perm_under w.profile p running), not_le]

/-- **THE GREEDY VICTIMS** are the shortest prefix that frees enough of the pool under the
    lowest sufficient ceiling. -/
theorem greedy_taken (h : selectPreemptionVictimsGreedyMinimal w running fleet = .ok vs)
    (hne : vs ≠ []) :
    ∃ p, IsLeast {p | Sufficient w running fleet p} p
      ∧ Taken (shortfall w fleet) (victimOrder (upTo p (candidatesOn w.profile running))) vs := by
  obtain ⟨-, hneed, hwiden⟩ := widen_of_greedy h hne
  obtain ⟨c, -, hpick, hbelow⟩ := widen_some (candidatesOn_sorted w.profile running) hwiden
  refine ⟨c.priority, ⟨?_, ?_⟩, taken_of_takeVictims hneed (greedyPick_some hpick).2.1⟩
  · by_contra hnot
    rw [(greedyPick_upTo_none_iff hpos hneed).mpr hnot] at hpick
    cases hpick
  · -- a lower sufficient ceiling would be one at which the pick has failed
    intro q hq
    obtain ⟨x, hx, hsuff⟩ := exists_sufficient_at hneed hq
    obtain ⟨hxr, hxprofile, hxq⟩ := mem_under.mp hx
    by_contra hlt
    have hnone := hbelow x (mem_candidatesOn.mpr ⟨hxr, hxprofile⟩) (by omega)
    exact (greedyPick_upTo_none_iff hpos hneed).mp hnone hsuff

/-- **THE PLAIN VICTIMS** are the shortest prefix of all candidates that frees enough; it
    ends at the lowest sufficient ceiling. -/
theorem plain_taken (h : selectPreemptionVictims w running fleet = .ok vs) (hne : vs ≠ []) :
    ∃ p, IsLeast {p | Sufficient w running fleet p} p
      ∧ Taken (shortfall w fleet) (candidatesOn w.profile running) vs
      ∧ vs.Subperm (under w.profile p running) := by
  obtain ⟨hneed, htake⟩ := take_of_plain h hne
  have htaken := taken_of_takeVictims hneed htake
  obtain ⟨init, v, rest, rfl, hsplit, hshort, hle⟩ := htaken.split
  have hsorted := candidatesOn_sorted w.profile running
  rw [hsplit] at hsorted
  obtain ⟨-, htail, hacross⟩ := List.pairwise_append.mp hsorted
  have hinit : ∀ x ∈ init, x.priority ≤ v.priority :=
    fun x hx => hacross x hx v (List.mem_cons_self ..)
  have hsub : (init ++ [v]).Subperm (under w.profile v.priority running) := by
    have hupTo : (init ++ [v]).Sublist (upTo v.priority (candidatesOn w.profile running)) := by
      have hself : upTo v.priority (init ++ [v]) = init ++ [v] := by
        refine List.filter_eq_self.mpr (fun x hx => decide_eq_true ?_)
        rcases List.mem_append.mp hx with hx | hx
        · exact hinit x hx
        · rw [List.mem_singleton.mp hx]
      rw [← hself, hsplit]
      refine List.Sublist.filter _ ((List.append_sublist_append_left init).mpr ?_)
      exact (List.nil_sublist rest).cons_cons v
    exact hupTo.subperm.trans (upTo_perm_under _ _ _).subperm
  refine ⟨v.priority, ⟨?_, ?_⟩, htaken, hsub⟩
  · exact hle.trans (gpuSum_le_of_subperm hsub
      (fun r hr => le_of_lt (hpos r (mem_under.mp hr).1)))
  · -- under a lower ceiling there is only what was taken before the last victim
    intro q hq
    by_contra hlt
    have hlow : (upTo q (candidatesOn w.profile running)).Sublist init := by
      have htailnil : upTo q (v :: rest) = [] := by
        refine List.filter_eq_nil_iff.mpr (fun x hx => ?_)
        rw [decide_eq_true_iff]
        rcases List.mem_cons.mp hx with rfl | hx
        · exact hlt
        · have := (List.pairwise_cons.mp htail).1 x hx
          omega
      rw [hsplit, upTo, List.filter_append, ← upTo, ← upTo, htailnil, List.append_nil]
      exact List.filter_sublist
    have hposinit : ∀ r ∈ init, 0 ≤ r.gpuCount := by
      intro r hr
      have hmem : r ∈ candidatesOn w.profile running := by
        rw [hsplit]
        exact List.mem_append_left _ hr
      exact le_of_lt (hpos r (mem_candidatesOn.mp hmem).1)
    have hsum := gpuSum_le_of_subperm hlow.subperm hposinit
    rw [gpuSum_perm (upTo_perm_under w.profile q running)] at hsum
    have hq' : shortfall w fleet ≤ gpuSum (under w.profile q running) := hq
    omega

omit hpos in
/-- What is taken under the lowest sufficient ceiling reaches the ceiling. -/
theorem exists_at_ceiling (hp : IsLeast {p | Sufficient w running fleet p} p)
    (hnonneg : ∀ r ∈ running, 0 ≤ r.gpuCount)
    (hsub : vs.Subperm (under w.profile p running)) (hle : shortfall w fleet ≤ gpuSum vs) :
    ∃ v ∈ vs, v.priority = p := by
  by_contra hne
  push Not at hne
  -- otherwise the next lower ceiling would do
  have hlower : vs.Subperm (under w.profile (p - 1) running) := by
    obtain ⟨l, hl, hsl⟩ := hsub
    refine ⟨l, hl, ?_⟩
    have hself : l.filter (fun r => r.profile = w.profile ∧ r.priority ≤ p - 1) = l := by
      refine List.filter_eq_self.mpr (fun r hr => decide_eq_true ?_)
      obtain ⟨-, hprofile, hrp⟩ := mem_under.mp (hsl.subset hr)
      have := hne r (hl.mem_iff.mp hr)
      exact ⟨hprofile, by omega⟩
    rw [← hself]
    exact (hsl.trans List.filter_sublist).filter _
  have hsuff : Sufficient w running fleet (p - 1) :=
    hle.trans (gpuSum_le_of_subperm hlower (fun r hr => hnonneg r (mem_under.mp hr).1))
  have := hp.2 hsuff
  omega

end

/-! ## Fewest victims -/

/-- The victims are as few as can be under the lowest sufficient ceiling. -/
structure Minimal (w : QueuedWorkload) (running : List RunningWorkload)
    (fleet : FleetFreeCapacity) (vs : List RunningWorkload) (p : Int) : Prop where
  ceiling : IsLeast {p | Sufficient w running fleet p} p
  chosen : vs.Subperm (under w.profile p running)
  each : ∀ v ∈ vs, v.profile = w.profile ∧ v.priority ≤ p
  frees : shortfall w fleet ≤ gpuSum vs
  fewest : ∀ ws, ws.Subperm (under w.profile p running) → shortfall w fleet ≤ gpuSum ws →
    vs.length ≤ ws.length
  needed : ∀ v ∈ vs, gpuSum (vs.erase v) < shortfall w fleet

theorem victimLess_strictWeak : StrictWeak victimLess := by
  constructor
  · intro a b
    simp only [victimLess]
    split_ifs <;> simp only [decide_eq_false_iff_not] <;> omega
  · intro a b c hab hbc
    simp only [victimLess] at hab hbc ⊢
    split_ifs at hab hbc ⊢ <;> simp only [decide_eq_false_iff_not] at hab hbc ⊢ <;> omega

/-- In victim order the counts descend. -/
theorem victimOrder_sorted (pool : List RunningWorkload) :
    (victimOrder pool).Pairwise (fun a b => b.gpuCount ≤ a.gpuCount
      ∧ (a.gpuCount = b.gpuCount → b.startedAt ≤ a.startedAt)) := by
  refine (sliceStable_pairwise victimLess_strictWeak pool).imp (fun {a b} h => ?_)
  simp only [victimLess] at h
  split_ifs at h <;> simp only [decide_eq_false_iff_not] at h <;> omega

section
variable {w : QueuedWorkload} {running : List RunningWorkload} {fleet : FleetFreeCapacity}
  {vs : List RunningWorkload} {p : Int}

/-- The pool in victim order is the running workloads under the ceiling. -/
theorem victimOrder_perm_under (profile : String) (p : Int) (running : List RunningWorkload) :
    (victimOrder (upTo p (candidatesOn profile running))).Perm (under profile p running) :=
  (sliceStable_perm victimLess _).trans (upTo_perm_under _ _ _)

theorem Taken.subperm {need : Int}
    (h : Taken need (victimOrder (upTo p (candidatesOn w.profile running))) vs) :
    vs.Subperm (under w.profile p running) := by
  obtain ⟨init, v, rest, rfl, hsplit, -, -⟩ := h.split
  refine List.Subperm.trans ?_ (victimOrder_perm_under _ _ _).subperm
  rw [hsplit]
  refine ((List.append_sublist_append_left init).mpr ?_).subperm
  exact (List.nil_sublist rest).cons_cons v

/-- A higher ceiling suffices too. -/
theorem Sufficient.mono {q : Int} (hpos : ∀ r ∈ running, 0 ≤ r.gpuCount)
    (h : Sufficient w running fleet p) (hle : p ≤ q) : Sufficient w running fleet q := by
  refine h.trans (gpuSum_le_of_subperm ?_ (fun r hr => hpos r (mem_under.mp hr).1))
  refine (List.monotone_filter_right running (fun r hr => ?_)).subperm
  rw [decide_eq_true_iff] at hr ⊢
  exact ⟨hr.1, hr.2.trans hle⟩

/-- Minimal victims stay below a priority exactly when some ceiling below it suffices. -/
theorem Minimal.lower_iff (hpos : ∀ r ∈ running, 0 ≤ r.gpuCount)
    (h : Minimal w running fleet vs p) (q : Int) :
    (∀ v ∈ vs, v.priority < q) ↔ Sufficient w running fleet (q - 1) := by
  constructor
  · intro hlow
    obtain ⟨v, hv, hvp⟩ := exists_at_ceiling h.ceiling hpos h.chosen h.frees
    have hlt := hlow v hv
    exact Sufficient.mono hpos h.ceiling.1 (by omega)
  · intro hsuff v hv
    have hle := h.ceiling.2 hsuff
    have hvp := (h.each v hv).2
    omega

variable (hpos : ∀ r ∈ running, 0 < r.gpuCount)
include hpos

/-- A shortest prefix in victim order is minimal. -/
theorem Taken.minimal (hleast : IsLeast {p | Sufficient w running fleet p} p)
    (htaken : Taken (shortfall w fleet)
      (victimOrder (upTo p (candidatesOn w.profile running))) vs) :
    Minimal w running fleet vs p := by
  have hsub := htaken.subperm
  obtain ⟨init, v, rest, rfl, hsplit, hshort, hle⟩ := htaken.split
  have hsort : (init ++ v :: rest).Pairwise
      (fun a b => RunningWorkload.gpuCount b ≤ RunningWorkload.gpuCount a) := by
    rw [← hsplit]
    exact (victimOrder_sorted _).imp And.left
  have hperm : (init ++ v :: rest).Perm (under w.profile p running) := by
    rw [← hsplit]
    exact victimOrder_perm_under _ _ _
  have hnonneg : ∀ r ∈ init ++ v :: rest, 0 ≤ r.gpuCount :=
    fun r hr => le_of_lt (hpos r (mem_under.mp (hperm.mem_iff.mp hr)).1)
  refine ⟨hleast, hsub, fun x hx => (mem_under.mp (hsub.subset hx)).2, hle, ?_, ?_⟩
  · intro ws hws hfree
    exact length_le_of_reaches hsort hnonneg hshort (hws.trans hperm.symm.subperm) hfree
  · intro x hx
    exact weigh_erase_lt hsort hshort hx

/-- **GREEDY IS MINIMAL** under the lowest sufficient ceiling. -/
theorem greedy_minimal (h : selectPreemptionVictimsGreedyMinimal w running fleet = .ok vs)
    (hne : vs ≠ []) : ∃ p, Minimal w running fleet vs p := by
  obtain ⟨p, hleast, htaken⟩ := greedy_taken hpos h hne
  exact ⟨p, htaken.minimal hpos hleast⟩

end

/-- A fleet with one free device of a profile. -/
def oneFree : FleetFreeCapacity :=
  ⟨1, 80, some ((∅ : GoMap String ProfileFreeCapacity).insert "h100_sxm" ⟨1, 80, 80⟩)⟩

/-- A workload for some GPUs. -/
def asking (gpuCount : Int) : QueuedWorkload :=
  ⟨"ns/new", "team", 5, 1, gpuCount, 40, "h100_sxm", 5, .training⟩

/-- A running workload. -/
def runningOn (id : String) (priority startedAt gpuCount : Int) : RunningWorkload :=
  ⟨id, "team", priority, startedAt, gpuCount, 40, "h100_sxm", 5, .training⟩

/-! ## The two selectors -/

/-- The selectors agree on whether there are victims, and on how far up they reach. -/
structure Agree (plain greedy : Except PreemptionError (List RunningWorkload)) : Prop where
  error : (∃ e, plain = .error e) ↔ ∃ e, greedy = .error e
  fits : plain = .ok [] ↔ greedy = .ok []
  highest : ∀ vs ws, plain = .ok vs → greedy = .ok ws → vs ≠ [] → ws ≠ [] →
    ∃ p, IsGreatest {q | ∃ v ∈ vs, v.priority = q} p
      ∧ IsGreatest {q | ∃ v ∈ ws, v.priority = q} p
  shorter : ∀ vs ws, plain = .ok vs → greedy = .ok ws → ws.length ≤ vs.length

section
variable {w : QueuedWorkload} {running : List RunningWorkload} {fleet : FleetFreeCapacity}
  {vs : List RunningWorkload} {p : Int}

theorem highest_of_ceiling (hp : IsLeast {p | Sufficient w running fleet p} p)
    (hnonneg : ∀ r ∈ running, 0 ≤ r.gpuCount)
    (hsub : vs.Subperm (under w.profile p running)) (hle : shortfall w fleet ≤ gpuSum vs) :
    IsGreatest {q | ∃ v ∈ vs, v.priority = q} p := by
  refine ⟨exists_at_ceiling hp hnonneg hsub hle, ?_⟩
  rintro q ⟨v, hv, rfl⟩
  exact (mem_under.mp (hsub.subset hv)).2.2

/-- The end of both selectors, by cases: no context, nothing to free, victims, or too
    little running. -/
inductive Ends (plain greedy : Except PreemptionError (List RunningWorkload)) : Prop where
  | error (e e' : PreemptionError) : plain = .error e → greedy = .error e' → Ends plain greedy
  | fits : plain = .ok [] → greedy = .ok [] → Ends plain greedy
  | victims (vs ws : List RunningWorkload) : plain = .ok vs → greedy = .ok ws → vs ≠ [] →
      ws ≠ [] → Ends plain greedy

theorem ends_selectors (w : QueuedWorkload) (fleet : FleetFreeCapacity)
    (hpos : ∀ r ∈ running, 0 < r.gpuCount) :
    Ends (selectPreemptionVictims w running fleet)
      (selectPreemptionVictimsGreedyMinimal w running fleet) := by
  rw [selectPreemptionVictims, selectPreemptionVictimsWith, selectPreemptionVictimsGreedyMinimal,
    selectPreemptionVictimsGreedyMinimalWith, ← buildPreemptionContext, ← takeVictims, ← widen]
  cases hctx : buildPreemptionContext w running fleet with
  | error e => exact .error e e rfl rfl
  | ok ctx =>
    cases ctx with
    | none => exact .fits rfl rfl
    | some ctx =>
      obtain ⟨hneed, rfl⟩ := buildPreemptionContext_some hctx
      have hnonneg : ∀ r ∈ candidatesOn w.profile running, 0 ≤ r.gpuCount :=
        fun r hr => le_of_lt (hpos r (mem_candidatesOn.mp hr).1)
      have hcand : gpuSum (candidatesOn w.profile running)
          = gpuSum (running.filter (fun r => r.profile = w.profile)) :=
        gpuSum_perm (sliceStable_perm candidateLess _)
      have hplain := takeVictims_none_iff hnonneg hneed
      have hgreedy := widen_exists_iff w.profile hneed (fun r hr => le_of_lt (hpos r hr))
      rw [← hcand] at hgreedy
      simp only
      cases htake : takeVictims (shortfall w fleet) 0 (candidatesOn w.profile running) with
      | none =>
          -- too little is running for either of them
          have hlt := hplain.mp htake
          cases hwiden : widen (shortfall w fleet) [] (candidatesOn w.profile running) with
          | none =>
              split_ifs
              · exact .error _ _ rfl rfl
              · exact .error _ _ rfl rfl
          | some ws =>
              have := hgreedy.mp ⟨ws, hwiden⟩
              omega
      | some vs =>
          have hle : shortfall w fleet ≤ gpuSum (candidatesOn w.profile running) := by
            by_contra hlt
            rw [hplain.mpr (by omega)] at htake
            cases htake
          obtain ⟨ws, hwiden⟩ := hgreedy.mpr hle
          have hcne : candidatesOn w.profile running ≠ [] := by
            intro hnil
            rw [hnil] at htake
            cases htake
          simp only [if_neg hcne, hwiden]
          obtain ⟨init, v, rest, rfl, -⟩ := (taken_of_takeVictims hneed htake).split
          exact .victims _ ws rfl rfl (by simp) (widen_victims hwiden).1

/-- The selectors agree when they end alike, and where both return victims these reach
    equally far up and the greedy list is not the longer one. -/
theorem Ends.agree {plain greedy : Except PreemptionError (List RunningWorkload)}
    (h : Ends plain greedy)
    (hvictims : ∀ vs ws, plain = .ok vs → greedy = .ok ws → vs ≠ [] → ws ≠ [] →
      (∃ p, IsGreatest {q | ∃ v ∈ vs, v.priority = q} p
        ∧ IsGreatest {q | ∃ v ∈ ws, v.priority = q} p) ∧ ws.length ≤ vs.length) :
    Agree plain greedy := by
  cases h with
  | error e e' hplain hgreedy =>
      rw [hplain, hgreedy]
      refine ⟨⟨fun _ => ⟨e', rfl⟩, fun _ => ⟨e, rfl⟩⟩, ⟨?_, ?_⟩, ?_, ?_⟩
      · intro h; cases h
      · intro h; cases h
      · intro vs ws h; cases h
      · intro vs ws h; cases h
  | fits hplain hgreedy =>
      rw [hplain, hgreedy]
      refine ⟨⟨?_, ?_⟩, Iff.rfl, ?_, ?_⟩
      · rintro ⟨e, h⟩; cases h
      · rintro ⟨e, h⟩; cases h
      · intro vs ws h _ hne
        exact absurd (Except.ok.inj h).symm hne
      · intro vs ws h h'
        rw [← Except.ok.inj h, ← Except.ok.inj h']
  | victims vs ws hplain hgreedy hvs hws =>
      have hboth := hvictims vs ws hplain hgreedy hvs hws
      rw [hplain, hgreedy]
      refine ⟨⟨?_, ?_⟩, ⟨?_, ?_⟩, ?_, ?_⟩
      · rintro ⟨e, h⟩; cases h
      · rintro ⟨e, h⟩; cases h
      · intro h; exact absurd (Except.ok.inj h) hvs
      · intro h; exact absurd (Except.ok.inj h) hws
      · intro vs' ws' h h' _ _
        rw [← Except.ok.inj h, ← Except.ok.inj h']
        exact hboth.1
      · intro vs' ws' h h'
        rw [← Except.ok.inj h, ← Except.ok.inj h']
        exact hboth.2

/-- **THE SELECTORS AGREE** for every workload, every fleet and all running workloads with
    positive counts. -/
theorem selectors_agree (hpos : ∀ r ∈ running, 0 < r.gpuCount) :
    Agree (selectPreemptionVictims w running fleet)
      (selectPreemptionVictimsGreedyMinimal w running fleet) := by
  refine (ends_selectors w fleet hpos).agree (fun vs ws hplain hgreedy hvs hws => ?_)
  obtain ⟨p, hp, htaken, hsub⟩ := plain_taken hpos hplain hvs
  obtain ⟨p', hp', htaken'⟩ := greedy_taken hpos hgreedy hws
  obtain rfl : p = p' := hp.unique hp'
  have hmin := htaken'.minimal hpos hp'
  have hnonneg : ∀ r ∈ running, 0 ≤ r.gpuCount := fun r hr => le_of_lt (hpos r hr)
  obtain ⟨init, v, rest, -, -, -, hle⟩ := htaken.split
  exact ⟨⟨p, highest_of_ceiling hp hnonneg hsub hle,
    highest_of_ceiling hp hnonneg hmin.chosen hmin.frees⟩, hmin.fewest vs hsub hle⟩

end

/-! ## Ties -/

/-- The documented order among workloads of one size: a spared one has no lower priority
    than a victim, and among equal priorities it was not started later. -/
def TieBreak (w : QueuedWorkload) (running vs : List RunningWorkload) : Prop :=
  ∀ u ∈ running.diff vs, ∀ v ∈ vs, u.profile = w.profile → u.gpuCount = v.gpuCount →
    ¬u.priority < v.priority ∧ (u.priority = v.priority → ¬v.startedAt < u.startedAt)

/-- Of two workloads of one size, the later one with the lower priority, the need is covered
    before both or before neither. -/
def Coverage (need : Int) (l : List RunningWorkload) : Prop :=
  ∀ i j : Fin l.length, i < j → (l.get i).gpuCount = (l.get j).gpuCount →
    (l.get j).priority < (l.get i).priority →
    (gpuSum (l.take i) < need ↔ gpuSum (l.take j) < need)

theorem gpuSum_take_mono {l : List RunningWorkload} (hpos : ∀ r ∈ l, 0 ≤ r.gpuCount)
    {i j : Nat} (hij : i ≤ j) : gpuSum (l.take i) ≤ gpuSum (l.take j) :=
  gpuSum_le_of_subperm (List.take_sublist_take_left hij).subperm
    (fun r hr => hpos r (List.mem_of_mem_take hr))

/-- A position is taken exactly when what stands before it does not cover the need. -/
theorem Taken.positions {need : Int} {l vs : List RunningWorkload} (h : Taken need l vs)
    (hpos : ∀ r ∈ l, 0 ≤ r.gpuCount) :
    ∃ k, k < l.length ∧ vs = l.take (k + 1)
      ∧ ∀ i, gpuSum (l.take i) < need ↔ i ≤ k := by
  obtain ⟨init, v, rest, rfl, rfl, hshort, hle⟩ := h.split
  have htake : (init ++ v :: rest).take init.length = init := List.take_left
  have htake' : (init ++ v :: rest).take (init.length + 1) = init ++ [v] := by
    rw [List.take_add_one, htake, List.getElem?_append_right (le_refl _), Nat.sub_self]
    rfl
  refine ⟨init.length, by simp, htake'.symm, fun i => ⟨fun hi => ?_, fun hi => ?_⟩⟩
  · by_contra hlt
    have hmono := gpuSum_take_mono hpos (show init.length + 1 ≤ i by omega)
    rw [htake'] at hmono
    omega
  · have hmono := gpuSum_take_mono hpos hi
    rw [htake] at hmono
    omega

/-- What is left of a list without its first part. -/
theorem append_diff_left {α : Type} [DecidableEq α] (l l' : List α) :
    (l ++ l').diff l = l' := by
  induction l with
  | nil => rw [List.nil_append, List.diff_nil]
  | cons a l ih => rw [List.cons_append, List.diff_cons, List.erase_cons_head, ih]

section
variable {w : QueuedWorkload} {running : List RunningWorkload} {fleet : FleetFreeCapacity}
  {vs : List RunningWorkload} {p : Int}

/-- Who is spared: the rest of the pool, and whoever is outside of it. -/
theorem diff_perm {l : List RunningWorkload} (hl : l.Perm (under w.profile p running)) (k : Nat) :
    (running.diff (l.take k)).Perm
      (l.drop k ++ running.filter (fun r => !decide (r.profile = w.profile ∧ r.priority ≤ p))) := by
  have hsplit : running.Perm (l.take k ++ (l.drop k
      ++ running.filter (fun r => !decide (r.profile = w.profile ∧ r.priority ≤ p)))) := by
    rw [← List.append_assoc, List.take_append_drop]
    refine (List.filter_append_perm
      (fun r : RunningWorkload => decide (r.profile = w.profile ∧ r.priority ≤ p))
      running).symm.trans ?_
    exact hl.symm.append_right _
  have hdiff := hsplit.diff_right (l.take k)
  rw [append_diff_left] at hdiff
  exact hdiff

/-- **THE TIE-BREAK**, for victims that are a shortest prefix in victim order. -/
theorem Taken.tieBreak_iff (hpos : ∀ r ∈ running, 0 < r.gpuCount) {need : Int}
    (h : Taken need (victimOrder (upTo p (candidatesOn w.profile running))) vs) :
    TieBreak w running vs
      ↔ Coverage need (victimOrder (upTo p (candidatesOn w.profile running))) := by
  have hperm := victimOrder_perm_under w.profile p running
  have hsorted := victimOrder_sorted (upTo p (candidatesOn w.profile running))
  generalize victimOrder (upTo p (candidatesOn w.profile running)) = l at h hperm hsorted ⊢
  have hnonneg : ∀ r ∈ l, 0 ≤ r.gpuCount :=
    fun r hr => le_of_lt (hpos r (mem_under.mp (hperm.mem_iff.mp hr)).1)
  obtain ⟨k, hk, rfl, hcovered⟩ := h.positions hnonneg
  have hspared : ∀ u, u ∈ running.diff (l.take (k + 1)) ↔ u ∈ l.drop (k + 1)
      ∨ u ∈ running.filter (fun r => !decide (r.profile = w.profile ∧ r.priority ≤ p)) :=
    fun u => (diff_perm hperm (k + 1)).mem_iff.trans List.mem_append
  constructor
  · intro htie i j hij hcount hlt
    have hij' : (i : Nat) < j := hij
    rw [hcovered, hcovered]
    refine ⟨fun hik => ?_, fun hjk => by omega⟩
    by_contra hjk
    -- the earlier one is a victim and the later one is spared
    have hv : l.get i ∈ l.take (k + 1) := by
      refine List.mem_iff_getElem.mpr ⟨i, ?_, ?_⟩
      · rw [List.length_take]
        omega
      · rw [List.getElem_take]
        rfl
    have hu : l.get j ∈ l.drop (k + 1) := by
      refine List.mem_iff_getElem.mpr ⟨j - (k + 1), ?_, ?_⟩
      · rw [List.length_drop]
        omega
      · rw [List.getElem_drop]
        simp only [List.get_eq_getElem]
        congr 1
        omega
    have hprofile := (mem_under.mp (hperm.mem_iff.mp (List.get_mem l j))).2.1
    exact (htie _ ((hspared _).mpr (Or.inl hu)) _ hv hprofile hcount.symm).1 hlt
  · intro hcov u hu v hv hprofile hcount
    obtain ⟨i, hi, rfl⟩ := List.mem_iff_getElem.mp hv
    rw [List.length_take] at hi
    rw [List.getElem_take] at hcount ⊢
    have hvp : l[i].priority ≤ p :=
      (mem_under.mp (hperm.mem_iff.mp (List.getElem_mem _))).2.2
    have hpool : u.priority ≤ l[i].priority → ∃ j, ∃ hj : j < l.length, k < j ∧ l[j] = u := by
      intro hle
      rcases (hspared u).mp hu with hu | hu
      · obtain ⟨j, hj, rfl⟩ := List.mem_iff_getElem.mp hu
        rw [List.length_drop] at hj
        exact ⟨k + 1 + j, by omega, by omega, by rw [List.getElem_drop]⟩
      · have hout := (List.mem_filter.mp hu).2
        rw [Bool.not_eq_true', decide_eq_false_iff_not] at hout
        exact absurd ⟨hprofile, hle.trans hvp⟩ hout
    constructor
    · intro hlt
      obtain ⟨j, hj, hkj, rfl⟩ := hpool (le_of_lt hlt)
      have hiff := hcov ⟨i, by omega⟩ ⟨j, hj⟩ (by show i < j; omega) hcount.symm hlt
      simp only [hcovered] at hiff
      omega
    · intro heq hlt
      obtain ⟨j, hj, hkj, rfl⟩ := hpool (le_of_eq heq)
      have hsort := List.pairwise_iff_getElem.mp hsorted i j (by omega) hj (by omega)
      have := hsort.2 hcount.symm
      omega

/-- A workload that is short, under a sufficient ceiling, gets victims. -/
theorem exists_greedy_ok (hpos : ∀ r ∈ running, 0 < r.gpuCount) (hshort : Short w running fleet)
    (hp : Sufficient w running fleet p) :
    ∃ vs, selectPreemptionVictimsGreedyMinimal w running fleet = .ok vs ∧ vs ≠ [] := by
  obtain ⟨ctx, hctx⟩ := hshort
  obtain ⟨hneed, rfl⟩ := buildPreemptionContext_some hctx
  have hle : shortfall w fleet ≤ gpuSum (running.filter (fun r => r.profile = w.profile)) := by
    refine le_trans hp (gpuSum_le_of_subperm ?_ (fun r hr =>
      le_of_lt (hpos r (List.mem_of_mem_filter hr))))
    refine (List.monotone_filter_right running (fun r hr => ?_)).subperm
    exact decide_eq_true (of_decide_eq_true hr).1
  obtain ⟨vs, hvs⟩ := (widen_exists_iff w.profile hneed (fun r hr => le_of_lt (hpos r hr))).mpr hle
  have hcne : candidatesOn w.profile running ≠ [] := by
    intro hnil
    rw [hnil] at hvs
    cases hvs
  refine ⟨vs, ?_, (widen_victims hvs).1⟩
  rw [selectPreemptionVictimsGreedyMinimal, selectPreemptionVictimsGreedyMinimalWith,
    ← buildPreemptionContext, ← widen, hctx]
  simp only [if_neg hcne, hvs]

/-- **WHEN TIES ARE BROKEN AS DOCUMENTED**: exactly when, in the pool under the lowest
    sufficient ceiling, the order by size and start time never puts the end of the need
    between a workload and a later one of its size with lower priority. -/
theorem ties_iff_coverage (hpos : ∀ r ∈ running, 0 < r.gpuCount) :
    (∀ vs, selectPreemptionVictimsGreedyMinimal w running fleet = .ok vs →
        TieBreak w running vs)
      ↔ (Short w running fleet → ∀ p, IsLeast {p | Sufficient w running fleet p} p →
        Coverage (shortfall w fleet)
          (victimOrder (upTo p (candidatesOn w.profile running)))) := by
  constructor
  · intro h hshort p hp
    obtain ⟨vs, hvs, hne⟩ := exists_greedy_ok hpos hshort hp.1
    obtain ⟨q, hq, htaken⟩ := greedy_taken hpos hvs hne
    obtain rfl : p = q := hp.unique hq
    exact (htaken.tieBreak_iff hpos).mp (h vs hvs)
  · intro h vs hvs
    by_cases hne : vs = []
    · intro u _ v hv
      rw [hne] at hv
      cases hv
    · obtain ⟨p, hp, htaken⟩ := greedy_taken hpos hvs hne
      exact (htaken.tieBreak_iff hpos).mpr (h (widen_of_greedy hvs hne).1 p hp)

end

/-- Three workloads of one size; the one with the lowest priority was started first. -/
def oldestLowest : List RunningWorkload :=
  [runningOn "ns/low" 1 10 2, runningOn "ns/high" 2 11 2, runningOn "ns/new" 2 12 2]

/-- Two victims are needed: the two of the higher priority are taken, and the one of the
    lower priority is spared. -/
theorem oldestLowest_spared :
    ¬∀ (w : QueuedWorkload) (running : List RunningWorkload) (fleet : FleetFreeCapacity),
      (∀ r ∈ running, 0 < r.gpuCount) →
      ∀ vs, selectPreemptionVictimsGreedyMinimal w running fleet = .ok vs →
        TieBreak w running vs := by
  intro h
  have hsel : selectPreemptionVictimsGreedyMinimal (asking 4) oldestLowest oneFree
      = .ok [runningOn "ns/new" 2 12 2, runningOn "ns/high" 2 11 2] := by decide +kernel
  have htie := h (asking 4) oldestLowest oneFree (by decide) _ hsel
    (runningOn "ns/low" 1 10 2) (by decide) (runningOn "ns/high" 2 11 2) (by decide) rfl rfl
  exact htie.1 (by decide)

/-- The one with the lowest priority was started last. -/
def newestLowest : List RunningWorkload :=
  [runningOn "ns/low" 1 13 2, runningOn "ns/high" 2 11 2, runningOn "ns/new" 2 12 2]

/-- Now it is among the victims, and the ties are broken as documented. -/
theorem newestLowest_covered :
    selectPreemptionVictimsGreedyMinimal (asking 4) newestLowest oneFree
        = .ok [runningOn "ns/low" 1 13 2, runningOn "ns/new" 2 12 2]
      ∧ (Short (asking 4) newestLowest oneFree →
        ∀ p, IsLeast {p | Sufficient (asking 4) newestLowest oneFree p} p →
          Coverage (shortfall (asking 4) oneFree)
            (victimOrder (upTo p (candidatesOn (asking 4).profile newestLowest)))) := by
  have hsel : selectPreemptionVictimsGreedyMinimal (asking 4) newestLowest oneFree
      = .ok [runningOn "ns/low" 1 13 2, runningOn "ns/new" 2 12 2] := by decide +kernel
  refine ⟨hsel, (ties_iff_coverage (by decide)).mp (fun vs hvs => ?_)⟩
  rw [hsel] at hvs
  rw [← Except.ok.inj hvs, TieBreak]
  decide +kernel

end GpuVictims
