import GpuScheduler.FairnessProofs

/-! # Weighted round-robin as an order of turns

    In `WeightedRoundRobinByTenant` the tenants take turns in the order in which they
    first occur; in each round a tenant hands out as many workloads as its weight says.
    So a workload has a turn that can be read off the input: the round is its place among
    the workloads of its tenant divided by the weight, and within a round the turns go by
    the rank of the tenant.

    `wrr_pairwise` proves that the loops output the workloads in the order of their
    turns.  An order of turns determines the list, so round-robin leaves its input alone
    exactly when the input is in turn already (`wrr_eq_self_iff`). -/

namespace GpuRoundRobin

open GoMaps GpuInputs GpuFairness

/-! ## Turns -/

/-- The workloads of a tenant, in the order of the list. -/
def ownQueue (l : List QueuedWorkload) (tenant : String) : List QueuedWorkload :=
  l.filter (fun q => q.tenant = tenant)

/-- Where a tenant first occurs. -/
def rankOf (l : List QueuedWorkload) (tenant : String) : Nat :=
  (l.map QueuedWorkload.tenant).idxOf tenant

/-- The place of a workload among those of its tenant. -/
def placeOf (l : List QueuedWorkload) (x : QueuedWorkload) : Nat :=
  (ownQueue l x.tenant).idxOf x

/-- The round in which a workload has its turn. -/
def roundOf (quotas : GoMap String TenantQuota) (l : List QueuedWorkload)
    (x : QueuedWorkload) : Nat :=
  placeOf l x / (tenantWeight quotas x.tenant).toNat

/-- The list is in turn: an earlier workload has an earlier round, or the same round and a
    tenant that occurs no later. -/
def InTurn (quotas : GoMap String TenantQuota) (l : List QueuedWorkload) : Prop :=
  l.Pairwise (fun x y => roundOf quotas l x < roundOf quotas l y
    ∨ (roundOf quotas l x = roundOf quotas l y ∧ rankOf l x.tenant ≤ rankOf l y.tenant))

instance (quotas : GoMap String TenantQuota) (l : List QueuedWorkload) :
    Decidable (InTurn quotas l) :=
  inferInstanceAs (Decidable (l.Pairwise _))

/-- The order of turns, strictly: by round, then by tenant, then by place. -/
def Before (quotas : GoMap String TenantQuota) (l : List QueuedWorkload)
    (x y : QueuedWorkload) : Prop :=
  roundOf quotas l x < roundOf quotas l y
    ∨ (roundOf quotas l x = roundOf quotas l y ∧ (rankOf l x.tenant < rankOf l y.tenant
      ∨ (rankOf l x.tenant = rankOf l y.tenant ∧ placeOf l x < placeOf l y)))

theorem Before.asymm {quotas : GoMap String TenantQuota} {l : List QueuedWorkload}
    {x y : QueuedWorkload} (h : Before quotas l x y) : ¬ Before quotas l y x := by
  intro h'
  rw [Before] at h h'
  omega

theorem tenantWeight_pos (quotas : GoMap String TenantQuota) (tenant : String) :
    0 < tenantWeight quotas tenant := by
  rw [tenantWeight]
  split
  · split_ifs with h
    · exact h
    · decide
  · decide

/-- In a list without repetitions the places increase. -/
theorem pairwise_idxOf {α : Type} [DecidableEq α] {l : List α} (hnd : l.Nodup) :
    l.Pairwise (fun x y => l.idxOf x < l.idxOf y) := by
  rw [List.pairwise_iff_getElem]
  intro i j hi hj hij
  rw [hnd.idxOf_getElem, hnd.idxOf_getElem]
  exact hij

theorem nodup_ownQueue {l : List QueuedWorkload} (hnd : l.Nodup) (tenant : String) :
    (ownQueue l tenant).Nodup :=
  hnd.filter _

/-- Workloads of one tenant stand in the order of their places. -/
theorem pairwise_placeOf {l : List QueuedWorkload} (hnd : l.Nodup) :
    l.Pairwise (fun x y => x.tenant = y.tenant → placeOf l x < placeOf l y) := by
  rw [List.pairwise_iff_forall_sublist]
  intro x y hsub htenant
  have hown : [x, y].Sublist (ownQueue l y.tenant) := by
    have hf := hsub.filter (fun q => q.tenant = y.tenant)
    rw [List.filter_cons_of_pos (by simpa using htenant),
      List.filter_cons_of_pos (by simp)] at hf
    exact hf
  rw [placeOf, placeOf, htenant]
  exact List.pairwise_iff_forall_sublist.mp (pairwise_idxOf (nodup_ownQueue hnd _)) hown

/-- A list without repetitions is in turn exactly when it goes by the order of turns. -/
theorem inTurn_iff {quotas : GoMap String TenantQuota} {l : List QueuedWorkload}
    (hnd : l.Nodup) : InTurn quotas l ↔ l.Pairwise (Before quotas l) := by
  constructor
  · intro h
    refine (h.and (pairwise_placeOf hnd)).imp_of_mem (fun {x y} hx hy hxy => ?_)
    obtain ⟨hturn, hplace⟩ := hxy
    rcases hturn with hround | ⟨hround, hrank⟩
    · exact Or.inl hround
    · refine Or.inr ⟨hround, ?_⟩
      rcases Nat.lt_or_eq_of_le hrank with hlt | heq
      · exact Or.inl hlt
      · -- equal ranks are the rank of one tenant
        have htenant : x.tenant = y.tenant :=
          (List.idxOf_inj (List.mem_map_of_mem hx)).mp heq
        exact Or.inr ⟨heq, hplace htenant⟩
  · intro h
    refine h.imp (fun {x y} hxy => ?_)
    rcases hxy with hround | ⟨hround, hrank | ⟨hrank, -⟩⟩
    · exact Or.inl hround
    · exact Or.inr ⟨hround, le_of_lt hrank⟩
    · exact Or.inr ⟨hround, le_of_eq hrank⟩

/-! ## The tenant queues -/

/-- The tenant queues of a list after some rounds. -/
structure Left (quotas : GoMap String TenantQuota) (l : List QueuedWorkload) (r : Nat)
    (tqs : List TenantQueue) : Prop where
  items : ∀ tq ∈ tqs, tq.items
    = (ownQueue l tq.tenant).drop (r * (tenantWeight quotas tq.tenant).toNat)
  weight : ∀ tq ∈ tqs, tq.weight = tenantWeight quotas tq.tenant
  present : ∀ tq ∈ tqs, tq.tenant ∈ l.map QueuedWorkload.tenant
  ranks : tqs.Pairwise (fun a b => rankOf l a.tenant < rankOf l b.tenant)

theorem rankOf_append_of_mem {l : List QueuedWorkload} {tenant : String}
    (h : tenant ∈ l.map QueuedWorkload.tenant) (w : QueuedWorkload) :
    rankOf (l ++ [w]) tenant = rankOf l tenant := by
  rw [rankOf, rankOf, List.map_append, List.idxOf_append_of_mem h]

theorem ownQueue_append (l : List QueuedWorkload) (w : QueuedWorkload) (tenant : String) :
    ownQueue (l ++ [w]) tenant
      = if w.tenant = tenant then ownQueue l tenant ++ [w] else ownQueue l tenant := by
  rw [ownQueue, List.filter_append, List.filter_singleton]
  by_cases h : w.tenant = tenant
  · simp [h, ownQueue]
  · simp [h, ownQueue]

/-- Every workload read so far has a queue. -/
def Covers (l : List QueuedWorkload) (tqs : List TenantQueue) : Prop :=
  ∀ x ∈ l, ∃ tq ∈ tqs, tq.tenant = x.tenant

section
variable {quotas : GoMap String TenantQuota} {l : List QueuedWorkload}
  {tqs : List TenantQueue} {w : QueuedWorkload}

theorem Left.items_zero (h : Left quotas l 0 tqs) {tq : TenantQueue} (htq : tq ∈ tqs) :
    tq.items = ownQueue l tq.tenant := by
  rw [h.items tq htq, Nat.zero_mul, List.drop_zero]

theorem Left.present_append (h : Left quotas l 0 tqs) (w : QueuedWorkload) {tq : TenantQueue}
    (htq : tq ∈ tqs) : tq.tenant ∈ (l ++ [w]).map QueuedWorkload.tenant := by
  rw [List.map_append]
  exact List.mem_append_left _ (h.present tq htq)

/-- One more workload does not change the ranks of the tenants with a queue. -/
theorem Left.ranks_append (h : Left quotas l 0 tqs) (w : QueuedWorkload) :
    tqs.Pairwise (fun a b => rankOf (l ++ [w]) a.tenant < rankOf (l ++ [w]) b.tenant) := by
  refine h.ranks.imp_of_mem (fun {a b} ha hb hab => ?_)
  rw [rankOf_append_of_mem (h.present a ha), rankOf_append_of_mem (h.present b hb)]
  exact hab

/-- The tenant has a queue: the workload goes to its end. -/
theorem Left.enqueue_known (h : Left quotas l 0 tqs) (hcover : Covers l tqs)
    (hknown : ∃ tq ∈ tqs, tq.tenant = w.tenant) :
    Left quotas (l ++ [w]) 0 (tqs.map (fun tq =>
        if tq.tenant = w.tenant then { tq with items := tq.items ++ [w] } else tq))
      ∧ Covers (l ++ [w]) (tqs.map (fun tq =>
        if tq.tenant = w.tenant then { tq with items := tq.items ++ [w] } else tq)) := by
  have htenant : ∀ tq : TenantQueue, (if tq.tenant = w.tenant then
      { tq with items := tq.items ++ [w] } else tq).tenant = tq.tenant := by
    intro tq
    split_ifs <;> rfl
  refine ⟨⟨?_, ?_, ?_, ?_⟩, ?_⟩
  · intro tq' htq'
    obtain ⟨tq, htq, rfl⟩ := List.mem_map.mp htq'
    rw [htenant, ownQueue_append, Nat.zero_mul, List.drop_zero]
    by_cases ht : tq.tenant = w.tenant
    · rw [if_pos ht, if_pos ht.symm, ← h.items_zero htq]
    · rw [if_neg ht, if_neg (fun e => ht e.symm), ← h.items_zero htq]
  · intro tq' htq'
    obtain ⟨tq, htq, rfl⟩ := List.mem_map.mp htq'
    rw [htenant, ← h.weight tq htq]
    split_ifs <;> rfl
  · intro tq' htq'
    obtain ⟨tq, htq, rfl⟩ := List.mem_map.mp htq'
    rw [htenant]
    exact h.present_append w htq
  · rw [List.pairwise_map]
    refine (h.ranks_append w).imp (fun {a b} hab => ?_)
    rw [htenant, htenant]
    exact hab
  · intro x hx
    have hold : ∃ tq ∈ tqs, tq.tenant = x.tenant := by
      rcases List.mem_append.mp hx with hx | hx
      · exact hcover x hx
      · rw [List.mem_singleton.mp hx]
        exact hknown
    obtain ⟨tq, htq, ht⟩ := hold
    exact ⟨_, List.mem_map_of_mem htq, by rw [htenant]; exact ht⟩

/-- A new tenant comes after all others. -/
theorem Left.enqueue_new (h : Left quotas l 0 tqs) (hcover : Covers l tqs)
    (hnew : ∀ tq ∈ tqs, tq.tenant ≠ w.tenant) :
    Left quotas (l ++ [w]) 0 (tqs ++ [⟨w.tenant, [w], tenantWeight quotas w.tenant⟩])
      ∧ Covers (l ++ [w]) (tqs ++ [⟨w.tenant, [w], tenantWeight quotas w.tenant⟩]) := by
  have hnot : w.tenant ∉ l.map QueuedWorkload.tenant := by
    intro hw
    obtain ⟨x, hx, hxw⟩ := List.mem_map.mp hw
    obtain ⟨tq, htq, ht⟩ := hcover x hx
    exact hnew tq htq (ht.trans hxw)
  have hempty : ownQueue l w.tenant = [] := by
    refine List.filter_eq_nil_iff.mpr (fun x hx hxw => hnot ?_)
    rw [← of_decide_eq_true hxw]
    exact List.mem_map_of_mem hx
  have hlast : rankOf (l ++ [w]) w.tenant = l.length := by
    rw [rankOf, List.map_append, List.idxOf_append_of_notMem hnot, List.length_map]
    simp
  refine ⟨⟨?_, ?_, ?_, ?_⟩, ?_⟩
  · intro tq htq
    rw [ownQueue_append, Nat.zero_mul, List.drop_zero]
    rcases List.mem_append.mp htq with htq | htq
    · rw [if_neg (fun e => hnew tq htq e.symm), h.items_zero htq]
    · rw [List.mem_singleton.mp htq, if_pos rfl, hempty]
      rfl
  · intro tq htq
    rcases List.mem_append.mp htq with htq | htq
    · exact h.weight tq htq
    · rw [List.mem_singleton.mp htq]
  · intro tq htq
    rcases List.mem_append.mp htq with htq | htq
    · exact h.present_append w htq
    · rw [List.mem_singleton.mp htq, List.map_append]
      exact List.mem_append_right _ (List.mem_singleton_self _)
  · refine List.pairwise_append.mpr ⟨h.ranks_append w, List.pairwise_singleton _ _, ?_⟩
    intro a ha b hb
    rw [List.mem_singleton.mp hb, rankOf_append_of_mem (h.present a ha), hlast, rankOf]
    have hlt := List.idxOf_lt_length_of_mem (h.present a ha)
    rw [List.length_map] at hlt
    exact hlt
  · intro x hx
    rcases List.mem_append.mp hx with hx | hx
    · obtain ⟨tq, htq, ht⟩ := hcover x hx
      exact ⟨tq, List.mem_append_left _ htq, ht⟩
    · rw [List.mem_singleton.mp hx]
      exact ⟨_, List.mem_append_right _ (List.mem_singleton_self _), rfl⟩

/-- One turn of the grouping loop, on the queues of what was read so far. -/
theorem Left.enqueue (h : Left quotas l 0 tqs) (hcover : Covers l tqs) (w : QueuedWorkload) :
    Left quotas (l ++ [w]) 0 (enqueue quotas tqs w)
      ∧ Covers (l ++ [w]) (enqueue quotas tqs w) := by
  rw [GpuFairness.enqueue]
  by_cases hany : tqs.any (fun tq => tq.tenant = w.tenant) = true
  · rw [if_pos hany]
    obtain ⟨tq, htq, ht⟩ := List.any_eq_true.mp hany
    exact h.enqueue_known hcover ⟨tq, htq, of_decide_eq_true ht⟩
  · rw [if_neg hany]
    refine h.enqueue_new hcover (fun tq htq ht => ?_)
    exact hany (List.any_eq_true.mpr ⟨tq, htq, decide_eq_true ht⟩)

end

/-- The grouping loop: every tenant has its own queue, in the order of the ranks. -/
theorem left_tenantsInOrder (quotas : GoMap String TenantQuota) (l : List QueuedWorkload) :
    Left quotas l 0 (tenantsInOrder quotas l) := by
  suffices h : Left quotas l 0 (tenantsInOrder quotas l)
      ∧ ∀ x ∈ l, ∃ tq ∈ tenantsInOrder quotas l, tq.tenant = x.tenant from h.1
  induction l using List.reverseRecOn with
  | nil =>
      refine ⟨⟨?_, ?_, ?_, List.Pairwise.nil⟩, ?_⟩
      · intro tq h; cases h
      · intro tq h; cases h
      · intro tq h; cases h
      · intro x h; cases h
  | append_singleton l w ih =>
      rw [tenantsInOrder, List.foldl_append]
      exact ih.1.enqueue ih.2 w

/-! ## One round -/

/-- What a turn takes and leaves, by the weight alone. -/
theorem take_drop_eq {tq : TenantQueue} (hpos : 0 < tq.weight) :
    tq.items.take tq.take = tq.items.take tq.weight.toNat
      ∧ tq.items.drop tq.take = tq.items.drop tq.weight.toNat := by
  rw [TenantQueue.take]
  simp only [if_neg (not_le.mpr hpos)]
  by_cases hlen : (tq.items.length : Int) < tq.weight
  · rw [if_pos hlen, List.take_length, List.drop_length, List.take_of_length_le (by omega),
      List.drop_eq_nil_of_le (by omega)]
    exact ⟨rfl, rfl⟩
  · rw [if_neg hlen]
    exact ⟨rfl, rfl⟩

/-- A pass is one turn of every tenant; an empty queue has an empty turn. -/
theorem pass_eq {tqs : List TenantQueue} (hpos : ∀ tq ∈ tqs, 0 < tq.weight) :
    pass tqs = (tqs.flatMap (fun tq => tq.items.take tq.weight.toNat),
      tqs.map (fun tq => { tq with items := tq.items.drop tq.weight.toNat })) := by
  induction tqs with
  | nil => rfl
  | cons tq tqs ih =>
      have ih' := ih (fun tq h => hpos tq (List.mem_cons_of_mem _ h))
      rw [GpuFairness.pass, ih']
      by_cases he : tq.items = []
      · have hsame : ({ tq with items := tq.items.drop tq.weight.toNat } : TenantQueue) = tq := by
          rw [he, List.drop_nil, ← he]
        rw [if_pos he, List.flatMap_cons, List.map_cons, hsame, he, List.take_nil]
        rfl
      · obtain ⟨htake, hdrop⟩ := take_drop_eq (hpos tq (List.mem_cons_self ..))
        rw [if_neg he, htake, hdrop]
        rfl

section
variable {quotas : GoMap String TenantQuota} {l : List QueuedWorkload} {r : Nat}
  {tqs : List TenantQueue}

theorem Left.weight_pos (h : Left quotas l r tqs) : ∀ tq ∈ tqs, 0 < tq.weight := by
  intro tq htq
  rw [h.weight tq htq]
  exact tenantWeight_pos quotas tq.tenant

/-- A round leaves the queues of the next round. -/
theorem Left.pass (h : Left quotas l r tqs) : Left quotas l (r + 1) (pass tqs).2 := by
  rw [pass_eq h.weight_pos]
  refine ⟨?_, ?_, ?_, ?_⟩
  · intro tq' htq'
    obtain ⟨tq, htq, rfl⟩ := List.mem_map.mp htq'
    show tq.items.drop tq.weight.toNat = _
    rw [h.items tq htq, h.weight tq htq, List.drop_drop, Nat.succ_mul]
  · intro tq' htq'
    obtain ⟨tq, htq, rfl⟩ := List.mem_map.mp htq'
    exact h.weight tq htq
  · intro tq' htq'
    obtain ⟨tq, htq, rfl⟩ := List.mem_map.mp htq'
    exact h.present tq htq
  · exact List.pairwise_map.mpr h.ranks

/-- A workload left in a queue is of its tenant, and its round is not over. -/
theorem Left.mem_items (hnd : l.Nodup) (h : Left quotas l r tqs) {tq : TenantQueue}
    (htq : tq ∈ tqs) {x : QueuedWorkload} (hx : x ∈ tq.items) :
    x.tenant = tq.tenant ∧ r ≤ roundOf quotas l x := by
  rw [h.items tq htq] at hx
  have hown : x ∈ ownQueue l tq.tenant := List.mem_of_mem_drop hx
  have htenant : x.tenant = tq.tenant := of_decide_eq_true (List.mem_filter.mp hown).2
  refine ⟨htenant, ?_⟩
  obtain ⟨i, hi, rfl⟩ := List.mem_iff_getElem.mp hx
  have hpos := tenantWeight_pos quotas tq.tenant
  rw [roundOf, placeOf, htenant, List.getElem_drop,
    (nodup_ownQueue hnd _).idxOf_getElem, Nat.le_div_iff_mul_le (by omega)]
  omega

/-- What a turn takes has its round now. -/
theorem Left.roundOf_take (hnd : l.Nodup) (h : Left quotas l r tqs) {tq : TenantQueue}
    (htq : tq ∈ tqs) {x : QueuedWorkload} (hx : x ∈ tq.items.take tq.weight.toNat) :
    roundOf quotas l x = r := by
  have htenant := (h.mem_items hnd htq (List.mem_of_mem_take hx)).1
  rw [h.items tq htq, h.weight tq htq] at hx
  obtain ⟨i, hi, rfl⟩ := List.mem_iff_getElem.mp hx
  have hpos := tenantWeight_pos quotas tq.tenant
  rw [List.length_take] at hi
  rw [roundOf, placeOf, htenant, List.getElem_take, List.getElem_drop,
    (nodup_ownQueue hnd _).idxOf_getElem, Nat.mul_comm, Nat.mul_add_div (by omega),
    Nat.div_eq_of_lt (by omega), Nat.add_zero]

/-- The turns of one round, in order. -/
theorem Left.pairwise_pass (hnd : l.Nodup) (h : Left quotas l r tqs) :
    (GpuFairness.pass tqs).1.Pairwise (Before quotas l) := by
  rw [pass_eq h.weight_pos]
  refine List.pairwise_flatMap.mpr ⟨fun tq htq => ?_, ?_⟩
  · -- within a turn the rounds and the tenant are the same: the places decide
    have hsub : (tq.items.take tq.weight.toNat).Sublist (ownQueue l tq.tenant) := by
      refine (List.take_sublist _ _).trans ?_
      rw [h.items tq htq]
      exact List.drop_sublist _ _
    refine ((pairwise_idxOf (nodup_ownQueue hnd _)).sublist hsub).imp_of_mem
      (fun {x y} hx hy hxy => ?_)
    have hxt := (h.mem_items hnd htq (List.mem_of_mem_take hx)).1
    have hyt := (h.mem_items hnd htq (List.mem_of_mem_take hy)).1
    refine Or.inr ⟨?_, Or.inr ⟨by rw [hxt, hyt], ?_⟩⟩
    · rw [h.roundOf_take hnd htq hx, h.roundOf_take hnd htq hy]
    · rw [placeOf, placeOf, hxt, hyt]
      exact hxy
  · refine h.ranks.imp_of_mem (fun {a b} ha hb hab x hx y hy => ?_)
    have hxt := (h.mem_items hnd ha (List.mem_of_mem_take hx)).1
    have hyt := (h.mem_items hnd hb (List.mem_of_mem_take hy)).1
    refine Or.inr ⟨?_, Or.inl (by rw [hxt, hyt]; exact hab)⟩
    rw [h.roundOf_take hnd ha hx, h.roundOf_take hnd hb hy]

theorem Left.roundOf_pass (hnd : l.Nodup) (h : Left quotas l r tqs) :
    ∀ x ∈ (GpuFairness.pass tqs).1, roundOf quotas l x = r := by
  intro x hx
  rw [pass_eq h.weight_pos] at hx
  obtain ⟨tq, htq, hx⟩ := List.mem_flatMap.mp hx
  exact h.roundOf_take hnd htq hx

/-! ## All rounds -/

/-- The rounds from some round on: every workload in its turn, none of an earlier round. -/
theorem Left.pairwise_rounds (hnd : l.Nodup) (h : Left quotas l r tqs) (fuel remaining : Nat) :
    (rounds fuel remaining tqs).Pairwise (Before quotas l)
      ∧ ∀ x ∈ rounds fuel remaining tqs, r ≤ roundOf quotas l x := by
  induction fuel generalizing r remaining tqs with
  | zero => exact ⟨List.Pairwise.nil, fun x hx => by cases hx⟩
  | succ fuel ih =>
      rw [rounds]
      split_ifs
      · exact ⟨List.Pairwise.nil, fun x hx => by cases hx⟩
      · exact ⟨List.Pairwise.nil, fun x hx => by cases hx⟩
      · obtain ⟨hlater, hround⟩ := ih h.pass (remaining - (GpuFairness.pass tqs).1.length)
        have hnow := h.roundOf_pass hnd
        refine ⟨List.pairwise_append.mpr ⟨h.pairwise_pass hnd, hlater, ?_⟩, ?_⟩
        · intro x hx y hy
          have := hnow x hx
          have := hround y hy
          exact Or.inl (by omega)
        · intro x hx
          rcases List.mem_append.mp hx with hx | hx
          · exact le_of_eq (hnow x hx).symm
          · have := hround x hx
            omega

end

/-- **EVERYONE IN TURN**: round-robin outputs the workloads in the order of their turns. -/
theorem wrr_pairwise (quotas : GoMap String TenantQuota) {l : List QueuedWorkload}
    (hnd : l.Nodup) :
    (weightedRoundRobinByTenant l quotas).Pairwise (Before quotas l) :=
  ((left_tenantsInOrder quotas l).pairwise_rounds hnd _ _).1

/-- Round-robin leaves a list alone exactly when it is in turn. -/
theorem wrr_eq_self_iff (quotas : GoMap String TenantQuota) {l : List QueuedWorkload}
    (hnd : l.Nodup) : weightedRoundRobinByTenant l quotas = l ↔ InTurn quotas l := by
  rw [inTurn_iff hnd]
  have hwrr := wrr_pairwise quotas hnd
  constructor
  · intro h
    rw [h] at hwrr
    exact hwrr
  · intro h
    refine (weightedRoundRobinByTenant_perm l quotas).eq_of_pairwise ?_ hwrr h
    intro x y _ _ hxy hyx
    exact absurd hyx hxy.asymm

/-- The first workload of the list has the first turn. -/
theorem head_wrr (quotas : GoMap String TenantQuota) {x : QueuedWorkload}
    {l : List QueuedWorkload} (hnd : (x :: l).Nodup) :
    ∃ rest, weightedRoundRobinByTenant (x :: l) quotas = x :: rest := by
  have hperm := weightedRoundRobinByTenant_perm (x :: l) quotas
  have hwrr := wrr_pairwise quotas hnd
  cases hout : weightedRoundRobinByTenant (x :: l) quotas with
  | nil =>
      rw [hout] at hperm
      cases hperm.nil_eq
  | cons y rest =>
      rw [hout] at hperm hwrr
      by_cases hyx : y = x
      · exact ⟨rest, by rw [hyx]⟩
      · -- anything before `x` would have a turn before the first
        have hx : x ∈ rest := by
          rcases List.mem_cons.mp (hperm.mem_iff.mpr (List.mem_cons_self ..)) with h | h
          · exact absurd h.symm hyx
          · exact h
        have hbefore := (List.pairwise_cons.mp hwrr).1 x hx
        have hplace : placeOf (x :: l) x = 0 := by
          rw [placeOf, ownQueue, List.filter_cons_of_pos (by simp), List.idxOf_cons_self]
        have hround : roundOf quotas (x :: l) x = 0 := by
          rw [roundOf, hplace, Nat.zero_div]
        have hrank : rankOf (x :: l) x.tenant = 0 := by
          rw [rankOf, List.map_cons, List.idxOf_cons_self]
        rw [Before] at hbefore
        omega

end GpuRoundRobin
