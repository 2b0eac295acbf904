import GpuScheduler.RoundRobinProofs

/-! # A closed form of weighted round-robin

    For lists in which a workload may occur twice, turns belong to positions.  The place
    of a position counts the earlier positions of the same tenant, and the turn is the
    round, the tenant's rank and the place, compared in this order.

    `wrr_closed_form` proves that the loops of `WeightedRoundRobinByTenant` sort the
    positions of their input by turn, whatever the bound on the number of rounds, as soon
    as it is at least the number of workloads. -/

namespace GpuClosedForm

open GoMaps GpuInputs GpuFairness GpuRoundRobin

/-! ## The turn of a position -/

/-- The positions of a tenant's workloads, in the order of the list. -/
def ownPositions (l : List QueuedWorkload) (tenant : String) : List (Fin l.length) :=
  (List.finRange l.length).filter (fun i => (l.get i).tenant = tenant)

/-- The place of a position among those of its tenant, from 0. -/
def placeAt (l : List QueuedWorkload) (i : Fin l.length) : Nat :=
  (ownPositions l (l.get i).tenant).idxOf i

/-- The round in which a position has its turn. -/
def roundAt (quotas : GoMap String TenantQuota) (l : List QueuedWorkload)
    (i : Fin l.length) : Nat :=
  placeAt l i / (tenantWeight quotas (l.get i).tenant).toNat

/-- Round, rank of the tenant, place: compared lexicographically. -/
def turn (quotas : GoMap String TenantQuota) (l : List QueuedWorkload)
    (i : Fin l.length) : Nat ×ₗ Nat ×ₗ Nat :=
  toLex (roundAt quotas l i, toLex (rankOf l (l.get i).tenant, placeAt l i))

/-- The positions by increasing turn. -/
def byTurn (quotas : GoMap String TenantQuota) (l : List QueuedWorkload) :
    List (Fin l.length) :=
  (List.finRange l.length).mergeSort (fun i j => turn quotas l i ≤ turn quotas l j)

section
variable {quotas : GoMap String TenantQuota} {l : List QueuedWorkload}

theorem turn_lt_iff {i j : Fin l.length} :
    turn quotas l i < turn quotas l j
      ↔ roundAt quotas l i < roundAt quotas l j
        ∨ (roundAt quotas l i = roundAt quotas l j
          ∧ (rankOf l (l.get i).tenant < rankOf l (l.get j).tenant
            ∨ (rankOf l (l.get i).tenant = rankOf l (l.get j).tenant
              ∧ placeAt l i < placeAt l j))) := by
  rw [turn, turn, Prod.Lex.toLex_lt_toLex, Prod.Lex.toLex_lt_toLex]

theorem mem_ownPositions {tenant : String} {i : Fin l.length} :
    i ∈ ownPositions l tenant ↔ (l.get i).tenant = tenant := by
  rw [ownPositions, List.mem_filter, decide_eq_true_iff]
  exact and_iff_right (List.mem_finRange i)

theorem nodup_ownPositions (tenant : String) : (ownPositions l tenant).Nodup :=
  (List.nodup_finRange _).filter _

/-- The workloads at a tenant's positions are the tenant's queue. -/
theorem map_ownPositions (l : List QueuedWorkload) (tenant : String) :
    (ownPositions l tenant).map l.get = ownQueue l tenant := by
  have h := List.filter_map (f := l.get) (p := fun q => decide (q.tenant = tenant))
    (l := List.finRange l.length)
  rw [List.map_get_finRange] at h
  exact h.symm

/-- The places of a tenant's positions count up from 0. -/
theorem placeAt_getElem {tenant : String} {k : Nat}
    (hk : k < (ownPositions l tenant).length) :
    placeAt l ((ownPositions l tenant).get ⟨k, hk⟩) = k := by
  have htenant := mem_ownPositions.mp (List.get_mem (ownPositions l tenant) ⟨k, hk⟩)
  rw [placeAt, htenant]
  exact (nodup_ownPositions tenant).idxOf_getElem k hk

/-- A tenant's positions, by place. -/
theorem pairwise_placeAt (tenant : String) :
    (ownPositions l tenant).Pairwise (fun i j => placeAt l i < placeAt l j) := by
  rw [List.pairwise_iff_getElem]
  intro i j hi hj hij
  have hplace := @placeAt_getElem l tenant i hi
  have hplace' := @placeAt_getElem l tenant j hj
  simp only [List.get_eq_getElem] at hplace hplace'
  rw [hplace, hplace']
  exact hij

/-- Positions of one tenant have their turns by place. -/
theorem turn_lt_iff_of_tenant {i j : Fin l.length}
    (h : (l.get i).tenant = (l.get j).tenant) :
    turn quotas l i < turn quotas l j ↔ placeAt l i < placeAt l j := by
  have hmono : placeAt l i ≤ placeAt l j → roundAt quotas l i ≤ roundAt quotas l j := by
    intro hle
    rw [roundAt, roundAt, h]
    exact Nat.div_le_div_right hle
  have hmono' : placeAt l j ≤ placeAt l i → roundAt quotas l j ≤ roundAt quotas l i := by
    intro hle
    rw [roundAt, roundAt, h]
    exact Nat.div_le_div_right hle
  rw [turn_lt_iff, h]
  omega

end

/-! ## The rounds, spelled out -/

/-- The positions a tenant's turn takes in a round. -/
def turnOf (quotas : GoMap String TenantQuota) (l : List QueuedWorkload) (r : Nat)
    (tenant : String) : List (Fin l.length) :=
  ((ownPositions l tenant).drop (r * (tenantWeight quotas tenant).toNat)).take
    (tenantWeight quotas tenant).toNat

/-- The positions some tenants take in a number of rounds. -/
def spelled (quotas : GoMap String TenantQuota) (l : List QueuedWorkload)
    (tenants : List String) (r fuel : Nat) : List (Fin l.length) :=
  (List.range' r fuel).flatMap (fun r => tenants.flatMap (turnOf quotas l r))

section
variable {quotas : GoMap String TenantQuota} {l : List QueuedWorkload} {r : Nat}
  {tqs : List TenantQueue}

theorem spelled_succ (tenants : List String) (fuel : Nat) :
    spelled quotas l tenants r (fuel + 1)
      = tenants.flatMap (turnOf quotas l r) ++ spelled quotas l tenants (r + 1) fuel := by
  rw [spelled, List.range'_succ, List.flatMap_cons, spelled]

/-- A turn takes positions of its tenant that have this round. -/
theorem mem_turnOf {tenant : String} {i : Fin l.length} (h : i ∈ turnOf quotas l r tenant) :
    (l.get i).tenant = tenant ∧ roundAt quotas l i = r := by
  have htenant : (l.get i).tenant = tenant :=
    mem_ownPositions.mp (List.mem_of_mem_drop (List.mem_of_mem_take h))
  refine ⟨htenant, ?_⟩
  have hpos := tenantWeight_pos quotas tenant
  obtain ⟨k, hk, hget⟩ := List.mem_iff_getElem.mp h
  rw [turnOf, List.length_take, List.length_drop] at hk
  -- the k-th of the turn has the place r * w + k, and k < w
  have hplace : placeAt l i = r * (tenantWeight quotas tenant).toNat + k := by
    rw [← hget, ← @placeAt_getElem l tenant (r * (tenantWeight quotas tenant).toNat + k)
      (by omega)]
    simp only [turnOf, List.getElem_take, List.getElem_drop, List.get_eq_getElem]
  rw [roundAt, hplace, htenant, Nat.mul_comm, Nat.mul_add_div (by omega),
    Nat.div_eq_of_lt (by omega), Nat.add_zero]

/-- What is spelled out goes by turn, when the tenants go by rank. -/
theorem pairwise_spelled {tenants : List String}
    (hranks : tenants.Pairwise (fun a b => rankOf l a < rankOf l b)) (fuel : Nat) :
    (spelled quotas l tenants r fuel).Pairwise
      (fun i j => turn quotas l i < turn quotas l j) := by
  refine List.pairwise_flatMap.mpr ⟨fun r _ => List.pairwise_flatMap.mpr ⟨fun t _ => ?_, ?_⟩, ?_⟩
  · -- within a turn
    have hsub : (turnOf quotas l r t).Sublist (ownPositions l t) :=
      (List.take_sublist _ _).trans (List.drop_sublist _ _)
    refine ((pairwise_placeAt t).sublist hsub).imp_of_mem (fun {i j} hi hj hij => ?_)
    rw [turn_lt_iff_of_tenant ((mem_turnOf hi).1.trans (mem_turnOf hj).1.symm)]
    exact hij
  · -- between the turns of one round
    refine hranks.imp (fun {a b} hab i hi j hj => ?_)
    obtain ⟨hit, hir⟩ := mem_turnOf hi
    obtain ⟨hjt, hjr⟩ := mem_turnOf hj
    rw [turn_lt_iff, hir, hjr, hit, hjt]
    exact Or.inr ⟨rfl, Or.inl hab⟩
  · -- between rounds
    refine (List.pairwise_lt_range' 1).imp (fun {a b} hab i hi j hj => ?_)
    obtain ⟨t, -, hi⟩ := List.mem_flatMap.mp hi
    obtain ⟨t', -, hj⟩ := List.mem_flatMap.mp hj
    rw [turn_lt_iff, (mem_turnOf hi).2, (mem_turnOf hj).2]
    exact Or.inl hab

/-- A round of the loop is one turn of every tenant. -/
theorem Left.pass_fst (h : Left quotas l r tqs) :
    (pass tqs).1
      = ((tqs.map TenantQueue.tenant).flatMap (turnOf quotas l r)).map l.get := by
  rw [pass_eq h.weight_pos, List.map_flatMap, List.flatMap_map]
  refine List.flatMap_congr (fun tq htq => ?_)
  rw [turnOf, List.map_take, List.map_drop, map_ownPositions, h.items tq htq, h.weight tq htq]

/-- The queues keep their tenants. -/
theorem Left.pass_tenants (h : Left quotas l r tqs) :
    (pass tqs).2.map TenantQueue.tenant = tqs.map TenantQueue.tenant := by
  rw [pass_eq h.weight_pos, List.map_map]
  rfl

/-- Empty queues have empty turns from now on. -/
theorem Left.spelled_nil (h : Left quotas l r tqs) (hnil : pending tqs = []) (fuel : Nat) :
    spelled quotas l (tqs.map TenantQueue.tenant) r fuel = [] := by
  refine List.flatMap_eq_nil_iff.mpr (fun r' hr' => List.flatMap_eq_nil_iff.mpr ?_)
  intro t ht
  obtain ⟨tq, htq, rfl⟩ := List.mem_map.mp ht
  have hitems : tq.items = [] := List.flatMap_eq_nil_iff.mp hnil tq htq
  rw [h.items tq htq, List.drop_eq_nil_iff, ← map_ownPositions, List.length_map] at hitems
  have hle : r ≤ r' := (List.mem_range'_1.mp hr').1
  rw [turnOf, List.drop_eq_nil_of_le (hitems.trans (Nat.mul_le_mul_right _ hle)),
    List.take_nil]

/-- The loop is spelled out by enough rounds. -/
theorem Left.rounds_eq (h : Left quotas l r tqs) {fuel : Nat}
    (hfuel : (pending tqs).length ≤ fuel) :
    rounds fuel (pending tqs).length tqs
      = (spelled quotas l (tqs.map TenantQueue.tenant) r fuel).map l.get := by
  induction fuel generalizing r tqs with
  | zero => rfl
  | succ fuel ih =>
      rw [rounds]
      by_cases h0 : (pending tqs).length = 0
      · rw [if_pos h0, Left.spelled_nil h (List.length_eq_zero_iff.mp h0), List.map_nil]
      · rw [if_neg h0]
        by_cases hp : (pass tqs).1 = []
        · -- a round without progress: the queues are empty
          exact absurd (List.length_eq_zero_iff.mpr (pass_eq_nil hp)) h0
        · rw [if_neg hp, spelled_succ, List.map_append, ← Left.pass_fst h]
          have hlen := (pass_perm tqs).length_eq
          rw [List.length_append] at hlen
          have hpos : 0 < (pass tqs).1.length := List.length_pos_iff.mpr hp
          have hrem : (pending tqs).length - (pass tqs).1.length
              = (pending (pass tqs).2).length := by omega
          rw [hrem, ih h.pass (by omega), Left.pass_tenants h]

end

/-! ## The closed form -/

section
variable {quotas : GoMap String TenantQuota} {l : List QueuedWorkload}

/-- Different positions have different turns. -/
theorem turn_injective : Function.Injective (turn quotas l) := by
  intro i j hij
  -- rank and place decide already
  have hinner := congrArg (fun t => ofLex (ofLex t).2) hij
  obtain ⟨hrank, hplace⟩ := Prod.mk.inj hinner
  have htenant : (l.get i).tenant = (l.get j).tenant :=
    (List.idxOf_inj (List.mem_map_of_mem (List.get_mem l i))).mp hrank
  rw [placeAt, placeAt, htenant] at hplace
  exact (List.idxOf_inj (mem_ownPositions.mpr htenant)).mp hplace

theorem byTurn_perm (quotas : GoMap String TenantQuota) (l : List QueuedWorkload) :
    (byTurn quotas l).Perm (List.finRange l.length) :=
  List.mergeSort_perm _ _

theorem pairwise_byTurn (quotas : GoMap String TenantQuota) (l : List QueuedWorkload) :
    (byTurn quotas l).Pairwise (fun i j => turn quotas l i ≤ turn quotas l j) := by
  have h : (byTurn quotas l).Pairwise
      (fun i j => decide (turn quotas l i ≤ turn quotas l j) = true) := by
    refine List.pairwise_mergeSort (fun i j k hij hjk => ?_) (fun i j => ?_) _
    · rw [decide_eq_true_iff] at hij hjk ⊢
      exact hij.trans hjk
    · rw [Bool.or_eq_true, decide_eq_true_iff, decide_eq_true_iff]
      exact le_total _ _
  exact h.imp of_decide_eq_true

/-- Sorting by turn is the only way to list all positions by increasing turn. -/
theorem eq_byTurn {order : List (Fin l.length)} (hperm : order.Perm (List.finRange l.length))
    (hsorted : order.Pairwise (fun i j => turn quotas l i < turn quotas l j)) :
    order = byTurn quotas l := by
  refine List.Perm.eq_of_pairwise (fun i j _ _ hij hji => ?_) (hsorted.imp le_of_lt)
    (pairwise_byTurn quotas l) (hperm.trans (byTurn_perm quotas l).symm)
  exact turn_injective (le_antisymm hij hji)

/-- A list of all positions without repetitions. -/
theorem perm_finRange {n : Nat} {order : List (Fin n)} (hnd : order.Nodup)
    (hlen : order.length = n) : order.Perm (List.finRange n) := by
  refine (List.subperm_of_subset hnd (fun i _ => List.mem_finRange i)).perm_of_length_le ?_
  rw [List.length_finRange, hlen]

/-- The loop bounded by enough rounds sorts the positions by turn. -/
theorem rounds_eq_byTurn {fuel : Nat} (hfuel : l.length ≤ fuel) :
    rounds fuel l.length (tenantsInOrder quotas l) = (byTurn quotas l).map l.get := by
  have hleft := left_tenantsInOrder quotas l
  have hpending := tenantsInOrder_perm quotas l
  have hrounds := Left.rounds_eq hleft (hpending.length_eq.trans_le hfuel)
  have hperm := rounds_perm fuel _ (hpending.length_eq.trans_le hfuel)
  rw [hpending.length_eq] at hrounds hperm
  have hlen := (hperm.trans hpending).length_eq
  rw [hrounds, List.length_map] at hlen
  -- increasing turns do not repeat, and there are as many as positions
  have hsorted := @pairwise_spelled quotas l 0 _ (List.pairwise_map.mpr hleft.ranks) fuel
  have hnd := hsorted.imp (fun {i j} hij => (show i ≠ j from fun h => by
    rw [h] at hij
    exact lt_irrefl _ hij))
  rw [hrounds, eq_byTurn (perm_finRange hnd hlen) hsorted]

/-- The positions of one tenant keep their order. -/
theorem filter_byTurn (tenant : String) :
    (byTurn quotas l).filter (fun i => (l.get i).tenant = tenant) = ownPositions l tenant := by
  have hperm := (byTurn_perm quotas l).filter (fun i => decide ((l.get i).tenant = tenant))
  refine List.Perm.eq_of_pairwise (fun i j _ _ hij hji => ?_)
    ((pairwise_byTurn quotas l).filter _) ?_ hperm
  · exact turn_injective (le_antisymm hij hji)
  · refine (pairwise_placeAt tenant).imp_of_mem (fun {i j} hi hj hij => le_of_lt ?_)
    rw [turn_lt_iff_of_tenant ((mem_ownPositions.mp hi).trans (mem_ownPositions.mp hj).symm)]
    exact hij

end

/-- **THE CLOSED FORM**: round-robin sorts the positions of its input by round, rank and
    place, and more rounds than workloads would not change it; so nothing is lost or
    duplicated, and the workloads of one tenant keep their order. -/
theorem wrr_closed_form (queued : List QueuedWorkload) (quotas : GoMap String TenantQuota) :
    weightedRoundRobinByTenant queued quotas = (byTurn quotas queued).map queued.get
      ∧ (∀ fuel ≥ queued.length, rounds fuel queued.length (tenantsInOrder quotas queued)
        = weightedRoundRobinByTenant queued quotas)
      ∧ (weightedRoundRobinByTenant queued quotas).Perm queued
      ∧ ∀ tenant, ownQueue (weightedRoundRobinByTenant queued quotas) tenant
        = ownQueue queued tenant := by
  have hform : weightedRoundRobinByTenant queued quotas
      = (byTurn quotas queued).map queued.get := rounds_eq_byTurn (le_refl _)
  refine ⟨hform, fun fuel hfuel => ?_, weightedRoundRobinByTenant_perm queued quotas, ?_⟩
  · rw [hform]
    exact rounds_eq_byTurn hfuel
  · intro tenant
    rw [hform, ownQueue, List.filter_map, ← map_ownPositions, ← filter_byTurn]
    rfl

end GpuClosedForm
