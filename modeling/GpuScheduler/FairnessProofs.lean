import GpuScheduler.GoSortProofs
import GpuScheduler.InputsProofs

/-! # The admission order and the tenant cap

    `OrderQueued` sorts the queue by priority and arrival, `WeightedRoundRobinByTenant`
    interleaves the sorted queue by tenant, and `ExceedsTenantGPUCap` compares a
    tenant's committed GPUs with its cap.  The order is a rearrangement of the
    queue (`fairOrder_perm`): nothing is lost, nothing is invented. -/

namespace GpuFairness

open GoMaps GoSort GpuInputs

/-- The comparison of `OrderQueued`: priority descending, then `QueuedAt` ascending. -/
def queuedLess (a b : QueuedWorkload) : Bool :=
  if a.priority ≠ b.priority then decide (b.priority < a.priority)
  else if a.queuedAt ≠ b.queuedAt then decide (a.queuedAt < b.queuedAt)
  else false

/-- `OrderQueued`. -/
def orderQueued (workloads : List QueuedWorkload) : List QueuedWorkload :=
  sliceStable queuedLess workloads

theorem queuedLess_strictWeak : StrictWeak queuedLess := by
  refine ⟨fun a b => ?_, fun a b c => ?_⟩
  · simp only [queuedLess]
    split_ifs <;> simp <;> omega
  · simp only [queuedLess]
    split_ifs <;> simp <;> omega

/-! ## Weighted round-robin -/

/-- `tenantQueue`. -/
structure TenantQueue where
  tenant : String
  items : List QueuedWorkload
  weight : Int
  deriving DecidableEq, Repr

/-- The weight of a tenant: the quota's when it is positive, else 1. -/
def tenantWeight (quotas : GoMap String TenantQuota) (tenant : String) : Int :=
  match quotas.lookup tenant with
  | some quota => if 0 < quota.weight then quota.weight else 1
  | none => 1

/-- One turn of the grouping loop: append to the tenant's queue, or open a new one. -/
def enqueue (quotas : GoMap String TenantQuota) (tqs : List TenantQueue)
    (w : QueuedWorkload) : List TenantQueue :=
  if tqs.any (fun tq => tq.tenant = w.tenant) then
    tqs.map (fun tq => if tq.tenant = w.tenant then { tq with items := tq.items ++ [w] } else tq)
  else tqs ++ [⟨w.tenant, [w], tenantWeight quotas w.tenant⟩]

/-- The grouping loop: `tenantsInOrder`. -/
def tenantsInOrder (quotas : GoMap String TenantQuota) (queued : List QueuedWorkload) :
    List TenantQueue :=
  queued.foldl (enqueue quotas) []

/-- How many items a tenant's turn takes. -/
def TenantQueue.take (tq : TenantQueue) : Nat :=
  let take := if tq.weight ≤ 0 then 1 else tq.weight
  if (tq.items.length : Int) < take then tq.items.length else take.toNat

/-- One pass over the tenants: the items taken, and the queues left. -/
def pass : List TenantQueue → List QueuedWorkload × List TenantQueue
  | [] => ([], [])
  | tq :: rest =>
      if tq.items = [] then ((pass rest).1, tq :: (pass rest).2)
      else (tq.items.take tq.take ++ (pass rest).1,
        { tq with items := tq.items.drop tq.take } :: (pass rest).2)

/-- The loop `for remaining > 0`; a pass makes progress when it takes something. -/
def rounds : Nat → Nat → List TenantQueue → List QueuedWorkload
  | 0, _, _ => []
  | fuel + 1, remaining, tqs =>
      if remaining = 0 then []
      else if (pass tqs).1 = [] then []
      else (pass tqs).1 ++ rounds fuel (remaining - (pass tqs).1.length) (pass tqs).2

/-- `WeightedRoundRobinByTenant`.  Every pass that goes on takes at least one item, so
    the queue length bounds the passes. -/
def weightedRoundRobinByTenant (queued : List QueuedWorkload)
    (quotas : GoMap String TenantQuota) : List QueuedWorkload :=
  rounds queued.length queued.length (tenantsInOrder quotas queued)

/-- All items of the tenant queues. -/
def pending (tqs : List TenantQueue) : List QueuedWorkload :=
  tqs.flatMap TenantQueue.items

private theorem pending_cons (tq : TenantQueue) (tqs : List TenantQueue) :
    pending (tq :: tqs) = tq.items ++ pending tqs := rfl

private theorem enqueue_map_perm (w : QueuedWorkload) (tqs : List TenantQueue)
    (hnd : (tqs.map TenantQueue.tenant).Nodup)
    (hmem : ∃ tq ∈ tqs, tq.tenant = w.tenant) :
    (pending (tqs.map (fun tq => if tq.tenant = w.tenant
      then { tq with items := tq.items ++ [w] } else tq))).Perm (w :: pending tqs) := by
  induction tqs with
  | nil => obtain ⟨tq, htq, -⟩ := hmem; cases htq
  | cons tq tqs ih =>
      obtain ⟨hnot, hnd'⟩ := List.nodup_cons.mp hnd
      rw [List.map_cons, pending_cons, pending_cons]
      by_cases ht : tq.tenant = w.tenant
      · -- the other queues belong to other tenants and stay as they are
        have hrest : tqs.map (fun tq => if tq.tenant = w.tenant
            then { tq with items := tq.items ++ [w] } else tq) = tqs := by
          refine (List.map_congr_left ?_).trans (List.map_id tqs)
          intro x hx
          have hne : x.tenant ≠ w.tenant := by
            intro hxw
            exact hnot (List.mem_map.mpr ⟨x, hx, hxw.trans ht.symm⟩)
          exact if_neg hne
        rw [hrest, if_pos ht]
        show (tq.items ++ [w] ++ pending tqs).Perm (w :: (tq.items ++ pending tqs))
        rw [List.append_assoc]
        exact List.perm_middle
      · rw [if_neg ht]
        have hmem' : ∃ x ∈ tqs, x.tenant = w.tenant := by
          obtain ⟨x, hx, hxw⟩ := hmem
          rcases List.mem_cons.mp hx with rfl | hx
          · exact absurd hxw ht
          · exact ⟨x, hx, hxw⟩
        exact ((ih hnd' hmem').append_left tq.items).trans List.perm_middle

/-- The tenants of the queues, after one turn of the grouping loop. -/
private theorem enqueue_tenants (quotas : GoMap String TenantQuota) (tqs : List TenantQueue)
    (w : QueuedWorkload) (hnd : (tqs.map TenantQueue.tenant).Nodup) :
    ((enqueue quotas tqs w).map TenantQueue.tenant).Nodup := by
  rw [enqueue]
  by_cases hany : tqs.any (fun tq => tq.tenant = w.tenant) = true
  · rw [if_pos hany, List.map_map]
    have hsame : tqs.map (TenantQueue.tenant ∘ fun tq => if tq.tenant = w.tenant
        then { tq with items := tq.items ++ [w] } else tq) = tqs.map TenantQueue.tenant := by
      refine List.map_congr_left ?_
      intro tq _
      show (if tq.tenant = w.tenant then { tq with items := tq.items ++ [w] } else tq).tenant
        = tq.tenant
      by_cases ht : tq.tenant = w.tenant
      · rw [if_pos ht]
      · rw [if_neg ht]
    rw [hsame]
    exact hnd
  · rw [if_neg hany, List.map_append]
    refine hnd.append (List.nodup_singleton _) ?_
    intro t ht ht'
    obtain ⟨tq, htq, rfl⟩ := List.mem_map.mp ht
    have hw : tq.tenant = w.tenant := by simpa using ht'
    exact hany (List.any_eq_true.mpr ⟨tq, htq, by simpa using hw⟩)

/-- One turn of the grouping loop adds exactly its workload. -/
private theorem enqueue_perm (quotas : GoMap String TenantQuota) (tqs : List TenantQueue)
    (w : QueuedWorkload) (hnd : (tqs.map TenantQueue.tenant).Nodup) :
    (pending (enqueue quotas tqs w)).Perm (w :: pending tqs) := by
  rw [enqueue]
  by_cases hany : tqs.any (fun tq => tq.tenant = w.tenant) = true
  · rw [if_pos hany]
    obtain ⟨tq, htq, ht⟩ := List.any_eq_true.mp hany
    exact enqueue_map_perm w tqs hnd ⟨tq, htq, by simpa using ht⟩
  · rw [if_neg hany]
    have happ : pending (tqs ++ [⟨w.tenant, [w], tenantWeight quotas w.tenant⟩])
        = pending tqs ++ [w] := by
      simp [pending]
    rw [happ]
    exact List.perm_append_singleton w (pending tqs)

private theorem foldl_enqueue_perm (quotas : GoMap String TenantQuota)
    (queued : List QueuedWorkload) (tqs : List TenantQueue)
    (hnd : (tqs.map TenantQueue.tenant).Nodup) :
    (pending (queued.foldl (enqueue quotas) tqs)).Perm (pending tqs ++ queued) := by
  induction queued generalizing tqs with
  | nil => rw [List.append_nil]; exact List.Perm.refl _
  | cons w queued ih =>
      rw [List.foldl_cons]
      refine (ih _ (enqueue_tenants quotas tqs w hnd)).trans ?_
      exact ((enqueue_perm quotas tqs w hnd).append_right queued).trans
        List.perm_middle.symm

/-- Grouping by tenant loses nothing. -/
theorem tenantsInOrder_perm (quotas : GoMap String TenantQuota)
    (queued : List QueuedWorkload) :
    (pending (tenantsInOrder quotas queued)).Perm queued :=
  foldl_enqueue_perm quotas queued [] List.nodup_nil

/-- A pass splits the items into those taken and those left. -/
theorem pass_perm (tqs : List TenantQueue) :
    ((pass tqs).1 ++ pending (pass tqs).2).Perm (pending tqs) := by
  induction tqs with
  | nil => exact List.Perm.refl _
  | cons tq tqs ih =>
      rw [pass]
      by_cases he : tq.items = []
      · rw [if_pos he, pending_cons, pending_cons, he]
        exact ih
      · rw [if_neg he, pending_cons]
        show (tq.items.take tq.take ++ (pass tqs).1
          ++ (tq.items.drop tq.take ++ pending (pass tqs).2)).Perm (tq.items ++ pending tqs)
        have hmid : (tq.items.take tq.take ++ (pass tqs).1
            ++ (tq.items.drop tq.take ++ pending (pass tqs).2)).Perm
            (tq.items.take tq.take ++ (tq.items.drop tq.take
              ++ ((pass tqs).1 ++ pending (pass tqs).2))) := by
          rw [List.append_assoc]
          refine List.Perm.append_left _ ?_
          rw [← List.append_assoc, ← List.append_assoc]
          exact List.Perm.append_right _ List.perm_append_comm
        refine hmid.trans ?_
        rw [← List.append_assoc, List.take_append_drop]
        exact List.Perm.append_left _ ih

/-- A tenant with items takes at least one. -/
private theorem take_pos (tq : TenantQueue) (h : tq.items ≠ []) : 0 < tq.take := by
  have hlen : 0 < tq.items.length := List.length_pos_iff.mpr h
  rw [TenantQueue.take]
  split_ifs <;> omega

/-- A pass that takes nothing finds nothing to take. -/
theorem pass_eq_nil {tqs : List TenantQueue} (h : (pass tqs).1 = []) : pending tqs = [] := by
  induction tqs with
  | nil => rfl
  | cons tq tqs ih =>
      rw [pass] at h
      by_cases he : tq.items = []
      · rw [if_pos he] at h
        rw [pending_cons, he, ih h]
        rfl
      · rw [if_neg he] at h
        have htake : tq.items.take tq.take = [] := (List.append_eq_nil_iff.mp h).1
        rcases List.take_eq_nil_iff.mp htake with h0 | h0
        · exact absurd h0 (Nat.ne_of_gt (take_pos tq he))
        · exact absurd h0 he

/-- The rounds output every item once: with enough fuel they are a rearrangement. -/
theorem rounds_perm (fuel : Nat) (tqs : List TenantQueue)
    (hfuel : (pending tqs).length ≤ fuel) :
    (rounds fuel (pending tqs).length tqs).Perm (pending tqs) := by
  induction fuel generalizing tqs with
  | zero =>
      have hnil : pending tqs = [] := List.length_eq_zero_iff.mp (Nat.le_zero.mp hfuel)
      rw [hnil]
      exact List.Perm.refl _
  | succ fuel ih =>
      rw [rounds]
      by_cases h0 : (pending tqs).length = 0
      · rw [if_pos h0, List.length_eq_zero_iff.mp h0]
      · rw [if_neg h0]
        by_cases hp : (pass tqs).1 = []
        · exact absurd (List.length_eq_zero_iff.mpr (pass_eq_nil hp)) h0
        · rw [if_neg hp]
          have hperm := pass_perm tqs
          have hlen := hperm.length_eq
          rw [List.length_append] at hlen
          have hpos : 0 < (pass tqs).1.length := List.length_pos_iff.mpr hp
          -- what remains is what the pass left, so the fuel still covers it
          have hrem : (pending tqs).length - (pass tqs).1.length
              = (pending (pass tqs).2).length := by omega
          rw [hrem]
          exact ((ih (pass tqs).2 (by omega)).append_left _).trans hperm

/-- **NOTHING IS LOST**: round-robin rearranges its input. -/
theorem weightedRoundRobinByTenant_perm (queued : List QueuedWorkload)
    (quotas : GoMap String TenantQuota) :
    (weightedRoundRobinByTenant queued quotas).Perm queued := by
  have hperm := tenantsInOrder_perm quotas queued
  have h := rounds_perm queued.length (tenantsInOrder quotas queued) (by
    rw [hperm.length_eq])
  rw [hperm.length_eq] at h
  exact h.trans hperm

/-- The order in which `SelectOneForAdmission` visits the queue. -/
def fairOrder (queued : List QueuedWorkload) (quotas : GoMap String TenantQuota) :
    List QueuedWorkload :=
  weightedRoundRobinByTenant (orderQueued queued) quotas

theorem fairOrder_perm (queued : List QueuedWorkload) (quotas : GoMap String TenantQuota) :
    (fairOrder queued quotas).Perm queued :=
  (weightedRoundRobinByTenant_perm _ quotas).trans (sliceStable_perm queuedLess queued)

@[simp] theorem mem_fairOrder {queued : List QueuedWorkload}
    {quotas : GoMap String TenantQuota} {w : QueuedWorkload} :
    w ∈ fairOrder queued quotas ↔ w ∈ queued :=
  (fairOrder_perm queued quotas).mem_iff

/-! ## The tenant cap -/

/-- `TenantGPUsUsed`; `norm` says what is kept of a sum. -/
def tenantGPUsUsedWith (norm : Int → Int) (running : List RunningWorkload) : GoMap String Int :=
  running.foldl (fun m r => m.insert r.tenant (norm (counter m r.tenant + r.gpuCount))) ∅

/-- `TenantGPUsUsed`, with exact sums. -/
def tenantGPUsUsed : List RunningWorkload → GoMap String Int := tenantGPUsUsedWith id

/-- `ExceedsTenantGPUCap`. -/
def exceedsTenantGPUCapWith (norm : Int → Int) (queued : QueuedWorkload)
    (runningUsage : GoMap String Int) (quotas : GoMap String TenantQuota) : Bool :=
  match quotas.lookup queued.tenant with
  | none => false
  | some q =>
      if q.maxGPUs = 0 then false
      else decide (q.maxGPUs < norm (counter runningUsage queued.tenant + queued.gpuCount))

/-- `ExceedsTenantGPUCap`, with an exact sum. -/
def exceedsTenantGPUCap : QueuedWorkload → GoMap String Int → GoMap String TenantQuota → Bool :=
  exceedsTenantGPUCapWith id

/-- The GPUs a tenant holds in a list of workloads. -/
def tenantGPUs (tenant : String) (ws : List RunningWorkload) : Int :=
  sumOf RunningWorkload.tenant RunningWorkload.gpuCount tenant ws

theorem counter_tenantGPUsUsed (tenant : String) (ws : List RunningWorkload) :
    counter (tenantGPUsUsed ws) tenant = tenantGPUs tenant ws :=
  counter_tally RunningWorkload.tenant RunningWorkload.gpuCount tenant ws

/-- A workload that passes the cap check keeps its tenant within a positive cap. -/
theorem le_maxGPUs_of_not_exceeds {w : QueuedWorkload} {ws : List RunningWorkload}
    {quotas : GoMap String TenantQuota} {q : TenantQuota}
    (h : exceedsTenantGPUCap w (tenantGPUsUsed ws) quotas = false)
    (hq : quotas.lookup w.tenant = some q) (hpos : 0 < q.maxGPUs) :
    tenantGPUs w.tenant ws + w.gpuCount ≤ q.maxGPUs := by
  rw [exceedsTenantGPUCap, exceedsTenantGPUCapWith, hq] at h
  simp only [id_eq] at h
  rw [if_neg (by omega), counter_tenantGPUsUsed] at h
  exact not_lt.mp (of_decide_eq_false h)

/-- The cap check, given the GPUs the tenant already uses. -/
def overCap (w : QueuedWorkload) (used : Int) (quotas : GoMap String TenantQuota) : Bool :=
  match quotas.lookup w.tenant with
  | none => false
  | some q => if q.maxGPUs = 0 then false else decide (q.maxGPUs < used + w.gpuCount)

theorem exceedsTenantGPUCap_eq (w : QueuedWorkload) (ws : List RunningWorkload)
    (quotas : GoMap String TenantQuota) :
    exceedsTenantGPUCap w (tenantGPUsUsed ws) quotas
      = overCap w (tenantGPUs w.tenant ws) quotas := by
  rw [exceedsTenantGPUCap, exceedsTenantGPUCapWith, overCap, counter_tenantGPUsUsed]
  rfl

/-- Less usage does not exceed the cap. -/
theorem overCap_mono {w : QueuedWorkload} {used used' : Int}
    {quotas : GoMap String TenantQuota} (h : overCap w used quotas = false)
    (hle : used' ≤ used) : overCap w used' quotas = false := by
  rw [overCap] at h ⊢
  cases hq : quotas.lookup w.tenant with
  | none => rfl
  | some q =>
      rw [hq] at h
      simp only at h ⊢
      by_cases h0 : q.maxGPUs = 0
      · rw [if_pos h0]
      · rw [if_neg h0] at h ⊢
        have := of_decide_eq_false h
        exact decide_eq_false (by omega)

/-- A tenant with room under its cap does not exceed it. -/
theorem overCap_eq_false {w : QueuedWorkload} {used : Int} {quotas : GoMap String TenantQuota}
    (h : ∀ q, quotas.lookup w.tenant = some q →
      0 ≤ q.maxGPUs ∧ (0 < q.maxGPUs → used + w.gpuCount ≤ q.maxGPUs)) :
    overCap w used quotas = false := by
  rw [overCap]
  cases hq : quotas.lookup w.tenant with
  | none => rfl
  | some q =>
      obtain ⟨hnonneg, hroom⟩ := h q hq
      simp only
      by_cases h0 : q.maxGPUs = 0
      · rw [if_pos h0]
      · rw [if_neg h0]
        have := hroom (by omega)
        exact decide_eq_false (by omega)

end GpuFairness
