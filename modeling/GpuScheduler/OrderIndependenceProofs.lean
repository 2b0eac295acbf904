import GpuScheduler.CRDProofs
import GpuScheduler.SelectionLawsProofs

/-! # The order of the maps does not matter

    The workloads of a snapshot come out of Go maps, so their lists arrive in any order.
    The selection sorts twice, by priority and queue time and by GPU count and start time,
    and adds up the rest.  Where the sort keys tell the workloads apart, its result is the
    same for every order (`selection_order_independent`).

    The candidates of a profile are the one list that keeps an order of its own: two of the
    same priority and start time stay as they arrived.  The band loop does not see it,
    because every pool it tries is sorted once more (`widen_perm`). -/

namespace GpuOrderIndependence

open GoMaps GoSort GpuInputs GpuFairness GpuCompat GpuPreemption GpuSelection GpuCRD
  GpuVictims GpuSelectionLaws

/-- Queued workloads differ in priority or queue time. -/
def QueuedApart (queued : List QueuedWorkload) : Prop :=
  queued.Pairwise (fun a b => (a.priority, a.queuedAt) ≠ (b.priority, b.queuedAt))

/-- Running workloads of equal profile and GPU count differ in start time. -/
def RunningApart (running : List RunningWorkload) : Prop :=
  running.Pairwise (fun a b =>
    a.profile = b.profile → a.gpuCount = b.gpuCount → a.startedAt ≠ b.startedAt)

/-! ## The sort keys -/

/-- Workloads that the queue order does not separate agree in its key. -/
theorem queuedLess_key {a b : QueuedWorkload} (hab : queuedLess a b = false)
    (hba : queuedLess b a = false) : (a.priority, a.queuedAt) = (b.priority, b.queuedAt) := by
  simp only [queuedLess] at hab hba
  rw [Prod.mk.injEq]
  split_ifs at hab hba <;> simp only [decide_eq_false_iff_not] at hab hba <;> omega

theorem QueuedApart.eq {queued : List QueuedWorkload} (h : QueuedApart queued)
    {a b : QueuedWorkload} (ha : a ∈ queued) (hb : b ∈ queued)
    (hab : queuedLess a b = false) (hba : queuedLess b a = false) : a = b := by
  have hsymm : Std.Symm (fun a b : QueuedWorkload =>
      (a.priority, a.queuedAt) ≠ (b.priority, b.queuedAt)) := ⟨fun _ _ h => h.symm⟩
  by_contra hne
  exact h.forall ha hb hne (queuedLess_key hab hba)

/-- Workloads that the victim order does not separate agree in its key. -/
theorem victimLess_key {a b : RunningWorkload} (hab : victimLess a b = false)
    (hba : victimLess b a = false) : a.gpuCount = b.gpuCount ∧ a.startedAt = b.startedAt := by
  simp only [victimLess] at hab hba
  split_ifs at hab hba <;> simp only [decide_eq_false_iff_not] at hab hba <;> omega

/-- The victim order tells the members of a pool apart. -/
def PoolApart (pool : List RunningWorkload) : Prop :=
  ∀ a ∈ pool, ∀ b ∈ pool, victimLess a b = false → victimLess b a = false → a = b

/-- The candidates of one profile are such a pool. -/
theorem RunningApart.candidates {running : List RunningWorkload} (h : RunningApart running)
    (profile : String) : PoolApart (candidatesOn profile running) := by
  have hsymm : Std.Symm (fun a b : RunningWorkload =>
      a.profile = b.profile → a.gpuCount = b.gpuCount → a.startedAt ≠ b.startedAt) :=
    ⟨fun _ _ h hp hg => (h hp.symm hg.symm).symm⟩
  intro a ha b hb hab hba
  obtain ⟨ha, hpa⟩ := mem_candidatesOn.mp ha
  obtain ⟨hb, hpb⟩ := mem_candidatesOn.mp hb
  obtain ⟨hcount, hstart⟩ := victimLess_key hab hba
  by_contra hne
  exact h.forall ha hb hne (hpa.trans hpb.symm) hcount hstart

/-! ## The victims -/

/-- The greedy pick does not see the order of its pool. -/
theorem greedyPick_perm {need : Int} {pool pool' : List RunningWorkload}
    (hperm : pool.Perm pool') (hapart : PoolApart pool) :
    greedyPickVictimsByGPUCount pool need = greedyPickVictimsByGPUCount pool' need := by
  have horder : victimOrder pool = victimOrder pool' :=
    sliceStable_eq_of_perm victimLess_strictWeak hperm hapart
  rw [greedyPickVictimsByGPUCount, greedyPickVictimsByGPUCountWith,
    greedyPickVictimsByGPUCountWith, horder]

section
variable {need : Int} {l l' : List RunningWorkload}

/-- Victims found in one order are found in every other. -/
theorem widen_some_perm (hsort : l.Pairwise (fun a b => a.priority ≤ b.priority))
    (hsort' : l'.Pairwise (fun a b => a.priority ≤ b.priority)) (hperm : l.Perm l')
    (hapart : PoolApart l) (hpos : ∀ r ∈ l, 0 ≤ r.gpuCount) {vs : List RunningWorkload}
    (h : widen need [] l = some vs) : widen need [] l' = some vs := by
  obtain ⟨c, hc, hpick, hbelow⟩ := widen_some hsort h
  -- the pool under a ceiling is the same up to order, so the pick from it is the same
  have hsame : ∀ p, greedyPickVictimsByGPUCount (upTo p l) need
      = greedyPickVictimsByGPUCount (upTo p l') need := by
    intro p
    refine greedyPick_perm (hperm.filter _) (fun a ha b hb => ?_)
    exact hapart a (List.mem_of_mem_filter ha) b (List.mem_of_mem_filter hb)
  cases hw : widen need [] l' with
  | none =>
      have hnone := widen_none l' [] (List.ne_nil_of_mem (hperm.mem_iff.mp hc)) hw
      rw [List.nil_append] at hnone
      obtain ⟨hneed, -⟩ := greedyPick_some hpick
      rw [greedyPick_none_iff (fun r hr => hpos r (hperm.mem_iff.mpr hr)) hneed,
        ← gpuSum_perm hperm] at hnone
      have hle : gpuSum (upTo c.priority l) ≤ gpuSum l :=
        gpuSum_le_of_subperm List.filter_sublist.subperm hpos
      have hshort : greedyPickVictimsByGPUCount (upTo c.priority l) need = none :=
        (greedyPick_none_iff (fun r hr => hpos r (List.mem_of_mem_filter hr)) hneed).mpr
          (lt_of_le_of_lt hle hnone)
      rw [hshort] at hpick
      cases hpick
  | some vs' =>
      obtain ⟨c', hc', hpick', hbelow'⟩ := widen_some hsort' hw
      -- each ceiling is the lowest for its own order, hence they are one
      have hceil : c.priority = c'.priority := by
        rcases lt_trichotomy c.priority c'.priority with hlt | heq | hlt
        · have hno := hbelow' c (hperm.mem_iff.mp hc) hlt
          rw [← hsame, hpick] at hno
          cases hno
        · exact heq
        · have hno := hbelow c' (hperm.mem_iff.mpr hc') hlt
          rw [hsame, hpick'] at hno
          cases hno
      rw [← hceil, ← hsame, hpick] at hpick'
      exact hpick'.symm

/-- The band loop does not see the order within the bands. -/
theorem widen_perm (hsort : l.Pairwise (fun a b => a.priority ≤ b.priority))
    (hsort' : l'.Pairwise (fun a b => a.priority ≤ b.priority)) (hperm : l.Perm l')
    (hapart : PoolApart l) (hpos : ∀ r ∈ l, 0 ≤ r.gpuCount) :
    widen need [] l = widen need [] l' := by
  have hapart' : PoolApart l' := fun a ha b hb =>
    hapart a (hperm.mem_iff.mpr ha) b (hperm.mem_iff.mpr hb)
  have hpos' : ∀ r ∈ l', 0 ≤ r.gpuCount := fun r hr => hpos r (hperm.mem_iff.mpr hr)
  refine Option.ext (fun vs => ⟨fun h => ?_, fun h => ?_⟩)
  · exact widen_some_perm hsort hsort' hperm hapart hpos h
  · exact widen_some_perm hsort' hsort hperm.symm hapart' hpos' h

end

/-! ## The two passes -/

section
variable {inputs inputs' : SchedulingInputs} {w : QueuedWorkload}

/-- The cap check adds up a tenant's GPUs, in any order. -/
theorem exceeds_reordered (h : Reordered inputs inputs') (w : QueuedWorkload) :
    exceedsTenantGPUCap w (SchedulingInputs.usage inputs') inputs'.tenantQuotas
      = exceedsTenantGPUCap w (SchedulingInputs.usage inputs) inputs.tenantQuotas := by
  rw [SchedulingInputs.usage, SchedulingInputs.usage, exceedsTenantGPUCap_eq,
    exceedsTenantGPUCap_eq, h.quotas, tenantGPUs, tenantGPUs,
    sumOf_perm _ _ _ (h.scheduled.append h.running)]

theorem fits_reordered (h : Reordered inputs inputs') :
    fitsWithoutPreemption inputs' = fitsWithoutPreemption inputs := by
  funext w
  rw [fitsWithoutPreemption, fitsWithoutPreemptionWith, fitsWithoutPreemptionWith,
    ← exceedsTenantGPUCap, usageWith_id, exceeds_reordered h, h.fleet]

theorem eligible_reordered (h : Reordered inputs inputs') {cap : ProfileFreeCapacity} :
    Eligible inputs' w cap ↔ Eligible inputs w cap := by
  constructor
  · rintro ⟨hcap, hcompat, hentry, hmem⟩
    rw [exceeds_reordered h] at hcap
    rw [h.fleet] at hcompat hentry
    exact ⟨hcap, hcompat, hentry, hmem⟩
  · rintro ⟨hcap, hcompat, hentry, hmem⟩
    rw [← exceeds_reordered h] at hcap
    rw [← h.fleet] at hcompat hentry
    exact ⟨hcap, hcompat, hentry, hmem⟩

/-- The second pass gives a workload the same victims, in the same order. -/
theorem admit_reordered (hv : Valid inputs) (h : Reordered inputs inputs')
    (hrunning : RunningApart inputs.runningWorkloads) (hw : w.fields.Ok) :
    admitWithPreemption inputs' w = admitWithPreemption inputs w := by
  have hcands : (candidatesOn w.profile inputs.runningWorkloads).Perm
      (candidatesOn w.profile inputs'.runningWorkloads) :=
    (sliceStable_perm _ _).trans
      ((h.running.symm.filter _).trans (sliceStable_perm _ _).symm)
  have hwiden : ∀ need, widen need [] (candidatesOn w.profile inputs.runningWorkloads)
      = widen need [] (candidatesOn w.profile inputs'.runningWorkloads) := by
    intro need
    refine widen_perm (candidatesOn_sorted _ _) (candidatesOn_sorted _ _) hcands
      (hrunning.candidates w.profile) (fun r hr => ?_)
    exact le_of_lt (hv.running r (mem_candidatesOn.mp hr).1).gpuCount
  refine Option.ext (fun r => ?_)
  rw [admitWithPreemption_iff hw, admitWithPreemption_iff hw]
  simp only [hwiden, eligible_reordered h]

/-- The fair order is that of the sorted queue. -/
theorem fairOrder_reordered (h : Reordered inputs inputs')
    (hqueued : QueuedApart inputs.queuedWorkloads) :
    fairOrder inputs'.queuedWorkloads inputs'.tenantQuotas
      = fairOrder inputs.queuedWorkloads inputs.tenantQuotas := by
  have hsorted : orderQueued inputs.queuedWorkloads = orderQueued inputs'.queuedWorkloads :=
    sliceStable_eq_of_perm queuedLess_strictWeak h.queued.symm
      (fun a ha b hb => hqueued.eq ha hb)
  rw [fairOrder, fairOrder, hsorted, h.quotas]

/-- **THE SELECTION DOES NOT SEE THE ORDER OF THE MAPS**: the selected workload, the list
    of victims and all reasons are the same for every order of the three lists. -/
theorem selection_order_independent (hvalid : validate inputs = .ok ())
    (hqueued : QueuedApart inputs.queuedWorkloads)
    (hrunning : RunningApart inputs.runningWorkloads) (h : Reordered inputs inputs') :
    selectOneForAdmission inputs' = selectOneForAdmission inputs := by
  have hv : Valid inputs := validate_ok_iff.mp hvalid
  have hsecond : (fairOrder inputs.queuedWorkloads inputs.tenantQuotas).findSome?
        (admitWithPreemption inputs')
      = (fairOrder inputs.queuedWorkloads inputs.tenantQuotas).findSome?
        (admitWithPreemption inputs) :=
    findSome?_congr (fun w hw =>
      admit_reordered hv h hrunning (hv.queued w (mem_fairOrder.mp hw)))
  rw [selectOneForAdmission, selectOneForAdmissionWith, selectOneForAdmissionWith,
    ← fitsWithoutPreemption, ← admitWithPreemption, ← exceedsTenantGPUCap,
    usageWith_id]
  simp only [fairOrder_reordered h hqueued, fits_reordered h, hsecond, exceeds_reordered h]

end

/-- Two workloads in the queue, the second of a lower priority. -/
def waiting : List QueuedWorkload :=
  [asking 4, { asking 3 with workloadID := "ns/late", priority := 2 }]

/-- The crowded snapshot with its lists the other way around. -/
def crowdedReversed : SchedulingInputs :=
  { crowded waiting with
    queuedWorkloads := waiting.reverse
    runningWorkloads := (crowded waiting).runningWorkloads.reverse }

/-- Both running workloads have to go for the first of the queue, in either order. -/
theorem crowded_order_independent :
    (selectOneForAdmission (crowded waiting)).victims
        = [runningOn "ns/b" 7 11 2, runningOn "ns/a" 1 10 1]
      ∧ selectOneForAdmission crowdedReversed = selectOneForAdmission (crowded waiting) := by
  refine ⟨by decide +kernel, selection_order_independent rfl ?_ ?_ ?_⟩
  · rw [QueuedApart]
    decide +kernel
  · rw [RunningApart]
    decide +kernel
  · exact ⟨List.reverse_perm _, List.Perm.refl _, List.reverse_perm _, rfl, rfl⟩

end GpuOrderIndependence
