import GpuScheduler.FleetProofs
import GpuScheduler.CycleProofs

/-! # Scheduler decisions are realisable

    The scheduler decides on counters per profile; the simulator hands out devices.
    When the counters come from the simulator's own usage and the running workloads
    are the ones that hold devices, every decision of `SelectOneForAdmission` can be
    carried out: after the victims are preempted and released, first-fit allocation
    of the selected workload succeeds (`selection_realisable`).

    The argument counts distinct device IDs: the free devices of the namespace's
    pools, and the devices the victims held, are all eligible afterwards. -/

namespace GpuRealise

open GoMaps GpuInputs GpuCompat GpuPreemption GpuSelection GpuCycle
open GpuPlacement GpuSimulator GpuFleet StepRuns

/-! ## What a workload holds -/

/-- The device IDs a workload holds. -/
def heldBy (s : Simulator) (workloadID : String) : List String :=
  ((s.allocations.lookup workloadID).map Allocation.deviceIDs).getD []

theorem heldBy_of_lookup {s : Simulator} {id : String} {a : Allocation}
    (h : s.allocations.lookup id = some a) : heldBy s id = a.deviceIDs := by
  rw [heldBy, h]
  rfl

/-- An ID is allocated when some workload holds it. -/
theorem mem_allocatedIDs {s : Simulator} {x : String} :
    x ∈ allocatedIDs s ↔ ∃ id, x ∈ heldBy s id := by
  rw [allocatedIDs, List.mem_flatMap]
  constructor
  · rintro ⟨e, he, hx⟩
    refine ⟨e.1, ?_⟩
    rw [heldBy_of_lookup (AList.mem_lookup_iff.mpr he)]
    exact hx
  · rintro ⟨id, hx⟩
    cases hl : s.allocations.lookup id with
    | none =>
        rw [heldBy, hl] at hx
        cases hx
    | some a =>
        rw [heldBy_of_lookup hl] at hx
        exact ⟨⟨id, a⟩, AList.mem_lookup_iff.mp hl, hx⟩

/-- Distinct workloads hold distinct devices. -/
theorem heldBy_disjoint {s : Simulator} (hs : Sound s) {id id' x : String} (hne : id ≠ id')
    (hx : x ∈ heldBy s id) (hx' : x ∈ heldBy s id') : False := by
  have hpair := (List.nodup_flatMap.mp hs.allocated).2
  cases hl : s.allocations.lookup id with
  | none => rw [heldBy, hl] at hx; cases hx
  | some a =>
      cases hl' : s.allocations.lookup id' with
      | none => rw [heldBy, hl'] at hx'; cases hx'
      | some a' =>
          rw [heldBy_of_lookup hl] at hx
          rw [heldBy_of_lookup hl'] at hx'
          have hsymm : Std.Symm (Function.onFun List.Disjoint
              (fun e : Sigma fun _ : String => Allocation => e.2.deviceIDs)) :=
            ⟨fun _ _ hd _ hy hy' => hd hy' hy⟩
          have hdis := hpair.forall (AList.mem_lookup_iff.mp hl) (AList.mem_lookup_iff.mp hl')
            (fun heq => hne (congrArg Sigma.fst heq))
          exact hdis hx hx'

theorem heldBy_nodup {s : Simulator} (hs : Sound s) (id : String) : (heldBy s id).Nodup := by
  cases hl : s.allocations.lookup id with
  | none => rw [heldBy, hl]; exact List.nodup_nil
  | some a =>
      rw [heldBy_of_lookup hl]
      exact (List.nodup_flatMap.mp hs.allocated).1 ⟨id, a⟩ (AList.mem_lookup_iff.mp hl)

/-- The devices of a set of workloads are distinct. -/
theorem nodup_flatMap_heldBy {s : Simulator} (hs : Sound s) {ids : List String}
    (hnd : ids.Nodup) : (ids.flatMap (heldBy s)).Nodup := by
  refine List.nodup_flatMap.mpr ⟨fun id _ => heldBy_nodup hs id, hnd.imp ?_⟩
  intro id id' hne x hx hx'
  exact heldBy_disjoint hs hne hx hx'

/-! ## Preempting and releasing -/

/-- `Preempt` and `Release` of every victim, in turn; `orders` gives the order in which
    `Preempt` visits the runs. -/
def preemptAndRelease (orders : String → List String) :
    List RunningWorkload → Simulator → Except SimError Simulator
  | [], s => .ok s
  | v :: rest, s =>
      match preempt s (orders v.workloadID) v.workloadID with
      | .error e => .error e
      | .ok s =>
        match release s v.workloadID with
        | .error e => .error e
        | .ok s => preemptAndRelease orders rest s

/-- One `Preempt` succeeds on a non-empty ID. -/
private theorem preempt_ok (s : Simulator) (order : List String) {id : String} (h : id ≠ "") :
    ∃ t, preempt s order id = .ok t := by
  rw [preempt, if_neg h]
  split
  · exact ⟨_, rfl⟩
  · exact ⟨_, rfl⟩

/-- The victims lose their allocations, nobody else does, and the pools stay. -/
theorem preemptAndRelease_spec (orders : String → List String) {victims : List RunningWorkload}
    (hids : ∀ v ∈ victims, v.workloadID ≠ "") (s : Simulator) :
    ∃ t, preemptAndRelease orders victims s = .ok t ∧ t.pools = s.pools
      ∧ ∀ id, t.allocations.lookup id
        = if id ∈ victims.map RunningWorkload.workloadID then none
          else s.allocations.lookup id := by
  induction victims generalizing s with
  | nil => exact ⟨s, rfl, rfl, fun id => rfl⟩
  | cons v victims ih =>
      have hv := hids v (List.mem_cons_self ..)
      obtain ⟨s₁, hs₁⟩ := preempt_ok s (orders v.workloadID) hv
      obtain ⟨hp₁, ha₁⟩ := preempt_same hs₁
      have hrel : release s₁ v.workloadID
          = .ok { s₁ with allocations := s₁.allocations.erase v.workloadID } := by
        rw [release, if_neg hv]
      obtain ⟨t, ht, htp, hta⟩ := ih (fun x hx => hids x (List.mem_cons_of_mem _ hx))
        { s₁ with allocations := s₁.allocations.erase v.workloadID }
      refine ⟨t, ?_, htp.trans hp₁, fun id => ?_⟩
      · rw [preemptAndRelease, hs₁]
        simp only [hrel]
        exact ht
      · rw [hta id, List.map_cons]
        by_cases hid : id ∈ victims.map RunningWorkload.workloadID
        · rw [if_pos hid, if_pos (List.mem_cons_of_mem _ hid)]
        · rw [if_neg hid]
          by_cases heq : id = v.workloadID
          · rw [heq, if_pos (List.mem_cons_self ..)]
            exact AList.lookup_erase _ _
          · rw [if_neg (by simp only [List.mem_cons, not_or]; exact ⟨heq, hid⟩), ← ha₁]
            exact AList.lookup_erase_ne heq

/-! ## First-fit allocation -/

/-- First-fit without a node limit succeeds when enough devices are eligible. -/
theorem allocate_firstFit_ok {s : Simulator} {order : List String} {id profile : String}
    {gpuCount memMiB : Int} (hid : id ≠ "") (hg : 0 < gpuCount) (hm : 0 < memMiB)
    (hfresh : s.allocations.lookup id = none) (hpools : s.pools.entries ≠ [])
    (hcount : gpuCount ≤ (((devicesOf (allNodes s order)).filter
      (eligible (allocatedIDs s) memMiB "" profile)).length : Int)) :
    ∃ a t, allocateWithOptions s order id gpuCount memMiB ⟨.firstFit, false, 0, "", profile⟩
      = .ok (a, t) := by
  have hneed : 0 < gpuCount.toNat := by omega
  have hpick : pickDevices (computeEligibleDevicesPerNode (allNodes s order) (allocatedIDs s)
      memMiB "" profile) gpuCount.toNat .firstFit false (0 : Int).toNat
      = .ok ((flat (computeEligibleDevicesPerNode (allNodes s order) (allocatedIDs s)
        memMiB "" profile)).take gpuCount.toNat) := by
    rw [← selectFirstFit_eq_take _ hneed]
    rfl
  have hlen : ¬ (((flat (computeEligibleDevicesPerNode (allNodes s order) (allocatedIDs s)
      memMiB "" profile)).take gpuCount.toNat).length : Int) < gpuCount := by
    rw [flat_computeEligible, List.length_take, List.length_map]
    omega
  have hpolicy : AllocationOptions.policy ⟨.firstFit, false, 0, "", profile⟩ = .firstFit := rfl
  rw [allocateWithOptions, if_neg hid, if_neg (not_le.mpr hg), if_neg (not_le.mpr hm), hfresh]
  simp only [Option.isSome_none, Bool.false_eq_true, if_false, if_neg hpools, lt_irrefl,
    hpolicy, hpick, if_neg hlen]
  exact ⟨_, _, rfl⟩

/-! ## The scheduler's view of a simulator -/

/-- A registered device. -/
def Registered (s : Simulator) (d : Device) : Prop :=
  ∃ key nodes, s.pools.lookup key = some nodes ∧ d ∈ devicesOf nodes

/-- The simulator and the scheduling inputs of a namespace agree: names and memory sizes
    are uniform, the running workloads are the ones with allocations, and the capacity
    is aggregated from the namespace's pools. -/
structure Mirrors (s : Simulator) (inputs : SchedulingInputs) (ns : String)
    (pools : List GPUNodePool) : Prop where
  qualified : QualifiedPools s
  normalized : ∀ d, Registered s d → normalizeProfileName d.profile = d.profile
  memory : ∀ d d', Registered s d → Registered s d' → d.profile = d'.profile →
    d.memoryMiB = d'.memoryMiB
  exist : AllocationsExist s
  /-- Each running workload holds `gpuCount` devices of its own profile. -/
  running : ∀ r ∈ inputs.runningWorkloads, ∃ a, s.allocations.lookup r.workloadID = some a
    ∧ (a.deviceIDs.length : Int) = r.gpuCount
    ∧ ∀ x ∈ a.deviceIDs, ∃ d, Registered s d ∧ d.id = x ∧ d.profile = r.profile
  /-- Nobody else holds anything. -/
  only : ∀ id a, s.allocations.lookup id = some a →
    ∃ r ∈ inputs.runningWorkloads, r.workloadID = id
  fleet : inputs.fleetFreeCapacity = aggregateFleetFromPools pools
  /-- The pools of the namespace are registered with their specifications, and their
      statuses are up to date. -/
  registered : ∀ p ∈ pools, p.ns = ns ∧ p.availableDevices = desiredAvailable s p.poolKey
    ∧ ∃ nodes, s.pools.lookup p.poolKey = some nodes
      ∧ buildNodesWithPoolKey p.simSpec p.poolKey = .ok nodes
  distinct : (pools.map GPUNodePool.poolKey).Nodup

section
variable {s : Simulator} {inputs : SchedulingInputs} {ns : String} {pools : List GPUNodePool}

/-- The free devices of a profile: registered, free, of that profile, with distinct IDs. -/
private theorem freeOn_spec (hs : Sound s) (hm : Mirrors s inputs ns pools) (profile : String) :
    ((freeOn s pools profile).map Device.id).Nodup
      ∧ ∀ d ∈ freeOn s pools profile, Registered s d ∧ d.profile = profile
        ∧ d.id ∉ allocatedIDs s := by
  constructor
  · have hnd : ((pools.filter (fun p => normalizeProfileName p.profile = profile)).map
        GPUNodePool.poolKey).Nodup := hm.distinct.sublist (List.filter_sublist.map _)
    exact (hs.nodup_devices hnd).sublist (List.filter_sublist.map _)
  · intro d hd
    obtain ⟨hmem, hfree⟩ := List.mem_filter.mp hd
    obtain ⟨key, hkey, nodes', hl', hd⟩ := mem_devicesOf_allNodes.mp hmem
    obtain ⟨p, hp, rfl⟩ := List.mem_map.mp hkey
    obtain ⟨hpmem, hprof⟩ := List.mem_filter.mp hp
    obtain ⟨-, -, nodes, hl, hbuild⟩ := hm.registered p hpmem
    obtain rfl : nodes = nodes' := Option.some.inj (hl.symm.trans hl')
    have hreg : Registered s d := ⟨p.poolKey, nodes, hl, hd⟩
    have hdp : d.profile = p.profile := by
      obtain ⟨i, -, j, -, hdev⟩ := (mem_devicesOf_build hbuild).mp hd
      rw [hdev]
      rfl
    have hnorm := hm.normalized d hreg
    rw [hdp] at hnorm
    have hprof' : normalizeProfileName p.profile = profile := by simpa using hprof
    refine ⟨hreg, ?_, by simpa using hfree⟩
    rw [hdp, ← hnorm]
    exact hprof'

/-- The devices the victims hold are registered devices of their profile. -/
private theorem heldBy_running (hm : Mirrors s inputs ns pools) {r : RunningWorkload}
    (hr : r ∈ inputs.runningWorkloads) :
    ((heldBy s r.workloadID).length : Int) = r.gpuCount
      ∧ ∀ x ∈ heldBy s r.workloadID, ∃ d, Registered s d ∧ d.id = x ∧ d.profile = r.profile := by
  obtain ⟨a, hl, hlen, hdev⟩ := hm.running r hr
  rw [heldBy_of_lookup hl]
  exact ⟨hlen, hdev⟩

private theorem length_flatMap_heldBy (hm : Mirrors s inputs ns pools)
    {victims : List RunningWorkload} (hv : ∀ v ∈ victims, v ∈ inputs.runningWorkloads) :
    (((victims.map RunningWorkload.workloadID).flatMap (heldBy s)).length : Int)
      = gpuSum victims := by
  induction victims with
  | nil => rfl
  | cons v victims ih =>
      have ih := ih (fun x hx => hv x (List.mem_cons_of_mem _ hx))
      have hlen := (heldBy_running hm (hv v (List.mem_cons_self ..))).1
      rw [List.map_cons, List.flatMap_cons, List.length_append, gpuSum_cons]
      omega

/-- Every registered device is visited, whatever the order of the pools. -/
private theorem mem_allNodes_of_registered {t : Simulator} (hp : t.pools = s.pools)
    {order : List String} (horder : order.Perm t.pools.keys) {d : Device}
    (hd : Registered s d) : d ∈ devicesOf (allNodes t order) := by
  obtain ⟨key, nodes, hl, hmem⟩ := hd
  rw [← hp] at hl
  exact mem_devicesOf_allNodes.mpr
    ⟨key, horder.mem_iff.mpr (mem_keys_iff.mpr ⟨nodes, hl⟩), nodes, hl, hmem⟩

section
variable {victims : List RunningWorkload} {t : Simulator}

/-- The simulator after the victims are released. -/
private def Freed (s : Simulator) (victims : List RunningWorkload) (t : Simulator) : Prop :=
  ∀ id, t.allocations.lookup id
    = if id ∈ victims.map RunningWorkload.workloadID then none else s.allocations.lookup id

/-- What is held afterwards was held before, by somebody who is not a victim. -/
private theorem held_of_freed (ha : Freed s victims t) {x : String} (hx : x ∈ allocatedIDs t) :
    ∃ id, id ∉ victims.map RunningWorkload.workloadID ∧ x ∈ heldBy s id := by
  obtain ⟨id, hid⟩ := mem_allocatedIDs.mp hx
  rw [heldBy, ha id] at hid
  by_cases hv : id ∈ victims.map RunningWorkload.workloadID
  · rw [if_pos hv] at hid
    cases hid
  · rw [if_neg hv] at hid
    exact ⟨id, hv, hid⟩

/-- What the victims held is free afterwards. -/
private theorem not_held_of_freed (hs : Sound s) (ha : Freed s victims t)
    {v : RunningWorkload} (hv : v ∈ victims) {x : String} (hx : x ∈ heldBy s v.workloadID) :
    x ∉ allocatedIDs t := by
  intro hin
  obtain ⟨id, hnot, hid⟩ := held_of_freed ha hin
  refine heldBy_disjoint hs (fun heq => hnot ?_) hx hid
  rw [← heq]
  exact List.mem_map_of_mem hv

/-- The free devices of a profile and those of the victims are distinct. -/
private theorem nodup_free_victims (hs : Sound s) (hm : Mirrors s inputs ns pools)
    (profile : String) (hnd : (victims.map RunningWorkload.workloadID).Nodup) :
    ((freeOn s pools profile).map Device.id
      ++ (victims.map RunningWorkload.workloadID).flatMap (heldBy s)).Nodup := by
  obtain ⟨hfreend, hfree⟩ := freeOn_spec hs hm profile
  refine hfreend.append (nodup_flatMap_heldBy hs hnd) ?_
  intro x hx hx'
  obtain ⟨d, hd, rfl⟩ := List.mem_map.mp hx
  obtain ⟨id, -, hx'⟩ := List.mem_flatMap.mp hx'
  exact (hfree d hd).2.2 (mem_allocatedIDs.mpr ⟨id, hx'⟩)

/-- **THE COUNT**: after the victims are released, the eligible devices of a profile cover
    the aggregated free ones and those the victims held. -/
private theorem eligible_count (hs : Sound s) (hm : Mirrors s inputs ns pools)
    (hvr : ∀ v ∈ victims, v ∈ inputs.runningWorkloads)
    {profile : String} (hvp : ∀ v ∈ victims, v.profile = profile)
    (hnd : (victims.map RunningWorkload.workloadID).Nodup) {memMiB : Int}
    (hmemory : ∀ d, Registered s d → d.profile = profile → memMiB ≤ d.memoryMiB)
    (hp : t.pools = s.pools) (ha : Freed s victims t)
    {order : List String} (horder : order.Perm t.pools.keys) :
    availableOn profile pools + gpuSum victims
      ≤ (((devicesOf (allNodes t order)).filter
        (eligible (allocatedIDs t) memMiB "" profile)).length : Int) := by
  obtain ⟨-, hfree⟩ := freeOn_spec hs hm profile
  have helig : ∀ d, Registered s d → d.profile = profile → d.id ∉ allocatedIDs t →
      d.id ∈ ((devicesOf (allNodes t order)).filter
        (eligible (allocatedIDs t) memMiB "" profile)).map Device.id := by
    intro d hreg hprof hnot
    refine List.mem_map.mpr ⟨d, List.mem_filter.mpr
      ⟨mem_allNodes_of_registered hp horder hreg, ?_⟩, rfl⟩
    have hmd := hmemory d hreg hprof
    rw [eligible, if_neg hnot, if_neg (not_lt.mpr hmd), if_neg (by simp),
      if_neg (fun hpp => hpp.2 hprof)]
  have hsub : (freeOn s pools profile).map Device.id
        ++ (victims.map RunningWorkload.workloadID).flatMap (heldBy s)
      ⊆ ((devicesOf (allNodes t order)).filter
        (eligible (allocatedIDs t) memMiB "" profile)).map Device.id := by
    intro x hx
    rcases List.mem_append.mp hx with hx | hx
    · obtain ⟨d, hd, rfl⟩ := List.mem_map.mp hx
      obtain ⟨hreg, hprof, hnot⟩ := hfree d hd
      refine helig d hreg hprof (fun hin => hnot ?_)
      obtain ⟨id, -, hid⟩ := held_of_freed ha hin
      exact mem_allocatedIDs.mpr ⟨id, hid⟩
    · obtain ⟨id, hid, hx⟩ := List.mem_flatMap.mp hx
      obtain ⟨v, hv, rfl⟩ := List.mem_map.mp hid
      obtain ⟨d, hreg, rfl, hprof⟩ := (heldBy_running hm (hvr v hv)).2 x hx
      exact helig d hreg (hprof.trans (hvp v hv)) (not_held_of_freed hs ha hv hx)
  have hlen := (List.subperm_of_subset (nodup_free_victims hs hm profile hnd) hsub).length_le
  have hvic := length_flatMap_heldBy hm hvr
  have hcurrent : UpToDate s pools := fun p hp => by
    obtain ⟨-, hav, nodes, hl, -⟩ := hm.registered p hp
    exact ⟨hav, nodes, hl⟩
  have hav := availableOn_le_freeOn hs hm.qualified hm.exist profile hcurrent
  rw [List.length_append, List.length_map, List.length_map] at hlen
  omega

end

/-- A profile with an aggregated entry has a registered device of the entry's memory. -/
private theorem exists_registered (hm : Mirrors s inputs ns pools) {profile : String}
    {cap : ProfileFreeCapacity} (hne : profile ≠ "") (h0 : cap.memoryMiBPerDevice ≠ 0)
    (h : inputs.fleetFreeCapacity.entry profile = some cap) :
    ∃ d, Registered s d ∧ d.profile = profile ∧ d.memoryMiB = cap.memoryMiBPerDevice := by
  rw [hm.fleet] at h
  obtain ⟨-, -, hmem⟩ := entry_aggregate hne h
  obtain ⟨p, hp, hprof, hpm⟩ := hmem h0
  obtain ⟨-, -, nodes, hl, hbuild⟩ := hm.registered p hp
  -- a pool that was built has a first device
  have hpos : 0 < p.simSpec.nodeCount.toNat ∧ 0 < p.simSpec.devicesPerNode.toNat := by
    rw [buildNodesWithPoolKey] at hbuild
    split_ifs at hbuild
    omega
  have hd := (mem_devicesOf_build hbuild).mpr ⟨0, hpos.1, 0, hpos.2, rfl⟩
  have hreg : Registered s ⟨deviceID p.poolKey 0 0, p.simSpec.memoryMiBPerDevice,
      p.simSpec.deviceType, p.simSpec.profile⟩ := ⟨p.poolKey, nodes, hl, hd⟩
  refine ⟨_, hreg, ?_, hpm⟩
  have hnorm := hm.normalized _ hreg
  exact hnorm.symm.trans hprof

end

/-- **DECISIONS ARE REALISABLE**: in every reachable simulator state that mirrors valid
    inputs, after the victims of the selection are preempted and released, first-fit
    allocation of the selected workload on its profile succeeds, whatever the order in
    which the pools and the runs are visited. -/
theorem selection_realisable (est : Estimator) {ops : List Op} {s : Simulator}
    (hrun : Runs (step est) Always newSimulator ops s)
    {inputs : SchedulingInputs} {ns : String} {pools : List GPUNodePool}
    (hm : Mirrors s inputs ns pools) (hv : validate inputs = .ok ())
    (hsel : (selectOneForAdmission inputs).selectedID ≠ "")
    (orders : String → List String) :
    ∃ w ∈ inputs.queuedWorkloads, (selectOneForAdmission inputs).selectedID = w.workloadID
      ∧ ∃ t, preemptAndRelease orders (selectOneForAdmission inputs).victims s = .ok t
        ∧ ∀ order, order.Perm t.pools.keys →
          ∃ a t', allocateWithOptions t order w.workloadID w.gpuCount w.gpuMemoryMiB
            ⟨.firstFit, false, 0, "", w.profile⟩ = .ok (a, t') := by
  have hs := sound_of_runs hrun
  have hvalid := validate_ok_iff.mp hv
  obtain ⟨w, cap, hw, hid, he, hcount, hvic, hnd⟩ := selection_victims hvalid hsel
  have hok := hvalid.queued w hw
  have hwid : w.workloadID ≠ "" := by
    rw [← hid]
    exact hsel
  have hprofile : w.profile ≠ "" := ne_empty_of_trim hok.profile
  have hmem0 : cap.memoryMiBPerDevice ≠ 0 := by
    have h1 := he.memory
    have h2 : 0 < w.gpuMemoryMiB := hok.gpuMemoryMiB
    omega
  obtain ⟨d₀, hreg₀, hprof₀, hmem₀⟩ := exists_registered hm hprofile hmem0 he.entry
  have hvicid : ∀ v ∈ (selectOneForAdmission inputs).victims, v.workloadID ≠ "" := by
    intro v hvv
    exact ne_empty_of_trim (hvalid.running v (hvic v hvv).1).workloadID
  obtain ⟨t, ht, htp, hta⟩ := preemptAndRelease_spec orders hvicid s
  refine ⟨w, hw, hid, t, ht, fun order horder => ?_⟩
  have hfresh : t.allocations.lookup w.workloadID = none := by
    have hnone : s.allocations.lookup w.workloadID = none := by
      cases hl : s.allocations.lookup w.workloadID with
      | none => rfl
      | some a =>
          obtain ⟨r, hr, hrid⟩ := hm.only _ a hl
          exact absurd hrid (hvalid.queued_ne_running hw hr)
    rw [hta, hnone, ite_self]
  have hpools : t.pools.entries ≠ [] := by
    obtain ⟨key, nodes, hl, -⟩ := hreg₀
    rw [htp]
    exact List.ne_nil_of_mem (AList.mem_lookup_iff.mp hl)
  have hmemory : ∀ d, Registered s d → d.profile = w.profile → w.gpuMemoryMiB ≤ d.memoryMiB := by
    intro d hreg hprof
    rw [hm.memory d d₀ hreg hreg₀ (hprof.trans hprof₀.symm), hmem₀]
    exact he.memory
  have hcap : cap.freeDevices = availableOn w.profile pools := by
    have hentry := he.entry
    rw [hm.fleet] at hentry
    exact (entry_aggregate hprofile hentry).1
  refine allocate_firstFit_ok hwid hok.gpuCount hok.gpuMemoryMiB hfresh hpools ?_
  have := eligible_count hs hm (fun v hvv => (hvic v hvv).1) (fun v hvv => (hvic v hvv).2) hnd
    hmemory htp hta horder
  show w.gpuCount ≤ _
  omega

/-! ## An instance -/

/-- The two devices of the pool `ns/a`. -/
def twoDevices : List Device :=
  [⟨"ns/a/node-0/gpu-0", 80, "", "h100_sxm"⟩, ⟨"ns/a/node-0/gpu-1", 80, "", "h100_sxm"⟩]

/-- A pool of two devices, both held by a running workload. -/
def busyPool : Simulator where
  pools := (∅ : GoMap String (List Node)).insert "ns/a" [⟨"ns/a/node-0", twoDevices⟩]
  allocations := (∅ : GoMap String Allocation).insert "ns/old"
    ⟨"ns/old", ["ns/a/node-0/gpu-0", "ns/a/node-0/gpu-1"]⟩
  runs := ∅
  nextRunID := 0

/-- The calls that lead to it. -/
def busyPoolOps : List Op :=
  [.registerFleet "ns/a" ⟨1, 2, 80, "", "h100_sxm"⟩,
   .allocateWithOptions ["ns/a"] "ns/old" 2 40 ⟨.firstFit, false, 0, "", "h100_sxm"⟩]

/-- The pool's CR, with its status. -/
def busyPoolCR : GPUNodePool := ⟨"ns", "a", 1, 2, 80, "h100_sxm", none, 0⟩

/-- The inputs over it: one running workload, one queued. -/
def busyInputs : SchedulingInputs where
  queuedWorkloads := [⟨"ns/new", "t", 5, 2, 1, 40, "h100_sxm", 5, .training⟩]
  scheduledWorkloads := []
  runningWorkloads := [⟨"ns/old", "t", 0, 1, 2, 40, "h100_sxm", 5, .training⟩]
  fleetFreeCapacity := aggregateFleetFromPools [busyPoolCR]
  tenantQuotas := ∅

private theorem pools_busyPool {key : String} {nodes : List Node}
    (h : busyPool.pools.lookup key = some nodes) :
    key = "ns/a" ∧ nodes = [⟨"ns/a/node-0", twoDevices⟩] := by
  have hmem : (⟨key, nodes⟩ : Sigma fun _ : String => List Node)
      ∈ [(⟨"ns/a", [⟨"ns/a/node-0", twoDevices⟩]⟩ : Sigma fun _ : String => List Node)] :=
    AList.mem_lookup_iff.mp h
  have heq := List.mem_singleton.mp hmem
  cases heq
  exact ⟨rfl, rfl⟩

private theorem registered_busyPool {d : Device} (h : Registered busyPool d) :
    d ∈ twoDevices := by
  obtain ⟨key, nodes, hl, hd⟩ := h
  obtain ⟨rfl, rfl⟩ := pools_busyPool hl
  exact hd

private theorem lookup_busyPool {id : String} {a : Allocation}
    (h : busyPool.allocations.lookup id = some a) :
    id = "ns/old" ∧ a.deviceIDs = twoDevices.map Device.id := by
  have hmem : (⟨id, a⟩ : Sigma fun _ : String => Allocation)
      ∈ [(⟨"ns/old", ⟨"ns/old", twoDevices.map Device.id⟩⟩ :
        Sigma fun _ : String => Allocation)] := AList.mem_lookup_iff.mp h
  have heq := List.mem_singleton.mp hmem
  cases heq
  exact ⟨rfl, rfl⟩

private theorem registered_of_mem {d : Device} (h : d ∈ twoDevices) : Registered busyPool d :=
  ⟨"ns/a", [⟨"ns/a/node-0", twoDevices⟩], rfl, by simpa [devicesOf] using h⟩

theorem mirrors_busyPool : Mirrors busyPool busyInputs "ns" [busyPoolCR] where
  qualified key nodes hl := by
    obtain ⟨rfl, rfl⟩ := pools_busyPool hl
    exact ⟨"ns", "a", by decide, by decide, by decide⟩
  normalized d hd := by
    have hall : ∀ x ∈ twoDevices, normalizeProfileName x.profile = x.profile := by
      decide +kernel
    exact hall d (registered_busyPool hd)
  memory d d' hd hd' _ := by
    have hall : ∀ x ∈ twoDevices, x.memoryMiB = 80 := by decide
    rw [hall d (registered_busyPool hd), hall d' (registered_busyPool hd')]
  exist x hx := by
    obtain ⟨id, hid⟩ := mem_allocatedIDs.mp hx
    cases hl : busyPool.allocations.lookup id with
    | none => rw [heldBy, hl] at hid; cases hid
    | some a =>
        rw [heldBy_of_lookup hl, (lookup_busyPool hl).2] at hid
        exact ⟨"ns/a", [⟨"ns/a/node-0", twoDevices⟩], rfl, by simpa [devicesOf] using hid⟩
  running r hr := by
    rw [List.mem_singleton.mp hr]
    refine ⟨⟨"ns/old", twoDevices.map Device.id⟩, rfl, by decide, fun x hx => ?_⟩
    obtain ⟨d, hd, rfl⟩ := List.mem_map.mp hx
    have hall : ∀ x ∈ twoDevices, x.profile = "h100_sxm" := by decide
    exact ⟨d, registered_of_mem hd, rfl, hall d hd⟩
  only id a hl := ⟨_, List.mem_singleton.mpr rfl, (lookup_busyPool hl).1.symm⟩
  fleet := rfl
  registered p hp := by
    rw [List.mem_singleton.mp hp]
    exact ⟨rfl, by decide +kernel, [⟨"ns/a/node-0", twoDevices⟩], rfl, by decide +kernel⟩
  distinct := List.nodup_singleton _

/-- The queued workload preempts the running one and gets a device. -/
theorem selection_realisable_busyPool :
    ∃ w ∈ busyInputs.queuedWorkloads,
      (selectOneForAdmission busyInputs).selectedID = w.workloadID
      ∧ ∃ t, preemptAndRelease (fun _ => []) (selectOneForAdmission busyInputs).victims busyPool
          = .ok t
        ∧ ∀ order, order.Perm t.pools.keys →
          ∃ a t', allocateWithOptions t order w.workloadID w.gpuCount w.gpuMemoryMiB
            ⟨.firstFit, false, 0, "", w.profile⟩ = .ok (a, t') := by
  have hexec : exec (step (fun _ _ _ => .ok 1)) newSimulator busyPoolOps = some busyPool := rfl
  exact selection_realisable (fun _ _ _ => .ok 1) (Runs.of_exec hexec) mirrors_busyPool
    (by rfl) (by decide +kernel) (fun _ => [])

end GpuRealise
