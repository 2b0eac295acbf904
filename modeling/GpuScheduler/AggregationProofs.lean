import GpuScheduler.FleetProofs

/-! # Aggregation, as a function of the pools

    `aggregateFleetFromPools` keeps totals and entries side by side, skips blank profiles
    and takes the memory size of an entry from the first pool it meets.  What comes out is
    nevertheless a function of the pools and not of their order, as long as the pools of
    one profile agree on the size, and the validator, which sums over a map in whatever
    order it likes, finds the totals it expects. -/

namespace GpuAggregation

open GoMaps GpuInputs GpuCompat GpuFleet

/-- Two free capacities are the same value: a map has no order. -/
structure SameFleet (f g : FleetFreeCapacity) : Prop where
  totalFreeDevices : f.totalFreeDevices = g.totalFreeDevices
  totalFreeMemoryMiB : f.totalFreeMemoryMiB = g.totalFreeMemoryMiB
  present : f.byProfile.isSome = g.byProfile.isSome
  byProfile : (f.byProfile.getD ∅).entries.Perm (g.byProfile.getD ∅).entries

/-- The contract does not depend on the order in which a map is walked. -/
theorem SameFleet.fleetOk {f g : FleetFreeCapacity} (h : SameFleet f g) (hok : FleetOk g) :
    FleetOk f where
  totalFreeDevices := by rw [h.totalFreeDevices]; exact hok.totalFreeDevices
  totalFreeMemoryMiB := by rw [h.totalFreeMemoryMiB]; exact hok.totalFreeMemoryMiB
  profiles := fun e he => hok.profiles e (h.byProfile.mem_iff.mp he)
  sumDevices := by rw [h.totalFreeDevices, (h.byProfile.map _).sum_eq]; exact hok.sumDevices
  sumMemory := by rw [h.totalFreeMemoryMiB, (h.byProfile.map _).sum_eq]; exact hok.sumMemory

/-- Maps with the same entry for every profile are the same. -/
theorem perm_of_entry {f g : FleetFreeCapacity} (h : ∀ profile, f.entry profile = g.entry profile) :
    (f.byProfile.getD ∅).entries.Perm (g.byProfile.getD ∅).entries := by
  refine List.lookup_ext (f.byProfile.getD ∅).nodupKeys (g.byProfile.getD ∅).nodupKeys
    (fun profile cap => ?_)
  have heq : (f.byProfile.getD ∅).lookup profile = (g.byProfile.getD ∅).lookup profile :=
    h profile
  rw [AList.lookup, AList.lookup] at heq
  rw [heq]

/-- The pools that are not skipped. -/
def named (pools : List GPUNodePool) : List GPUNodePool :=
  pools.filter (fun p => normalizeProfileName p.profile ≠ "")

/-- The totals sum over the pools that are not skipped. -/
theorem totals_foldl (out : FleetFreeCapacity) (pools : List GPUNodePool) :
    (pools.foldl addPool out).totalFreeDevices
        = out.totalFreeDevices + ((named pools).map GPUNodePool.availableDevices).sum
      ∧ (pools.foldl addPool out).totalFreeMemoryMiB = out.totalFreeMemoryMiB
        + ((named pools).map (fun p => p.availableDevices * p.memoryMiBPerDevice)).sum
      ∧ (out.byProfile.isSome → (pools.foldl addPool out).byProfile.isSome) := by
  induction pools generalizing out with
  | nil => exact ⟨(Int.add_zero _).symm, (Int.add_zero _).symm, id⟩
  | cons p pools ih =>
      obtain ⟨hdevices, hmemory, hpresent⟩ := ih (addPool out p)
      rw [List.foldl_cons, hdevices, hmemory, named, named, List.filter_cons]
      by_cases hp : normalizeProfileName p.profile = ""
      · have hskip : addPool out p = out := by
          rw [addPool]
          exact if_pos hp
        rw [hskip] at hpresent ⊢
        rw [if_neg (by simpa using hp)]
        exact ⟨rfl, rfl, hpresent⟩
      · rw [if_pos (by simpa using hp)]
        rw [addPool] at hpresent ⊢
        simp only [if_neg hp] at hpresent ⊢
        exact ⟨Int.add_assoc .., Int.add_assoc .., fun _ => hpresent rfl⟩

/-- The pools of one profile agree on the memory size. -/
def SizesAgree (pools : List GPUNodePool) : Prop :=
  ∀ p ∈ pools, ∀ q ∈ pools, normalizeProfileName p.profile = normalizeProfileName q.profile →
    p.memoryMiBPerDevice = q.memoryMiBPerDevice

/-- Merged pools of one size have that size. -/
theorem memoryMiBPerDevice_foldl {pools : List GPUNodePool} {size : Int}
    (h : ∀ p ∈ pools, p.memoryMiBPerDevice = size) (hne : pools ≠ []) :
    (pools.foldl mergePool ⟨0, 0, 0⟩).memoryMiBPerDevice = size := by
  cases pools with
  | nil => exact absurd rfl hne
  | cons p pools =>
      have hfirst : (mergePool ⟨0, 0, 0⟩ p).memoryMiBPerDevice = size := by
        rw [mergePool]
        exact h p (List.mem_cons_self ..)
      rw [List.foldl_cons]
      obtain ⟨-, -, hkept | ⟨q, hq, hkept⟩⟩ := foldl_mergePool pools (mergePool ⟨0, 0, 0⟩ p)
      · rw [hkept, hfirst]
      · rw [← hkept]
        exact h q (List.mem_cons_of_mem _ hq)

/-- Their memory is their devices times the size. -/
theorem sum_memory {pools : List GPUNodePool} {size : Int}
    (h : ∀ p ∈ pools, p.memoryMiBPerDevice = size) :
    (pools.map (fun p => p.availableDevices * p.memoryMiBPerDevice)).sum
      = (pools.map GPUNodePool.availableDevices).sum * size := by
  rw [← List.sum_map_mul_right]
  exact congrArg List.sum (List.map_congr_left (fun p hp => by rw [h p hp]))

/-- **THE ENTRY OF POOLS THAT AGREE**, in terms of sums only. -/
theorem foldl_mergePool_agree {pools : List GPUNodePool} {size : Int}
    (h : ∀ p ∈ pools, p.memoryMiBPerDevice = size) (hne : pools ≠ []) :
    pools.foldl mergePool ⟨0, 0, 0⟩
      = ⟨(pools.map GPUNodePool.availableDevices).sum,
        (pools.map GPUNodePool.availableDevices).sum * size, size⟩ := by
  obtain ⟨hdevices, hmemory, -⟩ := foldl_mergePool pools ⟨0, 0, 0⟩
  have hkept := memoryMiBPerDevice_foldl h hne
  rw [sum_memory h] at hmemory
  rw [Int.zero_add] at hdevices hmemory
  generalize pools.foldl mergePool ⟨0, 0, 0⟩ = merged at *
  cases merged
  simp_all only

section
variable {pools : List GPUNodePool}

/-- The entry of a profile whose pools agree. -/
theorem entry_of_agree (hagree : SizesAgree pools) {profile : String} (hne : profile ≠ "")
    (hsome : onProfile profile pools ≠ []) :
    ∃ size, (∀ p ∈ onProfile profile pools, p.memoryMiBPerDevice = size)
      ∧ (aggregateFleetFromPools pools).entry profile
        = some ⟨availableOn profile pools, availableOn profile pools * size, size⟩ := by
  obtain ⟨q, hq⟩ := List.exists_mem_of_ne_nil _ hsome
  obtain ⟨hqin, hqkey⟩ := mem_onProfile.mp hq
  have hall : ∀ p ∈ onProfile profile pools, p.memoryMiBPerDevice = q.memoryMiBPerDevice := by
    intro p hp
    obtain ⟨hpin, hpkey⟩ := mem_onProfile.mp hp
    exact hagree p hpin q hqin (hpkey.trans hqkey.symm)
  refine ⟨q.memoryMiBPerDevice, hall, ?_⟩
  rw [entry_aggregate_eq pools hne, if_neg hsome, foldl_mergePool_agree hall hsome]
  rfl

/-- **NO ORDER**: pools that agree give the same entry however they are listed. -/
theorem entry_of_perm (hagree : SizesAgree pools) {pools' : List GPUNodePool}
    (hperm : pools'.Perm pools) (profile : String) :
    (aggregateFleetFromPools pools').entry profile
      = (aggregateFleetFromPools pools).entry profile := by
  by_cases hne : profile = ""
  · rw [hne, entry_aggregate_blank, entry_aggregate_blank]
  have hon : (onProfile profile pools').Perm (onProfile profile pools) := hperm.filter _
  by_cases hsome : onProfile profile pools = []
  · have hsome' : onProfile profile pools' = [] := by
      rw [hsome] at hon
      exact hon.eq_nil
    rw [entry_aggregate_eq _ hne, entry_aggregate_eq _ hne, if_pos hsome, if_pos hsome']
  · have hsome' : onProfile profile pools' ≠ [] := by
      intro hnil
      rw [hnil] at hon
      exact hsome hon.symm.eq_nil
    obtain ⟨size, hall, hentry⟩ := entry_of_agree hagree hne hsome
    have hall' : ∀ p ∈ onProfile profile pools', p.memoryMiBPerDevice = size :=
      fun p hp => hall p (hon.mem_iff.mp hp)
    rw [entry_aggregate_eq _ hne, if_neg hsome', foldl_mergePool_agree hall' hsome', hentry,
      (hon.map GPUNodePool.availableDevices).sum_eq]
    rfl

theorem sameFleet_of_perm (hagree : SizesAgree pools) {pools' : List GPUNodePool}
    (hperm : pools'.Perm pools) :
    SameFleet (aggregateFleetFromPools pools') (aggregateFleetFromPools pools) := by
  have hnamed : (named pools').Perm (named pools) := hperm.filter _
  obtain ⟨hdevices, hmemory, hpresent⟩ := totals_foldl ⟨0, 0, some ∅⟩ pools
  obtain ⟨hdevices', hmemory', hpresent'⟩ := totals_foldl ⟨0, 0, some ∅⟩ pools'
  refine ⟨?_, ?_, (hpresent' rfl).trans (hpresent rfl).symm,
    perm_of_entry (entry_of_perm hagree hperm)⟩
  · rw [aggregateFleetFromPools, aggregateFleetFromPools, hdevices, hdevices',
      (hnamed.map _).sum_eq]
  · rw [aggregateFleetFromPools, aggregateFleetFromPools, hmemory, hmemory',
      (hnamed.map _).sum_eq]

end

/-- A profile has an entry when it is not blank and some pool has it. -/
theorem entry_aggregate_isSome (pools : List GPUNodePool) (profile : String) :
    ((aggregateFleetFromPools pools).entry profile).isSome
      ↔ profile ≠ "" ∧ ∃ p ∈ pools, normalizeProfileName p.profile = profile := by
  by_cases hne : profile = ""
  · rw [hne, entry_aggregate_blank]
    exact ⟨fun h => (by cases h), fun h => absurd rfl h.1⟩
  · rw [entry_aggregate_eq pools hne]
    split_ifs with hnone
    · refine ⟨fun h => (by cases h), fun h => ?_⟩
      obtain ⟨-, p, hp, hkey⟩ := h
      have hin := mem_onProfile.mpr ⟨hp, hkey⟩
      rw [hnone] at hin
      cases hin
    · obtain ⟨p, hp⟩ := List.exists_mem_of_ne_nil _ hnone
      exact ⟨fun _ => ⟨hne, p, mem_onProfile.mp hp⟩, fun _ => rfl⟩

/-- The sums of an entry. -/
theorem entry_aggregate_sums {pools : List GPUNodePool} {profile : String}
    {cap : ProfileFreeCapacity} (h : (aggregateFleetFromPools pools).entry profile = some cap) :
    cap.freeDevices = ((onProfile profile pools).map GPUNodePool.availableDevices).sum
      ∧ cap.freeMemoryMiB = ((onProfile profile pools).map
        (fun p => p.availableDevices * p.memoryMiBPerDevice)).sum := by
  have hne : profile ≠ "" := by
    rintro rfl
    rw [entry_aggregate_blank] at h
    cases h
  rw [entry_aggregate_eq pools hne] at h
  split_ifs at h with hnone
  rw [← Option.some.inj h]
  obtain ⟨hdevices, hmemory, -⟩ := foldl_mergePool (onProfile profile pools) ⟨0, 0, 0⟩
  exact ⟨hdevices.trans (Int.zero_add _), hmemory.trans (Int.zero_add _)⟩

/-- **AGGREGATION IS CONSISTENT AND ORDER-INDEPENDENT**: the result passes the fleet checks in
    whatever order they walk it; its entries are the sums over exactly the pools of their
    profile; and when those agree on the memory size, the order of the pools is not seen and
    memory is devices times size. -/
theorem aggregation_consistent (pools : List GPUNodePool)
    (h : ∀ p ∈ pools, 0 ≤ p.availableDevices ∧ 1 ≤ p.memoryMiBPerDevice) :
    (∀ fleet, SameFleet fleet (aggregateFleetFromPools pools) → checkFleet fleet = .ok ())
      ∧ (∀ profile, ((aggregateFleetFromPools pools).entry profile).isSome
        ↔ profile ≠ "" ∧ ∃ p ∈ pools, normalizeProfileName p.profile = profile)
      ∧ (∀ profile cap, (aggregateFleetFromPools pools).entry profile = some cap →
        cap.freeDevices = ((onProfile profile pools).map GPUNodePool.availableDevices).sum
        ∧ cap.freeMemoryMiB = ((onProfile profile pools).map
          (fun p => p.availableDevices * p.memoryMiBPerDevice)).sum)
      ∧ (SizesAgree pools →
        (∀ pools' : List GPUNodePool, pools'.Perm pools →
          SameFleet (aggregateFleetFromPools pools') (aggregateFleetFromPools pools))
        ∧ ∀ profile cap, (aggregateFleetFromPools pools).entry profile = some cap →
          cap.freeMemoryMiB = cap.freeDevices * cap.memoryMiBPerDevice) := by
  refine ⟨fun fleet hsame => ?_, entry_aggregate_isSome pools,
    fun profile cap => entry_aggregate_sums, fun hagree => ⟨fun pools' => ?_, ?_⟩⟩
  · have hok := fleetOk_aggregate (fun p hp => ⟨(h p hp).1, Int.add_one_le_iff.mp (h p hp).2⟩)
    exact checkFleet_ok_iff.mpr (hsame.fleetOk hok)
  · exact sameFleet_of_perm hagree
  · intro profile cap hcap
    have hhas : ((aggregateFleetFromPools pools).entry profile).isSome := by
      rw [hcap]
      rfl
    obtain ⟨hne, p, hp, hkey⟩ := (entry_aggregate_isSome pools profile).mp hhas
    have hsome := List.ne_nil_of_mem (mem_onProfile.mpr ⟨hp, hkey⟩)
    obtain ⟨size, -, hentry⟩ := entry_of_agree hagree hne hsome
    rw [hcap] at hentry
    rw [Option.some.inj hentry]

/-- Two pools of one profile, spelled differently, a pool of another and a blank one. -/
def mixedPools : List GPUNodePool :=
  [⟨"ns", "a", 1, 2, 80, " H100_SXM ", none, 2⟩, ⟨"ns", "b", 1, 3, 40, "a100_80gb", none, 0⟩,
    ⟨"ns", "c", 1, 3, 80, "h100_sxm", none, 3⟩, ⟨"ns", "d", 1, 1, 1, "  ", none, 1⟩]

theorem mixedPools_consistent :
    (∀ p ∈ mixedPools, 0 ≤ p.availableDevices ∧ 1 ≤ p.memoryMiBPerDevice)
      ∧ SizesAgree mixedPools
      ∧ SameFleet (aggregateFleetFromPools mixedPools.reverse)
        (aggregateFleetFromPools mixedPools)
      ∧ ∀ profile cap, (aggregateFleetFromPools mixedPools).entry profile = some cap →
        cap.freeMemoryMiB = cap.freeDevices * cap.memoryMiBPerDevice := by
  have hpools : ∀ p ∈ mixedPools, 0 ≤ p.availableDevices ∧ 1 ≤ p.memoryMiBPerDevice := by decide
  have hagree : SizesAgree mixedPools := by
    unfold SizesAgree
    decide +kernel
  obtain ⟨-, -, -, hall⟩ := aggregation_consistent mixedPools hpools
  exact ⟨hpools, hagree, (hall hagree).1 _ (List.reverse_perm _), (hall hagree).2⟩

end GpuAggregation
