import GpuScheduler.SimulatorProofs

/-! # From simulated devices to free capacity

    The free capacity the scheduler sees is two steps away from the devices: a pool's
    status counts the allocated IDs that start with the pool's key, and
    `aggregateFleetFromPools` sums the statuses of a namespace by profile.

    For pools keyed `namespace/name` the count by prefix is exact
    (`availableDevices_eq`), and an aggregated entry is the sum of its pools
    (`entry_aggregate`). -/

namespace GpuFleet

open GoStrings GoMaps GpuInputs GpuCompat GpuPlacement GpuSimulator

/-- The conversion `int32(x)`. -/
def toInt32 (x : Int) : Int := Int.bmod x (2 ^ 32)

/-- The `GPUNodePool` CR: identity, specification, and the free devices of its status. -/
structure GPUNodePool where
  ns : String
  name : String
  nodeCount : Int
  devicesPerNode : Int
  memoryMiBPerDevice : Int
  profile : String
  deviceType : Option String
  availableDevices : Int
  deriving DecidableEq, Repr

/-- The key under which the pool is registered: `req.String()`. -/
def GPUNodePool.poolKey (p : GPUNodePool) : String := p.ns ++ "/" ++ p.name

theorem poolKey_ne_empty (p : GPUNodePool) : p.poolKey ≠ "" := by
  intro h
  have hlist := congrArg String.toList h
  simp [GPUNodePool.poolKey, String.toList_append] at hlist

/-- The specification with which the pool controller registers the pool. -/
def GPUNodePool.simSpec (p : GPUNodePool) : GPUNodePoolSpec :=
  ⟨p.nodeCount, p.devicesPerNode, p.memoryMiBPerDevice, p.deviceType.getD "", p.profile⟩

/-- `sim.FleetUsage`. -/
structure FleetUsage where
  totalDevices : Int
  allocatedDevices : Int
  availableDevices : Int
  utilization : Rat
  deriving DecidableEq, Repr

/-- The test by which a device ID is counted for a pool. -/
def inPool (poolKey id : String) : Bool :=
  if poolKey = defaultPoolKey then decide (count id '/' = 1) else startsWith id (poolKey ++ "/")

/-- `FleetUsageForPool`. -/
def fleetUsageForPool (s : Simulator) (poolKey : String) : FleetUsage × Bool :=
  match s.pools.lookup poolKey with
  | none => (⟨0, 0, 0, 0⟩, false)
  | some nodes =>
    if nodes = [] then (⟨0, 0, 0, 0⟩, true)
    else
      let total : Int := (devicesOf nodes).length
      let allocated : Int := ((allocatedIDs s).filter (inPool poolKey)).length
      (⟨total, allocated, total - allocated,
        if 0 < total then (allocated : Rat) / total else 0⟩, true)

/-- The free devices the pool controller writes to the status. -/
def desiredAvailable (s : Simulator) (poolKey : String) : Int :=
  toInt32 (fleetUsageForPool s poolKey).1.availableDevices

/-- The entry of a profile after one more pool; the first memory size seen stays. -/
def mergePool (existing : ProfileFreeCapacity) (p : GPUNodePool) : ProfileFreeCapacity :=
  ⟨existing.freeDevices + p.availableDevices,
    existing.freeMemoryMiB + p.availableDevices * p.memoryMiBPerDevice,
    if existing.memoryMiBPerDevice = 0 then p.memoryMiBPerDevice
    else existing.memoryMiBPerDevice⟩

/-- One turn of the loop of `aggregateFleetFromPools`; a blank profile is skipped. -/
def addPool (out : FleetFreeCapacity) (p : GPUNodePool) : FleetFreeCapacity :=
  let profileKey := normalizeProfileName p.profile
  if profileKey = "" then out
  else
    { totalFreeDevices := out.totalFreeDevices + p.availableDevices
      totalFreeMemoryMiB :=
        out.totalFreeMemoryMiB + p.availableDevices * p.memoryMiBPerDevice
      byProfile := some ((out.byProfile.getD ∅).insert profileKey
        (mergePool ((out.entry profileKey).getD ⟨0, 0, 0⟩) p)) }

/-- `aggregateFleetFromPools`. -/
def aggregateFleetFromPools (pools : List GPUNodePool) : FleetFreeCapacity :=
  pools.foldl addPool ⟨0, 0, some ∅⟩

/-! ## Aggregation -/

/-- The free devices of the pools with a profile. -/
def availableOn (profile : String) (pools : List GPUNodePool) : Int :=
  sumOf (fun p => normalizeProfileName p.profile) GPUNodePool.availableDevices profile pools

theorem entry_addPool_self (out : FleetFreeCapacity) {p : GPUNodePool}
    (hp : normalizeProfileName p.profile ≠ "") :
    (addPool out p).entry (normalizeProfileName p.profile)
      = some (mergePool ((out.entry (normalizeProfileName p.profile)).getD ⟨0, 0, 0⟩) p) := by
  rw [addPool]
  simp only [if_neg hp]
  exact AList.lookup_insert _

theorem entry_addPool_ne (out : FleetFreeCapacity) {p : GPUNodePool} {profile : String}
    (h : profile ≠ normalizeProfileName p.profile) :
    (addPool out p).entry profile = out.entry profile := by
  rw [addPool]
  by_cases hp : normalizeProfileName p.profile = ""
  · simp only [if_pos hp]
  · simp only [if_neg hp]
    exact AList.lookup_insert_ne h

/-- The pools with a profile. -/
def onProfile (profile : String) (pools : List GPUNodePool) : List GPUNodePool :=
  pools.filter (fun p => normalizeProfileName p.profile = profile)

theorem mem_onProfile {profile : String} {pools : List GPUNodePool} {p : GPUNodePool} :
    p ∈ onProfile profile pools ↔ p ∈ pools ∧ normalizeProfileName p.profile = profile := by
  rw [onProfile, List.mem_filter, decide_eq_true_eq]

/-- An entry, or none yet, after one more pool. -/
def joinPool (existing : Option ProfileFreeCapacity) (p : GPUNodePool) :
    Option ProfileFreeCapacity :=
  some (mergePool (existing.getD ⟨0, 0, 0⟩) p)

/-- The entry of a profile is made by the pools with that profile, in their order. -/
theorem entry_foldl (out : FleetFreeCapacity) (pools : List GPUNodePool) {profile : String}
    (hne : profile ≠ "") :
    (pools.foldl addPool out).entry profile
      = (onProfile profile pools).foldl joinPool (out.entry profile) := by
  induction pools generalizing out with
  | nil => rfl
  | cons p pools ih =>
      rw [List.foldl_cons, ih, onProfile, onProfile, List.filter_cons]
      by_cases hp : normalizeProfileName p.profile = profile
      · subst hp
        rw [if_pos (decide_eq_true rfl), entry_addPool_self out hne, List.foldl_cons]
        rfl
      · rw [if_neg (by simpa using hp), entry_addPool_ne out (Ne.symm hp)]

/-- Pools that come in one after the other are merged. -/
theorem foldl_joinPool (existing : Option ProfileFreeCapacity) {pools : List GPUNodePool}
    (h : pools ≠ []) :
    pools.foldl joinPool existing = some (pools.foldl mergePool (existing.getD ⟨0, 0, 0⟩)) := by
  induction pools generalizing existing with
  | nil => exact absurd rfl h
  | cons p pools ih =>
      rw [List.foldl_cons, List.foldl_cons]
      cases pools with
      | nil => rfl
      | cons q rest => exact ih _ (List.cons_ne_nil _ _)

/-- **THE ENTRY OF A PROFILE**, as the code makes it. -/
theorem entry_aggregate_eq (pools : List GPUNodePool) {profile : String} (hne : profile ≠ "") :
    (aggregateFleetFromPools pools).entry profile
      = if onProfile profile pools = [] then none
        else some ((onProfile profile pools).foldl mergePool ⟨0, 0, 0⟩) := by
  have hempty : (⟨0, 0, some ∅⟩ : FleetFreeCapacity).entry profile = none := rfl
  rw [aggregateFleetFromPools, entry_foldl _ _ hne, hempty]
  split_ifs with hnone
  · rw [hnone]
    rfl
  · exact foldl_joinPool none hnone

/-- Merged pools: the sums, and a memory size that is one of theirs. -/
theorem foldl_mergePool (pools : List GPUNodePool) (existing : ProfileFreeCapacity) :
    (pools.foldl mergePool existing).freeDevices
        = existing.freeDevices + (pools.map GPUNodePool.availableDevices).sum
      ∧ (pools.foldl mergePool existing).freeMemoryMiB = existing.freeMemoryMiB
        + (pools.map (fun p => p.availableDevices * p.memoryMiBPerDevice)).sum
      ∧ ((pools.foldl mergePool existing).memoryMiBPerDevice = existing.memoryMiBPerDevice
        ∨ ∃ p ∈ pools, p.memoryMiBPerDevice
          = (pools.foldl mergePool existing).memoryMiBPerDevice) := by
  induction pools generalizing existing with
  | nil => exact ⟨(Int.add_zero _).symm, (Int.add_zero _).symm, Or.inl rfl⟩
  | cons p pools ih =>
      obtain ⟨hdevices, hmemory, hsize⟩ := ih (mergePool existing p)
      rw [List.foldl_cons, hdevices, hmemory]
      refine ⟨Int.add_assoc .., Int.add_assoc .., ?_⟩
      rcases hsize with hsize | ⟨q, hq, hsize⟩
      · rw [hsize, mergePool]
        simp only
        split_ifs
        · exact Or.inr ⟨p, List.mem_cons_self .., rfl⟩
        · exact Or.inl rfl
      · exact Or.inr ⟨q, List.mem_cons_of_mem _ hq, hsize⟩

/-- **AN AGGREGATED ENTRY**: its devices are the sum over the pools of its profile, of
    which there is one; its memory size, when set, is that of one of them. -/
theorem entry_aggregate {pools : List GPUNodePool} {profile : String}
    {cap : ProfileFreeCapacity} (hne : profile ≠ "")
    (h : (aggregateFleetFromPools pools).entry profile = some cap) :
    cap.freeDevices = availableOn profile pools
      ∧ (∃ p ∈ pools, normalizeProfileName p.profile = profile)
      ∧ (cap.memoryMiBPerDevice ≠ 0 → ∃ p ∈ pools, normalizeProfileName p.profile = profile
        ∧ p.memoryMiBPerDevice = cap.memoryMiBPerDevice) := by
  rw [entry_aggregate_eq pools hne] at h
  split_ifs at h with hnone
  rw [← Option.some.inj h]
  obtain ⟨hdevices, -, hsize⟩ := foldl_mergePool (onProfile profile pools) ⟨0, 0, 0⟩
  refine ⟨hdevices.trans (Int.zero_add _), ?_, fun hset => ?_⟩
  · obtain ⟨p, hp⟩ := List.exists_mem_of_ne_nil _ hnone
    exact ⟨p, mem_onProfile.mp hp⟩
  · obtain ⟨p, hp, hmem⟩ := hsize.resolve_left hset
    exact ⟨p, (mem_onProfile.mp hp).1, (mem_onProfile.mp hp).2, hmem⟩

/-- Pools with a blank profile make no entry. -/
theorem entry_aggregate_blank (pools : List GPUNodePool) :
    (aggregateFleetFromPools pools).entry "" = none := by
  have hfold : ∀ out : FleetFreeCapacity,
      (pools.foldl addPool out).entry "" = out.entry "" := by
    induction pools with
    | nil => exact fun out => rfl
    | cons p rest ih =>
        intro out
        rw [List.foldl_cons, ih]
        by_cases hp : normalizeProfileName p.profile = ""
        · rw [addPool]
          simp only [if_pos hp]
        · exact entry_addPool_ne out (Ne.symm hp)
  exact hfold _

/-- The memory sizes of the entries are set. -/
def SizesSet (fleet : FleetFreeCapacity) : Prop :=
  ∀ e ∈ (fleet.byProfile.getD ∅).entries, 0 < e.2.memoryMiBPerDevice

/-- An entry that keeps the contract, or a new one, keeps it with one more pool. -/
theorem profileOk_mergePool {key : String} {existing : Option ProfileFreeCapacity}
    {p : GPUNodePool} (hkey : trimSpace key ≠ "")
    (hok : ∀ cap, existing = some cap → ProfileOk key cap ∧ 0 < cap.memoryMiBPerDevice)
    (havail : 0 ≤ p.availableDevices) (hmem : 0 < p.memoryMiBPerDevice) :
    ProfileOk key (mergePool (existing.getD ⟨0, 0, 0⟩) p)
      ∧ 0 < (mergePool (existing.getD ⟨0, 0, 0⟩) p).memoryMiBPerDevice := by
  have hmore : 0 ≤ p.availableDevices * p.memoryMiBPerDevice :=
    mul_nonneg havail (le_of_lt hmem)
  cases existing with
  | none =>
      have hzero : mergePool (none.getD ⟨0, 0, 0⟩) p = ⟨p.availableDevices,
          p.availableDevices * p.memoryMiBPerDevice, p.memoryMiBPerDevice⟩ := by
        simp [mergePool]
      rw [hzero]
      exact ⟨⟨hkey, havail, hmore, fun _ => hmem⟩, hmem⟩
  | some cap =>
      obtain ⟨hcap, hsize⟩ := hok cap rfl
      rw [Option.getD_some, mergePool, if_neg (ne_of_gt hsize)]
      exact ⟨⟨hkey, add_nonneg hcap.freeDevices havail, add_nonneg hcap.freeMemoryMiB hmore,
        fun _ => hsize⟩, hsize⟩

/-- The sums after one more pool. -/
theorem sum_mergePool (m : GoMap String ProfileFreeCapacity) (key : String) (p : GPUNodePool) :
    (((m.insert key (mergePool ((m.lookup key).getD ⟨0, 0, 0⟩) p)).entries).map
        (fun e => e.2.freeDevices)).sum
      = (m.entries.map (fun e => e.2.freeDevices)).sum + p.availableDevices
    ∧ (((m.insert key (mergePool ((m.lookup key).getD ⟨0, 0, 0⟩) p)).entries).map
        (fun e => e.2.freeMemoryMiB)).sum
      = (m.entries.map (fun e => e.2.freeMemoryMiB)).sum
        + p.availableDevices * p.memoryMiBPerDevice := by
  rw [sum_entries_write, sum_entries_write]
  cases m.lookup key with
  | none => simp [mergePool]
  | some cap =>
      simp only [Option.elim_some, Option.getD_some, mergePool]
      constructor <;> omega

/-- One more pool, with nothing negative about it, keeps the contract. -/
theorem fleetOk_addPool {out : FleetFreeCapacity} {p : GPUNodePool} (hok : FleetOk out)
    (hset : SizesSet out) (havail : 0 ≤ p.availableDevices) (hmem : 0 < p.memoryMiBPerDevice) :
    FleetOk (addPool out p) ∧ SizesSet (addPool out p) := by
  have htrim : trimSpace (normalizeProfileName p.profile) = normalizeProfileName p.profile :=
    trimSpace_toLower_trimSpace p.profile
  rw [addPool]
  -- the key counts only by not being blank
  generalize normalizeProfileName p.profile = key at htrim ⊢
  by_cases hblank : key = ""
  · simp only [if_pos hblank]
    exact ⟨hok, hset⟩
  · simp only [if_neg hblank]
    have hkey : trimSpace key ≠ "" := by
      rw [htrim]
      exact hblank
    have hmerged := profileOk_mergePool hkey (fun cap (hcap : out.entry key = some cap) =>
      ⟨hok.profiles _ (AList.mem_lookup_iff.mp hcap), hset _ (AList.mem_lookup_iff.mp hcap)⟩)
      havail hmem
    obtain ⟨hdevices, hmemory⟩ := sum_mergePool (out.byProfile.getD ∅) key p
    refine ⟨⟨add_nonneg hok.totalFreeDevices havail,
      add_nonneg hok.totalFreeMemoryMiB (mul_nonneg havail (le_of_lt hmem)),
      fun e he => ?_, ?_, ?_⟩, fun e he => ?_⟩
    · rcases mem_entries_insert he with rfl | he
      · exact hmerged.1
      · exact hok.profiles e he
    · rw [← hok.sumDevices]
      exact hdevices
    · rw [← hok.sumMemory]
      exact hmemory
    · rcases mem_entries_insert he with rfl | he
      · exact hmerged.2
      · exact hset e he

/-- **AN AGGREGATED FLEET KEEPS THE CONTRACT** when no pool's status is negative. -/
theorem fleetOk_aggregate {pools : List GPUNodePool}
    (h : ∀ p ∈ pools, 0 ≤ p.availableDevices ∧ 0 < p.memoryMiBPerDevice) :
    FleetOk (aggregateFleetFromPools pools) := by
  have hfold : ∀ out, FleetOk out → SizesSet out → FleetOk (pools.foldl addPool out) := by
    induction pools with
    | nil => exact fun out hok _ => hok
    | cons p rest ih =>
        intro out hok hset
        obtain ⟨havail, hmem⟩ := h p (List.mem_cons_self ..)
        obtain ⟨hok', hset'⟩ := fleetOk_addPool hok hset havail hmem
        rw [List.foldl_cons]
        exact ih (fun q hq => h q (List.mem_cons_of_mem _ hq)) _ hok' hset'
  refine hfold _ ⟨le_refl _, le_refl _, fun e he => ?_, rfl, rfl⟩ (fun e he => ?_)
  · cases he
  · cases he

/-! ## Counting by prefix -/

/-- A key of the form `namespace/name`, both without slashes. -/
def Qualified (poolKey : String) : Prop :=
  ∃ ns name : String, poolKey = ns ++ "/" ++ name ∧ '/' ∉ ns.toList ∧ '/' ∉ name.toList

theorem Qualified.ne_default {k : String} (h : Qualified k) : k ≠ defaultPoolKey := by
  obtain ⟨ns, name, rfl, -, -⟩ := h
  intro heq
  have hmem : '/' ∈ (ns ++ "/" ++ name).toList := by simp [String.toList_append]
  rw [heq] at hmem
  exact absurd hmem (by decide)

/-- Two lists with separator-free first components agree component by component. -/
private theorem sep_append_inj {sep : Char} {a b a' b' : List Char} (ha : sep ∉ a)
    (ha' : sep ∉ a') (h : a ++ sep :: b = a' ++ sep :: b') : a = a' ∧ b = b' := by
  have hcut := congrArg (cutList sep) h
  rw [cutList_append ha, cutList_append ha'] at hcut
  exact Prod.mk.inj (Option.some.inj hcut)

/-- The characters of a device ID of a qualified pool. -/
private theorem toList_deviceID_qualified {ns name : String} (i j : Nat)
    (hq : Qualified (ns ++ "/" ++ name)) :
    ∃ rest, (deviceID (ns ++ "/" ++ name) i j).toList
      = ns.toList ++ '/' :: (name.toList ++ '/' :: rest) := by
  have hne : ns ++ "/" ++ name ≠ "" ∧ ns ++ "/" ++ name ≠ defaultPoolKey := by
    refine ⟨fun heq => ?_, hq.ne_default⟩
    have := congrArg String.toList heq
    simp [String.toList_append] at this
  rw [deviceID, nodeID, poolPrefix, if_pos hne]
  exact ⟨"node-".toList ++ (fmtNat i).toList ++ ("/gpu-".toList ++ (fmtNat j).toList),
    by simp [String.toList_append]⟩

/-- **COUNTING BY PREFIX IS EXACT** for qualified keys: a device ID is counted for a pool
    exactly when it belongs to it. -/
theorem inPool_deviceID_iff {k k' : String} (hk : Qualified k) (hk' : Qualified k')
    (i j : Nat) : inPool k (deviceID k' i j) = true ↔ k' = k := by
  rw [inPool, if_neg hk.ne_default, startsWith_iff]
  have hkq := hk
  have hkq' := hk'
  obtain ⟨ns, name, rfl, hns, hname⟩ := hk
  obtain ⟨ns', name', rfl, hns', hname'⟩ := hk'
  obtain ⟨rest, hrest⟩ := toList_deviceID_qualified i j hkq'
  constructor
  · rintro ⟨tail, htail⟩
    rw [hrest] at htail
    have hl : ns'.toList ++ '/' :: (name'.toList ++ '/' :: rest)
        = ns.toList ++ '/' :: (name.toList ++ '/' :: tail) := by
      rw [htail]
      simp [String.toList_append]
    obtain ⟨h1, h2⟩ := sep_append_inj hns' hns hl
    obtain ⟨h3, -⟩ := sep_append_inj hname' hname h2
    rw [String.toList_inj.mp h1, String.toList_inj.mp h3]
  · intro heq
    rw [heq] at hrest ⊢
    obtain ⟨rest', hrest'⟩ := toList_deviceID_qualified i j hkq
    exact ⟨rest', by rw [hrest']; simp [String.toList_append]⟩

/-- The free devices of a pool. -/
def freeIn (s : Simulator) (nodes : List Node) : List Device :=
  (devicesOf nodes).filter (fun d => d.id ∉ allocatedIDs s)

/-- The pools of a state are keyed `namespace/name`. -/
def QualifiedPools (s : Simulator) : Prop :=
  ∀ key nodes, s.pools.lookup key = some nodes → Qualified key

/-- Every allocated ID is the ID of a registered device. -/
def AllocationsExist (s : Simulator) : Prop :=
  ∀ x ∈ allocatedIDs s, ∃ key nodes, s.pools.lookup key = some nodes
    ∧ x ∈ (devicesOf nodes).map Device.id

/-- **THE STATUS IS EXACT**: with qualified keys and no dangling allocation, the
    available devices of a pool are its free ones. -/
theorem availableDevices_eq {s : Simulator} (hs : Sound s) (hq : QualifiedPools s)
    (hex : AllocationsExist s) {key : String} {nodes : List Node}
    (hl : s.pools.lookup key = some nodes) :
    (fleetUsageForPool s key).1.availableDevices = (freeIn s nodes).length := by
  obtain ⟨hkey, spec, hbuild⟩ := hs.built key nodes hl
  rw [fleetUsageForPool, hl]
  by_cases hnil : nodes = []
  · simp [hnil, freeIn, devicesOf]
  · simp only [if_neg hnil]
    -- the IDs counted as allocated are those of the pool's used devices
    have hperm : ((allocatedIDs s).filter (inPool key)).Perm
        (((devicesOf nodes).filter (fun d => d.id ∈ allocatedIDs s)).map Device.id) := by
      refine (List.perm_ext_iff_of_nodup (hs.allocated.filter _)
        ((nodup_devicesOf_build hkey hbuild).sublist (List.filter_sublist.map _))).mpr ?_
      intro x
      simp only [List.mem_filter, List.mem_map, decide_eq_true_eq]
      constructor
      · rintro ⟨hx, hin⟩
        obtain ⟨key', nodes', hl', hx'⟩ := hex x hx
        obtain ⟨d, hd, rfl⟩ := List.mem_map.mp hx'
        obtain ⟨-, spec', hbuild'⟩ := hs.built key' nodes' hl'
        obtain ⟨i, hi, j, hj, rfl⟩ := (mem_devicesOf_build hbuild').mp hd
        have hkk := (inPool_deviceID_iff (hq key nodes hl) (hq key' nodes' hl') i j).mp hin
        subst hkk
        have hnodes := Option.some.inj (hl.symm.trans hl')
        subst hnodes
        exact ⟨_, ⟨hd, hx⟩, rfl⟩
      · rintro ⟨d, ⟨hd, hused⟩, rfl⟩
        obtain ⟨i, hi, j, hj, rfl⟩ := (mem_devicesOf_build hbuild).mp hd
        exact ⟨hused, (inPool_deviceID_iff (hq key nodes hl) (hq key nodes hl) i j).mpr rfl⟩
    have hlen := hperm.length_eq
    rw [List.length_map] at hlen
    have hsplit := List.length_eq_length_filter_add
      (l := devicesOf nodes) (fun d => decide (d.id ∈ allocatedIDs s))
    have hfree : (freeIn s nodes).length
        = ((devicesOf nodes).filter (fun d => !decide (d.id ∈ allocatedIDs s))).length := by
      rw [freeIn]
      simp
    rw [hfree, hlen]
    omega

/-- An `int32` conversion never exceeds a non-negative number. -/
theorem toInt32_le {x : Int} (hx : 0 ≤ x) : toInt32 x ≤ x := by
  rw [toInt32, Int.bmod_def]
  have h1 : 0 ≤ x % (2 ^ 32 : Nat) := Int.emod_nonneg x (by decide)
  have h2 : x % (2 ^ 32 : Nat) ≤ x := by omega
  split_ifs <;> omega

/-- The free devices of some pools of a profile. -/
def freeOn (s : Simulator) (pools : List GPUNodePool) (profile : String) : List Device :=
  freeIn s (allNodes s ((pools.filter (fun p =>
    normalizeProfileName p.profile = profile)).map GPUNodePool.poolKey))

/-- The pools are registered, and their statuses are up to date. -/
def UpToDate (s : Simulator) (pools : List GPUNodePool) : Prop :=
  ∀ p ∈ pools, p.availableDevices = desiredAvailable s p.poolKey
    ∧ ∃ nodes, s.pools.lookup p.poolKey = some nodes

/-- **THE FREE CAPACITY IS COVERED**: the aggregated free devices of a profile are at most
    the free devices of its pools. -/
theorem availableOn_le_freeOn {s : Simulator} (hs : Sound s) (hq : QualifiedPools s)
    (hex : AllocationsExist s) (profile : String) {pools : List GPUNodePool}
    (h : UpToDate s pools) : availableOn profile pools ≤ (freeOn s pools profile).length := by
  induction pools with
  | nil => exact Int.natCast_nonneg _
  | cons p ps ih =>
      have ih := ih (fun q hq => h q (List.mem_cons_of_mem _ hq))
      obtain ⟨hav, nodes, hl⟩ := h p (List.mem_cons_self ..)
      have hp : p.availableDevices ≤ (freeIn s nodes).length := by
        rw [hav, desiredAvailable, availableDevices_eq hs hq hex hl]
        exact toInt32_le (by omega)
      rw [availableOn, sumOf_cons]
      rw [availableOn, freeOn] at ih
      by_cases hprof : normalizeProfileName p.profile = profile
      · rw [if_pos hprof, freeOn, List.filter_cons, if_pos (by simpa using hprof),
          List.map_cons]
        have hsplit : freeIn s (allNodes s (p.poolKey :: (ps.filter (fun p =>
            normalizeProfileName p.profile = profile)).map GPUNodePool.poolKey))
            = freeIn s nodes ++ freeIn s (allNodes s ((ps.filter (fun p =>
              normalizeProfileName p.profile = profile)).map GPUNodePool.poolKey)) := by
          rw [freeIn, allNodes, List.flatMap_cons, hl, devicesOf, List.flatMap_append,
            List.filter_append]
          rfl
        rw [hsplit, List.length_append]
        omega
      · rw [if_neg hprof, freeOn, List.filter_cons, if_neg (by simpa using hprof),
          Int.zero_add]
        exact ih

end GpuFleet
