import GpuScheduler.FleetProofs

/-! # Usage by pool

    The simulator does not record which pool a device came from: `FleetUsageForPool` reads
    it off the device ID, by counting slashes for the default pool and by prefix for the
    others.  For keys of the operator's form (`namespace/name`) the reading is exact, and
    the pools' counts add up to the count of the whole fleet (`allocated_by_pool`).

    The totals are another matter.  A pool can be registered again with fewer devices while
    the ones that go are allocated; then more devices are allocated than there are, and the
    negative rest reaches the scheduler's input contract.  `usage_of_keeps` says what a
    registration has to keep. -/

namespace GpuFleetUsage

open GoStrings GoMaps GpuInputs GpuCompat GpuPlacement GpuSimulator GpuFleet StepRuns

/-- `FleetUsage()`, over all pools. -/
def fleetUsage (s : Simulator) : FleetUsage :=
  let total : Int := (devicesOf (allNodes s s.pools.keys)).length
  let allocated : Int := (allocatedIDs s).length
  ⟨total, allocated, total - allocated, if 0 < total then (allocated : Rat) / total else 0⟩

/-- The key under which `RegisterFleet` stores a pool. -/
def fullKey (poolKey : String) : String := if poolKey = "" then defaultPoolKey else poolKey

/-- The default key, or one of the form `namespace/name`. -/
def Formed (key : String) : Prop := key = defaultPoolKey ∨ Qualified key

/-! ## What a call does to the pools and the devices in use -/

/-- The call is a registration. -/
def registers : Op → Bool
  | .registerFleet _ _ => true
  | _ => false

/-- The effect of one call on a state. -/
inductive Change (s : Simulator) : Op → Simulator → Prop where
  /-- A pool is registered, or registered again. -/
  | register (poolKey : String) (spec : GPUNodePoolSpec) (nodes : List Node) (t : Simulator)
      (build : buildNodesWithPoolKey spec (fullKey poolKey) = .ok nodes)
      (pools : t.pools = s.pools.insert (fullKey poolKey) nodes)
      (same : allocatedIDs t = allocatedIDs s) : Change s (.registerFleet poolKey spec) t
  /-- A specification is refused. -/
  | refuse (poolKey : String) (spec : GPUNodePoolSpec) (err : BuildError)
      (build : buildNodesWithPoolKey spec (fullKey poolKey) = .error err) :
      Change s (.registerFleet poolKey spec) s
  | delete (poolKey : String) (t : Simulator) : Change s (.deleteFleet poolKey) t
  /-- Registered devices are taken. -/
  | take (op : Op) (ids : List String) (t : Simulator) (other : registers op = false)
      (pools : t.pools = s.pools) (more : allocatedIDs t = ids ++ allocatedIDs s)
      (devices : ∀ x ∈ ids, ∃ key nodes, s.pools.lookup key = some nodes
        ∧ x ∈ (devicesOf nodes).map Device.id) : Change s op t
  /-- Devices are given back, or nothing happens. -/
  | drop (op : Op) (t : Simulator) (other : registers op = false) (pools : t.pools = s.pools)
      (less : (allocatedIDs t).Sublist (allocatedIDs s)) : Change s op t

section
variable {est : Estimator} {s t : Simulator} {op : Op}

/-- A call that changes neither pools nor allocations. -/
theorem Change.of_same (hop : registers op = false)
    (h : t.pools = s.pools ∧ t.allocations = s.allocations) : Change s op t := by
  refine .drop op t hop h.1 ?_
  rw [allocatedIDs, allocatedIDs, h.2]

/-- **ONE CALL** registers a pool, takes registered devices, or gives some back. -/
theorem change_of_step (h : step est s op = some t) : Change s op t := by
  rcases failed_or_done h with ⟨hfail, rfl⟩ | ⟨-, hdone⟩
  · cases op with
    | registerFleet poolKey spec =>
        cases hb : buildNodesWithPoolKey spec (fullKey poolKey) with
        | error e => exact .refuse poolKey spec e hb
        | ok nodes =>
            rw [fullKey] at hb
            simp only [GpuSimulator.failure, registerFleet, hb, errorOf, ne_eq,
              not_true_eq_false] at hfail
    | deleteFleet poolKey => exact absurd rfl hfail
    | _ => exact .of_same rfl ⟨rfl, rfl⟩
  cases hdone with
  | @registerFleet poolKey spec t h =>
      cases hb : buildNodesWithPoolKey spec (fullKey poolKey) with
      | error e =>
          rw [fullKey] at hb
          simp only [registerFleet, hb] at h
          cases h
      | ok nodes =>
          have hb' := hb
          rw [fullKey] at hb'
          simp only [registerFleet, hb'] at h
          rw [← Except.ok.inj h]
          exact .register poolKey spec nodes _ hb rfl rfl
  | deleteFleet poolKey => exact .delete poolKey _
  | allocateWithOptions _ h =>
      obtain ⟨hfresh, -, -, -, hsub, rfl⟩ := allocateWithOptions_ok h
      refine .take _ _ _ rfl rfl (allocatedIDs_insert _ hfresh) (fun x hx => ?_)
      obtain ⟨d, hd, rfl⟩ := List.mem_map.mp (hsub.subset hx)
      obtain ⟨key, -, nodes, hl, hd⟩ := mem_devicesOf_allNodes.mp (List.mem_of_mem_filter hd)
      exact ⟨key, nodes, hl, List.mem_map_of_mem hd⟩
  | startWithRuntimeInput _ h => exact .of_same rfl (startWithRuntimeInput_same h)
  | getStatus h => exact .of_same rfl (getStatus_same h)
  | getLatestRunStatusForWorkload h => exact .of_same rfl (getLatestRunStatusForWorkload_same h)
  | preempt h => exact .of_same rfl (preempt_same h)
  | @release workloadID t h =>
      rw [release_ok h]
      exact .drop _ _ rfl rfl (allocatedIDs_erase s workloadID)

end

/-! ## Reading the pool off a device ID -/

theorem count_slash_fmtNat (n : Nat) : (fmtNat n).toList.count '/' = 0 :=
  List.count_eq_zero_of_not_mem (not_mem_fmtNat (by decide) n)

/-- A device ID has two slashes more than its pool's key, except in the default pool. -/
theorem count_slash_deviceID {k : String} (hk : k ≠ "" ∧ k ≠ defaultPoolKey) (i j : Nat) :
    count (deviceID k i j) '/' = count k '/' + 2 := by
  rw [count, count, deviceID, nodeID, poolPrefix, if_pos hk]
  simp only [String.toList_append, List.count_append, count_slash_fmtNat]
  rfl

theorem count_slash_default (i j : Nat) : count (deviceID defaultPoolKey i j) '/' = 1 := by
  rw [count, deviceID, nodeID, poolPrefix, if_neg (fun h => h.2 rfl)]
  simp only [String.toList_append, List.count_append, count_slash_fmtNat]
  rfl

theorem ne_empty_of_qualified {k : String} (h : Qualified k) : k ≠ "" := by
  obtain ⟨ns, name, rfl, -, -⟩ := h
  intro heq
  have := congrArg String.toList heq
  simp [String.toList_append] at this

/-- **THE POOL OF AN ID** is read correctly for every pair of formed keys. -/
theorem inPool_iff {k k' : String} (hk : Formed k) (hk' : Formed k') (i j : Nat) :
    inPool k (deviceID k' i j) = true ↔ k' = k := by
  rcases hk with rfl | hk
  · rw [inPool, if_pos rfl, decide_eq_true_iff]
    rcases hk' with rfl | hk'
    · exact ⟨fun _ => rfl, fun _ => count_slash_default i j⟩
    · rw [count_slash_deviceID ⟨ne_empty_of_qualified hk', hk'.ne_default⟩]
      exact ⟨fun h => absurd h (by omega), fun h => absurd h hk'.ne_default⟩
  · rcases hk' with rfl | hk'
    · -- an ID of the default pool has one slash, the prefix has two
      rw [inPool, if_neg hk.ne_default, startsWith_iff]
      constructor
      · rintro ⟨rest, hrest⟩
        obtain ⟨ns, name, rfl, -, -⟩ := hk
        have hone := count_slash_default i j
        rw [count, hrest] at hone
        simp [String.toList_append] at hone
        omega
      · intro h
        exact absurd h.symm hk.ne_default
    · exact inPool_deviceID_iff hk hk' i j

/-! ## The pool a device was created for -/

/-- The call creates the device for the pool. -/
def creates (op : Op) (key id : String) : Bool :=
  match op with
  | .registerFleet poolKey spec =>
      if fullKey poolKey = key then
        match buildNodesWithPoolKey spec key with
        | .ok nodes => decide (id ∈ (devicesOf nodes).map Device.id)
        | .error _ => false
      else false
  | _ => false

/-- One of the calls has created the device for the pool. -/
def createdFor (ops : List Op) (key id : String) : Bool := ops.any (fun op => creates op key id)

theorem fullKey_ne_empty (poolKey : String) : fullKey poolKey ≠ "" := by
  rw [fullKey]
  split_ifs with h
  · decide
  · exact h

/-- What a call creates for a pool are devices with the pool's IDs. -/
theorem creates_iff {op : Op} {key id : String} :
    creates op key id = true ↔ ∃ poolKey spec nodes, op = .registerFleet poolKey spec
      ∧ fullKey poolKey = key ∧ buildNodesWithPoolKey spec key = .ok nodes
      ∧ id ∈ (devicesOf nodes).map Device.id := by
  constructor
  · intro h
    cases op with
    | registerFleet poolKey spec =>
        simp only [creates] at h
        split_ifs at h with hkey
        cases hb : buildNodesWithPoolKey spec key with
        | error e =>
            rw [hb] at h
            cases h
        | ok nodes =>
            rw [hb] at h
            exact ⟨poolKey, spec, nodes, rfl, hkey, hb, of_decide_eq_true h⟩
    | _ => cases h
  · rintro ⟨poolKey, spec, nodes, rfl, hkey, hb, hid⟩
    simp only [creates, if_pos hkey, hb]
    exact decide_eq_true hid

/-- A created device has an ID of its pool, whose key is not empty. -/
theorem deviceID_of_createdFor {ops : List Op} {key id : String}
    (h : createdFor ops key id = true) : key ≠ "" ∧ ∃ i j, id = deviceID key i j := by
  obtain ⟨op, -, hop⟩ := List.any_eq_true.mp h
  obtain ⟨poolKey, spec, nodes, -, rfl, hb, hid⟩ := creates_iff.mp hop
  obtain ⟨d, hd, rfl⟩ := List.mem_map.mp hid
  obtain ⟨i, -, j, -, rfl⟩ := (mem_devicesOf_build hb).mp hd
  exact ⟨fullKey_ne_empty poolKey, i, j, rfl⟩

/-- A device is created for one pool only. -/
theorem createdFor_unique {ops : List Op} {key key' id : String}
    (h : createdFor ops key id = true) (h' : createdFor ops key' id = true) : key = key' := by
  obtain ⟨hne, i, j, rfl⟩ := deviceID_of_createdFor h
  obtain ⟨hne', i', j', heq⟩ := deviceID_of_createdFor h'
  exact (deviceID_injective hne hne' heq).1

/-- What was created stays created. -/
theorem createdFor_append (past : List Op) (op : Op) (key id : String) :
    createdFor (past ++ [op]) key id = true
      ↔ createdFor past key id = true ∨ creates op key id = true := by
  rw [createdFor, createdFor, List.any_append, Bool.or_eq_true, List.any_cons, List.any_nil,
    Bool.or_false]

theorem build_ne_nil {spec : GPUNodePoolSpec} {key : String} {nodes : List Node}
    (h : buildNodesWithPoolKey spec key = .ok nodes) : nodes ≠ [] := by
  rw [buildNodesWithPoolKey] at h
  split_ifs at h with h1
  rw [← Except.ok.inj h]
  intro hnil
  have hlen := congrArg List.length hnil
  rw [List.length_map, List.length_range, List.length_nil] at hlen
  omega

/-- **TRACED**: without deletions, every device in use was created for a pool that is still
    registered. -/
structure Traced (past : List Op) (s : Simulator) : Prop where
  pools : ∀ key nodes, s.pools.lookup key = some nodes →
    nodes ≠ [] ∧ ∀ x ∈ (devicesOf nodes).map Device.id, createdFor past key x = true
  allocated : ∀ x ∈ allocatedIDs s, ∃ key, createdFor past key x = true
  registered : ∀ key x, createdFor past key x = true → (s.pools.lookup key).isSome

section
variable {est : Estimator} {past : List Op} {s t : Simulator} {op : Op}

/-- A call that registers nothing and takes only what was created. -/
theorem Traced.of_same (h : Traced past s) (hidle : ∀ key x, creates op key x = false)
    (hp : t.pools = s.pools)
    (halloc : ∀ x ∈ allocatedIDs t, ∃ key, createdFor past key x = true) :
    Traced (past ++ [op]) t := by
  have hsame : ∀ {key x}, createdFor (past ++ [op]) key x = true
      ↔ createdFor past key x = true := by
    intro key x
    rw [createdFor_append, hidle, Bool.false_eq_true, or_false]
  refine ⟨fun key nodes hl => ?_, fun x hx => ?_, fun key x hc => ?_⟩
  · rw [hp] at hl
    obtain ⟨hne, hall⟩ := h.pools key nodes hl
    exact ⟨hne, fun x hx => hsame.mpr (hall x hx)⟩
  · obtain ⟨key, hc⟩ := halloc x hx
    exact ⟨key, hsame.mpr hc⟩
  · rw [hp]
    exact h.registered key x (hsame.mp hc)

/-- A registration that succeeds creates the devices of its pool. -/
theorem Traced.register (h : Traced past s) {poolKey : String} {spec : GPUNodePoolSpec}
    {nodes : List Node} (build : buildNodesWithPoolKey spec (fullKey poolKey) = .ok nodes)
    (pools : t.pools = s.pools.insert (fullKey poolKey) nodes)
    (same : allocatedIDs t = allocatedIDs s) :
    Traced (past ++ [.registerFleet poolKey spec]) t := by
  have hmono : ∀ {key x}, createdFor past key x = true →
      createdFor (past ++ [.registerFleet poolKey spec]) key x = true :=
    fun hc => (createdFor_append past _ _ _).mpr (Or.inl hc)
  refine ⟨fun key ns hl => ?_, fun x hx => ?_, fun key x hc => ?_⟩
  · rw [pools] at hl
    rcases lookup_insert_eq_some.mp hl with ⟨rfl, rfl⟩ | ⟨-, hl⟩
    · refine ⟨build_ne_nil build, fun x hx => (createdFor_append past _ _ _).mpr (Or.inr ?_)⟩
      exact creates_iff.mpr ⟨poolKey, spec, _, rfl, rfl, build, hx⟩
    · obtain ⟨hne, hall⟩ := h.pools key ns hl
      exact ⟨hne, fun x hx => hmono (hall x hx)⟩
  · rw [same] at hx
    obtain ⟨key, hc⟩ := h.allocated x hx
    exact ⟨key, hmono hc⟩
  · rw [pools]
    by_cases hkey : key = fullKey poolKey
    · rw [hkey, AList.lookup_insert]
      rfl
    · rw [AList.lookup_insert_ne hkey]
      rcases (createdFor_append past _ key x).mp hc with hc | hc
      · exact h.registered key x hc
      · obtain ⟨poolKey', spec', nodes', heq, hfull, -, -⟩ := creates_iff.mp hc
        rw [Op.registerFleet.injEq] at heq
        rw [← heq.1] at hfull
        exact absurd hfull.symm hkey

/-- Only a registration creates devices. -/
theorem creates_eq_false (hop : registers op = false) (key id : String) :
    creates op key id = false := by
  refine Bool.eq_false_iff.mpr (fun h => ?_)
  obtain ⟨poolKey, spec, -, rfl, -⟩ := creates_iff.mp h
  cases hop

/-- Every call but a deletion keeps the trace. -/
theorem Traced.step (h : Traced past s) (hop : ∀ key, op ≠ .deleteFleet key)
    (hst : step est s op = some t) : Traced (past ++ [op]) t := by
  cases change_of_step hst with
  | register poolKey spec nodes _ build pools same => exact h.register build pools same
  | refuse poolKey spec err build =>
      refine h.of_same (fun key x => Bool.eq_false_iff.mpr (fun hc => ?_)) rfl h.allocated
      obtain ⟨poolKey', spec', nodes', heq, rfl, hb, -⟩ := creates_iff.mp hc
      rw [Op.registerFleet.injEq] at heq
      rw [← heq.1, ← heq.2, build] at hb
      cases hb
  | delete poolKey => exact absurd rfl (hop poolKey)
  | take _ ids _ other pools more devices =>
      refine h.of_same (creates_eq_false other) pools (fun x hx => ?_)
      rw [more] at hx
      rcases List.mem_append.mp hx with hx | hx
      · obtain ⟨key, nodes, hl, hx⟩ := devices x hx
        exact ⟨key, (h.pools key nodes hl).2 x hx⟩
      · exact h.allocated x hx
  | drop _ _ other pools less =>
      exact h.of_same (creates_eq_false other) pools (fun x hx => h.allocated x (less.subset hx))

theorem traced_of_runs {ops : List Op} (h : Runs (GpuSimulator.step est) Always newSimulator ops s)
    (hops : ∀ key, Op.deleteFleet key ∉ ops) : Traced ops s := by
  have hkept : ∀ op ∈ ops, ∀ key, op ≠ .deleteFleet key := by
    intro op hop key heq
    exact hops key (heq ▸ hop)
  have hstart : Traced [] newSimulator :=
    ⟨fun key nodes h => (by cases h), fun x h => (by cases h), fun key x h => (by cases h)⟩
  have hall := (h.and_labels hkept).history
    (fun past s op t (hs : Traced past s) hC hst => hs.step hC.2 hst) hstart
  rw [List.nil_append] at hall
  exact hall

end

/-! ## The counts add up -/

/-- If each element passes exactly one of some tests, the tests count every element once. -/
theorem sum_length_filter {α β : Type} {keys : List α} {p : α → β → Bool} {l : List β}
    [DecidableEq α] (hkeys : keys.Nodup)
    (h : ∀ x ∈ l, ∃ k ∈ keys, ∀ k' ∈ keys, p k' x = true ↔ k' = k) :
    (keys.map (fun k => ((l.filter (p k)).length : Int))).sum = l.length := by
  induction l with
  | nil => simp
  | cons x l ih =>
      obtain ⟨k, hk, hx⟩ := h x (List.mem_cons_self ..)
      have ih := ih (fun y hy => h y (List.mem_cons_of_mem _ hy))
      have hsplit : keys.map (fun k' => (((x :: l).filter (p k')).length : Int))
          = keys.map (fun k' => (if k' = k then 1 else 0) + ((l.filter (p k')).length : Int)) := by
        refine List.map_congr_left (fun k' hk' => ?_)
        by_cases hkk : k' = k
        · rw [List.filter_cons_of_pos ((hx k' hk').mpr hkk), if_pos hkk, List.length_cons]
          omega
        · have hno : ¬p k' x = true := fun hp => hkk ((hx k' hk').mp hp)
          rw [List.filter_cons_of_neg hno, if_neg hkk, Int.zero_add]
      have hone : (keys.map (fun k' => if k' = k then (1 : Int) else 0)).sum = 1 := by
        rw [List.sum_map_ite_eq]
        simp [List.count_eq_one_of_mem hkeys hk]
      rw [hsplit, List.sum_map_add, hone, ih, List.length_cons]
      omega

/-- What is said of the pools' counts. -/
structure ByPool (ops : List Op) (s : Simulator) : Prop where
  /-- A pool's allocated devices are the IDs in use that were created for it. -/
  pool : ∀ key, (fleetUsageForPool s key).1.allocatedDevices
    = ((allocatedIDs s).filter (createdFor ops key)).length
  /-- The registered pools' counts add up to the fleet's. -/
  sum : (s.pools.keys.map (fun key => (fleetUsageForPool s key).1.allocatedDevices)).sum
    = (fleetUsage s).allocatedDevices

section
variable {ops : List Op} {s : Simulator}

/-- A key that a device was created for is registered. -/
theorem Traced.mem_keys (h : Traced ops s) {key x : String} (hc : createdFor ops key x = true) :
    key ∈ s.pools.keys :=
  mem_keys_iff.mpr (Option.isSome_iff_exists.mp (h.registered key x hc))

/-- The test by ID agrees with the history. -/
theorem Traced.inPool_eq (h : Traced ops s) (hkeys : ∀ key ∈ s.pools.keys, Formed key)
    {key : String} (hkey : key ∈ s.pools.keys) {x : String} (hx : x ∈ allocatedIDs s) :
    inPool key x = createdFor ops key x := by
  obtain ⟨owner, hc⟩ := h.allocated x hx
  obtain ⟨-, i, j, hid⟩ := deviceID_of_createdFor hc
  have hin : inPool key x = true ↔ owner = key := by
    rw [hid]
    exact inPool_iff (hkeys key hkey) (hkeys owner (h.mem_keys hc)) i j
  rw [Bool.eq_iff_iff, hin]
  constructor
  · rintro rfl
    exact hc
  · intro hc'
    exact createdFor_unique hc hc'

/-- A pool's count, registered or not. -/
theorem Traced.allocatedDevices_eq (h : Traced ops s) (hkeys : ∀ key ∈ s.pools.keys, Formed key)
    (key : String) :
    (fleetUsageForPool s key).1.allocatedDevices
      = ((allocatedIDs s).filter (createdFor ops key)).length := by
  rw [fleetUsageForPool]
  cases hl : s.pools.lookup key with
  | none =>
      have hnil : (allocatedIDs s).filter (createdFor ops key) = [] := by
        refine List.filter_eq_nil_iff.mpr (fun x _ hc => ?_)
        have hsome := h.registered key x hc
        rw [hl] at hsome
        cases hsome
      rw [hnil]
      rfl
  | some nodes =>
      have hkey : key ∈ s.pools.keys := mem_keys_iff.mpr ⟨nodes, hl⟩
      simp only [if_neg (h.pools key nodes hl).1]
      rw [List.filter_congr (fun x hx => h.inPool_eq hkeys hkey hx)]

end

/-- **USAGE BY POOL IS EXACT** in every state reachable without `DeleteFleet` whose keys are
    the default one or of the form `namespace/name`. -/
theorem allocated_by_pool (est : Estimator) {ops : List Op} {s : Simulator}
    (hrun : Runs (step est) Always newSimulator ops s)
    (hops : ∀ key, Op.deleteFleet key ∉ ops) (hkeys : ∀ key ∈ s.pools.keys, Formed key) :
    ByPool ops s := by
  have htrace := traced_of_runs hrun hops
  refine ⟨htrace.allocatedDevices_eq hkeys, ?_⟩
  simp only [htrace.allocatedDevices_eq hkeys]
  refine sum_length_filter s.pools.keys_nodup (fun x hx => ?_)
  obtain ⟨owner, hc⟩ := htrace.allocated x hx
  refine ⟨owner, htrace.mem_keys hc, fun key _ => ⟨fun hc' => ?_, fun heq => heq ▸ hc⟩⟩
  exact createdFor_unique hc' hc

/-- Two pools and the default one, each with devices in use; one has shrunk under them. -/
def threePools : List Op :=
  [.registerFleet "" ⟨1, 2, 80, "gpu", "h100_sxm"⟩,
   .allocateWithOptions ["_default"] "ns/u" 1 40 ⟨.firstFit, false, 0, "", "h100_sxm"⟩,
   .registerFleet "ns/a" ⟨2, 1, 80, "gpu", "a100_80gb"⟩,
   .allocateWithOptions ["ns/a", "_default"] "ns/v" 2 40 ⟨.pack, false, 0, "", "a100_80gb"⟩,
   .registerFleet "ns/a" ⟨1, 1, 80, "gpu", "a100_80gb"⟩,
   .registerFleet "ns/a-b" ⟨1, 1, 80, "gpu", "h100_sxm"⟩]

/-- The devices that are gone are still counted for their pool. -/
theorem threePools_by_pool :
    ∃ s, Runs (step (fun _ _ _ => .ok 1)) Always newSimulator threePools s
      ∧ s.pools.keys.map (fun key => (fleetUsageForPool s key).1.allocatedDevices) = [0, 2, 1]
      ∧ ByPool threePools s := by
  have hend : (exec (step (fun _ _ _ => .ok 1)) newSimulator threePools).map (fun s =>
      (s.pools.keys, s.pools.keys.map (fun key => (fleetUsageForPool s key).1.allocatedDevices)))
      = some (["ns/a-b", "ns/a", "_default"], [0, 2, 1]) := by decide +kernel
  obtain ⟨s, hexec, hs⟩ := Option.map_eq_some_iff.mp hend
  obtain ⟨hkeys, hcounts⟩ := Prod.mk.inj hs
  have hruns := Runs.of_exec hexec
  refine ⟨s, hruns, hcounts, allocated_by_pool _ hruns ?_ ?_⟩
  · intro key hmem
    simp [threePools] at hmem
  · intro key hkey
    rw [hkeys] at hkey
    simp only [List.mem_cons, List.not_mem_nil, or_false] at hkey
    rcases hkey with rfl | rfl | rfl
    · exact Or.inr ⟨"ns", "a-b", by decide, by decide, by decide⟩
    · exact Or.inr ⟨"ns", "a", by decide, by decide, by decide⟩
    · exact Or.inl rfl

/-! ## Totals -/

/-- Between nothing and everything is allocated. -/
structure WithinTotals (u : FleetUsage) : Prop where
  nonneg : 0 ≤ u.allocatedDevices
  le : u.allocatedDevices ≤ u.totalDevices
  available : 0 ≤ u.availableDevices
  utilization : 0 ≤ u.utilization ∧ u.utilization ≤ 1

/-- The usage of every registered pool and of the fleet is within its total. -/
structure UsageOk (s : Simulator) : Prop where
  pools : ∀ key ∈ s.pools.keys, WithinTotals (fleetUsageForPool s key).1
  fleet : WithinTotals (fleetUsage s)

/-- The resources of registered pools, with the statuses that the pool controller writes. -/
def Published (s : Simulator) (pools : List GPUNodePool) : Prop :=
  ∀ p ∈ pools, p.availableDevices = desiredAvailable s p.poolKey
    ∧ ∃ nodes, s.pools.lookup p.poolKey = some nodes
      ∧ buildNodesWithPoolKey p.simSpec p.poolKey = .ok nodes

/-- The free capacity aggregated from published statuses passes the contract's checks. -/
def CapacityOk (s : Simulator) : Prop :=
  ∀ pools, Published s pools → checkFleet (aggregateFleetFromPools pools) = .ok ()

/-- **WHAT A REGISTRATION KEEPS**: its key is formed, every device in use that is counted for
    the pool is built again, and the number of devices fits the status field.  A pool is
    not deleted. -/
def Keeps (s : Simulator) : Op → Prop
  | .registerFleet poolKey spec =>
      ∀ nodes, buildNodesWithPoolKey spec (fullKey poolKey) = .ok nodes →
        Formed (fullKey poolKey)
        ∧ (∀ x ∈ allocatedIDs s, inPool (fullKey poolKey) x = true →
          x ∈ (devicesOf nodes).map Device.id)
        ∧ (devicesOf nodes).length < 2 ^ 31
  | .deleteFleet _ => False
  | _ => True

/-- What holds in between. -/
structure Kept (s : Simulator) : Prop where
  sound : Sound s
  formed : ∀ key nodes, s.pools.lookup key = some nodes →
    Formed key ∧ (devicesOf nodes).length < 2 ^ 31
  exist : AllocationsExist s

theorem withinTotals_of_le {total allocated : Int} (h0 : 0 ≤ allocated) (h : allocated ≤ total) :
    WithinTotals ⟨total, allocated, total - allocated,
      if 0 < total then (allocated : Rat) / total else 0⟩ := by
  refine ⟨h0, h, by simp only; omega, ?_⟩
  simp only
  split_ifs with hpos
  · have hpos' : (0 : Rat) < total := by exact_mod_cast hpos
    have h0' : (0 : Rat) ≤ allocated := by exact_mod_cast h0
    have hle' : (allocated : Rat) ≤ total := by exact_mod_cast h
    exact ⟨div_nonneg h0' (le_of_lt hpos'), (div_le_one hpos').mpr hle'⟩
  · exact ⟨le_refl _, zero_le_one⟩

section
variable {est : Estimator} {s t : Simulator} {op : Op}

/-- The IDs counted for a pool are IDs of its devices. -/
theorem Kept.counted (h : Kept s) {key : String} {nodes : List Node}
    (hl : s.pools.lookup key = some nodes) {x : String} (hx : x ∈ allocatedIDs s)
    (hin : inPool key x = true) : x ∈ (devicesOf nodes).map Device.id := by
  obtain ⟨key', nodes', hl', hx'⟩ := h.exist x hx
  obtain ⟨d, hd, rfl⟩ := List.mem_map.mp hx'
  obtain ⟨-, spec', hbuild'⟩ := h.sound.built key' nodes' hl'
  obtain ⟨i, -, j, -, rfl⟩ := (mem_devicesOf_build hbuild').mp hd
  have hkey := (inPool_iff (h.formed key nodes hl).1 (h.formed key' nodes' hl').1 i j).mp hin
  rw [hkey, hl] at hl'
  rw [Option.some.inj hl']
  exact List.mem_map_of_mem hd

/-- Registered nodes are visited. -/
theorem mem_allNodes_keys {key : String} {nodes : List Node}
    (hl : s.pools.lookup key = some nodes) {x : String}
    (hx : x ∈ (devicesOf nodes).map Device.id) :
    x ∈ (devicesOf (allNodes s s.pools.keys)).map Device.id := by
  obtain ⟨d, hd, rfl⟩ := List.mem_map.mp hx
  refine List.mem_map_of_mem ?_
  exact mem_devicesOf_allNodes.mpr ⟨key, mem_keys_iff.mpr ⟨nodes, hl⟩, nodes, hl, hd⟩

/-- Distinct IDs of some devices are no more than the devices. -/
theorem length_le_of_ids {ids : List String} {devices : List Device} (hnd : ids.Nodup)
    (h : ∀ x ∈ ids, x ∈ devices.map Device.id) : ids.length ≤ devices.length := by
  have hle := (List.subperm_of_subset hnd h).length_le
  rw [List.length_map] at hle
  exact hle

theorem Kept.usageOk (h : Kept s) : UsageOk s := by
  refine ⟨fun key hkey => ?_, ?_⟩
  · obtain ⟨nodes, hl⟩ := mem_keys_iff.mp hkey
    obtain ⟨-, spec, hbuild⟩ := h.sound.built key nodes hl
    have hle : ((allocatedIDs s).filter (inPool key)).length ≤ (devicesOf nodes).length :=
      length_le_of_ids (h.sound.allocated.filter _) (fun x hx =>
        h.counted hl (List.mem_of_mem_filter hx) (List.mem_filter.mp hx).2)
    rw [fleetUsageForPool, hl]
    simp only [if_neg (build_ne_nil hbuild)]
    exact withinTotals_of_le (by omega) (by omega)
  · have hle : (allocatedIDs s).length ≤ (devicesOf (allNodes s s.pools.keys)).length := by
      refine length_le_of_ids h.sound.allocated (fun x hx => ?_)
      obtain ⟨key, nodes, hl, hx'⟩ := h.exist x hx
      exact mem_allNodes_keys hl hx'
    exact withinTotals_of_le (by omega) (by omega)

/-- A number that fits is unchanged by the conversion. -/
theorem toInt32_eq {x : Int} (h0 : 0 ≤ x) (h : x < 2 ^ 31) : toInt32 x = x := by
  rw [toInt32, Int.bmod_def]
  split_ifs <;> omega

theorem Kept.capacityOk (h : Kept s) : CapacityOk s := by
  intro pools hpub
  refine checkFleet_ok_iff.mpr (fleetOk_aggregate (fun p hp => ?_))
  obtain ⟨havail, nodes, hl, hbuild⟩ := hpub p hp
  have hkey : p.poolKey ∈ s.pools.keys := mem_keys_iff.mpr ⟨nodes, hl⟩
  have husage := h.usageOk.pools p.poolKey hkey
  have hsize := (h.formed p.poolKey nodes hl).2
  have hfits : (fleetUsageForPool s p.poolKey).1.availableDevices < 2 ^ 31 := by
    rw [fleetUsageForPool, hl]
    simp only [if_neg (build_ne_nil hbuild)]
    omega
  refine ⟨?_, ?_⟩
  · rw [havail, desiredAvailable, toInt32_eq husage.available hfits]
    exact husage.available
  · rw [buildNodesWithPoolKey] at hbuild
    split_ifs at hbuild with h1 h2 h3
    exact not_le.mp h3

/-- One call that keeps what it has to. -/
theorem Kept.step (h : Kept s) (hop : Keeps s op) (hst : step est s op = some t) : Kept t := by
  have hsound := h.sound.step hst
  cases change_of_step hst with
  | register poolKey spec nodes _ build pools same =>
      obtain ⟨hformed, hkeep, hfits⟩ := hop nodes build
      refine ⟨hsound, fun key ns hl => ?_, fun x hx => ?_⟩
      · rw [pools] at hl
        rcases lookup_insert_eq_some.mp hl with ⟨rfl, rfl⟩ | ⟨-, hl⟩
        · exact ⟨hformed, hfits⟩
        · exact h.formed key ns hl
      · rw [same] at hx
        obtain ⟨key, ns, hl, hid⟩ := h.exist x hx
        by_cases hkey : key = fullKey poolKey
        · -- the pool is replaced, but its devices in use are built again
          refine ⟨fullKey poolKey, nodes, by rw [pools, AList.lookup_insert], hkeep x hx ?_⟩
          obtain ⟨d, hd, rfl⟩ := List.mem_map.mp hid
          obtain ⟨-, spec', hbuild'⟩ := h.sound.built key ns hl
          obtain ⟨i, -, j, -, rfl⟩ := (mem_devicesOf_build hbuild').mp hd
          exact (inPool_iff hformed (hkey ▸ hformed) i j).mpr hkey
        · exact ⟨key, ns, by rw [pools, AList.lookup_insert_ne hkey]; exact hl, hid⟩
  | refuse poolKey spec err build => exact h
  | delete poolKey => exact absurd hop id
  | take _ ids _ other pools more devices =>
      refine ⟨hsound, by rw [pools]; exact h.formed, fun x hx => ?_⟩
      rw [pools]
      rw [more] at hx
      rcases List.mem_append.mp hx with hx | hx
      · exact devices x hx
      · exact h.exist x hx
  | drop _ _ other pools less =>
      refine ⟨hsound, by rw [pools]; exact h.formed, fun x hx => ?_⟩
      rw [pools]
      exact h.exist x (less.subset hx)

/-- **WITHIN TOTALS**: in every state reached by calls that keep what they have to, usage is
    within its totals and the aggregated capacity passes the contract's checks. -/
theorem usage_of_keeps (est : Estimator) {ops : List Op} {s : Simulator}
    (h : Runs (GpuSimulator.step est) Keeps newSimulator ops s) : UsageOk s ∧ CapacityOk s := by
  have hstart : Kept newSimulator :=
    ⟨sound_newSimulator, fun key nodes hl => (by cases hl), fun x hx => (by cases hx)⟩
  have hkept := h.invariant (fun _ _ _ hs hop hst => Kept.step hs hop hst) hstart
  exact ⟨hkept.usageOk, hkept.capacityOk⟩

end

/-- The calls that register pools and place, start, preempt and release workloads. -/
def placing : Op → Bool
  | .registerFleet _ _ => true
  | .allocateWithOptions _ _ _ _ _ => true
  | .startWithRuntimeInput _ _ _ => true
  | .preempt _ _ => true
  | .release _ => true
  | _ => false

/-- A pool of two nodes is registered again with one while both are in use. -/
def shrunk : List Op :=
  [.registerFleet "ns/a" ⟨2, 1, 80, "gpu", "h100_sxm"⟩,
   .allocateWithOptions ["ns/a"] "ns/v" 2 40 ⟨.firstFit, false, 0, "", "h100_sxm"⟩,
   .registerFleet "ns/a" ⟨1, 1, 80, "gpu", "h100_sxm"⟩]

/-- The resource of the pool that shrank, with its status. -/
def shrunkPool : GPUNodePool :=
  { ns := "ns", name := "a", nodeCount := 1, devicesPerNode := 1, memoryMiBPerDevice := 80,
    profile := "h100_sxm", deviceType := "gpu", availableDevices := -1 }

/-- Two devices of one are in use, and the contract refuses the fleet. -/
theorem shrunk_exceeds :
    (¬ ∀ (est : Estimator) (ops : List Op) (s : Simulator), (∀ op ∈ ops, placing op = true) →
      Runs (step est) Always newSimulator ops s → UsageOk s)
    ∧ ¬ ∀ (est : Estimator) (ops : List Op) (s : Simulator), (∀ op ∈ ops, placing op = true) →
      Runs (step est) Always newSimulator ops s → CapacityOk s := by
  have hexec : exec (step (fun _ _ _ => .ok 1)) newSimulator shrunk = some _ := rfl
  refine ⟨fun h => ?_, fun h => ?_⟩
  · have husage := h _ shrunk _ (by decide) (Runs.of_exec hexec)
    exact absurd (husage.pools "ns/a" (by decide +kernel)).available (by decide +kernel)
  · have hcapacity := h _ shrunk _ (by decide) (Runs.of_exec hexec)
    have hchecked := hcapacity [shrunkPool] (fun p hp => ?_)
    · exact absurd hchecked (by decide +kernel)
    · rw [List.mem_singleton.mp hp]
      exact ⟨by decide +kernel, _, rfl, by decide +kernel⟩

/-- A pool grows while its device is in use. -/
def grown : List Op :=
  [.registerFleet "ns/a" ⟨1, 1, 80, "gpu", "h100_sxm"⟩,
   .allocateWithOptions ["ns/a"] "ns/v" 1 40 ⟨.firstFit, false, 0, "", "h100_sxm"⟩,
   .registerFleet "ns/a" ⟨2, 1, 80, "gpu", "h100_sxm"⟩]

/-- The run keeps the device. -/
theorem grown_runs :
    ∃ s, Runs (step (fun _ _ _ => .ok 1)) Keeps newSimulator grown s
      ∧ (fleetUsage s).allocatedDevices = 1 ∧ (fleetUsage s).totalDevices = 2 := by
  have hformed : Formed (fullKey "ns/a") :=
    Or.inr ⟨"ns", "a", by decide, by decide, by decide⟩
  refine ⟨_, .cons (fun nodes hbuild => ?_) rfl (.cons trivial rfl
    (.cons (fun nodes hbuild => ?_) rfl (.nil _))), by decide +kernel, by decide +kernel⟩
  · rw [← Except.ok.inj hbuild]
    exact ⟨hformed, by decide +kernel, by decide +kernel⟩
  · rw [← Except.ok.inj hbuild]
    exact ⟨hformed, by decide +kernel, by decide +kernel⟩

theorem grown_within :
    ∃ s, Runs (step (fun _ _ _ => .ok 1)) Keeps newSimulator grown s
      ∧ UsageOk s ∧ CapacityOk s := by
  obtain ⟨s, hruns, -, -⟩ := grown_runs
  exact ⟨s, hruns, usage_of_keeps _ hruns⟩

end GpuFleetUsage
