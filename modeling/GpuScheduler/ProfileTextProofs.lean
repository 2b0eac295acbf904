import GpuScheduler.PlacementLawsProofs
import GpuScheduler.FleetProofs
import GpuScheduler.WorkloadProofs
import GpuScheduler.SelectionProofs

/-! # The spelling of a profile

    A profile is a free text in two resources, and every consumer brings it to lower case
    and trims it by itself: the conversions, the aggregation of pools, the request for
    devices.  Registration does not; a device keeps the text of its pool, and the allocation
    compares it exactly.

    So the scheduler's decision does not depend on the spelling, and neither does that of a
    workload matter for its devices.  Whether a pool's devices are found does depend on the
    pool's spelling; `spelling_irrelevant_iff` says when that shows. -/

namespace GpuProfileText

open GoStrings GoMaps GpuInputs GpuCompat GpuSelection GpuWorkload GpuPlacement GpuSimulator
  GpuFleet GpuPlacementLaws

/-- The pool with another text for its profile. -/
def respellPool (p : GPUNodePool) (text : String) : GPUNodePool := { p with profile := text }

/-- The workload with another text for its profile. -/
def respellWorkload (w : GPUWorkload) (text : String) : GPUWorkload :=
  { w with spec := { w.spec with profile := text } }

/-- Two versions of a workload that differ in the spelling of the profile only. -/
def SameWorkload (w w' : GPUWorkload) : Prop :=
  ∃ text, Respelled w.spec.profile text ∧ w' = respellWorkload w text

/-- The resources, and the simulator. -/
structure World where
  pools : List GPUNodePool
  queued : List GPUWorkload
  scheduled : List GPUWorkload
  running : List GPUWorkload
  sim : Simulator

/-- What the scheduler selects from in a namespace. -/
def World.inputs (x : World) (ns : String) (quotas : GoMap String TenantQuota) (now : Int) :
    SchedulingInputs :=
  ⟨x.queued.map (fun w => w.asQueued now), x.scheduled.map (fun w => w.asRunning now),
    x.running.map (fun w => w.asRunning now),
    aggregateFleetFromPools (x.pools.filter (fun p => p.ns = ns)), quotas⟩

/-- The options with which `executeAdmission` asks for devices. -/
def admissionOptions (w : GPUWorkload) : AllocationOptions :=
  ⟨.firstFit, false, 0, "", normalizeProfileName w.spec.profile⟩

/-- The `AllocateWithOptions` of `executeAdmission` succeeds. -/
def Allocates (s : Simulator) (order : List String) (w : GPUWorkload) : Prop :=
  ∃ a t, allocateWithOptions s order w.id w.spec.gpuCount w.spec.gpuMemoryMiB
    (admissionOptions w) = .ok (a, t)

/-- The nodes that the pool controller registers for a resource. -/
def nodesOf (p : GPUNodePool) : Option (List Node) :=
  (buildNodesWithPoolKey p.simSpec p.poolKey).toOption

/-- The registered pools are those of the resources. -/
structure RegisteredFrom (s : Simulator) (pools : List GPUNodePool) : Prop where
  pool : ∀ p ∈ pools, s.pools.lookup p.poolKey = nodesOf p
  only : ∀ key ∈ s.pools.keys, ∃ p ∈ pools, p.poolKey = key

/-! ## Registration -/

/-- The registration of `GPUNodePoolReconciler.Reconcile`, resource by resource. -/
def reconcilePools (s : Simulator) (pools : List GPUNodePool) : Simulator :=
  pools.foldl (fun s p => afterUnit s (registerFleet s p.poolKey p.simSpec)) s

/-- One more pool. -/
theorem RegisteredFrom.register {s : Simulator} {pools : List GPUNodePool} {p : GPUNodePool}
    (h : RegisteredFrom s pools) (hnew : p.poolKey ∉ pools.map GPUNodePool.poolKey) :
    RegisteredFrom (afterUnit s (registerFleet s p.poolKey p.simSpec)) (pools ++ [p]) := by
  have hother : ∀ q ∈ pools, q.poolKey ≠ p.poolKey := fun q hq heq =>
    hnew (List.mem_map.mpr ⟨q, hq, heq⟩)
  rw [registerFleet]
  simp only [if_neg (poolKey_ne_empty p)]
  cases hbuild : buildNodesWithPoolKey p.simSpec p.poolKey with
  | error e =>
      -- the key is not registered, and stays so
      have hnone : s.pools.lookup p.poolKey = none := by
        refine AList.lookup_eq_none.mpr (fun hmem => ?_)
        obtain ⟨q, hq, heq⟩ := h.only p.poolKey hmem
        exact hother q hq heq
      refine ⟨fun q hq => ?_, fun key hkey => ?_⟩
      · rcases List.mem_append.mp hq with hq | hq
        · exact h.pool q hq
        · rw [List.mem_singleton.mp hq, nodesOf, hbuild]
          exact hnone
      · obtain ⟨q, hq, heq⟩ := h.only key hkey
        exact ⟨q, List.mem_append_left _ hq, heq⟩
  | ok nodes =>
      refine ⟨fun q hq => ?_, fun key hkey => ?_⟩
      · show (s.pools.insert p.poolKey nodes).lookup q.poolKey = nodesOf q
        rcases List.mem_append.mp hq with hq | hq
        · rw [AList.lookup_insert_ne (hother q hq)]
          exact h.pool q hq
        · rw [List.mem_singleton.mp hq, AList.lookup_insert, nodesOf, hbuild]
          rfl
      · have hkey' : key ∈ s.pools.insert p.poolKey nodes := AList.mem_keys.mpr hkey
        rcases (AList.mem_insert _).mp hkey' with rfl | hmem
        · exact ⟨p, by simp, rfl⟩
        · obtain ⟨q, hq, heq⟩ := h.only key (AList.mem_keys.mp hmem)
          exact ⟨q, List.mem_append_left _ hq, heq⟩

/-- **THE POOL CONTROLLER REGISTERS THE RESOURCES**, whatever is allocated. -/
theorem registeredFrom_reconcilePools {s : Simulator} {pools : List GPUNodePool}
    (hempty : s.pools = ∅) (hdistinct : (pools.map GPUNodePool.poolKey).Nodup) :
    RegisteredFrom (reconcilePools s pools) pools := by
  have hrun : ∀ (rest done : List GPUNodePool) (s : Simulator),
      ((done ++ rest).map GPUNodePool.poolKey).Nodup → RegisteredFrom s done →
      RegisteredFrom (reconcilePools s rest) (done ++ rest) := by
    intro rest
    induction rest with
    | nil =>
        intro done s _ h
        rw [List.append_nil]
        exact h
    | cons p rest ih =>
        intro done s hnd h
        rw [List.append_cons] at hnd ⊢
        refine ih (done ++ [p]) _ hnd (h.register ?_)
        rw [List.map_append, List.map_append, List.map_singleton] at hnd
        intro hmem
        have hdone := (List.nodup_append.mp hnd).1
        exact (List.nodup_append.mp hdone).2.2 _ hmem _ (List.mem_singleton_self _) rfl
  refine hrun pools [] s hdistinct ⟨fun p hp => (by cases hp), fun key hkey => ?_⟩
  rw [hempty] at hkey
  cases hkey

/-- Registration leaves the allocations alone. -/
theorem allocations_reconcilePools (s : Simulator) (pools : List GPUNodePool) :
    (reconcilePools s pools).allocations = s.allocations := by
  induction pools generalizing s with
  | nil => rfl
  | cons p rest ih =>
      have hone : (afterUnit s (registerFleet s p.poolKey p.simSpec)).allocations
          = s.allocations := by
        rw [registerFleet]
        simp only [if_neg (poolKey_ne_empty p)]
        cases buildNodesWithPoolKey p.simSpec p.poolKey with
        | error e => rfl
        | ok nodes => rfl
      exact (ih _).trans hone

/-! ## The scheduler -/

theorem asQueued_of_same {w w' : GPUWorkload} (h : SameWorkload w w') (now : Int) :
    w'.asQueued now = w.asQueued now := by
  obtain ⟨text, htext, rfl⟩ := h
  have hname : normalizeProfileName text = normalizeProfileName w.spec.profile :=
    htext.toLower_trimSpace.symm
  simp only [GPUWorkload.asQueued, gpuWorkloadToQueuedWorkload, respellWorkload, hname,
    GPUWorkload.id, GPUWorkload.since]

theorem asRunning_of_same {w w' : GPUWorkload} (h : SameWorkload w w') (now : Int) :
    w'.asRunning now = w.asRunning now := by
  obtain ⟨text, htext, rfl⟩ := h
  have hname : normalizeProfileName text = normalizeProfileName w.spec.profile :=
    htext.toLower_trimSpace.symm
  simp only [GPUWorkload.asRunning, gpuWorkloadToRunningWorkload, respellWorkload, hname,
    GPUWorkload.id, GPUWorkload.since]

/-- Lists of workloads that differ in spellings have the same records. -/
theorem map_eq_of_same {α : Type} {f : GPUWorkload → α}
    (hf : ∀ w w', SameWorkload w w' → f w' = f w) {ws ws' : List GPUWorkload}
    (h : List.Forall₂ SameWorkload ws ws') : ws'.map f = ws.map f := by
  induction h with
  | nil => rfl
  | cons hw _ ih => rw [List.map_cons, List.map_cons, hf _ _ hw, ih]

theorem addPool_respell (out : FleetFreeCapacity) {p : GPUNodePool} {text : String}
    (h : Respelled p.profile text) : addPool out (respellPool p text) = addPool out p := by
  have hname : normalizeProfileName text = normalizeProfileName p.profile :=
    h.toLower_trimSpace.symm
  simp only [addPool, mergePool, respellPool, hname]

/-- The aggregated capacity does not depend on a pool's spelling. -/
theorem aggregate_respell (before after : List GPUNodePool) {p : GPUNodePool} {text : String}
    (h : Respelled p.profile text) (ns : String) :
    aggregateFleetFromPools ((before ++ respellPool p text :: after).filter (fun q => q.ns = ns))
      = aggregateFleetFromPools ((before ++ p :: after).filter (fun q => q.ns = ns)) := by
  rw [List.filter_append, List.filter_append]
  generalize hlisted : (fun q : GPUNodePool => decide (q.ns = ns)) = listed
  have hsame : listed (respellPool p text) = listed p := by
    rw [← hlisted]
    rfl
  cases hns : listed p with
  | true =>
      rw [List.filter_cons_of_pos hns, List.filter_cons_of_pos (hsame.trans hns),
        aggregateFleetFromPools, aggregateFleetFromPools, List.foldl_append, List.foldl_append,
        List.foldl_cons, List.foldl_cons, addPool_respell _ h]
  | false =>
      rw [List.filter_cons_of_neg (Bool.eq_false_iff.mp hns),
        List.filter_cons_of_neg (Bool.eq_false_iff.mp (hsame.trans hns))]

/-! ## The devices of a pool -/

/-- The IDs and sizes of the devices of a pool. -/
def devicesBy (p : GPUNodePool) : List (String × Int) :=
  (devicesOf ((nodesOf p).getD [])).map (fun d => (d.id, d.memoryMiB))

/-- The number of free devices of a pool with enough memory, whatever its profile. -/
def room (used : List String) (memMiB : Int) (p : GPUNodePool) : Nat :=
  ((devicesBy p).filter (fun d => d.1 ∉ used ∧ memMiB ≤ d.2)).length

/-- The free devices with enough memory of the pools spelled exactly like this. -/
def roomSpelled (used : List String) (memMiB : Int) (key : String) (pools : List GPUNodePool) :
    Nat :=
  (pools.map (fun p => if p.profile = key then room used memMiB p else 0)).sum

/-- They depend on the numbers of the specification only. -/
theorem devicesBy_eq (p : GPUNodePool) :
    devicesBy p = if p.simSpec.nodeCount ≤ 0 ∨ p.simSpec.devicesPerNode ≤ 0
        ∨ p.simSpec.memoryMiBPerDevice ≤ 0 then []
      else (List.range p.simSpec.nodeCount.toNat).flatMap (fun i =>
        (List.range p.simSpec.devicesPerNode.toNat).map (fun j =>
          (deviceID p.poolKey i j, p.simSpec.memoryMiBPerDevice))) := by
  rw [devicesBy, nodesOf, buildNodesWithPoolKey]
  by_cases h1 : p.simSpec.nodeCount ≤ 0
  · rw [if_pos h1, if_pos (Or.inl h1)]
    rfl
  by_cases h2 : p.simSpec.devicesPerNode ≤ 0
  · rw [if_neg h1, if_pos h2, if_pos (Or.inr (Or.inl h2))]
    rfl
  by_cases h3 : p.simSpec.memoryMiBPerDevice ≤ 0
  · rw [if_neg h1, if_neg h2, if_pos h3, if_pos (Or.inr (Or.inr h3))]
    rfl
  · rw [if_neg h1, if_neg h2, if_neg h3, if_neg (not_or.mpr ⟨h1, not_or.mpr ⟨h2, h3⟩⟩)]
    simp only [Except.toOption, Option.getD_some, devicesOf, List.flatMap_map, buildNode,
      List.map_flatMap, List.map_map]
    rfl

theorem room_respell (used : List String) (memMiB : Int) (p : GPUNodePool) (text : String) :
    room used memMiB (respellPool p text) = room used memMiB p := by
  rw [room, room, devicesBy_eq, devicesBy_eq]
  rfl

/-- The devices carry the text of their pool. -/
theorem profile_of_mem {p : GPUNodePool} {d : Device}
    (h : d ∈ devicesOf ((nodesOf p).getD [])) : d.profile = p.profile := by
  rw [nodesOf] at h
  cases hbuild : buildNodesWithPoolKey p.simSpec p.poolKey with
  | error e =>
      rw [hbuild] at h
      cases h
  | ok nodes =>
      rw [hbuild] at h
      obtain ⟨i, -, j, -, rfl⟩ := (mem_devicesOf_build hbuild).mp h
      rfl

/-- A request finds all of a pool's room, or nothing. -/
theorem length_eligible_pool (used : List String) (memMiB : Int) (key : String)
    (p : GPUNodePool) :
    ((devicesOf ((nodesOf p).getD [])).filter (eligible used memMiB "" key)).length
      = if key = "" ∨ p.profile = key then room used memMiB p else 0 := by
  by_cases hkey : key = "" ∨ p.profile = key
  · rw [if_pos hkey, room, devicesBy, List.filter_map, List.length_map]
    refine congrArg List.length (List.filter_congr (fun d hd => ?_))
    rw [Bool.eq_iff_iff, eligible_iff, Function.comp_apply, decide_eq_true_iff]
    have hprofile := profile_of_mem hd
    constructor
    · rintro ⟨hunused, hsize, -, -⟩
      exact ⟨hunused, hsize⟩
    · rintro ⟨hunused, hsize⟩
      refine ⟨hunused, hsize, fun h => absurd rfl h, fun hne => ?_⟩
      rw [hprofile]
      exact hkey.resolve_left hne
  · rw [if_neg hkey, List.length_eq_zero_iff, List.filter_eq_nil_iff]
    intro d hd hel
    push Not at hkey
    have hprofile := (eligible_iff.mp hel).2.2.2 hkey.1
    rw [profile_of_mem hd] at hprofile
    exact hkey.2 hprofile

/-- The eligible devices of a simulator, pool by pool. -/
theorem length_eligibleOf {s : Simulator} {pools : List GPUNodePool}
    (hreg : RegisteredFrom s pools) (hdistinct : (pools.map GPUNodePool.poolKey).Nodup)
    {order : List String} (horder : order.Perm s.pools.keys) (w : GPUWorkload) :
    (eligibleOf s w.spec.gpuMemoryMiB (admissionOptions w) (allNodes s order)).length
      = (pools.map (fun p => if normalizeProfileName w.spec.profile = ""
            ∨ p.profile = normalizeProfileName w.spec.profile
          then room (allocatedIDs s) w.spec.gpuMemoryMiB p else 0)).sum := by
  generalize hcount : (fun key => ((devicesOf ((s.pools.lookup key).getD [])).filter
    (eligible (allocatedIDs s) w.spec.gpuMemoryMiB "" (normalizeProfileName w.spec.profile))
    ).length) = count
  have hleft : (eligibleOf s w.spec.gpuMemoryMiB (admissionOptions w) (allNodes s order)).length
      = (order.map count).sum := by
    rw [eligibleOf, devicesOf, allNodes, List.flatMap_assoc, List.filter_flatMap,
      List.length_flatMap, ← hcount]
    rfl
  have hright : (pools.map (fun p => if normalizeProfileName w.spec.profile = ""
        ∨ p.profile = normalizeProfileName w.spec.profile
      then room (allocatedIDs s) w.spec.gpuMemoryMiB p else 0))
      = (pools.map GPUNodePool.poolKey).map count := by
    rw [List.map_map]
    refine List.map_congr_left (fun p hp => ?_)
    rw [Function.comp_apply, ← hcount, ← length_eligible_pool]
    simp only [hreg.pool p hp]
  -- keys of resources that are not registered count nothing
  have hnd : order.Nodup := horder.nodup_iff.mpr s.pools.keys_nodup
  rw [hleft, hright, ← List.sum_toFinset _ hnd, ← List.sum_toFinset _ hdistinct]
  refine Finset.sum_subset (fun key hkey => ?_) (fun key _ hkey => ?_)
  · obtain ⟨p, hp, heq⟩ := hreg.only key (horder.subset (List.mem_toFinset.mp hkey))
    exact List.mem_toFinset.mpr (List.mem_map.mpr ⟨p, hp, heq⟩)
  · have hnone : s.pools.lookup key = none := by
      refine AList.lookup_eq_none.mpr (fun hmem => hkey ?_)
      exact List.mem_toFinset.mpr (horder.symm.subset (AList.mem_keys.mp hmem))
    rw [← hcount]
    simp only [hnone]
    rfl

/-! ## Which spelling shows -/

theorem id_ne_empty (w : GPUWorkload) : w.id ≠ "" := by
  intro h
  have hlist := congrArg String.toList h
  simp [GPUWorkload.id, workloadID, String.toList_append] at hlist

/-- A workload that `executeAdmission` can ask devices for at all. -/
structure Asks (s : Simulator) (w : GPUWorkload) : Prop where
  fresh : s.allocations.lookup w.id = none
  gpuCount : 0 < w.spec.gpuCount
  gpuMemoryMiB : 0 < w.spec.gpuMemoryMiB

theorem Asks.request {s : Simulator} {w : GPUWorkload} (h : Asks s w) :
    Request s w.id w.spec.gpuCount w.spec.gpuMemoryMiB (admissionOptions w) :=
  ⟨id_ne_empty w, h.fresh, h.gpuCount, h.gpuMemoryMiB, le_refl 0, fun _ _ h => (by cases h)⟩

theorem asks_of_allocates {s : Simulator} {order : List String} {w : GPUWorkload}
    (h : Allocates s order w) : Asks s w := by
  obtain ⟨a, t, hok⟩ := h
  obtain ⟨hfresh, hcount, -⟩ := allocateWithOptions_ok hok
  refine ⟨hfresh, hcount, ?_⟩
  rw [allocateWithOptions] at hok
  split_ifs at hok with h1 h2 h3 h4 h5 h6
  exact not_le.mp h3

/-- The devices that the request finds in a list of pools. -/
def found (used : List String) (memMiB : Int) (key : String) (pools : List GPUNodePool) : Nat :=
  (pools.map (fun p => if key = "" ∨ p.profile = key then room used memMiB p else 0)).sum

/-- **WHEN DEVICES ARE FOUND**: the workload can ask, and the pools of its spelling have
    room. -/
theorem allocates_iff {s : Simulator} {pools : List GPUNodePool}
    (hreg : RegisteredFrom s pools) (hdistinct : (pools.map GPUNodePool.poolKey).Nodup)
    {order : List String} (horder : order.Perm s.pools.keys) (w : GPUWorkload) :
    Allocates s order w ↔ Asks s w
      ∧ w.spec.gpuCount ≤ found (allocatedIDs s) w.spec.gpuMemoryMiB
        (normalizeProfileName w.spec.profile) pools := by
  have hlen := length_eligibleOf hreg hdistinct horder w
  constructor
  · intro h
    have hasks := asks_of_allocates h
    refine ⟨hasks, ?_⟩
    rw [found, ← hlen]
    exact (allocates_iff_fleet horder hasks.request rfl rfl).mp h
  · rintro ⟨hasks, hle⟩
    rw [found, ← hlen] at hle
    exact (allocates_iff_fleet horder hasks.request rfl rfl).mpr hle

/-- The same resources, but for the spelling of one pool's profile and of workloads'
    profiles; both simulators have the pools that their resources say. -/
structure SameButSpelling (before after : List GPUNodePool) (p : GPUNodePool) (text : String)
    (x y : World) : Prop where
  spelling : Respelled p.profile text
  pools : x.pools = before ++ p :: after
  pools' : y.pools = before ++ respellPool p text :: after
  queued : List.Forall₂ SameWorkload x.queued y.queued
  scheduled : List.Forall₂ SameWorkload x.scheduled y.scheduled
  running : List.Forall₂ SameWorkload x.running y.running
  distinct : (x.pools.map GPUNodePool.poolKey).Nodup
  registered : RegisteredFrom x.sim x.pools
  registered' : RegisteredFrom y.sim y.pools
  allocations : y.sim.allocations = x.sim.allocations

/-- Neither the decision nor the success of the allocation is another. -/
structure SpellingIrrelevant (x y : World) (w w' : GPUWorkload) : Prop where
  decision : ∀ ns quotas now, selectOneForAdmission (y.inputs ns quotas now)
    = selectOneForAdmission (x.inputs ns quotas now)
  allocation : ∀ order order', order.Perm x.sim.pools.keys → order'.Perm y.sim.pools.keys →
    (Allocates x.sim order w ↔ Allocates y.sim order' w')

/-- The pool's spelling decides nothing for a workload: it is the workload's lower-case
    trimmed one before and after, or neither time; or the workload names no profile or
    cannot ask; or the other pools of that spelling have enough devices, or do not with
    this one's either. -/
def Indecisive (s : Simulator) (before after : List GPUNodePool) (p : GPUNodePool)
    (text : String) (w : GPUWorkload) : Prop :=
  (p.profile = normalizeProfileName w.spec.profile ↔ text = normalizeProfileName w.spec.profile)
    ∨ normalizeProfileName w.spec.profile = "" ∨ ¬ Asks s w
    ∨ w.spec.gpuCount ≤ roomSpelled (allocatedIDs s) w.spec.gpuMemoryMiB
        (normalizeProfileName w.spec.profile) (before ++ after)
    ∨ (roomSpelled (allocatedIDs s) w.spec.gpuMemoryMiB (normalizeProfileName w.spec.profile)
        (before ++ after) + room (allocatedIDs s) w.spec.gpuMemoryMiB p : Nat)
      < w.spec.gpuCount

section
variable {before after : List GPUNodePool} {p : GPUNodePool} {text : String} {x y : World}
  {w w' : GPUWorkload}

/-- **THE SCHEDULER READS NO SPELLING.** -/
theorem SameButSpelling.inputs_eq (h : SameButSpelling before after p text x y) (ns : String)
    (quotas : GoMap String TenantQuota) (now : Int) :
    y.inputs ns quotas now = x.inputs ns quotas now := by
  rw [World.inputs, World.inputs, h.pools, h.pools', aggregate_respell before after h.spelling,
    map_eq_of_same (fun _ _ hw => asQueued_of_same hw now) h.queued,
    map_eq_of_same (fun _ _ hw => asRunning_of_same hw now) h.scheduled,
    map_eq_of_same (fun _ _ hw => asRunning_of_same hw now) h.running]

theorem SameButSpelling.distinct' (h : SameButSpelling before after p text x y) :
    (y.pools.map GPUNodePool.poolKey).Nodup := by
  have hnd := h.distinct
  rw [h.pools, List.map_append, List.map_cons] at hnd
  rw [h.pools', List.map_append, List.map_cons]
  exact hnd

/-- What is found with a pool in between. -/
theorem found_split (used : List String) (memMiB : Int) {key : String} (hkey : key ≠ "")
    (before after : List GPUNodePool) (p : GPUNodePool) :
    found used memMiB key (before ++ p :: after)
      = roomSpelled used memMiB key (before ++ after)
        + if p.profile = key then room used memMiB p else 0 := by
  simp only [found, roomSpelled, hkey, false_or, List.map_append, List.map_cons, List.sum_append,
    List.sum_cons]
  omega

/-- Without a profile every pool counts. -/
theorem found_blank (used : List String) (memMiB : Int) (before after : List GPUNodePool)
    (p : GPUNodePool) (text : String) :
    found used memMiB "" (before ++ respellPool p text :: after)
      = found used memMiB "" (before ++ p :: after) := by
  simp only [found, true_or, if_true, List.map_append, List.map_cons, room_respell]

/-- The respelled workload asks as before. -/
theorem asks_of_same (h : SameButSpelling before after p text x y) (hw : SameWorkload w w') :
    Asks y.sim w' ↔ Asks x.sim w := by
  obtain ⟨text', -, rfl⟩ := hw
  constructor
  · rintro ⟨hfresh, hcount, hmem⟩
    rw [h.allocations] at hfresh
    exact ⟨hfresh, hcount, hmem⟩
  · rintro ⟨hfresh, hcount, hmem⟩
    refine ⟨?_, hcount, hmem⟩
    rw [h.allocations]
    exact hfresh

/-- Spelling is irrelevant when what is found is enough in both cases or in none. -/
theorem irrelevant_iff_found (h : SameButSpelling before after p text x y)
    (hw : SameWorkload w w') :
    SpellingIrrelevant x y w w' ↔ (Asks x.sim w →
      (w.spec.gpuCount ≤ found (allocatedIDs x.sim) w.spec.gpuMemoryMiB
          (normalizeProfileName w.spec.profile) (before ++ p :: after)
        ↔ w.spec.gpuCount ≤ found (allocatedIDs x.sim) w.spec.gpuMemoryMiB
          (normalizeProfileName w.spec.profile) (before ++ respellPool p text :: after))) := by
  have hx : ∀ order : List String, order.Perm x.sim.pools.keys →
      (Allocates x.sim order w ↔ Asks x.sim w ∧ w.spec.gpuCount ≤ found (allocatedIDs x.sim)
        w.spec.gpuMemoryMiB (normalizeProfileName w.spec.profile) (before ++ p :: after)) := by
    intro order horder
    rw [← h.pools]
    exact allocates_iff h.registered h.distinct horder w
  have hy : ∀ order : List String, order.Perm y.sim.pools.keys →
      (Allocates y.sim order w' ↔ Asks x.sim w ∧ w.spec.gpuCount ≤ found (allocatedIDs x.sim)
        w.spec.gpuMemoryMiB (normalizeProfileName w.spec.profile)
        (before ++ respellPool p text :: after)) := by
    intro order horder
    have hused : allocatedIDs y.sim = allocatedIDs x.sim := by
      rw [allocatedIDs, allocatedIDs, h.allocations]
    have hiff := allocates_iff h.registered' h.distinct' horder w'
    rw [asks_of_same h hw, hused, h.pools'] at hiff
    obtain ⟨text', htext', rfl⟩ := hw
    have hname : normalizeProfileName text' = normalizeProfileName w.spec.profile :=
      htext'.toLower_trimSpace.symm
    rw [← hname]
    exact hiff
  constructor
  · intro hsame hasks
    have hboth := hsame.allocation _ _ (List.Perm.refl _) (List.Perm.refl _)
    rw [hx _ (List.Perm.refl _), hy _ (List.Perm.refl _)] at hboth
    exact ⟨fun hle => (hboth.mp ⟨hasks, hle⟩).2, fun hle => (hboth.mpr ⟨hasks, hle⟩).2⟩
  · intro hfound
    refine ⟨fun ns quotas now => ?_, fun order order' horder horder' => ?_⟩
    · rw [h.inputs_eq]
    · rw [hx order horder, hy order' horder']
      exact ⟨fun hle => ⟨hle.1, (hfound hle.1).mp hle.2⟩,
        fun hle => ⟨hle.1, (hfound hle.1).mpr hle.2⟩⟩

/-- **WHEN SPELLING IS IRRELEVANT**: exactly when the pool's spelling decides nothing. -/
theorem spelling_irrelevant_iff (h : SameButSpelling before after p text x y)
    (hw : SameWorkload w w') :
    SpellingIrrelevant x y w w' ↔ Indecisive x.sim before after p text w := by
  rw [irrelevant_iff_found h hw, Indecisive]
  generalize normalizeProfileName w.spec.profile = key
  by_cases hasks : Asks x.sim w
  · by_cases hkey : key = ""
    · rw [hkey, found_blank]
      exact ⟨fun _ => Or.inr (Or.inl rfl), fun _ _ => Iff.rfl⟩
    · rw [found_split _ _ hkey, found_split _ _ hkey, room_respell]
      have hrespelled : (respellPool p text).profile = text := rfl
      rw [hrespelled]
      by_cases hsame : p.profile = key ↔ text = key
      · -- the pool is found both times or never
        simp only [hsame]
        exact ⟨fun _ => Or.inl trivial, fun _ _ => trivial⟩
      · -- it is found once, and makes up the difference
        by_cases hp : p.profile = key
        · have ht : text ≠ key := fun ht => hsame ⟨fun _ => ht, fun _ => hp⟩
          simp only [hasks, hsame, hkey, if_pos hp, if_neg ht, true_implies, not_true_eq_false,
            false_or]
          omega
        · have ht : text = key := by
            by_contra ht
            exact hsame ⟨fun h => absurd h hp, fun h => absurd h ht⟩
          simp only [hasks, hsame, hkey, if_neg hp, if_pos ht, true_implies, not_true_eq_false,
            false_or]
          omega
  · exact ⟨fun _ => Or.inr (Or.inr (Or.inl hasks)), fun _ h => absurd h hasks⟩

end

/-- A pool of one device. -/
def onePool (name profile : String) : GPUNodePool :=
  { ns := "ns", name := name, nodeCount := 1, devicesPerNode := 1, memoryMiBPerDevice := 80,
    profile := profile, deviceType := some "gpu", availableDevices := 1 }

/-- A workload that needs one device. -/
def oneDevice (profile : String) : GPUWorkload :=
  { ns := "ns", name := "w", annotations := ∅, deletionTimestamp := none,
    spec := ⟨"team", 1, 1, 40, profile, 1000, .training⟩, phase := .queued, queuedAt := some 1 }

/-- One workload is queued, and the pools are registered. -/
def oneQueued (pools : List GPUNodePool) (w : GPUWorkload) : World :=
  ⟨pools, [w], [], [], reconcilePools newSimulator pools⟩

theorem respelled_capitals : Respelled "h100_sxm" " H100_SXM" :=
  ⟨[], "h100_sxm".toList, [], [' '], "H100_SXM".toList, [], by decide, by decide,
    by simp [isSpace], by decide +kernel⟩

/-- Two worlds of one queued workload, with one pool and the workload respelled. -/
theorem oneQueued_same {before after : List GPUNodePool} {p : GPUNodePool} {w w' : GPUWorkload}
    {text : String} (hp : Respelled p.profile text) (hw : SameWorkload w w')
    (hdistinct : ((before ++ p :: after).map GPUNodePool.poolKey).Nodup) :
    SameButSpelling before after p text (oneQueued (before ++ p :: after) w)
      (oneQueued (before ++ respellPool p text :: after) w') where
  spelling := hp
  pools := rfl
  pools' := rfl
  queued := .cons hw .nil
  scheduled := .nil
  running := .nil
  distinct := hdistinct
  registered := registeredFrom_reconcilePools rfl hdistinct
  registered' := by
    refine registeredFrom_reconcilePools rfl ?_
    rw [List.map_append, List.map_cons] at hdistinct ⊢
    exact hdistinct
  allocations := by
    rw [oneQueued, oneQueued, allocations_reconcilePools, allocations_reconcilePools]

/-- A pool named in capitals is counted by the scheduler and not found by the allocation. -/
theorem capitals_not_found :
    ¬ ∀ (before after : List GPUNodePool) (p : GPUNodePool) (text : String) (x y : World)
        (w w' : GPUWorkload), SameButSpelling before after p text x y → SameWorkload w w' →
      SpellingIrrelevant x y w w' := by
  intro h
  have hw : SameWorkload (oneDevice "h100_sxm") (oneDevice "h100_sxm") :=
    ⟨"h100_sxm", Respelled.refl _, rfl⟩
  have hp : Respelled (onePool "a" "h100_sxm").profile " H100_SXM" := respelled_capitals
  have hsame : SameButSpelling [] [] (onePool "a" "h100_sxm") " H100_SXM" _ _ :=
    oneQueued_same hp hw (List.nodup_singleton _)
  have hboth := (irrelevant_iff_found hsame hw).mp (h _ _ _ _ _ _ _ _ hsame hw)
    ⟨rfl, by decide, by decide⟩
  exact absurd (hboth.mp (by decide +kernel)) (by decide +kernel)

/-- Another pool has the device. -/
theorem capitals_spare :
    SpellingIrrelevant
      (oneQueued [onePool "a" "h100_sxm", onePool "b" "h100_sxm"] (oneDevice "h100_sxm"))
      (oneQueued [onePool "a" " H100_SXM", onePool "b" "h100_sxm"] (oneDevice " H100_SXM"))
      (oneDevice "h100_sxm") (oneDevice " H100_SXM") := by
  have hw : SameWorkload (oneDevice "h100_sxm") (oneDevice " H100_SXM") :=
    ⟨" H100_SXM", respelled_capitals, rfl⟩
  have hp : Respelled (onePool "a" "h100_sxm").profile " H100_SXM" := respelled_capitals
  have hsame : SameButSpelling [] [onePool "b" "h100_sxm"] (onePool "a" "h100_sxm") " H100_SXM"
    _ _ := oneQueued_same hp hw (by decide)
  exact (spelling_irrelevant_iff hsame hw).mpr
    (Or.inr (Or.inr (Or.inr (Or.inl (by decide +kernel)))))

end GpuProfileText
