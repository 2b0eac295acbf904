import Mathlib
import GpuScheduler.GoStringsProofs
import GpuScheduler.GoSortProofs

/-! # Device IDs and placement

    A pool builds its devices from a specification; their IDs carry the pool key, so
    that pools can coexist.  The format is injective for every key, including keys
    that contain slashes and the unprefixed default pool (`deviceID_injective`).

    A placement picks device IDs from the eligible ones, node by node.  Each policy
    picks distinct positions and at most as many as needed (`pickDevices_pickOf`);
    first-fit without a node limit takes a prefix of everything eligible
    (`selectFirstFit_eq_take`). -/

namespace GpuPlacement

open GoStrings GoSort

/-- `sim.GPUNodePoolSpec`. -/
structure GPUNodePoolSpec where
  nodeCount : Int
  devicesPerNode : Int
  memoryMiBPerDevice : Int
  deviceType : String
  profile : String
  deriving DecidableEq, Repr

/-- `sim.Device`. -/
structure Device where
  id : String
  memoryMiB : Int
  deviceType : String
  profile : String
  deriving DecidableEq, Repr

/-- `sim.Node`. -/
structure Node where
  id : String
  devices : List Device
  deriving DecidableEq, Repr

/-- The errors of `buildNodesWithPoolKey`. -/
inductive BuildError where
  | nodeCountNotPositive (got : Int)
  | devicesPerNodeNotPositive (got : Int)
  | memoryMiBPerDeviceNotPositive (got : Int)
  deriving DecidableEq, Repr

/-- `DefaultPoolKey`. -/
def defaultPoolKey : String := "_default"

/-- The ID prefix of a pool: none for the default pool. -/
def poolPrefix (poolKey : String) : String :=
  if poolKey ≠ "" ∧ poolKey ≠ defaultPoolKey then poolKey ++ "/" else ""

/-- The ID of the `i`-th node of a pool. -/
def nodeID (poolKey : String) (i : Nat) : String := poolPrefix poolKey ++ "node-" ++ fmtNat i

/-- The ID of the `j`-th device of the `i`-th node of a pool. -/
def deviceID (poolKey : String) (i j : Nat) : String :=
  nodeID poolKey i ++ "/gpu-" ++ fmtNat j

/-- The devices of one node. -/
def buildNode (spec : GPUNodePoolSpec) (poolKey : String) (i : Nat) : Node :=
  ⟨nodeID poolKey i, (List.range spec.devicesPerNode.toNat).map (fun j =>
    ⟨deviceID poolKey i j, spec.memoryMiBPerDevice, spec.deviceType, spec.profile⟩)⟩

/-- `buildNodesWithPoolKey`. -/
def buildNodesWithPoolKey (spec : GPUNodePoolSpec) (poolKey : String) :
    Except BuildError (List Node) :=
  if spec.nodeCount ≤ 0 then .error (.nodeCountNotPositive spec.nodeCount)
  else if spec.devicesPerNode ≤ 0 then .error (.devicesPerNodeNotPositive spec.devicesPerNode)
  else if spec.memoryMiBPerDevice ≤ 0 then
    .error (.memoryMiBPerDeviceNotPositive spec.memoryMiBPerDevice)
  else .ok ((List.range spec.nodeCount.toNat).map (buildNode spec poolKey))

/-- All devices of a list of nodes. -/
def devicesOf (nodes : List Node) : List Device := nodes.flatMap Node.devices

/-! ## Device IDs are injective -/

/-- The characters of a device ID: what comes before the last slash, and after it. -/
private theorem toList_deviceID (k : String) (i j : Nat) :
    (deviceID k i j).toList
      = (nodeID k i).toList ++ '/' :: ("gpu-".toList ++ (fmtNat j).toList) := by
  simp [deviceID, String.toList_append]

private theorem toList_nodeID_default {k : String} (h : ¬ (k ≠ "" ∧ k ≠ defaultPoolKey))
    (i : Nat) : (nodeID k i).toList = "node-".toList ++ (fmtNat i).toList := by
  rw [nodeID, poolPrefix, if_neg h]
  simp [String.toList_append]

private theorem toList_nodeID {k : String} (h : k ≠ "" ∧ k ≠ defaultPoolKey) (i : Nat) :
    (nodeID k i).toList = k.toList ++ '/' :: ("node-".toList ++ (fmtNat i).toList) := by
  rw [nodeID, poolPrefix, if_pos h]
  simp [String.toList_append]

/-- Neither component of an ID contains a slash. -/
private theorem slash_notMem_component {word : List Char} (hw : '/' ∉ word) (n : Nat) :
    '/' ∉ word ++ (fmtNat n).toList := by
  intro h
  rcases List.mem_append.mp h with h | h
  · exact hw h
  · exact not_mem_fmtNat (by decide) n h

private theorem component_inj {word : List Char} {m n : Nat}
    (h : word ++ (fmtNat m).toList = word ++ (fmtNat n).toList) : m = n :=
  fmtNat_injective (String.toList_inj.mp (List.append_cancel_left h))

/-- **DEVICE IDS ARE INJECTIVE** in the pool key, the node and the device. -/
theorem deviceID_injective {k k' : String} {i i' j j' : Nat} (hk : k ≠ "") (hk' : k' ≠ "")
    (h : deviceID k i j = deviceID k' i' j') : k = k' ∧ i = i' ∧ j = j' := by
  have hgpu : '/' ∉ "gpu-".toList := by decide
  have hnode : '/' ∉ "node-".toList := by decide
  have hl := congrArg String.toList h
  rw [toList_deviceID, toList_deviceID] at hl
  obtain ⟨hnodes, hdev⟩ := append_sep_inj (slash_notMem_component hgpu j)
    (slash_notMem_component hgpu j') hl
  have hj : j = j' := component_inj hdev
  by_cases hd : k = defaultPoolKey
  · by_cases hd' : k' = defaultPoolKey
    · rw [toList_nodeID_default (fun hp => hp.2 hd), toList_nodeID_default
        (fun hp => hp.2 hd')] at hnodes
      exact ⟨hd.trans hd'.symm, component_inj hnodes, hj⟩
    · -- a default node ID has no slash, the other one has
      rw [toList_nodeID_default (fun hp => hp.2 hd), toList_nodeID ⟨hk', hd'⟩] at hnodes
      refine absurd ?_ (slash_notMem_component hnode i)
      rw [hnodes]
      simp
  · by_cases hd' : k' = defaultPoolKey
    · rw [toList_nodeID ⟨hk, hd⟩, toList_nodeID_default (fun hp => hp.2 hd')] at hnodes
      refine absurd ?_ (slash_notMem_component hnode i')
      rw [← hnodes]
      simp
    · rw [toList_nodeID ⟨hk, hd⟩, toList_nodeID ⟨hk', hd'⟩] at hnodes
      obtain ⟨hkeys, hi⟩ := append_sep_inj (slash_notMem_component hnode i)
        (slash_notMem_component hnode i') hnodes
      exact ⟨String.toList_inj.mp hkeys, component_inj hi, hj⟩

/-- The devices of a pool, given the specification it was built from. -/
theorem mem_devicesOf_build {spec : GPUNodePoolSpec} {k : String} {nodes : List Node}
    (h : buildNodesWithPoolKey spec k = .ok nodes) {d : Device} :
    d ∈ devicesOf nodes ↔ ∃ i < spec.nodeCount.toNat, ∃ j < spec.devicesPerNode.toNat,
      d = ⟨deviceID k i j, spec.memoryMiBPerDevice, spec.deviceType, spec.profile⟩ := by
  rw [buildNodesWithPoolKey] at h
  split_ifs at h
  rw [← Except.ok.inj h]
  rw [devicesOf, List.flatMap_map, List.mem_flatMap]
  simp only [buildNode, List.mem_map, List.mem_range]
  constructor
  · rintro ⟨i, hi, j, hj, rfl⟩
    exact ⟨i, hi, j, hj, rfl⟩
  · rintro ⟨i, hi, j, hj, rfl⟩
    exact ⟨i, hi, j, hj, rfl⟩

/-- A pool has `nodeCount * devicesPerNode` devices. -/
theorem length_devicesOf_build {spec : GPUNodePoolSpec} {k : String} {nodes : List Node}
    (h : buildNodesWithPoolKey spec k = .ok nodes) :
    (devicesOf nodes).length = spec.nodeCount.toNat * spec.devicesPerNode.toNat := by
  rw [buildNodesWithPoolKey] at h
  split_ifs at h
  rw [← Except.ok.inj h]
  simp [devicesOf, List.length_flatMap, buildNode, Function.comp_def]

/-- Within one pool the device IDs are distinct. -/
theorem nodup_devicesOf_build {spec : GPUNodePoolSpec} {k : String} {nodes : List Node}
    (hk : k ≠ "") (h : buildNodesWithPoolKey spec k = .ok nodes) :
    ((devicesOf nodes).map Device.id).Nodup := by
  rw [buildNodesWithPoolKey] at h
  split_ifs at h
  rw [← Except.ok.inj h, devicesOf, List.flatMap_map, List.map_flatMap, List.nodup_flatMap]
  constructor
  · intro i _
    simp only [buildNode, List.map_map]
    refine List.Nodup.map_on ?_ List.nodup_range
    intro j _ j' _ heq
    exact (deviceID_injective hk hk heq).2.2
  · refine List.nodup_range.imp ?_
    intro i i' hne x hx hx'
    simp only [buildNode, List.map_map, List.mem_map] at hx hx'
    obtain ⟨j, -, rfl⟩ := hx
    obtain ⟨j', -, heq⟩ := hx'
    exact hne (deviceID_injective hk hk heq).2.1.symm

/-! ## Eligible devices -/

/-- `nodeDevices`: the eligible device IDs of one node. -/
structure NodeDevices where
  nodeID : String
  deviceIDs : List String
  deriving DecidableEq, Repr

/-- The four `continue`s of `computeEligibleDevicesPerNode`. -/
def eligible (used : List String) (memMiB : Int) (preferredType preferredProfile : String)
    (d : Device) : Bool :=
  if d.id ∈ used then false
  else if d.memoryMiB < memMiB then false
  else if preferredType ≠ "" ∧ d.deviceType ≠ preferredType then false
  else if preferredProfile ≠ "" ∧ d.profile ≠ preferredProfile then false
  else true

/-- `computeEligibleDevicesPerNode`. -/
def computeEligibleDevicesPerNode (nodes : List Node) (used : List String) (memMiB : Int)
    (preferredType preferredProfile : String) : List NodeDevices :=
  nodes.map (fun node => ⟨node.id, (node.devices.filter
    (eligible used memMiB preferredType preferredProfile)).map Device.id⟩)

/-- All device IDs of a per-node list. -/
def flat (perNode : List NodeDevices) : List String := perNode.flatMap NodeDevices.deviceIDs

@[simp] theorem flat_nil : flat [] = [] := rfl

@[simp] theorem flat_cons (n : NodeDevices) (perNode : List NodeDevices) :
    flat (n :: perNode) = n.deviceIDs ++ flat perNode := rfl

/-- Node by node or all at once, the eligible devices are the same. -/
theorem flat_computeEligible (nodes : List Node) (used : List String) (memMiB : Int)
    (preferredType preferredProfile : String) :
    flat (computeEligibleDevicesPerNode nodes used memMiB preferredType preferredProfile)
      = ((devicesOf nodes).filter
          (eligible used memMiB preferredType preferredProfile)).map Device.id := by
  induction nodes with
  | nil => rfl
  | cons node nodes ih =>
      have hcons : devicesOf (node :: nodes) = node.devices ++ devicesOf nodes := rfl
      rw [hcons, List.filter_append, List.map_append, ← ih]
      rfl

/-! ## The policies -/

/-- The empty string and the values of the `PlacementPolicy` constants. -/
def policyNames : List String := ["", "first_fit", "pack", "spread", "locality_aware"]

/-- `PlacementPolicy`; `unset` is the empty string, `other` any unknown one. -/
inductive PlacementPolicy where
  | unset | firstFit | pack | spread | localityAware
  | other (raw : String) (unknown : raw ∉ policyNames)
  deriving DecidableEq, Repr

/-- The errors of `pickDevices`. -/
inductive PlacementError where
  | noSingleNode (need : Nat)
  | unknownPolicy (raw : String)
  deriving DecidableEq, Repr

/-- The inner loop of first-fit: append the IDs of a node until `need` are picked; the
    flag says that they are. -/
def fillNode (need : Nat) : List String → List String → List String × Bool
  | out, [] => (out, false)
  | out, id :: ids =>
      if (out ++ [id]).length = need then (out ++ [id], true) else fillNode need (out ++ [id]) ids

/-- The outer loop of first-fit. -/
def firstFitLoop (need maxNodes : Nat) : Nat → List String → List NodeDevices → List String
  | _, out, [] => out
  | usedNodes, out, n :: rest =>
      if n.deviceIDs = [] then firstFitLoop need maxNodes usedNodes out rest
      else if 0 < maxNodes ∧ maxNodes ≤ usedNodes then out
      else match fillNode need out n.deviceIDs with
        | (out', true) => out'
        | (out', false) => firstFitLoop need maxNodes (usedNodes + 1) out' rest

/-- `selectFirstFit`. -/
def selectFirstFit (perNode : List NodeDevices) (need maxNodes : Nat) : List String :=
  firstFitLoop need maxNodes 0 [] perNode

/-- `selectPack`: first-fit over the nodes with most eligible devices first. -/
def selectPack (perNode : List NodeDevices) (need maxNodes : Nat) : List String :=
  selectFirstFit (sliceStable (fun a b => decide (b.deviceIDs.length < a.deviceIDs.length))
    perNode) need maxNodes

/-- One sweep of spread over what is left of each node: one ID per node, until `need`
    are picked; the flag says that they are. -/
def sweep (need : Nat) :
    List String → List (List String) → List String × List (List String) × Bool
  | out, [] => (out, [], false)
  | out, [] :: rest =>
      let r := sweep need out rest
      (r.1, [] :: r.2.1, r.2.2)
  | out, (id :: ids) :: rest =>
      if (out ++ [id]).length = need then (out ++ [id], ids :: rest, true)
      else
        let r := sweep need (out ++ [id]) rest
        (r.1, ids :: r.2.1, r.2.2)

/-- The loop of spread; it ends when a sweep makes no progress. -/
def spreadLoop (need : Nat) : Nat → List String → List (List String) → List String
  | 0, out, _ => out
  | fuel + 1, out, left =>
      if need ≤ out.length then out
      else
        let r := sweep need out left
        if r.2.2 then r.1
        else if r.1.length = out.length then r.1
        else spreadLoop need fuel r.1 r.2.1

/-- The nodes spread draws from: those with eligible devices, up to the limit. -/
def spreadNodes (perNode : List NodeDevices) (maxNodes : Nat) : List NodeDevices :=
  let nodes := perNode.filter (fun n => n.deviceIDs ≠ [])
  if 0 < maxNodes ∧ maxNodes < nodes.length then nodes.take maxNodes else nodes

/-- `selectSpread`.  A sweep that goes on picks at least one ID, so `need` sweeps are
    enough. -/
def selectSpread (perNode : List NodeDevices) (need maxNodes : Nat) : List String :=
  spreadLoop need need [] ((spreadNodes perNode maxNodes).map NodeDevices.deviceIDs)

/-- The loop of `requireSameNode`: the first node with the most eligible devices, among
    those with enough. -/
def bestNode (need : Nat) : Option NodeDevices → List NodeDevices → Option NodeDevices
  | best, [] => best
  | best, n :: rest =>
      if n.deviceIDs.length < need then bestNode need best rest
      else match best with
        | none => bestNode need (some n) rest
        | some b =>
            if b.deviceIDs.length < n.deviceIDs.length then bestNode need (some n) rest
            else bestNode need (some b) rest

/-- `pickDevices`. -/
def pickDevices (perNode : List NodeDevices) (need : Nat) (policy : PlacementPolicy)
    (requireSameNode : Bool) (maxNodes : Nat) : Except PlacementError (List String) :=
  if requireSameNode then
    match bestNode need none perNode with
    | none => .error (.noSingleNode need)
    | some n => .ok (n.deviceIDs.take need)
  else match policy with
  | .firstFit => .ok (selectFirstFit perNode need maxNodes)
  | .pack => .ok (selectPack perNode need maxNodes)
  | .spread => .ok (selectSpread perNode need maxNodes)
  | .localityAware =>
      match perNode.find? (fun n => need ≤ n.deviceIDs.length) with
      | some n => .ok (n.deviceIDs.take need)
      | none => .ok (selectPack perNode need maxNodes)
  | .unset => .error (.unknownPolicy "")
  | .other raw _ => .error (.unknownPolicy raw)

/-! ## What a policy picks -/

/-- A pick from a list of IDs: distinct positions, at most as many as needed. -/
structure PickOf (need : Nat) (ids picked : List String) : Prop where
  subperm : picked.Subperm ids
  length : picked.length ≤ need

/-- Picking from a rearrangement is picking from the list. -/
theorem PickOf.perm {need : Nat} {ids ids' picked : List String} (h : PickOf need ids picked)
    (hp : ids.Perm ids') : PickOf need ids' picked :=
  ⟨h.subperm.trans hp.subperm, h.length⟩

theorem fillNode_eq {need : Nat} {out ids : List String} (h : out.length < need) :
    fillNode need out ids
      = (out ++ ids.take (need - out.length), decide (need ≤ out.length + ids.length)) := by
  induction ids generalizing out with
  | nil =>
      rw [fillNode, List.take_nil, List.append_nil]
      have hnot : ¬ need ≤ out.length + ([] : List String).length := by
        rw [List.length_nil]; omega
      rw [decide_eq_false hnot]
  | cons id ids ih =>
      rw [fillNode]
      have hlen : (out ++ [id]).length = out.length + 1 := by simp
      by_cases he : (out ++ [id]).length = need
      · have hone : need - out.length = 1 := by omega
        have hle : need ≤ out.length + (id :: ids).length := by
          rw [List.length_cons]; omega
        rw [if_pos he, hone, List.take_succ_cons, List.take_zero, decide_eq_true hle]
      · have hsub : need - out.length = need - (out ++ [id]).length + 1 := by omega
        rw [if_neg he, ih (by omega), hsub, List.take_succ_cons, List.append_assoc]
        have hiff : (need ≤ (out ++ [id]).length + ids.length)
            = (need ≤ out.length + (id :: ids).length) := by
          rw [hlen, List.length_cons]
          exact propext (by omega)
        rw [decide_eq_decide.mpr (Iff.of_eq hiff)]
        rfl

/-- Nodes without eligible devices contribute nothing. -/
theorem flat_filter_nonempty (perNode : List NodeDevices) :
    flat (perNode.filter (fun n => n.deviceIDs ≠ [])) = flat perNode := by
  induction perNode with
  | nil => rfl
  | cons n rest ih =>
      by_cases hn : n.deviceIDs = []
      · rw [List.filter_cons_of_neg (by simpa using hn), ih, flat_cons, hn, List.nil_append]
      · rw [List.filter_cons_of_pos (by simpa using hn), flat_cons, flat_cons, ih]

theorem flat_spreadNodes_zero (perNode : List NodeDevices) :
    flat (spreadNodes perNode 0) = flat perNode := by
  rw [spreadNodes, if_neg (fun h => absurd h.1 (lt_irrefl 0)), flat_filter_nonempty]

/-- A node limit takes the first of the nodes that have something. -/
theorem spreadNodes_of_pos (perNode : List NodeDevices) {maxNodes : Nat} (h : 0 < maxNodes) :
    spreadNodes perNode maxNodes
      = (perNode.filter (fun n => n.deviceIDs ≠ [])).take maxNodes := by
  rw [spreadNodes]
  split_ifs with hlt
  · rfl
  · exact (List.take_of_length_le (by omega)).symm

theorem spreadNodes_sublist (perNode : List NodeDevices) (maxNodes : Nat) :
    (spreadNodes perNode maxNodes).Sublist perNode := by
  rw [spreadNodes]
  split_ifs
  · exact (List.take_sublist _ _).trans List.filter_sublist
  · exact List.filter_sublist

/-- The nodes first-fit still draws from after some: those with eligible devices, up to what
    is left of the limit. -/
def nodesLeft (maxNodes usedNodes : Nat) (perNode : List NodeDevices) : List NodeDevices :=
  let nodes := perNode.filter (fun n => n.deviceIDs ≠ [])
  if 0 < maxNodes then nodes.take (maxNodes - usedNodes) else nodes

/-- At first they are the nodes spread draws from. -/
theorem nodesLeft_zero (maxNodes : Nat) (perNode : List NodeDevices) :
    nodesLeft maxNodes 0 perNode = spreadNodes perNode maxNodes := by
  rw [nodesLeft]
  split_ifs with hpos
  · rw [spreadNodes_of_pos perNode hpos]
    rfl
  · rw [spreadNodes, if_neg (fun h => hpos h.1)]

section
variable {n : NodeDevices} {maxNodes usedNodes : Nat} (rest : List NodeDevices)

theorem nodesLeft_skip (h : n.deviceIDs = []) :
    nodesLeft maxNodes usedNodes (n :: rest) = nodesLeft maxNodes usedNodes rest := by
  rw [nodesLeft, nodesLeft, List.filter_cons_of_neg (by simpa using h)]

theorem nodesLeft_full (h : 0 < maxNodes ∧ maxNodes ≤ usedNodes) (perNode : List NodeDevices) :
    nodesLeft maxNodes usedNodes perNode = [] := by
  rw [nodesLeft, if_pos h.1, Nat.sub_eq_zero_of_le h.2, List.take_zero]

theorem nodesLeft_cons (hn : n.deviceIDs ≠ []) (h : ¬ (0 < maxNodes ∧ maxNodes ≤ usedNodes)) :
    nodesLeft maxNodes usedNodes (n :: rest) = n :: nodesLeft maxNodes (usedNodes + 1) rest := by
  rw [nodesLeft, nodesLeft, List.filter_cons_of_pos (by simpa using hn)]
  by_cases hpos : 0 < maxNodes
  · have hsucc : maxNodes - usedNodes = maxNodes - (usedNodes + 1) + 1 := by omega
    rw [if_pos hpos, if_pos hpos, hsucc, List.take_succ_cons]
  · rw [if_neg hpos, if_neg hpos]

end

/-- First-fit from the middle of its loop: the first IDs of the nodes that are left. -/
theorem firstFitLoop_eq {need : Nat} (maxNodes usedNodes : Nat) {out : List String}
    (perNode : List NodeDevices) (h : out.length < need) :
    firstFitLoop need maxNodes usedNodes out perNode
      = out ++ (flat (nodesLeft maxNodes usedNodes perNode)).take (need - out.length) := by
  induction perNode generalizing usedNodes out with
  | nil => simp [firstFitLoop, nodesLeft]
  | cons n rest ih =>
      rw [firstFitLoop]
      by_cases he : n.deviceIDs = []
      · rw [if_pos he, nodesLeft_skip rest he]
        exact ih usedNodes h
      rw [if_neg he]
      by_cases hlim : 0 < maxNodes ∧ maxNodes ≤ usedNodes
      · rw [if_pos hlim, nodesLeft_full hlim, flat_nil, List.take_nil, List.append_nil]
      rw [if_neg hlim, fillNode_eq h, nodesLeft_cons rest he hlim, flat_cons, List.take_append]
      by_cases hfull : need ≤ out.length + n.deviceIDs.length
      · have hnone : need - out.length - n.deviceIDs.length = 0 := by omega
        rw [decide_eq_true hfull, hnone, List.take_zero, List.append_nil]
      · have htake : n.deviceIDs.take (need - out.length) = n.deviceIDs :=
          List.take_of_length_le (by omega)
        have hlt : (out ++ n.deviceIDs).length < need := by
          rw [List.length_append]
          omega
        have hsub : need - (out ++ n.deviceIDs).length
            = need - out.length - n.deviceIDs.length := by
          rw [List.length_append]
          omega
        rw [decide_eq_false hfull, htake]
        show firstFitLoop need maxNodes (usedNodes + 1) (out ++ n.deviceIDs) rest = _
        rw [ih (usedNodes + 1) hlt, hsub, List.append_assoc]

/-- **FIRST FIT** takes the first devices of the first nodes that have some. -/
theorem selectFirstFit_eq (perNode : List NodeDevices) {need : Nat} (h : 0 < need)
    (maxNodes : Nat) :
    selectFirstFit perNode need maxNodes = (flat (spreadNodes perNode maxNodes)).take need := by
  have hnil : ([] : List String).length < need := h
  rw [selectFirstFit, firstFitLoop_eq maxNodes 0 perNode hnil, nodesLeft_zero]
  rfl

/-- **FIRST FIT IS COMPLETE** when nodes are not limited. -/
theorem selectFirstFit_eq_take (perNode : List NodeDevices) {need : Nat} (h : 0 < need) :
    selectFirstFit perNode need 0 = (flat perNode).take need := by
  rw [selectFirstFit_eq perNode h, flat_spreadNodes_zero]

theorem selectFirstFit_pickOf (perNode : List NodeDevices) {need : Nat} (maxNodes : Nat)
    (h : 0 < need) : PickOf need (flat perNode) (selectFirstFit perNode need maxNodes) := by
  rw [selectFirstFit_eq perNode h]
  have hsub := (spreadNodes_sublist perNode maxNodes).flatMap NodeDevices.deviceIDs
  exact ⟨((List.take_sublist _ _).trans hsub).subperm, List.length_take_le _ _⟩

theorem selectPack_pickOf (perNode : List NodeDevices) {need : Nat} (maxNodes : Nat)
    (h : 0 < need) : PickOf need (flat perNode) (selectPack perNode need maxNodes) :=
  (selectFirstFit_pickOf _ maxNodes h).perm ((sliceStable_perm _ perNode).flatMap_right _)

/-- A sweep moves IDs from what is left to what is picked; the flag says that the need
    is met. -/
theorem sweep_spec {need : Nat} (out : List String) (left : List (List String))
    (h : out.length < need) :
    ((sweep need out left).1 ++ (sweep need out left).2.1.flatten).Perm (out ++ left.flatten)
      ∧ out.length ≤ (sweep need out left).1.length
      ∧ (sweep need out left).1.length ≤ need
      ∧ ((sweep need out left).2.2 = false → (sweep need out left).1.length < need) := by
  induction left generalizing out with
  | nil =>
      exact ⟨List.Perm.refl _, le_refl _, le_of_lt h, fun _ => h⟩
  | cons ids left ih =>
      cases ids with
      | nil =>
          rw [sweep]
          exact ih out h
      | cons id ids =>
          have hlen : (out ++ [id]).length = out.length + 1 := by simp
          -- the picked ID changes sides
          have hmove : ∀ rest : List String,
              (out ++ [id] ++ (ids ++ rest)).Perm (out ++ ((id :: ids) ++ rest)) := by
            intro rest
            rw [List.append_assoc]
            exact List.Perm.refl _
          rw [sweep]
          by_cases he : (out ++ [id]).length = need
          · rw [if_pos he]
            refine ⟨hmove left.flatten, ?_, le_of_eq he, fun hf => by cases hf⟩
            show out.length ≤ (out ++ [id]).length
            omega
          · rw [if_neg he]
            obtain ⟨hperm, hge, hle, hlt⟩ := ih (out ++ [id]) (by omega)
            refine ⟨?_, by simp only; omega, hle, hlt⟩
            show ((sweep need (out ++ [id]) left).1
              ++ (ids ++ (sweep need (out ++ [id]) left).2.1.flatten)).Perm _
            refine (List.perm_append_comm_assoc _ ids _).trans ?_
            refine (hperm.append_left ids).trans ?_
            exact (List.perm_append_comm_assoc ids _ _).trans (hmove left.flatten)

/-- The picked IDs of a spread come from what was picked and what was left. -/
theorem spreadLoop_pickOf {need : Nat} (fuel : Nat) (out : List String)
    (left : List (List String)) (h : out.length ≤ need) :
    PickOf need (out ++ left.flatten) (spreadLoop need fuel out left) := by
  induction fuel generalizing out left with
  | zero => exact ⟨(List.sublist_append_left _ _).subperm, h⟩
  | succ fuel ih =>
      rw [spreadLoop]
      by_cases hfull : need ≤ out.length
      · rw [if_pos hfull]
        exact ⟨(List.sublist_append_left _ _).subperm, h⟩
      · rw [if_neg hfull]
        obtain ⟨hperm, -, hle, -⟩ := sweep_spec out left (not_le.mp hfull)
        have hstop : PickOf need (out ++ left.flatten) (sweep need out left).1 :=
          PickOf.perm ⟨(List.sublist_append_left _ _).subperm, hle⟩ hperm
        by_cases hflag : (sweep need out left).2.2 = true
        · simp only [if_pos hflag]
          exact hstop
        · by_cases hsame : (sweep need out left).1.length = out.length
          · simp only [if_neg hflag, if_pos hsame]
            exact hstop
          · simp only [if_neg hflag, if_neg hsame]
            exact (ih _ _ hle).perm hperm

theorem selectSpread_pickOf (perNode : List NodeDevices) (need maxNodes : Nat) :
    PickOf need (flat perNode) (selectSpread perNode need maxNodes) := by
  have h := spreadLoop_pickOf need [] ((spreadNodes perNode maxNodes).map
    NodeDevices.deviceIDs) (Nat.zero_le need)
  have hflat : (((spreadNodes perNode maxNodes).map NodeDevices.deviceIDs).flatten).Sublist
      (flat perNode) := by
    rw [← List.flatMap_def]
    exact (spreadNodes_sublist perNode maxNodes).flatMap _
  exact ⟨h.subperm.trans hflat.subperm, h.length⟩

/-- A prefix of the eligible IDs of one node is a pick. -/
private theorem take_pickOf {perNode : List NodeDevices} {n : NodeDevices} (need : Nat)
    (hn : n ∈ perNode) : PickOf need (flat perNode) (n.deviceIDs.take need) := by
  refine ⟨?_, List.length_take_le _ _⟩
  have hmem : n.deviceIDs ∈ perNode.map NodeDevices.deviceIDs := List.mem_map.mpr ⟨n, hn, rfl⟩
  exact ((List.take_sublist _ _).trans (List.sublist_flatten_of_mem hmem)).subperm

/-- The node found is one of the nodes, with enough devices. -/
theorem bestNode_some {need : Nat} {best : Option NodeDevices} {perNode : List NodeDevices}
    {n : NodeDevices} (h : bestNode need best perNode = some n) :
    best = some n ∨ n ∈ perNode ∧ need ≤ n.deviceIDs.length := by
  induction perNode generalizing best with
  | nil => exact Or.inl h
  | cons m rest ih =>
      simp only [bestNode] at h
      by_cases hm : m.deviceIDs.length < need
      · rw [if_pos hm] at h
        exact (ih h).imp_right (fun hn => ⟨List.mem_cons_of_mem _ hn.1, hn.2⟩)
      · rw [if_neg hm] at h
        have hnew : bestNode need (some m) rest = some n →
            n ∈ m :: rest ∧ need ≤ n.deviceIDs.length := by
          intro h
          rcases ih h with hm' | hn
          · rw [← Option.some.inj hm']
            exact ⟨List.mem_cons_self .., not_lt.mp hm⟩
          · exact ⟨List.mem_cons_of_mem _ hn.1, hn.2⟩
        cases best with
        | none => exact Or.inr (hnew h)
        | some b =>
            simp only at h
            split_ifs at h
            · exact Or.inr (hnew h)
            · exact (ih h).imp_right (fun hn => ⟨List.mem_cons_of_mem _ hn.1, hn.2⟩)

/-- **EVERY POLICY PICKS FROM THE ELIGIBLE IDS**: distinct positions, at most `need`. -/
theorem pickDevices_pickOf {perNode : List NodeDevices} {need maxNodes : Nat}
    {policy : PlacementPolicy} {requireSameNode : Bool} {picked : List String}
    (hneed : 0 < need)
    (h : pickDevices perNode need policy requireSameNode maxNodes = .ok picked) :
    PickOf need (flat perNode) picked := by
  unfold pickDevices at h
  cases requireSameNode with
  | true =>
      rw [if_pos rfl] at h
      cases hb : bestNode need none perNode with
      | none => rw [hb] at h; cases h
      | some n =>
          rw [hb] at h
          rw [← Except.ok.inj h]
          rcases bestNode_some hb with hn | hn
          · cases hn
          · exact take_pickOf need hn.1
  | false =>
      rw [if_neg Bool.false_ne_true] at h
      cases policy with
      | unset => cases h
      | other raw _ => cases h
      | firstFit => rw [← Except.ok.inj h]; exact selectFirstFit_pickOf perNode maxNodes hneed
      | pack => rw [← Except.ok.inj h]; exact selectPack_pickOf perNode maxNodes hneed
      | spread => rw [← Except.ok.inj h]; exact selectSpread_pickOf perNode need maxNodes
      | localityAware =>
          simp only at h
          cases hf : perNode.find? (fun n => need ≤ n.deviceIDs.length) with
          | some n =>
              rw [hf] at h
              rw [← Except.ok.inj h]
              exact take_pickOf need (List.mem_of_find?_eq_some hf)
          | none =>
              rw [hf] at h
              rw [← Except.ok.inj h]
              exact selectPack_pickOf perNode maxNodes hneed

end GpuPlacement
