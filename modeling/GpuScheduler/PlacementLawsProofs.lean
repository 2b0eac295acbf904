import GpuScheduler.GreedyPrefixProofs
import GpuScheduler.SimulatorProofs

/-! # Placement is sound and complete

    Each policy draws its devices from some of the nodes: everything they have, up to the
    need (`pickDevices_drawn`).  Without a node limit these are all nodes, so an allocation
    succeeds exactly when there are enough eligible devices, in the fleet or, where one
    node is asked for, on some node (`allocation_sound_complete`).

    With a node limit first-fit and spread can fail where another choice of nodes would
    do.  Pack cannot: it visits the largest nodes first, and then it also uses as few
    nodes as any choice of that many devices (`pack_fewest_nodes`). -/

namespace GpuPlacementLaws

open GoMaps GoSort GpuPlacement GpuSimulator GreedyPrefix StepRuns

/-! ## The nodes a policy draws from -/

section
variable {perNode : List NodeDevices} {need maxNodes : Nat}

theorem length_spreadNodes_le (perNode : List NodeDevices) (h : 0 < maxNodes) :
    (spreadNodes perNode maxNodes).length ≤ maxNodes := by
  rw [spreadNodes_of_pos perNode h]
  exact List.length_take_le _ _

/-! ## Spread goes on while something is left -/

/-- A sweep that meets the need says so, and one that picks nothing found nothing. -/
theorem sweep_progress (out : List String) (left : List (List String))
    (h : out.length < need) :
    ((sweep need out left).2.2 = true → (sweep need out left).1.length = need)
      ∧ ((sweep need out left).1.length = out.length → left.flatten = []) := by
  induction left generalizing out with
  | nil => exact ⟨fun hf => (by cases hf), fun _ => rfl⟩
  | cons ids left ih =>
      cases ids with
      | nil =>
          rw [sweep]
          exact ih out h
      | cons id ids =>
          have hlen : (out ++ [id]).length = out.length + 1 := by simp
          rw [sweep]
          by_cases he : (out ++ [id]).length = need
          · rw [if_pos he]
            refine ⟨fun _ => he, fun hsame => ?_⟩
            simp only at hsame
            omega
          · rw [if_neg he]
            have hlt : (out ++ [id]).length < need := by omega
            obtain ⟨-, hge, -, -⟩ := sweep_spec (out ++ [id]) left hlt
            refine ⟨(ih (out ++ [id]) hlt).1, fun hsame => ?_⟩
            simp only at hsame
            omega

/-- **SPREAD IS COMPLETE**: it ends with the need met or with nothing left. -/
theorem length_spreadLoop (fuel : Nat) (out : List String) (left : List (List String))
    (hfuel : need ≤ out.length + fuel) (h : out.length ≤ need) :
    (spreadLoop need fuel out left).length = min need (out.length + left.flatten.length) := by
  induction fuel generalizing out left with
  | zero =>
      rw [spreadLoop]
      omega
  | succ fuel ih =>
      rw [spreadLoop]
      by_cases hfull : need ≤ out.length
      · rw [if_pos hfull]
        omega
      · rw [if_neg hfull]
        have hlt := not_le.mp hfull
        obtain ⟨hperm, hge, hle, -⟩ := sweep_spec out left hlt
        obtain ⟨hmet, hdone⟩ := sweep_progress out left hlt
        have hlen := hperm.length_eq
        rw [List.length_append, List.length_append] at hlen
        by_cases hflag : (sweep need out left).2.2 = true
        · simp only [if_pos hflag]
          have := hmet hflag
          omega
        · by_cases hsame : (sweep need out left).1.length = out.length
          · simp only [if_neg hflag, if_pos hsame]
            rw [hdone hsame, List.length_nil]
            omega
          · simp only [if_neg hflag, if_neg hsame]
            rw [ih _ _ (by omega) hle]
            omega

theorem length_selectSpread (perNode : List NodeDevices) (need maxNodes : Nat) :
    (selectSpread perNode need maxNodes).length
      = min need (flat (spreadNodes perNode maxNodes)).length := by
  rw [selectSpread, length_spreadLoop need [] _ (Nat.le_add_left ..) (Nat.zero_le _),
    List.length_nil, Nat.zero_add, ← List.flatMap_def]
  rfl

/-! ## One node -/

/-- The loop of `requireSameNode` finds a node exactly when one has enough. -/
theorem bestNode_isSome (need : Nat) (best : Option NodeDevices) (perNode : List NodeDevices) :
    (bestNode need best perNode).isSome
      ↔ best.isSome ∨ ∃ n ∈ perNode, need ≤ n.deviceIDs.length := by
  induction perNode generalizing best with
  | nil => simp [bestNode]
  | cons m rest ih =>
      by_cases hm : m.deviceIDs.length < need
      · simp only [bestNode, if_pos hm, ih, List.exists_mem_cons_iff, not_le.mpr hm, false_or]
      · have henough : need ≤ m.deviceIDs.length := not_lt.mp hm
        cases best with
        | none => simp [bestNode, hm, ih, henough]
        | some b =>
            simp only [bestNode, if_neg hm]
            split_ifs
            · simp [ih]
            · simp [ih]

/-! ## What a pick is drawn from -/

/-- A pick is drawn from some nodes: all they have, up to the need. -/
structure Drawn (need : Nat) (nodes : List NodeDevices) (out : List String) : Prop where
  subperm : out.Subperm (flat nodes)
  length : out.length = min need (flat nodes).length

theorem drawn_take (need : Nat) (nodes : List NodeDevices) :
    Drawn need nodes ((flat nodes).take need) :=
  ⟨(List.take_sublist _ _).subperm, List.length_take⟩

theorem drawn_selectSpread (perNode : List NodeDevices) (need maxNodes : Nat) :
    Drawn need (spreadNodes perNode maxNodes) (selectSpread perNode need maxNodes) := by
  refine ⟨?_, length_selectSpread perNode need maxNodes⟩
  have h := spreadLoop_pickOf need [] ((spreadNodes perNode maxNodes).map
    NodeDevices.deviceIDs) (Nat.zero_le need)
  rw [List.nil_append, ← List.flatMap_def] at h
  exact h.subperm

/-- The nodes pack visits: most eligible devices first. -/
def packNodes (perNode : List NodeDevices) : List NodeDevices :=
  sliceStable (fun a b => decide (b.deviceIDs.length < a.deviceIDs.length)) perNode

theorem packNodes_perm (perNode : List NodeDevices) : (packNodes perNode).Perm perNode :=
  sliceStable_perm _ perNode

theorem selectPack_eq (perNode : List NodeDevices) (hneed : 0 < need) (maxNodes : Nat) :
    selectPack perNode need maxNodes
      = (flat (spreadNodes (packNodes perNode) maxNodes)).take need :=
  selectFirstFit_eq (packNodes perNode) hneed maxNodes

/-- The nodes within the limit, of a list in any order. -/
structure Within (perNode : List NodeDevices) (maxNodes : Nat) (nodes : List NodeDevices) :
    Prop where
  subperm : nodes.Subperm perNode
  limit : 0 < maxNodes → nodes.length ≤ maxNodes
  all : maxNodes = 0 → (flat nodes).length = (flat perNode).length

theorem within_spreadNodes {perNode perNode' : List NodeDevices} (hperm : perNode'.Perm perNode)
    (maxNodes : Nat) : Within perNode maxNodes (spreadNodes perNode' maxNodes) := by
  refine ⟨(spreadNodes_sublist perNode' maxNodes).subperm.trans hperm.subperm,
    length_spreadNodes_le perNode', fun hzero => ?_⟩
  rw [hzero, flat_spreadNodes_zero]
  exact (hperm.flatMap_right _).length_eq

/-- A pick under a known policy, without `requireSameNode`: from nodes within the limit, or
    from one node that has enough. -/
theorem pickDevices_free (perNode : List NodeDevices) (maxNodes : Nat)
    {policy : PlacementPolicy} (hneed : 0 < need)
    (hknown : policy ≠ .unset ∧ ∀ raw h, policy ≠ .other raw h) :
    ∃ out, pickDevices perNode need policy false maxNodes = .ok out
      ∧ ((∃ nodes, Within perNode maxNodes nodes ∧ Drawn need nodes out)
        ∨ ∃ n ∈ perNode, need ≤ n.deviceIDs.length ∧ out = n.deviceIDs.take need) := by
  unfold pickDevices
  rw [if_neg Bool.false_ne_true]
  have hpack := selectPack_eq perNode hneed maxNodes
  cases policy with
  | unset => exact absurd rfl hknown.1
  | other raw h => exact absurd rfl (hknown.2 raw h)
  | firstFit =>
      refine ⟨_, rfl, Or.inl ⟨_, within_spreadNodes (List.Perm.refl _) maxNodes, ?_⟩⟩
      rw [selectFirstFit_eq perNode hneed]
      exact drawn_take need _
  | pack =>
      refine ⟨_, rfl, Or.inl ⟨_, within_spreadNodes (packNodes_perm perNode) maxNodes, ?_⟩⟩
      rw [hpack]
      exact drawn_take need _
  | spread =>
      exact ⟨_, rfl, Or.inl ⟨_, within_spreadNodes (List.Perm.refl _) maxNodes,
        drawn_selectSpread perNode need maxNodes⟩⟩
  | localityAware =>
      cases hfind : perNode.find? (fun n => need ≤ n.deviceIDs.length) with
      | some n =>
          have henough := List.find?_some hfind
          exact ⟨_, rfl, Or.inr ⟨n, List.mem_of_find?_eq_some hfind,
            of_decide_eq_true henough, rfl⟩⟩
      | none =>
          refine ⟨_, rfl, Or.inl ⟨_, within_spreadNodes (packNodes_perm perNode) maxNodes, ?_⟩⟩
          rw [hpack]
          exact drawn_take need _

end

/-! ## Pack uses the fewest nodes -/

/-- A way of choosing devices: some of the nodes, each at most once, and from each of them
    some of its devices. -/
structure Choice (perNode : List NodeDevices) (picks : List (NodeDevices × List String)) :
    Prop where
  nodes : (picks.map Prod.fst).Subperm perNode
  devices : ∀ p ∈ picks, p.2 ≠ [] ∧ p.2.Subperm p.1.deviceIDs

/-- The chosen devices. -/
def chosen (picks : List (NodeDevices × List String)) : List String := picks.flatMap Prod.snd

/-- The nodes that have one of some devices. -/
def nodesWith (perNode : List NodeDevices) (ids : List String) : List NodeDevices :=
  perNode.filter (fun n => n.deviceIDs.any (fun id => id ∈ ids))

/-- The pick uses as few nodes as any way of choosing that many devices. -/
def Fewest (perNode : List NodeDevices) (need : Nat) (out : List String) : Prop :=
  ∃ picks, Choice perNode picks ∧ (chosen picks).Perm out
    ∧ ((flat perNode).Nodup → (nodesWith perNode out).length = picks.length)
    ∧ ∀ picks', Choice perNode picks' → (chosen picks').length = need →
      picks.length ≤ picks'.length

section
variable {perNode : List NodeDevices} {need maxNodes : Nat}
  {picks : List (NodeDevices × List String)}

/-- Where all IDs are distinct, no ID is on two nodes. -/
theorem eq_of_shared_id (hnd : (flat perNode).Nodup) {n m : NodeDevices} (hn : n ∈ perNode)
    (hm : m ∈ perNode) {id : String} (hidn : id ∈ n.deviceIDs) (hidm : id ∈ m.deviceIDs) :
    n = m := by
  have hsymm : Std.Symm (Function.onFun List.Disjoint NodeDevices.deviceIDs) :=
    ⟨fun _ _ h => h.symm⟩
  by_contra hne
  exact (List.nodup_flatMap.mp hnd).2.forall hn hm hne hidn hidm

/-- Nor does a node that has something occur twice. -/
theorem nodup_nonempty (hnd : (flat perNode).Nodup) :
    (perNode.filter (fun n => n.deviceIDs ≠ [])).Nodup := by
  have hdisjoint := (List.nodup_flatMap.mp hnd).2.sublist
    (List.filter_sublist (p := fun n : NodeDevices => decide (n.deviceIDs ≠ [])))
  refine hdisjoint.imp_of_mem ?_
  intro n m hn _ hd heq
  obtain ⟨id, hid⟩ := List.exists_mem_of_ne_nil _
    (of_decide_eq_true (List.mem_filter.mp hn).2)
  exact hd hid (heq ▸ hid)

/-- A chosen node has something. -/
theorem Choice.nonempty (h : Choice perNode picks) :
    ∀ n ∈ picks.map Prod.fst, n.deviceIDs ≠ [] := by
  intro n hn hnil
  obtain ⟨p, hp, rfl⟩ := List.mem_map.mp hn
  obtain ⟨hne, hsub⟩ := h.devices p hp
  rw [hnil] at hsub
  exact hne (List.subperm_nil.mp hsub)

/-- Among distinct IDs, the nodes of a choice are those that have one of its devices. -/
theorem Choice.length_nodesWith (h : Choice perNode picks) (hnd : (flat perNode).Nodup) :
    (nodesWith perNode (chosen picks)).length = picks.length := by
  have hsub : (picks.map Prod.fst).Subperm (perNode.filter (fun n => n.deviceIDs ≠ [])) := by
    have hall := h.nodes.filter (fun n => decide (n.deviceIDs ≠ []))
    rw [List.filter_eq_self.mpr (fun n hn => decide_eq_true (h.nonempty n hn))] at hall
    exact hall
  have hnodes : (picks.map Prod.fst).Nodup := by
    obtain ⟨m, hperm, hm⟩ := hsub
    exact hperm.nodup_iff.mp ((nodup_nonempty hnd).sublist hm)
  have hwith : (nodesWith perNode (chosen picks)).Nodup := by
    refine (nodup_nonempty hnd).sublist ?_
    refine List.monotone_filter_right perNode (fun n hn => ?_)
    obtain ⟨id, hid, -⟩ := List.any_eq_true.mp hn
    exact decide_eq_true (List.ne_nil_of_mem hid)
  have hperm : (nodesWith perNode (chosen picks)).Perm (picks.map Prod.fst) := by
    refine (List.perm_ext_iff_of_nodup hwith hnodes).mpr (fun n => ?_)
    rw [nodesWith, List.mem_filter, List.any_eq_true]
    constructor
    · rintro ⟨hn, id, hid, hin⟩
      obtain ⟨p, hp, hidp⟩ := List.mem_flatMap.mp (of_decide_eq_true hin)
      have hfst : p.1 ∈ picks.map Prod.fst := List.mem_map.mpr ⟨p, hp, rfl⟩
      rw [eq_of_shared_id hnd hn (h.nodes.subset hfst) hid ((h.devices p hp).2.subset hidp)]
      exact hfst
    · intro hn
      refine ⟨h.nodes.subset hn, ?_⟩
      obtain ⟨p, hp, rfl⟩ := List.mem_map.mp hn
      obtain ⟨hne, hsubp⟩ := h.devices p hp
      obtain ⟨id, hid⟩ := List.exists_mem_of_ne_nil _ hne
      exact ⟨id, hsubp.subset hid,
        decide_eq_true (List.mem_flatMap.mpr ⟨p, hp, hid⟩)⟩
  rw [hperm.length_eq, List.length_map]

/-- A choice that no other of its size undercuts shows that the pick uses the fewest. -/
theorem fewest_of_choice (picks : List (NodeDevices × List String)) {out : List String}
    (h : Choice perNode picks) (hout : chosen picks = out)
    (hmin : ∀ picks', Choice perNode picks' → (chosen picks').length = need →
      picks.length ≤ picks'.length) : Fewest perNode need out := by
  refine ⟨picks, h, hout ▸ List.Perm.refl _, fun hnd => ?_, hmin⟩
  rw [← hout]
  exact h.length_nodesWith hnd

/-- The number of a node's eligible devices. -/
def size (n : NodeDevices) : Int := n.deviceIDs.length

theorem weigh_size (nodes : List NodeDevices) : weigh size nodes = (flat nodes).length := by
  induction nodes with
  | nil => rfl
  | cons n rest ih =>
      rw [weigh_cons, ih, flat_cons, List.length_append, size]
      omega

theorem size_nonneg (n : NodeDevices) : 0 ≤ size n := Int.natCast_nonneg _

/-- A choice takes no more than its nodes have. -/
theorem Choice.length_le (h : Choice perNode picks) :
    ((chosen picks).length : Int) ≤ weigh size (picks.map Prod.fst) := by
  have hdev := h.devices
  clear h
  induction picks with
  | nil => exact le_refl _
  | cons p rest ih =>
      have ihr := ih (fun q hq => hdev q (List.mem_cons_of_mem _ hq))
      have hp := (hdev p (List.mem_cons_self ..)).2.length_le
      rw [chosen] at ihr ⊢
      rw [List.flatMap_cons, List.length_append, List.map_cons, weigh_cons, size]
      omega

/-- The nodes pack visits that have something. -/
def packed (perNode : List NodeDevices) : List NodeDevices :=
  (packNodes perNode).filter (fun n => n.deviceIDs ≠ [])

theorem packNodes_sorted (perNode : List NodeDevices) :
    (packNodes perNode).Pairwise (fun a b => size b ≤ size a) := by
  have hweak : StrictWeak (fun a b : NodeDevices =>
      decide (b.deviceIDs.length < a.deviceIDs.length)) := by
    constructor
    · intro a b
      simp only [decide_eq_false_iff_not]
      omega
    · intro a b c
      simp only [decide_eq_false_iff_not]
      omega
  refine (sliceStable_pairwise hweak perNode).imp ?_
  intro a b h
  simp only [decide_eq_false_iff_not, not_lt] at h
  simp only [size]
  omega

theorem packed_sorted (perNode : List NodeDevices) :
    (packed perNode).Pairwise (fun a b => size b ≤ size a) :=
  (packNodes_sorted perNode).sublist List.filter_sublist

/-- The nodes that have something are among those that pack visits. -/
theorem subperm_packed {nodes : List NodeDevices} (h : nodes.Subperm perNode) :
    (nodes.filter (fun n => n.deviceIDs ≠ [])).Subperm (packed perNode) :=
  (h.trans (packNodes_perm perNode).symm.subperm).filter _

/-- **NO CHOICE OF NODES HAS MORE** than the ones pack draws from. -/
theorem flat_le_packed {nodes : List NodeDevices} (h : nodes.Subperm perNode)
    (hlimit : 0 < maxNodes → nodes.length ≤ maxNodes) :
    (flat nodes).length ≤ (flat (spreadNodes (packNodes perNode) maxNodes)).length := by
  have hsub := subperm_packed h
  have hpos : ∀ n ∈ packed perNode, 0 ≤ size n := fun n _ => size_nonneg n
  have hflat := congrArg List.length (flat_filter_nonempty nodes)
  have hlen : (nodes.filter (fun n => n.deviceIDs ≠ [])).length ≤ nodes.length :=
    List.length_filter_le _ _
  cases Nat.eq_zero_or_pos maxNodes with
  | inl hzero =>
      have hle := weigh_le_take (packed_sorted perNode) hpos hsub
        (le_max_left _ (packed perNode).length)
      rw [List.take_of_length_le (le_max_right ..), weigh_size, weigh_size, packed,
        flat_filter_nonempty (packNodes perNode)] at hle
      rw [hzero, flat_spreadNodes_zero]
      omega
  | inr hpos' =>
      have hle := weigh_le_take (packed_sorted perNode) hpos hsub (hlen.trans (hlimit hpos'))
      rw [weigh_size, weigh_size] at hle
      rw [spreadNodes_of_pos _ hpos', ← packed]
      omega

/-- The nodes pack draws from are the first it visits. -/
theorem spreadNodes_prefix (perNode : List NodeDevices) (maxNodes : Nat) :
    ∃ beyond, packed perNode = spreadNodes (packNodes perNode) maxNodes ++ beyond := by
  cases Nat.eq_zero_or_pos maxNodes with
  | inl hzero =>
      refine ⟨[], ?_⟩
      rw [hzero, spreadNodes, if_neg (fun h => absurd h.1 (lt_irrefl 0)), List.append_nil, packed]
  | inr hpos =>
      refine ⟨(packed perNode).drop maxNodes, ?_⟩
      rw [spreadNodes_of_pos _ hpos, ← packed, List.take_append_drop]

/-- The prefix of a pick, node by node: whole nodes, and then a part of one. -/
theorem take_flat_split {init rest : List NodeDevices} {v : NodeDevices}
    (hshort : (flat init).length ≤ need) (hreach : need ≤ (flat (init ++ [v])).length) :
    (flat (init ++ v :: rest)).take need
      = flat init ++ v.deviceIDs.take (need - (flat init).length) := by
  have happend : flat (init ++ v :: rest) = flat init ++ (v.deviceIDs ++ flat rest) := by
    rw [flat, List.flatMap_append]
    rfl
  have hlen : (flat (init ++ [v])).length = (flat init).length + v.deviceIDs.length := by
    rw [flat, List.flatMap_append, List.length_append, List.flatMap_singleton]
    rfl
  rw [happend, List.take_append, List.take_of_length_le hshort, List.take_append]
  have hzero : need - (flat init).length - v.deviceIDs.length = 0 := by omega
  rw [hzero, List.take_zero, List.append_nil]

/-- Whole nodes up to the last, and a part of that one. -/
theorem choice_of_split {init : List NodeDevices} {v : NodeDevices} {k : Nat}
    (hsub : (init ++ [v]).Subperm perNode) (hne : ∀ n ∈ init ++ [v], n.deviceIDs ≠ [])
    (hk : k ≠ 0) :
    Choice perNode (init.map (fun n => (n, n.deviceIDs)) ++ [(v, v.deviceIDs.take k)]) := by
  have hfst : (init.map (fun n => (n, n.deviceIDs)) ++ [(v, v.deviceIDs.take k)]).map Prod.fst
      = init ++ [v] := by
    rw [List.map_append, List.map_map]
    exact congrArg (· ++ [v]) (List.map_id init)
  refine ⟨by rw [hfst]; exact hsub, fun p hp => ?_⟩
  rcases List.mem_append.mp hp with hp | hp
  · obtain ⟨n, hn, rfl⟩ := List.mem_map.mp hp
    exact ⟨hne n (List.mem_append_left _ hn), List.Subperm.refl _⟩
  · rw [List.mem_singleton.mp hp]
    refine ⟨fun hnil => ?_, (List.take_sublist _ _).subperm⟩
    rcases List.take_eq_nil_iff.mp hnil with hzero | hv
    · exact hk hzero
    · exact hne v (List.mem_append_right _ (List.mem_singleton_self _)) hv

/-- **PACK**, when it finds enough, uses the fewest nodes. -/
theorem fewest_selectPack (hneed : 0 < need)
    (henough : need ≤ (flat (spreadNodes (packNodes perNode) maxNodes)).length) :
    Fewest perNode need (selectPack perNode need maxNodes) := by
  have hweigh : (need : Int) ≤ weigh size (spreadNodes (packNodes perNode) maxNodes) := by
    rw [weigh_size]
    omega
  have hpos : (0 : Int) < need := by omega
  obtain ⟨init, v, rest, hsplit, hlight, hreach⟩ := exists_shortest_prefix hpos hweigh
  have hshort := hlight
  rw [weigh_size] at hshort hreach
  obtain ⟨beyond, hbeyond⟩ := spreadNodes_prefix perNode maxNodes
  rw [hsplit, List.append_assoc, List.cons_append] at hbeyond
  have hpre : (init ++ [v]).Sublist (packed perNode) := by
    rw [hbeyond]
    exact (List.Sublist.refl init).append (List.singleton_sublist.mpr (List.mem_cons_self ..))
  have hsub := (hpre.trans List.filter_sublist).subperm.trans (packNodes_perm perNode).subperm
  have hne : ∀ n ∈ init ++ [v], n.deviceIDs ≠ [] := fun n hn =>
    of_decide_eq_true (List.mem_filter.mp (hpre.subset hn)).2
  refine fewest_of_choice _ (choice_of_split hsub hne (k := need - (flat init).length)
    (by omega)) ?_ ?_
  · rw [selectPack_eq perNode hneed, hsplit, take_flat_split (by omega) (by omega), chosen,
      List.flatMap_append, List.flatMap_map, List.flatMap_singleton]
    rfl
  · intro picks' hchoice hlen
    have hle := hchoice.length_le
    have hpacked := subperm_packed hchoice.nodes
    rw [List.filter_eq_self.mpr (fun n hn => decide_eq_true (hchoice.nonempty n hn)),
      hbeyond] at hpacked
    have hsorted := packed_sorted perNode
    rw [hbeyond] at hsorted
    have hfew := length_le_of_reaches hsorted (fun n _ => size_nonneg n) hlight hpacked (by omega)
    rw [List.length_map] at hfew
    rw [List.length_append, List.length_map]
    rw [List.length_append] at hfew
    exact hfew

/-- One node is the fewest. -/
theorem fewest_single {n : NodeDevices} (hneed : 0 < need) (hn : n ∈ perNode)
    (henough : need ≤ n.deviceIDs.length) : Fewest perNode need (n.deviceIDs.take need) := by
  refine fewest_of_choice [(n, n.deviceIDs.take need)]
    ⟨(List.singleton_sublist.mpr hn).subperm, fun p hp => ?_⟩ ?_ ?_
  · rw [List.mem_singleton.mp hp]
    refine ⟨fun hnil => ?_, (List.take_sublist _ _).subperm⟩
    have hlen := congrArg List.length hnil
    rw [List.length_take, List.length_nil] at hlen
    omega
  · rw [chosen, List.flatMap_singleton]
  · intro picks' _ hlen
    cases picks' with
    | nil =>
        rw [chosen, List.flatMap_nil, List.length_nil] at hlen
        omega
    | cons p rest =>
        rw [List.length_singleton, List.length_cons]
        omega

/-- **PACK AND LOCALITY-AWARE** find enough devices exactly when some choice of nodes
    within the limit has them, and then they use the fewest nodes. -/
theorem pack_fewest_nodes (perNode : List NodeDevices) (maxNodes : Nat) (hneed : 0 < need)
    {policy : PlacementPolicy} (hpolicy : policy = .pack ∨ policy = .localityAware) :
    ∃ out, pickDevices perNode need policy false maxNodes = .ok out
      ∧ (out.length = need ↔ ∃ nodes : List NodeDevices, nodes.Subperm perNode
          ∧ (0 < maxNodes → nodes.length ≤ maxNodes) ∧ need ≤ (flat nodes).length)
      ∧ (out.length = need → Fewest perNode need out) := by
  -- the pack of both policies
  have hpack : ((selectPack perNode need maxNodes).length = need
        ↔ ∃ nodes : List NodeDevices, nodes.Subperm perNode
          ∧ (0 < maxNodes → nodes.length ≤ maxNodes) ∧ need ≤ (flat nodes).length)
      ∧ ((selectPack perNode need maxNodes).length = need →
        Fewest perNode need (selectPack perNode need maxNodes)) := by
    have hwithin := within_spreadNodes (packNodes_perm perNode) maxNodes
    have hlen : (selectPack perNode need maxNodes).length
        = min need (flat (spreadNodes (packNodes perNode) maxNodes)).length := by
      rw [selectPack_eq perNode hneed, List.length_take]
    refine ⟨⟨fun h => ⟨_, hwithin.subperm, hwithin.limit, by omega⟩, ?_⟩,
      fun h => fewest_selectPack hneed (by omega)⟩
    rintro ⟨nodes, hsub, hlimit, henough⟩
    have := flat_le_packed hsub hlimit
    omega
  unfold pickDevices
  rw [if_neg Bool.false_ne_true]
  rcases hpolicy with rfl | rfl
  · exact ⟨_, rfl, hpack⟩
  · cases hfind : perNode.find? (fun n => need ≤ n.deviceIDs.length) with
    | none => exact ⟨_, rfl, hpack⟩
    | some n =>
        have hn := List.mem_of_find?_eq_some hfind
        have hfound := List.find?_some hfind
        have henough : need ≤ n.deviceIDs.length := of_decide_eq_true hfound
        refine ⟨_, rfl, ⟨fun _ => ⟨[n], (List.singleton_sublist.mpr hn).subperm, fun h => h, ?_⟩,
          fun _ => ?_⟩, fun _ => fewest_single hneed hn henough⟩
        · rw [flat_cons, flat_nil, List.append_nil]
          exact henough
        · rw [List.length_take]
          omega

end

/-- Nodes with one, two and two eligible devices. -/
def threeNodes : List NodeDevices :=
  [⟨"a", ["a/0"]⟩, ⟨"b", ["b/0", "b/1"]⟩, ⟨"c", ["c/0", "c/1"]⟩]

/-- Three devices on two nodes: the first of the list cannot be among them. -/
theorem threeNodes_fewest :
    pickDevices threeNodes 3 .pack false 2 = .ok ["b/0", "b/1", "c/0"]
      ∧ Fewest threeNodes 3 ["b/0", "b/1", "c/0"] := by
  have hpick : pickDevices threeNodes 3 .pack false 2 = .ok ["b/0", "b/1", "c/0"] := rfl
  obtain ⟨out, hout, -, hfew⟩ :=
    pack_fewest_nodes threeNodes 2 (Nat.succ_pos 2) (Or.inl (Eq.refl PlacementPolicy.pack))
  rw [hpick] at hout
  obtain rfl := Except.ok.inj hout
  exact ⟨hpick, hfew rfl⟩

/-- First-fit takes the first two nodes and stops one short. -/
example : pickDevices threeNodes 4 .firstFit false 2 = .ok ["a/0", "b/0", "b/1"] := rfl

/-! ## Allocations -/

/-- A device passes the filters exactly when it is not in use, is large enough, and is of
    the preferred type and profile, where these are given. -/
theorem eligible_iff {used : List String} {memMiB : Int} {preferredType preferredProfile : String}
    {d : Device} :
    eligible used memMiB preferredType preferredProfile d = true
      ↔ d.id ∉ used ∧ memMiB ≤ d.memoryMiB ∧ (preferredType ≠ "" → d.deviceType = preferredType)
        ∧ (preferredProfile ≠ "" → d.profile = preferredProfile) := by
  rw [eligible]
  split_ifs with h1 h2 h3 h4
  · exact ⟨fun h => (by cases h), fun h => absurd h1 h.1⟩
  · exact ⟨fun h => (by cases h), fun h => absurd h2 (not_lt.mpr h.2.1)⟩
  · exact ⟨fun h => (by cases h), fun h => absurd (h.2.2.1 h3.1) h3.2⟩
  · exact ⟨fun h => (by cases h), fun h => absurd (h.2.2.2 h4.1) h4.2⟩
  · refine ⟨fun _ => ⟨h1, not_lt.mp h2, fun ht => ?_, fun hp => ?_⟩, fun _ => rfl⟩
    · by_contra hne
      exact h3 ⟨ht, hne⟩
    · by_contra hne
      exact h4 ⟨hp, hne⟩

/-- The eligible free devices of some nodes. -/
def eligibleOf (s : Simulator) (memMiB : Int) (opts : AllocationOptions) (nodes : List Node) :
    List Device :=
  (devicesOf nodes).filter
    (eligible (allocatedIDs s) memMiB opts.preferredDeviceType opts.preferredProfile)

/-- A well-formed request for a workload that has no allocation. -/
structure Request (s : Simulator) (workloadID : String) (gpuCount memMiB : Int)
    (opts : AllocationOptions) : Prop where
  named : workloadID ≠ ""
  fresh : s.allocations.lookup workloadID = none
  gpuCount : 0 < gpuCount
  memMiB : 0 < memMiB
  maxNodes : 0 ≤ opts.maxNodes
  policy : ∀ raw h, opts.placementPolicy ≠ .other raw h

/-- What an allocation should be: as many distinct devices as asked for, each registered,
    unused before, large enough and of the preferred type and profile; on one node where
    that is required, and on no more nodes than allowed. -/
structure Placed (s : Simulator) (order : List String) (gpuCount memMiB : Int)
    (opts : AllocationOptions) (a : Allocation) : Prop where
  count : (a.deviceIDs.length : Int) = gpuCount
  distinct : a.deviceIDs.Nodup
  device : ∀ x ∈ a.deviceIDs, ∃ d ∈ devicesOf (allNodes s order), d.id = x
    ∧ x ∉ allocatedIDs s ∧ memMiB ≤ d.memoryMiB
    ∧ (opts.preferredDeviceType ≠ "" → d.deviceType = opts.preferredDeviceType)
    ∧ (opts.preferredProfile ≠ "" → d.profile = opts.preferredProfile)
  sameNode : opts.requireSameNode = true →
    ∃ n ∈ allNodes s order, ∀ x ∈ a.deviceIDs, x ∈ n.devices.map Device.id
  maxNodes : 0 < opts.maxNodes → ∃ nodes : List Node, nodes.Subperm (allNodes s order)
    ∧ (nodes.length : Int) ≤ opts.maxNodes
    ∧ ∀ x ∈ a.deviceIDs, x ∈ (devicesOf nodes).map Device.id

section
variable {s t : Simulator} {order : List String} {workloadID : String}
  {gpuCount memMiB : Int} {opts : AllocationOptions} {a : Allocation}

/-- The policy in force is known. -/
theorem Request.known (hr : Request s workloadID gpuCount memMiB opts) :
    opts.policy ≠ .unset ∧ ∀ raw h, opts.policy ≠ .other raw h := by
  rw [AllocationOptions.policy]
  split_ifs with hunset
  · exact ⟨fun h => (by cases h), fun raw _ h => (by cases h)⟩
  · exact ⟨hunset, hr.policy⟩

/-- The per-node lists of a state, as the placement sees them. -/
def perNodeOf (s : Simulator) (order : List String) (memMiB : Int) (opts : AllocationOptions) :
    List NodeDevices :=
  computeEligibleDevicesPerNode (allNodes s order) (allocatedIDs s) memMiB
    opts.preferredDeviceType opts.preferredProfile

/-- A request succeeds exactly when there are pools and the placement finds enough. -/
theorem allocate_ok_iff (hr : Request s workloadID gpuCount memMiB opts) :
    allocateWithOptions s order workloadID gpuCount memMiB opts = .ok (a, t)
      ↔ s.pools.entries ≠ []
        ∧ pickDevices (perNodeOf s order memMiB opts) gpuCount.toNat opts.policy
          opts.requireSameNode opts.maxNodes.toNat = .ok a.deviceIDs
        ∧ gpuCount ≤ a.deviceIDs.length ∧ a.workloadID = workloadID
        ∧ t = { s with allocations := s.allocations.insert workloadID a } := by
  rw [allocateWithOptions, if_neg hr.named, if_neg (not_le.mpr hr.gpuCount),
    if_neg (not_le.mpr hr.memMiB), hr.fresh, if_neg (by simp)]
  by_cases hpools : s.pools.entries = []
  · rw [if_pos hpools]
    exact ⟨fun h => (by cases h), fun h => absurd hpools h.1⟩
  · rw [if_neg hpools, if_neg (not_lt.mpr hr.maxNodes)]
    simp only [perNodeOf]
    cases hpick : pickDevices (computeEligibleDevicesPerNode (allNodes s order) (allocatedIDs s)
        memMiB opts.preferredDeviceType opts.preferredProfile) gpuCount.toNat opts.policy
        opts.requireSameNode opts.maxNodes.toNat with
    | error e => exact ⟨fun h => (by cases h), fun h => (by cases h.2.1)⟩
    | ok out =>
        simp only
        by_cases hshort : (out.length : Int) < gpuCount
        · rw [if_pos hshort]
          refine ⟨fun h => (by cases h), fun h => ?_⟩
          rw [← Except.ok.inj h.2.1] at h
          exact absurd hshort (not_lt.mpr h.2.2.1)
        · rw [if_neg hshort, Except.ok.injEq, Prod.mk.injEq]
          constructor
          · rintro ⟨rfl, rfl⟩
            exact ⟨hpools, rfl, not_lt.mp hshort, rfl, rfl⟩
          · rintro ⟨-, hout, -, hid, ht⟩
            have ha : a = ⟨workloadID, out⟩ := by
              rw [Except.ok.inj hout, ← hid]
            rw [ha] at ht
            exact ⟨ha.symm, by rw [ht]⟩

/-- The eligible IDs of the per-node lists are those of the eligible devices. -/
theorem flat_perNodeOf (s : Simulator) (order : List String) (memMiB : Int)
    (opts : AllocationOptions) :
    flat (perNodeOf s order memMiB opts)
      = (eligibleOf s memMiB opts (allNodes s order)).map Device.id :=
  flat_computeEligible _ _ _ _ _

/-- Some per-node lists are those of some nodes. -/
theorem nodes_of_subperm {nodes : List NodeDevices}
    (h : nodes.Subperm (perNodeOf s order memMiB opts)) :
    ∃ ns : List Node, ns.Subperm (allNodes s order) ∧ ns.length = nodes.length
      ∧ ∀ x ∈ flat nodes, x ∈ (devicesOf ns).map Device.id := by
  obtain ⟨m, hperm, hsub⟩ := h
  obtain ⟨ns, hns, rfl⟩ := List.sublist_map_iff.mp hsub
  refine ⟨ns, hns.subperm, ?_, fun x hx => ?_⟩
  · rw [← hperm.length_eq, List.length_map]
  · have hx' := (hperm.flatMap_right NodeDevices.deviceIDs).mem_iff.mpr hx
    have hflat := flat_computeEligible ns (allocatedIDs s) memMiB opts.preferredDeviceType
      opts.preferredProfile
    rw [flat, computeEligibleDevicesPerNode] at hflat
    rw [hflat] at hx'
    exact (List.filter_sublist.map Device.id).subset hx'

/-- A node's list is that of a node, and counts its eligible devices. -/
theorem node_of_mem {n : NodeDevices} (h : n ∈ perNodeOf s order memMiB opts) :
    ∃ node ∈ allNodes s order,
      n.deviceIDs = (eligibleOf s memMiB opts [node]).map Device.id := by
  obtain ⟨node, hnode, rfl⟩ := List.mem_map.mp h
  refine ⟨node, hnode, ?_⟩
  rw [eligibleOf, devicesOf, List.flatMap_singleton]

/-- A pick on one node, and what it takes to have one. -/
theorem pickDevices_sameNode {perNode : List NodeDevices} {need maxNodes : Nat}
    {policy : PlacementPolicy} {out : List String} :
    pickDevices perNode need policy true maxNodes = .ok out
      ↔ ∃ n, bestNode need none perNode = some n ∧ out = n.deviceIDs.take need := by
  unfold pickDevices
  rw [if_pos rfl]
  cases bestNode need none perNode with
  | none => exact ⟨fun h => (by cases h), fun h => (by obtain ⟨n, hn, -⟩ := h; cases hn)⟩
  | some n =>
      constructor
      · intro h
        exact ⟨n, rfl, (Except.ok.inj h).symm⟩
      · rintro ⟨m, hm, rfl⟩
        rw [Option.some.inj hm]

/-- What lies in a node's list lies on one node. -/
theorem one_node_of_mem {n : NodeDevices} (hn : n ∈ perNodeOf s order memMiB opts)
    {ids : List String} (hall : ∀ x ∈ ids, x ∈ n.deviceIDs) :
    ∃ node ∈ allNodes s order, ∀ x ∈ ids, x ∈ node.devices.map Device.id := by
  obtain ⟨node, hnode, hids⟩ := node_of_mem hn
  refine ⟨node, hnode, fun x hx => ?_⟩
  have hx' := hall x hx
  rw [hids, eligibleOf, devicesOf, List.flatMap_singleton] at hx'
  exact (List.filter_sublist.map Device.id).subset hx'

/-- One node is within every limit. -/
theorem limit_of_one_node {node : Node} (hnode : node ∈ allNodes s order) {ids : List String}
    (hall : ∀ x ∈ ids, x ∈ node.devices.map Device.id) {maxNodes : Int} (hpos : 0 < maxNodes) :
    ∃ nodes : List Node, nodes.Subperm (allNodes s order) ∧ (nodes.length : Int) ≤ maxNodes
      ∧ ∀ x ∈ ids, x ∈ (devicesOf nodes).map Device.id := by
  refine ⟨[node], (List.singleton_sublist.mpr hnode).subperm, ?_, fun x hx => ?_⟩
  · rw [List.length_singleton]
    omega
  · rw [devicesOf, List.flatMap_singleton]
    exact hall x hx

/-- **SOUND**: what a request is given is what it asked for. -/
theorem placed_of_ok (hs : Sound s) (horder : order.Perm s.pools.keys)
    (hr : Request s workloadID gpuCount memMiB opts)
    (h : allocateWithOptions s order workloadID gpuCount memMiB opts = .ok (a, t)) :
    Placed s order gpuCount memMiB opts a := by
  have hnd : order.Nodup := horder.nodup_iff.mpr s.pools.keys_nodup
  obtain ⟨-, -, -, hlen, hsub, -⟩ := allocateWithOptions_ok h
  obtain ⟨-, hpick, -, -, -⟩ := (allocate_ok_iff hr).mp h
  have hneed : 0 < gpuCount.toNat := by
    have := hr.gpuCount
    omega
  have hsame : opts.requireSameNode = true →
      ∃ n ∈ allNodes s order, ∀ x ∈ a.deviceIDs, x ∈ n.devices.map Device.id := by
    intro htrue
    rw [htrue] at hpick
    obtain ⟨n, hbest, hids⟩ := pickDevices_sameNode.mp hpick
    rcases bestNode_some hbest with hnone | ⟨hn, -⟩
    · cases hnone
    · refine one_node_of_mem hn (fun x hx => ?_)
      rw [hids] at hx
      exact List.mem_of_mem_take hx
  refine ⟨hlen, ?_, fun x hx => ?_, hsame, fun hpos => ?_⟩
  · obtain ⟨m, hm, hsubm⟩ := hsub
    refine hm.nodup_iff.mp (List.Nodup.sublist hsubm ?_)
    exact (hs.nodup_devices hnd).sublist (List.filter_sublist.map Device.id)
  · obtain ⟨d, hd, rfl⟩ := List.mem_map.mp (hsub.subset hx)
    obtain ⟨hmem, hel⟩ := List.mem_filter.mp hd
    obtain ⟨hunused, hsize, htype, hprofile⟩ := eligible_iff.mp hel
    exact ⟨d, hmem, rfl, hunused, hsize, htype, hprofile⟩
  · cases hreq : opts.requireSameNode with
    | true =>
        obtain ⟨node, hnode, hall⟩ := hsame hreq
        exact limit_of_one_node hnode hall hpos
    | false =>
        rw [hreq] at hpick
        obtain ⟨out, hout, hcases⟩ := pickDevices_free (perNodeOf s order memMiB opts)
          opts.maxNodes.toNat hneed hr.known
        rw [hpick] at hout
        rw [← Except.ok.inj hout] at hcases
        rcases hcases with ⟨nodes, hwithin, hdrawn⟩ | ⟨n, hn, -, hids⟩
        · obtain ⟨ns, hns, hlenns, hmem⟩ := nodes_of_subperm hwithin.subperm
          refine ⟨ns, hns, ?_, fun x hx => hmem x (hdrawn.subperm.subset hx)⟩
          have := hwithin.limit (by omega)
          omega
        · have hin : ∀ x ∈ a.deviceIDs, x ∈ n.deviceIDs := by
            intro x hx
            rw [hids] at hx
            exact List.mem_of_mem_take hx
          obtain ⟨node, hnode, hall⟩ := one_node_of_mem hn hin
          exact limit_of_one_node hnode hall hpos

/-- Without pools there are no nodes. -/
theorem allNodes_eq_nil (horder : order.Perm s.pools.keys) (h : s.pools.entries = []) :
    allNodes s order = [] := by
  have hkeys : s.pools.keys = [] := by
    rw [AList.keys, h]
    rfl
  rw [hkeys] at horder
  rw [horder.eq_nil]
  rfl

/-- **COMPLETE**: without a node limit, enough devices in the fleet are enough. -/
theorem allocates_iff_fleet (horder : order.Perm s.pools.keys)
    (hr : Request s workloadID gpuCount memMiB opts) (hsame : opts.requireSameNode = false)
    (hmax : opts.maxNodes = 0) :
    (∃ a t, allocateWithOptions s order workloadID gpuCount memMiB opts = .ok (a, t))
      ↔ gpuCount ≤ (eligibleOf s memMiB opts (allNodes s order)).length := by
  have hpos := hr.gpuCount
  have hneed : 0 < gpuCount.toNat := by omega
  obtain ⟨out, hout, hcases⟩ := pickDevices_free (perNodeOf s order memMiB opts) 0 hneed hr.known
  have hflat : (flat (perNodeOf s order memMiB opts)).length
      = (eligibleOf s memMiB opts (allNodes s order)).length := by
    rw [flat_perNodeOf, List.length_map]
  -- either way the pick is as long as the fleet allows
  have hlen : out.length = min gpuCount.toNat (flat (perNodeOf s order memMiB opts)).length := by
    rcases hcases with ⟨nodes, hwithin, hdrawn⟩ | ⟨n, hn, henough, rfl⟩
    · rw [hdrawn.length, hwithin.all rfl]
    · have hle : n.deviceIDs.length ≤ (flat (perNodeOf s order memMiB opts)).length :=
        (List.sublist_flatten_of_mem (List.mem_map.mpr ⟨n, hn, rfl⟩)).length_le
      rw [List.length_take]
      omega
  constructor
  · rintro ⟨a, t, h⟩
    obtain ⟨-, hpick, hle, -, -⟩ := (allocate_ok_iff hr).mp h
    rw [hsame, hmax, Int.toNat_zero, hout] at hpick
    rw [← Except.ok.inj hpick] at hle
    omega
  · intro hle
    refine ⟨⟨workloadID, out⟩, _, (allocate_ok_iff hr).mpr ⟨fun hnil => ?_, ?_, ?_, rfl, rfl⟩⟩
    · rw [allNodes_eq_nil horder hnil] at hle
      simp only [eligibleOf, devicesOf, List.flatMap_nil, List.filter_nil, List.length_nil] at hle
      omega
    · rw [hsame, hmax, Int.toNat_zero]
      exact hout
    · show gpuCount ≤ (out.length : Int)
      omega

/-- **COMPLETE ON ONE NODE**: where one node is asked for, one with enough is enough. -/
theorem allocates_iff_node (horder : order.Perm s.pools.keys)
    (hr : Request s workloadID gpuCount memMiB opts) (hsame : opts.requireSameNode = true) :
    (∃ a t, allocateWithOptions s order workloadID gpuCount memMiB opts = .ok (a, t))
      ↔ ∃ node ∈ allNodes s order, gpuCount ≤ (eligibleOf s memMiB opts [node]).length := by
  have hpos := hr.gpuCount
  constructor
  · rintro ⟨a, t, h⟩
    obtain ⟨-, hpick, -, -, -⟩ := (allocate_ok_iff hr).mp h
    rw [hsame] at hpick
    obtain ⟨n, hbest, -⟩ := pickDevices_sameNode.mp hpick
    rcases bestNode_some hbest with hnone | ⟨hn, henough⟩
    · cases hnone
    · obtain ⟨node, hnode, hids⟩ := node_of_mem hn
      rw [hids, List.length_map] at henough
      exact ⟨node, hnode, by omega⟩
  · rintro ⟨node, hnode, hle⟩
    have hmem : (⟨node.id, (eligibleOf s memMiB opts [node]).map Device.id⟩ : NodeDevices)
        ∈ perNodeOf s order memMiB opts := by
      refine List.mem_map.mpr ⟨node, hnode, ?_⟩
      rw [eligibleOf, devicesOf, List.flatMap_singleton]
    have hsome := (bestNode_isSome gpuCount.toNat none
      (perNodeOf s order memMiB opts)).mpr (Or.inr ⟨_, hmem, by
        rw [List.length_map]
        omega⟩)
    obtain ⟨n, hbest⟩ := Option.isSome_iff_exists.mp hsome
    have henough : gpuCount.toNat ≤ n.deviceIDs.length := by
      rcases bestNode_some hbest with hnone | hn
      · cases hnone
      · exact hn.2
    refine ⟨⟨workloadID, n.deviceIDs.take gpuCount.toNat⟩, _,
      (allocate_ok_iff hr).mpr ⟨fun hnil => ?_, ?_, ?_, rfl, rfl⟩⟩
    · rw [allNodes_eq_nil horder hnil] at hnode
      cases hnode
    · rw [hsame]
      exact pickDevices_sameNode.mpr ⟨n, hbest, rfl⟩
    · show gpuCount ≤ ((n.deviceIDs.take gpuCount.toNat).length : Int)
      rw [List.length_take]
      omega

end

/-- What is said of a request in a state. -/
structure SoundComplete (s : Simulator) (order : List String) (workloadID : String)
    (gpuCount memMiB : Int) (opts : AllocationOptions) : Prop where
  sound : ∀ a t, allocateWithOptions s order workloadID gpuCount memMiB opts = .ok (a, t) →
    Placed s order gpuCount memMiB opts a
  fleet : opts.requireSameNode = false → opts.maxNodes = 0 →
    ((∃ a t, allocateWithOptions s order workloadID gpuCount memMiB opts = .ok (a, t))
      ↔ gpuCount ≤ (eligibleOf s memMiB opts (allNodes s order)).length)
  node : opts.requireSameNode = true →
    ((∃ a t, allocateWithOptions s order workloadID gpuCount memMiB opts = .ok (a, t))
      ↔ ∃ node ∈ allNodes s order, gpuCount ≤ (eligibleOf s memMiB opts [node]).length)

/-- **PLACEMENT IS SOUND AND COMPLETE** in every reachable state, for every order in which
    the pools are visited and every well-formed request. -/
theorem allocation_sound_complete (est : Estimator) {ops : List Op} {s : Simulator}
    (hrun : Runs (step est) Always newSimulator ops s) {order : List String}
    (horder : order.Perm s.pools.keys) {workloadID : String} {gpuCount memMiB : Int}
    {opts : AllocationOptions} (hr : Request s workloadID gpuCount memMiB opts) :
    SoundComplete s order workloadID gpuCount memMiB opts where
  sound _ _ h := placed_of_ok (sound_of_runs hrun) horder hr h
  fleet hsame hmax := allocates_iff_fleet horder hr hsame hmax
  node hsame := allocates_iff_node horder hr hsame

/-- A pool of two nodes, three of its four devices in use, and another pool. -/
def partlyUsed : List Op :=
  [.registerFleet "ns/a" ⟨2, 2, 80, "gpu", "h100_sxm"⟩,
   .allocateWithOptions ["ns/a"] "ns/v" 3 40 ⟨.pack, false, 0, "", "h100_sxm"⟩,
   .registerFleet "ns/b" ⟨1, 2, 40, "gpu", "a100_80gb"⟩]

/-- Of the three devices left, no two are on one node and have 80 MiB. -/
theorem partlyUsed_sound_complete :
    ∃ s, exec (step (fun _ _ _ => .ok 1)) newSimulator partlyUsed = some s
      ∧ SoundComplete s ["ns/a", "ns/b"] "ns/w" 2 80 ⟨.spread, true, 0, "", ""⟩
      ∧ SoundComplete s ["ns/a", "ns/b"] "ns/w" 3 40 ⟨.unset, false, 0, "", ""⟩ := by
  have hexec : exec (step (fun _ _ _ => .ok 1)) newSimulator partlyUsed = some _ := rfl
  refine ⟨_, hexec, ?_, ?_⟩
  · exact allocation_sound_complete _ (Runs.of_exec hexec) (by decide +kernel)
      ⟨by decide, rfl, by decide, by decide, by decide, fun raw _ h => by cases h⟩
  · exact allocation_sound_complete _ (Runs.of_exec hexec) (by decide +kernel)
      ⟨by decide, rfl, by decide, by decide, by decide, fun raw _ h => by cases h⟩

end GpuPlacementLaws
