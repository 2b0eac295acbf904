import GpuScheduler.GoLoopsProofs
import GpuScheduler.PlacementLawsProofs

/-! # Spread is balanced

    Spread goes round the nodes and takes one device from each that still has one.  After
    `k` whole rounds every node has given its first `k` devices, or all it has; a round
    that stops in the middle has taken one more from the nodes before that point
    (`Dealt`).  So what two nodes have given differs by one at most, unless the node that
    has given less is empty (`spread_balanced`). -/

namespace GpuSpreadLaws

open GpuPlacement GpuPlacementLaws GoLoops

/-! ## The loop as it stands -/

/-- The state of the loop: the picked IDs, what is left of each node, and whether a round
    has met the need or made no progress. -/
structure Rounds where
  out : List String
  left : List (List String)
  stopped : Bool

/-- `for len(out) < need`, unless a round has ended the loop. -/
def goesOn (need : Nat) (r : Rounds) : Bool := !r.stopped && r.out.length < need

/-- One round. -/
def round (need : Nat) (r : Rounds) : Rounds :=
  let t := sweep need r.out r.left
  ⟨t.1, t.2.1, t.2.2 || t.1.length == r.out.length⟩

section
variable {need : Nat}

/-- The bounded loop makes the rounds. -/
theorem out_iterate_round (fuel : Nat) :
    ∀ (out : List String) (left : List (List String)),
      (iterate (goesOn need) (round need) fuel ⟨out, left, false⟩).out
        = spreadLoop need fuel out left := by
  induction fuel with
  | zero => intro out left; rfl
  | succ fuel ih =>
      intro out left
      rw [iterate, spreadLoop]
      by_cases hfull : need ≤ out.length
      · have hstop : goesOn need ⟨out, left, false⟩ = false := by
          simp only [goesOn, Bool.not_false, Bool.true_and, decide_eq_false_iff_not]
          omega
        rw [if_pos hfull, hstop]
        rfl
      · have hgo : goesOn need ⟨out, left, false⟩ = true := by
          simp only [goesOn, Bool.not_false, Bool.true_and, decide_eq_true_eq]
          omega
        rw [if_neg hfull, hgo, if_pos rfl, round]
        simp only
        generalize sweep need out left = t
        -- a round that ends the loop leaves no further turn
        have hstopped : ∀ r : Rounds, r.stopped = true →
            iterate (goesOn need) (round need) fuel r = r := by
          intro r hr
          cases fuel with
          | zero => rfl
          | succ fuel =>
              rw [iterate, goesOn, hr]
              rfl
        by_cases hflag : t.2.2 = true
        · rw [if_pos hflag, hstopped _ (by rw [hflag, Bool.true_or])]
        · by_cases hsame : t.1.length = out.length
          · rw [if_neg hflag, if_pos hsame, hstopped _ (by
              rw [beq_iff_eq.mpr hsame, Bool.or_true])]
          · rw [if_neg hflag, if_neg hsame, Bool.eq_false_iff.mpr hflag,
              beq_eq_false_iff_ne.mpr hsame, Bool.or_false]
            exact ih t.1 t.2.1

/-- What is missing, as long as the loop goes on. -/
def missing (need : Nat) (r : Rounds) : Nat := if r.stopped then 0 else need - r.out.length

theorem missing_round (r : Rounds) (h : goesOn need r = true) :
    missing need (round need r) < missing need r := by
  simp only [goesOn, Bool.and_eq_true, Bool.not_eq_true', decide_eq_true_eq] at h
  obtain ⟨-, hge, -, -⟩ := sweep_spec r.out r.left h.2
  rw [missing, missing, h.1, if_neg Bool.false_ne_true]
  split_ifs with hstop
  · omega
  · simp only [round, Bool.or_eq_true, beq_iff_eq, not_or] at hstop ⊢
    omega

/-- **SPREAD TERMINATES**: its loop stops, and the bounded one is the loop. -/
theorem ends_spreadLoop (left : List (List String)) :
    ∃ r, Ends (goesOn need) (round need) ⟨[], left, false⟩ r
      ∧ r.out = spreadLoop need need [] left := by
  refine ⟨_, ends_iterate (missing need) missing_round need _ ?_, out_iterate_round need [] left⟩
  rw [missing, if_neg Bool.false_ne_true]
  exact Nat.sub_le _ _

end

/-! ## What each node gives -/

/-- The picked IDs that are on a list. -/
def pickedOf (out ids : List String) : List String := out.filter (fun id => id ∈ ids)

/-- **THE DEAL**: the lists up to some point have given one more than `k` devices, the others
    `k`, as far as they have them. -/
def Dealt (lists : List (List String)) (out : List String) : Prop :=
  ∃ k done rest, lists = done ++ rest ∧ (∀ ids ∈ done, pickedOf out ids = ids.take (k + 1))
    ∧ ∀ ids ∈ rest, pickedOf out ids = ids.take k

theorem pickedOf_append (out more ids : List String) :
    pickedOf (out ++ more) ids = pickedOf out ids ++ pickedOf more ids :=
  List.filter_append ..

/-- What is taken from some lists is not on a list apart from them. -/
theorem pickedOf_flatMap_disjoint {lists : List (List String)} {f : List String → List String}
    (hf : ∀ l, f l ⊆ l) {ids : List String} (h : ∀ l ∈ lists, l.Disjoint ids) :
    pickedOf (lists.flatMap f) ids = [] := by
  refine List.filter_eq_nil_iff.mpr (fun id hid hin => ?_)
  obtain ⟨l, hl, hid⟩ := List.mem_flatMap.mp hid
  exact h l hl (hf l hid) (of_decide_eq_true hin)

/-- What is taken from some lists is on each of them what is taken from it. -/
theorem pickedOf_flatMap {lists : List (List String)} {f : List String → List String}
    (hf : ∀ l, f l ⊆ l) (hnd : lists.flatten.Nodup) {ids : List String} (h : ids ∈ lists) :
    pickedOf (lists.flatMap f) ids = f ids := by
  induction lists with
  | nil => cases h
  | cons l rest ih =>
      rw [List.flatten_cons, List.nodup_append'] at hnd
      obtain ⟨-, hrest, hdisj⟩ := hnd
      have hapart : ∀ m ∈ rest, l.Disjoint m := by
        intro m hm x hx hx'
        exact hdisj hx (List.mem_flatten.mpr ⟨m, hm, hx'⟩)
      rw [List.flatMap_cons, pickedOf_append]
      rcases List.mem_cons.mp h with rfl | hin
      · have hself : pickedOf (f ids) ids = f ids :=
          List.filter_eq_self.mpr (fun id hid => decide_eq_true (hf ids hid))
        rw [hself, pickedOf_flatMap_disjoint hf (fun m hm => (hapart m hm).symm),
          List.append_nil]
      · have hnone : pickedOf (f l) ids = [] := by
          refine List.filter_eq_nil_iff.mpr (fun id hid hmem => ?_)
          exact hapart ids hin (hf l hid) (of_decide_eq_true hmem)
        rw [hnone, List.nil_append]
        exact ih hrest hin

/-- A sweep takes one ID from each list up to the point where it stops. -/
theorem sweep_split (need : Nat) (out : List String) (left : List (List String)) :
    ∃ done rest, left = done ++ rest
      ∧ (sweep need out left).1 = out ++ done.flatMap (List.take 1)
      ∧ (sweep need out left).2.1 = done.map List.tail ++ rest
      ∧ ((sweep need out left).2.2 = false → rest = []) := by
  induction left generalizing out with
  | nil => exact ⟨[], [], rfl, (List.append_nil out).symm, rfl, fun _ => rfl⟩
  | cons ids left ih =>
      cases ids with
      | nil =>
          obtain ⟨done, rest, rfl, hout, hleft, hflag⟩ := ih out
          refine ⟨[] :: done, rest, rfl, ?_, ?_, ?_⟩
          · rw [sweep]
            exact hout
          · rw [sweep]
            simp only
            rw [hleft]
            rfl
          · rw [sweep]
            exact hflag
      | cons id ids =>
          by_cases hmet : (out ++ [id]).length = need
          · refine ⟨[id :: ids], left, rfl, ?_, ?_, fun hflag => ?_⟩
            · rw [sweep, if_pos hmet]
              rfl
            · rw [sweep, if_pos hmet]
              rfl
            · rw [sweep, if_pos hmet] at hflag
              cases hflag
          · obtain ⟨done, rest, rfl, hout, hleft, hflag⟩ := ih (out ++ [id])
            refine ⟨(id :: ids) :: done, rest, rfl, ?_, ?_, ?_⟩
            · rw [sweep, if_neg hmet]
              simp only
              rw [hout, List.append_assoc]
              rfl
            · rw [sweep, if_neg hmet]
              simp only
              rw [hleft]
              rfl
            · rw [sweep, if_neg hmet]
              exact hflag

/-- One round of the deal: the lists of the sweep have given one more. -/
theorem pickedOf_round {done rest : List (List String)} {k : Nat} {out : List String}
    (hnd : (done ++ rest).flatten.Nodup)
    (h : ∀ ids ∈ done ++ rest, pickedOf out ids = ids.take k) :
    (∀ ids ∈ done, pickedOf (out ++ (done.map (List.drop k)).flatMap (List.take 1)) ids
        = ids.take (k + 1))
      ∧ ∀ ids ∈ rest, pickedOf (out ++ (done.map (List.drop k)).flatMap (List.take 1)) ids
        = ids.take k := by
  have hsub : ∀ l : List String, (l.drop k).take 1 ⊆ l := fun l =>
    List.Subset.trans (List.take_subset _ _) (List.drop_subset _ _)
  rw [List.flatMap_map]
  rw [List.flatten_append, List.nodup_append'] at hnd
  obtain ⟨hdone, -, hdisj⟩ := hnd
  constructor
  · intro ids hids
    rw [pickedOf_append, h ids (List.mem_append_left _ hids), pickedOf_flatMap hsub hdone hids,
      List.take_add]
  · intro ids hids
    have hapart : ∀ l ∈ done, l.Disjoint ids := by
      intro l hl x hx hx'
      exact hdisj (List.mem_flatten.mpr ⟨l, hl, hx⟩) (List.mem_flatten.mpr ⟨ids, hids, hx'⟩)
    rw [pickedOf_append, h ids (List.mem_append_right _ hids),
      pickedOf_flatMap_disjoint hsub hapart, List.append_nil]

/-- **EVERY RUN OF THE LOOP DEALS**: from any number of whole rounds on. -/
theorem dealt_spreadLoop (need : Nat) {lists : List (List String)} (hnd : lists.flatten.Nodup)
    (fuel : Nat) :
    ∀ (k : Nat) (out : List String), (∀ ids ∈ lists, pickedOf out ids = ids.take k) →
      Dealt lists (spreadLoop need fuel out (lists.map (List.drop k))) := by
  induction fuel with
  | zero =>
      intro k out h
      exact ⟨k, [], lists, rfl, fun ids hids => (by cases hids), h⟩
  | succ fuel ih =>
      intro k out h
      rw [spreadLoop]
      by_cases hfull : need ≤ out.length
      · rw [if_pos hfull]
        exact ⟨k, [], lists, rfl, fun ids hids => (by cases hids), h⟩
      rw [if_neg hfull]
      obtain ⟨gone, still, hsplit, hout, hleft, hflag⟩ :=
        sweep_split need out (lists.map (List.drop k))
      obtain ⟨done, rest, rfl, rfl, rfl⟩ := List.map_eq_append_iff.mp hsplit
      obtain ⟨hdone, hrest⟩ := pickedOf_round hnd h
      have hdealt : Dealt (done ++ rest) (sweep need out ((done ++ rest).map (List.drop k))).1 := by
        rw [hout]
        exact ⟨k, done, rest, rfl, hdone, hrest⟩
      simp only
      split_ifs with hmet hsame
      · exact hdealt
      · exact hdealt
      · -- the round is whole: the next one starts with one more given by all
        have hnil : rest = [] := List.map_eq_nil_iff.mp (hflag (Bool.eq_false_iff.mpr hmet))
        subst hnil
        rw [hleft, hout]
        have hdrop : (done.map (List.drop k)).map List.tail ++ ([] : List (List String)).map
            (List.drop k) = (done ++ []).map (List.drop (k + 1)) := by
          rw [List.map_nil, List.append_nil, List.append_nil, List.map_map]
          refine List.map_congr_left (fun ids _ => ?_)
          rw [Function.comp_apply, List.tail_drop]
        rw [hdrop]
        refine ih (k + 1) _ (fun ids hids => ?_)
        rw [List.append_nil] at hids
        exact hdone ids hids

/-- The deal is even: a list that has given less than another has given one less, or all. -/
theorem Dealt.even {lists : List (List String)} {out : List String} (h : Dealt lists out)
    {ids ids' : List String} (hids : ids ∈ lists) (hids' : ids' ∈ lists) :
    (pickedOf out ids').length ≤ (pickedOf out ids).length + 1 ∨ pickedOf out ids = ids := by
  obtain ⟨k, done, rest, rfl, hdone, hrest⟩ := h
  have hgiven : ∀ l ∈ done ++ rest, ∃ c, (c = k ∨ c = k + 1) ∧ pickedOf out l = l.take c := by
    intro l hl
    rcases List.mem_append.mp hl with hl | hl
    · exact ⟨k + 1, Or.inr rfl, hdone l hl⟩
    · exact ⟨k, Or.inl rfl, hrest l hl⟩
  obtain ⟨c, hc, hpick⟩ := hgiven ids hids
  obtain ⟨c', hc', hpick'⟩ := hgiven ids' hids'
  rw [hpick, hpick']
  by_cases hall : ids.length ≤ c
  · exact Or.inr (List.take_of_length_le hall)
  · left
    rw [List.length_take, List.length_take]
    omega

/-! ## The nodes -/

/-- The nodes with devices, the first `maxNodes` of them or, for zero, all. -/
def firstNonEmpty (perNode : List NodeDevices) (maxNodes : Nat) : List NodeDevices :=
  let nodes := perNode.filter (fun n => n.deviceIDs ≠ [])
  if maxNodes = 0 then nodes else nodes.take maxNodes

theorem spreadNodes_eq_firstNonEmpty (perNode : List NodeDevices) (maxNodes : Nat) :
    spreadNodes perNode maxNodes = firstNonEmpty perNode maxNodes := by
  rw [firstNonEmpty]
  split_ifs with hzero
  · rw [hzero, spreadNodes, if_neg (fun h => absurd h.1 (lt_irrefl 0))]
  · exact spreadNodes_of_pos perNode (Nat.pos_of_ne_zero hzero)

/-- The devices taken from a node. -/
def takenFrom (out : List String) (n : NodeDevices) : List String := pickedOf out n.deviceIDs

/-- **BALANCED AND EXHAUSTIVE**, over the nodes that are drawn from. -/
structure Balanced (nodes : List NodeDevices) (need : Nat) (out : List String) : Prop where
  length : out.length = min need (flat nodes).length
  nodup : out.Nodup
  within : ∀ id ∈ out, id ∈ flat nodes
  heads : ∀ n ∈ nodes, takenFrom out n <+: n.deviceIDs
  even : ∀ n ∈ nodes, ∀ m ∈ nodes, (takenFrom out n).length < (takenFrom out m).length →
    (takenFrom out m).length = (takenFrom out n).length + 1 ∨ takenFrom out n = n.deviceIDs

/-- **SPREAD IS BALANCED AND EXHAUSTIVE**: its loop stops, and what it returns is balanced over
    the first nodes that have devices. -/
theorem spread_balanced (perNode : List NodeDevices) (need maxNodes : Nat)
    (hnd : (flat perNode).Nodup) :
    (∃ r, Ends (goesOn need) (round need)
        ⟨[], (firstNonEmpty perNode maxNodes).map NodeDevices.deviceIDs, false⟩ r
      ∧ r.out = selectSpread perNode need maxNodes)
    ∧ Balanced (firstNonEmpty perNode maxNodes) need (selectSpread perNode need maxNodes) := by
  have hlength := length_selectSpread perNode need maxNodes
  have hdrawn := (drawn_selectSpread perNode need maxNodes).subperm
  have hsub := (spreadNodes_sublist perNode maxNodes).flatMap NodeDevices.deviceIDs
  have hnd' : (flat (spreadNodes perNode maxNodes)).Nodup := hnd.sublist hsub
  rw [selectSpread] at *
  rw [spreadNodes_eq_firstNonEmpty] at *
  refine ⟨ends_spreadLoop _, ?_⟩
  have hflat : ((firstNonEmpty perNode maxNodes).map NodeDevices.deviceIDs).flatten.Nodup := by
    rw [← List.flatMap_def]
    exact hnd'
  have hdealt := dealt_spreadLoop need hflat need 0 []
    (fun ids _ => (List.take_zero).symm)
  have hwhole : ((firstNonEmpty perNode maxNodes).map NodeDevices.deviceIDs).map (List.drop 0)
      = (firstNonEmpty perNode maxNodes).map NodeDevices.deviceIDs := List.map_id _
  rw [hwhole] at hdealt
  obtain ⟨picked, hperm, hpicked⟩ := hdrawn
  have hnodup := hperm.nodup_iff.mp (hnd'.sublist hpicked)
  refine ⟨hlength, hnodup, fun id hid => hpicked.subset (hperm.mem_iff.mpr hid), fun n hn => ?_,
    fun n hn m hm hless => ?_⟩
  · obtain ⟨k, done, rest, hsplit, hdone, hrest⟩ := hdealt
    have hmem := List.mem_map_of_mem (f := NodeDevices.deviceIDs) hn
    rw [hsplit] at hmem
    rcases List.mem_append.mp hmem with hin | hin
    · rw [takenFrom, hdone _ hin]
      exact List.take_prefix _ _
    · rw [takenFrom, hrest _ hin]
      exact List.take_prefix _ _
  · refine (hdealt.even (List.mem_map_of_mem hn) (List.mem_map_of_mem hm)).imp (fun hle => ?_)
      (fun hall => hall)
    rw [takenFrom, takenFrom] at hless ⊢
    omega

/-- Three nodes of which the second is soon empty. -/
def unevenNodes : List NodeDevices :=
  [⟨"a", ["a1", "a2", "a3"]⟩, ⟨"b", ["b1"]⟩, ⟨"c", []⟩, ⟨"d", ["d1", "d2", "d3", "d4"]⟩]

theorem unevenNodes_balanced :
    selectSpread unevenNodes 6 0 = ["a1", "b1", "d1", "a2", "d2", "a3"]
      ∧ Balanced (firstNonEmpty unevenNodes 0) 6 (selectSpread unevenNodes 6 0) :=
  ⟨by decide, (spread_balanced unevenNodes 6 0 (by decide)).2⟩

end GpuSpreadLaws
