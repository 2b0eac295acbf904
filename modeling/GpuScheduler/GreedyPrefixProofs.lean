import Mathlib

/-! # Largest first is fewest

    A list is visited from the heaviest element to the lightest, and a prefix is taken
    that reaches a target.  Among all ways of choosing elements of the list, with their
    multiplicities, no choice of the same size weighs more than the prefix
    (`weigh_le_take`).  So a prefix that is just long enough has as few elements as any
    choice that reaches the target (`length_le_of_reaches`), and needs every one of them
    (`weigh_erase_lt`); where all elements together reach it there is such a prefix
    (`exists_shortest_prefix`). -/

namespace GreedyPrefix

variable {α : Type*}

/-- The weight of a list. -/
def weigh (weight : α → Int) (l : List α) : Int := (l.map weight).sum

section
variable {weight : α → Int}

@[simp] theorem weigh_nil : weigh weight [] = 0 := rfl

@[simp] theorem weigh_cons (a : α) (l : List α) :
    weigh weight (a :: l) = weight a + weigh weight l := by
  rw [weigh, weigh, List.map_cons, List.sum_cons]

@[simp] theorem weigh_append (l l' : List α) :
    weigh weight (l ++ l') = weigh weight l + weigh weight l' := by
  rw [weigh, weigh, weigh, List.map_append, List.sum_append]

theorem weigh_perm {l l' : List α} (h : l.Perm l') : weigh weight l = weigh weight l' :=
  (h.map weight).sum_eq

/-- One more element weighs no more than an element that is heavier than all. -/
theorem weigh_take_succ_le {a : α} {l : List α} (ha : ∀ b ∈ l, weight b ≤ weight a)
    (hpos : 0 ≤ weight a) (k : Nat) :
    weigh weight (l.take (k + 1)) ≤ weight a + weigh weight (l.take k) := by
  rw [List.take_add_one, weigh_append]
  cases hk : l[k]? with
  | none =>
      simp only [Option.toList_none, weigh_nil]
      omega
  | some b =>
      have hb := ha b (List.mem_of_getElem? hk)
      simp only [Option.toList_some, weigh_cons, weigh_nil]
      omega

/-- A sublist of a descending list weighs no more than the prefix of its length. -/
theorem weigh_sublist_le_take {l m : List α}
    (hsort : l.Pairwise (fun a b => weight b ≤ weight a)) (hpos : ∀ a ∈ l, 0 ≤ weight a)
    (hsub : m.Sublist l) {k : Nat} (hk : m.length ≤ k) :
    weigh weight m ≤ weigh weight (l.take k) := by
  induction hsub generalizing k with
  | slnil =>
      rw [List.take_nil]
  | @cons m l a hsub ih =>
      obtain ⟨ha, hsort'⟩ := List.pairwise_cons.mp hsort
      have hpos' : ∀ b ∈ l, 0 ≤ weight b := fun b hb => hpos b (List.mem_cons_of_mem _ hb)
      cases k with
      | zero =>
          have hnil : m = [] := List.length_eq_zero_iff.mp (Nat.le_zero.mp hk)
          rw [hnil, List.take_zero]
      | succ k =>
          -- the head takes the place of the lightest element of the longer prefix
          have hrest := ih hsort' hpos' hk
          have hhead := weigh_take_succ_le ha (hpos a (List.mem_cons_self ..)) k
          rw [List.take_succ_cons, weigh_cons]
          omega
  | @cons_cons m l a hsub ih =>
      obtain ⟨-, hsort'⟩ := List.pairwise_cons.mp hsort
      have hpos' : ∀ b ∈ l, 0 ≤ weight b := fun b hb => hpos b (List.mem_cons_of_mem _ hb)
      cases k with
      | zero => exact absurd hk (Nat.not_succ_le_zero _)
      | succ k =>
          have hrest := ih hsort' hpos' (Nat.le_of_succ_le_succ hk)
          rw [List.take_succ_cons, weigh_cons, weigh_cons]
          omega

/-- **THE PREFIX WEIGHS MOST** among the choices of at most its length. -/
theorem weigh_le_take {l m : List α} (hsort : l.Pairwise (fun a b => weight b ≤ weight a))
    (hpos : ∀ a ∈ l, 0 ≤ weight a) (hsub : m.Subperm l) {k : Nat} (hk : m.length ≤ k) :
    weigh weight m ≤ weigh weight (l.take k) := by
  obtain ⟨m', hperm, hsub'⟩ := hsub
  rw [← weigh_perm hperm]
  exact weigh_sublist_le_take hsort hpos hsub' (by rw [hperm.length_eq]; exact hk)

variable {init rest : List α} {v : α} {need : Int}

/-- A list that reaches a positive target has a shortest prefix that does. -/
theorem exists_shortest_prefix {l : List α} (hneed : 0 < need) (h : need ≤ weigh weight l) :
    ∃ init v rest, l = init ++ v :: rest ∧ weigh weight init < need
      ∧ need ≤ weigh weight (init ++ [v]) := by
  induction l generalizing need with
  | nil =>
      rw [weigh_nil] at h
      omega
  | cons a l ih =>
      rw [weigh_cons] at h
      by_cases ha : need ≤ weight a
      · exact ⟨[], a, l, rfl, hneed, by rw [List.nil_append, weigh_cons, weigh_nil]; omega⟩
      · obtain ⟨init, v, rest, rfl, hshort, hreach⟩ :=
          @ih (need - weight a) (by omega) (by omega)
        refine ⟨a :: init, v, rest, rfl, by rw [weigh_cons]; omega, ?_⟩
        rw [List.cons_append, weigh_cons]
        omega

/-- A prefix that falls short of the target without its last element has as few elements
    as any choice that reaches it. -/
theorem length_le_of_reaches
    (hsort : (init ++ v :: rest).Pairwise (fun a b => weight b ≤ weight a))
    (hpos : ∀ a ∈ init ++ v :: rest, 0 ≤ weight a) (hshort : weigh weight init < need)
    {m : List α} (hsub : m.Subperm (init ++ v :: rest)) (hm : need ≤ weigh weight m) :
    (init ++ [v]).length ≤ m.length := by
  by_contra hlt
  rw [List.length_append, List.length_singleton, not_le] at hlt
  have hle := weigh_le_take hsort hpos hsub (Nat.le_of_lt_succ hlt)
  rw [List.take_left'] at hle
  · omega
  · rfl

/-- Nor can any one of its elements be left out. -/
theorem weigh_erase_lt [DecidableEq α]
    (hsort : (init ++ v :: rest).Pairwise (fun a b => weight b ≤ weight a))
    (hshort : weigh weight init < need) {x : α} (hx : x ∈ init ++ [v]) :
    weigh weight ((init ++ [v]).erase x) < need := by
  have hsum : weigh weight (init ++ [v]) = weight x + weigh weight ((init ++ [v]).erase x) := by
    rw [← weigh_cons]
    exact weigh_perm (List.perm_cons_erase hx)
  have hle : weight v ≤ weight x := by
    rcases List.mem_append.mp hx with hx | hx
    · exact (List.pairwise_append.mp hsort).2.2 x hx v (List.mem_cons_self ..)
    · rw [List.mem_singleton.mp hx]
  rw [weigh_append, weigh_cons, weigh_nil] at hsum
  omega

end

end GreedyPrefix
