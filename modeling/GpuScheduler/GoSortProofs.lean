import Mathlib

/-! # `sort.SliceStable`

    A stable sort by a comparison function, as insertion sort: every stable sort
    gives the same list when the comparison is a strict weak order. -/

namespace GoSort

variable {α : Type}

/-- `sort.SliceStable(l, less)`. -/
def sliceStable (less : α → α → Bool) (l : List α) : List α :=
  l.insertionSort (fun a b => less b a = false)

/-- A comparison is a strict weak order: not-greater is total and transitive. -/
structure StrictWeak (less : α → α → Bool) : Prop where
  total : ∀ a b, less b a = false ∨ less a b = false
  trans : ∀ a b c, less b a = false → less c b = false → less c a = false

theorem sliceStable_perm (less : α → α → Bool) (l : List α) :
    (sliceStable less l).Perm l :=
  List.perm_insertionSort _ l

@[simp] theorem mem_sliceStable {less : α → α → Bool} {l : List α} {a : α} :
    a ∈ sliceStable less l ↔ a ∈ l :=
  (sliceStable_perm less l).mem_iff

/-- The result is sorted: no later element is less than an earlier one. -/
theorem sliceStable_pairwise {less : α → α → Bool} (h : StrictWeak less) (l : List α) :
    (sliceStable less l).Pairwise (fun a b => less b a = false) := by
  have htot : Std.Total (fun a b : α => less b a = false) := ⟨h.total⟩
  have htr : IsTrans α (fun a b : α => less b a = false) := ⟨h.trans⟩
  exact List.pairwise_insertionSort _ l

/-- The first elements of the result come with everything that is less than one of them. -/
theorem mem_front_of_less {less : α → α → Bool} (h : StrictWeak less) {l front rest : List α}
    (hfront : sliceStable less l = front ++ rest) {a b : α} (ha : a ∈ front) (hb : b ∈ l)
    (hless : less b a = true) : b ∈ front := by
  have hsorted := sliceStable_pairwise h l
  have hmem : b ∈ sliceStable less l := mem_sliceStable.mpr hb
  rw [hfront] at hsorted hmem
  rcases List.mem_append.mp hmem with hmem | hmem
  · exact hmem
  · have hnot := (List.pairwise_append.mp hsorted).2.2 a ha b hmem
    rw [hless] at hnot
    cases hnot

/-- **THE ORDER OF THE INPUT DOES NOT MATTER** when the comparison tells its elements
    apart. -/
theorem sliceStable_eq_of_perm {less : α → α → Bool} (h : StrictWeak less) {l l' : List α}
    (hperm : l.Perm l')
    (hapart : ∀ a ∈ l, ∀ b ∈ l, less a b = false → less b a = false → a = b) :
    sliceStable less l = sliceStable less l' := by
  refine List.Perm.eq_of_pairwise ?_ (sliceStable_pairwise h l) (sliceStable_pairwise h l')
    ((sliceStable_perm less l).trans (hperm.trans (sliceStable_perm less l').symm))
  intro a b ha hb hba hab
  exact hapart a (mem_sliceStable.mp ha) b (hperm.mem_iff.mpr (mem_sliceStable.mp hb)) hab hba

/-- Inserting into a sorted list what is not greater than anything in it. -/
private theorem orderedInsert_of_le (r : α → α → Prop) [DecidableRel r] {a : α} {l : List α}
    (h : ∀ b ∈ l, r a b) : l.orderedInsert r a = a :: l := by
  cases l with
  | nil => rfl
  | cons b l => rw [List.orderedInsert, if_pos (h b (List.mem_cons_self ..))]

/-- Insertion and filtering commute on a sorted list. -/
private theorem filter_orderedInsert (r : α → α → Prop) [DecidableRel r]
    (htrans : ∀ a b c, r a b → r b c → r a c) (p : α → Bool) (a : α) {l : List α}
    (hl : l.Pairwise r) :
    (l.orderedInsert r a).filter p
      = if p a then (l.filter p).orderedInsert r a else l.filter p := by
  induction l with
  | nil => rw [List.orderedInsert, List.filter_cons]; rfl
  | cons b l ih =>
      obtain ⟨hb, hl'⟩ := List.pairwise_cons.mp hl
      rw [List.orderedInsert]
      by_cases hab : r a b
      · rw [if_pos hab, List.filter_cons]
        have hall : ∀ c ∈ (b :: l).filter p, r a c := by
          intro c hc
          rcases List.mem_cons.mp (List.mem_of_mem_filter hc) with rfl | hc
          · exact hab
          · exact htrans a b c hab (hb c hc)
        rw [orderedInsert_of_le r hall]
      · rw [if_neg hab, List.filter_cons, List.filter_cons, ih hl']
        by_cases hpa : p a = true
        · rw [if_pos hpa, if_pos hpa]
          by_cases hpb : p b = true
          · rw [if_pos hpb, if_pos hpb, List.orderedInsert, if_neg hab]
          · rw [if_neg hpb, if_neg hpb]
        · rw [if_neg hpa, if_neg hpa]

/-- **STABILITY**: sorting a part of the list gives the same part of the sorted list. -/
theorem sliceStable_filter {less : α → α → Bool} (h : StrictWeak less) (p : α → Bool)
    (l : List α) : sliceStable less (l.filter p) = (sliceStable less l).filter p := by
  induction l with
  | nil => rfl
  | cons a l ih =>
      have hins : sliceStable less (a :: l)
          = (sliceStable less l).orderedInsert (fun a b => less b a = false) a := rfl
      rw [hins, filter_orderedInsert _ (fun a b c => h.trans a b c) p a
        (sliceStable_pairwise h l), List.filter_cons, ← ih]
      split_ifs
      · rfl
      · rfl

end GoSort
