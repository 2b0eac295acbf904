import GpuScheduler.GoLoopsProofs

/-! # Words between separators

    The words of a list are its maximal runs of elements that satisfy a predicate.  A
    common way to join them is to replace everything else by a separator, to trim the
    separator at both ends, and to replace two separators by one as long as there are
    two in a row.  `collapse_trim` proves that this gives the words joined by single
    separators. -/

namespace Words

variable {α : Type}

/-! ## Maximal runs -/

/-- A run that is open, and the words after it. -/
def close (r : List α × List (List α)) : List (List α) :=
  if r.1.isEmpty then r.2 else r.1 :: r.2

/-- The run a list begins with, and the words after it. -/
def split (p : α → Bool) : List α → List α × List (List α)
  | [] => ([], [])
  | c :: l => if p c then (c :: (split p l).1, (split p l).2) else ([], close (split p l))

/-- The maximal runs of elements that satisfy `p`. -/
def words (p : α → Bool) (l : List α) : List (List α) := close (split p l)

section
variable {p : α → Bool}

theorem split_cons (c : α) (l : List α) :
    split p (c :: l) = if p c then (c :: (split p l).1, (split p l).2)
      else ([], close (split p l)) :=
  rfl

theorem split_cons_of_mem {c : α} (hc : p c = true) (l : List α) :
    split p (c :: l) = (c :: (split p l).1, (split p l).2) := by
  rw [split_cons, hc, if_pos rfl]

theorem split_cons_of_not {c : α} (hc : p c = false) (l : List α) :
    split p (c :: l) = ([], words p l) := by
  rw [split_cons, hc]
  rfl

/-- What is not in a word may be left out at the front. -/
theorem words_cons_of_not {c : α} (hc : p c = false) (l : List α) :
    words p (c :: l) = words p l := by
  show close (split p (c :: l)) = _
  rw [split_cons_of_not hc]
  rfl

/-- A list that begins inside a word begins with that word. -/
theorem words_cons_of_mem {c : α} (hc : p c = true) (l : List α) :
    words p (c :: l) = (split p (c :: l)).1 :: (split p (c :: l)).2 := by
  show close (split p (c :: l)) = _
  rw [split_cons_of_mem hc]
  rfl

/-- What is not in a word may be left out at the end. -/
theorem split_append_of_not {c : α} (hc : p c = false) (l : List α) :
    split p (l ++ [c]) = split p l := by
  induction l with
  | nil =>
      show (if p c then _ else _) = _
      rw [hc]
      rfl
  | cons a l ih => rw [List.cons_append, split_cons, ih, split_cons]

/-- Only the elements of words count. -/
theorem split_map {f : α → α} (hp : ∀ c, p c = true → f c = c)
    (hn : ∀ c, p c = false → p (f c) = false) (l : List α) :
    split p (l.map f) = split p l := by
  induction l with
  | nil => rfl
  | cons c l ih =>
      rw [List.map_cons, split_cons, split_cons, ih]
      cases hc : p c with
      | true => rw [hp c hc, hc]
      | false => rw [hn c hc]; rfl

/-- A word is a run of elements that satisfy the predicate, and is not empty. -/
def IsWord (p : α → Bool) (w : List α) : Prop := w ≠ [] ∧ ∀ c ∈ w, p c = true

/-- Closing a run makes it a word. -/
private theorem isWord_close {r : List α × List (List α)} (hfst : ∀ c ∈ r.1, p c = true)
    (hsnd : ∀ w ∈ r.2, IsWord p w) : ∀ w ∈ close r, IsWord p w := by
  intro w hw
  rw [close] at hw
  split_ifs at hw with he
  · exact hsnd w hw
  · rcases List.mem_cons.mp hw with rfl | hw
    · exact ⟨fun hnil => he (by rw [hnil]; rfl), hfst⟩
    · exact hsnd w hw

private theorem isWord_split (p : α → Bool) (l : List α) :
    (∀ c ∈ (split p l).1, p c = true) ∧ ∀ w ∈ (split p l).2, IsWord p w := by
  induction l with
  | nil => exact ⟨fun c hc => (by cases hc), fun w hw => (by cases hw)⟩
  | cons c l ih =>
      rw [split_cons]
      split_ifs with hc
      · refine ⟨fun a ha => ?_, ih.2⟩
        rcases List.mem_cons.mp ha with rfl | ha
        · exact hc
        · exact ih.1 a ha
      · exact ⟨fun a ha => (by cases ha), isWord_close ih.1 ih.2⟩

/-- The words of a list are words. -/
theorem isWord_of_mem_words {l w : List α} (h : w ∈ words p l) : IsWord p w :=
  isWord_close (isWord_split p l).1 (isWord_split p l).2 w h

end

/-! ## Joining words -/

/-- Join words by single separators. -/
def join (sep : α) (ws : List (List α)) : List α := [sep].intercalate ws

/-- The words in the first `n` elements of their join, the last one cut. -/
def fit : Nat → List (List α) → List (List α)
  | 0, _ => []
  | _ + 1, [] => []
  | n + 1, w :: ws => if w.length ≤ n then w :: fit (n - w.length) ws else [w.take (n + 1)]

/-- No word is empty or has the separator in it. -/
def Clean (sep : α) (ws : List (List α)) : Prop := ∀ w ∈ ws, w ≠ [] ∧ sep ∉ w

section
variable {sep : α}

theorem join_nil : join sep [] = [] := rfl

/-- The first word, and each other one after a separator. -/
theorem join_cons (w : List α) (ws : List (List α)) :
    join sep (w :: ws) = w ++ ws.flatMap (sep :: ·) := by
  induction ws generalizing w with
  | nil => simp [join, List.intercalate]
  | cons v ws ih =>
      rw [List.flatMap_cons, List.cons_append, ← ih v]
      simp [join, List.intercalate, List.intersperse]

theorem Clean.head {w : List α} {ws : List (List α)} (h : Clean sep (w :: ws)) :
    w ≠ [] ∧ sep ∉ w :=
  h w (List.mem_cons_self ..)

theorem Clean.tail {w : List α} {ws : List (List α)} (h : Clean sep (w :: ws)) :
    Clean sep ws :=
  fun v hv => h v (List.mem_cons_of_mem _ hv)

theorem Clean.join_eq_nil_iff {ws : List (List α)} (h : Clean sep ws) :
    join sep ws = [] ↔ ws = [] := by
  cases ws with
  | nil => exact ⟨fun _ => rfl, fun _ => rfl⟩
  | cons w ws =>
      rw [join_cons]
      simp [h.head.1]

/-- What follows the first word. -/
theorem flatMap_eq {ws : List (List α)} (h : ws ≠ []) :
    ws.flatMap (sep :: ·) = sep :: join sep ws := by
  cases ws with
  | nil => exact absurd rfl h
  | cons w ws => rw [join_cons, List.flatMap_cons, List.cons_append]

/-- Words are clean of what is in none. -/
theorem clean_of_isWord {p : α → Bool} (hsep : p sep = false) {ws : List (List α)}
    (h : ∀ w ∈ ws, IsWord p w) : Clean sep ws := by
  intro w hw
  refine ⟨(h w hw).1, fun hmem => ?_⟩
  rw [(h w hw).2 sep hmem] at hsep
  cases hsep

theorem clean_words {p : α → Bool} (hsep : p sep = false) (l : List α) :
    Clean sep (words p l) :=
  clean_of_isWord hsep (fun _ => isWord_of_mem_words)

/-- Cutting keeps words clean. -/
theorem Clean.fit {ws : List (List α)} (h : Clean sep ws) (n : Nat) :
    Clean sep (fit n ws) := by
  fun_induction Words.fit n ws with
  | case1 ws => intro v hv; cases hv
  | case2 n => intro v hv; cases hv
  | case3 n w ws _ ih =>
      intro v hv
      rcases List.mem_cons.mp hv with rfl | hv
      · exact h.head
      · exact ih h.tail v hv
  | case4 n w ws _ =>
      intro v hv
      obtain rfl := List.mem_singleton.mp hv
      refine ⟨fun hnil => ?_, fun hmem => h.head.2 (List.mem_of_mem_take hmem)⟩
      simp [h.head.1] at hnil

theorem fit_nil (n : Nat) : fit n ([] : List (List α)) = [] := by
  cases n with
  | zero => rfl
  | succ n => rfl

/-- Words whose join is short enough all fit. -/
theorem Clean.fit_of_length_le {ws : List (List α)} (h : Clean sep ws) {n : Nat}
    (hn : (join sep ws).length ≤ n) : Words.fit n ws = ws := by
  induction ws generalizing n with
  | nil => rw [fit_nil]
  | cons w ws ih =>
      rw [join_cons, List.length_append] at hn
      have hw : 0 < w.length := List.length_pos_iff.mpr h.head.1
      cases n with
      | zero => omega
      | succ n =>
          rw [Words.fit]
          by_cases hws : ws = []
          · rw [hws, fit_nil, List.take_of_length_le (by omega), ite_self]
          · rw [flatMap_eq hws, List.length_cons] at hn
            rw [if_pos (by omega), ih h.tail (by omega)]

variable {p : α → Bool}

/-- What is cut to fit is still made of words. -/
theorem isWord_fit {ws : List (List α)} (h : ∀ w ∈ ws, IsWord p w) (n : Nat) :
    ∀ w ∈ fit n ws, IsWord p w := by
  fun_induction Words.fit n ws with
  | case1 ws => intro w hw; cases hw
  | case2 n => intro w hw; cases hw
  | case3 n w ws hle ih =>
      intro v hv
      rcases List.mem_cons.mp hv with rfl | hv
      · exact h v (List.mem_cons_self ..)
      · exact ih (fun u hu => h u (List.mem_cons_of_mem _ hu)) v hv
  | case4 n w ws hlt =>
      intro v hv
      rw [List.mem_singleton.mp hv]
      obtain ⟨hne, hall⟩ := h w (List.mem_cons_self ..)
      refine ⟨fun hnil => ?_, fun c hc => hall c (List.mem_of_mem_take hc)⟩
      rcases List.take_eq_nil_iff.mp hnil with hzero | hnil
      · cases hzero
      · exact hne hnil

/-- Nothing but words and separators. -/
theorem mem_join {ws : List (List α)} (h : ∀ w ∈ ws, IsWord p w) {c : α}
    (hc : c ∈ join sep ws) : p c = true ∨ c = sep := by
  cases ws with
  | nil => cases hc
  | cons w ws =>
      rw [join_cons, List.mem_append, List.mem_flatMap] at hc
      rcases hc with hc | ⟨v, hv, hc⟩
      · exact Or.inl ((h w (List.mem_cons_self ..)).2 c hc)
      · rcases List.mem_cons.mp hc with rfl | hc
        · exact Or.inr rfl
        · exact Or.inl ((h v (List.mem_cons_of_mem _ hv)).2 c hc)

/-- It begins in a word. -/
theorem head?_join {ws : List (List α)} (h : ∀ w ∈ ws, IsWord p w) {c : α}
    (hc : (join sep ws).head? = some c) : p c = true := by
  cases ws with
  | nil => cases hc
  | cons w ws =>
      obtain ⟨hne, hall⟩ := h w (List.mem_cons_self ..)
      cases w with
      | nil => exact absurd rfl hne
      | cons d w =>
          rw [join_cons] at hc
          rw [← Option.some.inj hc]
          exact hall d (List.mem_cons_self ..)

/-- It ends in a word. -/
theorem getLast?_join {ws : List (List α)} (h : ∀ w ∈ ws, IsWord p w) {c : α}
    (hc : (join sep ws).getLast? = some c) : p c = true := by
  induction ws with
  | nil => cases hc
  | cons w ws ih =>
      have htail := fun v hv => h v (List.mem_cons_of_mem w hv)
      rw [join_cons] at hc
      by_cases hws : ws = []
      · rw [hws, List.flatMap_nil, List.append_nil] at hc
        exact (h w (List.mem_cons_self ..)).2 c (List.mem_of_getLast? hc)
      · have hjoin : join sep ws ≠ [] := by
          cases ws with
          | nil => exact absurd rfl hws
          | cons v ws =>
              rw [join_cons]
              exact List.append_ne_nil_of_left_ne_nil (htail v (List.mem_cons_self ..)).1 _
        rw [flatMap_eq hws, List.getLast?_append_of_ne_nil _ (List.cons_ne_nil _ _),
          List.getLast?_cons_of_ne_nil hjoin] at hc
        exact ih htail hc

end

variable [DecidableEq α]

section
variable {sep : α}

/-- **JOINS ARE READ BACK**: clean words are determined by their join. -/
theorem Clean.join_inj {ws ws' : List (List α)} (h : Clean sep ws) (h' : Clean sep ws') :
    join sep ws = join sep ws' ↔ ws = ws' := by
  refine ⟨fun heq => ?_, fun heq => by rw [heq]⟩
  by_cases hws : ws = []
  · rw [hws]
    rw [h.join_eq_nil_iff.mpr hws] at heq
    exact (h'.join_eq_nil_iff.mp heq.symm).symm
  · have hws' : ws' ≠ [] := by
      intro hnil
      rw [h'.join_eq_nil_iff.mpr hnil] at heq
      exact hws (h.join_eq_nil_iff.mp heq)
    have hsplit := congrArg (List.splitOn sep) heq
    rwa [join, join, List.splitOn_intercalate sep (fun w hw => (h w hw).2) hws,
      List.splitOn_intercalate sep (fun w hw => (h' w hw).2) hws'] at hsplit

/-- Trimming at the end stops at the last word. -/
private theorem rdropWhile_append (l r : List α) :
    (l ++ r).rdropWhile (· = sep)
      = if r.rdropWhile (· = sep) = [] then l.rdropWhile (· = sep)
        else l ++ r.rdropWhile (· = sep) := by
  simp only [List.rdropWhile, List.reverse_append, List.dropWhile_append, List.isEmpty_iff,
    List.reverse_eq_nil_iff]
  split_ifs
  · rfl
  · rw [List.reverse_append, List.reverse_reverse]

private theorem rdropWhile_of_not_mem {l : List α} (h : sep ∉ l) :
    l.rdropWhile (· = sep) = l := by
  refine List.rdropWhile_eq_self_iff.mpr (fun hl hlast => h ?_)
  rw [← of_decide_eq_true hlast]
  exact List.getLast_mem hl

/-- **CUTTING A JOIN** and trimming its end gives the join of the words that fit. -/
theorem Clean.rdropWhile_take_join {ws : List (List α)} (h : Clean sep ws) (n : Nat) :
    ((join sep ws).take n).rdropWhile (· = sep) = join sep (Words.fit n ws) := by
  induction ws generalizing n with
  | nil => rw [fit_nil, join_nil, List.take_nil, List.rdropWhile_nil]
  | cons w ws ih =>
      cases n with
      | zero => rw [List.take_zero, List.rdropWhile_nil]; rfl
      | succ n =>
          rw [join_cons, Words.fit]
          split_ifs with hn
          · rw [join_cons, List.take_append, List.take_of_length_le (by omega),
              show n + 1 - w.length = (n - w.length) + 1 by omega]
            by_cases hws : ws = []
            · rw [hws, fit_nil, List.flatMap_nil, List.take_nil, List.append_nil,
                rdropWhile_of_not_mem h.head.2]
            · -- the first separator stays exactly when something after it fits
              rw [flatMap_eq hws, List.take_succ_cons, ← List.singleton_append,
                ← List.append_assoc, rdropWhile_append, ih h.tail]
              by_cases hfit : Words.fit (n - w.length) ws = []
              · rw [hfit, join_nil, if_pos rfl,
                  List.rdropWhile_concat_pos _ _ _ (by simp),
                  rdropWhile_of_not_mem h.head.2, List.flatMap_nil, List.append_nil]
              · rw [if_neg (mt (h.tail.fit _).join_eq_nil_iff.mp hfit), flatMap_eq hfit,
                  List.append_assoc, List.singleton_append]
          · rw [List.take_append_of_le_length (by omega), join_cons, List.flatMap_nil,
              List.append_nil]
            exact rdropWhile_of_not_mem (fun hmem => h.head.2 (List.mem_of_mem_take hmem))

/-- The same when only a join that is too long is cut. -/
theorem Clean.cut_join {ws : List (List α)} (h : Clean sep ws) (n : Nat) :
    (if n < (join sep ws).length then ((join sep ws).take n).rdropWhile (· = sep)
      else join sep ws) = join sep (Words.fit n ws) := by
  split_ifs with hn
  · exact h.rdropWhile_take_join n
  · rw [h.fit_of_length_le (by omega)]

end

/-! ## Trimming and collapsing separators -/

/-- Replace two separators by one, from left to right. -/
def halve (sep : α) : List α → List α
  | a :: b :: l => if a = sep ∧ b = sep then sep :: halve sep l else a :: halve sep (b :: l)
  | l => l

/-- There are two separators in a row. -/
def doubled (sep : α) : List α → Bool
  | a :: b :: l => (a = sep ∧ b = sep) || doubled sep (b :: l)
  | _ => false

/-- Replace two separators by one while there are two in a row. -/
def collapse (sep : α) : Nat → List α → List α
  | 0, l => l
  | n + 1, l => if doubled sep l then collapse sep n (halve sep l) else l

/-- Remove the separators at both ends. -/
def trim (sep : α) (l : List α) : List α :=
  (l.dropWhile (fun c => c = sep)).rdropWhile (fun c => c = sep)

section
variable {p : α → Bool} {sep : α}

/-- Halving does not make a list longer, and keeps its ends and its elements. -/
theorem halve_spec (l : List α) :
    (halve sep l).length ≤ l.length ∧ (halve sep l).head? = l.head?
      ∧ (halve sep l).getLast? = l.getLast? ∧ ∀ c ∈ halve sep l, c ∈ l := by
  fun_induction halve sep l with
  | case1 a b l hab ih =>
      obtain ⟨rfl, rfl⟩ := hab
      obtain ⟨hlength, -, hlast, hmem⟩ := ih
      refine ⟨by simp only [List.length_cons]; omega, rfl, ?_, fun c hc => ?_⟩
      · rw [List.getLast?_cons, hlast, List.getLast?_cons, List.getLast?_cons]
        rfl
      · rcases List.mem_cons.mp hc with rfl | hc
        · exact List.mem_cons_self ..
        · exact List.mem_cons_of_mem _ (List.mem_cons_of_mem _ (hmem c hc))
  | case2 a b l _ ih =>
      obtain ⟨hlength, -, hlast, hmem⟩ := ih
      refine ⟨by simp only [List.length_cons] at hlength ⊢; omega, rfl, ?_, fun c hc => ?_⟩
      · rw [List.getLast?_cons, hlast, ← List.getLast?_cons]
      · rcases List.mem_cons.mp hc with rfl | hc
        · exact List.mem_cons_self ..
        · exact List.mem_cons_of_mem _ (hmem c hc)
  | case3 l _ => exact ⟨Nat.le_refl _, rfl, rfl, fun _ hc => hc⟩

/-- Halving makes a list with two separators in a row shorter. -/
theorem length_halve_lt {l : List α} (h : doubled sep l = true) :
    (halve sep l).length < l.length := by
  fun_induction halve sep l with
  | case1 a b l _ ih =>
      have hle : (halve sep l).length ≤ l.length := (halve_spec l).1
      simp only [List.length_cons]
      omega
  | case2 a b l hne ih =>
      rw [doubled, decide_eq_false hne, Bool.false_or] at h
      have := ih h
      simp only [List.length_cons] at this ⊢
      omega
  | case3 l hl =>
      fun_cases doubled sep l with
      | case1 a b l => exact absurd rfl (hl a b l)
      | case2 l _ => simp [doubled] at h

/-- Halving keeps the words. -/
theorem split_halve (hsep : p sep = false) (l : List α) :
    split p (halve sep l) = split p l := by
  fun_induction halve sep l with
  | case1 a b l hab ih =>
      obtain ⟨rfl, rfl⟩ := hab
      have hwords : words p (halve b l) = words p l := congrArg close ih
      rw [split_cons_of_not hsep, split_cons_of_not hsep, words_cons_of_not hsep, hwords]
  | case2 a b l _ ih => rw [split_cons, ih, ← split_cons]
  | case3 l _ => rfl

/-- What every round keeps, collapsing keeps. -/
theorem collapse_invariant {P : List α → Prop} (hround : ∀ l, P l → P (halve sep l))
    (n : Nat) {l : List α} (h : P l) : P (collapse sep n l) := by
  induction n generalizing l with
  | zero => exact h
  | succ n ih =>
      show P (if doubled sep l then collapse sep n (halve sep l) else l)
      split_ifs
      · exact ih (hround l h)
      · exact h

/-- Collapsing keeps the words, the ends, and the elements. -/
theorem split_collapse (hsep : p sep = false) (n : Nat) (l : List α) :
    split p (collapse sep n l) = split p l :=
  collapse_invariant (P := fun l' => split p l' = split p l)
    (fun l' h => (split_halve hsep l').trans h) n rfl

theorem head?_collapse (n : Nat) (l : List α) : (collapse sep n l).head? = l.head? :=
  collapse_invariant (P := fun l' => l'.head? = l.head?)
    (fun l' h => (halve_spec l').2.1.trans h) n rfl

theorem getLast?_collapse (n : Nat) (l : List α) :
    (collapse sep n l).getLast? = l.getLast? :=
  collapse_invariant (P := fun l' => l'.getLast? = l.getLast?)
    (fun l' h => (halve_spec l').2.2.1.trans h) n rfl

theorem mem_collapse {c : α} {n : Nat} {l : List α} (h : c ∈ collapse sep n l) : c ∈ l :=
  collapse_invariant (P := fun l' => ∀ c ∈ l', c ∈ l)
    (fun l' hl' c hc => hl' c ((halve_spec l').2.2.2 c hc)) n (fun _ hc => hc) c h

/-- As many rounds as the list is long are enough: no two separators stay in a row. -/
theorem not_doubled_collapse {n : Nat} {l : List α} (hn : l.length ≤ n) :
    doubled sep (collapse sep n l) = false := by
  induction n generalizing l with
  | zero =>
      rw [List.length_eq_zero_iff.mp (Nat.le_zero.mp hn)]
      rfl
  | succ n ih =>
      show doubled sep (if doubled sep l then collapse sep n (halve sep l) else l) = false
      split_ifs with hd
      · have := length_halve_lt hd
        exact ih (by omega)
      · exact Bool.eq_false_iff.mpr hd

/-! ## Tidy lists -/

/-- A list of words and single separators, with no separator at the end, is the run it
    begins with and its words, each after a separator. -/
theorem eq_of_not_doubled (hsep : p sep = false) {l : List α}
    (hl : ∀ c ∈ l, p c = true ∨ c = sep) (hd : doubled sep l = false)
    (hlast : l.getLast? ≠ some sep) :
    l = (split p l).1 ++ (split p l).2.flatMap (sep :: ·) := by
  induction l with
  | nil => rfl
  | cons c l ih =>
      cases l with
      | nil =>
          rcases hl c (List.mem_cons_self ..) with hc | rfl
          · rw [split_cons_of_mem hc]
            rfl
          · exact absurd rfl hlast
      | cons d l =>
          rw [doubled, Bool.or_eq_false_iff] at hd
          have htail := ih (fun a ha => hl a (List.mem_cons_of_mem _ ha)) hd.2
            (by rwa [List.getLast?_cons_cons] at hlast)
          rcases hl c (List.mem_cons_self ..) with hc | rfl
          · rw [split_cons_of_mem hc]
            exact congrArg (c :: ·) htail
          · -- the next element is in a word, which the separator closes
            have hdc : d ≠ c := fun h => of_decide_eq_false hd.1 ⟨rfl, h⟩
            have hdp : p d = true :=
              (hl d (List.mem_cons_of_mem _ (List.mem_cons_self ..))).resolve_right hdc
            rw [split_cons_of_not hsep, words_cons_of_mem hdp]
            exact congrArg (c :: ·) htail

/-- A tidy list is its words joined by single separators. -/
theorem eq_join_words (hsep : p sep = false) {l : List α}
    (hl : ∀ c ∈ l, p c = true ∨ c = sep) (hd : doubled sep l = false)
    (hhead : l.head? ≠ some sep) (hlast : l.getLast? ≠ some sep) :
    l = join sep (words p l) := by
  cases l with
  | nil => rfl
  | cons c l =>
      have hc : p c = true :=
        (hl c (List.mem_cons_self ..)).resolve_right (fun h => hhead (congrArg some h))
      rw [words_cons_of_mem hc, join_cons]
      exact eq_of_not_doubled hsep hl hd hlast

/-- Trimming the separators keeps the words. -/
theorem words_trim (hsep : p sep = false) (l : List α) :
    words p (trim sep l) = words p l := by
  have hfront : ∀ l, words p (l.dropWhile (fun c => c = sep)) = words p l := by
    intro l
    induction l with
    | nil => rfl
    | cons c l ih =>
        by_cases hc : c = sep
        · rw [List.dropWhile_cons_of_pos (by simpa using hc), ih, hc, words_cons_of_not hsep]
        · rw [List.dropWhile_cons_of_neg (by simpa using hc)]
  have hback : ∀ l, split p (l.rdropWhile (fun c => c = sep)) = split p l := by
    intro l
    induction l using List.reverseRecOn with
    | nil => rw [List.rdropWhile_nil]
    | append_singleton l c ih =>
        by_cases hc : c = sep
        · rw [List.rdropWhile_concat_pos _ _ _ (by simpa using hc), ih, hc,
            split_append_of_not hsep]
        · rw [List.rdropWhile_concat_neg _ _ _ (by simpa using hc)]
  rw [trim, words, hback, ← words, hfront]

theorem head?_trim_ne (l : List α) : (trim sep l).head? ≠ some sep := by
  intro h
  -- what is trimmed at the end does not change a first element
  have hfront : (l.dropWhile (fun c => c = sep)).head? = some sep := by
    have happend := congrArg List.head?
      (List.rdropWhile_append_rtakeWhile (p := (· = sep)) (l := l.dropWhile (· = sep)))
    rw [List.head?_append, ← trim, h, Option.some_or] at happend
    exact happend.symm
  have := List.head?_dropWhile_not (fun c => decide (c = sep)) l
  rw [hfront] at this
  simp at this

theorem getLast?_trim_ne (l : List α) : (trim sep l).getLast? ≠ some sep := by
  intro h
  rw [trim, List.rdropWhile, List.getLast?_reverse] at h
  have := List.head?_dropWhile_not (fun c => decide (c = sep))
    (l.dropWhile (fun c => c = sep)).reverse
  rw [h] at this
  simp at this

theorem mem_trim {c : α} {l : List α} (h : c ∈ trim sep l) : c ∈ l := by
  have hfront : c ∈ l.dropWhile (fun c => c = sep) :=
    List.mem_reverse.mp ((List.dropWhile_sublist _).subset (List.mem_reverse.mp h))
  exact (List.dropWhile_sublist _).subset hfront

/-- **TIDYING**: trimming and collapsing the separators of a list gives its words, joined
    by single separators. -/
theorem collapse_trim (hsep : p sep = false) {l : List α}
    (hl : ∀ c ∈ l, p c = true ∨ c = sep) :
    collapse sep (trim sep l).length (trim sep l) = join sep (words p l) := by
  have htidy := eq_join_words (l := collapse sep (trim sep l).length (trim sep l)) hsep
    (fun c hc => hl c (mem_trim (mem_collapse hc))) (not_doubled_collapse (Nat.le_refl _))
    (by rw [head?_collapse]; exact head?_trim_ne l)
    (by rw [getLast?_collapse]; exact getLast?_trim_ne l)
  rw [htidy, words, split_collapse hsep, ← words, words_trim hsep]

/-- **COLLAPSING TERMINATES**: every round shortens the list. -/
theorem ends_collapse (l : List α) :
    GoLoops.Ends (doubled sep) (halve sep) l (collapse sep l.length l) := by
  have hiterate : ∀ n l, collapse sep n l = GoLoops.iterate (doubled sep) (halve sep) n l := by
    intro n
    induction n with
    | zero => exact fun l => rfl
    | succ n ih =>
        intro l
        rw [collapse, GoLoops.iterate, ih]
  rw [hiterate]
  exact GoLoops.ends_iterate List.length (fun l => length_halve_lt) l.length l (Nat.le_refl _)

end

/-! ## Joined words -/

section
variable {p : α → Bool} {sep : α}

theorem doubled_cons_ne {a : α} (h : a ≠ sep) (l : List α) :
    doubled sep (a :: l) = doubled sep l := by
  cases l with
  | nil => rfl
  | cons b l =>
      rw [doubled, decide_eq_false (fun hab => h hab.1), Bool.false_or]

theorem doubled_append_of_not_mem {w : List α} (h : sep ∉ w) (l : List α) :
    doubled sep (w ++ l) = doubled sep l := by
  induction w with
  | nil => rfl
  | cons a w ih =>
      rw [List.mem_cons, not_or] at h
      rw [List.cons_append, doubled_cons_ne (Ne.symm h.1), ih h.2]

/-- Between the words there are single separators. -/
theorem Clean.not_doubled_join {ws : List (List α)} (h : Clean sep ws) :
    doubled sep (join sep ws) = false := by
  have hmore : ∀ ws : List (List α), Clean sep ws →
      doubled sep (ws.flatMap (sep :: ·)) = false := by
    intro ws
    induction ws with
    | nil => exact fun _ => rfl
    | cons w ws ih =>
        intro h
        obtain ⟨hne, hnot⟩ := h.head
        cases w with
        | nil => exact absurd rfl hne
        | cons d w =>
            have hd : d ≠ sep := fun hd => hnot (by rw [hd]; exact List.mem_cons_self ..)
            rw [List.flatMap_cons, List.cons_append, List.cons_append, doubled,
              decide_eq_false (fun hab => hd hab.2), Bool.false_or, ← List.cons_append,
              doubled_append_of_not_mem hnot]
            exact ih h.tail
  cases ws with
  | nil => rfl
  | cons w ws =>
      rw [join_cons, doubled_append_of_not_mem h.head.2]
      exact hmore ws h.tail

/-- The words of joined words. -/
theorem words_join (hsep : p sep = false) {ws : List (List α)} (h : ∀ w ∈ ws, IsWord p w) :
    words p (join sep ws) = ws := by
  have hclean := clean_of_isWord hsep h
  have hnot : ∀ o : Option α, (∀ c, o = some c → p c = true) → o ≠ some sep := by
    intro o ho heq
    rw [ho sep heq] at hsep
    cases hsep
  have htidy := eq_join_words hsep (fun c hc => mem_join h hc) hclean.not_doubled_join
    (hnot _ (fun c => head?_join h)) (hnot _ (fun c => getLast?_join h))
  exact (((clean_words hsep _).join_inj hclean).mp htidy.symm)

/-- What is cut to fit fits. -/
theorem Clean.length_join_fit_le {ws : List (List α)} (h : Clean sep ws) (n : Nat) :
    (join sep (Words.fit n ws)).length ≤ n := by
  rw [← h.rdropWhile_take_join n]
  exact ((List.rdropWhile_prefix _ _).length_le).trans (List.length_take_le _ _)

/-- Two separators in a row, wherever they are. -/
theorem doubled_iff (l : List α) : doubled sep l = true ↔ [sep, sep] <:+: l := by
  induction l with
  | nil => exact ⟨fun h => (by cases h), fun h => absurd (List.infix_nil.mp h) (by simp)⟩
  | cons a l ih =>
      rw [List.infix_cons_iff, ← ih]
      cases l with
      | nil =>
          constructor
          · intro h
            cases h
          · rintro (hpre | h)
            · exact absurd hpre.length_le (by simp)
            · exact h
      | cons b l =>
          rw [doubled, Bool.or_eq_true, decide_eq_true_eq, List.cons_prefix_cons,
            List.cons_prefix_cons]
          constructor
          · rintro (⟨rfl, rfl⟩ | h)
            · exact Or.inl ⟨rfl, rfl, List.nil_prefix⟩
            · exact Or.inr h
          · rintro (⟨rfl, rfl, -⟩ | h)
            · exact Or.inl ⟨rfl, rfl⟩
            · exact Or.inr h

end

/-! ## Another alphabet -/

section
variable {β : Type} [DecidableEq β] {f : α → β} (hf : Function.Injective f) (sep : α)

include hf

theorem rdropWhile_map (l : List α) :
    (l.map f).rdropWhile (· = f sep) = (l.rdropWhile (· = sep)).map f := by
  have hcomp : (fun c => decide (c = f sep)) ∘ f = fun c => decide (c = sep) :=
    funext (fun c => decide_eq_decide.mpr hf.eq_iff)
  rw [List.rdropWhile, List.rdropWhile, ← List.map_reverse, List.dropWhile_map, hcomp,
    List.map_reverse]

theorem trim_map (l : List α) : trim (f sep) (l.map f) = (trim sep l).map f := by
  have hcomp : (fun c => decide (c = f sep)) ∘ f = fun c => decide (c = sep) :=
    funext (fun c => decide_eq_decide.mpr hf.eq_iff)
  rw [trim, trim, List.dropWhile_map, hcomp, rdropWhile_map hf]

theorem doubled_map (l : List α) : doubled (f sep) (l.map f) = doubled sep l := by
  induction l with
  | nil => rfl
  | cons a l ih =>
      cases l with
      | nil => rfl
      | cons b l =>
          rw [List.map_cons] at ih ⊢
          simp only [List.map_cons, doubled, hf.eq_iff, ih]

theorem halve_map (l : List α) : halve (f sep) (l.map f) = (halve sep l).map f := by
  fun_induction halve sep l with
  | case1 a b l hab ih =>
      obtain ⟨rfl, rfl⟩ := hab
      rw [List.map_cons, List.map_cons, halve, if_pos ⟨rfl, rfl⟩, ih, List.map_cons]
  | case2 a b l hab ih =>
      rw [List.map_cons, List.map_cons, halve, if_neg (by rwa [hf.eq_iff, hf.eq_iff]),
        ← List.map_cons, ih, List.map_cons]
  | case3 l hl =>
      cases l with
      | nil => rfl
      | cons a l =>
          cases l with
          | nil => rfl
          | cons b l => exact absurd rfl (hl a b l)

theorem collapse_map (n : Nat) (l : List α) :
    collapse (f sep) n (l.map f) = (collapse sep n l).map f := by
  induction n generalizing l with
  | zero => rfl
  | succ n ih =>
      rw [collapse, collapse, doubled_map hf, halve_map hf, ih]
      split_ifs
      · rfl
      · rfl

end

end Words
