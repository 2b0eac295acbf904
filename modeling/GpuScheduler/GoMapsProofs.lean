import Mathlib

/-! # Go maps

    A Go map is an association list with distinct keys (`AList`): lookup, insertion
    and deletion are the library's.  Iteration visits the entries in an order the
    language leaves open, so a function that ranges over a map is stated for every
    permutation of the entries.

    Two patterns of use get their own operations: a map of maps whose empty inner
    maps are dropped, and a map of counters. -/

namespace GoMaps

variable {K L V W : Type} [DecidableEq K] [DecidableEq L]

/-- A Go `map[K]V`; the nil map reads like the empty one. -/
abbrev GoMap (K V : Type) := AList (fun _ : K => V)

/-- The values, in entry order. -/
def values (m : GoMap K V) : List V := m.entries.map (fun e => e.2)

omit [DecidableEq K] in
theorem mem_values_iff_entry {m : GoMap K V} {v : V} :
    v ∈ values m ↔ ∃ k, (⟨k, v⟩ : Sigma fun _ : K => V) ∈ m.entries := by
  constructor
  · intro h
    obtain ⟨e, he, hv⟩ := List.mem_map.mp h
    exact ⟨e.1, by rw [← hv]; exact he⟩
  · rintro ⟨k, hk⟩
    exact List.mem_map.mpr ⟨⟨k, v⟩, hk, rfl⟩

/-- The keys are those with a value. -/
theorem mem_keys_iff {m : GoMap K V} {k : K} : k ∈ m.keys ↔ ∃ v, m.lookup k = some v := by
  rw [← AList.mem_keys, ← AList.lookup_isSome, Option.isSome_iff_exists]

/-- An entry after a write is the one written, or an old one. -/
theorem lookup_insert_eq_some {m : GoMap K V} {k k' : K} {v v' : V} :
    (m.insert k v).lookup k' = some v' ↔ k' = k ∧ v' = v ∨ k' ≠ k ∧ m.lookup k' = some v' := by
  by_cases hk : k' = k
  · rw [hk, AList.lookup_insert]
    simp [eq_comm]
  · rw [AList.lookup_insert_ne hk]
    simp [hk]

/-- An entry after a deletion is an old one. -/
theorem lookup_erase_eq_some {m : GoMap K V} {k k' : K} {v : V} :
    (m.erase k).lookup k' = some v ↔ k' ≠ k ∧ m.lookup k' = some v := by
  by_cases hk : k' = k
  · rw [hk, AList.lookup_erase]
    simp
  · rw [AList.lookup_erase_ne hk]
    simp [hk]

/-- A value of the map is the value of some key. -/
theorem mem_values {m : GoMap K V} {v : V} :
    v ∈ values m ↔ ∃ k, m.lookup k = some v := by
  rw [mem_values_iff_entry]
  constructor
  · rintro ⟨k, hk⟩
    exact ⟨k, AList.mem_lookup_iff.mpr hk⟩
  · rintro ⟨k, hk⟩
    exact ⟨k, AList.mem_lookup_iff.mp hk⟩

/-- When every value names its own key, the names of the values are the keys. -/
theorem map_values_eq_keys {m : GoMap K V} {f : V → K}
    (h : ∀ k v, m.lookup k = some v → f v = k) : (values m).map f = m.keys := by
  rw [values, List.map_map, AList.keys, List.keys]
  exact List.map_congr_left (fun e he => h e.1 e.2 (AList.mem_lookup_iff.mpr he))

/-- The entry of a present key, and the other entries. -/
theorem entries_perm_of_lookup {m : GoMap K V} {k : K} {v : V} (h : m.lookup k = some v) :
    m.entries.Perm (⟨k, v⟩ :: (m.erase k).entries) := by
  have hmem : (⟨k, v⟩ : Sigma fun _ : K => V) ∈ m.entries := AList.mem_lookup_iff.mp h
  have hkey : k ∈ m.entries.keys := List.mem_keys_of_mem hmem
  obtain ⟨v', l₁, l₂, -, hl, he⟩ := List.exists_of_kerase hkey
  have hv : v' = v := by
    have hmem' : (⟨k, v'⟩ : Sigma fun _ : K => V) ∈ m.entries := by
      rw [hl]
      exact List.mem_append.mpr (Or.inr (List.mem_cons_self ..))
    exact Option.some.inj ((AList.mem_lookup_iff.mpr hmem').symm.trans h)
  subst hv
  have herase : (m.erase k).entries = l₁ ++ l₂ := he
  rw [herase, hl]
  exact List.perm_middle

/-- Overwriting a present key changes a sum over the entries by that entry alone. -/
theorem sum_entries_insert {m : GoMap K V} {k : K} {v : V} (h : m.lookup k = some v)
    (v' : V) (f : (Sigma fun _ : K => V) → Int) :
    (((m.insert k v').entries).map f).sum = (m.entries.map f).sum - f ⟨k, v⟩ + f ⟨k, v'⟩ := by
  have hold := ((entries_perm_of_lookup h).map f).sum_eq
  have hnew : (m.insert k v').entries = ⟨k, v'⟩ :: (m.erase k).entries :=
    AList.entries_insert
  rw [hnew, hold, List.map_cons, List.map_cons, List.sum_cons, List.sum_cons]
  omega

/-- Writing a key, present or not, replaces what it contributes to a sum. -/
theorem sum_entries_write (m : GoMap K V) (k : K) (v' : V)
    (f : (Sigma fun _ : K => V) → Int) :
    (((m.insert k v').entries).map f).sum
      = (m.entries.map f).sum - (m.lookup k).elim 0 (fun v => f ⟨k, v⟩) + f ⟨k, v'⟩ := by
  cases h : m.lookup k with
  | some v => exact sum_entries_insert h v' f
  | none =>
      rw [AList.entries_insert_of_notMem (AList.lookup_eq_none.mp h), List.map_cons, List.sum_cons,
        Option.elim_none]
      omega

/-- An entry of an overwritten map is the new one or an old one. -/
theorem mem_entries_insert {m : GoMap K V} {k : K} {v : V} {e : Sigma fun _ : K => V}
    (h : e ∈ (m.insert k v).entries) : e = ⟨k, v⟩ ∨ e ∈ m.entries := by
  have hnew : (m.insert k v).entries = ⟨k, v⟩ :: (m.erase k).entries := AList.entries_insert
  rw [hnew] at h
  rcases List.mem_cons.mp h with h | h
  · exact Or.inl h
  · exact Or.inr ((List.kerase_sublist _ _).subset h)

/-- The map with one key only. -/
def keepOnly (m : GoMap K V) (k : K) : GoMap K V :=
  match m.lookup k with
  | none => ∅
  | some v => (∅ : GoMap K V).insert k v

@[simp] theorem lookup_keepOnly_self (m : GoMap K V) (k : K) :
    (keepOnly m k).lookup k = m.lookup k := by
  rw [keepOnly]
  cases m.lookup k with
  | none => rfl
  | some v => exact AList.lookup_insert _

theorem lookup_keepOnly_ne (m : GoMap K V) {k k' : K} (h : k' ≠ k) :
    (keepOnly m k).lookup k' = none := by
  rw [keepOnly]
  cases m.lookup k with
  | none => rfl
  | some v => exact AList.lookup_insert_ne h

/-! ## A map with every value replaced -/

/-- The entry with its value replaced. -/
def mapEntry (f : V → W) (e : Sigma fun _ : K => V) : Sigma fun _ : K => W := ⟨e.1, f e.2⟩

omit [DecidableEq K] in
theorem keys_map_mapEntry (f : V → W) (l : List (Sigma fun _ : K => V)) :
    (l.map (mapEntry f)).keys = l.keys := by
  rw [List.keys, List.map_map]
  rfl

/-- The map with every value replaced. -/
def mapValues (f : V → W) (m : GoMap K V) : GoMap K W :=
  ⟨m.entries.map (mapEntry f), by
    rw [List.NodupKeys, keys_map_mapEntry]
    exact m.nodupKeys⟩

omit [DecidableEq K] in
@[simp] theorem keys_mapValues (f : V → W) (m : GoMap K V) : (mapValues f m).keys = m.keys :=
  keys_map_mapEntry f m.entries

omit [DecidableEq K] in
theorem mapValues_congr {f g : V → W} {m : GoMap K V} (h : ∀ v ∈ values m, f v = g v) :
    mapValues f m = mapValues g m := by
  refine AList.ext (List.map_congr_left (fun e he => ?_))
  rw [mapEntry, mapEntry, h e.2 (List.mem_map_of_mem he)]

theorem lookup_mapValues (f : V → W) (m : GoMap K V) (k : K) :
    (mapValues f m).lookup k = (m.lookup k).map f := by
  show (m.entries.map (mapEntry f)).dlookup k = (m.entries.dlookup k).map f
  induction m.entries with
  | nil => rfl
  | cons e l ih =>
      rw [List.map_cons]
      by_cases hk : k = e.1
      · subst hk
        rw [List.dlookup_cons_eq]
        exact List.dlookup_cons_eq _ _ _
      · rw [List.dlookup_cons_ne l e hk, ← ih]
        exact List.dlookup_cons_ne _ (mapEntry f e) hk

theorem mapValues_insert (f : V → W) (m : GoMap K V) (k : K) (v : V) :
    mapValues f (m.insert k v) = (mapValues f m).insert k (f v) := by
  have herase : ∀ l : List (Sigma fun _ : K => V),
      (l.kerase k).map (mapEntry f) = (l.map (mapEntry f)).kerase k := by
    intro l
    induction l with
    | nil => rfl
    | cons e l ih =>
        rw [List.map_cons]
        by_cases hk : k = e.1
        · rw [List.kerase_cons_eq hk, List.kerase_cons_eq (s := mapEntry f e) hk]
        · rw [List.kerase_cons_ne hk, List.kerase_cons_ne (s := mapEntry f e) hk, List.map_cons,
            ih]
  exact AList.ext (congrArg (List.cons _) (herase m.entries))

/-! ## Maps of maps -/

/-- The inner map of a key; empty when the key is absent. -/
def inner (m : GoMap K (GoMap L V)) (k : K) : GoMap L V := (m.lookup k).getD ∅

/-- `m[k][l]`. -/
def lookupIn (m : GoMap K (GoMap L V)) (k : K) (l : L) : Option V :=
  (inner m k).lookup l

/-- `m[k][l] = v`, creating the inner map when it is missing. -/
def insertIn (m : GoMap K (GoMap L V)) (k : K) (l : L) (v : V) : GoMap K (GoMap L V) :=
  m.insert k ((inner m k).insert l v)

/-- `delete(m[k], l)`, dropping the inner map when it becomes empty. -/
def deleteIn (m : GoMap K (GoMap L V)) (k : K) (l : L) : GoMap K (GoMap L V) :=
  match m.lookup k with
  | none => m
  | some im =>
      if (im.erase l).entries.isEmpty then m.erase k else m.insert k (im.erase l)

omit [DecidableEq L] in
theorem inner_insert_self (m : GoMap K (GoMap L V)) (k : K) (im : GoMap L V) :
    inner (m.insert k im) k = im := by
  rw [inner, AList.lookup_insert]
  rfl

omit [DecidableEq L] in
theorem inner_insert_ne (m : GoMap K (GoMap L V)) {k k' : K} (im : GoMap L V)
    (h : k' ≠ k) : inner (m.insert k im) k' = inner m k' := by
  rw [inner, AList.lookup_insert_ne h, inner]

theorem inner_insertIn_self (m : GoMap K (GoMap L V)) (k : K) (l : L) (v : V) :
    inner (insertIn m k l v) k = (inner m k).insert l v :=
  inner_insert_self m k _

theorem inner_insertIn_ne (m : GoMap K (GoMap L V)) {k k' : K} (l : L) (v : V)
    (h : k' ≠ k) : inner (insertIn m k l v) k' = inner m k' :=
  inner_insert_ne m _ h

/-- Deleting leaves the inner map of the key with the entry erased. -/
theorem inner_deleteIn_self (m : GoMap K (GoMap L V)) (k : K) (l : L) :
    inner (deleteIn m k l) k = (inner m k).erase l := by
  rw [deleteIn]
  cases hm : m.lookup k with
  | none =>
      rw [inner, hm]
      exact AList.ext rfl
  | some im =>
      have hin : inner m k = im := by rw [inner, hm]; rfl
      by_cases he : (im.erase l).entries.isEmpty = true
      · simp only [he, if_true]
        rw [inner, AList.lookup_erase, hin]
        exact AList.ext (List.isEmpty_iff.mp he).symm
      · simp only [he]
        rw [hin]
        exact inner_insert_self m k _

theorem inner_deleteIn_ne (m : GoMap K (GoMap L V)) {k k' : K} (l : L)
    (h : k' ≠ k) : inner (deleteIn m k l) k' = inner m k' := by
  rw [deleteIn]
  cases hm : m.lookup k with
  | none => rfl
  | some im =>
      by_cases he : (im.erase l).entries.isEmpty = true
      · simp only [he, if_true]
        rw [inner, AList.lookup_erase_ne h, inner]
      · simp only [he]
        exact inner_insert_ne m _ h

@[simp] theorem lookupIn_insertIn_self (m : GoMap K (GoMap L V)) (k : K) (l : L) (v : V) :
    lookupIn (insertIn m k l v) k l = some v := by
  rw [lookupIn, inner_insertIn_self, AList.lookup_insert]

theorem lookupIn_insertIn_ne (m : GoMap K (GoMap L V)) {k k' : K} {l l' : L} (v : V)
    (h : k' ≠ k ∨ l' ≠ l) : lookupIn (insertIn m k l v) k' l' = lookupIn m k' l' := by
  by_cases hk : k' = k
  · subst hk
    have hl : l' ≠ l := h.resolve_left (fun hne => hne rfl)
    rw [lookupIn, inner_insertIn_self, AList.lookup_insert_ne hl, lookupIn]
  · rw [lookupIn, inner_insertIn_ne m l v hk, lookupIn]

@[simp] theorem lookupIn_deleteIn_self (m : GoMap K (GoMap L V)) (k : K) (l : L) :
    lookupIn (deleteIn m k l) k l = none := by
  rw [lookupIn, inner_deleteIn_self, AList.lookup_erase]

theorem lookupIn_deleteIn_ne (m : GoMap K (GoMap L V)) {k k' : K} {l l' : L}
    (h : k' ≠ k ∨ l' ≠ l) : lookupIn (deleteIn m k l) k' l' = lookupIn m k' l' := by
  by_cases hk : k' = k
  · subst hk
    have hl : l' ≠ l := h.resolve_left (fun hne => hne rfl)
    rw [lookupIn, inner_deleteIn_self, AList.lookup_erase_ne hl, lookupIn]
  · rw [lookupIn, inner_deleteIn_ne m l hk, lookupIn]

@[simp] theorem lookupIn_empty (k : K) (l : L) :
    lookupIn (∅ : GoMap K (GoMap L V)) k l = none := rfl

/-! ## Maps of counters -/

/-- `m[k]` on a map of integers: the zero value when the key is absent. -/
def counter (m : GoMap K Int) (k : K) : Int := (m.lookup k).getD 0

/-- `m[k] += n`. -/
def addTo (m : GoMap K Int) (k : K) (n : Int) : GoMap K Int :=
  m.insert k (counter m k + n)

@[simp] theorem counter_addTo_self (m : GoMap K Int) (k : K) (n : Int) :
    counter (addTo m k n) k = counter m k + n := by
  rw [addTo, counter, AList.lookup_insert]
  rfl

theorem counter_addTo_ne (m : GoMap K Int) {k k' : K} (n : Int) (h : k' ≠ k) :
    counter (addTo m k n) k' = counter m k' := by
  rw [addTo, counter, AList.lookup_insert_ne h, counter]

variable {α : Type}

/-- Tally a list: one `+=` per element. -/
def tally (key : α → K) (amount : α → Int) (l : List α) : GoMap K Int :=
  l.foldl (fun m a => addTo m (key a) (amount a)) ∅

/-- The sum of the amounts of the elements with a given key. -/
def sumOf (key : α → K) (amount : α → Int) (k : K) (l : List α) : Int :=
  ((l.filter (fun a => key a = k)).map amount).sum

@[simp] theorem sumOf_nil (key : α → K) (amount : α → Int) (k : K) :
    sumOf key amount k [] = 0 := rfl

theorem sumOf_cons (key : α → K) (amount : α → Int) (k : K) (a : α) (l : List α) :
    sumOf key amount k (a :: l)
      = (if key a = k then amount a else 0) + sumOf key amount k l := by
  by_cases h : key a = k
  · simp [sumOf, h]
  · simp [sumOf, h]

theorem sumOf_append (key : α → K) (amount : α → Int) (k : K) (l l' : List α) :
    sumOf key amount k (l ++ l') = sumOf key amount k l + sumOf key amount k l' := by
  simp [sumOf]

theorem sumOf_perm (key : α → K) (amount : α → Int) (k : K) {l l' : List α}
    (h : l.Perm l') : sumOf key amount k l = sumOf key amount k l' :=
  List.Perm.sum_eq ((h.filter _).map _)

/-- A key that does not occur sums to nothing. -/
theorem sumOf_eq_zero {key : α → K} {amount : α → Int} {k : K} {l : List α}
    (h : ∀ a ∈ l, key a ≠ k) : sumOf key amount k l = 0 := by
  have hnil : l.filter (fun a => key a = k) = [] :=
    List.filter_eq_nil_iff.mpr (fun a ha => by simpa using h a ha)
  rw [sumOf, hnil]
  rfl

theorem sumOf_nonneg {key : α → K} {amount : α → Int} {k : K} {l : List α}
    (h : ∀ a ∈ l, 0 ≤ amount a) : 0 ≤ sumOf key amount k l := by
  refine List.sum_nonneg ?_
  intro x hx
  obtain ⟨a, ha, rfl⟩ := List.mem_map.mp hx
  exact h a (List.mem_of_mem_filter ha)

/-- One element is at most the sum of its key. -/
theorem le_sumOf_of_mem {key : α → K} {amount : α → Int} {l : List α} {a : α}
    (ha : a ∈ l) (h : ∀ a ∈ l, 0 ≤ amount a) : amount a ≤ sumOf key amount (key a) l := by
  induction l with
  | nil => cases ha
  | cons b l ih =>
      have hl : ∀ a ∈ l, 0 ≤ amount a := fun a ha => h a (List.mem_cons_of_mem _ ha)
      have hrest : 0 ≤ sumOf key amount (key a) l := sumOf_nonneg hl
      rw [sumOf_cons]
      rcases List.mem_cons.mp ha with rfl | ha
      · rw [if_pos rfl]
        omega
      · have hle := ih ha hl
        have hb := h b (List.mem_cons_self ..)
        split_ifs <;> omega

private theorem counter_foldl_addTo (key : α → K) (amount : α → Int) (k : K)
    (l : List α) (m : GoMap K Int) :
    counter (l.foldl (fun m a => addTo m (key a) (amount a)) m) k
      = counter m k + sumOf key amount k l := by
  induction l generalizing m with
  | nil => simp
  | cons a l ih =>
      rw [List.foldl_cons, ih, sumOf_cons]
      by_cases h : key a = k
      · subst h
        rw [counter_addTo_self, if_pos rfl, Int.add_assoc]
      · rw [counter_addTo_ne m _ (Ne.symm h), if_neg h, Int.zero_add]

/-- A tally holds, at each key, the sum of the amounts of that key. -/
theorem counter_tally (key : α → K) (amount : α → Int) (k : K) (l : List α) :
    counter (tally key amount l) k = sumOf key amount k l := by
  rw [tally, counter_foldl_addTo]
  exact Int.zero_add _

end GoMaps
