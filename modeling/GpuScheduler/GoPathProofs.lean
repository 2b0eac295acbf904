import GpuScheduler.GoStringsProofs

/-! # Slash-separated paths

    `strings.Split` and `strings.Join` at a slash, `strings.TrimPrefix`, and the cleaning that
    an `http.ServeMux` applies to a path before it looks for a handler.  Splitting and joining
    are inverse, and cleaning leaves a path alone exactly when no segment is empty, a dot or
    two dots (`cleanPath_rooted_iff`). -/

namespace GoPath

open GoStrings

/-- `strings.Split(s, "/")`. -/
def split (s : String) : List String := (s.toList.splitOn '/').map String.ofList

/-- `strings.Join(parts, "/")`. -/
def join (parts : List String) : String :=
  String.ofList (['/'].intercalate (parts.map String.toList))

/-- `strings.TrimPrefix`. -/
def trimPrefix (s pre : String) : String :=
  if startsWith s pre then String.ofList (s.toList.drop pre.toList.length) else s

/-- `path.Clean` of a rooted path, one segment: two dots undo the segment before. -/
def keep (kept : List String) (part : String) : List String :=
  if part = "" ∨ part = "." then kept
  else if part = ".." then kept.dropLast
  else kept ++ [part]

/-- The segments that `path.Clean` keeps of a rooted path. -/
def resolve (parts : List String) : List String := parts.foldl keep []

/-- `cleanPath` of the server: `path.Clean`, with a final slash put back. -/
def cleanPath (p : String) : String :=
  if p = "" then "/"
  else
    let np := "/" ++ join (resolve (split p))
    if p.toList.getLast? = some '/' ∧ np ≠ "/" then np ++ "/" else np

/-! ## Splitting and joining -/

theorem trimPrefix_append (pre rest : String) : trimPrefix (pre ++ rest) pre = rest := by
  have hstarts : startsWith (pre ++ rest) pre = true :=
    startsWith_iff.mpr ⟨rest.toList, String.toList_append ..⟩
  rw [trimPrefix, if_pos hstarts, String.toList_append, List.drop_left, String.ofList_toList]

theorem map_toList_split (s : String) : (split s).map String.toList = s.toList.splitOn '/' := by
  rw [split, List.map_map]
  exact (List.map_congr_left (fun l _ => String.toList_ofList)).trans (List.map_id _)

theorem split_ne_nil (s : String) : split s ≠ [] := by
  intro h
  exact List.splitOn_ne_nil _ _ (List.map_eq_nil_iff.mp h)

@[simp] theorem join_split (s : String) : join (split s) = s := by
  rw [join, map_toList_split, List.intercalate_splitOn, String.ofList_toList]

/-- Splitting what two texts and a slash make splits the two. -/
@[simp] theorem split_append (a b : String) : split (a ++ "/" ++ b) = split a ++ split b := by
  have hlist : (a ++ "/" ++ b).toList = a.toList ++ '/' :: b.toList := by simp
  rw [split, hlist, List.splitOn_append_cons_self, List.map_append]
  rfl

theorem split_of_not_mem {s : String} (h : '/' ∉ s.toList) : split s = [s] := by
  rw [split, List.splitOn_eq_singleton h, List.map_singleton, String.ofList_toList]

/-- No segment has a slash. -/
theorem not_mem_of_mem_splitOn {cs part : List Char} (h : part ∈ cs.splitOn '/') :
    '/' ∉ part := by
  induction cs generalizing part with
  | nil =>
      rw [List.splitOn_nil, List.mem_singleton] at h
      rw [h]
      exact List.not_mem_nil
  | cons c cs ih =>
      rw [List.splitOn_cons_eq_if_modifyHead] at h
      split_ifs at h with hc
      · rcases List.mem_cons.mp h with rfl | h
        · exact List.not_mem_nil
        · exact ih h
      · -- the first segment grows by a character that is no slash
        cases hsplit : cs.splitOn '/' with
        | nil => exact absurd hsplit (List.splitOn_ne_nil _ _)
        | cons first rest =>
            rw [hsplit] at h ih
            rcases List.mem_cons.mp h with rfl | h
            · intro hmem
              rcases List.mem_cons.mp hmem with rfl | hmem
              · exact hc (beq_self_eq_true _)
              · exact ih (List.mem_cons_self ..) hmem
            · exact ih (List.mem_cons_of_mem _ h)

theorem not_mem_of_mem_split {s part : String} (h : part ∈ split s) : '/' ∉ part.toList := by
  have hmem : part.toList ∈ s.toList.splitOn '/' := by
    rw [← map_toList_split]
    exact List.mem_map_of_mem h
  exact not_mem_of_mem_splitOn hmem

theorem split_join {parts : List String} (hne : parts ≠ [])
    (h : ∀ part ∈ parts, '/' ∉ part.toList) : split (join parts) = parts := by
  have hsplit : (['/'].intercalate (parts.map String.toList)).splitOn '/'
      = parts.map String.toList := by
    refine List.splitOn_intercalate '/' (fun l hl => ?_) (fun hnil => ?_)
    · obtain ⟨part, hpart, rfl⟩ := List.mem_map.mp hl
      exact h part hpart
    · exact hne (List.map_eq_nil_iff.mp hnil)
  rw [split, join, String.toList_ofList, hsplit, List.map_map]
  exact (List.map_congr_left (fun s _ => String.ofList_toList)).trans (List.map_id _)

/-! ## Cleaning -/

/-- A segment that cleaning keeps. -/
def Proper (part : String) : Prop := part ≠ "" ∧ part ≠ "." ∧ part ≠ ".."

instance (part : String) : Decidable (Proper part) := inferInstanceAs (Decidable (_ ∧ _ ∧ _))

/-- What is kept was a proper segment of the path. -/
theorem proper_of_mem_resolve {parts : List String} {part : String}
    (h : part ∈ resolve parts) : Proper part ∧ part ∈ parts := by
  have hinv : ∀ parts kept : List String, part ∈ parts.foldl keep kept →
      part ∈ kept ∨ (Proper part ∧ part ∈ parts) := by
    intro parts
    induction parts with
    | nil => exact fun kept h => Or.inl h
    | cons p parts ih =>
        intro kept h
        rcases ih _ h with h' | ⟨hproper, hmem⟩
        · rw [keep] at h'
          split_ifs at h' with hdot hdots
          · exact Or.inl h'
          · exact Or.inl (List.mem_of_mem_dropLast h')
          · rcases List.mem_append.mp h' with h' | h'
            · exact Or.inl h'
            · obtain rfl := List.mem_singleton.mp h'
              exact Or.inr ⟨⟨fun he => hdot (Or.inl he), fun he => hdot (Or.inr he), hdots⟩,
                List.mem_cons_self ..⟩
        · exact Or.inr ⟨hproper, List.mem_cons_of_mem _ hmem⟩
  exact (hinv parts [] h).resolve_left List.not_mem_nil

/-- Proper segments are all kept, in order. -/
theorem resolve_of_proper {parts : List String} (h : ∀ part ∈ parts, Proper part) :
    resolve parts = parts := by
  have hkeep : ∀ parts kept : List String, (∀ part ∈ parts, Proper part) →
      parts.foldl keep kept = kept ++ parts := by
    intro parts
    induction parts with
    | nil => exact fun kept _ => (List.append_nil kept).symm
    | cons p parts ih =>
        intro kept hp
        obtain ⟨hempty, hdot, hdots⟩ := hp p (List.mem_cons_self ..)
        rw [List.foldl_cons, keep, if_neg (not_or.mpr ⟨hempty, hdot⟩), if_neg hdots,
          ih _ (fun q hq => hp q (List.mem_cons_of_mem _ hq)), List.append_assoc]
        rfl
  exact (hkeep parts [] h).trans (List.nil_append parts)

theorem resolve_empty_cons (parts : List String) : resolve ("" :: parts) = resolve parts := rfl

theorem split_rooted (rest : String) : split ("/" ++ rest) = "" :: split rest := by
  have h := split_append "" rest
  rw [String.empty_append] at h
  exact h.trans rfl

/-- The last segment is empty exactly behind a final slash. -/
theorem getLast?_rooted {rest : String} (h : "" ∉ (split rest).getLast?) :
    ("/" ++ rest).toList.getLast? ≠ some '/' := by
  intro hlast
  rcases List.eq_nil_or_concat rest.toList with hnil | ⟨init, c, hc⟩
  · have hrest : rest = "" := String.toList_inj.mp hnil
    rw [hrest] at h
    exact h rfl
  · have hend : ("/" ++ rest).toList = ('/' :: init) ++ [c] := by
      rw [String.toList_append, hc, List.concat_eq_append]
      rfl
    rw [hend, List.getLast?_concat] at hlast
    have hsplit : split rest = (init.splitOn '/').map String.ofList ++ [""] := by
      rw [split, hc, Option.some.inj hlast, List.concat_eq_append,
        List.splitOn_append_cons_self, List.map_append]
      rfl
    rw [hsplit, List.getLast?_concat] at h
    exact h rfl

/-- **CLEANING** leaves a rooted path without a final slash alone exactly when all its
    segments are proper. -/
theorem cleanPath_rooted_iff {rest : String} (h : "" ∉ (split rest).getLast?) :
    cleanPath ("/" ++ rest) = "/" ++ rest ↔ ∀ part ∈ split rest, Proper part := by
  have hne : "/" ++ rest ≠ "" := by
    intro he
    have hnil := congrArg String.toList he
    rw [String.toList_append] at hnil
    cases hnil
  have hclean : cleanPath ("/" ++ rest) = "/" ++ join (resolve (split rest)) := by
    rw [cleanPath, if_neg hne]
    simp only [split_rooted, resolve_empty_cons]
    rw [if_neg (fun hand => getLast?_rooted h hand.1)]
  rw [hclean]
  constructor
  · intro heq
    have hjoin : join (resolve (split rest)) = rest := by
      have hl := congrArg String.toList heq
      rw [String.toList_append, String.toList_append] at hl
      exact String.toList_inj.mp (List.append_cancel_left hl)
    have hresolve : resolve (split rest) ≠ [] := by
      intro hnil
      rw [hnil] at hjoin
      rw [← hjoin] at h
      exact h rfl
    have hsame := split_join hresolve
      (fun part hp => not_mem_of_mem_split (proper_of_mem_resolve hp).2)
    rw [hjoin] at hsame
    intro part hpart
    rw [hsame] at hpart
    exact (proper_of_mem_resolve hpart).1
  · intro hproper
    rw [resolve_of_proper hproper, join_split]

example : cleanPath "/v1//runs/../workloads/./a/" = "/v1/workloads/a/" := by decide +kernel

end GoPath
