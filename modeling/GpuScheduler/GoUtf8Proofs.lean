import GpuScheduler.GoStringsProofs

/-! # Strings as bytes

    A Go string is any sequence of bytes.  The functions that look at its characters
    decode it as UTF-8 on the way; a byte that belongs to no well-formed sequence counts as
    the character U+FFFD, one byte wide.  `segments` is what such a function sees: the
    characters, each with its bytes.

    What is encoded is read back (`segments_encode`), and a string that is cut between two
    characters is read as before (`segments_part`), so that a chain of such
    functions can be followed on the characters alone. -/

namespace GoUtf8

open GoStrings

/-- `utf8.RuneError`. -/
def runeError : Char := Char.ofNat 0xFFFD

/-- The length of the sequence that a byte starts; zero for a byte that starts none. -/
def size (b : UInt8) : Nat :=
  if b.toNat < 0x80 then 1
  else if b.toNat < 0xC2 then 0
  else if b.toNat < 0xE0 then 2
  else if b.toNat < 0xF0 then 3
  else if b.toNat < 0xF5 then 4
  else 0

/-- The second bytes that may follow a first byte: `acceptRanges`.  The narrower ranges leave out
    overlong forms, surrogates and what is above the last code point. -/
def accepts (b b₁ : UInt8) : Bool :=
  decide ((if b.toNat = 0xE0 then 0xA0 else if b.toNat = 0xF0 then 0x90 else 0x80) ≤ b₁.toNat)
    && decide (b₁.toNat ≤ if b.toNat = 0xED then 0x9F else if b.toNat = 0xF4 then 0x8F else 0xBF)

/-- A continuation byte. -/
def continues (b : UInt8) : Bool := decide (0x80 ≤ b.toNat) && decide (b.toNat ≤ 0xBF)

/-- The character of a first byte and the bytes after it, if they make a sequence. -/
def sequence (b : UInt8) : List UInt8 → Option Char
  | [] => if size b = 1 then some (Char.ofNat b.toNat) else none
  | [b₁] =>
      if size b = 2 ∧ accepts b b₁ then
        some (Char.ofNat (b.toNat % 32 * 64 + b₁.toNat % 64))
      else none
  | [b₁, b₂] =>
      if size b = 3 ∧ accepts b b₁ ∧ continues b₂ then
        some (Char.ofNat (b.toNat % 16 * 4096 + b₁.toNat % 64 * 64 + b₂.toNat % 64))
      else none
  | [b₁, b₂, b₃] =>
      if size b = 4 ∧ accepts b b₁ ∧ continues b₂ ∧ continues b₃ then
        some (Char.ofNat (b.toNat % 8 * 262144 + b₁.toNat % 64 * 4096 + b₂.toNat % 64 * 64
          + b₃.toNat % 64))
      else none
  | _ => none

/-- `utf8.DecodeRune`: the first character of a string, and its width. -/
def decodeRune (b : UInt8) (rest : List UInt8) : Char × Nat :=
  match sequence b (rest.take (size b - 1)) with
  | some c => (c, size b)
  | none => (runeError, 1)

/-- `utf8.AppendRune`. -/
def encodeRune (c : Char) : List UInt8 :=
  let n := c.toNat
  if n < 0x80 then [UInt8.ofNat n]
  else if n < 0x800 then [UInt8.ofNat (0xC0 + n / 64), UInt8.ofNat (0x80 + n % 64)]
  else if n < 0x10000 then
    [UInt8.ofNat (0xE0 + n / 4096), UInt8.ofNat (0x80 + n / 64 % 64),
      UInt8.ofNat (0x80 + n % 64)]
  else
    [UInt8.ofNat (0xF0 + n / 262144), UInt8.ofNat (0x80 + n / 4096 % 64),
      UInt8.ofNat (0x80 + n / 64 % 64), UInt8.ofNat (0x80 + n % 64)]

/-- The characters of at most so many, each with its bytes. -/
def segmentsFrom : Nat → List UInt8 → List (Char × List UInt8)
  | 0, _ => []
  | _, [] => []
  | fuel + 1, b :: rest =>
      ((decodeRune b rest).1, (b :: rest).take (decodeRune b rest).2)
        :: segmentsFrom fuel ((b :: rest).drop (decodeRune b rest).2)

/-- What `for range` sees of a string.  Every character has a byte, so there are no more
    characters than bytes. -/
def segments (s : List UInt8) : List (Char × List UInt8) := segmentsFrom s.length s

/-- The characters of a string. -/
def runes (s : List UInt8) : List Char := (segments s).map Prod.fst

/-- A string of characters. -/
def encode (cs : List Char) : List UInt8 := cs.flatMap encodeRune

/-- `strings.TrimSpace`. -/
def trimSpaceBytes (s : List UInt8) : List UInt8 :=
  (((segments s).dropWhile (fun e => isSpace e.1)).rdropWhile (fun e => isSpace e.1)).flatMap
    Prod.snd

/-- `strings.ToLower`; what is not well-formed comes out as U+FFFD. -/
def toLowerBytes (s : List UInt8) : List UInt8 := encode ((runes s).map toLowerRune)

/-! ## Decoding -/

/-- A sequence is as long as its first byte says. -/
theorem size_of_sequence {b : UInt8} {more : List UInt8} {c : Char}
    (h : sequence b more = some c) : size b = more.length + 1 := by
  rcases more with _ | ⟨b₁, _ | ⟨b₂, _ | ⟨b₃, _ | ⟨b₄, more⟩⟩⟩⟩
  · simp only [sequence] at h
    split_ifs at h with hsize
    exact hsize
  · simp only [sequence] at h
    split_ifs at h with hsize
    exact hsize.1
  · simp only [sequence] at h
    split_ifs at h with hsize
    exact hsize.1
  · simp only [sequence] at h
    split_ifs at h with hsize
    exact hsize.1
  · simp only [sequence] at h
    cases h

/-- A string that begins with a sequence begins with its character. -/
theorem decodeRune_of_sequence {b : UInt8} {more : List UInt8} {c : Char}
    (h : sequence b more = some c) (rest : List UInt8) :
    decodeRune b (more ++ rest) = (c, more.length + 1) := by
  have hsize := size_of_sequence h
  have htake : (more ++ rest).take (size b - 1) = more := by
    rw [hsize, Nat.add_sub_cancel, List.take_left]
  rw [decodeRune, htake, h, hsize]

/-- A character is a sequence at the front, or a single byte that begins none. -/
theorem decodeRune_cases (b : UInt8) (rest : List UInt8) :
    (∃ more after c, rest = more ++ after ∧ sequence b more = some c
        ∧ decodeRune b rest = (c, more.length + 1))
      ∨ (sequence b (rest.take (size b - 1)) = none ∧ decodeRune b rest = (runeError, 1)) := by
  cases h : sequence b (rest.take (size b - 1)) with
  | none =>
      right
      rw [decodeRune, h]
      exact ⟨rfl, rfl⟩
  | some c =>
      left
      refine ⟨rest.take (size b - 1), rest.drop (size b - 1), c,
        (List.take_append_drop _ _).symm, h, ?_⟩
      rw [decodeRune, h, ← size_of_sequence h]

theorem width_pos (b : UInt8) (rest : List UInt8) : 0 < (decodeRune b rest).2 := by
  obtain ⟨more, after, c, -, -, heq⟩ | ⟨-, heq⟩ := decodeRune_cases b rest
  · rw [heq]
    exact Nat.succ_pos _
  · rw [heq]
    exact Nat.one_pos

theorem width_le (b : UInt8) (rest : List UInt8) : (decodeRune b rest).2 ≤ rest.length + 1 := by
  obtain ⟨more, after, c, rfl, -, heq⟩ | ⟨-, heq⟩ := decodeRune_cases b rest
  · rw [heq, List.length_append]
    exact Nat.succ_le_succ (Nat.le_add_right _ _)
  · rw [heq]
    exact Nat.succ_le_succ (Nat.zero_le _)

/-- A string cut behind its first character begins with the same one. -/
theorem decodeRune_cut {b : UInt8} {front back : List UInt8}
    (h : (decodeRune b (front ++ back)).2 ≤ front.length + 1) :
    decodeRune b front = decodeRune b (front ++ back) := by
  obtain ⟨more, after, c, hsplit, hseq, heq⟩ | ⟨hnone, heq⟩ := decodeRune_cases b (front ++ back)
  · rw [heq] at h ⊢
    have hfront : ∃ rest, front = more ++ rest := by
      have hpre : more <+: front ++ back := ⟨after, hsplit.symm⟩
      obtain ⟨rest, hrest⟩ := List.prefix_of_prefix_length_le hpre (List.prefix_append _ _)
        (Nat.le_of_succ_le_succ h)
      exact ⟨rest, hrest.symm⟩
    obtain ⟨rest, rfl⟩ := hfront
    exact decodeRune_of_sequence hseq rest
  · -- a sequence in the shorter string would be there in the longer one as well
    rw [heq]
    have hnone' : sequence b (front.take (size b - 1)) = none := by
      cases hseq : sequence b (front.take (size b - 1)) with
      | none => rfl
      | some c =>
          have hlen := size_of_sequence hseq
          rw [List.length_take] at hlen
          rw [List.take_append_of_le_length (by omega), hseq] at hnone
          cases hnone
    rw [decodeRune, hnone']

/-! ## Segments -/

/-- More room than bytes changes nothing. -/
theorem segmentsFrom_eq {fuel : Nat} :
    ∀ s : List UInt8, s.length ≤ fuel → segmentsFrom fuel s = segments s := by
  have hroom : ∀ (n m : Nat) (s : List UInt8), s.length ≤ n → s.length ≤ m →
      segmentsFrom n s = segmentsFrom m s := by
    intro n
    induction n with
    | zero =>
        intro m s hn _
        rw [List.length_eq_zero_iff.mp (Nat.le_zero.mp hn)]
        cases m with
        | zero => rfl
        | succ m => rfl
    | succ n ih =>
        intro m s hn hm
        cases s with
        | nil =>
            cases m with
            | zero => rfl
            | succ m => rfl
        | cons b rest =>
            cases m with
            | zero => cases hm
            | succ m =>
                have hpos := width_pos b rest
                rw [segmentsFrom, segmentsFrom, ih m]
                · rw [List.length_drop, List.length_cons] at *
                  omega
                · rw [List.length_drop, List.length_cons] at *
                  omega
  exact fun s hs => hroom fuel s.length s hs (Nat.le_refl _)

/-- The first character, and the rest. -/
theorem segments_cons (b : UInt8) (rest : List UInt8) :
    segments (b :: rest)
      = ((decodeRune b rest).1, (b :: rest).take (decodeRune b rest).2)
        :: segments ((b :: rest).drop (decodeRune b rest).2) := by
  have hpos := width_pos b rest
  rw [segments, List.length_cons, segmentsFrom, segmentsFrom_eq]
  rw [List.length_drop, List.length_cons]
  omega

/-- A string that begins with a sequence. -/
theorem segments_of_sequence {b : UInt8} {more : List UInt8} {c : Char}
    (h : sequence b more = some c) (rest : List UInt8) :
    segments (b :: (more ++ rest)) = (c, b :: more) :: segments rest := by
  rw [segments_cons, decodeRune_of_sequence h, List.take_succ_cons, List.drop_succ_cons,
    List.take_left, List.drop_left]

/-- A string without bytes is one without characters. -/
theorem segments_eq_nil_iff (s : List UInt8) : segments s = [] ↔ s = [] := by
  cases s with
  | nil => exact ⟨fun _ => rfl, fun _ => rfl⟩
  | cons b rest =>
      rw [segments_cons]
      exact ⟨fun h => absurd h (List.cons_ne_nil _ _), fun h => absurd h (List.cons_ne_nil _ _)⟩

/-- What is left of the characters is what is left of the string. -/
theorem exists_of_suffix {s : List UInt8} {later : List (Char × List UInt8)}
    (h : later <:+ segments s) : ∃ t, later = segments t := by
  induction hn : s.length using Nat.strong_induction_on generalizing s with
  | _ n ih =>
      cases s with
      | nil => exact ⟨[], List.suffix_nil.mp h⟩
      | cons b rest =>
          rw [segments_cons] at h
          rcases List.suffix_cons_iff.mp h with heq | hlater
          · exact ⟨b :: rest, by rw [segments_cons, heq]⟩
          · refine ih _ ?_ hlater rfl
            have hpos := width_pos b rest
            rw [← hn, List.length_drop, List.length_cons]
            omega

/-- The bytes of the characters are those of the string. -/
theorem flatMap_segments (s : List UInt8) : (segments s).flatMap Prod.snd = s := by
  induction hn : s.length using Nat.strong_induction_on generalizing s with
  | _ n ih =>
      cases s with
      | nil => rfl
      | cons b rest =>
          have hpos := width_pos b rest
          rw [segments_cons, List.flatMap_cons, ih _ ?_ _ rfl, List.take_append_drop]
          rw [← hn, List.length_drop, List.length_cons]
          omega

/-- The first characters, as a string of their own. -/
theorem segments_front {s : List UInt8} {front : List (Char × List UInt8)}
    (h : front <+: segments s) : segments (front.flatMap Prod.snd) = front := by
  induction front generalizing s with
  | nil => rfl
  | cons e front ih =>
      cases s with
      | nil => exact absurd (List.prefix_nil.mp h) (List.cons_ne_nil _ _)
      | cons b rest =>
          rw [segments_cons, List.cons_prefix_cons] at h
          obtain ⟨rfl, later, hlater⟩ := h
          have ih := ih ⟨later, hlater⟩
          have hle := width_le b rest
          obtain ⟨w, hw⟩ := Nat.exists_eq_add_one_of_ne_zero
            (Nat.ne_of_gt (width_pos b rest))
          rw [hw, List.drop_succ_cons] at hlater
          have hdrop : front.flatMap Prod.snd ++ later.flatMap Prod.snd = rest.drop w := by
            rw [← List.flatMap_append, hlater, flatMap_segments]
          rw [List.flatMap_cons]
          generalize front.flatMap Prod.snd = more at ih hdrop ⊢
          have hlen : (rest.take w).length = w := by
            rw [List.length_take]
            omega
          -- nothing of the first character is behind the cut
          have hfirst : decodeRune b (rest.take w ++ more) = decodeRune b rest := by
            have hrest : rest.take w ++ more ++ later.flatMap Prod.snd = rest := by
              rw [List.append_assoc, hdrop, List.take_append_drop]
            have hwidth : (decodeRune b (rest.take w ++ more ++ later.flatMap Prod.snd)).2
                ≤ (rest.take w ++ more).length + 1 := by
              rw [hrest, hw, List.length_append, hlen]
              omega
            rw [decodeRune_cut hwidth, hrest]
          rw [hw, List.take_succ_cons, List.cons_append, segments_cons, hfirst,
            hw, List.take_succ_cons, List.drop_succ_cons, List.take_left' hlen,
            List.drop_left' hlen, ih]

/-- **CUTTING BETWEEN CHARACTERS**: what is left is read as before. -/
theorem segments_part {s : List UInt8} {part : List (Char × List UInt8)}
    (h : part <:+: segments s) : segments (part.flatMap Prod.snd) = part := by
  obtain ⟨before, after, heq⟩ := h
  have hlater : part ++ after <:+ segments s := ⟨before, by rw [← List.append_assoc, heq]⟩
  obtain ⟨t, ht⟩ := exists_of_suffix hlater
  exact segments_front (s := t) ⟨after, ht⟩

/-! ## Encoding -/

/-- A continuation byte that carries six bits. -/
theorem toNat_tail (n : Nat) : (UInt8.ofNat (0x80 + n % 64)).toNat = 0x80 + n % 64 :=
  UInt8.toNat_ofNat_of_lt' (by
    have := Nat.mod_lt n (by decide : 0 < 64)
    rw [UInt8.size]
    omega)

theorem continues_tail (n : Nat) : continues (UInt8.ofNat (0x80 + n % 64)) = true := by
  rw [continues, toNat_tail, Bool.and_eq_true, decide_eq_true_eq, decide_eq_true_eq]
  omega

/-- An encoded character is a sequence. -/
theorem encodeRune_eq (c : Char) :
    ∃ b more, encodeRune c = b :: more ∧ sequence b more = some c := by
  have hvalid : c.toNat < 0xD800 ∨ (0xDFFF < c.toNat ∧ c.toNat < 0x110000) := c.valid
  have hback : Char.ofNat c.toNat = c := Char.ofNat_toNat c
  rw [encodeRune]
  generalize c.toNat = n at hvalid hback ⊢
  rw [← hback]
  split_ifs with h1 h2 h3
  · refine ⟨_, _, rfl, ?_⟩
    have hb : (UInt8.ofNat n).toNat = n := UInt8.toNat_ofNat_of_lt' (by rw [UInt8.size]; omega)
    rw [sequence, size, hb, if_pos h1, if_pos rfl]
  · refine ⟨_, _, rfl, ?_⟩
    have hb : (UInt8.ofNat (0xC0 + n / 64)).toNat = 0xC0 + n / 64 :=
      UInt8.toNat_ofNat_of_lt' (by rw [UInt8.size]; omega)
    have hok : size (UInt8.ofNat (0xC0 + n / 64)) = 2
        ∧ accepts (UInt8.ofNat (0xC0 + n / 64)) (UInt8.ofNat (0x80 + n % 64)) = true := by
      rw [size, accepts, hb, toNat_tail, Bool.and_eq_true, decide_eq_true_eq, decide_eq_true_eq]
      split_ifs <;> omega
    rw [sequence, if_pos hok, hb, toNat_tail]
    congr 2
    omega
  · refine ⟨_, _, rfl, ?_⟩
    have hb : (UInt8.ofNat (0xE0 + n / 4096)).toNat = 0xE0 + n / 4096 :=
      UInt8.toNat_ofNat_of_lt' (by rw [UInt8.size]; omega)
    have hok : size (UInt8.ofNat (0xE0 + n / 4096)) = 3
        ∧ accepts (UInt8.ofNat (0xE0 + n / 4096)) (UInt8.ofNat (0x80 + n / 64 % 64)) = true := by
      rw [size, accepts, hb, toNat_tail, Bool.and_eq_true, decide_eq_true_eq, decide_eq_true_eq]
      split_ifs <;> omega
    rw [sequence, if_pos ⟨hok.1, hok.2, continues_tail n⟩, hb, toNat_tail, toNat_tail]
    congr 2
    omega
  · refine ⟨_, _, rfl, ?_⟩
    have hb : (UInt8.ofNat (0xF0 + n / 262144)).toNat = 0xF0 + n / 262144 :=
      UInt8.toNat_ofNat_of_lt' (by rw [UInt8.size]; omega)
    have hok : size (UInt8.ofNat (0xF0 + n / 262144)) = 4
        ∧ accepts (UInt8.ofNat (0xF0 + n / 262144)) (UInt8.ofNat (0x80 + n / 4096 % 64))
          = true := by
      rw [size, accepts, hb, toNat_tail, Bool.and_eq_true, decide_eq_true_eq, decide_eq_true_eq]
      split_ifs <;> omega
    rw [sequence, if_pos ⟨hok.1, hok.2, continues_tail _, continues_tail n⟩, hb, toNat_tail,
      toNat_tail, toNat_tail]
    congr 2
    omega

/-- **WHAT IS ENCODED IS READ BACK.** -/
theorem segments_encode (cs : List Char) :
    segments (encode cs) = cs.map (fun c => (c, encodeRune c)) := by
  induction cs with
  | nil => rfl
  | cons c cs ih =>
      obtain ⟨b, more, henc, hseq⟩ := encodeRune_eq c
      rw [encode, List.flatMap_cons, ← encode, henc, List.cons_append, segments_of_sequence hseq,
        ih, List.map_cons, henc]

theorem runes_encode (cs : List Char) : runes (encode cs) = cs := by
  rw [runes, segments_encode, List.map_map]
  exact List.map_id cs

/-- An ASCII character is one byte. -/
theorem encodeRune_of_ascii {c : Char} (h : c.toNat < 0x80) :
    encodeRune c = [UInt8.ofNat c.toNat] := if_pos h

/-! ## The functions on the characters -/

/-- Dropping at both ends leaves a part. -/
theorem trimmed_part {α : Type} (p : α → Bool) (l : List α) :
    (l.dropWhile p).rdropWhile p <:+: l :=
  (List.rdropWhile_prefix p _).isInfix.trans (List.dropWhile_suffix p).isInfix

/-- Dropping by what a function reads. -/
theorem map_trimmed {α β : Type} (f : α → β) (p : β → Bool) (l : List α) :
    ((l.dropWhile (fun a => p (f a))).rdropWhile (fun a => p (f a))).map f
      = ((l.map f).dropWhile p).rdropWhile p := by
  have hfront : (l.map f).dropWhile p = (l.dropWhile (fun a => p (f a))).map f :=
    List.dropWhile_map ..
  rw [hfront, List.rdropWhile, List.rdropWhile, ← List.map_reverse, List.dropWhile_map,
    List.map_reverse]
  rfl

/-- `TrimSpace` trims the characters. -/
theorem runes_trimSpaceBytes (s : List UInt8) :
    runes (trimSpaceBytes s) = ((runes s).dropWhile isSpace).rdropWhile isSpace := by
  rw [runes, trimSpaceBytes, segments_part (trimmed_part _ _),
    map_trimmed Prod.fst isSpace (segments s), ← runes]

/-- `ToLower` after `TrimSpace`, on the characters. -/
theorem toLowerBytes_trimSpaceBytes (s : List UInt8) :
    toLowerBytes (trimSpaceBytes s)
      = encode (toLower (trimSpace (String.ofList (runes s)))).toList := by
  rw [toLowerBytes, runes_trimSpaceBytes, toLower, trimSpace, String.toList_ofList,
    String.toList_ofList, String.toList_ofList]

end GoUtf8
