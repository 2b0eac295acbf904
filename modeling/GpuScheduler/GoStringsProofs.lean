import Mathlib

/-! # The Go string functions the program calls

    `strings.TrimSpace`, `strings.ToLower`, `strings.Cut`, `strings.Count`, prefix tests
    and the `%d` verb, on Lean strings through their code points.  White space is
    the Unicode `White_Space` property and lower-casing the Unicode simple mapping
    (version 15.0, the one of the Go release the module names).

    The lemmas are about building identifiers with a separator: a component that does
    not contain the separator can be read back from the end. -/

namespace GoStrings

/-- `unicode.IsSpace`. -/
def isSpace (c : Char) : Bool :=
  (9 ≤ c.toNat && c.toNat ≤ 13) || c.toNat == 32 || c.toNat == 0x85 || c.toNat == 0xA0
    || c.toNat == 0x1680 || (0x2000 ≤ c.toNat && c.toNat ≤ 0x200A) || c.toNat == 0x2028
    || c.toNat == 0x2029 || c.toNat == 0x202F || c.toNat == 0x205F || c.toNat == 0x3000

/-- `strings.TrimSpace`. -/
def trimSpace (s : String) : String :=
  String.ofList ((s.toList.dropWhile isSpace).rdropWhile isSpace)

/-- The simple lower-case mapping as arithmetic ranges: first and last code point,
    stride, and the offset to the lower-case letter. -/
def lowerRanges : List (Nat × Nat × Nat × Int) :=
  [(65, 90, 1, 32), (192, 214, 1, 32), (216, 222, 1, 32), (256, 302, 2, 1),
   (304, 304, 1, -199), (306, 310, 2, 1), (313, 327, 2, 1), (330, 374, 2, 1),
   (376, 376, 1, -121), (377, 381, 2, 1), (385, 385, 1, 210), (386, 388, 2, 1),
   (390, 390, 1, 206), (391, 391, 1, 1), (393, 394, 1, 205), (395, 395, 1, 1),
   (398, 398, 1, 79), (399, 399, 1, 202), (400, 400, 1, 203), (401, 401, 1, 1),
   (403, 403, 1, 205), (404, 404, 1, 207), (406, 406, 1, 211), (407, 407, 1, 209),
   (408, 408, 1, 1), (412, 412, 1, 211), (413, 413, 1, 213), (415, 415, 1, 214),
   (416, 420, 2, 1), (422, 422, 1, 218), (423, 423, 1, 1), (425, 425, 1, 218),
   (428, 428, 1, 1), (430, 430, 1, 218), (431, 431, 1, 1), (433, 434, 1, 217),
   (435, 437, 2, 1), (439, 439, 1, 219), (440, 440, 1, 1), (444, 444, 1, 1),
   (452, 452, 1, 2), (453, 453, 1, 1), (455, 455, 1, 2), (456, 456, 1, 1),
   (458, 458, 1, 2), (459, 475, 2, 1), (478, 494, 2, 1), (497, 497, 1, 2),
   (498, 500, 2, 1), (502, 502, 1, -97), (503, 503, 1, -56), (504, 542, 2, 1),
   (544, 544, 1, -130), (546, 562, 2, 1), (570, 570, 1, 10795), (571, 571, 1, 1),
   (573, 573, 1, -163), (574, 574, 1, 10792), (577, 577, 1, 1), (579, 579, 1, -195),
   (580, 580, 1, 69), (581, 581, 1, 71), (582, 590, 2, 1), (880, 882, 2, 1),
   (886, 886, 1, 1), (895, 895, 1, 116), (902, 902, 1, 38), (904, 906, 1, 37),
   (908, 908, 1, 64), (910, 911, 1, 63), (913, 929, 1, 32), (931, 939, 1, 32),
   (975, 975, 1, 8), (984, 1006, 2, 1), (1012, 1012, 1, -60), (1015, 1015, 1, 1),
   (1017, 1017, 1, -7), (1018, 1018, 1, 1), (1021, 1023, 1, -130), (1024, 1039, 1, 80),
   (1040, 1071, 1, 32), (1120, 1152, 2, 1), (1162, 1214, 2, 1), (1216, 1216, 1, 15),
   (1217, 1229, 2, 1), (1232, 1326, 2, 1), (1329, 1366, 1, 48), (4256, 4293, 1, 7264),
   (4295, 4295, 1, 7264), (4301, 4301, 1, 7264), (5024, 5103, 1, 38864),
   (5104, 5109, 1, 8), (7312, 7354, 1, -3008), (7357, 7359, 1, -3008), (7680, 7828, 2, 1),
   (7838, 7838, 1, -7615), (7840, 7934, 2, 1), (7944, 7951, 1, -8), (7960, 7965, 1, -8),
   (7976, 7983, 1, -8), (7992, 7999, 1, -8), (8008, 8013, 1, -8), (8025, 8031, 2, -8),
   (8040, 8047, 1, -8), (8072, 8079, 1, -8), (8088, 8095, 1, -8), (8104, 8111, 1, -8),
   (8120, 8121, 1, -8), (8122, 8123, 1, -74), (8124, 8124, 1, -9), (8136, 8139, 1, -86),
   (8140, 8140, 1, -9), (8152, 8153, 1, -8), (8154, 8155, 1, -100), (8168, 8169, 1, -8),
   (8170, 8171, 1, -112), (8172, 8172, 1, -7), (8184, 8185, 1, -128),
   (8186, 8187, 1, -126), (8188, 8188, 1, -9), (8486, 8486, 1, -7517),
   (8490, 8490, 1, -8383), (8491, 8491, 1, -8262), (8498, 8498, 1, 28),
   (8544, 8559, 1, 16), (8579, 8579, 1, 1), (9398, 9423, 1, 26), (11264, 11311, 1, 48),
   (11360, 11360, 1, 1), (11362, 11362, 1, -10743), (11363, 11363, 1, -3814),
   (11364, 11364, 1, -10727), (11367, 11371, 2, 1), (11373, 11373, 1, -10780),
   (11374, 11374, 1, -10749), (11375, 11375, 1, -10783), (11376, 11376, 1, -10782),
   (11378, 11378, 1, 1), (11381, 11381, 1, 1), (11390, 11391, 1, -10815),
   (11392, 11490, 2, 1), (11499, 11501, 2, 1), (11506, 11506, 1, 1), (42560, 42604, 2, 1),
   (42624, 42650, 2, 1), (42786, 42798, 2, 1), (42802, 42862, 2, 1), (42873, 42875, 2, 1),
   (42877, 42877, 1, -35332), (42878, 42886, 2, 1), (42891, 42891, 1, 1),
   (42893, 42893, 1, -42280), (42896, 42898, 2, 1), (42902, 42920, 2, 1),
   (42922, 42922, 1, -42308), (42923, 42923, 1, -42319), (42924, 42924, 1, -42315),
   (42925, 42925, 1, -42305), (42926, 42926, 1, -42308), (42928, 42928, 1, -42258),
   (42929, 42929, 1, -42282), (42930, 42930, 1, -42261), (42931, 42931, 1, 928),
   (42932, 42946, 2, 1), (42948, 42948, 1, -48), (42949, 42949, 1, -42307),
   (42950, 42950, 1, -35384), (42951, 42953, 2, 1), (42960, 42960, 1, 1),
   (42966, 42968, 2, 1), (42997, 42997, 1, 1), (65313, 65338, 1, 32),
   (66560, 66599, 1, 40), (66736, 66771, 1, 40), (66928, 66938, 1, 39),
   (66940, 66954, 1, 39), (66956, 66962, 1, 39), (66964, 66965, 1, 39),
   (68736, 68786, 1, 64), (71840, 71871, 1, 32), (93760, 93791, 1, 32),
   (125184, 125217, 1, 34)]

/-- `unicode.ToLower`. -/
def toLowerRune (c : Char) : Char :=
  match lowerRanges.find? (fun r =>
      r.1 ≤ c.toNat && c.toNat ≤ r.2.1 && (c.toNat - r.1) % r.2.2.1 == 0) with
  | some r => Char.ofNat ((c.toNat : Int) + r.2.2.2).toNat
  | none => c

/-- `strings.ToLower`. -/
def toLower (s : String) : String :=
  String.ofList (s.toList.map toLowerRune)

/-- Split a list of characters at the first separator. -/
def cutList (sep : Char) : List Char → Option (List Char × List Char)
  | [] => none
  | c :: cs =>
      if c = sep then some ([], cs)
      else (cutList sep cs).map (fun p => (c :: p.1, p.2))

/-- `strings.Cut` at a one-character separator; `none` when it does not occur. -/
def cut (s : String) (sep : Char) : Option (String × String) :=
  (cutList sep s.toList).map (fun p => (String.ofList p.1, String.ofList p.2))

/-- `strings.Count` of a one-character string. -/
def count (s : String) (c : Char) : Nat :=
  s.toList.count c

/-- The test `len(s) >= len(pre) && s[:len(pre)] == pre`. -/
def startsWith (s pre : String) : Bool :=
  pre.toList.isPrefixOf s.toList

/-- `strings.Contains`. -/
def contains (s substr : String) : Bool :=
  decide (substr.toList <:+: s.toList)

/-- The `%d` verb on a natural number. -/
def fmtNat (n : Nat) : String := toString n

/-! ## Decimal numerals -/

theorem toList_fmtNat (n : Nat) : (fmtNat n).toList = Nat.toDigits 10 n := by
  show (Nat.repr n).toList = Nat.toDigits 10 n
  exact Nat.toList_repr

/-- Distinct numbers are written differently. -/
theorem fmtNat_injective {m n : Nat} (h : fmtNat m = fmtNat n) : m = n := by
  have hd : Nat.toDigits 10 m = Nat.toDigits 10 n := by
    rw [← toList_fmtNat, ← toList_fmtNat, h]
  have hm := Nat.ofDigitChars_ten_toDigits (n := m)
  rw [hd, Nat.ofDigitChars_ten_toDigits] at hm
  exact hm.symm

/-- A numeral holds digits only. -/
theorem not_mem_fmtNat {c : Char} (hc : c.isDigit = false) (n : Nat) :
    c ∉ (fmtNat n).toList := by
  intro hmem
  rw [toList_fmtNat] at hmem
  have hdig := Nat.isDigit_of_mem_toDigits (by decide) (by decide) hmem
  rw [hdig] at hc
  exact Bool.noConfusion hc

/-! ## Reading a component back from the end -/

/-- Two lists that end in separator-free components agree component by component. -/
theorem append_sep_inj {sep : Char} {a b a' b' : List Char}
    (hb : sep ∉ b) (hb' : sep ∉ b') (h : a ++ sep :: b = a' ++ sep :: b') :
    a = a' ∧ b = b' := by
  rcases List.append_eq_append_iff.mp h with ⟨m, ha, hm⟩ | ⟨m, ha, hm⟩
  · cases m with
    | nil =>
        rw [List.nil_append] at hm
        exact ⟨by rw [ha, List.append_nil], (List.cons.inj hm).2⟩
    | cons c m =>
        -- the longer prefix would put its separator inside the shorter component
        have hcm := (List.cons.inj hm).2
        exact absurd (by rw [hcm]; simp) hb
  · cases m with
    | nil =>
        rw [List.nil_append] at hm
        exact ⟨by rw [ha, List.append_nil], (List.cons.inj hm).2.symm⟩
    | cons c m =>
        have hcm := (List.cons.inj hm).2
        exact absurd (by rw [hcm]; simp) hb'

/-- Cutting at the first separator gives back a separator-free first component. -/
theorem cutList_append {sep : Char} {a b : List Char} (ha : sep ∉ a) :
    cutList sep (a ++ sep :: b) = some (a, b) := by
  induction a with
  | nil => simp [cutList]
  | cons c a ih =>
      have hc : c ≠ sep := fun h => ha (by simp [h])
      have ht : sep ∉ a := fun h => ha (List.mem_cons_of_mem _ h)
      simp [cutList, hc, ih ht]

/-- `strings.Cut` inverts joining with a separator. -/
theorem cut_join {sep : Char} {a b : String} (ha : sep ∉ a.toList) :
    cut (a ++ String.singleton sep ++ b) sep = some (a, b) := by
  simp [cut, cutList_append ha]

theorem eq_of_cutList {sep : Char} {l a b : List Char} (h : cutList sep l = some (a, b)) :
    l = a ++ sep :: b := by
  induction l generalizing a with
  | nil => cases h
  | cons c l ih =>
      rw [cutList] at h
      split_ifs at h with hc
      · obtain ⟨rfl, rfl⟩ := Prod.mk.inj (Option.some.inj h)
        rw [hc]
        rfl
      · obtain ⟨p, hp, hpair⟩ := Option.map_eq_some_iff.mp h
        obtain ⟨rfl, rfl⟩ := Prod.mk.inj hpair
        rw [ih hp]
        rfl

/-- What `strings.Cut` returns can be joined again. -/
theorem eq_of_cut {sep : Char} {s a b : String} (h : cut s sep = some (a, b)) :
    s = a ++ String.singleton sep ++ b := by
  obtain ⟨p, hp, hpair⟩ := Option.map_eq_some_iff.mp h
  obtain ⟨rfl, rfl⟩ := Prod.mk.inj hpair
  refine String.toList_inj.mp ?_
  rw [eq_of_cutList hp]
  simp

/-- A prefix test against a joined prefix. -/
theorem startsWith_iff {s pre : String} :
    startsWith s pre = true ↔ ∃ rest, s.toList = pre.toList ++ rest := by
  rw [startsWith, List.isPrefixOf_iff_prefix]
  constructor
  · rintro ⟨rest, h⟩
    exact ⟨rest, h.symm⟩
  · rintro ⟨rest, h⟩
    exact ⟨rest, h.symm⟩

example : toLower "H100_SXM É" = "h100_sxm é" := by decide +kernel

example : trimSpace "\t a b\n " = "a b" := by decide +kernel

/-! ## Lower-casing twice -/

/-- The code points from `lo` to `hi`, two apart if `stride` is 2, are outside a range of
    the table. -/
def misses (lo hi stride : Nat) (r : Nat × Nat × Nat × Int) : Bool :=
  Nat.ble (hi + 1) r.1 || (Nat.ble (r.2.1 + 1) lo
    || (Nat.beq r.2.2.1 2 && (Nat.beq stride 2 && Nat.beq ((lo + r.1) % 2) 1)))

/-- The intervals of white space. -/
def spaceRanges : List (Nat × Nat) :=
  [(9, 13), (32, 32), (0x85, 0x85), (0xA0, 0xA0), (0x1680, 0x1680), (0x2000, 0x200A),
   (0x2028, 0x2029), (0x202F, 0x202F), (0x205F, 0x205F), (0x3000, 0x3000)]

/-- The lower-case letters of a range are characters, no white space, and in no range of
    the table themselves. -/
def settled (r : Nat × Nat × Nat × Int) : Bool :=
  let lo := ((r.1 : Int) + r.2.2.2).toNat
  let hi := ((r.2.1 : Int) + r.2.2.2).toNat
  decide (0 ≤ (r.1 : Int) + r.2.2.2)
    && lowerRanges.all (misses lo hi (if r.1 == r.2.1 then 2 else r.2.2.1))
    && spaceRanges.all (fun s => Nat.ble (hi + 1) s.1 || Nat.ble (s.2 + 1) lo)
    && (Nat.ble (hi + 1) 0xD800 || (Nat.ble 0xE000 lo && Nat.ble (hi + 1) 0x110000))

theorem settled_lowerRanges : lowerRanges.all settled = true := by decide +kernel

theorem isSpace_eq_false_iff (c : Char) :
    isSpace c = false ↔ ∀ s ∈ spaceRanges, c.toNat < s.1 ∨ s.2 < c.toNat := by
  simp only [isSpace, spaceRanges, List.forall_mem_cons, Bool.or_eq_false_iff,
    Bool.and_eq_false_iff, decide_eq_false_iff_not, beq_eq_false_iff_ne]
  simp only [List.not_mem_nil, false_implies, implies_true, and_true]
  omega

/-- **LOWER CASE STAYS**: the lower-case letter of a code point is its own, and not white
    space if the code point is not. -/
theorem toLowerRune_settled (c : Char) :
    toLowerRune (toLowerRune c) = toLowerRune c
      ∧ (isSpace c = false → isSpace (toLowerRune c) = false) := by
  cases hf : lowerRanges.find? (fun r =>
      r.1 ≤ c.toNat && c.toNat ≤ r.2.1 && (c.toNat - r.1) % r.2.2.1 == 0) with
  | none =>
      have hc : toLowerRune c = c := by rw [toLowerRune, hf]
      rw [hc, hc]
      exact ⟨rfl, id⟩
  | some r =>
      have hmem := List.mem_of_find?_eq_some hf
      have hin := List.find?_some hf
      simp only [Bool.and_eq_true, decide_eq_true_eq, beq_iff_eq] at hin
      obtain ⟨⟨hlo, hhi⟩, hstride⟩ := hin
      have hok := List.all_eq_true.mp settled_lowerRanges r hmem
      simp only [settled, Bool.and_eq_true, Bool.or_eq_true, decide_eq_true_eq, Nat.ble_eq,
        List.all_eq_true] at hok
      obtain ⟨⟨⟨hpos, hmiss⟩, hspace⟩, hvalid⟩ := hok
      generalize ht : ((c.toNat : Int) + r.2.2.2).toNat = t
      have hc : toLowerRune c = Char.ofNat t := by rw [toLowerRune, hf, ← ht]
      have htoNat : (Char.ofNat t).toNat = t := by
        have hchar : t.isValidChar := by
          rw [Nat.isValidChar]
          omega
        rw [Char.ofNat, dif_pos hchar]
        rfl
      rw [hc]
      refine ⟨?_, fun _ => (isSpace_eq_false_iff _).mpr (fun s hs => ?_)⟩
      · have hnone : lowerRanges.find? (fun r => r.1 ≤ (Char.ofNat t).toNat
            && (Char.ofNat t).toNat ≤ r.2.1 && ((Char.ofNat t).toNat - r.1) % r.2.2.1 == 0)
            = none := by
          refine List.find?_eq_none.mpr (fun r' hr' => ?_)
          have hm := hmiss r' hr'
          simp only [misses, Bool.or_eq_true, Bool.and_eq_true, Nat.ble_eq, Nat.beq_eq] at hm
          rw [htoNat]
          simp only [Bool.and_eq_true, decide_eq_true_eq, beq_iff_eq]
          rintro ⟨⟨h1, h2⟩, h3⟩
          rcases hm with hm | hm | ⟨hs', hs, hodd⟩
          · omega
          · omega
          · -- the two progressions have different parity
            rw [hs'] at h3
            split_ifs at hs with hone
            · have := beq_iff_eq.mp hone
              omega
            · rw [hs] at hstride
              omega
        rw [toLowerRune, hnone]
      · have := hspace s hs
        rw [htoNat]
        omega

/-- Trimming leaves no white space at either end. -/
theorem trimmed_ends {l : List Char} (h : l ≠ []) (hl : ∃ s : List Char,
    l = (s.dropWhile isSpace).rdropWhile isSpace) :
    isSpace (l.head h) = false ∧ isSpace (l.getLast h) = false := by
  obtain ⟨s, rfl⟩ := hl
  have hpre := List.rdropWhile_prefix isSpace (s.dropWhile isSpace)
  refine ⟨?_, Bool.eq_false_iff.mpr (List.rdropWhile_last_not isSpace _ h)⟩
  have hne : s.dropWhile isSpace ≠ [] := fun hnil => h (by rw [hnil]; rfl)
  rw [hpre.head h]
  exact List.head_dropWhile_not isSpace hne

/-- Lower-casing keeps the number of characters. -/
theorem toLower_eq_empty_iff (s : String) : toLower s = "" ↔ s = "" := by
  rw [← String.toList_inj, ← String.toList_inj, toLower, String.toList_ofList]
  exact List.map_eq_nil_iff

/-- Lower-casing a trimmed string gives a trimmed one. -/
theorem trimSpace_toLower_trimSpace (s : String) :
    trimSpace (toLower (trimSpace s)) = toLower (trimSpace s) := by
  generalize hl : (s.toList.dropWhile isSpace).rdropWhile isSpace = l
  have hlow : (toLower (trimSpace s)).toList = l.map toLowerRune := by
    rw [toLower, trimSpace, String.toList_ofList, String.toList_ofList, hl]
  refine String.toList_inj.mp ?_
  rw [trimSpace, String.toList_ofList, hlow]
  by_cases hnil : l = []
  · subst hnil
    rfl
  · obtain ⟨hhead, hlast⟩ := trimmed_ends hnil ⟨s.toList, hl.symm⟩
    have hdrop : (l.map toLowerRune).dropWhile isSpace = l.map toLowerRune := by
      cases l with
      | nil => rfl
      | cons a rest =>
          rw [List.map_cons, List.dropWhile_cons_of_neg]
          rw [(toLowerRune_settled a).2 hhead]
          exact Bool.false_ne_true
    rw [hdrop, List.rdropWhile_eq_self_iff]
    intro hne
    rw [List.getLast_map, (toLowerRune_settled _).2 hlast]
    exact Bool.false_ne_true

/-- Trimming and lower-casing twice is doing it once. -/
theorem toLower_trimSpace_idem (s : String) :
    toLower (trimSpace (toLower (trimSpace s))) = toLower (trimSpace s) := by
  rw [trimSpace_toLower_trimSpace]
  refine String.toList_inj.mp ?_
  rw [toLower, toLower, String.toList_ofList, String.toList_ofList, List.map_map]
  exact List.map_congr_left (fun c _ => (toLowerRune_settled c).1)

/-! ## Case and surrounding space -/

/-- No letter with a lower case of its own is white space. -/
theorem lowerRanges_miss_spaces : lowerRanges.all (fun r => spaceRanges.all (fun s =>
    Nat.ble (r.2.1 + 1) s.1 || Nat.ble (s.2 + 1) r.1)) = true := by decide +kernel

/-- White space has no case. -/
theorem isSpace_toLowerRune (c : Char) : isSpace (toLowerRune c) = isSpace c := by
  cases hspace : isSpace c with
  | false => exact (toLowerRune_settled c).2 hspace
  | true =>
      have hnone : lowerRanges.find? (fun r =>
          r.1 ≤ c.toNat && c.toNat ≤ r.2.1 && (c.toNat - r.1) % r.2.2.1 == 0) = none := by
        refine List.find?_eq_none.mpr (fun r hr hin => ?_)
        simp only [Bool.and_eq_true, decide_eq_true_eq, beq_iff_eq] at hin
        have hfalse : isSpace c = false := by
          refine (isSpace_eq_false_iff c).mpr (fun s hs => ?_)
          have hmiss := List.all_eq_true.mp (List.all_eq_true.mp lowerRanges_miss_spaces r hr) s hs
          simp only [Bool.or_eq_true, Nat.ble_eq] at hmiss
          omega
        rw [hspace] at hfalse
        cases hfalse
      rw [toLowerRune, hnone]
      exact hspace

/-- Two texts with the same letters, up to case, between white space. -/
def Respelled (a b : String) : Prop :=
  ∃ left core right left' core' right' : List Char,
    a = String.ofList (left ++ core ++ right) ∧ b = String.ofList (left' ++ core' ++ right')
      ∧ (∀ c ∈ left ++ right ++ left' ++ right', isSpace c = true)
      ∧ core.map toLowerRune = core'.map toLowerRune

theorem Respelled.refl (a : String) : Respelled a a :=
  ⟨[], a.toList, [], [], a.toList, [], by simp, by simp, by simp, rfl⟩

/-- Trimming the text between white space. -/
theorem trim_between {left core right : List Char} (hl : ∀ c ∈ left, isSpace c = true)
    (hr : ∀ c ∈ right, isSpace c = true) :
    ((left ++ core ++ right).dropWhile isSpace).rdropWhile isSpace
      = (core.dropWhile isSpace).rdropWhile isSpace := by
  rw [List.append_assoc, List.dropWhile_append_of_pos hl]
  by_cases hall : ∀ c ∈ core, isSpace c = true
  · have hnil : core.dropWhile isSpace = [] := List.dropWhile_eq_nil_iff.mpr hall
    have hnil' : (core ++ right).dropWhile isSpace = [] := by
      rw [List.dropWhile_append_of_pos hall]
      exact List.dropWhile_eq_nil_iff.mpr hr
    rw [hnil, hnil']
  · have hne : core.dropWhile isSpace ≠ [] := fun h => hall (List.dropWhile_eq_nil_iff.mp h)
    rw [List.dropWhile_append, if_neg (by simpa using hne), List.rdropWhile, List.reverse_append,
      List.dropWhile_append_of_pos (fun c hc => hr c (List.mem_reverse.mp hc)), List.rdropWhile]

/-- Trimming and lower-casing characters commute. -/
theorem trim_map_toLowerRune (l : List Char) :
    ((l.map toLowerRune).dropWhile isSpace).rdropWhile isSpace
      = ((l.dropWhile isSpace).rdropWhile isSpace).map toLowerRune := by
  have hcomp : isSpace ∘ toLowerRune = isSpace := funext isSpace_toLowerRune
  rw [List.dropWhile_map, hcomp, List.rdropWhile, ← List.map_reverse, List.dropWhile_map, hcomp,
    List.rdropWhile, List.map_reverse]

/-- **A RESPELLED TEXT** is the same once it is trimmed and in lower case. -/
theorem Respelled.toLower_trimSpace {a b : String} (h : Respelled a b) :
    toLower (trimSpace a) = toLower (trimSpace b) := by
  obtain ⟨left, core, right, left', core', right', rfl, rfl, hspace, hcore⟩ := h
  simp only [List.mem_append] at hspace
  refine String.toList_inj.mp ?_
  simp only [toLower, trimSpace, String.toList_ofList]
  rw [trim_between (fun c hc => hspace c (by simp [hc])) (fun c hc => hspace c (by simp [hc])),
    trim_between (fun c hc => hspace c (by simp [hc])) (fun c hc => hspace c (by simp [hc])),
    ← trim_map_toLowerRune, ← trim_map_toLowerRune, hcore]

end GoStrings
