import GpuScheduler.CRNameProofs
import GpuScheduler.GoFmtProofs
import GpuScheduler.GoUtf8Proofs

/-! # CR names of arbitrary bytes

    A request ID comes from outside and may be any sequence of bytes.
    `CRNameFromRequestID` is followed here byte by byte, through the functions that decode
    it; `crNameFromBytes_chars` says that on the characters it is the function on
    characters, with the hash of the bytes.

    A name is legal whatever the ID is, and it is its own name (`crName_legal`): its words
    are letters and digits, as many as fit, and taking the words of a name gives them
    back. -/

namespace GpuCRNameBytes

open GoStrings GoFmt GoUtf8 Words GpuCRName

/-- The byte of `-`. -/
def hyphen : UInt8 := 0x2D

/-- `dns1123Invalid.ReplaceAllString(s, "-")`. -/
def replaceAllInvalid (s : List UInt8) : List UInt8 :=
  (segments s).flatMap (fun e => if dns1123Invalid e.1 then [hyphen] else e.2)

/-- `sha256.Sum256` on the bytes of a string. -/
structure BytesSum256 where
  digest : List UInt8 → List UInt8
  length_digest : ∀ s, (digest s).length = 32

/-- The request ID before the loop that replaces `--`. -/
def sanitized (requestID : List UInt8) : List UInt8 :=
  trim hyphen (replaceAllInvalid (toLowerBytes (trimSpaceBytes requestID)))

/-- The request ID after that loop. -/
def collapsed (requestID : List UInt8) : List UInt8 :=
  collapse hyphen (sanitized requestID).length (sanitized requestID)

/-- `CRNameFromRequestID`. -/
def crNameFromBytes (sum : BytesSum256) (requestID : List UInt8) : List UInt8 :=
  if requestID = [] then []
  else
    let s := collapsed requestID
    let s := if maxCRNameLength < s.length then
        (s.take maxCRNameLength).rdropWhile (· = hyphen) else s
    if s = [] then encode ((encodeToString (sum.digest requestID)).take 16) else s

/-! ## Bytes and characters -/

/-- The character of an ASCII byte. -/
def asChar (b : UInt8) : Char := Char.ofNat b.toNat

theorem toNat_asChar (b : UInt8) : (asChar b).toNat = b.toNat := by
  have hlt := b.toNat_lt
  rw [asChar, Char.toNat_ofNat, if_pos (Or.inl (by omega))]

theorem asChar_injective : Function.Injective asChar := by
  intro a b h
  have hnat := congrArg Char.toNat h
  rw [toNat_asChar, toNat_asChar] at hnat
  exact UInt8.toNat_inj.mp hnat

theorem map_asChar_encodeRune {c : Char} (h : c.toNat < 0x80) :
    (encodeRune c).map asChar = [c] := by
  have hb : (UInt8.ofNat c.toNat).toNat = c.toNat :=
    UInt8.toNat_ofNat_of_lt' (by rw [UInt8.size]; omega)
  rw [encodeRune_of_ascii h, List.map_singleton, asChar, hb, Char.ofNat_toNat]

/-- ASCII characters are their bytes. -/
theorem map_asChar_encode {cs : List Char} (h : ∀ c ∈ cs, c.toNat < 0x80) :
    (encode cs).map asChar = cs := by
  induction cs with
  | nil => rfl
  | cons c cs ih =>
      rw [encode, List.flatMap_cons, List.map_append, map_asChar_encodeRune
        (h c (List.mem_cons_self ..)), ← encode, ih (fun d hd => h d (List.mem_cons_of_mem _ hd))]
      rfl

/-- ASCII bytes are their characters. -/
theorem runes_of_ascii {s : List UInt8} (h : ∀ c ∈ s.map asChar, c.toNat < 0x80) :
    runes s = s.map asChar := by
  have hs : encode (s.map asChar) = s :=
    List.map_injective_iff.mpr asChar_injective (map_asChar_encode h)
  conv_lhs => rw [← hs]
  exact runes_encode _

/-! ## What a name is made of -/

theorem isAlnum_iff (c : Char) :
    isAlnum c = true
      ↔ (97 ≤ c.toNat ∧ c.toNat ≤ 122) ∨ (48 ≤ c.toNat ∧ c.toNat ≤ 57) := by
  rw [isAlnum, Bool.or_eq_true, Bool.and_eq_true, Bool.and_eq_true, decide_eq_true_eq,
    decide_eq_true_eq, decide_eq_true_eq, decide_eq_true_eq]
  exact Iff.rfl

/-- The characters of a name. -/
def IsNameChar (c : Char) : Prop := isAlnum c = true ∨ c = '-'

/-- They are ASCII, no white space and in lower case. -/
theorem IsNameChar.settled {c : Char} (h : IsNameChar c) :
    c.toNat < 0x80 ∧ isSpace c = false ∧ toLowerRune c = c := by
  have hrange : c.toNat = 45 ∨ (97 ≤ c.toNat ∧ c.toNat ≤ 122)
      ∨ (48 ≤ c.toNat ∧ c.toNat ≤ 57) := by
    rcases h with h | rfl
    · exact Or.inr ((isAlnum_iff c).mp h)
    · exact Or.inl rfl
  refine ⟨by omega, ?_, toLowerRune_of_ascii (by omega) (by omega)⟩
  rw [isSpace_eq_false_iff]
  simp only [spaceRanges, List.forall_mem_cons, List.not_mem_nil, false_implies, implies_true,
    and_true]
  omega

/-- A short hash is a word. -/
theorem isWord_short (sum : Sum256) (requestID : String) :
    IsWord isAlnum (sum.short requestID) := by
  refine ⟨(clean_short sum requestID _ (List.mem_singleton.mpr rfl)).1, fun c hc => ?_⟩
  obtain ⟨b, -, hb⟩ := List.mem_flatMap.mp (List.mem_of_mem_take hc)
  have hdigit : ∀ n < 16, isAlnum (hexDigit n) = true := by decide
  have hlt := b.toNat_lt
  rcases List.mem_cons.mp hb with rfl | hb
  · exact hdigit _ (by omega)
  · rw [List.mem_singleton.mp hb]
    exact hdigit _ (by omega)

/-- The words of a name are words. -/
theorem isWord_nameWords (sum : Sum256) (requestID : String) :
    ∀ w ∈ nameWords sum requestID, IsWord isAlnum w := by
  intro w hw
  rw [nameWords] at hw
  split_ifs at hw
  · rw [List.mem_singleton.mp hw]
    exact isWord_short sum requestID
  · exact isWord_fit (fun _ => isWord_of_mem_words) _ w hw

/-- The words of a name fit. -/
theorem length_join_nameWords_le (sum : Sum256) (requestID : String) :
    (join '-' (nameWords sum requestID)).length ≤ maxCRNameLength := by
  rw [nameWords]
  split_ifs
  · rw [join_cons, List.flatMap_nil, List.append_nil, Sum256.short]
    exact (List.length_take_le _ _).trans (by decide)
  · exact (clean_words (by decide) _).length_join_fit_le maxCRNameLength

/-- Without white space there is nothing to trim. -/
theorem trim_of_no_space {l : List Char} (h : ∀ c ∈ l, isSpace c = false) :
    (l.dropWhile isSpace).rdropWhile isSpace = l := by
  have hfront : l.dropWhile isSpace = l := by
    cases l with
    | nil => rfl
    | cons c l =>
        rw [List.dropWhile_cons_of_neg]
        rw [h c (List.mem_cons_self ..)]
        exact Bool.false_ne_true
  rw [hfront]
  refine List.rdropWhile_eq_self_iff.mpr (fun hl => ?_)
  rw [h _ (List.getLast_mem hl)]
  exact Bool.false_ne_true

/-- The words of a name are those it was made of. -/
theorem nameWords_of_join (sum : Sum256) {ws : List (List Char)}
    (hwords : ∀ w ∈ ws, IsWord isAlnum w) (hne : ws ≠ [])
    (hlen : (join '-' ws).length ≤ maxCRNameLength) :
    nameWords sum (String.ofList (join '-' ws)) = ws := by
  have hsep : isAlnum '-' = false := by decide
  have hchars : ∀ c ∈ join '-' ws, c.toNat < 0x80 ∧ isSpace c = false ∧ toLowerRune c = c :=
    fun c hc => IsNameChar.settled (mem_join hwords hc)
  have htext : (toLower (trimSpace (String.ofList (join '-' ws)))).toList = join '-' ws := by
    rw [toLower, trimSpace, String.toList_ofList, String.toList_ofList, String.toList_ofList,
      trim_of_no_space (fun c hc => (hchars c hc).2.1)]
    exact (List.map_congr_left (fun c hc => (hchars c hc).2.2)).trans (List.map_id _)
  have hkey : keyWords (String.ofList (join '-' ws)) = ws := by
    rw [keyWords, idWords, htext, words_join hsep hwords]
    exact (clean_of_isWord hsep hwords).fit_of_length_le hlen
  rw [nameWords, hkey, if_neg hne]

/-! ## From bytes to characters -/

/-- The hash of the bytes, for the function on characters. -/
def BytesSum256.at (sum : BytesSum256) (requestID : List UInt8) : Sum256 :=
  ⟨fun _ => sum.digest requestID, fun _ => sum.length_digest requestID⟩

theorem isNameChar_of_valid {c : Char} (h : dns1123Invalid c = false) : IsNameChar c := by
  rw [dns1123Invalid, Bool.not_eq_false', Bool.or_eq_true, beq_iff_eq] at h
  exact h

/-- The replacement acts on each character. -/
theorem map_asChar_replaceAllInvalid (cs : List Char) :
    (replaceAllInvalid (encode cs)).map asChar = cs.map replaceInvalid := by
  rw [replaceAllInvalid, segments_encode, List.flatMap_map]
  induction cs with
  | nil => rfl
  | cons c cs ih =>
      rw [List.flatMap_cons, List.map_append, ih, List.map_cons, replaceInvalid]
      cases hinvalid : dns1123Invalid c with
      | true => rfl
      | false =>
          rw [if_neg Bool.false_ne_true, if_neg Bool.false_ne_true,
            map_asChar_encodeRune (isNameChar_of_valid hinvalid).settled.1]
          rfl

/-- The loop that replaces `--` comes to the same on bytes and on characters. -/
theorem map_asChar_collapsed (requestID : List UInt8) :
    (collapsed requestID).map asChar
      = collapse '-' (trim '-' ((toLower (trimSpace (String.ofList (runes requestID)))).toList.map
          replaceInvalid)).length
        (trim '-' ((toLower (trimSpace (String.ofList (runes requestID)))).toList.map
          replaceInvalid)) := by
  rw [collapsed, ← collapse_map asChar_injective, sanitized, ← List.length_map (f := asChar),
    ← trim_map asChar_injective, toLowerBytes_trimSpaceBytes, map_asChar_replaceAllInvalid]
  rfl

/-- Bytes make characters. -/
theorem ofList_runes_ne {requestID : List UInt8} (h : requestID ≠ []) :
    String.ofList (runes requestID) ≠ "" := by
  intro hempty
  have hnil : runes requestID = [] := by
    rw [← String.toList_ofList (l := runes requestID), hempty]
    rfl
  exact h ((segments_eq_nil_iff requestID).mp (List.map_eq_nil_iff.mp hnil))

/-- **THE NAME OF BYTES** is the name of their characters, with the hash of the bytes. -/
theorem crNameFromBytes_chars (sum : BytesSum256) {requestID : List UInt8}
    (h : requestID ≠ []) :
    (crNameFromBytes sum requestID).map asChar
      = (crNameFromRequestID (sum.at requestID) (String.ofList (runes requestID))).toList := by
  rw [crNameFromBytes, crNameFromRequestID, if_neg h,
    if_neg (ofList_runes_ne h)]
  simp only [← map_asChar_collapsed, String.toList_ofList, List.length_map]
  generalize collapsed requestID = s
  have hcut : ((s.map asChar).take maxCRNameLength).rdropWhile (· = '-')
      = ((s.take maxCRNameLength).rdropWhile (· = hyphen)).map asChar := by
    rw [← List.map_take]
    exact rdropWhile_map asChar_injective hyphen _
  have hif : (if maxCRNameLength < s.length then
        ((s.map asChar).take maxCRNameLength).rdropWhile (· = '-') else s.map asChar)
      = (if maxCRNameLength < s.length then (s.take maxCRNameLength).rdropWhile (· = hyphen)
        else s).map asChar := by
    split_ifs
    · exact hcut
    · rfl
  rw [hif]
  generalize (if maxCRNameLength < s.length then (s.take maxCRNameLength).rdropWhile (· = hyphen)
    else s) = t
  simp only [List.map_eq_nil_iff]
  split_ifs
  · refine map_asChar_encode (fun c hc => ?_)
    have hword := isWord_short (sum.at requestID) (String.ofList (runes requestID))
    exact (IsNameChar.settled (Or.inl (hword.2 c hc))).1
  · rfl

/-- The characters of a name are the words of the ID. -/
theorem crNameFromBytes_join (sum : BytesSum256) {requestID : List UInt8} (h : requestID ≠ []) :
    (crNameFromBytes sum requestID).map asChar
      = join '-' (nameWords (sum.at requestID) (String.ofList (runes requestID))) := by
  rw [crNameFromBytes_chars sum h, crName_eq _ (ofList_runes_ne h), String.toList_ofList]

/-! ## Legal names -/

/-- A lower-case letter or a digit. -/
def alnumByte (b : UInt8) : Bool := (0x61 ≤ b && b ≤ 0x7A) || (0x30 ≤ b && b ≤ 0x39)

theorem isAlnum_asChar (b : UInt8) : isAlnum (asChar b) = alnumByte b := by
  rw [Bool.eq_iff_iff, isAlnum_iff, toNat_asChar, alnumByte, Bool.or_eq_true, Bool.and_eq_true,
    Bool.and_eq_true, decide_eq_true_eq, decide_eq_true_eq, decide_eq_true_eq, decide_eq_true_eq,
    UInt8.le_iff_toNat_le, UInt8.le_iff_toNat_le, UInt8.le_iff_toNat_le, UInt8.le_iff_toNat_le]
  exact Iff.rfl

/-- **A LEGAL NAME** of a resource. -/
structure LegalName (name : List UInt8) : Prop where
  length_pos : 1 ≤ name.length
  length_le : name.length ≤ 253
  chars : ∀ b ∈ name, alnumByte b = true ∨ b = hyphen
  first : ∀ b, name.head? = some b → alnumByte b = true
  last : ∀ b, name.getLast? = some b → alnumByte b = true
  single : ¬ [hyphen, hyphen] <:+: name

/-- Bytes that are words that fit make a legal name. -/
theorem legalName_of_words {name : List UInt8} {ws : List (List Char)}
    (hwords : ∀ w ∈ ws, IsWord isAlnum w) (hne : ws ≠ [])
    (hlen : (join '-' ws).length ≤ maxCRNameLength) (h : name.map asChar = join '-' ws) :
    LegalName name := by
  have hsep : isAlnum '-' = false := by decide
  have hclean := clean_of_isWord hsep hwords
  have hlength : name.length = (join '-' ws).length := by rw [← h, List.length_map]
  refine ⟨?_, hlength ▸ hlen, fun b hb => ?_, fun b hb => ?_, fun b hb => ?_, fun hdouble => ?_⟩
  · rw [hlength]
    exact List.length_pos_iff.mpr (fun hnil => hne (hclean.join_eq_nil_iff.mp hnil))
  · have hmem : asChar b ∈ join '-' ws := by
      rw [← h]
      exact List.mem_map_of_mem hb
    rcases mem_join hwords hmem with halnum | hhyphen
    · exact Or.inl (by rw [← isAlnum_asChar, halnum])
    · exact Or.inr (asChar_injective hhyphen)
  · rw [← isAlnum_asChar]
    have hend : (join '-' ws).head? = some (asChar b) := by
      rw [← h, List.head?_map, hb]
      rfl
    exact head?_join hwords hend
  · rw [← isAlnum_asChar]
    have hend : (join '-' ws).getLast? = some (asChar b) := by
      rw [← h, List.getLast?_map, hb]
      rfl
    exact getLast?_join hwords hend
  · have hjoin := hclean.not_doubled_join
    rw [← h] at hjoin
    have hmap : doubled '-' (name.map asChar) = doubled hyphen name :=
      doubled_map asChar_injective hyphen name
    rw [hmap, (doubled_iff name).mpr hdouble] at hjoin
    cases hjoin

/-- **NAMES ARE LEGAL AND STABLE**: for any bytes but none, the loop stops, the name is legal,
    and the name of the name is the name. -/
theorem crName_legal (sum : BytesSum256) (requestID : List UInt8) (h : requestID ≠ []) :
    GoLoops.Ends (doubled hyphen) (halve hyphen) (sanitized requestID) (collapsed requestID)
      ∧ LegalName (crNameFromBytes sum requestID)
      ∧ crNameFromBytes sum (crNameFromBytes sum requestID) = crNameFromBytes sum requestID := by
  have hname := crNameFromBytes_join sum h
  have hwords := isWord_nameWords (sum.at requestID) (String.ofList (runes requestID))
  have hne := nameWords_ne_nil (sum.at requestID) (String.ofList (runes requestID))
  have hlen := length_join_nameWords_le (sum.at requestID) (String.ofList (runes requestID))
  generalize nameWords (sum.at requestID) (String.ofList (runes requestID)) = ws at *
  have hlegal := legalName_of_words hwords hne hlen hname
  refine ⟨ends_collapse _, hlegal, ?_⟩
  generalize crNameFromBytes sum requestID = name at hname hlegal ⊢
  have hrunes : runes name = join '-' ws := by
    rw [runes_of_ascii, hname]
    rw [hname]
    exact fun c hc => (IsNameChar.settled (mem_join hwords hc)).1
  have hagain := crNameFromBytes_join sum (List.length_pos_iff.mp hlegal.length_pos)
  rw [hrunes, nameWords_of_join _ hwords hne hlen, ← hname] at hagain
  exact List.map_injective_iff.mpr asChar_injective hagain

/-- A digest, as far as its length goes. -/
def zeroDigest : BytesSum256 := ⟨fun _ => List.replicate 32 0, fun _ => List.length_replicate⟩

/-- A lone continuation byte in upper-case letters and underscores. -/
theorem brokenID_legal :
    crNameFromBytes zeroDigest [0x41, 0x80, 0x5F, 0x42, 0x21] = [0x61, 0x2D, 0x62]
      ∧ LegalName (crNameFromBytes zeroDigest [0x41, 0x80, 0x5F, 0x42, 0x21])
      ∧ crNameFromBytes zeroDigest [0x61, 0x2D, 0x62] = [0x61, 0x2D, 0x62] := by
  have hbroken : crNameFromBytes zeroDigest [0x41, 0x80, 0x5F, 0x42, 0x21]
      = [0x61, 0x2D, 0x62] := by decide +kernel
  obtain ⟨-, hlegal, hagain⟩ := crName_legal zeroDigest [0x41, 0x80, 0x5F, 0x42, 0x21]
    (List.cons_ne_nil _ _)
  rw [hbroken] at hagain
  exact ⟨hbroken, hlegal, hagain⟩

end GpuCRNameBytes
