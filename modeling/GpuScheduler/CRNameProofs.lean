import GpuScheduler.GoStringsProofs
import GpuScheduler.WordsProofs

/-! # The CR name of a request

    `CRNameFromRequestID` turns a request ID into a resource name: lower case, a hyphen
    for every other character than a letter, a digit or a hyphen, no hyphens at the
    ends, no two hyphens in a row, 253 characters at most, and the start of a hash when
    nothing is left.

    `crName_eq` says what remains of the ID: its words, up to 253 characters, joined by
    single hyphens.  So two IDs have the same name exactly when they agree on those
    words (`crName_eq_iff`). -/

namespace GpuCRName

open GoStrings Words

/-- `maxCRNameLength`. -/
def maxCRNameLength : Nat := 253

/-- A lower-case letter or a digit. -/
def isAlnum (c : Char) : Bool := ('a' ≤ c && c ≤ 'z') || ('0' ≤ c && c ≤ '9')

/-- `dns1123Invalid`: any other character than `[a-z0-9-]`. -/
def dns1123Invalid (c : Char) : Bool := !(isAlnum c || c == '-')

/-- `dns1123Invalid.ReplaceAllString(s, "-")`, at one character. -/
def replaceInvalid (c : Char) : Char := if dns1123Invalid c then '-' else c

/-- `sha256.Sum256`: a digest of 32 bytes. -/
structure Sum256 where
  digest : String → List UInt8
  length_digest : ∀ s, (digest s).length = 32

/-- The digits of `hex.EncodeToString`. -/
def hexDigit (n : Nat) : Char := "0123456789abcdef".toList.getD n '0'

/-- `hex.EncodeToString`. -/
def encodeToString (bytes : List UInt8) : List Char :=
  bytes.flatMap (fun b => [hexDigit (b.toNat / 16), hexDigit (b.toNat % 16)])

/-- The short hash of a request ID: the first 16 digits. -/
def Sum256.short (sum : Sum256) (requestID : String) : List Char :=
  (encodeToString (sum.digest requestID)).take 16

/-- `CRNameFromRequestID`; the loop that replaces `--` needs no more rounds than there are
    characters. -/
def crNameFromRequestID (sum : Sum256) (requestID : String) : String :=
  if requestID = "" then ""
  else
    let s := (toLower (trimSpace requestID)).toList
    let s := s.map replaceInvalid
    let s := trim '-' s
    let s := collapse '-' s.length s
    let s := if maxCRNameLength < s.length then
        (s.take maxCRNameLength).rdropWhile (· = '-') else s
    let s := if s = [] then sum.short requestID else s
    String.ofList s

/-! ## What a name keeps of an ID -/

/-- The words of a request ID: its runs of letters and digits, in lower case. -/
def idWords (requestID : String) : List (List Char) :=
  words isAlnum (toLower (trimSpace requestID)).toList

/-- The words that fit into a name. -/
def keyWords (requestID : String) : List (List Char) := fit maxCRNameLength (idWords requestID)

/-- The words of a name: those of the ID, or the short hash of an ID without words. -/
def nameWords (sum : Sum256) (requestID : String) : List (List Char) :=
  if keyWords requestID = [] then [sum.short requestID] else keyWords requestID

theorem clean_keyWords (requestID : String) : Clean '-' (keyWords requestID) :=
  (clean_words (by decide) _).fit _

theorem length_encodeToString (bytes : List UInt8) :
    (encodeToString bytes).length = 2 * bytes.length := by
  induction bytes with
  | nil => rfl
  | cons b bytes ih =>
      rw [encodeToString, List.flatMap_cons, ← encodeToString, List.length_append, ih]
      simp only [List.length_cons, List.length_nil]
      omega

theorem not_mem_encodeToString (bytes : List UInt8) : '-' ∉ encodeToString bytes := by
  have hdigit : ∀ n, '-' ≠ hexDigit n := by
    intro n
    by_cases hn : n < 16
    · revert n
      decide
    · rw [hexDigit, List.getD_eq_default]
      · decide
      · exact Nat.le_of_not_lt hn
  intro hmem
  obtain ⟨b, -, hb⟩ := List.mem_flatMap.mp hmem
  rcases List.mem_cons.mp hb with h | h
  · exact hdigit _ h
  · exact hdigit _ (List.mem_singleton.mp h)

/-- A short hash is one word of 16 characters. -/
theorem clean_short (sum : Sum256) (requestID : String) : Clean '-' [sum.short requestID] := by
  intro w hw
  obtain rfl := List.mem_singleton.mp hw
  constructor
  · intro hnil
    have hlen := congrArg List.length hnil
    rw [Sum256.short, List.length_take, length_encodeToString, sum.length_digest] at hlen
    exact absurd hlen (by decide)
  · exact fun hmem => not_mem_encodeToString _ (List.mem_of_mem_take hmem)

theorem clean_nameWords (sum : Sum256) (requestID : String) :
    Clean '-' (nameWords sum requestID) := by
  rw [nameWords]
  split_ifs
  · exact clean_short sum requestID
  · exact clean_keyWords requestID

theorem nameWords_ne_nil (sum : Sum256) (requestID : String) : nameWords sum requestID ≠ [] := by
  rw [nameWords]
  split_ifs with h
  · exact List.cons_ne_nil _ _
  · exact h

theorem replaceInvalid_of_isAlnum {c : Char} (h : isAlnum c = true) : replaceInvalid c = c := by
  rw [replaceInvalid, dns1123Invalid, h]
  rfl

theorem isAlnum_replaceInvalid {c : Char} (h : isAlnum c = false) :
    isAlnum (replaceInvalid c) = false := by
  rw [replaceInvalid]
  split_ifs
  · decide
  · exact h

/-- Nothing but words and hyphens is left. -/
theorem isAlnum_or_hyphen (c : Char) :
    isAlnum (replaceInvalid c) = true ∨ replaceInvalid c = '-' := by
  rw [replaceInvalid]
  split_ifs with h
  · exact Or.inr rfl
  · rw [dns1123Invalid, Bool.not_eq_true, Bool.not_eq_false', Bool.or_eq_true, beq_iff_eq] at h
    exact h

/-- **WHAT A NAME IS**: the words of the ID that fit, joined by single hyphens. -/
theorem crName_eq (sum : Sum256) {requestID : String} (h : requestID ≠ "") :
    crNameFromRequestID sum requestID = String.ofList (join '-' (nameWords sum requestID)) := by
  have hhyphen : isAlnum '-' = false := by decide
  have htidy := collapse_trim (l := (toLower (trimSpace requestID)).toList.map replaceInvalid)
    hhyphen (by
      intro c hc
      obtain ⟨d, -, rfl⟩ := List.mem_map.mp hc
      exact isAlnum_or_hyphen d)
  have hwords : words isAlnum ((toLower (trimSpace requestID)).toList.map replaceInvalid)
      = idWords requestID := by
    rw [words, split_map (fun c => replaceInvalid_of_isAlnum) (fun c => isAlnum_replaceInvalid)]
    rfl
  have hcut := (clean_words hhyphen (toLower (trimSpace requestID)).toList).cut_join
    maxCRNameLength
  rw [crNameFromRequestID, if_neg h]
  simp only [htidy, hwords]
  rw [← idWords] at hcut
  rw [hcut, ← keyWords, nameWords]
  simp only [(clean_keyWords requestID).join_eq_nil_iff]
  split_ifs
  · rw [join_cons, List.flatMap_nil, List.append_nil]
  · rfl

/-- A name is never empty. -/
theorem crName_ne_empty (sum : Sum256) {requestID : String} (h : requestID ≠ "") :
    crNameFromRequestID sum requestID ≠ "" := by
  rw [crName_eq sum h]
  intro hempty
  have hnil : join '-' (nameWords sum requestID) = [] := by
    have := congrArg String.toList hempty
    rwa [String.toList_ofList] at this
  exact nameWords_ne_nil sum requestID
    ((clean_nameWords sum requestID).join_eq_nil_iff.mp hnil)

/-- Two IDs have one name exactly when they leave the same words. -/
theorem crName_eq_iff (sum : Sum256) {a b : String} (ha : a ≠ "") (hb : b ≠ "") :
    crNameFromRequestID sum a = crNameFromRequestID sum b
      ↔ nameWords sum a = nameWords sum b := by
  rw [crName_eq sum ha, crName_eq sum hb, String.ofList_inj,
    (clean_nameWords sum a).join_inj (clean_nameWords sum b)]

/-- Two IDs that are told apart by their names: their words differ as far as they fit, and
    the hash of an ID without words is not the other ID. -/
structure Separate (sum : Sum256) (a b : String) : Prop where
  words : keyWords a = keyWords b → keyWords a = []
  left : keyWords a = [] → keyWords b ≠ [sum.short a]
  right : keyWords b = [] → keyWords a ≠ [sum.short b]

/-- **NAMES DIFFER** exactly for separate IDs, when the short hashes do not collide. -/
theorem crName_ne_iff (sum : Sum256) {a b : String} (ha : a ≠ "") (hb : b ≠ "") (hab : a ≠ b)
    (hfree : sum.short a = sum.short b → a = b) :
    crNameFromRequestID sum a ≠ crNameFromRequestID sum b ↔ Separate sum a b := by
  rw [Ne, crName_eq_iff sum ha hb, nameWords, nameWords]
  constructor
  · intro hne
    constructor
    · intro hkey
      by_contra ha'
      rw [if_neg ha', if_neg (hkey ▸ ha')] at hne
      exact hne hkey
    · intro ha' hkey
      rw [if_pos ha', if_neg (by rw [hkey]; exact List.cons_ne_nil _ _)] at hne
      exact hne hkey.symm
    · intro hb' hkey
      rw [if_neg (by rw [hkey]; exact List.cons_ne_nil _ _), if_pos hb'] at hne
      exact hne hkey
  · intro hsep heq
    split_ifs at heq with ha' hb' hb'
    · exact hab (hfree (List.cons.inj heq).1)
    · exact hsep.left ha' heq.symm
    · exact hsep.right hb' heq
    · exact ha' (hsep.words heq)

end GpuCRName
