import GpuScheduler.GoStringsProofs

/-! # Formatted texts, and searching in them

    The verbs `%d`, `%q` and `%v` of `fmt`, as far as error texts use them, and
    `strings.Contains` on what they produce.  Two parts of the library stay parameters:
    which characters beyond ASCII are printable, and the digits of a fraction.

    A text that is searched for and has no quotation mark lies before, within or behind a
    quoted string, never across its marks (`contains_quoted`). -/

namespace GoFmt

open GoStrings

/-- What is left open: `unicode.IsPrint` beyond ASCII, and `%v` of a number that is not an
    integer of at most 21 digits. -/
structure Verbs where
  isPrint : Char → Bool
  float : Rat → String

/-- Every character beyond ASCII is printable. -/
def allPrint : Verbs := ⟨fun _ => true, fun _ => ""⟩

variable (v : Verbs)

/-- `strconv.IsPrint`. -/
def Verbs.printable (c : Char) : Bool :=
  if c.toNat < 0x80 then decide (0x20 ≤ c.toNat ∧ c.toNat < 0x7F) else v.isPrint c

/-- Some hexadecimal digits of a number, in lower case. -/
def hex (width n : Nat) : List Char :=
  (List.range width).reverse.map (fun i => Nat.digitChar (n / 16 ^ i % 16))

/-- `appendEscapedRune`, for the quotation mark. -/
def escapeRune (c : Char) : List Char :=
  if c = '\"' ∨ c = '\\' then ['\\', c]
  else if v.printable c then [c]
  else if c.toNat = 7 then ['\\', 'a']
  else if c.toNat = 8 then ['\\', 'b']
  else if c.toNat = 12 then ['\\', 'f']
  else if c.toNat = 10 then ['\\', 'n']
  else if c.toNat = 13 then ['\\', 'r']
  else if c.toNat = 9 then ['\\', 't']
  else if c.toNat = 11 then ['\\', 'v']
  else if c.toNat < 0x20 ∨ c.toNat = 0x7F then '\\' :: 'x' :: hex 2 c.toNat
  else if c.toNat < 0x10000 then '\\' :: 'u' :: hex 4 c.toNat
  else '\\' :: 'U' :: hex 8 c.toNat

/-- A text between quotation marks. -/
def escape (s : String) : String := String.ofList (s.toList.flatMap (escapeRune v))

/-- The `%q` verb: `strconv.Quote`. -/
def quote (s : String) : String := "\"" ++ escape v s ++ "\""

/-- The `%d` verb. -/
def fmtInt (n : Int) : String :=
  if n < 0 then "-" ++ fmtNat n.natAbs else fmtNat n.natAbs

/-- The `%v` verb on a number. -/
def fmtFloat (x : Rat) : String :=
  if x.den = 1 ∧ x.num.natAbs < 10 ^ 21 then fmtInt x.num else v.float x

/-! ## Searching -/

/-- What does not contain a separator lies before or behind it. -/
theorem infix_sep_iff {α : Type} {p a b : List α} {sep : α} (hsep : sep ∉ p) :
    p <:+: a ++ sep :: b ↔ p <:+: a ∨ p <:+: b := by
  constructor
  · rintro ⟨x, y, h⟩
    rw [List.append_assoc] at h
    rcases List.append_eq_append_iff.mp h with ⟨a', rfl, h'⟩ | ⟨c, rfl, h'⟩
    · rcases List.append_eq_append_iff.mp h' with ⟨a'', rfl, -⟩ | ⟨c, rfl, h''⟩
      · exact Or.inl ⟨x, a'', by rw [List.append_assoc]⟩
      · cases c with
        | nil => exact Or.inl ⟨x, [], by simp⟩
        | cons d c =>
            rw [List.cons_append] at h''
            rw [(List.cons.inj h'').1] at hsep
            exact absurd (List.mem_append_right _ (List.mem_cons_self ..)) hsep
    · cases c with
      | nil =>
          cases p with
          | nil => exact Or.inl (List.nil_infix)
          | cons d p =>
              rw [List.nil_append, List.cons_append] at h'
              rw [(List.cons.inj h').1] at hsep
              exact absurd (List.mem_cons_self ..) hsep
      | cons d c =>
          rw [List.cons_append] at h'
          refine Or.inr ⟨c, y, ?_⟩
          rw [List.append_assoc]
          exact (List.cons.inj h').2.symm
  · rintro (⟨x, y, rfl⟩ | ⟨x, y, rfl⟩)
    · exact ⟨x, y ++ sep :: b, by simp⟩
    · exact ⟨a ++ sep :: x, y, by simp⟩

theorem contains_iff {s p : String} : contains s p = true ↔ p.toList <:+: s.toList :=
  decide_eq_true_iff

/-- A text without some character of another does not contain it. -/
theorem not_contains_of_not_mem {s p : String} {c : Char} (hp : c ∈ p.toList)
    (hs : c ∉ s.toList) : contains s p = false :=
  Bool.eq_false_iff.mpr (fun h => hs ((contains_iff.mp h).subset hp))

theorem toLower_append (a b : String) : toLower (a ++ b) = toLower a ++ toLower b := by
  rw [← String.toList_inj, toLower, toLower, toLower, String.toList_append, String.toList_append,
    List.map_append]
  simp

/-- A character of neither part is not in the whole. -/
theorem not_mem_append {a b : String} {c : Char} (ha : c ∉ (toLower a).toList)
    (hb : c ∉ (toLower b).toList) : c ∉ (toLower (a ++ b)).toList := by
  rw [toLower_append, String.toList_append, List.mem_append]
  exact not_or.mpr ⟨ha, hb⟩

/-- What is found in a part is found in the whole. -/
theorem contains_append_left {a p : String} (b : String) (h : contains (toLower a) p = true) :
    contains (toLower (a ++ b)) p = true := by
  rw [contains_iff, toLower_append, String.toList_append]
  exact (contains_iff.mp h).trans (List.prefix_append _ _).isInfix

theorem contains_append_right (a : String) {b p : String} (h : contains (toLower b) p = true) :
    contains (toLower (a ++ b)) p = true := by
  rw [contains_iff, toLower_append, String.toList_append]
  exact (contains_iff.mp h).trans (List.suffix_append _ _).isInfix

theorem toList_quote (s : String) :
    (toLower (quote v s)).toList = '\"' :: ((toLower (escape v s)).toList ++ ['\"']) := by
  rw [quote, toLower_append, toLower_append, String.toList_append, String.toList_append]
  rfl

/-- **SEARCHING A FORMATTED TEXT**: what has no quotation mark is not found across one. -/
theorem contains_quoted {pre post p : String} (s : String) (hp : '\"' ∉ p.toList)
    (hpre : contains (toLower pre) p = false) (hpost : contains (toLower post) p = false) :
    contains (toLower (pre ++ quote v s ++ post)) p = contains (toLower (escape v s)) p := by
  rw [Bool.eq_iff_iff, contains_iff, contains_iff, toLower_append, toLower_append,
    String.toList_append, String.toList_append, toList_quote]
  have hpre' : ¬ p.toList <:+: (toLower pre).toList := fun h => by
    rw [contains_iff.mpr h] at hpre
    cases hpre
  have hpost' : ¬ p.toList <:+: (toLower post).toList := fun h => by
    rw [contains_iff.mpr h] at hpost
    cases hpost
  rw [List.append_assoc, List.cons_append, infix_sep_iff hp, List.append_assoc,
    List.singleton_append, infix_sep_iff hp]
  constructor
  · rintro (h | h | h)
    · exact absurd h hpre'
    · exact h
    · exact absurd h hpost'
  · exact fun h => Or.inr (Or.inl h)

/-! ## Characters that stay -/

/-- Among the first characters only the capital letters have another lower case. -/
theorem lowerRanges_ascii : lowerRanges.all (fun r =>
    Nat.ble 192 r.1 || (Nat.beq r.1 65 && Nat.beq r.2.1 90)) = true := by decide +kernel

theorem toLowerRune_of_ascii {c : Char} (h : c.toNat < 65 ∨ 90 < c.toNat)
    (h' : c.toNat < 192) : toLowerRune c = c := by
  have hnone : lowerRanges.find? (fun r =>
      r.1 ≤ c.toNat && c.toNat ≤ r.2.1 && (c.toNat - r.1) % r.2.2.1 == 0) = none := by
    refine List.find?_eq_none.mpr (fun r hr hin => ?_)
    have hrange := List.all_eq_true.mp lowerRanges_ascii r hr
    simp only [Bool.and_eq_true, Bool.or_eq_true, decide_eq_true_eq, beq_iff_eq, Nat.ble_eq,
      Nat.beq_eq] at hin hrange
    omega
  rw [toLowerRune, hnone]

/-- A capital letter and its lower case. -/
theorem toLowerRune_of_capital {c : Char} (h : 65 ≤ c.toNat) (h' : c.toNat ≤ 90) :
    toLowerRune c = Char.ofNat (c.toNat + 32) := by
  have hfirst : lowerRanges.find? (fun r =>
      r.1 ≤ c.toNat && c.toNat ≤ r.2.1 && (c.toNat - r.1) % r.2.2.1 == 0)
      = some (65, 90, 1, 32) := by
    refine List.find?_cons_of_pos ?_
    simp [h, h', Nat.mod_one]
  rw [toLowerRune, hfirst]
  rfl

/-- `unicode.ToLower` on ASCII. -/
def asciiLower (c : Char) : Char :=
  if Nat.ble 65 c.toNat && Nat.ble c.toNat 90 then Char.ofNat (c.toNat + 32) else c

/-- The lower case of an ASCII text, without the Unicode table. -/
theorem toLower_of_ascii {s : String} (h : ∀ c ∈ s.toList, c.toNat < 128) :
    (toLower s).toList = s.toList.map asciiLower := by
  rw [toLower, String.toList_ofList]
  refine List.map_congr_left (fun c hc => ?_)
  have hascii := h c hc
  by_cases hrange : 65 ≤ c.toNat ∧ c.toNat ≤ 90
  · rw [toLowerRune_of_capital hrange.1 hrange.2, asciiLower, if_pos]
    simp [hrange.1, hrange.2]
  · rw [toLowerRune_of_ascii (by omega) (by omega), asciiLower, if_neg]
    simp only [Bool.and_eq_true, Nat.ble_eq]
    exact hrange

/-- An ASCII text has in lower case the letters that it has in either case. -/
theorem not_mem_toLower_of_ascii {c : Char} {s : String}
    (h : ∀ d ∈ s.toList, d.toNat < 128 ∧ d ≠ c ∧ Char.ofNat (d.toNat + 32) ≠ c) :
    c ∉ (toLower s).toList := by
  rw [toLower, String.toList_ofList]
  intro hmem
  obtain ⟨d, hd, hlower⟩ := List.mem_map.mp hmem
  obtain ⟨hascii, hne, hcapital⟩ := h d hd
  by_cases hrange : 65 ≤ d.toNat ∧ d.toNat ≤ 90
  · rw [toLowerRune_of_capital hrange.1 hrange.2] at hlower
    exact hcapital hlower
  · rw [toLowerRune_of_ascii (by omega) (by omega)] at hlower
    exact hne hlower

/-- Numbers have digits and a sign. -/
theorem not_mem_toLower_fmtInt {c : Char} (hc : c.isDigit = false) (hsign : c ≠ '-') (n : Int) :
    c ∉ (toLower (fmtInt n)).toList := by
  have hdigits : ∀ m : Nat, c ∉ (toLower (fmtNat m)).toList := by
    intro m hmem
    rw [toLower, String.toList_ofList] at hmem
    obtain ⟨d, hd, rfl⟩ := List.mem_map.mp hmem
    have hdigit : d.isDigit = true := by
      by_contra hnot
      exact not_mem_fmtNat (Bool.eq_false_iff.mpr hnot) m hd
    have hrange : d.toNat < 65 := by
      simp only [Char.isDigit, Bool.and_eq_true, decide_eq_true_eq] at hdigit
      exact lt_of_le_of_lt (UInt32.le_iff_toNat_le.mp hdigit.2) (by decide)
    rw [toLowerRune_of_ascii (Or.inl hrange) (by omega), hdigit] at hc
    cases hc
  rw [fmtInt]
  split_ifs
  · refine not_mem_append (fun hmem => ?_) (hdigits _)
    have hdash : (toLower "-").toList = ['-'] := by decide +kernel
    rw [hdash] at hmem
    exact hsign (List.mem_singleton.mp hmem)
  · exact hdigits _

/-- A character that is printed as it is and has no lower case of its own. -/
def Plain (c : Char) : Prop :=
  (0x20 < c.toNat ∧ c.toNat < 0x7F) ∧ (c.toNat < 65 ∨ 90 < c.toNat) ∧ c ≠ '\"' ∧ c ≠ '\\'

/-- A text of such characters stays as it is. -/
theorem toLower_escape_of_plain {s : String} (h : ∀ c ∈ s.toList, Plain c) :
    toLower (escape v s) = s := by
  rw [← String.toList_inj, toLower, escape, String.toList_ofList, String.toList_ofList]
  generalize s.toList = cs at h ⊢
  induction cs with
  | nil => rfl
  | cons c rest ih =>
      obtain ⟨⟨hlo, hhi⟩, hcase, hquote, hback⟩ := h c (List.mem_cons_self ..)
      have hprint : v.printable c = true := by
        rw [Verbs.printable, if_pos (by omega)]
        exact decide_eq_true ⟨by omega, hhi⟩
      rw [List.flatMap_cons, escapeRune, if_neg (not_or.mpr ⟨hquote, hback⟩), if_pos hprint,
        List.singleton_append, List.map_cons, toLowerRune_of_ascii hcase (by omega),
        ih (fun d hd => h d (List.mem_cons_of_mem _ hd))]

/-- Nothing with a space is found in it. -/
theorem not_contains_of_plain {s p : String} (h : ∀ c ∈ s.toList, Plain c)
    (hp : ' ' ∈ p.toList) : contains (toLower (escape v s)) p = false := by
  refine not_contains_of_not_mem hp (fun hmem => ?_)
  rw [toLower_escape_of_plain v h] at hmem
  exact absurd (h ' ' hmem).1.1 (by decide)

/-! ## Formatted texts -/

/-- What a verb puts between two words: a number as it is written, a text between quotation
    marks, or one between brackets. -/
inductive Verb where
  | number (digits : String)
  | quoted (text : String)
  | bracketed (text : String)

/-- The text of a verb. -/
def Verb.render : Verb → String
  | .number digits => digits
  | .quoted text => quote v text
  | .bracketed text => "(" ++ text ++ ")"

/-- A formatted text: words, and verbs between them. -/
structure Formatted where
  first : String
  rest : List (Verb × String)

/-- The words and verbs behind the first ones. -/
def renderRest : List (Verb × String) → String
  | [] => ""
  | r :: rest => r.1.render v ++ r.2 ++ renderRest rest

/-- The text. -/
def Formatted.render (f : Formatted) : String := f.first ++ renderRest v f.rest

/-- A text that another one neither lies in nor reaches into. -/
structure Barrier (p l : List Char) : Prop where
  nonempty : l ≠ []
  head : ∀ c ∈ l.head?, c ∉ p
  last : ∀ c ∈ l.getLast?, c ∉ p
  inside : ¬ p <:+: l

/-- What does not reach into the middle lies on one side of it. -/
theorem infix_barrier_iff {p a l b : List Char} (h : Barrier p l) :
    p <:+: a ++ (l ++ b) ↔ p <:+: a ∨ p <:+: b := by
  cases l with
  | nil => exact absurd rfl h.nonempty
  | cons c m =>
      rw [List.cons_append, infix_sep_iff (h.head c rfl)]
      refine or_congr_right ?_
      rcases List.eq_nil_or_concat m with rfl | ⟨m, d, rfl⟩
      · rfl
      · have hlast : d ∈ (c :: m.concat d).getLast? := by
          rw [List.concat_eq_append, ← List.cons_append, List.getLast?_concat]
          rfl
        have hinside : ¬ p <:+: m := fun hm => h.inside
          (hm.trans ⟨[c], [d], by rw [List.concat_eq_append]; rfl⟩)
        rw [List.concat_eq_append, List.append_assoc, List.singleton_append,
          infix_sep_iff (h.last d hlast)]
        exact or_iff_right hinside

/-- The text that a verb takes over as it is. -/
def Verb.taken : Verb → List String
  | .number _ => []
  | .quoted text => [escape v text]
  | .bracketed text => [text]

/-- The numbers of a text are barriers. -/
def Verb.Clear (p : String) : Verb → Prop
  | .number digits => Barrier p.toList (toLower digits).toList
  | _ => True

/-- What has no quotation mark and no bracket. -/
def Unmarked (p : String) : Prop := ∀ c ∈ p.toList, c ≠ '\"' ∧ c ≠ '(' ∧ c ≠ ')'

instance (p : String) : Decidable (Unmarked p) := inferInstanceAs (Decidable (∀ c ∈ _, _))

/-- A verb separates what stands before it from what stands behind it. -/
theorem contains_verb {p : String} (hp : Unmarked p) {verb : Verb} (h : verb.Clear p)
    (a b : String) :
    contains (toLower (a ++ (verb.render v ++ b))) p
      = (contains (toLower a) p || ((verb.taken v).any (fun t => contains (toLower t) p)
        || contains (toLower b) p)) := by
  rw [Bool.eq_iff_iff, Bool.or_eq_true, Bool.or_eq_true, contains_iff, contains_iff, contains_iff,
    toLower_append, toLower_append, String.toList_append, String.toList_append]
  cases verb with
  | number digits =>
      rw [Verb.render, infix_barrier_iff h]
      exact or_congr_right (or_iff_right Bool.false_ne_true).symm
  | quoted text =>
      have hmark : '\"' ∉ p.toList := fun hc => (hp _ hc).1 rfl
      rw [Verb.render, toList_quote, List.cons_append, infix_sep_iff hmark, List.append_assoc,
        List.singleton_append, infix_sep_iff hmark, Verb.taken, List.any_cons, List.any_nil,
        Bool.or_false, contains_iff]
  | bracketed text =>
      have hleft : '(' ∉ p.toList := fun hc => (hp _ hc).2.1 rfl
      have hright : ')' ∉ p.toList := fun hc => (hp _ hc).2.2 rfl
      have htext : (toLower ("(" ++ text ++ ")")).toList
          = '(' :: ((toLower text).toList ++ [')']) := by
        rw [toLower_append, toLower_append, String.toList_append, String.toList_append]
        rfl
      rw [Verb.render, htext, List.cons_append, infix_sep_iff hleft, List.append_assoc,
        List.singleton_append, infix_sep_iff hright, Verb.taken, List.any_cons, List.any_nil,
        Bool.or_false, contains_iff]

/-- The words of a text. -/
def Formatted.words (f : Formatted) : List String := f.first :: f.rest.map Prod.snd

/-- The texts that it takes over. -/
def Formatted.taken (f : Formatted) : List String := f.rest.flatMap (fun r => r.1.taken v)

/-- **SEARCHING A FORMATTED TEXT**, whole: what is searched for is found in the words or in the
    texts taken over, and nowhere else. -/
theorem contains_render {p : String} (hp : Unmarked p) {f : Formatted}
    (h : ∀ r ∈ f.rest, r.1.Clear p) :
    contains (toLower (f.render v)) p
      = (f.words.any (fun t => contains (toLower t) p)
        || (f.taken v).any (fun t => contains (toLower t) p)) := by
  obtain ⟨first, rest⟩ := f
  induction rest generalizing first with
  | nil =>
      show contains (toLower (first ++ "")) p = _
      rw [String.append_empty]
      simp [Formatted.words, Formatted.taken]
  | cons r rest ih =>
      have hrest := ih r.2 (fun q hq => h q (List.mem_cons_of_mem _ hq))
      have hverb := contains_verb v hp (h r (List.mem_cons_self ..)) first
        (r.2 ++ renderRest v rest)
      have hshape : Formatted.render v ⟨first, r :: rest⟩
          = first ++ (r.1.render v ++ (r.2 ++ renderRest v rest)) := by
        rw [Formatted.render, renderRest, String.append_assoc]
      rw [hshape, hverb]
      show (_ || (_ || contains (toLower (Formatted.render v ⟨r.2, rest⟩)) p)) = _
      rw [hrest]
      simp only [Formatted.words, Formatted.taken, List.map_cons, List.any_cons,
        List.flatMap_cons, List.any_append]
      ac_rfl

/-- A number is a barrier to what has a space, no digit and no sign. -/
theorem barrier_fmtInt {p : String} (hdigit : ∀ c ∈ p.toList, c.isDigit = false)
    (hsign : '-' ∉ p.toList) (hp : p ≠ "") (n : Int) :
    Barrier p.toList (toLower (fmtInt n)).toList := by
  have hmem : ∀ c ∈ p.toList, c ∉ (toLower (fmtInt n)).toList := fun c hc =>
    not_mem_toLower_fmtInt (hdigit c hc) (fun he => hsign (he ▸ hc)) n
  have hne : (toLower (fmtInt n)).toList ≠ [] := by
    intro hnil
    have hempty := (toLower_eq_empty_iff _).mp (String.toList_inj.mp hnil)
    have hpos : fmtNat n.natAbs ≠ "" := by
      intro hzero
      have hdigits := congrArg String.toList hzero
      rw [toList_fmtNat] at hdigits
      exact Nat.toDigits_ne_nil hdigits
    rw [fmtInt] at hempty
    split_ifs at hempty
    · have hlist := congrArg String.toList hempty
      rw [String.toList_append] at hlist
      cases hlist
    · exact hpos hempty
  refine ⟨hne, fun c hc hin => hmem c hin (List.mem_of_mem_head? hc),
    fun c hc hin => hmem c hin (List.mem_of_mem_getLast? hc), fun hin => ?_⟩
  obtain ⟨c, hc⟩ := List.exists_mem_of_ne_nil _ (fun hnil => hp (String.toList_inj.mp hnil))
  exact hmem c hc (hin.subset hc)

end GoFmt
