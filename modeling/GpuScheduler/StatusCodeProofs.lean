import GpuScheduler.ErrorTextProofs

/-! # Status codes read off error texts

    The HTTP interface answers an error of the simulator with a status that it finds by
    searching the error's text.  Every text is a `Formatted` one: constant words, and between
    them numbers and the texts that the caller sent.  The words alone tell the errors apart as
    they should; `status_exact_iff` says which texts of a caller disguise an error as another
    one. -/

namespace GpuStatusCode

open GoStrings GoFmt GpuInputs GpuPlacement GpuSimulator GpuErrorText

variable (v : Verbs)

/-! ## The search -/

/-- `statusForError`, on the text; whether it reads as a number makes no difference. -/
def statusForText (text : String) : Nat :=
  let msg := toLower text
  if contains msg "not found" then 404
  else if contains msg "already has an allocation" then 409
  else if contains msg "already has a running run" then 409
  else if contains msg "already exists" then 409
  else 400

/-- `statusForError`. -/
def statusForError (e : SimError) : Nat := statusForText (errorText v e)

/-- What an error is: something missing, a conflict, or a bad request. -/
def codeOf : SimError → Nat
  | .runNotFound _ => 404
  | .runForWorkloadNotFound _ => 404
  | .alreadyAllocated _ => 409
  | .alreadyRunning _ _ => 409
  | _ => 400

/-- The texts that are searched for. -/
def phrases : List String :=
  ["not found", "already has an allocation", "already has a running run", "already exists"]

/-- The one that the words of an error hold. -/
def ownPhrase : SimError → Option String
  | .runNotFound _ => some "not found"
  | .runForWorkloadNotFound _ => some "not found"
  | .alreadyAllocated _ => some "already has an allocation"
  | .alreadyRunning _ _ => some "already has a running run"
  | _ => none

/-! ## The texts in pieces -/

/-- Words in front of a number. -/
def counted (words : String) (n : Int) : Formatted := ⟨words, [(.number (fmtInt n), "")]⟩

/-- `errorText`, in pieces. -/
def formatted : SimError → Formatted
  | .build (.nodeCountNotPositive got) => counted "NodeCount must be positive, got " got
  | .build (.devicesPerNodeNotPositive got) => counted "DevicesPerNode must be positive, got " got
  | .build (.memoryMiBPerDeviceNotPositive got) =>
      counted "MemoryMiBPerDevice must be positive, got " got
  | .workloadIDRequired => ⟨"workloadID is required", []⟩
  | .gpuCountNotPositive got => counted "gpuCount must be positive, got " got
  | .memMiBNotPositive got => counted "memMiB must be positive, got " got
  | .alreadyAllocated id => ⟨"workload ", [(.quoted id, " already has an allocation")]⟩
  | .fleetNotRegistered => ⟨"fleet is not registered", []⟩
  | .maxNodesNegative got => counted "maxNodes must be >= 0, got " got
  | .placementFailed id (.noSingleNode need) =>
      ⟨"placement failed for workload ",
        [(.quoted id, ": requireSameNode=true but no node has "),
          (.number (fmtInt need), " eligible devices")]⟩
  | .placementFailed id (.unknownPolicy raw) =>
      ⟨"placement failed for workload ",
        [(.quoted id, ": unknown placementPolicy "), (.quoted raw, "")]⟩
  | .insufficientDevices id need memMiB found =>
      ⟨"insufficient free devices for workload ",
        [(.quoted id, ": need "), (.number (fmtInt need), " devices with >="),
          (.number (fmtInt memMiB), " MiB each, found "), (.number (fmtInt found), "")]⟩
  | .tokensNotPositive got => counted "tokens must be positive, got " got
  | .profileRequired => ⟨"profile is required", []⟩
  | .unsupportedKind kind => ⟨"unsupported workload kind ", [(.quoted (kindText kind), "")]⟩
  | .fractionOutOfRange field got =>
      ⟨fractionText field ++ ", got ", [(.number (fmtFloat v got), "")]⟩
  | .unknownTeacherProfile profile =>
      ⟨"unknown teacher profile ", [(.quoted profile, " for distillation")]⟩
  | .noAllocation id => ⟨"workload ", [(.quoted id, " has no allocation; call Allocate first")]⟩
  | .allocationEmpty id => ⟨"workload ", [(.quoted id, " allocation has no devices")]⟩
  | .alreadyRunning id runID =>
      ⟨"workload ", [(.quoted id, " already has a running run "), (.bracketed runID, "")]⟩
  | .deviceCountNotPositive got => counted "deviceCount must be positive, got " got
  | .unknownRuntimeProfile profile =>
      ⟨"unknown profile ", [(.quoted profile, " for runtime estimation")]⟩
  | .unknownHardwareProfile profile =>
      ⟨"unknown profile ", [(.quoted profile, " for hardware metadata")]⟩
  | .runIDRequired => ⟨"runID is required", []⟩
  | .runNotFound runID => ⟨"run ", [(.quoted runID, " not found")]⟩
  | .runForWorkloadNotFound id => ⟨"run for workload ", [(.quoted id, " not found")]⟩

/-- The texts in an error that are not its own, as the verbs print them. -/
def taken (e : SimError) : List String := (formatted v e).taken v

/-- `%v` of a fraction: digits, a point, an exponent and signs, between digits. -/
structure Numeric : Prop where
  chars : ∀ x, ∀ c ∈ (v.float x).toList, c.isDigit = true ∨ c ∈ ['.', 'e', '+', '-']
  nonempty : ∀ x, v.float x ≠ ""
  head : ∀ x, ∀ c ∈ (v.float x).toList.head?, c.isDigit = true ∨ c = '-'
  last : ∀ x, ∀ c ∈ (v.float x).toList.getLast?, c.isDigit = true

section
variable (a b c t d : String)

theorem render_words : Formatted.render v ⟨a, []⟩ = a := String.append_empty

theorem render_number : Formatted.render v ⟨a, [(.number d, b)]⟩ = a ++ d ++ b := by
  simp only [Formatted.render, renderRest, Verb.render, String.append_assoc, String.append_empty]

theorem render_counted (n : Int) : (counted a n).render v = a ++ fmtInt n :=
  (render_number v a "" (fmtInt n)).trans String.append_empty

theorem render_quoted : Formatted.render v ⟨a, [(.quoted t, b)]⟩ = a ++ quote v t ++ b := by
  simp only [Formatted.render, renderRest, Verb.render, String.append_assoc, String.append_empty]

/-- Behind a first verb comes the rest of the text. -/
theorem render_cons (verb : Verb) (rest : List (Verb × String)) :
    Formatted.render v ⟨a, (verb, b) :: rest⟩
      = a ++ verb.render v ++ Formatted.render v ⟨b, rest⟩ := by
  simp only [Formatted.render, renderRest, String.append_assoc]

end

/-- **THE PIECES** are the text. -/
theorem render_formatted (e : SimError) : (formatted v e).render v = errorText v e := by
  cases e with
  | build err =>
      cases err with
      | nodeCountNotPositive got => exact render_counted v _ got
      | devicesPerNodeNotPositive got => exact render_counted v _ got
      | memoryMiBPerDeviceNotPositive got => exact render_counted v _ got
  | workloadIDRequired => exact render_words v _
  | gpuCountNotPositive got => exact render_counted v _ got
  | memMiBNotPositive got => exact render_counted v _ got
  | alreadyAllocated id => exact render_quoted v _ _ id
  | fleetNotRegistered => exact render_words v _
  | maxNodesNegative got => exact render_counted v _ got
  | placementFailed id err =>
      cases err with
      | noSingleNode need =>
          have hnat : fmtInt (need : Int) = fmtNat need := by
            rw [fmtInt, if_neg (by omega), Int.natAbs_natCast]
          refine (render_cons v _ _ _ _).trans ?_
          rw [render_number, hnat]
          show _ = "placement failed for workload " ++ quote v id ++ ": "
            ++ ("requireSameNode=true but no node has " ++ fmtNat need ++ " eligible devices")
          have hwords : ": requireSameNode=true but no node has "
              = ": " ++ "requireSameNode=true but no node has " := rfl
          simp only [Verb.render, hwords, String.append_assoc]
      | unknownPolicy raw =>
          refine (render_cons v _ _ _ _).trans ?_
          rw [render_quoted, String.append_empty]
          show _ = "placement failed for workload " ++ quote v id ++ ": "
            ++ ("unknown placementPolicy " ++ quote v raw)
          have hwords : ": unknown placementPolicy " = ": " ++ "unknown placementPolicy " := rfl
          simp only [Verb.render, hwords, String.append_assoc]
  | insufficientDevices id need memMiB found =>
      refine (render_cons v _ _ _ _).trans ?_
      rw [render_cons, render_cons, render_number, String.append_empty]
      show _ = "insufficient free devices for workload " ++ quote v id
        ++ (": need " ++ fmtInt need ++ " devices with >=" ++ fmtInt memMiB
          ++ " MiB each, found " ++ fmtInt found)
      simp only [Verb.render, String.append_assoc]
  | tokensNotPositive got => exact render_counted v _ got
  | profileRequired => exact render_words v _
  | unsupportedKind kind =>
      exact (render_quoted v _ _ _).trans String.append_empty
  | fractionOutOfRange field got =>
      exact (render_number v _ _ _).trans String.append_empty
  | unknownTeacherProfile profile => exact render_quoted v _ _ profile
  | noAllocation id => exact render_quoted v _ _ id
  | allocationEmpty id => exact render_quoted v _ _ id
  | alreadyRunning id runID =>
      refine (render_cons v _ _ _ _).trans ?_
      rw [render_cons, render_words, String.append_empty]
      show _ = "workload " ++ quote v id ++ (" already has a running run " ++ "(") ++ runID ++ ")"
      simp only [Verb.render, String.append_assoc]
  | deviceCountNotPositive got => exact render_counted v _ got
  | unknownRuntimeProfile profile => exact render_quoted v _ _ profile
  | unknownHardwareProfile profile => exact render_quoted v _ _ profile
  | runIDRequired => exact render_words v _
  | runNotFound runID => exact render_quoted v _ _ runID
  | runForWorkloadNotFound id => exact render_quoted v _ _ id

/-! ## What is found in the words -/

/-- The words of the errors, with what they hold of the phrases. -/
def wordTable : List (List String × Option String) :=
  [(["NodeCount must be positive, got ", ""], none),
    (["DevicesPerNode must be positive, got ", ""], none),
    (["MemoryMiBPerDevice must be positive, got ", ""], none),
    (["workloadID is required"], none), (["gpuCount must be positive, got ", ""], none),
    (["memMiB must be positive, got ", ""], none),
    (["workload ", " already has an allocation"], some "already has an allocation"),
    (["fleet is not registered"], none), (["maxNodes must be >= 0, got ", ""], none),
    (["placement failed for workload ", ": requireSameNode=true but no node has ",
      " eligible devices"], none),
    (["placement failed for workload ", ": unknown placementPolicy ", ""], none),
    (["insufficient free devices for workload ", ": need ", " devices with >=",
      " MiB each, found ", ""], none),
    (["tokens must be positive, got ", ""], none), (["profile is required"], none),
    (["unsupported workload kind ", ""], none),
    (["unknown teacher profile ", " for distillation"], none),
    (["workload ", " has no allocation; call Allocate first"], none),
    (["workload ", " allocation has no devices"], none),
    (["workload ", " already has a running run ", ""], some "already has a running run"),
    (["runID is required"], none), (["run ", " not found"], some "not found"),
    (["run for workload ", " not found"], some "not found"),
    (["deviceCount must be positive, got ", ""], none),
    (["unknown profile ", " for runtime estimation"], none),
    (["unknown profile ", " for hardware metadata"], none)]
    ++ [.jitterPct, .evalMetricOverheadPct, .evalValidationOverheadPct,
        .fineTuneWarmStartOverheadPct, .fineTuneCheckpointLoadOverheadPct,
        .dataPreprocessTokenizationOverheadPct, .dataPreprocessAugmentationOverheadPct,
        .distillationTeacherForwardOverheadPct].map
      (fun field => ([fractionText field ++ ", got ", ""], none))

theorem wordTable_all : wordTable.all (fun row =>
    row.1.all (fun t => t.toList.all (fun c => Nat.ble c.toNat 127))
      && phrases.all (fun p => row.1.any (fun t =>
        decide (p.toList <:+: t.toList.map asciiLower)) == (row.2 == some p))) = true := by
  decide +kernel

/-- A row of the table says which phrase its words hold. -/
theorem wordTable_holds {row : List String × Option String} (h : row ∈ wordTable) {p : String}
    (hp : p ∈ phrases) : row.1.any (fun t => contains (toLower t) p) = (row.2 == some p) := by
  have hrow := List.all_eq_true.mp wordTable_all row h
  rw [Bool.and_eq_true] at hrow
  have hsame : ∀ t ∈ row.1,
      contains (toLower t) p = decide (p.toList <:+: t.toList.map asciiLower) := by
    intro t ht
    have hascii := List.all_eq_true.mp (List.all_eq_true.mp hrow.1 t ht)
    have hlower := toLower_of_ascii (s := t)
      (fun c hc => Nat.lt_succ_of_le (Nat.le_of_ble_eq_true (hascii c hc)))
    rw [contains, hlower]
  have hany : row.1.any (fun t => contains (toLower t) p)
      = row.1.any (fun t => decide (p.toList <:+: t.toList.map asciiLower)) := by
    rw [Bool.eq_iff_iff, List.any_eq_true, List.any_eq_true]
    exact exists_congr (fun t => and_congr_right (fun ht => by rw [hsame t ht]))
  rw [hany]
  exact beq_iff_eq.mp (List.all_eq_true.mp hrow.2 p hp)

/-- The words of every error are in the table. -/
theorem words_mem_wordTable (e : SimError) :
    ((formatted v e).words, ownPhrase e) ∈ wordTable := by
  cases e with
  | build err =>
      cases err with
      | nodeCountNotPositive got => exact List.mem_of_getElem? (i := 0) rfl
      | devicesPerNodeNotPositive got => exact List.mem_of_getElem? (i := 1) rfl
      | memoryMiBPerDeviceNotPositive got => exact List.mem_of_getElem? (i := 2) rfl
  | workloadIDRequired => exact List.mem_of_getElem? (i := 3) rfl
  | gpuCountNotPositive got => exact List.mem_of_getElem? (i := 4) rfl
  | memMiBNotPositive got => exact List.mem_of_getElem? (i := 5) rfl
  | alreadyAllocated id => exact List.mem_of_getElem? (i := 6) rfl
  | fleetNotRegistered => exact List.mem_of_getElem? (i := 7) rfl
  | maxNodesNegative got => exact List.mem_of_getElem? (i := 8) rfl
  | placementFailed id err =>
      cases err with
      | noSingleNode need => exact List.mem_of_getElem? (i := 9) rfl
      | unknownPolicy raw => exact List.mem_of_getElem? (i := 10) rfl
  | insufficientDevices id need memMiB found => exact List.mem_of_getElem? (i := 11) rfl
  | tokensNotPositive got => exact List.mem_of_getElem? (i := 12) rfl
  | profileRequired => exact List.mem_of_getElem? (i := 13) rfl
  | unsupportedKind kind => exact List.mem_of_getElem? (i := 14) rfl
  | fractionOutOfRange field got =>
      refine List.mem_append_right _ (List.mem_map.mpr ⟨field, ?_, rfl⟩)
      cases field <;> decide
  | unknownTeacherProfile profile => exact List.mem_of_getElem? (i := 15) rfl
  | noAllocation id => exact List.mem_of_getElem? (i := 16) rfl
  | allocationEmpty id => exact List.mem_of_getElem? (i := 17) rfl
  | alreadyRunning id runID => exact List.mem_of_getElem? (i := 18) rfl
  | deviceCountNotPositive got => exact List.mem_of_getElem? (i := 22) rfl
  | unknownRuntimeProfile profile => exact List.mem_of_getElem? (i := 23) rfl
  | unknownHardwareProfile profile => exact List.mem_of_getElem? (i := 24) rfl
  | runIDRequired => exact List.mem_of_getElem? (i := 19) rfl
  | runNotFound runID => exact List.mem_of_getElem? (i := 20) rfl
  | runForWorkloadNotFound id => exact List.mem_of_getElem? (i := 21) rfl

/-- Every error's words hold its own phrase and no other. -/
theorem words_say (e : SimError) {p : String} (hp : p ∈ phrases) :
    (formatted v e).words.any (fun t => contains (toLower t) p) = (ownPhrase e == some p) :=
  wordTable_holds (words_mem_wordTable v e) hp

/-! ## What is found at all -/

theorem phrases_all : phrases.all (fun p => p.toList.contains ' ' && p.toList.all (fun c =>
    c != '\"' && c != '(' && c != ')' && c != '-' && !c.isDigit)) = true := by
  decide +kernel

/-- No phrase has a mark, a digit or a sign; each has a space. -/
theorem phrase_shape {p : String} (hp : p ∈ phrases) : Unmarked p
    ∧ (∀ c ∈ p.toList, c.isDigit = false) ∧ '-' ∉ p.toList ∧ ' ' ∈ p.toList := by
  have hall := List.all_eq_true.mp phrases_all p hp
  simp only [Bool.and_eq_true, List.all_eq_true, bne_iff_ne, Bool.not_eq_true',
    List.contains_iff_mem] at hall
  obtain ⟨hspace, hchars⟩ := hall
  exact ⟨fun c hc => ⟨(hchars c hc).1.1.1.1, (hchars c hc).1.1.1.2, (hchars c hc).1.1.2⟩,
    fun c hc => (hchars c hc).2, fun hc => (hchars _ hc).1.2 rfl, hspace⟩

variable {v}

/-- A fraction is a barrier to every phrase. -/
theorem Numeric.barrier (hv : Numeric v) {p : String} (hp : p ∈ phrases) (x : Rat) :
    Barrier p.toList (toLower (v.float x)).toList := by
  obtain ⟨-, hdigit, hsign, hspace⟩ := phrase_shape hp
  have hfix : ∀ c ∈ (v.float x).toList, toLowerRune c = c := by
    intro c hc
    have hrange : c.toNat < 65 ∨ c.toNat = 101 := by
      rcases hv.chars x c hc with h | h
      · simp only [Char.isDigit, Bool.and_eq_true, decide_eq_true_eq] at h
        exact Or.inl (lt_of_le_of_lt (UInt32.le_iff_toNat_le.mp h.2) (by decide))
      · fin_cases h <;> decide
    exact toLowerRune_of_ascii (by omega) (by omega)
  have hsame : (toLower (v.float x)).toList = (v.float x).toList := by
    rw [toLower, String.toList_ofList]
    exact (List.map_congr_left hfix).trans (List.map_id _)
  rw [hsame]
  refine ⟨fun hnil => hv.nonempty x (String.toList_inj.mp hnil), ?_, ?_, fun hin => ?_⟩
  · intro c hc hmem
    rcases hv.head x c hc with h | rfl
    · rw [hdigit c hmem] at h
      cases h
    · exact hsign hmem
  · intro c hc hmem
    have h := hv.last x c hc
    rw [hdigit c hmem] at h
    cases h
  · rcases hv.chars x ' ' (hin.subset hspace) with h | h
    · cases h
    · exact absurd h (by decide)

/-- The numbers in an error's text are barriers. -/
theorem clear_formatted (hv : Numeric v) (e : SimError) {p : String} (hp : p ∈ phrases) :
    ∀ r ∈ (formatted v e).rest, r.1.Clear p := by
  obtain ⟨-, hdigit, hsign, hspace⟩ := phrase_shape hp
  have hne : p ≠ "" := by
    rintro rfl
    cases hspace
  have hint : ∀ n : Int, (Verb.number (fmtInt n)).Clear p := fun n =>
    barrier_fmtInt hdigit hsign hne n
  have hfloat : ∀ x : Rat, (Verb.number (fmtFloat v x)).Clear p := by
    intro x
    rw [fmtFloat]
    split_ifs
    · exact hint _
    · exact hv.barrier hp x
  have hone : ∀ n : Int, ∀ r ∈ [(Verb.number (fmtInt n), "")], r.1.Clear p := fun n =>
    List.forall_mem_singleton.mpr (hint n)
  have hnone : ∀ r ∈ ([] : List (Verb × String)), r.1.Clear p := fun r hr => by cases hr
  have hquoted : ∀ t b : String, ∀ r ∈ [(Verb.quoted t, b)], r.1.Clear p := fun t b =>
    List.forall_mem_singleton.mpr trivial
  cases e with
  | build err =>
      cases err with
      | nodeCountNotPositive got => exact hone got
      | devicesPerNodeNotPositive got => exact hone got
      | memoryMiBPerDeviceNotPositive got => exact hone got
  | workloadIDRequired => exact hnone
  | gpuCountNotPositive got => exact hone got
  | memMiBNotPositive got => exact hone got
  | alreadyAllocated id => exact hquoted id _
  | fleetNotRegistered => exact hnone
  | maxNodesNegative got => exact hone got
  | placementFailed id err =>
      cases err with
      | noSingleNode need =>
          exact List.forall_mem_cons.mpr ⟨trivial, List.forall_mem_singleton.mpr (hint need)⟩
      | unknownPolicy raw => exact List.forall_mem_cons.mpr ⟨trivial, hquoted raw _⟩
  | insufficientDevices id need memMiB found =>
      exact List.forall_mem_cons.mpr ⟨trivial, List.forall_mem_cons.mpr ⟨hint need,
        List.forall_mem_cons.mpr ⟨hint memMiB, hone found⟩⟩⟩
  | tokensNotPositive got => exact hone got
  | profileRequired => exact hnone
  | unsupportedKind kind => exact hquoted _ _
  | fractionOutOfRange field got => exact List.forall_mem_singleton.mpr (hfloat got)
  | unknownTeacherProfile profile => exact hquoted profile _
  | noAllocation id => exact hquoted id _
  | allocationEmpty id => exact hquoted id _
  | alreadyRunning id runID =>
      exact List.forall_mem_cons.mpr ⟨trivial, List.forall_mem_singleton.mpr trivial⟩
  | deviceCountNotPositive got => exact hone got
  | unknownRuntimeProfile profile => exact hquoted profile _
  | unknownHardwareProfile profile => exact hquoted profile _
  | runIDRequired => exact hnone
  | runNotFound runID => exact hquoted runID _
  | runForWorkloadNotFound id => exact hquoted id _

/-- **WHAT IS FOUND** in the text of an error: its own phrase, and those in the texts that it
    takes over. -/
theorem contains_errorText (hv : Numeric v) (e : SimError) {p : String} (hp : p ∈ phrases) :
    contains (toLower (errorText v e)) p
      = ((ownPhrase e == some p) || (taken v e).any (fun t => contains (toLower t) p)) := by
  rw [← render_formatted, contains_render v (phrase_shape hp).1 (clear_formatted hv e hp),
    words_say v e hp, taken]

/-- The texts that disguise an error of a class. -/
def disguises (code : Nat) : List String :=
  if code = 404 then [] else if code = 409 then ["not found"] else phrases

/-- The class of an error and the phrase in its words. -/
theorem codeOf_cases (e : SimError) :
    (codeOf e = 404 ∧ ownPhrase e = some "not found")
      ∨ (codeOf e = 409 ∧ (ownPhrase e = some "already has an allocation"
        ∨ ownPhrase e = some "already has a running run"))
      ∨ (codeOf e = 400 ∧ ownPhrase e = none) := by
  cases e with
  | runNotFound runID => exact Or.inl ⟨rfl, rfl⟩
  | runForWorkloadNotFound id => exact Or.inl ⟨rfl, rfl⟩
  | alreadyAllocated id => exact Or.inr (Or.inl ⟨rfl, Or.inl rfl⟩)
  | alreadyRunning id runID => exact Or.inr (Or.inl ⟨rfl, Or.inr rfl⟩)
  | _ => exact Or.inr (Or.inr ⟨rfl, rfl⟩)

/-- A text that an error takes over holds the phrase. -/
def quotes (v : Verbs) (e : SimError) (p : String) : Bool :=
  (taken v e).any (fun t => contains (toLower t) p)

theorem quotes_eq_false_iff {e : SimError} {p : String} :
    quotes v e p = false ↔ ∀ text ∈ taken v e, contains (toLower text) p = false := by
  rw [quotes, List.any_eq_false]
  exact forall₂_congr (fun t _ => by rw [Bool.not_eq_true])

/-- The four searches: what the words say, or else what the caller's texts do. -/
theorem statusForError_eq (hv : Numeric v) (e : SimError) :
    statusForError v e =
      if (ownPhrase e == some "not found") || quotes v e "not found" then 404
      else if (ownPhrase e == some "already has an allocation")
        || quotes v e "already has an allocation" then 409
      else if (ownPhrase e == some "already has a running run")
        || quotes v e "already has a running run" then 409
      else if (ownPhrase e == some "already exists") || quotes v e "already exists" then 409
      else 400 := by
  have h1 := contains_errorText hv e (p := "not found") (by simp [phrases])
  have h2 := contains_errorText hv e (p := "already has an allocation") (by simp [phrases])
  have h3 := contains_errorText hv e (p := "already has a running run") (by simp [phrases])
  have h4 := contains_errorText hv e (p := "already exists") (by simp [phrases])
  simp only [statusForError, statusForText, h1, h2, h3, h4]
  rfl

/-- The code is that of the error exactly when no text of the caller disguises it. -/
theorem statusForError_exact_iff (hv : Numeric v) (e : SimError) :
    statusForError v e = codeOf e ↔ ∀ p ∈ disguises (codeOf e), quotes v e p = false := by
  rw [statusForError_eq hv]
  rcases codeOf_cases e with ⟨hcode, hown⟩ | ⟨hcode, hown | hown⟩ | ⟨hcode, hown⟩
  · simp [hcode, hown, disguises]
  · cases hmissing : quotes v e "not found" <;> simp [hcode, hown, disguises, hmissing]
  · cases hmissing : quotes v e "not found" <;> simp [hcode, hown, disguises, hmissing]
  · -- no phrase of its own: each of the four searches is left to the caller's texts
    simp only [hcode, hown, disguises, phrases]
    cases hmissing : quotes v e "not found" <;>
      cases hallocated : quotes v e "already has an allocation" <;>
      cases hrunning : quotes v e "already has a running run" <;>
      cases hexists : quotes v e "already exists" <;>
      simp [hmissing, hallocated, hrunning, hexists]

/-- **STATUS CODES ARE EXACT** unless a text of the caller says what is searched for: a missing
    run is always told, a conflict unless the texts say `not found`, and every other error
    unless they say any of the phrases. -/
theorem status_exact_iff (hv : Numeric v) (e : SimError) :
    statusForError v e = codeOf e
      ↔ ∀ p ∈ disguises (codeOf e), ∀ text ∈ taken v e, contains (toLower text) p = false := by
  rw [statusForError_exact_iff hv]
  exact forall₂_congr (fun p _ => quotes_eq_false_iff)

/-- A printer of fractions, for the examples. -/
def halves : Verbs := ⟨fun _ => true, fun _ => String.ofList ['0', '.', '5']⟩

theorem numeric_halves : Numeric halves := by
  have hlist : ∀ x, (halves.float x).toList = ['0', '.', '5'] := fun _ => String.toList_ofList
  refine ⟨fun x c hc => ?_, fun x hx => ?_, fun x c hc => ?_, fun x c hc => ?_⟩
  · rw [hlist] at hc
    fin_cases hc <;> decide
  · have hnil := hlist x
    rw [hx] at hnil
    cases hnil
  · rw [hlist] at hc
    rw [← Option.some.inj hc]
    decide
  · rw [hlist] at hc
    rw [← Option.some.inj hc]
    decide

/-- A workload without an allocation is told so, unless its ID says something else. -/
theorem status_exact_noAllocation :
    statusForError halves (.noAllocation "ns/w") = 400
      ∧ statusForError halves (.noAllocation "ns/not found") ≠ 400 := by
  constructor
  · refine (status_exact_iff numeric_halves (.noAllocation "ns/w")).mpr (fun p hp text ht => ?_)
    have htext : text = escape halves "ns/w" := List.mem_singleton.mp ht
    rw [htext]
    revert p
    decide +kernel
  · intro h
    have hexact := (status_exact_iff numeric_halves (.noAllocation "ns/not found")).mp h
      "not found" (by decide) (escape halves "ns/not found") (List.mem_singleton.mpr rfl)
    revert hexact
    decide +kernel

/-- Texts without spaces disguise nothing. -/
theorem status_of_plain (hv : Numeric v) {e : SimError}
    (h : ∀ text ∈ taken v e, ' ' ∉ (toLower text).toList) : statusForError v e = codeOf e := by
  refine (statusForError_exact_iff hv e).mpr (fun p hp => ?_)
  have hphrase : p ∈ phrases := by
    rw [disguises] at hp
    split_ifs at hp
    · cases hp
    · rw [List.mem_singleton.mp hp]
      exact List.mem_cons_self ..
    · exact hp
  exact quotes_eq_false_iff.mpr (fun text ht =>
    not_contains_of_not_mem (phrase_shape hphrase).2.2.2 (h text ht))

end GpuStatusCode
