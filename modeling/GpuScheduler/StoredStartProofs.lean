import GpuScheduler.ErrorTextProofs
import GpuScheduler.RunHistoryProofs
import GpuScheduler.ProfileTextProofs
import GpuScheduler.InProcessProofs

/-! # The start of a stored workload

    `StartWithRuntimeInput` checks more than the declared rules of the resource do: jitter
    needs a range, a distillation a known teacher, every workload a known profile.  What is
    left of its checks on a stored workload is small (`checkRuntime_eq`), and `Start` says once
    what the call can come to, with the text that its error then has. -/

namespace GpuStoredStart

open GoStrings GoMaps GoFmt GpuInputs GpuCompat GpuWorkload GpuSimulator GpuRunHistory GpuCRD
  GpuProfileText GpuErrorText

variable (v : Verbs)

/-- The keys of `profileTokensPerSecond`. -/
def profileTokensPerSecond : List String :=
  ["h100_sxm", "a100_80gb", "tpu_v5e_chip", "trn1_instance"]

/-- `estimateDuration`: its checks; the number they guard is a parameter. -/
def estimateDuration (duration : Int → RuntimeInput → Nat → Int) : Estimator :=
  fun now input deviceCount =>
    if input.tokens ≤ 0 then .error (.tokensNotPositive input.tokens)
    else if deviceCount = 0 then .error (.deviceCountNotPositive deviceCount)
    else if toLower input.profile ∉ profileTokensPerSecond then
      .error (.unknownRuntimeProfile input.profile)
    else if toLower input.profile ∉ hardwareProfiles then
      .error (.unknownHardwareProfile input.profile)
    else match input.jitter with
    | some j =>
        if j.enabled = true ∧ (j.pct ≤ 0 ∨ 1 < j.pct) then
          .error (.fractionOutOfRange .jitterPct j.pct)
        else .ok (duration now input deviceCount)
    | none => .ok (duration now input deviceCount)

/-- The sections that `buildRuntimeInput` copies. -/
def sections (spec : Spec) : RuntimeInput where
  workloadID := ""
  tokens := 0
  profile := ""
  kind := .unset
  training := spec.training
  inference := spec.inference
  eval := spec.eval
  fineTune := spec.fineTune
  rlhf := spec.rlhf
  embedding := spec.embedding
  dataPreprocess := spec.dataPreprocess
  distillation := spec.distillation.map (fun d =>
    { d with teacherProfile := normalizeProfileName d.teacherProfile })
  jitter := spec.jitter.map (fun j => ⟨j.enabled, j.pct, j.seed.getD 0⟩)

/-- `buildRuntimeInput` of a stored workload, whole. -/
def buildRuntimeInput (a : Stored) : RuntimeInput :=
  GpuInProcess.buildRuntimeInput (sections a.spec) a.workload

/-! ## What a start reads -/

/-- The profile of a workload, as every call reads it. -/
def profileOf (spec : Spec) : String := normalizeProfileName spec.profile

/-- Jitter that is enabled with nothing to vary by. -/
def badJitter (spec : Spec) : Bool := spec.jitter.any (fun j => j.enabled && decide (j.pct ≤ 0))

/-- The profile of a distillation's teacher: its own, or that of the workload. -/
def teacherOf (spec : Spec) : String :=
  let own := normalizeProfileName (spec.distillation.elim "" DistillationRuntime.teacherProfile)
  if own = "" then profileOf spec else own

/-- The teacher's profile, if it is unknown. -/
def unknownTeacher (spec : Spec) : Option String :=
  if spec.kind = .distillation ∧ teacherOf spec ∉ hardwareProfiles then some (teacherOf spec)
  else none

section
variable (a : Stored)

theorem normalizeProfileName_trim (p : String) :
    trimSpace (normalizeProfileName p) = normalizeProfileName p :=
  trimSpace_toLower_trimSpace p

theorem toLower_normalizeProfileName (p : String) :
    toLower (normalizeProfileName p) = normalizeProfileName p := by
  have h := normalizeProfileName_idem p
  rw [normalizeProfileName, normalizeProfileName_trim] at h
  exact h

/-- A fraction of a section that is there is in range. -/
theorem fraction_ok {b : Bounded} (hb : b ∈ a.spec.sections) {field : FractionField} {pct : Rat}
    (hpct : pct ∈ b.fractions) : checkFraction field pct = none := by
  obtain ⟨h0, h1⟩ := (a.valid.bounds b hb).2 pct hpct
  rw [checkFraction, if_neg (not_or.mpr ⟨not_lt.mpr h0, not_lt.mpr h1⟩)]

theorem kind_eq : (buildRuntimeInput a).kind = a.spec.kind := by
  show a.workload.spec.kind = a.spec.kind
  rw [a.same]

theorem defaultKind_eq : defaultKind (buildRuntimeInput a) = buildRuntimeInput a := by
  have hkind := a.valid.kind
  rw [defaultKind, if_neg]
  intro heq
  rw [← kind_eq a, heq] at hkind
  cases hkind

theorem jitter_applyDefaults (input : RuntimeInput) :
    (applyDefaults input).jitter = input.jitter := by
  rw [applyDefaults]
  split <;> rfl

/-- Stored jitter is in range, unless it is enabled without one. -/
theorem jitter_passes (h : badJitter a.spec = false) :
    ∀ j, (buildRuntimeInput a).jitter = some j →
      ¬ (j.enabled = true ∧ (j.pct ≤ 0 ∨ 1 < j.pct)) := by
  intro j hj
  obtain ⟨j', hj', rfl⟩ := Option.map_eq_some_iff.mp hj
  have hmem : boundedJitter j' ∈ a.spec.sections := by simp [Spec.sections, hj']
  have hpct := ((a.valid.bounds _ hmem).2 j'.pct (List.mem_singleton_self _)).2
  rintro ⟨henabled, hlow | hhigh⟩
  · refine Bool.eq_false_iff.mp h ((Option.any_eq_true _ _).mpr ⟨j', hj', ?_⟩)
    rw [Bool.and_eq_true, decide_eq_true_iff]
    exact ⟨henabled, hlow⟩
  · exact absurd hhigh (not_lt.mpr hpct)

/-- Jitter that is not enabled, or in range, passes. -/
theorem checkRuntime_jitter {input : RuntimeInput} (h : ∀ j, input.jitter = some j →
    ¬ (j.enabled = true ∧ (j.pct ≤ 0 ∨ 1 < j.pct))) :
    checkRuntime input = checkRuntime { input with jitter := none } := by
  simp only [checkRuntime]
  cases hj : input.jitter with
  | none => rfl
  | some j => simp only [if_neg (h j hj)]

/-- Jitter that is enabled without a range is refused first. -/
theorem checkRuntime_badJitter (h : badJitter a.spec = true) :
    checkRuntime (applyDefaults (buildRuntimeInput a))
      = some (.fractionOutOfRange .jitterPct 0) := by
  rw [badJitter, Option.any_eq_true] at h
  obtain ⟨j, hj, hbad⟩ := h
  rw [Bool.and_eq_true, decide_eq_true_iff] at hbad
  have hmem : boundedJitter j ∈ a.spec.sections := by simp [Spec.sections, hj]
  have hpct : j.pct = 0 := le_antisymm hbad.2
    ((a.valid.bounds _ hmem).2 j.pct (List.mem_singleton_self _)).1
  have hjitter : (applyDefaults (buildRuntimeInput a)).jitter
      = some ⟨j.enabled, j.pct, j.seed.getD 0⟩ := by
    rw [jitter_applyDefaults]
    show a.spec.jitter.map _ = _
    rw [hj]
    rfl
  simp only [checkRuntime, hjitter, hbad.1, hpct]
  rfl

theorem kind_applyDefaults : (applyDefaults (buildRuntimeInput a)).kind = a.spec.kind := by
  rw [← kind_eq a, applyDefaults]
  split <;> rfl

/-- Only a distillation has a teacher. -/
theorem unknownTeacher_of_kind {kind : WorkloadKind} (hk : a.spec.kind = kind)
    (hne : kind ≠ .distillation) : unknownTeacher a.spec = none := by
  rw [unknownTeacher, if_neg (fun hd => hne (hk.symm.trans hd.1))]

/-- Four kinds have no checks of their own. -/
theorem checkRuntime_unchecked {kind : WorkloadKind} (hk : a.spec.kind = kind)
    (h : kind = .training ∨ kind = .inference ∨ kind = .rlhf ∨ kind = .embedding) :
    checkRuntime { applyDefaults (buildRuntimeInput a) with jitter := none }
      = (unknownTeacher a.spec).map .unknownTeacherProfile := by
  have hkind := kind_applyDefaults a
  rw [hk] at hkind
  rcases h with rfl | rfl | rfl | rfl
  all_goals
    rw [unknownTeacher_of_kind a hk (by decide)]
    simp only [checkRuntime, hkind]
    rfl

theorem profile_eq : (buildRuntimeInput a).profile = profileOf a.spec := by
  show normalizeProfileName a.workload.spec.profile = normalizeProfileName a.spec.profile
  rw [a.same]

/-- The teacher that a distillation is started with. -/
theorem distillation_applyDefaults (hk : a.spec.kind = .distillation) :
    ∃ d, (applyDefaults (buildRuntimeInput a)).distillation = some d
      ∧ d.teacherProfile = teacherOf a.spec
      ∧ checkFraction .distillationTeacherForwardOverheadPct d.teacherForwardOverheadPct
        = none := by
  have hpayload := a.valid.payload
  rw [hk] at hpayload
  obtain ⟨d, hd⟩ := Option.isSome_iff_exists.mp hpayload
  have hmem : boundedDistillation d ∈ a.spec.sections := by simp [Spec.sections, hd]
  have hsection : (buildRuntimeInput a).distillation
      = a.spec.distillation.map (fun d =>
        { d with teacherProfile := normalizeProfileName d.teacherProfile }) := rfl
  rw [hd, Option.map_some] at hsection
  have hinput := kind_eq a
  rw [hk] at hinput
  have hstarted : (applyDefaults (buildRuntimeInput a)).distillation
      = some (DistillationRuntime.withDefaults
        { d with teacherProfile := normalizeProfileName d.teacherProfile }
        (profileOf a.spec)) := by
    simp only [applyDefaults, hinput, hsection, Option.getD_some, profile_eq]
  refine ⟨_, hstarted, ?_, ?_⟩
  · simp only [DistillationRuntime.withDefaults, normalizeProfileName_trim, teacherOf, hd,
      Option.elim_some]
  · simp only [DistillationRuntime.withDefaults]
    exact fraction_ok a hmem (List.mem_singleton_self _)

/-- Beyond the jitter, only a distillation's teacher can be refused. -/
theorem checkRuntime_kind :
    checkRuntime { applyDefaults (buildRuntimeInput a) with jitter := none }
      = (unknownTeacher a.spec).map .unknownTeacherProfile := by
  have hkind := kind_applyDefaults a
  have hinput := kind_eq a
  have hpayload := a.valid.payload
  have hsupported := a.valid.kind
  cases hk : a.spec.kind with
  | training => exact checkRuntime_unchecked a hk (Or.inl rfl)
  | inference => exact checkRuntime_unchecked a hk (Or.inr (Or.inl rfl))
  | rlhf => exact checkRuntime_unchecked a hk (Or.inr (Or.inr (Or.inl rfl)))
  | embedding => exact checkRuntime_unchecked a hk (Or.inr (Or.inr (Or.inr rfl)))
  | eval =>
      rw [hk] at hinput hpayload
      obtain ⟨e, he⟩ := Option.isSome_iff_exists.mp hpayload
      have hmem : boundedEval e ∈ a.spec.sections := by simp [Spec.sections, he]
      have hsection : (buildRuntimeInput a).eval = some e := he
      rw [unknownTeacher_of_kind a hk (by decide)]
      simp only [applyDefaults, hinput, hsection, checkRuntime, Option.getD_some,
        EvalRuntime.withDefaults, fraction_ok a hmem (List.mem_cons_self ..),
        fraction_ok a hmem (List.mem_cons_of_mem _ (List.mem_singleton_self _))]
      rfl
  | fineTune =>
      rw [hk] at hinput hpayload
      obtain ⟨f, hf⟩ := Option.isSome_iff_exists.mp hpayload
      have hmem : boundedFineTune f ∈ a.spec.sections := by simp [Spec.sections, hf]
      have hsection : (buildRuntimeInput a).fineTune = some f := hf
      rw [unknownTeacher_of_kind a hk (by decide)]
      simp only [applyDefaults, hinput, hsection, checkRuntime,
        fraction_ok a hmem (List.mem_cons_self ..),
        fraction_ok a hmem (List.mem_cons_of_mem _ (List.mem_singleton_self _))]
      rfl
  | dataPreprocess =>
      rw [hk] at hinput hpayload
      obtain ⟨d, hd⟩ := Option.isSome_iff_exists.mp hpayload
      have hmem : boundedDataPreprocess d ∈ a.spec.sections := by simp [Spec.sections, hd]
      have hsection : (buildRuntimeInput a).dataPreprocess = some d := hd
      rw [unknownTeacher_of_kind a hk (by decide)]
      simp only [applyDefaults, hinput, hsection, checkRuntime, Option.getD_some,
        DataPreprocessRuntime.withDefaults, fraction_ok a hmem (List.mem_cons_self ..),
        fraction_ok a hmem (List.mem_cons_of_mem _ (List.mem_singleton_self _))]
      rfl
  | distillation =>
      obtain ⟨d, hd, hteacher, hfraction⟩ := distillation_applyDefaults a hk
      have hnormal : normalizeProfileName (teacherOf a.spec) = teacherOf a.spec := by
        rw [teacherOf]
        split_ifs <;> exact normalizeProfileName_idem _
      rw [hk] at hkind
      simp only [checkRuntime, hkind, hd, hfraction, hteacher, hnormal, unknownTeacher, hk,
        true_and]
      split_ifs <;> rfl
  | other raw _ =>
      rw [hk] at hsupported
      cases hsupported

/-- **THE CHECKS OF A START**: of a stored workload the jitter or the teacher is refused, or
    nothing. -/
theorem checkRuntime_eq :
    checkRuntime (applyDefaults (defaultKind (buildRuntimeInput a)))
      = if badJitter a.spec = true then some (.fractionOutOfRange .jitterPct 0)
        else (unknownTeacher a.spec).map .unknownTeacherProfile := by
  rw [defaultKind_eq]
  split_ifs with hbad
  · exact checkRuntime_badJitter a hbad
  · rw [checkRuntime_jitter (fun j hj => ?_), checkRuntime_kind]
    rw [jitter_applyDefaults] at hj
    exact jitter_passes a (Bool.eq_false_iff.mpr hbad) j hj

end

/-! ## What a start comes to -/

/-- **WHEN A START REJECTS**: the profile is blank, the jitter has no range, the teacher is
    unknown and does not look like a running run; or no run is there, and the same holds of
    the profile. -/
def Rejects (s : Simulator) (a : Stored) : Prop :=
  profileOf a.spec = "" ∨ badJitter a.spec = true
    ∨ (∃ teacher, unknownTeacher a.spec = some teacher ∧ looksRunning v teacher = false)
    ∨ (unknownTeacher a.spec = none ∧ Idle s a.workload.id ∧ profileOf a.spec ∉ hardwareProfiles
      ∧ looksRunning v (profileOf a.spec) = false)

/-- What the checks at the head of a start refuse in the specification, in their order.  An
    unknown profile is not among them: the estimate refuses it, once there is an allocation
    and no running run. -/
def refusal (spec : Spec) : Option SimError :=
  if profileOf spec = "" then some .profileRequired
  else if badJitter spec = true then some (.fractionOutOfRange .jitterPct 0)
  else (unknownTeacher spec).map .unknownTeacherProfile

theorem refusal_eq_none {spec : Spec} (h : refusal spec = none) :
    profileOf spec ≠ "" ∧ badJitter spec = false ∧ unknownTeacher spec = none := by
  rw [refusal] at h
  split_ifs at h with hblank hbad
  exact ⟨hblank, Bool.eq_false_iff.mpr hbad, Option.map_eq_none_iff.mp h⟩

/-- What the start of a stored workload with an allocation can come to. -/
inductive Start (s : Simulator) (a : Stored) (allocation : Allocation) :
    Except SimError (String × Simulator) → Prop where
  /-- A run is started. -/
  | started (id : String) (t : Simulator) (r : RunRecord)
      (allocations : t.allocations = s.allocations) (run : t.runs.lookup id = some r)
      (workload : r.workloadID = a.workload.id)
      (status : r.status = .running) (teacher : unknownTeacher a.spec = none)
      (accepts : ¬ Rejects v s a) : Start s a allocation (.ok (id, t))
  /-- There is a run. -/
  | runs (e : SimError) (text : isAlreadyRunningErr v e = true) (busy : ¬ Idle s a.workload.id)
      (accepts : ¬ Rejects v s a) : Start s a allocation (.error e)
  /-- Another error looks like it. -/
  | deceives (e : SimError) (text : isAlreadyRunningErr v e = true)
      (jitter : badJitter a.spec = false)
      (quoted : (∃ teacher, unknownTeacher a.spec = some teacher ∧ looksRunning v teacher = true)
        ∨ profileOf a.spec ∉ hardwareProfiles) (accepts : ¬ Rejects v s a) :
      Start s a allocation (.error e)
  /-- The workload is rejected. -/
  | rejects (e : SimError) (text : isAlreadyRunningErr v e = false)
      (cause : Rejects v s a ∨ (unknownTeacher a.spec = none ∧ allocation.deviceIDs = [])) :
      Start s a allocation (.error e)

section
variable {v} {duration : Int → RuntimeInput → Nat → Int} {a : Stored} {s : Simulator}

theorem tokens_pos (a : Stored) : 0 < (buildRuntimeInput a).tokens := by
  show 0 < a.workload.spec.tokens
  rw [a.same]
  exact a.valid.tokens

/-- The defaults leave what the estimate reads first. -/
theorem started_fields (input : RuntimeInput) : (applyDefaults input).tokens = input.tokens
    ∧ (applyDefaults input).profile = input.profile := by
  rw [applyDefaults]
  split <;> exact ⟨rfl, rfl⟩

/-- The estimate of a workload that passed the checks fails only for its profile. -/
theorem estimateDuration_eq (hjitter : badJitter a.spec = false) (now : Int) {n : Nat}
    (hn : n ≠ 0) : estimateDuration duration now (applyDefaults (buildRuntimeInput a)) n
      = if profileOf a.spec ∉ hardwareProfiles then
          .error (.unknownRuntimeProfile (profileOf a.spec))
        else .ok (duration now (applyDefaults (buildRuntimeInput a)) n) := by
  obtain ⟨htokens, hprofile⟩ := started_fields (buildRuntimeInput a)
  have hsame : profileTokensPerSecond = hardwareProfiles := rfl
  have hlow : toLower (profileOf a.spec) = profileOf a.spec := toLower_normalizeProfileName _
  rw [estimateDuration, htokens, hprofile, profile_eq, hlow, hsame,
    if_neg (not_le.mpr (tokens_pos a)), if_neg hn]
  by_cases hknown : profileOf a.spec ∉ hardwareProfiles
  · rw [if_pos hknown, if_pos hknown]
  · rw [if_neg hknown, if_neg hknown, if_neg hknown, jitter_applyDefaults]
    cases hj : (buildRuntimeInput a).jitter with
    | none => rfl
    | some j => simp only [if_neg (jitter_passes a hjitter j hj)]

/-- What keeps a start from rejecting. -/
theorem not_rejects (hblank : profileOf a.spec ≠ "") (hjitter : badJitter a.spec = false)
    (hteacher : ∀ teacher, unknownTeacher a.spec = some teacher → looksRunning v teacher = true)
    (hprofile : unknownTeacher a.spec = none → Idle s a.workload.id →
      profileOf a.spec ∉ hardwareProfiles → looksRunning v (profileOf a.spec) = true) :
    ¬ Rejects v s a := by
  rintro (h | h | ⟨teacher, h, hlooks⟩ | ⟨hnone, hidle, hunknown, hlooks⟩)
  · exact hblank h
  · rw [hjitter] at h
    cases h
  · rw [hteacher teacher h] at hlooks
    cases hlooks
  · rw [hprofile hnone hidle hunknown] at hlooks
    cases hlooks

/-- A teacher that looks like a running run keeps a start from rejecting. -/
theorem not_rejects_of_teacher (hblank : profileOf a.spec ≠ "")
    (hjitter : badJitter a.spec = false) {teacher : String}
    (hteacher : unknownTeacher a.spec = some teacher) (hlooks : looksRunning v teacher = true) :
    ¬ Rejects v s a := by
  refine not_rejects hblank hjitter (fun t ht => ?_) (fun hnone => ?_)
  · rw [hteacher] at ht
    rw [← Option.some.inj ht]
    exact hlooks
  · rw [hteacher] at hnone
    cases hnone

/-- A refusal of the specification, as a start. -/
theorem start_of_refusal {allocation : Allocation} {e : SimError} (h : refusal a.spec = some e) :
    Start v s a allocation (.error e) := by
  rw [refusal] at h
  by_cases hblank : profileOf a.spec = ""
  · rw [if_pos hblank] at h
    rw [← Option.some.inj h]
    exact .rejects _ (isAlreadyRunningErr_profileRequired v) (Or.inl (Or.inl hblank))
  rw [if_neg hblank] at h
  by_cases hbad : badJitter a.spec = true
  · rw [if_pos hbad] at h
    rw [← Option.some.inj h]
    exact .rejects _ (isAlreadyRunningErr_jitter v) (Or.inl (Or.inr (Or.inl hbad)))
  rw [if_neg hbad] at h
  obtain ⟨teacher, hteacher, rfl⟩ := Option.map_eq_some_iff.mp h
  have hjitter : badJitter a.spec = false := Bool.eq_false_iff.mpr hbad
  have htext := isAlreadyRunningErr_teacher v teacher
  cases hlooks : looksRunning v teacher with
  | false =>
      exact .rejects _ (htext.trans hlooks)
        (Or.inl (Or.inr (Or.inr (Or.inl ⟨teacher, hteacher, hlooks⟩))))
  | true =>
      exact .deceives _ (htext.trans hlooks) hjitter (Or.inl ⟨teacher, hteacher, hlooks⟩)
        (not_rejects_of_teacher hblank hjitter hteacher hlooks)

/-- A workload that is not refused for its specification rejects only for its profile. -/
theorem not_rejects_of_passed (h : refusal a.spec = none)
    (hprofile : Idle s a.workload.id → profileOf a.spec ∉ hardwareProfiles →
      looksRunning v (profileOf a.spec) = true) : ¬ Rejects v s a := by
  obtain ⟨hblank, hjitter, hteacher⟩ := refusal_eq_none h
  refine not_rejects hblank hjitter (fun t ht => ?_) (fun _ => hprofile)
  rw [hteacher] at ht
  cases ht

/-- The run of a stored workload: the specification's refusal, or the allocation is looked at,
    then the running run, then the estimate. -/
theorem startedRun_stored (est : Estimator) (allocation : Allocation)
    (running : Option RunRecord) (runID : String) (now : Int) :
    startedRun est (some allocation) running runID now (buildRuntimeInput a)
      = (refusal a.spec).elim
          (if allocation.deviceIDs = [] then .error (.allocationEmpty a.workload.id)
          else running.elim
            ((est now (applyDefaults (buildRuntimeInput a)) allocation.deviceIDs.length).map
              (fun duration => ⟨runID, a.workload.id, (buildRuntimeInput a).profile,
                (buildRuntimeInput a).tokens, applyDefaults (buildRuntimeInput a), now,
                now + duration, .running⟩))
            (fun r => .error (.alreadyRunning a.workload.id r.runID)))
          .error := by
  have hid : (applyDefaults (buildRuntimeInput a)).workloadID = a.workload.id := by
    have h := workloadID_applyDefaults (buildRuntimeInput a)
    rw [defaultKind_eq] at h
    exact h
  have hname : (buildRuntimeInput a).workloadID ≠ "" := id_ne_empty a.workload
  have hchecks := checkRuntime_eq a
  have hsupported : (buildRuntimeInput a).kind.supported ≠ false := by
    rw [kind_eq, a.valid.kind]
    exact Bool.noConfusion
  obtain ⟨htokens, hprofile⟩ := started_fields (buildRuntimeInput a)
  rw [defaultKind_eq] at hchecks
  rw [startedRun, refusal, if_neg hname, if_neg (not_le.mpr (tokens_pos a)), defaultKind_eq]
  rw [profile_eq]
  by_cases hblank : profileOf a.spec = ""
  · rw [if_pos hblank, if_pos hblank]
    rfl
  rw [if_neg hblank, if_neg hblank, if_neg hsupported]
  by_cases hbad : badJitter a.spec = true
  · rw [if_pos hbad] at hchecks ⊢
    simp only [hchecks, Option.elim_some]
  rw [if_neg hbad] at hchecks ⊢
  cases hteacher : unknownTeacher a.spec with
  | some teacher => simp only [hchecks, hteacher, Option.map_some, Option.elim_some]
  | none =>
      simp only [hchecks, hteacher, Option.map_none, Option.elim_none, hid, htokens, hprofile,
        profile_eq]
      split_ifs
      · rfl
      cases running with
      | some r => rfl
      | none =>
          simp only [Option.elim_none]
          cases est now (applyDefaults (buildRuntimeInput a)) allocation.deviceIDs.length with
          | error e => rfl
          | ok duration => rfl

/-- **THE START** of a stored workload that has an allocation. -/
theorem start_of_allocated (duration : Int → RuntimeInput → Nat → Int) {runs : List String}
    (hruns : runs.Perm s.runs.keys) (now : Int) {allocation : Allocation}
    (hl : s.allocations.lookup a.workload.id = some allocation) :
    Start v s a allocation (startWithRuntimeInput (estimateDuration duration) s runs now
      (buildRuntimeInput a)) := by
  have hid : (applyDefaults (defaultKind (buildRuntimeInput a))).workloadID = a.workload.id :=
    workloadID_applyDefaults _
  rw [startWithRuntimeInput_eq, hid, hl, startedRun_stored]
  cases hrefusal : refusal a.spec with
  | some e => exact start_of_refusal hrefusal
  | none =>
      obtain ⟨-, hjitter, hteacher⟩ := refusal_eq_none hrefusal
      rw [Option.elim_none]
      by_cases hempty : allocation.deviceIDs = []
      · rw [if_pos hempty]
        exact .rejects _ (isAlreadyRunningErr_empty v (plain_id a)) (Or.inr ⟨hteacher, hempty⟩)
      rw [if_neg hempty]
      cases hrun : findRunning s runs a.workload.id with
      | some r =>
          obtain ⟨runID, hr, hw, hstatus⟩ := lookup_of_findRunning hrun
          have hbusy : ¬ Idle s a.workload.id := fun h => h runID r hr hw hstatus
          exact .runs _ (isAlreadyRunningErr_running v _ _) hbusy
            (not_rejects_of_passed hrefusal (fun hidle => absurd hidle hbusy))
      | none =>
          have hidle : Idle s a.workload.id := findRunning_none hruns hrun
          have hcount : allocation.deviceIDs.length ≠ 0 :=
            fun h => hempty (List.length_eq_zero_iff.mp h)
          rw [Option.elim_none, estimateDuration_eq hjitter now hcount]
          by_cases hknown : profileOf a.spec ∉ hardwareProfiles
          · rw [if_pos hknown]
            have htext := isAlreadyRunningErr_profile v (profileOf a.spec)
            cases hlooks : looksRunning v (profileOf a.spec) with
            | true =>
                exact .deceives _ (htext.trans hlooks) hjitter (Or.inr hknown)
                  (not_rejects_of_passed hrefusal (fun _ _ => hlooks))
            | false =>
                exact .rejects _ (htext.trans hlooks) (Or.inl (Or.inr (Or.inr (Or.inr
                  ⟨hteacher, hidle, hknown, hlooks⟩))))
          · rw [if_neg hknown]
            exact .started _ _ _ rfl (AList.lookup_insert _) rfl rfl hteacher
              (not_rejects_of_passed hrefusal (fun _ h => absurd h hknown))

end

end GpuStoredStart
