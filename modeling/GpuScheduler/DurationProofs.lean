import GpuScheduler.StoredStartProofs

/-! # How long a run lasts

    `estimateDuration` divides the tokens by a throughput and multiplies by a factor of the
    workload's kind.  Every factor is clamped, the tokens are not, and the seconds are
    turned into nanoseconds in 64 bits at the end.

    The arithmetic is exact here, and what the factors are computed from (square
    roots, logarithms, a random number) is arbitrary: `Readings`.  The clamps alone bound the
    seconds (`rawSeconds_le`), and the bound is met (`rawSeconds_slow`), so that one
    inequality on the input says whether every estimate fits (`durations_fit_iff`). -/

namespace GpuDuration

open GoStrings GoMaps GoFmt GpuInputs GpuSimulator GpuRunHistory GpuStoredStart

/-! ## The estimate -/

/-- `profileTokensPerSecond`. -/
def tokensPerSecond (profile : String) : Rat :=
  if profile = "h100_sxm" then 12000
  else if profile = "a100_80gb" then 7000
  else if profile = "tpu_v5e_chip" then 6500
  else if profile = "trn1_instance" then 5000
  else 0

/-- What the multipliers are computed from: the weighted hardware ratios, the logarithm of a
    batch size, the factor of a kind before its clamp, and a random number. -/
structure Readings where
  hardware : Rat
  log2 : Rat
  factor : Rat
  float64 : Rat
  log2_nonneg : 0 ≤ log2
  float64_nonneg : 0 ≤ float64
  float64_lt_one : float64 < 1

/-- The two tests at the end of a multiplier. -/
def clamp (lo hi factor : Rat) : Rat :=
  if factor < lo then lo else if hi < factor then hi else factor

/-- `hardwareThroughputFactor`. -/
def hardwareThroughputFactor (x : Readings) : Rat := clamp (3 / 4) (5 / 4) x.hardware

/-- The gain of one kind from larger batches. -/
def batchEfficiencyMultiplier (kind : WorkloadKind) (batchSize : RuntimeInput → Int)
    (gainSlope maxGain : Rat) (x : Readings) (input : RuntimeInput) : Rat :=
  if input.kind ≠ kind then 1
  else if orDefault (batchSize input) 1 ≤ 1 then 1
  else if maxGain < 1 + gainSlope * x.log2 then maxGain
  else 1 + gainSlope * x.log2

/-- `inferenceBatchEfficiencyMultiplier`. -/
def inferenceBatchEfficiencyMultiplier : Readings → RuntimeInput → Rat :=
  batchEfficiencyMultiplier .inference (fun input => input.inference.getD 0) (35 / 100) (5 / 2)

/-- `evalBatchEfficiencyMultiplier`. -/
def evalBatchEfficiencyMultiplier : Readings → RuntimeInput → Rat :=
  batchEfficiencyMultiplier .eval (fun input => input.eval.elim 0 EvalRuntime.batchSize)
    (25 / 100) 2

/-- `embeddingBatchEfficiencyMultiplier`. -/
def embeddingBatchEfficiencyMultiplier : Readings → RuntimeInput → Rat :=
  batchEfficiencyMultiplier .embedding
    (fun input => input.embedding.elim 0 EmbeddingRuntime.batchSize) (22 / 100) (21 / 10)

/-- The factor of one kind on the seconds; without its payload it has none. -/
def runtimeSecondsMultiplier (kind : WorkloadKind) (present : RuntimeInput → Bool) (lo hi : Rat)
    (x : Readings) (input : RuntimeInput) : Rat :=
  if input.kind ≠ kind ∨ present input = false then 1 else clamp lo hi x.factor

/-- `trainingRuntimeSecondsMultiplier`. -/
def trainingRuntimeSecondsMultiplier : Readings → RuntimeInput → Rat :=
  runtimeSecondsMultiplier .training (fun input => input.training.isSome) (35 / 100) 3

/-- `evalRuntimeSecondsMultiplier`. -/
def evalRuntimeSecondsMultiplier : Readings → RuntimeInput → Rat :=
  runtimeSecondsMultiplier .eval (fun input => input.eval.isSome) 1 3

/-- `fineTuneRuntimeSecondsMultiplier`. -/
def fineTuneRuntimeSecondsMultiplier : Readings → RuntimeInput → Rat :=
  runtimeSecondsMultiplier .fineTune (fun input => input.fineTune.isSome) (4 / 10) 3

/-- `rlhfRuntimeSecondsMultiplier`. -/
def rlhfRuntimeSecondsMultiplier : Readings → RuntimeInput → Rat :=
  runtimeSecondsMultiplier .rlhf (fun input => input.rlhf.isSome) (8 / 10) 4

/-- `embeddingRuntimeSecondsMultiplier`. -/
def embeddingRuntimeSecondsMultiplier : Readings → RuntimeInput → Rat :=
  runtimeSecondsMultiplier .embedding (fun input => input.embedding.isSome) (6 / 10) (35 / 10)

/-- `dataPreprocessRuntimeSecondsMultiplier`. -/
def dataPreprocessRuntimeSecondsMultiplier : Readings → RuntimeInput → Rat :=
  runtimeSecondsMultiplier .dataPreprocess (fun input => input.dataPreprocess.isSome) (6 / 10) 6

/-- `distillationRuntimeSecondsMultiplier`. -/
def distillationRuntimeSecondsMultiplier : Readings → RuntimeInput → Rat :=
  runtimeSecondsMultiplier .distillation (fun input => input.distillation.isSome) (6 / 10)
    (35 / 10)

/-- The gains on the throughput. -/
def batchMultiplier (x : Readings) (input : RuntimeInput) : Rat :=
  inferenceBatchEfficiencyMultiplier x input * evalBatchEfficiencyMultiplier x input
    * embeddingBatchEfficiencyMultiplier x input

/-- The factors on the seconds. -/
def kindMultiplier (x : Readings) (input : RuntimeInput) : Rat :=
  trainingRuntimeSecondsMultiplier x input * evalRuntimeSecondsMultiplier x input
    * fineTuneRuntimeSecondsMultiplier x input * rlhfRuntimeSecondsMultiplier x input
    * embeddingRuntimeSecondsMultiplier x input * dataPreprocessRuntimeSecondsMultiplier x input
    * distillationRuntimeSecondsMultiplier x input

/-- The seconds before the floor of one second. -/
def rawSeconds (x : Readings) (input : RuntimeInput) (deviceCount : Nat) : Rat :=
  let effectiveTPS := tokensPerSecond (toLower input.profile) * hardwareThroughputFactor x
    * deviceCount * batchMultiplier x input
  input.tokens / effectiveTPS * kindMultiplier x input

/-- A runtime is at least one second. -/
def floorSecond (seconds : Rat) : Rat := if seconds < 1 then 1 else seconds

/-- `applyRuntimeJitter`, after its checks. -/
def applyRuntimeJitter (x : Readings) (input : RuntimeInput) (seconds : Rat) : Rat :=
  match input.jitter with
  | none => seconds
  | some j =>
      if j.enabled then floorSecond (seconds * (1 + (x.float64 * 2 - 1) * j.pct)) else seconds

/-- The seconds of a run. -/
def runSeconds (x : Readings) (input : RuntimeInput) (deviceCount : Nat) : Rat :=
  applyRuntimeJitter x input (floorSecond (rawSeconds x input deviceCount))

/-- `math.Ceil(seconds) * float64(time.Second)`. -/
def nanoseconds (x : Readings) (input : RuntimeInput) (deviceCount : Nat) : Int :=
  ⌈runSeconds x input deviceCount⌉ * 1000000000

/-- `math.MaxInt64`. -/
def maxInt64 : Int := 9223372036854775807

/-- The conversion of a float to `time.Duration`: what it gives for a value that does not fit is
    left to the processor. -/
structure Conversion where
  toInt64 : Int → Int
  exact : ∀ n, -maxInt64 - 1 ≤ n → n ≤ maxInt64 → toInt64 n = n

/-- The duration of a run. -/
def runDuration (c : Conversion) (x : Readings) (input : RuntimeInput) (deviceCount : Nat) :
    Int :=
  c.toInt64 (nanoseconds x input deviceCount)

/-! ## The clamps -/

theorem clamp_mem {lo hi : Rat} (h : lo ≤ hi) (factor : Rat) :
    lo ≤ clamp lo hi factor ∧ clamp lo hi factor ≤ hi := by
  rw [clamp]
  split_ifs with hlow hhigh
  · exact ⟨le_refl _, h⟩
  · exact ⟨h, le_refl _⟩
  · exact ⟨not_lt.mp hlow, not_lt.mp hhigh⟩

/-- What is too large is cut to the upper end. -/
theorem clamp_of_le {lo hi factor : Rat} (h : lo ≤ hi) (hfactor : hi ≤ factor) :
    clamp lo hi factor = hi := by
  rw [clamp, if_neg (not_lt.mpr (h.trans hfactor))]
  split_ifs with hhigh
  · rfl
  · exact le_antisymm (not_lt.mp hhigh) hfactor

/-- Between equal ends there is one value. -/
theorem clamp_self (hi factor : Rat) : clamp hi hi factor = hi :=
  le_antisymm (clamp_mem (le_refl _) factor).2 (clamp_mem (le_refl _) factor).1

theorem three_quarters_le (x : Readings) : 3 / 4 ≤ hardwareThroughputFactor x :=
  (clamp_mem (by norm_num) x.hardware).1

/-- A gain is one at least, and one when the logarithm is zero. -/
theorem batchEfficiencyMultiplier_spec (kind : WorkloadKind) (batchSize : RuntimeInput → Int)
    {gainSlope maxGain : Rat} (hslope : 0 ≤ gainSlope) (hmax : 1 ≤ maxGain) (x : Readings)
    (input : RuntimeInput) :
    1 ≤ batchEfficiencyMultiplier kind batchSize gainSlope maxGain x input
      ∧ (x.log2 = 0 →
        batchEfficiencyMultiplier kind batchSize gainSlope maxGain x input = 1) := by
  have hgain : 1 ≤ 1 + gainSlope * x.log2 :=
    le_add_of_nonneg_right (mul_nonneg hslope x.log2_nonneg)
  rw [batchEfficiencyMultiplier]
  split_ifs with hkind hsmall hcap
  · exact ⟨le_refl _, fun _ => rfl⟩
  · exact ⟨le_refl _, fun _ => rfl⟩
  · refine ⟨hmax, fun hzero => ?_⟩
    rw [hzero, mul_zero, add_zero] at hcap
    exact absurd hcap (not_lt.mpr hmax)
  · refine ⟨hgain, fun hzero => ?_⟩
    rw [hzero, mul_zero, add_zero]

theorem batchMultiplier_spec (x : Readings) (input : RuntimeInput) :
    1 ≤ batchMultiplier x input ∧ (x.log2 = 0 → batchMultiplier x input = 1) := by
  have hinference := batchEfficiencyMultiplier_spec .inference (fun input => input.inference.getD 0)
    (by norm_num : (0 : Rat) ≤ 35 / 100) (by norm_num : (1 : Rat) ≤ 5 / 2) x input
  have heval := batchEfficiencyMultiplier_spec .eval
    (fun input => input.eval.elim 0 EvalRuntime.batchSize)
    (by norm_num : (0 : Rat) ≤ 25 / 100) (by norm_num : (1 : Rat) ≤ 2) x input
  have hembedding := batchEfficiencyMultiplier_spec .embedding
    (fun input => input.embedding.elim 0 EmbeddingRuntime.batchSize)
    (by norm_num : (0 : Rat) ≤ 22 / 100) (by norm_num : (1 : Rat) ≤ 21 / 10) x input
  refine ⟨one_le_mul_of_one_le_of_one_le (one_le_mul_of_one_le_of_one_le hinference.1 heval.1)
    hembedding.1, fun hzero => ?_⟩
  rw [batchMultiplier, inferenceBatchEfficiencyMultiplier, evalBatchEfficiencyMultiplier,
    embeddingBatchEfficiencyMultiplier, hinference.2 hzero, heval.2 hzero, hembedding.2 hzero,
    one_mul, one_mul]

/-- The largest factor of a workload's kind. -/
def slowest (input : RuntimeInput) : Rat :=
  match input.kind with
  | .training => if input.training.isSome then 3 else 1
  | .inference => 1
  | .eval => if input.eval.isSome then 3 else 1
  | .fineTune => if input.fineTune.isSome then 3 else 1
  | .rlhf => if input.rlhf.isSome then 4 else 1
  | .embedding => if input.embedding.isSome then 35 / 10 else 1
  | .dataPreprocess => if input.dataPreprocess.isSome then 6 else 1
  | .distillation => if input.distillation.isSome then 35 / 10 else 1
  | .other _ _ => 1

/-- A factor, if its payload is there, as one clamp. -/
private theorem clamp_of_present (present : Bool) {lo hi : Rat} (hlo : 0 < lo) (hle : lo ≤ hi)
    (hhi : hi ≤ 6) :
    ∃ l, 0 < l ∧ l ≤ (if present then hi else 1) ∧ (if present then hi else 1) ≤ 6
      ∧ ∀ factor, (if present = false then 1 else clamp lo hi factor)
        = clamp l (if present then hi else 1) factor := by
  cases present with
  | true => exact ⟨lo, hlo, hle, hhi, fun factor => rfl⟩
  | false =>
      exact ⟨1, by norm_num, le_refl _, by norm_num, fun factor => (clamp_self 1 factor).symm⟩

/-- **ONE FACTOR COUNTS**: that of the workload's kind, clamped. -/
theorem kindMultiplier_eq (input : RuntimeInput) :
    ∃ lo, 0 < lo ∧ lo ≤ slowest input ∧ slowest input ≤ 6
      ∧ ∀ x, kindMultiplier x input = clamp lo (slowest input) x.factor := by
  simp only [kindMultiplier, trainingRuntimeSecondsMultiplier, evalRuntimeSecondsMultiplier,
    fineTuneRuntimeSecondsMultiplier, rlhfRuntimeSecondsMultiplier,
    embeddingRuntimeSecondsMultiplier, dataPreprocessRuntimeSecondsMultiplier,
    distillationRuntimeSecondsMultiplier, runtimeSecondsMultiplier, slowest]
  have hnone : ∃ lo : Rat, 0 < lo ∧ lo ≤ 1 ∧ (1 : Rat) ≤ 6
      ∧ ∀ x : Readings, (1 : Rat) = clamp lo 1 x.factor :=
    ⟨1, by norm_num, le_refl _, by norm_num, fun x => (clamp_self 1 x.factor).symm⟩
  cases input.kind with
  | training =>
      obtain ⟨l, hpos, hle, hsix, hfactor⟩ := clamp_of_present input.training.isSome
        (by norm_num : (0 : Rat) < 35 / 100) (by norm_num : (35 / 100 : Rat) ≤ 3) (by norm_num)
      exact ⟨l, hpos, hle, hsix, fun x => by simpa using hfactor x.factor⟩
  | eval =>
      obtain ⟨l, hpos, hle, hsix, hfactor⟩ := clamp_of_present input.eval.isSome
        (by norm_num : (0 : Rat) < 1) (by norm_num : (1 : Rat) ≤ 3) (by norm_num)
      exact ⟨l, hpos, hle, hsix, fun x => by simpa using hfactor x.factor⟩
  | fineTune =>
      obtain ⟨l, hpos, hle, hsix, hfactor⟩ := clamp_of_present input.fineTune.isSome
        (by norm_num : (0 : Rat) < 4 / 10) (by norm_num : (4 / 10 : Rat) ≤ 3) (by norm_num)
      exact ⟨l, hpos, hle, hsix, fun x => by simpa using hfactor x.factor⟩
  | rlhf =>
      obtain ⟨l, hpos, hle, hsix, hfactor⟩ := clamp_of_present input.rlhf.isSome
        (by norm_num : (0 : Rat) < 8 / 10) (by norm_num : (8 / 10 : Rat) ≤ 4) (by norm_num)
      exact ⟨l, hpos, hle, hsix, fun x => by simpa using hfactor x.factor⟩
  | embedding =>
      obtain ⟨l, hpos, hle, hsix, hfactor⟩ := clamp_of_present input.embedding.isSome
        (by norm_num : (0 : Rat) < 6 / 10) (by norm_num : (6 / 10 : Rat) ≤ 35 / 10) (by norm_num)
      exact ⟨l, hpos, hle, hsix, fun x => by simpa using hfactor x.factor⟩
  | dataPreprocess =>
      obtain ⟨l, hpos, hle, hsix, hfactor⟩ := clamp_of_present input.dataPreprocess.isSome
        (by norm_num : (0 : Rat) < 6 / 10) (by norm_num : (6 / 10 : Rat) ≤ 6) (by norm_num)
      exact ⟨l, hpos, hle, hsix, fun x => by simpa using hfactor x.factor⟩
  | distillation =>
      obtain ⟨l, hpos, hle, hsix, hfactor⟩ := clamp_of_present input.distillation.isSome
        (by norm_num : (0 : Rat) < 6 / 10) (by norm_num : (6 / 10 : Rat) ≤ 35 / 10) (by norm_num)
      exact ⟨l, hpos, hle, hsix, fun x => by simpa using hfactor x.factor⟩
  | inference => simpa using hnone
  | other raw _ => simpa using hnone

/-! ## The bound on the seconds -/

/-- The readings of the slowest run. -/
def slow (float64 : Rat) (h0 : 0 ≤ float64) (h1 : float64 < 1) : Readings where
  hardware := 3 / 4
  log2 := 0
  factor := 6
  float64 := float64
  log2_nonneg := le_refl 0
  float64_nonneg := h0
  float64_lt_one := h1

/-- The seconds of the slowest run, before jitter. -/
def slowSeconds (input : RuntimeInput) (deviceCount : Nat) : Rat :=
  input.tokens / (tokensPerSecond (toLower input.profile) * (3 / 4) * deviceCount)
    * slowest input

/-- The range of a workload's jitter. -/
def jitterRange (input : RuntimeInput) : Rat :=
  match input.jitter with
  | none => 0
  | some j => if j.enabled then j.pct else 0

/-- What `StartWithRuntimeInput` accepts, for a number of devices: any positive tokens of 64 bits
    on a known profile, with fractions in range. -/
structure Accepted (input : RuntimeInput) (deviceCount : Nat) : Prop where
  tokens_pos : 0 < input.tokens
  tokens_le : input.tokens ≤ maxInt64
  devices : 0 < deviceCount
  profile : toLower input.profile ∈ profileTokensPerSecond
  checked : checkRuntime input = none

theorem tokensPerSecond_pos {profile : String} (h : profile ∈ profileTokensPerSecond) :
    0 < tokensPerSecond profile := by
  revert profile
  decide

/-- Accepted jitter is off or in range. -/
theorem jitter_of_checked {input : RuntimeInput} (h : checkRuntime input = none) {j : JitterConfig}
    (hj : input.jitter = some j) : ¬ (j.enabled = true ∧ (j.pct ≤ 0 ∨ 1 < j.pct)) := by
  intro hbad
  rw [checkRuntime] at h
  simp only [hj, if_pos hbad] at h
  cases h

theorem jitterRange_mem {input : RuntimeInput} (h : checkRuntime input = none) :
    0 ≤ jitterRange input ∧ jitterRange input ≤ 1 := by
  rw [jitterRange]
  cases hj : input.jitter with
  | none => exact ⟨le_refl _, by norm_num⟩
  | some j =>
      have hok := jitter_of_checked h hj
      simp only
      split_ifs with henabled
      · rw [not_and, not_or, not_le, not_lt] at hok
        exact ⟨le_of_lt (hok henabled).1, (hok henabled).2⟩
      · exact ⟨le_refl _, by norm_num⟩

/-- A run lasts a second at least. -/
theorem one_le_floorSecond (seconds : Rat) : 1 ≤ floorSecond seconds := by
  rw [floorSecond]
  split_ifs with hlow
  · exact le_refl _
  · exact not_lt.mp hlow

theorem le_floorSecond (seconds : Rat) : seconds ≤ floorSecond seconds := by
  rw [floorSecond]
  split_ifs with hlow
  · exact le_of_lt hlow
  · exact le_refl _

theorem floorSecond_le {seconds bound : Rat} (h1 : 1 ≤ bound) (h : seconds ≤ bound) :
    floorSecond seconds ≤ bound := by
  rw [floorSecond]
  split_ifs
  · exact h1
  · exact h

theorem one_le_runSeconds (x : Readings) (input : RuntimeInput) (n : Nat) :
    1 ≤ runSeconds x input n := by
  rw [runSeconds, applyRuntimeJitter]
  cases input.jitter with
  | none => exact one_le_floorSecond _
  | some j =>
      simp only
      split_ifs
      · exact one_le_floorSecond _
      · exact one_le_floorSecond _

/-- Jitter by a random number: a change within its range, and the floor. -/
theorem runSeconds_eq (x : Readings) (input : RuntimeInput) (n : Nat) :
    runSeconds x input n = floorSecond (floorSecond (rawSeconds x input n)
      * (1 + (x.float64 * 2 - 1) * jitterRange input)) := by
  have hplain : ∀ seconds, floorSecond (floorSecond seconds
      * (1 + (x.float64 * 2 - 1) * 0)) = floorSecond seconds := by
    intro seconds
    rw [mul_zero, add_zero, mul_one]
    exact if_neg (not_lt.mpr (one_le_floorSecond seconds))
  rw [runSeconds, applyRuntimeJitter, jitterRange]
  cases input.jitter with
  | none => exact (hplain _).symm
  | some j =>
      simp only
      split_ifs
      · rfl
      · exact (hplain _).symm

section
variable {input : RuntimeInput} {n : Nat} (h : Accepted input n)

include h

/-- No readings make a run longer. -/
theorem rawSeconds_le (x : Readings) : rawSeconds x input n ≤ slowSeconds input n := by
  obtain ⟨lo, hlo, hle, -, hkind⟩ := kindMultiplier_eq input
  obtain ⟨hfactor, hfactor'⟩ := clamp_mem hle x.factor
  have htokens : (0 : Rat) ≤ input.tokens := Int.cast_nonneg (le_of_lt h.tokens_pos)
  have htps := tokensPerSecond_pos h.profile
  have hn : (0 : Rat) < n := Nat.cast_pos.mpr h.devices
  have hhardware := three_quarters_le x
  have hbatch := (batchMultiplier_spec x input).1
  rw [rawSeconds, slowSeconds, hkind]
  refine mul_le_mul (div_le_div_of_nonneg_left htokens (by positivity) ?_) hfactor'
    (le_of_lt (lt_of_lt_of_le hlo hfactor)) (by positivity)
  calc tokensPerSecond (toLower input.profile) * (3 / 4) * n
      = tokensPerSecond (toLower input.profile) * (3 / 4) * n * 1 := (mul_one _).symm
    _ ≤ tokensPerSecond (toLower input.profile) * hardwareThroughputFactor x * n
        * batchMultiplier x input := by gcongr

omit h in
/-- The slowest readings make the longest run. -/
theorem rawSeconds_slow (float64 : Rat) (h0 : 0 ≤ float64) (h1 : float64 < 1) :
    rawSeconds (slow float64 h0 h1) input n = slowSeconds input n := by
  obtain ⟨lo, -, hle, hsix, hkind⟩ := kindMultiplier_eq input
  have hhardware : hardwareThroughputFactor (slow float64 h0 h1) = 3 / 4 := by
    show clamp (3 / 4) (5 / 4) (3 / 4) = 3 / 4
    rw [clamp, if_neg (lt_irrefl _), if_neg (by norm_num)]
  rw [rawSeconds, slowSeconds, hkind, hhardware,
    (batchMultiplier_spec (slow float64 h0 h1) input).2 rfl, mul_one]
  exact congrArg _ (clamp_of_le hle hsix)

/-- Every run is within what the slowest and the jitter allow. -/
theorem runSeconds_le {bound : Rat} (hbound : 2 ≤ bound)
    (hslow : slowSeconds input n * (1 + jitterRange input) ≤ bound) (x : Readings) :
    runSeconds x input n ≤ bound := by
  obtain ⟨h0, h1⟩ := jitterRange_mem h.checked
  have hrange : (x.float64 * 2 - 1) * jitterRange input ≤ jitterRange input := by
    have hdelta : x.float64 * 2 - 1 ≤ 1 := by linarith [x.float64_lt_one]
    calc (x.float64 * 2 - 1) * jitterRange input ≤ 1 * jitterRange input := by gcongr
      _ = jitterRange input := one_mul _
  have hfloor : floorSecond (rawSeconds x input n) * (1 + jitterRange input) ≤ bound := by
    rw [floorSecond]
    split_ifs
    · linarith
    · calc rawSeconds x input n * (1 + jitterRange input)
          ≤ slowSeconds input n * (1 + jitterRange input) := by
            gcongr
            exact rawSeconds_le h x
        _ ≤ bound := hslow
  rw [runSeconds_eq]
  refine floorSecond_le (le_trans (by norm_num) hbound) (le_trans ?_ hfloor)
  have hpos : 0 ≤ floorSecond (rawSeconds x input n) :=
    le_trans (by norm_num) (one_le_floorSecond _)
  gcongr

/-- Beyond that there is a run that is too long. -/
theorem exists_lt_runSeconds {bound : Rat}
    (hslow : bound < slowSeconds input n * (1 + jitterRange input)) :
    ∃ x, bound < runSeconds x input n := by
  obtain ⟨h0, h1⟩ := jitterRange_mem h.checked
  have hS : 0 ≤ slowSeconds input n := by
    obtain ⟨lo, hlo, hle, -, -⟩ := kindMultiplier_eq input
    have htokens : (0 : Rat) ≤ input.tokens := Int.cast_nonneg (le_of_lt h.tokens_pos)
    have htps := tokensPerSecond_pos h.profile
    have hslowest : 0 ≤ slowest input := le_of_lt (lt_of_lt_of_le hlo hle)
    rw [slowSeconds]
    positivity
  generalize hr : jitterRange input = r at hslow h0 h1
  generalize hs : slowSeconds input n = S at hslow hS
  -- the random number stays below one: the end of the range is approached, not reached
  have hroom : 0 < 2 * (S * r) + 1 := by positivity
  have hgap : 0 < S * (1 + r) - bound := sub_pos.mpr hslow
  obtain ⟨e, he, he1, hsmall⟩ : ∃ e : Rat, 0 < e ∧ e ≤ 1
      ∧ e * (2 * (S * r) + 1) ≤ S * (1 + r) - bound :=
    ⟨min 1 ((S * (1 + r) - bound) / (2 * (S * r) + 1)), lt_min one_pos (div_pos hgap hroom),
      min_le_left _ _, (le_div_iff₀ hroom).mp (min_le_right _ _)⟩
  refine ⟨slow (1 - e) (by linarith) (by linarith), ?_⟩
  have hraw : rawSeconds (slow (1 - e) (by linarith) (by linarith)) input n = S := by
    rw [rawSeconds_slow, hs]
  rw [runSeconds_eq, hraw, hr]
  have hdelta : 0 ≤ 1 + ((1 - e) * 2 - 1) * r := by
    nlinarith
  calc bound < S * (1 + ((1 - e) * 2 - 1) * r) := by linarith
    _ ≤ floorSecond S * (1 + ((1 - e) * 2 - 1) * r) :=
        mul_le_mul_of_nonneg_right (le_floorSecond S) hdelta
    _ ≤ _ := le_floorSecond _

end

/-! ## Nanoseconds -/

/-- The seconds whose nanoseconds fit. -/
def maxSeconds : Rat := 9223372036

theorem nanoseconds_le_iff (x : Readings) (input : RuntimeInput) (n : Nat) :
    nanoseconds x input n ≤ maxInt64 ↔ runSeconds x input n ≤ maxSeconds := by
  have hceil : runSeconds x input n ≤ maxSeconds ↔ ⌈runSeconds x input n⌉ ≤ 9223372036 := by
    rw [Int.ceil_le]
    rfl
  rw [hceil, nanoseconds, maxInt64]
  omega

theorem second_le_nanoseconds (x : Readings) (input : RuntimeInput) (n : Nat) :
    1000000000 ≤ nanoseconds x input n := by
  have hceil : (0 : Int) < ⌈runSeconds x input n⌉ :=
    Int.ceil_pos.mpr (lt_of_lt_of_le one_pos (one_le_runSeconds x input n))
  rw [nanoseconds]
  omega

/-- **WHAT FITS**: the tokens, by the largest factor of the kind and the jitter, against the
    least throughput. -/
def Fits (input : RuntimeInput) (deviceCount : Nat) : Prop :=
  input.tokens * slowest input * (1 + jitterRange input)
    ≤ maxSeconds * (tokensPerSecond (toLower input.profile) * (3 / 4) * deviceCount)

theorem fits_iff {input : RuntimeInput} {n : Nat} (h : Accepted input n) :
    Fits input n ↔ slowSeconds input n * (1 + jitterRange input) ≤ maxSeconds := by
  have htps := tokensPerSecond_pos h.profile
  have hn : (0 : Rat) < n := Nat.cast_pos.mpr h.devices
  rw [Fits, slowSeconds, div_mul_eq_mul_div, div_mul_eq_mul_div, div_le_iff₀ (by positivity)]

/-- Every estimate fits exactly when the input does. -/
theorem nanoseconds_le_iff_fits {input : RuntimeInput} {n : Nat} (h : Accepted input n) :
    (∀ x, nanoseconds x input n ≤ maxInt64) ↔ Fits input n := by
  rw [fits_iff h]
  constructor
  · intro hall
    by_contra hlong
    obtain ⟨x, hx⟩ := exists_lt_runSeconds h (not_le.mp hlong)
    exact absurd ((nanoseconds_le_iff x input n).mp (hall x)) (not_le.mpr hx)
  · intro hfits x
    rw [nanoseconds_le_iff]
    exact runSeconds_le h (by rw [maxSeconds]; norm_num) hfits x

/-! ## Runs -/

section
variable (c : Conversion) (x : Readings)

/-- The estimator of the simulator, given what it reads and draws. -/
def estimator : Estimator := estimateDuration (fun _ => runDuration c x)

variable {c x}

theorem estimator_ok {now : Int} {input : RuntimeInput} {n : Nat} {duration : Int}
    (h : estimator c x now input n = .ok duration) : duration = runDuration c x input n := by
  rw [estimator, estimateDuration] at h
  split_ifs at h
  split at h
  · split_ifs at h
    exact (Except.ok.inj h).symm
  · exact (Except.ok.inj h).symm

/-- An accepted input has an estimate. -/
theorem estimator_of_accepted {input : RuntimeInput} {n : Nat} (h : Accepted input n)
    (now : Int) : estimator c x now input n = .ok (runDuration c x input n) := by
  have hknown : ∀ profile ∈ profileTokensPerSecond, profile ∈ GpuCompat.hardwareProfiles := by
    decide
  rw [estimator, estimateDuration, if_neg (not_le.mpr h.tokens_pos),
    if_neg (Nat.ne_of_gt h.devices), if_neg (not_not.mpr h.profile),
    if_neg (not_not.mpr (hknown _ h.profile))]
  cases hj : input.jitter with
  | none => rfl
  | some j => exact if_neg (jitter_of_checked h.checked hj)

/-- The run that a start makes. -/
theorem started_record {s t : Simulator} {order : List String} {now : Int} {input : RuntimeInput}
    {id : String} {a : Allocation}
    (halloc : s.allocations.lookup (applyDefaults (defaultKind input)).workloadID = some a)
    (h : startWithRuntimeInput (estimator c x) s order now input = .ok (id, t)) :
    id ≠ "" ∧ ∃ r, t.runs.lookup id = some r ∧ r.startedAt = now ∧ r.status = .running
      ∧ r.endsAt
        = now + runDuration c x (applyDefaults (defaultKind input)) a.deviceIDs.length := by
  rw [startWithRuntimeInput_eq] at h
  cases hr : startedRun (estimator c x)
      (s.allocations.lookup (applyDefaults (defaultKind input)).workloadID)
      (findRunning s order (applyDefaults (defaultKind input)).workloadID) (nextID s) now
      input with
  | error e =>
      rw [hr] at h
      cases h
  | ok r =>
      rw [hr] at h
      obtain ⟨rfl, rfl⟩ := Prod.mk.inj (Except.ok.inj h)
      obtain ⟨-, -, -, -, -, -, a', duration, halloc', -, hduration, rfl⟩ :=
        startedRun_ok_iff.mp hr
      rw [halloc] at halloc'
      obtain rfl := Option.some.inj halloc'
      refine ⟨?_, _, AList.lookup_insert _, rfl, rfl, ?_⟩
      · rw [nextID]
        intro hempty
        have hlist := congrArg String.toList hempty
        simp [String.toList_append] at hlist
      · rw [← estimator_ok hduration]

/-- An accepted input of an idle workload with an allocation is started. -/
theorem start_of_accepted {s : Simulator} {order : List String} {input : RuntimeInput}
    {a : Allocation} (now : Int) (hid : input.workloadID ≠ "") (htokens : 0 < input.tokens)
    (hprofile : input.profile ≠ "") (hkind : (defaultKind input).kind.supported = true)
    (halloc : s.allocations.lookup (applyDefaults (defaultKind input)).workloadID = some a)
    (hidle : findRunning s order (applyDefaults (defaultKind input)).workloadID = none)
    (h : Accepted (applyDefaults (defaultKind input)) a.deviceIDs.length) :
    ∃ t, startWithRuntimeInput (estimator c x) s order now input = .ok (nextID s, t) := by
  rw [startWithRuntimeInput_eq, startedRun_ok_iff.mpr ⟨hid, htokens, hprofile, hkind, h.checked,
    hidle, a, _, halloc, List.length_pos_iff.mp h.devices, estimator_of_accepted h now, rfl⟩]
  exact ⟨_, rfl⟩

/-- A recorded run is running as long as it has not ended. -/
theorem getStatus_running {s : Simulator} {id : String} {r : RunRecord} (now : Int)
    (hid : id ≠ "") (hr : s.runs.lookup id = some r) (hrun : r.status = .running) :
    ∃ t, getStatus s now id = .ok (if r.endsAt ≤ now then .succeeded else .running, t) := by
  rw [getStatus, if_neg hid, hr]
  refine ⟨_, congrArg Except.ok (Prod.ext ?_ rfl)⟩
  simp only [RunRecord.refresh, hrun, true_and]
  split_ifs
  · rfl
  · exact hrun

end

/-- The conversion of amd64: what does not fit becomes the least integer. -/
def leastInt64 : Conversion where
  toInt64 n := if -maxInt64 - 1 ≤ n ∧ n ≤ maxInt64 then n else -maxInt64 - 1
  exact _ hlow hhigh := if_pos ⟨hlow, hhigh⟩

/-- There a run that is too long has succeeded as soon as it has started. -/
theorem too_long_succeeds {x : Readings} {s t : Simulator} {order : List String}
    {now : Int} {input : RuntimeInput} {id : String} {a : Allocation}
    (halloc : s.allocations.lookup (applyDefaults (defaultKind input)).workloadID = some a)
    (hlong : maxInt64
      < nanoseconds x (applyDefaults (defaultKind input)) a.deviceIDs.length)
    (h : startWithRuntimeInput (estimator leastInt64 x) s order now input = .ok (id, t)) :
    ∃ t', getStatus t now id = .ok (.succeeded, t') := by
  obtain ⟨hid, r, hr, -, hrun, hends⟩ := started_record halloc h
  obtain ⟨t', ht'⟩ := getStatus_running now hid hr hrun
  have hleast : runDuration leastInt64 x (applyDefaults (defaultKind input)) a.deviceIDs.length
      = -maxInt64 - 1 := if_neg (fun hfits => absurd hfits.2 (not_le.mpr hlong))
  rw [hends, hleast, if_pos (by rw [maxInt64]; omega)] at ht'
  exact ⟨t', ht'⟩

/-- What an estimate should be: it fits, it is a second at least, and the run made of it ends a
    second after its start at the earliest and has not succeeded before. -/
structure Lasting (x : Readings) (input : RuntimeInput) (deviceCount : Nat) : Prop where
  fits : nanoseconds x (applyDefaults (defaultKind input)) deviceCount ≤ maxInt64
  second : 1000000000 ≤ nanoseconds x (applyDefaults (defaultKind input)) deviceCount
  runs : ∀ (c : Conversion) (s t : Simulator) (order : List String) (now : Int) (id : String)
    (a : Allocation),
    s.allocations.lookup (applyDefaults (defaultKind input)).workloadID = some a →
    a.deviceIDs.length = deviceCount →
    startWithRuntimeInput (estimator c x) s order now input = .ok (id, t) →
    ∃ r, t.runs.lookup id = some r ∧ r.startedAt = now ∧ now + 1000000000 ≤ r.endsAt
      ∧ ∀ later < now + 1000000000, ∃ t', getStatus t later id = .ok (.running, t')

/-- An estimate that fits makes a lasting run. -/
theorem lasting_of_fits {x : Readings} {input : RuntimeInput} {n : Nat}
    (h : nanoseconds x (applyDefaults (defaultKind input)) n ≤ maxInt64) :
    Lasting x input n := by
  have hsecond := second_le_nanoseconds x (applyDefaults (defaultKind input)) n
  refine ⟨h, hsecond, fun c s t order now id a halloc hlen hstart => ?_⟩
  obtain ⟨hid, r, hr, hnow, hrun, hends⟩ := started_record halloc hstart
  have hexact : c.toInt64 (nanoseconds x (applyDefaults (defaultKind input)) n)
      = nanoseconds x (applyDefaults (defaultKind input)) n :=
    c.exact _ (by rw [maxInt64] at *; omega) h
  rw [hlen, runDuration, hexact] at hends
  refine ⟨r, hr, hnow, by omega, fun later hlater => ?_⟩
  obtain ⟨t', ht'⟩ := getStatus_running later hid hr hrun
  rw [if_neg (by omega)] at ht'
  exact ⟨t', ht'⟩

/-- **DURATIONS FIT EXACTLY WHEN**: of an accepted input every estimate fits and makes a lasting
    run, whatever the readings, exactly when its tokens are within the bound. -/
theorem durations_fit_iff (input : RuntimeInput) (deviceCount : Nat)
    (h : Accepted (applyDefaults (defaultKind input)) deviceCount) :
    (∀ x, Lasting x input deviceCount)
      ↔ Fits (applyDefaults (defaultKind input)) deviceCount := by
  rw [← nanoseconds_le_iff_fits h]
  exact ⟨fun hall x => (hall x).fits, fun hfits x => lasting_of_fits (hfits x)⟩

/-- A training run without a payload. -/
def trainingOf (tokens : Int) : RuntimeInput :=
  ⟨"ns/w", tokens, "h100_sxm", .training, none, none, none, none, none, none, none, none, none⟩

theorem known_h100 : toLower "h100_sxm" ∈ profileTokensPerSecond := by decide +kernel

theorem accepted_trainingOf {tokens : Int} (hpos : 0 < tokens) (hle : tokens ≤ maxInt64) :
    Accepted (applyDefaults (defaultKind (trainingOf tokens))) 1 :=
  ⟨hpos, hle, Nat.one_pos, known_h100, rfl⟩

theorem fits_trainingOf (tokens : Int) :
    Fits (applyDefaults (defaultKind (trainingOf tokens))) 1 ↔ tokens ≤ 83010348324000 := by
  have htps : tokensPerSecond (toLower "h100_sxm") = 12000 := by decide +kernel
  show (tokens : Rat) * 1 * (1 + 0)
    ≤ 9223372036 * (tokensPerSecond (toLower "h100_sxm") * (3 / 4) * (1 : Nat)) ↔ _
  rw [htps, ← Int.cast_le (R := Rat)]
  norm_num

/-- A trillion tokens take less than four years on one device. -/
theorem trillionTokens_lasting :
    Fits (applyDefaults (defaultKind (trainingOf 1000000000000))) 1
      ∧ Lasting (slow 0 (le_refl 0) one_pos) (trainingOf 1000000000000) 1 := by
  have haccepted := accepted_trainingOf (by decide : (0 : Int) < 1000000000000) (by decide)
  have hfits := (fits_trainingOf 1000000000000).mpr (by decide)
  exact ⟨hfits, (durations_fit_iff _ 1 haccepted).mpr hfits _⟩

/-- One allocated device. -/
def oneDevice : Simulator :=
  { newSimulator with allocations := newSimulator.allocations.insert "ns/w" ⟨"ns/w", ["d"]⟩ }

/-- **DURATIONS OVERFLOW**: the largest number of tokens does not fit, and where the conversion
    gives the least integer the run has succeeded at once. -/
theorem mostTokens_overflow :
    (¬ ∀ (input : RuntimeInput) (deviceCount : Nat),
        Accepted (applyDefaults (defaultKind input)) deviceCount →
        ∀ x, Lasting x input deviceCount)
      ∧ ∃ x id t t',
        startWithRuntimeInput (estimator leastInt64 x) oneDevice [] 0 (trainingOf maxInt64)
            = .ok (id, t)
          ∧ getStatus t 0 id = .ok (.succeeded, t') := by
  have haccepted := accepted_trainingOf (by decide : 0 < maxInt64) (le_refl _)
  have hlong : ¬ ∀ x, nanoseconds x (applyDefaults (defaultKind (trainingOf maxInt64))) 1
      ≤ maxInt64 := by
    rw [nanoseconds_le_iff_fits haccepted, fits_trainingOf]
    decide
  constructor
  · intro hall
    exact hlong (fun x => (hall (trainingOf maxInt64) 1 haccepted x).fits)
  · obtain ⟨x, hx⟩ := not_forall.mp hlong
    rw [not_le] at hx
    have hidle : findRunning oneDevice [] "ns/w" = none := rfl
    have halloc : oneDevice.allocations.lookup
        (applyDefaults (defaultKind (trainingOf maxInt64))).workloadID
        = some ⟨"ns/w", ["d"]⟩ := rfl
    have hpos : 0 < (trainingOf maxInt64).tokens := by decide
    obtain ⟨t, hstart⟩ := start_of_accepted (c := leastInt64) (x := x)
      0 (by decide : "ns/w" ≠ "") hpos (by decide : "h100_sxm" ≠ "") rfl halloc hidle haccepted
    obtain ⟨t', ht'⟩ := too_long_succeeds halloc hx hstart
    exact ⟨x, _, t, t', hstart, ht'⟩

end GpuDuration
