import GpuScheduler.GoRandProofs
import GpuScheduler.CRNameBytesProofs
import GpuScheduler.RequestProofs
import GpuScheduler.StoredStartProofs

/-! # The load generator

    `Generator.Next` draws a request: its tenant, profile and kind from lists, its numbers
    from ranges, and the payload of its kind.  Whatever is drawn, the submitter accepts the
    request exactly when its tenant is not blank and its kind is written as the submitter
    writes it, and then the declared rules of the resource hold and a start does not refuse
    it (`generated_accepted_iff`).  The IDs are numbered, so no two requests of a generator
    become one object (`generated_apart`). -/

namespace GpuGenerator

open GoStrings GoRand Words GpuInputs GpuCompat GpuWorkload GpuSimulator GpuCRD GpuCRName
  GpuCRNameBytes GpuRequest GpuErrorText GpuStoredStart GoFmt

/-! ## The generator -/

/-- `Generator`; the lists are sampled, so none is empty, and no profile is blank. -/
structure Generator where
  tenants : List String
  profiles : List String
  kinds : List String
  counter : Nat
  tenants_ne : tenants ≠ []
  profiles_ne : profiles ≠ []
  kinds_ne : kinds ≠ []
  named : ∀ p ∈ profiles, trimSpace p ≠ ""

/-- `Kinds`. -/
def kinds : List String :=
  ["training", "inference", "eval", "fine_tune", "rlhf", "embedding", "data_preprocess",
    "distillation"]

/-- `Profiles`. -/
def profiles : List String := ["h100_sxm", "a100_80gb", "tpu_v5e_chip"]

/-- The tenants of a generator that is given none. -/
def orDefault (tenants : List String) : List String :=
  if tenants = [] then ["tenant-a", "tenant-b", "tenant-c"] else tenants

theorem orDefault_ne (tenants : List String) : orDefault tenants ≠ [] := by
  rw [orDefault]
  split_ifs with h
  · exact List.cons_ne_nil _ _
  · exact h

theorem profiles_named : ∀ p ∈ profiles, trimSpace p ≠ "" := by decide +kernel

/-- The profiles of a new generator are known to the simulator. -/
theorem profiles_known : ∀ p ∈ profiles, normalizeProfileName p ∈ hardwareProfiles := by
  decide +kernel

/-- `NewGenerator`. -/
def newGenerator (tenants : List String) : Generator where
  tenants := orDefault tenants
  profiles := profiles
  kinds := kinds
  counter := 0
  tenants_ne := orDefault_ne tenants
  profiles_ne := List.cons_ne_nil _ _
  kinds_ne := List.cons_ne_nil _ _
  named := profiles_named

/-- The entries that are not blank, trimmed. -/
def cleaned (names : List String) : List String := (names.map trimSpace).filter (· ≠ "")

/-- Trimming twice is trimming once. -/
theorem trimSpace_trimSpace (s : String) : trimSpace (trimSpace s) = trimSpace s := by
  generalize hl : (s.toList.dropWhile isSpace).rdropWhile isSpace = l
  have hlist : (trimSpace s).toList = l := by rw [trimSpace, String.toList_ofList, hl]
  refine String.toList_inj.mp ?_
  rw [trimSpace, String.toList_ofList, hlist]
  by_cases hnil : l = []
  · rw [hnil]
    rfl
  · obtain ⟨hhead, hlast⟩ := trimmed_ends hnil ⟨s.toList, hl.symm⟩
    have hdrop : l.dropWhile isSpace = l := by
      rw [List.dropWhile_eq_self_iff]
      intro hpos
      rw [← List.head_eq_getElem hnil, hhead]
      exact Bool.false_ne_true
    rw [hdrop, List.rdropWhile_eq_self_iff]
    intro hne
    rw [hlast]
    exact Bool.false_ne_true

theorem cleaned_named (names : List String) : ∀ p ∈ cleaned names, trimSpace p ≠ "" := by
  intro p hp
  obtain ⟨hp, hne⟩ := List.mem_filter.mp hp
  obtain ⟨s, -, rfl⟩ := List.mem_map.mp hp
  rw [trimSpace_trimSpace]
  exact of_decide_eq_true hne

/-- `SetProfiles`. -/
def Generator.setProfiles (g : Generator) (names : List String) : Generator :=
  if h : cleaned names = [] then g
  else
    { g with
      profiles := cleaned names
      profiles_ne := h
      named := cleaned_named names }

/-- `SetKinds`. -/
def Generator.setKinds (g : Generator) (names : List String) : Generator :=
  if h : cleaned names = [] then g
  else
    { g with
      kinds := cleaned names
      kinds_ne := h }

section
variable {R : Type} (rand : MathRand R) (fl : Float64)

/-- `gRand`. -/
def gRand (min max : Int) : StateM R Int :=
  if max ≤ min then pure min
  else do
    let i ← rand.intn (max - min + 1).toNat
    return min + i

/-- `gRandFloat`. -/
def gRandFloat (min max : Rat) : StateM R Rat := do
  let x ← rand.float64
  return fl.round (min + fl.round (x * fl.round (max - min)))

/-! ## Payloads -/

def trainingPayload : StateM R TrainingRuntime := do
  let globalBatchSize ← gRand rand 8 256
  let microBatchSize ← gRand rand 1 32
  let gradAccumSteps ← gRand rand 1 8
  let sequenceLength ← gRand rand 512 4096
  return ⟨globalBatchSize, microBatchSize, gradAccumSteps, sequenceLength⟩

def evalPayload : StateM R EvalRuntime := do
  let batchSize ← gRand rand 1 32
  let metricOverheadPct ← gRandFloat rand fl 0 (fl.round (2 / 10))
  let validationOverheadPct ← gRandFloat rand fl 0 (fl.round (15 / 100))
  return ⟨batchSize, metricOverheadPct, validationOverheadPct⟩

def fineTunePayload : StateM R FineTuneRuntime := do
  let globalBatchSize ← gRand rand 4 128
  let microBatchSize ← gRand rand 1 16
  let gradAccumSteps ← gRand rand 1 8
  let warmStartOverheadPct ← gRandFloat rand fl 0 (fl.round (1 / 10))
  let checkpointLoadOverheadPct ← gRandFloat rand fl 0 (fl.round (5 / 100))
  return ⟨globalBatchSize, microBatchSize, gradAccumSteps, warmStartOverheadPct,
    checkpointLoadOverheadPct⟩

def rlhfPayload : StateM R RLHFRuntime := do
  let rolloutBatchSize ← gRand rand 4 32
  let rewardBatchSize ← gRand rand 4 64
  let updateBatchSize ← gRand rand 2 16
  let policyUpdateSteps ← gRand rand 1 10
  return ⟨rolloutBatchSize, rewardBatchSize, updateBatchSize, policyUpdateSteps⟩

def embeddingPayload : StateM R EmbeddingRuntime := do
  let batchSize ← gRand rand 8 128
  let vectorDimension ← rand.pick [384, 768, 1024, 1536] (List.cons_ne_nil _ _)
  let avgTokenLength ← gRand rand 32 512
  return ⟨batchSize, vectorDimension, avgTokenLength⟩

def dataPreprocessPayload : StateM R DataPreprocessRuntime := do
  let inputBytes ← rand.int63n 10000000000
  let tokenizationOverheadPct ← gRandFloat rand fl 0 (fl.round (2 / 10))
  let augmentationOverheadPct ← gRandFloat rand fl 0 (fl.round (1 / 10))
  return ⟨inputBytes + 1000000, tokenizationOverheadPct, augmentationOverheadPct⟩

def distillationPayload : StateM R DistillationRuntime := do
  let batchSize ← gRand rand 2 32
  let teacherForwardOverheadPct ← gRandFloat rand fl 0 (fl.round (3 / 10))
  return ⟨"a100_80gb", batchSize, teacherForwardOverheadPct⟩

/-- `setKindPayload`: the kind is compared as it is written. -/
def setKindPayload (req : WorkloadRequest) : StateM R WorkloadRequest :=
  match workloadKind req.kind with
  | .training => do return { req with training := some (← trainingPayload rand) }
  | .inference => do return { req with inference := some (← gRand rand 1 64) }
  | .eval => do return { req with eval := some (← evalPayload rand fl) }
  | .fineTune => do return { req with fineTune := some (← fineTunePayload rand fl) }
  | .rlhf => do return { req with rlhf := some (← rlhfPayload rand) }
  | .embedding => do return { req with embedding := some (← embeddingPayload rand) }
  | .dataPreprocess => do
      return { req with dataPreprocess := some (← dataPreprocessPayload rand fl) }
  | .distillation => do return { req with distillation := some (← distillationPayload rand fl) }
  | .other _ _ => return req

/-! ## Requests -/

/-- `loadgen-%d-%d`. -/
def loadgenID (counter n : Nat) : String := "loadgen-" ++ fmtNat counter ++ "-" ++ fmtNat n

/-- The optional limit of `Next`, for three requests in ten. -/
def maxRuntimeSeconds : StateM R (Option Int) := do
  let x ← rand.float32
  -- the `float32` closest to 0.3
  if x < 10066330 / 33554432 then
    let s ← rand.intn 3600
    return some (s + 60)
  else return none

/-- `Next`; the generator comes back with its counter. -/
def Generator.next (g : Generator) : StateM R (WorkloadRequest × Generator) := do
  let n ← rand.int63
  let tenant ← rand.pick g.tenants g.tenants_ne
  let priority ← rand.intn 10
  let gpuCount ← rand.intn 4
  let gpuMemoryMiB ← rand.pick [4096, 8192, 16384, 32768, 40960, 81920] (List.cons_ne_nil _ _)
  let tokens ← rand.int63n 5000000
  let modelProfile ← rand.pick g.profiles g.profiles_ne
  let kind ← rand.pick g.kinds g.kinds_ne
  let limit ← maxRuntimeSeconds rand
  let req ← setKindPayload rand fl
    ⟨loadgenID (g.counter + 1) n, tenant, priority + 1, gpuCount + 1, gpuMemoryMiB,
      tokens + 10000, limit, modelProfile, kind, none, none, none, none, none, none, none, none⟩
  return (req, { g with counter := g.counter + 1 })

/-- The loop of the producer. -/
def generate : Nat → Generator → StateM R (List WorkloadRequest)
  | 0, _ => return []
  | count + 1, g => do
      let r ← g.next rand fl
      let rest ← generate count r.2
      return r.1 :: rest

end

/-! ## What every draw keeps -/

section
variable {R : Type} {rand : MathRand R} {fl : Float64}

theorem every_gRand {min max : Int} (h : 0 ≤ min) :
    Every (gRand rand min max) (fun n => 0 ≤ n) := by
  rw [gRand]
  split_ifs with hle
  · exact .pure h
  · have hpos : 0 < (max - min + 1).toNat := by omega
    refine (rand.every_intn _ hpos).bind (fun i _ => .pure ?_)
    omega

/-- A fraction stays one under rounding. -/
theorem every_gRandFloat {max : Rat} (h0 : 0 ≤ max) (h1 : max ≤ 1) :
    Every (gRandFloat rand fl 0 (fl.round max)) (fun x => 0 ≤ x ∧ x ≤ 1) := by
  refine rand.every_float64.bind (fun x hx => .pure ?_)
  have hlo : 0 ≤ fl.round max := le_of_eq_of_le fl.round_zero.symm (fl.mono _ _ h0)
  have hhi : fl.round max ≤ 1 := le_of_le_of_eq (fl.mono _ _ h1) fl.round_one
  have hprod : 0 ≤ x * fl.round max := mul_nonneg hx.1 hlo
  have hless : x * fl.round max ≤ fl.round max := mul_le_of_le_one_left hlo (le_of_lt hx.2)
  rw [sub_zero, fl.round_round, zero_add, fl.round_round]
  constructor
  · calc (0 : Rat) = fl.round 0 := fl.round_zero.symm
      _ ≤ fl.round (x * fl.round max) := fl.mono _ _ hprod
  · calc fl.round (x * fl.round max) ≤ fl.round (fl.round max) := fl.mono _ _ hless
      _ = fl.round max := fl.round_round max
      _ ≤ 1 := hhi

theorem every_trainingPayload :
    Every (trainingPayload rand) (fun t => (boundedTraining t).Ok) := by
  refine (every_gRand (by decide)).bind (fun a ha => ?_)
  refine (every_gRand (by decide)).bind (fun b hb => ?_)
  refine (every_gRand (by decide)).bind (fun c hc => ?_)
  refine (every_gRand (by decide)).bind (fun d hd => .pure ?_)
  simp [boundedTraining, Bounded.Ok, ha, hb, hc, hd]

theorem every_evalPayload : Every (evalPayload rand fl) (fun e => (boundedEval e).Ok) := by
  refine (every_gRand (by decide)).bind (fun a ha => ?_)
  refine (every_gRandFloat (by norm_num) (by norm_num)).bind (fun x hx => ?_)
  refine (every_gRandFloat (by norm_num) (by norm_num)).bind (fun y hy => .pure ?_)
  simp [boundedEval, Bounded.Ok, ha, hx, hy]

theorem every_fineTunePayload :
    Every (fineTunePayload rand fl) (fun f => (boundedFineTune f).Ok) := by
  refine (every_gRand (by decide)).bind (fun a ha => ?_)
  refine (every_gRand (by decide)).bind (fun b hb => ?_)
  refine (every_gRand (by decide)).bind (fun c hc => ?_)
  refine (every_gRandFloat (by norm_num) (by norm_num)).bind (fun x hx => ?_)
  refine (every_gRandFloat (by norm_num) (by norm_num)).bind (fun y hy => .pure ?_)
  simp [boundedFineTune, Bounded.Ok, ha, hb, hc, hx, hy]

theorem every_rlhfPayload : Every (rlhfPayload rand) (fun r => (boundedRLHF r).Ok) := by
  refine (every_gRand (by decide)).bind (fun a ha => ?_)
  refine (every_gRand (by decide)).bind (fun b hb => ?_)
  refine (every_gRand (by decide)).bind (fun c hc => ?_)
  refine (every_gRand (by decide)).bind (fun d hd => .pure ?_)
  simp [boundedRLHF, Bounded.Ok, ha, hb, hc, hd]

theorem every_embeddingPayload :
    Every (embeddingPayload rand) (fun e => (boundedEmbedding e).Ok) := by
  have hdimension : ∀ n ∈ ([384, 768, 1024, 1536] : List Int), 0 ≤ n := by decide
  refine (every_gRand (by decide)).bind (fun a ha => ?_)
  refine (rand.every_pick _ _).bind (fun b hb => ?_)
  refine (every_gRand (by decide)).bind (fun c hc => .pure ?_)
  simp [boundedEmbedding, Bounded.Ok, ha, hdimension b hb, hc]

theorem every_dataPreprocessPayload :
    Every (dataPreprocessPayload rand fl) (fun d => (boundedDataPreprocess d).Ok) := by
  refine (rand.every_int63n _ (by decide)).bind (fun n _ => ?_)
  have hbytes : (0 : Int) ≤ n + 1000000 := by omega
  refine (every_gRandFloat (by norm_num) (by norm_num)).bind (fun x hx => ?_)
  refine (every_gRandFloat (by norm_num) (by norm_num)).bind (fun y hy => .pure ?_)
  simp [boundedDataPreprocess, Bounded.Ok, hbytes, hx, hy]

theorem every_distillationPayload : Every (distillationPayload rand fl)
    (fun d => (boundedDistillation d).Ok ∧ d.teacherProfile = "a100_80gb") := by
  refine (every_gRand (by decide)).bind (fun a ha => ?_)
  refine (every_gRandFloat (by norm_num) (by norm_num)).bind (fun x hx => .pure ⟨?_, rfl⟩)
  simp [boundedDistillation, Bounded.Ok, ha, hx]

/-- A request without its payloads. -/
def bare (req : WorkloadRequest) : WorkloadRequest :=
  { req with
    training := none
    inference := none
    eval := none
    fineTune := none
    rlhf := none
    embedding := none
    dataPreprocess := none
    distillation := none }

/-- What a kind does to the payloads: a supported one is set, in its bounds, and no other kind
    sets any. -/
structure Filled (k : WorkloadKind) (req : WorkloadRequest) : Prop where
  config : k.supported = true → req.has k = true
  empty : k.supported = false → ∀ l : WorkloadKind, l.supported = true → req.has l = false
  bounds : ∀ b ∈ req.payloads, b.Ok
  teacher : ∀ d, req.distillation = some d → d.teacherProfile = "a100_80gb"

/-- One payload. -/
theorem Filled.one {k : WorkloadKind} {req : WorkloadRequest} {b : Bounded}
    (hk : k.supported = true) (hconfig : req.has k = true) (hpayloads : req.payloads = [b])
    (hb : b.Ok) (hteacher : ∀ d, req.distillation = some d → d.teacherProfile = "a100_80gb") :
    Filled k req := by
  refine ⟨fun _ => hconfig, fun hno => ?_, ?_, hteacher⟩
  · rw [hk] at hno
    cases hno
  · rw [hpayloads]
    exact List.forall_mem_singleton.mpr hb

/-- **THE PAYLOAD OF A KIND**, whatever is drawn; the rest of the request stays. -/
theorem every_setKindPayload {req : WorkloadRequest} (h : bare req = req) :
    Every (setKindPayload rand fl req)
      (fun req' => bare req' = bare req ∧ Filled (workloadKind req.kind) req') := by
  rw [← h, setKindPayload]
  generalize workloadKind (bare req).kind = k
  cases k with
  | training =>
      refine every_trainingPayload.bind (fun t ht => .pure ⟨rfl, ?_⟩)
      exact .one rfl rfl rfl ht (fun d hd => by cases hd)
  | inference =>
      refine (every_gRand (by decide)).bind (fun n hn => .pure ⟨rfl, ?_⟩)
      have hok : (boundedInference n).Ok := by simp [boundedInference, Bounded.Ok, hn]
      exact .one rfl rfl rfl hok (fun d hd => by cases hd)
  | eval =>
      refine every_evalPayload.bind (fun e he => .pure ⟨rfl, ?_⟩)
      exact .one rfl rfl rfl he (fun d hd => by cases hd)
  | fineTune =>
      refine every_fineTunePayload.bind (fun f hf => .pure ⟨rfl, ?_⟩)
      exact .one rfl rfl rfl hf (fun d hd => by cases hd)
  | rlhf =>
      refine every_rlhfPayload.bind (fun r hr => .pure ⟨rfl, ?_⟩)
      exact .one rfl rfl rfl hr (fun d hd => by cases hd)
  | embedding =>
      refine every_embeddingPayload.bind (fun e he => .pure ⟨rfl, ?_⟩)
      exact .one rfl rfl rfl he (fun d hd => by cases hd)
  | dataPreprocess =>
      refine every_dataPreprocessPayload.bind (fun p hp => .pure ⟨rfl, ?_⟩)
      exact .one rfl rfl rfl hp (fun d hd => by cases hd)
  | distillation =>
      refine every_distillationPayload.bind (fun p hp => .pure ⟨rfl, ?_⟩)
      refine .one rfl rfl rfl hp.1 (fun d hd => ?_)
      rw [← Option.some.inj hd]
      exact hp.2
  | other raw _ =>
      refine .pure ⟨rfl, ⟨fun hk => ?_, fun _ l hl => ?_, fun b hb => ?_, fun d hd => ?_⟩⟩
      · cases hk
      · cases l with
        | other raw _ => cases hl
        | _ => rfl
      · cases hb
      · cases hd

theorem every_maxRuntimeSeconds :
    Every (maxRuntimeSeconds rand) (fun limit => ∀ s ∈ limit, 1 ≤ s) := by
  refine (Every.any _).bind (fun x _ => ?_)
  split_ifs
  · refine (rand.every_intn 3600 (by decide)).bind (fun n _ => .pure ?_)
    intro s hs
    rw [← Option.some.inj hs]
    omega
  · exact .pure (fun s hs => by cases hs)

/-- What a request of a generator is like. -/
structure Generated (g : Generator) (counter : Nat) (req : WorkloadRequest) : Prop where
  requestID : ∃ n, n < 2 ^ 63 ∧ req.requestID = loadgenID counter n
  gpuCount : 1 ≤ req.gpuCount
  gpuMemoryMiB : 0 ≤ req.gpuMemoryMiB
  tokens : 1 ≤ req.tokens
  maxRuntimeSeconds : ∀ s ∈ req.maxRuntimeSeconds, 1 ≤ s
  tenant : req.tenant ∈ g.tenants
  modelProfile : req.modelProfile ∈ g.profiles
  kind : req.kind ∈ g.kinds
  filled : Filled (workloadKind req.kind) req

/-- **ONE REQUEST**, whatever is drawn. -/
theorem every_next (g : Generator) : Every (g.next rand fl) (fun r =>
    Generated g (g.counter + 1) r.1 ∧ r.2 = { g with counter := g.counter + 1 }) := by
  have hmemory : ∀ n ∈ ([4096, 8192, 16384, 32768, 40960, 81920] : List Int), 0 ≤ n := by decide
  refine rand.every_int63.bind (fun n hn => ?_)
  refine (rand.every_pick _ _).bind (fun tenant htenant => ?_)
  refine (rand.every_intn 10 (by decide)).bind (fun priority _ => ?_)
  refine (rand.every_intn 4 (by decide)).bind (fun gpuCount _ => ?_)
  refine (rand.every_pick _ _).bind (fun memory hmem => ?_)
  refine (rand.every_int63n 5000000 (by decide)).bind (fun tokens _ => ?_)
  refine (rand.every_pick _ _).bind (fun profile hprofile => ?_)
  refine (rand.every_pick _ _).bind (fun kind hkind => ?_)
  refine every_maxRuntimeSeconds.bind (fun limit hlimit => ?_)
  refine (every_setKindPayload rfl).bind (fun req hreq => .pure ⟨?_, rfl⟩)
  -- the payloads aside, the request is the one that was drawn
  obtain ⟨hbare, hfilled⟩ := hreq
  have hid : req.requestID = loadgenID (g.counter + 1) n := congrArg WorkloadRequest.requestID hbare
  have hgpus : req.gpuCount = gpuCount + 1 := congrArg WorkloadRequest.gpuCount hbare
  have hmib : req.gpuMemoryMiB = memory := congrArg WorkloadRequest.gpuMemoryMiB hbare
  have htokens : req.tokens = tokens + 10000 := congrArg WorkloadRequest.tokens hbare
  have hmax : req.maxRuntimeSeconds = limit := congrArg WorkloadRequest.maxRuntimeSeconds hbare
  have howner : req.tenant = tenant := congrArg WorkloadRequest.tenant hbare
  have hmodel : req.modelProfile = profile := congrArg WorkloadRequest.modelProfile hbare
  have hname : req.kind = kind := congrArg WorkloadRequest.kind hbare
  constructor
  · exact ⟨n, hn, hid⟩
  · show 1 ≤ req.gpuCount
    omega
  · show 0 ≤ req.gpuMemoryMiB
    rw [hmib]
    exact hmemory memory hmem
  · show 1 ≤ req.tokens
    omega
  · show ∀ s ∈ req.maxRuntimeSeconds, 1 ≤ s
    rw [hmax]
    exact hlimit
  · show req.tenant ∈ g.tenants
    rw [howner]
    exact htenant
  · show req.modelProfile ∈ g.profiles
    rw [hmodel]
    exact hprofile
  · show req.kind ∈ g.kinds
    rw [hname]
    exact hkind
  · show Filled (workloadKind req.kind) req
    rw [hname]
    exact hfilled

/-- **ALL REQUESTS** of a generator, by their number. -/
theorem every_generate (count : Nat) (g : Generator) : Every (generate rand fl count g)
    (fun reqs => reqs.length = count
      ∧ ∀ i req, reqs[i]? = some req → Generated g (g.counter + i + 1) req) := by
  induction count generalizing g with
  | zero =>
      refine .pure ⟨rfl, fun i req h => ?_⟩
      rw [List.getElem?_nil] at h
      cases h
  | succ count ih =>
      refine (every_next g).bind (fun r hr => ?_)
      obtain ⟨hfirst, hg⟩ := hr
      refine (ih r.2).bind (fun rest hrest => .pure ⟨?_, fun i req h => ?_⟩)
      · rw [List.length_cons, hrest.1]
      · cases i with
        | zero =>
            rw [← Option.some.inj h]
            exact hfirst
        | succ i =>
            -- the other requests come from a generator that differs in its counter only
            have hone := hrest.2 i req h
            rw [hg] at hone
            have hcounter : g.counter + 1 + i + 1 = g.counter + (i + 1) + 1 := by omega
            rw [← hcounter]
            exact ⟨hone.requestID, hone.gpuCount, hone.gpuMemoryMiB, hone.tokens,
              hone.maxRuntimeSeconds, hone.tenant, hone.modelProfile, hone.kind, hone.filled⟩

end

/-! ## IDs -/

/-- The words of an ID. -/
def idParts (counter n : Nat) : List (List Char) :=
  ["loadgen".toList, (fmtNat counter).toList, (fmtNat n).toList]

theorem loadgenID_eq (counter n : Nat) :
    loadgenID counter n = String.ofList (join '-' (idParts counter n)) := by
  have hloadgen : "loadgen-".toList = "loadgen".toList ++ ['-'] := by decide
  have hhyphen : "-".toList = ['-'] := by decide
  refine String.toList_inj.mp ?_
  rw [loadgenID, String.toList_ofList, idParts, join_cons]
  simp only [String.toList_append, hloadgen, hhyphen, List.flatMap_cons, List.flatMap_nil,
    List.append_assoc, List.cons_append, List.nil_append, List.append_nil]

theorem isWord_fmtNat (n : Nat) : IsWord isAlnum (fmtNat n).toList := by
  rw [toList_fmtNat]
  refine ⟨Nat.toDigits_ne_nil, fun c hc => ?_⟩
  have hdigit := Nat.isDigit_of_mem_toDigits (by decide) (by decide) hc
  rw [Char.isDigit, Bool.and_eq_true, decide_eq_true_eq, decide_eq_true_eq] at hdigit
  rw [isAlnum, Bool.or_eq_true]
  refine .inr ?_
  rw [Bool.and_eq_true, decide_eq_true_eq, decide_eq_true_eq]
  exact hdigit

theorem isWord_loadgen : IsWord isAlnum "loadgen".toList := by
  have hchars : ∀ c ∈ "loadgen".toList, isAlnum c = true := by simp [isAlnum]
  exact ⟨by decide, hchars⟩

theorem isWord_idParts (counter n : Nat) : ∀ w ∈ idParts counter n, IsWord isAlnum w := by
  intro w hw
  rcases List.mem_cons.mp hw with rfl | hw
  · exact isWord_loadgen
  · rcases List.mem_cons.mp hw with rfl | hw
    · exact isWord_fmtNat counter
    · rw [List.mem_singleton.mp hw]
      exact isWord_fmtNat n

/-- A number of 63 bits has 19 digits. -/
theorem length_fmtNat_le {n : Nat} (h : n < 2 ^ 63) : (fmtNat n).toList.length ≤ 19 := by
  rw [toList_fmtNat]
  refine (Nat.length_toDigits_le_iff (by decide) (by decide)).mpr (lt_trans h ?_)
  norm_num

theorem nameWords_loadgenID (sum : Sum256) {counter n : Nat} (hcounter : counter < 2 ^ 63)
    (hn : n < 2 ^ 63) : nameWords sum (loadgenID counter n) = idParts counter n := by
  rw [loadgenID_eq]
  refine nameWords_of_join sum (isWord_idParts counter n) (List.cons_ne_nil _ _) ?_
  have h1 := length_fmtNat_le hcounter
  have h2 := length_fmtNat_le hn
  have h3 : "loadgen".toList.length = 7 := by decide
  rw [idParts, join_cons, maxCRNameLength]
  simp only [List.length_append, List.flatMap_cons, List.flatMap_nil, List.length_cons,
    List.length_nil]
  omega

/-- An ID is not blank. -/
theorem trimSpace_loadgenID_ne (counter n : Nat) : trimSpace (loadgenID counter n) ≠ "" := by
  have hchars : ∀ c ∈ join '-' (idParts counter n), isSpace c = false := fun c hc =>
    (IsNameChar.settled (mem_join (isWord_idParts counter n) hc)).2.1
  intro h
  have hlist := congrArg String.toList h
  rw [trimSpace, String.toList_ofList, loadgenID_eq, String.toList_ofList,
    trim_of_no_space hchars, idParts, join_cons] at hlist
  exact absurd (List.append_eq_nil_iff.mp hlist).1 (by decide)

/-! ## What the submitter makes of the requests -/

/-- What `Validate` needs. -/
theorem validate_of_checked {req : WorkloadRequest} (h : Checked req) :
    validate req = .ok () := by
  have hkind : req.normalKind ≠ "" := by
    intro hempty
    have hno : (workloadKind req.normalKind).supported = false := by
      rw [hempty]
      decide
    exact absurd (h.kind.symm.trans hno) (by decide)
  have hmax : ¬ req.maxRuntimeSeconds.any (· < 1) = true := by
    cases hlimit : req.maxRuntimeSeconds with
    | none => exact Bool.false_ne_true
    | some s => simpa using h.maxRuntimeSeconds s hlimit
  rw [GpuRequest.validate, if_neg h.requestID, if_neg h.tenant, if_neg (not_lt.mpr h.gpuCount),
    if_neg (not_lt.mpr h.gpuMemoryMiB), if_neg (not_lt.mpr h.tokens), if_neg hmax,
    if_neg h.modelProfile, if_neg hkind, if_neg (by rw [h.kind]; decide),
    if_neg (by rw [h.config]; decide)]

section
variable {g : Generator} {counter : Nat} {req : WorkloadRequest}

theorem Generated.checked_iff (h : Generated g counter req) :
    Checked req ↔ trimSpace req.tenant ≠ "" ∧ (workloadKind req.kind).supported = true := by
  constructor
  · intro hc
    refine ⟨hc.tenant, ?_⟩
    by_contra hkind
    -- a kind that is written otherwise gets no payload
    have hnone := h.filled.empty (Bool.eq_false_of_not_eq_true hkind) _ hc.kind
    exact absurd (hc.config.symm.trans hnone) (by decide)
  · rintro ⟨htenant, hkind⟩
    have hnormal : req.normalKind = req.kind := normal_of_supported hkind
    obtain ⟨n, -, hid⟩ := h.requestID
    refine ⟨?_, htenant, h.gpuCount, h.gpuMemoryMiB, h.tokens, h.maxRuntimeSeconds,
      g.named _ h.modelProfile, ?_, ?_⟩
    · rw [hid]
      exact trimSpace_loadgenID_ne counter n
    · rw [hnormal]
      exact hkind
    · rw [hnormal]
      exact h.filled.config hkind

/-- The first checks of a start do not refuse the request. -/
theorem Generated.refusal_eq (h : Generated g counter req) (hc : Checked req) :
    refusal (toSpec req) = none := by
  have hprofile : profileOf (toSpec req) ≠ "" := by
    intro hempty
    exact hc.modelProfile ((toLower_eq_empty_iff _).mp hempty)
  have hkind := (h.checked_iff.mp hc).2
  have hteacher : unknownTeacher (toSpec req) = none := by
    refine if_neg (fun hdistils => hdistils.2 ?_)
    have hk : workloadKind req.kind = .distillation := hdistils.1
    have hsome := h.filled.config hkind
    rw [hk] at hsome
    obtain ⟨d, hd⟩ := Option.isSome_iff_exists.mp hsome
    have hown : normalizeProfileName d.teacherProfile = "a100_80gb" := by
      rw [h.filled.teacher d hd]
      decide +kernel
    have hof : teacherOf (toSpec req) = "a100_80gb" := by
      have hd' : (toSpec req).distillation = some d := hd
      simp only [teacherOf, hd', Option.elim_some, hown]
      exact if_neg (by decide)
    rw [hof]
    decide
  have hjitter : badJitter (toSpec req) = false := rfl
  rw [refusal, if_neg hprofile, if_neg (by rw [hjitter]; decide), hteacher]
  rfl

/-- With known profiles only, a start does not reject the request in any state. -/
theorem Generated.not_rejects (h : Generated g counter req) (hc : Checked req)
    (hknown : ∀ p ∈ g.profiles, normalizeProfileName p ∈ hardwareProfiles) (v : Verbs)
    (s : Simulator) {a : Stored} (ha : a.spec = toSpec req) : ¬ Rejects v s a := by
  refine not_rejects_of_passed (ha ▸ h.refusal_eq hc) (fun _ hunknown => ?_)
  rw [ha] at hunknown
  exact absurd (hknown _ h.modelProfile) hunknown

end

section
variable {R : Type} (rand : MathRand R) (fl : Float64)

/-- **WHAT THE GENERATOR SENDS IS ACCEPTED**, whatever is drawn: by the submitter exactly when
    the tenant is not blank and the kind is written as in the enumeration, then by the declared
    rules and by the first checks of a start, and with known profiles by the whole start. -/
theorem generated_accepted_iff (g : Generator) (count : Nat) (r : R) :
    ∀ req ∈ ((generate rand fl count g).run r).1,
      (validate req = .ok ()
        ↔ trimSpace req.tenant ≠ "" ∧ (workloadKind req.kind).supported = true)
      ∧ (validate req = .ok () → (toSpec req).Valid ∧ refusal (toSpec req) = none
        ∧ ((∀ p ∈ g.profiles, normalizeProfileName p ∈ hardwareProfiles) →
          ∀ v s a, a.spec = toSpec req → ¬ Rejects v s a)) := by
  intro req hreq
  obtain ⟨i, hi⟩ := List.mem_iff_getElem?.mp hreq
  have hevery : Every (generate rand fl count g) _ := every_generate count g
  have hgen := (hevery r).2 i req hi
  have hiff : validate req = .ok () ↔ Checked req := ⟨checked_of_validate, validate_of_checked⟩
  refine ⟨hiff.trans hgen.checked_iff, fun hok => ?_⟩
  have hc := checked_of_validate hok
  have hnormal := normal_of_supported (hgen.checked_iff.mp hc).2
  exact ⟨(valid_toSpec_iff hc).mpr ⟨hnormal, hgen.filled.bounds⟩, hgen.refusal_eq hc,
    fun hknown v s _ ha => hgen.not_rejects hc hknown v s ha⟩

/-- **NO TWO REQUESTS BECOME ONE OBJECT**: whatever is drawn, the names of the objects differ. -/
theorem generated_apart (sum : Sum256) (g : Generator) (count : Nat)
    (hcount : g.counter + count < 2 ^ 63) (r : R) :
    ((generate rand fl count g).run r).1.length = count
      ∧ (((generate rand fl count g).run r).1.map
        (fun req => crNameFromRequestID sum req.requestID)).Nodup := by
  have hevery : Every (generate rand fl count g) _ := every_generate count g
  obtain ⟨hlength, hall⟩ := hevery r
  refine ⟨hlength, List.pairwise_map.mpr (List.pairwise_iff_getElem.mpr ?_)⟩
  intro i j hi hj hlt heq
  obtain ⟨m, hm, hidi⟩ := (hall i _ (List.getElem?_eq_getElem hi)).requestID
  obtain ⟨n, hn, hidj⟩ := (hall j _ (List.getElem?_eq_getElem hj)).requestID
  have hne : ∀ c k, loadgenID c k ≠ "" := by
    intro c k hempty
    have hblank := trimSpace_loadgenID_ne c k
    rw [hempty] at hblank
    exact hblank rfl
  rw [hidi, hidj, crName_eq_iff sum (hne _ _) (hne _ _), nameWords_loadgenID sum (by omega) hm,
    nameWords_loadgenID sum (by omega) hn, idParts, idParts] at heq
  -- the second word of a name is the number of the request
  have hnumber : (fmtNat (g.counter + i + 1)).toList = (fmtNat (g.counter + j + 1)).toList :=
    (List.cons.inj (List.cons.inj heq).2).1
  have hsame := fmtNat_injective (String.toList_inj.mp hnumber)
  omega

end

/-- A source that draws the least number each time. -/
def leastRand : MathRand Unit where
  int63 := pure 0
  intn _ := pure 0
  int63n _ := pure 0
  float32 := pure 0
  float64 := pure 0
  every_int63 := .pure (Nat.two_pow_pos 63)
  every_intn _ h := .pure h
  every_int63n _ h := .pure h
  every_float64 := .pure ⟨le_refl _, zero_lt_one⟩

/-- The first request of the producer's generator, which has known profiles. -/
theorem generated_accepted_first :
    ∃ req ∈ ((generate leastRand exactFloat 1 (newGenerator [])).run ()).1,
      validate req = .ok () ∧ (toSpec req).Valid
      ∧ ∀ v s a, a.spec = toSpec req → ¬ Rejects v s a := by
  have hmem : (((newGenerator []).next leastRand exactFloat).run ()).1.1
      ∈ ((generate leastRand exactFloat 1 (newGenerator [])).run ()).1 := List.mem_singleton_self _
  obtain ⟨hiff, hvalid⟩ := generated_accepted_iff leastRand exactFloat (newGenerator []) 1 () _ hmem
  have hok := hiff.mpr ⟨by decide +kernel, by decide +kernel⟩
  exact ⟨_, hmem, hok, (hvalid hok).1, (hvalid hok).2.2 profiles_known⟩

/-- Two requests from the same draws have two names. -/
theorem generated_apart_twice :
    (((generate leastRand exactFloat 2 (newGenerator [])).run ()).1.map
      (fun req => crNameFromRequestID copySum req.requestID)).Nodup :=
  (generated_apart leastRand exactFloat copySum (newGenerator []) 2 (by decide) ()).2

end GpuGenerator
