import GpuScheduler.CRNameProofs
import GpuScheduler.CRDProofs
import GpuScheduler.SubmitterProofs

/-! # Workload requests

    The submitter validates a request of the submit topic and maps it to a `GPUWorkload`
    whose name is derived from the request ID.  An accepted request bypasses the
    dead-letter topic, so the API server should have no reason to reject it; and the
    request ID is the idempotency key, so that a name already in use should mean that
    the request has been seen before.

    The validator normalises the kind and does not look into the sections, while the
    mapper copies both: `mapped_valid_iff` says which accepted requests the declared
    rules accept.  The name keeps only some of the ID: `created_both_iff` says which IDs
    are told apart. -/

namespace GpuRequest

open GoStrings GpuInputs GpuWorkload GpuSimulator GpuCRD GpuCRName GpuSubmitter

/-! ## Validate -/

/-- `WorkloadRequest`; the payloads have the fields of the sections of the CR. -/
structure WorkloadRequest where
  requestID : String
  tenant : String
  priority : Int
  gpuCount : Int
  gpuMemoryMiB : Int
  tokens : Int
  maxRuntimeSeconds : Option Int
  modelProfile : String
  kind : String
  training : Option TrainingRuntime
  inference : Option Int
  eval : Option EvalRuntime
  fineTune : Option FineTuneRuntime
  rlhf : Option RLHFRuntime
  embedding : Option EmbeddingRuntime
  dataPreprocess : Option DataPreprocessRuntime
  distillation : Option DistillationRuntime

/-- `validKinds`, with the kinds they name. -/
def validKinds : List (String × WorkloadKind) :=
  [("training", .training), ("inference", .inference), ("eval", .eval),
    ("fine_tune", .fineTune), ("rlhf", .rlhf), ("embedding", .embedding),
    ("data_preprocess", .dataPreprocess), ("distillation", .distillation)]

theorem not_kindName_of_lookup {s : String} (h : validKinds.lookup s = none) : s ∉ kindNames := by
  intro hmem
  have hsome : kindNames.all (fun s => (validKinds.lookup s).isSome) = true := by decide
  have hfound := List.all_eq_true.mp hsome s hmem
  rw [h] at hfound
  cases hfound

/-- The conversion of a string to a `WorkloadKind`. -/
def workloadKind (s : String) : WorkloadKind :=
  match h : validKinds.lookup s with
  | some kind => kind
  | none => .other s (not_kindName_of_lookup h)

/-- The payload of a kind is set. -/
def WorkloadRequest.has (req : WorkloadRequest) : WorkloadKind → Bool
  | .training => req.training.isSome
  | .inference => req.inference.isSome
  | .eval => req.eval.isSome
  | .fineTune => req.fineTune.isSome
  | .rlhf => req.rlhf.isSome
  | .embedding => req.embedding.isSome
  | .dataPreprocess => req.dataPreprocess.isSome
  | .distillation => req.distillation.isSome
  | .other _ _ => true

/-- The bounded fields of the payloads that are set. -/
def WorkloadRequest.payloads (req : WorkloadRequest) : List Bounded :=
  (req.training.map boundedTraining).toList ++ (req.inference.map boundedInference).toList
    ++ (req.eval.map boundedEval).toList ++ (req.fineTune.map boundedFineTune).toList
    ++ (req.rlhf.map boundedRLHF).toList ++ (req.embedding.map boundedEmbedding).toList
    ++ (req.dataPreprocess.map boundedDataPreprocess).toList
    ++ (req.distillation.map boundedDistillation).toList

/-- The errors of `Validate`. -/
inductive RequestError where
  | requestIDRequired | tenantRequired | gpuCountTooSmall | gpuMemoryMiBNegative
  | tokensTooSmall | maxRuntimeSecondsTooSmall | modelProfileRequired | kindRequired
  | kindNotValid (kind : String)
  | configMissing (kind config : String)
  deriving DecidableEq, Repr

/-- The text of an error; `quote` is the verb `%q`. -/
def RequestError.text (quote : String → String) : RequestError → String
  | .requestIDRequired => "request_id is required and must be non-empty"
  | .tenantRequired => "tenant is required and must be non-empty"
  | .gpuCountTooSmall => "gpuCount must be at least 1"
  | .gpuMemoryMiBNegative => "gpuMemoryMiB must be non-negative"
  | .tokensTooSmall => "tokens must be at least 1"
  | .maxRuntimeSecondsTooSmall => "maxRuntimeSeconds must be at least 1 when set"
  | .modelProfileRequired => "modelProfile is required and must be non-empty"
  | .kindRequired => "kind is required"
  | .kindNotValid kind => "kind " ++ quote kind ++ " is not valid; must be one of: training, "
      ++ "inference, eval, fine_tune, rlhf, embedding, data_preprocess, distillation"
  | .configMissing kind config => "kind is " ++ kind ++ " but " ++ config ++ " config is missing"

/-- The name of the payload of a kind in the message about it. -/
def configName : WorkloadKind → String
  | .training => "training"
  | .inference => "inference"
  | .eval => "eval"
  | .fineTune => "fineTune"
  | .rlhf => "rlhf"
  | .embedding => "embedding"
  | .dataPreprocess => "dataPreprocess"
  | .distillation => "distillation"
  | .other raw _ => raw

/-- The kind that `Validate` checks. -/
def WorkloadRequest.normalKind (req : WorkloadRequest) : String := trimSpace (toLower req.kind)

/-- `submitter.Validate`. -/
def validate (req : WorkloadRequest) : Except RequestError Unit :=
  if trimSpace req.requestID = "" then .error .requestIDRequired
  else if trimSpace req.tenant = "" then .error .tenantRequired
  else if req.gpuCount < 1 then .error .gpuCountTooSmall
  else if req.gpuMemoryMiB < 0 then .error .gpuMemoryMiBNegative
  else if req.tokens < 1 then .error .tokensTooSmall
  else if req.maxRuntimeSeconds.any (· < 1) then .error .maxRuntimeSecondsTooSmall
  else if trimSpace req.modelProfile = "" then .error .modelProfileRequired
  else if req.normalKind = "" then .error .kindRequired
  else if (workloadKind req.normalKind).supported = false then .error (.kindNotValid req.kind)
  else if req.has (workloadKind req.normalKind) = false then
    .error (.configMissing req.normalKind (configName (workloadKind req.normalKind)))
  else .ok ()

/-- What `Validate` accepts. -/
structure Checked (req : WorkloadRequest) : Prop where
  requestID : trimSpace req.requestID ≠ ""
  tenant : trimSpace req.tenant ≠ ""
  gpuCount : 1 ≤ req.gpuCount
  gpuMemoryMiB : 0 ≤ req.gpuMemoryMiB
  tokens : 1 ≤ req.tokens
  maxRuntimeSeconds : ∀ s ∈ req.maxRuntimeSeconds, 1 ≤ s
  modelProfile : trimSpace req.modelProfile ≠ ""
  kind : (workloadKind req.normalKind).supported = true
  config : req.has (workloadKind req.normalKind) = true

/-- A check that fails with an error is passed exactly when its condition is false. -/
private theorem ite_error_eq_ok_iff {c : Prop} [Decidable c] {e : RequestError}
    {r : Except RequestError Unit} :
    (if c then .error e else r) = .ok () ↔ ¬c ∧ r = .ok () := by
  by_cases hc : c
  · simp [hc]
  · simp [hc]

theorem checked_of_validate {req : WorkloadRequest} (h : validate req = .ok ()) :
    Checked req := by
  simp only [validate, ite_error_eq_ok_iff] at h
  obtain ⟨h1, h2, h3, h4, h5, h6, h7, -, h9, h10, -⟩ := h
  refine ⟨h1, h2, by omega, by omega, by omega, ?_, h7, Bool.eq_true_of_not_eq_false h9,
    Bool.eq_true_of_not_eq_false h10⟩
  intro s hs
  by_contra hlt
  rw [Option.mem_def.mp hs] at h6
  exact h6 (decide_eq_true (by omega))

/-! ## ToGPUWorkload -/

/-- The object the submitter creates. -/
structure NewGPUWorkload where
  ns : String
  name : String
  spec : Spec

/-- The specification a request is mapped to: its fields, as they are. -/
def toSpec (req : WorkloadRequest) : Spec where
  tenant := req.tenant
  priority := req.priority
  gpuCount := req.gpuCount
  gpuMemoryMiB := req.gpuMemoryMiB
  profile := req.modelProfile
  tokens := req.tokens
  kind := workloadKind req.kind
  maxRuntimeSeconds := req.maxRuntimeSeconds
  training := req.training
  inference := req.inference
  eval := req.eval
  fineTune := req.fineTune
  rlhf := req.rlhf
  embedding := req.embedding
  dataPreprocess := req.dataPreprocess
  distillation := req.distillation
  jitter := none

/-- `ToGPUWorkload`. -/
def toGPUWorkload (sum : Sum256) (ns : String) (req : WorkloadRequest) : Option NewGPUWorkload :=
  if crNameFromRequestID sum req.requestID = "" then none
  else some ⟨ns, crNameFromRequestID sum req.requestID, toSpec req⟩

theorem ne_empty_of_trimSpace {s : String} (h : trimSpace s ≠ "") : s ≠ "" := by
  rintro rfl
  exact h rfl

/-- An accepted request is mapped. -/
theorem toGPUWorkload_of_checked {req : WorkloadRequest} (h : Checked req) (sum : Sum256)
    (ns : String) :
    toGPUWorkload sum ns req
      = some ⟨ns, crNameFromRequestID sum req.requestID, toSpec req⟩ := by
  rw [toGPUWorkload, if_neg (crName_ne_empty sum (ne_empty_of_trimSpace h.requestID))]

/-- A supported kind is written as one of the eight strings. -/
theorem mem_validKinds_of_supported {s : String} (h : (workloadKind s).supported = true) :
    s ∈ validKinds.map Prod.fst := by
  rw [workloadKind] at h
  split at h
  · rename_i kind hlookup
    obtain ⟨l, l', heq, -⟩ := List.lookup_eq_some_iff.mp hlookup
    rw [heq]
    simp
  · cases h

/-- The eight strings are normal. -/
theorem normal_of_supported {s : String} (h : (workloadKind s).supported = true) :
    trimSpace (toLower s) = s := by
  have hall : ∀ t ∈ validKinds.map Prod.fst, trimSpace (toLower t) = t := by decide +kernel
  exact hall s (mem_validKinds_of_supported h)

theorem kind_toSpec (req : WorkloadRequest) : (toSpec req).kind = workloadKind req.kind := rfl

theorem has_toSpec (req : WorkloadRequest) (k : WorkloadKind) :
    (toSpec req).has k = req.has k := by
  cases k with
  | training => rfl
  | inference => rfl
  | eval => rfl
  | fineTune => rfl
  | rlhf => rfl
  | embedding => rfl
  | dataPreprocess => rfl
  | distillation => rfl
  | other raw _ => rfl

/-- A request has no jitter; the other sections are its payloads. -/
theorem sections_toSpec (req : WorkloadRequest) : (toSpec req).sections = req.payloads :=
  List.append_nil _

/-- What is left of the declared rules for the specification of a checked request. -/
theorem valid_toSpec_iff {req : WorkloadRequest} (h : Checked req) :
    (toSpec req).Valid ↔ trimSpace (toLower req.kind) = req.kind
      ∧ ∀ b ∈ req.payloads, b.Ok := by
  rw [← sections_toSpec]
  have htenant : req.tenant ≠ "" := ne_empty_of_trimSpace h.tenant
  have hprofile : req.modelProfile ≠ "" := ne_empty_of_trimSpace h.modelProfile
  constructor
  · intro hv
    exact ⟨normal_of_supported hv.kind, hv.bounds⟩
  · rintro ⟨hkind, hbounds⟩
    have hnormal : req.normalKind = req.kind := hkind
    refine ⟨htenant, h.gpuCount, h.gpuMemoryMiB, h.tokens, hprofile, h.maxRuntimeSeconds, ?_, ?_,
      hbounds⟩
    · rw [kind_toSpec, ← hnormal]
      exact h.kind
    · rw [has_toSpec, kind_toSpec, ← hnormal]
      exact h.config

/-- **ACCEPTED BY THE SUBMITTER**: such a request is mapped to an object, which satisfies the
    declared rules exactly when the kind is written as in the enumeration and the payloads
    that are set keep their bounds. -/
theorem mapped_valid_iff (sum : Sum256) (ns : String) {req : WorkloadRequest}
    (h : validate req = .ok ()) :
    ∃ cr, toGPUWorkload sum ns req = some cr
      ∧ (cr.spec.Valid ↔ trimSpace (toLower req.kind) = req.kind
          ∧ ∀ b ∈ req.payloads, b.Ok) := by
  have hc := checked_of_validate h
  exact ⟨_, toGPUWorkload_of_checked hc sum ns, valid_toSpec_iff hc⟩

/-- An inference request. -/
def inferenceRequest (requestID kind : String) : WorkloadRequest where
  requestID := requestID
  tenant := "tenant-a"
  priority := 5
  gpuCount := 2
  gpuMemoryMiB := 8192
  tokens := 1000
  maxRuntimeSeconds := none
  modelProfile := "h100_sxm"
  kind := kind
  training := none
  inference := some 4
  eval := none
  fineTune := none
  rlhf := none
  embedding := none
  dataPreprocess := none
  distillation := none

/-- A digest for concrete runs: the first 32 characters. -/
def copySum : Sum256 where
  digest s := (s.toList.map (fun c : Char => UInt8.ofNat c.toNat) ++ List.replicate 32 0).take 32
  length_digest s := by simp

/-- The kind may be written with capitals, which the enumeration does not have. -/
theorem capitalKind_not_valid :
    ¬∀ (sum : Sum256) (ns : String) (req : WorkloadRequest) (cr : NewGPUWorkload),
      validate req = .ok () → toGPUWorkload sum ns req = some cr → cr.spec.Valid := by
  intro h
  have hok : validate (inferenceRequest "req-1" "Inference") = .ok () := by decide +kernel
  have hv := h copySum "ns" _ _ hok (toGPUWorkload_of_checked (checked_of_validate hok) _ _)
  have hkind : (workloadKind "Inference").supported = true := hv.kind
  exact absurd hkind (by decide +kernel)

/-- The request as the enumeration has it. -/
theorem lowerKind_valid :
    ∃ cr, toGPUWorkload copySum "ns" (inferenceRequest "req-1" "inference") = some cr
      ∧ cr.spec.Valid := by
  have hok : validate (inferenceRequest "req-1" "inference") = .ok () := by decide +kernel
  obtain ⟨cr, hcr, hiff⟩ := mapped_valid_iff copySum "ns" hok
  exact ⟨cr, hcr, hiff.mpr ⟨by decide +kernel, by decide +kernel⟩⟩

/-! ## Two requests in one namespace -/

/-- The submitter's codec, for any JSON decoder. -/
def codec (unmarshal : List UInt8 → Except String WorkloadRequest) (quote : String → String)
    (sum : Sum256) (ns : String) : Codec WorkloadRequest NewGPUWorkload where
  unmarshal := unmarshal
  validate := fun req => (validate req).mapError (RequestError.text quote)
  toGPUWorkload := toGPUWorkload sum ns

/-- What a server that has the given names answers for a message. -/
def answersFor (c : Codec WorkloadRequest NewGPUWorkload) (names : List String)
    (value : List UInt8) : Answers where
  create :=
    match (c.unmarshal value).toOption.bind c.toGPUWorkload with
    | some cr => if cr.name ∈ names then .alreadyExists else .created
    | none => .failed
  dlqWrite := true
  commit := true

/-- The names after a message. -/
def namesAfter (names : List String) : Option (Done NewGPUWorkload) → List String
  | some (.created cr) => cr.name :: names
  | _ => names

/-- Process messages one after another in a namespace that has the given names. -/
def processAll (c : Codec WorkloadRequest NewGPUWorkload) :
    List String → List (List UInt8) → List (Option (Done NewGPUWorkload))
  | _, [] => []
  | names, value :: values =>
      processMessage c (answersFor c names value) value
        :: processAll c (namesAfter names (processMessage c (answersFor c names value) value))
          values

section
variable {unmarshal : List UInt8 → Except String WorkloadRequest} {quote : String → String}
  {sum : Sum256} {ns : String} {value : List UInt8} {req : WorkloadRequest}

/-- The object of a request. -/
def newWorkload (sum : Sum256) (ns : String) (req : WorkloadRequest) : NewGPUWorkload :=
  ⟨ns, crNameFromRequestID sum req.requestID, toSpec req⟩

/-- An accepted message is created, or reported to be there already. -/
theorem processMessage_accepted (hvalue : unmarshal value = .ok req) (hok : validate req = .ok ())
    (names : List String) :
    processMessage (codec unmarshal quote sum ns)
        (answersFor (codec unmarshal quote sum ns) names value) value
      = if crNameFromRequestID sum req.requestID ∈ names
          then some (.alreadyExists (newWorkload sum ns req))
          else some (.created (newWorkload sum ns req)) := by
  have hmap : (codec unmarshal quote sum ns).toGPUWorkload req = some (newWorkload sum ns req) :=
    toGPUWorkload_of_checked (checked_of_validate hok) sum ns
  have hunmarshal : (codec unmarshal quote sum ns).unmarshal value = .ok req := hvalue
  have hvalidate : (codec unmarshal quote sum ns).validate req = .ok () :=
    congrArg (Except.mapError (RequestError.text quote)) hok
  have hcreate : (answersFor (codec unmarshal quote sum ns) names value).create
      = if crNameFromRequestID sum req.requestID ∈ names then .alreadyExists else .created := by
    rw [answersFor, hunmarshal]
    simp only [Except.toOption, Option.bind_some, hmap]
    rfl
  rw [processMessage, hunmarshal]
  simp only [hvalidate, hmap, hcreate]
  split_ifs
  · rfl
  · rfl

end

/-- **THE IDEMPOTENCY KEY**: two accepted requests with different IDs, whose hashes do not
    collide and whose names are free, have different names and are both created exactly
    when their IDs are separate. -/
theorem created_both_iff (unmarshal : List UInt8 → Except String WorkloadRequest)
    (quote : String → String) (sum : Sum256) (ns : String) {value₁ value₂ : List UInt8}
    {r₁ r₂ : WorkloadRequest} (hvalue₁ : unmarshal value₁ = .ok r₁)
    (hvalue₂ : unmarshal value₂ = .ok r₂) (hok₁ : validate r₁ = .ok ())
    (hok₂ : validate r₂ = .ok ()) (hne : trimSpace r₁.requestID ≠ trimSpace r₂.requestID)
    (hfree : sum.short r₁.requestID = sum.short r₂.requestID → r₁.requestID = r₂.requestID)
    {names : List String} (hnew₁ : crNameFromRequestID sum r₁.requestID ∉ names)
    (hnew₂ : crNameFromRequestID sum r₂.requestID ∉ names) :
    (crNameFromRequestID sum r₁.requestID ≠ crNameFromRequestID sum r₂.requestID
      ∧ processAll (codec unmarshal quote sum ns) names [value₁, value₂]
        = [some (.created (newWorkload sum ns r₁)), some (.created (newWorkload sum ns r₂))])
      ↔ Separate sum r₁.requestID r₂.requestID := by
  have hids : r₁.requestID ≠ r₂.requestID := fun heq => hne (by rw [heq])
  have hdiffer := crName_ne_iff sum
    (ne_empty_of_trimSpace (checked_of_validate hok₁).requestID)
    (ne_empty_of_trimSpace (checked_of_validate hok₂).requestID) hids hfree
  rw [← hdiffer, processAll, processMessage_accepted hvalue₁ hok₁, if_neg hnew₁, processAll,
    processMessage_accepted hvalue₂ hok₂, processAll]
  constructor
  · exact fun h => h.1
  intro hnames
  -- the name of the first object is the only one that is new
  have hfresh : crNameFromRequestID sum r₂.requestID
      ∉ namesAfter names (some (.created (newWorkload sum ns r₁))) := by
    intro hmem
    rcases List.mem_cons.mp hmem with heq | hmem
    · exact hnames heq.symm
    · exact hnew₂ hmem
  exact ⟨hnames, by rw [if_neg hfresh]⟩

/-- The message of one of two requests: its number. -/
def numbered (r₁ r₂ : WorkloadRequest) (value : List UInt8) : Except String WorkloadRequest :=
  if value = [1] then .ok r₁ else .ok r₂

/-- Case and separators are lost: the second request is taken for the first. -/
theorem similarID_lost :
    ¬∀ (unmarshal : List UInt8 → Except String WorkloadRequest) (quote : String → String)
      (sum : Sum256) (ns : String) (value₁ value₂ : List UInt8) (r₁ r₂ : WorkloadRequest)
      (names : List String),
      unmarshal value₁ = .ok r₁ → unmarshal value₂ = .ok r₂ → validate r₁ = .ok () →
      validate r₂ = .ok () → trimSpace r₁.requestID ≠ trimSpace r₂.requestID →
      (sum.short r₁.requestID = sum.short r₂.requestID → r₁.requestID = r₂.requestID) →
      crNameFromRequestID sum r₁.requestID ∉ names →
      crNameFromRequestID sum r₂.requestID ∉ names →
        crNameFromRequestID sum r₁.requestID ≠ crNameFromRequestID sum r₂.requestID
          ∧ processAll (codec unmarshal quote sum ns) names [value₁, value₂]
            = [some (.created (newWorkload sum ns r₁)),
              some (.created (newWorkload sum ns r₂))] := by
  intro h
  have hboth := h
    (numbered (inferenceRequest "Job_1" "inference") (inferenceRequest "job-1" "inference")) id
    copySum "ns" [1] [2] _ _ [] rfl rfl (by decide +kernel) (by decide +kernel)
    (by decide +kernel) (by decide +kernel) (List.not_mem_nil) (List.not_mem_nil)
  exact hboth.1 (by decide +kernel)

/-- Two IDs with different words. -/
theorem numberedIDs_created :
    processAll (codec (numbered (inferenceRequest "req-1" "inference")
          (inferenceRequest "req-2" "inference")) id copySum "ns") [] [[1], [2]]
      = [some (.created (newWorkload copySum "ns" (inferenceRequest "req-1" "inference"))),
        some (.created (newWorkload copySum "ns" (inferenceRequest "req-2" "inference")))] := by
  have hkeys : keyWords "req-1" ≠ keyWords "req-2" := by decide +kernel
  have hwords₁ : keyWords "req-1" ≠ [] := by decide +kernel
  have hwords₂ : keyWords "req-2" ≠ [] := by decide +kernel
  have hok₁ : validate (inferenceRequest "req-1" "inference") = .ok () := by decide +kernel
  have hok₂ : validate (inferenceRequest "req-2" "inference") = .ok () := by decide +kernel
  have hfirst : numbered (inferenceRequest "req-1" "inference")
      (inferenceRequest "req-2" "inference") [1]
        = .ok (inferenceRequest "req-1" "inference") := rfl
  have hsecond : numbered (inferenceRequest "req-1" "inference")
      (inferenceRequest "req-2" "inference") [2]
        = .ok (inferenceRequest "req-2" "inference") := rfl
  have hboth := created_both_iff _ id copySum "ns" hfirst hsecond hok₁ hok₂ (by decide +kernel)
    (by decide +kernel) List.not_mem_nil List.not_mem_nil
  exact (hboth.mpr ⟨fun heq => absurd heq hkeys, fun hnil => absurd hnil hwords₁,
    fun hnil => absurd hnil hwords₂⟩).2

end GpuRequest
