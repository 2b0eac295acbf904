import GpuScheduler.HttpProofs
import GpuScheduler.ExecuteAdmissionProofs

/-! # The worker's simulator client

    `HTTPSimClient` turns four calls into requests: it encodes the arguments, posts them to a
    path, follows a redirect, and reads the status code and the JSON answer.  A request or its
    response may be lost on the way; the caller only sees an error then.

    When both arrive, each call is the call of the simulator itself (`client_refines`): the
    JSON bodies and the paths lose nothing, and a conflict that the client takes for success is
    an allocation that is there. -/

namespace GpuSimClient

open GoStrings GoMaps GoFmt GoPath GoJson StepRuns GpuInputs GpuCompat GpuWorkload GpuPlacement
  GpuSimulator GpuRunHistory GpuCRD GpuProfileText GpuErrorText GpuStatusCode GpuStoredStart
  GpuExecuteAdmission GpuWire GpuHttp

variable (lib : Lib) (duration : Int → RuntimeInput → Nat → Int)

/-! ## Exchanges -/

/-- What becomes of a request. -/
inductive Delivery where
  | delivered | requestLost | responseLost
  deriving DecidableEq, Repr

/-- The errors of the client. -/
inductive ClientError where
  | transport
  | workloadIDRequired
  | answered (text : String)
  | undecodable
  deriving DecidableEq, Repr

/-- A request and the redirect that may follow it; a redirect is followed with `GET` and
    without a body. -/
def roundTrip (x : Moment) (req : Request) (s : Simulator) : Response × Simulator :=
  let first := serveHTTP lib duration x req s
  match first.1.reply with
  | .moved path => serveHTTP lib duration x ⟨.get, path, .unreadable "EOF"⟩ first.2
  | _ => first

/-- The response that reaches the client, if any, and the simulator afterwards. -/
def exchange (x : Moment) (d : Delivery) (req : Request) (s : Simulator) :
    Option Response × Simulator :=
  match d with
  | .delivered => (some (roundTrip lib duration x req s).1, (roundTrip lib duration x req s).2)
  | .requestLost => (none, s)
  | .responseLost => (none, (roundTrip lib duration x req s).2)

/-- `resp.Status`. -/
def statusLine (code : Nat) : String :=
  fmtNat code ++ " " ++ (([(200, "OK"), (301, "Moved Permanently"), (400, "Bad Request"),
    (404, "Not Found"), (405, "Method Not Allowed"), (409, "Conflict")] :
      List (Nat × String)).lookup code).getD ""

/-- The text of an error response, read through a field named `Error`. -/
def errorOf (r : Response) : String :=
  match r.reply with
  | .json j => ((errorResponse "Error").decode lib.folding false j "").toOption.getD ""
  | _ => ""

/-- The error that the client returns for a response. -/
def answered (action : String) (r : Response) : ClientError :=
  if errorOf lib r ≠ "" then
    .answered (action ++ " " ++ statusLine r.code ++ ": " ++ errorOf lib r)
  else .answered (action ++ " " ++ statusLine r.code)

/-- A call of the client: a request, and how its response is read. -/
def ask {α : Type} (x : Moment) (d : Delivery) (req : Request)
    (read : Response → Except ClientError α) (s : Simulator) : Except ClientError α × Simulator :=
  match exchange lib duration x d req s with
  | (none, t) => (.error .transport, t)
  | (some r, t) => (read r, t)

/-! ## The four calls -/

/-- The options of `Allocate`. -/
def clientOptions (profile : String) : AllocationOptions :=
  ⟨.firstFit, false, 0, "", toLower (trimSpace profile)⟩

/-- The request of `Allocate`. -/
def allocateCall (workloadID : String) (gpuCount memMiB : Int) (profile : String) : Request :=
  ⟨.post, "/v1/allocate", .value ((allocateRequest lib.folding true).encode
    ⟨workloadID, gpuCount, memMiB, clientOptions profile⟩) false⟩

/-- `Allocate`: a conflict is taken for success. -/
def allocate (x : Moment) (d : Delivery) (workloadID : String) (gpuCount memMiB : Int)
    (profile : String) : Simulator → Except ClientError Unit × Simulator :=
  ask lib duration x d (allocateCall lib workloadID gpuCount memMiB profile) (fun r =>
    if r.code = 200 ∨ r.code = 409 then .ok () else .error (answered lib "allocate" r))

/-- The request of `Start`. -/
def startCall (input : RuntimeInput) : Request :=
  ⟨.post, "/v1/start", .value ((startRequest lib.folding true).encode input) false⟩

/-- Reading the answer of `Start`. -/
def decodeStart (r : Response) : Except ClientError String :=
  match r.reply with
  | .json j =>
      match startResponse.decode lib.folding false j "" with
      | .ok runID => .ok runID
      | .error _ => .error .undecodable
  | _ => .error .undecodable

/-- `Start`. -/
def start (x : Moment) (d : Delivery) (input : RuntimeInput) :
    Simulator → Except ClientError String × Simulator :=
  ask lib duration x d (startCall lib input) (fun r =>
    if r.code ≠ 200 then .error (answered lib "start" r) else decodeStart lib r)

/-- The request of `GetRunStatus`. -/
def statusCall (runID : String) : Request :=
  ⟨.get, "/v1/runs/" ++ runID ++ "/status", .unreadable "EOF"⟩

/-- Reading the answer of `GetRunStatus`. -/
def decodeStatus (r : Response) : Except ClientError String :=
  match r.reply with
  | .json j =>
      match runStatusResponse.decode lib.folding false j ⟨"", ""⟩ with
      | .ok out => .ok out.status
      | .error _ => .error .undecodable
  | _ => .error .undecodable

/-- `GetRunStatus`. -/
def getRunStatus (x : Moment) (d : Delivery) (runID : String) :
    Simulator → Except ClientError String × Simulator :=
  ask lib duration x d (statusCall runID) (fun r =>
    if r.code ≠ 200 then .error (answered lib "get status" r) else decodeStatus lib r)

/-- The request of `Release`. -/
def releaseCall (workloadID : String) : Request :=
  ⟨.post, "/v1/workloads/" ++ workloadID ++ "/release", .unreadable "EOF"⟩

/-- `Release`. -/
def release (x : Moment) (d : Delivery) (workloadID : String) (s : Simulator) :
    Except ClientError Unit × Simulator :=
  if workloadID = "" then (.error .workloadIDRequired, s)
  else ask lib duration x d (releaseCall workloadID) (fun r =>
    if r.code = 200 then .ok () else .error (answered lib "release" r)) s

/-! ## Paths -/

/-- An ID that a path carries as it is: no segment is empty, a dot or two dots. -/
def Addressable (id : String) : Prop := ∀ part ∈ split id, Proper part

instance (id : String) : Decidable (Addressable id) := inferInstanceAs (Decidable (∀ _ ∈ _, _))

/-- The ID of a workload with proper names is addressable. -/
theorem addressable_workloadID {ns name : String} (hns : Proper ns) (hname : Proper name)
    (hns' : '/' ∉ ns.toList) (hname' : '/' ∉ name.toList) : Addressable (workloadID ns name) := by
  intro part hpart
  rw [workloadID, split_append, split_of_not_mem hns', split_of_not_mem hname'] at hpart
  rcases List.mem_append.mp hpart with h | h
  · rw [List.mem_singleton.mp h]
    exact hns
  · rw [List.mem_singleton.mp h]
    exact hname

/-- A text that begins with a letter or a digit is a proper segment. -/
theorem proper_of_front {part : String} (h : part.toList.head?.any GpuCRName.isAlnum = true) :
    Proper part := by
  refine ⟨?_, ?_, ?_⟩
  · rintro rfl
    cases h
  · rintro rfl
    exact absurd h (by decide)
  · rintro rfl
    exact absurd h (by decide)

/-- The ID of an object is addressable. -/
theorem addressable_of_nameable {w : GPUWorkload} (h : Nameable w.ns w.name) :
    Addressable w.id := by
  have hslash : GpuCRName.dns1123Invalid '/' = true := by decide
  refine addressable_workloadID (proper_of_front h.ns_front) (proper_of_front h.name_front)
    (fun hmem => ?_) (fun hmem => ?_)
  · rw [h.ns_valid '/' hmem] at hslash
    cases hslash
  · rcases h.name_valid '/' hmem with hvalid | heq
    · rw [hvalid] at hslash
      cases hslash
    · exact absurd heq (by decide)

/-- A path with an ID between a directory and an action. -/
def actionPath (dir id action : String) : String :=
  "/" ++ ("v1/" ++ dir ++ "/" ++ id ++ "/" ++ action)

/-- Such a path is clean exactly when its ID is addressable. -/
theorem cleanPath_actionPath_iff {dir id action : String} (hdir : '/' ∉ dir.toList)
    (haction : '/' ∉ action.toList) (hdir' : Proper dir) (haction' : Proper action) :
    cleanPath (actionPath dir id action) = actionPath dir id action ↔ Addressable id := by
  have hsplit : split ("v1/" ++ dir ++ "/" ++ id ++ "/" ++ action)
      = ["v1", dir] ++ (split id ++ [action]) := by
    have hroot : "v1/" ++ dir = "v1" ++ "/" ++ dir := rfl
    rw [hroot, split_append, split_append, split_append, split_of_not_mem hdir,
      split_of_not_mem haction, List.append_assoc, List.append_assoc]
    rfl
  have hlast : "" ∉ (split ("v1/" ++ dir ++ "/" ++ id ++ "/" ++ action)).getLast? := by
    rw [hsplit, ← List.append_assoc, List.getLast?_concat]
    exact fun h => haction'.1 (Option.some.inj h)
  rw [actionPath, cleanPath_rooted_iff hlast, hsplit]
  constructor
  · intro h part hpart
    exact h part (List.mem_append_right _ (List.mem_append_left _ hpart))
  · intro h part hpart
    rcases List.mem_append.mp hpart with h1 | h1
    · rcases List.mem_cons.mp h1 with rfl | h1
      · decide
      · rw [List.mem_singleton.mp h1]
        exact hdir'
    · rcases List.mem_append.mp h1 with h1 | h1
      · exact h part h1
      · rw [List.mem_singleton.mp h1]
        exact haction'

/-- The subtree patterns are short. -/
theorem routes_short : ∀ pattern ∈ routes.map Prod.fst, pattern.toList.getLast? = some '/' →
    pattern.toList.length ≤ 14 := by decide

/-- A longer path does not lack the final slash of a pattern. -/
theorem not_mem_routes {path : String} (h : 14 ≤ path.toList.length) :
    path ++ "/" ∉ routes.map Prod.fst := by
  intro hmem
  have hlist : (path ++ "/").toList = path.toList ++ ['/'] := String.toList_append ..
  have hshort := routes_short _ hmem (by rw [hlist, List.getLast?_concat])
  rw [hlist, List.length_append, List.length_singleton] at hshort
  omega

/-- A path that is looked up as it is. -/
theorem serveHTTP_of_route {x : Moment} {req : Request} {s : Simulator} {route : Route}
    (htarget : req.target = req.path) (hslash : req.path ++ "/" ∉ routes.map Prod.fst)
    (hroute : findRoute req.path = some route) :
    serveHTTP lib duration x req s = handle lib duration x req s route := by
  rw [serveHTTP, htarget, if_neg hslash, if_neg (not_not.mpr rfl), hroute]

/-- A response that is no redirect. -/
theorem roundTrip_of_json {x : Moment} {req : Request} {s t : Simulator} {code : Nat} {j : Json}
    (h : serveHTTP lib duration x req s = (⟨code, .json j⟩, t)) :
    roundTrip lib duration x req s = (⟨code, .json j⟩, t) := by
  simp only [roundTrip, h]

/-! ## Routes -/

/-- A path below one pattern matches no pattern that does not lie below it. -/
theorem matchesPattern_eq_false {pattern sub path : String}
    (hsub : startsWith pattern sub = false) (hpattern : startsWith sub pattern = false)
    (h : startsWith path sub = true) : matchesPattern pattern path = false := by
  obtain ⟨rest, hrest⟩ := startsWith_iff.mp h
  rw [matchesPattern]
  split_ifs with hlast
  · -- two beginnings of one path: one of them begins with the other
    rw [Bool.eq_false_iff]
    intro hstarts
    obtain ⟨rest', hrest'⟩ := startsWith_iff.mp hstarts
    rw [hrest] at hrest'
    rcases List.append_eq_append_iff.mp hrest' with ⟨l, hl, -⟩ | ⟨l, hl, -⟩
    · rw [startsWith_iff.mpr ⟨l, hl⟩] at hsub
      cases hsub
    · rw [startsWith_iff.mpr ⟨l, hl⟩] at hpattern
      cases hpattern
  · rw [decide_eq_false_iff_not]
    rintro rfl
    rw [h] at hsub
    cases hsub

/-- What lies below a pattern goes to its handler. -/
theorem findRoute_subtree {before after : List (String × Route)} {sub : String} {route : Route}
    (hroutes : routes = before ++ (sub, route) :: after)
    (hslash : sub.toList.getLast? = some '/')
    (hapart : ∀ r ∈ before, startsWith r.1 sub = false ∧ startsWith sub r.1 = false)
    (rest : String) : findRoute (sub ++ rest) = some route := by
  have hstarts : startsWith (sub ++ rest) sub = true :=
    startsWith_iff.mpr ⟨rest.toList, String.toList_append ..⟩
  have hbefore : ∀ r ∈ before, ¬ matchesPattern r.1 (sub ++ rest) = true := by
    intro r hr
    rw [matchesPattern_eq_false (hapart r hr).1 (hapart r hr).2 hstarts]
    exact Bool.false_ne_true
  have hown : matchesPattern (sub, route).1 (sub ++ rest) = true := by
    rw [matchesPattern, if_pos hslash]
    exact hstarts
  rw [findRoute, hroutes, List.find?_append, List.find?_eq_none.mpr hbefore, Option.none_or]
  show Option.map Prod.snd (List.find? (fun r => matchesPattern r.1 (sub ++ rest)) _) = _
  rw [List.find?_cons, hown]
  rfl

theorem findRoute_runs (rest : String) : findRoute ("/v1/runs/" ++ rest) = some .runStatus := by
  have hroutes : routes = routes.take 6 ++ ("/v1/runs/", .runStatus) :: routes.drop 7 := rfl
  exact findRoute_subtree hroutes (by decide) (by decide +kernel) rest

theorem findRoute_workloads (rest : String) :
    findRoute ("/v1/workloads/" ++ rest) = some .workloadAction := by
  have hroutes : routes = routes.take 7 ++ [("/v1/workloads/", .workloadAction)] := rfl
  exact findRoute_subtree hroutes (by decide) (by decide +kernel) rest

section
variable {lib duration} {x : Moment} {s : Simulator}

/-- A request to a pattern goes to its handler. -/
theorem serveHTTP_post {path : String} {route : Route} (hpath : cleanPath path = path)
    (hslash : path ++ "/" ∉ routes.map Prod.fst) (hroute : findRoute path = some route)
    (body : Body) :
    serveHTTP lib duration x ⟨.post, path, body⟩ s
      = handle lib duration x ⟨.post, path, body⟩ s route := by
  have hclean : Request.target ⟨.post, path, body⟩ = Request.path ⟨.post, path, body⟩ :=
    (if_neg (fun h : Method.post = .connect => by cases h)).trans hpath
  exact serveHTTP_of_route lib duration hclean hslash hroute

theorem serveHTTP_allocate (body : Body) :
    serveHTTP lib duration x ⟨.post, "/v1/allocate", body⟩ s
      = handleAllocate lib x ⟨.post, "/v1/allocate", body⟩ s := by
  have hroute : findRoute "/v1/allocate" = some .allocate := by decide
  rw [serveHTTP_post (by decide +kernel) (by decide) hroute]
  rfl

theorem serveHTTP_start (body : Body) :
    serveHTTP lib duration x ⟨.post, "/v1/start", body⟩ s
      = handleStart lib duration x ⟨.post, "/v1/start", body⟩ s := by
  have hroute : findRoute "/v1/start" = some .start := by decide
  rw [serveHTTP_post (by decide +kernel) (by decide) hroute]
  rfl

/-- An action on an addressable ID goes to the handler of its route. -/
theorem serveHTTP_action {req : Request} {dir id action : String} {route : Route}
    (hmethod : req.method ≠ .connect) (hpath : req.path = actionPath dir id action)
    (hdir : '/' ∉ dir.toList) (haction : '/' ∉ action.toList) (hdir' : Proper dir)
    (haction' : Proper action) (hlong : 8 ≤ dir.toList.length + action.toList.length)
    (h : Addressable id) (hroute : findRoute req.path = some route) :
    serveHTTP lib duration x req s = handle lib duration x req s route := by
  have htarget : req.target = req.path := by
    rw [Request.target, if_neg hmethod, hpath]
    exact (cleanPath_actionPath_iff hdir haction hdir' haction').mpr h
  refine serveHTTP_of_route lib duration htarget (not_mem_routes ?_) hroute
  have hroot : "v1/".toList.length = 3 := rfl
  have hslash : "/".toList.length = 1 := rfl
  simp only [hpath, actionPath, String.toList_append, List.length_append, hroot, hslash]
  omega

/-- A run's status is asked for at its handler. -/
theorem serveHTTP_status {runID : String} (h : Addressable runID) :
    serveHTTP lib duration x (statusCall runID) s = handleRunStatus lib x (statusCall runID) s := by
  have hpath : (statusCall runID).path = actionPath "runs" runID "status" := by
    simp [statusCall, actionPath, ← String.toList_inj]
  have hroute : findRoute (statusCall runID).path = some .runStatus := by
    rw [statusCall, String.append_assoc]
    exact findRoute_runs _
  rw [serveHTTP_action (fun hm => by cases hm) hpath (by decide) (by decide) (by decide) (by decide)
    (by decide) h hroute]
  rfl

/-- A workload is released at its handler. -/
theorem serveHTTP_release {workloadID : String} (h : Addressable workloadID) :
    serveHTTP lib duration x (releaseCall workloadID) s
      = handleWorkloadAction lib x (releaseCall workloadID) s := by
  have hpath : (releaseCall workloadID).path = actionPath "workloads" workloadID "release" := by
    simp [releaseCall, actionPath, ← String.toList_inj]
  have hroute : findRoute (releaseCall workloadID).path = some .workloadAction := by
    rw [releaseCall, String.append_assoc]
    exact findRoute_workloads _
  rw [serveHTTP_action (fun hm => by cases hm) hpath (by decide) (by decide) (by decide) (by decide)
    (by decide) h hroute]
  rfl

/-! ## What arrives is what was sent -/

/-- A body that survives is decoded to what was encoded. -/
theorem decodeJSON_encode {σ : Type} {c : Struct σ} {a : σ} (h : ∀ f ∈ c.fields, f.Faithful a)
    (zero : σ) : decodeJSON lib c zero (.value (c.encode a) false) = .ok a := by
  rw [decodeJSON, c.decode_encode lib.folding true h]
  rfl

/-- No error of the simulator is answered like a success. -/
theorem statusForError_ne_ok (v : Verbs) (e : SimError) : statusForError v e ≠ 200 := by
  rw [statusForError, statusForText]
  split_ifs <;> decide

/-! ## Each call is the simulator's -/

/-- What a call comes to for its caller. -/
def outcome {α : Type} (r : Except ClientError α × Simulator) : Option α × Simulator :=
  (r.1.toOption, r.2)

/-- What a call comes to when one of its messages may be lost. -/
def through {α : Type} (d : Delivery) (s : Simulator) (r : Option α × Simulator) :
    Option α × Simulator :=
  match d with
  | .delivered => r
  | .requestLost => (none, s)
  | .responseLost => (none, r.2)

theorem outcome_ask {α : Type} (d : Delivery) (req : Request)
    (read : Response → Except ClientError α) :
    outcome (ask lib duration x d req read s)
      = through d s (outcome (ask lib duration x .delivered req read s)) := by
  cases d with
  | delivered => rfl
  | requestLost => rfl
  | responseLost => rfl

/-- An answered call, by the response that a round trip ends with. -/
theorem outcome_answered {α : Type} {req : Request} {read : Response → Except ClientError α}
    {code : Nat} {j : Json} {t : Simulator}
    (h : serveHTTP lib duration x req s = (⟨code, .json j⟩, t)) :
    outcome (ask lib duration x .delivered req read s)
      = ((read ⟨code, .json j⟩).toOption, t) := by
  rw [ask, exchange, roundTrip_of_json lib duration h]
  rfl

/-- What a call of the simulator comes to: a failed one changes nothing. -/
def result {α : Type} (s : Simulator) : Except SimError (α × Simulator) → Option α × Simulator
  | .ok r => (some r.1, r.2)
  | .error _ => (none, s)

/-- The answer to an allocation, and the simulator afterwards. -/
def allocateAnswer (v : Verbs) (s : Simulator) :
    Except SimError (Allocation × Simulator) → Response × Simulator
  | .ok r => (writeJSON (.obj [("WorkloadID", .str r.1.workloadID),
      ("DeviceIDs", .arr (r.1.deviceIDs.map .str))]), r.2)
  | .error e => (writeError (statusForError v e) (errorText v e), s)

/-- What an allocation comes to for a client that takes a conflict for success. -/
def conflictTolerant {α : Type} (v : Verbs) (s : Simulator) :
    Except SimError (α × Simulator) → Option Unit × Simulator
  | .ok r => (some (), r.2)
  | .error e => (if statusForError v e = 409 then some () else none, s)

/-- The request of `Allocate` is answered with what the simulator's call comes to. -/
theorem serveHTTP_allocateCall (workloadID : String) (gpuCount memMiB : Int) (profile : String) :
    serveHTTP lib duration x (allocateCall lib workloadID gpuCount memMiB profile) s
      = allocateAnswer lib.verbs s
        (allocateWithOptions s x.pools workloadID gpuCount memMiB (clientOptions profile)) := by
  have hbody : decodeJSON lib (allocateRequest lib.folding true)
      ⟨"", 0, 0, ⟨.unset, false, 0, "", ""⟩⟩
      (allocateCall lib workloadID gpuCount memMiB profile).body
      = .ok ⟨workloadID, gpuCount, memMiB, clientOptions profile⟩ :=
    decodeJSON_encode (allocateRequest_faithful lib.folding true rfl) _
  have hserve : serveHTTP lib duration x (allocateCall lib workloadID gpuCount memMiB profile) s
      = handleAllocate lib x (allocateCall lib workloadID gpuCount memMiB profile) s :=
    serveHTTP_allocate _
  have hmethod : (allocateCall lib workloadID gpuCount memMiB profile).method = .post := rfl
  rw [handleAllocate, requireMethod_of_eq hmethod, hbody] at hserve
  rw [hserve]
  simp only
  cases allocateWithOptions s x.pools workloadID gpuCount memMiB (clientOptions profile) with
  | ok r => rfl
  | error e => rfl

/-- `Allocate`, when both messages arrive. -/
theorem outcome_allocate (workloadID : String) (gpuCount memMiB : Int) (profile : String) :
    outcome (allocate lib duration x .delivered workloadID gpuCount memMiB profile s)
      = conflictTolerant lib.verbs s
        (allocateWithOptions s x.pools workloadID gpuCount memMiB (clientOptions profile)) := by
  have hserve : serveHTTP lib duration x (allocateCall lib workloadID gpuCount memMiB profile) s
      = _ := serveHTTP_allocateCall workloadID gpuCount memMiB profile
  cases hcall : allocateWithOptions s x.pools workloadID gpuCount memMiB
      (clientOptions profile) with
  | ok r =>
      rw [hcall] at hserve
      rw [allocate, outcome_answered hserve]
      rfl
  | error e =>
      rw [hcall] at hserve
      rw [allocate, outcome_answered hserve, conflictTolerant]
      have hne := statusForError_ne_ok lib.verbs e
      by_cases hconflict : statusForError lib.verbs e = 409
      · simp only [hconflict, or_true, if_true]
        rfl
      · simp only [hconflict, hne, or_self, if_false]
        rfl

/-- `Start`, when both messages arrive. -/
theorem outcome_start {input : RuntimeInput} (h : input.kind.supported = true) :
    outcome (start lib duration x .delivered input s)
      = result s (startWithRuntimeInput (estimateDuration duration) s x.runs x.now
        input) := by
  have hbody : decodeJSON lib (startRequest lib.folding true) noRuntimeInput
      (startCall lib input).body = .ok input :=
    decodeJSON_encode (startRequest_faithful lib.folding true (workloadKind_kindText h)) _
  have hserve : serveHTTP lib duration x (startCall lib input) s
      = handleStart lib duration x (startCall lib input) s := serveHTTP_start _
  have hmethod : (startCall lib input).method = .post := rfl
  rw [handleStart, requireMethod_of_eq hmethod, hbody] at hserve
  simp only at hserve
  cases hcall : startWithRuntimeInput (estimateDuration duration) s x.runs x.now
      input with
  | ok r =>
      rw [hcall] at hserve
      have hread : startResponse.decode lib.folding false (startResponse.encode r.1) "" = .ok r.1 :=
        startResponse.decode_encode lib.folding false (List.forall_mem_singleton.mpr trivial) _
      rw [start, outcome_answered hserve]
      simp only [ne_eq, not_true_eq_false, if_false, decodeStart, hread]
      rfl
  | error e =>
      rw [hcall] at hserve
      rw [start, outcome_answered hserve]
      simp only [ne_eq, statusForError_ne_ok, not_false_eq_true, if_true]
      rfl

/-- A run ID stands in a path as it is. -/
theorem proper_runID (n : Nat) :
    '/' ∉ ("run-" ++ fmtNat n).toList ∧ Proper ("run-" ++ fmtNat n) := by
  have hlist : ("run-" ++ fmtNat n).toList = 'r' :: 'u' :: 'n' :: '-' :: (fmtNat n).toList :=
    String.toList_append ..
  refine ⟨?_, proper_of_front (by rw [hlist]; rfl)⟩
  rw [hlist]
  have hdigits := not_mem_fmtNat (c := '/') (by decide) n
  simp [hdigits]

/-- `GetRunStatus` of a run ID, when both messages arrive. -/
theorem outcome_getRunStatus (n : Nat) :
    outcome (getRunStatus lib duration x .delivered ("run-" ++ fmtNat n) s)
      = result s ((getStatus s x.now ("run-" ++ fmtNat n)).map
        (fun r => (statusText r.1, r.2))) := by
  obtain ⟨hslash, hproper⟩ := proper_runID n
  generalize "run-" ++ fmtNat n = runID at hslash hproper
  have hsplit : split runID = [runID] := split_of_not_mem hslash
  have haddr : Addressable runID := by
    intro part hpart
    rw [hsplit] at hpart
    rw [List.mem_singleton.mp hpart]
    exact hproper
  have hparts : split (trimPrefix (statusCall runID).path "/v1/runs/") = [runID, "status"] := by
    have hrest : (statusCall runID).path = "/v1/runs/" ++ (runID ++ "/" ++ "status") := by
      show "/v1/runs/" ++ runID ++ ("/" ++ "status") = _
      simp only [String.append_assoc]
    rw [hrest, trimPrefix_append, split_append, hsplit]
    rfl
  have hserve : serveHTTP lib duration x (statusCall runID) s
      = handleRunStatus lib x (statusCall runID) s := serveHTTP_status haddr
  have hmethod : (statusCall runID).method = .get := rfl
  rw [handleRunStatus, requireMethod_of_eq hmethod, hparts] at hserve
  simp only [hproper.1, ne_eq, not_true_eq_false, or_self, if_false] at hserve
  cases hcall : getStatus s x.now runID with
  | ok r =>
      rw [hcall] at hserve
      have hread : runStatusResponse.decode lib.folding false
          (runStatusResponse.encode ⟨runID, statusText r.1⟩) ⟨"", ""⟩
          = .ok ⟨runID, statusText r.1⟩ :=
        runStatusResponse.decode_encode lib.folding false
          (List.forall_mem_cons.mpr ⟨trivial, List.forall_mem_singleton.mpr trivial⟩) _
      rw [getRunStatus, outcome_answered hserve]
      simp only [ne_eq, not_true_eq_false, if_false, decodeStatus, hread]
      rfl
  | error e =>
      rw [hcall] at hserve
      rw [getRunStatus, outcome_answered hserve]
      simp only [ne_eq, statusForError_ne_ok, not_false_eq_true, if_true]
      rfl

/-- `Release`, when both messages arrive. -/
theorem outcome_release {workloadID : String} (h : Addressable workloadID) :
    outcome (release lib duration x .delivered workloadID s)
      = result s ((GpuSimulator.release s workloadID).map (fun t => ((), t))) := by
  have hne : workloadID ≠ "" := by
    rintro rfl
    exact (h "" (by decide)).1 rfl
  have hparts : split (trimPrefix (releaseCall workloadID).path "/v1/workloads/")
      = split workloadID ++ ["release"] := by
    have hrest : (releaseCall workloadID).path
        = "/v1/workloads/" ++ (workloadID ++ "/" ++ "release") := by
      show "/v1/workloads/" ++ workloadID ++ ("/" ++ "release") = _
      simp only [String.append_assoc]
    rw [hrest, trimPrefix_append, split_append]
    rfl
  have hlen : ¬ (split workloadID ++ ["release"]).length < 2 := by
    have hpos := List.length_pos_of_ne_nil (split_ne_nil workloadID)
    rw [List.length_append, List.length_singleton]
    omega
  have hserve : serveHTTP lib duration x (releaseCall workloadID) s
      = handleWorkloadAction lib x (releaseCall workloadID) s := serveHTTP_release h
  have hmethod : (releaseCall workloadID).method = .post := rfl
  rw [handleWorkloadAction, requireMethod_of_eq hmethod, hparts] at hserve
  have haction : ("release" : String) ≠ "" := by decide
  have hpreempt : ("release" : String) ≠ "preempt" := by decide
  simp only [hlen, List.getLast?_concat, Option.getD_some, List.dropLast_concat, join_split, hne,
    haction, or_self, if_false, workloadAction, hpreempt, if_true] at hserve
  rw [release, if_neg hne]
  cases hcall : GpuSimulator.release s workloadID with
  | ok t =>
      simp only [hcall] at hserve
      rw [outcome_answered hserve]
      rfl
  | error e =>
      simp only [hcall] at hserve
      rw [outcome_answered hserve]
      simp only [statusForError_ne_ok, if_false]
      rfl

/-! ## A stored workload -/

/-- `WorkloadToRuntimeInput`. -/
def workloadToRuntimeInput (a : Stored) : RuntimeInput where
  workloadID := a.workload.ns ++ "/" ++ a.workload.name
  tokens := a.workload.spec.tokens
  profile := toLower (trimSpace a.workload.spec.profile)
  kind := a.workload.spec.kind
  training := a.spec.training
  inference := a.spec.inference
  eval := a.spec.eval
  fineTune := a.spec.fineTune
  rlhf := a.spec.rlhf
  embedding := a.spec.embedding
  dataPreprocess := a.spec.dataPreprocess
  distillation := a.spec.distillation.map (fun d =>
    { d with teacherProfile := toLower (trimSpace d.teacherProfile) })
  jitter := a.spec.jitter.map (fun j => ⟨j.enabled, j.pct, j.seed.getD 0⟩)

/-- The worker and the reconciler build the same input. -/
theorem workloadToRuntimeInput_eq (a : Stored) : workloadToRuntimeInput a = buildRuntimeInput a :=
  rfl

theorem supported_kind (a : Stored) : (workloadToRuntimeInput a).kind.supported = true := by
  show a.workload.spec.kind.supported = true
  rw [a.same]
  exact a.valid.kind

/-- What an allocation that picks first fits can fail with: there is one already, or a bad
    request whose text quotes the ID and nothing else of the caller's. -/
theorem allocate_error_cases {v : Verbs} {order : List String} {workloadID : String}
    {gpuCount memMiB : Int} {profile : String} {e : SimError}
    (h : allocateWithOptions s order workloadID gpuCount memMiB (clientOptions profile)
      = .error e) :
    e = .alreadyAllocated workloadID
      ∨ (codeOf e = 400 ∧ ∀ text ∈ taken v e, text = escape v workloadID) := by
  have hnone : ∀ text ∈ ([] : List String), text = escape v workloadID := fun _ ht => by cases ht
  rw [allocateWithOptions] at h
  split_ifs at h with h1 h2 h3 h4 h5 h6
  · rw [← Except.error.inj h]
    exact Or.inr ⟨rfl, hnone⟩
  · rw [← Except.error.inj h]
    exact Or.inr ⟨rfl, hnone⟩
  · rw [← Except.error.inj h]
    exact Or.inr ⟨rfl, hnone⟩
  · rw [← Except.error.inj h]
    exact Or.inl rfl
  · rw [← Except.error.inj h]
    exact Or.inr ⟨rfl, hnone⟩
  · rw [← Except.error.inj h]
    exact Or.inr ⟨rfl, hnone⟩
  · -- first-fit itself never fails
    have hpick : ∀ perNode : List NodeDevices, pickDevices perNode gpuCount.toNat
        (clientOptions profile).policy (clientOptions profile).requireSameNode
        (clientOptions profile).maxNodes.toNat
        = .ok (selectFirstFit perNode gpuCount.toNat 0) := fun _ => rfl
    simp only [hpick] at h
    split_ifs at h
    rw [← Except.error.inj h]
    exact Or.inr ⟨rfl, List.forall_mem_singleton.mpr rfl⟩

/-- The client's reading of an error is the reconciler's: both take it for success exactly
    when the workload has an allocation. -/
theorem conflict_iff {v : Verbs} (hv : Numeric v) {a : Stored} {order : List String} {e : SimError}
    (h : allocateWithOptions s order a.workload.id a.workload.spec.gpuCount
      a.workload.spec.gpuMemoryMiB (clientOptions a.workload.spec.profile) = .error e) :
    statusForError v e = 409 ↔ isAlreadyAllocatedErr v e = true := by
  have hplain : ∀ text, text = escape v a.workload.id → ' ' ∉ (toLower text).toList := by
    rintro text rfl hmem
    rw [toLower_escape_of_plain v (plain_id a)] at hmem
    exact absurd (plain_id a ' ' hmem).1.1 (by decide)
  rcases allocate_error_cases (v := v) h with rfl | ⟨hcode, htaken⟩
  · have htaken : ∀ text ∈ taken v (.alreadyAllocated a.workload.id),
        text = escape v a.workload.id := fun text ht => List.mem_singleton.mp ht
    rw [status_of_plain hv (fun text ht => hplain text (htaken text ht)),
      isAlreadyAllocatedErr_allocated]
    exact iff_of_true rfl rfl
  · rw [status_of_plain hv (fun text ht => hplain text (htaken text ht)), hcode]
    refine iff_of_false (by decide) (fun hallocated => ?_)
    have hcall : allocateWithOptions s (Attempt.pools ⟨order, [], 0, true, true⟩) a.workload.id
        a.workload.spec.gpuCount a.workload.spec.gpuMemoryMiB (admissionOptions a.workload)
        = .error e := h
    rcases allocate_error (v := v) hcall with ⟨-, -, rfl⟩ | hfalse
    · cases hcode
    · rw [hallocated] at hfalse
      cases hfalse

/-- What the simulator's calls read of a moment, for a stored workload. -/
def contextOf (x : Moment) (a : Stored) : GpuInProcess.Context :=
  ⟨x.pools, x.runs, x.now, sections a.spec⟩

/-- `Allocate` for a stored workload is the allocation that the reconciler makes in process. -/
theorem outcome_allocate_stored (hv : Numeric lib.verbs) (a : Stored) :
    outcome (allocate lib duration x .delivered a.workload.id a.workload.spec.gpuCount
        a.workload.spec.gpuMemoryMiB a.workload.spec.profile s)
      = result s ((GpuInProcess.allocateAdmitted (contextOf x a) a.workload s).map
        (fun t => ((), t))) := by
  have hoptions : admissionOptions a.workload = clientOptions a.workload.spec.profile := rfl
  have hcontext : contextOf x a = (Attempt.mk x.pools x.runs x.now true true).context a := rfl
  rw [outcome_allocate, hcontext, ← allocateAdmitted_eq (v := lib.verbs), allocateAdmitted,
    hoptions]
  cases hcall : allocateWithOptions s x.pools a.workload.id a.workload.spec.gpuCount
      a.workload.spec.gpuMemoryMiB (clientOptions a.workload.spec.profile) with
  | ok r => rfl
  | error e =>
      have hiff := conflict_iff hv hcall
      simp only [conflictTolerant]
      by_cases hconflict : statusForError lib.verbs e = 409
      · simp only [hconflict, hiff.mp hconflict, if_true]
        rfl
      · have hallocated : isAlreadyAllocatedErr lib.verbs e = false :=
          Bool.eq_false_iff.mpr (fun h => hconflict (hiff.mpr h))
        simp only [hconflict, hallocated, if_false, Bool.false_eq_true]
        rfl

/-- **A CONFLICT** is answered to the `Allocate` of a stored workload exactly when the workload
    asks for some memory and has an allocation. -/
theorem conflict_iff_allocated (hv : Numeric lib.verbs) (a : Stored) :
    (roundTrip lib duration x (allocateCall lib a.workload.id a.workload.spec.gpuCount
        a.workload.spec.gpuMemoryMiB a.workload.spec.profile) s).1.code = 409
      ↔ 0 < a.workload.spec.gpuMemoryMiB ∧ (s.allocations.lookup a.workload.id).isSome := by
  have hserve : serveHTTP lib duration x (allocateCall lib a.workload.id
      a.workload.spec.gpuCount a.workload.spec.gpuMemoryMiB a.workload.spec.profile) s = _ :=
    serveHTTP_allocateCall _ _ _ _
  cases hcall : allocateWithOptions s x.pools a.workload.id a.workload.spec.gpuCount
      a.workload.spec.gpuMemoryMiB (clientOptions a.workload.spec.profile) with
  | ok r =>
      rw [hcall] at hserve
      rw [roundTrip_of_json lib duration hserve]
      obtain ⟨hnone, -⟩ := allocateWithOptions_ok hcall
      rw [hnone]
      exact iff_of_false (fun h : 200 = 409 => by cases h) (fun h => by cases h.2)
  | error e =>
      rw [hcall] at hserve
      rw [roundTrip_of_json lib duration hserve]
      have hattempt : allocateWithOptions s (Attempt.pools ⟨x.pools, [], 0, true, true⟩)
          a.workload.id a.workload.spec.gpuCount a.workload.spec.gpuMemoryMiB
          (admissionOptions a.workload) = .error e := hcall
      show statusForError lib.verbs e = 409 ↔ _
      rw [conflict_iff hv hcall]
      constructor
      · intro htext
        rcases allocate_error (v := lib.verbs) hattempt with ⟨hmem, hsome, -⟩ | hfalse
        · exact ⟨hmem, hsome⟩
        · rw [htext] at hfalse
          cases hfalse
      · rintro ⟨hmem, hsome⟩
        rw [allocateWithOptions, if_neg (id_ne_empty _), if_neg (not_le.mpr (gpuCount_pos a)),
          if_neg (not_le.mpr hmem), if_pos hsome] at hcall
        rw [← Except.error.inj hcall]
        exact isAlreadyAllocatedErr_allocated _ _

/-- **THE CLIENT REFINES THE SIMULATOR.**  When both messages of a call arrive, the worker's
    calls for a stored workload come to what the simulator's own calls come to, in the answer
    and in the state: `Allocate` to the allocation that the reconciler makes in process,
    `Start`, `GetRunStatus` and `Release` to the operations of these names.  A status is asked
    for with an ID that `Start` has returned in some state, and a conflict is an allocation of
    the workload. -/
theorem client_refines (hv : Numeric lib.verbs) (a : Stored) :
    outcome (allocate lib duration x .delivered a.workload.id a.workload.spec.gpuCount
        a.workload.spec.gpuMemoryMiB a.workload.spec.profile s)
      = result s ((GpuInProcess.allocateAdmitted (contextOf x a) a.workload s).map
        (fun t => ((), t)))
    ∧ ((roundTrip lib duration x (allocateCall lib a.workload.id a.workload.spec.gpuCount
        a.workload.spec.gpuMemoryMiB a.workload.spec.profile) s).1.code = 409
      ↔ 0 < a.workload.spec.gpuMemoryMiB ∧ (s.allocations.lookup a.workload.id).isSome)
    ∧ outcome (start lib duration x .delivered (workloadToRuntimeInput a) s)
      = result s (startWithRuntimeInput (estimateDuration duration) s x.runs x.now
        (buildRuntimeInput a))
    ∧ (∀ earlier order now input runID later,
      startWithRuntimeInput (estimateDuration duration) earlier order now input
        = .ok (runID, later) →
      outcome (getRunStatus lib duration x .delivered runID s)
        = result s ((getStatus s x.now runID).map (fun r => (statusText r.1, r.2))))
    ∧ outcome (release lib duration x .delivered a.workload.id s)
      = result s ((GpuSimulator.release s a.workload.id).map (fun t => ((), t))) := by
  refine ⟨outcome_allocate_stored hv a, conflict_iff_allocated hv a,
    outcome_start (supported_kind a), fun _ _ _ _ _ _ hstart => ?_,
    outcome_release (addressable_of_nameable a.names)⟩
  rw [(startWithRuntimeInput_ok hstart).1]
  exact outcome_getRunStatus _

end

/-- The worker's call for a stored workload gives it the free device. -/
theorem client_refines_taught :
    outcome (allocate plainLib (fun _ _ _ => 1) ⟨oneFree.pools.keys, [], 0⟩ .delivered
        (taught "").workload.id 1 40 "h100_sxm" oneFree)
      = result oneFree ((GpuInProcess.allocateAdmitted
        (contextOf ⟨oneFree.pools.keys, [], 0⟩ (taught "")) (taught "").workload oneFree).map
        (fun t => ((), t)))
    ∧ (GpuInProcess.allocateAdmitted (contextOf ⟨oneFree.pools.keys, [], 0⟩ (taught ""))
        (taught "").workload oneFree).toOption.map (fun t => allocatedIDs t)
      = some ["ns/a/node-0/gpu-0"] :=
  ⟨(client_refines numeric_halves (taught "")).1, by decide +kernel⟩

end GpuSimClient
