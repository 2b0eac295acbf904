import GpuScheduler.GoPathProofs
import GpuScheduler.WireProofs
import GpuScheduler.StatusCodeProofs
import GpuScheduler.StoredStartProofs
import GpuScheduler.RunHistoryProofs

/-! # The simulator behind HTTP

    Workers and the controller reach the external simulator through its HTTP interface.  A
    request is a method, a path and a JSON body; the server cleans the path, finds the handler
    of the pattern, decodes the body strictly and calls the simulator.

    Whatever requests arrive, one request is at most one call (`served`), so the simulator does
    what some sequence of its own calls does and its invariants hold behind the interface too
    (`exclusive_of_served`); and an answer other than `200` has changed nothing. -/

namespace GpuHttp

open GoStrings GoMaps GoFmt GoPath GoJson StepRuns GpuInputs GpuPlacement GpuSimulator
  GpuErrorText GpuStatusCode GpuStoredStart GpuWire

/-- What is left to the libraries: how texts are printed, how JSON names are folded, and the
    texts of decoding errors. -/
structure Lib where
  verbs : Verbs
  folding : Folding
  jsonText : DecodeError → String

/-! ## Requests and responses -/

/-- The method of a request. -/
inductive Method where
  | get | post | connect
  | other (name : String)
  deriving DecidableEq, Repr

/-- Its text. -/
def Method.text : Method → String
  | .get => "GET"
  | .post => "POST"
  | .connect => "CONNECT"
  | .other name => name

/-- The body of a request: not JSON, or a value with or without more behind it. -/
inductive Body where
  | unreadable (text : String)
  | value (j : Json) (more : Bool)

structure Request where
  method : Method
  path : String
  body : Body

/-- What is sent back. -/
inductive Reply where
  | json (j : Json)
  | page (text : String)
  | moved (path : String)
  /-- The device gauges of the metrics page. -/
  | gauges (devicesTotal devicesAllocated : Nat)

structure Response where
  code : Nat
  reply : Reply

/-- What a request meets: the orders of the simulator's maps, and the clock. -/
structure Moment where
  pools : List String
  runs : List String
  now : Int

/-- The map orders list the keys of the maps. -/
def Moment.Meets (x : Moment) (s : Simulator) : Prop :=
  x.pools.Perm s.pools.keys ∧ x.runs.Perm s.runs.keys

instance (x : Moment) (s : Simulator) : Decidable (x.Meets s) :=
  inferInstanceAs (Decidable (_ ∧ _))

/-- `writeError`. -/
def writeError (code : Nat) (text : String) : Response :=
  ⟨code, .json ((errorResponse "error").encode text)⟩

/-- `writeJSON` with status `200`. -/
def writeJSON (j : Json) : Response := ⟨200, .json j⟩

/-- `registerFleetResponse` and `actionResponse`. -/
def okResponse : Response := writeJSON (.obj [("ok", .bool true)])

/-- `http.NotFound`. -/
def notFound : Response := ⟨404, .page "404 page not found\n"⟩

/-! ## Handlers -/

variable (lib : Lib) (duration : Int → RuntimeInput → Nat → Int)

/-- `decodeJSON` into a structure of zeros. -/
def decodeJSON {σ : Type} (c : Struct σ) (zero : σ) : Body → Except String σ
  | .unreadable text => .error ("invalid JSON body: " ++ text)
  | .value j more =>
      match c.decode lib.folding true j zero with
      | .error e => .error ("invalid JSON body: " ++ lib.jsonText e)
      | .ok a => if more then .error "invalid JSON body: multiple JSON values" else .ok a

/-- `requireMethod`. -/
def requireMethod (method : Method) (req : Request) (s : Simulator)
    (handle : Response × Simulator) : Response × Simulator :=
  if req.method = method then handle
  else (writeError 405 ("method " ++ req.method.text ++ " not allowed"), s)

theorem requireMethod_of_eq {method : Method} {req : Request} (h : req.method = method)
    (s : Simulator) (r : Response × Simulator) : requireMethod method req s r = r := if_pos h

/-- `handleRegisterFleet`. -/
def handleRegisterFleet (req : Request) (s : Simulator) : Response × Simulator :=
  requireMethod .post req s
    (match decodeJSON lib (registerFleetRequest lib.folding true) ⟨"", ⟨0, 0, 0, "", ""⟩⟩
        req.body with
    | .error text => (writeError 400 text, s)
    | .ok r =>
        let poolKey := if r.poolKey = "" then defaultPoolKey else r.poolKey
        match registerFleet s poolKey r.spec with
        | .error e => (writeError 400 (errorText lib.verbs e), s)
        | .ok t => (okResponse, t))

/-- `handleDeregisterFleet`. -/
def handleDeregisterFleet (req : Request) (s : Simulator) : Response × Simulator :=
  requireMethod .post req s
    (match decodeJSON lib deregisterFleetRequest "" req.body with
    | .error text => (writeError 400 text, s)
    | .ok poolKey => (okResponse, deleteFleet s poolKey))

/-- `handleAllocate`; the answer is the allocation. -/
def handleAllocate (x : Moment) (req : Request) (s : Simulator) : Response × Simulator :=
  requireMethod .post req s
    (match decodeJSON lib (allocateRequest lib.folding true) ⟨"", 0, 0, ⟨.unset, false, 0, "", ""⟩⟩
        req.body with
    | .error text => (writeError 400 text, s)
    | .ok r =>
        match allocateWithOptions s x.pools r.workloadID r.gpuCount r.memMiB r.options with
        | .error e => (writeError (statusForError lib.verbs e) (errorText lib.verbs e), s)
        | .ok (a, t) =>
            (writeJSON (.obj [("WorkloadID", .str a.workloadID),
              ("DeviceIDs", .arr (a.deviceIDs.map .str))]), t))

/-- The structure that `handleStart` decodes into. -/
def noRuntimeInput : RuntimeInput :=
  ⟨"", 0, "", .unset, none, none, none, none, none, none, none, none, none⟩

/-- `handleStart`. -/
def handleStart (x : Moment) (req : Request) (s : Simulator) : Response × Simulator :=
  requireMethod .post req s
    (match decodeJSON lib (startRequest lib.folding true) noRuntimeInput req.body with
    | .error text => (writeError 400 text, s)
    | .ok input =>
        match startWithRuntimeInput (estimateDuration duration) s x.runs x.now input with
        | .error e => (writeError (statusForError lib.verbs e) (errorText lib.verbs e), s)
        | .ok (runID, t) => (writeJSON (startResponse.encode runID), t))

/-- `handleRunStatus`, on the path `/v1/runs/{runID}/status`. -/
def handleRunStatus (x : Moment) (req : Request) (s : Simulator) : Response × Simulator :=
  requireMethod .get req s
    (match split (trimPrefix req.path "/v1/runs/") with
    | [runID, action] =>
        if runID = "" ∨ action ≠ "status" then (notFound, s)
        else match getStatus s x.now runID with
        | .error e => (writeError (statusForError lib.verbs e) (errorText lib.verbs e), s)
        | .ok (status, t) => (writeJSON (runStatusResponse.encode ⟨runID, statusText status⟩), t)
    | _ => (notFound, s))

/-- The action of `handleWorkloadAction`, once the path is read. -/
def workloadAction (x : Moment) (workloadID action : String) (s : Simulator) :
    Response × Simulator :=
  let result :=
    if action = "preempt" then some (preempt s x.runs workloadID)
    else if action = "release" then some (release s workloadID)
    else none
  match result with
  | none => (notFound, s)
  | some (.error e) => (writeError (statusForError lib.verbs e) (errorText lib.verbs e), s)
  | some (.ok t) => (okResponse, t)

/-- `handleWorkloadAction`, on the path `/v1/workloads/{workloadID}/{action}`; the workload ID
    may have slashes. -/
def handleWorkloadAction (x : Moment) (req : Request) (s : Simulator) : Response × Simulator :=
  requireMethod .post req s
    (let parts := split (trimPrefix req.path "/v1/workloads/")
    let action := parts.getLast?.getD ""
    if parts.length < 2 ∨ action = "" then (notFound, s)
    else
      let workloadID := join parts.dropLast
      if workloadID = "" then (notFound, s)
      else workloadAction lib x workloadID action s)

/-- `handleHealthz`. -/
def handleHealthz (req : Request) (s : Simulator) : Response × Simulator :=
  requireMethod .get req s (writeJSON (.obj [("status", .str "ok")]), s)

/-- `handleMetrics`: the device gauges, computed on demand. -/
def handleMetrics (x : Moment) (req : Request) (s : Simulator) : Response × Simulator :=
  requireMethod .get req s
    (⟨200, .gauges (devicesOf (allNodes s x.pools)).length (allocatedIDs s).length⟩, s)

/-! ## Routing -/

/-- The handlers. -/
inductive Route where
  | healthz | metrics | registerFleet | deregisterFleet | allocate | start | runStatus
  | workloadAction
  deriving DecidableEq, Repr

/-- `routes`: the patterns, of which a final slash opens a subtree. -/
def routes : List (String × Route) :=
  [("/healthz", .healthz), ("/metrics", .metrics), ("/v1/fleet/register", .registerFleet),
    ("/v1/fleet/deregister", .deregisterFleet), ("/v1/allocate", .allocate),
    ("/v1/start", .start), ("/v1/runs/", .runStatus), ("/v1/workloads/", .workloadAction)]

/-- A pattern matches a path. -/
def matchesPattern (pattern path : String) : Bool :=
  if pattern.toList.getLast? = some '/' then startsWith path pattern else path = pattern

/-- The handler of a path. -/
def findRoute (path : String) : Option Route :=
  (routes.find? (fun r => matchesPattern r.1 path)).map Prod.snd

/-- The call of a handler. -/
def handle (x : Moment) (req : Request) (s : Simulator) : Route → Response × Simulator
  | .healthz => handleHealthz req s
  | .metrics => handleMetrics x req s
  | .registerFleet => handleRegisterFleet lib req s
  | .deregisterFleet => handleDeregisterFleet lib req s
  | .allocate => handleAllocate lib x req s
  | .start => handleStart lib duration x req s
  | .runStatus => handleRunStatus lib x req s
  | .workloadAction => handleWorkloadAction lib x req s

/-- The path that is looked up: cleaned, except for `CONNECT`. -/
def Request.target (req : Request) : String :=
  if req.method = .connect then req.path else cleanPath req.path

/-- `ServeHTTP`: the client is sent away from a path that was not clean, or that lacks the
    final slash of a pattern. -/
def serveHTTP (x : Moment) (req : Request) (s : Simulator) : Response × Simulator :=
  if req.target ++ "/" ∈ routes.map Prod.fst then (⟨301, .moved (req.target ++ "/")⟩, s)
  else if req.target ≠ req.path then (⟨301, .moved req.target⟩, s)
  else match findRoute req.target with
  | none => (notFound, s)
  | some route => handle lib duration x req s route

/-! ## A request is at most one call -/

section
variable {lib duration}

/-- What a request can come to: nothing has changed, or one call has succeeded. -/
inductive Served (est : Estimator) (s : Simulator) : Response × Simulator → Prop where
  | idle (r : Response) : Served est s (r, s)
  | called (op : Op) (r : Response) (t : Simulator) :
      step est s op = some t → r.code = 200 → Served est s (r, t)

variable {est : Estimator} {x : Moment} {req : Request} {s : Simulator}

theorem Served.requireMethod {method : Method} {r : Response × Simulator} (h : Served est s r) :
    Served est s (requireMethod method req s r) := by
  rw [GpuHttp.requireMethod]
  split_ifs
  · exact h
  · exact .idle _

theorem served_handleRegisterFleet : Served est s (handleRegisterFleet lib req s) := by
  refine Served.requireMethod ?_
  cases hbody : decodeJSON lib (registerFleetRequest lib.folding true) ⟨"", ⟨0, 0, 0, "", ""⟩⟩
      req.body with
  | error text => exact .idle _
  | ok r =>
      generalize hkey : (if r.poolKey = "" then defaultPoolKey else r.poolKey) = key
      simp only
      cases hcall : registerFleet s key r.spec with
      | error e => simp only [hkey, hcall]; exact .idle _
      | ok t =>
          simp only [hkey, hcall]
          refine .called (.registerFleet key r.spec) _ t ?_ rfl
          simp only [step, hcall, afterUnit]

theorem served_handleDeregisterFleet : Served est s (handleDeregisterFleet lib req s) := by
  refine Served.requireMethod ?_
  cases hbody : decodeJSON lib deregisterFleetRequest "" req.body with
  | error text => exact .idle _
  | ok poolKey => exact .called (.deleteFleet poolKey) _ _ rfl rfl

theorem served_handleAllocate (hx : x.Meets s) : Served est s (handleAllocate lib x req s) := by
  refine Served.requireMethod ?_
  cases hbody : decodeJSON lib (allocateRequest lib.folding true)
      ⟨"", 0, 0, ⟨.unset, false, 0, "", ""⟩⟩ req.body with
  | error text => exact .idle _
  | ok r =>
      simp only
      cases hcall : allocateWithOptions s x.pools r.workloadID r.gpuCount r.memMiB r.options with
      | error e => exact .idle _
      | ok at' =>
          refine .called (.allocateWithOptions x.pools r.workloadID r.gpuCount r.memMiB r.options)
            _ _ ?_ rfl
          simp only [step, if_pos hx.1, hcall, after]

theorem served_handleStart (hx : x.Meets s) :
    Served (estimateDuration duration) s (handleStart lib duration x req s) := by
  refine Served.requireMethod ?_
  cases hbody : decodeJSON lib (startRequest lib.folding true) noRuntimeInput req.body with
  | error text => exact .idle _
  | ok input =>
      simp only
      cases hcall : startWithRuntimeInput (estimateDuration duration) s x.runs x.now
          input with
      | error e => exact .idle _
      | ok rt =>
          refine .called (.startWithRuntimeInput x.runs x.now input) _ _ ?_ rfl
          simp only [step, if_pos hx.2, hcall, after]

theorem served_handleRunStatus : Served est s (handleRunStatus lib x req s) := by
  refine Served.requireMethod ?_
  split
  · rename_i runID action _
    split_ifs
    · exact .idle _
    · cases hcall : getStatus s x.now runID with
      | error e => exact .idle _
      | ok rt =>
          refine .called (.getStatus x.now runID) _ _ ?_ rfl
          simp only [step, hcall, after]
  · exact .idle _

theorem served_workloadAction (hx : x.Meets s) (workloadID action : String) :
    Served est s (workloadAction lib x workloadID action s) := by
  rw [workloadAction]
  by_cases hpreempt : action = "preempt"
  · simp only [if_pos hpreempt]
    cases hcall : preempt s x.runs workloadID with
    | error e => exact .idle _
    | ok t =>
        refine .called (.preempt x.runs workloadID) _ _ ?_ rfl
        simp only [step, if_pos hx.2, hcall, afterUnit]
  · by_cases hrelease : action = "release"
    · simp only [if_neg hpreempt, if_pos hrelease]
      cases hcall : release s workloadID with
      | error e => exact .idle _
      | ok t =>
          refine .called (.release workloadID) _ _ ?_ rfl
          simp only [step, hcall, afterUnit]
    · simp only [if_neg hpreempt, if_neg hrelease]
      exact .idle _

theorem served_handleWorkloadAction (hx : x.Meets s) :
    Served est s (handleWorkloadAction lib x req s) := by
  refine Served.requireMethod ?_
  simp only
  split_ifs
  · exact .idle _
  · exact .idle _
  · exact served_workloadAction hx _ _

/-- **ONE REQUEST**, whatever its method, path and body. -/
theorem served (hx : x.Meets s) (req : Request) :
    Served (estimateDuration duration) s (serveHTTP lib duration x req s) := by
  rw [serveHTTP]
  split_ifs
  · exact .idle _
  · exact .idle _
  · cases findRoute req.target with
    | none => exact .idle _
    | some route =>
        cases route with
        | healthz => exact Served.requireMethod (.idle _)
        | metrics => exact Served.requireMethod (.idle _)
        | registerFleet => exact served_handleRegisterFleet
        | deregisterFleet => exact served_handleDeregisterFleet
        | allocate => exact served_handleAllocate hx
        | start => exact served_handleStart hx
        | runStatus => exact served_handleRunStatus
        | workloadAction => exact served_handleWorkloadAction hx

end

/-! ## All requests -/

/-- The server as a step system: a request that meets the maps as they are. -/
def serverStep (s : Simulator) (label : Moment × Request) : Option Simulator :=
  if label.1.Meets s then some (serveHTTP lib duration label.1 label.2 s).2 else none

/-- **THE SERVER REFINES THE SIMULATOR**: what a sequence of requests does, a sequence of calls
    does. -/
theorem runs_of_served {requests : List (Moment × Request)} {s t : Simulator}
    (h : Runs (serverStep lib duration) Always s requests t) :
    ∃ ops, Runs (step (estimateDuration duration)) Always s ops t := by
  induction h with
  | nil s => exact ⟨[], .nil s⟩
  | @cons s t u label _ _ hstep _ ih =>
      obtain ⟨ops, hops⟩ := ih
      rw [serverStep] at hstep
      split_ifs at hstep with hx
      have hserved : Served (estimateDuration duration) s
          (serveHTTP lib duration label.1 label.2 s) := served hx label.2
      rw [← Option.some.inj hstep] at hops
      generalize serveHTTP lib duration label.1 label.2 s = r at hserved hops
      cases hserved with
      | idle r => exact ⟨ops, hops⟩
      | called op r t hcall hcode => exact ⟨op :: ops, .cons trivial hcall hops⟩

/-- **BEHIND THE INTERFACE**: after any sequence of requests, by any number of clients, devices
    are exclusive; and a request that is answered with another status than `200` has left the
    simulator as it was. -/
theorem server_safe {requests : List (Moment × Request)} {s : Simulator}
    (h : Runs (serverStep lib duration) Always newSimulator requests s) :
    Exclusive s ∧ ∀ x req, x.Meets s → (serveHTTP lib duration x req s).1.code ≠ 200 →
      (serveHTTP lib duration x req s).2 = s := by
  obtain ⟨ops, hops⟩ := runs_of_served lib duration h
  have hs := sound_of_runs hops
  refine ⟨hs.exclusive, fun x req hx hcode => ?_⟩
  have hserved : Served (estimateDuration duration) s
      (serveHTTP lib duration x req s) := served hx req
  generalize serveHTTP lib duration x req s = r at hserved hcode
  cases hserved with
  | idle r => rfl
  | called op r t _ hok => exact absurd hok hcode

/-- Libraries for the examples. -/
def plainLib : Lib := ⟨halves, asciiFolding, fun _ => ""⟩

/-- A request for one device. -/
def oneDevice : Request :=
  ⟨.post, "/v1/allocate", .value ((allocateRequest asciiFolding true).encode
    ⟨"ns/w", 1, 40, ⟨.firstFit, false, 0, "", ""⟩⟩) false⟩

/-- A pool is registered, and its device allocated. -/
def allocatingTraffic : List (Moment × Request) :=
  [(⟨[], [], 0⟩, ⟨.post, "/v1/fleet/register", .value
      ((registerFleetRequest asciiFolding true).encode
        ⟨"ns/a", ⟨1, 1, 80, "gpu", "h100_sxm"⟩⟩) false⟩),
   (⟨["ns/a"], [], 0⟩, oneDevice)]

/-- The same request again is a conflict, and changes nothing. -/
theorem server_safe_again :
    ∃ s, exec (serverStep plainLib (fun _ _ _ => 1)) newSimulator allocatingTraffic = some s
      ∧ allocatedIDs s = ["ns/a/node-0/gpu-0"] ∧ Exclusive s
      ∧ (serveHTTP plainLib (fun _ _ _ => 1) ⟨["ns/a"], [], 0⟩ oneDevice s).1.code = 409
      ∧ (serveHTTP plainLib (fun _ _ _ => 1) ⟨["ns/a"], [], 0⟩ oneDevice s).2 = s := by
  have hexec : (exec (serverStep plainLib (fun _ _ _ => 1)) newSimulator allocatingTraffic).map
      (fun s => (allocatedIDs s, decide (Moment.Meets ⟨["ns/a"], [], 0⟩ s),
        (serveHTTP plainLib (fun _ _ _ => 1) ⟨["ns/a"], [], 0⟩ oneDevice s).1.code))
      = some (["ns/a/node-0/gpu-0"], true, 409) := by decide +kernel
  obtain ⟨s, hs, hafter⟩ := Option.map_eq_some_iff.mp hexec
  obtain ⟨hids, hafter⟩ := Prod.mk.inj hafter
  obtain ⟨hmeets, hcode⟩ := Prod.mk.inj hafter
  obtain ⟨hexclusive, hsame⟩ := server_safe plainLib (fun _ _ _ => 1) (Runs.of_exec hs)
  refine ⟨s, hs, hids, hexclusive, hcode, hsame _ _ (of_decide_eq_true hmeets) ?_⟩
  rw [hcode]
  decide

end GpuHttp
