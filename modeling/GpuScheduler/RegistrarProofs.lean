import GpuScheduler.SimClientProofs
import GpuScheduler.FleetUsageProofs
import GpuScheduler.GoRandProofs

/-! # Pools in two simulators

    The pool controller keeps the pools of the cluster in two simulators: its own, from which
    the statuses are computed, and the remote one, in which the workers allocate.  Both hold
    their pools in memory only, either may be restarted, and the requests to the remote one
    may be lost.

    A pool that exists is reconciled again and again, so nothing that happens to it lasts.  A
    pool that was deleted is reconciled once, and the failure of its deregistration is
    ignored: `drift_scheduled_iff` says exactly which events leave a simulator with a pool
    that nothing will correct.  Without them, one round of reconciles makes both simulators
    and the statuses what the cluster says (`round_converges`). -/

namespace GpuRegistrar

open GoStrings GoMaps GoPath GoJson GoRand StepRuns
open GpuInputs GpuCompat GpuPlacement GpuSimulator GpuFleet
  GpuFleetUsage GpuProfileText GpuErrorText GpuStatusCode GpuStoredStart GpuWire GpuHttp
  GpuSimClient

variable (lib : Lib) (duration : Int → RuntimeInput → Nat → Int)

/-! ## The registrar -/

/-- `MultiFleetRegistrar`: whether there is a remote simulator, and whether its failures are
    errors. -/
structure MultiFleetRegistrar where
  remoteBase : Bool
  strictRemote : Bool
  deriving DecidableEq, Repr

/-- The two simulators. -/
structure Sims where
  localSim : Simulator
  remoteSim : Simulator

/-- The errors of `RegisterFleet`. -/
inductive RegisterError where
  | sim (e : SimError)
  | unreachable
  | returned (msg : String)

/-- The request of `RegisterFleet`. -/
def registerCall (poolKey : String) (spec : GPUNodePoolSpec) : Request :=
  ⟨.post, "/v1/fleet/register",
    .value ((registerFleetRequest lib.folding true).encode ⟨poolKey, spec⟩) false⟩

/-- The request of `DeleteFleet`. -/
def deregisterCall (poolKey : String) : Request :=
  ⟨.post, "/v1/fleet/deregister", .value (deregisterFleetRequest.encode poolKey) false⟩

/-- What the registrar writes about a response that is not `200`. -/
def responseText (r : Response) : String :=
  if errorOf lib r ≠ "" then statusLine r.code ++ ": " ++ errorOf lib r else statusLine r.code

/-- How `RegisterFleet` takes the response of the remote simulator, if there is one. -/
def readRegister (m : MultiFleetRegistrar) : Option Response → Except RegisterError Unit
  | none => if m.strictRemote then .error .unreachable else .ok ()
  | some r =>
      if r.code = 200 then .ok ()
      else if m.strictRemote then .error (.returned (responseText lib r))
      else .ok ()

/-- `RegisterFleet`: the local simulator first, then the remote one. -/
def registerFleet (m : MultiFleetRegistrar) (x : Moment) (d : Delivery) (poolKey : String)
    (spec : GPUNodePoolSpec) (s : Sims) : Except RegisterError Unit × Sims :=
  match GpuSimulator.registerFleet s.localSim poolKey spec with
  | .error e => (.error (.sim e), s)
  | .ok t =>
      if m.remoteBase then
        let r := exchange lib duration x d (registerCall lib poolKey spec) s.remoteSim
        (readRegister lib m r.1, ⟨t, r.2⟩)
      else (.ok (), ⟨t, s.remoteSim⟩)

/-- `DeleteFleet`; the response of the remote simulator is only logged. -/
def deleteFleet (m : MultiFleetRegistrar) (x : Moment) (d : Delivery) (poolKey : String)
    (s : Sims) : Sims :=
  ⟨GpuSimulator.deleteFleet s.localSim poolKey,
    if m.remoteBase ∧ poolKey ≠ "" then
      (exchange lib duration x d (deregisterCall poolKey) s.remoteSim).2
    else s.remoteSim⟩

/-! ## The pool controller -/

/-- `GPUNodePoolStatus`. -/
structure GPUNodePoolStatus where
  totalDevices : Int
  allocatedDevices : Int
  availableDevices : Int
  utilizationPct : Int
  deriving DecidableEq, Repr

/-- A `GPUNodePool` with the rest of its status. -/
structure NodePool where
  pool : GPUNodePool
  totalDevices : Int
  allocatedDevices : Int
  utilizationPct : Int
  deriving DecidableEq, Repr

def NodePool.status (p : NodePool) : GPUNodePoolStatus :=
  ⟨p.totalDevices, p.allocatedDevices, p.pool.availableDevices, p.utilizationPct⟩

def NodePool.withStatus (p : NodePool) (status : GPUNodePoolStatus) : NodePool :=
  ⟨{ p.pool with availableDevices := status.availableDevices }, status.totalDevices,
    status.allocatedDevices, status.utilizationPct⟩

/-- What the pool controller works on: the resources, the simulators, and the reconciles that
    are scheduled, at once or for later. -/
structure Site where
  pools : GoMap String NodePool
  sims : Sims
  pending : List String

/-- What a reconcile meets: whether the resource could be read and its status written, and
    what became of the request to the remote simulator. -/
structure Turn where
  x : Moment
  fetched : Bool
  delivery : Delivery
  written : Bool

/-- What `Reconcile` returns. -/
inductive Result where
  | done
  | requeueAfter (seconds : Nat)
  | failed
  deriving DecidableEq, Repr

/-- `math.Round`: the nearest integer, and of two the one further from zero. -/
def mathRound (x : Rat) : Int := if 0 ≤ x then (x + 1 / 2).floor else (x - 1 / 2).ceil

variable (fl : Float64)

/-- `math.Round(usage.Utilization * 100)`; the quotient and the product are rounded. -/
def percent (utilization : Rat) : Int := mathRound (fl.round (fl.round utilization * 100))

/-- The status of a pool. -/
def desiredStatus (s : Simulator) (poolKey : String) : GPUNodePoolStatus :=
  let usage := (fleetUsageForPool s poolKey).1
  ⟨toInt32 usage.totalDevices, toInt32 usage.allocatedDevices, toInt32 usage.availableDevices,
    toInt32 (percent fl usage.utilization)⟩

/-- The end of `Reconcile`: the status is written when it differs, and the write is seen by
    the watch. -/
def updateStatus (turn : Turn) (key : String) (p : NodePool) (s : Site) : Result × Site :=
  let desired := desiredStatus fl s.sims.localSim key
  if p.status = desired then (.requeueAfter 120, s)
  else if turn.written then
    (.requeueAfter 120, { s with
      pools := s.pools.insert key (p.withStatus desired)
      pending := key :: s.pending })
  else (.failed, s)

/-- `GPUNodePoolReconciler.Reconcile`. -/
def reconcile (m : MultiFleetRegistrar) (turn : Turn) (key : String) (s : Site) :
    Result × Site :=
  if turn.fetched then
    match s.pools.lookup key with
    | none =>
        (.done, { s with sims := deleteFleet lib duration m turn.x turn.delivery key s.sims })
    | some p =>
        let r := registerFleet lib duration m turn.x turn.delivery key p.pool.simSpec s.sims
        match r.1 with
        | .error _ => (.failed, { s with sims := r.2 })
        | .ok _ => updateStatus fl turn key p { s with sims := r.2 }
  else (.failed, s)

/-! ## Runs -/

/-- A call that is no registration and no deletion. -/
def keepsPools : Op → Bool
  | .registerFleet _ _ | .deleteFleet _ => false
  | _ => true

inductive Event where
  /-- A pool is created or changed. -/
  | apply (p : NodePool)
  | remove (key : String)
  | reconcile (key : String) (turn : Turn)
  /-- Two scheduled reconciles of one pool become one. -/
  | merge (key : String)
  /-- The scheduler calls the local simulator, a worker the remote one. -/
  | localCall (op : Op)
  | remoteCall (op : Op)
  | restartRemote
  /-- The operator starts again: its simulator is empty, and its watch lists the pools. -/
  | restartOperator

/-- A reconcile that is not done is scheduled again. -/
def requeue (key : String) (r : Result × Site) : Site :=
  if r.1 = .done then r.2 else { r.2 with pending := key :: r.2.pending }

/-- One event, if it can happen. -/
def step (m : MultiFleetRegistrar) (s : Site) : Event → Option Site
  | .apply p =>
      some { s with
        pools := s.pools.insert p.pool.poolKey p
        pending := p.pool.poolKey :: s.pending }
  | .remove key =>
      if key ∈ s.pools.keys then
        some { s with
          pools := s.pools.erase key
          pending := key :: s.pending }
      else none
  | .reconcile key turn =>
      if key ∈ s.pending then
        some (requeue key (reconcile lib duration fl m turn key
          { s with pending := s.pending.erase key }))
      else none
  | .merge key =>
      if key ∈ s.pending.erase key then some { s with pending := s.pending.erase key } else none
  | .localCall op =>
      if keepsPools op then
        (GpuSimulator.step (estimateDuration duration) s.sims.localSim op).map
          (fun t => { s with sims := ⟨t, s.sims.remoteSim⟩ })
      else none
  | .remoteCall op =>
      if keepsPools op then
        (GpuSimulator.step (estimateDuration duration) s.sims.remoteSim op).map
          (fun t => { s with sims := ⟨s.sims.localSim, t⟩ })
      else none
  | .restartRemote => some { s with sims := ⟨s.sims.localSim, newSimulator⟩ }
  | .restartOperator =>
      some { s with
        sims := ⟨newSimulator, s.sims.remoteSim⟩
        pending := s.pools.keys }

/-- Nothing yet. -/
def start : Site := ⟨∅, ⟨newSimulator, newSimulator⟩, []⟩

/-! ## The requests to the remote simulator -/

section
variable {lib duration fl} {m : MultiFleetRegistrar} {x : Moment} {d : Delivery}

/-- A simulator with one more pool. -/
def withPool (s : Simulator) (poolKey : String) (nodes : List Node) : Simulator :=
  { s with pools := s.pools.insert poolKey nodes }

theorem registerFleet_withPool {s : Simulator} {poolKey : String} {spec : GPUNodePoolSpec}
    {nodes : List Node} (hkey : poolKey ≠ "")
    (hbuild : buildNodesWithPoolKey spec poolKey = .ok nodes) :
    GpuSimulator.registerFleet s poolKey spec = .ok (withPool s poolKey nodes) := by
  rw [GpuSimulator.registerFleet]
  simp only [if_neg hkey, hbuild]
  rfl

/-- A registration with a key that the simulator can build is answered with `200`. -/
theorem roundTrip_register {s : Simulator} {poolKey : String} {spec : GPUNodePoolSpec}
    {nodes : List Node} (hkey : poolKey ≠ "")
    (hbuild : buildNodesWithPoolKey spec poolKey = .ok nodes) :
    roundTrip lib duration x (registerCall lib poolKey spec) s
      = (okResponse, withPool s poolKey nodes) := by
  have hroute : findRoute "/v1/fleet/register" = some .registerFleet := by decide
  have hbody : decodeJSON lib (registerFleetRequest lib.folding true) ⟨"", ⟨0, 0, 0, "", ""⟩⟩
      (registerCall lib poolKey spec).body = .ok ⟨poolKey, spec⟩ :=
    decodeJSON_encode (registerFleetRequest_faithful lib.folding true _) _
  have hmethod : (registerCall lib poolKey spec).method = .post := rfl
  have hserve : serveHTTP lib duration x (registerCall lib poolKey spec) s
      = handleRegisterFleet lib (registerCall lib poolKey spec) s := by
    rw [registerCall, serveHTTP_post (by decide +kernel) (by decide) hroute]
    rfl
  rw [handleRegisterFleet, requireMethod_of_eq hmethod, hbody] at hserve
  simp only [if_neg hkey, registerFleet_withPool hkey hbuild] at hserve
  exact roundTrip_of_json lib duration hserve

/-- A deregistration is answered with `200`. -/
theorem roundTrip_deregister (s : Simulator) (poolKey : String) :
    roundTrip lib duration x (deregisterCall poolKey) s
      = (okResponse, GpuSimulator.deleteFleet s poolKey) := by
  have hroute : findRoute "/v1/fleet/deregister" = some .deregisterFleet := by decide
  have hbody : decodeJSON lib deregisterFleetRequest "" (deregisterCall poolKey).body
      = .ok poolKey := decodeJSON_encode (List.forall_mem_singleton.mpr trivial) _
  have hmethod : (deregisterCall poolKey).method = .post := rfl
  have hserve : serveHTTP lib duration x (deregisterCall poolKey) s
      = handleDeregisterFleet lib (deregisterCall poolKey) s := by
    rw [deregisterCall, serveHTTP_post (by decide +kernel) (by decide) hroute]
    rfl
  rw [handleDeregisterFleet, requireMethod_of_eq hmethod, hbody] at hserve
  exact roundTrip_of_json lib duration hserve

/-- The remote simulator gets the request. -/
def Reaches (m : MultiFleetRegistrar) (d : Delivery) : Prop :=
  m.remoteBase = true ∧ d ≠ .requestLost

instance (m : MultiFleetRegistrar) (d : Delivery) : Decidable (Reaches m d) :=
  inferInstanceAs (Decidable (_ ∧ _))

/-- The simulators after a registration. -/
def registeredSims (m : MultiFleetRegistrar) (d : Delivery) (key : String) (nodes : List Node)
    (s : Sims) : Sims :=
  ⟨withPool s.localSim key nodes,
    if Reaches m d then withPool s.remoteSim key nodes else s.remoteSim⟩

/-- The simulators after a deletion. -/
def deletedSims (m : MultiFleetRegistrar) (d : Delivery) (key : String) (s : Sims) : Sims :=
  ⟨GpuSimulator.deleteFleet s.localSim key,
    if Reaches m d then GpuSimulator.deleteFleet s.remoteSim key else s.remoteSim⟩

theorem exchange_snd (req : Request) (s : Simulator) :
    (exchange lib duration x d req s).2
      = if d ≠ .requestLost then (roundTrip lib duration x req s).2 else s := by
  cases d with
  | delivered => rfl
  | requestLost => rfl
  | responseLost => rfl

/-- **WHAT `RegisterFleet` DOES** with a specification that can be built. -/
theorem registerFleet_eq {poolKey : String} {spec : GPUNodePoolSpec} {nodes : List Node}
    (hkey : poolKey ≠ "") (hbuild : buildNodesWithPoolKey spec poolKey = .ok nodes) (s : Sims) :
    registerFleet lib duration m x d poolKey spec s
      = (if m.remoteBase = true ∧ m.strictRemote = true ∧ d ≠ .delivered then .error .unreachable
          else .ok (),
        registeredSims m d poolKey nodes s) := by
  have hround : roundTrip lib duration x (registerCall lib poolKey spec) s.remoteSim
      = (okResponse, withPool s.remoteSim poolKey nodes) := roundTrip_register hkey hbuild
  rw [registerFleet, registerFleet_withPool hkey hbuild, registeredSims]
  obtain ⟨remoteBase, strictRemote⟩ := m
  cases remoteBase with
  | false => simp [Reaches]
  | true =>
      cases d with
      | delivered => simp [Reaches, exchange, hround, readRegister, okResponse, writeJSON]
      | requestLost => cases strictRemote <;> simp [Reaches, exchange, readRegister]
      | responseLost => cases strictRemote <;> simp [Reaches, exchange, hround, readRegister]

/-- A specification that cannot be built changes nothing. -/
theorem registerFleet_refused {poolKey : String} {spec : GPUNodePoolSpec} {e : BuildError}
    (hkey : poolKey ≠ "") (hbuild : buildNodesWithPoolKey spec poolKey = .error e) (s : Sims) :
    registerFleet lib duration m x d poolKey spec s = (.error (.sim (.build e)), s) := by
  have hlocal : GpuSimulator.registerFleet s.localSim poolKey spec = .error (.build e) := by
    rw [GpuSimulator.registerFleet]
    simp only [if_neg hkey, hbuild]
  rw [registerFleet, hlocal]

/-- **WHAT `DeleteFleet` DOES**. -/
theorem deleteFleet_eq {poolKey : String} (hkey : poolKey ≠ "") (s : Sims) :
    deleteFleet lib duration m x d poolKey s = deletedSims m d poolKey s := by
  rw [deleteFleet, deletedSims, exchange_snd, roundTrip_deregister]
  by_cases hbase : m.remoteBase = true
  · rw [if_pos ⟨hbase, hkey⟩]
    by_cases hd : d ≠ .requestLost
    · rw [if_pos hd, if_pos ⟨hbase, hd⟩]
    · rw [if_neg hd, if_neg (fun h => hd h.2)]
  · rw [if_neg (fun h => hbase h.1), if_neg (fun h => hbase h.1)]

end

/-! ## Drift -/

/-- The specification of a pool of the cluster. -/
def specOf (s : Site) (key : String) : Option GPUNodePoolSpec :=
  (s.pools.lookup key).map (fun p => p.pool.simSpec)

/-- The nodes that the simulators should have for a key. -/
def wanted (s : Site) (key : String) : Option (List Node) :=
  (specOf s key).bind (fun spec => (buildNodesWithPoolKey spec key).toOption)

/-- A simulator has other nodes for a key. -/
def Drifted (m : MultiFleetRegistrar) (s : Site) (key : String) : Prop :=
  s.sims.localSim.pools.lookup key ≠ wanted s key
    ∨ (m.remoteBase = true ∧ s.sims.remoteSim.pools.lookup key ≠ wanted s key)

/-- Every key about which the simulators are wrong is scheduled. -/
def DriftScheduled (m : MultiFleetRegistrar) (s : Site) : Prop :=
  Covered (Drifted m s) (fun (i : Nat) key => s.pending[i]? = some key)

/-- **WHAT LEAVES A WRONG POOL BEHIND**: a deregistration that does not reach the remote
    simulator when no other reconcile of the key is scheduled, and a restart of the operator
    when the remote simulator has a pool that the cluster has not. -/
def Forgets (m : MultiFleetRegistrar) (s : Site) : Event → Prop
  | .reconcile key turn =>
      turn.fetched = true ∧ s.pools.lookup key = none ∧ m.remoteBase = true
        ∧ turn.delivery = .requestLost ∧ key ∈ s.sims.remoteSim.pools.keys
        ∧ key ∉ s.pending.erase key
  | .restartOperator =>
      m.remoteBase = true ∧ ∃ key ∈ s.sims.remoteSim.pools.keys, s.pools.lookup key = none
  | _ => False

instance (m : MultiFleetRegistrar) (s : Site) : (ev : Event) → Decidable (Forgets m s ev)
  | .apply _ | .remove _ | .merge _ | .localCall _ | .remoteCall _ | .restartRemote =>
      inferInstanceAs (Decidable False)
  | .reconcile _ _ => inferInstanceAs (Decidable (_ ∧ _))
  | .restartOperator => inferInstanceAs (Decidable (_ ∧ _))

/-- The pools of the cluster are scheduled, and no key is empty. -/
structure Watched (s : Site) : Prop where
  scheduled : ∀ key ∈ s.pools.keys, key ∈ s.pending
  named : ∀ key ∈ s.pending, key ≠ ""

section
variable {lib duration fl} {m : MultiFleetRegistrar} {s t : Site} {key : String}

theorem driftScheduled_iff : DriftScheduled m s ↔ ∀ key, Drifted m s key → key ∈ s.pending := by
  constructor
  · intro h key hkey
    exact List.mem_iff_getElem?.mpr (h key hkey)
  · intro h key hkey
    exact List.mem_iff_getElem?.mp (h key hkey)

theorem mem_keys_of_specOf {spec : GPUNodePoolSpec} (h : specOf s key = some spec) :
    key ∈ s.pools.keys := by
  obtain ⟨p, hp, -⟩ := Option.map_eq_some_iff.mp h
  exact mem_keys_iff.mpr ⟨p, hp⟩

/-- Nothing is wanted for a key that the cluster does not have. -/
theorem wanted_of_not_mem (h : key ∉ s.pools.keys) : wanted s key = none := by
  rw [wanted]
  cases hspec : specOf s key with
  | none => rfl
  | some spec => exact absurd (mem_keys_of_specOf hspec) h

/-- Two sites that agree about a key. -/
structure Agree (s t : Site) (key : String) : Prop where
  spec : specOf t key = specOf s key
  localPool : t.sims.localSim.pools.lookup key = s.sims.localSim.pools.lookup key
  remotePool : t.sims.remoteSim.pools.lookup key = s.sims.remoteSim.pools.lookup key

theorem Agree.drifted (h : Agree s t key) (hdrift : Drifted m t key) : Drifted m s key := by
  rw [Drifted, wanted, h.spec, h.localPool, h.remotePool] at hdrift
  exact hdrift

/-- When a step is about one key, the drift of that key decides. -/
theorem DriftScheduled.step_iff (h : DriftScheduled m s) (hagree : ∀ l, l ≠ key → Agree s t l)
    (hpending : ∀ l, l ≠ key → l ∈ s.pending → l ∈ t.pending) :
    DriftScheduled m t ↔ (Drifted m t key → key ∈ t.pending) := by
  rw [List.mem_iff_getElem?]
  refine Covered.step_iff h (fun l hl hdrift => (hagree l hl).drifted hdrift) ?_
  intro l hl i hi
  exact List.mem_iff_getElem?.mp (hpending l hl (List.mem_iff_getElem?.mpr ⟨i, hi⟩))

end

/-! ## One reconcile -/

section
variable {lib duration fl} {m : MultiFleetRegistrar} {turn : Turn} {s t : Site}
  {key : String} {r : Result × Site}

/-- What a reconcile can do. -/
inductive Reconciled (m : MultiFleetRegistrar) (turn : Turn) (key : String) (s : Site) :
    Result × Site → Prop where
  | unread (unread : turn.fetched = false) : Reconciled m turn key s (.failed, s)
  | deleted (read : turn.fetched = true) (absent : s.pools.lookup key = none) :
      Reconciled m turn key s
        (.done, { s with sims := deletedSims m turn.delivery key s.sims })
  | refused (p : NodePool) (e : BuildError) (present : s.pools.lookup key = some p)
      (build : buildNodesWithPoolKey p.pool.simSpec key = .error e) :
      Reconciled m turn key s (.failed, s)
  | registered (p : NodePool) (nodes : List Node) (r : Result) (t : Site)
      (present : s.pools.lookup key = some p)
      (build : buildNodesWithPoolKey p.pool.simSpec key = .ok nodes) (again : r ≠ .done)
      (sims : t.sims = registeredSims m turn.delivery key nodes s.sims)
      (status : t.pools = s.pools ∧ t.pending = s.pending
        ∨ ∃ status, t.pools = s.pools.insert key (p.withStatus status)
          ∧ t.pending = key :: s.pending) :
      Reconciled m turn key s (r, t)

/-- A write of the status, or none. -/
theorem reconciled_updateStatus {p : NodePool} {nodes : List Node} {sims : Sims}
    (hp : s.pools.lookup key = some p)
    (hbuild : buildNodesWithPoolKey p.pool.simSpec key = .ok nodes)
    (hsims : sims = registeredSims m turn.delivery key nodes s.sims) :
    Reconciled m turn key s (updateStatus fl turn key p { s with sims := sims }) := by
  rw [updateStatus]
  simp only
  split_ifs with hsame hwritten
  · exact .registered p nodes _ _ hp hbuild (by decide) hsims (.inl ⟨rfl, rfl⟩)
  · exact .registered p nodes _ _ hp hbuild (by decide) hsims (.inr ⟨_, rfl, rfl⟩)
  · exact .registered p nodes _ _ hp hbuild (by decide) hsims (.inl ⟨rfl, rfl⟩)

/-- **ONE RECONCILE** of a key does nothing else. -/
theorem reconciled (hkey : key ≠ "") :
    Reconciled m turn key s (reconcile lib duration fl m turn key s) := by
  rw [reconcile]
  cases hread : turn.fetched with
  | false => exact .unread hread
  | true =>
      rw [if_pos rfl]
      cases hp : s.pools.lookup key with
      | none =>
          simp only [deleteFleet_eq hkey]
          exact .deleted hread hp
      | some p =>
          cases hbuild : buildNodesWithPoolKey p.pool.simSpec key with
          | error e =>
              simp only [registerFleet_refused hkey hbuild]
              exact .refused p e hp hbuild
          | ok nodes =>
              simp only [registerFleet_eq hkey hbuild]
              split_ifs with hstrict
              · exact .registered p nodes _ _ hp hbuild (by decide) rfl (.inl ⟨rfl, rfl⟩)
              · exact reconciled_updateStatus hp hbuild rfl

theorem lookup_withPool (s : Simulator) (key : String) (nodes : List Node) (l : String) :
    (withPool s key nodes).pools.lookup l = if l = key then some nodes else s.pools.lookup l := by
  split_ifs with hl
  · rw [hl]
    exact AList.lookup_insert _
  · exact AList.lookup_insert_ne hl

theorem lookup_deleteFleet (s : Simulator) (hkey : key ≠ "") (l : String) :
    (GpuSimulator.deleteFleet s key).pools.lookup l
      = if l = key then none else s.pools.lookup l := by
  rw [GpuSimulator.deleteFleet, if_neg hkey]
  split_ifs with hl
  · rw [hl]
    exact AList.lookup_erase _ _
  · exact AList.lookup_erase_ne hl

/-- A reconcile leaves the specifications as they are. -/
theorem Reconciled.specOf (h : Reconciled m turn key s r) (l : String) :
    specOf r.2 l = GpuRegistrar.specOf s l := by
  cases h with
  | unread _ => rfl
  | deleted _ _ => rfl
  | refused p e _ _ => rfl
  | registered p nodes r t hp hbuild _ hsims hstatus =>
      obtain ⟨hpools, -⟩ | ⟨status, hpools, -⟩ := hstatus
      · rw [GpuRegistrar.specOf, hpools]
        rfl
      · rw [GpuRegistrar.specOf, GpuRegistrar.specOf, hpools]
        by_cases hl : l = key
        · rw [hl, AList.lookup_insert, hp]
          rfl
        · rw [AList.lookup_insert_ne hl]

/-- A reconcile is about its key. -/
theorem Reconciled.agree (h : Reconciled m turn key s r) (hkey : key ≠ "") {l : String}
    (hl : l ≠ key) : Agree s r.2 l := by
  refine ⟨h.specOf l, ?_, ?_⟩
  · cases h with
    | unread _ => rfl
    | deleted _ _ => exact (lookup_deleteFleet _ hkey l).trans (if_neg hl)
    | refused p e _ _ => rfl
    | registered p nodes r t _ _ _ hsims _ =>
        rw [hsims]
        exact (lookup_withPool _ key nodes l).trans (if_neg hl)
  · cases h with
    | unread _ => rfl
    | deleted _ _ =>
        simp only [deletedSims]
        split_ifs
        · exact (lookup_deleteFleet _ hkey l).trans (if_neg hl)
        · rfl
    | refused p e _ _ => rfl
    | registered p nodes r t _ _ _ hsims _ =>
        rw [hsims]
        simp only [registeredSims]
        split_ifs
        · exact (lookup_withPool _ key nodes l).trans (if_neg hl)
        · rfl

/-- A reconcile leaves the schedule or puts its own key first. -/
theorem Reconciled.pending_cases (h : Reconciled m turn key s r) :
    r.2.pending = s.pending ∨ r.2.pending = key :: s.pending := by
  cases h with
  | unread _ => exact Or.inl rfl
  | deleted _ _ => exact Or.inl rfl
  | refused p e _ _ => exact Or.inl rfl
  | registered p nodes r t _ _ _ _ hstatus =>
      obtain ⟨-, hpending⟩ | ⟨status, -, hpending⟩ := hstatus
      · exact Or.inl hpending
      · exact Or.inr hpending

/-- It takes no other from the schedule. -/
theorem Reconciled.pending (h : Reconciled m turn key s r) {l : String} (hl : l ∈ s.pending) :
    l ∈ r.2.pending := by
  rcases h.pending_cases with hp | hp
  · rwa [hp]
  · rw [hp]
    exact List.mem_cons_of_mem _ hl

/-- It adds its own key at most. -/
theorem Reconciled.mem_pending (h : Reconciled m turn key s r) {l : String}
    (hl : l ∈ r.2.pending) : l = key ∨ l ∈ s.pending := by
  rcases h.pending_cases with hp | hp
  · rw [hp] at hl
    exact Or.inr hl
  · rw [hp] at hl
    exact List.mem_cons.mp hl

theorem sims_requeue : (requeue key r).sims = r.2.sims := by
  rw [requeue]
  split_ifs <;> rfl

theorem pools_requeue : (requeue key r).pools = r.2.pools := by
  rw [requeue]
  split_ifs <;> rfl

theorem mem_pending_requeue {l : String} :
    l ∈ (requeue key r).pending ↔ l ∈ r.2.pending ∨ (l = key ∧ r.1 ≠ .done) := by
  rw [requeue]
  split_ifs with hdone
  · simp [hdone]
  · simp [hdone, or_comm]

theorem specOf_requeue (l : String) : specOf (requeue key r) l = specOf r.2 l := by
  rw [specOf, specOf, pools_requeue]

theorem Agree.requeue {l : String} (h : Agree s r.2 l) : Agree s (requeue key r) l := by
  refine ⟨(specOf_requeue l).trans h.spec, ?_, ?_⟩
  · rw [sims_requeue]
    exact h.localPool
  · rw [sims_requeue]
    exact h.remotePool

end

/-! ## One event -/

section
variable {lib duration fl} {m : MultiFleetRegistrar} {turn : Turn} {s t : Site}
  {key : String} {r : Result × Site} {ev : Event}

theorem mem_keys_iff_specOf : key ∈ s.pools.keys ↔ (specOf s key).isSome = true := by
  rw [mem_keys_iff, specOf, Option.isSome_map, Option.isSome_iff_exists]

/-- A pool of the cluster is scheduled again. -/
theorem Reconciled.again (h : Reconciled m turn key s r) (hkey : key ∈ s.pools.keys) :
    r.1 ≠ .done := by
  have hfailed : Result.failed ≠ .done := by decide
  cases h with
  | unread _ => exact hfailed
  | deleted _ habsent =>
      obtain ⟨p, hp⟩ := mem_keys_iff.mp hkey
      rw [habsent] at hp
      cases hp
  | refused p e _ _ => exact hfailed
  | registered p nodes r t _ _ hagain _ _ => exact hagain

/-- Taking one of two entries from the schedule. -/
theorem mem_erase_of_twice {pending : List String} (h : key ∈ pending.erase key) {l : String} :
    l ∈ pending.erase key ↔ l ∈ pending := by
  constructor
  · exact List.mem_of_mem_erase
  · intro hl
    by_cases heq : l = key
    · rw [heq]
      exact h
    · exact (List.mem_erase_of_ne heq).mpr hl

/-- A call that keeps the pools. -/
theorem pools_of_step {est : Estimator} {a b : Simulator} {op : Op} (hop : keepsPools op = true)
    (h : GpuSimulator.step est a op = some b) : b.pools = a.pools := by
  cases change_of_step h with
  | register poolKey spec nodes t _ _ _ => cases hop
  | refuse poolKey spec err _ => cases hop
  | delete poolKey t => cases hop
  | take op ids t _ hpools _ _ => exact hpools
  | drop op t _ hpools _ => exact hpools

/-- The pools of the cluster stay scheduled. -/
theorem Watched.reconcile (h : Watched s) (hpending : key ∈ s.pending)
    (hr : Reconciled m turn key { s with pending := s.pending.erase key } r) :
    Watched (requeue key r) where
  scheduled l hl := by
    rw [mem_keys_iff_specOf, specOf_requeue, hr.specOf] at hl
    have hkeys : l ∈ s.pools.keys := mem_keys_iff_specOf.mpr hl
    rw [mem_pending_requeue]
    by_cases heq : l = key
    · rw [heq] at hkeys ⊢
      exact .inr ⟨rfl, hr.again hkeys⟩
    · exact .inl (hr.pending ((List.mem_erase_of_ne heq).mpr (h.scheduled l hkeys)))
  named l hl := by
    rcases mem_pending_requeue.mp hl with hl | ⟨rfl, -⟩
    · rcases hr.mem_pending hl with rfl | hl
      · exact h.named _ hpending
      · exact h.named l (List.mem_of_mem_erase hl)
    · exact h.named _ hpending

/-- **THE POOLS ARE WATCHED**: every event keeps the pools of the cluster scheduled. -/
theorem Watched.step (h : Watched s) (hstep : step lib duration fl m s ev = some t) :
    Watched t := by
  cases ev with
  | apply p =>
      obtain rfl := Option.some.inj hstep
      constructor
      · intro l hl
        rcases (AList.mem_insert _).mp (AList.mem_keys.mpr hl) with rfl | hl
        · exact List.mem_cons_self
        · exact List.mem_cons_of_mem _ (h.scheduled l (AList.mem_keys.mp hl))
      · exact List.forall_mem_cons.mpr ⟨poolKey_ne_empty p.pool, h.named⟩
  | remove key =>
      obtain ⟨hkey, hstep⟩ := Option.ite_none_right_eq_some.mp hstep
      obtain rfl := Option.some.inj hstep
      constructor
      · intro l hl
        have hold : l ∈ s.pools := ((AList.mem_erase).mp (AList.mem_keys.mpr hl)).2
        exact List.mem_cons_of_mem _ (h.scheduled l (AList.mem_keys.mp hold))
      · exact List.forall_mem_cons.mpr ⟨h.named _ (h.scheduled _ hkey), h.named⟩
  | reconcile key turn =>
      obtain ⟨hkey, hstep⟩ := Option.ite_none_right_eq_some.mp hstep
      obtain rfl := Option.some.inj hstep
      exact h.reconcile hkey (reconciled (h.named _ hkey))
  | merge key =>
      obtain ⟨hkey, hstep⟩ := Option.ite_none_right_eq_some.mp hstep
      obtain rfl := Option.some.inj hstep
      constructor
      · exact fun l hl => (mem_erase_of_twice hkey).mpr (h.scheduled l hl)
      · exact fun l hl => h.named l (List.mem_of_mem_erase hl)
  | localCall op =>
      obtain ⟨-, hstep⟩ := Option.ite_none_right_eq_some.mp hstep
      obtain ⟨sim, -, rfl⟩ := Option.map_eq_some_iff.mp hstep
      exact ⟨h.scheduled, h.named⟩
  | remoteCall op =>
      obtain ⟨-, hstep⟩ := Option.ite_none_right_eq_some.mp hstep
      obtain ⟨sim, -, rfl⟩ := Option.map_eq_some_iff.mp hstep
      exact ⟨h.scheduled, h.named⟩
  | restartRemote =>
      obtain rfl := Option.some.inj hstep
      exact ⟨h.scheduled, h.named⟩
  | restartOperator =>
      obtain rfl := Option.some.inj hstep
      exact ⟨fun l hl => hl, fun l hl => h.named l (h.scheduled l hl)⟩

theorem requeue_done : requeue key (.done, t) = t := if_pos rfl

/-- After a deletion only the remote simulator can be wrong, when it was not told. -/
theorem drifted_deleted_iff {d : Delivery} (hkey : key ≠ "") (habsent : s.pools.lookup key = none) :
    Drifted m { s with sims := deletedSims m d key s.sims } key
      ↔ m.remoteBase = true ∧ d = .requestLost ∧ key ∈ s.sims.remoteSim.pools.keys := by
  have hwanted : wanted s key = none := wanted_of_not_mem (AList.lookup_eq_none.mp habsent)
  have hgone : ∀ sim, (GpuSimulator.deleteFleet sim key).pools.lookup key = none :=
    fun sim => (lookup_deleteFleet sim hkey key).trans (if_pos rfl)
  show (_ ≠ wanted s key ∨ _ ∧ _ ≠ wanted s key) ↔ _
  rw [hwanted, deletedSims]
  constructor
  · rintro (hne | ⟨hbase, hne⟩)
    · exact absurd (hgone _) hne
    · split_ifs at hne with hreach
      · exact absurd (hgone _) hne
      · have hlost : d = .requestLost := not_not.mp (fun hd => hreach ⟨hbase, hd⟩)
        exact ⟨hbase, hlost, not_not.mp (fun hmem => hne (AList.lookup_eq_none.mpr hmem))⟩
  · rintro ⟨hbase, hlost, hmem⟩
    refine .inr ⟨hbase, ?_⟩
    simp only [if_neg (fun hreach : Reaches m d => hreach.2 hlost)]
    exact fun hnone => AList.lookup_eq_none.mp hnone hmem

/-- A reconcile forgets its key exactly when the deregistration is lost for good. -/
theorem DriftScheduled.reconcile_iff (h : DriftScheduled m s) (hkey : key ≠ "")
    (hr : Reconciled m turn key { s with pending := s.pending.erase key } r) :
    DriftScheduled m (requeue key r) ↔ ¬ Forgets m s (.reconcile key turn) := by
  have hone : DriftScheduled m (requeue key r)
      ↔ (Drifted m (requeue key r) key → key ∈ (requeue key r).pending) := by
    refine h.step_iff (fun l hl => ?_) (fun l hl hmem => ?_)
    · have hagree : Agree { s with pending := s.pending.erase key } (requeue key r) l :=
        (hr.agree hkey hl).requeue
      exact ⟨hagree.spec, hagree.localPool, hagree.remotePool⟩
    · exact mem_pending_requeue.mpr (.inl (hr.pending ((List.mem_erase_of_ne hl).mpr hmem)))
  have hfailed : Result.failed ≠ .done := by decide
  rw [hone, mem_pending_requeue]
  cases hr with
  | unread hunread =>
      refine iff_of_true (fun _ => .inr ⟨rfl, hfailed⟩) (fun hforgets => ?_)
      exact absurd (hunread.symm.trans hforgets.1) (by decide)
  | refused p e hp _ =>
      refine iff_of_true (fun _ => .inr ⟨rfl, hfailed⟩) (fun hforgets => ?_)
      exact absurd (hp.symm.trans hforgets.2.1) (by simp)
  | registered p nodes r t hp _ hagain _ _ =>
      refine iff_of_true (fun _ => .inr ⟨rfl, hagain⟩) (fun hforgets => ?_)
      exact absurd (hp.symm.trans hforgets.2.1) (by simp)
  | deleted hread habsent =>
      rw [requeue_done, drifted_deleted_iff hkey habsent]
      constructor
      · rintro hall ⟨-, -, hbase, hlost, hmem, hnot⟩
        rcases hall ⟨hbase, hlost, hmem⟩ with hin | ⟨-, hdone⟩
        · exact hnot hin
        · exact hdone rfl
      · rintro hforgets ⟨hbase, hlost, hmem⟩
        by_contra hnone
        exact hforgets ⟨hread, habsent, hbase, hlost, hmem, fun hin => hnone (.inl hin)⟩

/-- An event about a key that it schedules. -/
theorem DriftScheduled.of_scheduled (h : DriftScheduled m s)
    (hagree : ∀ l, l ≠ key → Agree s t l) (hpending : t.pending = key :: s.pending) :
    DriftScheduled m t := by
  refine (h.step_iff hagree (fun l _ hl => ?_)).mpr (fun _ => ?_)
  · rw [hpending]
    exact List.mem_cons_of_mem _ hl
  · rw [hpending]
    exact List.mem_cons_self

/-- An event that changes neither pools nor the schedule. -/
theorem DriftScheduled.of_agree (h : DriftScheduled m s) (hagree : ∀ l, Agree s t l)
    (hpending : ∀ l, l ∈ s.pending → l ∈ t.pending) : DriftScheduled m t :=
  driftScheduled_iff.mpr (fun l hl =>
    hpending l (driftScheduled_iff.mp h l ((hagree l).drifted hl)))

/-- What the remote simulator loses by a restart is scheduled. -/
theorem DriftScheduled.restartRemote (h : DriftScheduled m s) (hs : Watched s) :
    DriftScheduled m { s with sims := ⟨s.sims.localSim, newSimulator⟩ } := by
  refine driftScheduled_iff.mpr (fun l hl => ?_)
  by_cases hmem : l ∈ s.pools.keys
  · exact hs.scheduled l hmem
  · have hwanted : wanted s l = none := wanted_of_not_mem hmem
    refine driftScheduled_iff.mp h l (.inl ?_)
    rcases hl with hl | ⟨-, hl⟩
    · exact hl
    · exact absurd hwanted.symm hl

/-- After a restart of the operator, the pools that only the remote simulator has are
    forgotten. -/
theorem restartOperator_iff :
    DriftScheduled m { s with
        sims := ⟨newSimulator, s.sims.remoteSim⟩
        pending := s.pools.keys }
      ↔ ¬ Forgets m s .restartOperator := by
  have hnot : ∀ l, s.pools.lookup l = none ↔ l ∉ s.pools.keys :=
    fun l => AList.lookup_eq_none
  rw [driftScheduled_iff]
  constructor
  · rintro h ⟨hbase, l, hmem, habsent⟩
    have hwanted : wanted s l = none := wanted_of_not_mem ((hnot l).mp habsent)
    refine (hnot l).mp habsent (h l (.inr ⟨hbase, fun heq => ?_⟩))
    obtain ⟨nodes, hnodes⟩ := mem_keys_iff.mp hmem
    have hnone : s.sims.remoteSim.pools.lookup l = none := heq.trans hwanted
    rw [hnodes] at hnone
    cases hnone
  · intro hforgets l hl
    by_contra hmem
    have hwanted : wanted s l = none := wanted_of_not_mem hmem
    rcases hl with hl | ⟨hbase, hl⟩
    · exact hl hwanted.symm
    · refine hforgets ⟨hbase, l, ?_, (hnot l).mpr hmem⟩
      by_contra habsent
      exact hl ((AList.lookup_eq_none.mpr habsent).trans hwanted.symm)

/-- **ONE EVENT** keeps the drift scheduled exactly when it does not forget a pool. -/
theorem DriftScheduled.event_iff (h : DriftScheduled m s) (hs : Watched s)
    (hstep : step lib duration fl m s ev = some t) :
    DriftScheduled m t ↔ ¬ Forgets m s ev := by
  cases ev with
  | apply p =>
      obtain rfl := Option.some.inj hstep
      refine iff_of_true (h.of_scheduled (fun l hl => ⟨?_, rfl, rfl⟩) rfl) id
      exact congrArg _ (AList.lookup_insert_ne hl)
  | remove key =>
      obtain ⟨-, hstep⟩ := Option.ite_none_right_eq_some.mp hstep
      obtain rfl := Option.some.inj hstep
      refine iff_of_true (h.of_scheduled (fun l hl => ⟨?_, rfl, rfl⟩) rfl) id
      exact congrArg _ (AList.lookup_erase_ne hl)
  | reconcile key turn =>
      obtain ⟨hkey, hstep⟩ := Option.ite_none_right_eq_some.mp hstep
      obtain rfl := Option.some.inj hstep
      exact h.reconcile_iff (hs.named _ hkey) (reconciled (hs.named _ hkey))
  | merge key =>
      obtain ⟨hkey, hstep⟩ := Option.ite_none_right_eq_some.mp hstep
      obtain rfl := Option.some.inj hstep
      exact iff_of_true (h.of_agree (fun l => ⟨rfl, rfl, rfl⟩)
        (fun l hl => (mem_erase_of_twice hkey).mpr hl)) id
  | localCall op =>
      obtain ⟨hop, hstep⟩ := Option.ite_none_right_eq_some.mp hstep
      obtain ⟨sim, hsim, rfl⟩ := Option.map_eq_some_iff.mp hstep
      refine iff_of_true (h.of_agree (fun l => ⟨rfl, ?_, rfl⟩) (fun l hl => hl)) id
      exact congrArg _ (pools_of_step hop hsim)
  | remoteCall op =>
      obtain ⟨hop, hstep⟩ := Option.ite_none_right_eq_some.mp hstep
      obtain ⟨sim, hsim, rfl⟩ := Option.map_eq_some_iff.mp hstep
      refine iff_of_true (h.of_agree (fun l => ⟨rfl, rfl, ?_⟩) (fun l hl => hl)) id
      exact congrArg _ (pools_of_step hop hsim)
  | restartRemote =>
      obtain rfl := Option.some.inj hstep
      exact iff_of_true (h.restartRemote hs) id
  | restartOperator =>
      obtain rfl := Option.some.inj hstep
      exact restartOperator_iff

/-- A site without pools. -/
theorem watched_start : Watched start where
  scheduled _ hl := absurd hl List.not_mem_nil
  named _ hl := absurd hl List.not_mem_nil

theorem driftScheduled_start : DriftScheduled m start := by
  refine driftScheduled_iff.mpr (fun l hl => ?_)
  have hwanted : wanted start l = none := wanted_of_not_mem List.not_mem_nil
  rcases hl with hl | ⟨-, hl⟩
  · exact absurd hwanted.symm hl
  · exact absurd hwanted.symm hl

end

/-- **WHEN DRIFT IS CORRECTED**: after every event the keys about which a simulator is wrong
    are scheduled, exactly when no event forgets a pool. -/
theorem drift_scheduled_iff {m : MultiFleetRegistrar} {events : List Event} {t : Site}
    (hexec : exec (step lib duration fl m) start events = some t) :
    (∀ pre suf u, events = pre ++ suf → exec (step lib duration fl m) start pre = some u →
        DriftScheduled m u)
      ↔ Runs (step lib duration fl m) (fun s ev => ¬ Forgets m s ev) start events t :=
  every_state_iff_runs (fun _ _ _ hs hstep => hs.step hstep)
    (fun _ _ _ hs h hstep => h.event_iff hs hstep) hexec watched_start driftScheduled_start

/-- A pool of two devices. -/
def poolA : NodePool := ⟨⟨"ns", "a", 1, 2, 80, "h100_sxm", none, 0⟩, 0, 0, 0⟩

/-- The registrar of the operator. -/
def strictRegistrar : MultiFleetRegistrar := ⟨true, true⟩

/-- A turn in which all goes well, but for the request to the remote simulator. -/
def turnOf (d : Delivery) : Turn := ⟨⟨[], [], 0⟩, true, d, true⟩

/-- A pool is registered and deleted, and the remote simulator is away. -/
def deletedUnheard : List Event :=
  [.apply poolA, .reconcile "ns/a" (turnOf .delivered), .merge "ns/a", .remove "ns/a",
   .merge "ns/a", .reconcile "ns/a" (turnOf .requestLost)]

/-- The workers keep the deleted pool, and no reconcile is left. -/
theorem drift_scheduled_deleted :
    ∃ t, exec (step plainLib (fun _ _ _ => 0) exactFloat strictRegistrar) start deletedUnheard
        = some t
      ∧ t.pools.keys = [] ∧ t.sims.remoteSim.pools.keys = ["ns/a"] ∧ t.pending = []
      ∧ ¬ Runs (step plainLib (fun _ _ _ => 0) exactFloat strictRegistrar)
        (fun s ev => ¬ Forgets strictRegistrar s ev) start deletedUnheard t := by
  have hexec : (exec (step plainLib (fun _ _ _ => 0) exactFloat strictRegistrar) start
      deletedUnheard).map (fun t => (t.pools.keys, t.sims.remoteSim.pools.keys, t.pending))
      = some ([], ["ns/a"], []) := by decide +kernel
  obtain ⟨t, ht, hafter⟩ := Option.map_eq_some_iff.mp hexec
  obtain ⟨hpools, hafter⟩ := Prod.mk.inj hafter
  obtain ⟨hremote, hpending⟩ := Prod.mk.inj hafter
  refine ⟨t, ht, hpools, hremote, hpending, fun hruns => ?_⟩
  have hscheduled := (drift_scheduled_iff plainLib (fun _ _ _ => 0) exactFloat ht).mpr hruns
    deletedUnheard [] t (List.append_nil _).symm ht
  have hdrift : Drifted strictRegistrar t "ns/a" := by
    refine .inr ⟨rfl, fun heq => ?_⟩
    have hmem : "ns/a" ∈ t.sims.remoteSim.pools.keys := by
      rw [hremote]
      exact List.mem_singleton_self _
    have hwanted : wanted t "ns/a" = none := by
      refine wanted_of_not_mem ?_
      rw [hpools]
      exact List.not_mem_nil
    exact AList.lookup_eq_none.mp (heq.trans hwanted) (AList.mem_keys.mpr hmem)
  have hmem := driftScheduled_iff.mp hscheduled _ hdrift
  rw [hpending] at hmem
  cases hmem

/-! ## One round -/

/-- The simulators and the status are what the cluster says about a key. -/
structure Current (m : MultiFleetRegistrar) (s : Site) (key : String) : Prop where
  localPool : s.sims.localSim.pools.lookup key = wanted s key
  remotePool : m.remoteBase = true → s.sims.remoteSim.pools.lookup key = wanted s key
  status : ∀ p, s.pools.lookup key = some p →
    p.status = desiredStatus fl s.sims.localSim key

/-- The resource of the key, if there is one, can be built. -/
def Buildable (s : Site) (key : String) : Prop :=
  ∀ spec, specOf s key = some spec → ∃ nodes, buildNodesWithPoolKey spec key = .ok nodes

/-- A reconcile that fails nowhere. -/
def Turn.Heard (turn : Turn) : Prop :=
  turn.fetched = true ∧ turn.delivery = .delivered ∧ turn.written = true

instance (turn : Turn) : Decidable turn.Heard := inferInstanceAs (Decidable (_ ∧ _))

section
variable {lib duration fl} {m : MultiFleetRegistrar} {turn : Turn} {s t : Site}
  {key : String} {r : Result × Site}

/-- The status is read off the pool's nodes and the devices in use. -/
theorem desiredStatus_congr {a b : Simulator} (hpool : b.pools.lookup key = a.pools.lookup key)
    (hused : b.allocations = a.allocations) :
    desiredStatus fl b key = desiredStatus fl a key := by
  have husage : fleetUsageForPool b key = fleetUsageForPool a key := by
    rw [fleetUsageForPool, fleetUsageForPool, hpool, allocatedIDs, allocatedIDs, hused]
  rw [desiredStatus, desiredStatus, husage]

/-- A reconcile writes the status of no other pool. -/
theorem Reconciled.lookup_ne (h : Reconciled m turn key s r) {l : String} (hl : l ≠ key) :
    r.2.pools.lookup l = s.pools.lookup l := by
  cases h with
  | unread _ => rfl
  | deleted _ _ => rfl
  | refused p e _ _ => rfl
  | registered p nodes r t _ _ _ _ hstatus =>
      obtain ⟨hpools, -⟩ | ⟨status, hpools, -⟩ := hstatus
      · rw [hpools]
      · rw [hpools]
        exact AList.lookup_insert_ne hl

/-- A reconcile takes and frees no devices. -/
theorem Reconciled.allocations (h : Reconciled m turn key s r) :
    r.2.sims.localSim.allocations = s.sims.localSim.allocations := by
  cases h with
  | unread _ => rfl
  | deleted _ _ =>
      simp only [deletedSims, GpuSimulator.deleteFleet]
      split_ifs <;> rfl
  | refused p e _ _ => rfl
  | registered p nodes r t _ _ _ hsims _ =>
      rw [hsims]
      rfl

/-- A reconcile of another key does not matter. -/
theorem Reconciled.current_ne_iff (h : Reconciled m turn key s r) (hkey : key ≠ "") {l : String}
    (hl : l ≠ key) : Current fl m (requeue key r) l ↔ Current fl m s l := by
  obtain ⟨hspec, hlocal, hremote⟩ : Agree s (requeue key r) l := (h.agree hkey hl).requeue
  have hwanted : wanted (requeue key r) l = wanted s l := by rw [wanted, hspec, wanted]
  have hlookup : (requeue key r).pools.lookup l = s.pools.lookup l := by
    rw [pools_requeue]
    exact h.lookup_ne hl
  have hdesired : desiredStatus fl (requeue key r).sims.localSim l
      = desiredStatus fl s.sims.localSim l := by
    refine desiredStatus_congr hlocal ?_
    rw [sims_requeue]
    exact h.allocations
  constructor
  · intro hc
    refine ⟨?_, fun hbase => ?_, fun p hp => ?_⟩
    · rw [← hlocal, ← hwanted]
      exact hc.localPool
    · rw [← hremote, ← hwanted]
      exact hc.remotePool hbase
    · rw [← hdesired]
      exact hc.status p (hlookup.trans hp)
  · intro hc
    refine ⟨?_, fun hbase => ?_, fun p hp => ?_⟩
    · rw [hlocal, hwanted]
      exact hc.localPool
    · rw [hremote, hwanted]
      exact hc.remotePool hbase
    · rw [hdesired]
      exact hc.status p (hlookup.symm.trans hp)

theorem sims_updateStatus (turn : Turn) (key : String) (p : NodePool) (s : Site) :
    (updateStatus fl turn key p s).2.sims = s.sims := by
  rw [updateStatus]
  split_ifs <;> rfl

/-- After the write, or without a need for one, the status is the desired one. -/
theorem status_updateStatus {p q : NodePool} (hwritten : turn.written = true)
    (hp : s.pools.lookup key = some p)
    (hq : (updateStatus fl turn key p s).2.pools.lookup key = some q) :
    q.status = desiredStatus fl s.sims.localSim key := by
  rw [updateStatus, if_pos hwritten] at hq
  split_ifs at hq with hsame
  · have hpq : p = q := Option.some.inj (hp.symm.trans hq)
    rw [← hpq]
    exact hsame
  · have hpq : p.withStatus (desiredStatus fl s.sims.localSim key) = q :=
      Option.some.inj ((AList.lookup_insert _).symm.trans hq)
    rw [← hpq]
    rfl

/-- A deletion that is heard. -/
theorem current_absent (hkey : key ≠ "") (hheard : turn.Heard) (hp : s.pools.lookup key = none) :
    Current fl m (requeue key (reconcile lib duration fl m turn key s)) key := by
  have hreconcile : reconcile lib duration fl m turn key s
      = (.done, { s with sims := deletedSims m turn.delivery key s.sims }) := by
    rw [reconcile, if_pos hheard.1, hp]
    simp only [deleteFleet_eq hkey]
  have hgone : ∀ sim, (GpuSimulator.deleteFleet sim key).pools.lookup key = none :=
    fun sim => (lookup_deleteFleet sim hkey key).trans (if_pos rfl)
  have hwanted : wanted { s with sims := deletedSims m turn.delivery key s.sims } key = none :=
    wanted_of_not_mem (AList.lookup_eq_none.mp hp)
  rw [hreconcile, requeue_done]
  refine ⟨?_, fun hbase => ?_, fun p hp' => ?_⟩
  · rw [hwanted]
    exact hgone _
  · have hreach : Reaches m turn.delivery := ⟨hbase, by rw [hheard.2.1]; decide⟩
    rw [hwanted, deletedSims]
    simp only [if_pos hreach]
    exact hgone _
  · exact absurd (hp.symm.trans hp') (by simp)

/-- A registration that is heard. -/
theorem current_present {p : NodePool} {nodes : List Node} (hkey : key ≠ "")
    (hheard : turn.Heard) (hp : s.pools.lookup key = some p)
    (hnodes : buildNodesWithPoolKey p.pool.simSpec key = .ok nodes) :
    Current fl m (requeue key (reconcile lib duration fl m turn key s)) key := by
  obtain ⟨hread, hdelivered, hwritten⟩ := hheard
  have hreconcile : reconcile lib duration fl m turn key s
      = updateStatus fl turn key p
        { s with sims := registeredSims m turn.delivery key nodes s.sims } := by
    rw [reconcile, if_pos hread, hp]
    simp only [registerFleet_eq hkey hnodes]
    rw [if_neg (fun h => h.2.2 hdelivered)]
  have hwanted : wanted (requeue key (reconcile lib duration fl m turn key s)) key
      = some nodes := by
    rw [wanted, specOf_requeue, (reconciled hkey).specOf, specOf, hp]
    exact congrArg Except.toOption hnodes
  rw [hreconcile] at hwanted ⊢
  refine ⟨?_, fun hbase => ?_, fun q hq => ?_⟩
  · rw [hwanted, sims_requeue, sims_updateStatus]
    exact (lookup_withPool _ key nodes key).trans (if_pos rfl)
  · have hreach : Reaches m turn.delivery := ⟨hbase, by rw [hdelivered]; decide⟩
    rw [hwanted, sims_requeue, sims_updateStatus, registeredSims]
    simp only [if_pos hreach]
    exact (lookup_withPool _ key nodes key).trans (if_pos rfl)
  · rw [pools_requeue] at hq
    rw [sims_requeue, sims_updateStatus]
    exact status_updateStatus hwritten hp hq

/-- **A HEARD RECONCILE** makes its key current. -/
theorem current_reconcile (hkey : key ≠ "") (hheard : turn.Heard) (hbuild : Buildable s key) :
    Current fl m (requeue key (reconcile lib duration fl m turn key s)) key := by
  cases hp : s.pools.lookup key with
  | none => exact current_absent hkey hheard hp
  | some p =>
      obtain ⟨nodes, hnodes⟩ := hbuild _ (by rw [specOf, hp]; rfl)
      exact current_present hkey hheard hp hnodes

/-- Nothing is forgotten. -/
structure Tracked (m : MultiFleetRegistrar) (s : Site) : Prop where
  watched : Watched s
  drift : DriftScheduled m s

theorem Tracked.step {ev : Event} (h : Tracked m s) (hforgets : ¬ Forgets m s ev)
    (hstep : step lib duration fl m s ev = some t) : Tracked m t :=
  ⟨h.watched.step hstep, (h.drift.event_iff h.watched hstep).mpr hforgets⟩

/-- The reconciles of a round. -/
def round (turns : List (String × Turn)) : List Event :=
  turns.map (fun r => .reconcile r.1 r.2)

/-- **AFTER A ROUND** of heard reconciles a key is current exactly when it was, or when it was
    reconciled. -/
theorem current_round_iff {turns : List (String × Turn)} (hs : Watched s)
    (hexec : exec (step lib duration fl m) s (round turns) = some t)
    (hheard : ∀ r ∈ turns, r.2.Heard) (hbuild : Buildable s key) :
    Current fl m t key ↔ Current fl m s key ∨ key ∈ turns.map Prod.fst := by
  induction turns generalizing s with
  | nil =>
      obtain rfl := Option.some.inj hexec
      simp
  | cons r turns ih =>
      obtain ⟨u, hstep, hexec⟩ := Option.bind_eq_some_iff.mp hexec
      obtain ⟨hmem, hu⟩ := Option.ite_none_right_eq_some.mp hstep
      obtain rfl := Option.some.inj hu
      obtain ⟨hone, hrest⟩ := List.forall_mem_cons.mp hheard
      have hkey := hs.named _ hmem
      have hr : Reconciled m r.2 r.1 { s with pending := s.pending.erase r.1 }
          (reconcile lib duration fl m r.2 r.1 { s with pending := s.pending.erase r.1 }) :=
        reconciled hkey
      have hbuild' : Buildable (requeue r.1 (reconcile lib duration fl m r.2 r.1
          { s with pending := s.pending.erase r.1 })) key := by
        intro spec hspec
        rw [specOf_requeue, hr.specOf] at hspec
        exact hbuild spec hspec
      rw [ih (hs.step hstep) hexec hrest hbuild', List.map_cons, List.mem_cons, ← or_assoc]
      refine or_congr_left ?_
      by_cases heq : key = r.1
      · subst heq
        exact iff_of_true (current_reconcile hkey hone hbuild) (.inr rfl)
      · have hpending : Current fl m { s with pending := s.pending.erase r.1 } key
            ↔ Current fl m s key :=
          ⟨fun h => ⟨h.localPool, h.remotePool, h.status⟩,
            fun h => ⟨h.localPool, h.remotePool, h.status⟩⟩
        rw [hr.current_ne_iff hkey heq, hpending, or_iff_left heq]

end

/-- **ONE ROUND IS ENOUGH**: after any history that forgets no pool, a round of heard reconciles
    of the scheduled keys makes both simulators and the statuses what the cluster says. -/
theorem round_converges {m : MultiFleetRegistrar} {events : List Event} {s t : Site}
    {turns : List (String × Turn)}
    (hruns : Runs (step lib duration fl m) (fun s ev => ¬ Forgets m s ev) start events s)
    (hround : exec (step lib duration fl m) s (round turns) = some t)
    (hheard : ∀ r ∈ turns, r.2.Heard) (hall : ∀ key ∈ s.pending, key ∈ turns.map Prod.fst)
    (key : String) (hbuild : Buildable s key) : Current fl m t key := by
  obtain ⟨hwatched, hdrift⟩ : Tracked m s :=
    hruns.invariant (fun _ _ _ h hforgets hstep => h.step hforgets hstep)
      ⟨watched_start, driftScheduled_start⟩
  refine (current_round_iff hwatched hround hheard hbuild).mpr ?_
  by_cases hpending : key ∈ s.pending
  · exact .inr (hall key hpending)
  · -- a key that is not scheduled has no drift and no resource
    have hno : ¬ Drifted m s key := fun h => hpending (driftScheduled_iff.mp hdrift key h)
    obtain ⟨hlocal, hremote⟩ := not_or.mp hno
    refine .inl ⟨not_not.mp hlocal, fun hbase => not_not.mp (fun h => hremote ⟨hbase, h⟩),
      fun p hp => ?_⟩
    exact absurd (hwatched.scheduled key (mem_keys_iff.mpr ⟨p, hp⟩)) hpending

/-- A pool is created while the remote simulator is away, and the operator is restarted. -/
def createdUnheard : List Event :=
  [.apply poolA, .reconcile "ns/a" (turnOf .requestLost), .restartOperator,
   .reconcile "ns/a" (turnOf .requestLost)]

/-- One heard reconcile later the workers have the pool, and its status is written. -/
theorem round_converges_created :
    ∃ s t, Runs (step plainLib (fun _ _ _ => 0) exactFloat strictRegistrar)
        (fun s ev => ¬ Forgets strictRegistrar s ev) start createdUnheard s
      ∧ s.sims.remoteSim.pools.keys = []
      ∧ exec (step plainLib (fun _ _ _ => 0) exactFloat strictRegistrar) s
        (round [("ns/a", turnOf .delivered)]) = some t
      ∧ Current exactFloat strictRegistrar t "ns/a" := by
  have hexec : (exec (guarded (step plainLib (fun _ _ _ => 0) exactFloat strictRegistrar)
      (fun s ev => ¬ Forgets strictRegistrar s ev)) start createdUnheard).bind (fun s =>
        (exec (step plainLib (fun _ _ _ => 0) exactFloat strictRegistrar) s
          (round [("ns/a", turnOf .delivered)])).map (fun _ =>
            (s.sims.remoteSim.pools.keys, s.pending, specOf s "ns/a")))
      = some ([], ["ns/a"], some ⟨1, 2, 80, "", "h100_sxm"⟩) := by decide +kernel
  obtain ⟨s, hs, hexec⟩ := Option.bind_eq_some_iff.mp hexec
  obtain ⟨t, ht, hafter⟩ := Option.map_eq_some_iff.mp hexec
  obtain ⟨hremote, hafter⟩ := Prod.mk.inj hafter
  obtain ⟨hpending, hspec⟩ := Prod.mk.inj hafter
  have hruns := Runs.of_exec_guarded hs
  refine ⟨s, t, hruns, hremote, ht, ?_⟩
  refine round_converges plainLib (fun _ _ _ => 0) exactFloat hruns ht ?_ ?_ "ns/a" ?_
  · exact List.forall_mem_singleton.mpr ⟨rfl, rfl, rfl⟩
  · rw [hpending]
    exact fun key hkey => hkey
  · intro spec hsome
    obtain rfl := Option.some.inj (hspec.symm.trans hsome)
    exact ⟨_, rfl⟩

end GpuRegistrar
