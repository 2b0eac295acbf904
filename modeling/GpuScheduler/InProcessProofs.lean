import GpuScheduler.ErrorTextProofs
import GpuScheduler.MirrorProofs
import GpuScheduler.RealiseProofs

/-! # The scheduler, the reconciler and the simulator in one process

    In in-process mode the reconciler itself allocates and starts what the scheduler has
    admitted, polls the run, and releases it.  Timing is as good as it can be: every write
    to the API comes back to the scheduler's state at once, and after every change of the
    allocations the pool statuses, and the fleets made of them, are up to date.

    A cycle only writes `Scheduled`; the devices are taken later, by the reconcile of the
    workload. -/

namespace GpuInProcess

open GoStrings GoMaps GoFmt GpuInputs GpuCompat GpuSelection GpuCycle GpuWorkload
  GpuSchedulerState GpuCluster GpuPlacement GpuSimulator GpuFleet GpuRealise GpuMirror
  GpuErrorText

/-- The pools of a cluster: keyed `namespace/name`, each key once, each buildable. -/
structure Fleet where
  pools : List GPUNodePool
  qualified : ∀ p ∈ pools, Qualified p.poolKey
  distinct : (pools.map GPUNodePool.poolKey).Nodup
  buildable : ∀ p ∈ pools, ∃ nodes, buildNodesWithPoolKey p.simSpec p.poolKey = .ok nodes

/-- The cluster, as the scheduler sees it, and the simulator. -/
structure Plant where
  cluster : Cluster
  sim : Simulator

/-! ## Events at once -/

/-- The pools of a namespace, with their statuses up to date. -/
def Fleet.statuses (f : Fleet) (s : Simulator) (ns : String) : List GPUNodePool :=
  (f.pools.filter (fun p => p.ns = ns)).map
    (fun p => { p with availableDevices := desiredAvailable s p.poolKey })

/-- The pool events of some namespaces. -/
def Fleet.deliver (f : Fleet) (s : Simulator) (namespaces : List String)
    (st : SchedulerState) : SchedulerState :=
  namespaces.foldl (fun st ns => (handlePoolEvent st ns (some (f.statuses s ns))).1) st

/-- The pool controller has written the statuses, and their events are delivered. -/
def Plant.publish (f : Fleet) (p : Plant) : Plant :=
  { p with cluster :=
    { p.cluster with
      mem := f.deliver p.sim (f.pools.map GPUNodePool.ns) p.cluster.mem
      trigger := true } }

/-- Deliver the pending write, if there is one. -/
def settle (now : Int) (c : Cluster) : Cluster := (c.deliver 0 now).getD c

/-- Write a version of an object; its event is delivered. -/
def Plant.update (p : Plant) (w : GPUWorkload) (now : Int) : Plant :=
  { p with cluster := settle now (p.cluster.put w) }

/-- The state after registering all pools, with nothing allocated. -/
def Fleet.register (f : Fleet) : Simulator :=
  f.pools.foldl (fun s p => afterUnit s (registerFleet s p.poolKey p.simSpec)) newSimulator

/-- No workloads yet. -/
def start (f : Fleet) : Plant :=
  Plant.publish f ⟨⟨∅, [], ∅, newSchedulerState, false⟩, f.register⟩

/-! ## The reconciler -/

/-- `annotationCompletionCounted`. -/
def annotationCompletionCounted : String := "scheduler.ishanchopra.dev/completion-counted"

/-- The annotation of a counted completion. -/
def withCompletionCounted (w : GPUWorkload) : GPUWorkload :=
  { w with annotations := w.annotations.insert annotationCompletionCounted "true" }

/-- `isTerminalPhase`. -/
def isTerminalPhase : Phase → Bool
  | .succeeded | .failed | .preempted => true
  | _ => false

/-- `Release` of a workload's devices; an error is logged and ignored. -/
def Plant.releaseDevices (f : Fleet) (p : Plant) (workloadID : String) : Plant :=
  Plant.publish f { p with sim := afterUnit p.sim (release p.sim workloadID) }

/-- `buildRuntimeInput`; the sections for the single kinds come with `sections`. -/
def buildRuntimeInput (sections : RuntimeInput) (w : GPUWorkload) : RuntimeInput :=
  { sections with
    workloadID := w.id
    tokens := w.spec.tokens
    profile := normalizeProfileName w.spec.profile
    kind := w.spec.kind }

/-- What a reconcile meets: the orders of the simulator's maps, the clock, and the runtime
    sections of the specification. -/
structure Context where
  pools : List String
  runs : List String
  now : Int
  sections : RuntimeInput

/-- The allocation of `executeAdmission`: one that exists already is fine.  The code goes by the
    text of the error; for the names that the API server allows that is the same
    (`GpuExecuteAdmission.allocateAdmitted_eq`). -/
def allocateAdmitted (x : Context) (w : GPUWorkload) (s : Simulator) :
    Except SimError Simulator :=
  match allocateWithOptions s x.pools w.id w.spec.gpuCount w.spec.gpuMemoryMiB
      ⟨.firstFit, false, 0, "", normalizeProfileName w.spec.profile⟩ with
  | .ok (_, s') => .ok s'
  | .error (.alreadyAllocated _) => .ok s
  | .error e => .error e

/-- The start of `executeAdmission`: a run that exists already is fine. -/
def startAdmitted (v : Verbs) (est : Estimator) (x : Context) (w : GPUWorkload) (s : Simulator) :
    Except SimError Simulator :=
  match startWithRuntimeInput est s x.runs x.now (buildRuntimeInput x.sections w) with
  | .ok (_, s') => .ok s'
  | .error e => if isAlreadyRunningErr v e then .ok s else .error e

/-- `executeAdmission` of a `Scheduled` workload.  When the start fails, the allocation
    stays. -/
def executeAdmission (v : Verbs) (est : Estimator) (f : Fleet) (x : Context) (w : GPUWorkload)
    (p : Plant) : Plant :=
  match allocateAdmitted x w p.sim with
  | .error _ => p
  | .ok s =>
    let p := Plant.publish f { p with sim := s }
    match startAdmitted v est x w s with
    | .error _ => p
    | .ok s => Plant.update { p with sim := s } { w with phase := .running } x.now

/-- The end of a run: the phase, and the devices. -/
def finish (f : Fleet) (x : Context) (w : GPUWorkload) (phase : Phase) (p : Plant) : Plant :=
  Plant.releaseDevices f (p.update { w with phase := phase } x.now) w.id

/-- `pollRunningStatus`: a run that is not found is polled again.  The annotation that it sets
    is lost: a status update persists the status only. -/
def pollRunningStatus (f : Fleet) (x : Context) (w : GPUWorkload) (p : Plant) : Plant :=
  match getLatestRunStatusForWorkload p.sim x.runs x.now w.id with
  | .error _ => p
  | .ok (status, s) =>
    let p := { p with sim := s }
    match status with
    | .running => p
    | .succeeded => finish f x w .succeeded p
    | .failed => finish f x w .failed p
    | .preempted => finish f x w .preempted p

/-- `Reconcile` in in-process mode, of an object that has its finalizer: the turn that adds it
    writes metadata only, and `GpuLiveRun.reconcile` has it. -/
def reconcile (v : Verbs) (est : Estimator) (f : Fleet) (x : Context) (k : Key) (p : Plant) :
    Plant :=
  match p.cluster.api.lookup k with
  | none => p
  | some w =>
    if w.deletionTimestamp ≠ none then
      let p := Plant.releaseDevices f p w.id
      { p with cluster := settle x.now (p.cluster.remove w) }
    else if isTerminalPhase w.phase then
      let p := if w.phase = .succeeded
          ∧ w.annotations.lookup annotationCompletionCounted ≠ some "true"
        then p.update (withCompletionCounted w) x.now else p
      Plant.releaseDevices f p w.id
    else match w.phase with
    | .unset => p.update { w with phase := .queued, queuedAt := some x.now } x.now
    | .scheduled => executeAdmission v est f x w p
    | .running => pollRunningStatus f x w p
    | _ => p

/-! ## Steps -/

/-- The calls of a cycle; `runs` are the orders in which `Preempt` visits the runs. -/
def calls (f : Fleet) (order : MapOrder) (faults : Faults) (runs : String → List String)
    (now : Int) : CycleCalls Plant where
  snapshotForNamespace p ns := p.cluster.mem.snapshotForNamespace order ns
  markPreempted ns name p :=
    let r := GpuCluster.markPreempted faults ns name p.cluster
    ({ p with cluster := settle now r.1 }, r.2)
  preempt id p :=
    match preempt p.sim (runs id) id with
    | .error _ => (p, false)
    | .ok s => ({ p with sim := s }, true)
  release id p :=
    match release p.sim id with
    | .error _ => (p, false)
    | .ok s => (Plant.publish f { p with sim := s }, true)
  patchAdmitted ns name _ _ p :=
    let r := GpuCluster.patchAdmitted faults ns name p.cluster
    ({ p with cluster := settle now r.1 }, r.2)

/-- One step: an arrival, a reconcile (which also ends runs), or a scheduling cycle. -/
inductive Label where
  | create (w : GPUWorkload) (now : Int)
  | reconcile (x : Context) (k : Key)
  | cycle (order : MapOrder) (faults : Faults) (runs : String → List String) (clock : Int)
      (now : String → Int) (namespaces : List String)

/-- The steps.  Map orders list the keys, each once, and the clock is set. -/
def step (v : Verbs) (est : Estimator) (f : Fleet) (maxAdmissionsPerCycle : Int) (p : Plant) :
    Label → Option Plant
  | .create w now =>
      if accepted w ∧ p.cluster.api.lookup (key w) = none ∧ w.phase = .unset
          ∧ w.queuedAt = none ∧ w.deletionTimestamp = none then some (p.update w now)
      else none
  | .reconcile x k =>
      if x.pools.Perm p.sim.pools.keys ∧ x.runs.Perm p.sim.runs.keys ∧ x.now ≠ 0 then
        some (reconcile v est f x k p)
      else none
  | .cycle order faults runs clock now namespaces =>
      if p.cluster.trigger ∧ namespaces.Perm p.cluster.mem.namespacesWithQueueAndFleet
          ∧ ∀ ns ∈ namespaces, now ns ≠ 0 then
        some (runSchedulingCycle (calls f order faults runs clock) maxAdmissionsPerCycle now
          namespaces { p with cluster := { p.cluster with trigger := false } })
      else none

/-! ## What holds in between -/

/-- Every specification. -/
def Anything : SpecProp := fun _ _ => True

/-- The allocation is what the workload asks for. -/
def Serves (s : Simulator) (w : GPUWorkload) (a : Allocation) : Prop :=
  (a.deviceIDs.length : Int) = w.spec.gpuCount
    ∧ ∀ x ∈ a.deviceIDs, ∃ d, Registered s d ∧ d.id = x
      ∧ d.profile = normalizeProfileName w.spec.profile

/-- The namespace of the workload has a pool of its profile. -/
def Sited (f : Fleet) (w : GPUWorkload) : Prop :=
  normalizeProfileName w.spec.profile ≠ ""
    ∧ ∃ q ∈ f.pools, q.ns = w.ns
      ∧ normalizeProfileName q.profile = normalizeProfileName w.spec.profile

/-- The objects and the allocations agree, whatever the cycles have admitted. -/
structure Agrees (f : Fleet) (api : GoMap Key GPUWorkload) (s : Simulator) : Prop where
  named : ∀ k w, api.lookup k = some w → key w = k ∧ accepted w
  sound : Sound s
  pools : ∀ key nodes, s.pools.lookup key = some nodes →
    ∃ q ∈ f.pools, q.poolKey = key ∧ buildNodesWithPoolKey q.simSpec key = .ok nodes
  registered : ∀ q ∈ f.pools, ∃ nodes, s.pools.lookup q.poolKey = some nodes
    ∧ buildNodesWithPoolKey q.simSpec q.poolKey = .ok nodes
  exist : AllocationsExist s
  owned : ∀ id a, s.allocations.lookup id = some a →
    ∃ w, api.lookup (key w) = some w ∧ w.id = id
  serves : ∀ k w a, api.lookup k = some w → s.allocations.lookup w.id = some a → Serves s w a
  running : ∀ k w, api.lookup k = some w → w.phase = .running →
    (s.allocations.lookup w.id).isSome
  sited : ∀ k w, api.lookup k = some w → live w = true → Sited f w

/-- **THE BASE INVARIANT**: the scheduler's state is the image of the API and of the
    simulator, and the objects agree with the allocations. -/
structure Base (f : Fleet) (p : Plant) : Prop where
  mirrored : Mirrored Anything p.cluster
  delivered : p.cluster.pending = []
  kept : ∀ k w, p.cluster.api.lookup k = some w → w.deletionTimestamp = none
  fleet : ∀ ns g, p.cluster.mem.fleet.lookup ns = some g →
    g = aggregateFleetFromPools (f.statuses p.sim ns)
  agrees : Agrees f p.cluster.api p.sim

section
variable {f : Fleet} {p : Plant} {s : Simulator} {w : GPUWorkload} {now : Int}

/-- With every event delivered, the store has the versions of the API. -/
theorem Base.lookup_store (h : Base f p) (k : Key) :
    p.cluster.store.lookup k = p.cluster.api.lookup k := by
  have hlag := h.mirrored.lag k
  rw [pendingOf, h.delivered] at hlag
  exact hlag.eq_of_nil

/-- Pool events leave every slot alone. -/
theorem slotAt_deliver (f : Fleet) (s : Simulator) (nss : List String) (st : SchedulerState)
    (ns id : String) : (f.deliver s nss st).slotAt ns id = st.slotAt ns id := by
  induction nss generalizing st with
  | nil => rfl
  | cons n rest ih =>
      rw [Fleet.deliver, List.foldl_cons, ← Fleet.deliver, ih]
      exact slotAt_handlePoolEvent st _

/-- The fleets after one pool event. -/
theorem fleet_handlePoolEvent {st : SchedulerState} {n ns : String} {listed : List GPUNodePool}
    {g : FleetFreeCapacity}
    (h : (handlePoolEvent st n (some listed)).1.fleet.lookup ns = some g) :
    ns = n ∧ g = aggregateFleetFromPools listed ∨ ns ≠ n ∧ st.fleet.lookup ns = some g := by
  cases listed with
  | nil =>
      have herase : (st.fleet.erase n).lookup ns = some g := h
      exact Or.inr (lookup_erase_eq_some.mp herase)
  | cons q qs =>
      have hinsert : (st.fleet.insert n (aggregateFleetFromPools (q :: qs))).lookup ns
          = some g := h
      exact lookup_insert_eq_some.mp hinsert

/-- The fleets after the pool events of some namespaces. -/
theorem fleet_deliver (f : Fleet) (s : Simulator) (nss : List String) {st : SchedulerState}
    {ns : String} {g : FleetFreeCapacity}
    (h : (f.deliver s nss st).fleet.lookup ns = some g) :
    g = aggregateFleetFromPools (f.statuses s ns)
      ∨ ns ∉ nss ∧ st.fleet.lookup ns = some g := by
  induction nss generalizing st with
  | nil => exact Or.inr ⟨List.not_mem_nil, h⟩
  | cons n rest ih =>
      rw [Fleet.deliver, List.foldl_cons, ← Fleet.deliver] at h
      rcases ih h with hg | ⟨hnot, hst⟩
      · exact Or.inl hg
      · rcases fleet_handlePoolEvent hst with ⟨rfl, hg⟩ | ⟨hn, hst⟩
        · exact Or.inl hg
        · exact Or.inr ⟨fun hmem => (List.mem_cons.mp hmem).elim hn hnot, hst⟩

/-- A namespace without pools has no statuses. -/
theorem statuses_eq_nil {ns : String} (h : ns ∉ f.pools.map GPUNodePool.ns) (s : Simulator) :
    f.statuses s ns = [] := by
  rw [Fleet.statuses, List.map_eq_nil_iff, List.filter_eq_nil_iff]
  intro q hq hns
  exact h (List.mem_map.mpr ⟨q, hq, of_decide_eq_true hns⟩)

/-- A change of the simulator, published, keeps the base invariant if it keeps the
    agreement. -/
theorem Base.publish (h : Base f p) (hs : Agrees f p.cluster.api s) :
    Base f (Plant.publish f { p with sim := s }) := by
  refine ⟨h.mirrored.frame true (fun ns id => slotAt_deliver f s _ _ ns id), h.delivered, h.kept,
    fun ns g hg => ?_, hs⟩
  rcases fleet_deliver f s _ hg with hg | ⟨hnot, hst⟩
  · exact hg
  · rw [h.fleet ns g hst]
    show _ = aggregateFleetFromPools (f.statuses s ns)
    rw [statuses_eq_nil hnot, statuses_eq_nil hnot]

/-- The statuses read the pools and the allocations only. -/
theorem statuses_congr {s' : Simulator} (hp : s'.pools = s.pools)
    (ha : s'.allocations = s.allocations) (ns : String) : f.statuses s' ns = f.statuses s ns := by
  have hids : allocatedIDs s' = allocatedIDs s := by rw [allocatedIDs, allocatedIDs, ha]
  have husage : ∀ key, fleetUsageForPool s' key = fleetUsageForPool s key := by
    intro key
    rw [fleetUsageForPool, fleetUsageForPool, hp, hids]
  rw [Fleet.statuses, Fleet.statuses]
  simp only [desiredAvailable, husage]

theorem registered_congr {s' : Simulator} (hp : s'.pools = s.pools) (d : Device) :
    Registered s' d ↔ Registered s d := by
  rw [Registered, Registered, hp]

theorem serves_congr {s' : Simulator} (hp : s'.pools = s.pools) {a : Allocation}
    (h : Serves s w a) : Serves s' w a :=
  ⟨h.1, fun x hx => by
    obtain ⟨d, hd, hid, hprof⟩ := h.2 x hx
    exact ⟨d, (registered_congr hp d).mpr hd, hid, hprof⟩⟩

/-- Agreement reads the pools and the allocations only. -/
theorem Agrees.of_same {api : GoMap Key GPUWorkload} {s' : Simulator} (h : Agrees f api s)
    (hp : s'.pools = s.pools) (ha : s'.allocations = s.allocations) : Agrees f api s' := by
  refine ⟨h.named, h.sound.of_same hp ha, by rw [hp]; exact h.pools,
    by rw [hp]; exact h.registered, ?_, by rw [ha]; exact h.owned, fun k w a hw hl => ?_,
    by rw [ha]; exact h.running, h.sited⟩
  · rw [AllocationsExist, allocatedIDs, ha, hp]
    exact h.exist
  · rw [ha] at hl
    exact serves_congr hp (h.serves k w a hw hl)

/-- A change of the runs alone needs no publishing. -/
theorem Base.setRuns (h : Base f p) (hp : s.pools = p.sim.pools)
    (ha : s.allocations = p.sim.allocations) : Base f { p with sim := s } := by
  refine ⟨h.mirrored, h.delivered, h.kept, fun ns g hg => ?_, h.agrees.of_same hp ha⟩
  rw [h.fleet ns g hg]
  exact congrArg _ (statuses_congr hp ha ns).symm

end

/-! ## Writes -/

/-- The ID of an accepted resource determines its key. -/
theorem key_eq_of_id {w w' : GPUWorkload} (hw : accepted w) (hw' : accepted w')
    (h : w.id = w'.id) : key w = key w' := by
  have hk := workloadKey_of_accepted hw
  rw [h, workloadKey_of_accepted hw'] at hk
  have hns := (Prod.mk.inj (Option.some.inj hk)).1
  exact Prod.ext hns.symm h

section
variable {f : Fleet} {p : Plant} {s : Simulator} {w old : GPUWorkload} {now : Int}
  {api : GoMap Key GPUWorkload}

/-- A status update keeps the agreement: a running version needs its devices, a live one
    its site. -/
theorem Agrees.insert (h : Agrees f api s) (hold : api.lookup (key w) = some old)
    (hsame : w.ns = old.ns ∧ w.name = old.name ∧ w.spec = old.spec)
    (hrun : w.phase = .running → (s.allocations.lookup w.id).isSome)
    (hsited : live w = true → Sited f w) : Agrees f (api.insert (key w) w) s := by
  obtain ⟨hns, hname, hspec⟩ := hsame
  have hid : w.id = old.id := by rw [GPUWorkload.id, GPUWorkload.id, hns, hname]
  have hacc : accepted w := by
    rw [accepted, hns, hname, hspec]
    exact (h.named _ old hold).2
  -- a property of the new version and of all old ones is one of all versions
  have hall : ∀ {Q : Key → GPUWorkload → Prop}, Q (key w) w →
      (∀ k v, api.lookup k = some v → Q k v) →
      ∀ k v, (api.insert (key w) w).lookup k = some v → Q k v := by
    intro Q hw hrest k v hv
    rcases lookup_insert_eq_some.mp hv with ⟨rfl, rfl⟩ | ⟨-, hv⟩
    · exact hw
    · exact hrest k v hv
  refine ⟨hall ⟨rfl, hacc⟩ h.named, h.sound, h.pools, h.registered, h.exist,
    fun id a ha => ?_, fun k v a hv ha => ?_, hall hrun h.running, hall hsited h.sited⟩
  · obtain ⟨v, hv, hvid⟩ := h.owned id a ha
    by_cases hk : key v = key w
    · exact ⟨w, AList.lookup_insert _, by rw [← hvid]; exact (Prod.mk.inj hk).2.symm⟩
    · exact ⟨v, by rw [AList.lookup_insert_ne hk]; exact hv, hvid⟩
  · refine hall (Q := fun _ v => ∀ a, s.allocations.lookup v.id = some a → Serves s v a) ?_
      (fun k v hv a ha => h.serves k v a hv ha) k v hv a ha
    intro a ha
    rw [hid] at ha
    have hserves := h.serves _ old a hold ha
    rw [Serves, hspec]
    exact hserves

/-- An arrival keeps the agreement: it has no devices. -/
theorem Agrees.create (h : Agrees f api s) (hnone : api.lookup (key w) = none)
    (hacc : accepted w) (hphase : w.phase = .unset) : Agrees f (api.insert (key w) w) s := by
  have hfree : s.allocations.lookup w.id = none := by
    cases ha : s.allocations.lookup w.id with
    | none => rfl
    | some a =>
        obtain ⟨v, hv, hid⟩ := h.owned w.id a ha
        rw [key_eq_of_id (h.named _ v hv).2 hacc hid, hnone] at hv
        cases hv
  refine ⟨fun k v hv => ?_, h.sound, h.pools, h.registered, h.exist, fun id a ha => ?_,
    fun k v a hv ha => ?_, fun k v hv hp => ?_, fun k v hv hl => ?_⟩
  · rcases lookup_insert_eq_some.mp hv with ⟨rfl, rfl⟩ | ⟨-, hv⟩
    · exact ⟨rfl, hacc⟩
    · exact h.named k v hv
  · obtain ⟨v, hv, hid⟩ := h.owned id a ha
    have hk : key v ≠ key w := by
      intro hk
      rw [hk, hnone] at hv
      cases hv
    exact ⟨v, by rw [AList.lookup_insert_ne hk]; exact hv, hid⟩
  · rcases lookup_insert_eq_some.mp hv with ⟨-, rfl⟩ | ⟨-, hv⟩
    · rw [hfree] at ha
      cases ha
    · exact h.serves k v a hv ha
  · rcases lookup_insert_eq_some.mp hv with ⟨-, rfl⟩ | ⟨-, hv⟩
    · cases hphase.symm.trans hp
    · exact h.running k v hv hp
  · rcases lookup_insert_eq_some.mp hv with ⟨-, rfl⟩ | ⟨-, hv⟩
    · simp [live, hphase] at hl
    · exact h.sited k v hv hl

/-- A release keeps the agreement unless the workload is running. -/
theorem Agrees.release (h : Agrees f api s) {id : String} {t : Simulator}
    (hrel : release s id = .ok t)
    (hnot : ∀ k w, api.lookup k = some w → w.id = id → w.phase ≠ .running) :
    Agrees f api t := by
  have ht : t = { s with allocations := s.allocations.erase id } := release_ok hrel
  have hsound := h.sound.release hrel
  subst ht
  have hlook : ∀ {id' a}, (s.allocations.erase id).lookup id' = some a →
      s.allocations.lookup id' = some a := by
    intro id' a ha
    exact (lookup_erase_eq_some.mp ha).2
  have hsub : ((s.allocations.erase id).entries).Sublist s.allocations.entries :=
    List.kerase_sublist _ _
  refine ⟨h.named, hsound, h.pools, h.registered,
    fun x hx => h.exist x ((hsub.flatMap _).subset hx), fun id' a ha => h.owned id' a (hlook ha),
    fun k w a hw ha => h.serves k w a hw (hlook ha), fun k w hw hp => ?_, h.sited⟩
  rw [AList.lookup_erase_ne (fun hid => hnot k w hw hid hp)]
  exact h.running k w hw hp

/-- An allocation for an object keeps the agreement: its devices are of the profile the
    object names. -/
theorem Agrees.allocate (h : Agrees f api s) {order : List String}
    (horder : order.Perm s.pools.keys) (hw : api.lookup (key w) = some w)
    (hprofile : normalizeProfileName w.spec.profile ≠ "") {a : Allocation} {t : Simulator}
    (halloc : allocateWithOptions s order w.id w.spec.gpuCount w.spec.gpuMemoryMiB
      ⟨.firstFit, false, 0, "", normalizeProfileName w.spec.profile⟩ = .ok (a, t)) :
    Agrees f api t := by
  have hsound := h.sound.allocate horder halloc
  obtain ⟨hfresh, -, -, hlen, hsub, rfl⟩ := allocateWithOptions_ok halloc
  have hdev : ∀ x ∈ a.deviceIDs, ∃ d, Registered s d ∧ d.id = x
      ∧ d.profile = normalizeProfileName w.spec.profile := by
    intro x hx
    obtain ⟨d, hd, rfl⟩ := List.mem_map.mp (hsub.subset hx)
    obtain ⟨hd, hel⟩ := List.mem_filter.mp hd
    obtain ⟨key, -, hregistered⟩ := mem_devicesOf_allNodes.mp hd
    refine ⟨d, ⟨key, hregistered⟩, rfl, ?_⟩
    by_contra hne
    rw [eligible] at hel
    split_ifs at hel with h1 h2 h3 h4
    exact h4 ⟨hprofile, hne⟩
  refine ⟨h.named, hsound, h.pools, h.registered, fun x hx => ?_, fun id b hb => ?_,
    fun k v b hv hb => ?_, fun k v hv hp => ?_, h.sited⟩
  · obtain ⟨id, hid⟩ := mem_allocatedIDs.mp hx
    cases hb : (s.allocations.insert w.id a).lookup id with
    | none =>
        rw [heldBy, hb] at hid
        cases hid
    | some b =>
        rw [heldBy_of_lookup hb] at hid
        rcases lookup_insert_eq_some.mp hb with ⟨-, rfl⟩ | ⟨-, hb⟩
        · obtain ⟨d, ⟨key, nodes, hl, hd⟩, rfl, -⟩ := hdev x hid
          exact ⟨key, nodes, hl, List.mem_map.mpr ⟨d, hd, rfl⟩⟩
        · refine h.exist x (mem_allocatedIDs.mpr ⟨id, ?_⟩)
          rw [heldBy_of_lookup hb]
          exact hid
  · rcases lookup_insert_eq_some.mp hb with ⟨rfl, -⟩ | ⟨-, hb⟩
    · exact ⟨w, hw, rfl⟩
    · exact h.owned id b hb
  · rcases lookup_insert_eq_some.mp hb with ⟨hid, rfl⟩ | ⟨-, hb⟩
    · obtain ⟨hkey, hacc⟩ := h.named k v hv
      rw [← hkey, key_eq_of_id hacc (h.named _ w hw).2 hid, hw] at hv
      rw [← Option.some.inj hv]
      exact ⟨hlen, hdev⟩
    · exact h.serves k v b hv hb
  · show ((s.allocations.insert w.id a).lookup v.id).isSome
    by_cases hid : v.id = w.id
    · rw [hid, AList.lookup_insert]
      rfl
    · rw [AList.lookup_insert_ne hid]
      exact h.running k v hv hp

end

/-! ## The steps of the reconciler -/

/-- A `Scheduled` or `Running` object of a namespace and a profile. -/
def liveOn (ns profile : String) (w : GPUWorkload) : Bool :=
  w.ns = ns && normalizeProfileName w.spec.profile = profile && live w

/-- The GPUs that `Scheduled` and `Running` workloads ask for on a profile. -/
def demand (api : GoMap Key GPUWorkload) (ns profile : String) : Int :=
  total (liveOn ns profile) api

/-- The base invariant holds afterwards, and no demand has grown. -/
structure Eases (f : Fleet) (p p' : Plant) : Prop where
  base : Base f p'
  demand : ∀ ns profile, demand p'.cluster.api ns profile ≤ demand p.cluster.api ns profile

section
variable {f : Fleet} {p p' p'' : Plant} {s : Simulator} {w old : GPUWorkload} {now : Int}

theorem Eases.trans (h : Eases f p p') (h' : Eases f p' p'') : Eases f p p'' :=
  ⟨h'.base, fun ns profile => le_trans (h'.demand ns profile) (h.demand ns profile)⟩

theorem Base.eases (h : Base f p) : Eases f p p := ⟨h, fun _ _ => le_refl _⟩

theorem Base.eases_publish (h : Base f p) (hs : Agrees f p.cluster.api s) :
    Eases f p (Plant.publish f { p with sim := s }) :=
  ⟨h.publish hs, fun _ _ => le_refl _⟩

/-- A write, once its event is delivered. -/
theorem settle_put {c : Cluster} (h : c.pending = []) (w : GPUWorkload) (now : Int) :
    settle now (c.put w) =
      { api := c.api.insert (key w) w
        pending := []
        store := c.store.insert (key w) w
        mem := (react (c.put w) ⟨w, false⟩ now).1
        trigger := c.trigger || (react (c.put w) ⟨w, false⟩ now).2 } := by
  have hpending : (c.put w).pending = [⟨w, false⟩] := by
    rw [Cluster.put, h]
    rfl
  rw [settle, Cluster.deliver, hpending]
  rfl

theorem settle_of_nil {c : Cluster} (h : c.pending = []) (now : Int) : settle now c = c := by
  rw [settle, Cluster.deliver, h]
  rfl

/-- The delivery of a write keeps the mirror. -/
theorem mirrored_settle {c : Cluster} (h : Mirrored Anything c) (now : Int) :
    Mirrored Anything (settle now c) := by
  rw [settle]
  cases hc : c.deliver 0 now with
  | none => exact h
  | some c' => exact h.deliver hc

/-- A write keeps the base invariant if it keeps the mirror and the agreement. -/
theorem Base.put (h : Base f p) (hm : Mirrored Anything (p.cluster.put w))
    (hd : w.deletionTimestamp = none)
    (hs : Agrees f (p.cluster.api.insert (key w) w) p.sim) : Base f (p.update w now) := by
  have hc := settle_put h.delivered w now
  have hmirrored := mirrored_settle hm now
  rw [hc] at hmirrored
  rw [Plant.update, hc]
  refine ⟨hmirrored, rfl, fun k v hv => ?_, fun ns g hg => ?_, hs⟩
  · have hv' : (p.cluster.api.insert (key w) w).lookup k = some v := hv
    rcases lookup_insert_eq_some.mp hv' with ⟨-, rfl⟩ | ⟨-, hv'⟩
    · exact hd
    · exact h.kept k v hv'
  · have hfleet := (react_frame (p.cluster.put w) ⟨w, false⟩ now).1
    have hg' : (react (p.cluster.put w) ⟨w, false⟩ now).1.fleet.lookup ns = some g := hg
    rw [hfleet] at hg'
    exact h.fleet ns g hg'

/-- What a status update of a known object has to respect. -/
structure Advances (f : Fleet) (p : Plant) (old w : GPUWorkload) : Prop where
  known : p.cluster.api.lookup (key w) = some old
  same : w.ns = old.ns ∧ w.name = old.name ∧ w.spec = old.spec
  phase : phaseRank old.phase ≤ phaseRank w.phase
  dated : Dated w
  kept : w.deletionTimestamp = none
  running : w.phase = .running → (p.sim.allocations.lookup w.id).isSome
  sited : live w = true → Sited f w

/-- A status update that respects the life of the object keeps the base invariant. -/
theorem Base.update (h : Base f p) (ha : Advances f p old w) (now : Int) :
    Base f (p.update w now) := by
  obtain ⟨hns, hname, hspec⟩ := ha.same
  have hgood : Good Anything w := by
    refine ⟨?_, ha.dated, trivial⟩
    rw [accepted, hns, hname, hspec]
    exact (h.mirrored.api _ old ha.known).2.accepted
  have hforward : Forward old w := ⟨ha.phase, fun hne => absurd (h.kept _ old ha.known) hne⟩
  exact h.put (h.mirrored.update hgood ha.known hforward) ha.kept
    (h.agrees.insert ha.known ha.same ha.running ha.sited)

/-- The demand after a write of a known object. -/
theorem demand_insert {api : GoMap Key GPUWorkload} (hold : api.lookup (key w) = some old)
    (ns profile : String) : demand (api.insert (key w) w) ns profile
      = demand api ns profile - part (liveOn ns profile) old + part (liveOn ns profile) w := by
  rw [demand, demand, total_insert, total_erase _ hold]

/-- A status update that makes nothing live eases the demand. -/
theorem Base.eases_update (h : Base f p) (ha : Advances f p old w)
    (hlive : live w = true → live old = true) (now : Int) : Eases f p (p.update w now) := by
  refine ⟨h.update ha now, fun ns profile => ?_⟩
  obtain ⟨hns, -, hspec⟩ := ha.same
  have hpos : 0 ≤ old.spec.gpuCount := by
    have := (h.agrees.named _ old ha.known).2.2.2.2
    omega
  have hpart : part (liveOn ns profile) w ≤ part (liveOn ns profile) old := by
    rw [part, part, liveOn, liveOn, hns, hspec]
    cases hw : live w with
    | true =>
        rw [hlive hw]
    | false =>
        rw [Bool.and_false, if_neg Bool.false_ne_true]
        split_ifs
        · exact hpos
        · exact le_refl _
  rw [Plant.update, settle_put h.delivered]
  show demand (p.cluster.api.insert (key w) w) ns profile ≤ _
  rw [demand_insert ha.known]
  omega

/-- Only one object has a given ID. -/
theorem Base.eq_of_id (h : Base f p) {k : Key} {v : GPUWorkload}
    (hw : p.cluster.api.lookup (key w) = some w) (hv : p.cluster.api.lookup k = some v)
    (hid : v.id = w.id) : v = w := by
  obtain ⟨hkey, hacc⟩ := h.agrees.named k v hv
  rw [← hkey, key_eq_of_id hacc (h.agrees.named _ w hw).2 hid, hw] at hv
  exact (Option.some.inj hv).symm

/-- A release of a workload that is not running eases the demand. -/
theorem Base.eases_release (h : Base f p) (hw : p.cluster.api.lookup (key w) = some w)
    (hphase : w.phase ≠ .running) : Eases f p (p.releaseDevices f w.id) := by
  rw [Plant.releaseDevices]
  cases hrel : release p.sim w.id with
  | error e => exact h.eases_publish h.agrees
  | ok s =>
      refine h.eases_publish (h.agrees.release hrel (fun k v hv hid => ?_))
      rw [h.eq_of_id hw hv hid]
      exact hphase

theorem lookup_update_self (h : Base f p) (w : GPUWorkload) (now : Int) :
    (p.update w now).cluster.api.lookup (key w) = some w := by
  rw [Plant.update, settle_put h.delivered]
  exact AList.lookup_insert _

/-- The end of an object's life: its last phase, and then its devices. -/
theorem Base.eases_last (h : Base f p) (hold : p.cluster.api.lookup (key w) = some old)
    (hsame : w.ns = old.ns ∧ w.name = old.name ∧ w.spec = old.spec)
    (hd : w.deletionTimestamp = none) (hterm : isTerminalPhase w.phase = true) (now : Int) :
    Eases f p ((p.update w now).releaseDevices f w.id) := by
  have hrank : phaseRank old.phase ≤ phaseRank w.phase := by
    have hle : phaseRank old.phase ≤ 4 := by cases old.phase <;> simp [phaseRank]
    have hlast : phaseRank w.phase = 4 := by
      cases hp : w.phase <;> rw [hp] at hterm <;> simp [isTerminalPhase] at hterm <;> rfl
    omega
  have hbucket : bucket w = none := by
    rw [bucket, Change.bucket]
    cases hp : w.phase <;> rw [hp] at hterm <;> simp [isTerminalPhase] at hterm ⊢
  have hnotlive : live w = false := by
    rw [live]
    cases hp : w.phase <;> rw [hp] at hterm <;> simp [isTerminalPhase] at hterm ⊢
  have hnotrun : w.phase ≠ .running := by
    intro hp
    rw [hp] at hterm
    cases hterm
  have hadv : Advances f p old w :=
    ⟨hold, hsame, hrank, fun hne => absurd hbucket hne, hd, fun hp => absurd hp hnotrun,
      fun hl => absurd hl (by rw [hnotlive]; decide)⟩
  have hupdate := h.eases_update hadv (fun hl => absurd hl (by rw [hnotlive]; decide)) now
  exact hupdate.trans (hupdate.base.eases_release (lookup_update_self h w now) hnotrun)

/-- The allocation of an admitted object keeps the agreement, and the object has devices
    afterwards. -/
theorem Agrees.allocateAdmitted {api : GoMap Key GPUWorkload} {x : Context} {t : Simulator}
    (h : Agrees f api s) (hpools : x.pools.Perm s.pools.keys)
    (hw : api.lookup (key w) = some w) (hprofile : normalizeProfileName w.spec.profile ≠ "")
    (halloc : allocateAdmitted x w s = .ok t) :
    Agrees f api t ∧ (t.allocations.lookup w.id).isSome := by
  rw [GpuInProcess.allocateAdmitted] at halloc
  cases hr : allocateWithOptions s x.pools w.id w.spec.gpuCount w.spec.gpuMemoryMiB
      ⟨.firstFit, false, 0, "", normalizeProfileName w.spec.profile⟩ with
  | ok r =>
      obtain ⟨a, s'⟩ := r
      rw [hr] at halloc
      obtain rfl := Except.ok.inj halloc
      refine ⟨h.allocate hpools hw hprofile hr, ?_⟩
      obtain ⟨-, -, -, -, -, rfl⟩ := allocateWithOptions_ok hr
      show ((s.allocations.insert w.id a).lookup w.id).isSome
      rw [AList.lookup_insert]
      rfl
  | error e =>
      rw [hr] at halloc
      cases e with
      | alreadyAllocated id =>
          obtain rfl := Except.ok.inj halloc
          exact ⟨h, allocated_of_error hr⟩
      | _ => cases halloc

/-- `executeAdmission` eases the demand: the workload stays live. -/
theorem Base.eases_executeAdmission (h : Base f p) {x : Context}
    (hpools : x.pools.Perm p.sim.pools.keys) (hw : p.cluster.api.lookup (key w) = some w)
    (hphase : w.phase = .scheduled) (v : Verbs) (est : Estimator) :
    Eases f p (executeAdmission v est f x w p) := by
  have hlive : live w = true := by rw [live, hphase]; rfl
  have hsited := h.agrees.sited _ w hw hlive
  have hdated : bucket w ≠ none := by
    rw [bucket_eq_scheduled_iff.mpr ⟨h.kept _ w hw, hphase⟩]
    exact Option.some_ne_none _
  rw [executeAdmission]
  cases halloc : allocateAdmitted x w p.sim with
  | error e => exact h.eases
  | ok s =>
      obtain ⟨hs, hsome⟩ := h.agrees.allocateAdmitted hpools hw hsited.1 halloc
      have hpublish := h.eases_publish hs
      simp only
      cases hstart : startAdmitted v est x w s with
      | error e => exact hpublish
      | ok t =>
          have hsame : t.pools = s.pools ∧ t.allocations = s.allocations := by
            rw [startAdmitted] at hstart
            cases hr : startWithRuntimeInput est s x.runs x.now
                (buildRuntimeInput x.sections w) with
            | ok r =>
                rw [hr] at hstart
                obtain rfl := Except.ok.inj hstart
                exact startWithRuntimeInput_same hr
            | error e =>
                rw [hr] at hstart
                simp only at hstart
                split_ifs at hstart
                obtain rfl := Except.ok.inj hstart
                exact ⟨rfl, rfl⟩
          have hruns : Base f { Plant.publish f { p with sim := s } with sim := t } :=
            hpublish.base.setRuns hsame.1 hsame.2
          have hadv : Advances f { Plant.publish f { p with sim := s } with sim := t } w
              { w with phase := .running } := by
            refine ⟨hw, ⟨rfl, rfl, rfl⟩, ?_, fun _ => (h.mirrored.api _ w hw).2.dated hdated,
              h.kept _ w hw, fun _ => ?_, fun _ => hsited⟩
            · rw [hphase]
              show phaseRank .scheduled ≤ phaseRank .running
              decide
            · show (t.allocations.lookup w.id).isSome
              rw [hsame.2]
              exact hsome
          have hupdate := hruns.eases_update hadv (fun _ => hlive) x.now
          exact ⟨hupdate.base, hupdate.demand⟩

/-- `pollRunningStatus` eases the demand. -/
theorem Base.eases_pollRunningStatus (h : Base f p) (x : Context)
    (hw : p.cluster.api.lookup (key w) = some w) : Eases f p (pollRunningStatus f x w p) := by
  rw [pollRunningStatus]
  cases hr : getLatestRunStatusForWorkload p.sim x.runs x.now w.id with
  | error e => exact h.eases
  | ok r =>
      obtain ⟨status, t⟩ := r
      obtain ⟨hp, ha⟩ := getLatestRunStatusForWorkload_same hr
      have hruns : Eases f p { p with sim := t } := ⟨h.setRuns hp ha, fun _ _ => le_refl _⟩
      have hkept := h.kept _ w hw
      cases status with
      | running => exact hruns
      | succeeded =>
          exact hruns.trans (hruns.base.eases_last (w := { w with phase := .succeeded })
            hw ⟨rfl, rfl, rfl⟩ hkept rfl x.now)
      | failed =>
          exact hruns.trans (hruns.base.eases_last (w := { w with phase := .failed })
            hw ⟨rfl, rfl, rfl⟩ hkept rfl x.now)
      | preempted =>
          exact hruns.trans (hruns.base.eases_last
            (w := { w with phase := .preempted }) hw ⟨rfl, rfl, rfl⟩ hkept rfl x.now)

/-- **A RECONCILE NEVER ADDS DEMAND**: it moves along what a cycle has admitted. -/
theorem Base.eases_reconcile (h : Base f p) {x : Context}
    (hpools : x.pools.Perm p.sim.pools.keys) (hnow : x.now ≠ 0) (v : Verbs) (est : Estimator)
    (k : Key) : Eases f p (reconcile v est f x k p) := by
  rw [reconcile]
  cases hk : p.cluster.api.lookup k with
  | none => exact h.eases
  | some w =>
    obtain ⟨rfl, hacc⟩ := h.agrees.named k w hk
    have hkept := h.kept _ w hk
    simp only [if_neg (not_not.mpr hkept)]
    by_cases hterm : isTerminalPhase w.phase = true
    · -- counted or not, the object has had its last phase
      have hnotrun : w.phase ≠ .running := by
        intro hp
        rw [hp] at hterm
        cases hterm
      rw [if_pos hterm]
      split_ifs with hcount
      · exact h.eases_last (w := withCompletionCounted w) hk ⟨rfl, rfl, rfl⟩ hkept hterm x.now
      · exact h.eases_release hk hnotrun
    · rw [if_neg hterm]
      cases hphase : w.phase with
      | unset =>
          have hadv : Advances f p w { w with phase := .queued, queuedAt := some x.now } := by
            refine ⟨hk, ⟨rfl, rfl, rfl⟩, ?_, fun _ => ⟨x.now, rfl, hnow⟩, hkept,
              (fun hp => by cases hp), (fun hl => by cases hl)⟩
            rw [hphase]
            exact Nat.zero_le _
          exact h.eases_update hadv (fun hl => by cases hl) x.now
      | scheduled => exact h.eases_executeAdmission hpools hk hphase v est
      | running => exact h.eases_pollRunningStatus x hk
      | queued => exact h.eases
      | succeeded => exact h.eases
      | failed => exact h.eases
      | preempted => exact h.eases
      | other raw _ => exact h.eases

/-- An arrival adds no demand. -/
theorem Base.eases_create (h : Base f p) (hacc : accepted w)
    (hnone : p.cluster.api.lookup (key w) = none) (hphase : w.phase = .unset)
    (hd : w.deletionTimestamp = none) (now : Int) : Eases f p (p.update w now) := by
  have hbucket : bucket w = none := by
    rw [bucket, Change.bucket]
    simp only [hphase]
    split_ifs <;> rfl
  have hgood : Good Anything w := ⟨hacc, fun hne => absurd hbucket hne, trivial⟩
  have hnil : pendingOf p.cluster (key w) = [] := by
    rw [pendingOf, h.delivered]
    rfl
  refine ⟨h.put (h.mirrored.create hgood hnone hnil) hd (h.agrees.create hnone hacc hphase),
    fun ns profile => ?_⟩
  have hpart : part (liveOn ns profile) w = 0 := by
    rw [part, liveOn, live, hphase]
    simp
  rw [Plant.update, settle_put h.delivered]
  show total _ (p.cluster.api.insert (key w) w) ≤ total _ p.cluster.api
  rw [total_insert, total_erase_of_none _ hnone, hpart, Int.add_zero]

/-! ## The starting state -/

/-- Some pools are registered, and nothing is allocated. -/
structure Holds (listed : List GPUNodePool) (s : Simulator) : Prop where
  sound : Sound s
  free : s.allocations = ∅
  pools : ∀ key nodes, s.pools.lookup key = some nodes →
    ∃ q ∈ listed, q.poolKey = key ∧ buildNodesWithPoolKey q.simSpec key = .ok nodes
  registered : ∀ q ∈ listed, ∃ nodes, s.pools.lookup q.poolKey = some nodes
    ∧ buildNodesWithPoolKey q.simSpec q.poolKey = .ok nodes

/-- One more pool. -/
theorem Holds.register {listed : List GPUNodePool} (h : Holds listed s) {q : GPUNodePool}
    (hnew : q.poolKey ∉ listed.map GPUNodePool.poolKey)
    {nodes : List Node} (hbuild : buildNodesWithPoolKey q.simSpec q.poolKey = .ok nodes) :
    Holds (listed ++ [q]) (afterUnit s (registerFleet s q.poolKey q.simSpec)) := by
  have hreg : registerFleet s q.poolKey q.simSpec
      = .ok { s with pools := s.pools.insert q.poolKey nodes } := by
    rw [registerFleet]
    simp only [if_neg (poolKey_ne_empty q), hbuild]
  rw [hreg]
  refine ⟨h.sound.register hreg, h.free, fun key ns hl => ?_, fun r hr => ?_⟩
  · have hl' : (s.pools.insert q.poolKey nodes).lookup key = some ns := hl
    rcases lookup_insert_eq_some.mp hl' with ⟨rfl, rfl⟩ | ⟨-, hl'⟩
    · exact ⟨q, by simp, rfl, hbuild⟩
    · obtain ⟨r, hr, hkey, hb⟩ := h.pools key ns hl'
      exact ⟨r, List.mem_append_left _ hr, hkey, hb⟩
  · show ∃ ns, (s.pools.insert q.poolKey nodes).lookup r.poolKey = some ns ∧ _
    rcases List.mem_append.mp hr with hr | hr
    · have hk : r.poolKey ≠ q.poolKey := fun e => hnew (List.mem_map.mpr ⟨r, hr, e⟩)
      rw [AList.lookup_insert_ne hk]
      exact h.registered r hr
    · rw [List.mem_singleton.mp hr]
      exact ⟨nodes, AList.lookup_insert _, hbuild⟩

/-- All pools, one after the other. -/
theorem holds_register (f : Fleet) : Holds f.pools f.register := by
  have hrun : ∀ (rest done : List GPUNodePool) (s : Simulator), done ++ rest = f.pools →
      Holds done s → Holds f.pools (rest.foldl
        (fun s q => afterUnit s (registerFleet s q.poolKey q.simSpec)) s) := by
    intro rest
    induction rest with
    | nil =>
        intro done s hsplit h
        rw [List.append_nil] at hsplit
        rw [← hsplit]
        exact h
    | cons q rest ih =>
        intro done s hsplit h
        have hmem : q ∈ f.pools := by
          rw [← hsplit]
          simp
        have hdistinct := f.distinct
        rw [← hsplit, List.map_append, List.nodup_append'] at hdistinct
        have hnew : q.poolKey ∉ done.map GPUNodePool.poolKey :=
          fun hin => hdistinct.2.2 hin (List.mem_map.mpr ⟨q, by simp, rfl⟩)
        obtain ⟨nodes, hbuild⟩ := f.buildable q hmem
        refine ih (done ++ [q]) _ ?_ (h.register hnew hbuild)
        rw [List.append_assoc]
        exact hsplit
  refine hrun f.pools [] newSimulator rfl ⟨sound_newSimulator, rfl, fun key nodes h => ?_,
    fun q hq => ?_⟩
  · cases h
  · cases hq

/-- The starting state satisfies the base invariant. -/
theorem base_start (f : Fleet) : Base f (start f) := by
  have hh := holds_register f
  have hids : allocatedIDs f.register = [] := by
    rw [allocatedIDs, hh.free]
    rfl
  have hnone : ∀ {id a}, f.register.allocations.lookup id = some a → False := by
    intro id a ha
    rw [hh.free] at ha
    cases ha
  have hbase : Base f ⟨⟨∅, [], ∅, newSchedulerState, false⟩, f.register⟩ := by
    refine ⟨mirrored_empty _, rfl, fun k w hw => ?_, fun ns g hg => ?_, ?_⟩
    · cases hw
    · cases hg
    · refine ⟨fun k w hw => ?_, hh.sound, hh.pools, hh.registered, fun x hx => ?_,
        fun id a ha => (hnone ha).elim, fun k w a _ ha => (hnone ha).elim,
        fun k w hw _ => ?_, fun k w hw _ => ?_⟩
      · cases hw
      · rw [hids] at hx
        cases hx
      · cases hw
      · cases hw
  exact hbase.publish hbase.agrees

end

end GpuInProcess
