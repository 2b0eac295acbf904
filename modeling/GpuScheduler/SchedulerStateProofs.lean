import GpuScheduler.WorkloadProofs
import GpuScheduler.FleetProofs

/-! # The scheduler's in-memory state

    `schedulerState` holds three maps of workloads by namespace and ID (queued,
    scheduled, running), the fleet of each namespace and its quotas.  Only informer
    events change it, and each handler says whether it requests a scheduling cycle.

    The three upserts clean up different subsets of the maps.  The state is a function
    of the last event of each workload exactly as long as no workload falls back to an
    earlier phase without leaving the maps in between (`mirrors_iff`). -/

namespace GpuSchedulerState

open GoStrings GoMaps GpuInputs GpuWorkload GpuFleet

/-- `schedulerState`. -/
structure SchedulerState where
  queued : GoMap String (GoMap String QueuedWorkload)
  scheduled : GoMap String (GoMap String RunningWorkload)
  running : GoMap String (GoMap String RunningWorkload)
  fleet : GoMap String FleetFreeCapacity
  quotas : GoMap String (GoMap String TenantQuota)

/-- `newSchedulerState`. -/
def newSchedulerState : SchedulerState := ⟨∅, ∅, ∅, ∅, ∅⟩

/-- `upsertQueued`. -/
def SchedulerState.upsertQueued (st : SchedulerState) (ns : String) (q : QueuedWorkload) :
    SchedulerState :=
  { st with queued := insertIn st.queued ns q.workloadID q }

/-- `removeWorkload`. -/
def SchedulerState.removeWorkload (st : SchedulerState) (ns id : String) : SchedulerState :=
  { st with
    queued := deleteIn st.queued ns id
    scheduled := deleteIn st.scheduled ns id
    running := deleteIn st.running ns id }

/-- `upsertScheduled`: leaves the running map alone. -/
def SchedulerState.upsertScheduled (st : SchedulerState) (ns : String)
    (r : RunningWorkload) : SchedulerState :=
  { st with
    scheduled := insertIn st.scheduled ns r.workloadID r
    queued := deleteIn st.queued ns r.workloadID }

/-- `upsertRunning`. -/
def SchedulerState.upsertRunning (st : SchedulerState) (ns : String)
    (r : RunningWorkload) : SchedulerState :=
  { st with
    running := insertIn st.running ns r.workloadID r
    queued := deleteIn st.queued ns r.workloadID
    scheduled := deleteIn st.scheduled ns r.workloadID }

/-- `setFleet`. -/
def SchedulerState.setFleet (st : SchedulerState) (ns : String) (f : FleetFreeCapacity) :
    SchedulerState :=
  { st with fleet := st.fleet.insert ns f }

/-- `deleteFleet`. -/
def SchedulerState.deleteFleet (st : SchedulerState) (ns : String) : SchedulerState :=
  { st with fleet := st.fleet.erase ns }

/-- `upsertQuota`. -/
def SchedulerState.upsertQuota (st : SchedulerState) (ns tenant : String) (q : TenantQuota) :
    SchedulerState :=
  { st with quotas := insertIn st.quotas ns tenant q }

/-- `deleteQuota`. -/
def SchedulerState.deleteQuota (st : SchedulerState) (ns tenant : String) : SchedulerState :=
  { st with quotas := deleteIn st.quotas ns tenant }

/-- `deleteAllQuotasInNamespace`. -/
def SchedulerState.deleteAllQuotasInNamespace (st : SchedulerState) (ns : String) :
    SchedulerState :=
  { st with quotas := st.quotas.erase ns }

/-- `namespacesWithQueueAndFleet`, in the order the map of queues yields its keys. -/
def SchedulerState.namespacesWithQueueAndFleet (st : SchedulerState) : List String :=
  st.queued.keys.filter
    (fun ns => !(inner st.queued ns).entries.isEmpty && (st.fleet.lookup ns).isSome)

/-- The orders in which the ranges over the workload maps of a snapshot may come out. -/
structure MapOrder where
  queued : List QueuedWorkload → List QueuedWorkload
  scheduled : List RunningWorkload → List RunningWorkload
  running : List RunningWorkload → List RunningWorkload
  queued_perm : ∀ l, (queued l).Perm l
  scheduled_perm : ∀ l, (scheduled l).Perm l
  running_perm : ∀ l, (running l).Perm l

/-- Entry order. -/
def MapOrder.entries : MapOrder := ⟨id, id, id, .refl, .refl, .refl⟩

/-- `snapshotForNamespace`: nothing for a namespace without a fleet. -/
def SchedulerState.snapshotForNamespace (order : MapOrder) (st : SchedulerState)
    (ns : String) : Option SchedulingInputs :=
  (st.fleet.lookup ns).map (fun fleet =>
    { queuedWorkloads := order.queued (values (inner st.queued ns))
      scheduledWorkloads := order.scheduled (values (inner st.scheduled ns))
      runningWorkloads := order.running (values (inner st.running ns))
      fleetFreeCapacity := { fleet with byProfile := some (fleet.byProfile.getD ∅) }
      tenantQuotas := inner st.quotas ns })

/-- What a snapshot holds, up to the order of the maps. -/
structure IsSnapshot (st : SchedulerState) (ns : String) (inputs : SchedulingInputs) : Prop where
  fleet : ∃ f, st.fleet.lookup ns = some f
    ∧ inputs.fleetFreeCapacity = { f with byProfile := some (f.byProfile.getD ∅) }
  queued : inputs.queuedWorkloads.Perm (values (inner st.queued ns))
  scheduled : inputs.scheduledWorkloads.Perm (values (inner st.scheduled ns))
  running : inputs.runningWorkloads.Perm (values (inner st.running ns))
  quotas : inputs.tenantQuotas = inner st.quotas ns

theorem snapshot_spec {order : MapOrder} {st : SchedulerState} {ns : String}
    {inputs : SchedulingInputs} (h : st.snapshotForNamespace order ns = some inputs) :
    IsSnapshot st ns inputs := by
  obtain ⟨fleet, hf, rfl⟩ := Option.map_eq_some_iff.mp h
  exact ⟨⟨fleet, hf, rfl⟩, order.queued_perm _, order.scheduled_perm _, order.running_perm _,
    rfl⟩

/-! ## The handlers -/

/-- One `applyWorkloadToState` call: the object, `deleted`, and the clock. -/
structure Change where
  workload : GPUWorkload
  deleted : Bool
  now : Int

/-- The three maps. -/
inductive Bucket where
  | queued | scheduled | running
  deriving DecidableEq, Repr

/-- The map named by the phase of a change; none for a delete, a deletion timestamp or
    any other phase. -/
def Change.bucket (c : Change) : Option Bucket :=
  if c.deleted ∨ c.workload.deletionTimestamp ≠ none then none
  else match c.workload.phase with
    | .queued => some .queued
    | .scheduled => some .scheduled
    | .running => some .running
    | _ => none

/-- `applyWorkloadToState`, with whether the workload was queued. -/
def applyWorkloadToState (st : SchedulerState) (c : Change) : SchedulerState × Bool :=
  let w := c.workload
  if c.deleted then (st.removeWorkload w.ns w.id, false)
  else if w.deletionTimestamp ≠ none then (st.removeWorkload w.ns w.id, false)
  else match w.phase with
    | .queued => (st.upsertQueued w.ns (w.asQueued c.now), true)
    | .scheduled => (st.upsertScheduled w.ns (w.asRunning c.now), false)
    | .running =>
        ((st.removeWorkload w.ns w.id).upsertRunning w.ns (w.asRunning c.now), false)
    | _ => (st.removeWorkload w.ns w.id, false)

/-- A workload event.  A tombstone is unwrapped, so it is a delete of its object. -/
inductive WorkloadEvent where
  | add (w : GPUWorkload)
  | update (old new : GPUWorkload)
  | delete (w : GPUWorkload)

/-- The `TenantQuota` CR. -/
structure TenantQuotaCR where
  ns : String
  tenant : String
  maxGPUs : Int
  maxMemoryMiB : Int
  weight : Int
  deriving DecidableEq, Repr

/-- What the three informers deliver.  A pool event carries the outcome of the list of
    the namespace's pools that its handler makes. -/
inductive Event where
  | workload (e : WorkloadEvent) (now : Int)
  | pool (ns : String) (listed : Option (List GPUNodePool))
  | quota (q : TenantQuotaCR) (deleted : Bool)

/-- The change an event makes to the workload maps. -/
def WorkloadEvent.change (e : WorkloadEvent) (now : Int) : Change :=
  match e with
  | .add w => ⟨w, false, now⟩
  | .update _ new => ⟨new, false, now⟩
  | .delete w => ⟨w, true, now⟩

/-- `handleWorkloadAdd`, `handleWorkloadUpdate` and `handleWorkloadDelete`; the flag is
    whether `requestScheduling` was called. -/
def handleWorkloadEvent (st : SchedulerState) (e : WorkloadEvent) (now : Int) :
    SchedulerState × Bool :=
  let (st', wasQueued) := applyWorkloadToState st (e.change now)
  match e with
  | .add _ => (st', wasQueued)
  | .update old new => (st', wasQueued || (old.phase = .running && new.phase ≠ .running))
  | .delete w => (st', w.phase = .running)

/-- `handlePoolEvent`. -/
def handlePoolEvent (st : SchedulerState) (ns : String)
    (listed : Option (List GPUNodePool)) : SchedulerState × Bool :=
  match listed with
  | none => (st, false)
  | some [] => (st.deleteFleet ns, true)
  | some pools => (st.setFleet ns (aggregateFleetFromPools pools), true)

/-- `handleQuotaEvent`. -/
def handleQuotaEvent (st : SchedulerState) (q : TenantQuotaCR) (deleted : Bool) :
    SchedulerState × Bool :=
  let tenant := trimSpace q.tenant
  if deleted then
    if tenant ≠ "" then (st.deleteQuota q.ns tenant, true)
    else (st.deleteAllQuotasInNamespace q.ns, true)
  else if tenant = "" then (st, false)
  else (st.upsertQuota q.ns tenant ⟨q.maxGPUs, q.maxMemoryMiB, q.weight⟩, true)

/-- The handler of an event. -/
def handle (st : SchedulerState) : Event → SchedulerState × Bool
  | .workload e now => handleWorkloadEvent st e now
  | .pool ns listed => handlePoolEvent st ns listed
  | .quota q deleted => handleQuotaEvent st q deleted

/-- The state after a sequence of events. -/
def deliver (st : SchedulerState) (events : List Event) : SchedulerState :=
  events.foldl (fun st e => (handle st e).1) st

/-! ## One workload -/

/-- Where one workload stands in the three maps. -/
structure Slot where
  queued : Option QueuedWorkload
  scheduled : Option RunningWorkload
  running : Option RunningWorkload
  deriving DecidableEq, Repr

/-- In none of them. -/
def Slot.absent : Slot := ⟨none, none, none⟩

/-- The slot of a workload ID. -/
def SchedulerState.slotAt (st : SchedulerState) (ns id : String) : Slot :=
  ⟨lookupIn st.queued ns id, lookupIn st.scheduled ns id, lookupIn st.running ns id⟩

/-- The slot as a function of the last change: the one map its phase names. -/
def slotOf : Option Change → Slot
  | none => .absent
  | some c =>
    match c.bucket with
    | none => .absent
    | some .queued => ⟨some (c.workload.asQueued c.now), none, none⟩
    | some .scheduled => ⟨none, some (c.workload.asRunning c.now), none⟩
    | some .running => ⟨none, none, some (c.workload.asRunning c.now)⟩

/-- What a change really does to the slot of its workload. -/
def Slot.apply (s : Slot) (c : Change) : Slot :=
  match c.bucket with
  | none => .absent
  | some .queued => { s with queued := some (c.workload.asQueued c.now) }
  | some .scheduled =>
      { s with scheduled := some (c.workload.asRunning c.now), queued := none }
  | some .running => ⟨none, none, some (c.workload.asRunning c.now)⟩

/-- The change an event makes to one workload, if it is about that workload. -/
def Event.changeOf (ns id : String) : Event → Option Change
  | .workload e now =>
      let c := e.change now
      if c.workload.ns = ns ∧ c.workload.id = id then some c else none
  | _ => none

/-- The changes to one workload, in order. -/
def changesOf (ns id : String) (events : List Event) : List Change :=
  events.filterMap (Event.changeOf ns id)

/-- The changes to a workload are about it. -/
theorem mem_changesOf {ns id : String} {events : List Event} {c : Change}
    (h : c ∈ changesOf ns id events) : c.workload.ns = ns ∧ c.workload.id = id := by
  obtain ⟨e, -, he⟩ := List.mem_filterMap.mp h
  cases e with
  | workload e now =>
      simp only [Event.changeOf] at he
      split_ifs at he with hc
      obtain rfl := Option.some.inj he
      exact hc
  | pool ns' listed => cases he
  | quota q deleted => cases he

section
variable (st : SchedulerState) {ns id ns' : String}

private theorem slotAt_upsertQueued {q : QueuedWorkload} (hq : q.workloadID = id) :
    (st.upsertQueued ns q).slotAt ns id = { st.slotAt ns id with queued := some q } := by
  subst hq
  simp only [SchedulerState.slotAt, SchedulerState.upsertQueued, lookupIn_insertIn_self]

private theorem slotAt_upsertScheduled {r : RunningWorkload} (hr : r.workloadID = id) :
    (st.upsertScheduled ns r).slotAt ns id
      = { st.slotAt ns id with scheduled := some r, queued := none } := by
  subst hr
  simp only [SchedulerState.slotAt, SchedulerState.upsertScheduled, lookupIn_insertIn_self,
    lookupIn_deleteIn_self]

private theorem slotAt_upsertRunning {r : RunningWorkload} (hr : r.workloadID = id) :
    (st.upsertRunning ns r).slotAt ns id = ⟨none, none, some r⟩ := by
  subst hr
  simp only [SchedulerState.slotAt, SchedulerState.upsertRunning, lookupIn_insertIn_self,
    lookupIn_deleteIn_self]

private theorem slotAt_removeWorkload : (st.removeWorkload ns id).slotAt ns id = .absent := by
  simp only [SchedulerState.slotAt, SchedulerState.removeWorkload, lookupIn_deleteIn_self,
    Slot.absent]

/-- A change moves the slot of its own workload as `Slot.apply` says. -/
theorem slotAt_applyWorkloadToState_self (c : Change) :
    (applyWorkloadToState st c).1.slotAt c.workload.ns c.workload.id
      = (st.slotAt c.workload.ns c.workload.id).apply c := by
  by_cases hd : c.deleted = true
  · simp [applyWorkloadToState, Slot.apply, Change.bucket, hd, slotAt_removeWorkload]
  · by_cases ht : c.workload.deletionTimestamp = none
    · cases hp : c.workload.phase <;>
        simp [applyWorkloadToState, Slot.apply, Change.bucket, hd, ht, hp,
          slotAt_removeWorkload]
      · exact slotAt_upsertQueued st rfl
      · exact slotAt_upsertScheduled st rfl
      · exact slotAt_upsertRunning _ rfl
    · simp [applyWorkloadToState, Slot.apply, Change.bucket, ht, slotAt_removeWorkload]

/-- FRAME: a change touches no other workload's slot. -/
theorem slotAt_applyWorkloadToState_ne (c : Change)
    (h : ¬(c.workload.ns = ns ∧ c.workload.id = id)) :
    (applyWorkloadToState st c).1.slotAt ns id = st.slotAt ns id := by
  have hne : ns ≠ c.workload.ns ∨ id ≠ c.workload.id := by
    by_cases hns : c.workload.ns = ns
    · exact Or.inr (fun hid => h ⟨hns, hid.symm⟩)
    · exact Or.inl (Ne.symm hns)
  have hq : (c.workload.asQueued c.now).workloadID = c.workload.id := rfl
  have hr : (c.workload.asRunning c.now).workloadID = c.workload.id := rfl
  have hremove : (st.removeWorkload c.workload.ns c.workload.id).slotAt ns id
      = st.slotAt ns id := by
    simp only [SchedulerState.slotAt, SchedulerState.removeWorkload,
      lookupIn_deleteIn_ne _ hne]
  simp only [applyWorkloadToState]
  split_ifs
  · exact hremove
  · exact hremove
  · split
    · simp only [SchedulerState.slotAt, SchedulerState.upsertQueued, hq,
        lookupIn_insertIn_ne _ _ hne]
    · simp only [SchedulerState.slotAt, SchedulerState.upsertScheduled, hr,
        lookupIn_insertIn_ne _ _ hne, lookupIn_deleteIn_ne _ hne]
    · rw [← hremove]
      simp only [SchedulerState.slotAt, SchedulerState.upsertRunning, hr,
        lookupIn_insertIn_ne _ _ hne, lookupIn_deleteIn_ne _ hne]
    · exact hremove

/-- A change leaves fleets and quotas alone. -/
theorem applyWorkloadToState_frame (c : Change) :
    (applyWorkloadToState st c).1.fleet = st.fleet
      ∧ (applyWorkloadToState st c).1.quotas = st.quotas := by
  simp only [applyWorkloadToState]
  split_ifs
  · exact ⟨rfl, rfl⟩
  · exact ⟨rfl, rfl⟩
  · split <;> exact ⟨rfl, rfl⟩

/-- The state a workload event leaves is the state its change leaves. -/
theorem handleWorkloadEvent_fst (e : WorkloadEvent) (now : Int) :
    (handleWorkloadEvent st e now).1 = (applyWorkloadToState st (e.change now)).1 := by
  cases e <;> rfl

/-- Pool and quota events leave every slot alone. -/
theorem slotAt_handlePoolEvent (listed : Option (List GPUNodePool)) :
    (handlePoolEvent st ns' listed).1.slotAt ns id = st.slotAt ns id := by
  rcases listed with - | pools
  · rfl
  · cases pools <;> rfl

theorem handlePoolEvent_quotas (listed : Option (List GPUNodePool)) :
    (handlePoolEvent st ns' listed).1.quotas = st.quotas := by
  rcases listed with - | pools
  · rfl
  · cases pools <;> rfl

theorem slotAt_handleQuotaEvent (q : TenantQuotaCR) (deleted : Bool) :
    (handleQuotaEvent st q deleted).1.slotAt ns id = st.slotAt ns id := by
  simp only [handleQuotaEvent]
  split_ifs <;> rfl

/-- STEP: an event moves a slot by its change to that workload, if it makes one. -/
theorem slotAt_handle (e : Event) :
    (handle st e).1.slotAt ns id
      = (e.changeOf ns id).elim (st.slotAt ns id) (st.slotAt ns id).apply := by
  cases e with
  | workload e now =>
      simp only [handle, handleWorkloadEvent_fst, Event.changeOf]
      by_cases h : (e.change now).workload.ns = ns ∧ (e.change now).workload.id = id
      · rw [if_pos h]
        obtain ⟨rfl, rfl⟩ := h
        exact slotAt_applyWorkloadToState_self st _
      · rw [if_neg h]
        exact slotAt_applyWorkloadToState_ne st _ h
  | pool ns' listed => exact slotAt_handlePoolEvent st listed
  | quota q deleted => exact slotAt_handleQuotaEvent st q deleted

/-- RUN: a sequence of events moves a slot by the changes to that workload. -/
theorem slotAt_deliver (events : List Event) :
    (deliver st events).slotAt ns id
      = (changesOf ns id events).foldl Slot.apply (st.slotAt ns id) := by
  induction events generalizing st with
  | nil => rfl
  | cons e events ih =>
      have hstep : (handle st e).1.slotAt ns id = _ := slotAt_handle st e
      rw [deliver, List.foldl_cons, ← deliver, ih, hstep, changesOf, changesOf,
        List.filterMap_cons]
      cases e.changeOf ns id <;> rfl

end

/-! ## What a slot remembers -/

/-- The maps named by the changes since the last one that named none. -/
def sinceRemoval (cs : List Change) : List Bucket :=
  cs.foldl (fun bs c => c.bucket.elim [] (fun b => bs ++ [b])) []

/-- No falling back: the last map is the furthest reached since the last removal. -/
def NoFallback (bs : List Bucket) : Prop :=
  (bs.getLast? = some .queued → ∀ b ∈ bs, b = .queued)
    ∧ (bs.getLast? = some .scheduled → .running ∉ bs)

instance (bs : List Bucket) : Decidable (NoFallback bs) :=
  inferInstanceAs (Decidable (_ ∧ _))

/-- The slot after some changes to an absent workload. -/
def slotAfter (cs : List Change) : Slot := cs.foldl Slot.apply .absent

theorem slotAfter_concat (cs : List Change) (c : Change) :
    slotAfter (cs ++ [c]) = (slotAfter cs).apply c := by
  rw [slotAfter, List.foldl_append]
  rfl

theorem sinceRemoval_concat (cs : List Change) (c : Change) :
    sinceRemoval (cs ++ [c]) = c.bucket.elim [] (fun b => sinceRemoval cs ++ [b]) := by
  rw [sinceRemoval, List.foldl_append]
  rfl

/-- The running map forgets only on a removal; the scheduled map also on `Running`. -/
theorem slotAfter_remembers (cs : List Change) :
    ((slotAfter cs).running = none ↔ .running ∉ sinceRemoval cs)
      ∧ (.running ∉ sinceRemoval cs →
        ((slotAfter cs).scheduled = none ↔ .scheduled ∉ sinceRemoval cs)) := by
  induction cs using List.reverseRecOn with
  | nil => simp [slotAfter, sinceRemoval, Slot.absent]
  | append_singleton cs c ih =>
      obtain ⟨ihr, ihs⟩ := ih
      rw [slotAfter_concat, sinceRemoval_concat, Slot.apply]
      cases c.bucket with
      | none => simp [Slot.absent]
      | some b =>
        cases b with
        | queued => simpa [ihr] using ihs
        | scheduled => simp [ihr]
        | running => simp

/-- **ONE WORKLOAD**: its slot is the one its last change names exactly when it has not
    fallen back since the last removal. -/
theorem slotAfter_eq_slotOf_iff (cs : List Change) :
    slotAfter cs = slotOf cs.getLast? ↔ NoFallback (sinceRemoval cs) := by
  rcases List.eq_nil_or_concat' cs with rfl | ⟨cs, c, rfl⟩
  · simp [slotAfter, slotOf, sinceRemoval, NoFallback]
  · obtain ⟨hr, hs⟩ := slotAfter_remembers cs
    rw [slotAfter_concat, sinceRemoval_concat, List.getLast?_concat, slotOf, Slot.apply]
    cases hb : c.bucket with
    | none => simp [NoFallback]
    | some b =>
      cases b with
      | queued =>
          simp only [Slot.mk.injEq, true_and, Option.elim_some, NoFallback,
            List.getLast?_concat, Option.some.injEq, reduceCtorEq, false_implies, and_true,
            true_implies, List.mem_append, List.mem_singleton]
          constructor
          · rintro ⟨hsched, hrun⟩ b hb
            have hnr := hr.mp hrun
            have hns := (hs hnr).mp hsched
            rcases hb with hb | hb
            · cases b with
              | queued => rfl
              | scheduled => exact absurd hb hns
              | running => exact absurd hb hnr
            · exact hb
          · intro hall
            have hnr : Bucket.running ∉ sinceRemoval cs :=
              fun h => by cases hall _ (Or.inl h)
            exact ⟨(hs hnr).mpr (fun h => by cases hall _ (Or.inl h)), hr.mpr hnr⟩
      | scheduled =>
          simp [NoFallback, hr]
      | running => simp [NoFallback]

/-- At most one map holds the workload. -/
def Slot.Exclusive (s : Slot) : Prop :=
  (s.queued = none ∨ s.scheduled = none) ∧ (s.queued = none ∨ s.running = none)
    ∧ (s.scheduled = none ∨ s.running = none)

theorem exclusive_slotOf (c : Option Change) : (slotOf c).Exclusive := by
  cases c with
  | none => simp [slotOf, Slot.Exclusive, Slot.absent]
  | some c =>
      rw [slotOf]
      rcases c.bucket with - | (- | - | -) <;> simp [Slot.Exclusive, Slot.absent]

/-- The records of a slot carry its ID. -/
def Slot.Named (id : String) (s : Slot) : Prop :=
  (∀ q ∈ s.queued, q.workloadID = id) ∧ (∀ r ∈ s.scheduled, r.workloadID = id)
    ∧ ∀ r ∈ s.running, r.workloadID = id

theorem named_slotOf {id : String} {c : Option Change} (h : ∀ c' ∈ c, c'.workload.id = id) :
    (slotOf c).Named id := by
  cases c with
  | none => simp [slotOf, Slot.Named, Slot.absent]
  | some c =>
      have hid := h c rfl
      have hq : (c.workload.asQueued c.now).workloadID = id := hid
      have hr : (c.workload.asRunning c.now).workloadID = id := hid
      rw [slotOf]
      rcases c.bucket with - | (- | - | -) <;> simp [Slot.Named, Slot.absent, hq, hr]

/-- A namespace whose slots are exclusive and carry their IDs has a snapshot without
    duplicates. -/
theorem nodup_ids_of_slots {st : SchedulerState} {ns : String} {order : MapOrder}
    {inputs : SchedulingInputs} (hsnap : st.snapshotForNamespace order ns = some inputs)
    (hex : ∀ id, (st.slotAt ns id).Exclusive) (hnamed : ∀ id, (st.slotAt ns id).Named id) :
    inputs.ids.Nodup := by
  have his := snapshot_spec hsnap
  have hq : ∀ k v, (inner st.queued ns).lookup k = some v → v.workloadID = k :=
    fun k v h => (hnamed k).1 v h
  have hs : ∀ k v, (inner st.scheduled ns).lookup k = some v → v.workloadID = k :=
    fun k v h => (hnamed k).2.1 v h
  have hr : ∀ k v, (inner st.running ns).lookup k = some v → v.workloadID = k :=
    fun k v h => (hnamed k).2.2 v h
  have hperm : inputs.ids.Perm ((inner st.queued ns).keys
      ++ ((inner st.scheduled ns).keys ++ (inner st.running ns).keys)) := by
    rw [← map_values_eq_keys hq, ← map_values_eq_keys hs, ← map_values_eq_keys hr]
    exact (his.queued.map _).append ((his.scheduled.map _).append (his.running.map _))
  -- a key of two of the maps would be a slot that is not exclusive
  have hdisj : ∀ {V V' : Type} {m : GoMap String V} {m' : GoMap String V'},
      (∀ k, m.lookup k = none ∨ m'.lookup k = none) → m.keys.Disjoint m'.keys := by
    intro V V' m m' h k hk hk'
    rcases h k with h | h
    · exact AList.lookup_eq_none.mp h hk
    · exact AList.lookup_eq_none.mp h hk'
  refine (hperm.nodup_iff).mpr (List.nodup_append'.mpr ⟨AList.keys_nodup _,
    List.nodup_append'.mpr ⟨AList.keys_nodup _, AList.keys_nodup _,
      hdisj (fun k => (hex k).2.2)⟩, ?_⟩)
  exact List.disjoint_append_right.mpr
    ⟨hdisj (fun k => (hex k).1), hdisj (fun k => (hex k).2.1)⟩

/-! ## The whole state -/

/-- The state mirrors the last event of every workload, and no snapshot holds an ID
    twice. -/
structure Mirrors (st : SchedulerState) (events : List Event) : Prop where
  slots : ∀ ns id, st.slotAt ns id = slotOf (changesOf ns id events).getLast?
  snapshots : ∀ order ns inputs,
    st.snapshotForNamespace order ns = some inputs → inputs.ids.Nodup

/-- **THE STATE IS A FUNCTION OF THE LAST EVENTS** exactly when no workload has fallen
    back to an earlier map since its last removal. -/
theorem mirrors_iff (events : List Event) :
    Mirrors (deliver newSchedulerState events) events
      ↔ ∀ ns id, NoFallback (sinceRemoval (changesOf ns id events)) := by
  have hslot : ∀ ns id, (deliver newSchedulerState events).slotAt ns id
      = slotAfter (changesOf ns id events) :=
    fun ns id => slotAt_deliver newSchedulerState events
  constructor
  · intro h ns id
    rw [← slotAfter_eq_slotOf_iff, ← hslot]
    exact h.slots ns id
  · intro h
    have hslots : ∀ ns id, (deliver newSchedulerState events).slotAt ns id
        = slotOf (changesOf ns id events).getLast? :=
      fun ns id => (hslot ns id).trans ((slotAfter_eq_slotOf_iff _).mpr (h ns id))
    refine ⟨hslots, fun order ns inputs hsnap => nodup_ids_of_slots hsnap ?_ ?_⟩
    · intro id
      rw [hslots]
      exact exclusive_slotOf _
    · intro id
      rw [hslots]
      refine named_slotOf (fun c hc => ?_)
      exact (mem_changesOf (List.mem_of_getLast? hc)).2

/-- One workload, in a given phase. -/
def demoWorkload (phase : Phase) : GPUWorkload :=
  { ns := "ns", name := "w", annotations := ∅, deletionTimestamp := none
    spec := ⟨"team", 1, 1, 1, "h100_sxm", 1, .training⟩, phase := phase, queuedAt := some 1 }

/-- A preempted workload that is queued again; the informer has coalesced the event in
    between. -/
def requeued : List Event :=
  [.workload (.add (demoWorkload .running)) 1,
    .workload (.update (demoWorkload .running) (demoWorkload .queued)) 2]

/-- After those two events the workload is both queued and running. -/
theorem requeued_not_mirrors : ¬Mirrors (deliver newSchedulerState requeued) requeued := by
  intro h
  have hslot := congrArg Slot.running (h.slots "ns" "ns/w")
  have hrunning : ((deliver newSchedulerState requeued).slotAt "ns" "ns/w").running
      = some ((demoWorkload .running).asRunning 1) := rfl
  have hnone : (slotOf (changesOf "ns" "ns/w" requeued).getLast?).running = none := rfl
  rw [hrunning, hnone] at hslot
  cases hslot

end GpuSchedulerState
