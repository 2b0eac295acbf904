import GpuScheduler.SchedulerStateProofs
import GpuScheduler.CycleProofs

/-! # The scheduler loop in its cluster

    The API server holds the workloads; the informer delivers every write to the
    scheduler's state some time later; a cycle decides on that state and writes to the
    API.  Cycles are requested through a channel with one slot.

    One step of the system is a write by another component, the delivery of a pending
    write, a pool or quota event, or a whole scheduling cycle.  Writes to one object are
    delivered in the order they were made, but the informer may skip versions. -/

namespace GpuCluster

open GoStrings GoMaps GpuInputs GpuWorkload GpuSchedulerState GpuFleet GpuCycle GpuPreemption
  GpuSelection

/-- A namespace and a workload ID. -/
abbrev Key := String × String

/-- The key of a resource. -/
def key (w : GPUWorkload) : Key := (w.ns, w.id)

/-- A write the informer has not delivered: the new version, or the last one of a deleted
    object. -/
structure Write where
  workload : GPUWorkload
  deleted : Bool

/-- The key a write is about. -/
def Write.key (x : Write) : Key := GpuCluster.key x.workload

/-- The API server, the informer's store and pending writes, the scheduler's state, and
    whether a cycle is requested. -/
structure Cluster where
  api : GoMap Key GPUWorkload
  pending : List Write
  store : GoMap Key GPUWorkload
  mem : SchedulerState
  trigger : Bool

/-- Write a version of an object. -/
def Cluster.put (c : Cluster) (w : GPUWorkload) : Cluster :=
  { c with api := c.api.insert (key w) w, pending := c.pending ++ [⟨w, false⟩] }

/-- Remove an object. -/
def Cluster.remove (c : Cluster) (w : GPUWorkload) : Cluster :=
  { c with api := c.api.erase (key w), pending := c.pending ++ [⟨w, true⟩] }

/-! ## Delivery -/

/-- The event a write becomes, given the version in the informer's store. -/
def eventOf (old : Option GPUWorkload) (x : Write) : Option WorkloadEvent :=
  match old, x.deleted with
  | none, false => some (.add x.workload)
  | some w, false => some (.update w x.workload)
  | some _, true => some (.delete x.workload)
  | none, true => none

/-- The scheduler's reaction to a write. -/
def react (c : Cluster) (x : Write) (now : Int) : SchedulerState × Bool :=
  match eventOf (c.store.lookup x.key) x with
  | none => (c.mem, false)
  | some e => handleWorkloadEvent c.mem e now

/-- Deliver the pending write at an index; earlier versions of its object are skipped. -/
def Cluster.deliver (c : Cluster) (i : Nat) (now : Int) : Option Cluster :=
  (c.pending[i]?).map (fun x =>
    { c with
      pending := (c.pending.take i).filter (fun y => y.key ≠ x.key) ++ c.pending.drop (i + 1)
      store := if x.deleted then c.store.erase x.key else c.store.insert x.key x.workload
      mem := (react c x now).1
      trigger := c.trigger || (react c x now).2 })

/-! ## A scheduling cycle -/

/-- Which outside calls fail, by workload ID. -/
structure Faults where
  markPreempted : String → Bool
  preempt : String → Bool
  release : String → Bool
  patchAdmitted : String → Bool

/-- Nothing fails. -/
def Faults.none : Faults := ⟨fun _ => false, fun _ => false, fun _ => false, fun _ => false⟩

/-- The status update of a victim: a missing one and one already `Preempted` are fine. -/
def markPreempted (faults : Faults) (ns name : String) (c : Cluster) : Cluster × Bool :=
  if faults.markPreempted (workloadID ns name) then (c, false)
  else match c.api.lookup (ns, workloadID ns name) with
    | none => (c, true)
    | some w =>
        if w.phase = .preempted then (c, true) else (c.put { w with phase := .preempted }, true)

/-- The status update of an admitted workload; one that is no longer `Queued` is left as
    it is, and the call succeeds. -/
def patchAdmitted (faults : Faults) (ns name : String) (c : Cluster) : Cluster × Bool :=
  if faults.patchAdmitted (workloadID ns name) then (c, false)
  else match c.api.lookup (ns, workloadID ns name) with
    | none => (c, false)
    | some w =>
        if w.phase ≠ .queued then (c, true) else (c.put { w with phase := .scheduled }, true)

/-- The calls of a cycle against the cluster. -/
def calls (order : MapOrder) (faults : Faults) : CycleCalls Cluster where
  snapshotForNamespace c ns := c.mem.snapshotForNamespace order ns
  markPreempted := markPreempted faults
  preempt id c := (c, !faults.preempt id)
  release id c := (c, !faults.release id)
  patchAdmitted ns name _ _ c := patchAdmitted faults ns name c

/-! ## Steps -/

/-- What the API server accepts: a namespace without a slash, non-empty names, and the
    minimum of the GPU count. -/
def accepted (w : GPUWorkload) : Prop :=
  w.ns ≠ "" ∧ w.name ≠ "" ∧ '/' ∉ w.ns.toList ∧ 1 ≤ w.spec.gpuCount

instance (w : GPUWorkload) : Decidable (accepted w) :=
  inferInstanceAs (Decidable (_ ∧ _ ∧ _ ∧ _))

/-- One step of the cluster. -/
inductive Label where
  | create (w : GPUWorkload)
  | update (w : GPUWorkload)
  | delete (k : Key)
  | deliver (i : Nat) (now : Int)
  | pool (ns : String) (listed : Option (List GPUNodePool))
  | quota (q : TenantQuotaCR) (deleted : Bool)
  | cycle (order : MapOrder) (faults : Faults) (now : String → Int) (namespaces : List String)

/-- The steps.  A created object has an empty status; an update changes neither the
    identity nor the specification; a cycle takes the request out of the channel and
    visits the namespaces in any order. -/
def step (maxAdmissionsPerCycle : Int) (c : Cluster) : Label → Option Cluster
  | .create w =>
      if accepted w ∧ c.api.lookup (key w) = none ∧ w.phase = .unset ∧ w.queuedAt = none
          ∧ w.deletionTimestamp = none then some (c.put w)
      else none
  | .update w =>
      match c.api.lookup (key w) with
      | some old =>
          if w.ns = old.ns ∧ w.name = old.name ∧ w.spec = old.spec then some (c.put w)
          else none
      | none => none
  | .delete k => (c.api.lookup k).map c.remove
  | .deliver i now => c.deliver i now
  | .pool ns listed =>
      let (mem, request) := handlePoolEvent c.mem ns listed
      some { c with mem := mem, trigger := c.trigger || request }
  | .quota q deleted =>
      let (mem, request) := handleQuotaEvent c.mem q deleted
      some { c with mem := mem, trigger := c.trigger || request }
  | .cycle order faults now namespaces =>
      if c.trigger ∧ namespaces.Perm c.mem.namespacesWithQueueAndFleet
          ∧ ∀ ns ∈ namespaces, now ns ≠ 0 then
        some (runSchedulingCycle (calls order faults) maxAdmissionsPerCycle now namespaces
          { c with trigger := false })
      else none

section
variable {maxAdmissionsPerCycle : Int} {c t : Cluster} {w : GPUWorkload}

theorem step_create (h : step maxAdmissionsPerCycle c (.create w) = some t) :
    (accepted w ∧ c.api.lookup (key w) = none ∧ w.phase = .unset ∧ w.queuedAt = none
      ∧ w.deletionTimestamp = none) ∧ t = c.put w := by
  simp only [step] at h
  split_ifs at h with hw
  exact ⟨hw, (Option.some.inj h).symm⟩

/-- An update is of an object that exists, and keeps its name and specification. -/
theorem step_update (h : step maxAdmissionsPerCycle c (.update w) = some t) :
    ∃ old, c.api.lookup (key w) = some old
      ∧ (w.ns = old.ns ∧ w.name = old.name ∧ w.spec = old.spec) ∧ t = c.put w := by
  simp only [step] at h
  cases hold : c.api.lookup (key w) with
  | none =>
      rw [hold] at h
      cases h
  | some old =>
      rw [hold] at h
      simp only at h
      split_ifs at h with hsame
      exact ⟨old, rfl, hsame, (Option.some.inj h).symm⟩

theorem step_cycle {order : MapOrder} {faults : Faults} {now : String → Int}
    {namespaces : List String}
    (h : step maxAdmissionsPerCycle c (.cycle order faults now namespaces) = some t) :
    (c.trigger ∧ namespaces.Perm c.mem.namespacesWithQueueAndFleet
      ∧ ∀ ns ∈ namespaces, now ns ≠ 0)
    ∧ t = runSchedulingCycle (calls order faults) maxAdmissionsPerCycle now namespaces
      { c with trigger := false } := by
  simp only [step] at h
  split_ifs at h with hcond
  exact ⟨hcond, (Option.some.inj h).symm⟩

end

theorem lookup_put_self (c : Cluster) (w : GPUWorkload) :
    (c.put w).api.lookup (key w) = some w :=
  AList.lookup_insert _

theorem lookup_put_ne (c : Cluster) {w : GPUWorkload} {k : Key} (h : k ≠ key w) :
    (c.put w).api.lookup k = c.api.lookup k :=
  AList.lookup_insert_ne h

/-! ## GPUs of the objects with a property -/

/-- `Scheduled` or `Running`. -/
def live (w : GPUWorkload) : Bool := w.phase = .scheduled || w.phase = .running

/-- The GPUs an object counts for. -/
def part (p : GPUWorkload → Bool) (w : GPUWorkload) : Int :=
  if p w then w.spec.gpuCount else 0

/-- The GPUs of the objects with a property. -/
def total (p : GPUWorkload → Bool) (m : GoMap Key GPUWorkload) : Int :=
  ((values m).map (part p)).sum

section
variable {m : GoMap Key GPUWorkload} {k : Key} {w : GPUWorkload} (p : GPUWorkload → Bool)

theorem total_erase (h : m.lookup k = some w) :
    total p (m.erase k) = total p m - part p w := by
  have hvalues : (values m).Perm (w :: values (m.erase k)) :=
    (entries_perm_of_lookup h).map (fun e : Sigma fun _ : Key => GPUWorkload => e.2)
  have hsum := (hvalues.map (part p)).sum_eq
  rw [List.map_cons, List.sum_cons] at hsum
  rw [total, total, hsum]
  omega

theorem total_insert (v : GPUWorkload) :
    total p (m.insert k v) = total p (m.erase k) + part p v := by
  have hnew : values (m.insert k v) = v :: values (m.erase k) := by
    rw [values, AList.entries_insert]
    rfl
  rw [total, total, hnew, List.map_cons, List.sum_cons]
  omega

theorem total_erase_of_none (h : m.lookup k = none) : total p (m.erase k) = total p m := by
  have hnot : k ∉ m := AList.lookup_eq_none.mp h
  have herase : (m.erase k).entries = m.entries := List.kerase_of_notMem_keys hnot
  rw [total, total, values, values, herase]

theorem total_add {p q r : GPUWorkload → Bool} (h : ∀ w, part p w = part q w + part r w) :
    total p m = total q m + total r m := by
  rw [total, total, total]
  induction values m with
  | nil => rfl
  | cons w rest ih =>
      rw [List.map_cons, List.map_cons, List.map_cons, List.sum_cons, List.sum_cons,
        List.sum_cons, ih, h w]
      omega

/-- The sum, over any set of keys that has those of the map. -/
theorem total_eq_sum {s : Finset Key} (h : ∀ k ∈ m.keys, k ∈ s) :
    total p m = ∑ k ∈ s, (m.lookup k).elim 0 (part p) := by
  have hkeys : total p m = (m.keys.map (fun k => (m.lookup k).elim 0 (part p))).sum := by
    rw [total, values, AList.keys, List.keys, List.map_map, List.map_map]
    refine congrArg List.sum (List.map_congr_left (fun e he => ?_))
    show part p e.2 = (m.lookup e.1).elim 0 (part p)
    rw [Option.mem_def.mp (AList.mem_lookup_iff.mpr he)]
    rfl
  rw [hkeys, ← List.sum_toFinset _ m.keys_nodup]
  refine Finset.sum_subset (fun k hk => h k (List.mem_toFinset.mp hk)) (fun k _ hk => ?_)
  rw [AList.lookup_eq_none.mpr (fun hmem => hk (List.mem_toFinset.mpr hmem))]
  rfl

/-- The sum reads the map through its lookups, and of an object only what it counts for. -/
theorem total_congr {m' : GoMap Key GPUWorkload}
    (h : ∀ k, (m.lookup k).elim 0 (part p) = (m'.lookup k).elim 0 (part p)) :
    total p m = total p m' := by
  rw [total_eq_sum p (s := (m.keys ++ m'.keys).toFinset)
      (fun k hk => List.mem_toFinset.mpr (List.mem_append_left _ hk)),
    total_eq_sum p (s := (m.keys ++ m'.keys).toFinset)
      (fun k hk => List.mem_toFinset.mpr (List.mem_append_right _ hk))]
  exact Finset.sum_congr rfl (fun k _ => h k)

end

/-! ## What the calls of a cycle write -/

/-- The ID of a resource with a legal name parses back to its key. -/
theorem workloadKey_of_accepted {w : GPUWorkload} (h : accepted w) :
    workloadKey w.id = some (w.ns, w.name) := by
  obtain ⟨hns, hname, hslash, -⟩ := h
  have hsep : "/" = String.singleton '/' := by decide
  have hcut : cut w.id '/' = some (w.ns, w.name) := by
    rw [GPUWorkload.id, workloadID, hsep]
    exact cut_join hslash
  rw [workloadKey, hcut]
  simp only [if_neg (not_or.mpr ⟨hns, hname⟩)]

/-- Marking a victim writes nothing, or moves an object to `Preempted`. -/
theorem markPreempted_cases (faults : Faults) (ns name : String) (c : Cluster) :
    (markPreempted faults ns name c).1 = c
      ∨ ∃ w, c.api.lookup (ns, workloadID ns name) = some w
        ∧ (markPreempted faults ns name c).1 = c.put { w with phase := .preempted } := by
  rw [markPreempted]
  split_ifs
  · exact Or.inl rfl
  · split
    · exact Or.inl rfl
    · rename_i w hw
      split_ifs
      · exact Or.inl rfl
      · exact Or.inr ⟨w, hw, rfl⟩

/-- An admission that fails writes nothing; one that succeeds finds the object, and
    writes nothing or moves it from `Queued` to `Scheduled`. -/
theorem patchAdmitted_cases (faults : Faults) (ns name : String) (c : Cluster) :
    patchAdmitted faults ns name c = (c, false)
      ∨ ∃ w, c.api.lookup (ns, workloadID ns name) = some w
        ∧ (w.phase ≠ .queued ∧ patchAdmitted faults ns name c = (c, true)
          ∨ w.phase = .queued
            ∧ patchAdmitted faults ns name c = (c.put { w with phase := .scheduled }, true)) := by
  rw [patchAdmitted]
  split_ifs
  · exact Or.inl rfl
  · split
    · exact Or.inl rfl
    · rename_i w hw
      split_ifs with hphase
      · exact Or.inr ⟨w, hw, Or.inl ⟨hphase, rfl⟩⟩
      · exact Or.inr ⟨w, hw, Or.inr ⟨not_not.mp hphase, rfl⟩⟩

/-- The change a write makes to the scheduler's maps, if it becomes an event. -/
theorem react_fst (c : Cluster) (x : Write) (now : Int) :
    (react c x now).1 = c.mem
      ∨ (react c x now).1 = (applyWorkloadToState c.mem ⟨x.workload, x.deleted, now⟩).1 := by
  rw [react]
  cases c.store.lookup x.key with
  | none =>
      cases hd : x.deleted with
      | false => exact Or.inr (by simp only [eventOf, hd]; exact handleWorkloadEvent_fst _ _ _)
      | true => exact Or.inl (by simp only [eventOf, hd])
  | some old =>
      cases hd : x.deleted with
      | false => exact Or.inr (by simp only [eventOf, hd]; exact handleWorkloadEvent_fst _ _ _)
      | true => exact Or.inr (by simp only [eventOf, hd]; exact handleWorkloadEvent_fst _ _ _)

/-- A delivery leaves fleets and quotas alone. -/
theorem react_frame (c : Cluster) (x : Write) (now : Int) :
    (react c x now).1.fleet = c.mem.fleet ∧ (react c x now).1.quotas = c.mem.quotas := by
  rcases react_fst c x now with hsame | happly
  · rw [hsame]
    exact ⟨rfl, rfl⟩
  · rw [happly]
    exact applyWorkloadToState_frame _ _

end GpuCluster
