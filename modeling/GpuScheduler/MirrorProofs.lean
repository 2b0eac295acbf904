import GpuScheduler.ClusterProofs

/-! # The scheduler's state mirrors the informer's store

    As long as every object moves forward through its life, the three maps of the
    scheduler's state are exactly the image of the informer's store, whatever versions
    the informer skips (`Mirrored`).  The store is behind the API by the pending writes,
    and nothing else: with no write pending, the state is the image of the API. -/

namespace GpuMirror

open GoMaps GpuInputs GpuCompat GpuFairness GpuSelection GpuWorkload GpuSchedulerState GpuCycle
  GpuCluster

/-- How far a phase is in the life of a workload. -/
def phaseRank : Phase → Nat
  | .unset => 0
  | .queued => 1
  | .scheduled => 2
  | .running => 3
  | _ => 4

/-- The map an object belongs to. -/
def bucket (w : GPUWorkload) : Option Bucket := Change.bucket ⟨w, false, 0⟩

/-- The slot of an object. -/
def slot (w : GPUWorkload) : Slot := slotOf (some ⟨w, false, 0⟩)

/-- A later version: the phase does not fall back, and a deletion is not undone. -/
structure Forward (w w' : GPUWorkload) : Prop where
  phase : phaseRank w.phase ≤ phaseRank w'.phase
  deletion : w.deletionTimestamp ≠ none → w'.deletionTimestamp ≠ none

instance (w w' : GPUWorkload) : Decidable (Forward w w') :=
  decidable_of_iff (phaseRank w.phase ≤ phaseRank w'.phase
      ∧ (w.deletionTimestamp ≠ none → w'.deletionTimestamp ≠ none))
    ⟨fun ⟨h, h'⟩ => ⟨h, h'⟩, fun h => ⟨h.1, h.2⟩⟩

/-- An object in one of the maps has its queue time. -/
def Dated (w : GPUWorkload) : Prop := bucket w ≠ none → ∃ t ∈ w.queuedAt, t ≠ 0

instance (w : GPUWorkload) : Decidable (Dated w) := inferInstanceAs (Decidable (_ → _))

/-- A property of identities and specifications, which no status update changes. -/
abbrev SpecProp := String → GPUWorkloadSpec → Prop

/-- What every version of every object is assumed to be. -/
structure Good (P : SpecProp) (w : GPUWorkload) : Prop where
  accepted : accepted w
  dated : Dated w
  spec : P w.id w.spec

/-! ## Slots -/

section
variable {w w' : GPUWorkload}

theorem bucket_eq_queued_iff :
    bucket w = some .queued ↔ w.deletionTimestamp = none ∧ w.phase = .queued := by
  rw [bucket, Change.bucket]
  cases w.deletionTimestamp <;> cases w.phase <;> simp

theorem bucket_eq_scheduled_iff :
    bucket w = some .scheduled ↔ w.deletionTimestamp = none ∧ w.phase = .scheduled := by
  rw [bucket, Change.bucket]
  cases w.deletionTimestamp <;> cases w.phase <;> simp

theorem bucket_eq_running_iff :
    bucket w = some .running ↔ w.deletionTimestamp = none ∧ w.phase = .running := by
  rw [bucket, Change.bucket]
  cases w.deletionTimestamp <;> cases w.phase <;> simp

theorem bucket_change (w : GPUWorkload) (now : Int) :
    Change.bucket ⟨w, false, now⟩ = bucket w := rfl

/-- A dated object in a map does not need the clock. -/
theorem Dated.since (hw : Dated w) (hb : bucket w ≠ none) (now : Int) :
    w.since now = w.since 0 := by
  obtain ⟨t, ht, -⟩ := hw hb
  rw [GPUWorkload.since, GPUWorkload.since, Option.mem_def.mp ht]
  rfl

theorem Dated.asQueued (hw : Dated w) (hb : bucket w ≠ none) (now : Int) :
    w.asQueued now = w.asQueued 0 := by
  rw [GPUWorkload.asQueued, GPUWorkload.asQueued, hw.since hb now]

theorem Dated.asRunning (hw : Dated w) (hb : bucket w ≠ none) (now : Int) :
    w.asRunning now = w.asRunning 0 := by
  rw [GPUWorkload.asRunning, GPUWorkload.asRunning, hw.since hb now]

/-- The slot of an object, field by field. -/
theorem slot_queued (w : GPUWorkload) :
    (slot w).queued = if bucket w = some .queued then some (w.asQueued 0) else none := by
  rw [slot, slotOf, bucket_change]
  rcases bucket w with - | (- | - | -) <;> rfl

theorem slot_scheduled (w : GPUWorkload) :
    (slot w).scheduled = if bucket w = some .scheduled then some (w.asRunning 0) else none := by
  rw [slot, slotOf, bucket_change]
  rcases bucket w with - | (- | - | -) <;> rfl

theorem slot_running (w : GPUWorkload) :
    (slot w).running = if bucket w = some .running then some (w.asRunning 0) else none := by
  rw [slot, slotOf, bucket_change]
  rcases bucket w with - | (- | - | -) <;> rfl

/-- **A LATER VERSION REPLACES THE SLOT**: nothing of an earlier one stays behind. -/
theorem apply_slot {s : Slot} (hs : s = .absent ∨ ∃ w, s = slot w ∧ Forward w w')
    (hw' : Dated w') (now : Int) : s.apply ⟨w', false, now⟩ = slot w' := by
  -- an earlier version is not in a map beyond the one of the later version
  have hnone : bucket w' = some .queued → s.scheduled = none ∧ s.running = none := by
    intro hb
    obtain ⟨hd, hp⟩ := bucket_eq_queued_iff.mp hb
    rcases hs with rfl | ⟨w, rfl, hf⟩
    · exact ⟨rfl, rfl⟩
    · have hphase := hf.phase
      rw [hp] at hphase
      rw [slot_scheduled, slot_running]
      constructor
      · rw [if_neg]
        intro h
        rw [(bucket_eq_scheduled_iff.mp h).2] at hphase
        exact absurd hphase (by decide)
      · rw [if_neg]
        intro h
        rw [(bucket_eq_running_iff.mp h).2] at hphase
        exact absurd hphase (by decide)
  have hnone' : bucket w' = some .scheduled → s.running = none := by
    intro hb
    obtain ⟨hd, hp⟩ := bucket_eq_scheduled_iff.mp hb
    rcases hs with rfl | ⟨w, rfl, hf⟩
    · rfl
    · have hphase := hf.phase
      rw [hp] at hphase
      rw [slot_running, if_neg]
      intro h
      rw [(bucket_eq_running_iff.mp h).2] at hphase
      exact absurd hphase (by decide)
  rw [Slot.apply, slot, slotOf, bucket_change, bucket_change]
  cases hb : bucket w' with
  | none => rfl
  | some b =>
    have hne : bucket w' ≠ none := by rw [hb]; exact Option.some_ne_none b
    cases b with
    | queued =>
        obtain ⟨h1, h2⟩ := hnone hb
        simp only [h1, h2, hw'.asQueued hne now]
    | scheduled =>
        simp only [hnone' hb, hw'.asRunning hne now]
    | running => simp only [hw'.asRunning hne now]

end

/-! ## Behind the API -/

/-- The pending writes to one object. -/
def pendingOf (c : Cluster) (k : Key) : List Write := c.pending.filter (fun x => x.key = k)

/-- How the store is behind the API on one object: by some versions, each later than the
    ones before, or by its removal. -/
inductive Lag (stored : Option GPUWorkload) (ps : List Write) (api : Option GPUWorkload) :
    Prop where
  | behind (ws : List GPUWorkload) (pending : ps = ws.map (fun w => ⟨w, false⟩))
      (last : api = (stored.toList ++ ws).getLast?)
      (order : (stored.toList ++ ws).Pairwise Forward) : Lag stored ps api
  | gone (w : GPUWorkload) (isStored : stored = some w) (pending : ps = [⟨w, true⟩])
      (removed : api = none) : Lag stored ps api

/-- **THE MIRROR**: the state is the image of the store, which is behind the API by the
    pending writes. -/
structure Mirrored (P : SpecProp) (c : Cluster) : Prop where
  api : ∀ k w, c.api.lookup k = some w → key w = k ∧ Good P w
  store : ∀ k w, c.store.lookup k = some w → key w = k ∧ Good P w
  pending : ∀ x ∈ c.pending, Good P x.workload
  lag : ∀ k, Lag (c.store.lookup k) (pendingOf c k) (c.api.lookup k)
  slots : ∀ ns id, c.mem.slotAt ns id = (c.store.lookup (ns, id)).elim .absent slot

theorem Forward.trans {w w' w'' : GPUWorkload} (h : Forward w w') (h' : Forward w' w'') :
    Forward w w'' :=
  ⟨h.phase.trans h'.phase, fun hd => h'.deletion (h.deletion hd)⟩

theorem Forward.refl (w : GPUWorkload) : Forward w w := ⟨le_refl _, id⟩

/-- Between two queued versions there are only queued ones. -/
theorem Forward.queued_between {w w' w'' : GPUWorkload} (h : Forward w w')
    (h' : Forward w' w'') (hw : bucket w = some .queued) (hw'' : bucket w'' = some .queued) :
    bucket w' = some .queued := by
  obtain ⟨-, hp⟩ := bucket_eq_queued_iff.mp hw
  obtain ⟨hd'', hp''⟩ := bucket_eq_queued_iff.mp hw''
  have hle := h.phase
  have hle' := h'.phase
  rw [hp] at hle
  rw [hp''] at hle'
  refine bucket_eq_queued_iff.mpr ⟨not_not.mp (fun hd => h'.deletion hd hd''), ?_⟩
  cases hp' : w'.phase <;> rw [hp'] at hle hle' <;> simp [phaseRank] at hle hle' ⊢

/-- An object that has left `Running` does not come back. -/
theorem Forward.not_running {w w' w'' : GPUWorkload} (h : Forward w w')
    (h' : Forward w' w'') (hw : w.phase = .running) (hw' : w'.phase ≠ .running) :
    w''.phase ≠ .running := by
  intro hw''
  have hle := h.phase
  have hle' := h'.phase
  rw [hw] at hle
  rw [hw''] at hle'
  cases hp' : w'.phase <;> rw [hp'] at hle hle' hw' <;> simp [phaseRank] at hle hle' hw'

section
variable {stored api : Option GPUWorkload} {ps : List Write} {w w' : GPUWorkload}

/-- With nothing pending, the store has the version of the API. -/
theorem Lag.eq_of_nil (h : Lag stored [] api) : stored = api := by
  cases h with
  | behind ws pending last order =>
      obtain rfl := List.map_eq_nil_iff.mp pending.symm
      rw [last, List.append_nil]
      cases stored <;> rfl
  | gone w isStored pending removed => cases pending

/-- The version of the API is not earlier than the stored one. -/
theorem Lag.forward (h : Lag stored ps (some w)) (hs : stored = some w') : Forward w' w := by
  cases h with
  | behind ws pending last order =>
      rw [hs] at last order
      rcases List.eq_nil_or_concat' ws with rfl | ⟨ws, v, rfl⟩
      · obtain rfl : w = w' := Option.some.inj last
        exact .refl w
      · rw [← List.append_assoc, List.getLast?_concat] at last
        obtain rfl := Option.some.inj last
        exact (List.pairwise_cons.mp order).1 w (by simp)
  | gone w isStored pending removed => cases removed

/-- A write of a later version. -/
theorem Lag.update (h : Lag stored ps (some w)) (hf : Forward w w') :
    Lag stored (ps ++ [⟨w', false⟩]) (some w') := by
  cases h with
  | behind ws pending last order =>
      refine .behind (ws ++ [w']) ?_ ?_ ?_
      · rw [pending, List.map_append]
        rfl
      · rw [← List.append_assoc, List.getLast?_concat]
      · rw [← List.append_assoc, List.pairwise_append]
        refine ⟨order, List.pairwise_singleton _ _, fun x hx y hy => ?_⟩
        rw [List.mem_singleton.mp hy]
        -- the version in the API is the last one, so all others are before it
        obtain ⟨l, hl⟩ := List.getLast?_eq_some_iff.mp last.symm
        rw [hl] at hx order
        rcases List.mem_append.mp hx with hx | hx
        · exact ((List.pairwise_append.mp order).2.2 x hx w (List.mem_singleton_self w)).trans hf
        · rw [List.mem_singleton.mp hx]
          exact hf
  | gone w isStored pending removed => cases removed

/-- The creation of an object whose earlier life is delivered. -/
theorem Lag.create (h : Lag stored [] none) (w : GPUWorkload) :
    Lag stored [⟨w, false⟩] (some w) := by
  rw [h.eq_of_nil]
  exact .behind [w] rfl rfl (List.pairwise_singleton _ _)

/-- The removal of an object whose versions are delivered. -/
theorem Lag.remove (h : Lag stored [] (some w)) : Lag stored [⟨w, true⟩] none :=
  .gone w h.eq_of_nil rfl rfl

/-- A delivery that skips the versions `before`: a version the stored one precedes, or
    the removal of the stored one. -/
theorem Lag.deliver {x : Write} {before after : List Write}
    (h : Lag stored (before ++ x :: after) api) :
    (x.deleted = false ∧ (∀ w ∈ stored, Forward w x.workload)
        ∧ Lag (some x.workload) after api)
      ∨ (x.deleted = true ∧ stored = some x.workload ∧ Lag none after api) := by
  cases h with
  | behind ws pending last order =>
      obtain ⟨ws₁, ws₂, rfl, hbefore, hafter⟩ := List.map_eq_append_iff.mp pending.symm
      obtain ⟨w, ws₃, rfl, hx, htail⟩ := List.map_eq_cons_iff.mp hafter
      subst hx
      refine Or.inl ⟨rfl, fun w' hw' => ?_, .behind ws₃ htail.symm ?_ ?_⟩
      · rw [Option.mem_def.mp hw'] at order
        exact (List.pairwise_cons.mp order).1 w (by simp)
      · rw [last, ← List.append_assoc, List.getLast?_append_cons]
        rfl
      · rw [← List.append_assoc] at order
        exact (List.pairwise_append.mp order).2.1
  | gone w isStored pending removed =>
      rcases before with - | ⟨y, before⟩
      · obtain ⟨rfl, rfl⟩ := List.cons.inj pending
        exact Or.inr ⟨rfl, isStored, .behind [] rfl removed List.Pairwise.nil⟩
      · exact absurd (congrArg List.length pending) (by simp)

end

/-! ## The mirror is kept -/

section
variable {P : SpecProp} {c : Cluster} {w w' : GPUWorkload}

theorem pendingOf_append (c : Cluster) (x : Write) (k : Key) :
    pendingOf { c with pending := c.pending ++ [x] } k
      = if x.key = k then pendingOf c k ++ [x] else pendingOf c k := by
  rw [pendingOf, pendingOf, List.filter_append]
  by_cases hk : x.key = k
  · rw [if_pos hk, List.filter_singleton, decide_eq_true hk]
    rfl
  · rw [if_neg hk, List.filter_singleton, decide_eq_false hk]
    exact List.append_nil _

/-- Nothing is mirrored by nothing. -/
theorem mirrored_empty (P : SpecProp) : Mirrored P ⟨∅, [], ∅, newSchedulerState, false⟩ :=
  ⟨fun _ _ h => (by cases h), fun _ _ h => (by cases h), fun _ h => (by cases h),
    fun _ => .behind [] rfl rfl List.Pairwise.nil, fun _ _ => rfl⟩

/-- A write keeps the mirror when the new version keeps the lag of its object. -/
theorem Mirrored.put (h : Mirrored P c) (hw : Good P w)
    (hlag : Lag (c.store.lookup (key w)) (pendingOf c (key w) ++ [⟨w, false⟩]) (some w)) :
    Mirrored P (c.put w) := by
  refine ⟨fun k v hv => ?_, h.store, fun x hx => ?_, fun k => ?_, h.slots⟩
  · by_cases hk : k = key w
    · subst hk
      obtain rfl := Option.some.inj ((lookup_put_self c w).symm.trans hv)
      exact ⟨rfl, hw⟩
    · rw [lookup_put_ne c hk] at hv
      exact h.api k v hv
  · rcases List.mem_append.mp hx with hx | hx
    · exact h.pending x hx
    · rw [List.mem_singleton.mp hx]
      exact hw
  · have hpending : pendingOf (c.put w) k = if key w = k then _ else _ :=
      pendingOf_append c ⟨w, false⟩ k
    rw [hpending]
    by_cases hk : key w = k
    · subst hk
      rw [if_pos rfl, lookup_put_self]
      exact hlag
    · rw [if_neg hk, lookup_put_ne c (Ne.symm hk)]
      exact h.lag k

/-- A write of a later version keeps the mirror. -/
theorem Mirrored.update (h : Mirrored P c) (hw : Good P w')
    (hold : c.api.lookup (key w') = some w) (hf : Forward w w') : Mirrored P (c.put w') := by
  have hlag := h.lag (key w')
  rw [hold] at hlag
  exact h.put hw (hlag.update hf)

/-- The creation of an object with nothing pending keeps the mirror. -/
theorem Mirrored.create (h : Mirrored P c) (hw : Good P w) (hnone : c.api.lookup (key w) = none)
    (hnil : pendingOf c (key w) = []) : Mirrored P (c.put w) := by
  have hlag := h.lag (key w)
  rw [hnone, hnil] at hlag
  exact h.put hw (by rw [hnil]; exact hlag.create w)

/-- The removal of an object with nothing pending keeps the mirror. -/
theorem Mirrored.remove (h : Mirrored P c) (hw : c.api.lookup (key w) = some w)
    (hnil : pendingOf c (key w) = []) : Mirrored P (c.remove w) := by
  have hlag := h.lag (key w)
  rw [hw, hnil] at hlag
  refine ⟨fun k v hv => ?_, h.store, fun x hx => ?_, fun k => ?_, h.slots⟩
  · by_cases hk : k = key w
    · subst hk
      rw [Cluster.remove, AList.lookup_erase] at hv
      cases hv
    · rw [Cluster.remove, AList.lookup_erase_ne hk] at hv
      exact h.api k v hv
  · rcases List.mem_append.mp hx with hx | hx
    · exact h.pending x hx
    · rw [List.mem_singleton.mp hx]
      exact (h.api (key w) w hw).2
  · have hpending : pendingOf (c.remove w) k = if key w = k then _ else _ :=
      pendingOf_append c ⟨w, true⟩ k
    rw [hpending]
    by_cases hk : key w = k
    · subst hk
      rw [if_pos rfl, hnil, Cluster.remove, AList.lookup_erase]
      exact hlag.remove
    · rw [if_neg hk, Cluster.remove, AList.lookup_erase_ne (Ne.symm hk)]
      exact h.lag k

/-- The mirror does not depend on fleets, quotas and the trigger. -/
theorem Mirrored.frame (h : Mirrored P c) {mem : SchedulerState} (trigger : Bool)
    (hmem : ∀ ns id, mem.slotAt ns id = c.mem.slotAt ns id) :
    Mirrored P { c with mem := mem, trigger := trigger } :=
  ⟨h.api, h.store, h.pending, h.lag, fun ns id => (hmem ns id).trans (h.slots ns id)⟩

end

/-! ## Delivery -/

section
variable {P : SpecProp} {c : Cluster} {x : Write} {now : Int}

/-- The reaction to a write moves the slot of its object by the change, unless it is the
    removal of an object the informer does not know. -/
theorem slotAt_react_self (h : x.deleted = true → c.store.lookup x.key ≠ none) :
    (react c x now).1.slotAt x.workload.ns x.workload.id
      = (c.mem.slotAt x.workload.ns x.workload.id).apply ⟨x.workload, x.deleted, now⟩ := by
  have happly : (react c x now).1
      = (applyWorkloadToState c.mem ⟨x.workload, x.deleted, now⟩).1 := by
    rw [react]
    cases hs : c.store.lookup x.key <;> cases hd : x.deleted
    · simp only [eventOf, hd, handleWorkloadEvent_fst, WorkloadEvent.change]
    · exact absurd hs (h hd)
    · simp only [eventOf, hd, handleWorkloadEvent_fst, WorkloadEvent.change]
    · simp only [eventOf, hd, handleWorkloadEvent_fst, WorkloadEvent.change]
  rw [happly]
  exact slotAt_applyWorkloadToState_self c.mem ⟨x.workload, x.deleted, now⟩

/-- FRAME: no other slot moves. -/
theorem slotAt_react_ne {ns id : String} (h : (ns, id) ≠ x.key) :
    (react c x now).1.slotAt ns id = c.mem.slotAt ns id := by
  rcases react_fst c x now with hsame | happly
  · rw [hsame]
  · rw [happly]
    exact slotAt_applyWorkloadToState_ne _ _ (fun e => h (Prod.ext e.1.symm e.2.symm))

/-- What a delivery takes out of the pending writes: those of its object up to it. -/
theorem pending_deliver (c : Cluster) {i : Nat} (hx : c.pending[i]? = some x) (k : Key) :
    (k = x.key → ∃ before, pendingOf c k = before ++ x :: pendingOf
        { c with pending :=
          (c.pending.take i).filter (fun y => y.key ≠ x.key) ++ c.pending.drop (i + 1) } k)
      ∧ (k ≠ x.key → pendingOf
        { c with pending :=
          (c.pending.take i).filter (fun y => y.key ≠ x.key) ++ c.pending.drop (i + 1) } k
        = pendingOf c k) := by
  obtain ⟨hi, hget⟩ := List.getElem?_eq_some_iff.mp hx
  have hsplit : c.pending = c.pending.take i ++ x :: c.pending.drop (i + 1) := by
    rw [← hget, List.cons_getElem_drop_succ, List.take_append_drop]
  have hall : pendingOf c k = (c.pending.take i).filter (fun y => y.key = k)
      ++ (x :: c.pending.drop (i + 1)).filter (fun y => y.key = k) := by
    rw [pendingOf, ← List.filter_append, ← hsplit]
  constructor
  · rintro rfl
    refine ⟨(c.pending.take i).filter (fun y => y.key = x.key), ?_⟩
    have hnone : ((c.pending.take i).filter (fun y => y.key ≠ x.key)).filter
        (fun y => y.key = x.key) = [] := by
      rw [List.filter_filter, List.filter_eq_nil_iff]
      simp
    rw [hall, pendingOf, List.filter_append, hnone, List.filter_cons_of_pos (by simp)]
    rfl
  · intro hk
    have hsame : ((c.pending.take i).filter (fun y => y.key ≠ x.key)).filter
        (fun y => y.key = k) = (c.pending.take i).filter (fun y => y.key = k) := by
      rw [List.filter_filter]
      refine List.filter_congr (fun y _ => ?_)
      by_cases hy : y.key = k
      · simp [hy, hk]
      · simp [hy]
    rw [hall, pendingOf, List.filter_append, hsame,
      List.filter_cons_of_neg (by simpa using Ne.symm hk)]

/-- The version a write leaves in the store. -/
def stored (x : Write) : Option GPUWorkload := if x.deleted then none else some x.workload

theorem lookup_store_deliver (m : GoMap Key GPUWorkload) (x : Write) (k : Key) :
    (if x.deleted then m.erase x.key else m.insert x.key x.workload).lookup k
      = if k = x.key then stored x else m.lookup k := by
  rw [stored]
  by_cases hk : k = x.key
  · subst hk
    rw [if_pos rfl]
    cases x.deleted
    · exact AList.lookup_insert _
    · exact AList.lookup_erase _ _
  · rw [if_neg hk]
    cases x.deleted
    · exact AList.lookup_insert_ne hk
    · exact AList.lookup_erase_ne hk

/-- The object of a delivery afterwards: its slot is the one of the stored version, and
    the versions still pending are later ones. -/
theorem Mirrored.deliver_self (h : Mirrored P c) (now : Int) {before after : List Write}
    (hp : pendingOf c x.key = before ++ x :: after) (hgood : Good P x.workload) :
    (react c x now).1.slotAt x.workload.ns x.workload.id = (stored x).elim .absent slot
      ∧ Lag (stored x) after (c.api.lookup x.key) := by
  have hlag := h.lag x.key
  rw [hp] at hlag
  have hslot : c.mem.slotAt x.workload.ns x.workload.id
      = (c.store.lookup x.key).elim .absent slot := h.slots _ _
  rw [stored]
  rcases hlag.deliver with ⟨hd, hforward, hlag'⟩ | ⟨hd, hstored, hlag'⟩
  · rw [slotAt_react_self (fun e => by cases hd.symm.trans e), hslot, hd]
    refine ⟨apply_slot ?_ hgood.dated now, hlag'⟩
    cases hs : c.store.lookup x.key with
    | none => exact Or.inl rfl
    | some w => exact Or.inr ⟨w, rfl, hforward w hs⟩
  · rw [slotAt_react_self (fun _ => by rw [hstored]; exact Option.some_ne_none _), hd]
    exact ⟨by simp [Slot.apply, Change.bucket], hlag'⟩

/-- **A DELIVERY KEEPS THE MIRROR**, whatever versions it skips. -/
theorem Mirrored.deliver (h : Mirrored P c) {i : Nat} {c' : Cluster}
    (hc' : c.deliver i now = some c') : Mirrored P c' := by
  obtain ⟨x, hx, rfl⟩ := Option.map_eq_some_iff.mp hc'
  have hgood : Good P x.workload := h.pending x (List.mem_of_getElem? hx)
  obtain ⟨before, hbefore⟩ := (pending_deliver c hx x.key).1 rfl
  obtain ⟨hself, hlag⟩ := h.deliver_self now hbefore hgood
  refine ⟨h.api, fun k w hw => ?_, fun y hy => ?_, fun k => ?_, fun ns id => ?_⟩
  · rw [lookup_store_deliver] at hw
    split_ifs at hw with hk
    · rw [stored] at hw
      split_ifs at hw
      obtain rfl := Option.some.inj hw
      exact ⟨hk.symm, hgood⟩
    · exact h.store k w hw
  · rcases List.mem_append.mp hy with hy | hy
    · exact h.pending y (List.mem_of_mem_take (List.mem_of_mem_filter hy))
    · exact h.pending y (List.mem_of_mem_drop hy)
  · rw [lookup_store_deliver]
    by_cases hk : k = x.key
    · subst hk
      rw [if_pos rfl]
      exact hlag
    · rw [if_neg hk]
      have hsame := (pending_deliver c hx k).2 hk
      rw [pendingOf] at hsame ⊢
      rw [hsame]
      exact h.lag k
  · rw [lookup_store_deliver]
    by_cases hk : (ns, id) = x.key
    · obtain ⟨rfl, rfl⟩ := Prod.mk.inj hk
      rw [if_pos hk]
      exact hself
    · rw [if_neg hk, ← h.slots ns id]
      exact slotAt_react_ne hk

end

/-! ## Cycles -/

section
variable {P : SpecProp} {c : Cluster} {w : GPUWorkload}

theorem Good.preempted (h : Good P w) : Good P { w with phase := .preempted } := by
  refine ⟨h.accepted, fun hb => absurd ?_ hb, h.spec⟩
  rw [bucket, Change.bucket]
  split_ifs <;> rfl

theorem Good.scheduled (h : Good P w) (hq : w.phase = .queued) :
    Good P { w with phase := .scheduled } := by
  refine ⟨h.accepted, fun hb => h.dated ?_, h.spec⟩
  by_cases hd : w.deletionTimestamp = none
  · rw [bucket_eq_queued_iff.mpr ⟨hd, hq⟩]
    exact Option.some_ne_none _
  · exact absurd (by simp [bucket, Change.bucket, hd]) hb

theorem Mirrored.markPreempted (h : Mirrored P c) (faults : Faults) (ns name : String) :
    Mirrored P (markPreempted faults ns name c).1 := by
  rcases markPreempted_cases faults ns name c with hsame | ⟨w, hw, hput⟩
  · rw [hsame]
    exact h
  · obtain ⟨hkey, hgood⟩ := h.api _ w hw
    have hkey' : key { w with phase := Phase.preempted } = (ns, workloadID ns name) := hkey
    rw [hput]
    refine h.update (w := w) hgood.preempted (by rw [hkey']; exact hw) ⟨?_, id⟩
    show phaseRank w.phase ≤ phaseRank .preempted
    cases w.phase <;> simp [phaseRank]

theorem Mirrored.patchAdmitted (h : Mirrored P c) (faults : Faults) (ns name : String) :
    Mirrored P (patchAdmitted faults ns name c).1 := by
  rcases patchAdmitted_cases faults ns name c with hsame | ⟨w, hw, ⟨-, hsame⟩ | ⟨hq, hput⟩⟩
  · rw [hsame]
    exact h
  · rw [hsame]
    exact h
  · obtain ⟨hkey, hgood⟩ := h.api _ w hw
    have hkey' : key { w with phase := Phase.scheduled } = (ns, workloadID ns name) := hkey
    rw [hput]
    refine h.update (w := w) (hgood.scheduled hq) (by rw [hkey']; exact hw) ⟨?_, id⟩
    show phaseRank w.phase ≤ phaseRank .scheduled
    rw [hq]
    decide

end

/-! ## The snapshot is the image of the store -/

/-- Every object is held under its own key. -/
def Keyed (m : GoMap Key GPUWorkload) : Prop := ∀ k w, m.lookup k = some w → key w = k

/-- The objects of a namespace in one of the maps. -/
def objectsIn (m : GoMap Key GPUWorkload) (ns : String) (b : Bucket) : List GPUWorkload :=
  (values m).filter (fun w => w.ns = ns ∧ bucket w = some b)

/-- `Scheduled` or `Running`, and not being deleted. -/
def counted (w : GPUWorkload) : Bool :=
  bucket w = some .scheduled || bucket w = some .running

/-- The object counts against the tenant's cap. -/
def commits (ns tenant : String) (w : GPUWorkload) : Bool :=
  w.ns = ns && w.spec.tenant = tenant && counted w

/-- The object is a possible victim on the profile. -/
def holds (ns profile : String) (w : GPUWorkload) : Bool :=
  w.ns = ns && normalizeProfileName w.spec.profile = profile && bucket w = some .running

section
variable {m : GoMap Key GPUWorkload} {ns : String} {b : Bucket} {w : GPUWorkload}

theorem mem_objectsIn (hm : Keyed m) :
    w ∈ objectsIn m ns b ↔ m.lookup (key w) = some w ∧ w.ns = ns ∧ bucket w = some b := by
  rw [objectsIn, List.mem_filter, mem_values, decide_eq_true_iff]
  refine and_congr_left (fun _ => ⟨?_, fun h => ⟨key w, h⟩⟩)
  rintro ⟨k, hk⟩
  rw [hm k w hk]
  exact hk

/-- A map with, under each ID, the record of the object of that ID if it is in the bucket,
    has the records of the objects in the bucket as its values. -/
theorem values_perm_objectsIn {R : Type} (record : GPUWorkload → R) (name : R → String)
    (hname : ∀ w, name (record w) = w.id) (hm : Keyed m) {im : GoMap String R}
    (hlookup : ∀ id, im.lookup id
      = (m.lookup (ns, id)).bind (fun w => if bucket w = some b then some (record w) else none)) :
    (values im).Perm ((objectsIn m ns b).map record) := by
  have hmem : ∀ id r, im.lookup id = some r ↔ ∃ w, m.lookup (ns, id) = some w
      ∧ bucket w = some b ∧ record w = r := by
    intro id r
    rw [hlookup, Option.bind_eq_some_iff]
    refine exists_congr (fun w => and_congr_right (fun _ => ?_))
    by_cases hb : bucket w = some b <;> simp [hb]
  have hown : ∀ id r, im.lookup id = some r → name r = id := by
    intro id r h
    obtain ⟨w, hw, -, rfl⟩ := (hmem id r).mp h
    rw [hname]
    exact (Prod.mk.inj (hm _ w hw)).2
  have hleft : (values im).Nodup := by
    refine List.Nodup.of_map name ?_
    rw [map_values_eq_keys hown]
    exact im.keys_nodup
  have hvalues : (values m).Nodup := by
    refine List.Nodup.of_map key ?_
    rw [map_values_eq_keys hm]
    exact m.keys_nodup
  have hright : ((objectsIn m ns b).map record).Nodup := by
    refine (hvalues.filter _).map_on (fun x hx y hy hxy => ?_)
    obtain ⟨hx, hxns, -⟩ := (mem_objectsIn hm).mp hx
    obtain ⟨hy, hyns, -⟩ := (mem_objectsIn hm).mp hy
    have hid : x.id = y.id := by rw [← hname, ← hname, hxy]
    have hkey : key x = key y := Prod.ext (hxns.trans hyns.symm) hid
    rw [hkey, hy] at hx
    exact (Option.some.inj hx).symm
  refine (List.perm_ext_iff_of_nodup hleft hright).mpr (fun r => ?_)
  rw [mem_values, List.mem_map]
  constructor
  · rintro ⟨id, hid⟩
    obtain ⟨w, hw, hb, hr⟩ := (hmem id r).mp hid
    have hkey := hm _ w hw
    exact ⟨w, (mem_objectsIn hm).mpr ⟨by rw [hkey]; exact hw, (Prod.mk.inj hkey).1, hb⟩, hr⟩
  · rintro ⟨w, hw, hr⟩
    obtain ⟨hlook, hns, hb⟩ := (mem_objectsIn hm).mp hw
    have hkey : key w = (ns, w.id) := Prod.ext hns rfl
    exact ⟨w.id, (hmem w.id r).mpr ⟨w, by rw [← hkey]; exact hlook, hb, hr⟩⟩

/-- A sum over the records of some objects is a total over all objects. -/
theorem sumOf_objectsIn {R : Type} (record : GPUWorkload → R) (label : R → String)
    {amount : R → Int} (hamount : ∀ w, amount (record w) = w.spec.gpuCount) (l : String) :
    sumOf label amount l ((objectsIn m ns b).map record)
      = total (fun w => w.ns = ns && label (record w) = l && bucket w = some b) m := by
  rw [total, objectsIn]
  induction values m with
  | nil => rfl
  | cons w rest ih =>
      rw [List.map_cons, List.sum_cons, ← ih, part]
      by_cases hw : w.ns = ns ∧ bucket w = some b
      · rw [List.filter_cons_of_pos (by simpa using hw), List.map_cons, sumOf_cons]
        simp [hw.1, hw.2, hamount]
      · rw [List.filter_cons_of_neg (by simpa using hw)]
        have hne : ¬(w.ns = ns ∧ label (record w) = l ∧ bucket w = some b) :=
          fun h => hw ⟨h.1, h.2.2⟩
        rw [if_neg (by simpa [and_assoc] using hne), Int.zero_add]

end

section
variable {P : SpecProp} {c : Cluster} {ns : String}

theorem Mirrored.keyed_store (h : Mirrored P c) : Keyed c.store := fun k w hw => (h.store k w hw).1

theorem Mirrored.keyed_api (h : Mirrored P c) : Keyed c.api := fun k w hw => (h.api k w hw).1

/-- The lists of a snapshot are the records of the objects of a map. -/
structure Image (m : GoMap Key GPUWorkload) (ns : String) (inputs : SchedulingInputs) :
    Prop where
  queued : inputs.queuedWorkloads.Perm ((objectsIn m ns .queued).map (fun w => w.asQueued 0))
  scheduled : inputs.scheduledWorkloads.Perm
    ((objectsIn m ns .scheduled).map (fun w => w.asRunning 0))
  running : inputs.runningWorkloads.Perm
    ((objectsIn m ns .running).map (fun w => w.asRunning 0))

/-- **EVERY SNAPSHOT IS THE IMAGE OF THE STORE.** -/
theorem Mirrored.image (h : Mirrored P c) {inputs : SchedulingInputs}
    (hsnap : IsSnapshot c.mem ns inputs) : Image c.store ns inputs := by
  refine ⟨hsnap.queued.trans (values_perm_objectsIn (fun w => w.asQueued 0)
      QueuedWorkload.workloadID (fun _ => rfl) h.keyed_store (fun id => ?_)),
    hsnap.scheduled.trans (values_perm_objectsIn (fun w => w.asRunning 0)
      RunningWorkload.workloadID (fun _ => rfl) h.keyed_store (fun id => ?_)),
    hsnap.running.trans (values_perm_objectsIn (fun w => w.asRunning 0)
      RunningWorkload.workloadID (fun _ => rfl) h.keyed_store (fun id => ?_))⟩
  · have hslot : (inner c.mem.queued ns).lookup id = _ :=
      congrArg Slot.queued (h.slots ns id)
    rw [hslot]
    cases c.store.lookup (ns, id) with
    | none => rfl
    | some w => exact slot_queued w
  · have hslot : (inner c.mem.scheduled ns).lookup id = _ :=
      congrArg Slot.scheduled (h.slots ns id)
    rw [hslot]
    cases c.store.lookup (ns, id) with
    | none => rfl
    | some w => exact slot_scheduled w
  · have hslot : (inner c.mem.running ns).lookup id = _ :=
      congrArg Slot.running (h.slots ns id)
    rw [hslot]
    cases c.store.lookup (ns, id) with
    | none => rfl
    | some w => exact slot_running w

variable {m : GoMap Key GPUWorkload} {inputs : SchedulingInputs}

/-- What a tenant has committed in a snapshot. -/
theorem Image.committed (h : Image m ns inputs) (tenant : String) :
    committed inputs tenant = total (commits ns tenant) m := by
  have hrecords : ∀ b, sumOf RunningWorkload.tenant RunningWorkload.gpuCount tenant
      ((objectsIn m ns b).map (fun w => w.asRunning 0)) = total _ m :=
    fun b => sumOf_objectsIn (fun w => w.asRunning 0) RunningWorkload.tenant (fun _ => rfl) tenant
  rw [GpuCycle.committed, tenantGPUs, sumOf_append, sumOf_perm _ _ tenant h.scheduled,
    sumOf_perm _ _ tenant h.running, hrecords, hrecords]
  refine (total_add (fun w => ?_)).symm
  have htenant : (w.asRunning 0).tenant = w.spec.tenant := rfl
  rw [part, part, part, commits, counted, htenant]
  rcases hb : bucket w with - | (- | - | -) <;> simp

/-- What a profile holds in a snapshot. -/
theorem Image.held (h : Image m ns inputs) (profile : String) :
    held profile inputs.runningWorkloads = total (holds ns profile) m := by
  have hsum : sumOf RunningWorkload.profile RunningWorkload.gpuCount profile
      inputs.runningWorkloads = total _ m :=
    (sumOf_perm _ _ profile h.running).trans
      (sumOf_objectsIn (fun w => w.asRunning 0) RunningWorkload.profile (fun _ => rfl) profile)
  exact hsum

end

/-! ## The snapshot is valid -/

section
variable {w : GPUWorkload}

/-- The record of the object passes the checks `Validate` makes on one workload. -/
def Checked : SpecProp := fun id spec =>
  WorkloadFields.Ok ⟨id, spec.tenant, none, spec.gpuCount, spec.gpuMemoryMiB,
    normalizeProfileName spec.profile, spec.tokens, spec.kind⟩

instance (id : String) (spec : GPUWorkloadSpec) : Decidable (Checked id spec) :=
  inferInstanceAs (Decidable (WorkloadFields.Ok _))

/-- The records of a checked object pass the checks on one workload. -/
theorem Good.fields (h : Good Checked w) (hb : bucket w ≠ none) :
    (w.asQueued 0).fields.Ok ∧ (w.asRunning 0).scheduledFields.Ok
      ∧ (w.asRunning 0).runningFields.Ok := by
  obtain ⟨t, ht, hne⟩ := h.dated hb
  have hsince : w.since 0 = t := by
    rw [GPUWorkload.since, Option.mem_def.mp ht]
    rfl
  have hc := h.spec
  have htime : ∀ field, (if w.since 0 = 0 then some field else none)
      = (none : Option TimeField) := by
    intro field
    rw [hsince, if_neg hne]
  exact ⟨⟨hc.workloadID, hc.tenant, htime _, hc.gpuCount, hc.gpuMemoryMiB, hc.profile,
      hc.tokens, hc.kind⟩,
    ⟨hc.workloadID, hc.tenant, rfl, hc.gpuCount, hc.gpuMemoryMiB, hc.profile, hc.tokens,
      hc.kind⟩,
    ⟨hc.workloadID, hc.tenant, htime _, hc.gpuCount, hc.gpuMemoryMiB, hc.profile, hc.tokens,
      hc.kind⟩⟩

variable {c : Cluster} {ns : String} {inputs : SchedulingInputs} {order : MapOrder}

/-- The objects of a bucket are good and in the bucket. -/
theorem Mirrored.good_objectsIn {P : SpecProp} (h : Mirrored P c) {b : Bucket}
    (hw : w ∈ objectsIn c.store ns b) : Good P w ∧ bucket w ≠ none := by
  obtain ⟨hlook, -, hb⟩ := (mem_objectsIn h.keyed_store).mp hw
  exact ⟨(h.store _ w hlook).2, by rw [hb]; exact Option.some_ne_none b⟩

/-- **ONLY FLEET AND QUOTAS CAN FAIL**: the workload part of `Validate` always passes. -/
theorem Mirrored.valid (h : Mirrored Checked c)
    (hsnap : c.mem.snapshotForNamespace order ns = some inputs)
    (hfleet : FleetOk inputs.fleetFreeCapacity)
    (hquotas : ∀ e ∈ inputs.tenantQuotas.entries, QuotaOk e.1 e.2) : Valid inputs := by
  have himage := h.image (snapshot_spec hsnap)
  refine ⟨fun q hq => ?_, fun r hr => ?_, fun r hr => ?_, ?_, hfleet, hquotas⟩
  · obtain ⟨w, hw, rfl⟩ := List.mem_map.mp (himage.queued.subset hq)
    obtain ⟨hgood, hb⟩ := h.good_objectsIn hw
    exact (hgood.fields hb).1
  · obtain ⟨w, hw, rfl⟩ := List.mem_map.mp (himage.scheduled.subset hr)
    obtain ⟨hgood, hb⟩ := h.good_objectsIn hw
    exact (hgood.fields hb).2.1
  · obtain ⟨w, hw, rfl⟩ := List.mem_map.mp (himage.running.subset hr)
    obtain ⟨hgood, hb⟩ := h.good_objectsIn hw
    exact (hgood.fields hb).2.2
  · refine nodup_ids_of_slots hsnap (fun id => ?_) (fun id => ?_)
    · rw [h.slots]
      cases c.store.lookup (ns, id) with
      | none => exact exclusive_slotOf none
      | some w => exact exclusive_slotOf (some ⟨w, false, 0⟩)
    · rw [h.slots]
      cases hw : c.store.lookup (ns, id) with
      | none => exact named_slotOf (c := none) (fun _ hc => by cases hc)
      | some w =>
          have hid : ∀ x ∈ some (Change.mk w false 0), x.workload.id = id := by
            intro x hx
            obtain rfl := Option.some.inj (Option.mem_def.mp hx)
            exact (Prod.mk.inj (h.keyed_store _ w hw)).2
          exact named_slotOf hid

end

end GpuMirror
