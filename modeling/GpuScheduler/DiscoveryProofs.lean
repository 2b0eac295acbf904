import GpuScheduler.ClaimProofs
import GpuScheduler.GoJsonProofs
import GpuScheduler.GoStringsProofs

/-! # How workers discover scheduled workloads

    A worker finds claimable workloads in one of three ways.  With polling it lists them every
    few seconds.  With a watch it sleeps on a channel of capacity one, which the handlers of
    an informer fill when a claimable object reaches the informer's store.  With a queue it
    waits for messages, one for each workload that the operator has scheduled.

    Neither the watch nor the queue has a periodic list to fall back on, so a wake-up that is
    lost is lost for good.  Exactly one event loses it in the watch (`watch_awake_iff`): a claim
    that fails for another reason than a conflict, while nothing else keeps the worker awake.
    Then the worker sleeps until another object becomes claimable (`stranded_until_delivery`).
    In the queue a message is consumed before it has had its effect, and every failure
    between the operator's write and the claim loses it (`queue_carried_iff`). -/

namespace GpuDiscovery

open GoStrings GoMaps GoJson StepRuns GpuWorkload GpuClaim

/-! ## The watch -/

/-- Where `RunDeploymentLoopWatch` is: at the channel, about to look into the store, with
    `claimWorkload`, or inside `runOneWorkload`. -/
inductive Loop where
  | waiting
  | woken
  | claiming (w : GPUWorkload)
  | running

/-- What `claimWorkload` returns. -/
inductive ClaimResult where
  | claimed | conflict | failed
  deriving DecidableEq, Repr

/-- The API server with the objects of a namespace, the watch events that have not reached the
    informer, the informer's store, the notifications that have not reached the handlers, the
    channel, and the loop. -/
structure Watch where
  server : GoMap String GPUWorkload
  stream : List (String × Option GPUWorkload)
  store : GoMap String GPUWorkload
  pending : List GPUWorkload
  trigger : Bool
  loop : Loop

/-- A write by anybody; the informer takes an event from the watch; the handlers see a
    notification; the loop wakes, looks for a workload in some order of the store, claims, and
    comes back from a run. -/
inductive WatchEvent where
  | write (name : String) (object : Option GPUWorkload)
  | deliver
  | notify
  | wake
  | find (order : List String)
  | claim (result : ClaimResult)
  | finish

/-- An event of the watch, applied to a map of objects. -/
def apply (m : GoMap String GPUWorkload) : String × Option GPUWorkload → GoMap String GPUWorkload
  | (name, some w) => m.insert name w
  | (name, none) => m.erase name

/-- `findClaimableFromStore`. -/
def findClaimableFromStore (store : GoMap String GPUWorkload) (order : List String) :
    Option GPUWorkload :=
  order.findSome? (fun name => (store.lookup name).filter (fun w => claimable w))

/-- One event. -/
def watchStep (s : Watch) : WatchEvent → Option Watch
  | .write name object =>
      some { s with
        server := apply s.server (name, object)
        stream := s.stream ++ [(name, object)] }
  | .deliver =>
      match s.stream with
      | [] => none
      | (name, some w) :: stream =>
          some { s with stream := stream, store := s.store.insert name w,
                        pending := s.pending ++ [w] }
      | (name, none) :: stream => some { s with stream := stream, store := s.store.erase name }
  | .notify =>
      match s.pending with
      | [] => none
      | w :: pending => some { s with pending := pending, trigger := s.trigger || claimable w }
  | .wake =>
      match s.loop with
      | .waiting => if s.trigger then some { s with trigger := false, loop := .woken } else none
      | _ => none
  | .find order =>
      match s.loop with
      | .woken =>
          if order.Perm s.store.keys then
            match findClaimableFromStore s.store order with
            | some w => some { s with loop := .claiming w }
            | none => some { s with loop := .waiting }
          else none
      | _ => none
  | .claim result =>
      match s.loop with
      | .claiming _ =>
          match result with
          | .claimed => some { s with loop := .running }
          | .conflict => some { s with trigger := true, loop := .waiting }
          | .failed => some { s with loop := .waiting }
      | _ => none
  | .finish =>
      match s.loop with
      | .running => some { s with trigger := true, loop := .waiting }
      | _ => none

/-- The loop begins with the objects that the informer has listed, whose notifications the
    handlers may not have seen, and with a trigger. -/
def watchStart (objects : GoMap String GPUWorkload) : Watch :=
  ⟨objects, [], objects, objects.entries.map (fun e => e.2), true, .waiting⟩

/-- Some object of a map is claimable. -/
def HasClaimable (m : GoMap String GPUWorkload) : Prop :=
  ∃ name w, m.lookup name = some w ∧ claimable w = true

/-- Something keeps the worker awake, or there is nothing for it in the store. -/
def Awake (s : Watch) : Prop :=
  s.loop ≠ .waiting ∨ s.trigger = true ∨ (∃ w ∈ s.pending, claimable w = true)
    ∨ ¬ HasClaimable s.store

/-- A claim fails for another reason than a conflict, and nothing else keeps the worker
    awake. -/
def Drops (s : Watch) (e : WatchEvent) : Prop :=
  e = .claim .failed ∧ s.trigger = false ∧ (∀ w ∈ s.pending, claimable w = false)
    ∧ HasClaimable s.store

section
variable {s t : Watch} {e : WatchEvent}

/-- The store finds nothing exactly when none of its objects is claimable. -/
theorem findClaimableFromStore_none_iff {store : GoMap String GPUWorkload} {order : List String}
    (horder : order.Perm store.keys) :
    findClaimableFromStore store order = none ↔ ¬ HasClaimable store := by
  rw [findClaimableFromStore, List.findSome?_eq_none_iff]
  constructor
  · rintro h ⟨name, w, hw, hclaimable⟩
    have hnone := h name (horder.mem_iff.mpr (mem_keys_iff.mpr ⟨w, hw⟩))
    rw [hw, Option.filter_some, if_pos hclaimable] at hnone
    cases hnone
  · intro h name _
    cases hw : store.lookup name with
    | none => rfl
    | some w =>
        rw [Option.filter_some, if_neg]
        exact fun hclaimable => h ⟨name, w, hw, hclaimable⟩

/-- What a store has to offer after an object has been put in its place. -/
theorem hasClaimable_insert {m : GoMap String GPUWorkload} {name : String} {w : GPUWorkload}
    (hw : claimable w = false) (h : HasClaimable (m.insert name w)) : HasClaimable m := by
  obtain ⟨name', w', hw', hclaimable⟩ := h
  rcases lookup_insert_eq_some.mp hw' with ⟨-, rfl⟩ | ⟨-, hw'⟩
  · rw [hw] at hclaimable
    cases hclaimable
  · exact ⟨name', w', hw', hclaimable⟩

theorem hasClaimable_erase {m : GoMap String GPUWorkload} {name : String}
    (h : HasClaimable (m.erase name)) : HasClaimable m := by
  obtain ⟨name', w', hw', hclaimable⟩ := h
  exact ⟨name', w', (lookup_erase_eq_some.mp hw').2, hclaimable⟩

/-- What one event does, with its guard. -/
inductive WatchEffect (s : Watch) : WatchEvent → Watch → Prop where
  | write (name : String) (object : Option GPUWorkload) : WatchEffect s (.write name object)
      { s with server := apply s.server (name, object), stream := s.stream ++ [(name, object)] }
  | stored (name : String) (w : GPUWorkload) (stream : List (String × Option GPUWorkload)) :
      s.stream = (name, some w) :: stream → WatchEffect s .deliver
        { s with stream := stream, store := s.store.insert name w, pending := s.pending ++ [w] }
  | removed (name : String) (stream : List (String × Option GPUWorkload)) :
      s.stream = (name, none) :: stream → WatchEffect s .deliver
        { s with stream := stream, store := s.store.erase name }
  | notify (w : GPUWorkload) (pending : List GPUWorkload) : s.pending = w :: pending →
      WatchEffect s .notify { s with pending := pending, trigger := s.trigger || claimable w }
  | wake : s.loop = .waiting → s.trigger = true →
      WatchEffect s .wake { s with trigger := false, loop := .woken }
  | found (order : List String) (w : GPUWorkload) : s.loop = .woken →
      WatchEffect s (.find order) { s with loop := .claiming w }
  | nothing (order : List String) : s.loop = .woken → ¬ HasClaimable s.store →
      WatchEffect s (.find order) { s with loop := .waiting }
  | claimed (w : GPUWorkload) : s.loop = .claiming w →
      WatchEffect s (.claim .claimed) { s with loop := .running }
  | conflict (w : GPUWorkload) : s.loop = .claiming w →
      WatchEffect s (.claim .conflict) { s with trigger := true, loop := .waiting }
  | failed (w : GPUWorkload) : s.loop = .claiming w →
      WatchEffect s (.claim .failed) { s with loop := .waiting }
  | finish : s.loop = .running → WatchEffect s .finish { s with trigger := true, loop := .waiting }

theorem watchEffect_of_step (h : watchStep s e = some t) : WatchEffect s e t := by
  cases e with
  | write name object =>
      rw [← Option.some.inj h]
      exact .write name object
  | deliver =>
      simp only [watchStep] at h
      split at h
      · cases h
      · rename_i name w stream hstream
        rw [← Option.some.inj h]
        exact .stored name w stream hstream
      · rename_i name stream hstream
        rw [← Option.some.inj h]
        exact .removed name stream hstream
  | notify =>
      simp only [watchStep] at h
      split at h
      · cases h
      · rename_i w pending hpending
        rw [← Option.some.inj h]
        exact .notify w pending hpending
  | wake =>
      simp only [watchStep] at h
      split at h
      · rename_i hloop
        split_ifs at h with htrigger
        rw [← Option.some.inj h]
        exact .wake hloop htrigger
      · cases h
  | find order =>
      simp only [watchStep] at h
      split at h
      · rename_i hloop
        split_ifs at h with horder
        cases hfind : findClaimableFromStore s.store order with
        | some w =>
            rw [hfind] at h
            rw [← Option.some.inj h]
            exact .found order w hloop
        | none =>
            rw [hfind] at h
            rw [← Option.some.inj h]
            exact .nothing order hloop ((findClaimableFromStore_none_iff horder).mp hfind)
      · cases h
  | claim result =>
      simp only [watchStep] at h
      split at h
      · rename_i w hloop
        cases result with
        | claimed =>
            rw [← Option.some.inj h]
            exact .claimed w hloop
        | conflict =>
            rw [← Option.some.inj h]
            exact .conflict w hloop
        | failed =>
            rw [← Option.some.inj h]
            exact .failed w hloop
      · cases h
  | finish =>
      simp only [watchStep] at h
      split at h
      · rename_i hloop
        rw [← Option.some.inj h]
        exact .finish hloop
      · cases h

/-- An event other than a failed claim drops nothing. -/
theorem not_drops (h : e ≠ .claim .failed) : ¬ Drops s e := fun hdrops => h hdrops.1

/-- **ONE EVENT** keeps the worker awake, unless it drops a wake-up. -/
theorem WatchEffect.awake_iff (hs : Awake s) (h : WatchEffect s e t) : Awake t ↔ ¬ Drops s e := by
  cases h with
  | write name object => exact iff_of_true hs (not_drops (fun h => by cases h))
  | stored name w stream hstream =>
      refine iff_of_true ?_ (not_drops (fun h => by cases h))
      rcases hs with hloop | htrigger | ⟨w', hw', hclaimable⟩ | hnone
      · exact Or.inl hloop
      · exact Or.inr (Or.inl htrigger)
      · exact Or.inr (Or.inr (Or.inl ⟨w', List.mem_append_left _ hw', hclaimable⟩))
      · cases hw : claimable w with
        | true =>
            -- the object is stored together with its notification
            exact Or.inr (Or.inr (Or.inl ⟨w, List.mem_append_right _ (List.mem_singleton.mpr rfl),
              hw⟩))
        | false => exact Or.inr (Or.inr (Or.inr (fun h => hnone (hasClaimable_insert hw h))))
  | removed name stream hstream =>
      refine iff_of_true ?_ (not_drops (fun h => by cases h))
      rcases hs with hloop | htrigger | hpending | hnone
      · exact Or.inl hloop
      · exact Or.inr (Or.inl htrigger)
      · exact Or.inr (Or.inr (Or.inl hpending))
      · exact Or.inr (Or.inr (Or.inr (fun h => hnone (hasClaimable_erase h))))
  | notify w pending hpending =>
      refine iff_of_true ?_ (not_drops (fun h => by cases h))
      rcases hs with hloop | htrigger | ⟨w', hw', hclaimable⟩ | hnone
      · exact Or.inl hloop
      · refine Or.inr (Or.inl ?_)
        show (s.trigger || claimable w) = true
        rw [htrigger]
        rfl
      · rw [hpending] at hw'
        rcases List.mem_cons.mp hw' with rfl | hw'
        · refine Or.inr (Or.inl ?_)
          show (s.trigger || claimable w') = true
          rw [hclaimable, Bool.or_true]
        · exact Or.inr (Or.inr (Or.inl ⟨w', hw', hclaimable⟩))
      · exact Or.inr (Or.inr (Or.inr hnone))
  | wake _ _ => exact iff_of_true (Or.inl (fun h => by cases h)) (not_drops (fun h => by cases h))
  | found order w _ =>
      exact iff_of_true (Or.inl (fun h => by cases h)) (not_drops (fun h => by cases h))
  | nothing order _ hnone =>
      exact iff_of_true (Or.inr (Or.inr (Or.inr hnone))) (not_drops (fun h => by cases h))
  | claimed w _ =>
      exact iff_of_true (Or.inl (fun h => by cases h)) (not_drops (fun h => by cases h))
  | conflict w _ => exact iff_of_true (Or.inr (Or.inl rfl)) (not_drops (fun h => by cases h))
  | failed w _ =>
      constructor
      · rintro hawake ⟨-, htrigger, hpending, hstore⟩
        rcases hawake with hloop | htrigger' | ⟨w', hw', hclaimable⟩ | hnone
        · exact hloop rfl
        · have htrigger'' : s.trigger = true := htrigger'
          rw [htrigger] at htrigger''
          cases htrigger''
        · rw [hpending w' hw'] at hclaimable
          cases hclaimable
        · exact hnone hstore
      · intro hdrops
        by_contra hasleep
        simp only [Awake, not_or, not_not] at hasleep
        obtain ⟨-, htrigger, hpending, hstore⟩ := hasleep
        refine hdrops ⟨rfl, Bool.eq_false_iff.mpr htrigger, fun w' hw' => ?_, hstore⟩
        exact Bool.eq_false_iff.mpr (fun hclaimable => hpending ⟨w', hw', hclaimable⟩)
  | finish _ => exact iff_of_true (Or.inr (Or.inl rfl)) (not_drops (fun h => by cases h))

/-- The events on their way lead from the store to the server's objects. -/
def Mirrored (s : Watch) : Prop := s.stream.foldl apply s.store = s.server

theorem WatchEffect.mirrored (hs : Mirrored s) (h : WatchEffect s e t) : Mirrored t := by
  cases h with
  | write name object =>
      show (s.stream ++ [(name, object)]).foldl apply s.store = apply s.server (name, object)
      rw [List.foldl_append, hs]
      rfl
  | stored name w stream hstream =>
      rw [Mirrored, hstream] at hs
      exact hs
  | removed name stream hstream =>
      rw [Mirrored, hstream] at hs
      exact hs
  | _ => exact hs

/-- The worker waits, and nothing is on its way to it. -/
structure Idle (s : Watch) : Prop where
  stream : s.stream = []
  pending : s.pending = []
  trigger : s.trigger = false
  loop : s.loop = .waiting

/-- **THE WATCH LOSES A WAKE-UP IN ONE WAY ONLY.**  A run keeps the worker awake for every
    claimable workload of the store exactly when none of its claims fails, for another reason
    than a conflict, with nothing else to wake the worker; and at the end of such a run an idle
    worker means that nothing is claimable on the server. -/
theorem watch_awake_iff (objects : GoMap String GPUWorkload) {events : List WatchEvent}
    (h : exec watchStep (watchStart objects) events = some t) :
    ((∀ pre suf u, events = pre ++ suf → exec watchStep (watchStart objects) pre = some u → Awake u)
      ↔ Runs watchStep (fun s e => ¬ Drops s e) (watchStart objects) events t)
    ∧ (Runs watchStep (fun s e => ¬ Drops s e) (watchStart objects) events t → Idle t →
      ¬ HasClaimable t.server) := by
  have hstart : Awake (watchStart objects) := Or.inr (Or.inl rfl)
  refine ⟨every_state_iff_runs (I := fun _ => True) (fun _ _ _ _ _ => trivial)
    (fun _ _ _ _ hs hst => (watchEffect_of_step hst).awake_iff hs) h trivial hstart, ?_⟩
  intro hruns hidle hserver
  have hawake : Awake t := hruns.invariant
    (fun _ _ _ hs hkeeps hst => ((watchEffect_of_step hst).awake_iff hs).mpr hkeeps) hstart
  have hmirrored : Mirrored t := hruns.invariant
    (fun _ _ _ hs _ hst => (watchEffect_of_step hst).mirrored hs) rfl
  rw [Mirrored, hidle.stream] at hmirrored
  rcases hawake with hloop | htrigger | ⟨w, hw, -⟩ | hnone
  · exact hloop hidle.loop
  · rw [hidle.trigger] at htrigger
    cases htrigger
  · rw [hidle.pending] at hw
    cases hw
  · rw [← hmirrored] at hserver
    exact hnone hserver

/-- A wake-up has been lost: the worker waits with nothing to wake it. -/
structure Asleep (s : Watch) : Prop where
  loop : s.loop = .waiting
  trigger : s.trigger = false
  pending : ∀ w ∈ s.pending, claimable w = false

/-- The next event of the watch brings no claimable object. -/
def BringsNothing (s : Watch) : WatchEvent → Prop
  | .deliver => (s.stream.head?.bind Prod.snd).any claimable = false
  | _ => True

instance (s : Watch) (e : WatchEvent) : Decidable (BringsNothing s e) :=
  match e with
  | .deliver => inferInstanceAs (Decidable (_ = false))
  | .write _ _ | .notify | .wake | .find _ | .claim _ | .finish => isTrue trivial

theorem WatchEffect.asleep (hs : Asleep s) (hnothing : BringsNothing s e)
    (h : WatchEffect s e t) :
    Asleep t ∧ (e = .deliver ∨ e = .notify ∨ ∃ name w, e = .write name w) := by
  have hloop := hs.loop
  cases h with
  | write name object => exact ⟨⟨hs.loop, hs.trigger, hs.pending⟩, Or.inr (Or.inr ⟨_, _, rfl⟩)⟩
  | stored name w stream hstream =>
      refine ⟨⟨hs.loop, hs.trigger, fun w' hw' => ?_⟩, Or.inl rfl⟩
      rcases List.mem_append.mp hw' with hw' | hw'
      · exact hs.pending w' hw'
      · rw [List.mem_singleton.mp hw']
        rw [BringsNothing, hstream] at hnothing
        exact hnothing
  | removed name stream hstream => exact ⟨⟨hs.loop, hs.trigger, hs.pending⟩, Or.inl rfl⟩
  | notify w pending hpending =>
      have hw : claimable w = false := hs.pending w (by rw [hpending]; exact List.mem_cons_self ..)
      refine ⟨⟨hs.loop, ?_, fun w' hw' => ?_⟩, Or.inr (Or.inl rfl)⟩
      · show (s.trigger || claimable w) = false
        rw [hs.trigger, hw]
        rfl
      · exact hs.pending w' (by rw [hpending]; exact List.mem_cons_of_mem _ hw')
  | wake _ htrigger =>
      rw [hs.trigger] at htrigger
      cases htrigger
  | found order w hwoken =>
      rw [hloop] at hwoken
      cases hwoken
  | nothing order hwoken _ =>
      rw [hloop] at hwoken
      cases hwoken
  | claimed w hclaiming =>
      rw [hloop] at hclaiming
      cases hclaiming
  | conflict w hclaiming =>
      rw [hloop] at hclaiming
      cases hclaiming
  | failed w hclaiming =>
      rw [hloop] at hclaiming
      cases hclaiming
  | finish hrunning =>
      rw [hloop] at hrunning
      cases hrunning

/-- **A STRANDED WORKLOAD**: once a wake-up has been dropped, the worker does not look into the
    store and claims nothing, however long it runs and whatever is written, until an object is
    delivered that is claimable. -/
theorem stranded_until_delivery {events : List WatchEvent} {u : Watch} (hdrops : Drops s e)
    (hdrop : watchStep s e = some t) (h : Runs watchStep BringsNothing t events u) :
    u.loop = .waiting ∧ ∀ e ∈ events, e = .deliver ∨ e = .notify ∨ ∃ name w, e = .write name w := by
  obtain ⟨rfl, htrigger, hpending, -⟩ := hdrops
  have hasleep : Asleep t := by
    cases watchEffect_of_step hdrop with
    | failed w _ => exact ⟨rfl, htrigger, hpending⟩
  clear hdrop
  induction h with
  | nil s => exact ⟨hasleep.loop, fun e he => by cases he⟩
  | cons hnothing hst _ ih =>
      obtain ⟨hnext, hkind⟩ := (watchEffect_of_step hst).asleep hasleep hnothing
      obtain ⟨hloop, hkinds⟩ := ih hnext
      exact ⟨hloop, List.forall_mem_cons.mpr ⟨hkind, hkinds⟩⟩

end

/-- A workload that is scheduled, and perhaps claimed. -/
def scheduledWorkload (annotations : GoMap String String) : GPUWorkload :=
  ⟨"ns", "w", annotations, none, ⟨"team", 1, 1, 40, "h100_sxm", 1000, .training⟩, .scheduled, none⟩

/-- The only claim of a worker fails, perhaps in a timeout. -/
def failedClaim : List WatchEvent := [.notify, .wake, .find ["w"], .claim .failed]

/-- The worker sleeps while the workload waits on the server. -/
theorem watch_awake_failed :
    ∃ t, exec watchStep (watchStart (AList.singleton "w" (scheduledWorkload ∅))) failedClaim
        = some t
      ∧ t.loop = .waiting ∧ t.trigger = false ∧ HasClaimable t.server
      ∧ ¬ Runs watchStep (fun s e => ¬ Drops s e)
        (watchStart (AList.singleton "w" (scheduledWorkload ∅))) failedClaim t := by
  have hexec : exec watchStep (watchStart (AList.singleton "w" (scheduledWorkload ∅))) failedClaim
      = some ⟨AList.singleton "w" (scheduledWorkload ∅), [],
        AList.singleton "w" (scheduledWorkload ∅), [], false, .waiting⟩ := rfl
  have hclaimable : HasClaimable (AList.singleton "w" (scheduledWorkload ∅)) :=
    ⟨"w", scheduledWorkload ∅, rfl, by decide +kernel⟩
  refine ⟨_, hexec, rfl, rfl, hclaimable, fun hruns => ?_⟩
  exact (watch_awake_iff _ hexec).2 hruns ⟨rfl, rfl, rfl, rfl⟩ hclaimable

/-- A worker with the claim of the only workload. -/
def claimingOne : Watch :=
  ⟨AList.singleton "w" (scheduledWorkload ∅), [], AList.singleton "w" (scheduledWorkload ∅), [],
    false, .claiming (scheduledWorkload ∅)⟩

/-- A workload that another worker has claimed. -/
def claimedWorkload : GPUWorkload := scheduledWorkload (AList.singleton annotationClaimedBy "two")

/-- The claim has failed, and the worker does not notice that another workload comes. -/
theorem stranded_claimed :
    ∃ t u, watchStep claimingOne (.claim .failed) = some t
      ∧ Runs watchStep BringsNothing t [.write "v" (some claimedWorkload), .deliver, .notify] u
      ∧ u.store.keys = ["v", "w"] ∧ u.loop = .waiting := by
  have hdrops : Drops claimingOne (.claim .failed) :=
    ⟨rfl, rfl, fun w hw => (by cases hw), "w", _, rfl, by decide +kernel⟩
  have hfirst : watchStep claimingOne (.claim .failed)
      = some { claimingOne with loop := .waiting } := rfl
  have hexec : (exec (guarded watchStep BringsNothing) { claimingOne with loop := .waiting }
      [.write "v" (some claimedWorkload), .deliver, .notify]).map (fun u => u.store.keys)
      = some ["v", "w"] := by decide +kernel
  obtain ⟨u, hu, hkeys⟩ := Option.map_eq_some_iff.mp hexec
  have hruns := Runs.of_exec_guarded hu
  exact ⟨_, u, hfirst, hruns, hkeys, (stranded_until_delivery hdrops hfirst hruns).1⟩

/-! ## The queue -/

/-- `ClaimableWorkloadMessage`. -/
structure ClaimableWorkloadMessage where
  ns : String
  name : String

/-- The message in JSON. -/
def claimableMessage : Struct ClaimableWorkloadMessage where
  fields :=
    [string.field "namespace" (fun m => m.ns) (fun ns m => { m with ns := ns }),
     string.field "name" (fun m => m.name) (fun name m => { m with name := name })]
  distinct := (by decide : ["namespace", "name"].Nodup)
  complete _ _ := rfl

/-- The name of an object on the API server. -/
structure ObjectName where
  ns : String
  name : String
  ns_ne : ns ≠ ""
  name_ne : name ≠ ""
  trimmed : trimSpace name = name

/-- Where the server keeps the object. -/
def ObjectName.key (o : ObjectName) : String × String := (o.ns, o.name)

/-- A worker with a message: about to `Get` its object, with `claimWorkload`, or running. -/
inductive Hand where
  | fetching (key : String × String)
  | claiming (key : String × String)
  | running

/-- The object that a worker may still claim. -/
def Hand.key : Hand → Option (String × String)
  | .fetching key | .claiming key => some key
  | .running => none

/-- The API server, the workloads whose phase the operator has written and whose message it is
    about to produce, the topic, and the workers that have taken a message. -/
structure Queue where
  server : GoMap (String × String) GPUWorkload
  scheduled : List ObjectName
  topic : List Json
  hands : GoMap String Hand

/-- The operator writes a phase and produces a message; anybody writes an object; a worker reads
    a message, gets its object, claims it, comes back from the run, or crashes. -/
inductive QueueEvent where
  | schedule (o : ObjectName) (w : GPUWorkload)
  | produce (n : Nat) (ok : Bool)
  | write (key : String × String) (object : Option GPUWorkload)
  | read (worker : String) (n : Nat)
  | get (worker : String) (ok : Bool)
  | claim (worker : String) (result : ClaimResult)
  | finish (worker : String)
  | crash (worker : String)

variable (folding : Folding) (namespace' : String)

/-- The object that a message is about, in a worker that is configured for a namespace. -/
def target (j : Json) : Option (String × String) :=
  match claimableMessage.decode folding false j ⟨"", ""⟩ with
  | .error _ => none
  | .ok payload =>
      let ns := if payload.ns = "" then namespace' else payload.ns
      let name := trimSpace payload.name
      if ns = "" ∨ name = "" then none else some (ns, name)

/-- One event. -/
def queueStep (s : Queue) : QueueEvent → Option Queue
  | .schedule o w =>
      some { s with server := s.server.insert o.key w, scheduled := s.scheduled ++ [o] }
  | .produce n ok =>
      match s.scheduled[n]? with
      | none => none
      | some o =>
          some { s with
            scheduled := s.scheduled.eraseIdx n
            topic := if ok then s.topic ++ [claimableMessage.encode ⟨o.ns, o.name⟩] else s.topic }
  | .write key object =>
      some { s with server := object.elim (s.server.erase key) (fun w => s.server.insert key w) }
  | .read worker n =>
      match s.topic[n]?, s.hands.lookup worker with
      | some j, none =>
          match target folding namespace' j with
          | none => some { s with topic := s.topic.eraseIdx n }
          | some key => some { s with topic := s.topic.eraseIdx n,
                                      hands := s.hands.insert worker (.fetching key) }
      | _, _ => none
  | .get worker ok =>
      match s.hands.lookup worker with
      | some (.fetching key) =>
          if ok = true ∧ (s.server.lookup key).any claimable = true then
            some { s with hands := s.hands.insert worker (.claiming key) }
          else some { s with hands := s.hands.erase worker }
      | _ => none
  | .claim worker result =>
      match s.hands.lookup worker with
      | some (.claiming _) =>
          if result = .claimed then some { s with hands := s.hands.insert worker .running }
          else some { s with hands := s.hands.erase worker }
      | _ => none
  | .finish worker =>
      match s.hands.lookup worker with
      | some .running => some { s with hands := s.hands.erase worker }
      | _ => none
  | .crash worker =>
      match s.hands.lookup worker with
      | some _ => some { s with hands := s.hands.erase worker }
      | none => none

/-- Nothing is scheduled, sent or taken. -/
def queueStart : Queue := ⟨∅, [], [], ∅⟩

/-- An object is there to be claimed. -/
def Needs (s : Queue) (key : String × String) : Prop :=
  ∃ w, s.server.lookup key = some w ∧ claimable w = true

/-- What can bring an object to a worker: the operator, the topic, or a worker itself. -/
inductive Carrier where
  | operator | topic
  | worker (name : String)

/-- An object is on its way. -/
def carries (s : Queue) : Carrier → String × String → Prop
  | .operator, key => ∃ o ∈ s.scheduled, o.key = key
  | .topic, key => ∃ j ∈ s.topic, target folding namespace' j = some key
  | .worker name, key => (s.hands.lookup name).bind Hand.key = some key

/-- The events by which a worker lets go of its object. -/
inductive LetsGo (worker : String) : QueueEvent → Prop where
  | get : LetsGo worker (.get worker false)
  | claim (result : ClaimResult) : LetsGo worker (.claim worker result)
  | crash : LetsGo worker (.crash worker)

/-- The events that leave a claimable object without anything that brings it to a worker: a
    write that makes it claimable outside the scheduler, a message that is not produced, and a
    worker that lets go of it. -/
inductive Loses (s : Queue) : QueueEvent → Prop where
  | silent (key : String × String) (w : GPUWorkload) : claimable w = true →
      (∀ c, ¬ carries folding namespace' s c key) → Loses s (.write key (some w))
  | unproduced (n : Nat) (o : ObjectName) : s.scheduled[n]? = some o → Needs s o.key →
      (∀ c, ¬ carries folding namespace' { s with scheduled := s.scheduled.eraseIdx n } c o.key) →
      Loses s (.produce n false)
  | letGo (e : QueueEvent) (worker : String) (key : String × String) : LetsGo worker e →
      (s.hands.lookup worker).bind Hand.key = some key → Needs s key →
      (∀ c, ¬ carries folding namespace' { s with hands := s.hands.erase worker } c key) →
      Loses s e

section
variable {folding namespace'} {s t : Queue} {e : QueueEvent}

/-- The message of an object is about that object. -/
theorem target_produced (o : ObjectName) :
    target folding namespace' (claimableMessage.encode ⟨o.ns, o.name⟩) = some o.key := by
  have hdecode := claimableMessage.decode_encode folding false (a := ⟨o.ns, o.name⟩)
    (List.forall_mem_cons.mpr ⟨trivial, List.forall_mem_singleton.mpr trivial⟩) ⟨"", ""⟩
  rw [target, hdecode]
  simp only [o.ns_ne, if_false, o.trimmed, o.name_ne, or_self]
  rfl

/-- What one event does, with its guard. -/
inductive QueueEffect (folding : Folding) (namespace' : String) (s : Queue) :
    QueueEvent → Queue → Prop where
  | schedule (o : ObjectName) (w : GPUWorkload) : QueueEffect folding namespace' s (.schedule o w)
      { s with server := s.server.insert o.key w, scheduled := s.scheduled ++ [o] }
  | produced (n : Nat) (o : ObjectName) : s.scheduled[n]? = some o →
      QueueEffect folding namespace' s (.produce n true)
        { s with scheduled := s.scheduled.eraseIdx n,
                 topic := s.topic ++ [claimableMessage.encode ⟨o.ns, o.name⟩] }
  | unproduced (n : Nat) (o : ObjectName) : s.scheduled[n]? = some o →
      QueueEffect folding namespace' s (.produce n false)
        { s with scheduled := s.scheduled.eraseIdx n }
  | write (key : String × String) (object : Option GPUWorkload) :
      QueueEffect folding namespace' s (.write key object)
        { s with server := object.elim (s.server.erase key) (fun w => s.server.insert key w) }
  | skipped (worker : String) (n : Nat) (j : Json) : s.topic[n]? = some j →
      target folding namespace' j = none →
      QueueEffect folding namespace' s (.read worker n) { s with topic := s.topic.eraseIdx n }
  | taken (worker : String) (n : Nat) (j : Json) (key : String × String) :
      s.topic[n]? = some j → s.hands.lookup worker = none →
      target folding namespace' j = some key →
      QueueEffect folding namespace' s (.read worker n)
        { s with topic := s.topic.eraseIdx n, hands := s.hands.insert worker (.fetching key) }
  | fetched (worker : String) (key : String × String) :
      s.hands.lookup worker = some (.fetching key) →
      QueueEffect folding namespace' s (.get worker true)
        { s with hands := s.hands.insert worker (.claiming key) }
  | missed (worker : String) (key : String × String) (ok : Bool) :
      s.hands.lookup worker = some (.fetching key) → (ok = false ∨ ¬ Needs s key) →
      QueueEffect folding namespace' s (.get worker ok) { s with hands := s.hands.erase worker }
  | claim (worker : String) (key : String × String) (result : ClaimResult) :
      s.hands.lookup worker = some (.claiming key) →
      QueueEffect folding namespace' s (.claim worker result)
        { s with hands := if result = .claimed then s.hands.insert worker .running
                          else s.hands.erase worker }
  | finish (worker : String) : s.hands.lookup worker = some .running →
      QueueEffect folding namespace' s (.finish worker) { s with hands := s.hands.erase worker }
  | crash (worker : String) (hand : Hand) : s.hands.lookup worker = some hand →
      QueueEffect folding namespace' s (.crash worker) { s with hands := s.hands.erase worker }

theorem needs_iff (s : Queue) (key : String × String) :
    Needs s key ↔ (s.server.lookup key).any claimable = true := by
  rw [Needs]
  cases s.server.lookup key with
  | none => simp
  | some w => simp

theorem queueEffect_of_step (h : queueStep folding namespace' s e = some t) :
    QueueEffect folding namespace' s e t := by
  cases e with
  | schedule o w =>
      rw [← Option.some.inj h]
      exact .schedule o w
  | produce n ok =>
      simp only [queueStep] at h
      split at h
      · cases h
      · rename_i o ho
        rw [← Option.some.inj h]
        cases ok with
        | true => exact .produced n o ho
        | false => exact .unproduced n o ho
  | write key object =>
      rw [← Option.some.inj h]
      exact .write key object
  | read worker n =>
      simp only [queueStep] at h
      split at h
      · rename_i j hj hidle
        cases htarget : target folding namespace' j with
        | none =>
            rw [htarget] at h
            rw [← Option.some.inj h]
            exact .skipped worker n j hj htarget
        | some key =>
            rw [htarget] at h
            rw [← Option.some.inj h]
            exact .taken worker n j key hj hidle htarget
      · cases h
  | get worker ok =>
      simp only [queueStep] at h
      split at h
      · rename_i key hhand
        split_ifs at h with hfound
        · rw [← Option.some.inj h, hfound.1]
          exact .fetched worker key hhand
        · rw [← Option.some.inj h]
          refine .missed worker key ok hhand ?_
          rw [needs_iff]
          cases ok with
          | true => exact Or.inr (fun hany => hfound ⟨rfl, hany⟩)
          | false => exact Or.inl rfl
      · cases h
  | claim worker result =>
      simp only [queueStep] at h
      split at h
      · rename_i key hhand
        have heffect : QueueEffect folding namespace' s (.claim worker result) _ :=
          .claim worker key result hhand
        split_ifs at h heffect with hclaimed
        · rw [← Option.some.inj h]
          exact heffect
        · rw [← Option.some.inj h]
          exact heffect
      · cases h
  | finish worker =>
      simp only [queueStep] at h
      split at h
      · rename_i hhand
        rw [← Option.some.inj h]
        exact .finish worker hhand
      · cases h
  | crash worker =>
      simp only [queueStep] at h
      split at h
      · rename_i hand hhand
        rw [← Option.some.inj h]
        exact .crash worker hand hhand
      · cases h

/-- Every claimable object is on its way to a worker. -/
def Carried (folding : Folding) (namespace' : String) (s : Queue) : Prop :=
  Covered (Needs s) (carries folding namespace' s)

/-- Of a list, what is not removed stays. -/
theorem mem_eraseIdx_or {α : Type} {l : List α} {n : Nat} {a b : α} (hb : l[n]? = some b)
    (h : a ∈ l) : a = b ∨ a ∈ l.eraseIdx n := by
  obtain ⟨i, hi, rfl⟩ := List.mem_iff_getElem.mp h
  by_cases heq : i = n
  · subst heq
    rw [List.getElem?_eq_getElem hi] at hb
    exact Or.inl (Option.some.inj hb)
  · exact Or.inr (List.mem_eraseIdx_iff_getElem.mpr ⟨i, hi, heq, rfl⟩)

/-- **LETTING GO**: when a worker loses its object, all objects are carried afterwards exactly
    when that one has another carrier. -/
theorem Carried.letGo_iff (h : Carried folding namespace' s) {worker : String}
    {key : String × String} (hkey : (s.hands.lookup worker).bind Hand.key = some key)
    {hands : GoMap String Hand} (hown : (hands.lookup worker).bind Hand.key = none)
    (hothers : ∀ other, other ≠ worker → hands.lookup other = s.hands.lookup other) :
    Carried folding namespace' { s with hands := hands } ↔ (Needs s key →
      ∃ c, carries folding namespace' { s with hands := s.hands.erase worker } c key) := by
  have hcarries : ∀ l, l ≠ key → ∀ c, carries folding namespace' s c l →
      ∃ c', carries folding namespace' { s with hands := hands } c' l := by
    intro l hl c hc
    cases c with
    | operator => exact ⟨.operator, hc⟩
    | topic => exact ⟨.topic, hc⟩
    | worker other =>
        have hne : other ≠ worker := by
          rintro rfl
          rw [carries, hkey] at hc
          exact hl (Option.some.inj hc).symm
        refine ⟨.worker other, ?_⟩
        rw [carries, hothers other hne]
        exact hc
  refine (Covered.step_iff h (fun _ _ hneed => hneed) hcarries).trans
    (imp_congr_right (fun _ => exists_congr (fun c => ?_)))
  cases c with
  | operator => exact Iff.rfl
  | topic => exact Iff.rfl
  | worker other =>
      rw [carries, carries]
      by_cases heq : other = worker
      · rw [heq, hown, AList.lookup_erase]
        exact Iff.rfl
      · rw [hothers other heq, AList.lookup_erase_ne heq]

/-- A worker that holds no object may leave. -/
theorem Carried.leave (h : Carried folding namespace' s) {worker : String}
    (hnone : (s.hands.lookup worker).bind Hand.key = none) :
    Carried folding namespace' { s with hands := s.hands.erase worker } := by
  refine Covered.mono h (fun _ hneed => hneed) (fun key c hc => ?_)
  cases c with
  | operator => exact ⟨.operator, hc⟩
  | topic => exact ⟨.topic, hc⟩
  | worker other =>
      have hne : other ≠ worker := by
        rintro rfl
        rw [carries, hnone] at hc
        cases hc
      refine ⟨.worker other, ?_⟩
      rw [carries, AList.lookup_erase_ne hne]
      exact hc

theorem LetsGo.unique {worker worker' : String} (h : LetsGo worker e) (h' : LetsGo worker' e) :
    worker = worker' := by
  cases h with
  | get => cases h' with | get => rfl
  | claim result => cases h' with | claim => rfl
  | crash => cases h' with | crash => rfl

/-- A worker that lets go of an object loses it exactly when nothing else carries it. -/
theorem Carried.letGo (h : Carried folding namespace' s) {worker : String}
    {key : String × String} (hgo : LetsGo worker e)
    (hkey : (s.hands.lookup worker).bind Hand.key = some key) {hands : GoMap String Hand}
    (hown : (hands.lookup worker).bind Hand.key = none)
    (hothers : ∀ other, other ≠ worker → hands.lookup other = s.hands.lookup other) :
    Carried folding namespace' { s with hands := hands } ↔ ¬ Loses folding namespace' s e := by
  rw [h.letGo_iff hkey hown hothers]
  constructor
  · intro hcarried hloses
    cases hloses with
    | silent key' w _ _ => cases hgo
    | unproduced n o _ _ _ => cases hgo
    | letGo _ worker' key' hgo' hkey' hneeds hnone =>
        obtain rfl := hgo.unique hgo'
        rw [hkey] at hkey'
        obtain rfl := Option.some.inj hkey'
        obtain ⟨c, hc⟩ := hcarried hneeds
        exact hnone c hc
  · intro hkept hneeds
    by_contra hnone
    exact hkept (.letGo e worker key hgo hkey hneeds (fun c hc => hnone ⟨c, hc⟩))

/-- The other events lose nothing. -/
theorem not_loses (hgo : ∀ worker, ¬ LetsGo worker e) (hproduce : ∀ n, e ≠ .produce n false)
    (hwrite : ∀ key w, e ≠ .write key (some w)) : ¬ Loses folding namespace' s e := by
  intro hloses
  cases hloses with
  | silent key w _ _ => exact hwrite key w rfl
  | unproduced n o _ _ _ => exact hproduce n rfl
  | letGo _ worker key h _ _ _ => exact hgo worker h

/-! ### Event by event -/

theorem Carried.schedule (hs : Carried folding namespace' s) (o : ObjectName) (w : GPUWorkload) :
    Carried folding namespace'
      { s with server := s.server.insert o.key w, scheduled := s.scheduled ++ [o] } := by
  refine (Covered.step_iff hs (k := o.key) (fun key hne hneed => ?_)
    (fun key hne c hc => ?_)).mpr (fun _ => ?_)
  · obtain ⟨w', hw', hclaimable⟩ := hneed
    exact ⟨w', (AList.lookup_insert_ne hne).symm.trans hw', hclaimable⟩
  · cases c with
    | operator =>
        obtain ⟨o', ho', hkey⟩ := hc
        exact ⟨.operator, o', List.mem_append_left _ ho', hkey⟩
    | topic => exact ⟨.topic, hc⟩
    | worker name => exact ⟨.worker name, hc⟩
  · exact ⟨.operator, o, List.mem_append_right _ (List.mem_singleton.mpr rfl), rfl⟩

/-- The object passes from the operator to the topic. -/
theorem Carried.produced (hs : Carried folding namespace' s) {n : Nat} {o : ObjectName}
    (ho : s.scheduled[n]? = some o) :
    Carried folding namespace'
      { s with
        scheduled := s.scheduled.eraseIdx n
        topic := s.topic ++ [claimableMessage.encode ⟨o.ns, o.name⟩] } := by
  refine Covered.mono hs (fun _ hneed => hneed) (fun key c hc => ?_)
  cases c with
  | operator =>
      obtain ⟨o', ho', hkey⟩ := hc
      rcases mem_eraseIdx_or ho ho' with rfl | hstays
      · refine ⟨.topic, _, List.mem_append_right _ (List.mem_singleton.mpr rfl), ?_⟩
        rw [target_produced, hkey]
      · exact ⟨.operator, o', hstays, hkey⟩
  | topic =>
      obtain ⟨j, hj, hkey⟩ := hc
      exact ⟨.topic, j, List.mem_append_left _ hj, hkey⟩
  | worker name => exact ⟨.worker name, hc⟩

theorem Carried.unproduced_iff (hs : Carried folding namespace' s) {n : Nat} {o : ObjectName}
    (ho : s.scheduled[n]? = some o) :
    Carried folding namespace' { s with scheduled := s.scheduled.eraseIdx n }
      ↔ ¬ Loses folding namespace' s (.produce n false) := by
  have hcarries : ∀ key, key ≠ o.key → ∀ c, carries folding namespace' s c key →
      ∃ c', carries folding namespace' { s with scheduled := s.scheduled.eraseIdx n } c' key := by
    intro key hne c hc
    cases c with
    | operator =>
        obtain ⟨o', ho', hkey⟩ := hc
        rcases mem_eraseIdx_or ho ho' with rfl | hstays
        · exact absurd hkey.symm hne
        · exact ⟨.operator, o', hstays, hkey⟩
    | topic => exact ⟨.topic, hc⟩
    | worker name => exact ⟨.worker name, hc⟩
  refine (Covered.step_iff hs (fun _ _ hneed => hneed) hcarries).trans ⟨?_, ?_⟩
  · intro hcarried hloses
    cases hloses with
    | unproduced _ o' ho' hneeds hnone =>
        rw [ho] at ho'
        obtain rfl := Option.some.inj ho'
        obtain ⟨c, hc⟩ := hcarried hneeds
        exact hnone c hc
    | letGo _ worker key hgo _ _ _ => cases hgo
  · intro hkept hneeds
    by_contra hnone
    exact hkept (.unproduced n o ho hneeds (fun c hc => hnone ⟨c, hc⟩))

theorem Carried.erase (hs : Carried folding namespace' s) (key : String × String) :
    Carried folding namespace' { s with server := s.server.erase key } := by
  refine Covered.mono hs (fun key' hneed => ?_) (fun _ c hc => ⟨c, hc⟩)
  obtain ⟨w', hw', hclaimable⟩ := hneed
  have hne : key' ≠ key := by
    rintro rfl
    have hnone : none = some w' := (AList.lookup_erase _ _).symm.trans hw'
    cases hnone
  exact ⟨w', (AList.lookup_erase_ne hne).symm.trans hw', hclaimable⟩

theorem Carried.write_iff (hs : Carried folding namespace' s) (key : String × String)
    (w : GPUWorkload) :
    Carried folding namespace' { s with server := s.server.insert key w }
      ↔ ¬ Loses folding namespace' s (.write key (some w)) := by
  have hneed : ∀ key', key' ≠ key → Needs { s with server := s.server.insert key w } key' →
      Needs s key' := by
    rintro key' hne ⟨w', hw', hclaimable⟩
    exact ⟨w', (AList.lookup_insert_ne hne).symm.trans hw', hclaimable⟩
  refine (Covered.step_iff hs hneed (fun _ _ c hc => ⟨c, hc⟩)).trans ⟨?_, ?_⟩
  · intro hcarried hloses
    cases hloses with
    | silent _ _ hclaimable hnone =>
        obtain ⟨c, hc⟩ := hcarried ⟨w, AList.lookup_insert _, hclaimable⟩
        exact hnone c hc
    | letGo _ worker key hgo _ _ _ => cases hgo
  · rintro hkept ⟨w', hw', hclaimable⟩
    have heq : w = w' := Option.some.inj ((AList.lookup_insert _).symm.trans hw')
    rw [← heq] at hclaimable
    by_contra hnone
    exact hkept (.silent key w hclaimable (fun c hc => hnone ⟨c, hc⟩))

theorem Carried.skipped (hs : Carried folding namespace' s) {n : Nat} {j : Json}
    (hj : s.topic[n]? = some j) (hnone : target folding namespace' j = none) :
    Carried folding namespace' { s with topic := s.topic.eraseIdx n } := by
  refine Covered.mono hs (fun _ hneed => hneed) (fun key c hc => ?_)
  cases c with
  | operator => exact ⟨.operator, hc⟩
  | topic =>
      obtain ⟨j', hj', hkey⟩ := hc
      rcases mem_eraseIdx_or hj hj' with rfl | hstays
      · rw [hnone] at hkey
        cases hkey
      · exact ⟨.topic, j', hstays, hkey⟩
  | worker name => exact ⟨.worker name, hc⟩

/-- The object passes from the topic to the worker. -/
theorem Carried.taken (hs : Carried folding namespace' s) {worker : String} {n : Nat} {j : Json}
    {key : String × String} (hj : s.topic[n]? = some j) (hidle : s.hands.lookup worker = none)
    (htarget : target folding namespace' j = some key) :
    Carried folding namespace'
      { s with
        topic := s.topic.eraseIdx n
        hands := s.hands.insert worker (.fetching key) } := by
  refine Covered.mono hs (fun _ hneed => hneed) (fun key' c hc => ?_)
  cases c with
  | operator => exact ⟨.operator, hc⟩
  | topic =>
      obtain ⟨j', hj', hkey⟩ := hc
      rcases mem_eraseIdx_or hj hj' with rfl | hstays
      · refine ⟨.worker worker, ?_⟩
        rw [carries, AList.lookup_insert, ← hkey, htarget]
        rfl
      · exact ⟨.topic, j', hstays, hkey⟩
  | worker name =>
      have hne : name ≠ worker := by
        rintro rfl
        rw [carries, hidle] at hc
        cases hc
      refine ⟨.worker name, ?_⟩
      rw [carries, AList.lookup_insert_ne hne]
      exact hc

theorem Carried.fetched (hs : Carried folding namespace' s) {worker : String}
    {key : String × String} (hhand : s.hands.lookup worker = some (.fetching key)) :
    Carried folding namespace' { s with hands := s.hands.insert worker (.claiming key) } := by
  refine Covered.mono hs (fun _ hneed => hneed) (fun key' c hc => ?_)
  cases c with
  | operator => exact ⟨.operator, hc⟩
  | topic => exact ⟨.topic, hc⟩
  | worker name =>
      refine ⟨.worker name, ?_⟩
      by_cases heq : name = worker
      · rw [heq, carries, hhand] at hc
        rw [heq, carries, AList.lookup_insert]
        exact hc
      · rw [carries, AList.lookup_insert_ne heq]
        exact hc

theorem bind_lookup_erase (hands : GoMap String Hand) (worker : String) :
    ((hands.erase worker).lookup worker).bind Hand.key = none := by
  rw [AList.lookup_erase]
  rfl

theorem Carried.missed_iff (hs : Carried folding namespace' s) {worker : String}
    {key : String × String} {ok : Bool} (hhand : s.hands.lookup worker = some (.fetching key))
    (hmiss : ok = false ∨ ¬ Needs s key) :
    Carried folding namespace' { s with hands := s.hands.erase worker }
      ↔ ¬ Loses folding namespace' s (.get worker ok) := by
  have hkey : (s.hands.lookup worker).bind Hand.key = some key := by
    rw [hhand]
    rfl
  have hown := bind_lookup_erase s.hands worker
  rcases hmiss with rfl | hnone
  · exact hs.letGo .get hkey hown (fun _ hne => AList.lookup_erase_ne hne)
  · refine iff_of_true ((hs.letGo_iff hkey hown
      (fun _ hne => AList.lookup_erase_ne hne)).mpr (fun hneeds => absurd hneeds hnone)) ?_
    intro hloses
    cases hloses with
    | letGo _ worker' key' hgo hkey' hneeds _ =>
        cases hgo with
        | get =>
            rw [hkey] at hkey'
            rw [← Option.some.inj hkey'] at hneeds
            exact hnone hneeds

theorem Carried.claim_iff (hs : Carried folding namespace' s) {worker : String}
    {key : String × String} (hhand : s.hands.lookup worker = some (.claiming key))
    (result : ClaimResult) :
    Carried folding namespace'
        { s with hands := if result = .claimed then s.hands.insert worker .running
                          else s.hands.erase worker }
      ↔ ¬ Loses folding namespace' s (.claim worker result) := by
  have hkey : (s.hands.lookup worker).bind Hand.key = some key := by
    rw [hhand]
    rfl
  refine hs.letGo (.claim result) hkey ?_ (fun other hne => ?_)
  · split_ifs
    · rw [AList.lookup_insert]
      rfl
    · exact bind_lookup_erase s.hands worker
  · split_ifs
    · exact AList.lookup_insert_ne hne
    · exact AList.lookup_erase_ne hne

theorem Carried.crash_iff (hs : Carried folding namespace' s) {worker : String} {hand : Hand}
    (hhand : s.hands.lookup worker = some hand) :
    Carried folding namespace' { s with hands := s.hands.erase worker }
      ↔ ¬ Loses folding namespace' s (.crash worker) := by
  have hbind : (s.hands.lookup worker).bind Hand.key = hand.key := by
    rw [hhand]
    rfl
  cases hkey : hand.key with
  | none =>
      rw [hkey] at hbind
      refine iff_of_true (hs.leave hbind) (fun hloses => ?_)
      cases hloses with
      | letGo _ worker' key' hgo hkey' _ _ =>
          cases hgo with
          | crash =>
              rw [hbind] at hkey'
              cases hkey'
  | some key =>
      rw [hkey] at hbind
      exact hs.letGo .crash hbind (bind_lookup_erase s.hands worker)
        (fun _ hne => AList.lookup_erase_ne hne)

/-- **ONE EVENT** keeps every claimable object on its way, unless it loses it. -/
theorem QueueEffect.carried_iff (hs : Carried folding namespace' s)
    (h : QueueEffect folding namespace' s e t) :
    Carried folding namespace' t ↔ ¬ Loses folding namespace' s e := by
  have hkeeps : Carried folding namespace' t → (∀ worker, ¬ LetsGo worker e) →
      (∀ n, e ≠ .produce n false) → (∀ key w, e ≠ .write key (some w)) →
      (Carried folding namespace' t ↔ ¬ Loses folding namespace' s e) :=
    fun ht hgo hproduce hwrite => iff_of_true ht (not_loses hgo hproduce hwrite)
  cases h with
  | schedule o w =>
      exact hkeeps (hs.schedule o w) (fun _ h => by cases h) (fun _ h => by cases h)
        (fun _ _ h => by cases h)
  | produced n o ho =>
      exact hkeeps (hs.produced ho) (fun _ h => by cases h) (fun _ h => by cases h)
        (fun _ _ h => by cases h)
  | unproduced n o ho => exact hs.unproduced_iff ho
  | write key object =>
      cases object with
      | none =>
          exact hkeeps (hs.erase key) (fun _ h => by cases h) (fun _ h => by cases h)
            (fun _ _ h => by cases h)
      | some w => exact hs.write_iff key w
  | skipped worker n j hj hnone =>
      exact hkeeps (hs.skipped hj hnone) (fun _ h => by cases h) (fun _ h => by cases h)
        (fun _ _ h => by cases h)
  | taken worker n j key hj hidle htarget =>
      exact hkeeps (hs.taken hj hidle htarget) (fun _ h => by cases h) (fun _ h => by cases h)
        (fun _ _ h => by cases h)
  | fetched worker key hhand =>
      exact hkeeps (hs.fetched hhand) (fun _ h => by cases h) (fun _ h => by cases h)
        (fun _ _ h => by cases h)
  | missed worker key ok hhand hmiss => exact hs.missed_iff hhand hmiss
  | claim worker key result hhand => exact hs.claim_iff hhand result
  | finish worker hhand =>
      refine hkeeps (hs.leave ?_) (fun _ h => by cases h) (fun _ h => by cases h)
        (fun _ _ h => by cases h)
      rw [hhand]
      rfl
  | crash worker hand hhand => exact hs.crash_iff hhand

/-- **EVERY CLAIMABLE WORKLOAD IS ON ITS WAY** from the operator over the topic to a worker, over
    every interleaving, exactly until a message is not produced, a worker lets go of the last
    thing that carries it, or an object becomes claimable outside the scheduler.  A conflict
    in the claim is enough. -/
theorem queue_carried_iff {events : List QueueEvent}
    (h : exec (queueStep folding namespace') queueStart events = some t) :
    (∀ pre suf u, events = pre ++ suf →
      exec (queueStep folding namespace') queueStart pre = some u → Carried folding namespace' u)
    ↔ Runs (queueStep folding namespace') (fun s e => ¬ Loses folding namespace' s e) queueStart
      events t := by
  refine every_state_iff_runs (I := fun _ => True) (fun _ _ _ _ _ => trivial)
    (fun _ _ _ _ hs hst => (queueEffect_of_step hst).carried_iff hs) h trivial ?_
  rintro key ⟨w, hw, -⟩
  cases hw

end

/-- The workload `ns/w`. -/
def objectW : ObjectName := ⟨"ns", "w", by decide, by decide, by decide +kernel⟩

/-- A worker meets a conflict, perhaps with a write of the operator's. -/
def conflictingClaim : List QueueEvent :=
  [.schedule objectW (scheduledWorkload ∅), .produce 0 true, .read "one" 0, .get "one" true,
   .claim "one" .conflict]

/-- The message is gone, and the workload waits on the server. -/
theorem queue_carried_conflict :
    ∃ t, exec (queueStep asciiFolding "ns") queueStart conflictingClaim = some t
      ∧ Needs t ("ns", "w") ∧ t.scheduled = [] ∧ t.topic = [] ∧ t.hands.keys = []
      ∧ ¬ Runs (queueStep asciiFolding "ns") (fun s e => ¬ Loses asciiFolding "ns" s e) queueStart
        conflictingClaim t := by
  have hexec : (exec (queueStep asciiFolding "ns") queueStart conflictingClaim).map (fun t =>
      ((t.server.lookup ("ns", "w")).any claimable, t.scheduled.length, t.topic.length,
        t.hands.keys)) = some (true, 0, 0, []) := by decide +kernel
  obtain ⟨t, ht, hafter⟩ := Option.map_eq_some_iff.mp hexec
  obtain ⟨hany, hafter⟩ := Prod.mk.inj hafter
  obtain ⟨hscheduled, hafter⟩ := Prod.mk.inj hafter
  obtain ⟨htopic, hkeys⟩ := Prod.mk.inj hafter
  have hneeds := (needs_iff t _).mpr hany
  rw [List.length_eq_zero_iff] at hscheduled htopic
  refine ⟨t, ht, hneeds, hscheduled, htopic, hkeys, fun hruns => ?_⟩
  obtain ⟨c, hc⟩ := (queue_carried_iff ht).mpr hruns conflictingClaim [] t
    (List.append_nil _).symm ht _ hneeds
  cases c with
  | operator =>
      obtain ⟨o, ho, -⟩ := hc
      rw [hscheduled] at ho
      cases ho
  | topic =>
      obtain ⟨j, hj, -⟩ := hc
      rw [htopic] at hj
      cases hj
  | worker name =>
      obtain ⟨hand, hhand, -⟩ := Option.bind_eq_some_iff.mp hc
      have hmem := mem_keys_iff.mpr ⟨hand, hhand⟩
      rw [hkeys] at hmem
      cases hmem

end GpuDiscovery
