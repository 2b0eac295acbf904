import GpuScheduler.SimMemoryProofs

/-! # What a simulator call leaves alone

    A call that fails leaves the simulator as it was, and one that succeeds touches the workload
    or the pool it names and nothing else.  In the value model both hold in every reachable
    state (`failed_or_done`, `framed_of_done`).

    The code has one more way to reach a record: the payload pointers that a run keeps, and
    through which a start writes its defaults.  The callers build the payloads of a start for
    that call, so no record points to them and no record is seen to change (`view_defaulted`);
    so every call of the pointer model is atomic and local too (`calls_atomic_local`). -/

namespace GpuSimFrame

open GoStrings GoMaps GoHeap GpuInputs GpuPlacement GpuSimulator GpuRunHistory GpuSimMemory
  StepRuns

/-! ## The frame of a call -/

/-- The workload a call names; `GetStatus` names the workload of its run. -/
def namedWorkload (s : Simulator) : Op → Option String
  | .registerFleet _ _ => none
  | .deleteFleet _ => none
  | .allocateWithOptions _ workloadID _ _ _ => some workloadID
  | .startWithRuntimeInput _ _ input => some input.workloadID
  | .getStatus _ runID => (s.runs.lookup runID).map RunRecord.workloadID
  | .getLatestRunStatusForWorkload _ _ workloadID => some workloadID
  | .preempt _ workloadID => some workloadID
  | .release workloadID => some workloadID

/-- The pool a call names. -/
def namedPool : Op → Option String
  | .registerFleet poolKey _ => some (if poolKey = "" then defaultPoolKey else poolKey)
  | .deleteFleet poolKey => some poolKey
  | _ => none

/-- The run under an ID, if it is of the workload. -/
def runOf (s : Simulator) (workloadID id : String) : Option RunRecord :=
  (s.runs.lookup id).filter (fun r => r.workloadID = workloadID)

/-- Pools, allocations, runs and counter are unchanged. -/
structure Unchanged (s t : Simulator) : Prop where
  pools : ∀ key, t.pools.lookup key = s.pools.lookup key
  allocations : ∀ w, t.allocations.lookup w = s.allocations.lookup w
  runs : ∀ id, t.runs.lookup id = s.runs.lookup id
  nextRunID : t.nextRunID = s.nextRunID

/-- The allocations and runs of all other workloads and the nodes of all other pools are
    unchanged. -/
structure Framed (workload pool : Option String) (s t : Simulator) : Prop where
  allocations : ∀ w, workload ≠ some w → t.allocations.lookup w = s.allocations.lookup w
  runs : ∀ w, workload ≠ some w → ∀ id, runOf t w id = runOf s w id
  pools : ∀ key, pool ≠ some key → t.pools.lookup key = s.pools.lookup key

/-! ## The value model -/

section
variable {est : Estimator} {s t : Simulator} {op : Op}

theorem Unchanged.refl (s : Simulator) : Unchanged s s :=
  ⟨fun _ => rfl, fun _ => rfl, fun _ => rfl, rfl⟩

theorem Framed.refl (workload pool : Option String) (s : Simulator) : Framed workload pool s s :=
  ⟨fun _ _ => rfl, fun _ _ _ => rfl, fun _ _ => rfl⟩

/-- A write to the run of one workload leaves the runs of the others. -/
theorem framed_insert {id w : String} {r : RunRecord} (pool : Option String)
    (hpools : t.pools = s.pools) (hallocations : t.allocations = s.allocations)
    (hruns : t.runs = s.runs.insert id r) (hr : r.workloadID = w)
    (hold : ∀ q, s.runs.lookup id = some q → q.workloadID = w) :
    Framed (some w) pool s t := by
  refine ⟨fun _ _ => by rw [hallocations], fun w' hw' id' => ?_, fun _ _ => by rw [hpools]⟩
  have hne : w ≠ w' := fun heq => hw' (congrArg some heq)
  rw [runOf, runOf, hruns]
  by_cases hid : id' = id
  · subst hid
    rw [AList.lookup_insert, Option.filter_some, if_neg (by rw [hr]; simpa using hne)]
    symm
    rw [Option.filter_eq_none_iff]
    intro q hq
    rw [hold q hq]
    simpa using hne
  · rw [AList.lookup_insert_ne hid]

/-- **LOCAL IN THE VALUE MODEL**: a call that is done touches only what it names. -/
theorem framed_of_done (hs : Logged s) (h : Done est s op t) :
    Framed (namedWorkload s op) (namedPool op) s t := by
  cases h with
  | @registerFleet poolKey spec t h =>
      rw [GpuSimulator.registerFleet] at h
      split at h
      · cases h
      · rw [← Except.ok.inj h]
        refine ⟨fun _ _ => rfl, fun _ _ _ => rfl, fun key hkey => ?_⟩
        exact AList.lookup_insert_ne (fun heq => hkey (congrArg some heq.symm))
  | deleteFleet poolKey =>
      rw [GpuSimulator.deleteFleet]
      split_ifs
      · exact .refl _ _ s
      · refine ⟨fun _ _ => rfl, fun _ _ _ => rfl, fun key hkey => ?_⟩
        exact AList.lookup_erase_ne (fun heq => hkey (congrArg some heq.symm))
  | allocateWithOptions _ h =>
      obtain ⟨-, -, -, -, -, rfl⟩ := allocateWithOptions_ok h
      refine ⟨fun w hw => ?_, fun _ _ _ => rfl, fun _ _ => rfl⟩
      exact AList.lookup_insert_ne (fun heq => hw (congrArg some heq.symm))
  | @startWithRuntimeInput order now input id t _ h =>
      obtain ⟨hpools, hallocations⟩ := startWithRuntimeInput_same h
      obtain ⟨-, -, r, hr, -, -, -, hruns⟩ := startWithRuntimeInput_ok h
      refine framed_insert _ hpools hallocations hruns hr (fun q hq => ?_)
      -- the ID of the new run is not in use
      rw [hs.lookup_nextID] at hq
      cases hq
  | @getStatus now runID st t h =>
      obtain ⟨r, hr, rfl⟩ := getStatus_ok h
      have hmoves : Moves (.getStatus now runID) r (r.refresh now) := moves_refresh rfl r
      simp only [namedWorkload, hr, Option.map_some]
      refine framed_insert _ rfl rfl rfl hmoves.continues.workloadID (fun q hq => ?_)
      rw [hr] at hq
      rw [Option.some.inj hq]
  | @getLatestRunStatusForWorkload order now workloadID st t h =>
      obtain ⟨id, r, hlatest, hr, -, rfl⟩ := getLatestRunStatusForWorkload_ok h
      have hw := (latestRun_max hlatest (fun l hl => (by cases hl))).1
      have hmoves : Moves (.getLatestRunStatusForWorkload order now workloadID) r
          (r.refresh now) := moves_refresh rfl r
      refine framed_insert _ rfl rfl rfl (hmoves.continues.workloadID.trans hw) (fun q hq => ?_)
      rw [hr] at hq
      rw [← Option.some.inj hq]
      exact hw
  | @preempt order workloadID t h =>
      rw [preempt_eq] at h
      split_ifs at h
      rw [← Except.ok.inj h]
      cases htarget : preemptTarget s order workloadID with
      | none => exact .refl _ _ s
      | some p =>
          obtain ⟨hr, hw, -⟩ := preemptTarget_some htarget
          refine framed_insert _ rfl rfl rfl hw (fun q hq => ?_)
          rw [hr] at hq
          rw [← Option.some.inj hq]
          exact hw
  | release h =>
      rw [release_ok h]
      refine ⟨fun w hw => ?_, fun _ _ _ => rfl, fun _ _ => rfl⟩
      exact AList.lookup_erase_ne (fun heq => hw (congrArg some heq.symm))

end

/-! ## The pointer model -/

/-- **ATOMIC AND LOCAL**: a call that returns an error leaves the state unchanged, and one that
    succeeds leaves what it does not name unchanged. -/
structure AtomicLocal (est : Estimator) (m : Machine) (c : Call) : Prop where
  atomic : (call est m c).2 ≠ none → Unchanged m.view (call est m c).1.view
  framed : (call est m c).2 = none →
    Framed (namedWorkload m.view (c.op m.heap)) (namedPool (c.op m.heap)) m.view
      (call est m c).1.view

/-- **NEW PAYLOADS**: what the callers of the simulator do.  `Start` has no payloads,
    `handleStart` decodes them from the request and `buildRuntimeInput` copies them out of the
    workload, so no record points to them. -/
def NewPayloads (m : Machine) : Call → Prop
  | .startWithRuntimeInput _ _ _ input => ∀ p a, input.pointers p = some a → Fresh m a
  | _ => True

/-! ## Every reachable state -/

/-- The defaults of a call with new payloads are not seen in any record. -/
theorem view_defaulted {m : Machine} {c : Call} (hc : Enabled m c) (hnew : NewPayloads m c) :
    (m.defaulted c).view = m.view := by
  cases c with
  | startWithRuntimeInput order now fresh input =>
      have hpointers : input.defaultKind.pointers = input.pointers := by
        rw [RuntimeArgs.defaultKind]
        split_ifs
        · rfl
        · rfl
      rw [Machine.defaulted]
      split_ifs
      · simp only [GpuSimMemory.applyDefaults]
        cases defaultedPayload input.defaultKind.kind with
        | none => rfl
        | some p =>
            have hread : ∀ r ∈ values m.runs, r.read (edit m.heap fresh
                input.defaultKind.pointers p (zeroCell p) (withDefaults input.defaultKind.tokens
                  input.defaultKind.profile p)).1 = r.read m.heap := by
              intro r hr
              rw [StoredRun.read, StoredRun.read, RuntimeArgs.read, RuntimeArgs.read, hpointers,
                load_edit_of_ne (hc.2 r hr p) (fun a ha => hnew p a ha r hr p)]
            exact congrArg (fun runs => (⟨m.pools, m.allocations, runs, m.nextRunID⟩ : Simulator))
              (mapValues_congr hread)
      · rfl
  | _ => rfl

/-- **EVERY CALL IS ATOMIC AND LOCAL**: in every state reachable from a new simulator a call that
    fails changes nothing, and one that succeeds only what it names. -/
theorem calls_atomic_local (est : Estimator) {heap : Heap Payload.Cell} {actions : List Action}
    {m : Machine} (h : Runs (GpuSimMemory.step est) Always (newMachine heap) actions m) {c : Call}
    (hc : Enabled m c) (hnew : NewPayloads m c) : AtomicLocal est m c := by
  obtain ⟨hstep, hfail⟩ := simulates est hc
  rw [view_defaulted hc hnew] at hstep hfail
  rcases failed_or_done hstep with ⟨herror, hsame⟩ | ⟨hok, hdone⟩
  · rw [hfail] at herror
    refine ⟨fun _ => ?_, fun hnone => absurd hnone herror⟩
    rw [hsame]
    exact .refl m.view
  · rw [hfail] at hok
    exact ⟨fun herror => absurd hok herror,
      fun _ => framed_of_done (GpuSimMemory.logged_of_runs h) hdone⟩

/-- An input with one payload, an inference payload at the given address. -/
def withInference (workloadID : String) (kind : WorkloadKind) (a : Addr) : RuntimeArgs :=
  ⟨workloadID, 1000, "h100_sxm", kind, Function.update (fun _ => none) .inference (some a)⟩

/-- All payloads are zero. -/
def zeroHeap : Heap Payload.Cell := fun p _ => zeroCell p

/-- Every run takes ten nanoseconds. -/
def ten : Estimator := fun _ _ _ => .ok 10

/-- Two workloads have a device each, and the one called `a` runs. -/
def oneRunning : List Action :=
  [.call (.registerFleet "pool" ⟨1, 2, 80, "gpu", "h100_sxm"⟩),
    .call (.allocateWithOptions ["pool"] "a" 1 80 ⟨.unset, false, 0, "", ""⟩),
    .call (.allocateWithOptions ["pool"] "b" 1 80 ⟨.unset, false, 0, "", ""⟩),
    .call (.startWithRuntimeInput [] 0 2 (withInference "a" .inference 0))]

/-- The other workload is started, with a payload of its own. -/
theorem oneRunning_atomic_local :
    ∃ m, exec (GpuSimMemory.step ten) (newMachine zeroHeap) oneRunning = some m
      ∧ (call ten m
        (.startWithRuntimeInput ["run-1"] 5 2 (withInference "b" .inference 1))).2 = none
      ∧ AtomicLocal ten m
        (.startWithRuntimeInput ["run-1"] 5 2 (withInference "b" .inference 1)) := by
  obtain ⟨m, hexec, henabled, hok, hfresh⟩ : ∃ m,
      exec (GpuSimMemory.step ten) (newMachine zeroHeap) oneRunning = some m
        ∧ Enabled m (.startWithRuntimeInput ["run-1"] 5 2 (withInference "b" .inference 1))
        ∧ (call ten m
          (.startWithRuntimeInput ["run-1"] 5 2 (withInference "b" .inference 1))).2 = none
        ∧ Fresh m 1 :=
    ⟨_, rfl, by decide +kernel, by decide +kernel, by decide +kernel⟩
  refine ⟨m, hexec, hok, calls_atomic_local ten (Runs.of_exec hexec) henabled ?_⟩
  intro p a hptr
  cases p with
  | inference =>
      have ha : some 1 = some a := hptr
      rw [← Option.some.inj ha]
      exact hfresh
  | _ => cases hptr

end GpuSimFrame
