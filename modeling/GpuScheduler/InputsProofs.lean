import GpuScheduler.GoStringsProofs
import GpuScheduler.GoMapsProofs

/-! # Scheduling inputs: the data the scheduler decides on

    The snapshot of one namespace (queue, scheduled and running workloads, free
    capacity by profile, tenant quotas), the contract `Validate` checks on it, and
    `ApplyVirtualAdmission`, which moves one admitted workload of a working copy
    from the queue to the running list and takes its devices out of the capacity.

    Device and memory counts are unbounded integers here and in the modules that build on
    this one.  The code adds them up in 64 bits: `GpuIntAdmission` has those sums, and says
    when they are the exact ones.  A time is an integer whose zero is Go's zero time. -/

namespace GpuInputs

open GoStrings GoMaps

/-- The values of the `WorkloadKind` constants. -/
def kindNames : List String :=
  ["training", "inference", "eval", "fine_tune", "rlhf", "embedding", "data_preprocess",
    "distillation"]

/-- The runtime class; `other` is a string outside the enumeration. -/
inductive WorkloadKind where
  | training | inference | eval | fineTune | rlhf | embedding | dataPreprocess
  | distillation
  | other (raw : String) (unknown : raw ∉ kindNames)
  deriving DecidableEq, Repr

theorem empty_not_kindName : "" ∉ kindNames := by decide

/-- The unset kind. -/
def WorkloadKind.unset : WorkloadKind := .other "" empty_not_kindName

/-- The `switch w.Kind` of the validators: the eight supported kinds. -/
def WorkloadKind.supported : WorkloadKind → Bool
  | .other _ _ => false
  | _ => true

/-- A workload waiting for admission. -/
structure QueuedWorkload where
  workloadID : String
  tenant : String
  priority : Int
  queuedAt : Int
  gpuCount : Int
  gpuMemoryMiB : Int
  profile : String
  tokens : Int
  kind : WorkloadKind
  deriving DecidableEq, Repr

/-- A workload that is scheduled or running. -/
structure RunningWorkload where
  workloadID : String
  tenant : String
  priority : Int
  startedAt : Int
  gpuCount : Int
  gpuMemoryMiB : Int
  profile : String
  tokens : Int
  kind : WorkloadKind
  deriving DecidableEq, Repr

/-- Free capacity of one hardware profile. -/
structure ProfileFreeCapacity where
  freeDevices : Int
  freeMemoryMiB : Int
  memoryMiBPerDevice : Int
  deriving DecidableEq, Repr

/-- Free capacity of a fleet; `byProfile = none` is the nil map. -/
structure FleetFreeCapacity where
  totalFreeDevices : Int
  totalFreeMemoryMiB : Int
  byProfile : Option (GoMap String ProfileFreeCapacity)

/-- `fleet.ByProfile[p]`. -/
def FleetFreeCapacity.entry (f : FleetFreeCapacity) (p : String) :
    Option ProfileFreeCapacity :=
  (f.byProfile.getD ∅).lookup p

/-- Quota and fairness limits of one tenant; `0` means no cap. -/
structure TenantQuota where
  maxGPUs : Int
  maxMemoryMiB : Int
  weight : Int
  deriving DecidableEq, Repr

/-- The scheduler's entry-point state. -/
structure SchedulingInputs where
  queuedWorkloads : List QueuedWorkload
  scheduledWorkloads : List RunningWorkload
  runningWorkloads : List RunningWorkload
  fleetFreeCapacity : FleetFreeCapacity
  tenantQuotas : GoMap String TenantQuota

/-! ## Validate -/

/-- The workload list an error names. -/
inductive WorkloadList where
  | queuedWorkloads | scheduledWorkloads | runningWorkloads
  deriving DecidableEq, Repr

/-- The time field a workload list requires. -/
inductive TimeField where
  | queuedAt | startedAt
  deriving DecidableEq, Repr

/-- What is wrong with one workload entry. -/
inductive WorkloadProblem where
  | workloadIDRequired
  | duplicateWorkloadID (id : String)
  | tenantRequired
  | timeRequired (field : TimeField)
  | gpuCountNotPositive (got : Int)
  | gpuMemoryMiBNotPositive (got : Int)
  | profileRequired
  | tokensNotPositive (got : Int)
  | unsupportedKind (kind : WorkloadKind)
  deriving DecidableEq, Repr

/-- The errors of `Validate`: each names the entry or the field it is about. -/
inductive InputsError where
  | workload (list : WorkloadList) (index : Nat) (problem : WorkloadProblem)
  | totalFreeDevicesNegative (got : Int)
  | totalFreeMemoryMiBNegative (got : Int)
  | emptyProfileKey
  | freeDevicesNegative (profile : String) (got : Int)
  | freeMemoryMiBNegative (profile : String) (got : Int)
  | memoryMiBPerDeviceNotPositive (profile : String) (got : Int)
  | totalFreeDevicesMismatch (total sum : Int)
  | totalFreeMemoryMiBMismatch (total sum : Int)
  | emptyTenantKey
  | maxGPUsNegative (tenant : String) (got : Int)
  | maxMemoryMiBNegative (tenant : String) (got : Int)
  | weightNegative (tenant : String) (got : Int)
  deriving DecidableEq, Repr

/-- The fields the three workload loops read; `time` is the one a loop requires
    to be set, if any. -/
structure WorkloadFields where
  workloadID : String
  tenant : String
  time : Option (TimeField × Int)
  gpuCount : Int
  gpuMemoryMiB : Int
  profile : String
  tokens : Int
  kind : WorkloadKind

/-- What the loop over `QueuedWorkloads` reads. -/
def QueuedWorkload.fields (w : QueuedWorkload) : WorkloadFields :=
  ⟨w.workloadID, w.tenant, some (.queuedAt, w.queuedAt), w.gpuCount, w.gpuMemoryMiB,
    w.profile, w.tokens, w.kind⟩

/-- What the loop over `ScheduledWorkloads` reads: no time is required there. -/
def RunningWorkload.scheduledFields (w : RunningWorkload) : WorkloadFields :=
  ⟨w.workloadID, w.tenant, none, w.gpuCount, w.gpuMemoryMiB, w.profile, w.tokens, w.kind⟩

/-- What the loop over `RunningWorkloads` reads. -/
def RunningWorkload.runningFields (w : RunningWorkload) : WorkloadFields :=
  ⟨w.workloadID, w.tenant, some (.startedAt, w.startedAt), w.gpuCount, w.gpuMemoryMiB,
    w.profile, w.tokens, w.kind⟩

/-- The time field is missing: `IsZero`. -/
def WorkloadFields.missingTime (f : WorkloadFields) : Option TimeField :=
  match f.time with
  | some (field, t) => if t = 0 then some field else none
  | none => none

/-- The body of a workload loop: the first failed check, or the IDs seen so far. -/
def checkWorkload (seen : List String) (f : WorkloadFields) :
    Except WorkloadProblem (List String) :=
  if trimSpace f.workloadID = "" then .error .workloadIDRequired
  else if f.workloadID ∈ seen then .error (.duplicateWorkloadID f.workloadID)
  else if trimSpace f.tenant = "" then .error .tenantRequired
  else match f.missingTime with
  | some field => .error (.timeRequired field)
  | none =>
    if f.gpuCount ≤ 0 then .error (.gpuCountNotPositive f.gpuCount)
    else if f.gpuMemoryMiB ≤ 0 then .error (.gpuMemoryMiBNotPositive f.gpuMemoryMiB)
    else if trimSpace f.profile = "" then .error .profileRequired
    else if f.tokens ≤ 0 then .error (.tokensNotPositive f.tokens)
    else if f.kind.supported = false then .error (.unsupportedKind f.kind)
    else .ok (f.workloadID :: seen)

/-- One workload loop of `Validate`, from index `i` on. -/
def checkWorkloads (list : WorkloadList) :
    Nat → List String → List WorkloadFields → Except InputsError (List String)
  | _, seen, [] => .ok seen
  | i, seen, f :: fs =>
      match checkWorkload seen f with
      | .error p => .error (.workload list i p)
      | .ok seen' => checkWorkloads list (i + 1) seen' fs

section
variable (norm : Int → Int)

/-- The loop over `ByProfile`, with its two running sums; `norm` says what is kept of a
    sum. -/
def checkProfilesWith : Int → Int → List (Sigma fun _ : String => ProfileFreeCapacity) →
    Except InputsError (Int × Int)
  | sumDevices, sumMemory, [] => .ok (sumDevices, sumMemory)
  | sumDevices, sumMemory, ⟨profile, cap⟩ :: rest =>
      if trimSpace profile = "" then .error .emptyProfileKey
      else if cap.freeDevices < 0 then .error (.freeDevicesNegative profile cap.freeDevices)
      else if cap.freeMemoryMiB < 0 then
        .error (.freeMemoryMiBNegative profile cap.freeMemoryMiB)
      else if 0 < cap.freeDevices ∧ cap.memoryMiBPerDevice ≤ 0 then
        .error (.memoryMiBPerDeviceNotPositive profile cap.memoryMiBPerDevice)
      else checkProfilesWith (norm (sumDevices + cap.freeDevices))
        (norm (sumMemory + cap.freeMemoryMiB)) rest

/-- The loop over `TenantQuotas`. -/
def checkQuotas : List (Sigma fun _ : String => TenantQuota) → Except InputsError Unit
  | [] => .ok ()
  | ⟨tenant, q⟩ :: rest =>
      if trimSpace tenant = "" then .error .emptyTenantKey
      else if q.maxGPUs < 0 then .error (.maxGPUsNegative tenant q.maxGPUs)
      else if q.maxMemoryMiB < 0 then .error (.maxMemoryMiBNegative tenant q.maxMemoryMiB)
      else if q.weight < 0 then .error (.weightNegative tenant q.weight)
      else checkQuotas rest

/-- The checks on `FleetFreeCapacity`. -/
def checkFleetWith (fleet : FleetFreeCapacity) : Except InputsError Unit :=
  if fleet.totalFreeDevices < 0 then
    .error (.totalFreeDevicesNegative fleet.totalFreeDevices)
  else if fleet.totalFreeMemoryMiB < 0 then
    .error (.totalFreeMemoryMiBNegative fleet.totalFreeMemoryMiB)
  else match checkProfilesWith norm 0 0 (fleet.byProfile.getD ∅).entries with
  | .error e => .error e
  | .ok (sumDevices, sumMemory) =>
    if sumDevices ≠ fleet.totalFreeDevices then
      .error (.totalFreeDevicesMismatch fleet.totalFreeDevices sumDevices)
    else if sumMemory ≠ fleet.totalFreeMemoryMiB then
      .error (.totalFreeMemoryMiBMismatch fleet.totalFreeMemoryMiB sumMemory)
    else .ok ()

/-- `SchedulingInputs.Validate`. -/
def validateWith (inputs : SchedulingInputs) : Except InputsError Unit :=
  match checkWorkloads .queuedWorkloads 0 []
      (inputs.queuedWorkloads.map QueuedWorkload.fields) with
  | .error e => .error e
  | .ok seen =>
    match checkWorkloads .scheduledWorkloads 0 seen
        (inputs.scheduledWorkloads.map RunningWorkload.scheduledFields) with
    | .error e => .error e
    | .ok seen =>
      match checkWorkloads .runningWorkloads 0 seen
          (inputs.runningWorkloads.map RunningWorkload.runningFields) with
      | .error e => .error e
      | .ok _ =>
        match checkFleetWith norm inputs.fleetFreeCapacity with
        | .error e => .error e
        | .ok () => checkQuotas inputs.tenantQuotas.entries

end

/-- The checks on `FleetFreeCapacity`, with exact sums. -/
def checkFleet : FleetFreeCapacity → Except InputsError Unit := checkFleetWith id

/-- `SchedulingInputs.Validate`, with exact sums. -/
def validate : SchedulingInputs → Except InputsError Unit := validateWith id

/-! ## What `Validate` accepts -/

/-- One workload entry passes its loop's checks. -/
structure WorkloadFields.Ok (f : WorkloadFields) : Prop where
  workloadID : trimSpace f.workloadID ≠ ""
  tenant : trimSpace f.tenant ≠ ""
  time : f.missingTime = none
  gpuCount : 0 < f.gpuCount
  gpuMemoryMiB : 0 < f.gpuMemoryMiB
  profile : trimSpace f.profile ≠ ""
  tokens : 0 < f.tokens
  kind : f.kind.supported = true

instance (f : WorkloadFields) : Decidable f.Ok :=
  decidable_of_iff
    (trimSpace f.workloadID ≠ "" ∧ trimSpace f.tenant ≠ "" ∧ f.missingTime = none
      ∧ 0 < f.gpuCount ∧ 0 < f.gpuMemoryMiB ∧ trimSpace f.profile ≠ "" ∧ 0 < f.tokens
      ∧ f.kind.supported = true)
    ⟨fun ⟨h1, h2, h3, h4, h5, h6, h7, h8⟩ => ⟨h1, h2, h3, h4, h5, h6, h7, h8⟩,
      fun h => ⟨h.1, h.2, h.3, h.4, h.5, h.6, h.7, h.8⟩⟩

/-- One capacity entry passes the checks on `ByProfile`. -/
structure ProfileOk (profile : String) (cap : ProfileFreeCapacity) : Prop where
  key : trimSpace profile ≠ ""
  freeDevices : 0 ≤ cap.freeDevices
  freeMemoryMiB : 0 ≤ cap.freeMemoryMiB
  memoryMiBPerDevice : 0 < cap.freeDevices → 0 < cap.memoryMiBPerDevice

/-- One quota entry passes the checks on `TenantQuotas`. -/
structure QuotaOk (tenant : String) (q : TenantQuota) : Prop where
  key : trimSpace tenant ≠ ""
  maxGPUs : 0 ≤ q.maxGPUs
  maxMemoryMiB : 0 ≤ q.maxMemoryMiB
  weight : 0 ≤ q.weight

/-- The fleet part of the contract. -/
structure FleetOk (fleet : FleetFreeCapacity) : Prop where
  totalFreeDevices : 0 ≤ fleet.totalFreeDevices
  totalFreeMemoryMiB : 0 ≤ fleet.totalFreeMemoryMiB
  profiles : ∀ e ∈ (fleet.byProfile.getD ∅).entries, ProfileOk e.1 e.2
  sumDevices : ((fleet.byProfile.getD ∅).entries.map (fun e => e.2.freeDevices)).sum
    = fleet.totalFreeDevices
  sumMemory : ((fleet.byProfile.getD ∅).entries.map (fun e => e.2.freeMemoryMiB)).sum
    = fleet.totalFreeMemoryMiB

/-- The IDs in the order `Validate` visits them. -/
def SchedulingInputs.ids (inputs : SchedulingInputs) : List String :=
  inputs.queuedWorkloads.map QueuedWorkload.workloadID
    ++ (inputs.scheduledWorkloads.map RunningWorkload.workloadID
      ++ inputs.runningWorkloads.map RunningWorkload.workloadID)

/-- **THE INPUT CONTRACT**, stated without loops. -/
structure Valid (inputs : SchedulingInputs) : Prop where
  queued : ∀ w ∈ inputs.queuedWorkloads, w.fields.Ok
  scheduled : ∀ w ∈ inputs.scheduledWorkloads, w.scheduledFields.Ok
  running : ∀ w ∈ inputs.runningWorkloads, w.runningFields.Ok
  ids : inputs.ids.Nodup
  fleet : FleetOk inputs.fleetFreeCapacity
  quotas : ∀ e ∈ inputs.tenantQuotas.entries, QuotaOk e.1 e.2

theorem Valid.nodup_queued {inputs : SchedulingInputs} (hv : Valid inputs) :
    (inputs.queuedWorkloads.map QueuedWorkload.workloadID).Nodup :=
  (List.nodup_append'.mp hv.ids).1

theorem Valid.nodup_running {inputs : SchedulingInputs} (hv : Valid inputs) :
    (inputs.runningWorkloads.map RunningWorkload.workloadID).Nodup :=
  (List.nodup_append'.mp (List.nodup_append'.mp hv.ids).2.1).2.1

/-- A queued workload is not running. -/
theorem Valid.queued_ne_running {inputs : SchedulingInputs} (hv : Valid inputs)
    {w : QueuedWorkload} (hw : w ∈ inputs.queuedWorkloads) {r : RunningWorkload}
    (hr : r ∈ inputs.runningWorkloads) : r.workloadID ≠ w.workloadID := by
  intro hid
  have hrun : w.workloadID ∈ inputs.runningWorkloads.map RunningWorkload.workloadID :=
    List.mem_map.mpr ⟨r, hr, hid⟩
  exact (List.nodup_append'.mp hv.ids).2.2 (List.mem_map_of_mem hw)
    (List.mem_append_right _ hrun)

/-- One turn of a workload loop succeeds exactly on a well-formed fresh entry. -/
theorem checkWorkload_ok_iff {seen seen' : List String} {f : WorkloadFields} :
    checkWorkload seen f = .ok seen'
      ↔ f.Ok ∧ f.workloadID ∉ seen ∧ seen' = f.workloadID :: seen := by
  constructor
  · intro h
    cases ht : f.missingTime with
    | some field =>
        simp only [checkWorkload, ht] at h
        split_ifs at h
    | none =>
        simp only [checkWorkload, ht] at h
        split_ifs at h with h1 h2 h3 h4 h5 h6 h7 h8
        refine ⟨⟨h1, h3, ht, by omega, by omega, h6, by omega, ?_⟩, h2, ?_⟩
        · exact Bool.eq_true_of_not_eq_false h8
        · exact (Except.ok.inj h).symm
  · rintro ⟨hok, hfresh, rfl⟩
    have hg : ¬ f.gpuCount ≤ 0 := not_le.mpr hok.gpuCount
    have hm : ¬ f.gpuMemoryMiB ≤ 0 := not_le.mpr hok.gpuMemoryMiB
    have htk : ¬ f.tokens ≤ 0 := not_le.mpr hok.tokens
    have hk : ¬ f.kind.supported = false := by rw [hok.kind]; exact Bool.noConfusion
    rw [checkWorkload, if_neg hok.workloadID, if_neg hfresh, if_neg hok.tenant, hok.time]
    simp only
    rw [if_neg hg, if_neg hm, if_neg hok.profile, if_neg htk, if_neg hk]

/-- A workload loop succeeds exactly on well-formed entries with fresh, distinct IDs. -/
theorem checkWorkloads_ok_iff {list : WorkloadList} {i : Nat} {seen seen' : List String}
    {fs : List WorkloadFields} :
    checkWorkloads list i seen fs = .ok seen'
      ↔ (∀ f ∈ fs, f.Ok) ∧ (fs.map WorkloadFields.workloadID).Nodup
        ∧ (∀ f ∈ fs, f.workloadID ∉ seen)
        ∧ seen' = (fs.map WorkloadFields.workloadID).reverse ++ seen := by
  induction fs generalizing i seen with
  | nil => simp [checkWorkloads, eq_comm]
  | cons f fs ih =>
      constructor
      · intro h
        rw [checkWorkloads] at h
        cases hc : checkWorkload seen f with
        | error p => rw [hc] at h; cases h
        | ok s1 =>
            rw [hc] at h
            obtain ⟨hok, hfresh, rfl⟩ := checkWorkload_ok_iff.mp hc
            obtain ⟨hall, hnd, hdis, rfl⟩ := ih.mp h
            refine ⟨?_, ?_, ?_, by simp⟩
            · intro g hg
              rcases List.mem_cons.mp hg with rfl | hg
              · exact hok
              · exact hall g hg
            · refine List.nodup_cons.mpr ⟨?_, hnd⟩
              intro hmem
              obtain ⟨g, hg, hid⟩ := List.mem_map.mp hmem
              exact hdis g hg (by rw [hid]; exact List.mem_cons_self ..)
            · intro g hg
              rcases List.mem_cons.mp hg with rfl | hg
              · exact hfresh
              · exact fun hs => hdis g hg (List.mem_cons_of_mem _ hs)
      · rintro ⟨hall, hnd, hdis, rfl⟩
        have hf := checkWorkload_ok_iff.mpr
          ⟨hall f (List.mem_cons_self ..), hdis f (List.mem_cons_self ..), rfl⟩
        rw [checkWorkloads, hf]
        obtain ⟨hnot, hnd'⟩ := List.nodup_cons.mp hnd
        refine ih.mpr ⟨fun g hg => hall g (List.mem_cons_of_mem _ hg), hnd', ?_, by simp⟩
        intro g hg hs
        rcases List.mem_cons.mp hs with hid | hs
        · exact hnot (List.mem_map.mpr ⟨g, hg, hid⟩)
        · exact hdis g (List.mem_cons_of_mem _ hg) hs

theorem checkProfiles_ok_iff {d m : Int} {r : Int × Int}
    {es : List (Sigma fun _ : String => ProfileFreeCapacity)} :
    checkProfilesWith id d m es = .ok r
      ↔ (∀ e ∈ es, ProfileOk e.1 e.2)
        ∧ r = (d + (es.map (fun e => e.2.freeDevices)).sum,
            m + (es.map (fun e => e.2.freeMemoryMiB)).sum) := by
  induction es generalizing d m with
  | nil => simp [checkProfilesWith, eq_comm]
  | cons e es ih =>
      obtain ⟨profile, cap⟩ := e
      constructor
      · intro h
        rw [checkProfilesWith] at h
        split_ifs at h with h1 h2 h3 h4
        obtain ⟨hall, rfl⟩ := ih.mp h
        refine ⟨?_, by simp [Int.add_assoc]⟩
        intro e he
        rcases List.mem_cons.mp he with rfl | he
        · exact ⟨h1, not_lt.mp h2, not_lt.mp h3, fun hp => not_le.mp (fun hm => h4 ⟨hp, hm⟩)⟩
        · exact hall e he
      · rintro ⟨hall, rfl⟩
        have hok := hall ⟨profile, cap⟩ (List.mem_cons_self ..)
        have h4 : ¬ (0 < cap.freeDevices ∧ cap.memoryMiBPerDevice ≤ 0) :=
          fun hp => absurd (hok.memoryMiBPerDevice hp.1) (not_lt.mpr hp.2)
        rw [checkProfilesWith, if_neg hok.key, if_neg (not_lt.mpr hok.freeDevices),
          if_neg (not_lt.mpr hok.freeMemoryMiB), if_neg h4]
        exact ih.mpr ⟨fun e he => hall e (List.mem_cons_of_mem _ he),
          by simp [Int.add_assoc]⟩

theorem checkQuotas_ok_iff {es : List (Sigma fun _ : String => TenantQuota)} :
    checkQuotas es = .ok () ↔ ∀ e ∈ es, QuotaOk e.1 e.2 := by
  induction es with
  | nil => simp [checkQuotas]
  | cons e es ih =>
      obtain ⟨tenant, q⟩ := e
      constructor
      · intro h
        rw [checkQuotas] at h
        split_ifs at h with h1 h2 h3 h4
        intro e he
        rcases List.mem_cons.mp he with rfl | he
        · exact ⟨h1, not_lt.mp h2, not_lt.mp h3, not_lt.mp h4⟩
        · exact ih.mp h e he
      · intro hall
        have hok := hall ⟨tenant, q⟩ (List.mem_cons_self ..)
        rw [checkQuotas, if_neg hok.key, if_neg (not_lt.mpr hok.maxGPUs),
          if_neg (not_lt.mpr hok.maxMemoryMiB), if_neg (not_lt.mpr hok.weight)]
        exact ih.mpr (fun e he => hall e (List.mem_cons_of_mem _ he))

theorem checkFleet_ok_iff {fleet : FleetFreeCapacity} :
    checkFleet fleet = .ok () ↔ FleetOk fleet := by
  constructor
  · intro h
    rw [checkFleet, checkFleetWith] at h
    split_ifs at h with h1 h2
    cases hp : checkProfilesWith id 0 0 (fleet.byProfile.getD ∅).entries with
    | error e => rw [hp] at h; cases h
    | ok r =>
        rw [hp] at h
        obtain ⟨hall, rfl⟩ := checkProfiles_ok_iff.mp hp
        simp only [Int.zero_add] at h
        split_ifs at h with h3 h4
        exact ⟨by omega, by omega, hall, not_not.mp h3, not_not.mp h4⟩
  · intro hok
    have hp := checkProfiles_ok_iff.mpr
      ⟨hok.profiles, (rfl : _ = ((0 : Int) + _, (0 : Int) + _))⟩
    rw [checkFleet, checkFleetWith, if_neg (not_lt.mpr hok.totalFreeDevices),
      if_neg (not_lt.mpr hok.totalFreeMemoryMiB), hp]
    simp only [Int.zero_add]
    rw [if_neg (not_not.mpr hok.sumDevices), if_neg (not_not.mpr hok.sumMemory)]

/-- A workload loop over a list, by the IDs of the list. -/
theorem checkWorkloads_map_ok_iff {α : Type} {fields : α → WorkloadFields} {id : α → String}
    (hid : ∀ a, (fields a).workloadID = id a) {list : WorkloadList} {i : Nat}
    {seen seen' : List String} {l : List α} :
    checkWorkloads list i seen (l.map fields) = .ok seen'
      ↔ (∀ a ∈ l, (fields a).Ok) ∧ (l.map id).Nodup ∧ (∀ a ∈ l, id a ∉ seen)
        ∧ seen' = (l.map id).reverse ++ seen := by
  have hids : (l.map fields).map WorkloadFields.workloadID = l.map id := by
    rw [List.map_map]
    exact List.map_congr_left (fun a _ => hid a)
  rw [checkWorkloads_ok_iff, hids, List.forall_mem_map, List.forall_mem_map]
  refine and_congr_right (fun _ => and_congr_right (fun _ => and_congr_left (fun _ => ?_)))
  exact forall₂_congr (fun a _ => by rw [hid])

/-- `Validate` succeeds when all its loops do. -/
theorem validate_stages {inputs : SchedulingInputs} :
    validate inputs = .ok () ↔ ∃ s₁ s₂ s₃,
      checkWorkloads .queuedWorkloads 0 []
          (inputs.queuedWorkloads.map QueuedWorkload.fields) = .ok s₁
        ∧ checkWorkloads .scheduledWorkloads 0 s₁
          (inputs.scheduledWorkloads.map RunningWorkload.scheduledFields) = .ok s₂
        ∧ checkWorkloads .runningWorkloads 0 s₂
          (inputs.runningWorkloads.map RunningWorkload.runningFields) = .ok s₃
        ∧ checkFleet inputs.fleetFreeCapacity = .ok ()
        ∧ checkQuotas inputs.tenantQuotas.entries = .ok () := by
  rw [validate, validateWith, ← checkFleet]
  constructor
  · intro h
    split at h
    · cases h
    · rename_i s₁ h₁
      split at h
      · cases h
      · rename_i s₂ h₂
        split at h
        · cases h
        · rename_i s₃ h₃
          split at h
          · cases h
          · rename_i h₄
            exact ⟨s₁, s₂, s₃, h₁, h₂, h₃, h₄, h⟩
  · rintro ⟨s₁, s₂, s₃, h₁, h₂, h₃, h₄, h₅⟩
    simp only [h₁, h₂, h₃, h₄]
    exact h₅

/-- The IDs are distinct when each loop finds its own distinct, and none that was seen. -/
theorem nodup_ids_iff {inputs : SchedulingInputs} :
    inputs.ids.Nodup
      ↔ (inputs.queuedWorkloads.map QueuedWorkload.workloadID).Nodup
        ∧ (inputs.scheduledWorkloads.map RunningWorkload.workloadID).Nodup
        ∧ (inputs.runningWorkloads.map RunningWorkload.workloadID).Nodup
        ∧ (∀ w ∈ inputs.scheduledWorkloads,
          w.workloadID ∉ inputs.queuedWorkloads.map QueuedWorkload.workloadID)
        ∧ ∀ w ∈ inputs.runningWorkloads,
          w.workloadID ∉ inputs.scheduledWorkloads.map RunningWorkload.workloadID
          ∧ w.workloadID ∉ inputs.queuedWorkloads.map QueuedWorkload.workloadID := by
  rw [SchedulingInputs.ids]
  constructor
  · intro h
    obtain ⟨n₁, n₂₃, hq⟩ := List.nodup_append'.mp h
    obtain ⟨n₂, n₃, hs⟩ := List.nodup_append'.mp n₂₃
    refine ⟨n₁, n₂, n₃, fun w hw hmem => ?_, fun w hw => ⟨fun hmem => ?_, fun hmem => ?_⟩⟩
    · exact hq hmem (List.mem_append_left _ (List.mem_map_of_mem hw))
    · exact hs hmem (List.mem_map_of_mem hw)
    · exact hq hmem (List.mem_append_right _ (List.mem_map_of_mem hw))
  · rintro ⟨n₁, n₂, n₃, hs, hr⟩
    refine n₁.append (n₂.append n₃ ?_) ?_
    · intro x hx hx'
      obtain ⟨w, hw, rfl⟩ := List.mem_map.mp hx'
      exact (hr w hw).1 hx
    · intro x hx hx'
      rcases List.mem_append.mp hx' with hx' | hx'
      · obtain ⟨w, hw, rfl⟩ := List.mem_map.mp hx'
        exact hs w hw hx
      · obtain ⟨w, hw, rfl⟩ := List.mem_map.mp hx'
        exact (hr w hw).2 hx

/-- **`Validate` IS THE CONTRACT**: it accepts exactly the valid inputs. -/
theorem validate_ok_iff {inputs : SchedulingInputs} :
    validate inputs = .ok () ↔ Valid inputs := by
  have hqueued := @checkWorkloads_map_ok_iff _ QueuedWorkload.fields
    QueuedWorkload.workloadID (fun _ => rfl)
  have hscheduled := @checkWorkloads_map_ok_iff _ RunningWorkload.scheduledFields
    RunningWorkload.workloadID (fun _ => rfl)
  have hrunning := @checkWorkloads_map_ok_iff _ RunningWorkload.runningFields
    RunningWorkload.workloadID (fun _ => rfl)
  rw [validate_stages]
  constructor
  · rintro ⟨s₁, s₂, s₃, h₁, h₂, h₃, h₄, h₅⟩
    obtain ⟨ok₁, n₁, -, rfl⟩ := hqueued.mp h₁
    obtain ⟨ok₂, n₂, new₂, rfl⟩ := hscheduled.mp h₂
    obtain ⟨ok₃, n₃, new₃, -⟩ := hrunning.mp h₃
    simp only [List.append_nil, List.mem_append, List.mem_reverse, not_or] at new₂ new₃
    exact ⟨ok₁, ok₂, ok₃, nodup_ids_iff.mpr ⟨n₁, n₂, n₃, new₂, new₃⟩, checkFleet_ok_iff.mp h₄,
      checkQuotas_ok_iff.mp h₅⟩
  · intro hv
    obtain ⟨n₁, n₂, n₃, new₂, new₃⟩ := nodup_ids_iff.mp hv.ids
    refine ⟨_, _, _, hqueued.mpr ⟨hv.queued, n₁, fun _ _ h => (by cases h), rfl⟩,
      hscheduled.mpr ⟨hv.scheduled, n₂, ?_, rfl⟩, hrunning.mpr ⟨hv.running, n₃, ?_, rfl⟩,
      checkFleet_ok_iff.mpr hv.fleet, checkQuotas_ok_iff.mpr hv.quotas⟩
    · simpa only [List.append_nil, List.mem_reverse] using new₂
    · simpa only [List.append_nil, List.mem_append, List.mem_reverse, not_or] using new₃

/-! ## Virtual admission -/

/-- The errors of `ApplyVirtualAdmission`. -/
inductive AdmissionError where
  | profileNotInFleet (profile : String)
  | capacityNegative
  deriving DecidableEq, Repr

/-- The running entry `ApplyVirtualAdmission` appends for an admitted workload. -/
def QueuedWorkload.asRunning (w : QueuedWorkload) (now : Int) : RunningWorkload :=
  ⟨w.workloadID, w.tenant, w.priority, now, w.gpuCount, w.gpuMemoryMiB, w.profile,
    w.tokens, w.kind⟩

section
variable (norm : Int → Int)

/-- The capacity entry after an admission of `gpuCount` devices. -/
def takeWith (cap : ProfileFreeCapacity) (gpuCount : Int) : ProfileFreeCapacity :=
  { cap with
    freeDevices := norm (cap.freeDevices - gpuCount)
    freeMemoryMiB := norm (cap.freeMemoryMiB - norm (gpuCount * cap.memoryMiBPerDevice)) }

/-- The copy `ApplyVirtualAdmission` returns when the capacity entry is `cap`. -/
def afterAdmissionWith (inputs : SchedulingInputs) (admitted : QueuedWorkload)
    (cap : ProfileFreeCapacity) (now : Int) : SchedulingInputs where
  queuedWorkloads :=
    inputs.queuedWorkloads.filter (fun q => q.workloadID ≠ admitted.workloadID)
  scheduledWorkloads := inputs.scheduledWorkloads
  runningWorkloads := inputs.runningWorkloads ++ [admitted.asRunning now]
  fleetFreeCapacity :=
    { totalFreeDevices := norm (inputs.fleetFreeCapacity.totalFreeDevices - admitted.gpuCount)
      totalFreeMemoryMiB := norm (inputs.fleetFreeCapacity.totalFreeMemoryMiB
        - norm (admitted.gpuCount * cap.memoryMiBPerDevice))
      byProfile := some ((inputs.fleetFreeCapacity.byProfile.getD ∅).insert
        admitted.profile (takeWith norm cap admitted.gpuCount)) }
  tenantQuotas := inputs.tenantQuotas

/-- `ApplyVirtualAdmission`. -/
def applyVirtualAdmissionWith (inputs : SchedulingInputs) (admitted : QueuedWorkload)
    (now : Int) : Except AdmissionError SchedulingInputs :=
  match inputs.fleetFreeCapacity.entry admitted.profile with
  | none => .error (.profileNotInFleet admitted.profile)
  | some cap =>
    if (takeWith norm cap admitted.gpuCount).freeDevices < 0
        ∨ (takeWith norm cap admitted.gpuCount).freeMemoryMiB < 0 then
      .error .capacityNegative
    else .ok (afterAdmissionWith norm inputs admitted cap now)

end

/-- The capacity entry after an admission, with exact differences. -/
def ProfileFreeCapacity.take : ProfileFreeCapacity → Int → ProfileFreeCapacity := takeWith id

/-- The copy of an admission, with exact differences. -/
def SchedulingInputs.afterAdmission : SchedulingInputs → QueuedWorkload → ProfileFreeCapacity →
    Int → SchedulingInputs := afterAdmissionWith id

/-- `ApplyVirtualAdmission`, with exact differences. -/
def applyVirtualAdmission : SchedulingInputs → QueuedWorkload → Int →
    Except AdmissionError SchedulingInputs := applyVirtualAdmissionWith id

/-- `QueuedWorkloadByID`. -/
def queuedWorkloadByID (inputs : SchedulingInputs) (workloadID : String) :
    Option QueuedWorkload :=
  inputs.queuedWorkloads.find? (fun q => q.workloadID = workloadID)

/-- Virtual admission succeeds exactly when the profile's entry covers the workload's
    devices and their memory. -/
theorem applyVirtualAdmission_ok_iff {inputs out : SchedulingInputs} {w : QueuedWorkload}
    {now : Int} :
    applyVirtualAdmission inputs w now = .ok out
      ↔ ∃ cap, inputs.fleetFreeCapacity.entry w.profile = some cap
        ∧ w.gpuCount ≤ cap.freeDevices
        ∧ w.gpuCount * cap.memoryMiBPerDevice ≤ cap.freeMemoryMiB
        ∧ out = inputs.afterAdmission w cap now := by
  rw [applyVirtualAdmission, applyVirtualAdmissionWith, ← ProfileFreeCapacity.take,
    ← SchedulingInputs.afterAdmission]
  cases hc : inputs.fleetFreeCapacity.entry w.profile with
  | none => simp
  | some cap =>
      have hd : (cap.take w.gpuCount).freeDevices = cap.freeDevices - w.gpuCount := rfl
      have hm : (cap.take w.gpuCount).freeMemoryMiB
          = cap.freeMemoryMiB - w.gpuCount * cap.memoryMiBPerDevice := rfl
      simp only [hd, hm, Option.some.injEq]
      constructor
      · intro h
        split_ifs at h with hneg
        push Not at hneg
        exact ⟨cap, rfl, by omega, by omega, (Except.ok.inj h).symm⟩
      · rintro ⟨cap', rfl, h1, h2, rfl⟩
        rw [if_neg (by push Not; constructor <;> omega)]

/-- Admission changes the capacity entry of the admitted profile only. -/
theorem entry_afterAdmission (inputs : SchedulingInputs) (w : QueuedWorkload)
    (cap : ProfileFreeCapacity) (now : Int) (p : String) :
    (inputs.afterAdmission w cap now).fleetFreeCapacity.entry p
      = if p = w.profile then some (cap.take w.gpuCount)
        else inputs.fleetFreeCapacity.entry p := by
  by_cases hp : p = w.profile
  · subst hp
    rw [if_pos rfl]
    exact AList.lookup_insert _
  · rw [if_neg hp]
    exact AList.lookup_insert_ne hp

/-- Looking a queued workload up by its ID finds it, when the queue's IDs are distinct. -/
theorem queuedWorkloadByID_of_mem {inputs : SchedulingInputs} {w : QueuedWorkload}
    (hnd : (inputs.queuedWorkloads.map QueuedWorkload.workloadID).Nodup)
    (hw : w ∈ inputs.queuedWorkloads) :
    queuedWorkloadByID inputs w.workloadID = some w := by
  rw [queuedWorkloadByID]
  cases hf : inputs.queuedWorkloads.find? (fun q => q.workloadID = w.workloadID) with
  | none =>
      have := List.find?_eq_none.mp hf w hw
      simp at this
  | some q =>
      have hid : q.workloadID = w.workloadID := by simpa using List.find?_some hf
      exact congrArg some (List.inj_on_of_nodup_map hnd (List.mem_of_find?_eq_some hf) hw hid)

/-- The IDs of the copy are those of the inputs, one moved from the queue to the end of
    the running list. -/
private theorem ids_afterAdmission {inputs : SchedulingInputs} {w : QueuedWorkload}
    {cap : ProfileFreeCapacity} {now : Int} (hids : inputs.ids.Nodup)
    (hw : w ∈ inputs.queuedWorkloads) :
    (inputs.afterAdmission w cap now).ids.Nodup := by
  obtain ⟨n1, n23, dq⟩ := List.nodup_append'.mp hids
  obtain ⟨n2, n3, ds⟩ := List.nodup_append'.mp n23
  have hwid : w.workloadID ∈ inputs.queuedWorkloads.map QueuedWorkload.workloadID :=
    List.mem_map.mpr ⟨w, hw, rfl⟩
  have hnotS : w.workloadID ∉ inputs.scheduledWorkloads.map RunningWorkload.workloadID :=
    fun h => dq hwid (List.mem_append.mpr (Or.inl h))
  have hnotR : w.workloadID ∉ inputs.runningWorkloads.map RunningWorkload.workloadID :=
    fun h => dq hwid (List.mem_append.mpr (Or.inr h))
  have hids' : (inputs.afterAdmission w cap now).ids
      = (inputs.queuedWorkloads.filter (fun q => q.workloadID ≠ w.workloadID)).map
          QueuedWorkload.workloadID
        ++ (inputs.scheduledWorkloads.map RunningWorkload.workloadID
          ++ (inputs.runningWorkloads.map RunningWorkload.workloadID ++ [w.workloadID])) := by
    show _ ++ (_ ++ (inputs.runningWorkloads ++ [w.asRunning now]).map
      RunningWorkload.workloadID) = _
    rw [List.map_append]
    rfl
  rw [hids']
  refine (n1.sublist (List.filter_sublist.map _)).append (n2.append (n3.append
    (List.nodup_singleton _) ?_) ?_) ?_
  · intro x hx hx'
    rw [List.mem_singleton.mp hx'] at hx
    exact hnotR hx
  · intro x hx hx'
    rcases List.mem_append.mp hx' with hx' | hx'
    · exact ds hx hx'
    · rw [List.mem_singleton.mp hx'] at hx
      exact hnotS hx
  · intro x hx hx'
    obtain ⟨q, hq, rfl⟩ := List.mem_map.mp hx
    obtain ⟨hqmem, hne⟩ := List.mem_filter.mp hq
    have hqid : q.workloadID ∈ inputs.queuedWorkloads.map QueuedWorkload.workloadID :=
      List.mem_map.mpr ⟨q, hqmem, rfl⟩
    rcases List.mem_append.mp hx' with hx' | hx'
    · exact dq hqid (List.mem_append.mpr (Or.inl hx'))
    · rcases List.mem_append.mp hx' with hx' | hx'
      · exact dq hqid (List.mem_append.mpr (Or.inr hx'))
      · exact absurd (List.mem_singleton.mp hx') (by simpa using hne)

/-- Taking devices out of a sufficient entry leaves the fleet well-formed. -/
private theorem fleetOk_afterAdmission {inputs : SchedulingInputs} {w : QueuedWorkload}
    {cap : ProfileFreeCapacity} {now : Int} (hok : FleetOk inputs.fleetFreeCapacity)
    (hg : 0 < w.gpuCount) (hentry : inputs.fleetFreeCapacity.entry w.profile = some cap)
    (hd : w.gpuCount ≤ cap.freeDevices)
    (hm : w.gpuCount * cap.memoryMiBPerDevice ≤ cap.freeMemoryMiB) :
    FleetOk (inputs.afterAdmission w cap now).fleetFreeCapacity := by
  have hcap : ProfileOk w.profile cap :=
    hok.profiles ⟨w.profile, cap⟩ (AList.mem_lookup_iff.mp hentry)
  have hsumD := sum_entries_insert hentry (cap.take w.gpuCount)
    (fun e => e.2.freeDevices)
  have hsumM := sum_entries_insert hentry (cap.take w.gpuCount)
    (fun e => e.2.freeMemoryMiB)
  simp only [ProfileFreeCapacity.take, takeWith, id_eq] at hsumD hsumM
  rw [hok.sumDevices] at hsumD
  rw [hok.sumMemory] at hsumM
  have hentries : ∀ e ∈ ((inputs.fleetFreeCapacity.byProfile.getD ∅).insert w.profile
      (cap.take w.gpuCount)).entries, ProfileOk e.1 e.2 := by
    intro e he
    rcases mem_entries_insert he with rfl | he
    · refine ⟨hcap.key, by simp only [ProfileFreeCapacity.take, takeWith, id_eq]; omega,
        by simp only [ProfileFreeCapacity.take, takeWith, id_eq]; omega, ?_⟩
      intro _
      exact hcap.memoryMiBPerDevice (by omega)
    · exact hok.profiles e he
  -- the totals are sums of non-negative entries
  have hD : 0 ≤ inputs.fleetFreeCapacity.totalFreeDevices - w.gpuCount := by
    have hnn : 0 ≤ (((inputs.fleetFreeCapacity.byProfile.getD ∅).insert w.profile
        (cap.take w.gpuCount)).entries.map (fun e => e.2.freeDevices)).sum := by
      refine List.sum_nonneg ?_
      intro x hx
      obtain ⟨e, he, rfl⟩ := List.mem_map.mp hx
      exact (hentries e he).freeDevices
    simp only [ProfileFreeCapacity.take, takeWith, id_eq] at hnn
    omega
  have hM : 0 ≤ inputs.fleetFreeCapacity.totalFreeMemoryMiB
      - w.gpuCount * cap.memoryMiBPerDevice := by
    have hnn : 0 ≤ (((inputs.fleetFreeCapacity.byProfile.getD ∅).insert w.profile
        (cap.take w.gpuCount)).entries.map (fun e => e.2.freeMemoryMiB)).sum := by
      refine List.sum_nonneg ?_
      intro x hx
      obtain ⟨e, he, rfl⟩ := List.mem_map.mp hx
      exact (hentries e he).freeMemoryMiB
    simp only [ProfileFreeCapacity.take, takeWith, id_eq] at hnn
    omega
  refine ⟨hD, hM, hentries, ?_, ?_⟩
  · show (((inputs.fleetFreeCapacity.byProfile.getD ∅).insert w.profile
      (cap.take w.gpuCount)).entries.map (fun e => e.2.freeDevices)).sum
      = inputs.fleetFreeCapacity.totalFreeDevices - w.gpuCount
    simp only [ProfileFreeCapacity.take, takeWith, id_eq]
    omega
  · show (((inputs.fleetFreeCapacity.byProfile.getD ∅).insert w.profile
      (cap.take w.gpuCount)).entries.map (fun e => e.2.freeMemoryMiB)).sum
      = inputs.fleetFreeCapacity.totalFreeMemoryMiB - w.gpuCount * cap.memoryMiBPerDevice
    simp only [ProfileFreeCapacity.take, takeWith, id_eq]
    omega

/-- **ADMISSION KEEPS THE CONTRACT**: the working copy stays valid; `now` is a real
    clock reading, never the zero time. -/
theorem valid_applyVirtualAdmission {inputs out : SchedulingInputs} {w : QueuedWorkload}
    {now : Int} (hv : Valid inputs) (hw : w ∈ inputs.queuedWorkloads) (hnow : now ≠ 0)
    (h : applyVirtualAdmission inputs w now = .ok out) : Valid out := by
  obtain ⟨cap, hentry, hd, hm, rfl⟩ := applyVirtualAdmission_ok_iff.mp h
  have hok := hv.queued w hw
  refine ⟨?_, hv.scheduled, ?_, ids_afterAdmission hv.ids hw,
    fleetOk_afterAdmission hv.fleet hok.gpuCount hentry hd hm, hv.quotas⟩
  · intro q hq
    exact hv.queued q (List.mem_of_mem_filter hq)
  · intro r hr
    rcases List.mem_append.mp hr with hr | hr
    · exact hv.running r hr
    · rw [List.mem_singleton.mp hr]
      have htime : (w.asRunning now).runningFields.missingTime = none := by
        simp [WorkloadFields.missingTime, RunningWorkload.runningFields,
          QueuedWorkload.asRunning, hnow]
      exact ⟨hok.workloadID, hok.tenant, htime, hok.gpuCount, hok.gpuMemoryMiB, hok.profile,
        hok.tokens, hok.kind⟩

end GpuInputs
