import GpuScheduler.StoredStartProofs
import GpuScheduler.PlacementLawsProofs

/-! # An admission that reads error texts

    `executeAdmission` allocates, starts and writes `Running`.  Two errors are no errors to
    it, that the workload has an allocation and that it has a running run, and it knows them by
    their texts.  `Admission` says once what it can come to; from it follow when a `nil` means
    that the workload runs (`means_running_iff`), and when a rejected start leaves devices
    behind (`keeps_allocations_iff`). -/

namespace GpuExecuteAdmission

open GoStrings GoMaps GoFmt GpuInputs GpuCompat GpuWorkload GpuPlacement GpuSimulator
  GpuRunHistory GpuCRD GpuPlacementLaws GpuProfileText GpuErrorText GpuStoredStart

variable (v : Verbs)

/-- What an attempt meets: the orders of the simulator's maps, the clock, and whether the two
    status updates succeed. -/
structure Attempt where
  pools : List String
  runs : List String
  now : Int
  scheduled : Bool
  running : Bool

/-- The part of it that the simulator's calls read, for a stored workload. -/
def Attempt.context (x : Attempt) (a : Stored) : GpuInProcess.Context :=
  ⟨x.pools, x.runs, x.now, sections a.spec⟩

/-- The map orders list the keys of the maps. -/
def Attempt.Meets (x : Attempt) (s : Simulator) : Prop :=
  x.pools.Perm s.pools.keys ∧ x.runs.Perm s.runs.keys

/-- Where `executeAdmission` fails. -/
inductive AdmissionError where
  | update
  | allocate (e : SimError)
  | start (e : SimError)
  deriving DecidableEq, Repr

/-- The allocation of `executeAdmission`. -/
def allocateAdmitted (x : Attempt) (a : Stored) (s : Simulator) : Except SimError Simulator :=
  match allocateWithOptions s x.pools a.workload.id a.workload.spec.gpuCount
      a.workload.spec.gpuMemoryMiB (admissionOptions a.workload) with
  | .ok (_, t) => .ok t
  | .error e => if isAlreadyAllocatedErr v e then .ok s else .error e

/-- The start of `executeAdmission`. -/
def startAdmitted (duration : Int → RuntimeInput → Nat → Int) (x : Attempt) (a : Stored)
    (s : Simulator) : Except SimError Simulator :=
  GpuInProcess.startAdmitted v (estimateDuration duration) (x.context a) a.workload s

/-- The rest of `executeAdmission` once the workload has its devices. -/
def runAdmitted (duration : Int → RuntimeInput → Nat → Int) (x : Attempt) (a : Stored)
    (s : Simulator) : Except AdmissionError Unit × Simulator :=
  match startAdmitted v duration x a s with
  | .error e => (.error (.start e), s)
  | .ok s => if x.running then (.ok (), s) else (.error .update, s)

/-- `executeAdmission`: its result, and the simulator afterwards. -/
def executeAdmission (duration : Int → RuntimeInput → Nat → Int) (x : Attempt) (a : Stored)
    (s : Simulator) : Except AdmissionError Unit × Simulator :=
  if a.workload.phase ≠ .scheduled ∧ x.scheduled = false then (.error .update, s)
  else match allocateAdmitted v x a s with
  | .error e => (.error (.allocate e), s)
  | .ok s => runAdmitted v duration x a s

/-! ## The allocation -/

section
variable {v} {x : Attempt} {a : Stored} {s t : Simulator}

/-- The workload has devices, or could have: it asks for some memory, and holds an
    allocation or finds enough free devices. -/
def Obtains (s : Simulator) (w : GPUWorkload) : Prop :=
  0 < w.spec.gpuMemoryMiB ∧ ((s.allocations.lookup w.id).isSome
    ∨ w.spec.gpuCount ≤ (eligibleOf s w.spec.gpuMemoryMiB (admissionOptions w)
        (allNodes s s.pools.keys)).length)

theorem gpuCount_pos (a : Stored) : 0 < a.workload.spec.gpuCount := by
  rw [a.same]
  exact a.valid.gpuCount

/-- The order in which the pools are visited does not count. -/
theorem length_eligible_perm {order : List String} (h : order.Perm s.pools.keys)
    (w : GPUWorkload) :
    (eligibleOf s w.spec.gpuMemoryMiB (admissionOptions w) (allNodes s order)).length
      = (eligibleOf s w.spec.gpuMemoryMiB (admissionOptions w)
        (allNodes s s.pools.keys)).length := by
  refine List.Perm.length_eq (List.Perm.filter _ ?_)
  exact (h.flatMap_right _).flatMap_right _

/-- First-fit never fails by itself. -/
theorem firstFit_picks (x : Attempt) (a : Stored) (s : Simulator) :
    ∃ out, pickDevices (computeEligibleDevicesPerNode (allNodes s x.pools) (allocatedIDs s)
        a.workload.spec.gpuMemoryMiB (admissionOptions a.workload).preferredDeviceType
        (admissionOptions a.workload).preferredProfile) a.workload.spec.gpuCount.toNat
      (admissionOptions a.workload).policy (admissionOptions a.workload).requireSameNode
      (admissionOptions a.workload).maxNodes.toNat = .ok out := by
  have hcount := gpuCount_pos a
  have hneed : 0 < a.workload.spec.gpuCount.toNat := by omega
  have hknown : PlacementPolicy.firstFit ≠ .unset
      ∧ ∀ raw h, PlacementPolicy.firstFit ≠ .other raw h :=
    ⟨fun h => (by cases h), fun raw _ h => (by cases h)⟩
  obtain ⟨out, hout, -⟩ := pickDevices_free _ (Int.toNat 0) hneed hknown
  exact ⟨out, hout⟩

/-- An allocation that fails, fails because there is one, or with another text. -/
theorem allocate_error {e : SimError}
    (h : allocateWithOptions s x.pools a.workload.id a.workload.spec.gpuCount
      a.workload.spec.gpuMemoryMiB (admissionOptions a.workload) = .error e) :
    (0 < a.workload.spec.gpuMemoryMiB ∧ (s.allocations.lookup a.workload.id).isSome
        ∧ e = .alreadyAllocated a.workload.id)
      ∨ isAlreadyAllocatedErr v e = false := by
  rw [allocateWithOptions, if_neg (id_ne_empty _), if_neg (not_le.mpr (gpuCount_pos a))] at h
  by_cases hmem : a.workload.spec.gpuMemoryMiB ≤ 0
  · rw [if_pos hmem] at h
    rw [← Except.error.inj h]
    exact Or.inr (isAlreadyAllocatedErr_memory v _)
  by_cases hsome : (s.allocations.lookup a.workload.id).isSome = true
  · rw [if_neg hmem, if_pos hsome] at h
    exact Or.inl ⟨not_le.mp hmem, hsome, (Except.error.inj h).symm⟩
  by_cases hpools : s.pools.entries = []
  · rw [if_neg hmem, if_neg hsome, if_pos hpools] at h
    rw [← Except.error.inj h]
    exact Or.inr (isAlreadyAllocatedErr_fleet v)
  · obtain ⟨out, hout⟩ := firstFit_picks x a s
    have hmax : ¬ (admissionOptions a.workload).maxNodes < 0 := lt_irrefl (0 : Int)
    rw [if_neg hmem, if_neg hsome, if_neg hpools, if_neg hmax] at h
    simp only [hout] at h
    split_ifs at h
    rw [← Except.error.inj h]
    exact Or.inr (isAlreadyAllocatedErr_insufficient v (plain_id a) _ _ _)

/-- For the names of objects the text of the error says what the error is. -/
theorem allocateAdmitted_eq (x : Attempt) (a : Stored) (s : Simulator) :
    allocateAdmitted v x a s = GpuInProcess.allocateAdmitted (x.context a) a.workload s := by
  have hcall : allocateWithOptions s (x.context a).pools a.workload.id a.workload.spec.gpuCount
      a.workload.spec.gpuMemoryMiB ⟨.firstFit, false, 0, "", normalizeProfileName
        a.workload.spec.profile⟩
      = allocateWithOptions s x.pools a.workload.id a.workload.spec.gpuCount
        a.workload.spec.gpuMemoryMiB (admissionOptions a.workload) := rfl
  rw [allocateAdmitted, GpuInProcess.allocateAdmitted, hcall]
  cases h : allocateWithOptions s x.pools a.workload.id a.workload.spec.gpuCount
      a.workload.spec.gpuMemoryMiB (admissionOptions a.workload) with
  | ok r => rfl
  | error e =>
      rcases allocate_error (v := v) h with ⟨-, -, rfl⟩ | htext
      · simp only [isAlreadyAllocatedErr_allocated, if_true]
      · simp only [htext, Bool.false_eq_true, if_false]
        split
        · rename_i heq
          cases heq
        · rename_i id heq
          rw [Except.error.inj heq, isAlreadyAllocatedErr_allocated] at htext
          cases htext
        · rename_i heq
          rw [Except.error.inj heq]

/-- What the allocation of an admitted workload leaves. -/
inductive Taken (s : Simulator) (id : String) : Simulator → Prop where
  | had : (s.allocations.lookup id).isSome → Taken s id s
  | got (allocation : Allocation) : s.allocations.lookup id = none → allocation.deviceIDs ≠ [] →
      Taken s id { s with allocations := s.allocations.insert id allocation }

/-- **THE ALLOCATION** of an admitted workload, if it comes to one. -/
theorem taken_of_ok (h : allocateAdmitted v x a s = .ok t) : Taken s a.workload.id t := by
  rw [allocateAdmitted] at h
  cases hcall : allocateWithOptions s x.pools a.workload.id a.workload.spec.gpuCount
      a.workload.spec.gpuMemoryMiB (admissionOptions a.workload) with
  | ok r =>
      obtain ⟨allocation, u⟩ := r
      simp only [hcall] at h
      obtain ⟨hnone, hpos, -, hlen, -, rfl⟩ := allocateWithOptions_ok hcall
      rw [← Except.ok.inj h]
      refine .got allocation hnone (fun hnil => ?_)
      rw [hnil] at hlen
      simp only [List.length_nil] at hlen
      omega
  | error e =>
      simp only [hcall] at h
      split_ifs at h with htext
      rw [← Except.ok.inj h]
      rcases allocate_error (v := v) hcall with ⟨-, hsome, -⟩ | hfalse
      · exact .had hsome
      · rw [hfalse] at htext
        cases htext

/-- It comes to one exactly when the workload has devices or could have. -/
theorem allocateAdmitted_ok_iff (hx : x.Meets s) :
    (∃ t, allocateAdmitted v x a s = .ok t) ↔ Obtains s a.workload := by
  have hcount := gpuCount_pos a
  rw [allocateAdmitted]
  cases hcall : allocateWithOptions s x.pools a.workload.id a.workload.spec.gpuCount
      a.workload.spec.gpuMemoryMiB (admissionOptions a.workload) with
  | ok r =>
      have hasks : Asks s a.workload := asks_of_allocates ⟨r.1, r.2, hcall⟩
      refine ⟨fun _ => ⟨hasks.gpuMemoryMiB, Or.inr ?_⟩, fun _ => ⟨r.2, rfl⟩⟩
      rw [← length_eligible_perm hx.1]
      exact (allocates_iff_fleet hx.1 hasks.request rfl rfl).mp ⟨r.1, r.2, hcall⟩
  | error e =>
      rcases allocate_error (v := v) hcall with ⟨hmem, hsome, rfl⟩ | hfalse
      · simp only [isAlreadyAllocatedErr_allocated, if_true]
        exact ⟨fun _ => ⟨hmem, Or.inl hsome⟩, fun _ => ⟨s, rfl⟩⟩
      · simp only [hfalse, Bool.false_eq_true, if_false]
        refine ⟨fun h => ?_, fun h => ?_⟩
        · obtain ⟨t, ht⟩ := h
          cases ht
        · exfalso
          obtain ⟨hmem, hhas⟩ := h
          by_cases hsome : (s.allocations.lookup a.workload.id).isSome = true
          · rw [allocateWithOptions, if_neg (id_ne_empty _), if_neg (not_le.mpr hcount),
              if_neg (not_le.mpr hmem), if_pos hsome] at hcall
            rw [← Except.error.inj hcall, isAlreadyAllocatedErr_allocated] at hfalse
            cases hfalse
          · have hasks : Asks s a.workload :=
              ⟨Option.not_isSome_iff_eq_none.mp hsome, hcount, hmem⟩
            have henough := hhas.resolve_left hsome
            rw [← length_eligible_perm hx.1] at henough
            obtain ⟨r, t, hok⟩ := (allocates_iff_fleet hx.1 hasks.request rfl rfl).mpr henough
            rw [hcall] at hok
            cases hok

end

/-! ## The admission -/

/-- The simulator holds an allocation and a running run of the workload. -/
def HoldsRun (s : Simulator) (id : String) : Prop :=
  (s.allocations.lookup id).isSome
    ∧ ∃ runID r, s.runs.lookup runID = some r ∧ r.workloadID = id ∧ r.status = .running

/-- What an admission can come to. -/
inductive Admission (x : Attempt) (a : Stored) (s : Simulator) :
    Except AdmissionError Unit × Simulator → Prop where
  /-- A status is not written. -/
  | unwritten (t : Simulator) (fails : x.scheduled = false ∨ x.running = false) :
      Admission x a s (.error .update, t)
  /-- There are no devices. -/
  | unplaced (e : SimError) (lacks : ¬ Obtains s a.workload) :
      Admission x a s (.error (.allocate e), s)
  /-- The start rejects the workload, which has its devices. -/
  | rejected (e : SimError) (t : Simulator) (obtains : Obtains s a.workload)
      (fresh : s.allocations.lookup a.workload.id = none → t.allocations ≠ s.allocations)
      (cause : Rejects v s a ∨ (unknownTeacher a.spec = none
        ∧ s.allocations.lookup a.workload.id ≠ none)) :
      Admission x a s (.error (.start e), t)
  /-- The workload runs. -/
  | runs (t : Simulator) (holds : HoldsRun t a.workload.id)
      (cause : unknownTeacher a.spec = none ∨ ¬ Idle s a.workload.id)
      (accepts : ¬ Rejects v s a) : Admission x a s (.ok (), t)
  /-- An error of the start looks like a running run. -/
  | deceived (t : Simulator) (obtains : Obtains s a.workload) (same : t.runs = s.runs)
      (held : (t.allocations.lookup a.workload.id).isSome) (jitter : badJitter a.spec = false)
      (quoted : (∃ teacher, unknownTeacher a.spec = some teacher ∧ looksRunning v teacher = true)
        ∨ profileOf a.spec ∉ hardwareProfiles)
      (accepts : ¬ Rejects v s a) : Admission x a s (.ok (), t)

section
variable {v} {duration : Int → RuntimeInput → Nat → Int} {x : Attempt} {a : Stored}
variable {s t : Simulator}

/-- An allocation leaves the other maps alone and the workload with devices. -/
theorem Taken.spec (h : Taken s a.workload.id t) :
    t.runs = s.runs
      ∧ ∃ allocation, t.allocations.lookup a.workload.id = some allocation
        ∧ (s.allocations.lookup a.workload.id = none → allocation.deviceIDs ≠ []
          ∧ t.allocations ≠ s.allocations) := by
  cases h with
  | had hsome =>
      obtain ⟨allocation, hl⟩ := Option.isSome_iff_exists.mp hsome
      refine ⟨rfl, allocation, hl, fun hnone => ?_⟩
      rw [hl] at hnone
      cases hnone
  | got allocation hnone hne =>
      have hl : (s.allocations.insert a.workload.id allocation).lookup a.workload.id
          = some allocation := AList.lookup_insert _
      refine ⟨rfl, allocation, hl, fun _ => ⟨hne, fun heq => ?_⟩⟩
      have heq' : s.allocations.insert a.workload.id allocation = s.allocations := heq
      rw [heq', hnone] at hl
      cases hl

/-- Of the simulator, rejection depends on the runs only. -/
theorem rejects_congr (h : t.runs = s.runs) : Rejects v t a ↔ Rejects v s a := by
  rw [Rejects, Rejects, Idle, Idle, h]

/-- The write of the phase comes last. -/
theorem Admission.written (h : Admission v x a s (.ok (), t)) :
    Admission v x a s (if x.running then (.ok (), t) else (.error .update, t)) := by
  cases hrunning : x.running with
  | false => exact .unwritten t (Or.inr hrunning)
  | true => exact h

/-- **THE REST OF AN ADMISSION**, from the start on. -/
theorem admission_of_taken (hx : x.Meets s) (hobtains : Obtains s a.workload)
    (h : Taken s a.workload.id t) : Admission v x a s (runAdmitted v duration x a t) := by
  obtain ⟨hruns, allocation, hl, hfresh⟩ := Taken.spec h
  have horder : x.runs.Perm t.runs.keys := by
    rw [hruns]
    exact hx.2
  have hheld : (t.allocations.lookup a.workload.id).isSome = true := by
    rw [hl]
    rfl
  have hidle : Idle t a.workload.id ↔ Idle s a.workload.id := by rw [Idle, Idle, hruns]
  have hstart : Start v t a allocation (startWithRuntimeInput (estimateDuration duration) t
      (x.context a).runs (x.context a).now
      (GpuInProcess.buildRuntimeInput (x.context a).sections a.workload)) :=
    start_of_allocated duration horder x.now hl
  rw [runAdmitted, startAdmitted, GpuInProcess.startAdmitted]
  generalize startWithRuntimeInput (estimateDuration duration) t (x.context a).runs
    (x.context a).now (GpuInProcess.buildRuntimeInput (x.context a).sections a.workload) = r
    at hstart ⊢
  cases hstart with
  | started id u r halloc hr hw hstatus hteacher haccepts =>
      rw [rejects_congr hruns] at haccepts
      refine Admission.written (.runs u ⟨?_, id, r, hr, hw, hstatus⟩ (Or.inl hteacher) haccepts)
      rw [halloc]
      exact hheld
  | runs e htext hbusy haccepts =>
      rw [rejects_congr hruns] at haccepts
      simp only [htext, if_true]
      have hrun : ∃ runID r, t.runs.lookup runID = some r ∧ r.workloadID = a.workload.id
          ∧ r.status = .running := by
        by_contra hnone
        push Not at hnone
        exact hbusy hnone
      rw [hidle] at hbusy
      exact Admission.written (.runs t ⟨hheld, hrun⟩ (Or.inr hbusy) haccepts)
  | deceives e htext hjitter hquoted haccepts =>
      rw [rejects_congr hruns] at haccepts
      simp only [htext, if_true]
      exact Admission.written (.deceived t hobtains hruns hheld hjitter hquoted haccepts)
  | rejects e htext hcause =>
      rw [rejects_congr hruns] at hcause
      simp only [htext, Bool.false_eq_true, if_false]
      refine .rejected e t hobtains (fun hnone => (hfresh hnone).2) (hcause.imp id ?_)
      rintro ⟨hteacher, hempty⟩
      exact ⟨hteacher, fun hnone => (hfresh hnone).1 hempty⟩

/-- **THE ADMISSION**: what it can come to. -/
theorem admission_cases (duration : Int → RuntimeInput → Nat → Int) (hx : x.Meets s) :
    Admission v x a s (executeAdmission v duration x a s) := by
  rw [executeAdmission]
  split_ifs with hupdate
  · exact .unwritten s (Or.inl hupdate.2)
  · cases hcall : allocateAdmitted v x a s with
    | error e =>
        refine .unplaced e (fun hobtains => ?_)
        obtain ⟨t, ht⟩ := (allocateAdmitted_ok_iff (v := v) hx).mpr hobtains
        rw [hcall] at ht
        cases ht
    | ok t =>
        exact admission_of_taken hx ((allocateAdmitted_ok_iff hx).mp ⟨t, hcall⟩)
          (taken_of_ok hcall)

/-- An attempt whose writes succeed. -/
def smooth (s : Simulator) : Attempt := ⟨s.pools.keys, s.runs.keys, 0, true, true⟩

theorem smooth_meets (s : Simulator) : (smooth s).Meets s := ⟨List.Perm.refl _, List.Perm.refl _⟩

end

/-! ## Running means running -/

/-- A `nil` of `executeAdmission` means that the workload runs. -/
def MeansRunning (duration : Int → RuntimeInput → Nat → Int) (a : Stored) (s : Simulator) : Prop :=
  ∀ x : Attempt, x.Meets s → (executeAdmission v duration x a s).1 = .ok () →
    HoldsRun (executeAdmission v duration x a s).2 a.workload.id

/-- **DECEIVED**: the workload gets its devices, its jitter passes, no run of it is there, and
    it names an unknown teacher profile whose quoted text contains that of a running run. -/
structure Deceived (a : Stored) (s : Simulator) : Prop where
  obtains : Obtains s a.workload
  jitter : badJitter a.spec = false
  idle : Idle s a.workload.id
  teacher : ∃ teacher, unknownTeacher a.spec = some teacher ∧ looksRunning v teacher = true

/-- A known profile is not blank. -/
theorem profile_ne_blank {a : Stored} (h : profileOf a.spec ∈ hardwareProfiles) :
    profileOf a.spec ≠ "" := by
  intro hblank
  rw [hblank] at h
  exact absurd h (by decide)

/-- **WHEN RUNNING MEANS RUNNING**: for a stored workload of a known profile, exactly when the
    admission is not deceived by the text of the teacher's profile. -/
theorem means_running_iff (duration : Int → RuntimeInput → Nat → Int) (a : Stored) (s : Simulator)
    (hknown : profileOf a.spec ∈ hardwareProfiles) :
    MeansRunning v duration a s ↔ ¬ Deceived v a s := by
  constructor
  · rintro hmeans ⟨hobtains, hjitter, hidle, teacher, hteacher, hlooks⟩
    have hsome : unknownTeacher a.spec ≠ none := by
      rw [hteacher]
      exact Option.some_ne_none _
    have hnil := hmeans (smooth s) (smooth_meets s)
    have hcases := admission_cases (v := v) (a := a) duration (smooth_meets s)
    generalize executeAdmission v duration (smooth s) a s = r at hnil hcases
    cases hcases with
    | unwritten t hfails => exact hfails.elim (fun h => by cases h) (fun h => by cases h)
    | unplaced e hlacks => exact hlacks hobtains
    | rejected e t _ _ hcause =>
        rcases hcause with hrejects | ⟨hnone, -⟩
        · exact not_rejects_of_teacher (profile_ne_blank hknown) hjitter hteacher hlooks hrejects
        · exact hsome hnone
    | runs t _ hcause _ =>
        rcases hcause with hnone | hbusy
        · exact hsome hnone
        · exact hbusy hidle
    | deceived t _ hsame _ _ _ _ =>
        obtain ⟨-, runID, r, hr, hw, hstatus⟩ := hnil rfl
        rw [hsame] at hr
        exact hidle runID r hr hw hstatus
  · intro hnot x hx hnil
    have hcases := admission_cases (v := v) (a := a) duration hx
    generalize executeAdmission v duration x a s = r at hnil hcases ⊢
    cases hcases with
    | unwritten t _ => cases hnil
    | unplaced e _ => cases hnil
    | rejected e t _ _ _ => cases hnil
    | runs t hholds _ _ => exact hholds
    | deceived t hobtains hsame hheld hjitter hquoted _ =>
        -- a run that is there already makes up for the deception
        refine ⟨hheld, ?_⟩
        by_contra hnone
        push Not at hnone
        refine hnot ⟨hobtains, hjitter, ?_, hquoted.resolve_right (not_not.mpr hknown)⟩
        rw [Idle, ← hsame]
        exact hnone

/-- A distillation of one device, with a teacher and perhaps jitter. -/
def distillSpec (teacher : String) (jitter : Option JitterConfigSpec) : Spec :=
  { tenant := "team", priority := 1, gpuCount := 1, gpuMemoryMiB := 40, profile := "h100_sxm"
    tokens := 1000, kind := .distillation, maxRuntimeSeconds := none, training := none
    inference := none, eval := none, fineTune := none, rlhf := none, embedding := none
    dataPreprocess := none, distillation := some ⟨teacher, 1, 0⟩, jitter := jitter }

theorem valid_distillSpec (teacher : String) {jitter : Option JitterConfigSpec}
    (h : ∀ j ∈ jitter, 0 ≤ j.pct ∧ j.pct ≤ 1) : (distillSpec teacher jitter).Valid := by
  refine ⟨?_, le_refl _, ?_, ?_, ?_, fun s hs => ?_, rfl, rfl, fun b hb => ?_⟩
  · show "team" ≠ ""
    decide
  · show (0 : Int) ≤ 40
    decide
  · show (1 : Int) ≤ 1000
    decide
  · show "h100_sxm" ≠ ""
    decide
  · cases hs
  · have hb' : b ∈ [boundedDistillation ⟨teacher, 1, 0⟩] ++ (jitter.map boundedJitter).toList := hb
    rcases List.mem_append.mp hb' with hb | hb
    · rw [List.mem_singleton.mp hb]
      show (⟨[1], [0]⟩ : Bounded).Ok
      decide
    · obtain ⟨j, hj, rfl⟩ := Option.map_eq_some_iff.mp (Option.mem_toList.mp hb)
      refine ⟨fun n hn => (by cases hn), fun q hq => ?_⟩
      rw [List.mem_singleton.mp hq]
      exact h j hj

/-- The names of the examples are names of objects. -/
theorem nameable_of_mem : ∀ name ∈ ["w", "v"], Nameable "ns" name := by decide +kernel

/-- The stored distillation, under a name. -/
def distillation (name : String) (hname : name ∈ ["w", "v"]) (teacher : String)
    (jitter : Option JitterConfigSpec) (h : ∀ j ∈ jitter, 0 ≤ j.pct ∧ j.pct ≤ 1) : Stored where
  workload := ⟨"ns", name, ∅, none, (distillSpec teacher jitter).toGPUWorkloadSpec, .scheduled,
    some 1⟩
  spec := distillSpec teacher jitter
  same := rfl
  valid := valid_distillSpec teacher h
  names := nameable_of_mem name hname

theorem pct_of_none : ∀ j ∈ (none : Option JitterConfigSpec), 0 ≤ j.pct ∧ j.pct ≤ 1 := by
  intro j hj
  cases hj

/-- A distillation without jitter. -/
def taught (teacher : String) : Stored := distillation "w" (.head _) teacher none pct_of_none

/-- A simulator with one device. -/
def oneFree : Simulator := reconcilePools newSimulator [onePool "a" "h100_sxm"]

/-- The teacher's profile reads like the error that a run exists: the workload is taken to
    run, and does not. -/
theorem teacher_deceives :
    ¬ ∀ (v : Verbs) (duration : Int → RuntimeInput → Nat → Int) (a : Stored) (s : Simulator),
      profileOf a.spec ∈ hardwareProfiles → MeansRunning v duration a s := by
  intro h
  have hend : (fun r : Except AdmissionError Unit × Simulator => (r.1, r.2.runs.keys))
      (executeAdmission allPrint (fun _ _ _ => 1) (smooth oneFree)
        (taught "already has a running run") oneFree) = (.ok (), []) := by decide +kernel
  obtain ⟨hnil, hkeys⟩ := Prod.mk.inj hend
  have hmeans := h allPrint (fun _ _ _ => 1) (taught "already has a running run") oneFree
    (by decide +kernel) (smooth oneFree) (smooth_meets oneFree) hnil
  obtain ⟨-, runID, r, hr, -⟩ := hmeans
  have hmem := mem_keys_iff.mpr ⟨r, hr⟩
  rw [hkeys] at hmem
  cases hmem

/-- A teacher that is known deceives nobody. -/
theorem teacher_known : MeansRunning allPrint (fun _ _ _ => 1) (taught "A100_80GB ") oneFree := by
  refine (means_running_iff allPrint _ _ _ (by decide +kernel)).mpr (fun hdeceived => ?_)
  obtain ⟨teacher, hteacher, -⟩ := hdeceived.teacher
  have hnone : unknownTeacher (taught "A100_80GB ").spec = none := by decide +kernel
  rw [hnone] at hteacher
  cases hteacher

/-! ## Devices of a rejected start -/

/-- An error of the start leaves the allocations as they were. -/
def KeepsAllocations (duration : Int → RuntimeInput → Nat → Int) (a : Stored)
    (s : Simulator) : Prop :=
  ∀ (x : Attempt) (e : SimError), x.Meets s →
    (executeAdmission v duration x a s).1 = .error (.start e) →
    (executeAdmission v duration x a s).2.allocations = s.allocations

/-- **WHEN A REJECTED START KEEPS NO DEVICES**: for a stored workload without an allocation,
    exactly when it finds no devices or is not rejected. -/
theorem keeps_allocations_iff (duration : Int → RuntimeInput → Nat → Int) (a : Stored)
    (s : Simulator) (hfresh : s.allocations.lookup a.workload.id = none) :
    KeepsAllocations v duration a s ↔ ¬ (Obtains s a.workload ∧ Rejects v s a) := by
  constructor
  · rintro hkeeps ⟨hobtains, hrejects⟩
    have herror := fun e => hkeeps (smooth s) e (smooth_meets s)
    have hcases := admission_cases (v := v) (a := a) duration (smooth_meets s)
    generalize executeAdmission v duration (smooth s) a s = r at herror hcases
    cases hcases with
    | unwritten t hfails => exact hfails.elim (fun h => by cases h) (fun h => by cases h)
    | unplaced e hlacks => exact hlacks hobtains
    | rejected e t _ hchanged _ => exact hchanged hfresh (herror e rfl)
    | runs t _ _ haccepts => exact haccepts hrejects
    | deceived t _ _ _ _ _ haccepts => exact haccepts hrejects
  · intro hnot x e hx herror
    have hcases := admission_cases (v := v) (a := a) duration hx
    generalize executeAdmission v duration x a s = r at herror hcases ⊢
    cases hcases with
    | unwritten t _ => cases herror
    | unplaced e _ => rfl
    | rejected e t hobtains _ hcause =>
        exact absurd ⟨hobtains, hcause.resolve_right (fun h => h.2 hfresh)⟩ hnot
    | runs t _ _ _ => cases herror
    | deceived t _ _ _ _ _ _ => cases herror

/-- Jitter that is stored, and refused by the start. -/
def jittered : Stored :=
  distillation "w" (.head _) "" (some ⟨true, 0, none⟩) (fun j hj => by
    rw [← Option.some.inj hj]
    exact ⟨le_refl _, zero_le_one⟩)

/-- The start is rejected, and the device stays allocated. -/
theorem jittered_keeps_device :
    ¬ ∀ (v : Verbs) (duration : Int → RuntimeInput → Nat → Int) (a : Stored) (s : Simulator),
      s.allocations.lookup a.workload.id = none → KeepsAllocations v duration a s := by
  intro h
  have hend : (fun r : Except AdmissionError Unit × Simulator => (r.1, r.2.allocations.keys))
      (executeAdmission allPrint (fun _ _ _ => 1) (smooth oneFree) jittered oneFree)
      = (.error (.start (.fractionOutOfRange .jitterPct 0)), ["ns/w"]) := by decide +kernel
  obtain ⟨herror, hkeys⟩ := Prod.mk.inj hend
  have hkeeps := h allPrint (fun _ _ _ => 1) jittered oneFree rfl (smooth oneFree)
    (.fractionOutOfRange .jitterPct 0) (smooth_meets oneFree) herror
  rw [hkeeps] at hkeys
  exact absurd hkeys (by decide +kernel)

/-- A workload that no check refuses keeps nothing back. -/
theorem taught_keeps : KeepsAllocations allPrint (fun _ _ _ => 1) (taught "") oneFree := by
  refine (keeps_allocations_iff allPrint _ (taught "") oneFree rfl).mpr (fun hrejects => ?_)
  have hnone : unknownTeacher (taught "").spec = none := by decide +kernel
  have hknown : profileOf (taught "").spec ∈ hardwareProfiles := by decide +kernel
  refine not_rejects (profile_ne_blank hknown) rfl (fun teacher hteacher => ?_)
    (fun _ _ hunknown => absurd hknown hunknown) hrejects.2
  rw [hnone] at hteacher
  cases hteacher

end GpuExecuteAdmission
