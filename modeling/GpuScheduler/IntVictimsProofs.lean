import GpuScheduler.GoIntProofs
import GpuScheduler.VictimsProofs
import GpuScheduler.SelectionProofs

/-! # Victim selection on 64-bit integers

    `GpuPreemption` and `GpuVictims` count GPUs with unbounded integers.  The code counts
    them with `int`: `freed += r.GPUCount` and `incoming.GPUCount - free` wrap around.  This
    file has the two selectors with the sums of the machine (`wrap`), and says when they are
    the exact ones: when the GPU counts of the running workloads of the profile do not wrap when
    summed (`greedy_eq`, `plain_eq`).  A shortfall that wraps is no obstacle: it wraps to a
    negative number, and both selectors then ask for no victims (`context_of_long`).

    So the greedy list is minimal (`greedy_minimal_unwrapped`) and the selectors agree
    (`selectors_agree_unwrapped`) under that proviso, and without it neither holds: a sum
    that wraps makes the greedy pick go on past enough victims (`wrapping_not_minimal`) and
    the plain one run out of them (`wrapping_disagree`). -/

namespace GpuIntVictims

open GoMaps GoSort GoInt GpuInputs GpuCompat GpuSelection
open GpuVictims hiding selectPreemptionVictims
open GpuPreemption hiding selectPreemptionVictimsGreedyMinimal

/-- `SelectPreemptionVictims`. -/
def selectPreemptionVictims : QueuedWorkload → List RunningWorkload → FleetFreeCapacity →
    Except PreemptionError (List RunningWorkload) := selectPreemptionVictimsWith wrap

/-- `SelectPreemptionVictimsGreedyMinimal`. -/
def selectPreemptionVictimsGreedyMinimal : QueuedWorkload → List RunningWorkload →
    FleetFreeCapacity → Except PreemptionError (List RunningWorkload) :=
  selectPreemptionVictimsGreedyMinimalWith wrap

/-! ## Sums that fit -/

/-- The counts a workload's selection subtracts are `int` values. -/
structure IntCounts (w : QueuedWorkload) (fleet : FleetFreeCapacity) : Prop where
  gpuCount : Fits w.gpuCount
  freeDevices : ∀ cap, fleet.entry w.profile = some cap → Fits cap.freeDevices

/-- The loop is the exact one when nothing it adds up wraps. -/
theorem takeVictims_eq {need freed : Int} {l : List RunningWorkload} (hfreed : 0 ≤ freed)
    (hpos : ∀ r ∈ l, 0 ≤ r.gpuCount) (hfits : Fits (freed + gpuSum l)) :
    takeVictimsWith wrap need freed l = takeVictims need freed l := by
  induction l generalizing freed with
  | nil => rfl
  | cons r l ih =>
      have hr := hpos r (List.mem_cons_self ..)
      have hposl : ∀ x ∈ l, 0 ≤ x.gpuCount := fun x hx => hpos x (List.mem_cons_of_mem _ hx)
      have hsum := gpuSum_nonneg hposl
      rw [gpuSum_cons] at hfits
      have hnext : wrap (freed + r.gpuCount) = freed + r.gpuCount :=
        wrap_of_fits (hfits.of_nonneg (by omega) (by omega))
      rw [takeVictims_cons, takeVictimsWith, hnext,
        ih (by omega) hposl (by rw [Int.add_assoc]; exact hfits)]

theorem gpuTotal_eq {ws : List RunningWorkload} (h : Fits (gpuSum ws)) :
    gpuTotalWith wrap ws = gpuTotalWith id ws := by
  have hzero : Fits 0 := by decide
  rw [gpuTotalWith, gpuTotalWith, runningSum_wrap hzero, runningSum_id, Int.zero_add]
  exact wrap_of_fits h

/-- A pool of candidates counts no more than all of them. -/
theorem fits_of_subperm {ws all : List RunningWorkload} (hsub : ws.Subperm all)
    (hpos : ∀ r ∈ all, 0 ≤ r.gpuCount) (hfits : Fits (gpuSum all)) : Fits (gpuSum ws) :=
  hfits.of_nonneg (gpuSum_nonneg (fun r hr => hpos r (hsub.subset hr)))
    (gpuSum_le_of_subperm hsub hpos)

theorem greedyPick_eq {need : Int} {pool : List RunningWorkload}
    (hpos : ∀ r ∈ pool, 0 ≤ r.gpuCount) (hfits : Fits (gpuSum pool)) :
    greedyPickVictimsByGPUCountWith wrap pool need = greedyPickVictimsByGPUCount pool need := by
  have hperm : (victimOrder pool).Perm pool := sliceStable_perm victimLess pool
  have hposOrder : ∀ r ∈ victimOrder pool, 0 ≤ r.gpuCount :=
    fun r hr => hpos r (hperm.mem_iff.mp hr)
  rw [greedyPickVictimsByGPUCount, greedyPickVictimsByGPUCountWith,
    greedyPickVictimsByGPUCountWith, ← takeVictims,
    takeVictims_eq (le_refl 0) hposOrder (by rw [Int.zero_add, gpuSum_perm hperm]; exact hfits)]

/-- The band loop is the exact one: every pool it tries is a part of the candidates. -/
theorem widen_eq {need : Int} :
    ∀ (rest pool : List RunningWorkload), (∀ r ∈ pool ++ rest, 0 ≤ r.gpuCount) →
      Fits (gpuSum (pool ++ rest)) → widenWith wrap need pool rest = widen need pool rest := by
  intro rest
  induction rest with
  | nil => intro pool _ _; rfl
  | cons r rest ih =>
      intro pool hpos hfits
      have hassoc : pool ++ r :: rest = (pool ++ [r]) ++ rest := by
        rw [List.append_assoc]
        rfl
      rw [hassoc] at hpos hfits
      have hpick : greedyPickVictimsByGPUCountWith wrap (pool ++ [r]) need
          = greedyPickVictimsByGPUCount (pool ++ [r]) need :=
        greedyPick_eq (fun x hx => hpos x (List.mem_append_left _ hx))
          (fits_of_subperm (List.sublist_append_left _ _).subperm hpos hfits)
      cases rest with
      | nil => exact hpick
      | cons next rest =>
          rw [widenWith, hpick, ih (pool ++ [r]) hpos hfits, widen, widenWith]
          rfl

/-! ## The context -/

section
variable {w : QueuedWorkload} {running : List RunningWorkload} {fleet : FleetFreeCapacity}

/-- The shortfall as the code computes it, before it wraps. -/
theorem sub_freeDevices (w : QueuedWorkload) (fleet : FleetFreeCapacity) :
    w.gpuCount - freeDevices fleet w.profile = shortfall w fleet := by
  rw [shortfall, freeDevices]
  cases fleet.entry w.profile <;> rfl

/-- A shortfall that fits is the exact one. -/
theorem context_eq (h : Fits (shortfall w fleet)) :
    buildPreemptionContextWith wrap w running fleet = buildPreemptionContext w running fleet := by
  rw [buildPreemptionContext, buildPreemptionContextWith, buildPreemptionContextWith,
    sub_freeDevices, wrap_of_fits h, id_eq]

/-- A count that is not positive is refused before anything is subtracted. -/
theorem fitsGPUCount_error_of_nonpos (h : w.gpuCount ≤ 0) :
    ∃ e, fitsGPUCount w fleet = .error e := by
  rw [fitsGPUCount, if_pos h]
  exact ⟨_, rfl⟩

/-- **A SHORTFALL THAT WRAPS** is negative in the code: if the checks before it pass, there
    is nothing to free. -/
theorem context_of_long (running : List RunningWorkload) (hint : IntCounts w fleet)
    (h : ¬Fits (shortfall w fleet)) :
    (∃ e, buildPreemptionContextWith wrap w running fleet = .error e)
      ∨ buildPreemptionContextWith wrap w running fleet = .ok none := by
  rw [buildPreemptionContextWith]
  cases compatibleProfileAndKind w fleet with
  | error e => exact .inl ⟨_, rfl⟩
  | ok _ =>
    by_cases hcount : w.gpuCount ≤ 0
    · obtain ⟨e, he⟩ : ∃ e, fitsGPUCount w fleet = .error e :=
        fitsGPUCount_error_of_nonpos hcount
      rw [he]
      exact .inl ⟨_, rfl⟩
    have hneg : wrap (shortfall w fleet) ≤ 0 := by
      obtain ⟨-, hw⟩ := hint.gpuCount
      have hfree := hint.freeDevices
      rw [Fits] at h
      rw [shortfall] at h ⊢
      cases hentry : fleet.entry w.profile with
      | none =>
          rw [hentry] at h
          simp only [Option.map_none, Option.getD_none] at h ⊢
          omega
      | some cap =>
          obtain ⟨hlow, hhigh⟩ := hfree cap hentry
          rw [hentry] at h
          simp only [Option.map_some, Option.getD_some] at h ⊢
          rw [wrap_of_ge (by omega) (by omega)]
          omega
    simp only [sub_freeDevices, if_pos hneg]
    cases fitsGPUCount w fleet with
    | error e => exact .inl ⟨_, rfl⟩
    | ok fits =>
      cases fits with
      | true => exact .inr rfl
      | false =>
        cases fitsPerDeviceMemory w fleet with
        | error e => exact .inl ⟨_, rfl⟩
        | ok fitsMemory =>
          cases fitsMemory with
          | true => exact .inr rfl
          | false => exact .inl ⟨_, rfl⟩

/-! ## The selectors -/

variable (hpos : ∀ r ∈ running, 0 < r.gpuCount) (hsum : Fits (held w.profile running))
include hpos hsum

theorem candidates_fit :
    (∀ r ∈ candidatesOn w.profile running, 0 ≤ r.gpuCount)
      ∧ Fits (gpuSum (candidatesOn w.profile running)) := by
  refine ⟨fun r hr => le_of_lt (hpos r (mem_candidatesOn.mp hr).1), ?_⟩
  rw [candidatesOn, gpuSum_perm (sliceStable_perm candidateLess _)]
  exact hsum

/-- **THE GREEDY SELECTOR IS THE EXACT ONE** when its sums fit. -/
theorem greedy_eq (h : Fits (shortfall w fleet)) :
    selectPreemptionVictimsGreedyMinimal w running fleet
      = GpuPreemption.selectPreemptionVictimsGreedyMinimal w running fleet := by
  rw [selectPreemptionVictimsGreedyMinimal, GpuPreemption.selectPreemptionVictimsGreedyMinimal,
    selectPreemptionVictimsGreedyMinimalWith, selectPreemptionVictimsGreedyMinimalWith,
    context_eq h, ← buildPreemptionContext, ← widen]
  cases hctx : buildPreemptionContext w running fleet with
  | error e => rfl
  | ok ctx =>
    cases ctx with
    | none => rfl
    | some ctx =>
      obtain ⟨hcand, hfits⟩ := candidates_fit hpos hsum
      obtain ⟨-, rfl⟩ := buildPreemptionContext_some hctx
      simp only [gpuTotal_eq hfits, widen_eq (candidatesOn w.profile running) [] hcand hfits]

/-- **THE PLAIN SELECTOR IS THE EXACT ONE** when its sums fit. -/
theorem plain_eq (h : Fits (shortfall w fleet)) :
    selectPreemptionVictims w running fleet
      = GpuVictims.selectPreemptionVictims w running fleet := by
  rw [selectPreemptionVictims, GpuVictims.selectPreemptionVictims, selectPreemptionVictimsWith,
    selectPreemptionVictimsWith, context_eq h, ← buildPreemptionContext, ← takeVictims]
  cases hctx : buildPreemptionContext w running fleet with
  | error e => rfl
  | ok ctx =>
    cases ctx with
    | none => rfl
    | some ctx =>
      obtain ⟨hcand, hfits⟩ := candidates_fit hpos hsum
      obtain ⟨-, rfl⟩ := buildPreemptionContext_some hctx
      have hzero : Fits (0 + gpuSum (candidatesOn w.profile running)) := by
        rw [Int.zero_add]
        exact hfits
      simp only [gpuTotal_eq hfits, takeVictims_eq (le_refl 0) hcand hzero]

omit hpos hsum in
/-- A shortfall that wraps: both selectors fail, or neither asks for victims. -/
theorem selectors_of_long (running : List RunningWorkload) (hint : IntCounts w fleet)
    (h : ¬Fits (shortfall w fleet)) :
    Ends (selectPreemptionVictims w running fleet)
        (selectPreemptionVictimsGreedyMinimal w running fleet)
      ∧ ∀ vs, selectPreemptionVictimsGreedyMinimal w running fleet = .ok vs → vs = [] := by
  rw [selectPreemptionVictims, selectPreemptionVictimsWith, selectPreemptionVictimsGreedyMinimal,
    selectPreemptionVictimsGreedyMinimalWith]
  rcases context_of_long running hint h with ⟨e, hctx⟩ | hctx
  · rw [hctx]
    refine ⟨.error e e rfl rfl, fun vs hvs => ?_⟩
    cases hvs
  · rw [hctx]
    exact ⟨.fits rfl rfl, fun vs hvs => (Except.ok.inj hvs).symm⟩

/-- **GREEDY IS MINIMAL** when the GPU counts of the profile do not wrap when summed. -/
theorem greedy_minimal_unwrapped (hint : IntCounts w fleet) {vs : List RunningWorkload}
    (h : selectPreemptionVictimsGreedyMinimal w running fleet = .ok vs) (hne : vs ≠ []) :
    ∃ p, Minimal w running fleet vs p := by
  by_cases hfits : Fits (shortfall w fleet)
  · rw [greedy_eq hpos hsum hfits] at h
    exact greedy_minimal hpos h hne
  · exact absurd ((selectors_of_long running hint hfits).2 vs h) hne

/-- **THE SELECTORS AGREE** when the GPU counts of the profile do not wrap when summed. -/
theorem selectors_agree_unwrapped (hint : IntCounts w fleet) :
    Agree (selectPreemptionVictims w running fleet)
      (selectPreemptionVictimsGreedyMinimal w running fleet) := by
  by_cases hfits : Fits (shortfall w fleet)
  · rw [greedy_eq hpos hsum hfits, plain_eq hpos hsum hfits]
    exact selectors_agree hpos
  · obtain ⟨hends, hnone⟩ := selectors_of_long running hint hfits
    exact hends.agree (fun _ ws _ hws _ hne => absurd (hnone ws hws) hne)

end

/-- The counts of one of the workloads below on its fleet. -/
theorem intCounts_oneFree {gpuCount : Int} (h : Fits gpuCount) :
    IntCounts (asking gpuCount) oneFree := by
  refine ⟨h, fun cap hcap => ?_⟩
  obtain rfl : (⟨1, 80, 80⟩ : ProfileFreeCapacity) = cap :=
    Option.some.inj ((AList.lookup_insert _).symm.trans hcap)
  decide

/-- Small workloads of the lowest priority, and a large one above them. -/
def threeBands : List RunningWorkload :=
  [runningOn "ns/a" 1 10 1, runningOn "ns/b" 1 11 1, runningOn "ns/c" 2 12 4,
    runningOn "ns/d" 3 13 8]

/-- The lowest band holds two GPUs of the three that are missing; with the second band one
    victim is enough. -/
theorem threeBands_minimal :
    selectPreemptionVictimsGreedyMinimal (asking 4) threeBands oneFree
        = .ok [runningOn "ns/c" 2 12 4]
      ∧ ∃ p, Minimal (asking 4) threeBands oneFree [runningOn "ns/c" 2 12 4] p := by
  have hsel : selectPreemptionVictimsGreedyMinimal (asking 4) threeBands oneFree
      = .ok [runningOn "ns/c" 2 12 4] := by decide +kernel
  exact ⟨hsel, greedy_minimal_unwrapped (by decide) (by decide +kernel)
    (intCounts_oneFree (by decide)) hsel (by decide)⟩

/-- The plain selector evicts the whole lowest band first. -/
theorem threeBands_agree :
    selectPreemptionVictims (asking 4) threeBands oneFree
        = .ok [runningOn "ns/b" 1 11 1, runningOn "ns/a" 1 10 1, runningOn "ns/c" 2 12 4]
      ∧ Agree (selectPreemptionVictims (asking 4) threeBands oneFree)
        (selectPreemptionVictimsGreedyMinimal (asking 4) threeBands oneFree) :=
  ⟨by decide +kernel, selectors_agree_unwrapped (by decide) (by decide +kernel)
    (intCounts_oneFree (by decide))⟩

/-! ## Sums that wrap -/

/-- Five workloads of one priority; the first two hold more than `2 ^ 63` GPUs. -/
def fiveHuge : List RunningWorkload :=
  [runningOn "ns/a" 1 15 (2 ^ 62 + 5), runningOn "ns/b" 1 14 (2 ^ 62 + 1),
    runningOn "ns/c" 1 13 (2 ^ 62), runningOn "ns/d" 1 12 (2 ^ 62), runningOn "ns/e" 1 11 (2 ^ 62)]

/-- The two largest workloads free what is missing, but their sum wraps below zero: the
    greedy pick goes on and takes all five. -/
theorem wrapping_not_minimal :
    (∀ r ∈ fiveHuge, 0 < r.gpuCount) ∧ IntCounts (asking (2 ^ 62 + 7)) oneFree
      ∧ selectPreemptionVictimsGreedyMinimal (asking (2 ^ 62 + 7)) fiveHuge oneFree = .ok fiveHuge
      ∧ ¬∃ p, Minimal (asking (2 ^ 62 + 7)) fiveHuge oneFree fiveHuge p := by
  refine ⟨by decide, intCounts_oneFree (by decide), by decide +kernel, ?_⟩
  rintro ⟨p, hmin⟩
  have hsub : (fiveHuge.take 2).Subperm (under (asking (2 ^ 62 + 7)).profile p fiveHuge) :=
    (List.take_sublist 2 fiveHuge).subperm.trans hmin.chosen
  have hlength := hmin.fewest (fiveHuge.take 2) hsub (by decide +kernel)
  exact absurd hlength (by decide)

/-- No free device of the profile. -/
def noneFree : FleetFreeCapacity :=
  ⟨0, 0, some ((∅ : GoMap String ProfileFreeCapacity).insert "h100_sxm" ⟨0, 0, 80⟩)⟩

/-- One workload holds as many GPUs as an `int` can count, and a newer one holds one more. -/
def oneHuge : List RunningWorkload :=
  [runningOn "ns/old" 1 10 (2 ^ 63 - 1), runningOn "ns/new" 1 11 1]

/-- The plain selector takes the newer workload first, and the older one then wraps its sum:
    it fails, where the greedy one returns the older workload. -/
theorem wrapping_disagree :
    (∀ r ∈ oneHuge, 0 < r.gpuCount)
      ∧ selectPreemptionVictims (asking (2 ^ 63 - 1)) oneHuge noneFree
        = .error (.insufficient "h100_sxm" (2 ^ 63 - 1) (-2 ^ 63))
      ∧ selectPreemptionVictimsGreedyMinimal (asking (2 ^ 63 - 1)) oneHuge noneFree
        = .ok [runningOn "ns/old" 1 10 (2 ^ 63 - 1)]
      ∧ ¬Agree (selectPreemptionVictims (asking (2 ^ 63 - 1)) oneHuge noneFree)
        (selectPreemptionVictimsGreedyMinimal (asking (2 ^ 63 - 1)) oneHuge noneFree) := by
  have hplain : selectPreemptionVictims (asking (2 ^ 63 - 1)) oneHuge noneFree
      = .error (.insufficient "h100_sxm" (2 ^ 63 - 1) (-2 ^ 63)) := by decide +kernel
  have hgreedy : selectPreemptionVictimsGreedyMinimal (asking (2 ^ 63 - 1)) oneHuge noneFree
      = .ok [runningOn "ns/old" 1 10 (2 ^ 63 - 1)] := by decide +kernel
  refine ⟨by decide, hplain, hgreedy, fun hagree => ?_⟩
  obtain ⟨e, he⟩ := hagree.error.mp ⟨_, hplain⟩
  rw [hgreedy] at he
  cases he

end GpuIntVictims
