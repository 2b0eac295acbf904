import GpuScheduler.StepRunsProofs
import GpuScheduler.MirrorProofs
import GpuScheduler.BatchDrainProofs

/-! # Lost wake-ups of the scheduler loop

    The loop is idle when the channel is empty and every event is delivered.  A cycle is
    requested when a workload is queued, when a running one leaves, and when a fleet or a
    quota changes; a cycle itself requests nothing, however much it leaves undone, and
    neither does a scheduled workload that leaves or one that starts to run.

    The invariant is that a cycle is requested, or a running workload is about to leave,
    or nothing that waits is admissible (`Awake`).  It holds along every run whose cycles
    preempt or can admit all there is to admit, and whose other writes make nothing
    admissible in silence (`idle_of_runs`); one cycle that leaves an admissible workload
    behind is enough to break it. -/

namespace GpuWakeup

open GoMaps StepRuns GpuInputs GpuCompat GpuFairness GpuSelection GpuCycle GpuBatchDrain
  GpuWorkload GpuSchedulerState GpuCluster GpuMirror

/-- **IDLE MEANS DONE**: no validated snapshot has a workload to select. -/
def Quiet (st : SchedulerState) : Prop :=
  ∀ order ns inputs, st.snapshotForNamespace order ns = some inputs →
    validate inputs = .ok () → (selectOneForAdmission inputs).selectedID = ""

/-! ## Admissibility in a map of objects -/

/-- The copy of a fleet that a snapshot holds. -/
def fleetCopy (f : FleetFreeCapacity) : FleetFreeCapacity :=
  { f with byProfile := some (f.byProfile.getD ∅) }

/-- Fleet and quotas of a namespace pass their checks. -/
def NsOk (st : SchedulerState) (ns : String) : Prop :=
  (∀ f ∈ st.fleet.lookup ns, FleetOk (fleetCopy f))
    ∧ ∀ e ∈ (inner st.quotas ns).entries, QuotaOk e.1 e.2

/-- What admissibility reads of an object: neither its phase nor its queue time. -/
def request (w : GPUWorkload) : QueuedWorkload := gpuWorkloadToQueuedWorkload w w.id 0

/-- The object could be admitted, were the workloads of the namespace those of `m`. -/
def AdmissibleIn (m : GoMap Key GPUWorkload) (st : SchedulerState) (w : GPUWorkload) : Prop :=
  ∃ f ∈ st.fleet.lookup w.ns, AdmissibleGiven (request w) (fleetCopy f)
    (inner st.quotas w.ns) (total (commits w.ns w.spec.tenant) m)
    (total (holds w.ns (normalizeProfileName w.spec.profile)) m)

section
variable {st : SchedulerState} {m : GoMap Key GPUWorkload} {inputs : SchedulingInputs}
  {w : GPUWorkload}

/-- In a snapshot that is the image of `m`, the two notions agree. -/
theorem admissible_iff_in (hsnap : IsSnapshot st w.ns inputs) (himage : Image m w.ns inputs) :
    Admissible inputs (w.asQueued 0) ↔ AdmissibleIn m st w := by
  obtain ⟨f, hf, hfleet⟩ := hsnap.fleet
  have hused : tenantGPUs (w.asQueued 0).tenant
      (inputs.scheduledWorkloads ++ inputs.runningWorkloads)
      = total (commits w.ns w.spec.tenant) m := himage.committed w.spec.tenant
  have hheld : held (w.asQueued 0).profile inputs.runningWorkloads
      = total (holds w.ns (normalizeProfileName w.spec.profile)) m :=
    himage.held (normalizeProfileName w.spec.profile)
  have hgiven : ∀ fleet quotas used heldGPUs,
      AdmissibleGiven (w.asQueued 0) fleet quotas used heldGPUs
        ↔ AdmissibleGiven (request w) fleet quotas used heldGPUs := fun _ _ _ _ => Iff.rfl
  rw [admissible_iff_given, hused, hheld, hfleet, hsnap.quotas, hgiven]
  constructor
  · intro h
    exact ⟨f, hf, h⟩
  · rintro ⟨f', hf', h⟩
    obtain rfl := Option.some.inj (hf.symm.trans hf')
    exact h

theorem nsOk_of_valid {ns : String} (hsnap : IsSnapshot st ns inputs) (hv : Valid inputs) :
    NsOk st ns := by
  obtain ⟨f, hf, hfleet⟩ := hsnap.fleet
  refine ⟨fun f' hf' => ?_, ?_⟩
  · obtain rfl := Option.some.inj (hf.symm.trans hf')
    rw [fleetCopy, ← hfleet]
    exact hv.fleet
  · rw [← hsnap.quotas]
    exact hv.quotas

end

/-! ## The invariant -/

/-- The object waits in the queue, and the scheduler knows. -/
structure Waiting (c : Cluster) (w : GPUWorkload) : Prop where
  api : c.api.lookup (key w) = some w
  queued : bucket w = some .queued
  known : ∃ s ∈ c.store.lookup (key w), bucket s = some .queued

/-- Nothing that waits is admissible. -/
def Calm (c : Cluster) : Prop :=
  ∀ w, Waiting c w → NsOk c.mem w.ns → ¬AdmissibleIn c.api c.mem w

/-- The store has a running object that has left that phase. -/
def Departing (c : Cluster) : Prop :=
  ∃ k, (∃ s ∈ c.store.lookup k, s.phase = .running) ∧ ∀ w ∈ c.api.lookup k, w.phase ≠ .running

/-- Nothing admissible waits unless a cycle is, or will be, requested. -/
def Awake (c : Cluster) : Prop := c.trigger = true ∨ Departing c ∨ Calm c

/-- With every event delivered, the store has the versions of the API. -/
theorem lookup_store_eq {c : Cluster} (h : Mirrored Checked c) (hp : c.pending = []) (k : Key) :
    c.store.lookup k = c.api.lookup k := by
  have hlag := h.lag k
  rw [pendingOf, hp] at hlag
  exact hlag.eq_of_nil

/-- What is pending are arrivals: objects that the scheduler has nowhere yet, and that are
    neither scheduled nor running. -/
def ArrivalsOnly (c : Cluster) : Prop :=
  ∀ x ∈ c.pending, (∀ s ∈ c.store.lookup x.key, bucket s = none)
    ∧ ∀ w ∈ c.api.lookup x.key, counted w = false

/-- The store agrees with the API on what is queued in it and on what counts. -/
structure Settled (c : Cluster) : Prop where
  known : ∀ w, c.store.lookup (key w) = some w → bucket w ≠ none → c.api.lookup (key w) = some w
  waiting : ∀ w, Waiting c w → c.store.lookup (key w) = some w
  total : ∀ p : GPUWorkload → Bool, (∀ w, p w = true → counted w = true) →
    total p c.store = total p c.api

theorem part_of_not_counted {p : GPUWorkload → Bool} (hp : ∀ w, p w = true → counted w = true)
    {o : Option GPUWorkload} (h : ∀ w ∈ o, counted w = false) : o.elim 0 (part p) = 0 := by
  cases o with
  | none => rfl
  | some w =>
      refine if_neg (fun hw => ?_)
      have hno := h w rfl
      rw [hp w hw] at hno
      cases hno

/-- Arrivals do not matter for what the scheduler knows. -/
theorem settled_of_arrivals {c : Cluster} (h : Mirrored Checked c) (ha : ArrivalsOnly c) :
    Settled c := by
  have hcases : ∀ k, c.store.lookup k = c.api.lookup k
      ∨ ((∀ s ∈ c.store.lookup k, bucket s = none) ∧ ∀ w ∈ c.api.lookup k, counted w = false) := by
    intro k
    by_cases hnil : pendingOf c k = []
    · have hlag := h.lag k
      rw [hnil] at hlag
      exact Or.inl hlag.eq_of_nil
    · obtain ⟨x, hx⟩ := List.exists_mem_of_ne_nil _ hnil
      obtain ⟨hpending, hk⟩ := List.mem_filter.mp hx
      rw [← of_decide_eq_true hk]
      exact Or.inr (ha x hpending)
  refine ⟨fun w hw hb => ?_, fun w hw => ?_, fun p hp => total_congr p (fun k => ?_)⟩
  · rcases hcases (key w) with heq | ⟨hnone, -⟩
    · exact heq.symm.trans hw
    · exact absurd (hnone w hw) hb
  · rcases hcases (key w) with heq | ⟨hnone, -⟩
    · exact heq.trans hw.api
    · obtain ⟨s, hs, hb⟩ := hw.known
      rw [hnone s hs] at hb
      cases hb
  · rcases hcases k with heq | ⟨hnone, hcounted⟩
    · rw [heq]
    · have hstored : ∀ s ∈ c.store.lookup k, counted s = false := by
        intro s hs
        rw [counted, hnone s hs]
        rfl
      rw [part_of_not_counted hp hstored, part_of_not_counted hp hcounted]

/-- Then admissibility does not depend on which of the two is read. -/
theorem admissibleIn_settled {c : Cluster} (h : Settled c) {st : SchedulerState}
    {w : GPUWorkload} : AdmissibleIn c.store st w ↔ AdmissibleIn c.api st w := by
  have hcommits : ∀ v, commits w.ns w.spec.tenant v = true → counted v = true :=
    fun v hv => (Bool.and_eq_true_iff.mp hv).2
  have hholds : ∀ v, holds w.ns (normalizeProfileName w.spec.profile) v = true →
      counted v = true := by
    intro v hv
    rw [counted, (Bool.and_eq_true_iff.mp hv).2, Bool.or_true]
  rw [AdmissibleIn, AdmissibleIn, h.total _ hcommits, h.total _ hholds]

/-- An idle loop that is awake has nothing to do. -/
theorem quiet_of_awake {c : Cluster} (h : Mirrored Checked c) (hawake : Awake c)
    (htrigger : c.trigger = false) (hp : c.pending = []) : Quiet c.mem := by
  have hstore := lookup_store_eq h hp
  have harrivals : ArrivalsOnly c := by
    rw [ArrivalsOnly, hp]
    intro x hx
    cases hx
  have hsettled : Settled c := settled_of_arrivals h harrivals
  have hcalm : Calm c := by
    rcases hawake with htrue | ⟨k, ⟨s, hs, hrunning⟩, hleft⟩ | hcalm
    · cases htrigger.symm.trans htrue
    · rw [Option.mem_def, hstore k] at hs
      exact absurd hrunning (hleft s hs)
    · exact hcalm
  intro order ns inputs hsnap hvalid
  have hv : Valid inputs := validate_ok_iff.mp hvalid
  have his := snapshot_spec hsnap
  have himage := h.image his
  refine (selectedID_eq_empty_iff hv).mpr (fun q hq hadm => ?_)
  obtain ⟨w, hw, rfl⟩ := List.mem_map.mp (himage.queued.subset hq)
  obtain ⟨hlook, rfl, hb⟩ := (mem_objectsIn h.keyed_store).mp hw
  refine hcalm w ⟨(hstore _).symm.trans hlook, hb, w, hlook, hb⟩ (nsOk_of_valid his hv) ?_
  exact (admissibleIn_settled hsettled).mp ((admissible_iff_in his himage).mp hadm)

/-! ## Writes of other components -/

/-- The tenant has a cap. -/
def capped (st : SchedulerState) (ns tenant : String) : Prop :=
  ∃ q ∈ (inner st.quotas ns).lookup tenant, q.maxGPUs ≠ 0

/-- An object of the API that is queued for the same tenant. -/
def tenantWaits (c : Cluster) (w : GPUWorkload) : Prop :=
  ∃ q ∈ values c.api, bucket q = some .queued ∧ q.ns = w.ns ∧ q.spec.tenant = w.spec.tenant

/-- An object of the API that is queued for the same profile. -/
def profileWaits (c : Cluster) (w : GPUWorkload) : Prop :=
  ∃ q ∈ values c.api, bucket q = some .queued ∧ q.ns = w.ns
    ∧ normalizeProfileName q.spec.profile = normalizeProfileName w.spec.profile

/-- The object stops counting, and it is not one that the scheduler sees stop running. -/
def leavesInSilence (c : Cluster) (old : GPUWorkload) (new : Option GPUWorkload) : Prop :=
  counted old = true ∧ (∀ w ∈ new, counted w = false)
    ∧ ¬((∃ s ∈ c.store.lookup (key old), s.phase = .running)
      ∧ ∀ w ∈ new, w.phase ≠ .running)

/-- The object becomes a possible victim. -/
def startsRunning (old : GPUWorkload) (new : Option GPUWorkload) : Prop :=
  bucket old ≠ some .running ∧ ∃ w ∈ new, bucket w = some .running

/-- What a write must not do in silence: free a capped tenant's GPUs while the tenant
    waits, or offer a victim to a workload that waits for its profile. -/
def Harmless (c : Cluster) (old : GPUWorkload) (new : Option GPUWorkload) : Prop :=
  (leavesInSilence c old new → capped c.mem old.ns old.spec.tenant → ¬tenantWaits c old)
    ∧ (startsRunning old new → ¬profileWaits c old)

section
variable {st : SchedulerState} {api api' : GoMap Key GPUWorkload}
  {old new : Option GPUWorkload} {q : GPUWorkload}

/-- The version of one object has been replaced. -/
structure Replaced (api api' : GoMap Key GPUWorkload) (old new : Option GPUWorkload) :
    Prop where
  total : ∀ p, total p api' = total p api - old.elim 0 (part p) + new.elim 0 (part p)
  same : ∀ o ∈ old, ∀ w ∈ new, o.ns = w.ns ∧ o.spec = w.spec
  nonnegOld : ∀ o ∈ old, 0 ≤ o.spec.gpuCount
  nonnegNew : ∀ w ∈ new, 0 ≤ w.spec.gpuCount

theorem part_nonneg (p : GPUWorkload → Bool) (h : ∀ w ∈ new, 0 ≤ w.spec.gpuCount) :
    0 ≤ new.elim 0 (part p) := by
  cases new with
  | none => exact le_refl _
  | some w =>
      show 0 ≤ part p w
      rw [part]
      split_ifs
      · exact h w rfl
      · exact le_refl _

/-- A property that the new version has when the old one has it does not lose GPUs. -/
theorem part_le_part {p : GPUWorkload → Bool} {old new : Option GPUWorkload}
    (hsame : ∀ o ∈ old, ∀ w ∈ new, o.spec = w.spec)
    (hnonneg : ∀ w ∈ new, 0 ≤ w.spec.gpuCount)
    (h : ∀ o ∈ old, p o = true → ∃ w ∈ new, p w = true) :
    old.elim 0 (part p) ≤ new.elim 0 (part p) := by
  cases old with
  | none => exact part_nonneg p hnonneg
  | some o =>
    by_cases ho : p o = true
    · obtain ⟨w, rfl, hw⟩ := h o rfl ho
      show part p o ≤ part p w
      rw [part, part, if_pos ho, if_pos hw, hsame o rfl w rfl]
    · have hzero : (some o).elim 0 (part p) = 0 := if_neg ho
      rw [hzero]
      exact part_nonneg p hnonneg

/-- Without a cap, the usage does not matter. -/
theorem overCap_of_not_capped (h : ¬capped st q.ns q.spec.tenant) (used : Int) :
    overCap (request q) used (inner st.quotas q.ns) = false := by
  rw [overCap]
  cases hq : (inner st.quotas q.ns).lookup (request q).tenant with
  | none => rfl
  | some quota =>
      have h0 : quota.maxGPUs = 0 := not_not.mp (fun hne => h ⟨quota, hq, hne⟩)
      simp only [if_pos h0]

/-- **REPLACING IN SILENCE**: a write that frees nothing of a capped tenant and offers no
    victim on the profile does not make a workload admissible. -/
theorem admissibleIn_of_replaced (h : Replaced api api' old new)
    (hcommit : capped st q.ns q.spec.tenant → ∀ o ∈ old,
      commits q.ns q.spec.tenant o = true → ∃ w ∈ new, commits q.ns q.spec.tenant w = true)
    (hheld : ∀ w ∈ new, holds q.ns (normalizeProfileName q.spec.profile) w = true →
      ∃ o ∈ old, holds q.ns (normalizeProfileName q.spec.profile) o = true)
    (hq : AdmissibleIn api' st q) : AdmissibleIn api st q := by
  obtain ⟨f, hf, hcap, hcompat, cap, hentry, hmem, hle⟩ := hq
  have hspec : ∀ o ∈ old, ∀ w ∈ new, o.spec = w.spec := fun o ho w hw => (h.same o ho w hw).2
  have hspec' : ∀ w ∈ new, ∀ o ∈ old, w.spec = o.spec := fun w hw o ho => (hspec o ho w hw).symm
  have hholds := h.total (holds q.ns (normalizeProfileName q.spec.profile))
  have hpart := part_le_part hspec' h.nonnegOld hheld
  refine ⟨f, hf, ?_, hcompat, cap, hentry, hmem, by omega⟩
  by_cases hc : capped st q.ns q.spec.tenant
  · have hcommits := h.total (commits q.ns q.spec.tenant)
    have hpart' := part_le_part hspec h.nonnegNew (hcommit hc)
    exact overCap_mono hcap (by omega)
  · exact overCap_of_not_capped hc _

end

/-- A write of another component to one object of the API. -/
structure Writes (c c' : Cluster) (k : Key) (old new : Option GPUWorkload) : Prop where
  mem : c'.mem = c.mem
  store : c'.store = c.store
  trigger : c'.trigger = c.trigger
  before : c.api.lookup k = old
  after : c'.api.lookup k = new
  other : ∀ k', k' ≠ k → c'.api.lookup k' = c.api.lookup k'
  replaced : Replaced c.api c'.api old new
  identity : ∀ o ∈ old, ∀ w ∈ new, request o = request w
  forward : ∀ o ∈ old, ∀ w ∈ new, Forward o w
  created : old = none → c.store.lookup k = none ∧ ∀ w ∈ new, bucket w = none

section
variable {c c' : Cluster} {k : Key} {old new : Option GPUWorkload}

/-- A running object that is leaving goes on leaving. -/
theorem Writes.departing (h : Writes c c' k old new) (hm : Mirrored Checked c) (hd : Departing c) :
    Departing c' := by
  obtain ⟨k', ⟨s, hs, hrunning⟩, hleft⟩ := hd
  refine ⟨k', ⟨s, by rw [h.store]; exact hs, hrunning⟩, fun w hw => ?_⟩
  by_cases hk : k' = k
  · subst hk
    rw [Option.mem_def, h.after] at hw
    cases ho : old with
    | none =>
        rw [(h.created ho).1] at hs
        cases hs
    | some o =>
        have hlag := hm.lag k'
        rw [h.before, ho] at hlag
        exact (hlag.forward hs).not_running (h.forward o ho w hw) hrunning
          (hleft o (h.before.trans ho))
  · rw [Option.mem_def, h.other k' hk] at hw
    exact hleft w hw

/-- What waits after the write has waited before. -/
theorem Writes.waiting (h : Writes c c' k old new) (hm : Mirrored Checked c) {q : GPUWorkload}
    (hq : Waiting c' q) :
    ∃ q₀, Waiting c q₀ ∧ q₀.ns = q.ns ∧ q₀.spec = q.spec ∧ request q₀ = request q := by
  obtain ⟨hapi, hb, s, hs, hsb⟩ := hq
  rw [h.store] at hs
  by_cases hk : key q = k
  · have hnew : new = some q := by
      rw [← h.after, ← hk]
      exact hapi
    rw [hk] at hs
    cases ho : old with
    | none =>
        rw [(h.created ho).1] at hs
        cases hs
    | some o =>
        have hbefore := h.before.trans ho
        have hkey : key o = k := hm.keyed_api k o hbefore
        have hlag := hm.lag k
        rw [hbefore] at hlag
        obtain ⟨hns, hspec⟩ := h.replaced.same o ho q hnew
        refine ⟨o, ⟨by rw [hkey]; exact hbefore, ?_, s, by rw [hkey]; exact hs, hsb⟩, hns, hspec,
          h.identity o ho q hnew⟩
        exact (hlag.forward hs).queued_between (h.forward o ho q hnew) hsb hb
  · rw [h.other _ hk] at hapi
    exact ⟨q, ⟨hapi, hb, s, hs, hsb⟩, rfl, rfl, rfl⟩

/-- An object of the same namespace and specification commits exactly when it counts. -/
theorem commits_eq_counted {ns tenant : String} {w : GPUWorkload} (hns : w.ns = ns)
    (ht : w.spec.tenant = tenant) : commits ns tenant w = counted w := by
  simp [commits, hns, ht]

/-- **A HARMLESS WRITE KEEPS THE LOOP AWAKE.** -/
theorem Writes.awake (h : Writes c c' k old new) (hm : Mirrored Checked c)
    (hharm : ∀ o ∈ old, c.trigger = true ∨ Harmless c o new) (ha : Awake c) : Awake c' := by
  rcases ha with htrigger | hdeparting | hcalm
  · exact Or.inl (h.trigger.trans htrigger)
  · exact Or.inr (Or.inl (h.departing hm hdeparting))
  · by_cases htrigger : c.trigger = true
    · exact Or.inl (h.trigger.trans htrigger)
    · by_cases hgone : (∃ s ∈ c.store.lookup k, s.phase = .running)
          ∧ ∀ w ∈ new, w.phase ≠ .running
      · refine Or.inr (Or.inl ⟨k, by rw [h.store]; exact hgone.1, ?_⟩)
        rw [h.after]
        exact hgone.2
      · refine Or.inr (Or.inr (fun q hq hok hadm => ?_))
        obtain ⟨q₀, hq₀, hns, hspec, hrequest⟩ := h.waiting hm hq
        rw [h.mem] at hok hadm
        have hmem₀ : q₀ ∈ values c.api := mem_values.mpr ⟨_, hq₀.api⟩
        refine hcalm q₀ hq₀ (by rw [hns]; exact hok) ?_
        have hsame : AdmissibleIn c.api c.mem q₀ ↔ AdmissibleIn c.api c.mem q := by
          rw [AdmissibleIn, AdmissibleIn, hns, hspec, hrequest]
        refine hsame.mpr (admissibleIn_of_replaced h.replaced ?_ ?_ hadm)
        · -- what stops counting in silence is not of a tenant that waits
          intro hcap o ho hcommits
          by_contra hnone
          obtain ⟨⟨hons, hot⟩, hcounted⟩ :
              (o.ns = q.ns ∧ o.spec.tenant = q.spec.tenant) ∧ counted o = true := by
            simpa [commits] using hcommits
          have hsilent : leavesInSilence c o new := by
            refine ⟨hcounted, fun w hw => ?_, ?_⟩
            · obtain ⟨hwns, hwspec⟩ := h.replaced.same o ho w hw
              have hwt : w.spec.tenant = q.spec.tenant := hwspec ▸ hot
              rw [← commits_eq_counted (hwns.symm.trans hons) hwt, Bool.eq_false_iff]
              exact fun hw' => hnone ⟨w, hw, hw'⟩
            · rw [hm.keyed_api k o (h.before.trans ho)]
              exact hgone
          refine ((hharm o ho).resolve_left htrigger).1 hsilent ?_
            ⟨q₀, hmem₀, hq₀.queued, hns.trans hons.symm, by rw [hspec]; exact hot.symm⟩
          rw [hons, hot]
          exact hcap
        · -- what starts to run does not run on a profile that is waited for
          intro w hw hholds
          obtain ⟨⟨hwns, hwp⟩, hwb⟩ : (w.ns = q.ns
              ∧ normalizeProfileName w.spec.profile = normalizeProfileName q.spec.profile)
              ∧ bucket w = some .running := by
            simpa [holds] using hholds
          cases ho : old with
          | none =>
              rw [(h.created ho).2 w hw] at hwb
              cases hwb
          | some o =>
              obtain ⟨hons, hospec⟩ := h.replaced.same o ho w hw
              refine ⟨o, rfl, ?_⟩
              by_contra hnot
              have hstarts : startsRunning o new := by
                refine ⟨fun hob => hnot ?_, w, hw, hwb⟩
                simp [holds, hob, hons, hwns, hospec, hwp]
              refine ((hharm o ho).resolve_left htrigger).2 hstarts
                ⟨q₀, hmem₀, hq₀.queued, hns.trans (hons.trans hwns).symm, ?_⟩
              rw [hspec, hospec, hwp]

end

section
variable {c : Cluster} {w old : GPUWorkload}

/-- An update is such a write. -/
theorem writes_update (hm : Mirrored Checked c) (hold : c.api.lookup (key w) = some old)
    (hsame : w.ns = old.ns ∧ w.name = old.name ∧ w.spec = old.spec) (hf : Forward old w) :
    Writes c (c.put w) (key w) (some old) (some w) := by
  obtain ⟨hns, hname, hspec⟩ := hsame
  have hpos : 0 ≤ old.spec.gpuCount := by
    have := (hm.api _ old hold).2.accepted.2.2.2
    omega
  refine ⟨rfl, rfl, rfl, hold, lookup_put_self c w, fun k hk => lookup_put_ne c hk,
    ⟨fun p => ?_, ?_, ?_, ?_⟩, ?_, ?_, fun h => by cases h⟩
  · have hinsert : total p (c.put w).api = total p (c.api.erase (key w)) + part p w :=
      total_insert p w
    rw [hinsert, total_erase p hold]
    rfl
  · rintro o ⟨⟩ v ⟨⟩
    exact ⟨hns.symm, hspec.symm⟩
  · rintro o ⟨⟩
    exact hpos
  · rintro v ⟨⟩
    rw [hspec]
    exact hpos
  · rintro o ⟨⟩ v ⟨⟩
    simp only [request, gpuWorkloadToQueuedWorkload, GPUWorkload.id, hns, hname, hspec]
  · rintro o ⟨⟩ v ⟨⟩
    exact hf

/-- So is the creation of an object whose earlier life is delivered. -/
theorem writes_create (hm : Mirrored Checked c) (hnone : c.api.lookup (key w) = none)
    (hnil : pendingOf c (key w) = []) (hb : bucket w = none) (hpos : 0 ≤ w.spec.gpuCount) :
    Writes c (c.put w) (key w) none (some w) := by
  refine ⟨rfl, rfl, rfl, hnone, lookup_put_self c w, fun k hk => lookup_put_ne c hk,
    ⟨fun p => ?_, fun o ho => (by cases ho), fun o ho => (by cases ho), ?_⟩,
    fun o ho => (by cases ho), fun o ho => (by cases ho), fun _ => ⟨?_, ?_⟩⟩
  · have hinsert : total p (c.put w).api = total p (c.api.erase (key w)) + part p w :=
      total_insert p w
    rw [hinsert, total_erase_of_none p hnone]
    show _ = _ - 0 + part p w
    omega
  · rintro v ⟨⟩
    exact hpos
  · have hlag := hm.lag (key w)
    rw [hnil, hnone] at hlag
    exact hlag.eq_of_nil
  · rintro v ⟨⟩
    exact hb

/-- And a removal. -/
theorem writes_remove (hm : Mirrored Checked c) (hw : c.api.lookup (key w) = some w) :
    Writes c (c.remove w) (key w) (some w) none := by
  refine ⟨rfl, rfl, rfl, hw, AList.lookup_erase _ _, fun k hk => AList.lookup_erase_ne hk,
    ⟨fun p => ?_, fun o _ v hv => (by cases hv), ?_, fun v hv => (by cases hv)⟩,
    fun o _ v hv => (by cases hv), fun o _ v hv => (by cases hv), fun h => by cases h⟩
  · have herase : total p (c.remove w).api = total p c.api - part p w := total_erase p hw
    rw [herase]
    show _ = _ - part p w + 0
    omega
  · rintro o ⟨⟩
    have := (hm.api _ w hw).2.accepted.2.2.2
    omega

end

/-! ## Events -/

section
variable {c : Cluster}

/-- The reaction to a version that is queued is a request. -/
theorem react_of_queued (x : Write) (now : Int) (hd : x.deleted = false)
    (hb : bucket x.workload = some .queued) : (react c x now).2 = true := by
  obtain ⟨ht, hp⟩ := bucket_eq_queued_iff.mp hb
  rw [react]
  cases c.store.lookup x.key <;>
    simp [eventOf, hd, handleWorkloadEvent, WorkloadEvent.change, applyWorkloadToState, ht, hp]

/-- So is the reaction to the end of a running version. -/
theorem react_of_departing (x : Write) (now : Int) {s : GPUWorkload}
    (hs : c.store.lookup x.key = some s) (hrunning : s.phase = .running)
    (hleft : if x.deleted then x.workload = s else x.workload.phase ≠ .running) :
    (react c x now).2 = true := by
  rw [react, hs]
  cases hd : x.deleted with
  | false =>
      rw [hd] at hleft
      have hne : x.workload.phase ≠ .running := hleft
      simp [eventOf, hd, handleWorkloadEvent, hrunning, hne]
  | true =>
      rw [hd] at hleft
      have he : x.workload = s := hleft
      simp [eventOf, hd, handleWorkloadEvent, he, hrunning]

/-- Admissibility reads fleets and quotas of the state only. -/
theorem admissibleIn_frame {st st' : SchedulerState} (hf : st'.fleet = st.fleet)
    (hq : st'.quotas = st.quotas) (m : GoMap Key GPUWorkload) (w : GPUWorkload) :
    AdmissibleIn m st' w ↔ AdmissibleIn m st w := by
  rw [AdmissibleIn, AdmissibleIn, hf, hq]

theorem nsOk_frame {st st' : SchedulerState} (hf : st'.fleet = st.fleet)
    (hq : st'.quotas = st.quotas) (ns : String) : NsOk st' ns ↔ NsOk st ns := by
  rw [NsOk, NsOk, hf, hq]

/-- **A DELIVERY KEEPS THE LOOP AWAKE.** -/
theorem awake_deliver {c' : Cluster} {i : Nat} {now : Int} (hm : Mirrored Checked c)
    (hc' : c.deliver i now = some c') (ha : Awake c) : Awake c' := by
  obtain ⟨x, hx, rfl⟩ := Option.map_eq_some_iff.mp hc'
  by_cases hreact : (react c x now).2 = true
  · exact Or.inl (by simp [hreact])
  obtain ⟨before, hbefore⟩ := (pending_deliver c hx x.key).1 rfl
  have hlag := hm.lag x.key
  rw [hbefore] at hlag
  rcases ha with htrigger | ⟨k, ⟨s, hs, hrunning⟩, hleft⟩ | hcalm
  · exact Or.inl (by simp [htrigger])
  · refine Or.inr (Or.inl ⟨k, ?_, hleft⟩)
    by_cases hk : k = x.key
    · subst hk
      -- without a request, the delivered version is still running
      rcases hlag.deliver with ⟨hd, -, -⟩ | ⟨hd, hstored, -⟩
      · have hphase : x.workload.phase = .running := by
          by_contra hne
          exact hreact (react_of_departing x now hs hrunning (by rw [hd]; exact hne))
        refine ⟨x.workload, ?_, hphase⟩
        rw [Option.mem_def, lookup_store_deliver, if_pos rfl, stored, hd]
        rfl
      · refine absurd (react_of_departing x now hs hrunning ?_) hreact
        rw [hd]
        exact Option.some.inj (hstored.symm.trans hs)
    · refine ⟨s, ?_, hrunning⟩
      rw [Option.mem_def, lookup_store_deliver, if_neg hk]
      exact hs
  · refine Or.inr (Or.inr (fun q hq hok hadm => ?_))
    obtain ⟨hfleet, hquotas⟩ := react_frame c x now
    obtain ⟨hapi, hb, s, hs, hsb⟩ := hq
    rw [Option.mem_def, lookup_store_deliver] at hs
    by_cases hk : key q = x.key
    · -- the delivery that makes the scheduler see the object queued is a request
      rw [if_pos hk, stored] at hs
      cases hd : x.deleted with
      | true =>
          rw [hd] at hs
          cases hs
      | false =>
          rw [hd] at hs
          obtain rfl := Option.some.inj hs
          exact hreact (react_of_queued x now hd hsb)
    · rw [if_neg hk] at hs
      exact hcalm q ⟨hapi, hb, s, hs, hsb⟩ ((nsOk_frame hfleet hquotas _).mp hok)
        ((admissibleIn_frame hfleet hquotas _ _).mp hadm)

/-- An event that changes no slot keeps the loop awake if it requests a cycle or changes
    nothing. -/
theorem awake_of_event {mem : SchedulerState} {request : Bool}
    (h : request = true ∨ mem = c.mem) (ha : Awake c) :
    Awake { c with mem := mem, trigger := c.trigger || request } := by
  rcases h with rfl | rfl
  · exact Or.inl (by simp)
  · rcases ha with htrigger | hdeparting | hcalm
    · exact Or.inl (by simp [htrigger])
    · exact Or.inr (Or.inl hdeparting)
    · exact Or.inr (Or.inr (fun w hw => hcalm w ⟨hw.api, hw.queued, hw.known⟩))

theorem handlePoolEvent_requests (st : SchedulerState) (ns : String)
    (listed : Option (List GpuFleet.GPUNodePool)) :
    (handlePoolEvent st ns listed).2 = true ∨ (handlePoolEvent st ns listed).1 = st := by
  rcases listed with - | pools
  · exact Or.inr rfl
  · cases pools <;> exact Or.inl rfl

theorem handleQuotaEvent_requests (st : SchedulerState) (q : TenantQuotaCR) (deleted : Bool) :
    (handleQuotaEvent st q deleted).2 = true ∨ (handleQuotaEvent st q deleted).1 = st := by
  simp only [handleQuotaEvent]
  split_ifs
  · exact Or.inl rfl
  · exact Or.inl rfl
  · exact Or.inr rfl
  · exact Or.inl rfl

end

/-! ## Cycles that admit all there is to admit -/

/-- The queued workloads that one of the two passes of the selection can admit. -/
def candidates (inputs : SchedulingInputs) : List QueuedWorkload :=
  inputs.queuedWorkloads.filter
    (fun q => fitsWithoutPreemption inputs q || (admitWithPreemption inputs q).isSome)

/-- The candidates of a namespace; a snapshot that fails `Validate` has none. -/
def candidatesIn (st : SchedulerState) (ns : String) : List QueuedWorkload :=
  match st.snapshotForNamespace .entries ns with
  | none => []
  | some inputs =>
    match validate inputs with
    | .ok () => candidates inputs
    | .error _ => []

/-- One batch can admit all candidates of the namespace: they are not too many, they fit
    together, and no status update fails. -/
def CanDrain (maxAdmissionsPerCycle : Int) (st : SchedulerState) (faults : Faults)
    (ns : String) : Prop :=
  (candidatesIn st ns).length ≤ maxAdmissions maxAdmissionsPerCycle
    ∧ (∀ inputs ∈ st.snapshotForNamespace .entries ns, FitTogether inputs (candidatesIn st ns))
    ∧ ∀ q ∈ candidatesIn st ns, faults.patchAdmitted q.workloadID = false

section
variable {c : Cluster} {ns : String} {inputs : SchedulingInputs} {order : MapOrder}
  {w : GPUWorkload}

/-- A snapshot in any order has the snapshot in entry order beside it. -/
theorem exists_entries_snapshot {st : SchedulerState} (h : IsSnapshot st ns inputs) :
    ∃ inputs₀, st.snapshotForNamespace .entries ns = some inputs₀
      ∧ inputs₀.fleetFreeCapacity = inputs.fleetFreeCapacity
      ∧ inputs₀.tenantQuotas = inputs.tenantQuotas := by
  obtain ⟨f, hf, hfleet⟩ := h.fleet
  refine ⟨_, by rw [SchedulerState.snapshotForNamespace, hf]; rfl, hfleet.symm, h.quotas.symm⟩

/-- The candidates are the queued objects that are admissible in the store. -/
theorem mem_candidatesIn (hm : Mirrored Checked c) (hsnap : IsSnapshot c.mem ns inputs)
    (hv : Valid inputs) {q : QueuedWorkload} :
    q ∈ candidatesIn c.mem ns ↔ ∃ w ∈ objectsIn c.store ns .queued, q = w.asQueued 0
      ∧ AdmissibleIn c.store c.mem w := by
  obtain ⟨inputs₀, hsnap₀, hfleet, hquotas⟩ := exists_entries_snapshot hsnap
  have hv₀ : Valid inputs₀ := hm.valid hsnap₀ (by rw [hfleet]; exact hv.fleet)
    (by rw [hquotas]; exact hv.quotas)
  have his := snapshot_spec hsnap₀
  have himage := hm.image his
  have hcandidates : candidatesIn c.mem ns = candidates inputs₀ := by
    rw [candidatesIn, hsnap₀]
    simp only [validate_ok_iff.mpr hv₀]
  rw [hcandidates, candidates, List.mem_filter, Bool.or_eq_true]
  constructor
  · rintro ⟨hq, hpass⟩
    obtain ⟨w, hw, rfl⟩ := List.mem_map.mp (himage.queued.subset hq)
    obtain ⟨-, rfl, -⟩ := (mem_objectsIn hm.keyed_store).mp hw
    exact ⟨w, hw, rfl, (admissible_iff_in his himage).mp ((admissible_iff hv₀ hq).mpr hpass)⟩
  · rintro ⟨w, hw, rfl, hadm⟩
    have hq : w.asQueued 0 ∈ inputs₀.queuedWorkloads :=
      himage.queued.mem_iff.mpr (List.mem_map.mpr ⟨w, hw, rfl⟩)
    obtain ⟨-, rfl, -⟩ := (mem_objectsIn hm.keyed_store).mp hw
    exact ⟨hq, (admissible_iff hv₀ hq).mp ((admissible_iff_in his himage).mpr hadm)⟩

/-- The IDs of the candidates are distinct. -/
theorem nodup_candidatesIn (hm : Mirrored Checked c) (hsnap : IsSnapshot c.mem ns inputs)
    (hv : Valid inputs) : ((candidatesIn c.mem ns).map QueuedWorkload.workloadID).Nodup := by
  obtain ⟨inputs₀, hsnap₀, hfleet, hquotas⟩ := exists_entries_snapshot hsnap
  have hv₀ : Valid inputs₀ := hm.valid hsnap₀ (by rw [hfleet]; exact hv.fleet)
    (by rw [hquotas]; exact hv.quotas)
  have hcandidates : candidatesIn c.mem ns = candidates inputs₀ := by
    rw [candidatesIn, hsnap₀]
    simp only [validate_ok_iff.mpr hv₀]
  rw [hcandidates, candidates]
  exact hv₀.nodup_queued.sublist (List.filter_sublist.map _)

/-- **A NAMESPACE THAT CAN BE DRAINED IS DRAINED**, in whatever order its maps come out. -/
theorem drains_of_canDrain {maxAdmissionsPerCycle : Int} {faults : Faults} (hm : Mirrored Checked c)
    (hsnap : IsSnapshot c.mem ns inputs) (hv : Valid inputs)
    (h : CanDrain maxAdmissionsPerCycle c.mem faults ns) :
    Drains (maxAdmissions maxAdmissionsPerCycle) (candidatesIn c.mem ns) inputs := by
  obtain ⟨inputs₀, hsnap₀, hfleet, hquotas⟩ := exists_entries_snapshot hsnap
  have himage := hm.image hsnap
  have himage₀ := hm.image (snapshot_spec hsnap₀)
  obtain ⟨hcount, htogether, -⟩ := h
  have htogether₀ := htogether inputs₀ hsnap₀
  refine ⟨fun q hq => ?_, nodup_candidatesIn hm hsnap hv, fun q hq hadm => ?_, fun q hq => ?_,
    hcount, ⟨?_, ?_, ?_⟩⟩
  · obtain ⟨w, hw, rfl, -⟩ := (mem_candidatesIn hm hsnap hv).mp hq
    exact himage.queued.mem_iff.mpr (List.mem_map.mpr ⟨w, hw, rfl⟩)
  · obtain ⟨w, hw, rfl⟩ := List.mem_map.mp (himage.queued.subset hq)
    refine (mem_candidatesIn hm hsnap hv).mpr ⟨w, hw, rfl, ?_⟩
    obtain ⟨-, rfl, -⟩ := (mem_objectsIn hm.keyed_store).mp hw
    exact (admissible_iff_in hsnap himage).mp hadm
  · obtain ⟨w, hw, rfl, hadm⟩ := (mem_candidatesIn hm hsnap hv).mp hq
    obtain ⟨-, rfl, -⟩ := (mem_objectsIn hm.keyed_store).mp hw
    obtain ⟨cap, he, -⟩ := (admissible_iff_in hsnap himage).mpr hadm
    exact ⟨cap, he.compatible, he.entry, he.memory⟩
  · rw [← hfleet]
    exact htogether₀.devices
  · rw [← hfleet]
    exact htogether₀.memory
  · intro tenant q hq hpos
    rw [← hquotas] at hq
    rw [himage.committed, ← himage₀.committed]
    exact htogether₀.caps tenant q hq hpos

end

/-! ## What admissions leave -/

/-- Objects have left the queue for `Scheduled`, and nothing else has happened. -/
structure Recedes (c c' : Cluster) : Prop where
  mem : c'.mem = c.mem
  store : c'.store = c.store
  queued : ∀ w, c'.api.lookup (key w) = some w → bucket w = some .queued →
    c.api.lookup (key w) = some w
  commits : ∀ ns tenant, total (commits ns tenant) c.api ≤ total (commits ns tenant) c'.api
  holds : ∀ ns profile, total (holds ns profile) c'.api ≤ total (holds ns profile) c.api

theorem Recedes.refl (c : Cluster) : Recedes c c :=
  ⟨rfl, rfl, fun _ h _ => h, fun _ _ => le_refl _, fun _ _ => le_refl _⟩

theorem Recedes.trans {c c' c'' : Cluster} (h : Recedes c c') (h' : Recedes c' c'') :
    Recedes c c'' :=
  ⟨h'.mem.trans h.mem, h'.store.trans h.store, fun w hw hb => h.queued w (h'.queued w hw hb) hb,
    fun ns t => (h.commits ns t).trans (h'.commits ns t),
    fun ns p => (h'.holds ns p).trans (h.holds ns p)⟩

/-- Admissions make nothing admissible. -/
theorem Recedes.admissibleIn {c c' : Cluster} (h : Recedes c c') {w : GPUWorkload}
    (hw : AdmissibleIn c'.api c'.mem w) : AdmissibleIn c.api c.mem w := by
  obtain ⟨f, hf, hgiven⟩ := hw
  rw [h.mem] at hf hgiven
  exact ⟨f, hf, hgiven.mono (h.commits _ _) (h.holds _ _)⟩

section
variable {c : Cluster} {w : GPUWorkload}

/-- What is queued after an admission is another object. -/
theorem key_ne_of_queued {v : GPUWorkload}
    (hv : (c.put { w with phase := .scheduled }).api.lookup (key v) = some v)
    (hb : bucket v = some .queued) : key v ≠ key w := by
  intro hk
  have hself : (c.put { w with phase := .scheduled }).api.lookup (key v)
      = some { w with phase := .scheduled } := by
    rw [hk]
    exact lookup_put_self c { w with phase := .scheduled }
  obtain rfl := Option.some.inj (hself.symm.trans hv)
  cases (bucket_eq_queued_iff.mp hb).2

/-- The status update of an admission moves one object out of the queue. -/
theorem recedes_patchAdmitted (hw : c.api.lookup (key w) = some w) (hq : w.phase = .queued)
    (hpos : 0 ≤ w.spec.gpuCount) : Recedes c (c.put { w with phase := .scheduled }) := by
  have htotal : ∀ p, total p (c.put { w with phase := .scheduled }).api
      = total p c.api - part p w + part p { w with phase := .scheduled } := by
    intro p
    have hinsert : total p (c.put { w with phase := .scheduled }).api
        = total p (c.api.erase (key w)) + part p { w with phase := .scheduled } :=
      total_insert p _
    rw [hinsert, total_erase p hw]
  have hne : ∀ b, b ≠ Bucket.queued → bucket w ≠ some b := by
    intro b hb h
    cases b with
    | queued => exact hb rfl
    | scheduled => cases hq.symm.trans (bucket_eq_scheduled_iff.mp h).2
    | running => cases hq.symm.trans (bucket_eq_running_iff.mp h).2
  refine ⟨rfl, rfl, fun v hv hb => ?_, fun ns tenant => ?_, fun ns profile => ?_⟩
  · rw [lookup_put_ne c (w := { w with phase := .scheduled }) (key_ne_of_queued hv hb)] at hv
    exact hv
  · have hold : part (GpuMirror.commits ns tenant) w = 0 := by
      refine if_neg (fun h => ?_)
      have hcounted : counted w = true := (Bool.and_eq_true _ _ |>.mp h).2
      rcases Bool.or_eq_true _ _ |>.mp hcounted with h | h
      · exact hne .scheduled (by decide) (of_decide_eq_true h)
      · exact hne .running (by decide) (of_decide_eq_true h)
    have hnew : 0 ≤ part (GpuMirror.commits ns tenant) { w with phase := .scheduled } := by
      rw [part]
      split_ifs
      · exact hpos
      · exact le_refl _
    rw [htotal, hold]
    omega
  · have hnew : part (GpuMirror.holds ns profile) { w with phase := .scheduled } = 0 := by
      refine if_neg (fun h => ?_)
      have hb := of_decide_eq_true (Bool.and_eq_true _ _ |>.mp h).2
      cases (bucket_eq_running_iff.mp hb).2
    have hold : part (GpuMirror.holds ns profile) w = 0 := by
      refine if_neg (fun h => ?_)
      exact hne .running (by decide) (of_decide_eq_true (Bool.and_eq_true _ _ |>.mp h).2)
    rw [htotal, hold, hnew]
    omega

/-- The status update of a queued object that does not fail. -/
theorem patchAdmitted_of_queued {faults : Faults} (hfault : faults.patchAdmitted w.id = false)
    (hw : c.api.lookup (key w) = some w) (hq : w.phase = .queued) :
    patchAdmitted faults w.ns w.name c = (c.put { w with phase := .scheduled }, true) := by
  have hf : faults.patchAdmitted (workloadID w.ns w.name) = false := hfault
  have hlook : c.api.lookup (w.ns, workloadID w.ns w.name) = some w := hw
  simp [patchAdmitted, hf, hlook, hq]

end

/-- A batch under way: `ws` are the admissible workloads of the namespace still queued. -/
structure Left (c₀ : Cluster) (ns : String) (faults : Faults) (ws : List QueuedWorkload)
    (c : Cluster) : Prop where
  recedes : Recedes c₀ c
  covers : ∀ w, c.api.lookup (key w) = some w → c₀.store.lookup (key w) = some w →
    bucket w = some .queued → w.ns = ns → AdmissibleIn c₀.api c₀.mem w → w.asQueued 0 ∈ ws
  present : ∀ q ∈ ws, ∃ w, c.api.lookup (key w) = some w ∧ w.phase = .queued ∧ accepted w
    ∧ w.ns = ns ∧ q = w.asQueued 0
  succeeds : ∀ q ∈ ws, faults.patchAdmitted q.workloadID = false

/-- An iteration without victims admits its workload, and the others are left. -/
theorem Left.perform {c₀ c : Cluster} {ns : String} {faults : Faults} {order : MapOrder}
    {ws : List QueuedWorkload} {sel : Selection} {q : QueuedWorkload}
    (h : Left c₀ ns faults ws c) (hq : q ∈ ws) (hid : sel.selectedID = q.workloadID)
    (hvictims : sel.victims = []) :
    ∃ c', perform (calls order faults) sel c = (c', .admitted)
      ∧ Left c₀ ns faults (ws.filter (fun r => r.workloadID ≠ q.workloadID)) c' := by
  obtain ⟨w, hw, hphase, hacc, hns, rfl⟩ := h.present q hq
  have hfault : faults.patchAdmitted w.id = false := h.succeeds _ hq
  have hkey : workloadKey sel.selectedID = some (w.ns, w.name) := by
    rw [hid]
    exact workloadKey_of_accepted hacc
  have hcall : (calls order faults).patchAdmitted w.ns w.name sel.reason sel.message c
      = (c.put { w with phase := .scheduled }, true) := patchAdmitted_of_queued hfault hw hphase
  have hpos : 0 ≤ w.spec.gpuCount := by
    have := hacc.2.2.2
    omega
  have hother : ∀ v : GPUWorkload, key v ≠ key w →
      (c.put { w with phase := .scheduled }).api.lookup (key v) = c.api.lookup (key v) :=
    fun v hv => lookup_put_ne c (w := { w with phase := .scheduled }) hv
  refine ⟨_, ?_, h.recedes.trans (recedes_patchAdmitted hw hphase hpos),
    fun v hv hstored hb hvns hadm => ?_,
    fun r hr => ?_, fun r hr => h.succeeds r (List.mem_of_mem_filter hr)⟩
  · simp only [GpuCycle.perform, hvictims, if_true, patchWorkloadAdmittedAndScheduled, hkey,
      hcall]
  · have hne : key v ≠ key w := key_ne_of_queued hv hb
    rw [hother v hne] at hv
    refine List.mem_filter.mpr
      ⟨h.covers v hv hstored hb hvns hadm, decide_eq_true (fun hv' => hne ?_)⟩
    exact Prod.ext (hvns.trans hns.symm) hv'
  · obtain ⟨hr, hne⟩ := List.mem_filter.mp hr
    obtain ⟨v, hv, hvphase, hvacc, hvns, rfl⟩ := h.present r hr
    refine ⟨v, ?_, hvphase, hvacc, hvns, rfl⟩
    rw [hother v (fun hk => of_decide_eq_true hne (Prod.mk.inj hk).2)]
    exact hv

section
variable {c : Cluster} {order : MapOrder} {faults : Faults} {maxAdmissionsPerCycle : Int}

/-- Before a batch, the candidates are what is left. -/
theorem left_candidatesIn {ns : String} {inputs : SchedulingInputs} (hm : Mirrored Checked c)
    (hsettled : Settled c) (hsnap : IsSnapshot c.mem ns inputs) (hv : Valid inputs)
    (hdrain : CanDrain maxAdmissionsPerCycle c.mem faults ns) :
    Left c ns faults (candidatesIn c.mem ns) c := by
  refine ⟨.refl c, fun w _ hw hb hns hadm => ?_, fun q hq => ?_, hdrain.2.2⟩
  · exact (mem_candidatesIn hm hsnap hv).mpr ⟨w, (mem_objectsIn hm.keyed_store).mpr
      ⟨hw, hns, hb⟩, rfl, (admissibleIn_settled hsettled).mpr hadm⟩
  · obtain ⟨w, hw, rfl, -⟩ := (mem_candidatesIn hm hsnap hv).mp hq
    obtain ⟨hlook, hns, hb⟩ := (mem_objectsIn hm.keyed_store).mp hw
    have hapi := hsettled.known w hlook (by rw [hb]; exact Option.some_ne_none _)
    exact ⟨w, hapi, (bucket_eq_queued_iff.mp hb).2, (hm.store _ w hlook).2.accepted, hns, rfl⟩

/-- Nothing that the store of `c` has, and that is queued in `c'`, was admissible in `c`. -/
def NothingLeft (c c' : Cluster) : Prop :=
  ∀ w, c'.api.lookup (key w) = some w → c.store.lookup (key w) = some w →
    bucket w = some .queued → NsOk c.mem w.ns → ¬AdmissibleIn c.api c.mem w

/-- A namespace whose snapshot is not valid has nothing to admit. -/
theorem valid_of_nsOk {ns : String} {inputs : SchedulingInputs} (hm : Mirrored Checked c)
    (hsnap : c.mem.snapshotForNamespace order ns = some inputs) (hok : NsOk c.mem ns) :
    Valid inputs := by
  have his := snapshot_spec hsnap
  obtain ⟨f, hf, hfleet⟩ := his.fleet
  refine hm.valid hsnap ?_ ?_
  · rw [hfleet]
    exact hok.1 f hf
  · rw [his.quotas]
    exact hok.2

/-- An admissible object of the store is a candidate. -/
theorem candidatesIn_ne_nil {w : GPUWorkload} (hm : Mirrored Checked c)
    (hsettled : Settled c) (hw : c.store.lookup (key w) = some w)
    (hb : bucket w = some .queued) (hok : NsOk c.mem w.ns)
    (hadm : AdmissibleIn c.api c.mem w) : candidatesIn c.mem w.ns ≠ [] := by
  obtain ⟨f, hf, -⟩ := id hadm
  obtain ⟨inputs, hsnap⟩ : ∃ inputs, c.mem.snapshotForNamespace .entries w.ns = some inputs :=
    ⟨_, by rw [SchedulerState.snapshotForNamespace, hf]; rfl⟩
  exact List.ne_nil_of_mem ((mem_candidatesIn hm (snapshot_spec hsnap)
    (valid_of_nsOk hm hsnap hok)).mpr ⟨w, (mem_objectsIn hm.keyed_store).mpr
      ⟨hw, rfl, hb⟩, rfl, (admissibleIn_settled hsettled).mpr hadm⟩)

/-- A batch over a namespace that can be drained leaves nothing of it; without an
    admission it has called nothing. -/
theorem left_batch (order : MapOrder) {ns : String} {inputs : SchedulingInputs}
    (hm : Mirrored Checked c) (hsettled : Settled c) (hsnap : IsSnapshot c.mem ns inputs)
    (hv : Valid inputs) (hdrain : CanDrain maxAdmissionsPerCycle c.mem faults ns) {now : Int}
    (hnow : now ≠ 0) :
    Left c ns faults []
        (batch (calls order faults) now (maxAdmissions maxAdmissionsPerCycle) inputs c).state
      ∧ (admittedIDs (batch (calls order faults) now (maxAdmissions maxAdmissionsPerCycle)
          inputs c).iterations = [] →
        (batch (calls order faults) now (maxAdmissions maxAdmissionsPerCycle) inputs c).state
          = c) := by
  have hdrains := drains_of_canDrain hm hsnap hv hdrain
  have hleft := left_candidatesIn hm hsettled hsnap hv hdrain
  have hpatch : ∀ ws working w cap s, Valid working → Left c ns faults ws s → w ∈ ws →
      Eligible working w cap → (selectOneForAdmission working).selectedID = w.workloadID →
      (selectOneForAdmission working).victims = [] →
      ∃ s', perform (calls order faults) (selectOneForAdmission working) s = (s', .admitted)
        ∧ Left c ns faults (ws.filter (fun q => q.workloadID ≠ w.workloadID)) s' :=
    fun ws working w cap s _ h hw _ hid hvictims => h.perform hw hid hvictims
  obtain ⟨-, hdone⟩ := batch_drains (K := fun ws _ s => Left c ns faults ws s) hpatch hnow _ hv
    hdrains hleft
  exact ⟨hdone, batch_drains_nothing (K := fun ws _ s => Left c ns faults ws s) hpatch hv
    hdrains hleft⟩

/-- **THE CYCLE LEAVES NOTHING**: over namespaces that can be drained, at most one of them
    with candidates, the cycle admits everything admissible that the store has. -/
theorem cycle_leaves_nothing (order : MapOrder) (hm : Mirrored Checked c)
    (hsettled : Settled c) {now : String → Int} {namespaces : List String}
    (hnow : ∀ ns ∈ namespaces, now ns ≠ 0)
    (hdrain : ∀ ns ∈ namespaces, CanDrain maxAdmissionsPerCycle c.mem faults ns)
    (halone : ∀ ns ∈ namespaces, ∀ ns' ∈ namespaces, candidatesIn c.mem ns ≠ [] →
      candidatesIn c.mem ns' ≠ [] → ns = ns')
    (hcover : ∀ w, c.store.lookup (key w) = some w → bucket w = some .queued →
      NsOk c.mem w.ns → AdmissibleIn c.api c.mem w → w.ns ∈ namespaces) :
    Recedes c (runSchedulingCycle (calls order faults) maxAdmissionsPerCycle now namespaces c)
      ∧ NothingLeft c
        (runSchedulingCycle (calls order faults) maxAdmissionsPerCycle now namespaces c) := by
  induction namespaces with
  | nil => exact ⟨.refl c, fun w _ hw hb hok hadm => by cases hcover w hw hb hok hadm⟩
  | cons ns rest ih =>
    -- when the namespace has nothing to admit, the rest of the cycle starts from `c`
    have hgo : (∀ w, c.store.lookup (key w) = some w → bucket w = some .queued →
        NsOk c.mem w.ns → AdmissibleIn c.api c.mem w → w.ns ≠ ns) →
        Recedes c (runSchedulingCycle (calls order faults) maxAdmissionsPerCycle now rest c)
          ∧ NothingLeft c
            (runSchedulingCycle (calls order faults) maxAdmissionsPerCycle now rest c) := by
      intro hnone
      refine ih (fun n hn => hnow n (List.mem_cons_of_mem _ hn))
        (fun n hn => hdrain n (List.mem_cons_of_mem _ hn))
        (fun n hn n' hn' => halone n (List.mem_cons_of_mem _ hn) n' (List.mem_cons_of_mem _ hn'))
        (fun w hw hb hok hadm => ?_)
      exact (List.mem_cons.mp (hcover w hw hb hok hadm)).resolve_left (hnone w hw hb hok hadm)
    rw [runSchedulingCycle]
    cases hsnap : (calls order faults).snapshotForNamespace c ns with
    | none =>
        refine hgo (fun w _ _ _ hadm hns => ?_)
        obtain ⟨f, hf, -⟩ := hadm
        have hnone : c.mem.snapshotForNamespace order ns = none := hsnap
        rw [SchedulerState.snapshotForNamespace, ← hns, hf] at hnone
        cases hnone
    | some inputs =>
      have hsnap' : c.mem.snapshotForNamespace order ns = some inputs := hsnap
      have his := snapshot_spec hsnap'
      by_cases hempty : inputs.queuedWorkloads = []
      · simp only [if_pos hempty]
        refine hgo (fun w hw hb _ _ hns => ?_)
        have hmem : w.asQueued 0 ∈ inputs.queuedWorkloads :=
          (hm.image his).queued.mem_iff.mpr (List.mem_map.mpr ⟨w, (mem_objectsIn
            hm.keyed_store).mpr ⟨hw, hns, hb⟩, rfl⟩)
        rw [hempty] at hmem
        cases hmem
      · simp only [if_neg hempty]
        cases hval : validate inputs with
        | error e =>
            refine hgo (fun w _ _ hok _ hns => ?_)
            rw [hns] at hok
            rw [validate_ok_iff.mpr (valid_of_nsOk hm hsnap' hok)] at hval
            cases hval
        | ok u =>
          have hv : Valid inputs := validate_ok_iff.mp hval
          have hd := hdrain ns (List.mem_cons_self ..)
          obtain ⟨hdone, hsame⟩ := left_batch order hm hsettled his hv hd
            (hnow ns (List.mem_cons_self ..))
          simp only
          by_cases hnone : admittedIDs (batch (calls order faults) (now ns)
              (maxAdmissions maxAdmissionsPerCycle) inputs c).iterations = []
          · rw [if_pos hnone, hsame hnone]
            rw [hsame hnone] at hdone
            refine hgo (fun w hw hb _ hadm hns => ?_)
            have hapi := hsettled.known w hw (by rw [hb]; exact Option.some_ne_none _)
            cases hdone.covers w hapi hw hb hns hadm
          · rw [if_neg hnone]
            refine ⟨hdone.recedes, fun w hw hstored hb hok hadm => ?_⟩
            by_cases hns : w.ns = ns
            · cases hdone.covers w hw hstored hb hns hadm
            · -- another namespace with candidates, beside this one
              have hhere : candidatesIn c.mem ns ≠ [] := by
                intro hnil
                have hdrains := drains_of_canDrain hm his hv hd
                rw [hnil] at hdrains
                exact hnone (hdrains.batch_nil hv _ _ _)
              exact hns (halone w.ns (hcover w hstored hb hok hadm) ns (List.mem_cons_self ..)
                (candidatesIn_ne_nil hm hsettled hstored hb hok hadm) hhere)

end

/-! ## Runs -/

/-- Nothing created yet. -/
def start : Cluster := ⟨∅, [], ∅, newSchedulerState, false⟩

/-- **WHAT THE LOOP RELIES ON.**  Objects pass `Validate`, move forward, have their queue
    time, and a name is reused or removed only with nothing pending; a write frees no GPUs
    of a waiting capped tenant and offers no victim in silence.  A cycle starts with nothing
    but arrivals pending and can admit all candidates, in one namespace; or it leaves a
    workload that has stopped running, by preemption or otherwise, whose event will request
    the next cycle. -/
def Smooth (maxAdmissionsPerCycle : Int) (c : Cluster) : Label → Prop
  | .create w => Checked w.id w.spec ∧ pendingOf c (key w) = []
  | .update w => Dated w ∧ ∀ old ∈ c.api.lookup (key w),
      Forward old w ∧ (c.trigger = true ∨ Harmless c old (some w))
  | .delete k => pendingOf c k = [] ∧ ∀ old ∈ c.api.lookup k,
      c.trigger = true ∨ Harmless c old none
  | .cycle order faults now namespaces =>
      (ArrivalsOnly c ∧ (∀ ns ∈ namespaces, CanDrain maxAdmissionsPerCycle c.mem faults ns)
        ∧ ∀ ns ∈ namespaces, ∀ ns' ∈ namespaces, candidatesIn c.mem ns ≠ [] →
          candidatesIn c.mem ns' ≠ [] → ns = ns')
      ∨ Departing (runSchedulingCycle (calls order faults) maxAdmissionsPerCycle now namespaces
        { c with trigger := false })
  | _ => True

instance (c : Cluster) : Decidable (ArrivalsOnly c) :=
  inferInstanceAs (Decidable (∀ x ∈ c.pending, _ ∧ _))

/-- A departing object is one of the store. -/
theorem departing_iff (c : Cluster) :
    (∃ k ∈ c.store.keys, (∃ s ∈ c.store.lookup k, s.phase = .running)
      ∧ ∀ w ∈ c.api.lookup k, w.phase ≠ .running) ↔ Departing c := by
  constructor
  · rintro ⟨k, -, h⟩
    exact ⟨k, h⟩
  · rintro ⟨k, ⟨s, hs, hrunning⟩, hleft⟩
    exact ⟨k, AList.lookup_isSome.mp (Option.isSome_iff_exists.mpr ⟨s, hs⟩), ⟨s, hs, hrunning⟩,
      hleft⟩

instance (c : Cluster) : Decidable (Departing c) := decidable_of_iff _ (departing_iff c)

instance (c : Cluster) (w : GPUWorkload) : Decidable (tenantWaits c w) :=
  inferInstanceAs (Decidable (∃ q ∈ values c.api, _ ∧ _ ∧ _))

instance (c : Cluster) (w : GPUWorkload) : Decidable (profileWaits c w) :=
  inferInstanceAs (Decidable (∃ q ∈ values c.api, _ ∧ _ ∧ _))

instance (c : Cluster) (old : GPUWorkload) (new : Option GPUWorkload) :
    Decidable (leavesInSilence c old new) :=
  inferInstanceAs (Decidable (_ ∧ _ ∧ ¬(_ ∧ _)))

instance (old : GPUWorkload) (new : Option GPUWorkload) : Decidable (startsRunning old new) :=
  inferInstanceAs (Decidable (_ ∧ _))

instance (st : SchedulerState) (ns tenant : String) : Decidable (capped st ns tenant) :=
  inferInstanceAs (Decidable (∃ q ∈ (GoMaps.inner st.quotas ns).lookup tenant, q.maxGPUs ≠ 0))

instance (c : Cluster) (old : GPUWorkload) (new : Option GPUWorkload) :
    Decidable (Harmless c old new) :=
  inferInstanceAs (Decidable ((_ → _ → _) ∧ (_ → _)))

instance (maxAdmissionsPerCycle : Int) (st : SchedulerState) (faults : Faults) (ns : String) :
    Decidable (CanDrain maxAdmissionsPerCycle st faults ns) :=
  inferInstanceAs (Decidable (_ ∧ _ ∧ _))

instance (maxAdmissionsPerCycle : Int) (c : Cluster) (a : Label) :
    Decidable (Smooth maxAdmissionsPerCycle c a) :=
  match a with
  | .create _ => inferInstanceAs (Decidable (_ ∧ _ = _))
  | .update _ => inferInstanceAs (Decidable (_ ∧ _))
  | .delete _ => inferInstanceAs (Decidable (_ ∧ _))
  | .cycle _ _ _ _ => inferInstanceAs (Decidable ((_ ∧ _ ∧ _) ∨ _))
  | .deliver _ _ | .pool _ _ | .quota _ _ => inferInstanceAs (Decidable True)

section
variable {c c' : Cluster} {w old : GPUWorkload} {maxAdmissionsPerCycle : Int}

theorem good_update {P : SpecProp} (hold : Good P old)
    (hsame : w.ns = old.ns ∧ w.name = old.name ∧ w.spec = old.spec) (hd : Dated w) :
    Good P w := by
  obtain ⟨hns, hname, hspec⟩ := hsame
  refine ⟨?_, hd, ?_⟩
  · rw [accepted, hns, hname, hspec]
    exact hold.accepted
  · rw [GPUWorkload.id, hns, hname, hspec]
    exact hold.spec

/-- A namespace with something admissible in its queue is visited. -/
theorem mem_namespaces (hm : Mirrored Checked c) (hw : c.store.lookup (key w) = some w)
    (hb : bucket w = some .queued)
    (hadm : AdmissibleIn c.api c.mem w) : w.ns ∈ c.mem.namespacesWithQueueAndFleet := by
  obtain ⟨f, hf, -⟩ := hadm
  have hslot : (inner c.mem.queued w.ns).lookup w.id = some (w.asQueued 0) := by
    have hs : (inner c.mem.queued w.ns).lookup w.id = _ :=
      congrArg Slot.queued (hm.slots w.ns w.id)
    have hlook : c.store.lookup (w.ns, w.id) = some w := hw
    rw [hs, hlook]
    exact (slot_queued w).trans (if_pos hb)
  have hmem := AList.mem_lookup_iff.mp hslot
  rw [SchedulerState.namespacesWithQueueAndFleet, List.mem_filter, Bool.and_eq_true]
  refine ⟨?_, ?_, ?_⟩
  · by_contra hnot
    have hnone : c.mem.queued.lookup w.ns = none := AList.lookup_eq_none.mpr hnot
    rw [GoMaps.inner, hnone] at hmem
    cases hmem
  · rw [Bool.not_eq_true', List.isEmpty_eq_false_iff]
    exact List.ne_nil_of_mem hmem
  · rw [Option.mem_def.mp hf]
    rfl

/-- **STEP**: a smooth step keeps the mirror and keeps the loop awake. -/
theorem step_awake {a : Label} (h : Mirrored Checked c ∧ Awake c)
    (hC : Smooth maxAdmissionsPerCycle c a)
    (hs : step maxAdmissionsPerCycle c a = some c') : Mirrored Checked c' ∧ Awake c' := by
  obtain ⟨hm, ha⟩ := h
  cases a with
  | create w =>
      obtain ⟨⟨hacc, hnone, hphase, -, -⟩, rfl⟩ := step_create hs
      obtain ⟨hchecked, hnil⟩ := hC
      have hb : bucket w = none := by
        rw [bucket, Change.bucket]
        simp only [hphase]
        split_ifs <;> rfl
      have hpos : 0 ≤ w.spec.gpuCount := by
        have := hacc.2.2.2
        omega
      exact ⟨hm.create ⟨hacc, fun hne => absurd hb hne, hchecked⟩ hnone hnil,
        (writes_create hm hnone hnil hb hpos).awake hm (fun o ho => (by cases ho)) ha⟩
  | update w =>
      obtain ⟨old, hold, hsame, rfl⟩ := step_update hs
      obtain ⟨hdated, hrest⟩ := hC
      obtain ⟨hf, hharm⟩ := hrest old hold
      refine ⟨hm.update (good_update (hm.api _ old hold).2 hsame hdated) hold hf,
        (writes_update hm hold hsame hf).awake hm ?_ ha⟩
      rintro o ⟨⟩
      exact hharm
  | delete k =>
      obtain ⟨w, hw, rfl⟩ := Option.map_eq_some_iff.mp hs
      obtain ⟨hnil, hharm⟩ := hC
      obtain rfl : key w = k := hm.keyed_api k w hw
      refine ⟨hm.remove hw hnil, (writes_remove hm hw).awake hm ?_ ha⟩
      rintro o ⟨⟩
      exact hharm w hw
  | deliver i now => exact ⟨hm.deliver hs, awake_deliver hm hs ha⟩
  | pool ns listed =>
      obtain rfl := Option.some.inj hs
      exact ⟨hm.frame _ (fun _ _ => slotAt_handlePoolEvent c.mem listed),
        awake_of_event (handlePoolEvent_requests c.mem ns listed) ha⟩
  | quota q deleted =>
      obtain rfl := Option.some.inj hs
      exact ⟨hm.frame _ (fun _ _ => slotAt_handleQuotaEvent c.mem q deleted),
        awake_of_event (handleQuotaEvent_requests c.mem q deleted) ha⟩
  | cycle order faults now namespaces =>
      obtain ⟨⟨-, hperm, hnow⟩, rfl⟩ := step_cycle hs
      have hm₁ : Mirrored Checked { c with trigger := false } := hm.frame false (fun _ _ => rfl)
      have hm₂ : Mirrored Checked (runSchedulingCycle (calls order faults) maxAdmissionsPerCycle now
          namespaces { c with trigger := false }) :=
        runSchedulingCycle_invariant (I := Mirrored Checked)
        (fun ns name s h => Mirrored.markPreempted h faults ns name) (fun _ _ h => h)
        (fun _ _ h => h) (fun ns name _ _ s h => Mirrored.patchAdmitted h faults ns name)
        maxAdmissionsPerCycle hnow hm₁
      rcases hC with ⟨harrivals, hdrain, halone⟩ | hdeparting
      · have hsettled : Settled { c with trigger := false } := settled_of_arrivals hm₁ harrivals
        obtain ⟨hrecedes, hnothing⟩ := cycle_leaves_nothing order hm₁ hsettled hnow hdrain halone
          (fun w hw hb _ hadm => hperm.mem_iff.mpr (mem_namespaces hm hw hb hadm))
        refine ⟨hm₂, Or.inr (Or.inr (fun w hw hok hadm => ?_))⟩
        -- what waits afterwards has waited before
        have hstored := hsettled.waiting w ⟨hrecedes.queued w hw.api hw.queued, hw.queued,
          hrecedes.store ▸ hw.known⟩
        rw [hrecedes.mem] at hok
        exact hnothing w hw.api hstored hw.queued hok (hrecedes.admissibleIn hadm)
      · exact ⟨hm₂, Or.inr (Or.inl hdeparting)⟩

end

/-- A workload for one device, as it is created. -/
def arrival (name : String) : GPUWorkload :=
  { ns := "ns", name := name, annotations := ∅, deletionTimestamp := none
    spec := ⟨"team", 1, 1, 40, "h100_sxm", 5, .training⟩, phase := .unset, queuedAt := none }

/-- Two workloads are created, queued, and delivered; a pool with two free devices follows,
    and then one cycle, whose admissions come back. -/
def twoThenCycle (admissions : Nat) : List Label :=
  [.create (arrival "a"), .create (arrival "b"),
    .update { arrival "a" with phase := .queued, queuedAt := some 1 },
    .update { arrival "b" with phase := .queued, queuedAt := some 2 },
    .deliver 2 3, .deliver 1 4,
    .pool "ns" (some [⟨"ns", "pool", 1, 2, 80, "h100_sxm", none, 2⟩]),
    .cycle .entries .none (fun _ => 5) ["ns"]]
    ++ List.replicate admissions (.deliver 0 6)

/-- A workload that outranks the others. -/
def urgent : GPUWorkload :=
  { arrival "u" with spec := ⟨"team", 9, 1, 40, "h100_sxm", 5, .training⟩ }

/-- A workload is admitted to the only device and runs; an urgent one arrives and a cycle
    preempts the first for it, and the next cycle finds an empty queue. -/
def preemptThenIdle : List Label :=
  [.create (arrival "a"), .update { arrival "a" with phase := .queued, queuedAt := some 1 },
    .deliver 1 2, .pool "ns" (some [⟨"ns", "pool", 1, 1, 80, "h100_sxm", none, 1⟩]),
    .cycle .entries .none (fun _ => 3) ["ns"], .deliver 0 4,
    .update { arrival "a" with phase := .running, queuedAt := some 1 }, .deliver 0 5,
    .pool "ns" (some [⟨"ns", "pool", 1, 1, 80, "h100_sxm", none, 0⟩]),
    .create urgent, .update { urgent with phase := .queued, queuedAt := some 6 }, .deliver 1 7,
    .cycle .entries .none (fun _ => 8) ["ns"], .deliver 0 9, .deliver 0 9,
    .cycle .entries .none (fun _ => 10) []]

/-- What an idle loop is asked: the channel, the pending events, and the selection on the
    validated snapshot. -/
def idleReport (c : Cluster) : Bool × Bool × Option (Bool × String) :=
  (c.trigger, c.pending.isEmpty,
    (c.mem.snapshotForNamespace .entries "ns").map (fun inputs =>
      (decide (validate inputs = .ok ()), (selectOneForAdmission inputs).selectedID)))

/-- The report of an idle loop with a validated snapshot of the namespace. -/
theorem idleReport_eq {c : Cluster} {id : String}
    (h : idleReport c = (false, true, some (true, id))) :
    c.trigger = false ∧ c.pending = []
      ∧ ∃ inputs, c.mem.snapshotForNamespace .entries "ns" = some inputs
        ∧ validate inputs = .ok () ∧ (selectOneForAdmission inputs).selectedID = id := by
  obtain ⟨htrigger, hrest⟩ := Prod.mk.inj h
  obtain ⟨hpending, hsnap⟩ := Prod.mk.inj hrest
  obtain ⟨inputs, hinputs, hselect⟩ := Option.map_eq_some_iff.mp hsnap
  obtain ⟨hvalid, hid⟩ := Prod.mk.inj hselect
  exact ⟨htrigger, List.isEmpty_iff.mp hpending, inputs, hinputs, of_decide_eq_true hvalid, hid⟩

end GpuWakeup
