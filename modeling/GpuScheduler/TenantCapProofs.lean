import GpuScheduler.StepRunsProofs
import GpuScheduler.ClusterProofs

/-! # The tenant cap over whole runs

    A cycle checks the cap against the scheduled and running workloads of the
    scheduler's state; what it admits is written to the API and comes back to the state
    later.  The cap is kept in every run in which each cycle starts from a state that
    counts at least what the API holds for the tenant (`cap_of_runs`); a cycle that
    starts before an earlier admission has come back admits past it. -/

namespace GpuTenantCap

open GoStrings GoMaps StepRuns GpuInputs GpuFairness GpuSelection GpuCycle GpuWorkload
  GpuSchedulerState GpuCluster

/-- The GPUs one object of the API counts for a tenant of a namespace. -/
def gpusOf (ns tenant : String) (e : Sigma fun _ : Key => GPUWorkload) : Int :=
  if e.1.1 = ns ∧ e.2.spec.tenant = tenant ∧ live e.2 then e.2.spec.gpuCount else 0

/-- The GPUs of a tenant whose API phase is `Scheduled` or `Running`. -/
def liveGPUs (ns tenant : String) (api : GoMap Key GPUWorkload) : Int :=
  (api.entries.map (gpusOf ns tenant)).sum

/-- The GPUs the scheduler's state counts for the tenant. -/
def countedGPUs (ns tenant : String) (st : SchedulerState) : Int :=
  tenantGPUs tenant (values (inner st.scheduled ns) ++ values (inner st.running ns))

/-! ## The steps considered -/

/-- Creations, cycles and deliveries in write order, with the tenant's quota fixed; other
    components change phases, but only the scheduler admits. -/
def Allowed (ns tenant : String) (c : Cluster) : Label → Prop
  | .update w => ∀ old ∈ c.api.lookup (key w), live w → live old
  | .delete _ => False
  | .deliver i _ => i = 0
  | .quota q deleted =>
      lookupIn (handleQuotaEvent c.mem q deleted).1.quotas ns tenant
        = lookupIn c.mem.quotas ns tenant
  | _ => True

/-- A cycle starts from a state that counts at least what the API holds. -/
def Counted (ns tenant : String) (c : Cluster) (a : Label) : Prop :=
  Allowed ns tenant c a
    ∧ match a with
      | .cycle _ _ _ _ => liveGPUs ns tenant c.api ≤ countedGPUs ns tenant c.mem
      | _ => True

instance (ns tenant : String) (c : Cluster) (a : Label) : Decidable (Allowed ns tenant c a) :=
  match a with
  | .update _ => inferInstanceAs (Decidable (∀ old ∈ c.api.lookup _, _ → _))
  | .delete _ => inferInstanceAs (Decidable False)
  | .deliver _ _ => inferInstanceAs (Decidable (_ = _))
  | .quota _ _ => inferInstanceAs (Decidable (_ = _))
  | .create _ | .pool _ _ | .cycle _ _ _ _ => inferInstanceAs (Decidable True)

instance (ns tenant : String) (c : Cluster) (a : Label) : Decidable (Counted ns tenant c a) :=
  match a with
  | .cycle _ _ _ _ => inferInstanceAs (Decidable (_ ∧ _ ≤ _))
  | .create _ | .update _ | .delete _ | .deliver _ _ | .pool _ _ | .quota _ _ =>
      inferInstanceAs (Decidable (_ ∧ True))

/-! ## Agreement -/

/-- A queued record agrees with the API object of its key on what the cap reads. -/
def RecordOf (c : Cluster) (ns : String) (q : QueuedWorkload) : Prop :=
  ∃ w, c.api.lookup (ns, q.workloadID) = some w
    ∧ q.tenant = w.spec.tenant ∧ q.gpuCount = w.spec.gpuCount

/-- Everything the scheduler knows or will be told agrees with the API on identities and
    specifications. -/
structure Agrees (c : Cluster) : Prop where
  api : ∀ k w, c.api.lookup k = some w → key w = k ∧ accepted w
  pending : ∀ x ∈ c.pending, ∃ w, c.api.lookup x.key = some w ∧ x.workload.spec = w.spec
  queued : ∀ ns id q, lookupIn c.mem.queued ns id = some q →
    q.workloadID = id ∧ RecordOf c ns q

section
variable {c : Cluster} {w : GPUWorkload}

/-- Agreement survives a write that keeps the specification of a known object. -/
theorem Agrees.put (hc : Agrees c) (hw : accepted w)
    (hspec : ∀ old, c.api.lookup (key w) = some old → w.spec = old.spec) :
    Agrees (c.put w) := by
  -- every lookup that succeeded still does, with the same specification
  have hkeep : ∀ k old, c.api.lookup k = some old →
      ∃ w', (c.put w).api.lookup k = some w' ∧ w'.spec = old.spec := by
    intro k old hold
    by_cases hk : k = key w
    · subst hk
      exact ⟨w, lookup_put_self c w, hspec old hold⟩
    · exact ⟨old, (lookup_put_ne c hk).trans hold, rfl⟩
  refine ⟨fun k v hv => ?_, fun x hx => ?_, fun ns id q hq => ?_⟩
  · by_cases hk : k = key w
    · subst hk
      rw [lookup_put_self] at hv
      obtain rfl := Option.some.inj hv
      exact ⟨rfl, hw⟩
    · rw [lookup_put_ne c hk] at hv
      exact hc.api k v hv
  · rcases List.mem_append.mp hx with hx | hx
    · obtain ⟨old, hold, heq⟩ := hc.pending x hx
      obtain ⟨w', hw', hs⟩ := hkeep _ old hold
      exact ⟨w', hw', heq.trans hs.symm⟩
    · obtain rfl := List.mem_singleton.mp hx
      exact ⟨w, lookup_put_self c w, rfl⟩
  · obtain ⟨hid, old, hold, ht, hg⟩ := hc.queued ns id q hq
    obtain ⟨w', hw', hs⟩ := hkeep _ old hold
    exact ⟨hid, w', hw', by rw [hs]; exact ht, by rw [hs]; exact hg⟩

/-- A record stays a record over a write that keeps the specification. -/
theorem RecordOf.put {ns : String} {q : QueuedWorkload} (hq : RecordOf c ns q)
    (hspec : ∀ old, c.api.lookup (key w) = some old → w.spec = old.spec) :
    RecordOf (c.put w) ns q := by
  obtain ⟨old, hold, ht, hg⟩ := hq
  by_cases hk : (ns, q.workloadID) = key w
  · rw [hk] at hold
    rw [RecordOf, hk, lookup_put_self]
    exact ⟨w, rfl, by rw [hspec old hold]; exact ht, by rw [hspec old hold]; exact hg⟩
  · rw [RecordOf, lookup_put_ne c hk]
    exact ⟨old, hold, ht, hg⟩

end

/-- A queued record is made by the last change of its workload. -/
theorem queued_apply {s : Slot} {cg : Change} {q : QueuedWorkload}
    (h : (s.apply cg).queued = some q) : q = cg.workload.asQueued cg.now := by
  rw [Slot.apply] at h
  split at h
  · cases h
  · exact (Option.some.inj h).symm
  · cases h
  · cases h

/-- Agreement survives a delivery: the new record is made from the delivered version. -/
theorem Agrees.deliver {c t : Cluster} {i : Nat} {now : Int} (hc : Agrees c)
    (h : c.deliver i now = some t) : Agrees t := by
  obtain ⟨x, hx, rfl⟩ := Option.map_eq_some_iff.mp h
  have hmem : x ∈ c.pending := List.mem_of_getElem? hx
  refine ⟨hc.api, fun y hy => ?_, fun ns id q hq => ?_⟩
  · rcases List.mem_append.mp hy with hy | hy
    · exact hc.pending y (List.mem_of_mem_take (List.mem_of_mem_filter hy))
    · exact hc.pending y (List.mem_of_mem_drop hy)
  · change lookupIn (react c x now).1.queued ns id = some q at hq
    rcases react_fst c x now with hsame | happly
    · rw [hsame] at hq
      exact hc.queued ns id q hq
    · rw [happly] at hq
      by_cases hk : x.workload.ns = ns ∧ x.workload.id = id
      · obtain ⟨rfl, rfl⟩ := hk
        have hslot := congrArg Slot.queued
          (slotAt_applyWorkloadToState_self c.mem ⟨x.workload, x.deleted, now⟩)
        obtain rfl := queued_apply (hslot.symm.trans hq)
        obtain ⟨w, hw, hspec⟩ := hc.pending x hmem
        exact ⟨rfl, w, hw, by rw [← hspec]; rfl, by rw [← hspec]; rfl⟩
      · have hslot := congrArg Slot.queued
          (slotAt_applyWorkloadToState_ne c.mem ⟨x.workload, x.deleted, now⟩ hk)
        exact hc.queued ns id q (hslot.symm.trans hq)

/-! ## The GPUs of a tenant -/

section
variable {ns tenant : String} {c : Cluster} {w old : GPUWorkload}

theorem liveGPUs_put_known (ns tenant : String) (h : c.api.lookup (key w) = some old) :
    liveGPUs ns tenant (c.put w).api
      = liveGPUs ns tenant c.api - gpusOf ns tenant ⟨key w, old⟩ + gpusOf ns tenant ⟨key w, w⟩ :=
  sum_entries_insert h w (gpusOf ns tenant)

theorem liveGPUs_put_new (ns tenant : String) (h : c.api.lookup (key w) = none) :
    liveGPUs ns tenant (c.put w).api
      = gpusOf ns tenant ⟨key w, w⟩ + liveGPUs ns tenant c.api := by
  have hentries : (c.put w).api.entries = ⟨key w, w⟩ :: c.api.entries :=
    AList.entries_insert_of_notMem (AList.lookup_eq_none.mp h)
  rw [liveGPUs, hentries, List.map_cons, List.sum_cons]
  rfl

theorem gpusOf_nonneg {k : Key} (hw : accepted w) : 0 ≤ gpusOf ns tenant ⟨k, w⟩ := by
  have hpos : 1 ≤ w.spec.gpuCount := hw.2.2.2
  rw [gpusOf]
  split_ifs
  · exact le_trans (by decide) hpos
  · exact le_refl _

/-- An object that is not live counts nothing. -/
theorem gpusOf_not_live {k : Key} (h : live w = false) : gpusOf ns tenant ⟨k, w⟩ = 0 := by
  rw [gpusOf, if_neg]
  rintro ⟨-, -, hl⟩
  rw [h] at hl
  cases hl

/-- An object counts at most its GPUs, and only for its own tenant and namespace. -/
theorem gpusOf_le {k : Key} (hw : accepted w) :
    gpusOf ns tenant ⟨k, w⟩
      ≤ if k.1 = ns ∧ w.spec.tenant = tenant then w.spec.gpuCount else 0 := by
  have hpos : 1 ≤ w.spec.gpuCount := hw.2.2.2
  rw [gpusOf]
  by_cases h : k.1 = ns ∧ w.spec.tenant = tenant
  · rw [if_pos h]
    split_ifs
    · exact le_refl _
    · exact le_trans (by decide) hpos
  · rw [if_neg h, if_neg (fun hl => h ⟨hl.1, hl.2.1⟩)]

/-- A write that does not bring an object to life counts no more than before. -/
theorem gpusOf_mono (ns tenant : String) (k : Key) (hspec : w.spec = old.spec) (hold : accepted old)
    (hlive : live w → live old) : gpusOf ns tenant ⟨k, w⟩ ≤ gpusOf ns tenant ⟨k, old⟩ := by
  cases hw : live w with
  | false =>
      rw [gpusOf_not_live hw]
      exact gpusOf_nonneg hold
  | true =>
      rw [gpusOf, gpusOf]
      simp only [hw, hlive hw, hspec]
      exact le_refl _

end

/-! ## A cycle -/

/-- The state of the API while a cycle works on a fixed scheduler state: it agrees, and
    the tenant is within a bound. -/
structure Within (ns tenant : String) (st : SchedulerState) (bound : Int) (c : Cluster) :
    Prop where
  agrees : Agrees c
  mem : c.mem = st
  bound : liveGPUs ns tenant c.api ≤ bound

section
variable {ns tenant : String} {st : SchedulerState} {bound : Int} {c : Cluster}

/-- A status write to a known object, as the calls make it. -/
private theorem agrees_phase (hc : Agrees c) {k : Key} {w : GPUWorkload}
    (hw : c.api.lookup k = some w) (phase : Phase) :
    Agrees (c.put { w with phase := phase })
      ∧ (∀ ns' q, RecordOf c ns' q → RecordOf (c.put { w with phase := phase }) ns' q) := by
  obtain ⟨rfl, hacc⟩ := hc.api k w hw
  have hspec : ∀ old, c.api.lookup (key { w with phase := phase }) = some old →
      w.spec = old.spec := by
    intro old hold
    rw [Option.some.inj (hw.symm.trans hold)]
  exact ⟨hc.put hacc hspec, fun ns' q hq => hq.put hspec⟩

/-- Marking a victim keeps every bound and every record. -/
theorem Within.markPreempted (h : Within ns tenant st bound c) (faults : Faults)
    (a b : String) :
    Within ns tenant st bound (GpuCluster.markPreempted faults a b c).1
      ∧ ∀ ns' q, RecordOf c ns' q →
        RecordOf (GpuCluster.markPreempted faults a b c).1 ns' q := by
  rcases markPreempted_cases faults a b c with hsame | ⟨w, hw, hput⟩
  · rw [hsame]
    exact ⟨h, fun _ _ hq => hq⟩
  · rw [hput]
    obtain ⟨hagree, hrec⟩ := agrees_phase h.agrees hw .preempted
    obtain ⟨hk, hacc⟩ := h.agrees.api _ w hw
    refine ⟨⟨hagree, h.mem, ?_⟩, hrec⟩
    have hold : c.api.lookup (key { w with phase := .preempted }) = some w := by
      rw [← hk] at hw
      exact hw
    have hzero : gpusOf ns tenant ⟨key w, { w with phase := .preempted }⟩ = 0 :=
      gpusOf_not_live rfl
    have hsum := liveGPUs_put_known ns tenant hold
    have hnonneg : 0 ≤ gpusOf ns tenant ⟨key w, w⟩ := gpusOf_nonneg hacc
    have hb := h.bound
    change liveGPUs ns tenant (c.put { w with phase := .preempted }).api
      = _ - gpusOf ns tenant ⟨key w, w⟩ + gpusOf ns tenant ⟨key w, _⟩ at hsum
    omega

/-- Admitting a queued record adds at most its GPUs, to its own tenant. -/
theorem Within.patchAdmitted (h : Within ns tenant st bound c) {ns' a b : String}
    {q : QueuedWorkload} (hq : RecordOf c ns' q) (hkey : workloadKey q.workloadID = some (a, b))
    {faults : Faults} {c' : Cluster} (hpatch : GpuCluster.patchAdmitted faults a b c = (c', true)) :
    Within ns tenant st (bound + if ns' = ns ∧ q.tenant = tenant then q.gpuCount else 0) c'
      ∧ ∀ q', RecordOf c ns' q' → RecordOf c' ns' q' := by
  obtain ⟨w, hw, ht, hg⟩ := hq
  obtain ⟨hk, hacc⟩ := h.agrees.api _ w hw
  have hns : w.ns = ns' := congrArg Prod.fst hk
  have hid : w.id = q.workloadID := congrArg Prod.snd hk
  have hpos : 1 ≤ w.spec.gpuCount := hacc.2.2.2
  -- the ID parses back to the key of the record
  have hab : (w.ns, w.name) = (a, b) := by
    have hparse := workloadKey_of_accepted hacc
    rw [hid, hkey] at hparse
    exact (Option.some.inj hparse).symm
  have hlookup : c.api.lookup (a, workloadID a b) = some w := by
    obtain ⟨rfl, rfl⟩ := Prod.mk.inj hab
    show c.api.lookup (w.ns, w.id) = some w
    rw [hid, hns]
    exact hw
  rcases patchAdmitted_cases faults a b c with hfail | ⟨w', hw', hcase⟩
  · rw [hfail] at hpatch
    cases (Prod.mk.inj hpatch).2
  · obtain rfl := Option.some.inj (hlookup.symm.trans hw')
    rcases hcase with ⟨-, hsame⟩ | ⟨hphase, hput⟩
    · rw [hsame] at hpatch
      obtain ⟨rfl, -⟩ := Prod.mk.inj hpatch
      refine ⟨⟨h.agrees, h.mem, le_trans h.bound ?_⟩, fun _ hq => hq⟩
      split_ifs
      · rw [hg]
        omega
      · omega
    · rw [hput] at hpatch
      obtain ⟨rfl, -⟩ := Prod.mk.inj hpatch
      obtain ⟨hagree, hrec⟩ := agrees_phase h.agrees hw .scheduled
      refine ⟨⟨hagree, h.mem, ?_⟩, hrec ns'⟩
      have hold : c.api.lookup (key { w with phase := .scheduled }) = some w := by
        rw [← hk] at hw
        exact hw
      have hsum := liveGPUs_put_known ns tenant hold
      change liveGPUs ns tenant (c.put { w with phase := .scheduled }).api
        = _ - gpusOf ns tenant ⟨key w, w⟩ + gpusOf ns tenant ⟨key w, _⟩ at hsum
      have hzero : gpusOf ns tenant ⟨key w, w⟩ = 0 :=
        gpusOf_not_live (by rw [live, hphase]; rfl)
      have hle : gpusOf ns tenant ⟨key w, { w with phase := .scheduled }⟩
          ≤ if ns' = ns ∧ q.tenant = tenant then q.gpuCount else 0 := by
        rw [ht, hg, ← hns]
        exact gpusOf_le (show accepted { w with phase := .scheduled } from hacc)
      have hb := h.bound
      omega

end

section
variable {ns tenant : String} {st : SchedulerState} {quota : TenantQuota}

/-- What relates the working copy of a namespace to the API during a batch. -/
structure Tracks (ns tenant : String) (st : SchedulerState) (cap : Int) (ns' : String)
    (working : SchedulingInputs) (c : Cluster) : Prop where
  cap : Within ns tenant st cap c
  counted : ns' = ns → Within ns tenant st (committed working tenant) c
  records : ∀ q ∈ working.queuedWorkloads, RecordOf c ns' q
  quotas : working.tenantQuotas = inner st.quotas ns'

variable {ns' : String} {working : SchedulingInputs} {c : Cluster}

theorem Tracks.markPreempted {cap : Int} (h : Tracks ns tenant st cap ns' working c)
    (faults : Faults) (a b : String) :
    Tracks ns tenant st cap ns' working (GpuCluster.markPreempted faults a b c).1 :=
  ⟨(h.cap.markPreempted faults a b).1, fun hns => ((h.counted hns).markPreempted faults a b).1,
    fun q hq => (h.cap.markPreempted faults a b).2 ns' q (h.records q hq), h.quotas⟩

/-- An admission from the working copy stays within the cap: the copy counts what the
    API holds, and the selection checked the cap against the copy. -/
theorem Tracks.patchAdmitted (hq : lookupIn st.quotas ns tenant = some quota)
    (hpos : 0 < quota.maxGPUs) (h : Tracks ns tenant st quota.maxGPUs ns' working c)
    {w : QueuedWorkload} {cap : ProfileFreeCapacity} (hw : w ∈ working.queuedWorkloads)
    (he : Eligible working w cap) {a b : String} (hkey : workloadKey w.workloadID = some (a, b))
    {faults : Faults} {c' : Cluster} (hpatch : GpuCluster.patchAdmitted faults a b c = (c', true)) :
    Within ns tenant st quota.maxGPUs c'
      ∧ (ns' = ns → Within ns tenant st
        (committed working tenant + if w.tenant = tenant then w.gpuCount else 0) c')
      ∧ ∀ q ∈ working.queuedWorkloads, RecordOf c' ns' q := by
  have hrec := h.records w hw
  have hrecords : ∀ q ∈ working.queuedWorkloads, RecordOf c' ns' q :=
    fun q hq => (h.cap.patchAdmitted hrec hkey hpatch).2 q (h.records q hq)
  by_cases hns : ns' = ns
  · have hc' := ((h.counted hns).patchAdmitted hrec hkey hpatch).1
    simp only [hns, true_and] at hc'
    refine ⟨⟨hc'.agrees, hc'.mem, ?_⟩, fun _ => hc', hrecords⟩
    by_cases ht : w.tenant = tenant
    · have hlookup : working.tenantQuotas.lookup w.tenant = some quota := by
        rw [h.quotas, hns, ht]
        exact hq
      have hle := le_maxGPUs_of_not_exceeds he.underCap hlookup hpos
      rw [ht] at hle
      refine le_trans hc'.bound ?_
      rw [if_pos ht]
      exact hle
    · -- another tenant's admission leaves this tenant's GPUs alone
      have hc'' := (h.cap.patchAdmitted hrec hkey hpatch).1.bound
      rw [if_neg (fun hand => ht hand.2), Int.add_zero] at hc''
      exact hc''
  · have hc' := (h.cap.patchAdmitted hrec hkey hpatch).1
    rw [if_neg (fun hand => hns hand.1), Int.add_zero] at hc'
    exact ⟨hc', fun heq => absurd heq hns, hrecords⟩

/-- A failed admission writes nothing. -/
private theorem patchAdmitted_failed {faults : Faults} {a b : String} {c : Cluster}
    (h : (GpuCluster.patchAdmitted faults a b c).2 = false) :
    (GpuCluster.patchAdmitted faults a b c).1 = c := by
  rcases patchAdmitted_cases faults a b c with hsame | ⟨w', -, ⟨-, hok⟩ | ⟨-, hok⟩⟩
  · rw [hsame]
  · rw [hok] at h
    cases h
  · rw [hok] at h
    cases h

/-- An iteration that fails keeps every bound. -/
theorem Within.perform_failed {bound : Int} (h : Within ns tenant st bound c)
    {order : MapOrder} {faults : Faults} {sel : Selection} {c' : Cluster} {verdict : Verdict}
    (hperform : perform (calls order faults) sel c = (c', verdict))
    (hne : verdict ≠ .admitted) : Within ns tenant st bound c' := by
  refine (perform_cases (I := Within ns tenant st bound)
    (fun a b s hs => (hs.markPreempted faults a b).1) (fun _ _ hs => hs) (fun _ _ hs => hs)
    (fun a b _ _ s hs hfail => ?_) h hperform).1 hne
  change Within ns tenant st bound (GpuCluster.patchAdmitted faults a b s).1
  rw [patchAdmitted_failed hfail]
  exact hs

/-- An iteration that admits stays within the cap. -/
theorem Tracks.perform (hq : lookupIn st.quotas ns tenant = some quota)
    (hpos : 0 < quota.maxGPUs) (h : Tracks ns tenant st quota.maxGPUs ns' working c)
    {order : MapOrder} {faults : Faults} {sel : Selection} {c' : Cluster}
    {w : QueuedWorkload} {cap : ProfileFreeCapacity} (hw : w ∈ working.queuedWorkloads)
    (hid : sel.selectedID = w.workloadID) (he : Eligible working w cap)
    (hperform : perform (calls order faults) sel c = (c', .admitted)) :
    Within ns tenant st quota.maxGPUs c'
      ∧ (ns' = ns → Within ns tenant st
        (committed working tenant + if w.tenant = tenant then w.gpuCount else 0) c')
      ∧ ∀ q ∈ working.queuedWorkloads, RecordOf c' ns' q := by
  obtain ⟨s₁, a, b, hs₁, -, hkey, hpatch⟩ :=
    (perform_cases (I := Tracks ns tenant st quota.maxGPUs ns' working)
      (fun a b s hs => hs.markPreempted faults a b) (fun _ _ hs => hs) (fun _ _ hs => hs)
      (fun a b _ _ s hs hfail => by
        change Tracks ns tenant st quota.maxGPUs ns' working
          (GpuCluster.patchAdmitted faults a b s).1
        rw [patchAdmitted_failed hfail]
        exact hs) h hperform).2 rfl
  rw [hid] at hkey
  exact hs₁.patchAdmitted hq hpos hw he hkey hpatch

/-- **A BATCH STAYS WITHIN THE CAP**. -/
theorem Tracks.batch (hq : lookupIn st.quotas ns tenant = some quota)
    (hpos : 0 < quota.maxGPUs) {order : MapOrder} {faults : Faults} {now : Int}
    (hnow : now ≠ 0) (n : Nat) {inputs : SchedulingInputs} (hv : Valid inputs)
    (h : Tracks ns tenant st quota.maxGPUs ns' inputs c) :
    Within ns tenant st quota.maxGPUs
      (GpuCycle.batch (calls order faults) now n inputs c).state := by
  refine batch_state (J := fun _ => Tracks ns tenant st quota.maxGPUs ns') hnow
    (fun _ _ _ hJ => hJ.cap) (fun _ _ _ _ hJ _ => hJ.cap) ?_ ?_ n hv h
  · intro _ it w cap working' s s' hv hd hJ hturn
    obtain ⟨-, -, hperform⟩ := turn_stop hv hturn
    by_cases hadm : it.verdict = .admitted
    · rw [hadm] at hperform
      exact (hJ.perform hq hpos hd.mem hd.id hd.eligible hperform).1
    · exact hJ.cap.perform_failed hperform hadm
  · intro _ it w cap working' s s' hv hd hgo hJ
    obtain ⟨hcap, hcounted, hrecords⟩ :=
      hJ.perform hq hpos hgo.mem hd.id hgo.eligible hgo.performed
    refine ⟨hcap, fun hns => ?_, fun q hq => hrecords q (hgo.mem_queued.mp hq).1, ?_⟩
    · rw [hgo.committed]
      exact hcounted hns
    · rw [hgo.tenantQuotas]
      exact hJ.quotas

/-- A snapshot of the namespace counts what the state counts. -/
theorem committed_snapshot {inputs : SchedulingInputs} (h : IsSnapshot st ns inputs) :
    committed inputs tenant = countedGPUs ns tenant st :=
  sumOf_perm _ _ _ (h.scheduled.append h.running)

/-- **A CYCLE STAYS WITHIN THE CAP** when its state counts at least what the API holds. -/
theorem within_cycle (order : MapOrder) (faults : Faults) (max : Int)
    (hq : lookupIn st.quotas ns tenant = some quota) (hpos : 0 < quota.maxGPUs)
    {now : String → Int} {namespaces : List String} (hnow : ∀ ns ∈ namespaces, now ns ≠ 0)
    (hcap : Within ns tenant st quota.maxGPUs c)
    (hcounted : Within ns tenant st (countedGPUs ns tenant st) c) :
    Within ns tenant st quota.maxGPUs
      (runSchedulingCycle (calls order faults) max now namespaces c) := by
  refine runSchedulingCycle_rule (I := fun c => Within ns tenant st quota.maxGPUs c
    ∧ Within ns tenant st (countedGPUs ns tenant st) c) (fun _ hI => hI.1) ?_ hnow
    ⟨hcap, hcounted⟩
  rintro ns' inputs s ⟨hI, hI'⟩ hsnap hv hnow'
  constructor
  · intro hnone
    refine batch_no_admission (I := fun c => Within ns tenant st quota.maxGPUs c
      ∧ Within ns tenant st (countedGPUs ns tenant st) c) ⟨hI, hI'⟩ ?_ hv hnone
    intro it working' s' hturn hne
    obtain ⟨-, -, hperform⟩ := turn_stop hv hturn
    exact ⟨hI.perform_failed hperform hne, hI'.perform_failed hperform hne⟩
  · have hmem : s.mem = st := hI.mem
    have his : IsSnapshot st ns' inputs := by
      rw [← hmem]
      exact snapshot_spec hsnap
    refine Tracks.batch hq hpos hnow' _ hv ⟨hI, fun hns => ?_, fun q hq' => ?_, his.quotas⟩
    · subst hns
      rw [committed_snapshot his]
      exact hI'
    · obtain ⟨id, hid⟩ := mem_values.mp (his.queued.mem_iff.mp hq')
      rw [← hmem] at hid
      exact (hI.agrees.queued ns' id q hid).2

end

/-! ## Whole runs -/

/-- The run invariant: the cluster agrees, the quota stands, and the tenant is within it. -/
structure Inv (ns tenant : String) (quota : TenantQuota) (c : Cluster) : Prop where
  agrees : Agrees c
  stands : lookupIn c.mem.quotas ns tenant = some quota
  cap : liveGPUs ns tenant c.api ≤ quota.maxGPUs

section
variable {ns tenant : String} {quota : TenantQuota} {c t : Cluster}

/-- A state with the same slots agrees with the same API. -/
private theorem agrees_of_slots (hc : Agrees c) {st : SchedulerState} {trigger : Bool}
    (h : ∀ ns id, st.slotAt ns id = c.mem.slotAt ns id) :
    Agrees { c with mem := st, trigger := trigger } :=
  ⟨hc.api, hc.pending, fun ns id q hq =>
    hc.queued ns id q ((congrArg Slot.queued (h ns id)).symm.trans hq)⟩

theorem Inv.create (hc : Inv ns tenant quota c) {w : GPUWorkload} (hw : accepted w)
    (hfresh : c.api.lookup (key w) = none) (hphase : w.phase = .unset) :
    Inv ns tenant quota (c.put w) := by
  refine ⟨hc.agrees.put hw (fun old hold => ?_), hc.stands, ?_⟩
  · rw [hfresh] at hold
    cases hold
  · have hdead : live w = false := by rw [live, hphase]; rfl
    rw [liveGPUs_put_new ns tenant hfresh, gpusOf_not_live hdead, Int.zero_add]
    exact hc.cap

theorem Inv.update (hc : Inv ns tenant quota c) {w old : GPUWorkload}
    (hold : c.api.lookup (key w) = some old)
    (hsame : w.ns = old.ns ∧ w.name = old.name ∧ w.spec = old.spec)
    (hlive : live w → live old) : Inv ns tenant quota (c.put w) := by
  obtain ⟨hns, hname, hspec⟩ := hsame
  have hacc := (hc.agrees.api _ old hold).2
  have haccw : accepted w := by
    rw [accepted, hns, hname, hspec]
    exact hacc
  refine ⟨hc.agrees.put haccw (fun old' hold' => ?_), hc.stands, ?_⟩
  · rw [hspec, Option.some.inj (hold.symm.trans hold')]
  · have hmono := gpusOf_mono ns tenant (key w) hspec hacc hlive
    have hsum := liveGPUs_put_known ns tenant hold
    have hcap := hc.cap
    omega

/-- STEP: a step whose cycles start from a state that counts the API keeps the cap. -/
theorem step_inv {max : Int} {a : Label} (hpos : 0 < quota.maxGPUs)
    (hc : Inv ns tenant quota c) (hC : Counted ns tenant c a) (h : step max c a = some t) :
    Inv ns tenant quota t := by
  cases a with
  | create w =>
      obtain ⟨⟨hacc, hnone, hphase, -, -⟩, rfl⟩ := step_create h
      exact hc.create hacc hnone hphase
  | update w =>
      obtain ⟨old, hold, hsame, rfl⟩ := step_update h
      exact hc.update hold hsame (hC.1 old hold)
  | delete k => exact hC.1.elim
  | deliver i now =>
      have hagree := hc.agrees.deliver h
      obtain ⟨x, -, rfl⟩ := Option.map_eq_some_iff.mp h
      refine ⟨hagree, ?_, hc.cap⟩
      show lookupIn (react c x now).1.quotas ns tenant = some quota
      rw [(react_frame c x now).2]
      exact hc.stands
  | pool ns' listed =>
      obtain rfl := Option.some.inj h
      refine ⟨agrees_of_slots hc.agrees (fun _ _ => slotAt_handlePoolEvent _ _), ?_, hc.cap⟩
      show lookupIn (handlePoolEvent c.mem ns' listed).1.quotas ns tenant = some quota
      rw [handlePoolEvent_quotas]
      exact hc.stands
  | quota q deleted =>
      obtain rfl := Option.some.inj h
      exact ⟨agrees_of_slots hc.agrees (fun _ _ => slotAt_handleQuotaEvent _ _ _),
        hC.1.trans hc.stands, hc.cap⟩
  | cycle order faults now namespaces =>
      obtain ⟨hcond, rfl⟩ := step_cycle h
      have hagree : Agrees { c with trigger := false } :=
        ⟨hc.agrees.api, hc.agrees.pending, hc.agrees.queued⟩
      have hwithin := within_cycle order faults max hc.stands hpos hcond.2.2
        (⟨hagree, rfl, hc.cap⟩ : Within ns tenant c.mem quota.maxGPUs _)
        ⟨hagree, rfl, hC.2⟩
      refine ⟨hwithin.agrees, ?_, hwithin.bound⟩
      rw [hwithin.mem]
      exact hc.stands

/-- **THE TENANT CAP OVER WHOLE RUNS**: it is kept in every run in which each cycle starts
    from a state that counts at least what the API holds for the tenant. -/
theorem cap_of_runs {max : Int} {as : List Label} (hc : Agrees c)
    (hq : lookupIn c.mem.quotas ns tenant = some quota) (hpos : 0 < quota.maxGPUs)
    (h0 : liveGPUs ns tenant c.api ≤ quota.maxGPUs)
    (h : Runs (step max) (Counted ns tenant) c as t) :
    liveGPUs ns tenant t.api ≤ quota.maxGPUs :=
  (h.invariant (fun _ _ _ hs hC hst => step_inv hpos hs hC hst) ⟨hc, hq, h0⟩).cap

end

/-- A queued workload of one GPU. -/
def oneGPU (name : String) (priority : Int) : GPUWorkload :=
  { ns := "ns", name := name, annotations := ∅, deletionTimestamp := none
    spec := ⟨"team", priority, 1, 40, "h100_sxm", 5, .training⟩, phase := .queued
    queuedAt := some 1 }

/-- Two workloads arrive, the second with the higher priority; there are two free devices
    and the tenant may use one. -/
def twoArrivals : Cluster where
  api := ((∅ : GoMap Key GPUWorkload).insert ("ns", "ns/low") (oneGPU "low" 1)).insert
    ("ns", "ns/high") (oneGPU "high" 2)
  pending := [⟨oneGPU "low" 1, false⟩, ⟨oneGPU "high" 2, false⟩]
  store := ∅
  mem :=
    { newSchedulerState with
      fleet := (∅ : GoMap String FleetFreeCapacity).insert "ns"
        ⟨2, 160, some ((∅ : GoMap String ProfileFreeCapacity).insert "h100_sxm" ⟨2, 160, 80⟩)⟩
      quotas := insertIn ∅ "ns" "team" ⟨1, 0, 1⟩ }
  trigger := false

/-- One cycle over the namespace, without faults. -/
def oneCycle : Label := .cycle .entries .none (fun _ => 7) ["ns"]

theorem agrees_twoArrivals : Agrees twoArrivals := by
  have hlow : twoArrivals.api.lookup ("ns", "ns/low") = some (oneGPU "low" 1) := rfl
  have hhigh : twoArrivals.api.lookup ("ns", "ns/high") = some (oneGPU "high" 2) := rfl
  refine ⟨fun k w hw => ?_, fun x hx => ?_, fun ns id q hq => by cases hq⟩
  · have hmem : (⟨k, w⟩ : Sigma fun _ : Key => GPUWorkload) ∈ twoArrivals.api.entries :=
      AList.mem_lookup_iff.mp hw
    have hentries : twoArrivals.api.entries
        = [⟨("ns", "ns/high"), oneGPU "high" 2⟩, ⟨("ns", "ns/low"), oneGPU "low" 1⟩] := rfl
    rw [hentries, List.mem_cons, List.mem_singleton] at hmem
    rcases hmem with h | h
    · cases h
      exact ⟨rfl, by decide⟩
    · cases h
      exact ⟨rfl, by decide⟩
  · rcases List.mem_cons.mp hx with rfl | hx
    · exact ⟨_, hlow, rfl⟩
    · rw [List.mem_singleton.mp hx]
      exact ⟨_, hhigh, rfl⟩

/-- The first admission comes back before the second cycle, and the cap holds. -/
theorem cap_of_runs_delivered :
    ∃ t, Runs (step 1) (Counted "ns" "team") twoArrivals
        [.deliver 0 2, oneCycle, .deliver 0 3, .deliver 0 4, oneCycle] t
      ∧ liveGPUs "ns" "team" t.api = 1 ∧ liveGPUs "ns" "team" t.api ≤ 1 := by
  have hexec : (exec (guarded (step 1) (Counted "ns" "team")) twoArrivals
      [.deliver 0 2, oneCycle, .deliver 0 3, .deliver 0 4, oneCycle]).map
        (fun c => liveGPUs "ns" "team" c.api) = some 1 := by decide +kernel
  obtain ⟨t, ht, hlive⟩ := Option.map_eq_some_iff.mp hexec
  have hrun := Runs.of_exec_guarded ht
  have hquota : lookupIn twoArrivals.mem.quotas "ns" "team" = some ⟨1, 0, 1⟩ := rfl
  exact ⟨t, hrun, hlive,
    cap_of_runs agrees_twoArrivals hquota (by decide) (by decide) hrun⟩

/-- The second cycle starts before the first admission has come back, and admits past the
    cap. -/
theorem undelivered_admission_exceeds_cap :
    ¬∀ (c t : Cluster) (quota : TenantQuota) (as : List Label), Agrees c →
      lookupIn c.mem.quotas "ns" "team" = some quota → 0 < quota.maxGPUs →
      liveGPUs "ns" "team" c.api ≤ quota.maxGPUs →
      Runs (step 1) (Allowed "ns" "team") c as t →
      liveGPUs "ns" "team" t.api ≤ quota.maxGPUs := by
  intro h
  have hexec : (exec (guarded (step 1) (Allowed "ns" "team")) twoArrivals
      [.deliver 0 2, oneCycle, .deliver 0 3, oneCycle]).map
        (fun c => liveGPUs "ns" "team" c.api) = some 2 := by decide +kernel
  obtain ⟨t, ht, hlive⟩ := Option.map_eq_some_iff.mp hexec
  have hle := h twoArrivals t ⟨1, 0, 1⟩ _ agrees_twoArrivals rfl (by decide) (by decide)
    (Runs.of_exec_guarded ht)
  rw [hlive] at hle
  exact absurd hle (by decide)

end GpuTenantCap
