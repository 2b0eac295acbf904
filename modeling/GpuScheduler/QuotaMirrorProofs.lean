import GpuScheduler.SchedulerStateProofs
import GpuScheduler.StepRunsProofs

/-! # The quotas of the scheduler and the `TenantQuota` objects

    `handleQuotaEvent` keeps `quotas[ns][tenant]` from the events of `TenantQuota`
    objects.  The map is keyed by tenant and not by object: several objects may name one
    tenant, an update may rename it, and the handler sees only the new version.

    `Mirrored` says that the map shows the objects that exist.  `mirrored_step_iff` is the
    exact condition under which one event keeps it, and `mirrored_iff_runs` lifts it to
    whole histories: every state shows the objects exactly when no event breaks the
    condition `Keeps`. -/

namespace GpuQuotaMirror

open GoStrings GoMaps GpuInputs GpuSchedulerState StepRuns

/-! ## Objects and their events -/

/-- The `TenantQuota` objects by namespace and name, and the state the handler keeps. -/
structure World where
  objects : GoMap (String × String) TenantQuotaCR
  st : SchedulerState

/-- A change of one object, whose event the informer delivers to `handleQuotaEvent`. -/
inductive Label where
  | create (name : String) (q : TenantQuotaCR)
  | update (name : String) (q : TenantQuotaCR)
  | delete (ns name : String)

/-- One change and its event; a delete event carries the last version of the object. -/
def step (w : World) : Label → Option World
  | .create name q =>
      if w.objects.lookup (q.ns, name) = none then
        some ⟨w.objects.insert (q.ns, name) q, (handleQuotaEvent w.st q false).1⟩
      else none
  | .update name q =>
      if w.objects.lookup (q.ns, name) = none then none
      else some ⟨w.objects.insert (q.ns, name) q, (handleQuotaEvent w.st q false).1⟩
  | .delete ns name =>
      match w.objects.lookup (ns, name) with
      | none => none
      | some q => some ⟨w.objects.erase (ns, name), (handleQuotaEvent w.st q true).1⟩

/-- No object and no quota yet. -/
def start : World := ⟨∅, newSchedulerState⟩

/-- The limits an object sets. -/
def limits (q : TenantQuotaCR) : TenantQuota := ⟨q.maxGPUs, q.maxMemoryMiB, q.weight⟩

/-- `quotas[ns][tenant]`. -/
def entry (w : World) (ns tenant : String) : Option TenantQuota :=
  lookupIn w.st.quotas ns tenant

/-- An existing object of a namespace names the tenant, blanks aside. -/
def Names (w : World) (ns tenant name : String) (q : TenantQuotaCR) : Prop :=
  w.objects.lookup (ns, name) = some q ∧ trimSpace q.tenant = tenant

/-- A tenant of a namespace has an entry exactly when some existing object names it, and
    the entry carries the limits of one that does. -/
def MirroredAt (w : World) (ns tenant : String) : Prop :=
  ((entry w ns tenant).isSome ↔ ∃ name q, Names w ns tenant name q)
    ∧ ∀ l, entry w ns tenant = some l → ∃ name q, Names w ns tenant name q ∧ limits q = l

/-- The quotas show the objects. -/
def Mirrored (w : World) : Prop := ∀ ns tenant, MirroredAt w ns tenant

/-- The condition on an event, in the state before it.  A tenant is not blank; an update
    that renames the tenant leaves another object behind whose limits the old entry has;
    a delete leaves no other object of its tenant behind. -/
def Keeps (w : World) : Label → Prop
  | .create _ q => trimSpace q.tenant ≠ ""
  | .update name q => trimSpace q.tenant ≠ "" ∧
      ∀ old, w.objects.lookup (q.ns, name) = some old →
        trimSpace old.tenant = trimSpace q.tenant ∨
          ∃ name' q', name' ≠ name ∧ Names w q.ns (trimSpace old.tenant) name' q'
            ∧ entry w q.ns (trimSpace old.tenant) = some (limits q')
  | .delete ns name => ∀ old, w.objects.lookup (ns, name) = some old →
      ∀ name' q', name' ≠ name → ¬ Names w ns (trimSpace old.tenant) name' q'

/-! ## What the handler does to the entries -/

theorem quotas_upsert (st : SchedulerState) {q : TenantQuotaCR} (h : trimSpace q.tenant ≠ "") :
    (handleQuotaEvent st q false).1.quotas
      = insertIn st.quotas q.ns (trimSpace q.tenant) (limits q) := by
  simp only [handleQuotaEvent, Bool.false_eq_true, if_false, if_neg h]
  rfl

theorem quotas_blank (st : SchedulerState) {q : TenantQuotaCR} (h : trimSpace q.tenant = "") :
    (handleQuotaEvent st q false).1.quotas = st.quotas := by
  simp only [handleQuotaEvent, Bool.false_eq_true, if_false, if_pos h]

theorem quotas_delete (st : SchedulerState) {q : TenantQuotaCR} (h : trimSpace q.tenant ≠ "") :
    (handleQuotaEvent st q true).1.quotas = deleteIn st.quotas q.ns (trimSpace q.tenant) := by
  simp only [handleQuotaEvent, if_true, if_pos h]
  rfl

theorem quotas_deleteAll (st : SchedulerState) {q : TenantQuotaCR}
    (h : trimSpace q.tenant = "") :
    (handleQuotaEvent st q true).1.quotas = st.quotas.erase q.ns := by
  simp only [handleQuotaEvent, if_true, h, ne_eq, not_true_eq_false, if_false]
  rfl

/-- What holds in every state: objects are stored under their namespace, and no entry is
    for the blank tenant. -/
structure Keyed (w : World) : Prop where
  ns : ∀ ns name q, w.objects.lookup (ns, name) = some q → q.ns = ns
  blank : ∀ ns, entry w ns "" = none

theorem keyed_start : Keyed start where
  ns _ _ _ h := by cases h
  blank _ := rfl

/-- The delivery of a new version never makes an entry for the blank tenant. -/
private theorem entry_blank_upsert {w : World} (hw : Keyed w) (q : TenantQuotaCR)
    (objects : GoMap (String × String) TenantQuotaCR) (ns : String) :
    entry ⟨objects, (handleQuotaEvent w.st q false).1⟩ ns "" = none := by
  rw [entry]
  by_cases h : trimSpace q.tenant = ""
  · rw [quotas_blank _ h]
    exact hw.blank ns
  · rw [quotas_upsert _ h, lookupIn_insertIn_ne _ _ (Or.inr (Ne.symm h))]
    exact hw.blank ns

private theorem ns_insert {w : World} (hw : Keyed w) (name : String) (q : TenantQuotaCR) :
    ∀ ns name' q', (w.objects.insert (q.ns, name) q).lookup (ns, name') = some q' →
      q'.ns = ns := by
  intro ns name' q' hl
  rcases lookup_insert_eq_some.mp hl with ⟨hkey, rfl⟩ | ⟨-, hl⟩
  · exact (congrArg Prod.fst hkey).symm
  · exact hw.ns ns name' q' hl

theorem Keyed.step {w v : World} {a : Label} (hw : Keyed w) (h : step w a = some v) :
    Keyed v := by
  cases a with
  | create name q =>
      simp only [GpuQuotaMirror.step] at h
      split_ifs at h
      rw [← Option.some.inj h]
      exact ⟨ns_insert hw name q, entry_blank_upsert hw q _⟩
  | update name q =>
      simp only [GpuQuotaMirror.step] at h
      split_ifs at h
      rw [← Option.some.inj h]
      exact ⟨ns_insert hw name q, entry_blank_upsert hw q _⟩
  | delete ns name =>
      simp only [GpuQuotaMirror.step] at h
      split at h
      · cases h
      · rename_i q hq
        rw [← Option.some.inj h]
        refine ⟨fun ns' name' q' hl => ?_, fun ns' => ?_⟩
        · exact hw.ns ns' name' q' (lookup_erase_eq_some.mp hl).2
        · rw [entry]
          by_cases hblank : trimSpace q.tenant = ""
          · rw [quotas_deleteAll _ hblank]
            by_cases hns : ns' = q.ns
            · rw [hns, lookupIn, GoMaps.inner, AList.lookup_erase]
              rfl
            · rw [lookupIn, GoMaps.inner, AList.lookup_erase_ne hns]
              exact hw.blank ns'
          · rw [quotas_delete _ hblank, lookupIn_deleteIn_ne _ (Or.inr (Ne.symm hblank))]
            exact hw.blank ns'

/-! ## One event -/

/-- Where entry and objects of a tenant are unchanged, nothing is to be shown. -/
theorem MirroredAt.of_same {w v : World} {ns tenant : String} (h : MirroredAt w ns tenant)
    (hentry : entry v ns tenant = entry w ns tenant)
    (hnames : ∀ name q, Names v ns tenant name q ↔ Names w ns tenant name q) :
    MirroredAt v ns tenant := by
  rw [MirroredAt, hentry]
  simp only [hnames]
  exact h

/-- An entry with the limits of an object of its tenant shows it. -/
theorem mirroredAt_of_some {w : World} {ns tenant name : String} {q : TenantQuotaCR}
    (hentry : entry w ns tenant = some (limits q)) (hq : Names w ns tenant name q) :
    MirroredAt w ns tenant := by
  rw [MirroredAt, hentry]
  refine ⟨⟨fun _ => ⟨name, q, hq⟩, fun _ => rfl⟩, fun l hl => ?_⟩
  exact ⟨name, q, hq, Option.some.inj hl⟩

/-- No entry and no object of a tenant. -/
theorem mirroredAt_of_none {w : World} {ns tenant : String} (hentry : entry w ns tenant = none)
    (hnames : ∀ name q, ¬ Names w ns tenant name q) : MirroredAt w ns tenant := by
  rw [MirroredAt, hentry]
  refine ⟨⟨fun h => (by cases h), ?_⟩, fun l hl => (by cases hl)⟩
  rintro ⟨name, q, hq⟩
  exact absurd hq (hnames name q)

/-- A mirrored world has no object with a blank tenant: the handler ignores it. -/
theorem Mirrored.tenant_ne {w : World} (hm : Mirrored w) (hw : Keyed w) {ns name : String}
    {q : TenantQuotaCR} (hq : w.objects.lookup (ns, name) = some q) :
    trimSpace q.tenant ≠ "" := by
  intro hblank
  have hsome := (hm ns "").1.mpr ⟨name, q, hq, hblank⟩
  rw [hw.blank ns] at hsome
  cases hsome

section NewVersion

variable {w : World} {name : String} {q : TenantQuotaCR}

/-- The world after the event of a new version. -/
private def put (w : World) (name : String) (q : TenantQuotaCR) : World :=
  ⟨w.objects.insert (q.ns, name) q, (handleQuotaEvent w.st q false).1⟩

private theorem names_put_self : Names (put w name q) q.ns (trimSpace q.tenant) name q :=
  ⟨AList.lookup_insert _, rfl⟩

/-- Another tenant than the new one loses at most the old version. -/
private theorem names_put_ne {ns tenant name' : String} {q' : TenantQuotaCR}
    (hne : ns ≠ q.ns ∨ tenant ≠ trimSpace q.tenant) :
    Names (put w name q) ns tenant name' q'
      ↔ (ns, name') ≠ (q.ns, name) ∧ Names w ns tenant name' q' := by
  by_cases hkey : (ns, name') = (q.ns, name)
  · constructor
    · rintro ⟨hl, ht⟩
      have hl' : (w.objects.insert (q.ns, name) q).lookup (ns, name') = some q' := hl
      rw [hkey, AList.lookup_insert] at hl'
      rw [← Option.some.inj hl'] at ht
      rcases hne with hns | htenant
      · exact absurd (congrArg Prod.fst hkey) hns
      · exact absurd ht.symm htenant
    · rintro ⟨hne', -⟩
      exact absurd hkey hne'
  · have hl : (put w name q).objects.lookup (ns, name') = w.objects.lookup (ns, name') :=
      AList.lookup_insert_ne hkey
    rw [Names, Names, hl]
    exact ⟨fun h => ⟨hkey, h⟩, fun h => h.2⟩

/-- The event of a new version of an object, or of a new one (`old = none`), keeps the
    mirror exactly when the tenant is not blank and the old version's entry still has an
    object. -/
theorem mirrored_put_iff (hw : Keyed w) (hm : Mirrored w) :
    Mirrored (put w name q) ↔ trimSpace q.tenant ≠ "" ∧
      ∀ old, w.objects.lookup (q.ns, name) = some old →
        trimSpace old.tenant = trimSpace q.tenant ∨
          ∃ name' q', name' ≠ name ∧ Names w q.ns (trimSpace old.tenant) name' q'
            ∧ entry w q.ns (trimSpace old.tenant) = some (limits q') := by
  have hentry : trimSpace q.tenant ≠ "" → ∀ ns tenant,
      ns ≠ q.ns ∨ tenant ≠ trimSpace q.tenant →
        entry (put w name q) ns tenant = entry w ns tenant := by
    intro h ns tenant hne
    show lookupIn (handleQuotaEvent w.st q false).1.quotas ns tenant = _
    rw [quotas_upsert _ h, lookupIn_insertIn_ne _ _ hne]
    rfl
  constructor
  · intro hput
    have hne : trimSpace q.tenant ≠ "" := by
      intro hblank
      have hsome := (hput q.ns "").1.mpr ⟨name, q, by rw [← hblank]; exact names_put_self⟩
      rw [show entry (put w name q) q.ns "" = none from entry_blank_upsert hw q _ _] at hsome
      cases hsome
    refine ⟨hne, fun old hold => ?_⟩
    by_cases hsame : trimSpace old.tenant = trimSpace q.tenant
    · exact Or.inl hsame
    -- the entry of the old tenant is left as it was, so it shows an object that is left
    have hsome := (hm q.ns (trimSpace old.tenant)).1.mpr ⟨name, old, hold, rfl⟩
    obtain ⟨l, hl⟩ := Option.isSome_iff_exists.mp hsome
    have hl' := hl
    rw [← hentry hne q.ns _ (Or.inr hsame)] at hl'
    obtain ⟨name', q', hq', hlim⟩ := (hput q.ns _).2 l hl'
    obtain ⟨hkey, hold'⟩ := (names_put_ne (Or.inr hsame)).mp hq'
    refine Or.inr ⟨name', q', fun heq => hkey (by rw [heq]), hold', ?_⟩
    rw [hl, hlim]
  · rintro ⟨hne, hleft⟩ ns tenant
    by_cases hself : ns = q.ns ∧ tenant = trimSpace q.tenant
    · rw [hself.1, hself.2]
      refine mirroredAt_of_some ?_ names_put_self
      show lookupIn (handleQuotaEvent w.st q false).1.quotas _ _ = _
      rw [quotas_upsert _ hne, lookupIn_insertIn_self]
    have hother : ns ≠ q.ns ∨ tenant ≠ trimSpace q.tenant := by
      by_cases hns : ns = q.ns
      · exact Or.inr (fun ht => hself ⟨hns, ht⟩)
      · exact Or.inl hns
    by_cases hgone : ∃ old, Names w ns tenant name old ∧ ns = q.ns
    · obtain ⟨old, ⟨hold, htenant⟩, hns⟩ := hgone
      subst hns htenant
      rcases hleft old hold with hsame | ⟨name', q', hname, hq', hlim⟩
      · exact absurd ⟨rfl, hsame⟩ hself
      · refine mirroredAt_of_some (q := q') ?_ ((names_put_ne hother).mpr ⟨?_, hq'⟩)
        · rw [hentry hne _ _ hother, hlim]
        · intro hkey
          exact hname (congrArg Prod.snd hkey)
    · refine MirroredAt.of_same (hm ns tenant) (hentry hne _ _ hother) (fun name' q' => ?_)
      rw [names_put_ne hother]
      refine ⟨fun h => h.2, fun h => ⟨fun hkey => hgone ⟨q', ?_, congrArg Prod.fst hkey⟩, h⟩⟩
      have hname : name' = name := congrArg Prod.snd hkey
      rw [← hname]
      exact h

end NewVersion

/-- The event of a delete keeps the mirror exactly when no other object has the tenant. -/
theorem mirrored_delete_iff {w : World} (hw : Keyed w) (hm : Mirrored w) {ns name : String}
    {q : TenantQuotaCR} (hq : w.objects.lookup (ns, name) = some q) :
    Mirrored ⟨w.objects.erase (ns, name), (handleQuotaEvent w.st q true).1⟩ ↔
      ∀ name' q', name' ≠ name → ¬ Names w ns (trimSpace q.tenant) name' q' := by
  have hne := hm.tenant_ne hw hq
  have hns := hw.ns ns name q hq
  have hquotas : (handleQuotaEvent w.st q true).1.quotas
      = deleteIn w.st.quotas ns (trimSpace q.tenant) := by
    rw [quotas_delete _ hne, hns]
  have hgone : entry ⟨w.objects.erase (ns, name), (handleQuotaEvent w.st q true).1⟩ ns
      (trimSpace q.tenant) = none := by
    rw [entry, hquotas, lookupIn_deleteIn_self]
  constructor
  · intro hdel name' q' hname hq'
    have hsome := (hdel ns (trimSpace q.tenant)).1.mpr ⟨name', q', ?_, hq'.2⟩
    · rw [hgone] at hsome
      cases hsome
    · show (w.objects.erase (ns, name)).lookup (ns, name') = some q'
      rw [AList.lookup_erase_ne (fun hkey => hname (congrArg Prod.snd hkey))]
      exact hq'.1
  · intro hnone ns' tenant
    by_cases hself : ns' = ns ∧ tenant = trimSpace q.tenant
    · rw [hself.1, hself.2]
      refine mirroredAt_of_none hgone (fun name' q' hq' => ?_)
      obtain ⟨hkey, hl⟩ := lookup_erase_eq_some.mp hq'.1
      exact hnone name' q' (fun hname => hkey (congrArg _ hname)) ⟨hl, hq'.2⟩
    have hother : ns' ≠ ns ∨ tenant ≠ trimSpace q.tenant := by
      by_cases hn : ns' = ns
      · exact Or.inr (fun ht => hself ⟨hn, ht⟩)
      · exact Or.inl hn
    refine MirroredAt.of_same (hm ns' tenant) ?_ (fun name' q' => ?_)
    · rw [entry, hquotas, lookupIn_deleteIn_ne _ hother]
      rfl
    · rw [Names, Names]
      by_cases hkey : (ns', name') = (ns, name)
      · constructor
        · rintro ⟨hl, -⟩
          have hl' : (w.objects.erase (ns, name)).lookup (ns', name') = some q' := hl
          rw [hkey, AList.lookup_erase] at hl'
          cases hl'
        · rintro ⟨hl, ht⟩
          rw [hkey, hq] at hl
          rw [← Option.some.inj hl] at ht
          rcases hother with hn | ht'
          · exact absurd (congrArg Prod.fst hkey) hn
          · exact absurd ht.symm ht'
      · have hl : (w.objects.erase (ns, name)).lookup (ns', name')
            = w.objects.lookup (ns', name') := AList.lookup_erase_ne hkey
        rw [hl]

/-- One event keeps the mirror exactly when it meets the condition. -/
theorem mirrored_step_iff {w v : World} {a : Label} (hw : Keyed w) (hm : Mirrored w)
    (h : step w a = some v) : Mirrored v ↔ Keeps w a := by
  cases a with
  | create name q =>
      simp only [step] at h
      split_ifs at h with hnone
      rw [← Option.some.inj h]
      refine (mirrored_put_iff hw hm).trans ⟨fun hk => hk.1, fun hne => ⟨hne, ?_⟩⟩
      intro old hold
      rw [hnone] at hold
      cases hold
  | update name q =>
      simp only [step] at h
      split_ifs at h
      rw [← Option.some.inj h]
      exact mirrored_put_iff hw hm
  | delete ns name =>
      simp only [step] at h
      split at h
      · cases h
      · rename_i q hq
        rw [← Option.some.inj h]
        refine (mirrored_delete_iff hw hm hq).trans ⟨fun hk old hold => ?_, fun hk => hk q hq⟩
        rw [hq] at hold
        rw [← Option.some.inj hold]
        exact hk

/-! ## Whole histories -/

theorem mirrored_start : Mirrored start :=
  fun _ _ => mirroredAt_of_none rfl (fun _ _ h => by cases h.1)

/-- **QUOTAS SHOW THE OBJECTS**, after every part of a history of creates, updates and
    deletes, exactly when every event of it meets the condition. -/
theorem mirrored_iff_runs {as : List Label} {w : World} (h : exec step start as = some w) :
    (∀ pre suf v, as = pre ++ suf → exec step start pre = some v → Mirrored v)
      ↔ Runs step Keeps start as w :=
  every_state_iff_runs (I := Keyed) (P := Mirrored) (fun _ _ _ hw hst => hw.step hst)
    (fun _ _ _ hw hm hst => mirrored_step_iff hw hm hst) h keyed_start mirrored_start

/-- Two objects of one tenant; the second one is deleted. -/
def sharedTenant : List Label :=
  [.create "a" ⟨"ns", "t", 4, 0, 1⟩, .create "b" ⟨"ns", "t", 8, 0, 1⟩, .delete "ns" "b"]

/-- The delete takes the tenant's entry with it although object `a` still exists. -/
theorem sharedTenant_not_mirrored :
    ¬ ∀ as w, exec step start as = some w → Mirrored w := by
  intro hall
  have hexec : (exec step start sharedTenant).map (fun w =>
      (w.objects.lookup ("ns", "a"), entry w "ns" "t"))
      = some (some ⟨"ns", "t", 4, 0, 1⟩, none) := by decide +kernel
  obtain ⟨w, hw, hst⟩ := Option.map_eq_some_iff.mp hexec
  have ha : w.objects.lookup ("ns", "a") = some ⟨"ns", "t", 4, 0, 1⟩ := congrArg Prod.fst hst
  have hentry : entry w "ns" "t" = none := congrArg Prod.snd hst
  have hsome := (hall sharedTenant w hw "ns" "t").1.mpr ⟨"a", _, ha, by decide +kernel⟩
  rw [hentry] at hsome
  cases hsome

/-- One object whose limits change, with a blank around its tenant, and that is deleted. -/
def ownTenant : List Label :=
  [.create "a" ⟨"ns", "t", 4, 0, 1⟩, .update "a" ⟨"ns", " t", 8, 0, 1⟩, .delete "ns" "a"]

/-- Its quotas are shown all along. -/
theorem mirrored_ownTenant :
    ∃ w, exec step start ownTenant = some w
      ∧ ∀ pre suf v, ownTenant = pre ++ suf → exec step start pre = some v → Mirrored v := by
  have hexec : exec step start ownTenant = some _ := rfl
  refine ⟨_, hexec, (mirrored_iff_runs hexec).mpr ?_⟩
  have htrim : trimSpace " t" = trimSpace "t" := by decide +kernel
  have hne : trimSpace "t" ≠ "" := by decide +kernel
  refine .cons hne rfl (.cons ⟨by rw [htrim]; exact hne, ?_⟩ rfl (.cons ?_ rfl (.nil _)))
  · rintro old ⟨⟩
    exact Or.inl htrim.symm
  · rintro old ⟨⟩ name' q' hname ⟨hl, -⟩
    -- the only object is the one deleted
    have hkey : (("ns", name') : String × String) ≠ ("ns", "a") :=
      fun heq => hname (congrArg Prod.snd heq)
    have hl' := hl
    rw [show (_ : World).objects = ((∅ : GoMap (String × String) TenantQuotaCR).insert
      ("ns", "a") ⟨"ns", "t", 4, 0, 1⟩).insert ("ns", "a") ⟨"ns", " t", 8, 0, 1⟩ from rfl,
      AList.lookup_insert_ne hkey, AList.lookup_insert_ne hkey] at hl'
    cases hl'

end GpuQuotaMirror
