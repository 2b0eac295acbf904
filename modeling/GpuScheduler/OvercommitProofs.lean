import GpuScheduler.InProcessProofs

/-! # No over-commitment of devices, and when

    The free devices the scheduler counts on are those nobody has allocated.  A workload
    that is `Scheduled` but not yet reconciled holds nothing, so a cycle that starts
    before its reconcile counts its devices as free and admits over them
    (`secondCycle_overcommits`).

    If every cycle starts after the allocation of everything that is `Scheduled`, and the
    pools of a profile are all in one namespace, what is `Scheduled` or `Running` never
    exceeds the devices of its profile (`within_devices_of_runs`). -/

namespace GpuOvercommit

open GoMaps GpuInputs GpuCompat GpuPreemption GpuSelection GpuCycle GpuWorkload
  GpuSchedulerState GpuCluster GpuPlacement GpuSimulator GpuFleet GpuRealise GpuMirror
  GpuInProcess StepRuns GoFmt

/-! ## Supply -/

/-- The pools of a namespace and a profile. -/
def poolsOn (f : Fleet) (ns profile : String) : List GPUNodePool :=
  f.pools.filter (fun q => q.ns = ns ∧ normalizeProfileName q.profile = profile)

/-- The devices of a profile in a namespace. -/
def totalOn (f : Fleet) (ns profile : String) : Int :=
  ((poolsOn f ns profile).map (fun q => q.nodeCount * q.devicesPerNode)).sum

/-- No profile is offered by two namespaces. -/
def Alone (f : Fleet) : Prop :=
  ∀ q ∈ f.pools, ∀ q' ∈ f.pools,
    normalizeProfileName q.profile = normalizeProfileName q'.profile → q.ns = q'.ns

instance (f : Fleet) : Decidable (Alone f) :=
  inferInstanceAs (Decidable (∀ q ∈ f.pools, ∀ q' ∈ f.pools, _ → _))

/-- The demand on every profile is within its devices. -/
def WithinDevices (f : Fleet) (p : Plant) : Prop :=
  ∀ ns profile, demand p.cluster.api ns profile ≤ totalOn f ns profile

/-- Every live object has its devices. -/
def Served (p : Plant) : Prop :=
  ∀ k w, p.cluster.api.lookup k = some w → live w = true →
    (p.sim.allocations.lookup w.id).isSome

/-- The devices of a profile in a namespace, as registered. -/
def devicesOn (f : Fleet) (s : Simulator) (ns profile : String) : List Device :=
  devicesOf (allNodes s ((poolsOn f ns profile).map GPUNodePool.poolKey))

section
variable {f : Fleet} {p : Plant} {api : GoMap Key GPUWorkload} {s : Simulator}

/-- The registered devices of some pools, counted. -/
theorem length_devicesOf_allNodes {pools : List GPUNodePool}
    (h : ∀ q ∈ pools, ∃ nodes, s.pools.lookup q.poolKey = some nodes
      ∧ buildNodesWithPoolKey q.simSpec q.poolKey = .ok nodes) :
    ((devicesOf (allNodes s (pools.map GPUNodePool.poolKey))).length : Int)
      = (pools.map (fun q => q.nodeCount * q.devicesPerNode)).sum := by
  induction pools with
  | nil => rfl
  | cons q rest ih =>
      obtain ⟨nodes, hl, hbuild⟩ := h q (List.mem_cons_self ..)
      have ih := ih (fun r hr => h r (List.mem_cons_of_mem _ hr))
      have hsplit : devicesOf (allNodes s ((q :: rest).map GPUNodePool.poolKey))
          = devicesOf nodes ++ devicesOf (allNodes s (rest.map GPUNodePool.poolKey)) := by
        rw [List.map_cons, allNodes, List.flatMap_cons, hl, devicesOf, List.flatMap_append]
        rfl
      have hlen := length_devicesOf_build hbuild
      -- a pool that was built has positive sizes, so nothing is lost in the naturals
      have hpos : 0 < q.nodeCount ∧ 0 < q.devicesPerNode := by
        rw [buildNodesWithPoolKey] at hbuild
        split_ifs at hbuild with h1 h2
        exact ⟨not_le.mp h1, not_le.mp h2⟩
      have hprod : ((q.nodeCount.toNat * q.devicesPerNode.toNat : Nat) : Int)
          = q.nodeCount * q.devicesPerNode := by
        rw [Int.natCast_mul, Int.toNat_of_nonneg hpos.1.le, Int.toNat_of_nonneg hpos.2.le]
      have hlen' : ((devicesOf nodes).length : Int) = q.nodeCount * q.devicesPerNode := by
        rw [hlen]
        exact hprod
      rw [hsplit, List.length_append, List.map_cons, List.sum_cons, Int.natCast_add, hlen', ih]

/-- The registered devices of a profile are its devices. -/
theorem length_devicesOn (h : Agrees f api s) (ns profile : String) :
    ((devicesOn f s ns profile).length : Int) = totalOn f ns profile :=
  length_devicesOf_allNodes (fun q hq => h.registered q (List.mem_of_mem_filter hq))

/-- What a live workload holds are devices of its profile in its namespace. -/
theorem mem_devicesOn (h : Agrees f api s) (halone : Alone f) {w : GPUWorkload}
    (hw : api.lookup (key w) = some w) (hlive : live w = true) {x : String}
    (hx : x ∈ heldBy s w.id) :
    ∃ d ∈ devicesOn f s w.ns (normalizeProfileName w.spec.profile),
      d.id = x ∧ x ∈ allocatedIDs s := by
  cases ha : s.allocations.lookup w.id with
  | none =>
      rw [heldBy, ha] at hx
      cases hx
  | some a =>
      have hmem : x ∈ allocatedIDs s := mem_allocatedIDs.mpr ⟨w.id, hx⟩
      rw [heldBy_of_lookup ha] at hx
      obtain ⟨d, ⟨k, nodes, hl, hd⟩, hid, hprof⟩ := (h.serves _ w a hw ha).2 x hx
      obtain ⟨q, hq, hkey, hbuild⟩ := h.pools k nodes hl
      have hdprof : d.profile = q.profile := by
        obtain ⟨i, -, j, -, rfl⟩ := (mem_devicesOf_build hbuild).mp hd
        rfl
      have hnorm : normalizeProfileName q.profile = normalizeProfileName w.spec.profile := by
        rw [← hdprof, hprof]
        exact normalizeProfileName_idem _
      obtain ⟨-, q', hq', hns', hnorm'⟩ := h.sited _ w hw hlive
      have hns : q.ns = w.ns := (halone q hq q' hq' (hnorm.trans hnorm'.symm)).trans hns'
      refine ⟨d, ?_, hid, hmem⟩
      refine mem_devicesOf_allNodes.mpr
        ⟨k, List.mem_map.mpr ⟨q, List.mem_filter.mpr ⟨hq, ?_⟩, hkey⟩, nodes, hl, hd⟩
      simpa using ⟨hns, hnorm⟩

/-- The objects of a map are under their own keys. -/
theorem lookup_of_mem_values (h : Agrees f api s) {w : GPUWorkload} (hw : w ∈ values api) :
    api.lookup (key w) = some w := by
  obtain ⟨k, hk⟩ := mem_values.mp hw
  rw [(h.named k w hk).1]
  exact hk

/-- The IDs of the objects of a map are distinct. -/
theorem nodup_ids (h : Agrees f api s) : ((values api).map GPUWorkload.id).Nodup := by
  have hkeys : ((values api).map key).Nodup := by
    rw [map_values_eq_keys (fun k w hw => (h.named k w hw).1)]
    exact api.keys_nodup
  refine List.Nodup.map_on (fun x hx y hy hid => ?_) hkeys.of_map
  have hkey := key_eq_of_id (h.named _ x (lookup_of_mem_values h hx)).2
    (h.named _ y (lookup_of_mem_values h hy)).2 hid
  have hx' := lookup_of_mem_values h hx
  rw [hkey, lookup_of_mem_values h hy] at hx'
  exact (Option.some.inj hx').symm

/-- The devices live workloads hold are what they ask for. -/
theorem length_held (l : List GPUWorkload) {ns profile : String}
    (h : ∀ w ∈ l, liveOn ns profile w = true →
      ((heldBy s w.id).length : Int) = w.spec.gpuCount) :
    ((((l.filter (liveOn ns profile)).map GPUWorkload.id).flatMap (heldBy s)).length : Int)
      = (l.map (part (liveOn ns profile))).sum := by
  induction l with
  | nil => rfl
  | cons w rest ih =>
      have ih := ih (fun v hv => h v (List.mem_cons_of_mem _ hv))
      have hw := h w (List.mem_cons_self ..)
      rw [List.map_cons, List.sum_cons, ← ih, part]
      by_cases hl : liveOn ns profile w = true
      · rw [List.filter_cons_of_pos hl, if_pos hl, List.map_cons, List.flatMap_cons,
          List.length_append, Int.natCast_add, hw hl]
      · rw [List.filter_cons_of_neg hl, if_neg hl, Int.zero_add]

/-- **SUPPLY**: when every live object has its devices, the demand on a profile and its
    free devices together are within its devices. -/
theorem demand_add_free_le (h : Base f p) (halone : Alone f) (hserved : Served p)
    (ns profile : String) :
    demand p.cluster.api ns profile
        + (((devicesOn f p.sim ns profile).filter
          (fun d => d.id ∉ allocatedIDs p.sim)).length : Int)
      ≤ totalOn f ns profile := by
  have ha := h.agrees
  have hlive : ∀ {w}, liveOn ns profile w = true → w.ns = ns
      ∧ normalizeProfileName w.spec.profile = profile ∧ live w = true := by
    intro w hw
    simpa [liveOn, and_assoc] using hw
  have hheld : ∀ w ∈ values p.cluster.api, liveOn ns profile w = true →
      ((heldBy p.sim w.id).length : Int) = w.spec.gpuCount := by
    intro w hw hl
    have hlook := lookup_of_mem_values ha hw
    obtain ⟨a, halloc⟩ := Option.isSome_iff_exists.mp (hserved _ w hlook (hlive hl).2.2)
    rw [heldBy_of_lookup halloc]
    exact (ha.serves _ w a hlook halloc).1
  -- the devices the live objects hold are distinct allocated devices of the profile
  have hnodup : ((((values p.cluster.api).filter (liveOn ns profile)).map
      GPUWorkload.id).flatMap (heldBy p.sim)).Nodup :=
    nodup_flatMap_heldBy ha.sound ((nodup_ids ha).sublist (List.filter_sublist.map _))
  have hsub : (((values p.cluster.api).filter (liveOn ns profile)).map
        GPUWorkload.id).flatMap (heldBy p.sim)
      ⊆ ((devicesOn f p.sim ns profile).filter
        (fun d => decide (d.id ∈ allocatedIDs p.sim))).map Device.id := by
    intro x hx
    obtain ⟨id, hid, hx⟩ := List.mem_flatMap.mp hx
    obtain ⟨w, hw, rfl⟩ := List.mem_map.mp hid
    obtain ⟨hmem, hl⟩ := List.mem_filter.mp hw
    obtain ⟨hns, hprof, hlv⟩ := hlive hl
    obtain ⟨d, hd, rfl, hin⟩ := mem_devicesOn ha halone (lookup_of_mem_values ha hmem) hlv hx
    rw [hns, hprof] at hd
    exact List.mem_map.mpr ⟨d, List.mem_filter.mpr ⟨hd, decide_eq_true hin⟩, rfl⟩
  have hle := (List.subperm_of_subset hnodup hsub).length_le
  rw [List.length_map] at hle
  have hlen := length_held (values p.cluster.api) hheld
  have htotal := length_devicesOn ha ns profile
  have hsplit := List.length_eq_length_filter_add (l := devicesOn f p.sim ns profile)
    (fun d => decide (d.id ∈ allocatedIDs p.sim))
  have hfree : ((devicesOn f p.sim ns profile).filter
        (fun d => decide (d.id ∉ allocatedIDs p.sim))).length
      = ((devicesOn f p.sim ns profile).filter
        (fun d => !decide (d.id ∈ allocatedIDs p.sim))).length := by
    simp
  rw [demand, total, ← hlen, ← htotal, hsplit]
  omega

/-- Served demand is within the devices. -/
theorem Served.withinDevices (hserved : Served p) (h : Base f p) (halone : Alone f) :
    WithinDevices f p := by
  intro ns profile
  have := demand_add_free_le h halone hserved ns profile
  omega

/-- The keys of the statuses of a namespace and a profile. -/
theorem keys_statuses (s : Simulator) (ns profile : String) :
    ((f.statuses s ns).filter (fun q => normalizeProfileName q.profile = profile)).map
      GPUNodePool.poolKey = (poolsOn f ns profile).map GPUNodePool.poolKey := by
  rw [Fleet.statuses, poolsOn, List.filter_map, List.map_map, List.filter_filter]
  generalize normalizeProfileName = normalize
  refine congrArg (List.map GPUNodePool.poolKey) (List.filter_congr (fun q _ => ?_))
  rw [Bool.decide_and, Bool.and_comm]
  rfl

/-- The free devices of the statuses are free devices. -/
theorem availableOn_statuses_le (h : Base f p) (ns profile : String) :
    availableOn profile (f.statuses p.sim ns)
      ≤ (((devicesOn f p.sim ns profile).filter
        (fun d => d.id ∉ allocatedIDs p.sim)).length : Int) := by
  have hq : QualifiedPools p.sim := by
    intro k nodes hl
    obtain ⟨q, hq, hkey, -⟩ := h.agrees.pools k nodes hl
    rw [← hkey]
    exact f.qualified q hq
  have hup : UpToDate p.sim (f.statuses p.sim ns) := by
    intro q hq
    obtain ⟨r, hr, rfl⟩ := List.mem_map.mp hq
    obtain ⟨nodes, hl, -⟩ := h.agrees.registered r (List.mem_of_mem_filter hr)
    exact ⟨rfl, nodes, hl⟩
  have hle := availableOn_le_freeOn h.agrees.sound hq h.agrees.exist profile hup
  rw [freeOn, keys_statuses] at hle
  exact hle

end

/-! ## Evictions -/

/-- The API object behind a record of the working copy. -/
structure Behind (p : Plant) (ns id : String) (gpuCount : Int) (profile : String)
    (w : GPUWorkload) : Prop where
  lookup : p.cluster.api.lookup (key w) = some w
  ns : w.ns = ns
  id : w.id = id
  gpuCount : w.spec.gpuCount = gpuCount
  profile : normalizeProfileName w.spec.profile = profile

/-- A live object is behind every one of the records. -/
def LiveBehind (p : Plant) (ns : String) (running : List RunningWorkload) : Prop :=
  ∀ r ∈ running, ∃ w, Behind p ns r.workloadID r.gpuCount r.profile w ∧ live w = true

/-- What taking their devices away from some workloads does to everything else. -/
structure Evicts (f : Fleet) (ids : List String) (p p' : Plant) : Prop where
  eases : Eases f p p'
  others : ∀ k w, p.cluster.api.lookup k = some w → w.id ∉ ids →
    p'.cluster.api.lookup k = some w
  served : Served p → Served p'

section
variable {f : Fleet} {p p' p'' : Plant} {w : GPUWorkload} {ids ids' : List String}

theorem Evicts.refl (h : Base f p) (ids : List String) : Evicts f ids p p :=
  ⟨h.eases, fun _ _ hw _ => hw, id⟩

theorem Evicts.trans (h : Evicts f ids p p') (h' : Evicts f ids p' p'') :
    Evicts f ids p p'' :=
  ⟨h.eases.trans h'.eases, fun k w hw hid => h'.others k w (h.others k w hw hid) hid,
    fun hs => h'.served (h.served hs)⟩

theorem Evicts.mono (h : Evicts f ids p p') (hsub : ids ⊆ ids') : Evicts f ids' p p' :=
  ⟨h.eases, fun k w hw hid => h.others k w hw (fun hin => hid (hsub hin)), h.served⟩

/-- The victim with its new phase. -/
def preempted (w : GPUWorkload) : GPUWorkload := { w with phase := .preempted }

/-- Marking a live object. -/
theorem evicts_mark (h : Base f p) (hw : p.cluster.api.lookup (key w) = some w) (now : Int) :
    Evicts f [w.id] p (p.update (preempted w) now) := by
  have hadv : Advances f p w (preempted w) := by
    refine ⟨hw, ⟨rfl, rfl, rfl⟩, ?_, fun hb => ?_, h.kept _ w hw, (fun hp => by cases hp),
      (fun hl => by cases hl)⟩
    · show phaseRank w.phase ≤ phaseRank .preempted
      cases w.phase <;> simp [phaseRank]
    · exact (h.mirrored.api _ w hw).2.preempted.dated hb
  have hkey : key (preempted w) = key w := rfl
  have hapi : (p.update (preempted w) now).cluster.api
      = p.cluster.api.insert (key w) (preempted w) := by
    rw [Plant.update, settle_put h.delivered]
    rfl
  refine ⟨h.eases_update hadv (fun hl => by cases hl) now, fun k v hv hid => ?_,
    fun hs k v hv hl => ?_⟩
  · have hk : k ≠ key w := by
      intro hk
      rw [hk, hw] at hv
      rw [Option.some.inj hv] at hid
      exact hid (List.mem_singleton_self _)
    rw [hapi, AList.lookup_insert_ne hk]
    exact hv
  · rw [hapi] at hv
    rcases lookup_insert_eq_some.mp hv with ⟨-, rfl⟩ | ⟨-, hv⟩
    · cases hl
    · exact hs k v hv hl

/-- A change of the runs. -/
theorem evicts_runs (h : Base f p) {s : Simulator} (hp : s.pools = p.sim.pools)
    (ha : s.allocations = p.sim.allocations) (ids : List String) :
    Evicts f ids p { p with sim := s } := by
  refine ⟨⟨h.setRuns hp ha, fun _ _ => le_refl _⟩, fun _ _ hw _ => hw, fun hs k v hv hl => ?_⟩
  rw [ha]
  exact hs k v hv hl

/-- Taking the devices of an object that is not live. -/
theorem evicts_release (h : Base f p) (hw : p.cluster.api.lookup (key w) = some w)
    (hlive : live w = false) {s : Simulator} (hrel : release p.sim w.id = .ok s)
    (ids : List String) : Evicts f ids p (Plant.publish f { p with sim := s }) := by
  have hnot : w.phase ≠ .running := by
    intro hp
    rw [live, hp] at hlive
    cases hlive
  have hs := h.agrees.release hrel (fun k v hv hid => by
    rw [h.eq_of_id hw hv hid]
    exact hnot)
  refine ⟨h.eases_publish hs, fun _ _ hv _ => hv, fun hserved k v hv hl => ?_⟩
  have hne : v.id ≠ w.id := by
    intro hid
    rw [h.eq_of_id hw hv hid, hlive] at hl
    cases hl
  show (s.allocations.lookup v.id).isSome
  rw [release_ok hrel]
  show ((p.sim.allocations.erase w.id).lookup v.id).isSome
  rw [AList.lookup_erase_ne hne]
  exact hserved k v hv hl

/-- The demand after a live object has been marked. -/
theorem demand_mark (h : Base f p) (hw : p.cluster.api.lookup (key w) = some w)
    (hlive : live w = true) (now : Int) :
    demand (p.update (preempted w) now).cluster.api w.ns (normalizeProfileName w.spec.profile)
      = demand p.cluster.api w.ns (normalizeProfileName w.spec.profile) - w.spec.gpuCount := by
  rw [Plant.update, settle_put h.delivered]
  show demand (p.cluster.api.insert (key (preempted w)) (preempted w)) _ _ = _
  have hold : p.cluster.api.lookup (key (preempted w)) = some w := hw
  rw [demand_insert hold, part, part, liveOn, liveOn, hlive]
  simp [preempted, live]

variable (order : MapOrder) (faults : Faults) (runs : String → List String) (now : Int)

/-- The status update of a live victim: it fails and writes nothing, or the victim is
    `Preempted`. -/
theorem calls_markPreempted (h : Base f p) (hw : p.cluster.api.lookup (key w) = some w)
    (hlive : live w = true) :
    (GpuInProcess.calls f order faults runs now).markPreempted w.ns w.name p = (p, false)
      ∨ (GpuInProcess.calls f order faults runs now).markPreempted w.ns w.name p
        = (p.update (preempted w) now, true) := by
  have hcall : (GpuInProcess.calls f order faults runs now).markPreempted w.ns w.name p
      = ({ p with cluster := settle now (markPreempted faults w.ns w.name p.cluster).1 },
        (markPreempted faults w.ns w.name p.cluster).2) := rfl
  rw [hcall, GpuCluster.markPreempted]
  by_cases hf : faults.markPreempted (workloadID w.ns w.name) = true
  · rw [if_pos hf, settle_of_nil h.delivered]
    exact Or.inl rfl
  · have hlook : p.cluster.api.lookup (w.ns, workloadID w.ns w.name) = some w := hw
    have hnot : w.phase ≠ .preempted := by
      intro hp
      rw [live, hp] at hlive
      cases hlive
    rw [if_neg hf, hlook]
    simp only [if_neg hnot]
    exact Or.inr rfl

/-- `Preempt` changes the runs at most. -/
theorem calls_preempt (h : Base f p) (id : String) (ids : List String) :
    ∃ p' ok, (GpuInProcess.calls f order faults runs now).preempt id p = (p', ok)
      ∧ Evicts f ids p p' ∧ p'.cluster.api = p.cluster.api := by
  cases hpre : GpuSimulator.preempt p.sim (runs id) id with
  | error e =>
      refine ⟨p, false, ?_, .refl h ids, rfl⟩
      simp only [GpuInProcess.calls, hpre]
  | ok s =>
      obtain ⟨hp, ha⟩ := preempt_same hpre
      refine ⟨{ p with sim := s }, true, ?_, evicts_runs h hp ha ids, rfl⟩
      simp only [GpuInProcess.calls, hpre]

/-- `Release` takes the devices of an object that is not live. -/
theorem calls_release (h : Base f p) (hw : p.cluster.api.lookup (key w) = some w)
    (hlive : live w = false) (ids : List String) :
    ∃ p' ok, (GpuInProcess.calls f order faults runs now).release w.id p = (p', ok)
      ∧ Evicts f ids p p' ∧ p'.cluster.api = p.cluster.api := by
  cases hrel : GpuSimulator.release p.sim w.id with
  | error e =>
      refine ⟨p, false, ?_, .refl h ids, rfl⟩
      simp only [GpuInProcess.calls, hrel]
  | ok s =>
      refine ⟨Plant.publish f { p with sim := s }, true, ?_,
        evicts_release h hw hlive hrel ids, rfl⟩
      simp only [GpuInProcess.calls, hrel]

/-- A live object stays behind its record when others lose their devices. -/
theorem LiveBehind.evicts {ns : String} {running : List RunningWorkload}
    (h : LiveBehind p ns running) (he : Evicts f ids p p')
    (hids : ∀ r ∈ running, r.workloadID ∉ ids) : LiveBehind p' ns running := by
  intro r hr
  obtain ⟨w, hb, hl⟩ := h r hr
  refine ⟨w, ⟨he.others _ w hb.lookup ?_, hb.ns, hb.id, hb.gpuCount, hb.profile⟩, hl⟩
  rw [hb.id]
  exact hids r hr

/-- One victim: a call fails, or the rest of the victims follow; the victim loses its phase
    and its devices at most, and if all calls succeed the demand drops by what it asked for. -/
theorem evicts_victim {v : RunningWorkload} (rest : List RunningWorkload) (h : Base f p)
    {ns : String} (hw : Behind p ns v.workloadID v.gpuCount v.profile w)
    (hlive : live w = true) :
    ∃ p₁, Evicts f [v.workloadID] p p₁
      ∧ (markVictimsPreemptedAndRelease (GpuInProcess.calls f order faults runs now)
            (v :: rest) p = (p₁, false)
        ∨ (markVictimsPreemptedAndRelease (GpuInProcess.calls f order faults runs now)
              (v :: rest) p
            = markVictimsPreemptedAndRelease (GpuInProcess.calls f order faults runs now) rest p₁
          ∧ demand p₁.cluster.api ns v.profile
            ≤ demand p.cluster.api ns v.profile - v.gpuCount)) := by
  have hkey : workloadKey v.workloadID = some (w.ns, w.name) := by
    rw [← hw.id]
    exact workloadKey_of_accepted (h.agrees.named _ w hw.lookup).2
  rw [markVictimsPreemptedAndRelease, hkey]
  simp only
  rcases calls_markPreempted order faults runs now h hw.lookup hlive with hm | hm
  · rw [hm]
    exact ⟨p, .refl h _, Or.inl rfl⟩
  · have hmark := evicts_mark h hw.lookup now
    rw [hw.id] at hmark
    have hlook : (p.update (preempted w) now).cluster.api.lookup (key (preempted w))
        = some (preempted w) := lookup_update_self h _ now
    have hdrop := demand_mark h hw.lookup hlive now
    rw [hw.ns, hw.profile, hw.gpuCount] at hdrop
    obtain ⟨p₂, ok₂, hpre, he₂, hapi₂⟩ := calls_preempt order faults runs now
      hmark.eases.base v.workloadID [v.workloadID]
    rw [hm]
    simp only [hpre]
    cases ok₂ with
    | false => exact ⟨p₂, hmark.trans he₂, Or.inl rfl⟩
    | true =>
      rw [← hapi₂] at hlook
      obtain ⟨p₃, ok₃, hrel, he₃, hapi₃⟩ := calls_release order faults runs now
        he₂.eases.base hlook rfl [v.workloadID]
      have hid : (preempted w).id = v.workloadID := hw.id
      rw [hid] at hrel
      simp only [hrel]
      refine ⟨p₃, (hmark.trans he₂).trans he₃, ?_⟩
      cases ok₃ with
      | false => exact Or.inl rfl
      | true =>
        refine Or.inr ⟨rfl, ?_⟩
        rw [hapi₃, hapi₂]
        exact le_of_eq hdrop

/-- **EVICTION**: the victims lose their phase and their devices, nobody else does, and
    if all calls succeed the demand drops by what the victims asked for. -/
theorem evicts_victims {ns : String} {victims : List RunningWorkload} (h : Base f p)
    (hb : LiveBehind p ns victims) (hnd : (victims.map RunningWorkload.workloadID).Nodup) :
    Evicts f (victims.map RunningWorkload.workloadID) p
        (markVictimsPreemptedAndRelease (GpuInProcess.calls f order faults runs now) victims p).1
      ∧ ((markVictimsPreemptedAndRelease (GpuInProcess.calls f order faults runs now)
          victims p).2 = true → ∀ profile, (∀ v ∈ victims, v.profile = profile) →
        demand (markVictimsPreemptedAndRelease (GpuInProcess.calls f order faults runs now)
            victims p).1.cluster.api ns profile
          ≤ demand p.cluster.api ns profile - gpuSum victims) := by
  induction victims generalizing p with
  | nil =>
      refine ⟨.refl h _, fun _ profile _ => ?_⟩
      rw [gpuSum_nil, Int.sub_zero]
      exact le_refl _
  | cons v rest ih =>
    obtain ⟨w, hw, hlive⟩ := hb v (List.mem_cons_self ..)
    obtain ⟨hnew, hnd'⟩ := List.nodup_cons.mp hnd
    have hsub : [v.workloadID] ⊆ (v :: rest).map RunningWorkload.workloadID := by
      simp
    obtain ⟨p₁, he₁, hfail | ⟨hgo, hdrop⟩⟩ := evicts_victim order faults runs now rest h hw hlive
    · rw [hfail]
      exact ⟨he₁.mono hsub, fun hok => by cases hok⟩
    -- the other victims are still live
    have hrest : LiveBehind p₁ ns rest := by
      refine LiveBehind.evicts (fun r hr => hb r (List.mem_cons_of_mem _ hr)) he₁ ?_
      intro r hr hin
      rw [← List.mem_singleton.mp hin] at hnew
      exact hnew (List.mem_map.mpr ⟨r, hr, rfl⟩)
    obtain ⟨he, hdemand⟩ := ih he₁.eases.base hrest hnd'
    rw [hgo]
    refine ⟨(he₁.mono hsub).trans (he.mono (List.subset_cons_self _ _)),
      fun hok profile hp => ?_⟩
    have hle := hdemand hok profile (fun r hr => hp r (List.mem_cons_of_mem _ hr))
    rw [hp v (List.mem_cons_self ..)] at hdrop
    rw [gpuSum_cons]
    omega

end

/-! ## Admissions -/

/-- The admitted workload with its new phase. -/
def scheduled (w : GPUWorkload) : GPUWorkload := { w with phase := .scheduled }

/-- What a batch knows of the plant through its working copy: every record has its object,
    and the demand leaves room for what the copy counts as free. -/
structure Tracks (f : Fleet) (ns : String) (working : SchedulingInputs) (p : Plant) :
    Prop where
  queued : ∀ q ∈ working.queuedWorkloads, ∃ w,
    Behind p ns q.workloadID q.gpuCount q.profile w ∧ w.phase = .queued
  running : LiveBehind p ns working.runningWorkloads
  sited : ∀ profile cap, profile ≠ "" → working.fleetFreeCapacity.entry profile = some cap →
    ∃ q ∈ f.pools, q.ns = ns ∧ normalizeProfileName q.profile = profile
  room : ∀ profile, demand p.cluster.api ns profile + freeDevicesOf working profile
    ≤ totalOn f ns profile
  others : ∀ ns' profile, ns' ≠ ns → demand p.cluster.api ns' profile ≤ totalOn f ns' profile

section
variable {f : Fleet} {p p' : Plant} {w : GPUWorkload} {ns : String}
  {working working' : SchedulingInputs}

/-- A batch never starts over its devices. -/
theorem Tracks.withinDevices (h : Tracks f ns working p) (hv : Valid working) :
    WithinDevices f p := by
  intro ns' profile
  by_cases hns : ns' = ns
  · have hroom := h.room profile
    have hfree := freeDevicesOf_nonneg hv profile
    rw [hns]
    omega
  · exact h.others ns' profile hns

/-- An admission keeps the base invariant. -/
theorem base_admitted (h : Base f p) (hw : p.cluster.api.lookup (key w) = some w)
    (hq : w.phase = .queued) (hsited : Sited f w) (now : Int) :
    Base f (p.update (scheduled w) now) := by
  have hadv : Advances f p w (scheduled w) := by
    refine ⟨hw, ⟨rfl, rfl, rfl⟩, ?_, (h.mirrored.api _ w hw).2.scheduled hq |>.dated,
      h.kept _ w hw, (fun hp => by cases hp), fun _ => hsited⟩
    rw [hq]
    show phaseRank .queued ≤ phaseRank .scheduled
    decide
  exact h.update hadv now

/-- An admission adds its workload to the demand on its profile, and nothing else. -/
theorem demand_admitted (h : Base f p) (hw : p.cluster.api.lookup (key w) = some w)
    (hq : w.phase = .queued) (now : Int) (ns profile : String) :
    demand (p.update (scheduled w) now).cluster.api ns profile
      = demand p.cluster.api ns profile
        + if w.ns = ns ∧ normalizeProfileName w.spec.profile = profile then w.spec.gpuCount
          else 0 := by
  have hold : p.cluster.api.lookup (key (scheduled w)) = some w := hw
  have hdead : part (liveOn ns profile) w = 0 := by
    rw [part, liveOn, live, hq]
    simp
  have hlive : part (liveOn ns profile) (scheduled w)
      = if w.ns = ns ∧ normalizeProfileName w.spec.profile = profile then w.spec.gpuCount
        else 0 := by
    have hiff : liveOn ns profile (scheduled w) = true
        ↔ w.ns = ns ∧ normalizeProfileName w.spec.profile = profile := by
      show (decide (w.ns = ns) && decide (normalizeProfileName w.spec.profile = profile)
        && true) = true ↔ _
      simp
    rw [part]
    exact if_congr hiff rfl rfl
  rw [Plant.update, settle_put h.delivered]
  show demand (p.cluster.api.insert (key (scheduled w)) (scheduled w)) ns profile = _
  rw [demand_insert hold, hdead, hlive, Int.sub_zero]

/-- An admission leaves every other object alone. -/
theorem lookup_admitted_ne (h : Base f p) {k : Key} (hk : k ≠ key w) (now : Int) :
    (p.update (scheduled w) now).cluster.api.lookup k = p.cluster.api.lookup k := by
  rw [Plant.update, settle_put h.delivered]
  exact AList.lookup_insert_ne hk

variable (order : MapOrder) (faults : Faults) (runs : String → List String) (now : Int)

/-- The status update of an admission: it fails and writes nothing, or the workload is
    `Scheduled`. -/
theorem calls_patchAdmitted (h : Base f p) (hw : p.cluster.api.lookup (key w) = some w)
    (hq : w.phase = .queued) (reason message : String) :
    (GpuInProcess.calls f order faults runs now).patchAdmitted w.ns w.name reason message p
        = (p, false)
      ∨ (GpuInProcess.calls f order faults runs now).patchAdmitted w.ns w.name reason message p
        = (p.update (scheduled w) now, true) := by
  have hcall : (GpuInProcess.calls f order faults runs now).patchAdmitted w.ns w.name reason
      message p = ({ p with cluster := settle now (patchAdmitted faults w.ns w.name p.cluster).1 },
        (patchAdmitted faults w.ns w.name p.cluster).2) := rfl
  rw [hcall]
  rcases patchAdmitted_cases faults w.ns w.name p.cluster with hsame | ⟨v, hv, hcases⟩
  · rw [hsame, settle_of_nil h.delivered]
    exact Or.inl rfl
  · have hlook : p.cluster.api.lookup (w.ns, workloadID w.ns w.name) = some w := hw
    obtain rfl := Option.some.inj (hlook.symm.trans hv)
    rcases hcases with ⟨hne, -⟩ | ⟨-, hput⟩
    · exact absurd hq hne
    · rw [hput]
      exact Or.inr rfl

/-- A queued record that is eligible has a site. -/
theorem Tracks.sited_of_eligible (h : Tracks f ns working p) (hv : Valid working)
    {q : QueuedWorkload} {cap : ProfileFreeCapacity} (hq : q ∈ working.queuedWorkloads)
    (he : Eligible working q cap) (hb : Behind p ns q.workloadID q.gpuCount q.profile w) :
    Sited f w := by
  have hne : q.profile ≠ "" := ne_empty_of_trim (hv.queued q hq).profile
  obtain ⟨pool, hpool, hns, hprof⟩ := h.sited q.profile cap hne he.entry
  exact ⟨by rw [hb.profile]; exact hne, pool, hpool, hns.trans hb.ns.symm,
    hprof.trans hb.profile.symm⟩

/-- **ONE ITERATION**: whatever it preempts and admits, the demand stays within the
    devices; when it admits nothing, every live object keeps its devices. -/
theorem Tracks.perform (ht : Tracks f ns working p) (h : Base f p) (hv : Valid working)
    (hsel : (selectOneForAdmission working).selectedID ≠ "") {verdict : Verdict}
    (hp : perform (GpuInProcess.calls f order faults runs now) (selectOneForAdmission working) p
      = (p', verdict)) :
    Base f p' ∧ WithinDevices f p' ∧ (verdict ≠ .admitted → Served p → Served p') := by
  obtain ⟨q, cap, hq, hid, he, hcount, hvictims, hnd⟩ := selection_victims hv hsel
  obtain ⟨w, hw, hqueued⟩ := ht.queued q hq
  have hlive : LiveBehind p ns (selectOneForAdmission working).victims :=
    fun v hmem => ht.running v (hvictims v hmem).1
  obtain ⟨hevicts, hdrop⟩ := evicts_victims order faults runs now h hlive hnd
  have hwithin := ht.withinDevices hv
  rw [GpuCycle.perform, markVictims_if] at hp
  rcases hr : markVictimsPreemptedAndRelease (GpuInProcess.calls f order faults runs now)
    (selectOneForAdmission working).victims p with ⟨p₁, ok⟩
  rw [hr] at hp hevicts hdrop
  have hbase := hevicts.eases.base
  have hwithin₁ : WithinDevices f p₁ :=
    fun ns' profile => le_trans (hevicts.eases.demand ns' profile) (hwithin ns' profile)
  cases ok with
  | false =>
      obtain ⟨rfl, rfl⟩ := Prod.mk.inj hp
      exact ⟨hbase, hwithin₁, fun _ => hevicts.served⟩
  | true =>
    -- the selected workload is queued, so it is not among the victims
    have hnotin : w.id ∉ (selectOneForAdmission working).victims.map
        RunningWorkload.workloadID := by
      intro hin
      obtain ⟨v, hmem, hvid⟩ := List.mem_map.mp hin
      obtain ⟨x, hx, hxl⟩ := hlive v hmem
      have hxw : x = w := h.eq_of_id hw.lookup hx.lookup (hx.id.trans hvid)
      rw [hxw, live, hqueued] at hxl
      cases hxl
    have hlook := hevicts.others _ w hw.lookup hnotin
    have hkey : workloadKey (selectOneForAdmission working).selectedID = some (w.ns, w.name) := by
      rw [hid, ← hw.id]
      exact workloadKey_of_accepted (h.agrees.named _ w hw.lookup).2
    simp only [patchWorkloadAdmittedAndScheduled, hkey] at hp
    rcases calls_patchAdmitted order faults runs now hbase hlook hqueued
      (selectOneForAdmission working).reason (selectOneForAdmission working).message
      with hpatch | hpatch
    · rw [hpatch] at hp
      obtain ⟨rfl, rfl⟩ := Prod.mk.inj hp
      exact ⟨hbase, hwithin₁, fun _ => hevicts.served⟩
    · rw [hpatch] at hp
      obtain ⟨rfl, rfl⟩ := Prod.mk.inj hp
      refine ⟨base_admitted hbase hlook hqueued (ht.sited_of_eligible hv hq he hw) now,
        fun ns' profile => ?_, fun hne => absurd rfl hne⟩
      rw [demand_admitted hbase hlook hqueued]
      split_ifs with hsame
      · -- on the workload's own profile the victims and the free devices cover it
        obtain ⟨rfl, rfl⟩ := hsame
        have hle := hdrop rfl q.profile (fun v hmem => (hvictims v hmem).2)
        have hroom := ht.room q.profile
        rw [freeDevicesOf, he.entry] at hroom
        rw [hw.ns, hw.profile, hw.gpuCount]
        simp only at hle hroom
        show demand p₁.cluster.api ns q.profile + q.gpuCount ≤ totalOn f ns q.profile
        omega
      · rw [Int.add_zero]
        exact hwithin₁ ns' profile

/-- The plant after an iteration without victims that admitted its workload. -/
theorem perform_without_victims (h : Base f p) {sel : Selection} (hnil : sel.victims = [])
    (hid : sel.selectedID = w.id) (hw : p.cluster.api.lookup (key w) = some w)
    (hq : w.phase = .queued)
    (hp : perform (GpuInProcess.calls f order faults runs now) sel p = (p', .admitted)) :
    p' = p.update (scheduled w) now := by
  have hkey : workloadKey sel.selectedID = some (w.ns, w.name) := by
    rw [hid]
    exact workloadKey_of_accepted (h.agrees.named _ w hw).2
  rw [GpuCycle.perform, if_pos hnil] at hp
  simp only [patchWorkloadAdmittedAndScheduled, hkey] at hp
  rcases calls_patchAdmitted order faults runs now h hw hq sel.reason sel.message with hc | hc
  · rw [hc] at hp
    cases (Prod.mk.inj hp).2
  · rw [hc] at hp
    exact (Prod.mk.inj hp).1.symm

/-- **A TURN THAT GOES ON** keeps what the batch knows: the devices it takes from the copy
    are the demand it adds. -/
theorem Tracks.goesOn (ht : Tracks f ns working p) (h : Base f p) (hv : Valid working)
    {clock : Int} {it : Iteration} {q : QueuedWorkload} {cap : ProfileFreeCapacity}
    (hid : it.selection.selectedID = q.workloadID)
    (hgo : GoesOn (GpuInProcess.calls f order faults runs now) clock working p it working' p'
      q cap) : Base f p' ∧ Tracks f ns working' p' := by
  obtain ⟨w, hw, hqueued⟩ := ht.queued q hgo.mem
  obtain rfl := perform_without_victims order faults runs now h hgo.victims
    (hid.trans hw.id.symm) hw.lookup hqueued hgo.performed
  have hkeep : ∀ {x}, p.cluster.api.lookup (key x) = some x → x.id ≠ w.id →
      (p.update (scheduled w) now).cluster.api.lookup (key x) = some x := by
    intro x hx hne
    have hk : key x ≠ key w := fun hk => hne (Prod.mk.inj hk).2
    exact (lookup_admitted_ne h hk now).trans hx
  have hdemand : ∀ ns' profile, demand (p.update (scheduled w) now).cluster.api ns' profile
      = demand p.cluster.api ns' profile
        + if ns = ns' ∧ q.profile = profile then q.gpuCount else 0 := by
    intro ns' profile
    rw [demand_admitted h hw.lookup hqueued, hw.ns, hw.profile, hw.gpuCount]
  refine ⟨base_admitted h hw.lookup hqueued (ht.sited_of_eligible hv hgo.mem hgo.eligible hw) now,
    fun x hx => ?_, fun r hr => ?_, fun profile cap' hne hentry => ?_, fun profile => ?_,
    fun ns' profile hns => ?_⟩
  · obtain ⟨hmem, hne⟩ := hgo.mem_queued.mp hx
    obtain ⟨v, hb, hphase⟩ := ht.queued x hmem
    refine ⟨v, ⟨hkeep hb.lookup ?_, hb.ns, hb.id, hb.gpuCount, hb.profile⟩, hphase⟩
    rw [hb.id, hw.id]
    exact hne
  · rw [hgo.eq_afterAdmission] at hr
    rcases List.mem_append.mp hr with hr | hr
    · obtain ⟨v, hb, hl⟩ := ht.running r hr
      refine ⟨v, ⟨hkeep hb.lookup (fun hvid => ?_), hb.ns, hb.id, hb.gpuCount, hb.profile⟩, hl⟩
      rw [h.eq_of_id hw.lookup hb.lookup hvid, live, hqueued] at hl
      cases hl
    · -- the admitted workload is now among the running ones of the copy
      rw [List.mem_singleton.mp hr]
      exact ⟨scheduled w, ⟨lookup_update_self h _ now, hw.ns, hw.id, hw.gpuCount, hw.profile⟩, rfl⟩
  · rw [hgo.eq_afterAdmission, entry_afterAdmission] at hentry
    by_cases hp : profile = q.profile
    · rw [hp]
      rw [hp] at hne
      exact ht.sited q.profile cap hne hgo.eligible.entry
    · rw [if_neg hp] at hentry
      exact ht.sited profile cap' hne hentry
  · have hroom := ht.room profile
    rw [hgo.freeDevicesOf profile] at hroom
    rw [hdemand]
    by_cases hp : q.profile = profile
    · rw [if_pos ⟨rfl, hp⟩]
      rw [if_pos hp] at hroom
      omega
    · rw [if_neg (fun e => hp e.2)]
      rw [if_neg hp] at hroom
      omega
  · rw [hdemand, if_neg (fun e => hns e.1.symm), Int.add_zero]
    exact ht.others ns' profile hns

/-- A snapshot of a plant whose live objects have their devices. -/
theorem tracks_snapshot (h : Base f p) (halone : Alone f) (hserved : Served p)
    {inputs : SchedulingInputs}
    (hsnap : p.cluster.mem.snapshotForNamespace order ns = some inputs) :
    Tracks f ns inputs p := by
  have hspec := snapshot_spec hsnap
  have himage := h.mirrored.image hspec
  have hobject : ∀ {b w}, w ∈ objectsIn p.cluster.store ns b →
      p.cluster.api.lookup (key w) = some w ∧ w.ns = ns ∧ bucket w = some b := by
    intro b w hw
    obtain ⟨hlook, hns, hb⟩ := (mem_objectsIn h.mirrored.keyed_store).mp hw
    rw [h.lookup_store] at hlook
    exact ⟨hlook, hns, hb⟩
  -- the fleet of the snapshot is made of the current statuses
  obtain ⟨g, hg, hfleet⟩ := hspec.fleet
  have hentry : ∀ profile, inputs.fleetFreeCapacity.entry profile
      = (aggregateFleetFromPools (f.statuses p.sim ns)).entry profile := by
    intro profile
    rw [hfleet, ← h.fleet ns g hg]
    rfl
  refine ⟨fun q hq => ?_, fun r hr => ?_, fun profile cap hne hcap => ?_, fun profile => ?_,
    fun ns' profile _ => hserved.withinDevices h halone ns' profile⟩
  · obtain ⟨w, hw, rfl⟩ := List.mem_map.mp (himage.queued.subset hq)
    obtain ⟨hlook, hns, hb⟩ := hobject hw
    exact ⟨w, ⟨hlook, hns, rfl, rfl, rfl⟩, (bucket_eq_queued_iff.mp hb).2⟩
  · obtain ⟨w, hw, rfl⟩ := List.mem_map.mp (himage.running.subset hr)
    obtain ⟨hlook, hns, hb⟩ := hobject hw
    refine ⟨w, ⟨hlook, hns, rfl, rfl, rfl⟩, ?_⟩
    rw [live, (bucket_eq_running_iff.mp hb).2]
    rfl
  · rw [hentry] at hcap
    obtain ⟨-, ⟨q, hq, hprof⟩, -⟩ := entry_aggregate hne hcap
    obtain ⟨r, hr, rfl⟩ := List.mem_map.mp hq
    obtain ⟨hmem, hns⟩ := List.mem_filter.mp hr
    exact ⟨r, hmem, of_decide_eq_true hns, hprof⟩
  · have hsupply := demand_add_free_le h halone hserved ns profile
    rw [freeDevicesOf]
    cases hcap : inputs.fleetFreeCapacity.entry profile with
    | none =>
        simp only
        omega
    | some cap =>
        rw [hentry] at hcap
        have hne : profile ≠ "" := by
          rintro rfl
          rw [entry_aggregate_blank] at hcap
          cases hcap
        have havail := availableOn_statuses_le h ns profile
        rw [← (entry_aggregate hne hcap).1] at havail
        simp only
        omega

/-- **ONE CYCLE** that starts with every live object on its devices keeps the demand
    within the devices. -/
theorem withinDevices_cycle (halone : Alone f) (h : Base f p) (hserved : Served p)
    (maxAdmissionsPerCycle : Int) {clock : String → Int} {namespaces : List String}
    (hclock : ∀ ns ∈ namespaces, clock ns ≠ 0) :
    Base f (runSchedulingCycle (GpuInProcess.calls f order faults runs now)
        maxAdmissionsPerCycle clock namespaces p)
      ∧ WithinDevices f (runSchedulingCycle (GpuInProcess.calls f order faults runs now)
        maxAdmissionsPerCycle clock namespaces p) := by
  refine runSchedulingCycle_rule (I := fun p => Base f p ∧ Served p)
    (Q := fun p => Base f p ∧ WithinDevices f p)
    (fun p hp => ⟨hp.1, hp.2.withinDevices hp.1 halone⟩)
    (fun ns inputs p hp hsnap hv hns => ⟨?_, ?_⟩) hclock ⟨h, hserved⟩
  · -- a batch without an admission has made at most one failed attempt
    have htracks := tracks_snapshot order hp.1 halone hp.2 hsnap
    refine batch_no_admission (I := fun p => Base f p ∧ Served p) hp
      (fun it working' p' hturn hne => ?_) hv
    obtain ⟨-, hsel, hid, hperform⟩ := turn_selects (Or.inl hturn)
    rw [hsel] at hid hperform
    obtain ⟨hbase, -, hs⟩ := htracks.perform order faults runs now hp.1 hv hid hperform
    exact ⟨hbase, hs hne hp.2⟩
  · refine batch_state hns (J := fun _ working p => Base f p ∧ Tracks f ns working p)
      (Q := fun p => Base f p ∧ WithinDevices f p) ?_ ?_ ?_ ?_ _ hv
      ⟨hp.1, tracks_snapshot order hp.1 halone hp.2 hsnap⟩
    · intro working p hv hJ
      exact ⟨hJ.1, hJ.2.withinDevices hv⟩
    · intro _ working p hv hJ _
      exact ⟨hJ.1, hJ.2.withinDevices hv⟩
    · intro _ it q cap working' p p' hv _ hJ hturn
      obtain ⟨-, hsel, hid, hperform⟩ := turn_selects (Or.inl hturn)
      rw [hsel] at hid hperform
      obtain ⟨hbase, hwithin, -⟩ := hJ.2.perform order faults runs now hJ.1 hv hid hperform
      exact ⟨hbase, hwithin⟩
    · intro _ it q cap working' p p' hv hd hgo hJ
      exact hJ.2.goesOn order faults runs now hJ.1 hv hd.id hgo

end

/-! ## Runs -/

/-- A cycle starts when everything `Scheduled` has its devices. -/
def AllocatedFirst (p : Plant) : GpuInProcess.Label → Prop
  | .cycle _ _ _ _ _ _ => ∀ w ∈ values p.cluster.api, w.phase = .scheduled →
      (p.sim.allocations.lookup w.id).isSome
  | _ => True

instance (p : Plant) (a : GpuInProcess.Label) : Decidable (AllocatedFirst p a) :=
  match a with
  | .create _ _ | .reconcile _ _ => inferInstanceAs (Decidable True)
  | .cycle _ _ _ _ _ _ => inferInstanceAs (Decidable (∀ w ∈ values p.cluster.api, _ → _))

section
variable {f : Fleet} {p p' : Plant} {verbs : Verbs} {est : Estimator}
  {maxAdmissionsPerCycle : Int}

/-- What is `Running` has its devices anyway. -/
theorem served_of_scheduled (h : Base f p)
    (hs : ∀ w ∈ values p.cluster.api, w.phase = .scheduled →
      (p.sim.allocations.lookup w.id).isSome) : Served p := by
  intro k w hw hl
  rw [live, Bool.or_eq_true, decide_eq_true_eq, decide_eq_true_eq] at hl
  rcases hl with hl | hl
  · exact hs w (mem_values.mpr ⟨k, hw⟩) hl
  · exact h.agrees.running k w hw hl

/-- STEP: arrivals and reconciles add no demand, and a cycle stays within the devices. -/
theorem step_withinDevices (halone : Alone f) {a : GpuInProcess.Label}
    (h : Base f p ∧ WithinDevices f p) (hC : AllocatedFirst p a)
    (hs : GpuInProcess.step verbs est f maxAdmissionsPerCycle p a = some p') :
    Base f p' ∧ WithinDevices f p' := by
  obtain ⟨hbase, hwithin⟩ := h
  have heases : Eases f p p' → Base f p' ∧ WithinDevices f p' :=
    fun he => ⟨he.base, fun ns profile => le_trans (he.demand ns profile) (hwithin ns profile)⟩
  cases a with
  | create w now =>
      simp only [GpuInProcess.step] at hs
      split_ifs at hs with hw
      obtain rfl := Option.some.inj hs
      obtain ⟨hacc, hnone, hphase, -, hd⟩ := hw
      exact heases (hbase.eases_create hacc hnone hphase hd now)
  | reconcile x k =>
      simp only [GpuInProcess.step] at hs
      split_ifs at hs with hx
      obtain rfl := Option.some.inj hs
      exact heases (hbase.eases_reconcile hx.1 hx.2.2 verbs est k)
  | cycle order faults runs clock now namespaces =>
      simp only [GpuInProcess.step] at hs
      split_ifs at hs with hen
      obtain rfl := Option.some.inj hs
      have hserved := served_of_scheduled hbase hC
      have hbase' : Base f { p with cluster := { p.cluster with trigger := false } } :=
        ⟨hbase.mirrored.frame false (fun _ _ => rfl), hbase.delivered, hbase.kept, hbase.fleet,
          hbase.agrees⟩
      exact withinDevices_cycle order faults runs clock halone hbase' hserved
        maxAdmissionsPerCycle hen.2.2

/-- **NO OVER-COMMITMENT** in a run whose cycles start after the allocation of everything
    that is `Scheduled`, when no profile is offered by two namespaces: in every state
    reached, the GPUs `Scheduled` or `Running` on a profile are within its devices. -/
theorem within_devices_of_runs {as : List GpuInProcess.Label} (halone : Alone f)
    (h : Runs (GpuInProcess.step verbs est f maxAdmissionsPerCycle) AllocatedFirst
      (GpuInProcess.start f) as p) (ns profile : String) :
    demand p.cluster.api ns profile ≤ totalOn f ns profile := by
  have hbase := base_start f
  have hserved : Served (GpuInProcess.start f) := by
    intro k w hw
    cases hw
  exact (h.invariant (fun _ _ _ hp hC hst => step_withinDevices halone hp hC hst)
    ⟨hbase, hserved.withinDevices hbase halone⟩).2 ns profile

end

/-! ## One device -/

/-- A pool with a single device. -/
def oneDevice : Fleet where
  pools := [⟨"ns", "pool", 1, 1, 80, "h100_sxm", none, 0⟩]
  qualified q hq := by
    rw [List.mem_singleton.mp hq]
    exact ⟨"ns", "pool", by decide, by decide, by decide⟩
  distinct := List.nodup_singleton _
  buildable q hq := by
    rw [List.mem_singleton.mp hq]
    exact ⟨_, rfl⟩

/-- A workload for one device, as it is created. -/
def arrival (name : String) : GPUWorkload :=
  { ns := "ns", name := name, annotations := ∅, deletionTimestamp := none
    spec := ⟨"team", 1, 1, 40, "h100_sxm", 5, .training⟩, phase := .unset, queuedAt := none }

/-- A reconcile of one of them; `runs` are the runs of the simulator. -/
def reconcileOf (runs : List String) (name : String) : GpuInProcess.Label :=
  .reconcile ⟨["ns/pool"], runs, 3, ⟨"", 0, "", .training, none, none, none, none, none, none,
    none, none, none⟩⟩ ("ns", "ns/" ++ name)

/-- One scheduling cycle. -/
def oneCycle : GpuInProcess.Label :=
  .cycle .entries .none (fun _ => ["run-1"]) 4 (fun _ => 5) ["ns"]

/-- Two arrivals, each followed by a cycle; the steps `between` come in between. -/
def twoArrivals (between : List GpuInProcess.Label) (runs : List String) :
    List GpuInProcess.Label :=
  [.create (arrival "a") 1, reconcileOf [] "a", oneCycle] ++ between
    ++ [.create (arrival "b") 2, reconcileOf runs "b", oneCycle]

/-- What is asked of the device. -/
def report (p : Plant) : Int := demand p.cluster.api "ns" "h100_sxm"

/-- The first workload is reconciled before the second cycle: one of the two has the
    device. -/
theorem within_devices_reconciledFirst :
    ∃ p, Runs (GpuInProcess.step allPrint (fun _ _ _ => .ok 1) oneDevice 1) AllocatedFirst
        (GpuInProcess.start oneDevice) (twoArrivals [reconcileOf [] "a"] ["run-1"]) p
      ∧ demand p.cluster.api "ns" "h100_sxm" = 1
      ∧ ∀ ns profile, demand p.cluster.api ns profile ≤ totalOn oneDevice ns profile := by
  have hexec : (exec (guarded
        (GpuInProcess.step allPrint (fun _ _ _ => .ok 1) oneDevice 1) AllocatedFirst)
      (GpuInProcess.start oneDevice) (twoArrivals [reconcileOf [] "a"] ["run-1"])).map report
      = some 1 := by decide +kernel
  obtain ⟨p, hp, hreport⟩ := Option.map_eq_some_iff.mp hexec
  have hrun := Runs.of_exec_guarded hp
  exact ⟨p, hrun, hreport, within_devices_of_runs (by decide +kernel) hrun⟩

/-- The second cycle comes first: both workloads are `Scheduled` on the one device. -/
theorem secondCycle_overcommits :
    ¬∀ (verbs : Verbs) (est : Estimator) (f : Fleet) (maxAdmissionsPerCycle : Int)
      (as : List GpuInProcess.Label) (p : Plant),
      Runs (GpuInProcess.step verbs est f maxAdmissionsPerCycle) Always (GpuInProcess.start f)
        as p →
      ∀ ns profile, demand p.cluster.api ns profile ≤ totalOn f ns profile := by
  intro h
  have hexec : (exec (GpuInProcess.step allPrint (fun _ _ _ => .ok 1) oneDevice 1)
      (GpuInProcess.start oneDevice) (twoArrivals [] [])).map report = some 2 := by
    decide +kernel
  obtain ⟨p, hp, hreport⟩ := Option.map_eq_some_iff.mp hexec
  have hle := h allPrint _ oneDevice 1 _ p (Runs.of_exec hp) "ns" "h100_sxm"
  have htotal : totalOn oneDevice "ns" "h100_sxm" = 1 := by decide +kernel
  rw [report] at hreport
  omega

end GpuOvercommit
