import Mathlib

/-! # Runs of a labelled step system

    A component that takes one labelled step after another is a partial function
    `step : σ → α → Option σ`: `none` when the label is not enabled.  `Runs step C`
    collects the finite runs all of whose steps meet a condition `C` on the state
    before the step and on the label; `Runs step Always` are all runs.

    A safety property is proved by one step lemma and the invariant rule below,
    and refuted by one concrete list of labels (`Runs.of_exec`). -/

namespace StepRuns

variable {σ α : Type*}

/-- The condition that every step meets. -/
def Always (_ : σ) (_ : α) : Prop := True

/-- The finite runs from one state to another whose steps all meet `C`. -/
inductive Runs (step : σ → α → Option σ) (C : σ → α → Prop) :
    σ → List α → σ → Prop where
  | nil (s : σ) : Runs step C s [] s
  | cons {s t u : σ} {a : α} {as : List α} :
      C s a → step s a = some t → Runs step C t as u → Runs step C s (a :: as) u

/-- Execute a list of labels; `none` as soon as one is not enabled. -/
def exec (step : σ → α → Option σ) : σ → List α → Option σ
  | s, [] => some s
  | s, a :: as => (step s a).bind (fun t => exec step t as)

variable {step : σ → α → Option σ} {C : σ → α → Prop}

/-- **INVARIANT RULE**: what every admitted step preserves, every run preserves. -/
theorem Runs.invariant {Inv : σ → Prop}
    (hstep : ∀ s a t, Inv s → C s a → step s a = some t → Inv t)
    {s t : σ} {as : List α} (h : Runs step C s as t) (hs : Inv s) : Inv t := by
  induction h with
  | nil s => exact hs
  | cons hC hst _ ih => exact ih (hstep _ _ _ hs hC hst)

/-- **HISTORY RULE**: an invariant of the state and of the labels so far. -/
theorem Runs.history {Inv : List α → σ → Prop}
    (hstep : ∀ past s a t, Inv past s → C s a → step s a = some t → Inv (past ++ [a]) t)
    {s t : σ} {as : List α} (h : Runs step C s as t) {past : List α} (hs : Inv past s) :
    Inv (past ++ as) t := by
  induction h generalizing past with
  | nil s =>
      rw [List.append_nil]
      exact hs
  | cons hC hst _ ih =>
      have hnext := ih (hstep past _ _ _ hs hC hst)
      rw [List.append_assoc] at hnext
      exact hnext

/-- A run under a condition is a run. -/
theorem Runs.weaken {D : σ → α → Prop} (hCD : ∀ s a, C s a → D s a)
    {s t : σ} {as : List α} (h : Runs step C s as t) : Runs step D s as t := by
  induction h with
  | nil s => exact .nil s
  | cons hC hst _ ih => exact .cons (hCD _ _ hC) hst ih

/-- A condition on labels that all labels of a run meet. -/
theorem Runs.and_labels {D : α → Prop} {s t : σ} {as : List α} (h : Runs step C s as t)
    (hD : ∀ a ∈ as, D a) : Runs step (fun s a => C s a ∧ D a) s as t := by
  induction h with
  | nil s => exact .nil s
  | cons hC hst _ ih =>
      exact .cons ⟨hC, hD _ (List.mem_cons_self ..)⟩ hst
        (ih (fun a ha => hD a (List.mem_cons_of_mem _ ha)))

/-- Executing a list of labels is a run. -/
theorem Runs.of_exec {s t : σ} {as : List α} (h : exec step s as = some t) :
    Runs step Always s as t := by
  induction as generalizing s with
  | nil =>
      have hst : s = t := Option.some.inj h
      rw [hst]
      exact .nil t
  | cons a as ih =>
      obtain ⟨u, hu, hrest⟩ := Option.bind_eq_some_iff.mp h
      exact .cons trivial hu (ih hrest)

/-- The step, refused where a decidable condition fails. -/
def guarded (step : σ → α → Option σ) (C : σ → α → Prop) [∀ s a, Decidable (C s a)]
    (s : σ) (a : α) : Option σ :=
  if C s a then step s a else none

/-- Executing a list of labels with the condition checked is a run under the condition. -/
theorem Runs.of_exec_guarded [∀ s a, Decidable (C s a)] {s t : σ} {as : List α}
    (h : exec (guarded step C) s as = some t) : Runs step C s as t := by
  induction as generalizing s with
  | nil =>
      have hst : s = t := Option.some.inj h
      rw [hst]
      exact .nil t
  | cons a as ih =>
      obtain ⟨u, hu, hrest⟩ := Option.bind_eq_some_iff.mp h
      rw [guarded] at hu
      by_cases hC : C s a
      · rw [if_pos hC] at hu
        exact .cons hC hu (ih hrest)
      · rw [if_neg hC] at hu
        cases hu

/-- Executing labels one after another. -/
theorem exec_cons_of_some {s t : σ} {a : α} (h : step s a = some t) (as : List α) :
    exec step s (a :: as) = exec step t as := by
  rw [exec, h]
  rfl

/-- **EXACT CONDITION RULE**: if, from a state with `P`, a step keeps `P` exactly when it
    meets `C`, then an execution has `P` in every state exactly when it is a run under `C`. -/
theorem every_state_iff_runs {I P : σ → Prop}
    (hinv : ∀ s a t, I s → step s a = some t → I t)
    (hstep : ∀ s a t, I s → P s → step s a = some t → (P t ↔ C s a))
    {s u : σ} {as : List α} (hexec : exec step s as = some u) (hs : I s) (hP : P s) :
    (∀ pre suf t, as = pre ++ suf → exec step s pre = some t → P t) ↔ Runs step C s as u := by
  induction as generalizing s with
  | nil =>
      have hsu : s = u := Option.some.inj hexec
      constructor
      · intro _
        rw [hsu]
        exact .nil u
      · intro _ pre suf t hpre ht
        obtain ⟨rfl, -⟩ := List.append_eq_nil_iff.mp hpre.symm
        rw [← Option.some.inj ht]
        exact hP
  | cons a as ih =>
      obtain ⟨t, ht, hrest⟩ := Option.bind_eq_some_iff.mp hexec
      have hone := hstep s a t hs hP ht
      constructor
      · intro hall
        have hPt : P t := hall [a] as t rfl (exec_cons_of_some ht [])
        refine .cons (hone.mp hPt) ht ((ih hrest (hinv s a t hs ht) hPt).mp ?_)
        intro pre suf v hpre hv
        exact hall (a :: pre) suf v (by rw [hpre, List.cons_append])
          (by rw [exec_cons_of_some ht]; exact hv)
      · intro hruns pre suf v hpre hv
        cases hruns with
        | cons hC ht' htail =>
            rw [ht] at ht'
            obtain rfl := Option.some.inj ht'
            cases pre with
            | nil =>
                rw [← Option.some.inj hv]
                exact hP
            | cons b pre =>
                obtain ⟨rfl, hsuf⟩ := List.cons_eq_cons.mp hpre
                rw [exec_cons_of_some ht] at hv
                exact (ih hrest (hinv _ _ _ hs ht) (hone.mpr hC)).mpr htail pre suf v hsuf hv

/-! ## Needs and their carriers -/

section
variable {κ ι : Type*} {need need' : κ → Prop} {carries carries' : ι → κ → Prop}

/-- Every need has a carrier. -/
def Covered (need : κ → Prop) (carries : ι → κ → Prop) : Prop := ∀ k, need k → ∃ i, carries i k

/-- **ONE NEED AT A TIME**: when a step adds no needs but one and takes no carriers but from
    that one, everything is covered afterwards exactly when that one is. -/
theorem Covered.step_iff (h : Covered need carries) {k : κ}
    (hneed : ∀ l, l ≠ k → need' l → need l)
    (hcarries : ∀ l, l ≠ k → ∀ i, carries i l → ∃ j, carries' j l) :
    Covered need' carries' ↔ (need' k → ∃ i, carries' i k) := by
  constructor
  · exact fun hall => hall k
  · intro hk l hl
    by_cases heq : l = k
    · rw [heq] at hl ⊢
      exact hk hl
    · obtain ⟨i, hi⟩ := h l (hneed l heq hl)
      exact hcarries l heq i hi

/-- A step that adds no needs and moves every carried need to some carrier. -/
theorem Covered.mono (h : Covered need carries) (hneed : ∀ k, need' k → need k)
    (hcarries : ∀ k i, carries i k → ∃ j, carries' j k) : Covered need' carries' := by
  intro k hk
  obtain ⟨i, hi⟩ := h k (hneed k hk)
  exact hcarries k i hi

end

end StepRuns
