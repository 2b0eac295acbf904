import Mathlib

/-! # Loops without a bound

    `for cond { body }` runs until the condition fails, and nothing in the language says
    that it does.  `Ends cond body s t` is the loop as the language runs it: from `s` it
    stops, in `t`.  A loop of the model that counts its turns down is connected to it by
    a measure that each turn lowers (`ends_iterate`). -/

namespace GoLoops

variable {σ : Type*} {cond : σ → Bool} {body : σ → σ}

/-- The loop, started in one state, stops in another. -/
inductive Ends (cond : σ → Bool) (body : σ → σ) : σ → σ → Prop where
  | stop {s : σ} : cond s = false → Ends cond body s s
  | turn {s t : σ} : cond s = true → Ends cond body (body s) t → Ends cond body s t

/-- At most `n` turns of the loop. -/
def iterate (cond : σ → Bool) (body : σ → σ) : Nat → σ → σ
  | 0, s => s
  | n + 1, s => if cond s then iterate cond body n (body s) else s

/-- **TERMINATION**: what every turn lowers bounds the turns. -/
theorem ends_iterate (rank : σ → Nat) (hturn : ∀ s, cond s = true → rank (body s) < rank s) :
    ∀ (n : Nat) (s : σ), rank s ≤ n → Ends cond body s (iterate cond body n s) := by
  intro n
  induction n with
  | zero =>
      intro s hrank
      refine .stop (Bool.eq_false_iff.mpr (fun hcond => ?_))
      have hless := hturn s hcond
      omega
  | succ n ih =>
      intro s hrank
      rw [iterate]
      split_ifs with hcond
      · have hless := hturn s hcond
        exact .turn hcond (ih (body s) (by omega))
      · exact .stop (Bool.eq_false_iff.mpr hcond)

end GoLoops
