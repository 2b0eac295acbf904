import Mathlib

/-! # Programs that draw random numbers

    A `*rand.Rand` is a state and a few methods; all that a program may rely on are the
    ranges of the methods.  `Every` says what holds of the result of a program whatever is
    drawn; its rules follow the program text. -/

namespace GoRand

variable {R α β : Type}

/-- Whatever is drawn, the result has the property. -/
def Every (p : StateM R α) (Q : α → Prop) : Prop := ∀ r, Q (p.run r).1

theorem Every.pure {a : α} {Q : α → Prop} (h : Q a) : Every (Pure.pure a : StateM R α) Q :=
  fun _ => h

/-- A draw of which nothing is known. -/
theorem Every.any (p : StateM R α) : Every p (fun _ => True) := fun _ => trivial

/-- **RULE OF SEQUENCE**. -/
theorem Every.bind {p : StateM R α} {f : α → StateM R β} {P : α → Prop} {Q : β → Prop}
    (hp : Every p P) (hf : ∀ a, P a → Every (f a) Q) : Every (p >>= f) Q :=
  fun r => hf _ (hp r) (p.run r).2

/-- The methods of a `*rand.Rand`, with their ranges. -/
structure MathRand (R : Type) where
  int63 : StateM R Nat
  intn : Nat → StateM R Nat
  int63n : Nat → StateM R Nat
  float32 : StateM R Rat
  float64 : StateM R Rat
  every_int63 : Every int63 (fun n => n < 2 ^ 63)
  every_intn : ∀ n, 0 < n → Every (intn n) (fun i => i < n)
  every_int63n : ∀ n, 0 < n → Every (int63n n) (fun i => i < n)
  every_float64 : Every float64 (fun x => 0 ≤ x ∧ x < 1)

/-- The rounding of `float64`: it keeps the order, and the numbers that it has come to. -/
structure Float64 where
  round : Rat → Rat
  mono : ∀ x y, x ≤ y → round x ≤ round y
  round_round : ∀ x, round (round x) = round x
  round_zero : round 0 = 0
  round_one : round 1 = 1

/-- No rounding. -/
def exactFloat : Float64 := ⟨id, fun _ _ h => h, fun _ => rfl, rfl, rfl⟩

variable (rand : MathRand R)

/-- The element of a list at a random index. -/
def MathRand.pick (l : List α) (h : l ≠ []) : StateM R α := do
  let i ← rand.intn l.length
  return l.getD i (l.head h)

theorem MathRand.every_pick (l : List α) (h : l ≠ []) : Every (rand.pick l h) (fun a => a ∈ l) := by
  refine (rand.every_intn _ (List.length_pos_of_ne_nil h)).bind (fun i hi => .pure ?_)
  rw [List.getD_eq_getElem _ _ hi]
  exact List.getElem_mem hi

end GoRand
