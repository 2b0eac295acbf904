import Mathlib

/-! # 64-bit integers

    An `int64`, and an `int` on a 64-bit machine, is an integer of the range
    `-2 ^ 63 ≤ x < 2 ^ 63`.  An operation whose exact result is outside of it does not fail:
    it wraps around.  `wrap` is that reduction, applied to the exact result, so a sum that
    fits is the exact one (`wrap_of_fits`) and a loop of additions is reduced once, at its
    end (`runningSum_eq`). -/

namespace GoInt

/-- The value is one of 64 bits. -/
def Fits (x : Int) : Prop := -2 ^ 63 ≤ x ∧ x < 2 ^ 63

instance (x : Int) : Decidable (Fits x) :=
  inferInstanceAs (Decidable (-2 ^ 63 ≤ x ∧ x < 2 ^ 63))

/-- The 64-bit value of an exact result. -/
def wrap (x : Int) : Int := Int.bmod x (2 ^ 64)

theorem wrap_of_fits {x : Int} (h : Fits x) : wrap x = x := by
  obtain ⟨hlow, hhigh⟩ := h
  rw [wrap, Int.bmod_def]
  split_ifs <;> omega

/-- Above the range, but not by more than its length, one length is subtracted. -/
theorem wrap_of_ge {x : Int} (hlow : 2 ^ 63 ≤ x) (hhigh : x < 2 ^ 63 + 2 ^ 64) :
    wrap x = x - 2 ^ 64 := by
  rw [wrap, Int.bmod_def]
  split_ifs <;> omega

/-- A reduction before an addition is lost in the one after it. -/
theorem wrap_wrap_add (x y : Int) : wrap (wrap x + y) = wrap (x + y) :=
  Int.bmod_add_bmod

/-- What lies between zero and a value that fits. -/
theorem Fits.of_nonneg {x y : Int} (h : Fits y) (hx : 0 ≤ x) (hle : x ≤ y) : Fits x := by
  obtain ⟨-, hhigh⟩ := h
  exact ⟨by omega, by omega⟩

/-! ## Loops of additions -/

/-- `for _, x := range xs { sum += x }`, where `norm` says what is kept of a sum: all of it
    (`id`), or 64 bits (`wrap`). -/
def runningSum (norm : Int → Int) (sum : Int) (xs : List Int) : Int :=
  xs.foldl (fun s x => norm (s + x)) sum

/-- **ONE REDUCTION**: where a reduction before an addition is lost in the one after it, the
    loop ends in the exact sum, reduced. -/
theorem runningSum_eq {norm : Int → Int} (hadd : ∀ x y, norm (norm x + y) = norm (x + y))
    {sum : Int} (h : norm sum = sum) (xs : List Int) :
    runningSum norm sum xs = norm (sum + xs.sum) := by
  induction xs generalizing sum with
  | nil => rw [List.sum_nil, Int.add_zero, h, runningSum, List.foldl_nil]
  | cons x xs ih =>
      have hstep : runningSum norm sum (x :: xs) = runningSum norm (norm (sum + x)) xs := rfl
      have hkept : norm (norm (sum + x)) = norm (sum + x) := by
        have hzero := hadd (sum + x) 0
        rwa [Int.add_zero, Int.add_zero] at hzero
      rw [hstep, ih hkept, hadd, List.sum_cons, Int.add_assoc]

theorem runningSum_wrap {sum : Int} (h : Fits sum) (xs : List Int) :
    runningSum wrap sum xs = wrap (sum + xs.sum) :=
  runningSum_eq wrap_wrap_add (wrap_of_fits h) xs

theorem runningSum_id (sum : Int) (xs : List Int) : runningSum id sum xs = sum + xs.sum :=
  runningSum_eq (fun _ _ => rfl) rfl xs

end GoInt
