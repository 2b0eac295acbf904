import Mathlib

/-! # Memory cells and pointers

    Memory as a Go program sees it.  Each type `i` has its own cells, a pointer to it is nil or
    the address of one of them, and a write through a pointer changes one cell.  A struct
    of pointers, at most one for each type, is what the program passes and stores; `load` reads
    through all of them.

    Two structs that share a pointer see each other's writes.  A struct that shares none sees
    nothing of an edit (`load_edit_of_ne`). -/

namespace GoHeap

/-- The address of a cell. -/
abbrev Addr := Nat

variable {ι : Type*} [DecidableEq ι] {Cell : ι → Type*}

/-- The cells of every type. -/
abbrev Heap (Cell : ι → Type*) := (i : ι) → Addr → Cell i

/-- A struct of pointers; nil is `none`. -/
abbrev Pointers (ι : Type*) := ι → Option Addr

/-- What the pointers point to. -/
def load (h : Heap Cell) (ptrs : Pointers ι) (i : ι) : Option (Cell i) := (ptrs i).map (h i)

/-- `*p = v`. -/
def write (h : Heap Cell) (i : ι) (a : Addr) (v : Cell i) : Heap Cell :=
  Function.update h i (Function.update (h i) a v)

/-- `if s.i == nil { s.i = &T{} }; *s.i = f(*s.i)`: the new cell is at `fresh` and holds
    `zero` before it is written. -/
def edit (h : Heap Cell) (fresh : Addr) (ptrs : Pointers ι) (i : ι) (zero : Cell i)
    (f : Cell i → Cell i) : Heap Cell × Pointers ι :=
  match ptrs i with
  | some a => (write h i a (f (h i a)), ptrs)
  | none => (write h i fresh (f zero), Function.update ptrs i (some fresh))

theorem write_self (h : Heap Cell) (i : ι) (a : Addr) (v : Cell i) : write h i a v i a = v := by
  rw [write, Function.update_self, Function.update_self]

theorem write_of_ne {h : Heap Cell} {i j : ι} {a b : Addr} {v : Cell i}
    (hne : i = j → a ≠ b) : write h i a v j b = h j b := by
  by_cases hij : i = j
  · subst hij
    rw [write, Function.update_self, Function.update_of_ne (hne rfl).symm]
  · rw [write, Function.update_of_ne (Ne.symm hij)]

/-- A write is seen through the pointer it was made through. -/
theorem load_write_self (h : Heap Cell) (ptrs : Pointers ι) (i : ι) (a : Addr) (v : Cell i) :
    load (write h i a v) (Function.update ptrs i (some a))
      = Function.update (load h ptrs) i (some v) := by
  funext j
  by_cases hij : j = i
  · subst hij
    rw [load, Function.update_self, Function.update_self, Option.map_some, write_self]
  · rw [load, Function.update_of_ne hij, Function.update_of_ne hij, load]
    exact congrArg (fun cells => (ptrs j).map cells) (Function.update_of_ne hij _ _)

/-- A write is not seen through pointers to other cells. -/
theorem load_write_of_ne {h : Heap Cell} {ptrs : Pointers ι} {i : ι} {a : Addr} {v : Cell i}
    (hne : ptrs i ≠ some a) : load (write h i a v) ptrs = load h ptrs := by
  funext j
  refine Option.map_congr (fun b hb => write_of_ne ?_)
  rintro rfl rfl
  exact hne hb

/-- Through the edited struct the edit is seen. -/
theorem load_edit (h : Heap Cell) (fresh : Addr) (ptrs : Pointers ι) (i : ι) (zero : Cell i)
    (f : Cell i → Cell i) :
    load (edit h fresh ptrs i zero f).1 (edit h fresh ptrs i zero f).2
      = Function.update (load h ptrs) i (some (f ((load h ptrs i).getD zero))) := by
  have hload : load h ptrs i = (ptrs i).map (h i) := rfl
  cases hptr : ptrs i with
  | some a =>
      rw [hload, hptr, Option.map_some, Option.getD_some]
      simp only [edit, hptr]
      have hself : Function.update ptrs i (some a) = ptrs := by
        rw [← hptr, Function.update_eq_self]
      rw [← load_write_self, hself]
  | none =>
      rw [hload, hptr, Option.map_none, Option.getD_none]
      simp only [edit, hptr]
      exact load_write_self h ptrs i fresh (f zero)

/-- **NO ALIASING**: an edit is not seen through another struct that holds neither the pointer
    nor the new cell. -/
theorem load_edit_of_ne {h : Heap Cell} {fresh : Addr} {ptrs other : Pointers ι} {i : ι}
    {zero : Cell i} {f : Cell i → Cell i} (hfresh : other i ≠ some fresh)
    (hother : ∀ a, ptrs i = some a → other i ≠ some a) :
    load (edit h fresh ptrs i zero f).1 other = load h other := by
  cases hptr : ptrs i with
  | some a =>
      simp only [edit, hptr]
      exact load_write_of_ne (hother a hptr)
  | none =>
      simp only [edit, hptr]
      exact load_write_of_ne hfresh

end GoHeap
