import Mathlib

/-! # A versioned object

    One object of a store that stamps every write with a fresh version.  A write is
    unconditional (`put`) or made against a version read before (`cas`), which fails as
    soon as anything else has been written.

    Clients hold copies.  A copy stays behind the object, and one that still has its
    version still has its value (`CopyOf`); so a `cas` that succeeds was made against
    the value the client read (`cas_eq_some_iff`).

    A reader behind a cache may be handed any version the object has had.  `History` keeps
    them all, and everything it hands out is a copy (`History.copyOf_read`). -/

namespace VersionedStore

variable {V : Type}

/-- A value with its version. -/
structure Versioned (V : Type) where
  version : Nat
  value : V
  deriving DecidableEq, Repr

/-- An unconditional write. -/
def Versioned.put (s : Versioned V) (v : V) : Versioned V := ⟨s.version + 1, v⟩

/-- A write made against a version; `none` is a conflict. -/
def Versioned.cas (s : Versioned V) (version : Nat) (v : V) : Option (Versioned V) :=
  if version = s.version then some (s.put v) else none

/-- A copy read at some time in the past. -/
structure CopyOf (s c : Versioned V) : Prop where
  le : c.version ≤ s.version
  same : c.version = s.version → c = s

theorem CopyOf.refl (s : Versioned V) : CopyOf s s := ⟨Nat.le_refl _, fun _ => rfl⟩

/-- A write leaves every copy behind. -/
theorem CopyOf.put {s c : Versioned V} (h : CopyOf s c) (v : V) : CopyOf (s.put v) c :=
  ⟨Nat.le_succ_of_le h.le, fun heq => absurd heq (Nat.ne_of_lt (Nat.lt_succ_of_le h.le))⟩

/-- **A CONDITIONAL WRITE SEES WHAT IT READ**: made with a copy, it succeeds exactly when
    the object is still the copy. -/
theorem cas_eq_some_iff {s c t : Versioned V} {v : V} (h : CopyOf s c) :
    s.cas c.version v = some t ↔ c = s ∧ t = s.put v := by
  rw [Versioned.cas]
  constructor
  · intro heq
    by_cases hver : c.version = s.version
    · rw [if_pos hver] at heq
      exact ⟨h.same hver, (Option.some.inj heq).symm⟩
    · rw [if_neg hver] at heq
      cases heq
  · rintro ⟨rfl, rfl⟩
    rw [if_pos rfl]

/-! ## Stale reads -/

/-- An object together with the versions it had before. -/
structure History (V : Type) where
  current : Versioned V
  past : List (Versioned V)
  copies : ∀ c ∈ past, CopyOf current c

/-- A write, by anyone. -/
def History.put (h : History V) (v : V) : History V where
  current := h.current.put v
  past := h.past ++ [h.current]
  copies := by
    intro c hc
    rcases List.mem_append.mp hc with hc | hc
    · exact (h.copies c hc).put v
    · rw [List.mem_singleton.mp hc]
      exact (CopyOf.refl h.current).put v

/-- Several writes, one after the other. -/
def History.puts (h : History V) (vs : List V) : History V := vs.foldl History.put h

/-- A read that may be stale: some version of the past, or the current one. -/
def History.read (h : History V) (k : Nat) : Versioned V := h.past[k]?.getD h.current

/-- Whatever is read is a copy. -/
theorem History.copyOf_read (h : History V) (k : Nat) : CopyOf h.current (h.read k) := by
  rw [History.read]
  cases hk : h.past[k]? with
  | none => exact CopyOf.refl h.current
  | some c => exact h.copies c (List.mem_of_getElem? hk)

/-- Later writes leave a copy a copy. -/
theorem CopyOf.puts {h : History V} {c : Versioned V} (hc : CopyOf h.current c) (vs : List V) :
    CopyOf (h.puts vs).current c := by
  induction vs generalizing h with
  | nil => exact hc
  | cons v vs ih => exact ih (hc.put v)

end VersionedStore
