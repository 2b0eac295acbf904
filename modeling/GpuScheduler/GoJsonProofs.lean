import Mathlib

/-! # JSON objects and Go structures

    How `encoding/json` writes a structure and reads an object into one: field by field, by
    the exact name or else by the name without regard to case, each value into what the field
    held before.  A decoder that disallows unknown fields fails on the first of them; the
    other kind skips them.

    A `Codec` carries its round trip and a `Struct` the law that its fields are the whole
    structure, so that what one side writes the other reads back (`Struct.decode_encode`). -/

namespace GoJson

/-- A JSON value.  Numbers are kept apart by their literal: an integer field accepts no other
    than `int`. -/
inductive Json where
  | null
  | bool (b : Bool)
  | int (n : Int)
  | dec (x : Rat)
  | str (s : String)
  | arr (items : List Json)
  | obj (fields : List (String × Json))

/-- Why a value is not decoded. -/
inductive DecodeError where
  | mismatch
  | unknownField (name : String)
  deriving DecidableEq, Repr

/-- The folding of names: it does not see the case of ASCII letters. -/
structure Folding where
  fold : String → String
  lower : ∀ s : String, fold (String.ofList (s.toList.map Char.toLower)) = fold s

/-- Names folded by their ASCII letters. -/
def asciiFolding : Folding where
  fold s := String.ofList (s.toList.map Char.toLower)
  lower s := by
    have hid : Char.toLower ∘ Char.toLower = Char.toLower :=
      funext Char.toLower_toLower_eq_toLower
    rw [String.toList_ofList, List.map_map, hid]

/-- How a type is written and read; reading starts from the value that is there. -/
structure Codec (α : Type) where
  encode : α → Json
  decode : Json → α → Except DecodeError α
  /-- The values that survive the way out and back. -/
  Faithful : α → Prop
  decode_encode : ∀ a z, Faithful a → decode (encode a) z = .ok a

variable {α β σ : Type}

/-! ## Scalars and pointers -/

/-- `string`. -/
def string : Codec String where
  encode s := .str s
  decode
    | .str s, _ => .ok s
    | .null, z => .ok z
    | _, _ => .error .mismatch
  Faithful _ := True
  decode_encode _ _ _ := rfl

/-- `int`, `int64`. -/
def integer : Codec Int where
  encode n := .int n
  decode
    | .int n, _ => .ok n
    | .null, z => .ok z
    | _, _ => .error .mismatch
  Faithful _ := True
  decode_encode _ _ _ := rfl

/-- `bool`. -/
def boolean : Codec Bool where
  encode b := .bool b
  decode
    | .bool b, _ => .ok b
    | .null, z => .ok z
    | _, _ => .error .mismatch
  Faithful _ := True
  decode_encode _ _ _ := rfl

/-- How a `float64` is written: without a point when it is whole. -/
def encodeFloat (x : Rat) : Json := if x.den = 1 then .int x.num else .dec x

/-- How a `float64` is read. -/
def decodeFloat : Json → Rat → Except DecodeError Rat
  | .int n, _ => .ok n
  | .dec x, _ => .ok x
  | .null, z => .ok z
  | _, _ => .error .mismatch

theorem decodeFloat_encodeFloat (x z : Rat) : decodeFloat (encodeFloat x) z = .ok x := by
  rw [encodeFloat]
  split_ifs with hden
  · exact congrArg Except.ok ((Rat.den_eq_one_iff x).mp hden)
  · rfl

/-- `float64`. -/
def float : Codec Rat where
  encode := encodeFloat
  decode := decodeFloat
  Faithful _ := True
  decode_encode x z _ := decodeFloat_encodeFloat x z

/-- A type that Go holds as another one, such as an enumeration of strings. -/
def Codec.via (c : Codec β) (held : α → β) (mean : β → α) : Codec α where
  encode a := c.encode (held a)
  decode j z := (c.decode j (held z)).map mean
  Faithful a := c.Faithful (held a) ∧ mean (held a) = a
  decode_encode a z h := by
    rw [c.decode_encode _ _ h.1]
    exact congrArg Except.ok h.2

/-- Reading into a pointer: `null` is `nil`, and a value needs somewhere to go. -/
def Codec.decodePointer (c : Codec α) (zero : α) : Json → Option α → Except DecodeError (Option α)
  | .null, _ => .ok none
  | j, z => (c.decode j (z.getD zero)).map some

theorem Codec.decodePointer_of_ne_null (c : Codec α) (zero : α) {j : Json} (h : j ≠ .null)
    (z : Option α) : c.decodePointer zero j z = (c.decode j (z.getD zero)).map some := by
  cases j with
  | null => exact absurd rfl h
  | bool b => rfl
  | int n => rfl
  | dec x => rfl
  | str s => rfl
  | arr items => rfl
  | obj fields => rfl

/-- A pointer to a type that is never written as `null`. -/
def Codec.pointer (c : Codec α) (zero : α) (hnull : ∀ a, c.encode a ≠ .null) :
    Codec (Option α) where
  encode a := a.elim .null c.encode
  decode := c.decodePointer zero
  Faithful a := ∀ x, a = some x → c.Faithful x
  decode_encode a z h := by
    cases a with
    | none => rfl
    | some x =>
        show c.decodePointer zero (c.encode x) z = _
        rw [c.decodePointer_of_ne_null zero (hnull x), c.decode_encode x _ (h x rfl)]
        rfl

/-! ## Structures -/

/-- A field: its name, and how it is written, read and copied. -/
structure Field (σ : Type) where
  name : String
  get : σ → Json
  set : Json → σ → Except DecodeError σ
  /-- The second structure with the field of the first. -/
  put : σ → σ → σ
  Faithful : σ → Prop
  set_get : ∀ a z, Faithful a → set (get a) z = .ok (put a z)

/-- The field that a codec and a pair of accessors give. -/
def Codec.field (c : Codec α) (name : String) (get : σ → α) (set : α → σ → σ) : Field σ where
  name := name
  get a := c.encode (get a)
  set j z := (c.decode j (get z)).map (fun x => set x z)
  put a z := set (get a) z
  Faithful a := c.Faithful (get a)
  set_get a z h := by
    rw [c.decode_encode _ _ h]
    rfl

/-- A structure: its fields have different names and are all there is to it. -/
structure Struct (σ : Type) where
  fields : List (Field σ)
  distinct : (fields.map Field.name).Nodup
  complete : ∀ a z, fields.foldl (fun z f => f.put a z) z = a

variable (folding : Folding) (strict : Bool)

/-- The field that a name means: the one of that name, else the first that differs in case. -/
def findField (fields : List (Field σ)) (name : String) : Option (Field σ) :=
  (fields.find? (fun f => f.name = name)).or
    (fields.find? (fun f => folding.fold f.name = folding.fold name))

/-- The loop over the entries of an object. -/
def readFields (fields : List (Field σ)) : List (String × Json) → σ → Except DecodeError σ
  | [], z => .ok z
  | entry :: rest, z =>
      match findField folding fields entry.1 with
      | none => if strict then .error (.unknownField entry.1) else readFields fields rest z
      | some f =>
          match f.set entry.2 z with
          | .error e => .error e
          | .ok z => readFields fields rest z

/-- How a structure is written. -/
def Struct.encode (c : Struct σ) (a : σ) : Json := .obj (c.fields.map (fun f => (f.name, f.get a)))

/-- How a structure is read. -/
def Struct.decode (c : Struct σ) : Json → σ → Except DecodeError σ
  | .obj entries, z => readFields folding strict c.fields entries z
  | .null, z => .ok z
  | _, _ => .error .mismatch

/-- A field is found by its own name. -/
theorem findField_of_mem {fields : List (Field σ)} (hnd : (fields.map Field.name).Nodup)
    {f : Field σ} (h : f ∈ fields) : findField folding fields f.name = some f := by
  have hfind : fields.find? (fun g => g.name = f.name) = some f := by
    induction fields with
    | nil => cases h
    | cons g fields ih =>
        rw [List.map_cons, List.nodup_cons] at hnd
        rcases List.mem_cons.mp h with rfl | h
        · exact List.find?_cons_of_pos (decide_eq_true rfl)
        · have hne : g.name ≠ f.name := fun he => hnd.1 (he ▸ List.mem_map_of_mem h)
          rw [List.find?_cons_of_neg (by simpa using hne)]
          exact ih hnd.2 h
  rw [findField, hfind]
  rfl

/-- One entry that a field takes. -/
theorem readFields_cons_of_set {fields : List (Field σ)} {f : Field σ} {name : String} {j : Json}
    {rest : List (String × Json)} {z z' : σ} (hfind : findField folding fields name = some f)
    (hset : f.set j z = .ok z') :
    readFields folding strict fields ((name, j) :: rest) z
      = readFields folding strict fields rest z' := by
  simp only [readFields, hfind, hset]

/-- Entries written from some fields of a structure copy those fields. -/
theorem readFields_written {fields : List (Field σ)} (hnd : (fields.map Field.name).Nodup)
    {a : σ} {some' : List (Field σ)} (hsub : ∀ f ∈ some', f ∈ fields)
    (h : ∀ f ∈ some', f.Faithful a) (z : σ) :
    readFields folding strict fields (some'.map (fun f => (f.name, f.get a))) z
      = .ok (some'.foldl (fun z f => f.put a z) z) := by
  induction some' generalizing z with
  | nil => rfl
  | cons f rest ih =>
      have hmem := hsub f (List.mem_cons_self ..)
      rw [List.map_cons, readFields_cons_of_set folding strict (findField_of_mem folding hnd hmem)
        (f.set_get a z (h f (List.mem_cons_self ..)))]
      exact ih (fun g hg => hsub g (List.mem_cons_of_mem _ hg))
        (fun g hg => h g (List.mem_cons_of_mem _ hg)) _

/-- **ROUND TRIP**: what is written is read back, whatever was there before, by either kind of
    decoder. -/
theorem Struct.decode_encode (c : Struct σ) {a : σ} (h : ∀ f ∈ c.fields, f.Faithful a) (z : σ) :
    c.decode folding strict (c.encode a) z = .ok a := by
  show readFields folding strict c.fields _ z = _
  rw [readFields_written folding strict c.distinct (fun f hf => hf) h, c.complete a z]

/-- A structure inside another one. -/
def Struct.codec (c : Struct σ) : Codec σ where
  encode := c.encode
  decode := c.decode folding strict
  Faithful a := ∀ f ∈ c.fields, f.Faithful a
  decode_encode _ z h := c.decode_encode folding strict h z

/-- A pointer to a structure. -/
def Struct.pointer (c : Struct σ) (zero : σ) : Codec (Option σ) :=
  (c.codec folding strict).pointer zero (fun _ h => by cases h)

end GoJson
