import ScriptComposer.Json.Format

/-!
# ScriptComposer.Json.Record

Formats of records.

A record has fields in a declared order, its `Layout`.  It is written as an
object.  It is read from an object, whose members may come in any order and
among which unknown ones are passed over, or from an array that gives the
fields in the declared order and may stop before those that can be left out.

While the members of an object are read, every field has a slot that is empty
until the field is met.
-/

namespace ScriptComposer.Json

/-! ## fields -/

/-- A field of a record. -/
structure Field (α : Type) where
  key : String
  /-- What the field holds when it is left out, if it can be. -/
  absent : Option α
  read : Node → Reading α
  /-- How the field is written, unless it is left out. -/
  write : α → Option Value

namespace Field

variable {α : Type}

/-- A field that must be given. -/
def required (key : String) (f : Format α) : Field α where
  key := key
  absent := none
  read := f.read
  write a := some (f.write a)

/-- A field that has a default; it is always written. -/
def withDefault (key : String) (f : Format α) (default : α) : Field α where
  key := key
  absent := some default
  read := f.read
  write a := some (f.write a)

/-- A field that may hold nothing, which is written by leaving it out.  A `null` is
nothing as well. -/
def optional (key : String) (f : Format α) : Field (Option α) where
  key := key
  absent := some none
  read
    | .null => .ok none
    | v => some <$> f.read v
  write a := a.map f.write

end Field

/-! ## layouts -/

/-- The fields of a record in declared order.  The record is a nested pair of their
values (`τ`), its slots a nested pair of values still to come (`σ`). -/
inductive Layout : Type → Type → Type 1 where
  | nil : Layout Unit Unit
  | cons {α σ τ : Type} (field : Field α) (rest : Layout σ τ) : Layout (Option α × σ) (α × τ)

namespace Layout

def size : {σ τ : Type} → Layout σ τ → Nat
  | _, _, .nil => 0
  | _, _, .cons _ rest => rest.size + 1

/-- The written members of a record, in declared order. -/
def write : {σ τ : Type} → Layout σ τ → τ → List (String × Value)
  | _, _, .nil, () => []
  | _, _, .cons field rest, (a, b) =>
      ((field.write a).map (field.key, ·)).toList ++ rest.write b

/-! ### from an object -/

def noSlots : {σ τ : Type} → Layout σ τ → σ
  | _, _, .nil => ()
  | _, _, .cons _ rest => (none, rest.noSlots)

/-- Put a member into its slot, or pass over it if no field has that key. -/
def insert (key : String) (v : Node) : {σ τ : Type} → Layout σ τ → σ → Reading σ
  | _, _, .nil, () => v.skip
  | _, _, .cons field rest, (slot, slots) =>
      if field.key = key then
        match slot with
        | some _ => throw (.repeated key)
        | none => do return (some (← field.read v), slots)
      else do return (slot, ← rest.insert key v slots)

/-- Put members into their slots. -/
def insertAll {σ τ : Type} (l : Layout σ τ) : σ → List (Literal × Node) → Reading σ
  | slots, [] => .ok slots
  | slots, (name, v) :: rest => do
      let key ← readLiteral name
      let slots ← l.insert key v slots
      l.insertAll slots rest

/-- What a slot holds, or what its field holds when it is left out. -/
def fill {α : Type} (field : Field α) (slot : Option α) : Reading α :=
  match slot.or field.absent with
  | some a => .ok a
  | none => throw (.missing field.key)

/-- The record, once all members are in their slots. -/
def finish : {σ τ : Type} → Layout σ τ → σ → Reading τ
  | _, _, .nil, () => .ok ()
  | _, _, .cons field rest, (slot, slots) => do
      let a ← fill field slot
      return (a, ← rest.finish slots)

/-- The record that the members of an object make. -/
def ofMembers {σ τ : Type} (l : Layout σ τ) (members : List (Literal × Node))
    (ending : Ending) : Reading τ := do
  let slots ← l.insertAll l.noSlots members
  ending.closeObject
  l.finish slots

/-! ### from an array -/

/-- The end of an array in which every field has been read. -/
def closeItems : List Node → Ending → Reading Unit
  | [], .closed => .ok ()
  | [], .endOfText => stop .endInArray
  | [], .commaClosed => stop .finalComma
  | _, _ => stop .moreText

/-- What field number `index` holds when the items have run out before it. -/
def fillItem {α : Type} (field : Field α) (index : Nat) (name : String) (size : Nat) :
    Reading α :=
  match field.absent with
  | some a => .ok a
  | none => throw (.tooShort index name size)

/-- The record that the items of an array make, from field number `index` on. -/
def ofItems (name : String) (size : Nat) (ending : Ending) :
    {σ τ : Type} → Layout σ τ → (index : Nat) → List Node → Reading τ
  | _, _, .nil, _, items => closeItems items ending
  | _, _, .cons field rest, index, [] => do
      ending.closeArray
      let a ← fillItem field index name size
      return (a, ← rest.ofItems name size ending (index + 1) [])
  | _, _, .cons field rest, index, v :: items => do
      let a ← field.read v
      return (a, ← rest.ofItems name size ending (index + 1) items)

end Layout

/-! ## records -/

/-- The format of a record, from its layout; messages call it by `name`. -/
def Format.record {α σ τ : Type} (name : String) (layout : Layout σ τ) (ofFields : τ → α)
    (fields : α → τ) : Format α where
  read
    | .object members ending => ofFields <$> layout.ofMembers members ending
    | .array items ending => ofFields <$> layout.ofItems name layout.size ending 0 items
    | v => v.refuse (.record name)
  write a := .object (layout.write (fields a))

end ScriptComposer.Json
