import ScriptComposer.Json.Format

/-!
# ScriptComposer.Json.Choice

Formats of choices between alternatives that are told apart by a tag.

A choice is an object with one member, the tag its name and the content its
value; an alternative without content may also stand as the tag alone.
-/

namespace ScriptComposer.Json

/-- What an alternative holds. -/
inductive Content (α : Type) where
  /-- Nothing, so the tag says all. -/
  | nothing (a : α)
  /-- Something to be read; `bare` is what a tag that stands alone lacks. -/
  | value (bare : Wanted) (read : Node → Reading α)

namespace Content

variable {α : Type}

/-- The choice made by a tag that stands alone. -/
def ofTag : Content α → Reading α
  | .nothing a => .ok a
  | .value bare _ => throw (.mismatch .bareTag bare)

/-- The choice made by a tag with a value. -/
def ofValue : Content α → Node → Reading α
  | .nothing a, .null => .ok a
  | .nothing _, v => v.refuse .null
  | .value _ read, v => read v

/-- A value of some format. -/
def ofFormat {β : Type} (f : Format β) (make : β → α) : Content α :=
  .value .taggedValue fun v => make <$> f.read v

/-- The fields of a record. -/
def ofRecord {β : Type} (f : Format β) (make : β → α) : Content α :=
  .value .taggedRecord fun v => make <$> f.read v

end Content

/-! ## problems -/

/-- The end of an object in which there is no tag. -/
def Ending.noTag {α : Type} : Ending → Reading α
  | .endOfText => stop .endInObject
  | .nameless => stop .nameNotText
  | .closed | .unseparated | .commaEnd | .commaClosed => stop .noValue

/-- The end of an object behind its tag and value: nothing more may come. -/
def closeChoice : List (Literal × Node) → Ending → Reading Unit
  | [], .closed => .ok ()
  | [], .endOfText => stop .endInObject
  | _, _ => stop .noValue

/-! ## choices -/

/-- The alternatives of a choice, by their tags. -/
abbrev Alternatives (α : Type) := List (String × Content α)

/-- The content that belongs to a tag. -/
def Alternatives.content {α : Type} (as : Alternatives α) (tag : String) : Reading (Content α) :=
  match as.lookup tag with
  | some c => .ok c
  | none => throw (.unknownTag tag (as.map (·.1)))

/-- The choice that a node makes. -/
def Alternatives.read {α : Type} (as : Alternatives α) : Node → Reading α
  | .text l => do
      let tag ← readLiteral l
      (← as.content tag).ofTag
  | .object [] ending => ending.noTag
  | .object ((name, v) :: rest) ending => do
      let tag ← readLiteral name
      let a ← (← as.content tag).ofValue v
      closeChoice rest ending
      return a
  | .broken d => stop d.tagged
  | .null | .boolean _ | .number _ | .array .. => stop .noValue

/-- A tag with its value, as it is written. -/
def tagged (tag : String) (v : Value) : Value := .object [(tag, v)]

def Format.choice {α : Type} (as : Alternatives α) (write : α → Value) : Format α where
  read := as.read
  write := write

end ScriptComposer.Json
