import ScriptComposer.Json.Value

/-!
# ScriptComposer.Json.Format

Formats: how the values of a type stand in JSON.

A format says how a value is read and how it is written.  Those given here are
for texts, truth values and lists; records and choices have modules of their
own.
-/

namespace ScriptComposer.Json

/-- How values of a type are read from nodes and how they are written. -/
structure Format (α : Type) where
  read : Node → Reading α
  write : α → Value

/-! ## ends of containers -/

/-- The end of an array whose items are all wanted. -/
def Ending.closeArray : Ending → Reading Unit
  | .closed => .ok ()
  | .endOfText => stop .endInArray
  | .unseparated | .nameless => stop .noItemSeparator
  | .commaEnd => stop .endInValue
  | .commaClosed => stop .finalComma

/-- The end of an object whose members were looked for one by one. -/
def Ending.closeObject : Ending → Reading Unit
  | .closed => .ok ()
  | .endOfText => stop .endInObject
  | .unseparated => stop .noMemberSeparator
  | .commaEnd => stop .endInValue
  | .commaClosed => stop .finalComma
  | .nameless => stop .nameNotText

namespace Format

variable {α : Type}

/-! ## plain values -/

def text : Format String where
  read
    | .text l => readLiteral l
    | v => v.refuse .text
  write := .text

def boolean : Format Bool where
  read
    | .boolean b => .ok b
    | v => v.refuse .boolean
  write := .boolean

/-- Texts with a meaning of their own, such as ids. -/
def wrapped (make : String → α) (get : α → String) : Format α where
  read v := make <$> text.read v
  write a := text.write (get a)

def list (f : Format α) : Format (List α) where
  read
    | .array items ending => do
        let as ← items.mapM f.read
        ending.closeArray
        return as
    | v => v.refuse .array
  write as := .array (as.map f.write)

/-! ## whole texts -/

/-- The value that a text says; nothing but white space may follow it. -/
def ofText (f : Format α) (s : String) : Reading α := do
  let (v, rest) := Node.ofTokens (tokens s.toList)
  let a ← f.read v
  if rest.isEmpty then return a else stop .moreText

/-- The text that says a value. -/
def toText (f : Format α) (a : α) : String := (f.write a).toText

end Format

end ScriptComposer.Json
