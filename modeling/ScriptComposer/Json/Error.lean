import ScriptComposer.Text.Decimal
import ScriptComposer.Text.Visible

/-!
# ScriptComposer.Json.Error

Why a JSON text could not be read.

Reading goes through the text once, from left to right, and stops at the first
problem it meets.  A problem is either a fault of the text itself, which no
reader could pass, or a value that is well-formed JSON and not what was
wanted in its place.
-/

namespace ScriptComposer.Json

/-! ## faults of the text -/

/-- Why a text is not JSON. -/
inductive Fault where
  | endInValue
  | endInArray
  | endInObject
  | endInText
  | noValue
  | brokenWord
  | noColon
  | noItemSeparator
  | noMemberSeparator
  | finalComma
  | moreText
  | nameNotText
  | badNumeral
  | numberTooLarge
  | badEscape
  | loneSurrogate
  | cutSurrogate
  | controlCharacter
  deriving DecidableEq, Repr

namespace Fault

/-- The fault in words. -/
def message : Fault → String
  | .endInValue => "EOF while parsing a value"
  | .endInArray => "EOF while parsing a list"
  | .endInObject => "EOF while parsing an object"
  | .endInText => "EOF while parsing a string"
  | .noValue => "expected value"
  | .brokenWord => "expected ident"
  | .noColon => "expected `:`"
  | .noItemSeparator => "expected `,` or `]`"
  | .noMemberSeparator => "expected `,` or `\x7d`"
  | .finalComma => "trailing comma"
  | .moreText => "trailing characters"
  | .nameNotText => "key must be a string"
  | .badNumeral => "invalid number"
  | .numberTooLarge => "number out of range"
  | .badEscape => "invalid escape"
  | .loneSurrogate => "lone leading surrogate in hex escape"
  | .cutSurrogate => "unexpected end of hex escape"
  | .controlCharacter => "control character (\\u0000-\\u001F) found while parsing a string"

/-- Is the fault that the text ends too early? -/
def isEnd : Fault → Bool
  | .endInValue | .endInArray | .endInObject | .endInText => true
  | _ => false

end Fault

/-! ## values that were not wanted -/

/-- What stood where something else was wanted. -/
inductive Found where
  | null
  | boolean (b : Bool)
  | integer (n : Int)
  | real (text : String)
  | text (s : String)
  | array
  | object
  | bareTag
  deriving DecidableEq, Repr

def Found.describe : Found → String
  | .null => "null"
  | .boolean b => "boolean `" ++ (if b then "true" else "false") ++ "`"
  | .integer n =>
      "integer `" ++ (if n < 0 then "-" else "") ++ String.ofList (Text.writeNat n.natAbs) ++ "`"
  | .real t => "floating point `" ++ t ++ "`"
  | .text s => "string " ++ Text.visible s
  | .array => "sequence"
  | .object => "map"
  | .bareTag => "unit variant"

/-- What was wanted.  Records are called by the name of their kind. -/
inductive Wanted where
  | text
  | boolean
  | array
  | null
  | record (name : String)
  | taggedValue
  | taggedRecord
  deriving DecidableEq, Repr

def Wanted.describe : Wanted → String
  | .text => "a string"
  | .boolean => "a boolean"
  | .array => "a sequence"
  | .null => "unit"
  | .record name => name
  | .taggedValue => "newtype variant"
  | .taggedRecord => "struct variant"

/-- Why a text could not be read. -/
inductive ReadError where
  | fault (f : Fault)
  | mismatch (found : Found) (wanted : Wanted)
  | missing (key : String)
  | repeated (key : String)
  /-- An array in place of a record, too short by its field number `index`. -/
  | tooShort (index : Nat) (record : String) (size : Nat)
  | unknownTag (tag : String) (known : List String)
  deriving DecidableEq, Repr

def backquoted (s : String) : String := "`" ++ s ++ "`"

/-- The choice between some words. -/
def oneOf : List String → String
  | [] => "there are no variants"
  | [a] => "expected " ++ backquoted a
  | [a, b] => "expected " ++ backquoted a ++ " or " ++ backquoted b
  | words => "expected one of " ++ ", ".intercalate (words.map backquoted)

namespace ReadError

/-- The problem in words. -/
def message : ReadError → String
  | .fault f => f.message
  | .mismatch found wanted => "invalid type: " ++ found.describe ++ ", expected " ++ wanted.describe
  | .missing key => "missing field " ++ backquoted key
  | .repeated key => "duplicate field " ++ backquoted key
  | .tooShort index record size =>
      "invalid length " ++ String.ofList (Text.writeNat index) ++ ", expected " ++ record ++
        " with " ++ String.ofList (Text.writeNat size) ++
        (if size = 1 then " element" else " elements")
  | .unknownTag tag known => "unknown variant " ++ backquoted tag ++ ", " ++ oneOf known

end ReadError

/-- The result of reading a value. -/
abbrev Reading (α : Type) := Except ReadError α

/-- Stop at a fault of the text. -/
def stop {α : Type} (f : Fault) : Reading α := .error (.fault f)

end ScriptComposer.Json
