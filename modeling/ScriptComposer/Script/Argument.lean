import ScriptComposer.Statement

/-!
# ScriptComposer.Script.Argument

How the value of an argument, which is free text, is written in the script.

The declared type decides.  A type that mentions strings always gets a quoted
literal; a truth value is `true` or `false`; a table is written as typed, an
empty one as an empty table; otherwise an empty value is `nil`, a number is
written as it is and everything else is quoted.

A quoted literal stays on its line: the escapes cover the quotation mark, the
backslash and both line breaks.
-/

namespace ScriptComposer.Script

/-! ## quoted literals -/

/-- How a character is written between double quotes. -/
def escapeChar : Char → List Char
  | '\\' => ['\\', '\\']
  | '"' => ['\\', '"']
  | '\n' => ['\\', 'n']
  | '\r' => ['\\', 'r']
  | c => [c]

/-- The text between the quotes of a literal. -/
def escape (s : List Char) : List Char := s.flatMap escapeChar

/-- The double-quoted literal for a text. -/
def quoted (s : List Char) : List Char := '"' :: escape s ++ ['"']

/-! ## numbers -/

/-- Is the text one or more ASCII digits? -/
def isDigits (s : List Char) : Bool := !s.isEmpty && s.all Char.isDigit

/-- Is the text digits, or digits, a point and digits? -/
def isUnsignedNumeral (s : List Char) : Bool :=
  isDigits (s.takeWhile (· ≠ '.')) &&
    match s.dropWhile (· ≠ '.') with
    | [] => true
    | _ :: fraction => isDigits fraction

/-- Is the text a number that needs no quotes: digits with an optional minus sign
and an optional fraction? -/
def isNumeral : List Char → Bool
  | '-' :: rest => isUnsignedNumeral rest
  | s => isUnsignedNumeral s

/-! ## arguments and calls -/

/-- The truth value that a text stands for: `true` in any letter case, else
false. -/
def readsTrue (s : List Char) : Bool := s.map Char.toLower == "true".toList

end ScriptComposer.Script

namespace ScriptComposer

/-- The argument as it is written in the script. -/
def Argument.render (a : Argument) : String :=
  if a.type.mentions .string then String.ofList (Script.quoted a.value.toList)
  else if a.type.mentions .boolean then
    if Script.readsTrue a.value.toList then "true" else "false"
  else if a.type.mentions .table && Text.isBlankText a.value then "\x7b\x7d"
  else if a.value = "" then "nil"
  else if a.type.mentions .table || Script.isNumeral a.value.toList then a.value
  else String.ofList (Script.quoted a.value.toList)

/-- The call as it is written in the script. -/
def Call.render (c : Call) : String :=
  "API." ++ c.callee.name ++ "(" ++ ", ".intercalate (c.arguments.map (·.render)) ++ ")"

end ScriptComposer
