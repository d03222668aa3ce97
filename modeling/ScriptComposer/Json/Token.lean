import ScriptComposer.Json.Literal
import ScriptComposer.Json.Numeral

/-!
# ScriptComposer.Json.Token

The tokens of a JSON text.

Cutting a text into tokens never fails.  What is no token becomes a last,
broken one, because whether it is a problem, and which, is only known to the
reader who gets there: a reader may have stopped before.
-/

namespace ScriptComposer.Json

/-- What is wrong where a value should be.  Which fault it is depends on who
looks: a reader who wants the value, one who passes over it, or one who wants
a tag, alone or with its content. -/
structure Damage where
  wanted : Fault
  skipped : Fault
  tagged : Fault
  deriving DecidableEq, Repr

/-- Damage that is the same fault for every reader. -/
def Damage.plain (f : Fault) : Damage := ⟨f, f, f⟩

inductive Token where
  | openArray
  | closeArray
  | openObject
  | closeObject
  | comma
  | colon
  | null
  | boolean (b : Bool)
  | number (n : Numeral)
  | text (l : Literal)
  | broken (d : Damage)
  deriving DecidableEq, Repr

/-- Does the text make no sense behind the token? -/
def Token.isLast : Token → Bool
  | .broken _ => true
  | .text l => l.closing ≠ .closed
  | _ => false

/-- White space between tokens. -/
def isSpace (c : Char) : Bool := c = ' ' || c = '\t' || c = '\n' || c = '\r'

/-- The word that begins with a letter just read and goes on with `tail`, and how
many more characters it takes. -/
def scanWord (tail : List Char) (t : Token) (rest : List Char) : Token × Nat :=
  if tail.isPrefixOf rest then (t, tail.length)
  else
    let f := if rest.isPrefixOf tail then .endInValue else .brokenWord
    (.broken ⟨f, f, .noValue⟩, 0)

/-- The number with the sign and the digits given, and how many characters it takes. -/
def scanNumber (negative : Bool) (s : List Char) : Token × Nat :=
  match Numeral.scan negative s with
  | .ok (n, rest) => (.number n, Numeral.span s - Numeral.span rest)
  | .error fault =>
      let f := if fault = .cut then .endInValue else .badNumeral
      (.broken ⟨f, .badNumeral, .noValue⟩, 0)

/-- The token that begins with the character `c`, and how many characters behind
`c` it takes. -/
def scanToken (c : Char) (rest : List Char) : Token × Nat :=
  match c with
  | '[' => (.openArray, 0)
  | ']' => (.closeArray, 0)
  | '\x7b' => (.openObject, 0)
  | '\x7d' => (.closeObject, 0)
  | ',' => (.comma, 0)
  | ':' => (.colon, 0)
  | 'n' => scanWord ['u', 'l', 'l'] .null rest
  | 't' => scanWord ['r', 'u', 'e'] (.boolean true) rest
  | 'f' => scanWord ['a', 'l', 's', 'e'] (.boolean false) rest
  | '-' => scanNumber true rest
  | '"' =>
      let (l, n) := Literal.scan rest
      (.text l, n)
  | c =>
      if c.isDigit then
        let (t, n) := scanNumber false (c :: rest)
        (t, n - 1)
      else (.broken (.plain .noValue), 0)

/-- The tokens of a text, after the `n` characters that still belong to the token
before. -/
def tokensFrom : Nat → List Char → List Token
  | _, [] => []
  | n + 1, _ :: rest => tokensFrom n rest
  | 0, c :: rest =>
      if isSpace c then tokensFrom 0 rest
      else
        let (t, n) := scanToken c rest
        if t.isLast then [t] else t :: tokensFrom n rest

def tokens (s : List Char) : List Token := tokensFrom 0 s

end ScriptComposer.Json
