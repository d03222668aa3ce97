import ScriptComposer.Decimal.Shortest
import ScriptComposer.Json.Error

/-!
# ScriptComposer.Json.Numeral

Numbers as JSON writes them, and what a message calls them.

No field of a statement or catalog is a number, so a number is only ever
checked and passed over, or named in a message.  A message shows an integer
that fits a machine word as it is and any other number as floating point.
-/

namespace ScriptComposer.Json

/-- A number as it is written. -/
structure Numeral where
  negative : Bool
  whole : List Char
  /-- The digits after the point; without any there is no point. -/
  fraction : List Char
  /-- The exponent: is it negative, and its digits. -/
  exponent : Option (Bool × List Char)
  deriving DecidableEq, Repr

/-- Why digits that have to come do not: the text ends, or goes on otherwise. -/
inductive NumeralFault where
  | cut
  | wrong
  deriving DecidableEq, Repr

namespace Numeral

/-- The fault of a number without the digits that have to come before `rest`. -/
def faultAt : List Char → NumeralFault
  | [] => .cut
  | _ :: _ => .wrong

/-- One or more digits, and what follows them. -/
def scanDigits (s : List Char) : Except NumeralFault (List Char × List Char) :=
  match s.takeWhile Char.isDigit with
  | [] => .error (faultAt s)
  | ds => .ok (ds, s.dropWhile Char.isDigit)

/-- The digits before the point.  A zero stands alone. -/
def scanWhole : List Char → Except NumeralFault (List Char × List Char)
  | '0' :: rest =>
      match rest.takeWhile Char.isDigit with
      | [] => .ok (['0'], rest)
      | _ => .error .wrong
  | s => scanDigits s

/-- The digits after the point, none without a point. -/
def scanFraction : List Char → Except NumeralFault (List Char × List Char)
  | '.' :: rest => scanDigits rest
  | s => .ok ([], s)

/-- The sign of an exponent: is it negative? -/
def scanSign : List Char → Bool × List Char
  | '+' :: rest => (false, rest)
  | '-' :: rest => (true, rest)
  | s => (false, s)

/-- The exponent, if there is one. -/
def scanExponent (s : List Char) : Except NumeralFault (Option (Bool × List Char) × List Char) :=
  match s with
  | c :: rest =>
      if c = 'e' ∨ c = 'E' then do
        let (negative, rest) := scanSign rest
        let (digits, rest) ← scanDigits rest
        return (some (negative, digits), rest)
      else
        return (none, s)
  | [] => return (none, s)

/-- The number at the beginning of a text, its sign being known already, and
what follows it. -/
def scan (negative : Bool) (s : List Char) : Except NumeralFault (Numeral × List Char) := do
  let (whole, s) ← scanWhole s
  let (fraction, s) ← scanFraction s
  let (exponent, s) ← scanExponent s
  return (⟨negative, whole, fraction, exponent⟩, s)

/-- How many characters that numbers are made of a text begins with.  A number takes
as many of them as it leaves fewer behind. -/
def span (s : List Char) : Nat :=
  (s.takeWhile fun c => c.isDigit || ['+', '-', '.', 'e', 'E'].contains c).length

/-! ## the value -/

open Decimal in
/-- `n · 10 ^ e` in floating point: `n` is rounded first, and powers of ten beyond
the largest floating-point number are taken in two steps. -/
def scaled? (n : Nat) (e : Int) : Option Binary64 := do
  let x ← Binary64.ofNat? n
  if 0 ≤ e then
    if n = 0 then return x
    else if e ≤ 308 then x.mul? (← Binary64.ofNat? (Nat.pow 10 e.toNat))
    else none
  else if -308 ≤ e then x.div? (← Binary64.ofNat? (Nat.pow 10 (-e).toNat))
  else
    let x ← x.div? (← Binary64.ofNat? (Nat.pow 10 308))
    if -616 ≤ e then x.div? (← Binary64.ofNat? (Nat.pow 10 (-e - 308).toNat))
    else return Binary64.zero

/-- Read digits into a machine word for as long as it holds them; the digits that
it does not hold are left over. -/
def fillWord : Nat → List Char → Nat × List Char
  | n, [] => (n, [])
  | n, c :: rest =>
      let n' := 10 * n + (c.toNat - '0'.toNat)
      if n' < Text.wordLimit then fillWord n' rest else (n, c :: rest)

/-- The exponent as an integer. -/
def exponentValue (x : Numeral) : Int :=
  match x.exponent with
  | none => 0
  | some (negative, digits) =>
      let n : Int := (Nat.ofDigitChars 10 digits 0 : Nat)
      if negative then -n else n

/-- The text of the number in floating point: as many digits as a machine word
holds, and the others only count for the magnitude. -/
def realText? (x : Numeral) : Option String := do
  let (n, restWhole) := fillWord 0 x.whole
  let (n, restFraction) := fillWord n x.fraction
  let e : Int := (restWhole.length : Int) - ((x.fraction.length - restFraction.length : Nat) : Int)
  let v ← scaled? n (e + x.exponentValue)
  return String.ofList ((if x.negative then ['-'] else []) ++ v.shortest.text)

/-- The number as an integer that fits a machine word, signed if it is negative;
the zero with a minus sign is no integer. -/
def integer? (x : Numeral) : Option Int :=
  if x.fraction ≠ [] ∨ x.exponent.isSome then none
  else
    let n := Nat.ofDigitChars 10 x.whole 0
    if x.negative then
      if 0 < n ∧ n ≤ Nat.pow 2 63 then some (-(n : Int)) else none
    else if n < Text.wordLimit then some n
    else none

/-- What a message calls the number, unless it is too large for one. -/
def found (x : Numeral) : Reading Found :=
  match x.integer? with
  | some n => .ok (.integer n)
  | none =>
      match x.realText? with
      | some t => .ok (.real t)
      | none => stop .numberTooLarge

end Numeral

end ScriptComposer.Json
