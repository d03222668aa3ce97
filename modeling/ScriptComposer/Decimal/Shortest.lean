import ScriptComposer.Decimal.Binary64
import ScriptComposer.Text.Decimal

/-!
# ScriptComposer.Decimal.Shortest

The shortest decimal that reads back as a given floating-point number.

The reals that round to the number form an interval around it, its ends
included if the mantissa is even.  The decimals with a given last place form a
grid; the coarsest grid with a point in the interval is taken, and of its
points the one nearest to the number.  If any point of a grid lies in the
interval, one of the two next to the number does, so only those are tried.
-/

namespace ScriptComposer.Decimal

/-- The digits and the place of the last of them: `digits · 10 ^ place`. -/
structure Digits where
  digits : Nat
  place : Int
  deriving DecidableEq, Repr

/-- The numerator and denominator of `num / den` divided by `10 ^ place`. -/
def shift10 (num den : Nat) (place : Int) : Nat × Nat :=
  if 0 ≤ place then (num, den * Nat.pow 10 place.toNat)
  else (num * Nat.pow 10 (-place).toNat, den)

namespace Binary64

/-- A quarter of the distance to the next number, as the unit in which the
interval of a number is measured: the number itself is `4 · mantissa` units. -/
def quarters (x : Binary64) (n : Nat) : Nat × Nat := scale2 n 1 (x.exponent - 2)

/-- The lower end of the interval, in quarters.  Below the least mantissa of an
exponent the numbers lie twice as close. -/
def lowerEnd (x : Binary64) : Nat :=
  if x.mantissa = Nat.pow 2 52 ∧ -1074 < x.exponent then 4 * x.mantissa - 1 else 4 * x.mantissa - 2

/-- The upper end of the interval, in quarters. -/
def upperEnd (x : Binary64) : Nat := 4 * x.mantissa + 2

/-- Does the decimal lie in the interval of the number? -/
def reads (x : Binary64) (d : Digits) : Bool :=
  let at10 (n : Nat) := shift10 (x.quarters n).1 (x.quarters n).2 d.place
  let low := at10 x.lowerEnd
  let high := at10 x.upperEnd
  if x.mantissa % 2 = 0 then low.1 ≤ d.digits * low.2 && d.digits * high.2 ≤ high.1
  else low.1 < d.digits * low.2 && d.digits * high.2 < high.1

/-- The decimal with that last place that lies in the interval and nearest to the
number, if there is one. -/
def nearestAt? (x : Binary64) (place : Int) : Option Digits :=
  let v := shift10 x.toRatio.1 x.toRatio.2 place
  let below := v.1 / v.2
  let remainder := v.1 % v.2
  let near := if 2 * remainder < v.2 ∨ (2 * remainder = v.2 ∧ below % 2 = 0)
    then [below, below + 1] else [below + 1, below]
  (near.map fun d => Digits.mk d place).find? fun d => d.digits ≠ 0 && x.reads d

/-- The shortest decimal that reads back as the number; zero has the digit zero. -/
def shortest (x : Binary64) : Digits :=
  if x.mantissa = 0 then ⟨0, 0⟩
  else
    ((List.range 640).findSome? fun (i : Nat) => x.nearestAt? (309 - (i : Int))).getD
      ⟨x.mantissa, 0⟩

end Binary64

/-- The number as text.  Numbers from 10 ^ -5 up to 10 ^ 16 are written with a
point, the others with an exponent, which always has a sign; a point always has
digits on both sides. -/
def Digits.text (d : Digits) : List Char :=
  let ds := Text.writeNat d.digits
  let point : Int := (ds.length : Int) + d.place
  if d.digits = 0 then ['0', '.', '0']
  else if 0 ≤ d.place ∧ point ≤ 16 then
    ds ++ List.replicate d.place.toNat '0' ++ ['.', '0']
  else if 0 < point ∧ point ≤ 16 then
    ds.take point.toNat ++ '.' :: ds.drop point.toNat
  else if -5 < point ∧ point ≤ 0 then
    ['0', '.'] ++ List.replicate (-point).toNat '0' ++ ds
  else
    let power := point - 1
    ds.take 1 ++ (if ds.length = 1 then [] else '.' :: ds.drop 1) ++ 'e' ::
      (if power < 0 then '-' else '+') :: Text.writeNat power.natAbs

example : (Binary64.shortest ⟨0x1999999999999a, -56⟩).text = ['0', '.', '1'] := by decide +kernel

end ScriptComposer.Decimal
