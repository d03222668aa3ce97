/-!
# ScriptComposer.Decimal.Binary64

Non-negative binary floating-point numbers of 64 bits, in exact arithmetic.

A number is `mantissa · 2 ^ exponent` with a mantissa below 2 ^ 53.  Rounding is
to the nearest such number and, between two, to the even mantissa; exponents
reach from -1074 to 971, and what would need a larger one is no number.
-/

namespace ScriptComposer.Decimal

/-- A non-negative floating-point number. -/
structure Binary64 where
  mantissa : Nat
  exponent : Int
  deriving DecidableEq, Repr

namespace Binary64

def zero : Binary64 := ⟨0, -1074⟩

/-- The numerator and denominator of `num / den` multiplied by `2 ^ e`. -/
def scale2 (num den : Nat) (e : Int) : Nat × Nat :=
  if 0 ≤ e then (num * Nat.pow 2 e.toNat, den) else (num, den * Nat.pow 2 (-e).toNat)

/-- The quotient rounded to the nearest integer, a half to the even one. -/
def roundDiv (num den : Nat) : Nat :=
  let q := num / den
  let twice := 2 * (num % den)
  if twice > den ∨ (twice = den ∧ q % 2 = 1) then q + 1 else q

/-- The number nearest to `num / den`, unless it is too large. -/
def ofRatio? (num den : Nat) : Option Binary64 :=
  if num = 0 then some zero
  else
    let guess : Int := (num.log2 : Int) - (den.log2 : Int) - 52
    let low := scale2 num den (-guess)
    let q := max (if low.1 < Nat.pow 2 52 * low.2 then guess - 1 else guess) (-1074)
    let s := scale2 num den (-q)
    let m := roundDiv s.1 s.2
    let r : Binary64 := if m = Nat.pow 2 53 then ⟨Nat.pow 2 52, q + 1⟩ else ⟨m, q⟩
    if r.exponent ≤ 971 then some r else none

/-- The number as a quotient of integers. -/
def toRatio (x : Binary64) : Nat × Nat := scale2 x.mantissa 1 x.exponent

/-- The number nearest to the integer `n`, unless it is too large. -/
def ofNat? (n : Nat) : Option Binary64 := ofRatio? n 1

/-- The rounded product, unless it is too large. -/
def mul? (x y : Binary64) : Option Binary64 :=
  ofRatio? (x.toRatio.1 * y.toRatio.1) (x.toRatio.2 * y.toRatio.2)

/-- The rounded quotient, unless it is too large. -/
def div? (x y : Binary64) : Option Binary64 :=
  ofRatio? (x.toRatio.1 * y.toRatio.2) (x.toRatio.2 * y.toRatio.1)

example : ofRatio? 1 10 = some ⟨0x1999999999999a, -56⟩ := by decide +kernel

example : ofRatio? (Nat.pow 2 1024) 1 = none := by decide +kernel

end Binary64

end ScriptComposer.Decimal
