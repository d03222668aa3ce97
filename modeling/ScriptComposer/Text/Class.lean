/-!
# ScriptComposer.Text.Class

Classes of characters, written as sorted stretches of code points.  Every
table of this library (white space, word characters, letter case, what can
be shown as it is) is such a class; the tables stand in modules of their own
and this one only says what membership means.
-/

namespace ScriptComposer.Text

/-- A class of characters: inclusive stretches of code points, in ascending
order. -/
structure CharClass where
  stretches : List (Nat × Nat)

namespace CharClass

/-- Does the class have the code point `n`?  The order of the stretches plays
no part in it. -/
def hasPoint (cls : CharClass) (n : Nat) : Bool :=
  cls.stretches.any fun r => Nat.ble r.1 n && Nat.ble n r.2

/-- Does the class have the character `c`? -/
def has (cls : CharClass) (c : Char) : Bool := cls.hasPoint c.toNat

theorem hasPoint_iff {cls : CharClass} {n : Nat} :
    cls.hasPoint n = true ↔ ∃ r ∈ cls.stretches, r.1 ≤ n ∧ n ≤ r.2 := by
  simp [hasPoint]

end CharClass

end ScriptComposer.Text
