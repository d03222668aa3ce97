import ScriptComposer.Text.Case.Table

/-!
# ScriptComposer.Text.Case

Lower and upper case by the full Unicode mappings.

Lowering a text is not quite lowering its characters one by one.  One capital
(`İ`) becomes two characters, and the capital sigma becomes `ς` at the end of a
word and `σ` elsewhere, where "the end of a word" means: a cased letter comes
before it and none follows, the case-ignorable characters being passed over.
-/

namespace ScriptComposer.Text

/-- The small form of one character, apart from the sigma at the end of a word. -/
def lowerChar (c : Char) : List Char :=
  if c.toNat < 128 then [c.toLower]
  else if c = '\u0130' then ['i', '\u0307']
  else [Char.ofNat ((lowerRuns.findSome? (·.image? c.toNat)).getD c.toNat)]

/-- The capital form of one character. -/
def upperChar (c : Char) : List Char :=
  if c.toNat < 128 then [c.toUpper]
  else
    match upperSequences.lookup c.toNat with
    | some points => points.map Char.ofNat
    | none => [Char.ofNat ((upperRuns.findSome? (·.image? c.toNat)).getD c.toNat)]

/-- Is the first character that counts a cased letter? -/
def meetsCased (s : List Char) : Bool :=
  match s.dropWhile caseIgnorableClass.has with
  | [] => false
  | c :: _ => casedClass.has c

/-- The small sigma between `before`, nearest character first, and `after`. -/
def lowerSigma (before after : List Char) : Char :=
  if meetsCased before && !meetsCased after then 'ς' else 'σ'

/-- Lower the rest of a text; `before` is what was passed already, nearest
character first. -/
def lowerFrom (before : List Char) : List Char → List Char
  | [] => []
  | c :: rest =>
      (if c = 'Σ' then [lowerSigma before rest] else lowerChar c) ++ lowerFrom (c :: before) rest

def lowercase (s : List Char) : List Char := lowerFrom [] s

def lowercased (s : String) : String := String.ofList (lowercase s.toList)

/-! ## small facts -/

/-- Lowering never loses a character. -/
theorem lowerChar_ne_nil (c : Char) : lowerChar c ≠ [] := by
  unfold lowerChar
  split
  · simp
  · split <;> simp

theorem lowercase_eq_nil_iff {s : List Char} : lowercase s = [] ↔ s = [] := by
  cases s with
  | nil => simp [lowercase, lowerFrom]
  | cons c r =>
      have h := lowerChar_ne_nil c
      by_cases hs : c = 'Σ' <;> simp [lowercase, lowerFrom, hs, h]

example : lowercase "ΟΔΟΣ ΣΑΣ'".toList = "οδος σας'".toList := by decide +kernel

example : upperChar 'ß' = ['S', 'S'] := by decide +kernel

end ScriptComposer.Text
