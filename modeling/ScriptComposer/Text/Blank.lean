import ScriptComposer.Text.Class

/-!
# ScriptComposer.Text.Blank

White space, trimming and blank text.  White space is the Unicode property
`White_Space`, so the no-break space and the line separators are blank and the
zero-width space is not.

* `trim_eq_nil_iff` — trimming leaves nothing of exactly the blank texts.
-/

namespace ScriptComposer.Text

/-- The characters of the Unicode property `White_Space`. -/
def blankClass : CharClass := ⟨
  [(0x9, 0xd), (0x20, 0x20), (0x85, 0x85), (0xa0, 0xa0), (0x1680, 0x1680), (0x2000, 0x200a),
   (0x2028, 0x2029), (0x202f, 0x202f), (0x205f, 0x205f), (0x3000, 0x3000)]⟩

/-- Is `c` white space? -/
def isBlank (c : Char) : Bool := blankClass.has c

/-- The text without its leading white space. -/
def trimLeft (s : List Char) : List Char := s.dropWhile isBlank

/-- The text without its trailing white space. -/
def trimRight (s : List Char) : List Char := (s.reverse.dropWhile isBlank).reverse

/-- The text without the white space at its two ends. -/
def trim (s : List Char) : List Char := trimRight (trimLeft s)

/-- Is the text empty or made of white space alone? -/
def isBlankText (s : String) : Bool := s.toList.all isBlank

theorem dropWhile_eq_nil_iff {p : Char → Bool} {s : List Char} :
    s.dropWhile p = [] ↔ s.all p = true := by
  induction s with
  | nil => simp
  | cons c r ih => by_cases h : p c <;> simp [h, ih]

theorem all_trimLeft {s : List Char} : (trimLeft s).all isBlank = s.all isBlank := by
  induction s with
  | nil => rfl
  | cons c r ih =>
      by_cases h : isBlank c
      · simpa [trimLeft, h] using ih
      · simp [trimLeft, h]

/-- Trimming leaves nothing of exactly the blank texts. -/
theorem trim_eq_nil_iff {s : List Char} : trim s = [] ↔ s.all isBlank = true := by
  rw [trim, trimRight, List.reverse_eq_nil_iff, dropWhile_eq_nil_iff, List.all_reverse,
    all_trimLeft]

end ScriptComposer.Text
