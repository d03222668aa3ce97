import ScriptComposer.Text.Word

/-!
# ScriptComposer.Script.Piece

A line cut into words and the characters between them.

A word is a maximal run of word characters, so a word of the line is the same
thing as a word that stands alone in it: `end` is a piece of `foo(); end` and
not of `ending` or `x_end`.

* `flatMap_text_pieces` — the pieces make up the line again.
-/

namespace ScriptComposer.Script

/-- A piece of a line. -/
inductive Piece where
  | word (w : List Char)
  | gap (c : Char)
  deriving DecidableEq, Repr

def Piece.text : Piece → List Char
  | .word w => w
  | .gap c => [c]

/-- The pieces with one more word character in front. -/
def extendWord (c : Char) : List Piece → List Piece
  | .word w :: ps => .word (c :: w) :: ps
  | ps => .word [c] :: ps

def pieces : List Char → List Piece
  | [] => []
  | c :: rest =>
      if Text.isWord c then extendWord c (pieces rest) else .gap c :: pieces rest

/-- The word written in a string, as a piece. -/
def Piece.ofString (s : String) : Piece := .word s.toList

theorem flatMap_text_extendWord (c : Char) (ps : List Piece) :
    (extendWord c ps).flatMap Piece.text = c :: ps.flatMap Piece.text := by
  unfold extendWord
  split <;> simp [Piece.text]

/-- The pieces make up the line again. -/
theorem flatMap_text_pieces (s : List Char) : (pieces s).flatMap Piece.text = s := by
  induction s with
  | nil => rfl
  | cons c r ih =>
      rw [pieces]
      split
      · rw [flatMap_text_extendWord, ih]
      · simp [Piece.text, ih]

end ScriptComposer.Script
