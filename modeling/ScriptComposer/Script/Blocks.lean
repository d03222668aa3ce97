import ScriptComposer.Script.Piece
import ScriptComposer.Text.Blank

/-!
# ScriptComposer.Script.Blocks

What a line of a script does to the nesting of blocks.

A line opens at most one block or closes at most one, and it is judged by its
words alone, quoted or not: `if` with a later `then`, `while` or `for` with a
later `do`, and `function` with its parameter list open a block; otherwise a
line with an `end` closes one.  A line that opens and closes a block counts as
one that opens it.
-/

namespace ScriptComposer.Script

/-- The kinds of block. -/
inductive BlockKind where
  | function
  | ifThen
  | whileDo
  | forDo
  deriving DecidableEq, Repr

/-- The word a block starts with. -/
def BlockKind.keyword : BlockKind → String
  | .function => "function"
  | .ifThen => "if"
  | .whileDo => "while"
  | .forDo => "for"

/-- What a line does to the nesting of blocks. -/
inductive LineRole where
  | opener (kind : BlockKind)
  | closer
  | plain
  deriving DecidableEq, Repr

/-- Does the word stand in the line? -/
def hasWord (w : String) (ps : List Piece) : Bool := ps.contains (.ofString w)

/-- Does the first word stand in the line with the second somewhere after it?  If it
does, the second also stands after the first place of the first. -/
def hasWordThen (first second : String) (ps : List Piece) : Bool :=
  hasWord second ((ps.dropWhile (· != .ofString first)).drop 1)

/-- Is the piece a white-space character? -/
def Piece.isBlank : Piece → Bool
  | .word _ => false
  | .gap c => Text.isBlank c

/-- May the piece be part of the name of a function?  Names are words joined by
points and colons. -/
def Piece.isNamePart : Piece → Bool
  | .word _ => true
  | .gap c => c == '.' || c == ':'

/-- Does a parameter list start here, after an optional name and white space? -/
def startsParameters (ps : List Piece) : Bool :=
  match ((ps.dropWhile Piece.isBlank).dropWhile Piece.isNamePart).dropWhile Piece.isBlank with
  | .gap '(' :: _ => true
  | _ => false

/-- Does the line begin the definition of a function, named or not? -/
def definesFunction : List Piece → Bool
  | [] => false
  | p :: rest =>
      (p == .ofString "function" && startsParameters rest) || definesFunction rest

/-- The kind of block that a line opens.  A line that could open several kinds
opens the first of function, `if`, `while` and `for`. -/
def openedBlock? (ps : List Piece) : Option BlockKind :=
  if definesFunction ps then some .function
  else if hasWordThen "if" "then" ps then some .ifThen
  else if hasWordThen "while" "do" ps then some .whileDo
  else if hasWordThen "for" "do" ps then some .forDo
  else none

/-- What a line does to the nesting of blocks. -/
def lineRole (line : List Char) : LineRole :=
  let ps := pieces line
  match openedBlock? ps with
  | some kind => .opener kind
  | none => if hasWord "end" ps then .closer else .plain

end ScriptComposer.Script
