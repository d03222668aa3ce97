import ScriptComposer.Script.Argument

/-!
# ScriptComposer.Script.Layout

The script that a list of statements stands for.

A script is laid out in rows, each with a level of indentation, and only then
rendered; the width of a level is met by `Row.render` alone, so the layout
cannot depend on it.

The enabled statements fall into three sections, each in list order:

* the declarations, written at the left margin, their bodies verbatim;
* the statements outside the main loop, at level zero;
* the statements inside the main loop, at level one.

In a section the level rises after a statement that opens a block and falls
with each `end`, never below the section's own level (its `floor`): an `end`
without an opener cannot pull the rest of its section out of the loop.
-/

namespace ScriptComposer.Script

/-- A row of a script: text at a level of indentation.  A body that was typed
with line breaks is one row. -/
structure Row where
  level : Nat
  text : String
  deriving DecidableEq, Repr

namespace Row

def blank : Row := ⟨0, ""⟩

def indent (n : Nat) (r : Row) : Row := { r with level := n + r.level }

/-- The row as text, `width` spaces to a level, with its line feed. -/
def render (width : Nat) (r : Row) : List Char :=
  List.replicate (r.level * width) ' ' ++ r.text.toList ++ ['\n']

end Row

def renderRows (width : Nat) (rows : List Row) : List Char := rows.flatMap (Row.render width)

/-! ## fixed parts -/

/-- The beginning of every script. -/
def preamble : List Row :=
  [⟨0, "-- Generated Lua Script"⟩, ⟨0, "-- Created with ME-Gui"⟩, .blank,
    ⟨0, "local API = require(\"api\")"⟩, .blank,
    ⟨0, "-- Variable declarations"⟩, ⟨0, "local CurrentTick = API.Get_tick()"⟩,
    ⟨0, "local OBJECTS_table = API.ReadAllObjectsArray(\x7b-1\x7d,\x7b-1\x7d,\x7b\x7d)"⟩, .blank]

def declarationsHead : Row := ⟨0, "-- Function declarations"⟩

/-- The heading of the statements outside the main loop. -/
def outsideHead : Row := ⟨0, "-- Code outside main loop"⟩

/-- The beginning of the main loop. -/
def loopHead : List Row :=
  [⟨0, "-- Main execution loop"⟩, ⟨0, "while API.Read_LoopyLoop() do"⟩]

/-- What stands in the main loop when no statement does. -/
def loopPlaceholder : Row := ⟨1, "print(\"Add functions to build your script!\")"⟩

/-- What comes before the statements in the main loop. -/
def loopRefresh : List Row :=
  [⟨1, "-- Update game state"⟩, ⟨1, "CurrentTick = API.Get_tick()"⟩,
    ⟨1, "OBJECTS_table = API.ReadAllObjectsArray(\x7b-1\x7d,\x7b-1\x7d,\x7b\x7d)"⟩, .blank]

def endRow : Row := ⟨0, "end"⟩

/-- The body of a function that was declared without one. -/
def emptyBody : Row := ⟨1, "return true"⟩

/-! ## sections -/

/-- The text without the line feeds at its end. -/
def dropFinalNewlines (s : String) : String :=
  String.ofList ((s.toList.reverse.dropWhile (· = '\n')).reverse)

/-- The body of a declaration: verbatim, or a placeholder for a blank one. -/
def bodyRow : Option String → Row
  | none => emptyBody
  | some body => if Text.isBlankText body then emptyBody else ⟨0, dropFinalNewlines body⟩

/-- A declaration, from its head to its `end`. -/
def declarationRows (d : Declaration) : List Row :=
  [⟨0, (Control.declaration d).headLine⟩, bodyRow d.body, endRow]

/-- A blank row between a control statement and what follows it. -/
def gapBefore : List Statement → List Row
  | [] => []
  | _ :: _ => [.blank]

/-- The statements of one section, the first of them at the given level. -/
def sectionRows (floor : Nat) : Nat → List Statement → List Row
  | _, [] => []
  | level, s :: rest =>
      match s.body with
      | .call c => ⟨level, c.render⟩ :: sectionRows floor level rest
      | .control .blockEnd =>
          let level' := max (level - 1) floor
          endRow.indent level' :: gapBefore rest ++ sectionRows floor level' rest
      | .control (.declaration d) =>
          (declarationRows d).map (·.indent level) ++ gapBefore rest ++ sectionRows floor level rest
      | .control c => ⟨level, c.headLine⟩ :: gapBefore rest ++ sectionRows floor (level + 1) rest

/-- The declaration that a statement is, if it is one. -/
def declaration? (s : Statement) : Option Declaration :=
  match s.body with
  | .control (.declaration d) => some d
  | _ => none

def declarations (statements : List Statement) : List Declaration :=
  (statements.filter (·.enabled)).filterMap declaration?

/-- The enabled statements outside the main loop, declarations apart. -/
def outside (statements : List Statement) : List Statement :=
  statements.filter fun s => s.enabled && !s.inMainLoop && !s.isDeclaration

/-- The enabled statements inside the main loop. -/
def inside (statements : List Statement) : List Statement :=
  statements.filter fun s => s.enabled && s.inMainLoop

/-- The section of the declarations; nothing at all without one. -/
def declarationsSection : List Declaration → List Row
  | [] => []
  | ds => declarationsHead :: ds.flatMap fun d => declarationRows d ++ [.blank]

/-- The section outside the main loop; nothing at all without a statement. -/
def outsideSection : List Statement → List Row
  | [] => []
  | ss => outsideHead :: sectionRows 0 0 ss ++ [.blank]

def loopSection : List Statement → List Row
  | [] => loopHead ++ [loopPlaceholder, endRow]
  | ss => loopHead ++ loopRefresh ++ sectionRows 1 1 ss ++ [endRow]

/-- The layout of the script of a list of statements. -/
def layout (statements : List Statement) : List Row :=
  preamble ++ declarationsSection (declarations statements) ++
    outsideSection (outside statements) ++ loopSection (inside statements)

/-- The width of a level of indentation unless another is asked for. -/
def defaultIndent : Nat := 2

/-- The script of a list of statements, `width` spaces to a level. -/
def generate (width : Nat) (statements : List Statement) : String :=
  String.ofList (renderRows width (layout statements))

end ScriptComposer.Script
