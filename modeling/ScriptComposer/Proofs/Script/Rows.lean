import ScriptComposer.Proofs.Text.Lines
import ScriptComposer.Script.Layout
import ScriptComposer.Script.Report

/-!
# ScriptComposer.Proofs.Script.Rows

Reading the lines of a script off its layout.

A row is written with its indentation and a line feed; read back, it is one
line, or several if its text has line feeds of its own.  A reader that trims
its lines does not see the indentation:

* `trimmedLines_generate` — the trimmed lines of a script are those of its rows,
  row by row, whatever the width of a level.
-/

namespace ScriptComposer

namespace Script

/-! ## rows -/

/-- The trimmed lines that a row takes up. -/
def Row.trimmed (r : Row) : List (List Char) :=
  (Text.splitAt '\n' r.text.toList).map Text.trim

/-- The trimmed lines that some rows take up. -/
def trimmedRows (rows : List Row) : List (List Char) := rows.flatMap Row.trimmed

theorem trimmedRows_append (as bs : List Row) :
    trimmedRows (as ++ bs) = trimmedRows as ++ trimmedRows bs := List.flatMap_append

/-- How many lines some rows take up. -/
def height (rows : List Row) : Nat := (trimmedRows rows).length

theorem height_append (as bs : List Row) : height (as ++ bs) = height as + height bs := by
  rw [height, trimmedRows_append, List.length_append]
  rfl

/-- Indentation stays in the first line of a row and is trimmed there. -/
theorem map_trim_splitAt_indented (n : Nat) (s : List Char) :
    (Text.splitAt '\n' (List.replicate n ' ' ++ s)).map Text.trim =
      (Text.splitAt '\n' s).map Text.trim := by
  induction n with
  | zero => rfl
  | succ n ih =>
      rw [List.replicate_succ, List.cons_append, Text.splitAt_cons_of_ne (by decide), ← ih]
      cases h : Text.splitAt '\n' (List.replicate n ' ' ++ s) with
      | nil => exact absurd h (Text.splitAt_ne_nil _ _)
      | cons part parts =>
          rw [List.modifyHead_cons, List.map_cons, List.map_cons,
            Text.trim_cons_blank (by decide)]

/-- The lines that a row takes up, as they are written. -/
def Row.lines (width : Nat) (r : Row) : List (List Char) :=
  Text.splitAt '\n' (List.replicate (r.level * width) ' ' ++ r.text.toList)

/-- The lines of rows are those of one row after the other. -/
theorem lines_renderRows (width : Nat) (rows : List Row) :
    Text.lines (renderRows width rows) = rows.flatMap (Row.lines width) := by
  induction rows with
  | nil => rfl
  | cons r rows ih =>
      have hcons : renderRows width (r :: rows) =
          (List.replicate (r.level * width) ' ' ++ r.text.toList) ++
            '\n' :: renderRows width rows := by
        simp [renderRows, Row.render]
      rw [hcons, Text.lines_append_lineFeed, ih, List.flatMap_cons, Row.lines]

theorem map_trim_lines_renderRows (width : Nat) (rows : List Row) :
    (Text.lines (renderRows width rows)).map Text.trim = trimmedRows rows := by
  rw [lines_renderRows, List.map_flatMap, trimmedRows]
  exact congrArg (rows.flatMap ·) (funext fun r => map_trim_splitAt_indented _ _)

/-- The trimmed lines of a script are those of its rows. -/
theorem trimmedLines_generate (width : Nat) (statements : List Statement) :
    trimmedLines (generate width statements) = trimmedRows (layout statements) := by
  rw [trimmedLines, generate, String.toList_ofList, map_trim_lines_renderRows]

theorem toList_dropFinalNewlines (s : String) :
    (dropFinalNewlines s).toList = s.toList.rdropWhile (· = '\n') :=
  String.toList_ofList

/-- A row with visible ends and no line feed is one line. -/
theorem Row.trimmed_eq_singleton {r : Row} {first last : Char} (hlf : '\n' ∉ r.text.toList)
    (hs : r.text.toList.head? = some first) (hl : r.text.toList.getLast? = some last)
    (hfirst : Text.isBlank first = false) (hlast : Text.isBlank last = false) :
    r.trimmed = [r.text.toList] := by
  rw [Row.trimmed, Text.splitAt_of_not_mem hlf, List.map_singleton,
    Text.trim_eq_self hs hl hfirst hlast]

end Script

end ScriptComposer
