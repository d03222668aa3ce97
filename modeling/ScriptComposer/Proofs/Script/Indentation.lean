import ScriptComposer.Proofs.Script.Rows

/-!
# ScriptComposer.Proofs.Script.Indentation

The width of a level of indentation is for the eye only.

A row can take up several lines, since the texts of statements may have line feeds of their
own.  Indentation stands in front of the first of them; the others begin at the left margin,
at whatever level the row is.  So a line of a script has a level and a text that do not
depend on the width, and the width only says how many spaces the level is worth:

* `lines_generate` — each line is its text behind the spaces of its level;
* `generate_width_cosmetic` — so scripts of different widths have the same lines but for the
  spaces in front, and the same report.
-/

namespace ScriptComposer.Script

/-- The lines that a row takes up, each with its level. -/
def Row.levelled (r : Row) : List (Nat × List Char) :=
  match Text.splitAt '\n' r.text.toList with
  | [] => []
  | first :: others => (r.level, first) :: others.map fun line => (0, line)

/-- A line at a level, `width` spaces to a level. -/
def indented (width : Nat) (line : Nat × List Char) : List Char :=
  List.replicate (line.1 * width) ' ' ++ line.2

@[simp] theorem indented_zero (width : Nat) (text : List Char) :
    indented width (0, text) = text := by
  simp [indented]

theorem splitAt_spaces_append (n : Nat) (s : List Char) :
    Text.splitAt '\n' (List.replicate n ' ' ++ s) =
      (Text.splitAt '\n' s).modifyHead (List.replicate n ' ' ++ ·) := by
  induction n with
  | zero => cases h : Text.splitAt '\n' s <;> simp [h]
  | succ n ih =>
      rw [List.replicate_succ, List.cons_append, Text.splitAt_cons_of_ne (by decide), ih,
        List.modifyHead_modifyHead]
      rfl

/-- Indentation stands in front of the first line of a row. -/
theorem Row.lines_eq_map_indented (width : Nat) (r : Row) :
    r.lines width = r.levelled.map (indented width) := by
  rw [Row.lines, splitAt_spaces_append, Row.levelled]
  cases Text.splitAt '\n' r.text.toList with
  | nil => rfl
  | cons first others =>
      have hothers : others = others.map fun line => indented width (0, line) := by simp
      rw [List.modifyHead_cons, List.map_cons, List.map_map]
      exact congrArg _ hothers

/-- Only the first line of a condition is indented. -/
example : Row.levelled ⟨1, "if a\n  or b then"⟩ =
    [(1, "if a".toList), (0, "  or b then".toList)] := by decide

/-- The lines of a script, each with its level. -/
def levelledLines (statements : List Statement) : List (Nat × List Char) :=
  (layout statements).flatMap Row.levelled

/-- Each line of a script is its text behind the spaces of its level. -/
theorem lines_generate (width : Nat) (statements : List Statement) :
    Text.lines (generate width statements).toList =
      (levelledLines statements).map (indented width) := by
  rw [generate, String.toList_ofList, lines_renderRows, levelledLines, List.map_flatMap]
  exact congrArg (layout statements).flatMap (funext (Row.lines_eq_map_indented width))

/-- What a row says is said by lines of the script. -/
theorem mem_lines_generate {statements : List Statement} {r : Row} {line : Nat × List Char}
    (hr : r ∈ layout statements) (hline : line ∈ r.levelled) (width : Nat) :
    indented width line ∈ Text.lines (generate width statements).toList := by
  rw [lines_generate]
  exact List.mem_map_of_mem (List.mem_flatMap.2 ⟨r, hr, hline⟩)

/-- The lines of a script have levels and texts that are the same at every width.  So at any
two widths there are equally many lines, line by line they are equal when trimmed, and the
reports are the same. -/
theorem generate_width_cosmetic (width width' : Nat) (statements : List Statement) :
    (∃ levelled : List (Nat × List Char), ∀ w,
        Text.lines (generate w statements).toList = levelled.map (indented w)) ∧
      (Text.lines (generate width statements).toList).length =
        (Text.lines (generate width' statements).toList).length ∧
      (∀ n : Nat, (Text.lines (generate width statements).toList)[n]?.map Text.trim =
        (Text.lines (generate width' statements).toList)[n]?.map Text.trim) ∧
      validate (generate width statements) = validate (generate width' statements) := by
  have htrimmed : trimmedLines (generate width statements) =
      trimmedLines (generate width' statements) := by
    rw [trimmedLines_generate, trimmedLines_generate]
  refine ⟨⟨levelledLines statements, fun w => lines_generate w statements⟩, ?_, fun n => ?_, ?_⟩
  · rw [lines_generate, lines_generate, List.length_map, List.length_map]
  · have hline := congrArg (·[n]?) htrimmed
    simpa only [trimmedLines, List.getElem?_map] using hline
  · rw [validate, validate, htrimmed]

end ScriptComposer.Script
