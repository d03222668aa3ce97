import Mathlib.Data.List.Basic
import ScriptComposer.Proofs.Script.Reading
import ScriptComposer.Script.Layout

/-!
# ScriptComposer.Proofs.Script.Sections

The three sections of a script, and how the rows of one follow each other.

Every enabled statement is in exactly one section.  The level of a section is its floor
and a depth that is counted as for brackets: an opener stands at the depth before it, an
`end` at the depth behind it, and an `end` too many leaves the depth at zero.

* `sections_perm` — the sections share out the enabled statements;
* `sectionRows_cons` — the first row of a section, and the rows that follow it.
-/

namespace ScriptComposer

namespace Statement

/-- What the statement does to the nesting of blocks. -/
def role (s : Statement) : Script.LineRole :=
  match s.body with
  | .call _ => .plain
  | .control c => c.role

def isControl (s : Statement) : Bool :=
  match s.body with
  | .call _ => false
  | .control _ => true

/-- The statement as it is written in the script; of a declaration it is the first line. -/
def text (s : Statement) : String :=
  match s.body with
  | .call c => c.render
  | .control _ => s.label

end Statement

namespace Script

/-! ## sharing out -/

/-- The enabled declarations, as statements. -/
def declared (statements : List Statement) : List Statement :=
  statements.filter fun s => s.enabled && s.isDeclaration

theorem declarations_eq (statements : List Statement) :
    declarations statements = (declared statements).filterMap declaration? := by
  rw [declarations, declared, List.filterMap_filter, List.filterMap_filter]
  refine List.filterMap_congr fun s _ => ?_
  obtain ⟨id, enabled, wantsLoop, body, notes⟩ := s
  cases enabled <;> rcases body with c | (_ | _ | _ | _ | d) <;> rfl

theorem isDeclaration_of_mem_outside (statements : List Statement) :
    ∀ s ∈ outside statements, s.isDeclaration = false := by
  intro s hs
  simpa using (Bool.and_eq_true_iff.1 (List.mem_filter.1 hs).2).2

theorem isDeclaration_of_mem_inside (statements : List Statement) :
    ∀ s ∈ inside statements, s.isDeclaration = false := by
  intro s hs
  have hloop := (Bool.and_eq_true_iff.1 (List.mem_filter.1 hs).2).2
  simpa using (Bool.and_eq_true_iff.1 hloop).2

/-- Every enabled statement is in one of the three sections, and in one only. -/
theorem sections_perm (statements : List Statement) :
    (declared statements ++ (outside statements ++ inside statements)).Perm
      (statements.filter (·.enabled)) := by
  have hdeclared : declared statements =
      (statements.filter (·.enabled)).filter (·.isDeclaration) := by
    rw [declared, List.filter_filter]
    exact List.filter_congr fun s _ => Bool.and_comm _ _
  have houtside : outside statements =
      ((statements.filter (·.enabled)).filter (!·.isDeclaration)).filter (!·.inMainLoop) := by
    rw [outside, List.filter_filter, List.filter_filter]
    refine List.filter_congr fun s _ => ?_
    cases s.enabled <;> cases s.inMainLoop <;> cases s.isDeclaration <;> rfl
  have hinside : inside statements =
      ((statements.filter (·.enabled)).filter (!·.isDeclaration)).filter (!!·.inMainLoop) := by
    rw [inside, List.filter_filter, List.filter_filter]
    refine List.filter_congr fun s _ => ?_
    simp only [Statement.inMainLoop]
    cases s.enabled <;> cases s.wantsLoop <;> cases s.isDeclaration <;> rfl
  rw [hdeclared, houtside, hinside]
  exact ((List.filter_append_perm _ _).append_left _).trans (List.filter_append_perm _ _)

/-! ## rows as text -/

theorem renderRows_append (width : Nat) (as bs : List Row) :
    renderRows width (as ++ bs) = renderRows width as ++ renderRows width bs :=
  List.flatMap_append

theorem renderRows_cons (width : Nat) (r : Row) (rows : List Row) :
    renderRows width (r :: rows) = r.render width ++ renderRows width rows :=
  List.flatMap_cons

/-! ## rows of a section -/

/-- The depth at which a line is written, `depth` blocks being open before it. -/
def writtenDepth (depth : Nat) : LineRole → Nat
  | .opener _ | .plain => depth
  | .closer => depth - 1

/-- The gap between a statement and those that follow it. -/
def gapBehind (s : Statement) (rest : List Statement) : List Row :=
  if s.isControl then gapBefore rest else []

/-- A section begins with its first statement, written at its depth, and goes on at the
depth behind it. -/
theorem sectionRows_cons {s : Statement} (hs : s.isDeclaration = false) (floor depth : Nat)
    (rest : List Statement) :
    sectionRows floor (floor + depth) (s :: rest) =
      ⟨floor + writtenDepth depth s.role, s.text⟩ ::
        (gapBehind s rest ++ sectionRows floor (floor + depthAfter depth [s.role]) rest) := by
  have hclamp : max (floor + depth - 1) floor = floor + (depth - 1) := by omega
  cases hb : s.body with
  | call c =>
      simp [sectionRows, hb, Statement.role, Statement.text, gapBehind, Statement.isControl,
        writtenDepth, depthAfter]
  | control c =>
      have htext : s.text = c.headLine := by simp [Statement.text, Statement.label, hb]
      have hgap : gapBehind s rest = gapBefore rest := by
        simp [gapBehind, Statement.isControl, hb]
      have hrole : s.role = c.role := by simp [Statement.role, hb]
      rw [sectionRows, hb, htext, hgap, hrole]
      cases c with
      | ifThen _ | whileDo _ | forDo _ _ _ _ => rfl
      | blockEnd =>
          simp only [hclamp]
          rfl
      | declaration d => simp [Statement.isDeclaration, Body.isDeclaration, hb] at hs

end Script

end ScriptComposer
