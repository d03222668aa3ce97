import ScriptComposer.Proofs.Script.Matching
import ScriptComposer.Proofs.Script.Rows
import ScriptComposer.Proofs.Script.Sections

/-!
# ScriptComposer.Proofs.Script.ProgramText

The script of a list of statements, in closed form.

The layout is made with a level that rises and falls from row to row.  In the closed form
the level of a statement is read off the brackets of its section: it is the number of
blocks opened before it that no `end` up to it closes, its own `end` among them, above the
floor of the section.

* `length_enclosing` — counting up and down finds the blocks around a place;
* `renderRows_sectionRows` — so a section is written statement by statement, each at the
  level of the blocks around it;
* `keptText_spec` — what of the body of a declaration is written;
* `generate_eq_programText` — and the script section by section.
-/

namespace ScriptComposer.Script

/-! ## the blocks around a place -/

/-- The places of the blocks around place `i`: those opened before it that no `end` up to
it closes, an `end` at the place itself included. -/
def enclosing (q : List LineRole) (i : Nat) : List Nat :=
  (List.range i).filter fun k => OpensAt q k ∧ ∀ j < i + 1, ¬ Matches q k j

/-- Counting up and down finds the number of blocks left open. -/
theorem length_filter_isUnclosed (q : List LineRole) :
    ((List.range q.length).filter fun k => IsUnclosed q k).length = depthAfter 0 q := by
  have hfound := found_foldl_read id q
  have hplaces : (List.range q.length).filter (fun k => IsUnclosed q k) =
      (unclosedIn id q).map (·.2) := by
    have hsnd : List.range q.length = q.zipIdx.map (·.2) := by
      rw [List.zipIdx_map_snd, List.range_eq_range']
    rw [hsnd, List.filter_map, unclosedIn, List.map_id]
    rfl
  have hdepth := hfound.stacked.depthAfter_eq
  rw [List.map_id, List.length_map] at hdepth
  rw [hplaces, List.length_map, ← hfound.unclosed, List.length_reverse, hdepth]

/-- The blocks around a place are as many as the depth at which its line is written. -/
theorem length_enclosing (past rest : List LineRole) (r : LineRole) :
    (enclosing (past ++ r :: rest) past.length).length =
      writtenDepth (depthAfter 0 past) r := by
  have hsplit : past ++ r :: rest = (past ++ [r]) ++ rest := by simp
  have hlen : (past ++ [r]).length = past.length + 1 := by simp
  have henclosing : enclosing (past ++ r :: rest) past.length =
      (List.range past.length).filter fun k => IsUnclosed (past ++ [r]) k := by
    refine List.filter_congr fun k hk => ?_
    have hk : k < (past ++ [r]).length := by
      rw [hlen]
      exact Nat.lt_succ_of_lt (List.mem_range.1 hk)
    simp only [hsplit, IsUnclosed, hlen, opensAt_append hk, decide_eq_decide]
    refine and_congr_right fun _ => forall₂_congr fun j hj => ?_
    rw [matches_append_of_lt (by rwa [hlen])]
  have hall := length_filter_isUnclosed (past ++ [r])
  rw [hlen, List.range_succ, List.filter_append, List.length_append, ← henclosing,
    depthAfter_append] at hall
  have hlast : IsUnclosed (past ++ [r]) past.length ↔ r.isOpener = true :=
    isUnclosed_concat_length
  cases r <;> simp [hlast, LineRole.isOpener, depthAfter, writtenDepth] at hall ⊢ <;> omega

/-- A stray `end` counts for nothing, and an `end` stands outside of the block it closes. -/
example : (List.range 4).map (enclosing [.closer, .opener .ifThen, .plain, .closer]) =
    [[], [], [1], []] := by decide

/-! ## a section -/

/-- A line of text behind `n` spaces. -/
def spaced (n : Nat) (text : String) : List Char :=
  List.replicate n ' ' ++ text.toList ++ ['\n']

/-- The statement at place `i` of a section, at the level of the blocks around it; behind a
control statement stands an empty line, unless it is the last one. -/
def statementText (width floor : Nat) (ss : List Statement) (s : Statement) (i : Nat) :
    List Char :=
  spaced (width * (floor + (enclosing (ss.map Statement.role) i).length)) s.text ++
    if s.isControl = true ∧ i + 1 < ss.length then ['\n'] else []

/-- The statements of a section, one after the other. -/
def sectionText (width floor : Nat) (ss : List Statement) : List Char :=
  ss.zipIdx.flatMap fun (s, i) => statementText width floor ss s i

theorem render_eq_spaced (width level : Nat) (text : String) :
    Row.render width ⟨level, text⟩ = spaced (width * level) text := by
  rw [Row.render, spaced, Nat.mul_comm]

/-- The gap behind a control statement is one empty line. -/
theorem renderRows_gapBehind (width : Nat) (s : Statement) (rest : List Statement) :
    renderRows width (gapBehind s rest) =
      if s.isControl = true ∧ rest ≠ [] then ['\n'] else [] := by
  cases hs : s.isControl <;> cases rest <;>
    simp [gapBehind, gapBefore, renderRows, Row.render, Row.blank, hs]

/-- What is left of a section is written as the closed form says, at the depth that the
part before it leaves. -/
theorem renderRows_sectionRows_append (width floor : Nat) (past rest : List Statement)
    (h : ∀ s ∈ rest, s.isDeclaration = false) :
    renderRows width
        (sectionRows floor (floor + depthAfter 0 (past.map Statement.role)) rest) =
      (rest.zipIdx past.length).flatMap fun (s, i) =>
        statementText width floor (past ++ rest) s i := by
  induction rest generalizing past with
  | nil => rfl
  | cons s rest ih =>
      have hnext := ih (past ++ [s]) fun t ht => h t (List.mem_cons_of_mem _ ht)
      rw [List.map_append, depthAfter_append, List.length_append, List.append_assoc] at hnext
      have hlevel : (enclosing ((past ++ s :: rest).map Statement.role) past.length).length =
          writtenDepth (depthAfter 0 (past.map Statement.role)) s.role := by
        have hpast : (past.map Statement.role).length = past.length := List.length_map _
        rw [List.map_append, List.map_cons, ← hpast]
        exact length_enclosing _ _ _
      have hlast : past.length + 1 < (past ++ s :: rest).length ↔ rest ≠ [] := by
        rw [List.length_append, List.length_cons, ne_eq, ← List.length_eq_zero_iff]
        omega
      have hfirst : statementText width floor (past ++ s :: rest) s past.length =
          Row.render width ⟨floor + writtenDepth (depthAfter 0 (past.map Statement.role)) s.role,
            s.text⟩ ++ renderRows width (gapBehind s rest) := by
        simp only [statementText, hlevel, hlast, render_eq_spaced, renderRows_gapBehind]
      rw [sectionRows_cons (h s List.mem_cons_self), renderRows_cons, renderRows_append,
        ← List.append_assoc, ← hfirst, List.zipIdx_cons, List.flatMap_cons]
      exact congrArg _ hnext

/-- A section without declarations is written statement by statement. -/
theorem renderRows_sectionRows (width floor : Nat) {ss : List Statement}
    (h : ∀ s ∈ ss, s.isDeclaration = false) :
    renderRows width (sectionRows floor floor ss) = sectionText width floor ss :=
  renderRows_sectionRows_append width floor [] ss h

/-! ## the whole script -/

/-- The beginning of every script. -/
def preambleText : List Char :=
  spaced 0 "-- Generated Lua Script" ++ spaced 0 "-- Created with ME-Gui" ++ spaced 0 "" ++
    spaced 0 "local API = require(\"api\")" ++ spaced 0 "" ++
    spaced 0 "-- Variable declarations" ++ spaced 0 "local CurrentTick = API.Get_tick()" ++
    spaced 0 "local OBJECTS_table = API.ReadAllObjectsArray(\x7b-1\x7d,\x7b-1\x7d,\x7b\x7d)" ++
    spaced 0 ""

/-- What comes before the statements in the main loop. -/
def refreshText (width : Nat) : List Char :=
  spaced width "-- Update game state" ++ spaced width "CurrentTick = API.Get_tick()" ++
    spaced width "OBJECTS_table = API.ReadAllObjectsArray(\x7b-1\x7d,\x7b-1\x7d,\x7b\x7d)" ++
    spaced 0 ""

/-- What is kept of the body of a declaration: all but the line feeds at its end. -/
def keptText (body : String) : List Char := body.toList.rdropWhile (· = '\n')

/-- What is kept of a body does not end in a line feed, and the body is that text with line
feeds behind it. -/
theorem keptText_spec (body : String) :
    (keptText body).getLast? ≠ some '\n' ∧
      ∃ k, body.toList = keptText body ++ List.replicate k '\n' :=
  ⟨Text.getLast?_rdropWhile_ne '\n' body.toList,
    Text.eq_rdropWhile_append_replicate '\n' body.toList⟩

/-- The body of a declaration as it is written: what is kept of it, verbatim, or a placeholder
if there is none to see. -/
def bodyText (width : Nat) : Option String → List Char
  | none => spaced width "return true"
  | some body =>
      if body.toList.all Text.isBlank then spaced width "return true"
      else keptText body ++ ['\n']

/-- A declaration, and the empty line behind it. -/
def declarationText (width : Nat) (s : Statement) : List Char :=
  match s.body with
  | .control (.declaration d) =>
      spaced 0 s.label ++ bodyText width d.body ++ spaced 0 "end" ++ spaced 0 ""
  | _ => []

/-- The enabled statements that are written before the main loop, declarations apart. -/
def ahead (statements : List Statement) : List Statement :=
  statements.filter fun s => s.enabled && !s.isDeclaration && !s.inMainLoop

/-- The enabled statements that are written in the main loop. -/
def looped (statements : List Statement) : List Statement :=
  statements.filter fun s => s.enabled && !s.isDeclaration && s.inMainLoop

/-- The script, section by section. -/
def programText (width : Nat) (statements : List Statement) : List Char :=
  preambleText ++
    (if declared statements = [] then []
      else spaced 0 "-- Function declarations" ++
        (declared statements).flatMap (declarationText width)) ++
    (if ahead statements = [] then []
      else spaced 0 "-- Code outside main loop" ++
        sectionText width 0 (ahead statements) ++ spaced 0 "") ++
    spaced 0 "-- Main execution loop" ++ spaced 0 "while API.Read_LoopyLoop() do" ++
    (if looped statements = [] then
        spaced width "print(\"Add functions to build your script!\")"
      else refreshText width ++ sectionText width 1 (looped statements)) ++
    spaced 0 "end"

theorem outside_eq_ahead (statements : List Statement) :
    outside statements = ahead statements := by
  refine List.filter_congr fun s _ => ?_
  rw [Bool.and_assoc, Bool.and_assoc, Bool.and_comm (!s.inMainLoop)]

/-- A declaration is never inside the main loop. -/
theorem inside_eq_looped (statements : List Statement) :
    inside statements = looped statements := by
  refine List.filter_congr fun s _ => ?_
  rw [Statement.inMainLoop]
  cases s.enabled <;> cases s.isDeclaration <;> cases s.wantsLoop <;> rfl

/-! ### declarations -/

theorem exists_declaration {s : Statement} (hs : s.isDeclaration = true) :
    ∃ d, s.body = .control (.declaration d) := by
  rw [Statement.isDeclaration] at hs
  cases hb : s.body with
  | call c => simp [hb, Body.isDeclaration] at hs
  | control c => cases c <;> simp_all [Body.isDeclaration]

/-- A body is written at the left margin, whatever the width of a level. -/
theorem render_bodyRow (width : Nat) (body : Option String) :
    (bodyRow body).render width = bodyText width body := by
  cases body with
  | none => rw [bodyRow, emptyBody, render_eq_spaced, Nat.mul_one, bodyText]
  | some body =>
      rw [bodyRow, bodyText, Text.isBlankText]
      split
      · rw [emptyBody, render_eq_spaced, Nat.mul_one]
      · rw [Row.render, Nat.zero_mul, List.replicate_zero, List.nil_append,
          toList_dropFinalNewlines, keptText]

/-- A declaration is written from its label to the empty line behind it. -/
theorem renderRows_declarationRows (width : Nat) {s : Statement} {d : Declaration}
    (hs : s.body = .control (.declaration d)) :
    renderRows width (declarationRows d ++ [.blank]) = declarationText width s := by
  have hlabel : s.label = (Control.declaration d).headLine := by simp [Statement.label, hs]
  simp only [declarationText, hs, declarationRows, List.cons_append, List.nil_append,
    renderRows_cons, render_bodyRow, hlabel]
  simp [renderRows, render_eq_spaced, endRow, Row.blank]

theorem renderRows_declarations (width : Nat) {ss : List Statement}
    (h : ∀ s ∈ ss, s.isDeclaration = true) :
    renderRows width ((ss.filterMap declaration?).flatMap fun d => declarationRows d ++ [.blank]) =
      ss.flatMap (declarationText width) := by
  induction ss with
  | nil => rfl
  | cons s ss ih =>
      obtain ⟨d, hd⟩ := exists_declaration (h s List.mem_cons_self)
      have hs : declaration? s = some d := by simp [declaration?, hd]
      rw [List.filterMap_cons_some hs, List.flatMap_cons, List.flatMap_cons, renderRows_append,
        renderRows_declarationRows width hd, ih fun t ht => h t (List.mem_cons_of_mem _ ht)]

/-! ### the sections of the script -/

theorem renderRows_preamble (width : Nat) : renderRows width preamble = preambleText := by
  simp [preamble, renderRows, render_eq_spaced, preambleText, Row.blank]

theorem renderRows_declarationsSection (width : Nat) (statements : List Statement) :
    renderRows width (declarationsSection (declarations statements)) =
      if declared statements = [] then []
      else spaced 0 "-- Function declarations" ++
        (declared statements).flatMap (declarationText width) := by
  have hdeclared : ∀ s ∈ declared statements, s.isDeclaration = true := fun s hs =>
    (Bool.and_eq_true_iff.1 (List.mem_filter.1 hs).2).2
  have hrows := renderRows_declarations width hdeclared
  rw [declarations_eq]
  cases h : declared statements with
  | nil => rfl
  | cons s ss =>
      obtain ⟨d, hd⟩ := exists_declaration (hdeclared s (by simp [h]))
      have hs : declaration? s = some d := by simp [declaration?, hd]
      rw [h, List.filterMap_cons_some hs] at hrows
      rw [List.filterMap_cons_some hs, if_neg (List.cons_ne_nil s ss), declarationsSection]
      · rw [renderRows_cons, hrows, declarationsHead, render_eq_spaced, Nat.mul_zero]
      · exact List.cons_ne_nil d _

theorem renderRows_outsideSection (width : Nat) (statements : List Statement) :
    renderRows width (outsideSection (outside statements)) =
      if ahead statements = [] then []
      else spaced 0 "-- Code outside main loop" ++
        sectionText width 0 (ahead statements) ++ spaced 0 "" := by
  have hrows := renderRows_sectionRows width 0 (isDeclaration_of_mem_outside statements)
  rw [← outside_eq_ahead]
  cases h : outside statements with
  | nil => rfl
  | cons s ss =>
      rw [h] at hrows
      rw [if_neg (List.cons_ne_nil s ss), outsideSection]
      · rw [List.cons_append, renderRows_cons, renderRows_append, hrows]
        simp [outsideHead, render_eq_spaced, renderRows, Row.blank]
      · exact List.cons_ne_nil s ss

theorem renderRows_loopSection (width : Nat) (statements : List Statement) :
    renderRows width (loopSection (inside statements)) =
      spaced 0 "-- Main execution loop" ++ spaced 0 "while API.Read_LoopyLoop() do" ++
        (if looped statements = [] then
            spaced width "print(\"Add functions to build your script!\")"
          else refreshText width ++ sectionText width 1 (looped statements)) ++
        spaced 0 "end" := by
  have hrows := renderRows_sectionRows width 1 (isDeclaration_of_mem_inside statements)
  rw [← inside_eq_looped]
  cases h : inside statements with
  | nil => simp [loopSection, loopHead, loopPlaceholder, endRow, renderRows, render_eq_spaced]
  | cons s ss =>
      rw [h] at hrows
      rw [if_neg (List.cons_ne_nil s ss), loopSection]
      · rw [renderRows_append, renderRows_append, renderRows_append, hrows]
        simp [loopHead, loopRefresh, refreshText, endRow, renderRows, render_eq_spaced, Row.blank]
      · exact List.cons_ne_nil s ss

/-- A script is its sections, one after the other; they have every enabled statement exactly
once, and what is kept of a body is all of it but for line feeds at its end. -/
theorem generate_eq_programText (width : Nat) (statements : List Statement) :
    generate width statements = String.ofList (programText width statements) ∧
      (declared statements ++ (ahead statements ++ looped statements)).Perm
        (statements.filter (·.enabled)) ∧
      ∀ body : String, (keptText body).getLast? ≠ some '\n' ∧
        ∃ k, body.toList = keptText body ++ List.replicate k '\n' := by
  refine ⟨?_, ?_, keptText_spec⟩
  · rw [generate, layout, renderRows_append, renderRows_append, renderRows_append,
      renderRows_preamble, renderRows_declarationsSection, renderRows_outsideSection,
      renderRows_loopSection, programText]
    simp only [List.append_assoc]
  · rw [← outside_eq_ahead, ← inside_eq_looped]
    exact sections_perm statements

/-- A declared body is written with its own indentation and empty lines, but not with the line
feeds at its end. -/
example : bodyText 2 (some "  if ready then\n\nend\n\n") =
    "  if ready then\n\nend\n".toList := by decide

end ScriptComposer.Script
