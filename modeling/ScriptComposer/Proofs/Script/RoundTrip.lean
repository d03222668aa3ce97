import ScriptComposer.Proofs.Script.Plain

/-!
# ScriptComposer.Proofs.Script.RoundTrip

The report on the script of a list of statements.

Only three things in a script open or close a block that the report sees: the
control statements outside the main loop, those inside it, and the loop itself.
The section floors keep the script tidy to look at, but the report does not look
at the indentation: a block that is left open inside the loop takes the loop's
own `end`, and one that is opened outside can be closed inside.

* `findings_generate` — the report on the script of plain statements is decided by
  matching these brackets, which stand on the lines they are placed on.
-/

namespace ScriptComposer.Script

/-! ## the brackets of a script -/

/-- What comes before the statements outside the main loop. -/
def opening (statements : List Statement) : List Row :=
  preamble ++ declarationsSection (declarations statements)

/-- What comes before the main loop. -/
def beforeLoop (statements : List Statement) : List Row :=
  opening statements ++ outsideSection (outside statements)

/-- The main loop as a control statement. -/
def mainLoop : Control := .whileDo "API.Read_LoopyLoop()"

/-- The line with the head of the main loop; a heading stands before it. -/
def loopLine (statements : List Statement) : Nat := height (beforeLoop statements) + 2

/-- The brackets of a script, each with its line: the control statements outside the
main loop, the loop, those inside it, and the loop's `end`, which is the last line. -/
def brackets (statements : List Statement) : List Bracket :=
  placed (height (opening statements) + 2) (outside statements) ++
    ⟨loopLine statements, mainLoop⟩ ::
      (placed (loopLine statements + 5) (inside statements) ++
        [⟨height (layout statements), .blockEnd⟩])

/-! ## sections -/

theorem reads_declarationsSection {ds : List Declaration} (h : ∀ d ∈ ds, d.IsPlain) (n : Nat) :
    Reads n (trimmedRows (declarationsSection ds)) [] := by
  have hbodies : Silent (trimmedRows (ds.flatMap fun d => declarationRows d ++ [.blank])) := by
    induction ds with
    | nil => exact silent_nil
    | cons d ds ih =>
        have hd := silent_declarationRows (h d List.mem_cons_self)
        have hds := ih fun d hd => h d (List.mem_cons_of_mem _ hd)
        rw [List.flatMap_cons, trimmedRows_append, trimmedRows_append]
        exact (hd.append silent_blank).append hds
  cases ds with
  | nil => exact .done n
  | cons d ds =>
      have hhead := isQuiet_of_mem_fixedRows declarationsHead (by decide)
      exact (hhead.silent.append hbodies).reads n

/-- The statements outside the loop are read as they stand in the list. -/
theorem reads_outsideSection {ss : List Statement}
    (h : ∀ s ∈ ss, s.IsPlain ∧ s.isDeclaration = false) (n : Nat) :
    Reads n (trimmedRows (outsideSection ss)) (placed (n + 1) ss) := by
  cases ss with
  | nil => exact .done n
  | cons s ss =>
      have hhead := isQuiet_of_mem_fixedRows outsideHead (by decide)
      have hlength : outsideHead.trimmed.length = 1 := by rw [hhead.1, List.length_singleton]
      have hrows : trimmedRows (outsideSection (s :: ss)) = outsideHead.trimmed ++
          (trimmedRows (sectionRows 0 0 (s :: ss)) ++ Row.blank.trimmed) := by
        simp [outsideSection, trimmedRows]
      have hsection := (reads_sectionRows 0 h 0 (n + 1)).append (silent_blank.reads _)
      rw [List.append_nil, ← hlength] at hsection
      rw [hrows, ← hlength]
      exact .silent hhead.silent hsection

theorem trimmedRows_endRow : trimmedRows [endRow] = [Control.blockEnd.headLine.toList] :=
  trimmed_headLine (c := .blockEnd) (by decide) trivial 0

theorem trimmedRows_loopHead :
    trimmedRows loopHead = ["-- Main execution loop".toList] ++ [mainLoop.headLine.toList] := by
  have hcomment := (isQuiet_of_mem_fixedRows ⟨0, "-- Main execution loop"⟩ (by decide)).1
  have hloop : Row.trimmed ⟨0, mainLoop.headLine⟩ = [mainLoop.headLine.toList] :=
    trimmed_headLine (by decide) (by decide) 0
  rw [← hloop, ← hcomment]
  rfl

theorem trimmed_loopPlaceholder : loopPlaceholder.trimmed = [loopPlaceholder.text.toList] := by
  decide

/-- The placeholder mentions a word of a block, but not as a word of its own. -/
theorem silent_loopPlaceholder : Silent [loopPlaceholder.text.toList] :=
  silent_of_plain (by decide) (by decide) (by decide +kernel)

theorem reads_endRow (n : Nat) : Reads n (trimmedRows [endRow]) [⟨n, .blockEnd⟩] := by
  rw [trimmedRows_endRow]
  exact .bracket (by decide) (by decide) (.done (n + 1))

/-- The head of the loop is read as a bracket of its own. -/
theorem reads_loopHead {n : Nat} {rest : List (List Char)} {q : List Bracket}
    (h : Reads (n + 2) rest q) :
    Reads n (trimmedRows loopHead ++ rest) (⟨n + 1, mainLoop⟩ :: q) := by
  rw [trimmedRows_loopHead, List.append_assoc]
  exact .silent (silent_of_isSkipped (by decide)) (.bracket (by decide) (by decide) h)

/-- The main loop reads as its head, the brackets inside, and its `end`. -/
theorem reads_loopSection {ss : List Statement}
    (h : ∀ s ∈ ss, s.IsPlain ∧ s.isDeclaration = false) (n : Nat) :
    Reads n (trimmedRows (loopSection ss)) (⟨n + 1, mainLoop⟩ ::
      (placed (n + 6) ss ++ [⟨n + height (loopSection ss) - 1, .blockEnd⟩])) := by
  cases ss with
  | nil =>
      have hrows : trimmedRows (loopSection []) = trimmedRows loopHead ++
          ([loopPlaceholder.text.toList] ++ trimmedRows [endRow]) := by
        rw [← trimmed_loopPlaceholder]
        simp [loopSection, trimmedRows]
      have hheight : height (loopSection []) = 4 := by
        rw [height, hrows, trimmedRows_loopHead, trimmedRows_endRow]
        rfl
      rw [hrows, hheight]
      exact reads_loopHead (.silent silent_loopPlaceholder (reads_endRow (n + 3)))
  | cons s ss =>
      obtain ⟨hrefresh, hlength⟩ := silent_of_subset_fixedRows loopRefresh
        fun r hr => by simp [fixedRows, hr]
      have hloop : loopSection (s :: ss) =
          loopHead ++ (loopRefresh ++ (sectionRows 1 1 (s :: ss) ++ [endRow])) := by
        simp only [loopSection, List.append_assoc]
      have hheight : n + height (loopSection (s :: ss)) - 1 =
          n + 6 + height (sectionRows 1 1 (s :: ss)) := by
        have hhead : height loopHead = 2 := by rw [height, trimmedRows_loopHead]; rfl
        have hend : height [endRow] = 1 := by rw [height, trimmedRows_endRow]; rfl
        have hfour : loopRefresh.length = 4 := rfl
        rw [hloop, height_append, height_append, height_append, hhead, hlength, hend, hfour]
        omega
      have hsection := (reads_sectionRows 1 h 1 (n + 6)).append (reads_endRow _)
      rw [hheight, hloop, trimmedRows_append, trimmedRows_append, trimmedRows_append]
      refine reads_loopHead (.silent hrefresh ?_)
      rw [← height, hlength]
      exact hsection

/-! ## the whole script -/

section Whole

variable {statements : List Statement}

theorem isPlain_of_mem_declarations (h : ∀ s ∈ statements, s.enabled = true → s.IsPlain) :
    ∀ d ∈ declarations statements, d.IsPlain := by
  intro d hd
  obtain ⟨s, hs, hsd⟩ := List.mem_filterMap.1 hd
  obtain ⟨hmem, henabled⟩ := List.mem_filter.1 hs
  have hplain := h s hmem henabled
  unfold declaration? at hsd
  split at hsd
  · next d' hb =>
      obtain rfl := Option.some.inj hsd
      rwa [Statement.IsPlain, hb] at hplain
  · simp at hsd

theorem isPlain_of_mem_outside (h : ∀ s ∈ statements, s.enabled = true → s.IsPlain) :
    ∀ s ∈ outside statements, s.IsPlain ∧ s.isDeclaration = false := by
  intro s hs
  obtain ⟨hmem, hside⟩ := List.mem_filter.1 hs
  obtain ⟨⟨henabled, -⟩, hd⟩ : (s.enabled = true ∧ _) ∧ s.isDeclaration = false := by
    simpa using hside
  exact ⟨h s hmem henabled, hd⟩

theorem isPlain_of_mem_inside (h : ∀ s ∈ statements, s.enabled = true → s.IsPlain) :
    ∀ s ∈ inside statements, s.IsPlain ∧ s.isDeclaration = false := by
  intro s hs
  obtain ⟨hmem, hside⟩ := List.mem_filter.1 hs
  obtain ⟨henabled, -, hd⟩ : s.enabled = true ∧ s.wantsLoop = true ∧ s.isDeclaration = false := by
    simpa [Statement.inMainLoop] using hside
  exact ⟨h s hmem henabled, hd⟩

/-- The script of plain statements reads as its brackets. -/
theorem reads_layout (h : ∀ s ∈ statements, s.enabled = true → s.IsPlain) :
    Reads 1 (trimmedRows (layout statements)) (brackets statements) := by
  obtain ⟨hpreamble, -⟩ := silent_of_subset_fixedRows preamble
    fun r hr => by simp [fixedRows, hr]
  have hopening : Reads 1 (trimmedRows (opening statements)) [] := by
    rw [opening, trimmedRows_append]
    exact (hpreamble.reads 1).append
      (reads_declarationsSection (isPlain_of_mem_declarations h) _)
  have hbefore : Reads 1 (trimmedRows (beforeLoop statements))
      (placed (height (opening statements) + 2) (outside statements)) := by
    have houtside := reads_outsideSection (isPlain_of_mem_outside h)
      (1 + height (opening statements))
    rw [Nat.add_comm 1, Nat.add_assoc] at houtside
    rw [beforeLoop, trimmedRows_append]
    refine hopening.append ?_
    rw [← height, Nat.add_comm]
    exact houtside
  have hloop := reads_loopSection (isPlain_of_mem_inside h) (1 + height (beforeLoop statements))
  have hheight : height (layout statements) =
      height (beforeLoop statements) + height (loopSection (inside statements)) := by
    rw [← height_append]
    rfl
  have hall := hbefore.append hloop
  have hlast : 1 + height (beforeLoop statements) + height (loopSection (inside statements)) - 1 =
      height (layout statements) := by omega
  have hfirst : 1 + height (beforeLoop statements) + 1 = loopLine statements := by
    rw [loopLine]
    omega
  have hinside : 1 + height (beforeLoop statements) + 6 = loopLine statements + 5 := by
    rw [loopLine]
    omega
  rw [← trimmedRows_append, hlast, hfirst, hinside] at hall
  exact hall

end Whole

/-- The statements of a section without the calls. -/
def controls (ss : List Statement) : List Control :=
  ss.filterMap fun s =>
    match s.body with
    | .call _ => none
    | .control c => some c

theorem map_control_placed (n : Nat) (ss : List Statement) :
    (placed n ss).map (·.control) = controls ss := by
  induction ss generalizing n with
  | nil => rfl
  | cons s ss ih =>
      rw [placed, controls, List.filterMap_cons]
      cases s.body with
      | call c => exact ih (n + 1)
      | control c => exact congrArg (c :: ·) (ih (n + 2))

/-- The report on the script of plain statements names the strays among the brackets
of the script, and then its unclosed blocks, each on its line; so the script is valid
if the brackets are balanced. -/
theorem findings_generate (width : Nat) {statements : List Statement}
    (h : ∀ s ∈ statements, s.enabled = true → s.IsPlain) :
    (validate (generate width statements)).findings =
        (strays Bracket.role (brackets statements)).map Bracket.strayFinding ++
          (unclosed Bracket.role (brackets statements)).map Bracket.unclosedFinding ∧
      ((validate (generate width statements)).isValid = true ↔
        Balanced ((brackets statements).map Bracket.role)) ∧
      (brackets statements).map (·.control) =
        controls (outside statements) ++ mainLoop :: (controls (inside statements) ++
          [.blockEnd]) ∧
      (brackets statements).Pairwise (·.line < ·.line) ∧
      ∀ b ∈ brackets statements, 1 ≤ b.line ∧
        (trimmedLines (generate width statements))[b.line - 1]? =
          some b.control.headLine.toList := by
  have hreads := reads_layout h
  have hfindings : (validate (generate width statements)).findings =
      (strays Bracket.role (brackets statements)).map Bracket.strayFinding ++
        (unclosed Bracket.role (brackets statements)).map Bracket.unclosedFinding := by
    have hpass := hreads.findingsFrom_eq [] []
    rw [foldl_read_eq, Nesting.findings, List.reverse_reverse, List.map_nil, List.nil_append,
      List.map_nil] at hpass
    rw [validate, trimmedLines_generate]
    exact hpass
  refine ⟨hfindings, ?_, ?_, hreads.pairwise, ?_⟩
  · rw [Report.isValid, hfindings, balanced_iff, List.isEmpty_iff, List.append_eq_nil_iff,
      List.map_eq_nil_iff, List.map_eq_nil_iff]
  · simp only [brackets, List.map_append, List.map_cons, List.map_nil, map_control_placed]
  · rw [trimmedLines_generate]
    exact hreads.getElem?_line

/-- An `end` without a block before the loop, an `if` without an `end` in it, a
declaration, and a disabled call that breaks its line. -/
def unpaired : List Statement :=
  [.ofBody ⟨"a"⟩ (.control .blockEnd) false,
    .ofBody ⟨"b"⟩ (.control (.ifThen "hp < 50")) true,
    .ofBody ⟨"c"⟩ (.call ⟨⟨"Log", "", none⟩, [⟨"text", ⟨"string"⟩, "", "\"hp\""⟩]⟩) true,
    .ofBody ⟨"d"⟩ (.control (.declaration ⟨"rest", "n", some "return\n"⟩)) false,
    { Statement.ofBody ⟨"e"⟩ (.call ⟨⟨"Say\n", "", none⟩, []⟩) true with enabled := false }]

/-- The `if` takes the loop's `end`, and it is the loop that is left open. -/
theorem findings_generate_unpaired :
    (∀ s ∈ unpaired, s.enabled = true → s.IsPlain) ∧
      (validate (generate 2 unpaired)).findings =
        [⟨16, .unexpectedEnd⟩, ⟨19, .unclosedBlock .whileDo⟩] := by
  have hplain : ∀ s ∈ unpaired, s.enabled = true → s.IsPlain := by
    intro s hs henabled
    simp only [unpaired, List.mem_cons, List.not_mem_nil, or_false] at hs
    rcases hs with rfl | rfl | rfl | rfl | rfl
    · trivial
    · decide
    · refine ⟨by decide, by decide, fun w hw => hasWord_eq_false_of_occursIn ?_⟩
      revert w
      decide
    · have hname : "rest".toList.all isNameChar = true := by decide
      refine ⟨List.all_eq_true.1 hname, by decide, fun body hbody => .inr ?_⟩
      obtain rfl := Option.some.inj hbody
      decide
    · simp at henabled
  refine ⟨hplain, ?_⟩
  rw [(findings_generate 2 hplain).1]
  decide +kernel

end ScriptComposer.Script
