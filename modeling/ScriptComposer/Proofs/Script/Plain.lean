import ScriptComposer.Proofs.Script.Reading
import ScriptComposer.Proofs.Script.Rows

/-!
# ScriptComposer.Proofs.Script.Plain

Plain statements, and what the rows they are written in read as.

What a user types into a field reaches the script as it is and can say anything.
A statement is plain if its fields keep to their place: they do not break the
line, leave no quotation open, and a call does not mention a block.

* `reads_sectionRows` — the rows of a section of plain statements read as the
  brackets placed in it;
* `silent_declarationRows` — a plain declaration is silent.
-/

namespace ScriptComposer

/-- Text without a line break and without a quote. -/
def IsPlainText (s : String) : Prop :=
  '\n' ∉ s.toList ∧ '"' ∉ s.toList ∧ '\'' ∉ s.toList

instance (s : String) : Decidable (IsPlainText s) := inferInstanceAs (Decidable (_ ∧ _))

theorem IsPlainText.append {s t : String} (hs : IsPlainText s) (ht : IsPlainText t) :
    IsPlainText (s ++ t) := by
  obtain ⟨hs₁, hs₂, hs₃⟩ := hs
  obtain ⟨ht₁, ht₂, ht₃⟩ := ht
  simp [IsPlainText, *]

/-- The call is written on one line, with its quotations closed, and no word of it
could open or close a block. -/
def Call.IsPlain (c : Call) : Prop :=
  '\n' ∉ c.render.toList ∧ Script.hasUnbalancedQuotes c.render.toList = false ∧
    ∀ w ∈ Script.structureWords, Script.hasWord w (Script.pieces c.render.toList) = false

/-- The declaration is read as one, and its body, if it has one, is valid on its own. -/
def Declaration.IsPlain (d : Declaration) : Prop :=
  (∀ c ∈ d.name.toList, Script.isNameChar c = true) ∧ IsPlainText d.params ∧
    ∀ body ∈ d.body, Text.isBlankText body = true ∨ (Script.validate body).isValid = true

/-- The fields are plain text; a declaration is plain in its own sense. -/
def Control.IsPlain : Control → Prop
  | .ifThen condition | .whileDo condition => IsPlainText condition
  | .forDo v start stop step =>
      IsPlainText v ∧ IsPlainText start ∧ IsPlainText stop ∧ IsPlainText step
  | .blockEnd => True
  | .declaration d => d.IsPlain

/-- The fields of the statement keep to their place. -/
def Statement.IsPlain (s : Statement) : Prop :=
  match s.body with
  | .call c => c.IsPlain
  | .control c => c.IsPlain

instance (c : Call) : Decidable c.IsPlain := inferInstanceAs (Decidable (_ ∧ _))

instance (d : Declaration) : Decidable d.IsPlain := inferInstanceAs (Decidable (_ ∧ _))

instance : (c : Control) → Decidable c.IsPlain
  | .ifThen condition | .whileDo condition => inferInstanceAs (Decidable (IsPlainText condition))
  | .forDo .. => inferInstanceAs (Decidable (_ ∧ _))
  | .blockEnd => inferInstanceAs (Decidable True)
  | .declaration d => inferInstanceAs (Decidable d.IsPlain)

instance : (s : Statement) → Decidable s.IsPlain
  | ⟨_, _, _, .call c, _⟩ => inferInstanceAs (Decidable c.IsPlain)
  | ⟨_, _, _, .control c, _⟩ => inferInstanceAs (Decidable c.IsPlain)

namespace Script

/-! ## plain lines -/

theorem hasUnbalancedQuotes_of_isPlainText {s : String} (h : IsPlainText s) :
    hasUnbalancedQuotes s.toList = false := by
  obtain ⟨-, hdouble, hsingle⟩ := h
  rw [hasUnbalancedQuotes, List.count_eq_zero.2 hdouble, List.count_eq_zero.2 hsingle]
  rfl

/-- The head line of a plain control statement is plain text. -/
theorem isPlainText_headLine {c : Control} (hc : c.role ≠ .plain) (h : c.IsPlain) :
    IsPlainText c.headLine := by
  cases c with
  | ifThen condition =>
      have hline : IsPlainText ("if " ++ condition) := IsPlainText.append (by decide) h
      exact hline.append (by decide)
  | whileDo condition =>
      have hline : IsPlainText ("while " ++ condition) := IsPlainText.append (by decide) h
      exact hline.append (by decide)
  | forDo v start stop step =>
      obtain ⟨hv, hstart, hstop, hstep⟩ := h
      have hclause : IsPlainText (stepClause step) := by
        rw [stepClause]
        split
        · decide
        · exact IsPlainText.append (by decide) hstep
      have hrange : IsPlainText ("for " ++ v ++ " = " ++ start ++ ", " ++ stop) :=
        (((((IsPlainText.append (by decide) hv).append (by decide)).append hstart).append
          (by decide)).append hstop)
      exact (hrange.append hclause).append (by decide)
  | blockEnd => decide
  | declaration d => exact absurd rfl hc

/-- The head line of a statement that opens or closes a block stands alone on its line. -/
theorem trimmed_headLine {c : Control} (hc : c.role ≠ .plain) (h : c.IsPlain) (level : Nat) :
    Row.trimmed ⟨level, c.headLine⟩ = [c.headLine.toList] := by
  obtain ⟨first, last, hfirst, hlast, hf, hl, -⟩ := headLine_ends hc
  exact Row.trimmed_eq_singleton (isPlainText_headLine hc h).1 hfirst hlast hf hl

/-- A row without a line feed and with a visible character at either end is a line of its
own, and not passed over unless it starts with a hyphen. -/
theorem trimmed_of_ends {s : String} {first last : Char} {middle : List Char} (level : Nat)
    (hs : s.toList = first :: (middle ++ [last])) (hlf : '\n' ∉ s.toList)
    (hf : Text.isBlank first = false ∧ first ≠ '-') (hl : Text.isBlank last = false) :
    Row.trimmed ⟨level, s⟩ = [s.toList] ∧ isSkipped s.toList = false := by
  have hfirst : s.toList.head? = some first := by rw [hs, List.head?_cons]
  have hlast : s.toList.getLast? = some last := by
    rw [hs, ← List.cons_append, List.getLast?_append, List.getLast?_singleton, Option.some_or]
  exact ⟨Row.trimmed_eq_singleton hlf hfirst hlast hf.1 hl, isSkipped_eq_false hfirst hf.2⟩

/-- The two ends of a call. -/
theorem render_ends (c : Call) : ∃ middle, c.render.toList = 'A' :: (middle ++ [')']) :=
  ⟨"PI.".toList ++ c.callee.name.toList ++ '(' ::
    (", ".intercalate (c.arguments.map (·.render))).toList, by simp [Call.render]⟩

/-- A plain call is a line of its own, and it is silent. -/
theorem silent_call {c : Call} (h : c.IsPlain) (level : Nat) :
    Row.trimmed ⟨level, c.render⟩ = [c.render.toList] ∧ Silent [c.render.toList] := by
  obtain ⟨hlf, hquotes, hwords⟩ := h
  obtain ⟨middle, hline⟩ := render_ends c
  obtain ⟨hrow, hskipped⟩ := trimmed_of_ends level hline hlf (by decide) (by decide)
  exact ⟨hrow, silent_of_plain hskipped hquotes (lineRole_eq_plain hwords)⟩

/-! ## fixed rows -/

/-- The rows that every script or many have in common, brackets and declarations apart. -/
def fixedRows : List Row :=
  preamble ++ loopRefresh ++
    [declarationsHead, outsideHead, ⟨0, "-- Main execution loop"⟩, emptyBody]

/-- The row is one line, passed over or without any word of a block and any quotation that
is left open. -/
def Row.IsQuiet (r : Row) : Prop :=
  r.trimmed = [r.text.toList] ∧
    (isSkipped r.text.toList = true ∨ (hasUnbalancedQuotes r.text.toList = false ∧
      ∀ w ∈ structureWords, Text.occursIn w.toList r.text.toList = false))

instance (r : Row) : Decidable r.IsQuiet := inferInstanceAs (Decidable (_ ∧ _))

theorem Row.IsQuiet.silent {r : Row} (h : r.IsQuiet) : Silent r.trimmed := by
  obtain ⟨hrow, hline⟩ := h
  rw [hrow]
  cases hs : isSkipped r.text.toList with
  | true => exact silent_of_isSkipped hs
  | false =>
      obtain ⟨hquotes, hwords⟩ := hline.resolve_left (by simp [hs])
      exact silent_of_plain hs hquotes
        (lineRole_eq_plain fun w hw => hasWord_eq_false_of_occursIn (hwords w hw))

theorem isQuiet_of_mem_fixedRows : ∀ r ∈ fixedRows, r.IsQuiet := by decide +kernel

/-- Fixed rows are silent, and each of them is one line. -/
theorem silent_of_subset_fixedRows (rows : List Row) (h : rows ⊆ fixedRows) :
    Silent (trimmedRows rows) ∧ height rows = rows.length := by
  induction rows with
  | nil => exact ⟨silent_nil, rfl⟩
  | cons r rows ih =>
      have hr := isQuiet_of_mem_fixedRows r (h List.mem_cons_self)
      obtain ⟨hsilent, hlength⟩ := ih fun r hr => h (List.mem_cons_of_mem _ hr)
      refine ⟨hr.silent.append hsilent, ?_⟩
      rw [height, trimmedRows, List.flatMap_cons, List.length_append, ← trimmedRows, ← height,
        hlength, hr.1, List.length_singleton, List.length_cons, Nat.add_comm]

/-! ## sections -/

/-- The brackets among statements of a section, the first of which is written on line
`n`.  A call takes one line; a control statement takes one more, that of the gap
behind it. -/
def placed : Nat → List Statement → List Bracket
  | _, [] => []
  | n, s :: rest =>
      match s.body with
      | .call _ => placed (n + 1) rest
      | .control c => ⟨n, c⟩ :: placed (n + 2) rest

theorem role_ne_plain {s : Statement} {c : Control} (hs : s.isDeclaration = false)
    (hb : s.body = .control c) : c.role ≠ .plain := by
  rw [Statement.isDeclaration, hb] at hs
  cases c <;> simp_all [Body.isDeclaration, Control.role]

/-- A statement that opens or closes a block is written as its head line, whatever
level it and the rest of its section are at. -/
theorem sectionRows_control {s : Statement} {c : Control} (hb : s.body = .control c)
    (hc : c.role ≠ .plain) (floor level : Nat) (rest : List Statement) :
    ∃ l l', sectionRows floor level (s :: rest) =
      ⟨l, c.headLine⟩ :: (gapBefore rest ++ sectionRows floor l' rest) := by
  cases c with
  | ifThen _ => exact ⟨level, level + 1, by rw [sectionRows, hb]; rfl⟩
  | whileDo _ => exact ⟨level, level + 1, by rw [sectionRows, hb]; rfl⟩
  | forDo _ _ _ _ => exact ⟨level, level + 1, by rw [sectionRows, hb]; rfl⟩
  | blockEnd =>
      exact ⟨max (level - 1) floor, max (level - 1) floor, by rw [sectionRows, hb]; rfl⟩
  | declaration d => exact absurd rfl hc

theorem silent_blank : Silent Row.blank.trimmed := silent_of_isSkipped rfl

/-- A section of plain statements reads as the brackets placed in it. -/
theorem reads_sectionRows (floor : Nat) {ss : List Statement}
    (h : ∀ s ∈ ss, s.IsPlain ∧ s.isDeclaration = false) (level n : Nat) :
    Reads n (trimmedRows (sectionRows floor level ss)) (placed n ss) := by
  induction ss generalizing level n with
  | nil => exact .done n
  | cons s rest ih =>
      obtain ⟨hs, hd⟩ := h s List.mem_cons_self
      have hrest := fun s hs => h s (List.mem_cons_of_mem _ hs)
      cases hb : s.body with
      | call c =>
          rw [Statement.IsPlain, hb] at hs
          obtain ⟨hrow, hsilent⟩ := silent_call hs level
          rw [sectionRows, placed, hb]
          simp only [trimmedRows, List.flatMap_cons, hrow]
          exact .silent hsilent (ih hrest level (n + 1))
      | control c =>
          rw [Statement.IsPlain, hb] at hs
          have hc := role_ne_plain hd hb
          have hquotes := hasUnbalancedQuotes_of_isPlainText (isPlainText_headLine hc hs)
          obtain ⟨l, l', hrows⟩ := sectionRows_control hb hc floor level rest
          have hgap : Reads (n + 1) (trimmedRows (gapBefore rest ++ sectionRows floor l' rest))
              (placed (n + 2) rest) := by
            cases rest with
            | nil => exact .done _
            | cons t rest => exact .silent silent_blank (ih hrest l' (n + 2))
          rw [hrows, placed, hb]
          simp only [trimmedRows, List.flatMap_cons, trimmed_headLine hc hs l]
          exact .bracket hc hquotes hgap

/-! ## declarations -/

/-- Lines that are passed over make no difference at the end. -/
theorem findingsFrom_append_skipped {lines skipped : List (List Char)}
    (h : ∀ line ∈ skipped, isSkipped line = true) (n : Nat) (stack : List OpenBlock) :
    findingsFrom n stack (lines ++ skipped) = findingsFrom n stack lines := by
  induction lines generalizing n stack with
  | nil =>
      rw [List.nil_append]
      induction skipped generalizing n with
      | nil => rfl
      | cons line skipped ih =>
          rw [findingsFrom_skipped (h line List.mem_cons_self),
            ih (fun l hl => h l (List.mem_cons_of_mem _ hl))]
          simp only [findingsFrom]
  | cons line lines ih => simp only [List.cons_append, findingsFrom, ih]

/-- The lines of a text are those it has without its final line feeds, and blank ones. -/
theorem lines_eq_dropFinalNewlines {s : String} (h : Text.isBlankText s = false) :
    ∃ k, Text.lines s.toList =
      Text.splitAt '\n' (dropFinalNewlines s).toList ++ List.replicate k [] := by
  obtain ⟨k, hs⟩ := Text.eq_rdropWhile_append_replicate '\n' s.toList
  have hlast := Text.getLast?_rdropWhile_ne '\n' s.toList
  rw [← toList_dropFinalNewlines] at hs hlast
  have hne : (dropFinalNewlines s).toList ≠ [] := by
    intro hnil
    rw [hnil, List.nil_append] at hs
    have hblank : Text.isBlank '\n' = true := by decide
    simp [Text.isBlankText, hs, hblank] at h
  cases k with
  | zero =>
      rw [List.replicate_zero, List.append_nil] at hs
      have hlf : (dropFinalNewlines s).toList.getLast hne ≠ '\n' := fun e =>
        hlast (List.getLast?_eq_getLast_of_ne_nil hne |>.trans (congrArg some e))
      exact ⟨0, by rw [hs, Text.lines_eq_splitAt hne hlf, List.replicate_zero, List.append_nil]⟩
  | succ k =>
      rw [List.replicate_succ] at hs
      exact ⟨k, by rw [hs, Text.lines_append_lineFeed, Text.lines_replicate_lineFeed]⟩

/-- A body that is valid on its own is silent in its place. -/
theorem silent_bodyRow {d : Declaration} (h : d.IsPlain) : Silent (bodyRow d.body).trimmed := by
  have hempty : Silent emptyBody.trimmed := (isQuiet_of_mem_fixedRows _ (by decide)).silent
  obtain ⟨-, -, hbody⟩ := h
  cases hd : d.body with
  | none => exact hempty
  | some body =>
      rw [bodyRow]
      split
      · exact hempty
      · next hblank =>
          have hvalid : (validate body).isValid = true := (hbody body hd).resolve_left hblank
          obtain ⟨k, hlines⟩ := lines_eq_dropFinalNewlines (Bool.eq_false_iff.2 hblank)
          have hnone : findingsFrom 1 [] (trimmedLines body) = [] := by
            simpa [Report.isValid, validate] using hvalid
          rw [trimmedLines, hlines, List.map_append, findingsFrom_append_skipped] at hnone
          · exact silent_of_findingsFrom_eq_nil hnone
          · intro line hline
            obtain ⟨l, hl, rfl⟩ := List.mem_map.1 hline
            rw [List.eq_of_mem_replicate hl]
            decide

/-- The head line of a plain declaration is a line of its own, with its quotations closed. -/
theorem trimmed_headLine_declaration {d : Declaration} (h : d.IsPlain) (level : Nat) :
    Row.trimmed ⟨level, (Control.declaration d).headLine⟩ =
        [(Control.declaration d).headLine.toList] ∧
      isSkipped (Control.declaration d).headLine.toList = false ∧
      hasUnbalancedQuotes (Control.declaration d).headLine.toList = false := by
  obtain ⟨hname, hparams, -⟩ := h
  have hplainName : IsPlainText d.name := by
    have hnone : ∀ c ∈ ['\n', '"', '\''], c ∉ d.name.toList := fun c hc hmem => by
      have := hname c hmem
      simp [isNameChar_eq_false c hc] at this
    exact ⟨hnone _ (by decide), hnone _ (by decide), hnone _ (by decide)⟩
  have hplain : IsPlainText (Control.declaration d).headLine := by
    have hhead : IsPlainText ("function " ++ d.name ++ "(") :=
      (IsPlainText.append (by decide) hplainName).append (by decide)
    exact (hhead.append hparams).append (by decide)
  have hline : (Control.declaration d).headLine.toList =
      'f' :: ("unction ".toList ++ d.name.toList ++ '(' :: d.params.toList ++ [')']) := by
    simp [Control.headLine]
  obtain ⟨hrow, hskipped⟩ := trimmed_of_ends level hline hplain.1 (by decide) (by decide)
  exact ⟨hrow, hskipped, hasUnbalancedQuotes_of_isPlainText hplain⟩

/-- A plain declaration is silent: its `end` closes it. -/
theorem silent_declarationRows {d : Declaration} (h : d.IsPlain) :
    Silent (trimmedRows (declarationRows d)) := by
  obtain ⟨hrow, hskipped, hquotes⟩ := trimmed_headLine_declaration h 0
  have hend : endRow.trimmed = ["end".toList] := by decide
  have hrows : trimmedRows (declarationRows d) =
      (Control.declaration d).headLine.toList :: ((bodyRow d.body).trimmed ++ ["end".toList]) := by
    simp [trimmedRows, declarationRows, hrow, hend]
  rw [hrows]
  exact Silent.block hskipped hquotes (lineRole_headLine_declaration h.1) (silent_bodyRow h)
    (by decide) (by decide) lineRole_end

end Script

end ScriptComposer
