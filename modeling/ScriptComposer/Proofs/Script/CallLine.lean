import Mathlib.Data.List.Flatten
import Mathlib.Data.List.NodupEquivFin
import ScriptComposer.Proofs.Script.Argument
import ScriptComposer.Proofs.Script.Plain
import ScriptComposer.Proofs.Script.Sections

/-!
# ScriptComposer.Proofs.Script.CallLine

A call keeps to its line, whatever its arguments say.

The values of arguments are free text.  In a quoted literal every character that could end
the line or the literal is escaped, and the check of quotations knows the escapes; numbers,
truth values and empty values have no quote to begin with.  What is written as it is, the
name of the function and a value that stands for a table, has to be free of line feeds and
quotes by itself.

* `isContained_render` — a call breaks neither its line nor a quotation;
* `call_lines` — so in a script every call has a line of its own, on which no quotation is
  reported.
-/

namespace ScriptComposer

/-- Is the argument written as it was typed if it is not blank?  Tables are, and a type
that is also a string or a truth value is not taken for a table. -/
def Argument.isVerbatim (a : Argument) : Bool :=
  a.type.mentions .table && !a.type.mentions .string && !a.type.mentions .boolean

/-- The name of the function and the tables among the arguments have no line feed and no
quote. -/
def Call.IsTidy (c : Call) : Prop :=
  IsPlainText c.callee.name ∧ ∀ a ∈ c.arguments, a.isVerbatim = true → IsPlainText a.value

instance (c : Call) : Decidable c.IsTidy := inferInstanceAs (Decidable (_ ∧ _))

namespace Script

/-! ## text that keeps to itself -/

/-- The text does not end the line, and outside of a quotation it leaves none open: what
follows it is looked at as if it stood alone, or not at all behind a comment. -/
def IsContained (s : List Char) : Prop :=
  '\n' ∉ s ∧ ∀ rest, quotesClose none rest = true → quotesClose none (s ++ rest) = true

theorem IsContained.append {s t : List Char} (hs : IsContained s) (ht : IsContained t) :
    IsContained (s ++ t) := by
  obtain ⟨hsLine, hsQuotes⟩ := hs
  obtain ⟨htLine, htQuotes⟩ := ht
  refine ⟨by simp [hsLine, htLine], fun rest h => ?_⟩
  rw [List.append_assoc]
  exact hsQuotes _ (htQuotes rest h)

/-- Contained text is not reported. -/
theorem IsContained.hasUnbalancedQuotes {s : List Char} (h : IsContained s) :
    hasUnbalancedQuotes s = false := by
  have hclose : quotesClose none s = true := by simpa using h.2 [] rfl
  simp [Script.hasUnbalancedQuotes, hclose]

/-- A character that is no quote leaves no quotation open; at worst it begins a comment. -/
theorem quotesClose_cons {c : Char} {rest : List Char} (hd : c ≠ '"') (hs : c ≠ '\'')
    (h : quotesClose none rest = true) : quotesClose none (c :: rest) = true := by
  rw [quotesClose.eq_def]
  split <;> simp_all

theorem isContained_of_no_quote {s : List Char} (hlf : '\n' ∉ s) (hd : '"' ∉ s) (hs : '\'' ∉ s) :
    IsContained s := by
  refine ⟨hlf, fun rest h => ?_⟩
  induction s with
  | nil => exact h
  | cons c s ih =>
      simp only [List.mem_cons, not_or] at hlf hd hs
      exact quotesClose_cons (Ne.symm hd.1) (Ne.symm hs.1) (ih hlf.2 hd.2 hs.2)

theorem isContained_of_isPlainText {s : String} (h : IsPlainText s) : IsContained s.toList :=
  isContained_of_no_quote h.1 h.2.1 h.2.2

/-! ### quoted literals -/

/-- An escaped character does not end the quotation. -/
theorem quotesClose_escapeChar (c : Char) (rest : List Char) :
    quotesClose (some '"') (escapeChar c ++ rest) = quotesClose (some '"') rest := by
  unfold escapeChar
  split
  · rfl
  · rfl
  · rfl
  · rfl
  · next hb hq _ _ => exact quotesClose_some_cons hb hq rest

theorem quotesClose_escape (s rest : List Char) :
    quotesClose (some '"') (escape s ++ rest) = quotesClose (some '"') rest := by
  induction s with
  | nil => rfl
  | cons c s ih =>
      have hcons : escape (c :: s) = escapeChar c ++ escape s := List.flatMap_cons
      rw [hcons, List.append_assoc, quotesClose_escapeChar, ih]

/-- The quotation of a quoted literal ends where the literal does. -/
theorem isContained_quoted (s : List Char) : IsContained (quoted s) := by
  refine ⟨fun h => (ne_lineBreak_of_mem_quoted h).1 rfl, fun rest h => ?_⟩
  have hopen : quoted s ++ rest = '"' :: (escape s ++ '"' :: rest) := by simp [quoted]
  rw [hopen]
  exact (quotesClose_escape s ('"' :: rest)).trans h

/-! ### arguments and calls -/

theorem isContained_of_isNumeral {s : List Char} (h : isNumeral s = true) : IsContained s := by
  have hnone : ∀ c, c.isDigit = false → c ≠ '.' → c ≠ '-' → c ∉ s := by
    intro c hdigit hpoint hminus hc
    rcases mem_of_isNumeral h c hc with hd | rfl | rfl
    · rw [hdigit] at hd
      cases hd
    · exact hpoint rfl
    · exact hminus rfl
  exact isContained_of_no_quote (hnone '\n' (by decide) (by decide) (by decide))
    (hnone '"' (by decide) (by decide) (by decide))
    (hnone '\'' (by decide) (by decide) (by decide))

theorem isContained_argument {a : Argument} (h : a.isVerbatim = true → IsPlainText a.value) :
    IsContained a.render.toList := by
  have hquoted : IsContained (String.ofList (quoted a.value.toList)).toList := by
    rw [String.toList_ofList]
    exact isContained_quoted _
  unfold Argument.render
  split
  · exact hquoted
  · next hstring =>
      split
      · split
        · exact isContained_of_isPlainText (by decide)
        · exact isContained_of_isPlainText (by decide)
      · next hboolean =>
          split
          · exact isContained_of_isPlainText (by decide)
          · split
            · exact isContained_of_isPlainText (by decide)
            · split
              · next hkept =>
                  rcases Bool.or_eq_true_iff.1 hkept with htable | hnumeral
                  · have hverbatim : a.isVerbatim = true := by
                      simp [Argument.isVerbatim, htable, hstring, hboolean]
                    exact isContained_of_isPlainText (h hverbatim)
                  · exact isContained_of_isNumeral hnumeral
              · exact hquoted

theorem isContained_intercalate {separator : List Char} (hsep : IsContained separator)
    {parts : List (List Char)} (h : ∀ part ∈ parts, IsContained part) :
    IsContained (separator.intercalate parts) := by
  induction parts with
  | nil => exact ⟨by simp, fun rest hrest => by simpa using hrest⟩
  | cons part parts ih =>
      have hpart := h part List.mem_cons_self
      have hparts := ih fun p hp => h p (List.mem_cons_of_mem _ hp)
      cases parts with
      | nil => rwa [List.intercalate_singleton]
      | cons next parts =>
          rw [List.intercalate_cons_cons]
          exact (hpart.append hsep).append hparts

/-- A call breaks neither its line nor a quotation. -/
theorem isContained_render {c : Call} (h : c.IsTidy) : IsContained c.render.toList := by
  obtain ⟨hname, harguments⟩ := h
  have hfixed : ∀ s ∈ ["API.", "(", ")", ", "], IsContained s.toList := by
    intro s hs
    have hplain : ∀ s ∈ ["API.", "(", ")", ", "], IsPlainText s := by decide
    exact isContained_of_isPlainText (hplain s hs)
  have hlist : IsContained (", ".intercalate (c.arguments.map (·.render))).toList := by
    rw [String.toList_intercalate]
    refine isContained_intercalate (hfixed _ (by decide)) fun part hpart => ?_
    rw [List.map_map] at hpart
    obtain ⟨a, ha, rfl⟩ := List.mem_map.1 hpart
    exact isContained_argument (harguments a ha)
  simp only [Call.render, String.toList_append]
  exact ((((hfixed _ (by decide)).append (isContained_of_isPlainText hname)).append
    (hfixed _ (by decide))).append hlist).append (hfixed _ (by decide))

/-! ## findings on quotations -/

/-- Findings on quotations are on lines that have a quotation left open. -/
theorem hasUnbalancedQuotes_of_mem {lines : List (List Char)} {n : Nat} {stack : List OpenBlock}
    {f : Finding} (hf : f ∈ findingsFrom n stack lines) (hfault : f.fault = .unbalancedQuotes) :
    ∃ k line, f.line = n + k ∧ lines[k]? = some line ∧ hasUnbalancedQuotes line = true := by
  induction lines generalizing n stack with
  | nil =>
      obtain ⟨b, -, rfl⟩ := List.mem_map.1 hf
      simp at hfault
  | cons line lines ih =>
      have hlater : ∀ {stack'}, f ∈ findingsFrom (n + 1) stack' lines →
          ∃ k line', f.line = n + k ∧ (line :: lines)[k]? = some line' ∧
            hasUnbalancedQuotes line' = true := by
        intro stack' hf
        obtain ⟨k, line', hk, hline, hquotes⟩ := ih hf
        exact ⟨k + 1, line', by omega, by simpa using hline, hquotes⟩
      have hhere : f ∈ quoteFindings n line → ∃ k line', f.line = n + k ∧
          (line :: lines)[k]? = some line' ∧ hasUnbalancedQuotes line' = true := by
        intro hf
        unfold quoteFindings at hf
        split at hf
        · next hquotes =>
            obtain rfl := List.mem_singleton.1 hf
            exact ⟨0, line, rfl, rfl, hquotes⟩
        · simp at hf
      cases hs : isSkipped line with
      | true => exact hlater (findingsFrom_skipped hs ▸ hf)
      | false =>
          cases hr : lineRole line with
          | plain =>
              rw [findingsFrom_plain hs hr] at hf
              exact (List.mem_append.1 hf).elim hhere hlater
          | opener kind =>
              rw [findingsFrom_opener hs hr] at hf
              exact (List.mem_append.1 hf).elim hhere hlater
          | closer =>
              cases stack with
              | nil =>
                  rw [findingsFrom_closer_nil hs hr] at hf
                  rcases List.mem_append.1 hf with hf | hf
                  · exact hhere hf
                  · rcases List.mem_cons.1 hf with rfl | hf
                    · simp at hfault
                    · exact hlater hf
              | cons b stack =>
                  rw [findingsFrom_closer_cons hs hr] at hf
                  exact (List.mem_append.1 hf).elim hhere hlater

/-! ## the calls of a script -/

/-- The call that a statement is, if it is one. -/
def call? (s : Statement) : Option Call :=
  match s.body with
  | .call c => some c
  | .control _ => none

def calls (ss : List Statement) : List Call := ss.filterMap call?

theorem call?_eq_some_iff {s : Statement} {c : Call} : call? s = some c ↔ s.body = .call c := by
  unfold call?
  split <;> simp_all

/-- Among the rows of a section are those of its calls, in order. -/
theorem callRows_sublist_sectionRows (floor depth : Nat) {ss : List Statement}
    (h : ∀ s ∈ ss, s.isDeclaration = false) :
    ∃ rows : List Row, rows.map (·.text) = (calls ss).map Call.render ∧
      rows.Sublist (sectionRows floor (floor + depth) ss) := by
  induction ss generalizing depth with
  | nil => exact ⟨[], rfl, List.nil_sublist _⟩
  | cons s rest ih =>
      obtain ⟨rows, htexts, hsub⟩ := ih (depthAfter depth [s.role]) fun t ht =>
        h t (List.mem_cons_of_mem _ ht)
      have hrest := hsub.trans (List.sublist_append_right (gapBehind s rest) _)
      rw [sectionRows_cons (h s List.mem_cons_self), calls, List.filterMap_cons]
      cases hc : call? s with
      | none => exact ⟨rows, htexts, hrest.cons _⟩
      | some c =>
          have htext : s.text = c.render := by
            simp [Statement.text, call?_eq_some_iff.1 hc]
          exact ⟨⟨_, s.text⟩ :: rows, by rw [List.map_cons, htexts, htext]; rfl,
            hrest.cons_cons _⟩

/-- Among the rows of a script are those of its calls: first those outside the main loop,
then those inside. -/
theorem callRows_sublist_layout (statements : List Statement) :
    ∃ rows : List Row,
      rows.map (·.text) = (calls (outside statements ++ inside statements)).map Call.render ∧
        rows.Sublist (layout statements) := by
  obtain ⟨before, hbefore, houtside⟩ :=
    callRows_sublist_sectionRows 0 0 (isDeclaration_of_mem_outside statements)
  obtain ⟨after, hafter, hinside⟩ :=
    callRows_sublist_sectionRows 1 0 (isDeclaration_of_mem_inside statements)
  have houtside : before.Sublist (outsideSection (outside statements)) := by
    cases h : outside statements with
    | nil => rwa [h] at houtside
    | cons s ss =>
        rw [h] at houtside
        exact (houtside.trans (List.sublist_append_left _ _)).cons _
  have hinside : after.Sublist (loopSection (inside statements)) := by
    cases h : inside statements with
    | nil =>
        rw [h] at hinside
        exact hinside.trans (List.nil_sublist _)
    | cons s ss =>
        rw [h] at hinside
        exact (hinside.trans (List.sublist_append_right _ _)).trans (List.sublist_append_left _ _)
  refine ⟨before ++ after, ?_, (houtside.trans (List.sublist_append_right _ _)).append hinside⟩
  rw [List.map_append, hbefore, hafter, calls, calls, calls, List.filterMap_append,
    List.map_append]

/-- The two sides of the main loop have all the enabled calls. -/
theorem calls_perm (statements : List Statement) :
    (calls (outside statements ++ inside statements)).Perm
      (calls (statements.filter (·.enabled))) := by
  have hdeclared : calls (declared statements) = [] := by
    refine List.filterMap_eq_nil_iff.2 fun s hs => ?_
    have hd : s.isDeclaration = true := (Bool.and_eq_true_iff.1 (List.mem_filter.1 hs).2).2
    cases hb : s.body with
    | call c => simp [Statement.isDeclaration, Body.isDeclaration, hb] at hd
    | control c => simp [call?, hb]
  have hperm := (sections_perm statements).filterMap call?
  rw [List.filterMap_append, ← calls, hdeclared, List.nil_append] at hperm
  exact hperm

/-! ## a line for every call -/

/-- The ends of a call are visible. -/
theorem trim_spaces_render (n : Nat) (c : Call) :
    Text.trim (List.replicate n ' ' ++ c.render.toList) = c.render.toList := by
  induction n with
  | zero =>
      obtain ⟨middle, hline⟩ := render_ends c
      have hfirst : c.render.toList.head? = some 'A' := by rw [hline, List.head?_cons]
      have hlast : c.render.toList.getLast? = some ')' := by
        rw [hline, ← List.cons_append, List.getLast?_append, List.getLast?_singleton,
          Option.some_or]
      exact Text.trim_eq_self hfirst hlast (by decide) (by decide)
  | succ n ih =>
      rw [List.replicate_succ, List.cons_append, Text.trim_cons_blank (by decide), ih]

/-- A row without a line feed is one line. -/
theorem Row.lines_eq_singleton (width : Nat) {r : Row} (h : '\n' ∉ r.text.toList) :
    r.lines width = [List.replicate (r.level * width) ' ' ++ r.text.toList] :=
  Text.splitAt_of_not_mem (by simp [h])

/-- The lines of the calls are among the lines of the script, in order. -/
theorem callLines_sublist (width : Nat) {statements : List Statement}
    (h : ∀ c ∈ calls (outside statements ++ inside statements), '\n' ∉ c.render.toList) :
    ∃ lines : List (List Char),
      List.Forall₂ (fun c line => ∃ n, line = List.replicate n ' ' ++ c.render.toList)
          (calls (outside statements ++ inside statements)) lines ∧
        lines.Sublist (Text.lines (generate width statements).toList) := by
  obtain ⟨rows, htexts, hsub⟩ := callRows_sublist_layout statements
  refine ⟨rows.flatMap (Row.lines width), ?_, ?_⟩
  · generalize calls (outside statements ++ inside statements) = cs at h htexts
    induction cs generalizing rows with
    | nil =>
        obtain rfl := List.map_eq_nil_iff.1 htexts
        exact .nil
    | cons c cs ih =>
        obtain ⟨r, rows, rfl, hr, hrows⟩ := List.map_eq_cons_iff.1 htexts
        have hline : '\n' ∉ r.text.toList := hr ▸ h c List.mem_cons_self
        rw [List.flatMap_cons, Row.lines_eq_singleton width hline]
        exact .cons ⟨_, by rw [hr]⟩ (ih rows ((List.sublist_cons_self _ _).trans hsub)
          (fun c hc => h c (List.mem_cons_of_mem _ hc)) hrows)
  · rw [generate, String.toList_ofList, lines_renderRows]
    exact hsub.flatMap _

/-- On a line with a call there is no finding on quotations. -/
theorem fault_ne_of_callLine {width : Nat} {statements : List Statement} {c : Call}
    (hc : c.IsTidy) {k n : Nat}
    (hline : (Text.lines (generate width statements).toList)[k]? =
      some (List.replicate n ' ' ++ c.render.toList)) :
    ∀ f ∈ (validate (generate width statements)).findings,
      f.line = k + 1 → f.fault ≠ .unbalancedQuotes := by
  intro f hf hk hfault
  obtain ⟨k', line, hk', hget, hquotes⟩ := hasUnbalancedQuotes_of_mem hf hfault
  obtain rfl : k = k' := by omega
  rw [trimmedLines, List.getElem?_map, hline, Option.map_some, trim_spaces_render] at hget
  obtain rfl := Option.some.inj hget
  simp [(isContained_render hc).hasUnbalancedQuotes] at hquotes

/-- If the functions called have names without line feeds and quotes, and so have the
values that stand for tables, every enabled call has a line of its own, which is the call
behind its indentation, and no quotation is reported on that line. -/
theorem call_lines (width : Nat) {statements : List Statement}
    (h : ∀ s ∈ statements, s.enabled = true → ∀ c, s.body = .call c → c.IsTidy) :
    (calls (outside statements ++ inside statements)).Perm
        (calls (statements.filter (·.enabled))) ∧
      ∃ place : Fin (calls (outside statements ++ inside statements)).length ↪o
          Fin (Text.lines (generate width statements).toList).length,
        ∀ i, (∃ n, (Text.lines (generate width statements).toList)[place i] =
            List.replicate n ' ' ++
              (calls (outside statements ++ inside statements))[i].render.toList) ∧
          ∀ f ∈ (validate (generate width statements)).findings,
            f.line = place i + 1 → f.fault ≠ .unbalancedQuotes := by
  have hperm := calls_perm statements
  have htidy : ∀ c ∈ calls (outside statements ++ inside statements), c.IsTidy := by
    intro c hc
    obtain ⟨s, hs, hcall⟩ := List.mem_filterMap.1 (hperm.mem_iff.1 hc)
    obtain ⟨hmem, henabled⟩ := List.mem_filter.1 hs
    exact h s hmem henabled c (call?_eq_some_iff.1 hcall)
  obtain ⟨lines, hlines, hsub⟩ := callLines_sublist width fun c hc =>
    (isContained_render (htidy c hc)).1
  obtain ⟨place, hplace⟩ := List.sublist_iff_exists_fin_orderEmbedding_get_eq.1 hsub
  have hlength := hlines.length_eq
  refine ⟨hperm, (Fin.castOrderIso hlength).toOrderEmbedding.trans place, fun i => ?_⟩
  obtain ⟨n, hn⟩ := hlines.get i.isLt (hlength ▸ i.isLt)
  have hget : (Text.lines (generate width statements).toList)[place (i.cast hlength)] =
      List.replicate n ' ' ++
        (calls (outside statements ++ inside statements))[i].render.toList :=
    (hplace (i.cast hlength)).symm.trans hn
  refine ⟨⟨n, hget⟩, ?_⟩
  exact fault_ne_of_callLine (htidy _ (List.getElem_mem _))
    ((List.getElem?_eq_getElem _).trans (congrArg some hget))

/-- A call with quotes of both kinds, a line feed, a comment sign and a backslash at the
end of a string, and a table behind it. -/
def hostileCall : Call :=
  ⟨⟨"Log", "", none⟩, [⟨"text", ⟨"string"⟩, "", "it's \"so\"\n--\\"⟩,
    ⟨"items", ⟨"Table|number"⟩, "", "\x7b1, 2\x7d"⟩]⟩

/-- The hostile call, between a quote that is left open and a disabled call that is not
tidy. -/
def hostile : List Statement :=
  [.ofBody ⟨"a"⟩ (.control (.ifThen "'")) true, .ofBody ⟨"b"⟩ (.call hostileCall) true,
    { Statement.ofBody ⟨"c"⟩ (.call ⟨⟨"Say\n", "", none⟩, []⟩) true with enabled := false }]

/-- The call is one line, and the finding on the quote before it is not about it. -/
theorem call_lines_hostile :
    (∀ s ∈ hostile, s.enabled = true → ∀ c, s.body = .call c → c.IsTidy) ∧
      ∃ k n : Nat, (Text.lines (generate 2 hostile).toList)[k]? =
          some (List.replicate n ' ' ++
            "API.Log(\"it's \\\"so\\\"\\n--\\\\\", \x7b1, 2\x7d)".toList) ∧
        ∀ f ∈ (validate (generate 2 hostile)).findings,
          f.line = k + 1 → f.fault ≠ .unbalancedQuotes := by
  have htidy : ∀ s ∈ hostile, s.enabled = true → ∀ c, s.body = .call c → c.IsTidy := by
    intro s hs henabled c hc
    simp only [hostile, List.mem_cons, List.not_mem_nil, or_false] at hs
    rcases hs with rfl | rfl | rfl
    · cases hc
    · obtain rfl := Body.call.inj hc
      decide
    · simp at henabled
  obtain ⟨-, place, hplace⟩ := call_lines 2 htidy
  have hcalls : calls (outside hostile ++ inside hostile) = [hostileCall] := by decide
  have hrender : hostileCall.render.toList =
      "API.Log(\"it's \\\"so\\\"\\n--\\\\\", \x7b1, 2\x7d)".toList := by decide
  obtain ⟨⟨n, hline⟩, hquotes⟩ := hplace ⟨0, by simp [hcalls]⟩
  simp only [Fin.getElem_fin, hcalls, List.getElem_cons_zero] at hline
  refine ⟨htidy, _, n, ?_, hquotes⟩
  rw [← hrender, ← hline]
  exact List.getElem?_eq_getElem _

end Script

end ScriptComposer
