import ScriptComposer.Proofs.CommandLine.Effects

/-!
# ScriptComposer.Proofs.CommandLine.Agreement

The ways to run the command line agree with each other and with compiling.

Printing, writing, cleaning and being strict all go through one script, the one that the text
of the input compiles to.  What is written is found again under the output's path, so that a
check of it sees the very text that a strict run judged before.

* `ok_printing_iff`, `ok_writing_iff` — what a run that succeeds leaves behind;
* `exists_ok_checking_iff` — a check of what was written;
* `modes_agree` — the ways to run, compared.
-/

namespace ScriptComposer.CommandLine

open FileTree

/-! ## settings -/

/-- A statement file that can be read. -/
def Readable (tree : FileTree) (input source : String) : Prop :=
  ∃ q, inputFile tree ⟨input⟩ = .ok q ∧ tree.readText q = .ok source

/-- Any script can be delivered: it is printed, or the output can be written to. -/
def Deliverable (scratch : Scratch) (tree : FileTree) (out : Option String) : Prop :=
  ∀ output ∈ out, ∀ script, ∃ p t, exportWith scratch ⟨output⟩ script tree = .ok p t

/-- What is written can be checked.  A file is checked under its absolute path, which may not
be too long. -/
structure Checkable (scratch : Scratch) (tree : FileTree) (output : String) : Prop where
  isProper : tree.IsProper
  short : ∀ script p t, exportWith scratch ⟨output⟩ script tree = .ok p t →
    ∀ l, t.locate p = .ok l → (pathOf l).text.utf8ByteSize ≤ pathLimit

variable {scratch : Scratch} {tree t' : FileTree} {input source output script : String}
  {out : Option String} {o : Options} {strict clean : Bool}

/-- What a script has to be like for a run to let it through. -/
def Passes (source : String) (width : Nat) (strict : Bool) (script : String) : Prop :=
  compile source width = .ok script ∧ (strict → (Script.validate script).isValid)

/-! ## delivering -/

/-- A script that is printed is always delivered. -/
theorem deliverable_none : Deliverable scratch tree none := nofun

/-- A script that is written is announced with its path, behind the findings. -/
theorem delivery_of_ok {p : Path} {t : FileTree} {report : Script.Report}
    (h : exportWith scratch ⟨output⟩ script tree = .ok p t) :
    delivery scratch (some output) script report tree =
      ⟨none, t, "", report.findings.map .finding ++ [.written p script.utf8ByteSize]⟩ := by
  unfold delivery
  dsimp only
  rw [h]

namespace Deliverable

/-- A script that is written is found under the output's path. -/
theorem exists_exported (h : Deliverable scratch tree (some output)) (script : String) :
    ∃ l t, exportWith scratch ⟨output⟩ script tree = .ok (scriptPath tree ⟨output⟩) t ∧
      Exported (· ∈ wayTo tree ⟨output⟩) (scriptPath tree ⟨output⟩) script.toUTF8 l tree t := by
  obtain ⟨p, t, hrun⟩ := h output rfl script
  rcases exportWith_cases scratch ⟨output⟩ script tree with ⟨f, t', hfailed, -⟩ | hwritten
  · rw [hrun] at hfailed
    cases hfailed
  · exact hwritten

/-- Delivering does not fail. -/
theorem failure_delivery (h : Deliverable scratch tree out) (script : String)
    (report : Script.Report) : (delivery scratch out script report tree).failure = none := by
  cases out with
  | none => rfl
  | some output =>
      obtain ⟨l, t, hrun, -⟩ := h.exists_exported script
      rw [delivery_of_ok hrun]

theorem read_delivery (h : Deliverable scratch tree (some output)) (script : String)
    (report : Script.Report) :
    (delivery scratch (some output) script report tree).tree.read (scriptPath tree ⟨output⟩) =
      .ok script.toUTF8 := by
  obtain ⟨l, t, hrun, hexported⟩ := h.exists_exported script
  rw [delivery_of_ok hrun]
  exact hexported.read_eq

/-- A check of what was written sees the text that was written. -/
theorem checkedIn_delivery (h : Deliverable scratch tree (some output))
    (hcheckable : Checkable scratch tree output) (script : String) (report : Script.Report) :
    (∃ q, checkedIn (scriptPath tree ⟨output⟩)
        (delivery scratch (some output) script report tree).tree = .ok q) ↔
      (Script.validate script).isValid := by
  obtain ⟨l, t, hrun, hexported⟩ := h.exists_exported script
  have hinput : inputFile t (scriptPath tree ⟨output⟩) = .ok (pathOf l) :=
    inputFile_eq_ok.2 ⟨l, _, hexported.locate_eq, hexported.at?_eq_file, rfl⟩
  have hread : t.readText (pathOf l) = .ok script :=
    (readText_inputFile (hexported.isProper hcheckable.isProper) hinput).2
      ⟨hcheckable.short script _ t hrun l hexported.locate_eq, hexported.readText_eq⟩
  rw [delivery_of_ok hrun]
  simp only [checkedIn_eq_ok]
  constructor
  · rintro ⟨q, hq, text, htext, hvalid⟩
    obtain rfl := Except.ok.inj (hinput.symm.trans hq)
    obtain rfl := Except.ok.inj (hread.symm.trans htext)
    exact hvalid
  · exact fun hvalid => ⟨pathOf l, hinput, script, hread, hvalid⟩

end Deliverable

/-! ## generating -/

namespace Readable

/-- The script of a file that can be read is the one that passes, with the report on it. -/
theorem scriptIn_iff (h : Readable tree input source) {width : Nat} {report : Script.Report} :
    scriptIn width strict ⟨input⟩ tree = .ok (script, report) ↔
      Passes source width strict script ∧ report = Script.validate script := by
  obtain ⟨q, hinput, hsource⟩ := h
  rw [scriptIn_eq_ok]
  constructor
  · rintro ⟨q', source', hinput', hsource', hcompile, hreport, hvalid⟩
    obtain rfl := Except.ok.inj (hinput.symm.trans hinput')
    obtain rfl := Except.ok.inj (hsource.symm.trans hsource')
    exact ⟨⟨hcompile, hvalid⟩, hreport⟩
  · rintro ⟨⟨hcompile, hvalid⟩, hreport⟩
    exact ⟨q, source, hinput, hsource, hcompile, hreport, hvalid⟩

/-- A run succeeds if the script that the input compiles to passes, when any script can be
delivered. -/
theorem ok_generating_iff (h : Readable tree input source) (hout : Deliverable scratch tree out)
    {P : FileTree → String → Prop} :
    (∃ t, runOn scratch tree (o.generating input out strict clean) = .ok () t ∧
      P t.tree t.printed) ↔
    ∃ script, Passes source o.indent strict script ∧
      P (delivery scratch out script (Script.validate script) tree).tree
        (delivery scratch out script (Script.validate script) tree).printed := by
  rw [exists_ok_iff_ending, ending_generating]
  constructor
  · cases hmade : scriptIn o.indent strict ⟨input⟩ tree with
    | error f => exact fun hfalse => nomatch hfalse.1
    | ok a =>
        obtain ⟨made, report⟩ := a
        obtain ⟨hpasses, rfl⟩ := h.scriptIn_iff.1 hmade
        exact fun hdone => ⟨made, hpasses, hdone.2⟩
  · rintro ⟨script, hpasses, hdone⟩
    rw [h.scriptIn_iff.2 ⟨hpasses, rfl⟩]
    exact ⟨hout.failure_delivery script _, hdone⟩

/-- What a run prints is the script that the input compiles to. -/
theorem ok_printing_iff (h : Readable tree input source) :
    (∃ t, runOn scratch tree (o.generating input none strict clean) = .ok () t ∧
      t.printed = script) ↔ Passes source o.indent strict script := by
  rw [h.ok_generating_iff deliverable_none (P := fun _ printed => printed = script)]
  exact ⟨fun ⟨made, hpasses, hprinted⟩ => hprinted ▸ hpasses,
    fun hpasses => ⟨script, hpasses, rfl⟩⟩

/-- What a run writes is that script too. -/
theorem ok_writing_iff (h : Readable tree input source)
    (hout : Deliverable scratch tree (some output)) :
    (∃ t, runOn scratch tree (o.generating input (some output) strict clean) = .ok () t ∧
      t.tree.read (scriptPath tree ⟨output⟩) = .ok script.toUTF8) ↔
    Passes source o.indent strict script := by
  rw [h.ok_generating_iff hout
    (P := fun t _ => t.read (scriptPath tree ⟨output⟩) = .ok script.toUTF8)]
  constructor
  · rintro ⟨made, hpasses, hread⟩
    have hbytes : made.toUTF8 = script.toUTF8 :=
      Except.ok.inj ((hout.read_delivery made _).symm.trans hread)
    have htext : some made = some script := by
      rw [← fromUTF8?_toUTF8 made, hbytes, fromUTF8?_toUTF8]
    exact Option.some.inj htext ▸ hpasses
  · exact fun hpasses => ⟨script, hpasses, hout.read_delivery script _⟩

/-- However a script is delivered, a run succeeds alike. -/
theorem exists_ok_iff (h : Readable tree input source) (hout : Deliverable scratch tree out) :
    (∃ t, runOn scratch tree (o.generating input out strict clean) = .ok () t) ↔
      ∃ script, Passes source o.indent strict script := by
  have hok : (∃ t, runOn scratch tree (o.generating input out strict clean) = .ok () t ∧ True) ↔
      _ := h.ok_generating_iff hout (P := fun _ _ => True)
  simpa only [and_true] using hok

/-- A run that is not strict fails if the input does not compile. -/
theorem exists_error_iff (h : Readable tree input source) (hout : Deliverable scratch tree out) :
    (∃ f t, runOn scratch tree (o.generating input out false clean) = .error f t) ↔
      ∃ e, compile source o.indent = .error e := by
  have hok : (∃ t, runOn scratch tree (o.generating input out false clean) = .ok () t) ↔
      ∃ script, compile source o.indent = .ok script := by
    rw [h.exists_ok_iff hout]
    simp [Passes]
  cases hrun : runOn scratch tree (o.generating input out false clean) with
  | ok _ t =>
      obtain ⟨script, hscript⟩ := hok.1 ⟨t, hrun⟩
      simp [hscript]
  | error f t =>
      cases hcompile : compile source o.indent with
      | ok script =>
          obtain ⟨t', hrun'⟩ := hok.2 ⟨script, hcompile⟩
          rw [hrun] at hrun'
          cases hrun'
      | error e => simp

end Readable

/-- A run that checks succeeds if the script is right. -/
theorem exists_ok_checking_iff :
    (∃ t, runOn scratch tree (o.checking input) = .ok () t) ↔
      ∃ q, checkedIn ⟨input⟩ tree = .ok q := by
  rw [← failure_ending_eq_none, ending_checking]
  cases checkedIn ⟨input⟩ tree <;> simp [Ending.ofFailure]

/-! ## the ways to run, compared -/

/-- For every input and every output:

* a strict run succeeds if a run that is not strict writes a script and a check of what it
  wrote succeeds;
* cleaning makes no difference to how a run ends, nor to what it prints or writes;
* what is printed, what is written and what the text of the file compiles to are one script;
* a run that is not strict fails if that text does not compile.

The input has to be a statement file that can be read, wherever its text is spoken of, and the
output one that can be written to; only where a check reads what was written does the tree
have to let it. -/
theorem modes_agree (scratch : Scratch) (tree : FileTree) (input source output : String)
    (o : Options) :
    (Readable tree input source → Deliverable scratch tree (some output) →
      Checkable scratch tree output → ∀ out ∈ [none, some output], ∀ clean,
      (∃ t, runOn scratch tree (o.generating input out true clean) = .ok () t) ↔
        ∃ t, runOn scratch tree (o.generating input (some output) false clean) = .ok () t ∧
          ∃ t', runOn scratch t.tree (o.checking (scriptPath tree ⟨output⟩).text) = .ok () t') ∧
    (∀ out strict, ending (runOn scratch tree (o.generating input out strict true)) =
      ending (runOn scratch tree (o.generating input out strict false))) ∧
    (Readable tree input source → ∀ strict clean script,
      ((∃ t, runOn scratch tree (o.generating input none strict clean) = .ok () t ∧
          t.printed = script) ↔
        compile source o.indent = .ok script ∧
          (strict → (Script.validate script).isValid)) ∧
      (Deliverable scratch tree (some output) →
        ((∃ t, runOn scratch tree (o.generating input (some output) strict clean) = .ok () t ∧
            t.tree.read (scriptPath tree ⟨output⟩) = .ok script.toUTF8) ↔
          compile source o.indent = .ok script ∧
            (strict → (Script.validate script).isValid)))) ∧
    (Readable tree input source → ∀ out, Deliverable scratch tree out → ∀ clean,
      (∃ f t, runOn scratch tree (o.generating input out false clean) = .error f t) ↔
        ∃ e, compile source o.indent = .error e) := by
  refine ⟨fun h hout hcheckable out hmem clean => ?_, fun out strict => ?_,
    fun h strict clean script => ⟨h.ok_printing_iff, h.ok_writing_iff⟩,
    fun h out hout clean => h.exists_error_iff hout⟩
  · have hany : Deliverable scratch tree out := by
      rcases List.mem_pair.1 hmem with rfl | rfl
      · exact deliverable_none
      · exact hout
    rw [h.exists_ok_iff hany, h.ok_generating_iff hout (P := fun t _ =>
      ∃ t', runOn scratch t (o.checking (scriptPath tree ⟨output⟩).text) = .ok () t')]
    refine exists_congr fun script => ?_
    rw [exists_ok_checking_iff, hout.checkedIn_delivery hcheckable script]
    simp [Passes]
  · rw [ending_generating, ending_generating]

/-- At the desk, where a directory has to be made for the output. -/
theorem modes_agree_desk :
    (Readable desk "program.json" (scriptFormat.toText deskStatements) ∧
      Deliverable .ample desk (some "new/job.lua") ∧ Checkable .ample desk "new/job.lua") ∧
      ((∃ t, runOn .ample desk (Options.default.generating "program.json" none true true) =
          .ok () t) ↔
        ∃ t, runOn .ample desk
            (Options.default.generating "program.json" (some "new/job.lua") false true) =
              .ok () t ∧
          ∃ t', runOn .ample t.tree (Options.default.checking "new/job.lua") = .ok () t') ∧
      (∃ t, runOn .ample desk (Options.default.generating "program.json" none false true) =
        .ok () t ∧ t.printed = Script.generate 2 deskStatements) ∧
      (∃ t, runOn .ample desk
          (Options.default.generating "program.json" (some "new/job.lua") false false) = .ok () t ∧
        t.tree.read ⟨"new/job.lua"⟩ = .ok (Script.generate 2 deskStatements).toUTF8) := by
  have hreadable : Readable desk "program.json" (scriptFormat.toText deskStatements) :=
    ⟨pathOf ["home", "program.json"], rfl, readText_of_read rfl⟩
  have hdeliverable : Deliverable .ample desk (some "new/job.lua") := by
    rintro output ⟨⟩ script
    exact ⟨⟨"new/job.lua"⟩, _, rfl⟩
  have hcheckable : Checkable .ample desk "new/job.lua" := by
    refine ⟨by decide +kernel, fun script p t hrun l hl => ?_⟩
    obtain ⟨rfl, rfl⟩ := EStateM.Result.ok.inj hrun
    obtain rfl : ["home", "new", "job.lua"] = l := Except.ok.inj hl
    decide +kernel
  have hcompile : compile (scriptFormat.toText deskStatements) 2 =
      .ok (Script.generate 2 deskStatements) :=
    compile_eq_ok.2 ⟨_, scriptFormat_isLawful.ofText_toText deskStatements, rfl⟩
  obtain ⟨hstrict, -, htexts, -⟩ := modes_agree .ample desk "program.json"
    (scriptFormat.toText deskStatements) "new/job.lua" .default
  exact ⟨⟨hreadable, hdeliverable, hcheckable⟩,
    hstrict hreadable hdeliverable hcheckable none List.mem_cons_self true,
    (htexts hreadable false true _).1.2 ⟨hcompile, nofun⟩,
    ((htexts hreadable false false _).2 hdeliverable).2 ⟨hcompile, nofun⟩⟩

end ScriptComposer.CommandLine
