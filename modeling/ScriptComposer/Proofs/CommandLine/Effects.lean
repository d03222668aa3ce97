import ScriptComposer.Proofs.CommandLine.Ending
import ScriptComposer.Proofs.Statement.Lawful
import ScriptComposer.Proofs.Storage.Export

/-!
# ScriptComposer.Proofs.CommandLine.Effects

What a run on the command line does to the files.

Listing, checking and printing do nothing to them.  A run that writes comes to the tree only
at its very end, with a finished script in its hands: it makes directories and puts the script
in its place, or it fails and no file is any different.

* `effect_runOn` — what the tree is like after a run, by how the run ended;
* `runOn_all_or_nothing` — a run that fails leaves all files as they were, and one that
  succeeds changes none but the one it was asked for, which is where the output leads or
  in the directory that the output is.
-/

namespace ScriptComposer.CommandLine

open FileTree

variable {tree : FileTree} {o : Options} {scratch : Scratch}

/-- The locations on the way to the output, if there is one. -/
def outputWay (o : Options) (tree : FileTree) (l : Location) : Prop :=
  ∃ output, o.output = some output ∧ l ∈ wayTo tree ⟨output⟩

/-- What a run can have done to a tree. -/
inductive Effect (tree : FileTree) (o : Options) (e : Ending) : Prop
  /-- The tree is as it was. -/
  | kept (hidle : e.failure.isSome ∨ o.listFunctions ∨ o.check ∨ o.output = none)
      (htree : e.tree = tree)
  /-- The script could not be written, but directories were made. -/
  | failed (hfailure : e.failure.isSome) (hgrown : Grown (outputWay o tree) tree e.tree)
  /-- The script was written. -/
  | written {input output script : String} {report : Script.Report} {l : Location}
      (hfailure : e.failure = none) (hlist : ¬ o.listFunctions) (hcheck : ¬ o.check)
      (hinput : o.input = some input) (houtput : o.output = some output)
      (hscript : scriptIn o.indent o.strict ⟨input⟩ tree = .ok (script, report))
      (hexported : Exported (· ∈ wayTo tree ⟨output⟩) (scriptPath tree ⟨output⟩)
        script.toUTF8 l tree e.tree)

/-- Delivering is the one step that can change the tree. -/
theorem effect_delivery {input script : String} {report : Script.Report}
    (hlist : ¬ o.listFunctions) (hcheck : ¬ o.check) (hinput : o.input = some input)
    (hscript : scriptIn o.indent o.strict ⟨input⟩ tree = .ok (script, report)) :
    Effect tree o (delivery scratch o.output script report tree) := by
  cases houtput : o.output with
  | none => exact .kept (.inr (.inr (.inr houtput))) rfl
  | some output =>
      unfold delivery
      dsimp only
      rcases exportWith_cases scratch ⟨output⟩ script tree with
        ⟨f, t', hrun, hgrown⟩ | ⟨l, t', hrun, hexported⟩
      · rw [hrun]
        exact .failed rfl (hgrown.mono fun _ _ hl => ⟨output, houtput, hl⟩)
      · rw [hrun]
        exact .written rfl hlist hcheck hinput houtput hscript hexported

/-- Every run has one of the three effects. -/
theorem effect_runOn (scratch : Scratch) (tree : FileTree) (o : Options) :
    Effect tree o (ending (runOn scratch tree o)) := by
  rw [ending_runOn]
  by_cases hlist : o.listFunctions
  · rw [if_pos hlist]
    exact .kept (.inr (.inl hlist)) rfl
  · rw [if_neg hlist]
    cases hinput : o.input with
    | none => exact .kept (.inl rfl) rfl
    | some input =>
        dsimp only
        by_cases hcheck : o.check
        · have hidle : o.listFunctions ∨ o.check ∨ o.output = none := .inr (.inl hcheck)
          rw [if_pos hcheck]
          split
          · exact .kept (.inr hidle) rfl
          · cases checkedIn ⟨input⟩ tree <;> exact .kept (.inr hidle) rfl
        · rw [if_neg hcheck]
          cases hscript : scriptIn o.indent o.strict ⟨input⟩ tree with
          | error f => exact .kept (.inl rfl) rfl
          | ok a => exact effect_delivery hlist hcheck hinput hscript

/-- Whatever fails, every file is as it was and there are no others; at most there are
directories on the way to the output that were not there.  A run that succeeds leaves the tree
alone if it lists, checks or prints; if it writes, then the script that the text of the input
compiles to is where the output's path leads, or in the directory that was there under the
name `script.lua`; no directory gave way to it, and all else is as after a failure. -/
theorem runOn_all_or_nothing (scratch : Scratch) (tree : FileTree) (htree : tree.IsProper)
    (o : Options) :
    (∀ f t, runOn scratch tree o = .error f t →
      (∀ l bytes, t.tree.at? l = some (.file bytes) ↔ tree.at? l = some (.file bytes)) ∧
      ∀ l, t.tree.at? l ≠ tree.at? l →
        tree.at? l = none ∧ t.tree.at? l = some .directory ∧ outputWay o tree l) ∧
    ∀ t, runOn scratch tree o = .ok () t →
      (o.listFunctions ∨ o.check ∨ o.output = none → t.tree = tree) ∧
      (¬ o.listFunctions → ¬ o.check → ∀ output, o.output = some output →
        ∃ input source script l, o.input = some input ∧
          tree.readText ⟨input⟩ = .ok source ∧ compile source o.indent = .ok script ∧
          (o.strict → (Script.validate script).isValid) ∧
          IsDestination tree t.tree ⟨output⟩ l ∧
          t.tree.locate (scriptPath tree ⟨output⟩) = .ok l ∧
          t.tree.at? l = some (.file script.toUTF8) ∧ tree.at? l ≠ some .directory ∧
          (∀ m bytes, m ≠ l →
            (t.tree.at? m = some (.file bytes) ↔ tree.at? m = some (.file bytes))) ∧
          ∀ m, m ≠ l → t.tree.at? m ≠ tree.at? m →
            tree.at? m = none ∧ t.tree.at? m = some .directory ∧ outputWay o tree m) := by
  have heffect := effect_runOn scratch tree o
  constructor
  · intro f t hrun
    rw [hrun] at heffect
    have hgrown : Grown (outputWay o tree) tree t.tree := by
      cases heffect with
      | kept _ hkept =>
          obtain rfl : t.tree = tree := hkept
          exact .refl _ _
      | failed _ hgrown => exact hgrown
      | written hfailure => cases hfailure
    exact ⟨fun l bytes => (hgrown.keptOrMade l).at?_eq_file_iff,
      fun l => (hgrown.keptOrMade l).resolve_left⟩
  · intro t hrun
    rw [hrun] at heffect
    cases heffect with
    | kept hidle hkept =>
        refine ⟨fun _ => hkept, fun hlist hcheck output houtput => ?_⟩
        simp [ending, hlist, hcheck, houtput] at hidle
    | failed hfailure => cases hfailure
    | @written input output script report l _ hlist hcheck hinput houtput hscript hexported =>
        refine ⟨fun hidle => by simp [hlist, hcheck, houtput] at hidle, fun _ _ other hother => ?_⟩
        obtain rfl : output = other := Option.some.inj (houtput.symm.trans hother)
        obtain ⟨q, source, hfile, hsource, hcompile, -, hvalid⟩ := scriptIn_eq_ok.1 hscript
        refine ⟨input, source, script, l, hinput, ((readText_inputFile htree hfile).1 hsource).2,
          hcompile, hvalid, hexported.isDestination, hexported.locate_eq, hexported.at?_eq_file,
          hexported.at?_ne_directory, fun m bytes hm => (hexported.keptOrMade m hm).at?_eq_file_iff,
          fun m hm hchanged => ?_⟩
        obtain ⟨hfree, hmade, hway⟩ := (hexported.keptOrMade m hm).resolve_left hchanged
        exact ⟨hfree, hmade, output, houtput, hway⟩

/-- Statements, one of them disabled, that make a script with an open block. -/
def deskStatements : List Statement :=
  [⟨⟨"statement-1"⟩, true, false, .control (.ifThen "ready"), none⟩,
    ⟨⟨"statement-2"⟩, false, false, .control .blockEnd, none⟩]

/-- A directory with the program of these statements and a script that is older. -/
def desk : FileTree where
  entries := [(["home"], .directory),
    (["home", "program.json"], .file (scriptFormat.toText deskStatements).toUTF8),
    (["home", "old.lua"], .file "return 1\n".toUTF8)]
  workingDirectory := ["home"]

/-- Write the script of the program on the desk. -/
def deskOptions (output : String) : Options :=
  Options.default.generating "program.json" (some output) false false

theorem exists_scriptIn_desk :
    ∃ script report, scriptIn 2 false ⟨"program.json"⟩ desk = .ok (script, report) := by
  have hinput : inputFile desk ⟨"program.json"⟩ = .ok (pathOf ["home", "program.json"]) := rfl
  have hread : desk.read (pathOf ["home", "program.json"]) =
      .ok (scriptFormat.toText deskStatements).toUTF8 := rfl
  exact ⟨_, _, scriptIn_eq_ok.2 ⟨_, _, hinput, readText_of_read hread,
    compile_eq_ok.2 ⟨_, scriptFormat_isLawful.ofText_toText deskStatements, rfl⟩, rfl, nofun⟩⟩

/-- Three runs at the desk: the first makes a directory and puts the script in it, the second is
given a directory and puts the script there, the third finds a file where it needs a
directory. -/
theorem runOn_all_or_nothing_desk :
    desk.IsProper ∧
    (∃ t l script, runOn .ample desk (deskOptions "new/job.lua") = .ok () t ∧
      t.tree.locate ⟨"new/job.lua"⟩ = .ok l ∧ t.tree.at? l = some (.file script.toUTF8) ∧
      compile (scriptFormat.toText deskStatements) 2 = .ok script) ∧
    (∃ t script, runOn .ample desk (deskOptions ".") = .ok () t ∧
      t.tree.at? ["home", "script.lua"] = some (.file script.toUTF8) ∧
      compile (scriptFormat.toText deskStatements) 2 = .ok script) ∧
    ∃ f t, runOn .ample desk (deskOptions "old.lua/job.lua") = .error f t ∧
      ∀ l bytes, t.tree.at? l = some (.file bytes) ↔ desk.at? l = some (.file bytes) := by
  have hproper : desk.IsProper := by decide +kernel
  -- the script stays a variable, so that no step of a proof computes it
  obtain ⟨made, report, hmade⟩ := exists_scriptIn_desk
  have hending : ∀ output, ending (runOn .ample desk (deskOptions output)) =
      delivery .ample (some output) made report desk := by
    intro output
    have hindent : Options.default.indent = 2 := rfl
    rw [deskOptions, ending_generating, hindent, hmade]
  have hwritten : ∀ output t, runOn .ample desk (deskOptions output) = .ok () t →
      ∃ l script, IsDestination desk t.tree ⟨output⟩ l ∧
        t.tree.at? l = some (.file script.toUTF8) ∧
        compile (scriptFormat.toText deskStatements) 2 = .ok script := by
    intro output t hrun
    obtain ⟨input, source, script, l, hinput, hsource, hcompile, -, hplace, -, hfile, -⟩ :=
      ((runOn_all_or_nothing .ample desk hproper _).2 t hrun).2 nofun nofun _ rfl
    obtain rfl : "program.json" = input := Option.some.inj hinput
    have htext : desk.readText ⟨"program.json"⟩ = .ok (scriptFormat.toText deskStatements) :=
      readText_of_read rfl
    obtain rfl := Except.ok.inj (htext.symm.trans hsource)
    exact ⟨l, script, hplace, hfile, hcompile⟩
  refine ⟨hproper, ?_, ?_, ?_⟩
  · obtain ⟨t, hrun⟩ : ∃ t, runOn .ample desk (deskOptions "new/job.lua") = .ok () t := by
      rw [← failure_ending_eq_none, hending]
      rfl
    obtain ⟨l, script, hplace, hfile, hcompile⟩ := hwritten "new/job.lua" t hrun
    exact ⟨t, l, script, hrun, hplace.2 nofun, hfile, hcompile⟩
  · obtain ⟨t, hrun⟩ : ∃ t, runOn .ample desk (deskOptions ".") = .ok () t := by
      rw [← failure_ending_eq_none, hending]
      rfl
    obtain ⟨l, script, hplace, hfile, hcompile⟩ := hwritten "." t hrun
    obtain rfl : l = ["home", "script.lua"] := hplace.1 ["home"] rfl rfl
    exact ⟨t, script, hrun, hfile, hcompile⟩
  · cases hrun : runOn .ample desk (deskOptions "old.lua/job.lua") with
    | ok _ t =>
        have hnone := failure_ending_eq_none.2 ⟨t, hrun⟩
        rw [hending] at hnone
        cases hnone
    | error f t => exact ⟨f, t, rfl, ((runOn_all_or_nothing .ample desk hproper _).1 f t hrun).1⟩

end ScriptComposer.CommandLine
