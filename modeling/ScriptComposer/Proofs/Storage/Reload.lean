import ScriptComposer.Proofs.FileTree.Written
import ScriptComposer.Proofs.Statement.Lawful
import ScriptComposer.Storage

/-!
# ScriptComposer.Proofs.Storage.Reload

Saving a program and loading it again loses nothing.

The JSON of a list of statements says exactly that list, and a file that was written is read
back under its path.

* `reload_saved` — the statements, and with them the script at every width, are those that
  were saved.
-/

namespace ScriptComposer

/-- The text of a list of statements is read as that list, and a program that was saved is
loaded with the same statements; so it makes the same script. -/
theorem reload_saved :
    (∀ statements, scriptFormat.ofText (scriptFormat.toText statements) = .ok statements) ∧
    ∀ (t t' : FileTree) (p : Path) (program : Program), saveProgram t p program = .ok t' →
      ∃ loaded, loadProgram t' p = .ok loaded ∧ loaded.statements = program.statements ∧
        ∀ width, Script.generate width loaded.statements =
          Script.generate width program.statements := by
  have htext : ∀ statements, scriptFormat.ofText (scriptFormat.toText statements) =
      .ok statements := scriptFormat_isLawful.ofText_toText
  refine ⟨htext, fun t t' p program hsave => ?_⟩
  have hwritten : t.writeFile p (scriptFormat.toText program.statements).toUTF8 = .ok t' := by
    rw [saveProgram] at hsave
    split at hsave
    · cases hsave
    · next hwrite => rw [hwrite, Except.ok.inj hsave]
  refine ⟨.ofStatements program.statements, ?_, rfl, fun _ => rfl⟩
  simp only [loadProgram, FileTree.readText_writeFile hwritten, htext program.statements]
  rfl

/-- Statements with everything that a format could lose: notes that are present but empty, a
declaration that wants into the loop, text that needs escapes. -/
def keepsakes : List Statement :=
  [⟨⟨"statement-7"⟩, true, true,
      .control (.declaration ⟨"h\u00e9", "a, \"b\"", some "\\\n\t\u0000\u2028"⟩), some ""⟩,
    ⟨⟨""⟩, false, false, .control (.forDo "i" "" "10" "1"), none⟩,
    ⟨⟨"statement-7"⟩, true, true,
      .call ⟨⟨"print", "", some ""⟩, [⟨"text", ⟨"string"⟩, "", "\r\u001f\u007f😀"⟩]⟩,
      some "\x7b\"end\": null\x7d"⟩,
    ⟨⟨"\""⟩, true, false, .control .blockEnd, none⟩]

/-- The keepsakes, saved in an empty tree. -/
theorem reload_saved_keepsakes :
    ∃ t', saveProgram ⟨[], []⟩ ⟨"program.json"⟩ (.ofStatements keepsakes) = .ok t' ∧
      ∃ loaded, loadProgram t' ⟨"program.json"⟩ = .ok loaded ∧ loaded.statements = keepsakes ∧
        ∀ width, Script.generate width loaded.statements = Script.generate width keepsakes := by
  have hsave : saveProgram ⟨[], []⟩ ⟨"program.json"⟩ (.ofStatements keepsakes) =
      .ok (FileTree.put ⟨[], []⟩ ["program.json"]
        (.file (scriptFormat.toText keepsakes).toUTF8)) := rfl
  exact ⟨_, hsave, reload_saved.2 _ _ _ _ hsave⟩

end ScriptComposer
