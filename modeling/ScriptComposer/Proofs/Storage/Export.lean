import ScriptComposer.Proofs.FileTree.Paths
import ScriptComposer.Proofs.FileTree.Unfinished
import ScriptComposer.Storage

/-!
# ScriptComposer.Proofs.Storage.Export

What exporting a script does to a tree.

Directories are made on the way, and then the finished script takes its place; if either
cannot be done, the directories that were made until then are all that is left of it.

* `Exported` — a tree with a file in its place, and perhaps more directories;
* `Exported.isDestination` — this place, by what the target is in the tree from before;
* `exportWith_cases` — however exporting ends, and what is left behind then.
-/

namespace ScriptComposer

namespace FileTree

variable {t t₁ t' : FileTree} {p target : Path} {bytes : ByteArray} {l m : Location}
  {places : Location → Prop}

/-- A tree has a file where a path leads, in place of another file or of nothing, it has
perhaps more directories, at places that were free, and is the same otherwise. -/
structure Exported (places : Location → Prop) (p : Path) (bytes : ByteArray) (l : Location)
    (t t' : FileTree) : Prop where
  workingDirectory_eq : t'.workingDirectory = t.workingDirectory
  locate_eq : t'.locate p = .ok l
  at?_eq_file : t'.at? l = some (.file bytes)
  at?_ne_directory : t.at? l ≠ some .directory
  keptOrMade : ∀ m, m ≠ l → KeptOrMade places t t' m
  isProper : t.IsProper → t'.IsProper

/-- A file that is placed in a tree with more directories is exported. -/
theorem Grown.exported (h : Grown places t t₁) (hfile : Placed p bytes l t₁ t') :
    Exported places p bytes l t t' where
  workingDirectory_eq := hfile.workingDirectory_eq.trans h.workingDirectory_eq
  locate_eq := hfile.locate_eq
  at?_eq_file := by rw [hfile.at?_eq, if_pos rfl]
  at?_ne_directory hdirectory :=
    hfile.at?_ne_directory ((h.keptOrMade l).at?_eq_directory hdirectory)
  keptOrMade m hm := by
    rw [KeptOrMade, hfile.at?_eq, if_neg hm]
    exact h.keptOrMade m
  isProper ht := hfile.isProper (h.isProper ht)

namespace Exported

/-- What was exported is read back under the path. -/
theorem read_eq (h : Exported places p bytes l t t') : t'.read p = .ok bytes := by
  refine bind_eq_ok.2 ⟨l, h.locate_eq, ?_⟩
  rw [h.at?_eq_file]
  rfl

theorem readText_eq {s : String} (h : Exported places p s.toUTF8 l t t') :
    t'.readText p = .ok s :=
  readText_of_read h.read_eq

end Exported

/-! ## where a script goes -/

/-- The place of a script, by what its target was before: in a directory the script is the
entry `script.lua`, and otherwise it is where the path of the target leads by now. -/
def IsDestination (t t' : FileTree) (target : Path) (l : Location) : Prop :=
  (∀ d, t.locate target = .ok d → t.at? d = some .directory → l = d ++ ["script.lua"]) ∧
    ((∀ d, t.locate target = .ok d → t.at? d ≠ some .directory) → t'.locate target = .ok l)

/-- A path leads to a directory if there is one where it leads. -/
theorem isDirectory_iff :
    t.isDirectory p = true ↔ ∃ d, t.locate p = .ok d ∧ t.at? d = some .directory := by
  rw [isDirectory, find?]
  cases t.locate p with
  | error e => simp
  | ok d =>
      cases hd : t.at? d with
      | none => simp [hd]
      | some e => cases e <;> simp [hd]

theorem isName_scriptName : IsName scriptName := by decide

/-- An exported script is at its destination. -/
theorem Exported.isDestination (h : Exported places (scriptPath t target) bytes l t t') :
    IsDestination t t' target l := by
  have hlocate := h.locate_eq
  rw [scriptPath] at hlocate
  constructor
  · intro d hd hdirectory
    rw [if_pos (isDirectory_iff.2 ⟨d, hd, hdirectory⟩)] at hlocate
    exact locate_join isName_scriptName h.workingDirectory_eq hd hlocate
  · intro hnone
    rwa [if_neg fun hdirectory => ?_] at hlocate
    obtain ⟨d, hd, hdirectory⟩ := isDirectory_iff.1 hdirectory
    exact hnone d hd hdirectory

/-- The locations on the way of a path, up to its last step. -/
def wayTo (t : FileTree) (p : Path) : List Location := way (t.start p) p.steps.dropLast

/-- What is free on the way to the directory of a script is on the way to its target. -/
theorem mem_wayTo_of_free (hfree : t.at? l = none)
    (hl : l ∈ way (t.start (scriptPath t target).directory)
      (scriptPath t target).directory.steps) : l ∈ wayTo t target := by
  rw [way_directory] at hl
  by_cases hdirectory : t.isDirectory target
  · rw [scriptPath, if_pos hdirectory] at hl
    obtain ⟨d, hd, hthere⟩ := isDirectory_iff.1 hdirectory
    have htext := text_ne_empty_of_locate hd
    rw [start_join htext, Path.steps_join htext isName_scriptName, List.dropLast_concat] at hl
    obtain ⟨⟨⟩, -, hway⟩ := bind_eq_ok.1 hd
    -- the way ends at the directory itself, and nothing is made there
    rcases mem_way_dropLast (walk_steps hway) hl with rfl | hl
    · rw [hfree] at hthere
      cases hthere
    · exact hl
  · rwa [scriptPath, if_neg hdirectory] at hl

end FileTree

open FileTree in
/-- Exporting a script either fails, and leaves no more behind than directories on the way,
or puts the script where its path leads. -/
theorem exportWith_cases (scratch : Scratch) (target : Path) (script : String) (t : FileTree) :
    (∃ f t', exportWith scratch target script t = .error f t' ∧
      Grown (· ∈ wayTo t target) t t') ∨
    ∃ l t', exportWith scratch target script t = .ok (scriptPath t target) t' ∧
      Exported (· ∈ wayTo t target) (scriptPath t target) script.toUTF8 l t t' := by
  have hgrown : Grown (· ∈ wayTo t target) t
      (leftBehind (makeDirectories (scriptPath t target).directory t)) :=
    (grown_makeDirectories _ t).mono fun _ => mem_wayTo_of_free
  unfold exportWith
  dsimp only
  cases hmade : makeDirectories (scriptPath t target).directory t with
  | error e t₁ =>
      rw [hmade, leftBehind] at hgrown
      exact .inl ⟨_, t₁, rfl, hgrown⟩
  | ok _ t₁ =>
      rw [hmade, leftBehind] at hgrown
      dsimp only
      rcases finishFile_cases scratch (scriptPath t target).directory (scriptPath t target)
          script.toUTF8 t₁ with ⟨u, hrun⟩ | ⟨t', hrun, hreplace⟩
      · rw [hrun]
        cases u <;> exact .inl ⟨_, t₁, rfl, hgrown⟩
      · rw [hrun]
        obtain ⟨l, hplaced⟩ := placed_replaceFile hreplace
        exact .inr ⟨l, t', rfl, hgrown.exported hplaced⟩

end ScriptComposer
