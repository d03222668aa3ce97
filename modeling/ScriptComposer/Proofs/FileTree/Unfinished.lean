import ScriptComposer.FileTree.Unfinished
import ScriptComposer.Proofs.FileTree.Directories

/-!
# ScriptComposer.Proofs.FileTree.Unfinished

A finished file takes the place of what a path names, or nothing has happened.

The unfinished file is put where nothing is, so taking it away again gives back the very
tree that was there, at whichever step the disk refuses.

* `Placed` — a tree with a file in place of what a path names, and nothing else changed;
* `finishFile_cases` — finishing a file fails without a trace, or puts it in its place.
-/

namespace ScriptComposer.FileTree

variable {t t' : FileTree} {l : Location} {e e' : Entry} {p : Path} {bytes : ByteArray}

/-! ## putting and taking away -/

theorem put_put : (t.put l e).put l e' = t.put l e' := by
  simp [put, List.filter_filter]

/-- What was put at a free place can be taken away again without a trace. -/
theorem remove_put (h : t.at? l = none) : (t.put l e).remove l = t := by
  have hl : l ≠ [] := by
    rintro rfl
    simp [at?] at h
  have hkeys : ∀ x ∈ t.entries, x.1 ≠ l := by
    rintro x hx rfl
    rw [at?_eq_lookup hl, List.lookup_eq_none_iff] at h
    simpa using h x hx
  have hentries : t.entries.filter (fun x => x.1 ≠ l) = t.entries :=
    List.filter_eq_self.2 fun x hx => decide_eq_true (hkeys x hx)
  show FileTree.mk (((l, e) :: t.entries.filter _).filter _) t.workingDirectory = t
  rw [List.filter_cons_of_neg (by simp), hentries, hentries]

/-! ## a file in its place -/

/-- A tree has a file where a path leads, in place of another file or of nothing, and is
the same otherwise. -/
structure Placed (p : Path) (bytes : ByteArray) (l : Location) (t t' : FileTree) : Prop where
  workingDirectory_eq : t'.workingDirectory = t.workingDirectory
  locate_eq : t'.locate p = .ok l
  at?_eq : ∀ m, t'.at? m = if m = l then some (.file bytes) else t.at? m
  at?_ne_directory : t.at? l ≠ some .directory
  isProper : t.IsProper → t'.IsProper

/-- A file that takes the place of what a path names is where the path leads. -/
theorem placed_replaceFile (h : t.replaceFile p bytes = .ok t') :
    ∃ l, Placed p bytes l t t' := by
  obtain ⟨-, h⟩ := guard_eq_ok.1 h
  obtain ⟨s, hslot, h⟩ := bind_eq_ok.1 h
  obtain ⟨hdots, h⟩ := guard_eq_ok.1 h
  obtain ⟨hshort, h⟩ := guard_eq_ok.1 h
  obtain ⟨hslash, h⟩ := guard_eq_ok.1 h
  obtain ⟨hfree, h⟩ := guard_eq_ok.1 h
  obtain rfl := Except.ok.inj h
  rw [Bool.not_eq_true] at hdots hshort hslash
  obtain ⟨hcheck, hdirectory, before, hparts, -⟩ := slotOf_eq_ok hslot hslash hdots
  have hname : IsName s.name :=
    isName_of_mem_parts hcheck (hparts ▸ List.mem_append_right before List.mem_cons_self)
      hdots hshort
  exact ⟨s.location, rfl, locate_put hslot hslash hdots hshort hfree,
    at?_put (by simp [Slot.location]), hfree, fun ht => ht.put hdirectory hname hfree⟩

/-! ## finishing a file -/

/-- A new file that cannot be finished leaves the tree as it was; one that is finished and
moved is put where it belongs. -/
theorem finishFile_cases (scratch : Scratch) (directory p : Path) (bytes : ByteArray)
    (t : FileTree) :
    (∃ u, finishFile scratch directory p bytes t = .error u t) ∨
      ∃ t', finishFile scratch directory p bytes t = .ok () t' ∧
        t.replaceFile p bytes = .ok t' := by
  rw [finishFile]
  dsimp only
  split
  · exact .inl ⟨_, rfl⟩
  · next l t₁ hmade =>
      obtain ⟨⟨⟩, -, hmade⟩ := bind_eq_ok.1 hmade
      obtain ⟨s, -, hnew⟩ := bind_eq_ok.1 hmade
      obtain ⟨hfree, rfl, rfl⟩ : t.at? l = none ∧ s.location = l ∧
          t.put l (.file .empty) = t₁ := by
        rw [newFile] at hnew
        split at hnew
        · cases hnew
        · next hfree =>
            obtain ⟨rfl, rfl⟩ := Prod.mk.inj (Except.ok.inj hnew)
            exact ⟨by simpa using hfree, rfl, rfl⟩
      split
      · exact .inl ⟨_, by rw [remove_put hfree]⟩
      · rw [put_put, remove_put hfree]
        split
        · exact .inl ⟨_, rfl⟩
        · next t' hmoved =>
            obtain ⟨⟨⟩, -, hmoved⟩ := bind_eq_ok.1 hmoved
            refine .inr ⟨t', rfl, ?_⟩
            rwa [moveFile, at?_put (by simp [Slot.location]), if_pos rfl, remove_put hfree]
              at hmoved

end ScriptComposer.FileTree
