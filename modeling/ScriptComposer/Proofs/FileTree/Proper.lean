import Mathlib.Data.List.Induction
import ScriptComposer.Proofs.FileTree.Written

/-!
# ScriptComposer.Proofs.FileTree.Proper

Trees as they are on a disk, and absolute paths in them.

On a disk an entry has a name that a path can spell, and stands in a directory; the
working directory is there.  Then the absolute path of whatever is in the tree leads to it,
unless it is longer than paths may be.

* `locate_pathOf` — where the path of a location leads;
* `readText_pathOf` — so a file has the same text under its absolute path.
-/

namespace ScriptComposer

/-- A name that an entry of a directory can have. -/
def IsName (name : String) : Prop :=
  Path.isDots name = false ∧ FileTree.isTooLong name = false ∧ '/' ∉ name.toList ∧
    '\x00' ∉ name.toList

instance (name : String) : Decidable (IsName name) := inferInstanceAs (Decidable (_ ∧ _))

namespace FileTree

/-- The tree is as trees on a disk are. -/
structure IsProper (t : FileTree) : Prop where
  isName : ∀ x ∈ t.entries, ∀ name ∈ x.1, IsName name
  parent : ∀ x ∈ t.entries, t.at? x.1.dropLast = some .directory
  working : t.at? t.workingDirectory = some .directory

instance (t : FileTree) : Decidable t.IsProper :=
  decidable_of_iff
    ((∀ x ∈ t.entries, ∀ name ∈ x.1, IsName name) ∧
      (∀ x ∈ t.entries, t.at? x.1.dropLast = some .directory) ∧
      t.at? t.workingDirectory = some .directory)
    ⟨fun h => ⟨h.1, h.2.1, h.2.2⟩, fun h => ⟨h.isName, h.parent, h.working⟩⟩

variable {t : FileTree} {here l : Location} {p : Path}

/-! ## what is in a tree -/

theorem at?_eq_lookup (hl : l ≠ []) : t.at? l = t.entries.lookup l := by
  cases l with
  | nil => exact absurd rfl hl
  | cons name l => rfl

/-- What is at a location is listed, the root apart. -/
theorem mem_entries_of_at? {e : Entry} (h : t.at? l = some e) (hl : l ≠ []) :
    (l, e) ∈ t.entries := by
  rw [at?_eq_lookup hl] at h
  obtain ⟨before, behind, hentries, -⟩ := List.lookup_eq_some_iff.1 h
  simp [hentries]

namespace IsProper

/-- The names on the way to what is there can be spelled. -/
theorem isName_of_at? (ht : t.IsProper) (h : (t.at? l).isSome) : ∀ name ∈ l, IsName name := by
  obtain ⟨e, he⟩ := Option.isSome_iff_exists.1 h
  cases l with
  | nil => simp
  | cons name l => exact ht.isName _ (mem_entries_of_at? he (List.cons_ne_nil name l))

/-- What is there stands in a directory. -/
theorem at?_dropLast (ht : t.IsProper) (h : (t.at? l).isSome) :
    t.at? l.dropLast = some .directory := by
  obtain ⟨e, he⟩ := Option.isSome_iff_exists.1 h
  cases l with
  | nil => rfl
  | cons name l => exact ht.parent _ (mem_entries_of_at? he (List.cons_ne_nil name l))

/-- What is in a tree stands in directories all the way. -/
theorem at?_of_append (ht : t.IsProper) {rest : Location} (hrest : rest ≠ [])
    (h : (t.at? (here ++ rest)).isSome) : t.at? here = some .directory := by
  induction rest using List.reverseRecOn with
  | nil => exact absurd rfl hrest
  | append_singleton rest name ih =>
      have hparent := ht.at?_dropLast h
      rw [← List.append_assoc, List.dropLast_concat] at hparent
      by_cases hnil : rest = []
      · rwa [hnil, List.append_nil] at hparent
      · exact ih hnil (Option.isSome_of_eq_some hparent)

end IsProper

/-! ## absolute paths -/

theorem toList_pathOf (l : Location) :
    (pathOf l).text.toList = '/' :: ['/'].intercalate (l.map String.toList) := by
  simp [pathOf, String.toList_intercalate]

/-- The absolute path of a location has its names as parts, behind the root. -/
theorem parts_pathOf (hslash : ∀ name ∈ l, '/' ∉ name.toList) (hl : l ≠ []) :
    (pathOf l).parts = "" :: l := by
  have hparts : Text.splitAt '/' (['/'].intercalate (l.map String.toList)) =
      l.map String.toList :=
    Text.splitAt_intercalate (by simpa using hl) (by simpa using hslash)
  rw [Path.parts, toList_pathOf, Text.splitAt_cons_self, hparts, List.map_cons, List.map_map]
  simp

/-- What is in parts put together is in one of them or in the separator. -/
theorem mem_intercalate {α : Type} {x : α} {separator : List α} {parts : List (List α)}
    (h : x ∈ separator.intercalate parts) : x ∈ separator ∨ ∃ part ∈ parts, x ∈ part := by
  induction parts with
  | nil => simp at h
  | cons part parts ih =>
      cases parts with
      | nil => exact .inr ⟨part, List.mem_cons_self, by simpa using h⟩
      | cons next parts =>
          rw [List.intercalate_cons_cons, List.mem_append, List.mem_append] at h
          rcases h with (hpart | hsep) | hrest
          · exact .inr ⟨part, List.mem_cons_self, hpart⟩
          · exact .inl hsep
          · exact (ih hrest).imp_right fun ⟨q, hq, hx⟩ => ⟨q, List.mem_cons_of_mem part hq, hx⟩

/-- The path of a location can be walked if it is not too long. -/
theorem checkPath_pathOf (hnul : ∀ name ∈ l, '\x00' ∉ name.toList) :
    checkPath (pathOf l) = .ok () ↔ (pathOf l).text.utf8ByteSize ≤ pathLimit := by
  have hholds : (pathOf l).holdsNul = false := by
    rw [Path.holdsNul, toList_pathOf, List.contains_eq_mem, decide_eq_false_iff_not,
      List.mem_cons, not_or]
    refine ⟨by decide, fun hmem => ?_⟩
    rcases mem_intercalate hmem with hsep | ⟨part, hpart, hchar⟩
    · simp at hsep
    · obtain ⟨name, hname, rfl⟩ := List.mem_map.1 hpart
      exact hnul name hname hchar
  have htext : (pathOf l).text ≠ "" := by
    intro hempty
    have := toList_pathOf l
    simp [hempty] at this
  rw [checkPath, hholds, if_neg Bool.false_ne_true, if_neg htext]
  split
  · next hlong => simp [hlong]
  · next hshort => simpa using hshort

/-- In a proper tree the way to whatever is there is open. -/
theorem walk_eq_append (ht : t.IsProper) {rest : Location} (h : (t.at? (here ++ rest)).isSome) :
    t.walk here rest = .ok (here ++ rest) := by
  induction rest generalizing here with
  | nil => rw [List.append_nil]; rfl
  | cons name rest ih =>
      have hrest : (t.at? ((here ++ [name]) ++ rest)).isSome := by simpa using h
      have hentry : (t.at? (here ++ [name])).isSome := by
        by_cases hnil : rest = []
        · simpa [hnil] using hrest
        · exact Option.isSome_of_eq_some (ht.at?_of_append hnil hrest)
      obtain ⟨hdots, hshort, -, -⟩ := ht.isName_of_at? hentry name (by simp)
      have henter := enter_eq_append (ht.at?_of_append (List.cons_ne_nil _ _) h) hdots hshort hentry
      refine walk_cons_eq_ok.2 ⟨here ++ [name], henter, ?_⟩
      rw [ih hrest, List.append_assoc, List.singleton_append]

/-- The absolute path of what is in a tree leads to it, if it is not too long. -/
theorem locate_pathOf (ht : t.IsProper) (h : (t.at? l).isSome) {m : Location} :
    t.locate (pathOf l) = .ok m ↔ (pathOf l).text.utf8ByteSize ≤ pathLimit ∧ m = l := by
  have hnames := ht.isName_of_at? h
  have hwalk : t.walk (t.start (pathOf l)) (pathOf l).parts = .ok l := by
    have hstart : t.start (pathOf l) = [] := by
      rw [start, Path.isAbsolute, toList_pathOf]
      rfl
    have henter : t.enter [] "" = .ok [] := rfl
    rw [hstart]
    by_cases hl : l = []
    · subst hl
      have hroot : (pathOf []).parts = ["", ""] := by decide +kernel
      rw [hroot]
      rfl
    · rw [parts_pathOf (fun name hname => (hnames name hname).2.2.1) hl]
      have hway : t.walk [] l = .ok ([] ++ l) := walk_eq_append ht h
      exact walk_cons_eq_ok.2 ⟨[], henter, hway⟩
  rw [locate, ← checkPath_pathOf fun name hname => (hnames name hname).2.2.2]
  constructor
  · intro hlocate
    obtain ⟨⟨⟩, hcheck, hrest⟩ := bind_eq_ok.1 hlocate
    rw [hwalk] at hrest
    exact ⟨hcheck, (Except.ok.inj hrest).symm⟩
  · rintro ⟨hcheck, rfl⟩
    exact bind_eq_ok.2 ⟨(), hcheck, hwalk⟩

/-! ## reading under the absolute path -/

/-- Two paths to one place lead to one text. -/
theorem readText_eq_of_locate {q : Path} (hp : t.locate p = .ok l) (hq : t.locate q = .ok l) :
    t.readText q = t.readText p := by
  rw [readText, readText, read, read, hp, hq]

/-- A file has the same text under its absolute path, if that is not too long, and none
otherwise. -/
theorem readText_pathOf (ht : t.IsProper) (hp : t.locate p = .ok l) (h : (t.at? l).isSome)
    {s : String} :
    t.readText (pathOf l) = .ok s ↔
      (pathOf l).text.utf8ByteSize ≤ pathLimit ∧ t.readText p = .ok s := by
  by_cases hsize : (pathOf l).text.utf8ByteSize ≤ pathLimit
  · rw [readText_eq_of_locate hp ((locate_pathOf ht h).2 ⟨hsize, rfl⟩)]
    simp [hsize]
  · simp only [hsize, false_and, iff_false]
    intro hread
    obtain ⟨bytes, hbytes, -⟩ := bind_eq_ok.1 hread
    obtain ⟨m, hm, -⟩ := bind_eq_ok.1 hbytes
    exact hsize ((locate_pathOf ht h).1 hm).1

end FileTree

end ScriptComposer
