import ScriptComposer.FileTree.Change
import ScriptComposer.Proofs.Except
import ScriptComposer.Proofs.Text.Lines

/-!
# ScriptComposer.Proofs.FileTree.Written

A file that was written is read back under the path it was written with.

A file never takes the place of a directory, so every way through the tree is still open
after it was written; the path's own way now ends at the file.

* `walk_put` — a file closes no way that was open;
* `locate_put` — a file put at the place a path names is what the path leads to;
* `readText_writeFile` — a written text is read back.
-/

namespace ScriptComposer.FileTree

variable {t t' : FileTree} {here l m : Location} {part : String} {bytes : ByteArray} {p : Path}

/-! ## walking part by part -/

/-- Parts are taken one by one. -/
theorem walk_cons_eq_ok {rest : List String} :
    t.walk here (part :: rest) = .ok l ↔
      ∃ next, t.enter here part = .ok next ∧ t.walk next rest = .ok l := by
  rw [walk, List.foldlM_cons]
  exact bind_eq_ok

theorem walk_singleton : t.walk here [part] = t.enter here part := by
  rw [walk, List.foldlM_cons]
  cases t.enter here part <;> rfl

/-- Parts are taken by taking the first ones, and from there the rest. -/
theorem walk_append_eq_ok {before rest : List String} :
    t.walk here (before ++ rest) = .ok l ↔
      ∃ d, t.walk here before = .ok d ∧ t.walk d rest = .ok l := by
  rw [walk, List.foldlM_append]
  exact bind_eq_ok

/-! ## ways that stay open -/

/-- A part can only be taken in a directory. -/
theorem at?_of_enter_eq_ok (h : t.enter here part = .ok l) : t.at? here = some .directory := by
  rw [enter] at h
  split at h
  · cases h
  · cases h
  · assumption

/-- A point leads nowhere else. -/
theorem enter_point_eq_ok (h : t.enter here "." = .ok l) : l = here := by
  have hidle : Path.isIdle "." = true := by decide
  rw [enter, at?_of_enter_eq_ok h, if_pos hidle] at h
  exact (Except.ok.inj h).symm

/-- The name of an entry leads to it. -/
theorem enter_eq_append (hhere : t.at? here = some .directory) (hdots : Path.isDots part = false)
    (hshort : isTooLong part = false) (hentry : (t.at? (here ++ [part])).isSome) :
    t.enter here part = .ok (here ++ [part]) := by
  obtain ⟨hidle, hup⟩ : Path.isIdle part = false ∧ part ≠ ".." := by
    simpa [Path.isDots] using hdots
  simp only [enter, hhere, hidle, hup, hshort, hentry, Bool.false_eq_true, if_false, if_true]
  rfl

/-- A file put where no directory was bars no step. -/
theorem enter_put (hm : m ≠ []) (hfree : t.at? m ≠ some .directory)
    (h : t.enter here part = .ok l) : (t.put m (.file bytes)).enter here part = .ok l := by
  have hhere : t.at? here = some .directory := at?_of_enter_eq_ok h
  have hne : here ≠ m := fun e => hfree (e ▸ hhere)
  have hkept : (t.at? (here ++ [part])).isSome →
      ((t.put m (.file bytes)).at? (here ++ [part])).isSome := by
    rw [at?_put hm]
    split
    · exact fun _ => rfl
    · exact id
  rw [enter, hhere] at h
  rw [enter, at?_put hm, if_neg hne, hhere]
  by_cases hidle : Path.isIdle part
  · simpa only [if_pos hidle] using h
  · by_cases hup : part = ".."
    · simpa only [if_neg hidle, if_pos hup] using h
    · by_cases hlong : isTooLong part
      · simp only [if_neg hidle, if_neg hup, if_pos hlong] at h
        cases h
      · by_cases hentry : (t.at? (here ++ [part])).isSome
        · simpa only [if_neg hidle, if_neg hup, if_neg hlong, if_pos hentry,
            if_pos (hkept hentry)] using h
        · simp only [if_neg hidle, if_neg hup, if_neg hlong, if_neg hentry] at h
          cases h

/-- A file put where no directory was bars no way. -/
theorem walk_put (hm : m ≠ []) (hfree : t.at? m ≠ some .directory) {parts : List String}
    (h : t.walk here parts = .ok l) : (t.put m (.file bytes)).walk here parts = .ok l := by
  induction parts generalizing here with
  | nil => exact h
  | cons part parts ih =>
      obtain ⟨next, hstep, hrest⟩ := walk_cons_eq_ok.1 h
      exact walk_cons_eq_ok.2 ⟨next, enter_put hm hfree hstep, ih hrest⟩

/-! ## the place of a file -/

/-- The parts before a name lead to the directory that it is put into. -/
theorem slot_eq_ok {before : List String} {name : String} {s : Slot}
    (h : t.slot here before name = .ok s) :
    t.walk here before = .ok s.directory ∧ t.at? s.directory = some .directory ∧
      s.name = name := by
  obtain ⟨directory, hwalk, hrest⟩ := bind_eq_ok.1 h
  obtain ⟨stayed, hstay, hslot⟩ := bind_eq_ok.1 hrest
  obtain rfl := enter_point_eq_ok hstay
  obtain rfl := Except.ok.inj hslot
  exact ⟨hwalk, at?_of_enter_eq_ok hstay, rfl⟩

/-- A path that can be walked is not empty. -/
theorem text_ne_empty_of_checkPath (h : checkPath p = .ok ()) : p.text ≠ "" := by
  intro hempty
  have hnul : p.holdsNul = false := by simp [Path.holdsNul, hempty]
  simp only [checkPath, hnul, Bool.false_eq_true, if_false, if_pos hempty] at h
  cases h

/-- Only a slash at the end makes the last part empty. -/
theorem getLast?_parts_ne_empty (htext : p.text ≠ "") (hslash : p.endsInSlash = false) :
    p.parts.getLast? ≠ some "" := by
  intro hlast
  rw [Path.parts, List.getLast?_map, Option.map_eq_some_iff] at hlast
  obtain ⟨part, hpart, hempty⟩ := hlast
  obtain rfl : part = [] := by simpa using congrArg String.toList hempty
  rcases Text.getLast?_splitAt_eq_nil hpart with hnil | hsep
  · exact htext (String.toList_eq_nil_iff.1 hnil)
  · simp [Path.endsInSlash, hsep] at hslash

/-- The last part of a path that does not end in a slash names the place of a file; the
parts before it lead to the directory. -/
theorem slotOf_eq_ok {s : Slot} (h : t.slotOf p = .ok s) (hslash : p.endsInSlash = false)
    (hdots : Path.isDots s.name = false) :
    checkPath p = .ok () ∧ t.at? s.directory = some .directory ∧
      ∃ before, p.parts = before ++ [s.name] ∧ t.walk (t.start p) before = .ok s.directory := by
  obtain ⟨⟨⟩, hcheck, h⟩ := bind_eq_ok.1 h
  cases hparts : p.parts.reverse with
  | nil =>
      rw [hparts] at h
      obtain ⟨-, -, hname⟩ := slot_eq_ok h
      rw [hname] at hdots
      exact absurd hdots (by decide)
  | cons name before =>
      have hlast : p.parts = before.reverse ++ [name] := by
        rw [← List.reverse_reverse p.parts, hparts, List.reverse_cons]
      have hname : name ≠ "" := by
        have hne := getLast?_parts_ne_empty (text_ne_empty_of_checkPath hcheck) hslash
        rw [hlast, List.getLast?_concat] at hne
        exact fun e => hne (congrArg some e)
      rw [hparts, List.dropWhile_cons_of_neg (by simpa using hname)] at h
      obtain ⟨hwalk, hdirectory, rfl⟩ := slot_eq_ok h
      exact ⟨hcheck, hdirectory, before.reverse, hlast, hwalk⟩

/-! ## reading back -/

/-- A file put at the place that a path names is where the path leads. -/
theorem locate_put {s : Slot} (h : t.slotOf p = .ok s) (hslash : p.endsInSlash = false)
    (hdots : Path.isDots s.name = false) (hshort : isTooLong s.name = false)
    (hfree : t.at? s.location ≠ some .directory) :
    (t.put s.location (.file bytes)).locate p = .ok s.location := by
  obtain ⟨hcheck, hdirectory, before, hparts, hwalk⟩ := slotOf_eq_ok h hslash hdots
  have hm : s.location ≠ [] := by simp [Slot.location]
  have hne : s.directory ≠ s.location := fun e => hfree (e ▸ hdirectory)
  have hlast : (t.put s.location (.file bytes)).walk s.directory [s.name] = .ok s.location := by
    rw [walk_singleton]
    refine enter_eq_append ?_ hdots hshort ?_
    · rw [at?_put hm, if_neg hne, hdirectory]
    · rw [← Slot.location, at?_put hm, if_pos rfl]
      rfl
  have hway : (t.put s.location (.file bytes)).walk (t.start p) p.parts = .ok s.location := by
    rw [hparts]
    exact walk_append_eq_ok.2 ⟨s.directory, walk_put hm hfree hwalk, hlast⟩
  exact bind_eq_ok.2 ⟨(), hcheck, hway⟩

/-- A file put at the place that a path names is read under that path. -/
theorem read_put {s : Slot} (h : t.slotOf p = .ok s) (hslash : p.endsInSlash = false)
    (hdots : Path.isDots s.name = false) (hshort : isTooLong s.name = false)
    (hfree : t.at? s.location ≠ some .directory) :
    (t.put s.location (.file bytes)).read p = .ok bytes := by
  refine bind_eq_ok.2 ⟨s.location, locate_put h hslash hdots hshort hfree, ?_⟩
  rw [at?_put (by simp [Slot.location]), if_pos rfl]
  rfl

/-- A file that was written is read back. -/
theorem read_writeFile (h : t.writeFile p bytes = .ok t') : t'.read p = .ok bytes := by
  obtain ⟨s, hslot, h⟩ := bind_eq_ok.1 h
  obtain ⟨hnames, h⟩ := guard_eq_ok.1 h
  obtain ⟨hshort, h⟩ := guard_eq_ok.1 h
  obtain ⟨hfree, h⟩ := guard_eq_ok.1 h
  obtain ⟨hdots, hslash⟩ : Path.isDots s.name = false ∧ p.endsInSlash = false := by
    simpa using hnames
  obtain rfl := Except.ok.inj h
  exact read_put hslot hslash hdots (Bool.eq_false_iff.2 hshort) hfree

/-- The bytes of a text are read as that text. -/
theorem fromUTF8?_toUTF8 (s : String) : String.fromUTF8? s.toUTF8 = some s := by
  unfold String.fromUTF8?
  rw [String.toUTF8_eq_toByteArray, dif_pos s.isValidUTF8]
  rfl

/-- A file with the bytes of a text is read as that text. -/
theorem readText_of_read {s : String} (h : t.read p = .ok s.toUTF8) : t.readText p = .ok s := by
  refine bind_eq_ok.2 ⟨s.toUTF8, h, ?_⟩
  rw [fromUTF8?_toUTF8]
  rfl

/-- A text that was written is read back. -/
theorem readText_writeFile {s : String} (h : t.writeFile p s.toUTF8 = .ok t') :
    t'.readText p = .ok s :=
  readText_of_read (read_writeFile h)

end ScriptComposer.FileTree
