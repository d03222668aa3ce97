import ScriptComposer.Proofs.FileTree.Directories

/-!
# ScriptComposer.Proofs.FileTree.Paths

Where the path of an entry leads, and the path of the directory it is in.

A name is joined to a path by a slash, unless the path has one at its end.  Either way the
joined path goes where the path goes and then on to the name.  Back from there the path of
the directory has the steps of a path but for the last one.

* `locate_join` — a name that is joined to the path of a directory leads into it;
* `steps_directory` — the steps of the path of a directory;
* `mem_way_dropLast` — what is on the way of a path, but not at its end.
-/

namespace ScriptComposer

namespace Path

variable {p : Path} {name : String}

/-! ## joining a name -/

/-- A name is joined behind a slash, of which the path may have brought its own. -/
theorem exists_stem (htext : p.text ≠ "") (name : String) :
    ∃ stem, (p.join name).text.toList = stem ++ '/' :: name.toList ∧
      (p.text.toList = stem ∨ p.text.toList = stem ++ ['/']) := by
  rw [join]
  cases hslash : p.endsInSlash with
  | false => exact ⟨p.text.toList, by simp [htext], .inl rfl⟩
  | true =>
      obtain ⟨stem, hstem⟩ := List.getLast?_eq_some_iff.1 (of_decide_eq_true hslash)
      exact ⟨stem, by simp [hstem], .inr hstem⟩

/-- A path is absolute if it begins with a slash. -/
theorem isAbsolute_iff : p.isAbsolute = true ↔ p.text.toList.head? = some '/' := by
  rw [isAbsolute]
  cases p.text.toList with
  | nil => simp
  | cons c s => by_cases hc : c = '/' <;> simp [hc]

/-- A joined path starts where the path does. -/
theorem isAbsolute_join (htext : p.text ≠ "") (name : String) :
    (p.join name).isAbsolute = p.isAbsolute := by
  obtain ⟨rest, hrest⟩ : ∃ rest, (p.join name).text.toList = p.text.toList ++ rest := by
    rw [join]
    split
    · exact ⟨name.toList, String.toList_append⟩
    · exact ⟨'/' :: name.toList, by simp⟩
  have hne : p.text.toList ≠ [] := fun h => htext (String.toList_eq_nil_iff.1 h)
  rw [Bool.eq_iff_iff, isAbsolute_iff, isAbsolute_iff, hrest, List.head?_append_of_ne_nil _ hne]

/-- A joined name is the last part; a part that stays where it is may be gone before it. -/
theorem parts_join (htext : p.text ≠ "") (hname : '/' ∉ name.toList) :
    ∃ before, (p.join name).parts = before ++ [name] ∧
      (p.parts = before ∨ p.parts = before ++ [""]) := by
  obtain ⟨stem, hjoin, hstem⟩ := exists_stem htext name
  refine ⟨(Text.splitAt '/' stem).map String.ofList, ?_, hstem.imp (fun h => ?_) fun h => ?_⟩
  · rw [parts, hjoin, Text.splitAt_append_sep, Text.splitAt_of_not_mem hname, List.map_append,
      List.map_singleton, String.ofList_toList]
  · rw [parts, h]
  · rw [parts, h, Text.splitAt_append_sep, List.map_append]
    rfl

/-- A joined name is one step more. -/
theorem steps_join (htext : p.text ≠ "") (hname : IsName name) :
    (p.join name).steps = p.steps ++ [name] := by
  obtain ⟨hdots, -, hslash, -⟩ := hname
  have hidle : isIdle name = false := (Bool.or_eq_false_iff.1 hdots).1
  have hempty : isIdle "" = true := rfl
  obtain ⟨before, hjoin, hparts | hparts⟩ := parts_join htext hslash
  all_goals simp [steps, hjoin, hparts, hidle, hempty]

/-! ## the path of a directory -/

/-- No step is lost with the idle parts at the end. -/
theorem filter_dropIdle (parts : List String) :
    (dropIdle parts).filter (!isIdle ·) = parts.filter (!isIdle ·) := by
  induction parts with
  | nil => rfl
  | cons part before ih =>
      cases before with
      | nil => rfl
      | cons next before =>
          rw [dropIdle]
          · split
            · next hidle => rw [ih, List.filter_cons_of_neg (a := part) (by simpa using hidle)]
            · rfl
          · exact List.cons_ne_nil next before

/-- What is left are the parts that come first in the path. -/
theorem dropIdle_suffix (parts : List String) : dropIdle parts <:+ parts := by
  induction parts with
  | nil => exact List.suffix_rfl
  | cons part before ih =>
      cases before with
      | nil => exact List.suffix_rfl
      | cons next before =>
          rw [dropIdle]
          · split
            · exact ih.trans (List.suffix_cons part _)
            · exact List.suffix_rfl
          · exact List.cons_ne_nil next before

/-- What is left does not begin with an idle part, unless no part is behind it. -/
theorem isIdle_of_dropIdle_eq_cons {parts before : List String} {part : String}
    (h : dropIdle parts = part :: before) : isIdle part = false ∨ before = [] := by
  induction parts with
  | nil => cases h
  | cons first rest ih =>
      cases rest with
      | nil => exact .inr (List.cons.inj h).2.symm
      | cons next rest =>
          rw [dropIdle] at h
          · split at h
            · exact ih h
            · next hidle =>
                obtain ⟨rfl, -⟩ := List.cons.inj h
                exact .inl (Bool.eq_false_iff.2 hidle)
          · exact List.cons_ne_nil next rest

/-- Parts that are put together as a path are the parts of the path, the root apart. -/
theorem parts_ofParts {parts : List String} (hne : parts ≠ []) (hroot : parts ≠ [""])
    (hslash : ∀ part ∈ parts, '/' ∉ part.toList) : (ofParts parts).parts = parts := by
  have hsep : "/".toList = ['/'] := rfl
  rw [ofParts]
  · rw [Path.parts, String.toList_intercalate, hsep, Text.splitAt_intercalate, List.map_map]
    · simp
    · simpa using hne
    · simpa using hslash
  · exact hroot

/-- Parts that are put together have their steps, the root and the empty path too. -/
theorem steps_ofParts {parts : List String} (hslash : ∀ part ∈ parts, '/' ∉ part.toList) :
    (ofParts parts).steps = parts.filter (!isIdle ·) := by
  by_cases hne : parts = []
  · subst hne
    rfl
  · by_cases hroot : parts = [""]
    · subst hroot
      rfl
    · rw [steps, parts_ofParts hne hroot hslash]

/-- The path of the directory is put together from parts at the beginning of the path. -/
theorem exists_parent_eq_ofParts (p : Path) :
    ∃ before, before <+: p.parts ∧ p.parent = ofParts before ∧
      before.filter (!isIdle ·) = p.steps.dropLast := by
  have hsteps : p.steps = ((dropIdle p.parts.reverse).filter (!isIdle ·)).reverse := by
    rw [filter_dropIdle, ← List.filter_reverse, List.reverse_reverse, steps]
  rw [parent]
  cases hdrop : dropIdle p.parts.reverse with
  | nil => exact ⟨[], List.nil_prefix, rfl, by rw [hsteps, hdrop]; rfl⟩
  | cons last before =>
      have hfront : (dropIdle before).reverse <+: p.parts := by
        have hsuffix : dropIdle before <:+ p.parts.reverse :=
          ((dropIdle_suffix before).trans (List.suffix_cons last before)).trans
            (hdrop ▸ dropIdle_suffix p.parts.reverse)
        rw [← List.reverse_reverse p.parts]
        exact List.reverse_prefix.2 hsuffix
      refine ⟨(dropIdle before).reverse, hfront, rfl, ?_⟩
      rw [List.filter_reverse, filter_dropIdle, hsteps, hdrop]
      rcases isIdle_of_dropIdle_eq_cons hdrop with hidle | rfl
      · rw [List.filter_cons_of_pos (by simp [hidle]), List.reverse_cons, List.dropLast_concat]
      · cases hidle : isIdle last <;> simp [hidle]

/-- The point that stands for an empty path has no steps either. -/
theorem steps_directory_eq_parent (p : Path) : p.directory.steps = p.parent.steps := by
  rw [directory]
  split
  · next hempty =>
      rw [steps, steps, parts, parts, hempty]
      rfl
  · rfl

/-- The path of the directory has the steps of a path but for the last one. -/
theorem steps_directory (p : Path) : p.directory.steps = p.steps.dropLast := by
  obtain ⟨before, hfront, hparent, hsteps⟩ := exists_parent_eq_ofParts p
  rw [steps_directory_eq_parent, hparent, ← hsteps]
  exact steps_ofParts fun part hpart => FileTree.slash_not_mem_of_mem_parts (hfront.subset hpart)

/-- A path with steps is absolute if its first part is empty. -/
theorem isAbsolute_iff_parts (h : p.steps ≠ []) :
    p.isAbsolute = true ↔ p.parts.head? = some "" := by
  rw [isAbsolute_iff, parts]
  cases hp : p.text.toList with
  | nil => exact absurd (by rw [steps, parts, hp]; rfl) h
  | cons c s =>
      by_cases hc : c = '/'
      · subst hc
        simp [Text.splitAt_cons_self]
      · rw [Text.splitAt_cons_of_ne hc]
        cases hparts : Text.splitAt '/' s with
        | nil => exact absurd hparts (Text.splitAt_ne_nil '/' s)
        | cons part parts => simp [hc]

/-- A directory is found from where the path starts, unless one is there already. -/
theorem isAbsolute_directory (h : p.directory.steps ≠ []) :
    p.directory.isAbsolute = p.isAbsolute := by
  obtain ⟨before, hfront, hparent, hsteps⟩ := exists_parent_eq_ofParts p
  have hdirectory : p.directory = ofParts before := by
    rw [directory] at h ⊢
    split at h
    · exact absurd rfl h
    · next hempty => rw [if_neg hempty, hparent]
  rw [steps_directory, ← hsteps] at h
  have hp : p.steps ≠ [] := by
    intro hnil
    rw [hsteps, hnil] at h
    exact h rfl
  have hne : before ≠ [] := by
    rintro rfl
    exact h rfl
  have hroot : before ≠ [""] := by
    rintro rfl
    exact h rfl
  have hslash : ∀ part ∈ before, '/' ∉ part.toList := fun part hpart =>
    FileTree.slash_not_mem_of_mem_parts (hfront.subset hpart)
  obtain ⟨rest, hrest⟩ := hfront
  rw [hdirectory, Bool.eq_iff_iff, isAbsolute_iff_parts (by rwa [steps_ofParts hslash]),
    isAbsolute_iff_parts hp, parts_ofParts hne hroot hslash, ← hrest,
    List.head?_append_of_ne_nil _ hne]

end Path

namespace FileTree

variable {t t' : FileTree} {here l d : Location} {p : Path} {name : String}

/-! ## ways of joined paths -/

/-- Where parts lead does not depend on the tree, if they lead anywhere. -/
theorem eq_of_walk_eq_ok {parts : List String} (h : t.walk here parts = .ok l)
    (h' : t'.walk here parts = .ok d) : l = d := by
  induction parts generalizing here with
  | nil => exact Except.ok.inj (h.symm.trans h')
  | cons part parts ih =>
      obtain ⟨next, henter, hrest⟩ := walk_cons_eq_ok.1 h
      obtain ⟨next', henter', hrest'⟩ := walk_cons_eq_ok.1 h'
      rw [eq_of_enter_eq_ok henter] at hrest
      rw [eq_of_enter_eq_ok henter'] at hrest'
      exact ih hrest hrest'

/-- Parts that stay where they are can be left out. -/
theorem walk_steps {parts : List String} (h : t.walk here parts = .ok l) :
    t.walk here (parts.filter (!Path.isIdle ·)) = .ok l := by
  induction parts generalizing here with
  | nil => exact h
  | cons part parts ih =>
      obtain ⟨next, henter, hrest⟩ := walk_cons_eq_ok.1 h
      cases hidle : Path.isIdle part with
      | true =>
          have hstayed := eq_of_enter_eq_ok henter
          rw [if_pos hidle] at hstayed
          rw [List.filter_cons_of_neg (by simp [hidle])]
          exact ih (hstayed ▸ hrest)
      | false =>
          rw [List.filter_cons_of_pos (by simp [hidle])]
          exact walk_cons_eq_ok.2 ⟨next, henter, ih hrest⟩

theorem text_ne_empty_of_locate (h : t.locate p = .ok l) : p.text ≠ "" := by
  obtain ⟨⟨⟩, hcheck, -⟩ := bind_eq_ok.1 h
  exact text_ne_empty_of_checkPath hcheck

/-- The empty path aside, a joined path is walked from the same place. -/
theorem start_join (htext : p.text ≠ "") (name : String) : t.start (p.join name) = t.start p := by
  rw [start, start, Path.isAbsolute_join htext]

/-- A name that is joined to the path of a directory leads to the entry of this name. -/
theorem locate_join (hname : IsName name) (hworking : t'.workingDirectory = t.workingDirectory)
    (hd : t.locate p = .ok d) (hl : t'.locate (p.join name) = .ok l) : l = d ++ [name] := by
  obtain ⟨hdots, -, hslash, -⟩ := hname
  obtain ⟨hidle, hup⟩ : Path.isIdle name = false ∧ name ≠ ".." := by
    simpa [Path.isDots] using hdots
  have htext := text_ne_empty_of_locate hd
  obtain ⟨⟨⟩, -, hway⟩ := bind_eq_ok.1 hd
  obtain ⟨⟨⟩, -, hway'⟩ := bind_eq_ok.1 hl
  obtain ⟨before, hjoin, hparts⟩ := Path.parts_join htext hslash
  have hstart : t'.start (p.join name) = t.start p := by
    rw [start_join htext, start, start, hworking]
  rw [hstart, hjoin] at hway'
  obtain ⟨d', hbefore', hlast⟩ := walk_append_eq_ok.1 hway'
  have hbefore : t.walk (t.start p) before = .ok d := by
    rcases hparts with hparts | hparts
    · rwa [hparts] at hway
    · rw [hparts] at hway
      obtain ⟨d₁, hbefore, hstay⟩ := walk_append_eq_ok.1 hway
      rw [walk_singleton] at hstay
      rwa [eq_of_enter_eq_ok hstay, if_pos (by decide)]
  rw [walk_singleton] at hlast
  rw [eq_of_walk_eq_ok hbefore hbefore', eq_of_enter_eq_ok hlast, hidle, if_neg Bool.false_ne_true,
    if_neg hup]

/-! ## ways of directories -/

/-- What is on the way of parts, but not where they lead, is on the way without the last. -/
theorem mem_way_dropLast {parts : List String} (h : t.walk here parts = .ok d)
    (hl : l ∈ way here parts) : l = d ∨ l ∈ way here parts.dropLast := by
  induction parts generalizing here with
  | nil => cases hl
  | cons part rest ih =>
      obtain ⟨next, henter, hrest⟩ := walk_cons_eq_ok.1 h
      rw [way, ← eq_of_enter_eq_ok henter] at hl
      cases rest with
      | nil =>
          obtain rfl : next = d := Except.ok.inj hrest
          exact .inl (List.mem_singleton.1 hl)
      | cons part' rest =>
          rw [List.dropLast_cons_cons, way, ← eq_of_enter_eq_ok henter]
          rcases List.mem_cons.1 hl with rfl | hl
          · exact .inr List.mem_cons_self
          · exact (ih hrest hl).imp_right (List.mem_cons_of_mem next)

/-- The way of the path of a directory is that of the path without its last step. -/
theorem way_directory (t : FileTree) (p : Path) :
    way (t.start p.directory) p.directory.steps = way (t.start p) p.steps.dropLast := by
  by_cases h : p.directory.steps = []
  · rw [← Path.steps_directory, h, way, way]
  · rw [start, Path.isAbsolute_directory h, ← start, Path.steps_directory]

end FileTree

end ScriptComposer
