import ScriptComposer.Proofs.FileTree.Proper

/-!
# ScriptComposer.Proofs.FileTree.Directories

What making directories does to a tree.

Directories are made one after the other along a path, and what was made stays when a
later one cannot be made.  Each is made at a free place on the way of the path, so nothing
that was in the tree is touched.

* `mem_way_concat` — walking a path and going on to a name is on its way;
* `Grown` — a tree with more directories, and nothing else changed;
* `grown_makeDirectories` — what is left behind, however it ends.
-/

namespace ScriptComposer

/-- What a computation leaves behind, whether it succeeds or fails. -/
def leftBehind {ε σ α : Type} : EStateM.Result ε σ α → σ
  | .ok _ s => s
  | .error _ s => s

namespace FileTree

variable {t t' t'' : FileTree} {here l d : Location} {part name : String} {p : Path}

/-! ## ways -/

/-- Where a part leads does not depend on the tree, if it leads anywhere. -/
theorem eq_of_enter_eq_ok {next : Location} (h : t.enter here part = .ok next) :
    next = if Path.isIdle part then here else if part = ".." then here.dropLast
      else here ++ [part] := by
  rw [enter, at?_of_enter_eq_ok h] at h
  dsimp only at h
  by_cases hidle : Path.isIdle part
  · rw [if_pos hidle] at h ⊢
    exact (Except.ok.inj h).symm
  · rw [if_neg hidle] at h ⊢
    by_cases hup : part = ".."
    · rw [if_pos hup] at h ⊢
      exact (Except.ok.inj h).symm
    · rw [if_neg hup] at h ⊢
      split at h
      · cases h
      · split at h
        · exact (Except.ok.inj h).symm
        · cases h

/-- Where a path leads, and from there an entry of some name, is on the way. -/
theorem mem_way_concat {before : List String} (h : t.walk here before = .ok d)
    (hdots : Path.isDots name = false) : d ++ [name] ∈ way here (before ++ [name]) := by
  induction before generalizing here with
  | nil =>
      obtain rfl : here = d := Except.ok.inj h
      obtain ⟨hidle, hup⟩ : Path.isIdle name = false ∧ name ≠ ".." := by
        simpa [Path.isDots] using hdots
      simp [way, hidle, hup]
  | cons part before ih =>
      obtain ⟨next, henter, hrest⟩ := walk_cons_eq_ok.1 h
      rw [List.cons_append, way, ← eq_of_enter_eq_ok henter]
      exact List.mem_cons_of_mem next (ih hrest)

/-- A way that goes on has been where it was. -/
theorem mem_way_append {before : List String} (h : l ∈ way here before) (rest : List String) :
    l ∈ way here (before ++ rest) := by
  induction before generalizing here with
  | nil => simp [way] at h
  | cons part before ih =>
      rw [way] at h
      rw [List.cons_append, way]
      rcases List.mem_cons.1 h with rfl | h
      · exact List.mem_cons_self
      · exact List.mem_cons_of_mem _ (ih h)

/-! ## proper trees stay proper -/

theorem slash_not_mem_of_mem_parts (hname : name ∈ p.parts) : '/' ∉ name.toList := by
  obtain ⟨chars, hchars, rfl⟩ := List.mem_map.1 hname
  rw [String.toList_ofList]
  exact fun hmem => (Text.mem_of_mem_splitAt hchars hmem).1 rfl

/-- A part of a path that can be walked can name an entry, if it is not about directories
and not too long. -/
theorem isName_of_mem_parts (hcheck : checkPath p = .ok ()) (hname : name ∈ p.parts)
    (hdots : Path.isDots name = false) (hshort : isTooLong name = false) : IsName name := by
  have hnul : p.holdsNul = false := by
    rw [checkPath] at hcheck
    split at hcheck
    · cases hcheck
    · next h => exact Bool.eq_false_iff.2 h
  refine ⟨hdots, hshort, slash_not_mem_of_mem_parts hname, fun hmem => ?_⟩
  obtain ⟨chars, hchars, rfl⟩ := List.mem_map.1 hname
  rw [Path.holdsNul, List.contains_eq_mem, decide_eq_false_iff_not] at hnul
  rw [String.toList_ofList] at hmem
  exact hnul (Text.mem_of_mem_splitAt hchars hmem).2

/-- An entry with a name that is put into a directory, but not in place of one. -/
theorem IsProper.put (ht : t.IsProper) {e : Entry} (hd : t.at? d = some .directory)
    (hname : IsName name) (hfree : t.at? (d ++ [name]) ≠ some .directory) :
    (t.put (d ++ [name]) e).IsProper := by
  have hm : d ++ [name] ≠ [] := by simp
  have hkept : ∀ {l}, t.at? l = some .directory →
      (t.put (d ++ [name]) e).at? l = some .directory := by
    intro l hl
    have hne : l ≠ d ++ [name] := by
      rintro rfl
      exact hfree hl
    rw [at?_put hm, if_neg hne, hl]
  refine ⟨fun x hx => ?_, fun x hx => ?_, hkept ht.working⟩
  · rcases List.mem_cons.1 hx with rfl | hx
    · intro n hn
      rcases List.mem_append.1 hn with hn | hn
      · exact ht.isName_of_at? (Option.isSome_of_eq_some hd) n hn
      · rwa [List.mem_singleton.1 hn]
    · exact ht.isName x (List.mem_filter.1 hx).1
  · rcases List.mem_cons.1 hx with rfl | hx
    · rw [List.dropLast_concat]
      exact hkept hd
    · exact hkept (ht.parent x (List.mem_filter.1 hx).1)

/-! ## trees with more directories -/

/-- What is at a location is what was there in another tree, or it is a directory at one of
some places that were free. -/
def KeptOrMade (places : Location → Prop) (t t' : FileTree) (l : Location) : Prop :=
  t'.at? l = t.at? l ∨ t.at? l = none ∧ t'.at? l = some .directory ∧ places l

/-- A tree has more directories than another one, at places that were free, and is the same
otherwise. -/
structure Grown (places : Location → Prop) (t t' : FileTree) : Prop where
  workingDirectory_eq : t'.workingDirectory = t.workingDirectory
  keptOrMade : ∀ l, KeptOrMade places t t' l
  isProper : t.IsProper → t'.IsProper

variable {places more : Location → Prop}

namespace KeptOrMade

/-- A file is there if it was there before. -/
theorem at?_eq_file_iff (h : KeptOrMade places t t' l) {bytes : ByteArray} :
    t'.at? l = some (.file bytes) ↔ t.at? l = some (.file bytes) := by
  rcases h with hl | ⟨hfree, hmade, -⟩
  · rw [hl]
  · simp [hfree, hmade]

/-- A directory that was there is still there. -/
theorem at?_eq_directory (h : KeptOrMade places t t' l) (hl : t.at? l = some .directory) :
    t'.at? l = some .directory := by
  rcases h with hkept | ⟨-, hmade, -⟩
  · rw [hkept, hl]
  · exact hmade

/-- What was made first is kept by what is made later. -/
theorem trans (h : KeptOrMade places t t' l) (h' : KeptOrMade places t' t'' l) :
    KeptOrMade places t t'' l := by
  rcases h with hl | ⟨hfree, hmade, hplace⟩
  · rwa [KeptOrMade, hl] at h'
  · exact .inr ⟨hfree, h'.at?_eq_directory hmade, hplace⟩

end KeptOrMade

namespace Grown

theorem refl (places : Location → Prop) (t : FileTree) : Grown places t t :=
  ⟨rfl, fun _ => .inl rfl, id⟩

/-- Only the places that were free count. -/
theorem mono (h : Grown places t t') (hp : ∀ l, t.at? l = none → places l → more l) :
    Grown more t t' :=
  ⟨h.workingDirectory_eq, fun l => (h.keptOrMade l).imp_right fun ⟨hfree, hmade, hl⟩ =>
    ⟨hfree, hmade, hp l hfree hl⟩, h.isProper⟩

theorem trans (h : Grown places t t') (h' : Grown places t' t'') : Grown places t t'' :=
  ⟨h'.workingDirectory_eq.trans h.workingDirectory_eq,
    fun l => (h.keptOrMade l).trans (h'.keptOrMade l), fun ht => h'.isProper (h.isProper ht)⟩

end Grown

/-! ## making directories -/

/-- A directory is made at a free place with a name that an entry can have. -/
theorem makeDirectory_eq_ok {s : Slot} (h : t.makeDirectory s = .ok t') :
    Path.isDots s.name = false ∧ isTooLong s.name = false ∧ t.at? s.location = none ∧
      t' = t.put s.location .directory := by
  rw [makeDirectory] at h
  split at h
  · cases h
  · next hdots =>
      split at h
      · cases h
      · next hshort =>
          split at h
          · cases h
          · next hfree =>
              exact ⟨Bool.eq_false_iff.2 hdots, Bool.eq_false_iff.2 hshort, by simpa using hfree,
                (Except.ok.inj h).symm⟩

/-- One directory is made, at the end of the way. -/
theorem grown_makeDirectory {before : List String}
    (hname : Path.isDots name = false → isTooLong name = false → IsName name)
    (h : (t.slot here before name >>= t.makeDirectory) = .ok t') :
    Grown (· ∈ way here (before ++ [name])) t t' := by
  obtain ⟨s, hslot, hmake⟩ := bind_eq_ok.1 h
  obtain ⟨hwalk, hdirectory, rfl⟩ := slot_eq_ok hslot
  obtain ⟨hdots, hshort, hfree, rfl⟩ := makeDirectory_eq_ok hmake
  refine ⟨rfl, fun l => ?_, fun ht => ?_⟩
  · by_cases hl : l = s.location
    · subst hl
      have hmade : (t.put s.location .directory).at? s.location = some .directory := by
        rw [at?_put (by simp [Slot.location]), if_pos rfl]
      exact .inr ⟨hfree, hmade, mem_way_concat hwalk hdots⟩
    · rw [KeptOrMade, at?_put (by simp [Slot.location]), if_neg hl]
      exact .inl rfl
  · have hnone : t.at? (s.directory ++ [s.name]) ≠ some .directory := by
      rw [← Slot.location, hfree]
      exact (Option.some_ne_none _).symm
    exact ht.put hdirectory (hname hdots hshort) hnone

/-- A change that begins by looking at the tree. -/
theorem get_bind_apply {α : Type} (f : FileTree → Change α) (t : FileTree) :
    (get >>= f) t = f t t := rfl

/-- One change after another one. -/
theorem Grown.bind {α β : Type} {x : Change α} {f : α → Change β}
    (hx : Grown places t (leftBehind (x t))) (hf : ∀ a t, Grown places t (leftBehind (f a t))) :
    Grown places t (leftBehind ((x >>= f) t)) := by
  show Grown places t (leftBehind (EStateM.bind x f t))
  rw [EStateM.bind]
  cases hrun : x t with
  | ok a t' =>
      rw [hrun] at hx
      exact hx.trans (hf a t')
  | error e t' => rwa [hrun] at hx

/-- A directory that is there already is as good as one that is made. -/
theorem grown_ensureDirectory {before : List String}
    (hname : Path.isDots name = false → isTooLong name = false → IsName name) :
    Grown (· ∈ way here (before ++ [name])) t
      (leftBehind (ensureDirectory here before name t)) := by
  rw [ensureDirectory, get_bind_apply]
  cases hmade : t.slot here before name >>= t.makeDirectory with
  | ok t' => exact grown_makeDirectory hname hmade
  | error e =>
      -- either way the tree is as it was
      by_cases hthere : t.leadsToDirectory here (before ++ [name])
      · simp only [hthere]
        exact .refl _ t
      · simp only [hthere]
        exact .refl _ t

/-- By induction on the way, from its end: only where a directory cannot be made for want of
another is the way before it made. -/
theorem grown_ensureDirectories {parts : List String}
    (hnames : ∀ name ∈ parts, Path.isDots name = false → isTooLong name = false → IsName name) :
    Grown (· ∈ way here parts.reverse) t (leftBehind (ensureDirectories here parts t)) := by
  induction parts generalizing t with
  | nil => exact .refl _ t
  | cons name before ih =>
      rw [List.reverse_cons]
      have hbefore : Grown (· ∈ way here (before.reverse ++ [name])) t
          (leftBehind (ensureDirectories here before t)) :=
        (ih fun n hn => hnames n (List.mem_cons_of_mem name hn)).mono fun _ _ hl =>
          mem_way_append hl [name]
      have hlast : ∀ t, Grown (· ∈ way here (before.reverse ++ [name])) t
          (leftBehind (ensureDirectory here before.reverse name t)) := fun t =>
        grown_ensureDirectory (hnames name List.mem_cons_self)
      rw [ensureDirectories, get_bind_apply]
      cases t.slot here before.reverse name with
      | ok _ => exact hlast t
      | error e =>
          cases e with
          | notFound => exact hbefore.bind fun _ => hlast
          | _ => exact hlast t

/-- However making directories along a path ends, what is left behind are more directories
on the way of the path. -/
theorem grown_makeDirectories (p : Path) (t : FileTree) :
    Grown (· ∈ way (t.start p) p.steps) t (leftBehind (makeDirectories p t)) := by
  rw [makeDirectories, get_bind_apply]
  cases hcheck : checkPath p with
  | error e => exact .refl _ t
  | ok _ =>
      have hgrown : Grown (· ∈ way (t.start p) p.steps.reverse.reverse) t
          (leftBehind (ensureDirectories (t.start p) p.steps.reverse t)) :=
        grown_ensureDirectories fun name hname hdots hshort =>
          isName_of_mem_parts hcheck (List.mem_filter.1 (List.mem_reverse.1 hname)).1 hdots hshort
      rwa [List.reverse_reverse] at hgrown

end FileTree

end ScriptComposer
