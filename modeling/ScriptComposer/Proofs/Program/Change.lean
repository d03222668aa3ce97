import ScriptComposer.Program.Edit
import ScriptComposer.Proofs.Program.Rearrange

/-!
# ScriptComposer.Proofs.Program.Change

What an edit can do to a program.

There are ten edits and four things that can come of one: the program is kept as
it is, a new statement is put in, one statement is patched, or the statements
are rearranged, some of them perhaps left out.  What holds of these four holds of
every edit, and by induction of every history of edits.

* `Edit.change` — an edit does one of the four;
* `Program.Change.eq_or_version` — a program that is not kept has the next version;
* `Program.after_induction` — what the four preserve, every history preserves.
-/

namespace ScriptComposer

/-- The id of the statement that was added, if one was. -/
def Outcome.issued? : Outcome → Option StatementId
  | .added id => id
  | .changed _ | .removed _ | .sorted => none

/-- What a new statement does: it calls a function, or is what a form describes. -/
inductive IsNewBody : Body → Bool → Prop
  | call (f : ApiFunction) : IsNewBody (.call (.ofFunction f)) true
  | control {form : ControlForm} {c : Control} {inside : Bool}
      (h : form.control? = some (c, inside)) : IsNewBody (.control c) inside

/-- An edit has made one program into another, with an outcome. -/
inductive Program.Change (p : Program) : Program → Outcome → Prop
  | kept {o} (ho : o.issued? = none) : p.Change p o
  | inserted {i body inside} (hi : i ≤ p.size) (hb : IsNewBody body inside) :
      p.Change (p.insertNew i (.ofBody · body inside)).1
        (.added (some (p.insertNew i (.ofBody · body inside)).2))
  | patched {i} (hi : i < p.size) (patch : Patch) :
      p.Change (p.withStatements (p.statements.modify i patch.apply)) (.changed true)
  | rearranged {ss o} (hs : ss.Subperm p.statements) (ho : o.issued? = none) :
      p.Change (p.withStatements ss) o

namespace Program

/-- An id that is found stands inside of the list. -/
theorem position?_lt {p : Program} {id : StatementId} {i : Nat} (h : p.position? id = some i) :
    i < p.size :=
  (List.findIdx?_eq_some_iff_getElem.1 h).1

/-- The statement with an id is the one at its place. -/
theorem get?_eq_getElem? {p : Program} {id : StatementId} {i : Nat}
    (h : p.position? id = some i) : p.get? id = p.statements[i]? := by
  obtain ⟨hi, hid, hbefore⟩ := List.findIdx?_eq_some_iff_getElem.1 h
  rw [List.getElem?_eq_getElem hi]
  refine List.find?_eq_some_iff_getElem.2 ⟨hid, i, hi, rfl, fun j hj => ?_⟩
  simpa using hbefore j hj

/-! ## one edit after the other -/

/-- Adding puts a call at the end. -/
theorem change_add (p : Program) (f : ApiFunction) :
    p.Change (p.add f).1 (.added (some (p.add f).2)) :=
  .inserted (Nat.le_refl p.size) (.call f)

/-- Adding behind an anchor puts the call there, or at the end if there is no such anchor. -/
theorem change_addAfter (p : Program) (anchor : StatementId) (f : ApiFunction) :
    p.Change (p.addAfter anchor f).1 (.added (some (p.addAfter anchor f).2)) := by
  unfold addAfter
  cases h : p.position? anchor with
  | none => exact p.change_add f
  | some i => exact .inserted (position?_lt h) (.call f)

/-- Adding from the catalog adds the function that is found, or nothing. -/
theorem change_addFromCatalog (p : Program) (catalog : Catalog) (category name : String) :
    p.Change (p.addFromCatalog catalog category name).1
      (.added (p.addFromCatalog catalog category name).2) := by
  unfold addFromCatalog
  cases catalog.functionIn? category name with
  | none => exact .kept rfl
  | some f => exact p.change_add f

/-- Adding a form adds the control statement that it describes, or nothing if it is not filled
in. -/
theorem change_addControl (p : Program) (form : ControlForm) :
    p.Change (p.addControl form).1 (.added (p.addControl form).2) := by
  unfold addControl
  cases h : form.control? with
  | none => exact .kept rfl
  | some new => exact .inserted (Nat.le_refl p.size) (.control h)

/-- Updating patches the statement with the id, if there is one. -/
theorem change_update (p : Program) (id : StatementId) (patch : Patch) :
    p.Change (p.update id patch).1 (.changed (p.update id patch).2) := by
  unfold update
  cases h : p.position? id with
  | none => exact .kept rfl
  | some i => exact .patched (position?_lt h) patch

/-- Removing leaves out the statement with the id, if there is one. -/
theorem change_remove (p : Program) (id : StatementId) :
    p.Change (p.remove id).1 (.removed (p.remove id).2) := by
  unfold remove
  cases p.position? id with
  | none => exact .kept rfl
  | some i => exact .rearranged (List.eraseIdx_sublist _ i).subperm rfl

/-- Reordering takes a statement out and puts it in elsewhere, unless a place is out of range or
both are one. -/
theorem change_reorder (p : Program) (source target : Nat) :
    p.Change (p.reorder source target).1 (.changed (p.reorder source target).2) := by
  unfold reorder
  split
  · next h =>
      split
      · exact .kept rfl
      · exact .rearranged (moveItem_perm h.2).subperm rfl
  · exact .kept rfl

/-- Moving is reordering by ids, unless one of them is missing. -/
theorem change_move (p : Program) (active onto : StatementId) :
    p.Change (p.move active onto).1 (.changed (p.move active onto).2) := by
  unfold move
  split
  · exact p.change_reorder _ _
  · exact .kept rfl

/-- Sorting rearranges, even if everything is in order already. -/
theorem change_sort (p : Program) (scope : Scope) (o : Order) :
    p.Change (p.sort scope o) .sorted :=
  .rearranged (p.sort_perm scope o).subperm rfl

/-- Removing the disabled statements leaves out some of them, unless there are none. -/
theorem change_removeDisabled (p : Program) : p.Change p.removeDisabled .sorted := by
  unfold removeDisabled
  split
  · exact .kept rfl
  · exact .rearranged List.filter_sublist.subperm rfl

end Program

/-- An edit keeps the program, puts a statement in, patches one or rearranges them. -/
theorem Edit.change (p : Program) (e : Edit) : p.Change (e.apply p).1 (e.apply p).2 := by
  cases e with
  | add f => exact p.change_add f
  | addAfter anchor f => exact p.change_addAfter anchor f
  | addFromCatalog catalog category name => exact p.change_addFromCatalog catalog category name
  | addControl form => exact p.change_addControl form
  | update id patch => exact p.change_update id patch
  | remove id => exact p.change_remove id
  | reorder source target => exact p.change_reorder source target
  | move active onto => exact p.change_move active onto
  | sort scope order => exact p.change_sort scope order
  | removeDisabled => exact p.change_removeDisabled

/-- Every change counts the version up, or there is none. -/
theorem Program.Change.eq_or_version {p p' : Program} {o : Outcome} (h : p.Change p' o) :
    p' = p ∨ p'.version = p.version + 1 := by
  cases h with
  | kept _ => exact .inl rfl
  | inserted _ _ => exact .inr rfl
  | patched _ _ => exact .inr rfl
  | rearranged _ _ => exact .inr rfl

/-! ## histories -/

namespace Program

/-- A history can be cut anywhere. -/
theorem after_append (p : Program) (past rest : List Edit) :
    p.after (past ++ rest) = (p.after past).after rest := List.foldl_append

theorem after_concat (p : Program) (past : List Edit) (e : Edit) :
    p.after (past ++ [e]) = (e.apply (p.after past)).1 := after_append p past [e]

/-- What every change preserves, every history preserves. -/
theorem after_induction {motive : Program → Prop} {p : Program} (hp : motive p)
    (hstep : ∀ q q' o, motive q → q.Change q' o → motive q') (edits : List Edit) :
    motive (p.after edits) := by
  induction edits generalizing p with
  | nil => exact hp
  | cons e edits ih => exact ih (hstep p _ _ hp (e.change p))

end Program

end ScriptComposer
