import ScriptComposer.Proofs.Program.Alphabetical
import ScriptComposer.Proofs.Program.Fresh
import ScriptComposer.Proofs.Script.Sections

/-!
# ScriptComposer.Proofs.Program.Sections

What an edit of a program does to the sections of its script.

A script is made from the enabled statements of each section, in order; from nothing
else.  So an edit acts on the script as it acts on these three lists, whatever it does
to the list of all statements.

* `generate_congr` — programs with the same sections have the same script;
* `members_update_switch_off` — disabling a statement is removing it;
* `members_sort` — sorting sorts each section by itself;
* `members_reorder` — a statement moved past statements of other sections stays where it
  is in its own.
-/

namespace ScriptComposer

namespace Script

/-! ## sections by name -/

/-- The three sections of a script. -/
inductive Section where
  | declarations
  | outside
  | loop
  deriving DecidableEq, Repr

/-- Is it the section inside the main loop? -/
def Section.isLoop : Section → Bool
  | .declarations | .outside => false
  | .loop => true

/-- The section a statement belongs to, be it enabled or not. -/
def sectionOf (s : Statement) : Section :=
  if s.inMainLoop then .loop else if s.isDeclaration then .declarations else .outside

/-- The statements that are written in a section, in order. -/
def members (k : Section) (ss : List Statement) : List Statement :=
  ss.filter fun s => s.enabled && sectionOf s = k

theorem isLoop_sectionOf (s : Statement) : (sectionOf s).isLoop = s.inMainLoop := by
  rw [sectionOf]
  split
  · simp [Section.isLoop, *]
  · split <;> simp [Section.isLoop, *]

theorem members_declarations (ss : List Statement) : members .declarations ss = declared ss := by
  refine List.filter_congr fun s _ => ?_
  cases hd : s.isDeclaration <;> simp [sectionOf, Statement.inMainLoop, hd]
  split <;> simp

theorem members_outside (ss : List Statement) : members .outside ss = outside ss := by
  refine List.filter_congr fun s _ => ?_
  cases hl : s.inMainLoop <;> cases hd : s.isDeclaration <;> simp [sectionOf, hl, hd]

theorem members_loop (ss : List Statement) : members .loop ss = inside ss := by
  refine List.filter_congr fun s _ => ?_
  cases hl : s.inMainLoop <;> cases hd : s.isDeclaration <;> simp [sectionOf, hl, hd]

/-- The script is made from the members of the sections. -/
theorem layout_congr {ss ss' : List Statement} (h : ∀ k, members k ss = members k ss') :
    layout ss = layout ss' := by
  have hdeclared := h .declarations
  have houtside := h .outside
  have hinside := h .loop
  rw [members_declarations, members_declarations] at hdeclared
  rw [members_outside, members_outside] at houtside
  rw [members_loop, members_loop] at hinside
  rw [layout, layout, declarations_eq, declarations_eq, hdeclared, houtside, hinside]

/-- The script depends on the members of the sections. -/
theorem generate_congr {ss ss' : List Statement} (h : ∀ k, members k ss = members k ss')
    (width : Nat) : generate width ss = generate width ss' := by
  rw [generate, generate, layout_congr h]

end Script

open Script

/-! ## disabled statements -/

theorem members_filter_enabled (k : Section) (ss : List Statement) :
    members k (ss.filter (·.enabled)) = members k ss := by
  rw [members, members, List.filter_filter]
  refine List.filter_congr fun s _ => ?_
  cases s.enabled <;> simp

/-- Removing the disabled statements leaves every section as it was. -/
theorem members_removeDisabled (k : Section) (p : Program) :
    members k p.removeDisabled.statements = members k p.statements := by
  rw [Program.removeDisabled]
  split
  · rfl
  · exact members_filter_enabled k p.statements

/-! ## switching off -/

/-- The patch that switches a statement on or off. -/
def Patch.switch (on : Bool) : Patch := { enabled := some on }

theorem Patch.apply_switch (on : Bool) (s : Statement) :
    (Patch.switch on).apply s = { s with enabled := on } := by
  obtain ⟨id, enabled, wantsLoop, body, notes⟩ := s
  rcases body with c | (_ | _ | _ | _ | d) <;> rfl

/-- An element that is changed so that it is not chosen might as well be taken out. -/
theorem filter_modify_eq_eraseIdx {α : Type} {chosen : α → Bool} {f : α → α}
    (hf : ∀ x, chosen (f x) = false) (l : List α) (i : Nat) :
    (l.modify i f).filter chosen = (l.eraseIdx i).filter chosen := by
  induction l generalizing i with
  | nil => simp
  | cons x l ih =>
      cases i with
      | zero => simp [hf x]
      | succ i =>
          rw [List.modify_succ_cons, List.eraseIdx_cons_succ, List.filter_cons, List.filter_cons,
            ih i]

theorem modify_eq_self {α : Type} {f : α → α} {l : List α} {i : Nat}
    (h : ∀ x, l[i]? = some x → f x = x) : l.modify i f = l := by
  refine List.ext_getElem? fun j => ?_
  by_cases hj : i = j
  · subst hj
    rw [List.getElem?_modify_eq]
    cases hx : l[i]? with
    | none => rfl
    | some x => simp [h x hx]
  · rw [List.getElem?_modify_ne f l hj]

namespace Program

/-- Switching a statement off is taking it out, for every section. -/
theorem members_update_switch_off (k : Section) (p : Program) (id : StatementId) :
    members k (p.update id (.switch false)).1.statements =
      members k (p.remove id).1.statements := by
  have hoff : ∀ s, (((Patch.switch false).apply s).enabled &&
      decide (sectionOf ((Patch.switch false).apply s) = k)) = false := by
    intro s
    rw [Patch.apply_switch, Bool.false_and]
  rw [update, remove]
  split
  · exact filter_modify_eq_eraseIdx hoff p.statements _
  · rfl

/-- Switching a statement off and on again changes nothing if it was on. -/
theorem statements_switch_off_on {p : Program} {id : StatementId}
    (h : ∀ s, p.get? id = some s → s.enabled = true) :
    ((p.update id (.switch false)).1.update id (.switch true)).1.statements = p.statements := by
  cases hi : p.position? id with
  | none =>
      have hkept : (p.update id (.switch false)).1 = p := by rw [update, hi]
      rw [hkept, update, hi]
  | some i =>
      have hoff : (p.update id (.switch false)).1 =
          p.withStatements (p.statements.modify i (Patch.switch false).apply) := by
        rw [update, hi]
      have hfound : (p.update id (.switch false)).1.position? id = some i := by
        rw [hoff, position?_eq_findIdx?_ids, ids, withStatements, ids_modify,
          ← hi, position?_eq_findIdx?_ids, ids]
      rw [update, hfound, hoff]
      refine (List.modify_modify_eq _ _ _ _).trans (modify_eq_self fun s hs => ?_)
      have hon : s.enabled = true := h s ((get?_eq_getElem? hi).trans hs)
      simp only [Function.comp_apply, Patch.apply_switch, ← hon]

end Program

/-! ## sorting -/

theorem isLoop_eq_of_chosen {k : Section} {s : Statement}
    (h : (s.enabled && sectionOf s = k) = true) : s.inMainLoop = k.isLoop := by
  obtain ⟨-, rfl⟩ : s.enabled = true ∧ sectionOf s = k := by simpa using h
  exact (isLoop_sectionOf s).symm

/-- The members of a section are among the statements of its side. -/
theorem members_eq_filter_side (k : Section) (ss : List Statement) :
    members k ss = (side k.isLoop ss).filter fun s => s.enabled && sectionOf s = k := by
  rw [members, side, List.filter_filter]
  refine List.filter_congr fun s _ => ?_
  by_cases hs : (s.enabled && sectionOf s = k) = true
  · simp [isLoop_eq_of_chosen hs]
  · rw [Bool.eq_false_iff.2 hs, Bool.false_and]

/-- Sorting one side leaves the sections of the other side as they were. -/
theorem members_sort_of_ne {k : Section} {scope : Scope} (h : k.isLoop ∉ scope.sides) (o : Order)
    (p : Program) : members k (p.sort scope o).statements = members k p.statements := by
  rw [members_eq_filter_side, members_eq_filter_side, Program.side_sort_of_not_mem h]

/-- Sorting alphabetically sorts each section in the scope. -/
theorem members_sort {k : Section} {scope : Scope} (h : k.isLoop ∈ scope.sides) {o : Order}
    (ho : o ≠ .byCategory) (p : Program) :
    members k (p.sort scope o).statements = o.arrange (members k p.statements) := by
  rw [members_eq_filter_side, members_eq_filter_side, Program.side_sort h,
    Order.filter_arrange ho]

/-! ## moving -/

/-- A statement moved past disabled ones and those of other sections only: no section
changes. -/
theorem members_reorder {p : Program} {source target : Nat}
    (h : ∀ j x y, IsPassed source target j → p.statements[source]? = some x →
      p.statements[j]? = some y → y.enabled = false ∨ sectionOf y ≠ sectionOf x) (k : Section) :
    members k (p.reorder source target).1.statements = members k p.statements := by
  rw [Program.reorder]
  split
  · next hplaces =>
      split
      · rfl
      · obtain ⟨x, hx⟩ : ∃ x, p.statements[source]? = some x :=
          ⟨_, List.getElem?_eq_getElem hplaces.1⟩
        refine filter_moveItem hx hplaces.2 fun j y hj hy hchosen => ?_
        obtain ⟨hon, rfl⟩ : y.enabled = true ∧ sectionOf y = k := by simpa using hchosen
        rcases h j x y hj hx hy with hoff | hne
        · simp [hoff] at hon
        · simp [Ne.symm hne]
  · rfl

end ScriptComposer
