import ScriptComposer.Proofs.Program.Fresh

/-!
# ScriptComposer.Proofs.Program.Version

Edits are made as a whole or not at all, and the version accounts for them.

An edit can be refused, because a function, a statement or a place it needs is missing,
or a field that must say something is blank.  It can be idle, because what it asks for is
so already.  Both leave the program exactly as it is, the number of the next id included;
every other edit counts the version up by one.

* `Edit.result` — which of the three an edit is, its outcome tells;
* `version_accounts` — so a version stands for one list of statements, at whatever two
  points of a history it is met.
-/

namespace ScriptComposer

/-- The edit cannot be made: what it needs is missing. -/
def Edit.IsRefused (p : Program) : Edit → Prop
  | .addFromCatalog catalog category name => catalog.functionIn? category name = none
  | .addControl form => form.control? = none
  | .update id _ | .remove id => id ∉ p.ids
  | .reorder source target => p.size ≤ source ∨ p.size ≤ target
  | .move active onto => active ∉ p.ids ∨ onto ∉ p.ids
  | .add _ | .addAfter .. | .sort .. | .removeDisabled => False

/-- The edit asks for what is so already: a statement is to go where it is, or none is
disabled. -/
def Edit.IsIdle (p : Program) : Edit → Prop
  | .reorder source target => source = target
  | .move active onto => p.position? active = p.position? onto
  | .removeDisabled => ∀ s ∈ p.statements, s.enabled = true
  | .add _ | .addAfter .. | .addFromCatalog .. | .addControl _ | .update .. | .remove _
  | .sort .. => False

/-- What an edit has made of a program, and whether it says that it was refused. -/
inductive Edit.Result (p : Program) (e : Edit) : Program → Outcome → Prop
  | refused {o} (hr : e.IsRefused p) (ho : o.isFailure = true) : e.Result p p o
  | idle {o} (hr : ¬ e.IsRefused p) (hi : e.IsIdle p) (ho : o.isFailure = false) :
      e.Result p p o
  | counted {p' o} (hr : ¬ e.IsRefused p) (hi : ¬ e.IsIdle p) (ho : o.isFailure = false)
      (hv : p'.version = p.version + 1) : e.Result p p' o

namespace Program

/-- An id is not found if no statement has it. -/
theorem position?_eq_none_iff {p : Program} {id : StatementId} :
    p.position? id = none ↔ id ∉ p.ids := by
  rw [position?, List.findIdx?_eq_none_iff, ids, List.mem_map]
  constructor
  · rintro h ⟨s, hs, rfl⟩
    simpa using h s hs
  · intro h s hs
    exact decide_eq_false fun hid => h ⟨s, hs, hid⟩

theorem mem_ids_of_position? {p : Program} {id : StatementId} {i : Nat}
    (h : p.position? id = some i) : id ∈ p.ids := by
  by_contra hmem
  simp [position?_eq_none_iff.2 hmem] at h

/-! ## one edit after the other -/

theorem result_add (p : Program) (f : ApiFunction) :
    (Edit.add f).Result p (p.add f).1 (.added (some (p.add f).2)) :=
  .counted not_false not_false rfl rfl

theorem result_addAfter (p : Program) (anchor : StatementId) (f : ApiFunction) :
    (Edit.addAfter anchor f).Result p (p.addAfter anchor f).1
      (.added (some (p.addAfter anchor f).2)) := by
  refine .counted not_false not_false rfl ?_
  unfold addAfter
  split <;> rfl

/-- Adding from the catalog counts if the function is found there. -/
theorem result_addFromCatalog (p : Program) (catalog : Catalog) (category name : String) :
    (Edit.addFromCatalog catalog category name).Result p
      (p.addFromCatalog catalog category name).1
      (.added (p.addFromCatalog catalog category name).2) := by
  unfold addFromCatalog
  cases h : catalog.functionIn? category name with
  | none => exact .refused h rfl
  | some f => exact .counted (by simp [Edit.IsRefused, h]) not_false rfl rfl

/-- Adding a form counts if it is filled in. -/
theorem result_addControl (p : Program) (form : ControlForm) :
    (Edit.addControl form).Result p (p.addControl form).1 (.added (p.addControl form).2) := by
  unfold addControl
  cases h : form.control? with
  | none => exact .refused h rfl
  | some new => exact .counted (by simp [Edit.IsRefused, h]) not_false rfl rfl

/-- Updating counts if the statement is there. -/
theorem result_update (p : Program) (id : StatementId) (patch : Patch) :
    (Edit.update id patch).Result p (p.update id patch).1 (.changed (p.update id patch).2) := by
  unfold update
  cases h : p.position? id with
  | none => exact .refused (position?_eq_none_iff.1 h) rfl
  | some i => exact .counted (not_not_intro (mem_ids_of_position? h)) not_false rfl rfl

/-- So does removing it. -/
theorem result_remove (p : Program) (id : StatementId) :
    (Edit.remove id).Result p (p.remove id).1 (.removed (p.remove id).2) := by
  unfold remove
  cases h : p.position? id with
  | none => exact .refused (position?_eq_none_iff.1 h) rfl
  | some i =>
      obtain ⟨s, hs⟩ : ∃ s, p.statements[i]? = some s :=
        ⟨_, List.getElem?_eq_getElem (position?_lt h)⟩
      refine .counted (not_not_intro (mem_ids_of_position? h)) not_false ?_ rfl
      simp only [hs, Outcome.isFailure]

/-- Reordering counts if something moves; within range it is a success in any case. -/
theorem result_reorder (p : Program) (source target : Nat) :
    (Edit.reorder source target).Result p (p.reorder source target).1
      (.changed (p.reorder source target).2) := by
  unfold reorder
  split
  · next hplaces =>
      have hr : ¬ (Edit.reorder source target).IsRefused p := by
        simp only [Edit.IsRefused]
        omega
      split
      · next hsame => exact .idle hr hsame rfl
      · next hsame => exact .counted hr hsame rfl rfl
  · next hplaces =>
      refine .refused ?_ rfl
      simp only [Edit.IsRefused]
      omega

/-- So does moving by ids. -/
theorem result_move (p : Program) (active onto : StatementId) :
    (Edit.move active onto).Result p (p.move active onto).1
      (.changed (p.move active onto).2) := by
  unfold move
  cases hactive : p.position? active with
  | none => exact .refused (.inl (position?_eq_none_iff.1 hactive)) rfl
  | some source =>
      cases honto : p.position? onto with
      | none => exact .refused (.inr (position?_eq_none_iff.1 honto)) rfl
      | some target =>
          have hr : ¬ (Edit.move active onto).IsRefused p :=
            not_or_intro (not_not_intro (mem_ids_of_position? hactive))
              (not_not_intro (mem_ids_of_position? honto))
          have hplaces : source < p.size ∧ target < p.size :=
            ⟨position?_lt hactive, position?_lt honto⟩
          -- both places exist, so moving is as reordering is
          simp only [reorder, if_pos hplaces]
          split
          · next hsame =>
              exact .idle hr (by rw [Edit.IsIdle, hactive, honto, hsame]) rfl
          · next hsame =>
              refine .counted hr ?_ rfl rfl
              simpa [Edit.IsIdle, hactive, honto] using hsame

/-- Removing the disabled statements counts if there are any. -/
theorem result_removeDisabled (p : Program) :
    Edit.removeDisabled.Result p p.removeDisabled .sorted := by
  unfold removeDisabled
  split
  · next hall => exact .idle not_false (List.all_eq_true.1 hall) rfl
  · next hall => exact .counted not_false (fun h => hall (List.all_eq_true.2 h)) rfl rfl

end Program

/-- An edit is refused, is idle, or counts the version up, and its outcome says whether it
was refused. -/
theorem Edit.result (p : Program) (e : Edit) : e.Result p (e.apply p).1 (e.apply p).2 := by
  cases e with
  | add f => exact p.result_add f
  | addAfter anchor f => exact p.result_addAfter anchor f
  | addFromCatalog catalog category name => exact p.result_addFromCatalog catalog category name
  | addControl form => exact p.result_addControl form
  | update id patch => exact p.result_update id patch
  | remove id => exact p.result_remove id
  | reorder source target => exact p.result_reorder source target
  | move active onto => exact p.result_move active onto
  | sort scope order => exact .counted not_false not_false rfl rfl
  | removeDisabled => exact p.result_removeDisabled

namespace Program

/-! ## histories -/

/-- The version never goes back. -/
theorem version_le_after (p : Program) (edits : List Edit) :
    p.version ≤ (p.after edits).version := by
  refine after_induction (motive := fun q => p.version ≤ q.version) (Nat.le_refl _) ?_ edits
  intro q q' o hq hchange
  rcases hchange.eq_or_version with rfl | hv <;> omega

/-- A history that ends with the version it began with has changed nothing. -/
theorem after_eq_of_version_eq {p : Program} {edits : List Edit}
    (h : (p.after edits).version = p.version) : p.after edits = p := by
  induction edits generalizing p with
  | nil => rfl
  | cons e edits ih =>
      have hcons : p.after (e :: edits) = (e.apply p).1.after edits := rfl
      rw [hcons] at h ⊢
      rcases (e.change p).eq_or_version with hkept | hv
      · rw [hkept] at h ⊢
        exact ih h
      · have := version_le_after (e.apply p).1 edits
        omega

/-- A program of the same version, later on, is the same program. -/
theorem eq_of_version_eq {p : Program} {past past' : List Edit} (hpast : past <+: past')
    (h : (p.after past').version = (p.after past).version) : p.after past' = p.after past := by
  obtain ⟨rest, rfl⟩ := hpast
  rw [after_append] at h ⊢
  exact after_eq_of_version_eq h

/-- An edit that says it was refused leaves the program as it was, and says so if and only
if what it needs is missing.  Any edit counts the version up by one at most, and by one if
the statements are other ones afterwards; the edits that were not refused and leave the
version alone are the idle ones.  So at any two points of a history that have one version
the statements are the same. -/
theorem version_accounts (p : Program) :
    (∀ e : Edit,
      ((e.apply p).2.isFailure = true ↔ e.IsRefused p) ∧
      ((e.apply p).2.isFailure = true → (e.apply p).1 = p) ∧
      p.version ≤ (e.apply p).1.version ∧ (e.apply p).1.version ≤ p.version + 1 ∧
      ((e.apply p).1.statements ≠ p.statements → (e.apply p).1.version = p.version + 1) ∧
      ((e.apply p).2.isFailure = false →
        ((e.apply p).1.version = p.version ↔ e.IsIdle p))) ∧
    ∀ edits past past', past <+: edits → past' <+: edits →
      (p.after past).version = (p.after past').version →
      (p.after past).statements = (p.after past').statements := by
  refine ⟨fun e => ?_, fun edits past past' hpast hpast' hversion => ?_⟩
  · have hresult := e.result p
    generalize (e.apply p).1 = p', (e.apply p).2 = o at hresult
    cases hresult with
    | refused hr ho => simp [hr, ho]
    | idle hr hi ho => simp [hr, hi, ho]
    | counted hr hi ho hv => simp [hr, hi, ho, hv]
  · rcases List.prefix_or_prefix_of_prefix hpast hpast' with hle | hle
    · rw [eq_of_version_eq hle hversion.symm]
    · rw [eq_of_version_eq hle hversion]

/-- A statement is added, moved onto itself, and cleared of what is not there. -/
def tidying : List Edit :=
  [.addControl (.blockEnd true), .move (.ofNumber 0) (.ofNumber 0), .remove ⟨"x"⟩,
    .addControl (.ifThen " " false), .removeDisabled]

/-- Only the first of the edits counts: the others are idle or refused. -/
theorem version_accounts_tidying :
    tidying.take 1 <+: tidying ∧
      (empty.after (tidying.take 1)).version = (empty.after tidying).version ∧
      (empty.after (tidying.take 1)).statements = (empty.after tidying).statements ∧
      ((Edit.addControl (.blockEnd true)).apply empty).1.statements ≠ empty.statements ∧
      ((Edit.addControl (.blockEnd true)).apply empty).1.version = empty.version + 1 ∧
      ((Edit.remove ⟨"x"⟩).apply empty).2.isFailure = true ∧
      ((Edit.remove ⟨"x"⟩).apply empty).1 = empty ∧
      (Edit.removeDisabled.apply empty).2.isFailure = false ∧
      (Edit.removeDisabled.apply empty).1.version = empty.version := by
  obtain ⟨hedit, hpoints⟩ := version_accounts empty
  have htaken : tidying.take 1 <+: tidying := List.take_prefix 1 tidying
  have hversion : (empty.after (tidying.take 1)).version = (empty.after tidying).version := by
    decide +kernel
  have hchanged : ((Edit.addControl (.blockEnd true)).apply empty).1.statements ≠
      empty.statements := by decide +kernel
  obtain ⟨-, -, -, -, hcounted, -⟩ := hedit (.addControl (.blockEnd true))
  obtain ⟨-, hrefused, -⟩ := hedit (.remove ⟨"x"⟩)
  obtain ⟨-, -, -, -, -, hidle⟩ := hedit .removeDisabled
  have hnone : Edit.removeDisabled.IsIdle empty := by simp [Edit.IsIdle, empty, ofStatements]
  exact ⟨htaken, hversion, hpoints _ _ _ htaken List.prefix_rfl hversion, hchanged,
    hcounted hchanged, rfl, hrefused rfl, rfl, (hidle rfl).2 hnone⟩

end Program

end ScriptComposer
