import ScriptComposer.Proofs.Program.Change
import ScriptComposer.Proofs.Script.Indentation

/-!
# ScriptComposer.Proofs.Program.NormalForm

The normal form of control statements, and the edit that leaves it.

A form gives a counting loop the step one if it is filled in with a blank step, and a
declaration no body if it is filled in with a blank one.  A patch does the second, too, but
it takes a step as it is typed.  So declarations are in normal form in every program that
edits make, and counting loops are until one of them is given a blank step:

* `isCountingHead_headLine_iff` — the head of a counting loop is whole if and only if its
  step is not blank;
* `isNormal_apply_iff` — an edit leaves the normal form if and only if it sets the step of a
  counting loop to a blank text;
* `after_isNormal_iff` — so a history keeps to the normal form throughout if and only if
  none of its edits does that.
-/

namespace ScriptComposer

/-! ## normal form -/

/-- The head of a counting loop ends with its bounds or with a step that says something. -/
def IsCountingHead (v start stop head : String) : Prop :=
  head = "for " ++ v ++ " = " ++ start ++ ", " ++ stop ++ " do" ∨
    ∃ step, Text.isBlankText step = false ∧
      head = "for " ++ v ++ " = " ++ start ++ ", " ++ stop ++ ", " ++ step ++ " do"

/-- The control statement is in normal form: a counting loop states its step, so that its
head is whole, and the body of a declaration is absent or says something. -/
def Control.IsNormal : Control → Prop
  | .forDo v start stop step =>
      Text.isBlankText step = false ∧
        IsCountingHead v start stop (Control.forDo v start stop step).headLine
  | .declaration d => ∀ body ∈ d.body, Text.isBlankText body = false
  | .ifThen _ | .whileDo _ | .blockEnd => True

/-- Calls have no fields that could be blank. -/
def Body.IsNormal : Body → Prop
  | .call _ => True
  | .control c => c.IsNormal

/-- The control statements of a program are in normal form. -/
def Program.IsNormal (p : Program) : Prop := ∀ s ∈ p.statements, s.body.IsNormal

/-- The patch sets the step of a counting loop to a blank text. -/
def Patch.BlanksStep (patch : Patch) : Body → Prop
  | .control (.forDo ..) => ∃ step ∈ patch.step, Text.isBlankText step = true
  | _ => False

/-- The edit sets the step of a counting loop to a blank text. -/
def Edit.BlanksStep (p : Program) : Edit → Prop
  | .update id patch => ∃ s ∈ p.get? id, patch.BlanksStep s.body
  | .add _ | .addAfter .. | .addFromCatalog .. | .addControl _ | .remove _ | .reorder ..
  | .move .. | .sort .. | .removeDisabled => False

instance (patch : Patch) : (b : Body) → Decidable (patch.BlanksStep b)
  | .control (.forDo ..) =>
      inferInstanceAs (Decidable (∃ step ∈ patch.step, Text.isBlankText step = true))
  | .call _ | .control (.ifThen _) | .control (.whileDo _) | .control .blockEnd
  | .control (.declaration _) => inferInstanceAs (Decidable False)

instance (p : Program) : (e : Edit) → Decidable (e.BlanksStep p)
  | .update id patch => inferInstanceAs (Decidable (∃ s ∈ p.get? id, patch.BlanksStep s.body))
  | .add _ | .addAfter .. | .addFromCatalog .. | .addControl _ | .remove _ | .reorder ..
  | .move .. | .sort .. | .removeDisabled => inferInstanceAs (Decidable False)

/-! ## heads of counting loops -/

theorem isBlankText_unitStep : Text.isBlankText unitStep = false := by decide

/-- The head of a counting loop is whole if and only if its step says something. -/
theorem isCountingHead_headLine_iff {v start stop step : String} :
    IsCountingHead v start stop (Control.forDo v start stop step).headLine ↔
      Text.isBlankText step = false := by
  by_cases hunit : step = unitStep
  · subst hunit
    refine iff_of_true (.inl ?_) isBlankText_unitStep
    simp [Control.headLine, stepClause]
  · have hhead : (Control.forDo v start stop step).headLine =
        "for " ++ v ++ " = " ++ start ++ ", " ++ stop ++ ", " ++ step ++ " do" := by
      simp [Control.headLine, stepClause, hunit, String.append_assoc]
    rw [IsCountingHead, hhead]
    constructor
    · rintro (h | ⟨step', hstep', h⟩)
      · have hclause : ", " ++ (step ++ " do") = " do" := by
          simpa [String.append_assoc, String.append_right_inj] using h
        simpa using congrArg String.toList hclause
      · obtain rfl : step = step' := by
          simpa [String.append_right_inj, String.append_left_inj] using h
        exact hstep'
    · exact fun h => .inr ⟨step, h, rfl⟩

theorem isNormal_forDo_iff {v start stop step : String} :
    (Control.forDo v start stop step).IsNormal ↔ Text.isBlankText step = false := by
  rw [Control.IsNormal, isCountingHead_headLine_iff, and_self]

/-! ## new statements and patched ones -/

theorem isBlankText_of_mem_bodyOfText {text body : String} (h : body ∈ bodyOfText text) :
    Text.isBlankText body = false := by
  unfold bodyOfText at h
  split at h
  · simp at h
  · next hblank =>
      obtain rfl : text = body := by simpa using h
      simpa using hblank

/-- Forms describe control statements in normal form. -/
theorem ControlForm.isNormal_of_control? {form : ControlForm} {c : Control} {inside : Bool}
    (h : form.control? = some (c, inside)) : c.IsNormal := by
  cases form with
  | ifThen condition _ | whileDo condition _ =>
      simp only [ControlForm.control?] at h
      split at h
      · cases h
      · cases h
        trivial
  | forDo v start stop step _ =>
      simp only [ControlForm.control?] at h
      split at h
      · cases h
      · cases h
        refine isNormal_forDo_iff.2 ?_
        split
        · exact isBlankText_unitStep
        · next hstep => simpa using hstep
  | blockEnd _ =>
      cases h
      trivial
  | declaration name params body =>
      simp only [ControlForm.control?] at h
      split at h
      · cases h
      · cases h
        exact fun body hbody => isBlankText_of_mem_bodyOfText hbody

/-- What a form describes is in normal form. -/
theorem IsNewBody.isNormal {body : Body} {inside : Bool} (h : IsNewBody body inside) :
    body.IsNormal := by
  cases h with
  | call f => trivial
  | control h => exact ControlForm.isNormal_of_control? h

/-- A patch does not make the body of a declaration blank. -/
theorem Patch.isNormal_applyToControl_declaration (patch : Patch) {d : Declaration}
    (h : (Control.declaration d).IsNormal) :
    (patch.applyToControl (.declaration d)).IsNormal := by
  intro body hbody
  cases hp : patch.body with
  | none => exact h body (by simpa [hp] using hbody)
  | some text =>
      have htext : body ∈ bodyOfText text := by simpa [hp] using hbody
      exact isBlankText_of_mem_bodyOfText htext

/-- A patch leaves the normal form only by a blank step. -/
theorem Patch.isNormal_applyToBody_iff (patch : Patch) {b : Body} (h : b.IsNormal) :
    (patch.applyToBody b).IsNormal ↔ ¬ patch.BlanksStep b := by
  cases b with
  | call c => exact iff_of_true trivial not_false
  | control c =>
      cases c with
      | ifThen _ | whileDo _ | blockEnd => exact iff_of_true trivial not_false
      | declaration d =>
          exact iff_of_true (patch.isNormal_applyToControl_declaration h) not_false
      | forDo v start stop step =>
          have hstep : Text.isBlankText step = false := isNormal_forDo_iff.1 h
          have hforDo : (patch.applyToBody (.control (.forDo v start stop step))).IsNormal ↔
              Text.isBlankText (patch.step.getD step) = false := isNormal_forDo_iff
          refine Iff.trans hforDo ?_
          cases hp : patch.step with
          | none => simp [Patch.BlanksStep, hp, hstep]
          | some new => simp [Patch.BlanksStep, hp]

namespace Program

/-! ## one edit -/

/-- Whatever comes of an edit but a patch is in normal form. -/
theorem Change.isNormal {p p' : Program} {o : Outcome} (h : p.Change p' o) (hp : p.IsNormal)
    (ho : o ≠ .changed true) : p'.IsNormal := by
  cases h with
  | kept _ => exact hp
  | inserted hi hb =>
      intro s hs
      rcases (List.mem_insertIdx hi).1 hs with rfl | hs
      · exact hb.isNormal
      · exact hp s hs
  | patched _ _ => exact absurd rfl ho
  | rearranged hss _ => exact fun s hs => hp s (hss.subset hs)

/-- A list in another order is as normal as it was. -/
theorem IsNormal.reorder {p : Program} (hp : p.IsNormal) (source target : Nat) :
    (p.reorder source target).1.IsNormal := by
  unfold Program.reorder
  split
  · next hplaces =>
      split
      · exact hp
      · exact fun s hs => hp s ((moveItem_perm hplaces.2).mem_iff.1 hs)
  · exact hp

/-- Patching a statement leaves the normal form only by a blank step. -/
theorem isNormal_update_iff {p : Program} (hp : p.IsNormal) (id : StatementId) (patch : Patch) :
    (p.update id patch).1.IsNormal ↔ ¬ (Edit.update id patch).BlanksStep p := by
  unfold Program.update
  cases hi : p.position? id with
  | none =>
      have hnone : p.get? id = none := by
        rw [position?, List.findIdx?_eq_none_iff] at hi
        exact List.find?_eq_none.2 fun s hs => by simpa using hi s hs
      exact iff_of_true hp (by simp [Edit.BlanksStep, hnone])
  | some i =>
      have hlt := position?_lt hi
      have hsome : p.get? id = some p.statements[i] :=
        (get?_eq_getElem? hi).trans (List.getElem?_eq_getElem hlt)
      have hpatched := patch.isNormal_applyToBody_iff (hp _ (List.getElem_mem hlt))
      have hmodify : p.statements.modify i patch.apply =
          p.statements.take i ++ patch.apply p.statements[i] :: p.statements.drop (i + 1) :=
        List.modify_eq_take_cons_drop hlt
      have hbefore : ∀ s ∈ p.statements.take i, s.body.IsNormal :=
        fun s hs => hp s (List.mem_of_mem_take hs)
      have hbehind : ∀ s ∈ p.statements.drop (i + 1), s.body.IsNormal :=
        fun s hs => hp s (List.mem_of_mem_drop hs)
      simp only [IsNormal, withStatements, hmodify, List.forall_mem_append, List.forall_mem_cons,
        Edit.BlanksStep, hsome, Option.mem_some_iff, exists_eq_left']
      exact ⟨fun h => hpatched.1 h.2.1, fun h => ⟨hbefore, hpatched.2 h, hbehind⟩⟩

/-- An edit leaves the normal form if and only if it sets the step of a counting loop to a
blank text. -/
theorem isNormal_apply_iff {p : Program} (hp : p.IsNormal) (e : Edit) :
    (e.apply p).1.IsNormal ↔ ¬ e.BlanksStep p := by
  have hchange := e.change p
  cases e with
  | update id patch => exact isNormal_update_iff hp id patch
  | reorder source target => exact iff_of_true (hp.reorder source target) not_false
  | move active onto =>
      refine iff_of_true ?_ not_false
      change (p.move active onto).1.IsNormal
      unfold move
      split
      · exact hp.reorder _ _
      · exact hp
  | add _ | addAfter _ _ | addFromCatalog _ _ _ | addControl _ | remove _ | sort _ _
  | removeDisabled => exact iff_of_true (hchange.isNormal hp (by simp [Edit.apply])) not_false

/-! ## histories -/

theorem isNormal_empty : empty.IsNormal := fun _ hs => absurd hs List.not_mem_nil

/-- What new statements do and every patch preserves, all statements do. -/
theorem after_forall_body {motive : Body → Prop}
    (hnew : ∀ {body inside}, IsNewBody body inside → motive body)
    (hpatch : ∀ (patch : Patch) {body}, motive body → motive (patch.applyToBody body))
    (edits : List Edit) : ∀ s ∈ (empty.after edits).statements, motive s.body := by
  refine after_induction (motive := fun p => ∀ s ∈ p.statements, motive s.body)
    (fun s hs => absurd hs List.not_mem_nil) (fun p p' o hp hchange => ?_) edits
  cases hchange with
  | kept _ => exact hp
  | inserted hi hb =>
      intro s hs
      rcases (List.mem_insertIdx hi).1 hs with rfl | hs
      · exact hnew hb
      · exact hp s hs
  | patched hi patch =>
      intro s hs
      obtain ⟨j, hj⟩ := List.getElem?_of_mem hs
      obtain ⟨t, ht, rfl⟩ := Option.map_eq_some_iff.1 ((List.getElem?_modify _ _ _ _).symm.trans hj)
      have htbody := hp t (List.mem_of_getElem? ht)
      split
      · exact hpatch patch htbody
      · exact htbody
  | rearranged hss _ => exact fun s hs => hp s (hss.subset hs)

/-- The body of a declaration is absent or says something, whatever edits were made. -/
theorem isNormal_declaration_after (edits : List Edit) :
    ∀ s ∈ (empty.after edits).statements, ∀ d, s.body = .control (.declaration d) →
      (Control.declaration d).IsNormal := by
  refine after_forall_body (motive := fun b => ∀ d, b = .control (.declaration d) →
    (Control.declaration d).IsNormal) (fun hb d hd => ?_) (fun patch body hbody d hd => ?_) edits
  · have hnormal := hb.isNormal
    rwa [hd] at hnormal
  · obtain ⟨c, rfl⟩ : ∃ c, body = .control c := by cases body <;> simp_all [Patch.applyToBody]
    cases c with
    | declaration d' =>
        have hpatched := patch.isNormal_applyToControl_declaration (hbody d' rfl)
        rwa [Body.control.inj hd] at hpatched
    | ifThen _ | whileDo _ | forDo _ _ _ _ | blockEnd =>
        simp [Patch.applyToBody, Patch.applyToControl] at hd

theorem after_take_succ (edits : List Edit) {i : Nat} (hi : i < edits.length) :
    empty.after (edits.take (i + 1)) = (edits[i].apply (empty.after (edits.take i))).1 := by
  rw [List.take_succ_eq_append_getElem hi, after_concat]

/-- The programs that a history passes through are in normal form if and only if none of its
edits sets the step of a counting loop to a blank text; the bodies of declarations are,
whatever the edits. -/
theorem after_isNormal_iff (edits : List Edit) :
    ((∀ i, (empty.after (edits.take i)).IsNormal) ↔
        ∀ (i : Nat) (hi : i < edits.length),
          ¬ edits[i].BlanksStep (empty.after (edits.take i))) ∧
      ∀ s ∈ (empty.after edits).statements, ∀ d, s.body = .control (.declaration d) →
        (Control.declaration d).IsNormal := by
  refine ⟨⟨fun h i hi => ?_, fun h i => ?_⟩, isNormal_declaration_after edits⟩
  · have hnext := h (i + 1)
    rw [after_take_succ edits hi] at hnext
    exact (isNormal_apply_iff (h i) edits[i]).1 hnext
  · induction i with
    | zero => exact isNormal_empty
    | succ i ih =>
        rcases Nat.lt_or_ge i edits.length with hi | hi
        · rw [after_take_succ edits hi]
          exact (isNormal_apply_iff ih edits[i]).2 (h i hi)
        · rw [List.take_of_length_le hi] at ih
          rwa [List.take_of_length_le (Nat.le_succ_of_le hi)]

/-- A counting loop whose step is typed later, and a declaration whose body is cleared. -/
def tended : List Edit :=
  [.addControl (.forDo "i" "1" "10" " " true), .addControl (.declaration "rest" "" "wait()"),
    .update (.ofNumber 0) { step := some "2" },
    .update (.ofNumber 1) { step := some "", body := some " " }]

/-- The blank step of the last edit is offered to a declaration, which has none. -/
theorem after_isNormal_iff_tended :
    (∀ i, (empty.after (tended.take i)).IsNormal) ∧
      (empty.after tended).statements.map (·.label) =
        ["for i = 1, 10, 2 do", "function rest()"] := by
  have hkept : ∀ (i : Nat) (hi : i < tended.length),
      ¬ tended[i].BlanksStep (empty.after (tended.take i)) := by decide +kernel
  exact ⟨(after_isNormal_iff tended).1.2 hkept, by decide +kernel⟩

/-- A counting loop that is given no step. -/
def unstepped : List Edit :=
  [.addControl (.forDo "i" "1" "10" "" true), .update (.ofNumber 0) { step := some "" }]

/-- The form makes the blank step a one, the patch takes it as it is: in the script, the
head of the loop breaks off behind a comma. -/
theorem not_isNormal_unstepped :
    ¬ (empty.after unstepped).IsNormal ∧
      "  for i = 1, 10,  do".toList ∈
        Text.lines (Script.generate 2 (empty.after unstepped).statements).toList := by
  have hrow : (⟨1, "for i = 1, 10,  do"⟩ : Script.Row) ∈
      Script.layout (empty.after unstepped).statements := by decide +kernel
  have hline : (1, "for i = 1, 10,  do".toList) ∈
      Script.Row.levelled ⟨1, "for i = 1, 10,  do"⟩ := by decide
  refine ⟨fun h => ?_, Script.mem_lines_generate hrow hline 2⟩
  have hloop : (⟨.ofNumber 0, true, true, .control (.forDo "i" "1" "10" ""), none⟩ : Statement) ∈
      (empty.after unstepped).statements := by decide +kernel
  have hstep : Text.isBlankText "" = false := isNormal_forDo_iff.1 (h _ hloop)
  cases hstep

end Program

end ScriptComposer
