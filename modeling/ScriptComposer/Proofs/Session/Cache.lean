import ScriptComposer.Proofs.Program.Change
import ScriptComposer.Proofs.Session.History

/-!
# ScriptComposer.Proofs.Session.Cache

The generated script is not out of date without a cause.

A session tells by the version alone whether its generated script is that of its
program.  Edits count the version up, so as long as there are only edits the
version it was generated from is no later one, and the same one only for the same
statements.  A program that comes from elsewhere can break this, until the script
is generated again.

* `refresh_generated` — after a refresh the generated script is that of the program,
  unless the program was replaced by one of the version last generated from.
-/

namespace ScriptComposer

namespace Session

/-! ## the program and what was generated from it -/

/-- The part of a session that the text edit does not touch. -/
structure Source where
  program : Program
  indent : Nat
  generated : String
  generatedVersion : Nat
  deriving DecidableEq, Repr

/-- The program of a session, and what was generated from it. -/
def source (s : Session) : Source := ⟨s.program, s.indent, s.generated, s.generatedVersion⟩

/-- What was generated is no newer than the program, and of its version only if it is
its script. -/
structure Source.IsTracking (c : Source) : Prop where
  version_le : c.generatedVersion ≤ c.program.version
  generated_eq : c.program.version = c.generatedVersion →
    c.generated = Script.generate c.indent c.program.statements

/-- Is the event about the text or the report alone? -/
def Event.isTextual : Event → Bool
  | .refresh | .edit _ | .replace _ => false
  | .beginEdit | .input .. | .tick _ | .commit | .discard | .teardown => true

/-- An event about the text or the report leaves the program and what was generated from it. -/
theorem source_step_of_isTextual {e : Event} (h : e.isTextual = true) (s : Session) :
    (s.step e).source = s.source := by
  cases e with
  | refresh => simp [Event.isTextual] at h
  | beginEdit =>
      rw [step, beginEdit]
      split <;> rfl
  | input text now => rfl
  | tick now =>
      rw [step, tick]
      split <;> rfl
  | commit =>
      rw [step, commit]
      split <;> rfl
  | discard => rfl
  | teardown => rfl
  | edit e => simp [Event.isTextual] at h
  | replace p => simp [Event.isTextual] at h

/-- Of the source, refreshing does what generating does. -/
theorem source_refresh (s : Session) : s.refresh.source = s.regenerate.source := by
  rw [refresh]
  split <;> rfl

/-- Nothing is generated from a version that was generated from already. -/
theorem regenerate_of_eq {s : Session} (h : s.generatedVersion = s.program.version) :
    s.regenerate = s := if_pos h

/-- From any other version the script is generated anew. -/
theorem source_regenerate_of_ne {s : Session} (h : s.generatedVersion ≠ s.program.version) :
    s.regenerate.source =
      ⟨s.program, s.indent, Script.generate s.indent s.program.statements, s.program.version⟩ := by
  rw [regenerate, if_neg h]
  rfl

/-! ## one event -/

/-- The event replaces the program as a whole. -/
def Replaces (_ : Session) (e : Event) : Prop := ∃ p, e = .replace p

/-- The event generates the script anew. -/
def Regenerates (s : Session) (e : Event) : Prop :=
  e = .refresh ∧ s.generatedVersion ≠ s.program.version

/-- Refreshing keeps the script tracking the program. -/
theorem isTracking_refresh {s : Session} (h : s.source.IsTracking) :
    s.refresh.source.IsTracking := by
  rw [source_refresh]
  by_cases hv : s.generatedVersion = s.program.version
  · rwa [regenerate_of_eq hv]
  · rw [source_regenerate_of_ne hv]
    exact ⟨Nat.le_refl _, fun _ => rfl⟩

/-- An edit either changes nothing or leaves what was generated behind. -/
theorem isTracking_edit {s : Session} (h : s.source.IsTracking) (e : Edit) :
    (s.step (.edit e)).source.IsTracking := by
  obtain ⟨hle, heq⟩ := h
  have hsource : (s.step (.edit e)).source =
      ⟨(e.apply s.program).1, s.indent, s.generated, s.generatedVersion⟩ := rfl
  rw [hsource]
  rcases (e.change s.program).eq_or_version with hp | hv
  · rw [hp]
    exact ⟨hle, heq⟩
  · have hlt : s.generatedVersion < (e.apply s.program).1.version :=
      hv ▸ Nat.lt_succ_of_le hle
    exact ⟨Nat.le_of_lt hlt, fun h => absurd h (Nat.ne_of_gt hlt)⟩

/-- Every event keeps the script tracking the program, but for one that replaces the program. -/
theorem isTracking_step {s : Session} (h : s.source.IsTracking) {e : Event}
    (he : ¬ s.Replaces e) : (s.step e).source.IsTracking := by
  cases ht : e.isTextual with
  | true => rwa [source_step_of_isTextual ht]
  | false =>
      cases e with
      | refresh => exact isTracking_refresh h
      | edit e => exact isTracking_edit h e
      | replace p => exact absurd ⟨p, rfl⟩ he
      | beginEdit | input _ _ | tick _ | commit | discard | teardown => simp [Event.isTextual] at ht

/-- Once the script is generated it tracks the program, whatever came before. -/
theorem isTracking_of_regenerates {s : Session} {e : Event} (h : s.Regenerates e) :
    (s.step e).source.IsTracking := by
  obtain ⟨rfl, hv⟩ := h
  rw [step, source_refresh, source_regenerate_of_ne hv]
  exact ⟨Nat.le_refl _, fun _ => rfl⟩

/-- The indentation of a session never changes. -/
theorem indent_step (s : Session) (e : Event) : (s.step e).indent = s.indent := by
  cases ht : e.isTextual with
  | true => exact congrArg Source.indent (source_step_of_isTextual ht s)
  | false =>
      cases e with
      | refresh =>
          exact (congrArg Source.indent (source_refresh s)).trans (regenerate_indent s)
      | edit e => rfl
      | replace p => rfl
      | beginEdit | input _ _ | tick _ | commit | discard | teardown => simp [Event.isTextual] at ht

/-! ## histories -/

theorem indent_after (s : Session) (events : List Event) : (s.after events).indent = s.indent := by
  induction events generalizing s with
  | nil => rfl
  | cons e events ih => exact (ih (s.step e)).trans (indent_step s e)

/-- The script tracks the program, unless the program was replaced and the script has
not been generated since. -/
theorem isTracking_or_since (p : Program) (indent delay : Nat) (events : List Event) :
    ((start p indent delay).after events).source.IsTracking ∨
      Since Replaces Regenerates (start p indent delay) events := by
  refine after_history_induction (motive := fun s events => s.source.IsTracking ∨
    Since Replaces Regenerates (start p indent delay) events) ?_ ?_ events
  · exact .inl ⟨Nat.le_refl _, fun _ => rfl⟩
  · intro events e ih
    rw [since_concat]
    by_cases hreplace : ((start p indent delay).after events).Replaces e
    · exact .inr (.inl hreplace)
    by_cases hregenerate : ((start p indent delay).after events).Regenerates e
    · exact .inl (isTracking_of_regenerates hregenerate)
    rcases ih with htracking | hsince
    · exact .inl (isTracking_step htracking hreplace)
    · exact .inr (.inr ⟨hsince, hregenerate⟩)

/-- After a refresh the generated script is that of the program, and what is shown
unless the text is being edited; the exception is a program that was put in the place
of another one since the script was last generated, and has the version that it was
generated from. -/
theorem refresh_generated (p : Program) (indent delay : Nat) (events : List Event) :
    let s := (start p indent delay).after events
    (s.refresh.generated = Script.generate indent s.refresh.program.statements ∨
      (Since Replaces Regenerates (start p indent delay) events ∧
        s.program.version = s.generatedVersion)) ∧
    (s.refresh.isEdited = false → s.refresh.script = s.refresh.generated) ∧
    ((∀ q, .replace q ∉ events) →
      s.refresh.generated = Script.generate indent s.refresh.program.statements) := by
  intro s
  have hindent : s.indent = indent := indent_after _ events
  have hgenerated : s.refresh.generated = Script.generate indent s.refresh.program.statements ∨
      (Since Replaces Regenerates (start p indent delay) events ∧
        s.program.version = s.generatedVersion) := by
    have hrefresh := source_refresh s
    by_cases hv : s.generatedVersion = s.program.version
    · rw [regenerate_of_eq hv] at hrefresh
      have hprogram : s.refresh.program = s.program := congrArg Source.program hrefresh
      have hkept : s.refresh.generated = s.generated := congrArg Source.generated hrefresh
      rcases isTracking_or_since p indent delay events with htracking | hsince
      · refine .inl ?_
        rw [hprogram, hkept, ← hindent]
        exact htracking.generated_eq hv.symm
      · exact .inr ⟨hsince, hv.symm⟩
    · rw [source_regenerate_of_ne hv] at hrefresh
      have hprogram : s.refresh.program = s.program := congrArg Source.program hrefresh
      refine .inl ?_
      rw [hprogram, ← hindent]
      exact congrArg Source.generated hrefresh
  refine ⟨hgenerated, script_of_not_edited, fun hnone => hgenerated.resolve_right ?_⟩
  rintro ⟨⟨past, e, rest, rfl, ⟨q, rfl⟩, -⟩, -⟩
  exact hnone q (by simp)

/-- The program is edited before and while the text is, and the text edit is given up. -/
def workday : List Event :=
  [.edit (.addControl (.whileDo "API.Idle()" false)), .beginEdit, .refresh, .input "end" 5,
    .edit (.addControl (.blockEnd false)), .tick 505, .discard]

/-- What is shown at the end is the script of the program. -/
theorem refresh_generated_workday :
    ((start .empty 4 500).after workday).refresh.isEdited = false ∧
      (∀ q, .replace q ∉ workday) ∧
      ((start .empty 4 500).after workday).refresh.script =
        Script.generate 4 ((start .empty 4 500).after workday).refresh.program.statements := by
  have hshown : ((start .empty 4 500).after workday).refresh.isEdited = false := rfl
  have hnone : ∀ q, .replace q ∉ workday := by simp [workday]
  obtain ⟨-, hscript, hgenerated⟩ := refresh_generated .empty 4 500 workday
  exact ⟨hshown, hnone, (hscript hshown).trans (hgenerated hnone)⟩

/-- A program put in the place of another one of its version goes unnoticed. -/
example (ss : List Statement) :
    ((start .empty 2 500).step (.replace (.ofStatements ss))).refresh.generated =
      Script.generate 2 [] := rfl

end Session

end ScriptComposer
