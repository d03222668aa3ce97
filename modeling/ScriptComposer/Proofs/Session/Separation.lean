import ScriptComposer.Proofs.Session.Cache
import ScriptComposer.Proofs.Session.Report

/-!
# ScriptComposer.Proofs.Session.Separation

Editing the text and editing the program do not get in each other's way.

A session has two parts.  The desk holds the text, its report and the wait for a new
report; the source holds the program and what was generated from it.  While the text is
edited nothing that happens to the program reaches the desk, and nothing that happens to
the text ever reaches the source.  So when the edit is given up, the session is the one
in which the text was never touched.

* `desk_after` — the desk, while the program is edited;
* `source_after_programOnly` — the source, with all that happened to the text left out;
* `after_programOnly` — what an observer of either part can see.
-/

namespace ScriptComposer

namespace Session

variable {s t : Session}

/-! ## the desk -/

/-- The part of a session in which the text is edited. -/
structure Desk where
  shown : ShownText
  debounce : Debounce
  report : Script.Report
  deriving DecidableEq, Repr

/-- The text of a session, its report, and the wait for a new one. -/
def desk (s : Session) : Desk := ⟨s.shown, s.debounce, s.report⟩

/-- Whether the text is edited is told from the desk. -/
theorem isEdited_of_desk (h : s.desk = t.desk) : s.isEdited = t.isEdited := by
  have hshown : s.shown = t.shown := congrArg Desk.shown h
  rw [isEdited, isEdited, hshown]

/-- An event about the program does not reach the desk while the text is edited. -/
theorem desk_step (hs : s.isEdited = true) {e : Event} (he : e.isTextual = false) :
    (s.step e).desk = s.desk := by
  cases e with
  | refresh => simp [step, refresh, hs, desk]
  | edit e => rfl
  | replace p => rfl
  | beginEdit | input _ _ | tick _ | commit | discard | teardown => simp [Event.isTextual] at he

/-- Nothing that happens to the program reaches the desk while the text is edited. -/
theorem desk_after (hs : s.isEdited = true) {events : List Event}
    (he : ∀ e ∈ events, e.isTextual = false) : (s.after events).desk = s.desk := by
  induction events generalizing s with
  | nil => rfl
  | cons e events ih =>
      have hstep : (s.step e).desk = s.desk := desk_step hs (he e List.mem_cons_self)
      have hedited : (s.step e).isEdited = true := (isEdited_of_desk hstep).trans hs
      exact (ih hedited fun e' he' => he e' (List.mem_cons_of_mem _ he')).trans hstep

/-! ## the source -/

/-- The events of a history that are about the program. -/
def programOnly (events : List Event) : List Event := events.filter fun e => !e.isTextual

/-- What is generated depends on the source alone. -/
theorem source_regenerate_congr (h : s.source = t.source) :
    s.regenerate.source = t.regenerate.source := by
  obtain ⟨hprogram, hindent, -, hversion⟩ := Source.mk.inj h
  by_cases hv : s.generatedVersion = s.program.version
  · rw [regenerate_of_eq hv, regenerate_of_eq (hprogram ▸ hversion ▸ hv), h]
  · rw [source_regenerate_of_ne hv, source_regenerate_of_ne (hprogram ▸ hversion ▸ hv), hprogram,
      hindent]

/-- What an event makes of the source does not depend on the desk. -/
theorem source_step_congr (h : s.source = t.source) (e : Event) :
    (s.step e).source = (t.step e).source := by
  cases ht : e.isTextual with
  | true => rw [source_step_of_isTextual ht, source_step_of_isTextual ht, h]
  | false =>
      obtain ⟨hprogram, hindent, hgenerated, hversion⟩ := Source.mk.inj h
      cases e with
      | refresh =>
          rw [step, step, source_refresh, source_refresh]
          exact source_regenerate_congr h
      | edit e => simp [step, edit, source, hprogram, hindent, hgenerated, hversion]
      | replace p => simp [step, replaceProgram, source, hindent, hgenerated, hversion]
      | beginEdit | input _ _ | tick _ | commit | discard | teardown => simp [Event.isTextual] at ht

/-- Leaving out what happened to the text leaves the source as it is. -/
theorem source_after_programOnly (h : s.source = t.source) (events : List Event) :
    (s.after events).source = (t.after (programOnly events)).source := by
  induction events generalizing s t with
  | nil => exact h
  | cons e events ih =>
      cases ht : e.isTextual with
      | true =>
          rw [programOnly, List.filter_cons_of_neg (by simp [ht])]
          exact ih ((source_step_of_isTextual ht s).trans h)
      | false =>
          rw [programOnly, List.filter_cons_of_pos (by simp [ht])]
          exact ih (source_step_congr h e)

/-! ## a desk at rest -/

/-- Nobody edits the text: the generated script is shown, with its report, and nothing is
waited for. -/
def IsAtRest (s : Session) : Prop :=
  s.desk = ⟨.generated, .idle s.debounce.delay, Script.validate s.generated⟩

/-- A desk at rest stays so when something happens to the program. -/
theorem IsAtRest.step (h : s.IsAtRest) {e : Event} (he : e.isTextual = false) :
    (s.step e).IsAtRest := by
  obtain ⟨hshown, hdebounce, hreport⟩ := Desk.mk.inj h
  cases e with
  | refresh =>
      have hedited : s.isEdited = false := by rw [isEdited, hshown]
      simp [Session.step, refresh, hedited, IsAtRest, desk, settle, revalidate, script, hshown,
        Debounce.cancel, Debounce.idle]
  | edit e => exact h
  | replace p => exact h
  | beginEdit | input _ _ | tick _ | commit | discard | teardown => simp [Event.isTextual] at he

/-- So it does through any number of such events. -/
theorem IsAtRest.after (h : s.IsAtRest) {events : List Event}
    (he : ∀ e ∈ events, e.isTextual = false) : (s.after events).IsAtRest := by
  induction events generalizing s with
  | nil => exact h
  | cons e events ih =>
      exact ih (h.step (he e List.mem_cons_self)) fun e' he' => he e' (List.mem_cons_of_mem _ he')

theorem isAtRest_start (p : Program) (indent delay : Nat) : (start p indent delay).IsAtRest := rfl

theorem isAtRest_discard (s : Session) : (s.step .discard).IsAtRest := rfl

/-- Sessions at rest do not differ but in their sources. -/
theorem IsAtRest.eq (hs : s.IsAtRest) (ht : t.IsAtRest) (h : s.source = t.source)
    (hdelay : s.debounce.delay = t.debounce.delay) : s = t := by
  obtain ⟨hprogram, hindent, hgenerated, hversion⟩ := Source.mk.inj h
  have hdesk : s.desk = t.desk := by rw [hs, ht, hdelay, hgenerated]
  obtain ⟨hshown, hdebounce, hreport⟩ := Desk.mk.inj hdesk
  cases s
  cases t
  simp_all

/-! ## two histories -/

theorem isTextual_of_mem_programOnly {events : List Event} :
    ∀ e ∈ programOnly events, e.isTextual = false := by
  intro e he
  simpa using (List.mem_filter.1 he).2

/-- In every state in which the text is edited, whatever happens to the program leaves the
text, its report and the waiting as they are.  What happens to the text leaves the program,
its script and the version of that script as if it had not happened; and a history that ends
with the text edit being given up ends in the session in which there was none. -/
theorem after_programOnly (p : Program) (indent delay : Nat) (events : List Event) :
    let s := (start p indent delay).after events
    let untouched := (start p indent delay).after (programOnly events)
    (s.isEdited = true → ∀ more, (∀ e ∈ more, e.isTextual = false) →
      (s.after more).script = s.script ∧ (s.after more).report = s.report ∧
        (s.after more).isEdited = true ∧ (s.after more).isCommitted = s.isCommitted ∧
        (s.after more).isPending = s.isPending) ∧
    (s.program = untouched.program ∧ s.generated = untouched.generated ∧
      s.generatedVersion = untouched.generatedVersion) ∧
    (events.getLast? = some .discard → s = untouched) := by
  intro s untouched
  have hsource : s.source = untouched.source := source_after_programOnly rfl events
  obtain ⟨hprogram, -, hgenerated, hversion⟩ := Source.mk.inj hsource
  refine ⟨fun hedited more hmore => ?_, ⟨hprogram, hgenerated, hversion⟩, fun hlast => ?_⟩
  · have hdesk := desk_after hedited hmore
    obtain ⟨hshown, hdebounce, hreport⟩ := Desk.mk.inj hdesk
    refine ⟨script_eq_of_shown hedited hshown, hreport, (isEdited_of_desk hdesk).trans hedited,
      ?_, ?_⟩
    · rw [isCommitted, isCommitted, hshown]
    · rw [isPending, isPending, hdebounce]
  · obtain ⟨past, rfl⟩ : ∃ past, events = past ++ [.discard] :=
      List.getLast?_eq_some_iff.1 hlast
    have hrest : s.IsAtRest := by
      have hdiscard := isAtRest_discard ((start p indent delay).after past)
      rwa [← after_concat] at hdiscard
    have huntouched : untouched.IsAtRest :=
      (isAtRest_start p indent delay).after isTextual_of_mem_programOnly
    have hdelay : s.debounce.delay = untouched.debounce.delay :=
      (delay_after _ _).trans (delay_after _ _).symm
    exact hrest.eq huntouched hsource hdelay

/-- The program is edited and the script brought up to date while the text is typed,
committed and typed again. -/
def sideBySide : List Event :=
  [.edit (.addControl (.ifThen "ready" true)), .input "end" 3, .refresh, .tick 600, .commit,
    .edit (.addControl (.blockEnd true)), .refresh, .input "while" 700]

/-- What happens to the program in the meantime: a change, a program from elsewhere. -/
def elsewhere : List Event :=
  [.edit (.remove (.ofNumber 0)), .refresh, .replace .empty, .refresh]

/-- The input that is waiting keeps waiting; and once the text edit is given up, the session
is the one that never had it. -/
theorem after_programOnly_sideBySide :
    ((start .empty 2 500).after sideBySide).isEdited = true ∧
      (∀ e ∈ elsewhere, e.isTextual = false) ∧
      (((start .empty 2 500).after sideBySide).after elsewhere).script = "while" ∧
      (((start .empty 2 500).after sideBySide).after elsewhere).isPending = true ∧
      (sideBySide ++ [Event.discard]).getLast? = some .discard ∧
      (start .empty 2 500).after (sideBySide ++ [.discard]) =
        (start .empty 2 500).after
          [.edit (.addControl (.ifThen "ready" true)), .refresh,
            .edit (.addControl (.blockEnd true)), .refresh] := by
  have hedited : ((start .empty 2 500).after sideBySide).isEdited = true := rfl
  have hmore : ∀ e ∈ elsewhere, e.isTextual = false := by decide
  have hlast : (sideBySide ++ [Event.discard]).getLast? = some .discard := rfl
  obtain ⟨hkept, -⟩ := after_programOnly .empty 2 500 sideBySide
  obtain ⟨hscript, -, -, -, hpending⟩ := hkept hedited elsewhere hmore
  obtain ⟨-, -, hdiscarded⟩ := after_programOnly .empty 2 500 (sideBySide ++ [.discard])
  exact ⟨hedited, hmore, hscript, hpending, hlast, hdiscarded hlast⟩

end Session

end ScriptComposer
