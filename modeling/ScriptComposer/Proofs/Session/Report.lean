import ScriptComposer.Proofs.Session.History

/-!
# ScriptComposer.Proofs.Session.Report

The report belongs to the script that is shown, up to the debounce.

An event makes the report anew, changes the text and puts the report off, cancels
a report that was put off, or leaves the text, the report and the waiting as they
are.  So the report can be about another text only while it is put off, or after
a report that was put off has been cancelled.

* `report_eq_validate` — the report is that of the script shown, with these two
  exceptions, and once input has settled without any.
-/

namespace ScriptComposer

namespace Session

variable {s : Session}

/-! ## what an event does to the report -/

/-- The event makes the report anew. -/
def Revalidates (s : Session) : Event → Prop
  | .refresh => s.isEdited = false
  | .tick now => s.debounce.isDue now = true
  | .commit | .discard => True
  | .beginEdit | .input .. | .teardown | .edit _ | .replace _ => False

/-- The event gives up a report that was put off. -/
def Cancels (s : Session) (e : Event) : Prop := e = .teardown ∧ s.isPending = true

/-- After the event it does not matter that a report was given up: there is a new one,
or new input whose report is put off. -/
def Supersedes (s : Session) (e : Event) : Prop :=
  (∃ text now, e = .input text now) ∨ s.Revalidates e

/-- What an event does to the report. -/
inductive Effect (s : Session) (e : Event) : Prop
  | revalidated (h : s.Revalidates e)
      (hr : (s.step e).report = Script.validate (s.step e).script)
      (hp : (s.step e).isPending = false)
  | putOff {text now} (h : e = .input text now)
  | cancelled (h : s.Cancels e)
  | kept (hu : ¬ s.Supersedes e) (hs : (s.step e).script = s.script)
      (hr : (s.step e).report = s.report) (hd : (s.step e).debounce = s.debounce)
      (ht : s.isEdited = true → (s.step e).shown = s.shown)

/-- A tick past the deadline settles the session. -/
theorem step_tick_of_isDue {now : Nat} (h : s.debounce.isDue now = true) :
    s.step (.tick now) = s.settle := by
  rw [step, tick, if_pos h, Debounce.fire, if_pos h]
  rfl

/-- Any other tick does nothing at all. -/
theorem step_tick_of_not_isDue {now : Nat} (h : s.debounce.isDue now = false) :
    s.step (.tick now) = s := by
  rw [step, tick, h]
  rfl

/-- Only input and a new report make up for a report that was given up. -/
theorem not_supersedes {e : Event} (hr : ¬ s.Revalidates e) (hi : ∀ text now, e ≠ .input text now) :
    ¬ s.Supersedes e := by
  rintro (⟨text, now, rfl⟩ | h)
  · exact hi text now rfl
  · exact hr h

/-- An event that settles the session makes the report anew. -/
theorem Effect.of_settle {t : Session} {e : Event} (hv : s.Revalidates e)
    (h : s.step e = t.settle) : s.Effect e := by
  refine .revalidated hv ?_ ?_
  · rw [h]
    rfl
  · rw [h]
    rfl

/-- An event that does nothing keeps the report. -/
theorem Effect.of_step_eq {e : Event} (hu : ¬ s.Supersedes e) (h : s.step e = s) :
    s.Effect e :=
  .kept hu (by rw [h]) (by rw [h]) (by rw [h]) fun _ => by rw [h]

/-- Refreshing settles a session whose text is not edited, and else generates behind the text. -/
theorem effect_refresh (s : Session) : s.Effect .refresh := by
  cases he : s.isEdited with
  | false =>
      refine .of_settle (t := s.regenerate) he ?_
      rw [step, refresh, he]
      rfl
  | true =>
      have hstep : s.step .refresh = s.regenerate := by rw [step, refresh, if_pos he]
      have hkept : ¬ s.Supersedes .refresh :=
        not_supersedes (by simp [Revalidates, he]) (by simp)
      have hshown : (s.step .refresh).shown = s.shown := by rw [hstep, regenerate_shown]
      refine .kept hkept (script_eq_of_shown he hshown) ?_ ?_ fun _ => hshown
      · rw [hstep, regenerate_report]
      · rw [hstep, regenerate_debounce]

/-- Beginning an edit shows the same text as before. -/
theorem effect_beginEdit (s : Session) : s.Effect .beginEdit := by
  have hkept : ¬ s.Supersedes .beginEdit := not_supersedes (by simp [Revalidates]) (by simp)
  cases he : s.isEdited with
  | true => exact .of_step_eq hkept (by rw [step, beginEdit, if_pos he])
  | false =>
      have hstep : s.step .beginEdit = { s with shown := .edited s.generated false } := by
        rw [step, beginEdit, he]
        rfl
      refine .kept hkept ?_ ?_ ?_ fun h => ?_
      · rw [hstep, script_of_not_edited he]
        rfl
      · rw [hstep]
      · rw [hstep]
      · simp [he] at h

/-- A tick makes the report that was put off, if it is due. -/
theorem effect_tick (s : Session) (now : Nat) : s.Effect (.tick now) := by
  cases hd : s.debounce.isDue now with
  | true => exact .of_settle hd (step_tick_of_isDue hd)
  | false =>
      have hkept : ¬ s.Supersedes (.tick now) :=
        not_supersedes (by simp [Revalidates, hd]) (by simp)
      exact .of_step_eq hkept (step_tick_of_not_isDue hd)

/-- Committing settles the session, with or without an edit. -/
theorem effect_commit (s : Session) : s.Effect .commit := by
  cases hs : s.shown with
  | generated => exact .of_settle (t := s) trivial (by rw [step, commit, hs])
  | edited text _ =>
      exact .of_settle (t := { s with shown := .edited text true }) trivial (by
        rw [step, commit, hs])

/-- Tearing down gives up a report only if one is put off. -/
theorem effect_teardown (s : Session) : s.Effect .teardown := by
  cases hp : s.isPending with
  | true => exact .cancelled ⟨rfl, hp⟩
  | false =>
      have hnone : s.debounce.deadline = none := by simpa [isPending, Debounce.isPending] using hp
      have hcancel : s.debounce.cancel = s.debounce := by rw [Debounce.cancel, ← hnone]
      refine .of_step_eq (not_supersedes (by simp [Revalidates]) (by simp)) ?_
      rw [step, teardown, hcancel]

/-- What an event can do to the report. -/
theorem effect (s : Session) (e : Event) : s.Effect e := by
  cases e with
  | refresh => exact s.effect_refresh
  | beginEdit => exact s.effect_beginEdit
  | input text now => exact .putOff rfl
  | tick now => exact s.effect_tick now
  | commit => exact s.effect_commit
  | discard => exact .of_settle (t := { s with shown := .generated }) trivial rfl
  | teardown => exact s.effect_teardown
  | edit e =>
      have hkept : ¬ s.Supersedes (.edit e) := not_supersedes (by simp [Revalidates]) (by simp)
      exact .kept hkept rfl rfl rfl fun _ => rfl
  | replace p =>
      have hkept : ¬ s.Supersedes (.replace p) := not_supersedes (by simp [Revalidates]) (by simp)
      exact .kept hkept rfl rfl rfl fun _ => rfl

/-! ## the report in every state -/

/-- Input that is waiting for its report is being edited and is not committed. -/
theorem isEdited_of_isPending (p : Program) (indent delay : Nat) (events : List Event) :
    ((start p indent delay).after events).isPending = true →
      ∃ text, ((start p indent delay).after events).shown = .edited text false := by
  have hstart : (start p indent delay).isPending = true → ∃ text, (start p indent delay).shown =
      .edited text false := fun h => absurd h Bool.false_ne_true
  refine after_history_induction (motive := fun s _ => s.isPending = true →
    ∃ text, s.shown = .edited text false) hstart (fun events e ih h => ?_) events
  generalize (start p indent delay).after events = s at ih h
  cases s.effect e with
  | revalidated _ _ hp => simp [hp] at h
  | @putOff text now he => exact ⟨text, he ▸ rfl⟩
  | cancelled hc =>
      obtain ⟨rfl, -⟩ := hc
      exact absurd h Bool.false_ne_true
  | kept _ _ _ hd ht =>
      obtain ⟨text, hshown⟩ := ih (by rwa [isPending, hd] at h)
      refine ⟨text, ?_⟩
      rw [ht (by rw [isEdited, hshown]), hshown]

/-- The report is that of the script shown, unless it is put off or was given up. -/
theorem report_or_since (p : Program) (indent delay : Nat) (events : List Event) :
    ((start p indent delay).after events).report =
        Script.validate ((start p indent delay).after events).script ∨
      ((start p indent delay).after events).isPending = true ∨
      Since Cancels Supersedes (start p indent delay) events := by
  refine after_history_induction (motive := fun s events => s.report = Script.validate s.script ∨
    s.isPending = true ∨ Since Cancels Supersedes (start p indent delay) events) (.inl rfl)
    (fun events e ih => ?_) events
  rw [since_concat]
  generalize (start p indent delay).after events = s at ih ⊢
  cases s.effect e with
  | revalidated _ hr _ => exact .inl hr
  | putOff he => exact .inr (.inl (he ▸ rfl))
  | cancelled hc => exact .inr (.inr (.inl hc))
  | kept hu hs hr hd _ =>
      rw [hs, hr, isPending, hd]
      rcases ih with hreport | hpending | hsince
      · exact .inl hreport
      · exact .inr (.inl hpending)
      · exact .inr (.inr (.inr ⟨hsince, hu⟩))

/-! ## settled input -/

/-- Does the event leave text that is being edited alone? -/
def Event.isQuiet : Event → Bool
  | .refresh | .beginEdit | .tick _ | .edit _ | .replace _ => true
  | .input .. | .commit | .discard | .teardown => false

/-- The text was typed, and its report is due at a time or has been made. -/
structure HasTyped (s : Session) (text : String) (due : Nat) : Prop where
  shown : s.shown = .edited text false
  report : s.debounce.deadline = some due ∨
    (s.isPending = false ∧ s.report = Script.validate text)

/-- Text that was typed is shown. -/
theorem HasTyped.script {text : String} {due : Nat} (h : s.HasTyped text due) :
    s.script = text := by
  rw [Session.script, h.shown]

/-- The report on new input is due after the delay. -/
theorem hasTyped_input (s : Session) (text : String) (now : Nat) :
    (s.input text now).HasTyped text (now + s.debounce.delay) := ⟨rfl, .inl rfl⟩

/-- A quiet event leaves the text, and the report is still due, or made by then. -/
theorem HasTyped.step {text : String} {due : Nat} (h : s.HasTyped text due) {e : Event}
    (he : e.isQuiet = true) : (s.step e).HasTyped text due := by
  obtain ⟨hshown, hreport⟩ := h
  have hedited : s.isEdited = true := by rw [isEdited, hshown]
  cases s.effect e with
  | revalidated hv hr hp =>
      cases e with
      | tick now =>
          have hkept : (s.step (.tick now)).shown = .edited text false := by
            rw [step_tick_of_isDue hv]
            exact hshown
          refine ⟨hkept, .inr ⟨hp, ?_⟩⟩
          rw [hr, Session.script, hkept]
      | refresh => simp [Revalidates, hedited] at hv
      | beginEdit | edit _ | replace _ => exact absurd hv not_false
      | input _ _ | commit | discard | teardown => simp [Event.isQuiet] at he
  | putOff hi => simp [hi, Event.isQuiet] at he
  | cancelled hc => simp [hc.1, Event.isQuiet] at he
  | kept _ _ hr hd ht =>
      refine ⟨(ht hedited).trans hshown, ?_⟩
      rwa [isPending, hr, hd]

/-- So do any number of quiet events. -/
theorem HasTyped.after {text : String} {due : Nat} (h : s.HasTyped text due) {quiet : List Event}
    (hq : ∀ e ∈ quiet, e.isQuiet = true) : (s.after quiet).HasTyped text due := by
  induction quiet generalizing s with
  | nil => exact h
  | cons e quiet ih =>
      exact ih (h.step (hq e List.mem_cons_self)) fun e he => hq e (List.mem_cons_of_mem _ he)

/-- When the report is due it is there. -/
theorem HasTyped.tick {text : String} {due now : Nat} (h : s.HasTyped text due)
    (hn : due ≤ now) :
    (s.step (.tick now)).isPending = false ∧ (s.step (.tick now)).script = text ∧
      (s.step (.tick now)).report = Script.validate text := by
  have hscript := (h.step (e := .tick now) rfl).script
  cases hd : s.debounce.isDue now with
  | true =>
      have hstep := step_tick_of_isDue hd
      refine ⟨by rw [hstep]; rfl, hscript, ?_⟩
      rw [← hscript, hstep]
      rfl
  | false =>
      rcases h.report with hdue | ⟨hp, hreport⟩
      · simp [Debounce.isDue, hdue, hn] at hd
      · rw [step_tick_of_not_isDue hd] at hscript ⊢
        exact ⟨hp, hscript, hreport⟩

/-- The delay of a session never changes. -/
theorem delay_step (s : Session) (e : Event) : (s.step e).debounce.delay = s.debounce.delay := by
  cases e with
  | refresh =>
      rw [step, refresh]
      split
      · rw [regenerate_debounce]
      · show s.regenerate.debounce.delay = s.debounce.delay
        rw [regenerate_debounce]
  | beginEdit =>
      rw [step, beginEdit]
      split <;> rfl
  | tick now =>
      cases hd : s.debounce.isDue now with
      | true => rw [step_tick_of_isDue hd]; rfl
      | false => rw [step_tick_of_not_isDue hd]
  | commit =>
      rw [step, commit]
      split <;> rfl
  | input _ _ | discard | teardown | edit _ | replace _ => rfl

theorem delay_after (s : Session) (events : List Event) :
    (s.after events).debounce.delay = s.debounce.delay := by
  induction events generalizing s with
  | nil => rfl
  | cons e events ih => exact (ih (s.step e)).trans (delay_step s e)

/-- In every state a report that is put off is on text that is being edited and not
committed; the report is that of the script shown unless it is put off, or a report
that was put off has been given up and nothing has made up for it since; and once the
input has settled, whatever else happened that left the text alone, nothing is put off
and the report is that of the input. -/
theorem report_eq_validate (p : Program) (indent delay : Nat) (events : List Event) :
    let s := (start p indent delay).after events
    (s.isPending = true → s.isEdited = true ∧ s.isCommitted = false) ∧
    (s.report = Script.validate s.script ∨ s.isPending = true ∨
      Since Cancels Supersedes (start p indent delay) events) ∧
    ∀ text t₀ quiet t, (∀ e ∈ quiet, e.isQuiet = true) → t₀ + delay ≤ t →
      let settled := ((s.input text t₀).after quiet).step (.tick t)
      settled.isPending = false ∧ settled.script = text ∧
        settled.report = Script.validate text := by
  intro s
  refine ⟨fun hp => ?_, report_or_since p indent delay events, fun text t₀ quiet t hq ht => ?_⟩
  · obtain ⟨text, hshown⟩ := isEdited_of_isPending p indent delay events hp
    exact ⟨by rw [isEdited, hshown], by rw [isCommitted, hshown]⟩
  · have hdelay : s.debounce.delay = delay := delay_after _ events
    have htyped := hasTyped_input s text t₀
    rw [hdelay] at htyped
    exact (htyped.after hq).tick ht

/-- Input, the report on which would be due at 503. -/
def typing : List Event := [.input "while true do" 3]

/-- What happens after more input at 10: time passes, and the program changes. -/
def meanwhile : List Event :=
  [.tick 505, .edit (.addControl (.blockEnd true)), .refresh, .beginEdit, .tick 7]

/-- The report comes when the input has settled that came last. -/
theorem report_eq_validate_typing :
    ((start .empty 2 500).after typing).isPending = true ∧
      ((start .empty 2 500).after typing).isCommitted = false ∧
      (∀ e ∈ meanwhile, e.isQuiet = true) ∧ 10 + 500 ≤ 510 ∧
      (((((start .empty 2 500).after typing).input "end" 10).after meanwhile).step
        (.tick 510)).report = Script.validate "end" := by
  obtain ⟨hwaiting, -, hsettled⟩ := report_eq_validate .empty 2 500 typing
  have hquiet : ∀ e ∈ meanwhile, e.isQuiet = true := by decide
  have hpending : ((start .empty 2 500).after typing).isPending = true := rfl
  obtain ⟨-, -, hreport⟩ := hsettled "end" 10 meanwhile 510 hquiet (by decide)
  exact ⟨hpending, (hwaiting hpending).2, hquiet, by decide, hreport⟩

end Session

end ScriptComposer
