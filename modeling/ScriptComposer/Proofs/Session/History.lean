import Mathlib.Data.List.Induction
import ScriptComposer.Session

/-!
# ScriptComposer.Proofs.Session.History

Histories of a session, read from their end.

What a session is after a history often depends on what came last of two kinds of
event: something was done, and something else that undoes it has not come since.

* `since_concat` — how one more event decides it;
* `after_history_induction` — what holds at the start and survives every event holds
  after every history.
-/

namespace ScriptComposer

namespace Session

variable {s : Session}

/-- A history ends with its last event. -/
theorem after_concat (s : Session) (events : List Event) (e : Event) :
    s.after (events ++ [e]) = (s.after events).step e := by
  rw [after, List.foldl_append]
  rfl

/-- What holds at the start and survives every event holds after every history. -/
theorem after_history_induction {motive : Session → List Event → Prop} (hs : motive s [])
    (hstep : ∀ events e, motive (s.after events) events →
      motive ((s.after events).step e) (events ++ [e])) (events : List Event) :
    motive (s.after events) events := by
  induction events using List.reverseRecOn with
  | nil => exact hs
  | append_singleton events e ih =>
      rw [after_concat]
      exact hstep events e ih

/-! ## since -/

/-- In a history something has `happened`, and nothing has undone it since.  Both are
told from an event and the session that it met. -/
def Since (happened undone : Session → Event → Prop) (s : Session) (events : List Event) : Prop :=
  ∃ past e rest, events = past ++ e :: rest ∧ happened (s.after past) e ∧
    ∀ between e' later, rest = between ++ e' :: later →
      ¬ undone (s.after (past ++ e :: between)) e'

variable {happened undone : Session → Event → Prop}

/-- The last event has done it, or it was done before and the last event has not undone
it. -/
theorem since_concat {events : List Event} {e : Event} :
    Since happened undone s (events ++ [e]) ↔
      happened (s.after events) e ∨
        (Since happened undone s events ∧ ¬ undone (s.after events) e) := by
  constructor
  · rintro ⟨past, e₀, rest, h, hdone, hrest⟩
    rcases List.eq_nil_or_concat rest with rfl | ⟨rest, e', rfl⟩
    · obtain ⟨rfl, he⟩ := List.append_inj' h rfl
      obtain rfl : e = e₀ := by simpa using he
      exact .inl hdone
    · rw [List.concat_eq_append, ← List.cons_append, ← List.append_assoc] at h
      obtain ⟨rfl, he⟩ := List.append_inj' h rfl
      obtain rfl : e = e' := by simpa using he
      refine .inr ⟨⟨past, e₀, rest, rfl, hdone, fun between e' later hb => ?_⟩, ?_⟩
      · exact hrest between e' (later ++ [e]) (by simp [hb])
      · exact hrest rest e [] (by simp)
  · rintro (hdone | ⟨⟨past, e₀, rest, rfl, hdone, hrest⟩, hkept⟩)
    · exact ⟨events, e, [], rfl, hdone, fun between e' later h => by
        cases between <;> simp at h⟩
    · refine ⟨past, e₀, rest ++ [e], by simp, hdone, fun between e' later h => ?_⟩
      rcases List.eq_nil_or_concat later with rfl | ⟨later, e'', rfl⟩
      · obtain ⟨rfl, he⟩ := List.append_inj' h rfl
        obtain rfl : e = e' := by simpa using he
        exact hkept
      · rw [List.concat_eq_append, ← List.cons_append, ← List.append_assoc] at h
        obtain ⟨rfl, -⟩ := List.append_inj' h rfl
        exact hrest between e' later rfl

/-! ## what is shown -/

/-- Without an edit the generated script is shown. -/
theorem script_of_not_edited (h : s.isEdited = false) : s.script = s.generated := by
  cases hs : s.shown with
  | generated => rw [script, hs]
  | edited text committed => simp [isEdited, hs] at h

/-- The user's text is shown whatever else happens to the session. -/
theorem script_eq_of_shown {t : Session} (h : s.isEdited = true) (ht : t.shown = s.shown) :
    t.script = s.script := by
  cases hs : s.shown with
  | generated => simp [isEdited, hs] at h
  | edited text committed => rw [script, script, ht, hs]

/-! ## generating -/

@[simp] theorem regenerate_indent (s : Session) : s.regenerate.indent = s.indent := by
  rw [regenerate]
  split <;> rfl

@[simp] theorem regenerate_debounce (s : Session) : s.regenerate.debounce = s.debounce := by
  rw [regenerate]
  split <;> rfl

@[simp] theorem regenerate_shown (s : Session) : s.regenerate.shown = s.shown := by
  rw [regenerate]
  split <;> rfl

@[simp] theorem regenerate_report (s : Session) : s.regenerate.report = s.report := by
  rw [regenerate]
  split <;> rfl

end Session

end ScriptComposer
