import Mathlib.Data.List.Induction
import ScriptComposer.Debounce

/-!
# ScriptComposer.Proofs.Session.Deadline

What a debounce answers, told from its whole history.

A debounce keeps a single deadline, and a history may schedule, cancel and ask as often as it
likes, at times in any order.  The deadline always belongs to the last event that had an
effect.  Asking before the deadline has none, so such events can be left out of account,
whereas a fire that succeeds uses its schedule up.

* `deadline_after` — the deadline is the one that the last effective event has set;
* `fired_le_scheduled` — every fire that succeeds is paid for by a schedule;
* `fires_for_latest_schedule` — a debounce fires once, and for the latest schedule only.
-/

namespace ScriptComposer

namespace Debounce

variable {d : Debounce}

/-! ## what one event does -/

/-- An event of a history, and whether the debounce fired at it. -/
structure Answered where
  event : Event
  fired : Bool
  deriving DecidableEq, Repr

/-- Has the event changed what is waited for?  A fire has only if it succeeded. -/
def Answered.isEffective : Answered → Bool
  | ⟨.schedule _, _⟩ => true
  | ⟨.cancel, _⟩ => true
  | ⟨.fire _, fired⟩ => fired

/-- The deadline that an event sets. -/
def Event.deadline? (delay : Nat) : Event → Option Nat
  | .schedule now => some (now + delay)
  | .cancel => none
  | .fire _ => none

/-- Is a new deadline asked for? -/
def Event.isSchedule : Event → Bool
  | .schedule _ => true
  | .cancel => false
  | .fire _ => false

/-- Only a schedule sets a deadline, its delay from then. -/
theorem Event.deadline?_eq_some_iff {delay t : Nat} {e : Event} :
    e.deadline? delay = some t ↔ ∃ s, e = .schedule s ∧ s + delay = t := by
  cases e <;> simp [deadline?]

/-- The delay of a debounce is fixed. -/
@[simp] theorem delay_step (d : Debounce) (e : Event) : (d.step e).1.delay = d.delay := by
  cases e with
  | schedule now => rfl
  | cancel => rfl
  | fire now =>
      simp only [step, fire]
      split <;> rfl

/-- An effective event sets the deadline, any other leaves it alone. -/
theorem deadline_step (d : Debounce) (e : Event) :
    (d.step e).1.deadline =
      if Answered.isEffective ⟨e, (d.step e).2⟩ then e.deadline? d.delay else d.deadline := by
  cases e with
  | schedule now => rfl
  | cancel => rfl
  | fire now =>
      by_cases h : d.isDue now
      · simp [step, fire, h, Answered.isEffective, Event.deadline?, cancel]
      · simp [step, fire, h, Answered.isEffective]

/-- A fire that succeeds takes a pending deadline away, and only a schedule brings one. -/
theorem fired_add_pending_le (d : Debounce) (e : Event) :
    (d.step e).2.toNat + (d.step e).1.isPending.toNat ≤ d.isPending.toNat + e.isSchedule.toNat := by
  cases e with
  | schedule now => simp [step, schedule, isPending, Event.isSchedule]
  | cancel => simp [step, cancel, isPending]
  | fire now =>
      cases h : d.deadline with
      | none => simp [step, fire, isDue, h, isPending]
      | some t => by_cases ht : t ≤ now <;> simp [step, fire, isDue, h, ht, isPending, cancel]

/-! ## histories -/

/-- The events of a history, each with the answer it was given. -/
def log (d : Debounce) : List Event → List Answered
  | [] => []
  | e :: rest => ⟨e, (d.step e).2⟩ :: (d.step e).1.log rest

/-- The last event that had an effect. -/
def latest? (history : List Answered) : Option Event :=
  (history.reverse.find? (·.isEffective)).map (·.event)

@[simp] theorem after_nil (d : Debounce) : d.after [] = d := rfl

@[simp] theorem after_cons (d : Debounce) (e : Event) (rest : List Event) :
    d.after (e :: rest) = (d.step e).1.after rest := rfl

theorem after_append (d : Debounce) (past rest : List Event) :
    d.after (past ++ rest) = (d.after past).after rest := List.foldl_append

/-- A log can be cut anywhere; the rest is the log of the debounce left behind. -/
theorem log_append (d : Debounce) (past rest : List Event) :
    d.log (past ++ rest) = d.log past ++ (d.after past).log rest := by
  induction past generalizing d with
  | nil => rfl
  | cons e past ih => simp [log, ih]

/-- An entry of the log answers for the debounce as the entries before it have left it. -/
theorem log_eq_append {events : List Event} {past rest : List Answered} {a : Answered}
    (h : d.log events = past ++ a :: rest) :
    ∃ before e, past = d.log before ∧ a = ⟨e, ((d.after before).step e).2⟩ := by
  induction events generalizing d past with
  | nil => simp [log] at h
  | cons e events ih =>
      cases past with
      | nil =>
          simp only [log, List.nil_append, List.cons.injEq] at h
          exact ⟨[], e, rfl, h.1.symm⟩
      | cons b past =>
          simp only [log, List.cons_append, List.cons.injEq] at h
          obtain ⟨before, e', hpast, ha⟩ := ih h.2
          exact ⟨e :: before, e', by simp [log, hpast, h.1], ha⟩

/-- A schedule is never taken for a fire. -/
theorem fired_of_schedule {events : List Event} {past rest : List Answered} {s : Nat} {fired : Bool}
    (h : d.log events = past ++ ⟨.schedule s, fired⟩ :: rest) : fired = false := by
  obtain ⟨before, e, -, ha⟩ := log_eq_append h
  obtain ⟨rfl, rfl⟩ := Answered.mk.inj ha
  rfl

/-- One more answer is the latest if it had an effect. -/
theorem latest?_concat (history : List Answered) (a : Answered) :
    latest? (history ++ [a]) = if a.isEffective then some a.event else latest? history := by
  cases h : a.isEffective <;> simp [latest?, h]

/-- What is behind the last effective event had no effect. -/
theorem latest?_eq_some_iff {history : List Answered} {e : Event} :
    latest? history = some e ↔
      ∃ past fired rest, history = past ++ ⟨e, fired⟩ :: rest ∧
        Answered.isEffective ⟨e, fired⟩ = true ∧ ∀ a ∈ rest, a.isEffective = false := by
  constructor
  · intro h
    obtain ⟨a, hfind, rfl⟩ := Option.map_eq_some_iff.1 h
    obtain ⟨ha, rest, past, hsplit, hrest⟩ := List.find?_eq_some_iff_append.1 hfind
    have hhistory : history = past.reverse ++ a :: rest.reverse := by
      rw [← List.reverse_reverse history, hsplit]
      simp
    exact ⟨past.reverse, a.fired, rest.reverse, hhistory, ha,
      fun b hb => by simpa using hrest b (List.mem_reverse.1 hb)⟩
  · rintro ⟨past, fired, rest, rfl, ha, hrest⟩
    have hfind : (past ++ ⟨e, fired⟩ :: rest).reverse.find? (·.isEffective) = some ⟨e, fired⟩ := by
      refine List.find?_eq_some_iff_append.2 ⟨ha, rest.reverse, past.reverse, by simp, ?_⟩
      intro b hb
      simp [hrest b (List.mem_reverse.1 hb)]
    rw [latest?, hfind]
    rfl

theorem delay_after (d : Debounce) (events : List Event) : (d.after events).delay = d.delay := by
  induction events generalizing d with
  | nil => rfl
  | cons e events ih => exact (ih _).trans (delay_step d e)

/-- The deadline is the one that the last effective event has set. -/
theorem deadline_after (delay : Nat) (events : List Event) :
    ((idle delay).after events).deadline =
      (latest? ((idle delay).log events)).bind (·.deadline? delay) := by
  induction events using List.reverseRecOn with
  | nil => rfl
  | append_singleton events e ih =>
      have hdelay : ((idle delay).after events).delay = delay := delay_after _ _
      rw [after_append, log_append, after_cons, after_nil, log, log, latest?_concat,
        deadline_step, hdelay, ih]
      split <;> rfl

/-- A deadline goes back to the schedule that was the last effective event. -/
theorem deadline_after_eq_some_iff {delay t : Nat} {events : List Event} :
    ((idle delay).after events).deadline = some t ↔
      ∃ s, latest? ((idle delay).log events) = some (.schedule s) ∧ s + delay = t := by
  simp only [deadline_after, Option.bind_eq_some_iff, Event.deadline?_eq_some_iff]
  constructor
  · rintro ⟨_, he, s, rfl, ht⟩
    exact ⟨s, he, ht⟩
  · rintro ⟨s, hs, ht⟩
    exact ⟨_, hs, s, rfl, ht⟩

/-- The debounce fires if and only if the last effective event is a schedule from which the
delay has passed. -/
theorem fire_after_iff {delay t : Nat} {events : List Event} :
    (((idle delay).after events).fire t).2 = true ↔
      ∃ s, latest? ((idle delay).log events) = some (.schedule s) ∧ s + delay ≤ t := by
  simp only [fire_snd_iff, deadline_after_eq_some_iff]
  constructor
  · rintro ⟨_, ⟨s, hs, rfl⟩, ht⟩
    exact ⟨s, hs, ht⟩
  · rintro ⟨s, hs, ht⟩
    exact ⟨s + delay, ⟨s, hs, rfl⟩, ht⟩

/-- Something is waited for as long as the last effective event is a schedule. -/
theorem isPending_after_iff {delay : Nat} {events : List Event} :
    ((idle delay).after events).isPending = true ↔
      ∃ s, latest? ((idle delay).log events) = some (.schedule s) := by
  simp only [isPending, Option.isSome_iff_exists, deadline_after_eq_some_iff]
  constructor
  · rintro ⟨_, s, hs, -⟩
    exact ⟨s, hs⟩
  · rintro ⟨s, hs⟩
    exact ⟨s + delay, s, hs, rfl⟩

/-- A fire that succeeded had its schedule in front of it, and nothing between the two had an
effect. -/
theorem exists_schedule_of_fired {delay t : Nat} {events : List Event} {past rest : List Answered}
    (h : (idle delay).log events = past ++ ⟨.fire t, true⟩ :: rest) :
    ∃ earlier s between, past = earlier ++ ⟨.schedule s, false⟩ :: between ∧ s + delay ≤ t ∧
      ∀ a ∈ between, a.isEffective = false := by
  obtain ⟨before, e, rfl, ha⟩ := log_eq_append h
  obtain ⟨rfl, hfired⟩ := Answered.mk.inj ha
  obtain ⟨s, hlatest, hs⟩ := fire_after_iff.1 hfired.symm
  obtain ⟨earlier, fired, between, hbefore, -, hbetween⟩ := latest?_eq_some_iff.1 hlatest
  obtain rfl := fired_of_schedule hbefore
  exact ⟨earlier, s, between, hbefore, hs, hbetween⟩

/-- Between two fires that succeed there is a schedule. -/
theorem exists_schedule_between {delay t t' : Nat} {events : List Event}
    {past between rest : List Answered}
    (h : (idle delay).log events =
      past ++ ⟨.fire t, true⟩ :: between ++ ⟨.fire t', true⟩ :: rest) :
    ∃ s, ⟨.schedule s, false⟩ ∈ between := by
  obtain ⟨earlier, s, idling, hsplit, -, hidling⟩ := exists_schedule_of_fired h
  -- The first fire had an effect, so it is not among the events behind the schedule.
  have hbehind : ⟨.fire t, true⟩ ∉ idling := fun hmem => by
    simpa [Answered.isEffective] using hidling _ hmem
  have hne : (⟨.fire t, true⟩ : Answered) ≠ ⟨.schedule s, false⟩ := by simp
  refine ⟨s, ?_⟩
  rcases List.append_eq_append_iff.1 hsplit with ⟨as, -, has⟩ | ⟨bs, -, hbs⟩
  · cases as with
    | nil => exact absurd (List.cons.inj has).1 hne
    | cons a as => simp [(List.cons.inj has).2]
  · cases bs with
    | nil => exact absurd (List.cons.inj hbs).1.symm hne
    | cons b bs => exact absurd (by simp [(List.cons.inj hbs).2]) hbehind

/-- Every fire that succeeds is paid for by a schedule; the one that is pending is left over. -/
theorem fired_le_scheduled (d : Debounce) (events : List Event) :
    (d.log events).countP (·.fired) + (d.after events).isPending.toNat ≤
      d.isPending.toNat + events.countP (·.isSchedule) := by
  induction events generalizing d with
  | nil => simp [log]
  | cons e events ih =>
      have hstep := fired_add_pending_le d e
      have hrest := ih (d.step e).1
      simp only [log, after_cons, List.countP_cons]
      cases h : (d.step e).2 <;> cases hs : e.isSchedule <;> simp [h, hs] at hstep ⊢ <;> omega

/-- For every delay and every history of schedules, cancels and attempts to fire, from a
debounce with nothing scheduled and at times in any order:

* an attempt to fire next succeeds if and only if the last event that had an effect, which is a
  schedule, a cancel or a fire that succeeded, exists and is a schedule from which at least the
  delay has passed;
* something is pending if and only if that event is a schedule;
* so a fire that succeeds has its schedule in front of it, at least the delay ago, and between
  the two nothing was scheduled or cancelled and nothing fired;
* between two fires that succeed there is a schedule;
* and there are no more fires that succeed than schedules. -/
theorem fires_for_latest_schedule (delay : Nat) (events : List Event) :
    (∀ t, (((idle delay).after events).fire t).2 = true ↔
      ∃ s, latest? ((idle delay).log events) = some (.schedule s) ∧ s + delay ≤ t) ∧
    (((idle delay).after events).isPending = true ↔
      ∃ s, latest? ((idle delay).log events) = some (.schedule s)) ∧
    (∀ past t rest, (idle delay).log events = past ++ ⟨.fire t, true⟩ :: rest →
      ∃ earlier s between, past = earlier ++ ⟨.schedule s, false⟩ :: between ∧ s + delay ≤ t ∧
        ∀ a ∈ between, a.isEffective = false) ∧
    (∀ past t between t' rest, (idle delay).log events =
        past ++ ⟨.fire t, true⟩ :: between ++ ⟨.fire t', true⟩ :: rest →
      ∃ s, ⟨.schedule s, false⟩ ∈ between) ∧
    ((idle delay).log events).countP (·.fired) ≤ events.countP (·.isSchedule) := by
  refine ⟨fun t => fire_after_iff, isPending_after_iff, ?_, ?_, ?_⟩
  · intro past t rest h
    exact exists_schedule_of_fired h
  · intro past t between t' rest h
    exact exists_schedule_between h
  · have hcount := fired_le_scheduled (idle delay) events
    have hidle : (idle delay).isPending = false := rfl
    simp only [hidle, Bool.toNat_false] at hcount
    omega

/-- The second schedule replaces the first one, although its time is earlier, and is used up by
the first fire that is late enough. -/
example : ((idle 5).log [.schedule 7, .schedule 3, .fire 7, .fire 8, .fire 20]).map (·.fired) =
    [false, false, false, true, false] := rfl

end Debounce

end ScriptComposer
