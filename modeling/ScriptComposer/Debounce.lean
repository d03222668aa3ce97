/-!
# ScriptComposer.Debounce

Waiting until input has settled.

A debounce has at most one deadline.  Scheduling replaces it, so of several
inputs in a row only the last one counts, and it fires at most once.  Time is
whatever the caller says it is, and may go backwards.

* `fire_snd_iff` — a debounce fires when there is a deadline that has passed.
-/

namespace ScriptComposer

/-- A delay, and the time at which what was scheduled is due. -/
structure Debounce where
  delay : Nat
  deadline : Option Nat
  deriving DecidableEq, Repr

namespace Debounce

def idle (delay : Nat) : Debounce := ⟨delay, none⟩

def isPending (d : Debounce) : Bool := d.deadline.isSome

/-- Start waiting anew. -/
def schedule (d : Debounce) (now : Nat) : Debounce := { d with deadline := some (now + d.delay) }

def cancel (d : Debounce) : Debounce := { d with deadline := none }

/-- Is the deadline there, and has it passed? -/
def isDue (d : Debounce) (now : Nat) : Bool :=
  match d.deadline with
  | some t => t ≤ now
  | none => false

/-- Fire if the deadline has passed. -/
def fire (d : Debounce) (now : Nat) : Debounce × Bool :=
  if d.isDue now then (d.cancel, true) else (d, false)

/-- A debounce fires when there is a deadline that has passed. -/
theorem fire_snd_iff {d : Debounce} {now : Nat} :
    (d.fire now).2 = true ↔ ∃ t, d.deadline = some t ∧ t ≤ now := by
  unfold fire isDue
  cases d.deadline with
  | none => simp
  | some t => by_cases h : t ≤ now <;> simp [h]

/-! ## histories -/

inductive Event where
  | schedule (now : Nat)
  | cancel
  | fire (now : Nat)
  deriving DecidableEq, Repr

/-- The debounce after an event, and whether it fired. -/
def step (d : Debounce) : Event → Debounce × Bool
  | .schedule now => (d.schedule now, false)
  | .cancel => (d.cancel, false)
  | .fire now => d.fire now

def after (d : Debounce) (events : List Event) : Debounce :=
  events.foldl (fun d e => (d.step e).1) d

end Debounce

end ScriptComposer
