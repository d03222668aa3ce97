/-!
# ScriptComposer.Proofs.Except

Taking apart what succeeds.

Reading JSON and walking through files are steps that can fail.  A run of steps that
succeeds has steps that succeed, and guards that let it through.
-/

namespace ScriptComposer

variable {ε α β : Type}

@[simp] theorem throw_eq_error (e : ε) : (throw e : Except ε α) = .error e := rfl

@[simp] theorem pure_eq_ok (a : α) : (pure a : Except ε α) = .ok a := rfl

/-- Two steps succeed if the first does, and the second with what the first gave. -/
theorem bind_eq_ok {x : Except ε α} {f : α → Except ε β} {b : β} :
    (x >>= f) = .ok b ↔ ∃ a, x = .ok a ∧ f a = .ok b := by
  cases x <;> simp [bind, Except.bind]

/-- A step whose result is changed succeeds if it does. -/
theorem map_eq_ok {x : Except ε α} {f : α → β} {b : β} :
    x.map f = .ok b ↔ ∃ a, x = .ok a ∧ f a = b := by
  cases x <;> simp [Except.map]

theorem fmap_eq_ok {x : Except ε α} {f : α → β} {b : β} :
    f <$> x = .ok b ↔ ∃ a, x = .ok a ∧ f a = b :=
  map_eq_ok

/-- Steps that succeed alike do so as well when their results are changed. -/
theorem fmap_congr {x y : Except ε α} (h : ∀ a, x = .ok a ↔ y = .ok a) (f : α → β) (b : β) :
    f <$> x = .ok b ↔ f <$> y = .ok b := by
  simp only [fmap_eq_ok, h]

/-- A step that fails where another succeeds does so as well when its result is changed. -/
theorem fmap_ne_ok {x y : Except ε α} (h : ∀ {a}, x = .ok a → ∀ a', y ≠ .ok a') {f : α → β} {b : β}
    (hb : f <$> x = .ok b) (b' : β) : f <$> y ≠ .ok b' := by
  intro hb'
  obtain ⟨a, ha, -⟩ := fmap_eq_ok.1 hb
  obtain ⟨a', ha', -⟩ := fmap_eq_ok.1 hb'
  exact h ha a' ha'

/-- A step whose error is changed succeeds if it does. -/
theorem mapError_eq_ok {ε' : Type} {x : Except ε α} {f : ε → ε'} {a : α} :
    x.mapError f = .ok a ↔ x = .ok a := by
  cases x with
  | error e => exact ⟨nofun, nofun⟩
  | ok b =>
      constructor
      all_goals
        rintro ⟨⟩
        rfl

/-- A step that gives nothing only lets the next one through. -/
theorem seq_eq_ok {x : Except ε Unit} {y : Except ε β} {b : β} :
    (x >>= fun _ => y) = .ok b ↔ x = .ok () ∧ y = .ok b := by
  cases x <;> simp [bind, Except.bind]

/-- Steps behind a guard succeed if it lets them through. -/
theorem guard_eq_ok {c : Prop} [Decidable c] {e : ε} {f : α → Except ε β} {x : Except ε β} {b : β} :
    (if c then throw e >>= f else x) = .ok b ↔ ¬ c ∧ x = .ok b := by
  by_cases hc : c
  · simp [hc, bind, Except.bind]
  · simp [hc]

end ScriptComposer
