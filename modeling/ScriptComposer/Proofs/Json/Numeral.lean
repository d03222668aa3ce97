import ScriptComposer.Json.Numeral
import ScriptComposer.Proofs.Except

/-!
# ScriptComposer.Proofs.Json.Numeral

How numbers are spelled.

The parts of a number say what they say in one way only, but for the exponent: its letter is
small or capital, and a sign that is not negative may be left out.  Scanning finds the number
that is spelled if the text behind does not go on with it, and whatever is scanned is spelled.

* `scan_append` — a number that is spelled is scanned to its end;
* `scan_eq_ok` — a number that is scanned is spelled by what was taken.
-/

namespace ScriptComposer.Json

namespace Numeral

/-- Digits, at least one. -/
def IsDigits (ds : List Char) : Prop := ds ≠ [] ∧ ∀ c ∈ ds, c.isDigit

/-- The digits before the point: a zero stands alone. -/
def IsWhole (ds : List Char) : Prop := ds = ['0'] ∨ IsDigits ds ∧ ds.head? ≠ some '0'

/-- The point and the digits behind it; without digits there is no point. -/
inductive SpellsFraction : List Char → List Char → Prop
  | absent : SpellsFraction [] []
  | given {ds : List Char} (h : IsDigits ds) : SpellsFraction ds ('.' :: ds)

/-- The sign of an exponent, which may be left out if it is not negative. -/
inductive SpellsSign : Bool → List Char → Prop
  | absent : SpellsSign false []
  | plus : SpellsSign false ['+']
  | minus : SpellsSign true ['-']

/-- The exponent, if there is one. -/
inductive SpellsExponent : Option (Bool × List Char) → List Char → Prop
  | absent : SpellsExponent none []
  | given {c : Char} {negative : Bool} {sign ds : List Char} (hc : c = 'e' ∨ c = 'E')
      (hsign : SpellsSign negative sign) (h : IsDigits ds) :
      SpellsExponent (some (negative, ds)) (c :: (sign ++ ds))

/-- The number without its minus sign. -/
inductive SpellsMagnitude : Numeral → List Char → Prop
  | intro {negative : Bool} {whole fraction : List Char} {exponent : Option (Bool × List Char)}
      {point power : List Char} (hwhole : IsWhole whole) (hfraction : SpellsFraction fraction point)
      (hexponent : SpellsExponent exponent power) :
      SpellsMagnitude ⟨negative, whole, fraction, exponent⟩ (whole ++ (point ++ power))

/-- Can the character go on with a number? -/
def isPart (c : Char) : Bool := c.isDigit || ['+', '-', '.', 'e', 'E'].contains c

/-- The text does not go on with a number. -/
def Unfollowed (s : List Char) : Prop := ∀ c ∈ s.head?, isPart c = false

/-- Digits end where a number is not followed by more of it. -/
theorem Unfollowed.isDigit {s : List Char} (h : Unfollowed s) :
    ∀ c ∈ s.head?, c.isDigit = false := by
  intro c hc
  have hpart := h c hc
  simp only [isPart, Bool.or_eq_false_iff] at hpart
  exact hpart.1

/-- No character that could go on with the number comes next. -/
theorem Unfollowed.ne {s : List Char} (h : Unfollowed s) {d : Char} (hd : isPart d = true) :
    ∀ c ∈ s.head?, c ≠ d := by
  rintro c hc rfl
  rw [h c hc] at hd
  cases hd

/-- Digits begin with a digit. -/
theorem IsDigits.eq_cons {ds : List Char} (h : IsDigits ds) :
    ∃ c ds', ds = c :: ds' ∧ c.isDigit = true := by
  cases ds with
  | nil => exact absurd rfl h.1
  | cons c ds' => exact ⟨c, ds', rfl, h.2 c List.mem_cons_self⟩

/-- A zero that stands alone is a digit too. -/
theorem IsWhole.isDigits {ds : List Char} (h : IsWhole ds) : IsDigits ds := by
  rcases h with rfl | h
  · exact ⟨by simp, by simp⟩
  · exact h.1

/-! ### scanning what is spelled -/

/-- No digits are taken of a text that does not begin with one. -/
theorem takeWhile_isDigit {s : List Char} (h : ∀ c ∈ s.head?, c.isDigit = false) :
    s.takeWhile Char.isDigit = [] ∧ s.dropWhile Char.isDigit = s := by
  cases s with
  | nil => exact ⟨rfl, rfl⟩
  | cons c s => simp [h c (by simp)]

/-- Digits are scanned up to the first character that is none. -/
theorem scanDigits_append {ds rest : List Char} (h : IsDigits ds)
    (hrest : ∀ c ∈ rest.head?, c.isDigit = false) : scanDigits (ds ++ rest) = .ok (ds, rest) := by
  obtain ⟨htake, hdrop⟩ := takeWhile_isDigit hrest
  obtain ⟨c, ds', rfl, -⟩ := h.eq_cons
  rw [scanDigits, List.takeWhile_append_of_pos h.2, List.dropWhile_append_of_pos h.2, htake,
    hdrop, List.append_nil]

/-- The digits before the point are scanned to their end; behind a zero there are none to scan. -/
theorem scanWhole_append {ds rest : List Char} (h : IsWhole ds)
    (hrest : ∀ c ∈ rest.head?, c.isDigit = false) : scanWhole (ds ++ rest) = .ok (ds, rest) := by
  rcases h with rfl | ⟨h, hzero⟩
  · rw [List.singleton_append, scanWhole, (takeWhile_isDigit hrest).1]
  · rw [← scanDigits_append h hrest]
    obtain ⟨c, ds', rfl, -⟩ := h.eq_cons
    rw [scanWhole]
    rintro rest' heq
    exact hzero (congrArg some (List.cons.inj heq).1)

/-- A fraction is scanned with its point, and a missing one is not taken for one that follows. -/
theorem scanFraction_append {ds s rest : List Char} (h : SpellsFraction ds s)
    (hrest : ∀ c ∈ rest.head?, c.isDigit = false) (hpoint : ∀ c ∈ rest.head?, c ≠ '.') :
    scanFraction (s ++ rest) = .ok (ds, rest) := by
  cases h with
  | absent =>
      rw [List.nil_append, scanFraction]
      rintro rest' rfl
      exact hpoint '.' rfl rfl
  | given h => exact scanDigits_append h hrest

/-- A sign in front of digits is told from their first character. -/
theorem scanSign_append {negative : Bool} {sign ds : List Char} (h : SpellsSign negative sign)
    (hds : IsDigits ds) (rest : List Char) :
    scanSign (sign ++ (ds ++ rest)) = (negative, ds ++ rest) := by
  cases h with
  | plus => rfl
  | minus => rfl
  | absent =>
      obtain ⟨c, ds', rfl, hc⟩ := hds.eq_cons
      rw [List.nil_append, scanSign]
      all_goals
        rintro rest' heq
        rw [List.cons_append] at heq
        rw [(List.cons.inj heq).1] at hc
        exact absurd hc (by decide)

/-- An exponent is scanned with its letter and its sign, if they are there. -/
theorem scanExponent_append {exponent : Option (Bool × List Char)} {s rest : List Char}
    (h : SpellsExponent exponent s) (hrest : Unfollowed rest) :
    scanExponent (s ++ rest) = .ok (exponent, rest) := by
  cases h with
  | absent =>
      cases rest with
      | nil => rfl
      | cons c rest =>
          have hc : ¬(c = 'e' ∨ c = 'E') := by
            rintro (rfl | rfl)
            · exact hrest.ne (by decide) _ rfl rfl
            · exact hrest.ne (by decide) _ rfl rfl
          rw [List.nil_append, scanExponent, if_neg hc]
          rfl
  | given hc hsign h =>
      rw [List.cons_append, List.append_assoc, scanExponent, if_pos hc, scanSign_append hsign h]
      show (scanDigits _ >>= fun p => pure (some (_, p.1), p.2)) = _
      rw [scanDigits_append h hrest.isDigit]
      rfl

/-- A number is scanned to its end. -/
theorem scan_append {n : Numeral} {s rest : List Char} (h : n.SpellsMagnitude s)
    (hrest : Unfollowed rest) : scan n.negative (s ++ rest) = .ok (n, rest) := by
  obtain ⟨hwhole, hfraction, hexponent⟩ := h
  rename_i whole fraction exponent point power
  have hpower : ∀ c ∈ (power ++ rest).head?, c.isDigit = false ∧ c ≠ '.' := by
    cases hexponent with
    | absent => exact fun c hc => ⟨hrest.isDigit c hc, hrest.ne (by decide) c hc⟩
    | given hc _ _ =>
        rintro c ⟨⟩
        rcases hc with rfl | rfl <;> decide
  have hpoint : ∀ c ∈ (point ++ (power ++ rest)).head?, c.isDigit = false := by
    cases hfraction with
    | absent => exact fun c hc => (hpower c hc).1
    | given _ =>
        rintro c ⟨⟩
        decide
  rw [scan, List.append_assoc, List.append_assoc, scanWhole_append hwhole hpoint]
  show (scanFraction (point ++ (power ++ rest)) >>= fun p => scanExponent p.2 >>= fun q =>
    pure (Numeral.mk _ whole p.1 q.1, q.2)) = _
  rw [scanFraction_append hfraction (fun c hc => (hpower c hc).1) fun c hc => (hpower c hc).2]
  show (scanExponent (power ++ rest) >>= fun q => pure (Numeral.mk _ whole fraction q.1, q.2)) = _
  rw [scanExponent_append hexponent hrest]
  rfl

/-! ### what is scanned is spelled -/

/-- Whatever is scanned as digits was taken off the text and is at least one digit. -/
theorem scanDigits_eq_ok {s ds rest : List Char} (h : scanDigits s = .ok (ds, rest)) :
    s = ds ++ rest ∧ IsDigits ds := by
  rw [scanDigits] at h
  split at h
  · cases h
  · next hne =>
      obtain ⟨rfl, rfl⟩ := Prod.mk.inj (Except.ok.inj h)
      exact ⟨List.takeWhile_append_dropWhile.symm, hne, List.all_eq_true.1 List.all_takeWhile⟩

/-- What is scanned before the point has no zero in front of other digits. -/
theorem scanWhole_eq_ok {s ds rest : List Char} (h : scanWhole s = .ok (ds, rest)) :
    s = ds ++ rest ∧ IsWhole ds := by
  rw [scanWhole.eq_def] at h
  split at h
  · split at h
    · obtain ⟨rfl, rfl⟩ := Prod.mk.inj (Except.ok.inj h)
      exact ⟨rfl, .inl rfl⟩
    · cases h
  · next hzero =>
      obtain ⟨rfl, hds⟩ := scanDigits_eq_ok h
      refine ⟨rfl, .inr ⟨hds, fun hhead => ?_⟩⟩
      obtain ⟨c, ds', rfl, -⟩ := hds.eq_cons
      obtain rfl := Option.some.inj hhead
      exact hzero _ rfl

/-- What is scanned behind the whole digits spells the fraction that comes of it. -/
theorem scanFraction_eq_ok {s ds rest : List Char} (h : scanFraction s = .ok (ds, rest)) :
    ∃ point, s = point ++ rest ∧ SpellsFraction ds point := by
  rw [scanFraction.eq_def] at h
  split at h
  · obtain ⟨rfl, hds⟩ := scanDigits_eq_ok h
    exact ⟨_, rfl, .given hds⟩
  · obtain ⟨rfl, rfl⟩ := Prod.mk.inj (Except.ok.inj h)
    exact ⟨[], rfl, .absent⟩

/-- Scanning a sign never fails: what was taken spells the sign, perhaps by nothing. -/
theorem scanSign_spells (s : List Char) :
    ∃ sign, s = sign ++ (scanSign s).2 ∧ SpellsSign (scanSign s).1 sign := by
  rw [scanSign.eq_def]
  split
  · exact ⟨_, rfl, .plus⟩
  · exact ⟨_, rfl, .minus⟩
  · exact ⟨[], rfl, .absent⟩

/-- What is scanned at the end spells the exponent that comes of it. -/
theorem scanExponent_eq_ok {s rest : List Char} {exponent : Option (Bool × List Char)}
    (h : scanExponent s = .ok (exponent, rest)) :
    ∃ power, s = power ++ rest ∧ SpellsExponent exponent power := by
  rw [scanExponent.eq_def] at h
  split at h
  · next c s =>
      split at h
      · next hc =>
          obtain ⟨sign, hsign, hspells⟩ := scanSign_spells s
          generalize scanSign s = signed at h hsign hspells
          obtain ⟨⟨ds, rest'⟩, hscan, hok⟩ := bind_eq_ok.1 h
          obtain ⟨rfl, rfl⟩ := Prod.mk.inj (Except.ok.inj hok)
          obtain ⟨htaken, hds⟩ := scanDigits_eq_ok hscan
          rw [htaken] at hsign
          exact ⟨_, by rw [hsign, List.cons_append, List.append_assoc], .given hc hspells hds⟩
      · obtain ⟨rfl, rfl⟩ := Prod.mk.inj (Except.ok.inj h)
        exact ⟨[], rfl, .absent⟩
  · obtain ⟨rfl, rfl⟩ := Prod.mk.inj (Except.ok.inj h)
    exact ⟨[], rfl, .absent⟩

/-- A number that is scanned is spelled by what was taken. -/
theorem scan_eq_ok {negative : Bool} {s rest : List Char} {n : Numeral}
    (h : scan negative s = .ok (n, rest)) :
    n.negative = negative ∧ ∃ taken, s = taken ++ rest ∧ n.SpellsMagnitude taken := by
  obtain ⟨⟨whole, s₁⟩, hwhole, h⟩ := bind_eq_ok.1 h
  obtain ⟨⟨fraction, s₂⟩, hfraction, h⟩ := bind_eq_ok.1 h
  obtain ⟨⟨exponent, s₃⟩, hexponent, h⟩ := bind_eq_ok.1 h
  obtain ⟨rfl, rfl⟩ := Prod.mk.inj (Except.ok.inj h)
  obtain ⟨rfl, hdigits⟩ := scanWhole_eq_ok hwhole
  obtain ⟨point, rfl, hpoint⟩ := scanFraction_eq_ok hfraction
  obtain ⟨power, rfl, hpower⟩ := scanExponent_eq_ok hexponent
  exact ⟨rfl, whole ++ (point ++ power), by simp only [List.append_assoc],
    .intro hdigits hpoint hpower⟩

/-! ### the length -/

/-- Without its minus sign a number begins with a digit, so the sign can be told from it. -/
theorem SpellsMagnitude.eq_cons {n : Numeral} {s : List Char} (h : n.SpellsMagnitude s) :
    ∃ c s', s = c :: s' ∧ c.isDigit = true := by
  obtain ⟨hwhole, -, -⟩ := h
  obtain ⟨c, ds, rfl, hc⟩ := hwhole.isDigits.eq_cons
  exact ⟨c, _, rfl, hc⟩

/-- A number is made of characters that can go on with a number. -/
theorem SpellsMagnitude.isPart {n : Numeral} {s : List Char} (h : n.SpellsMagnitude s) :
    ∀ c ∈ s, isPart c = true := by
  have hdigits : ∀ ds, IsDigits ds → ∀ c ∈ ds, Numeral.isPart c = true := by
    intro ds hds c hc
    simp [Numeral.isPart, hds.2 c hc]
  obtain ⟨hwhole, hfraction, hexponent⟩ := h
  intro c hc
  rcases List.mem_append.1 hc with hc | hc
  · exact hdigits _ hwhole.isDigits c hc
  rcases List.mem_append.1 hc with hc | hc
  · cases hfraction with
    | absent => cases hc
    | given h =>
        rcases List.mem_cons.1 hc with rfl | hc
        · decide
        · exact hdigits _ h c hc
  · cases hexponent with
    | absent => cases hc
    | given hletter hsign h =>
        rcases List.mem_cons.1 hc with rfl | hc
        · rcases hletter with rfl | rfl <;> decide
        rcases List.mem_append.1 hc with hc | hc
        · cases hsign <;> simp at hc <;> subst hc <;> decide
        · exact hdigits _ h c hc

/-- A number takes as many characters as it has. -/
theorem span_append {n : Numeral} {s : List Char} (h : n.SpellsMagnitude s) (rest : List Char) :
    span (s ++ rest) - span rest = s.length := by
  have hspan : span (s ++ rest) = s.length + span rest := by
    show ((s ++ rest).takeWhile isPart).length = _
    rw [List.takeWhile_append_of_pos h.isPart, List.length_append]
    rfl
  omega

end Numeral
end ScriptComposer.Json
