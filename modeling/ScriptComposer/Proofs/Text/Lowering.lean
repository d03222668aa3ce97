import Mathlib.Data.List.Infix
import ScriptComposer.Text.Blank
import ScriptComposer.Text.Case

/-!
# ScriptComposer.Proofs.Text.Lowering

Lowering a text, and lowering a part of it.

A text is lowered character by character, and the capital sigma alone looks around itself: it
asks whether a cased letter comes before it and whether one follows, the ignorable characters
being passed over.  A part of a text is therefore lowered as it is alone, unless a sigma gets
another answer from what stands outside of the part.  This happens only to a sigma with
nothing that counts between it and an edge of the part.

* `lowercase_infix` — where no sigma turns, the lowered part is a part of the lowered text;
* `HasLooseSigma.exists_not_infix` — and where one can turn, it does so in some text.
-/

namespace ScriptComposer.Text

variable {s t before after : List Char}

/-! ## the neighbours of a sigma -/

/-- Are all characters passed over when the neighbour of a sigma is looked for? -/
def isIgnorable (s : List Char) : Bool := s.all caseIgnorableClass.has

/-- No letter is met among characters that are passed over. -/
theorem meetsCased_of_isIgnorable (h : isIgnorable s = true) : meetsCased s = false := by
  rw [meetsCased, dropWhile_eq_nil_iff.2 h]

/-- What stands farther off is asked only if everything in front of it is ignorable. -/
theorem meetsCased_append (s t : List Char) :
    meetsCased (s ++ t) = if isIgnorable s then meetsCased t else meetsCased s := by
  induction s with
  | nil => rfl
  | cons c s ih =>
      cases hc : caseIgnorableClass.has c with
      | true => simpa [meetsCased, isIgnorable, hc] using ih
      | false => simp [meetsCased, isIgnorable, hc]

/-- Whether all are passed over is the same from both sides. -/
theorem isIgnorable_reverse (s : List Char) : isIgnorable s.reverse = isIgnorable s :=
  List.all_reverse

theorem sigma_not_ignorable : caseIgnorableClass.has 'Σ' = false := by decide +kernel

/-- A sigma hides what is behind it. -/
theorem meetsCased_append_sigma (s t t' : List Char) :
    meetsCased (s ++ 'Σ' :: t) = meetsCased (s ++ 'Σ' :: t') := by
  rw [meetsCased_append, meetsCased_append]
  split
  · simp [meetsCased, sigma_not_ignorable]
  · rfl

/-- A sigma is a letter, so it is not passed over. -/
theorem sigma_not_mem_of_isIgnorable (h : isIgnorable s = true) : 'Σ' ∉ s := by
  intro hmem
  have hsigma := List.all_eq_true.1 h _ hmem
  rw [sigma_not_ignorable] at hsigma
  cases hsigma

/-! ## lowering in the middle of a text -/

/-- The text in lower case between `before`, nearest character first, and `after`. -/
def lowerAmid (before : List Char) : List Char → List Char → List Char
  | [], _ => []
  | c :: rest, after =>
      (if c = 'Σ' then [lowerSigma before (rest ++ after)] else lowerChar c) ++
        lowerAmid (c :: before) rest after

/-- With nothing behind it a text is lowered to its end. -/
theorem lowerAmid_nil_right (before s : List Char) :
    lowerAmid before s [] = lowerFrom before s := by
  induction s generalizing before with
  | nil => rfl
  | cons c s ih => simp [lowerAmid, lowerFrom, ih]

/-- A text is lowered part by part, each amid the others. -/
theorem lowerAmid_append (before s t after : List Char) :
    lowerAmid before (s ++ t) after =
      lowerAmid before s (t ++ after) ++ lowerAmid (s.reverse ++ before) t after := by
  induction s generalizing before with
  | nil => rfl
  | cons c s ih => simp [lowerAmid, ih]

theorem lowerAmid_sigma (before s after : List Char) :
    lowerAmid before ('Σ' :: s) after =
      lowerSigma before (s ++ after) :: lowerAmid ('Σ' :: before) s after := by
  simp [lowerAmid]

/-- A text in lower case, cut at a sigma. -/
theorem lowerAmid_append_sigma (before s t after : List Char) :
    lowerAmid before (s ++ 'Σ' :: t) after =
      lowerAmid before s ('Σ' :: (t ++ after)) ++
        lowerSigma (s.reverse ++ before) (t ++ after) ::
          lowerAmid ('Σ' :: (s.reverse ++ before)) t after := by
  rw [lowerAmid_append, lowerAmid_sigma]
  rfl

/-- A whole text has nothing around it. -/
theorem lowercase_eq_lowerAmid (s : List Char) : lowercase s = lowerAmid [] s [] :=
  (lowerAmid_nil_right [] s).symm

/-- A text in lower case, cut into three. -/
theorem lowercase_append_append (before s after : List Char) :
    lowercase (before ++ s ++ after) =
      lowerAmid [] before (s ++ after) ++ lowerAmid before.reverse s after ++
        lowerAmid (s.reverse ++ before.reverse) after [] := by
  rw [lowercase_eq_lowerAmid, lowerAmid_append, lowerAmid_append]
  simp

/-- What stands around a text plays no part in its lowering if no sigma of it is lowered in
another way. -/
theorem lowerAmid_congr {before before' after after' : List Char}
    (h : ∀ s₁ s₂, s = s₁ ++ 'Σ' :: s₂ →
      lowerSigma (s₁.reverse ++ before) (s₂ ++ after) =
        lowerSigma (s₁.reverse ++ before') (s₂ ++ after')) :
    lowerAmid before s after = lowerAmid before' s after' := by
  induction s generalizing before before' with
  | nil => rfl
  | cons c s ih =>
      have hrest : lowerAmid (c :: before) s after = lowerAmid (c :: before') s after' := by
        refine ih fun s₁ s₂ hs => ?_
        simpa using h (c :: s₁) s₂ (by rw [hs]; rfl)
      rw [lowerAmid, lowerAmid, hrest]
      split
      · next hc =>
          have hsigma : lowerSigma before (s ++ after) = lowerSigma before' (s ++ after') :=
            h [] s (by rw [hc]; rfl)
          rw [hsigma]
      · rfl

/-- Ignorable characters are lowered alike everywhere. -/
theorem lowerAmid_of_isIgnorable (h : isIgnorable s = true)
    (before before' after after' : List Char) :
    lowerAmid before s after = lowerAmid before' s after' := by
  refine lowerAmid_congr fun s₁ s₂ hs => ?_
  have hmem : 'Σ' ∈ s := by simp [hs]
  exact absurd hmem (sigma_not_mem_of_isIgnorable h)

/-- In front of a sigma, what is behind it plays no part. -/
theorem lowerAmid_before_sigma (before s t t' : List Char) :
    lowerAmid before s ('Σ' :: t) = lowerAmid before s ('Σ' :: t') :=
  lowerAmid_congr fun s₁ s₂ _ => by rw [lowerSigma, lowerSigma, meetsCased_append_sigma s₂ t t']

/-- Behind a sigma, what is in front of it plays no part. -/
theorem lowerAmid_behind_sigma (s t t' after : List Char) :
    lowerAmid ('Σ' :: t) s after = lowerAmid ('Σ' :: t') s after :=
  lowerAmid_congr fun s₁ s₂ _ => by
    rw [lowerSigma, lowerSigma, meetsCased_append_sigma s₁.reverse t t']

/-! ## sigmas that turn -/

/-- Put between `before` and `after`, the sigma between `s₁` and `s₂` turns.  Either no letter
of `s₁` is next before it, one of `before` is, and none is next behind it; or a letter of `s₁`
is next before it, and one of `after` is next behind it. -/
def TurnsAt (before s₁ s₂ after : List Char) : Prop :=
  (isIgnorable s₁ = true ∧ meetsCased before.reverse = true ∧ meetsCased (s₂ ++ after) = false) ∨
    (meetsCased s₁.reverse = true ∧ isIgnorable s₂ = true ∧ meetsCased after = true)

/-- A sigma turns if it is lowered in another way than without `before` and `after`. -/
theorem turnsAt_iff {s₁ s₂ : List Char} :
    TurnsAt before s₁ s₂ after ↔
      lowerSigma (s₁.reverse ++ before.reverse) (s₂ ++ after) ≠ lowerSigma s₁.reverse s₂ := by
  rw [TurnsAt, lowerSigma, lowerSigma, meetsCased_append s₁.reverse, isIgnorable_reverse]
  cases hfront : isIgnorable s₁ with
  | true =>
      have hnone : meetsCased s₁.reverse = false :=
        meetsCased_of_isIgnorable ((isIgnorable_reverse s₁).trans hfront)
      cases meetsCased before.reverse <;> cases meetsCased (s₂ ++ after) <;> simp [hnone]
  | false =>
      rw [meetsCased_append s₂]
      cases hbehind : isIgnorable s₂ with
      | true =>
          have hnone : meetsCased s₂ = false := meetsCased_of_isIgnorable hbehind
          cases meetsCased s₁.reverse <;> cases meetsCased after <;> simp [hnone]
      | false => simp

/-- A sigma of `s` turns between `before` and `after`. -/
def SigmaTurns (before s after : List Char) : Prop :=
  ∃ s₁ s₂, s = s₁ ++ 'Σ' :: s₂ ∧ TurnsAt before s₁ s₂ after

/-- A sigma of `s` can turn.  Either nothing that counts is in front of it in `s` and no cased
letter behind it, so that a letter in front of `s` makes it the last one of a word; or it is
the last one of a word and nothing that counts is behind it in `s`, so that a letter behind `s`
makes it one in the middle. -/
def HasLooseSigma (s : List Char) : Prop :=
  ∃ s₁ s₂, s = s₁ ++ 'Σ' :: s₂ ∧
    ((isIgnorable s₁ = true ∧ meetsCased s₂ = false) ∨
      (meetsCased s₁.reverse = true ∧ isIgnorable s₂ = true))

/-- Where no sigma turns, the text in lower case is found where the text stands. -/
theorem lowercase_infix (h : ¬SigmaTurns before s after) :
    lowercase s <:+: lowercase (before ++ s ++ after) := by
  have hamid : lowerAmid before.reverse s after = lowercase s := by
    rw [lowercase_eq_lowerAmid]
    refine lowerAmid_congr fun s₁ s₂ hs => ?_
    rw [List.append_nil, List.append_nil]
    by_contra hother
    exact h ⟨s₁, s₂, hs, turnsAt_iff.2 hother⟩
  rw [lowercase_append_append, hamid]
  exact List.infix_append _ _ _

/-- Only a loose sigma can turn. -/
theorem SigmaTurns.hasLooseSigma (h : SigmaTurns before s after) : HasLooseSigma s := by
  obtain ⟨s₁, s₂, hs, ⟨hfront, -, hnone⟩ | ⟨hfront, hbehind, -⟩⟩ := h
  · refine ⟨s₁, s₂, hs, .inl ⟨hfront, ?_⟩⟩
    rw [meetsCased_append] at hnone
    split at hnone
    · next hbehind => exact meetsCased_of_isIgnorable hbehind
    · exact hnone
  · exact ⟨s₁, s₂, hs, .inr ⟨hfront, hbehind⟩⟩

/-! ## where a sigma turns -/

/-- With another character in one place, and that one nowhere around, a list is not a part. -/
theorem not_infix_of_count_lt {c d : Char} {l r l' r' : List Char} (hne : c ≠ d) (hl : c ∉ l')
    (hr : c ∉ r') : ¬(l ++ c :: r <:+: l' ++ (l ++ d :: r) ++ r') := by
  intro h
  have hcount := h.sublist.count_le c
  simp only [List.count_append, List.count_cons_self, List.count_cons_of_ne hne.symm,
    List.count_eq_zero.2 hl, List.count_eq_zero.2 hr] at hcount
  omega

/-- A letter that is small already is lowered to itself, wherever it stands. -/
theorem lowerAmid_letter (before after : List Char) : lowerAmid before ['a'] after = ['a'] := by
  have hletter : lowerChar 'a' = ['a'] := by decide +kernel
  simp [lowerAmid, hletter]

/-- Behind a letter, a sigma that no letter follows is lowered as the last letter of a word. -/
theorem not_infix_behind_letter {s₁ s₂ : List Char} (hfront : isIgnorable s₁ = true)
    (hnone : meetsCased s₂ = false) :
    ¬(lowercase (s₁ ++ 'Σ' :: s₂) <:+: lowercase (['a'] ++ (s₁ ++ 'Σ' :: s₂) ++ [])) := by
  have hreverse : isIgnorable s₁.reverse = true := (isIgnorable_reverse s₁).trans hfront
  have halone : lowerSigma s₁.reverse s₂ = 'σ' := by
    rw [lowerSigma, meetsCased_of_isIgnorable hreverse]
    rfl
  have hturned : lowerSigma (s₁.reverse ++ ['a']) s₂ = 'ς' := by
    have hletter : meetsCased ['a'] = true := by decide +kernel
    rw [lowerSigma, meetsCased_append, if_pos hreverse, hletter, hnone]
    rfl
  rw [lowercase_append_append, lowercase_eq_lowerAmid, lowerAmid_append_sigma,
    lowerAmid_append_sigma, lowerAmid_letter]
  simp only [List.append_nil, List.reverse_singleton, halone, hturned]
  rw [lowerAmid_of_isIgnorable hfront [] ['a'] _ ('Σ' :: s₂),
    lowerAmid_behind_sigma s₂ s₁.reverse (s₁.reverse ++ ['a'])]
  exact not_infix_of_count_lt (by decide) (by decide) List.not_mem_nil

/-- In front of a letter, a sigma that follows a letter is not lowered as the last letter of a
word. -/
theorem not_infix_before_letter {s₁ s₂ : List Char} (hfront : meetsCased s₁.reverse = true)
    (hbehind : isIgnorable s₂ = true) :
    ¬(lowercase (s₁ ++ 'Σ' :: s₂) <:+: lowercase ([] ++ (s₁ ++ 'Σ' :: s₂) ++ ['a'])) := by
  have halone : lowerSigma s₁.reverse s₂ = 'ς' := by
    rw [lowerSigma, hfront, meetsCased_of_isIgnorable hbehind]
    rfl
  have hturned : lowerSigma s₁.reverse (s₂ ++ ['a']) = 'σ' := by
    have hletter : meetsCased ['a'] = true := by decide +kernel
    rw [lowerSigma, hfront, meetsCased_append, if_pos hbehind, hletter]
    rfl
  rw [lowercase_append_append, lowercase_eq_lowerAmid, lowerAmid_append_sigma,
    lowerAmid_append_sigma, lowerAmid_letter]
  simp only [List.append_nil, List.reverse_nil, halone, hturned]
  rw [lowerAmid_before_sigma [] s₁ s₂ (s₂ ++ ['a']),
    lowerAmid_of_isIgnorable hbehind _ ('Σ' :: s₁.reverse) [] ['a']]
  exact not_infix_of_count_lt (by decide) List.not_mem_nil (by decide)

/-- A letter in front turns a loose sigma that starts a text, a letter behind it turns one that
ends a text; the text in lower case is then not found. -/
theorem HasLooseSigma.exists_not_infix (h : HasLooseSigma s) :
    ∃ before after, ¬(lowercase s <:+: lowercase (before ++ s ++ after)) := by
  obtain ⟨s₁, s₂, rfl, ⟨hfront, hnone⟩ | ⟨hfront, hbehind⟩⟩ := h
  · exact ⟨['a'], [], not_infix_behind_letter hfront hnone⟩
  · exact ⟨[], ['a'], not_infix_before_letter hfront hbehind⟩

end ScriptComposer.Text
