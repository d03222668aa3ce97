import ScriptComposer.Script.Argument

/-!
# ScriptComposer.Proofs.Script.Argument

Quoted literals and numbers, the two forms that the free text of an argument is written in.

A quoted literal begins and ends with a quote, and the escapes between them are undone one
after the other on the way to the closing quote; so its end is found whatever follows.  A
number is what the grammar of decimals says.

* `escape_eq_replaceChar` — escaping is replacing one character after the other;
* `ne_lineBreak_of_mem_escape` — a literal stays on its line;
* `readQuoted_escape` — a literal is read back, and its end is found;
* `isNumeral_iff` — what counts as a number, as a grammar.
-/

namespace ScriptComposer.Script

/-! ## quoted literals -/

/-- The text with a character replaced, wherever it is. -/
def replaceChar (c : Char) (new : List Char) (s : List Char) : List Char :=
  s.flatMap fun d => if d = c then new else [d]

/-- Characters may be escaped one kind after the other, if the backslash is the first. -/
theorem escape_eq_replaceChar (s : List Char) :
    escape s = replaceChar '\r' ['\\', 'r'] (replaceChar '\n' ['\\', 'n']
      (replaceChar '"' ['\\', '"'] (replaceChar '\\' ['\\', '\\'] s))) := by
  simp only [replaceChar, List.flatMap_assoc, escape]
  refine congrArg s.flatMap (funext fun c => ?_)
  unfold escapeChar
  split
  · rfl
  · rfl
  · rfl
  · rfl
  · next hbackslash hquote hfeed hreturn =>
      rw [if_neg hbackslash, List.flatMap_singleton, if_neg hquote, List.flatMap_singleton,
        if_neg hfeed, List.flatMap_singleton, if_neg hreturn]

/-- The character that an escape stands for, by what is behind the backslash. -/
def unescapeChar? : Char → Option Char
  | '\\' => some '\\'
  | '"' => some '"'
  | 'n' => some '\n'
  | 'r' => some '\r'
  | _ => none

/-- Read a literal whose opening quote was read: its value, and what is behind the first
quote that is not escaped. -/
def readQuoted : List Char → Option (List Char × List Char)
  | [] => none
  | '"' :: rest => some ([], rest)
  | '\\' :: c :: rest =>
      (unescapeChar? c).bind fun d => (readQuoted rest).map fun (value, behind) =>
        (d :: value, behind)
  | c :: rest => (readQuoted rest).map fun (value, behind) => (c :: value, behind)

/-- An escaped character is read as one character. -/
theorem readQuoted_escapeChar (c : Char) (rest : List Char) :
    readQuoted (escapeChar c ++ rest) =
      (readQuoted rest).map fun (value, behind) => (c :: value, behind) := by
  unfold escapeChar
  split
  · rfl
  · rfl
  · rfl
  · rfl
  · next hbackslash hquote _ _ =>
      rw [List.singleton_append, readQuoted]
      · exact hquote
      · exact fun _ _ hc _ => hbackslash hc

/-- A literal is read up to its own closing quote, whatever follows. -/
theorem readQuoted_escape (s rest : List Char) :
    readQuoted (escape s ++ '"' :: rest) = some (s, rest) := by
  induction s with
  | nil => rfl
  | cons c s ih =>
      have hcons : escape (c :: s) = escapeChar c ++ escape s := List.flatMap_cons
      rw [hcons, List.append_assoc, readQuoted_escapeChar, ih]
      rfl

/-- A quotation is read to its end, whatever follows. -/
theorem readQuoted_quoted (s rest : List Char) :
    readQuoted ((quoted s).tail ++ rest) = some (s, rest) := by
  have htail : (quoted s).tail ++ rest = escape s ++ '"' :: rest := by simp [quoted]
  rw [htail, readQuoted_escape]

/-- An escaped text stays on its line. -/
theorem ne_lineBreak_of_mem_escape {c : Char} {s : List Char} (h : c ∈ escape s) :
    c ≠ '\n' ∧ c ≠ '\r' := by
  have hescapes : ∀ e ∈ [['\\', '\\'], ['\\', '"'], ['\\', 'n'], ['\\', 'r']], ∀ c ∈ e,
      c ≠ '\n' ∧ c ≠ '\r' := by simp
  obtain ⟨d, -, hd⟩ := List.mem_flatMap.1 h
  unfold escapeChar at hd
  split at hd
  · exact hescapes _ (by decide) c hd
  · exact hescapes _ (by decide) c hd
  · exact hescapes _ (by decide) c hd
  · exact hescapes _ (by decide) c hd
  · next hfeed hreturn =>
      obtain rfl := List.mem_singleton.1 hd
      exact ⟨hfeed, hreturn⟩

/-- A quotation never breaks the line. -/
theorem ne_lineBreak_of_mem_quoted {c : Char} {s : List Char} (h : c ∈ quoted s) :
    c ≠ '\n' ∧ c ≠ '\r' := by
  simp only [quoted, List.mem_append, List.mem_cons, List.not_mem_nil, or_false] at h
  rcases h with (rfl | h) | rfl
  · decide
  · exact ne_lineBreak_of_mem_escape h
  · decide

theorem length_le_length_escape (s : List Char) : s.length ≤ (escape s).length := by
  induction s with
  | nil => simp
  | cons c s ih =>
      have hchar : 1 ≤ (escapeChar c).length := by
        unfold escapeChar
        split <;> simp
      simp only [escape, List.flatMap_cons, List.length_append, List.length_cons] at ih ⊢
      omega

/-- No text is its own literal. -/
theorem quoted_ne_self (s : List Char) : quoted s ≠ s := by
  intro h
  have hlength := congrArg List.length h
  have hle := length_le_length_escape s
  simp only [quoted, List.length_append, List.length_cons, List.length_nil] at hlength
  omega

/-! ## numbers -/

/-- One or more digits. -/
def IsDigitRun (s : List Char) : Prop := s ≠ [] ∧ ∀ c ∈ s, '0' ≤ c ∧ c ≤ '9'

/-- A minus sign or none, digits, and a point with digits behind it or none. -/
def IsDecimal (s : List Char) : Prop :=
  ∃ sign whole fraction, s = sign ++ (whole ++ fraction) ∧ (sign = [] ∨ sign = ['-']) ∧
    IsDigitRun whole ∧ (fraction = [] ∨ ∃ digits, fraction = '.' :: digits ∧ IsDigitRun digits)

theorem isDigit_iff {c : Char} : c.isDigit = true ↔ '0' ≤ c ∧ c ≤ '9' := by
  simp [Char.isDigit, Char.le_def]

theorem isDigits_iff {s : List Char} : isDigits s = true ↔ IsDigitRun s := by
  simp [isDigits, IsDigitRun, isDigit_iff]

theorem isUnsignedNumeral_iff {s : List Char} :
    isUnsignedNumeral s = true ↔ ∃ whole fraction, s = whole ++ fraction ∧ IsDigitRun whole ∧
      (fraction = [] ∨ ∃ digits, fraction = '.' :: digits ∧ IsDigitRun digits) := by
  rw [isUnsignedNumeral, Bool.and_eq_true, isDigits_iff]
  constructor
  · rintro ⟨hwhole, hrest⟩
    have hpoint := List.head?_dropWhile_not (fun c => decide (c ≠ '.')) s
    refine ⟨_, _, List.takeWhile_append_dropWhile.symm, hwhole, ?_⟩
    generalize s.dropWhile (fun c => decide (c ≠ '.')) = fraction at hrest hpoint ⊢
    cases fraction with
    | nil => exact .inl rfl
    | cons c digits =>
        obtain rfl : c = '.' := by simpa using hpoint
        exact .inr ⟨digits, rfl, isDigits_iff.1 hrest⟩
  · rintro ⟨whole, fraction, rfl, hwhole, hfraction⟩
    -- the point is no digit, so the digits in front of it end there
    have hdigits : ∀ c ∈ whole, decide (c ≠ '.') = true := by
      intro c hc
      have hc := hwhole.2 c hc
      refine decide_eq_true fun h => ?_
      subst h
      exact absurd hc.1 (by decide)
    rw [List.takeWhile_append_of_pos hdigits, List.dropWhile_append_of_pos hdigits]
    rcases hfraction with rfl | ⟨digits, rfl, hdigits⟩
    · simpa using hwhole
    · simpa using ⟨hwhole, isDigits_iff.2 hdigits⟩

/-- What is taken for a number is a decimal number. -/
theorem isNumeral_iff {s : List Char} : isNumeral s = true ↔ IsDecimal s := by
  unfold isNumeral
  split
  · next rest =>
      rw [isUnsignedNumeral_iff]
      constructor
      · rintro ⟨whole, fraction, rfl, h⟩
        exact ⟨['-'], whole, fraction, rfl, .inr rfl, h⟩
      · rintro ⟨sign, whole, fraction, hs, rfl | rfl, hwhole, hfraction⟩
        · obtain ⟨c, digits, rfl⟩ := List.exists_cons_of_ne_nil hwhole.1
          obtain ⟨rfl, -⟩ := List.cons.inj hs
          exact absurd (hwhole.2 '-' List.mem_cons_self).1 (by decide)
        · exact ⟨whole, fraction, (List.cons.inj hs).2, hwhole, hfraction⟩
  · next hsign =>
      rw [isUnsignedNumeral_iff]
      constructor
      · rintro ⟨whole, fraction, rfl, h⟩
        exact ⟨[], whole, fraction, rfl, .inl rfl, h⟩
      · rintro ⟨sign, whole, fraction, hs, rfl | rfl, h⟩
        · exact ⟨whole, fraction, hs, h⟩
        · exact absurd hs (hsign _)

/-- Numbers are made of digits, points and a minus sign. -/
theorem mem_of_isNumeral {s : List Char} (h : isNumeral s = true) :
    ∀ c ∈ s, c.isDigit = true ∨ c = '.' ∨ c = '-' := by
  obtain ⟨sign, whole, fraction, rfl, hsign, hwhole, hfraction⟩ := isNumeral_iff.1 h
  intro c hc
  rcases List.mem_append.1 hc with hc | hc
  · rcases hsign with rfl | rfl
    · simp at hc
    · exact .inr (.inr (List.mem_singleton.1 hc))
  · rcases List.mem_append.1 hc with hc | hc
    · exact .inl (isDigit_iff.2 (hwhole.2 c hc))
    · rcases hfraction with rfl | ⟨digits, rfl, hdigits⟩
      · simp at hc
      · rcases List.mem_cons.1 hc with rfl | hc
        · exact .inr (.inl rfl)
        · exact .inl (isDigit_iff.2 (hdigits.2 c hc))

end ScriptComposer.Script
