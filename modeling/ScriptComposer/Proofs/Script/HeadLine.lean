import ScriptComposer.Script.Argument
import ScriptComposer.Script.Report
import ScriptComposer.Text.Search

/-!
# ScriptComposer.Proofs.Script.HeadLine

What the lines that statements are written as do to the nesting of blocks.

The words at the two ends of a head line stand alone, whatever the user typed
between them, so a statement that opens a block is always read as an opener.
Its kind can be another one than the statement's: the condition of an `if` may
define a function.

* `openedBlock?_headLine` — an `if`, `while` or `for` opens a block;
* `lineRole_headLine_declaration` — a declaration opens one if its name is made
  of name parts.
-/

namespace ScriptComposer

namespace Text

/-- The first stretches of the word characters are those of ASCII. -/
theorem wordClass_eq : ∃ others, wordClass.stretches =
    (0x30, 0x39) :: (0x41, 0x5a) :: (0x5f, 0x5f) :: (0x61, 0x7a) :: others ∧
      ∀ r ∈ others, 128 ≤ r.1 :=
  ⟨wordClass.stretches.drop 4, rfl, by decide +kernel⟩

/-- Of the ASCII characters, the word characters are letters, digits and the underscore. -/
theorem isWord_of_toNat_lt {c : Char} (h : c.toNat < 128) :
    isWord c = decide ((0x30 ≤ c.toNat ∧ c.toNat ≤ 0x39) ∨ (0x41 ≤ c.toNat ∧ c.toNat ≤ 0x5a) ∨
      c.toNat = 0x5f ∨ (0x61 ≤ c.toNat ∧ c.toNat ≤ 0x7a)) := by
  obtain ⟨others, heq, hothers⟩ := wordClass_eq
  have hnone : ∀ r ∈ others, ¬ (r.1 ≤ c.toNat ∧ c.toNat ≤ r.2) := fun r hr => by
    have := hothers r hr
    omega
  rw [Bool.eq_iff_iff, isWord, CharClass.has, CharClass.hasPoint_iff, heq, decide_eq_true_iff]
  simp only [List.mem_cons, exists_eq_or_imp]
  constructor
  · rintro (h | h | h | h | ⟨r, hr, h⟩)
    · exact .inl h
    · exact .inr (.inl h)
    · exact .inr (.inr (.inl (by omega)))
    · exact .inr (.inr (.inr h))
    · exact absurd h (hnone r hr)
  · rintro (h | h | h | h)
    · exact .inl h
    · exact .inr (.inl h)
    · exact .inr (.inr (.inl (by omega)))
    · exact .inr (.inr (.inr (.inl h)))

end Text

namespace Script

/-! ## pieces of a line -/

theorem extendWord_append_gap (c d : Char) (ps qs : List Piece) :
    extendWord c (ps ++ .gap d :: qs) = extendWord c ps ++ .gap d :: qs := by
  cases ps with
  | nil => rfl
  | cons p ps => cases p <;> rfl

/-- A character that is no word character keeps the words on its two sides apart. -/
theorem pieces_append_gap {c : Char} (hc : Text.isWord c = false) (s t : List Char) :
    pieces (s ++ c :: t) = pieces s ++ .gap c :: pieces t := by
  induction s with
  | nil => simp [pieces, hc]
  | cons d s ih =>
      by_cases hd : Text.isWord d
      · simp only [List.cons_append, pieces, hd, if_true, ih, extendWord_append_gap]
      · simp [pieces, hd, ih]

theorem isWord_space : Text.isWord ' ' = false := Text.isWord_of_toNat_lt (by decide)

/-- A text between two words, with a space on either side, does not reach into them. -/
theorem pieces_between (a s b : List Char) :
    pieces (a ++ ' ' :: (s ++ ' ' :: b)) =
      pieces a ++ .gap ' ' :: (pieces s ++ .gap ' ' :: pieces b) := by
  rw [pieces_append_gap isWord_space, pieces_append_gap isWord_space]

/-- A line that begins with one word and ends with another has the one before the other. -/
theorem hasWordThen_ends (first second : String) (ps : List Piece) :
    hasWordThen first second (.ofString first :: (ps ++ [.ofString second])) = true := by
  simp [hasWordThen, hasWord]

/-! ## statements that open a block -/

/-- The words at the two ends of the head line of a block. -/
def blockWords : List (String × String) := [("if", "then"), ("while", "do"), ("for", "do")]

/-- The line of an opener is a condition between two words. -/
theorem headLine_of_opensBlock {c : Control} (h : c.opensBlock = true) :
    ∃ words ∈ blockWords, ∃ middle,
      c.headLine.toList = words.1.toList ++ ' ' :: (middle ++ ' ' :: words.2.toList) := by
  cases c with
  | ifThen condition =>
      exact ⟨("if", "then"), by decide, condition.toList, by simp [Control.headLine]⟩
  | whileDo condition =>
      exact ⟨("while", "do"), by decide, condition.toList, by simp [Control.headLine]⟩
  | forDo v start stop step =>
      exact ⟨("for", "do"), by decide,
        (v ++ " = " ++ start ++ ", " ++ stop ++ stepClause step).toList, by
          simp [Control.headLine]⟩
  | blockEnd => simp [Control.opensBlock] at h
  | declaration d => simp [Control.opensBlock] at h

theorem pieces_blockWords : ∀ words ∈ blockWords,
    pieces words.1.toList = [.ofString words.1] ∧ pieces words.2.toList = [.ofString words.2] := by
  decide

/-- A line opens no block if it defines no function and has no pair of words. -/
theorem openedBlock?_eq_none_iff {ps : List Piece} :
    openedBlock? ps = none ↔
      definesFunction ps = false ∧
        ∀ words ∈ blockWords, hasWordThen words.1 words.2 ps = false := by
  unfold openedBlock?
  repeat' split
  all_goals simp_all [blockWords]

/-- A statement that opens a block is read as opening one, whatever its fields say. -/
theorem openedBlock?_headLine {c : Control} (h : c.opensBlock = true) :
    ∃ kind, openedBlock? (pieces c.headLine.toList) = some kind := by
  obtain ⟨words, hw, middle, hline⟩ := headLine_of_opensBlock h
  obtain ⟨hfirst, hsecond⟩ := pieces_blockWords words hw
  have hends : hasWordThen words.1 words.2 (pieces c.headLine.toList) = true := by
    rw [hline, pieces_between, hfirst, hsecond]
    have := hasWordThen_ends words.1 words.2 (.gap ' ' :: (pieces middle ++ [.gap ' ']))
    simpa only [List.cons_append, List.nil_append, List.append_assoc] using this
  cases ho : openedBlock? (pieces c.headLine.toList) with
  | some kind => exact ⟨kind, rfl⟩
  | none => simp [(openedBlock?_eq_none_iff.1 ho).2 words hw] at hends

/-! ## declarations -/

/-- May the character stand in the name of a function? -/
def isNameChar (c : Char) : Bool := Text.isWord c || c == '.' || c == ':'

theorem isNameChar_eq_false : ∀ c ∈ ['\n', '"', '\''], isNameChar c = false := by
  intro c hc
  simp only [List.mem_cons, List.not_mem_nil, or_false] at hc
  rcases hc with rfl | rfl | rfl <;> rw [isNameChar, Text.isWord_of_toNat_lt (by decide)] <;>
    decide

theorem isNamePart_of_mem_extendWord {c : Char} {ps : List Piece}
    (h : ∀ p ∈ ps, p.isNamePart = true) : ∀ p ∈ extendWord c ps, p.isNamePart = true := by
  unfold extendWord
  split <;> simp_all [Piece.isNamePart]

/-- A name is cut into parts of a name. -/
theorem isNamePart_of_mem_pieces {s : List Char} (h : ∀ c ∈ s, isNameChar c = true) :
    ∀ p ∈ pieces s, p.isNamePart = true := by
  induction s with
  | nil => simp [pieces]
  | cons c s ih =>
      have hs := ih fun d hd => h d (List.mem_cons_of_mem c hd)
      have hc := h c List.mem_cons_self
      rw [pieces]
      split
      · exact isNamePart_of_mem_extendWord hs
      · next hw =>
          refine List.forall_mem_cons.2 ⟨?_, hs⟩
          simpa [isNameChar, hw, Piece.isNamePart] using hc

theorem isBlank_of_isNamePart {p : Piece} (h : p.isNamePart = true) : p.isBlank = false := by
  cases p with
  | word w => rfl
  | gap c =>
      rcases (by simpa [Piece.isNamePart] using h : c = '.' ∨ c = ':') with rfl | rfl <;> decide

/-- The name of a function leads to its parameters. -/
theorem startsParameters_append {name ps : List Piece} (h : ∀ p ∈ name, p.isNamePart = true) :
    startsParameters (.gap ' ' :: (name ++ .gap '(' :: ps)) = true := by
  have hparen : ((name ++ .gap '(' :: ps).dropWhile Piece.isNamePart) = .gap '(' :: ps := by
    rw [List.dropWhile_append_of_pos h]
    rfl
  have hblank : ((name ++ .gap '(' :: ps).dropWhile Piece.isBlank) = name ++ .gap '(' :: ps := by
    cases name with
    | nil => rfl
    | cons p name =>
        have := isBlank_of_isNamePart (h p List.mem_cons_self)
        rw [List.cons_append, List.dropWhile_cons_of_neg (by simp [this])]
  have hspace : Piece.isBlank (.gap ' ') = true := by decide
  have hparen' : Piece.isBlank (.gap '(') = false := by decide
  simp [startsParameters, hspace, hblank, hparen, hparen']

theorem isWord_paren : Text.isWord '(' = false := Text.isWord_of_toNat_lt (by decide)

/-- A declaration is read as defining a function if its name is made of name parts. -/
theorem lineRole_headLine_declaration {d : Declaration}
    (h : ∀ c ∈ d.name.toList, isNameChar c = true) :
    lineRole (Control.declaration d).headLine.toList = .opener .function := by
  have hline : (Control.declaration d).headLine.toList =
      "function".toList ++ ' ' :: (d.name.toList ++ '(' :: (d.params.toList ++ [')'])) := by
    simp [Control.headLine]
  have hword : pieces "function".toList = [.ofString "function"] := by decide
  have hpieces : pieces (Control.declaration d).headLine.toList =
      .ofString "function" :: .gap ' ' ::
        (pieces d.name.toList ++ .gap '(' :: pieces (d.params.toList ++ [')'])) := by
    rw [hline, pieces_append_gap isWord_space, pieces_append_gap isWord_paren, hword]
    rfl
  have hdef : definesFunction (pieces (Control.declaration d).headLine.toList) = true := by
    rw [hpieces, definesFunction, startsParameters_append (isNamePart_of_mem_pieces h)]
    simp
  simp [lineRole, openedBlock?, hdef]

/-! ## lines without the words of a block -/

theorem hasWordThen_eq_false {first : String} {ps : List Piece} (h : hasWord first ps = false)
    (second : String) : hasWordThen first second ps = false := by
  have hmem : .ofString first ∉ ps := by simpa [hasWord] using h
  have hne : ∀ p ∈ ps, (p != .ofString first) = true := fun p hp => by
    simpa using fun e : p = .ofString first => hmem (e ▸ hp)
  have hdrop : ps.dropWhile (· != .ofString first) = [] := by
    rw [← List.append_nil ps, List.dropWhile_append_of_pos hne]
    rfl
  simp [hasWordThen, hdrop, hasWord]

theorem definesFunction_eq_false {ps : List Piece} (h : hasWord "function" ps = false) :
    definesFunction ps = false := by
  induction ps with
  | nil => rfl
  | cons p ps ih =>
      obtain ⟨hp, hps⟩ : .ofString "function" ≠ p ∧ hasWord "function" ps = false := by
        simpa [hasWord] using h
      simp [definesFunction, hp.symm, ih hps]

/-- The words of which a line that opens or closes a block has one. -/
def structureWords : List String := ["function", "if", "while", "for", "end"]

/-- A line without the words that open or close a block does neither. -/
theorem lineRole_eq_plain {line : List Char}
    (h : ∀ w ∈ structureWords, hasWord w (pieces line) = false) :
    lineRole line = .plain := by
  have hopen : openedBlock? (pieces line) = none := by
    refine openedBlock?_eq_none_iff.2 ⟨definesFunction_eq_false (h "function" (by decide)), ?_⟩
    intro words hw
    have hfirst : words.1 ∈ structureWords := by
      revert words
      decide
    exact hasWordThen_eq_false (h words.1 hfirst) words.2
  simp [lineRole, hopen, h "end" (by decide)]

/-- A word that does not occur in a line does not stand alone in it. -/
theorem hasWord_eq_false_of_occursIn {w : String} {line : List Char}
    (h : Text.occursIn w.toList line = false) : hasWord w (pieces line) = false := by
  rw [Bool.eq_false_iff]
  intro hword
  have hmem : Piece.ofString w ∈ pieces line := by simpa [hasWord] using hword
  have hinfix := List.infix_of_mem_flatten (List.mem_map_of_mem (f := Piece.text) hmem)
  rw [← List.flatMap_def, flatMap_text_pieces] at hinfix
  have hoccurs := Text.occursIn_iff.2 hinfix
  simp [Piece.text, Piece.ofString, h] at hoccurs

theorem lineRole_end : lineRole Control.blockEnd.headLine.toList = .closer := by decide

end Script

end ScriptComposer
