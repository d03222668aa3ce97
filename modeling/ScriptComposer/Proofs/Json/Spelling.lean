import Mathlib.Data.List.Chain
import ScriptComposer.Proofs.Json.Numeral
import ScriptComposer.Proofs.Json.Written

/-!
# ScriptComposer.Proofs.Json.Spelling

How tokens are spelled.

White space may stand before every token and at the end.  Cutting a text into tokens finds
the tokens that it spells, if no number is followed by a number at once: any other token shows
where the one before it ends.  A text that is cut without meeting a broken token is a spelling
of the tokens that were found.

* `tokensFrom_of_spells` — a text is cut into the tokens that it spells;
* `spells_tokensFrom` — a text without broken tokens spells the tokens it is cut into.
-/

namespace ScriptComposer.Json

/-! ## literals -/

/-- A character stands for itself or is escaped. -/
inductive Stroke.Spells : Stroke → List Char → Prop
  | plain {c : Char} (hquote : c ≠ '"') (hbackslash : c ≠ '\\') (hcontrol : ¬c < ' ') :
      Spells (.plain c) [c]
  | short {c d : Char} (h : shortEscape? c = some d) : Spells (.short d) ['\\', c]
  | unit {a b c d : Char} {n : Nat} (h : unitOfDigits? a b c d = some n) :
      Spells (.unit n) ['\\', 'u', a, b, c, d]

/-- The strokes of a literal one after another. -/
inductive SpellsStrokes : List Stroke → List Char → Prop
  | nil : SpellsStrokes [] []
  | cons {stroke : Stroke} {strokes : List Stroke} {piece s : List Char}
      (hstroke : stroke.Spells piece) (h : SpellsStrokes strokes s) :
      SpellsStrokes (stroke :: strokes) (piece ++ s)

/-- A spelled stroke is scanned as that stroke. -/
theorem Stroke.Spells.scan {stroke : Stroke} {piece : List Char} (h : stroke.Spells piece)
    (rest : List Char) :
    Literal.scan (piece ++ rest) = addStroke piece.length stroke (Literal.scan rest) := by
  cases h with
  | plain hquote hbackslash hcontrol => exact scan_plain rest hquote hbackslash hcontrol
  | unit h =>
      show Literal.scan ('\\' :: 'u' :: _ :: _ :: _ :: _ :: rest) = _
      rw [Literal.scan]
      simp only [h]
      rfl
  | @short c d h =>
      have hu : c ≠ 'u' := by
        rintro rfl
        cases h
      show Literal.scan ('\\' :: c :: rest) = _
      rw [Literal.scan]
      · simp only [h]
        rfl
      all_goals
        intros
        simp_all

/-- Strokes are scanned up to the closing quote. -/
theorem SpellsStrokes.scan {strokes : List Stroke} {s : List Char} (h : SpellsStrokes strokes s)
    (rest : List Char) :
    Literal.scan (s ++ '"' :: rest) = (⟨strokes, .closed⟩, s.length + 1) := by
  induction h with
  | nil => rw [List.nil_append, Literal.scan]; rfl
  | cons hstroke h ih =>
      rw [List.append_assoc, hstroke.scan, ih, addStroke, List.length_append, Nat.add_assoc]

/-- A stroke in front is spelled as well. -/
theorem Stroke.Spells.spells_of_closed {stroke : Stroke} {piece rest : List Char}
    (hstroke : stroke.Spells piece)
    (hrest : (Literal.scan rest).1.closing = .closed →
      ∃ strokes taken rest', SpellsStrokes strokes taken ∧ rest = taken ++ '"' :: rest')
    (h : (Literal.scan (piece ++ rest)).1.closing = .closed) :
    ∃ strokes taken rest', SpellsStrokes strokes taken ∧ piece ++ rest = taken ++ '"' :: rest' := by
  rw [hstroke.scan] at h
  obtain ⟨strokes, taken, rest', hspells, rfl⟩ := hrest h
  exact ⟨_, _, rest', .cons hstroke hspells, (List.append_assoc ..).symm⟩

/-- A literal that is closed is spelled up to its closing quote. -/
theorem spells_of_closed (s : List Char) (h : (Literal.scan s).1.closing = .closed) :
    ∃ strokes taken rest, SpellsStrokes strokes taken ∧ s = taken ++ '"' :: rest := by
  -- The cases are those of the scanner: one for each kind of stroke, one for the closing quote,
  -- and in all others the literal is not closed.
  induction s using Literal.scan.induct with
  | case1 => rw [Literal.scan] at h; cases h
  | case2 rest => exact ⟨[], [], rest, .nil, rfl⟩
  | case3 a b c d rest n hn ih => exact Stroke.Spells.spells_of_closed (.unit hn) ih h
  | case4 a b c d rest hn =>
      rw [Literal.scan] at h
      simp only [hn] at h
      cases h
  | case5 rest hrest =>
      rw [Literal.scan] at h
      · dsimp only at h
        split at h <;> cases h
      · exact hrest
  | case6 => rw [Literal.scan] at h; cases h
  | case7 c rest h1 h2 d hd ih => exact Stroke.Spells.spells_of_closed (.short hd) ih h
  | case8 c rest h1 h2 hd =>
      rw [Literal.scan] at h
      · simp only [hd] at h
        cases h
      all_goals assumption
  | case9 c rest h1 h2 h3 h4 h5 hc =>
      rw [Literal.scan] at h
      · rw [if_pos hc] at h
        cases h
      all_goals assumption
  | case10 c rest hquote _ _ hlast hmore hcontrol ih =>
      have hbackslash : c ≠ '\\' := by
        rintro rfl
        cases rest with
        | nil => exact hlast rfl rfl
        | cons d rest => exact hmore d rest rfl rfl
      exact Stroke.Spells.spells_of_closed (.plain hquote hbackslash hcontrol) ih h

/-! ## tokens -/

/-- The spellings of a token that can stand in a well-formed text. -/
inductive Token.Spells : Token → List Char → Prop
  | openArray : Spells .openArray ['[']
  | closeArray : Spells .closeArray [']']
  | openObject : Spells .openObject ['\x7b']
  | closeObject : Spells .closeObject ['\x7d']
  | comma : Spells .comma [',']
  | colon : Spells .colon [':']
  | null : Spells .null ['n', 'u', 'l', 'l']
  | true : Spells (.boolean true) ['t', 'r', 'u', 'e']
  | false : Spells (.boolean false) ['f', 'a', 'l', 's', 'e']
  | number {n : Numeral} {s : List Char} (hn : n.negative = false) (h : n.SpellsMagnitude s) :
      Spells (.number n) s
  | minus {n : Numeral} {s : List Char} (hn : n.negative = true) (h : n.SpellsMagnitude s) :
      Spells (.number n) ('-' :: s)
  | text {strokes : List Stroke} {s : List Char} (h : SpellsStrokes strokes s) :
      Spells (.text ⟨strokes, .closed⟩) ('"' :: (s ++ ['"']))

/-- The spellings of tokens: white space may stand before each of them and at the end. -/
inductive Spells : List Token → List Char → Prop
  | nil : Spells [] []
  | space {c : Char} {ts : List Token} {s : List Char} (hc : isSpace c = true)
      (h : Spells ts s) : Spells ts (c :: s)
  | token {t : Token} {ts : List Token} {piece s : List Char} (ht : t.Spells piece)
      (h : Spells ts s) : Spells (t :: ts) (piece ++ s)

/-- Is the token a number?  It is the one kind of token that could be gone on with. -/
def Token.isNumber : Token → Bool
  | .number _ => true
  | _ => false

/-- No number follows a number. -/
def Separated (ts : List Token) : Prop :=
  ts.IsChain fun t u => t.isNumber = true → u.isNumber = false

/-! ### cutting what is spelled -/

/-- White space does not go on with a number. -/
theorem isPart_of_isSpace {c : Char} (hc : isSpace c = true) : Numeral.isPart c = false := by
  simp only [isSpace, Bool.or_eq_true, decide_eq_true_eq] at hc
  rcases hc with ((rfl | rfl) | rfl) | rfl <;> decide

/-- A digit begins a number. -/
theorem scanToken_digit {c : Char} (hc : c.isDigit = true) (rest : List Char) :
    scanToken c rest =
      ((scanNumber false (c :: rest)).1, (scanNumber false (c :: rest)).2 - 1) := by
  rw [scanToken.eq_def]
  split
  all_goals try exact absurd hc (by decide)
  exact if_pos hc

/-- The number is taken as a whole. -/
theorem scanNumber_append {n : Numeral} {s rest : List Char} (h : n.SpellsMagnitude s)
    (hrest : Numeral.Unfollowed rest) :
    scanNumber n.negative (s ++ rest) = (.number n, s.length) := by
  rw [scanNumber, Numeral.scan_append h hrest]
  simp only [Numeral.span_append h]

/-- The piece of a token is cut off the text, if no number could go on behind it. -/
theorem tokensFrom_piece {t : Token} {piece rest : List Char} (h : t.Spells piece)
    (hrest : t.isNumber = true → Numeral.Unfollowed rest) :
    tokensFrom 0 (piece ++ rest) = t :: tokensFrom 0 rest := by
  cases h with
  | text h =>
      refine tokensFrom_cons rest (by decide) ?_ rfl
      rw [List.append_assoc, List.singleton_append, scanToken, h.scan, List.length_append]
      rfl
  | @number n s hn h =>
      have hscan := scanNumber_append h (hrest rfl)
      obtain ⟨c, s, rfl, hc⟩ := h.eq_cons
      have hspace : isSpace c = false := by
        refine Bool.eq_false_iff.2 fun hspace => ?_
        have hpart := h.isPart c List.mem_cons_self
        rw [isPart_of_isSpace hspace] at hpart
        cases hpart
      rw [hn] at hscan
      refine tokensFrom_cons rest hspace ?_ rfl
      rw [scanToken_digit hc, ← List.cons_append, hscan]
      rfl
  | @minus n s hn h =>
      refine tokensFrom_cons rest (by decide) ?_ rfl
      rw [scanToken, ← hn, scanNumber_append h (hrest rfl)]
  | _ => rfl

/-- Behind a token that is no number, or at the end, no number goes on. -/
theorem Spells.unfollowed {ts : List Token} {s : List Char} (h : Spells ts s)
    (hts : ∀ t ∈ ts.head?, t.isNumber = false) : Numeral.Unfollowed s := by
  cases h with
  | nil => rintro c ⟨⟩
  | space hc h =>
      rintro c ⟨⟩
      exact isPart_of_isSpace hc
  | @token t ts piece s ht h =>
      have hnumber : t.isNumber = false := hts t rfl
      cases ht with
      | number => cases hnumber
      | minus => cases hnumber
      | _ =>
          rintro c ⟨⟩
          decide

/-- A text that spells tokens is cut into them, if no number follows a number at once. -/
theorem tokensFrom_of_spells {ts : List Token} {s : List Char} (h : Spells ts s)
    (hts : Separated ts) : tokensFrom 0 s = ts := by
  induction h with
  | nil => rfl
  | space hc h ih =>
      rw [tokensFrom, if_pos hc]
      exact ih hts
  | @token t ts piece s ht h ih =>
      obtain ⟨hnext, hts⟩ := List.isChain_cons.1 hts
      rw [tokensFrom_piece ht fun hnumber => h.unfollowed fun u hu => hnext u hu hnumber, ih hts]

/-! ### spelling what is cut -/

/-- A word that is not broken is there to its end. -/
theorem scanWord_of_not_isLast {tail rest : List Char} {t : Token}
    (h : (scanWord tail t rest).1.isLast = false) :
    scanWord tail t rest = (t, tail.length) ∧ ∃ rest', rest = tail ++ rest' := by
  rw [scanWord] at h ⊢
  split
  · next hprefix =>
      obtain ⟨rest', rfl⟩ := List.isPrefixOf_iff_prefix.1 hprefix
      exact ⟨rfl, rest', rfl⟩
  · next hprefix =>
      rw [if_neg hprefix] at h
      cases h

/-- A number that is not broken is spelled by the characters that it takes. -/
theorem scanNumber_of_not_isLast {negative : Bool} {s : List Char}
    (h : (scanNumber negative s).1.isLast = false) :
    ∃ n taken rest, s = taken ++ rest ∧ n.negative = negative ∧ n.SpellsMagnitude taken ∧
      scanNumber negative s = (.number n, taken.length) := by
  rw [scanNumber] at h ⊢
  split
  · next n rest hscan =>
      obtain ⟨hn, taken, rfl, hspells⟩ := Numeral.scan_eq_ok hscan
      exact ⟨n, taken, rest, rfl, hn, hspells, by rw [Numeral.span_append hspells]⟩
  · next hscan =>
      rw [hscan] at h
      cases h

/-- A token that is not broken is spelled by the characters that it takes. -/
theorem scanToken_spells {c : Char} {rest : List Char}
    (h : (scanToken c rest).1.isLast = false) :
    ∃ taken rest', rest = taken ++ rest' ∧ (scanToken c rest).2 = taken.length ∧
      (scanToken c rest).1.Spells (c :: taken) := by
  rw [scanToken.eq_def] at h ⊢
  split at h
  · exact ⟨[], rest, rfl, rfl, .openArray⟩
  · exact ⟨[], rest, rfl, rfl, .closeArray⟩
  · exact ⟨[], rest, rfl, rfl, .openObject⟩
  · exact ⟨[], rest, rfl, rfl, .closeObject⟩
  · exact ⟨[], rest, rfl, rfl, .comma⟩
  · exact ⟨[], rest, rfl, rfl, .colon⟩
  · obtain ⟨hword, rest', hrest⟩ := scanWord_of_not_isLast h
    exact ⟨_, rest', hrest, congrArg (·.2) hword, congrArg (·.1) hword ▸ .null⟩
  · obtain ⟨hword, rest', hrest⟩ := scanWord_of_not_isLast h
    exact ⟨_, rest', hrest, congrArg (·.2) hword, congrArg (·.1) hword ▸ .true⟩
  · obtain ⟨hword, rest', hrest⟩ := scanWord_of_not_isLast h
    exact ⟨_, rest', hrest, congrArg (·.2) hword, congrArg (·.1) hword ▸ .false⟩
  · obtain ⟨n, taken, rest', hrest, hn, hspells, hnumber⟩ := scanNumber_of_not_isLast h
    exact ⟨taken, rest', hrest, congrArg (·.2) hnumber,
      congrArg (·.1) hnumber ▸ .minus hn hspells⟩
  · have hclosed : (Literal.scan rest).1.closing = .closed := by
      simpa [Token.isLast] using h
    obtain ⟨strokes, taken, rest', hspells, rfl⟩ := spells_of_closed rest hclosed
    refine ⟨taken ++ ['"'], rest', by simp, ?_, ?_⟩
    · simp only [hspells.scan, List.length_append]
      rfl
    · simp only [hspells.scan]
      exact .text hspells
  · split at h
    · next hdigit =>
        obtain ⟨n, taken, rest', hrest, hn, hspells, hnumber⟩ := scanNumber_of_not_isLast h
        obtain ⟨d, taken, rfl, -⟩ := hspells.eq_cons
        obtain ⟨rfl, rfl⟩ := List.cons.inj hrest
        rw [if_pos hdigit, hnumber]
        exact ⟨taken, rest', rfl, rfl, .number hn hspells⟩
    · cases h

/-- A text without broken tokens spells the tokens it is cut into. -/
theorem spells_tokensFrom (s : List Char) (h : ∀ t ∈ tokensFrom 0 s, t.isLast = false) :
    Spells (tokensFrom 0 s) s := by
  match s with
  | [] => exact .nil
  | c :: s =>
      rw [tokensFrom] at h ⊢
      split
      · next hc =>
          rw [if_pos hc] at h
          exact .space hc (spells_tokensFrom s h)
      · next hc =>
          have htoken := @scanToken_spells c s
          rw [if_neg hc] at h
          generalize scanToken c s = scanned at h htoken ⊢
          obtain ⟨t, n⟩ := scanned
          have ht : t.isLast = false := by
            refine Bool.eq_false_iff.2 fun ht => ?_
            simp [ht] at h
          -- Behind the token the text is shorter, by the token and whatever it takes.
          obtain ⟨taken, rest, rfl, rfl, hspells⟩ := htoken ht
          simp only [ht, Bool.false_eq_true, if_false, tokensFrom_append] at h ⊢
          exact .token hspells (spells_tokensFrom rest fun t ht => h t (List.mem_cons_of_mem _ ht))
termination_by s.length
decreasing_by
  all_goals
    subst_vars
    simp only [List.length_cons, List.length_append]
    omega

end ScriptComposer.Json
