import Mathlib.Data.List.Infix
import ScriptComposer.Script.Quotes

/-!
# ScriptComposer.Proofs.Script.Quotation

The grammar behind the check of quotes.

A line is well quoted if it can be cut into characters that stand for themselves and
quotations that are closed, up to the end of the line or to a comment.  The scanner of
`ScriptComposer.Script.Quotes` goes over a line once and looks one character ahead; it accepts
exactly the well quoted lines.

* `quotesClose_iff` — the scanner accepts exactly the grammar;
* `quotesClose_iff_even` — where one kind of quote occurs and nothing is escaped or
  commented, closing all quotations means an even number of quotes;
* `unbalanced_iff_grammar` — what is reported.
-/

namespace ScriptComposer.Script

/-! ## the grammar -/

/-- What can stand between two quotes `q`: escapes, which are a backslash and any character, and
characters other than the backslash and the quote. -/
inductive Quoted (q : Char) : List Char → Prop
  | nil : Quoted q []
  | escape {c : Char} {s : List Char} (hs : Quoted q s) : Quoted q ('\\' :: c :: s)
  | plain {c : Char} {s : List Char} (hbackslash : c ≠ '\\') (hquote : c ≠ q) (hs : Quoted q s) :
      Quoted q (c :: s)

/-- A line is a sequence of characters and closed quotations, and at the end there may be a
comment.  A character is no quote and not the first of two hyphens. -/
inductive WellQuoted : List Char → Prop
  | nil : WellQuoted []
  | comment (rest : List Char) : WellQuoted ('-' :: '-' :: rest)
  | plain {c : Char} {s : List Char} (hquote : ¬IsQuote c)
      (hhyphens : ¬(c = '-' ∧ s.head? = some '-')) (hs : WellQuoted s) : WellQuoted (c :: s)
  | quotation {q : Char} {inside s : List Char} (hquote : IsQuote q) (hinside : Quoted q inside)
      (hs : WellQuoted s) : WellQuoted (q :: (inside ++ q :: s))

/-! ## the scanner accepts the grammar -/

/-- What is inside a quotation is passed over up to the closing quote. -/
theorem Quoted.quotesClose {q : Char} {inside : List Char} (hinside : Quoted q inside)
    (hquote : IsQuote q) (rest : List Char) :
    quotesClose (some q) (inside ++ q :: rest) = quotesClose none rest := by
  induction hinside with
  | nil => exact quotesClose_some_quote hquote rest
  | escape hs ih => exact ih
  | plain hbackslash hne hs ih =>
      rw [List.cons_append, quotesClose_some_cons hbackslash hne, ih]

theorem WellQuoted.quotesClose {s : List Char} (h : WellQuoted s) :
    quotesClose none s = true := by
  induction h with
  | nil => rfl
  | comment rest => rfl
  | plain hquote hhyphens hs ih => rw [quotesClose_none_cons hquote hhyphens, ih]
  | quotation hquote hinside hs ih =>
      rw [quotesClose_none_quote hquote, hinside.quotesClose hquote, ih]

/-! ## and nothing else -/

/-- A text that ends the quotation that it begins in, if any, and is well quoted from there
on. -/
def Completes : Option Char → List Char → Prop
  | none, s => WellQuoted s
  | some q, s => ∃ inside rest, s = inside ++ q :: rest ∧ Quoted q inside ∧ WellQuoted rest

/-- A text that the scanner accepts completes what is open. -/
theorem completes_of_quotesClose {opened : Option Char} {s : List Char}
    (hopened : ∀ q ∈ opened, IsQuote q) (h : quotesClose opened s = true) :
    Completes opened s := by
  -- The cases are those of the scanner; the open quotation is the state of the induction.
  induction opened, s using quotesClose.induct with
  | case1 => exact .nil
  | case2 rest => exact .comment rest
  | case3 c rest hhyphens ih =>
      by_cases hquote : c = '"' ∨ c = '\''
      · rw [if_pos hquote] at ih
        rw [quotesClose_none_quote hquote] at h
        obtain ⟨inside, rest', rfl, hinside, hrest⟩ := ih (by simpa [IsQuote] using hquote) h
        exact .quotation hquote hinside hrest
      · rw [if_neg hquote] at ih
        have hcut : ¬(c = '-' ∧ rest.head? = some '-') := by
          rintro ⟨hc, hhead⟩
          obtain ⟨rest', rfl⟩ := List.head?_eq_some_iff.1 hhead
          exact hhyphens rest' hc rfl
        rw [quotesClose_none_cons hquote hcut] at h
        exact .plain hquote hcut (ih (by simp) h)
  | case4 q => cases h
  | case5 q => cases h
  | case6 q c rest ih =>
      obtain ⟨inside, rest', rfl, hinside, hrest⟩ := ih hopened h
      exact ⟨'\\' :: c :: inside, rest', rfl, .escape hinside, hrest⟩
  | case7 q c rest hlast hescape ih =>
      by_cases hquote : c = q
      · rw [if_pos hquote] at ih
        rw [hquote, quotesClose_some_quote (hopened q rfl)] at h
        exact ⟨[], rest, by rw [hquote]; rfl, .nil, ih (by simp) h⟩
      · rw [if_neg hquote] at ih
        have hbackslash : c ≠ '\\' := by
          rintro rfl
          cases rest with
          | nil => exact hlast rfl rfl
          | cons d rest => exact hescape d rest rfl rfl
        rw [quotesClose_some_cons hbackslash hquote] at h
        obtain ⟨inside, rest', rfl, hinside, hrest⟩ := ih hopened h
        exact ⟨c :: inside, rest', rfl, .plain hbackslash hquote hinside, hrest⟩

/-- The scanner accepts exactly the grammar. -/
theorem quotesClose_iff {s : List Char} : quotesClose none s = true ↔ WellQuoted s :=
  ⟨completes_of_quotesClose (by simp), WellQuoted.quotesClose⟩

theorem hasUnbalancedQuotes_iff {line : List Char} :
    hasUnbalancedQuotes line = true ↔
      (line.count '"' % 2 = 1 ∨ line.count '\'' % 2 = 1) ∧ ¬WellQuoted line := by
  simp [hasUnbalancedQuotes, ← quotesClose_iff]

/-! ## lines with one kind of quote -/

/-- Without escapes, comments and the other kind of quote, every quote opens or closes. -/
theorem quotesClose_iff_even {q : Char} (hquote : IsQuote q) {s : List Char}
    (hother : ∀ c ∈ s, IsQuote c → c = q) (hbackslash : '\\' ∉ s)
    (hhyphens : ¬['-', '-'] <:+: s) :
    (quotesClose none s = true ↔ s.count q % 2 = 0) ∧
      (quotesClose (some q) s = true ↔ s.count q % 2 = 1) := by
  induction s with
  | nil => simp [quotesClose]
  | cons c s ih =>
      obtain ⟨hnone, hsome⟩ := ih (fun d hd => hother d (List.mem_cons_of_mem c hd))
        (fun h => hbackslash (List.mem_cons_of_mem c h))
        (fun h => hhyphens (h.trans (List.suffix_cons c s).isInfix))
      by_cases hc : c = q
      · subst hc
        rw [quotesClose_none_quote hquote, quotesClose_some_quote hquote, hnone, hsome,
          List.count_cons_self]
        omega
      · have hplain : ¬IsQuote c := fun h => hc (hother c List.mem_cons_self h)
        have hcut : ¬(c = '-' ∧ s.head? = some '-') := by
          rintro ⟨rfl, hhead⟩
          obtain ⟨rest, rfl⟩ := List.head?_eq_some_iff.1 hhead
          exact hhyphens ⟨[], rest, rfl⟩
        have hne : c ≠ '\\' := by
          rintro rfl
          exact hbackslash List.mem_cons_self
        rw [quotesClose_none_cons hplain hcut, quotesClose_some_cons hne hc,
          List.count_cons_of_ne hc]
        exact ⟨hnone, hsome⟩

/-- Such a line is reported if and only if it has an odd number of quotes. -/
theorem hasUnbalancedQuotes_iff_odd {line : List Char} (hkind : '"' ∉ line ∨ '\'' ∉ line)
    (hbackslash : '\\' ∉ line) (hhyphens : ¬['-', '-'] <:+: line) :
    hasUnbalancedQuotes line = true ↔ (line.count '"' + line.count '\'') % 2 = 1 := by
  rw [hasUnbalancedQuotes_iff, ← quotesClose_iff]
  rcases hkind with hdouble | hsingle
  · have hother : ∀ c ∈ line, IsQuote c → c = '\'' := by
      rintro c hc (rfl | rfl)
      · exact absurd hc hdouble
      · rfl
    have heven := (quotesClose_iff_even (.inr rfl) hother hbackslash hhyphens).1
    rw [heven, List.count_eq_zero.2 hdouble]
    omega
  · have hother : ∀ c ∈ line, IsQuote c → c = '"' := by
      rintro c hc (rfl | rfl)
      · rfl
      · exact absurd hc hsingle
    have heven := (quotesClose_iff_even (.inl rfl) hother hbackslash hhyphens).1
    rw [heven, List.count_eq_zero.2 hsingle]
    omega

/-- For every line:

* the scanner accepts it if and only if it is a sequence of characters that stand for
  themselves and closed quotations, with or without a comment at the end;
* it is reported if and only if one kind of quote occurs an odd number of times, wherever on
  the line, and it is no such sequence;
* without backslashes, without two hyphens in a row and with one kind of quote at most, it is
  reported if and only if the number of its quotes is odd. -/
theorem unbalanced_iff_grammar (line : List Char) :
    (quotesClose none line = true ↔ WellQuoted line) ∧
    (hasUnbalancedQuotes line = true ↔
      (line.count '"' % 2 = 1 ∨ line.count '\'' % 2 = 1) ∧ ¬WellQuoted line) ∧
    ('"' ∉ line ∨ '\'' ∉ line → '\\' ∉ line → ¬['-', '-'] <:+: line →
      (hasUnbalancedQuotes line = true ↔ (line.count '"' + line.count '\'') % 2 = 1)) :=
  ⟨quotesClose_iff, hasUnbalancedQuotes_iff, hasUnbalancedQuotes_iff_odd⟩

/-- A hyphen in front of a quotation, an escaped quote in it and an apostrophe in the comment. -/
example : hasUnbalancedQuotes "x = -\"\\\"\" -- don't".toList = false := rfl

end ScriptComposer.Script
