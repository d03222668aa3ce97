/-!
# ScriptComposer.Script.Quotes

Does every quotation on a line end on that line?

A quotation starts at a single or double quote and ends at the next quote of
the same kind; inside it, a backslash takes the next character with it and
the other kind of quote means nothing.  Two hyphens outside of a quotation
start a comment, and what a comment says is not looked at.

The check is for people who forget a quote, so a line is reported only if it
also has an odd number of quotes of one kind.
-/

namespace ScriptComposer.Script

/-- Is every quotation closed at the end of the line, `opened` being the quote of
the one that the text starts in? -/
def quotesClose : Option Char → List Char → Bool
  | none, [] => true
  | none, '-' :: '-' :: _ => true
  | none, c :: rest => quotesClose (if c = '"' ∨ c = '\'' then some c else none) rest
  | some _, [] => false
  | some _, ['\\'] => false
  | some q, '\\' :: _ :: rest => quotesClose (some q) rest
  | some q, c :: rest => quotesClose (if c = q then none else some q) rest

/-- Is a quote missing on the line?  Then one kind of quote occurs an odd number
of times, and some quotation does not end. -/
def hasUnbalancedQuotes (line : List Char) : Bool :=
  (line.count '"' % 2 == 1 || line.count '\'' % 2 == 1) && !quotesClose none line

/-! ## equations of the scanner -/

/-- The two characters that open a quotation. -/
def IsQuote (c : Char) : Prop := c = '"' ∨ c = '\''

/-- Outside of a quotation a character that stands for itself is passed over. -/
theorem quotesClose_none_cons {c : Char} {s : List Char} (hquote : ¬IsQuote c)
    (hhyphens : ¬(c = '-' ∧ s.head? = some '-')) :
    quotesClose none (c :: s) = quotesClose none s := by
  have hopens : ¬(c = '"' ∨ c = '\'') := hquote
  rw [quotesClose]
  · rw [if_neg hopens]
  · intro rest hc hs
    exact hhyphens ⟨hc, by rw [hs]; rfl⟩

theorem quotesClose_none_quote {q : Char} (h : IsQuote q) (s : List Char) :
    quotesClose none (q :: s) = quotesClose (some q) s := by
  rcases h with rfl | rfl <;> simp [quotesClose]

theorem quotesClose_some_quote {q : Char} (h : IsQuote q) (s : List Char) :
    quotesClose (some q) (q :: s) = quotesClose none s := by
  rcases h with rfl | rfl <;> simp [quotesClose]

theorem quotesClose_some_cons {q c : Char} (hbackslash : c ≠ '\\') (hquote : c ≠ q)
    (s : List Char) : quotesClose (some q) (c :: s) = quotesClose (some q) s := by
  simp [quotesClose, hbackslash, hquote]

end ScriptComposer.Script
