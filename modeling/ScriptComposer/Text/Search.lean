/-!
# ScriptComposer.Text.Search

Substrings.

* `occursIn_iff` — the search finds exactly the contiguous parts of a text.
-/

namespace ScriptComposer.Text

/-- Does `needle` stand somewhere in the text, as a contiguous part? -/
def occursIn (needle : List Char) : List Char → Bool
  | [] => needle.isEmpty
  | c :: rest => needle.isPrefixOf (c :: rest) || occursIn needle rest

/-- The search finds exactly the contiguous parts of a text. -/
theorem occursIn_iff {needle s : List Char} : occursIn needle s = true ↔ needle <:+: s := by
  induction s with
  | nil => simp [occursIn]
  | cons c r ih =>
      rw [occursIn, Bool.or_eq_true, ih, List.isPrefixOf_iff_prefix, List.infix_cons_iff]

end ScriptComposer.Text
