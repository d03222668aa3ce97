/-!
# ScriptComposer.Text.Order

The order of texts: by the first character in which they differ, the smaller
code point first; the beginning of a text comes before the text.
-/

namespace ScriptComposer.Text

/-- Does the first text come before the second, or are they equal? -/
def le : List Char → List Char → Bool
  | [], _ => true
  | _ :: _, [] => false
  | a :: s, b :: t => if a = b then le s t else decide (a.toNat < b.toNat)

end ScriptComposer.Text
