import ScriptComposer.Text.Visible.Table

/-!
# ScriptComposer.Text.Visible

Texts inside messages.  A message quotes what it found so that a reader sees
every character of it: quotation marks, backslashes and the usual controls
have short escapes, and whatever would be invisible or would attach to its
neighbour is shown by its code point.
-/

namespace ScriptComposer.Text

/-- How a message shows one character of a quoted text. -/
def visibleChar (c : Char) : List Char :=
  match c with
  | '\x00' => ['\\', '0']
  | '\t' => ['\\', 't']
  | '\r' => ['\\', 'r']
  | '\n' => ['\\', 'n']
  | '\\' => ['\\', '\\']
  | '"' => ['\\', '"']
  | c =>
      if extendingClass.has c || invisibleClass.has c then
        ['\\', 'u', '\x7b'] ++ Nat.toDigits 16 c.toNat ++ ['\x7d']
      else
        [c]

/-- The text between quotation marks, as a message shows it. -/
def visible (s : String) : String :=
  String.ofList ('"' :: s.toList.flatMap visibleChar ++ ['"'])

example : visible "e\u0301\u200b" = "\"e\\u\x7b301\x7d\\u\x7b200b\x7d\"" := by decide +kernel

end ScriptComposer.Text
