/-!
# ScriptComposer.Text.Lines

Cutting text into lines and into parts between separators.

A line ends at a line feed; text after the last line feed is a line as well,
unless it is empty.  A carriage return before the line feed stays in the
line: every reader of lines trims them, and a carriage return is white space.
-/

namespace ScriptComposer.Text

def lines : List Char → List (List Char)
  | [] => []
  | c :: rest =>
      if c = '\n' then [] :: lines rest
      else
        match lines rest with
        | [] => [[c]]
        | l :: ls => (c :: l) :: ls

/-- The parts of a text between the places where `sep` stands; there is always
one more part than there are separators. -/
def splitAt (sep : Char) : List Char → List (List Char)
  | [] => [[]]
  | c :: rest =>
      match splitAt sep rest with
      | [] => [[c]]
      | part :: parts => if c = sep then [] :: part :: parts else (c :: part) :: parts

end ScriptComposer.Text
