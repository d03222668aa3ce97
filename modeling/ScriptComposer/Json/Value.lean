import ScriptComposer.Json.Node

/-!
# ScriptComposer.Json.Value

JSON values as they are written: no damage, and no choice of escapes.  There
are no numbers among them, since neither statements nor catalogs have any.

A value is written over several lines, two spaces to a level, an item or member
a line; an empty container stays on its line.
-/

namespace ScriptComposer.Json

/-- A value to be written. -/
inductive Value where
  | null
  | boolean (b : Bool)
  | text (s : String)
  | array (items : List Value)
  | object (members : List (String × Value))

/-! ## the node that a value is -/

mutual

/-- The value as a reader finds it. -/
def Value.toNode : Value → Node
  | .null => .null
  | .boolean b => .boolean b
  | .text s => .text (.ofString s)
  | .array items => .array (itemNodes items) .closed
  | .object members => .object (memberNodes members) .closed

/-- Items as a reader finds them. -/
def itemNodes : List Value → List Node
  | [] => []
  | v :: rest => v.toNode :: itemNodes rest

/-- Members as a reader finds them. -/
def memberNodes : List (String × Value) → List (Literal × Node)
  | [] => []
  | (name, v) :: rest => (.ofString name, v.toNode) :: memberNodes rest

end

/-! ## written over several lines -/

/-- The beginning of a line at a level. -/
def newline (level : Nat) : List Char := '\n' :: List.replicate (2 * level) ' '

mutual

/-- The value from where it begins; the lines it goes on over are at the given
level. -/
def Value.write (level : Nat) : Value → List Char
  | .null => ['n', 'u', 'l', 'l']
  | .boolean true => ['t', 'r', 'u', 'e']
  | .boolean false => ['f', 'a', 'l', 's', 'e']
  | .text s => writeText s
  | .array [] => ['[', ']']
  | .array (v :: rest) =>
      '[' :: newline (level + 1) ++ v.write (level + 1) ++ writeItems (level + 1) rest ++
        newline level ++ [']']
  | .object [] => ['\x7b', '\x7d']
  | .object ((name, v) :: rest) =>
      '\x7b' :: newline (level + 1) ++ writeText name ++ ':' :: ' ' :: v.write (level + 1) ++
        writeMembers (level + 1) rest ++ newline level ++ ['\x7d']

/-- Items that follow another one. -/
def writeItems (level : Nat) : List Value → List Char
  | [] => []
  | v :: rest => ',' :: newline level ++ v.write level ++ writeItems level rest

/-- Members that follow another one. -/
def writeMembers (level : Nat) : List (String × Value) → List Char
  | [] => []
  | (name, v) :: rest =>
      ',' :: newline level ++ writeText name ++ ':' :: ' ' :: v.write level ++
        writeMembers level rest

end

def Value.toText (v : Value) : String := String.ofList (v.write 0)

end ScriptComposer.Json
