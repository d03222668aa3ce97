import ScriptComposer.Text.Lines

/-!
# ScriptComposer.FileTree.Path

Paths as they are written: parts between slashes, an absolute path beginning
with a slash.

An empty part and a single point both mean "stay here"; a path that ends in a
slash therefore asks for a directory, because one can only stay in one.
-/

namespace ScriptComposer

/-- A path as it is written. -/
structure Path where
  text : String
  deriving DecidableEq, Repr

namespace Path

/-- Does the path start at the root? -/
def isAbsolute (p : Path) : Bool :=
  match p.text.toList with
  | '/' :: _ => true
  | _ => false

/-- Does the path hold a NUL character?  No entry can be named with one. -/
def holdsNul (p : Path) : Bool := p.text.toList.contains '\x00'

/-- The parts between the slashes. -/
def parts (p : Path) : List String := (Text.splitAt '/' p.text.toList).map String.ofList

/-- Does a part mean "stay here"? -/
def isIdle (part : String) : Bool := part = "" || part = "."

/-- Does a part name no entry of a directory? -/
def isDots (part : String) : Bool := isIdle part || part = ".."

/-- The parts that lead somewhere. -/
def steps (p : Path) : List String := p.parts.filter (!isIdle ·)

/-- Does the path end in a slash? -/
def endsInSlash (p : Path) : Bool := p.text.toList.getLast? = some '/'

/-- The path of an entry of the directory `p`. -/
def join (p : Path) (name : String) : Path :=
  if p.text = "" || p.endsInSlash then ⟨p.text ++ name⟩ else ⟨p.text ++ "/" ++ name⟩

/-- Parts, last first, without those at the end that stay where they are; the very
first part always counts. -/
def dropIdle : List String → List String
  | [] => []
  | [first] => [first]
  | part :: before => if isIdle part then dropIdle before else part :: before

def ofParts : List String → Path
  | [""] => ⟨"/"⟩
  | parts => ⟨"/".intercalate parts⟩

/-- The path without its last part; of a single part nothing is left. -/
def parent (p : Path) : Path :=
  match dropIdle p.parts.reverse with
  | [] => ⟨""⟩
  | _ :: before => ofParts (dropIdle before).reverse

/-- The directory that the path names an entry of. -/
def directory (p : Path) : Path := if p.parent.text = "" then ⟨"."⟩ else p.parent

/-- The mark of paths that were made long on purpose. -/
def longMark : List Char := ['\\', '\\', '?', '\\']

/-- The path as it is shown: without the mark of a long path. -/
def shown (p : Path) : String :=
  if longMark.isPrefixOf p.text.toList then String.ofList (p.text.toList.drop longMark.length)
  else p.text

end Path

end ScriptComposer
