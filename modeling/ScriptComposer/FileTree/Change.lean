import ScriptComposer.FileTree

/-!
# ScriptComposer.FileTree.Change

Changing a tree: making directories, putting a finished file in place of what a
path names, writing a file where it is.

A change that fails may have done something before; only directories are ever
left behind, since a file appears as a whole or not at all.
-/

namespace ScriptComposer

/-- A change of a tree.  If it fails, what was done before stays done. -/
abbrev Change := EStateM FileError FileTree

namespace FileTree

/-! ## places for new entries -/

/-- Where a new entry would go: a directory and a name in it. -/
structure Slot where
  directory : Location
  name : String
  deriving DecidableEq, Repr

def Slot.location (s : Slot) : Location := s.directory ++ [s.name]

/-- The place for an entry behind some parts of a path, which must lead to a
directory. -/
def slot (t : FileTree) (here : Location) (before : List String) (name : String) :
    Except FileError Slot := do
  let directory ← t.walk here before
  let directory ← t.enter directory "."
  return ⟨directory, name⟩

/-- The place that a path names for a new entry; slashes at its end do not
count. -/
def slotOf (t : FileTree) (p : Path) : Except FileError Slot := do
  checkPath p
  match p.parts.reverse.dropWhile (· = "") with
  | [] => t.slot (t.start p) [] "."
  | name :: before => t.slot (t.start p) before.reverse name

/-! ## directories -/

/-- The tree with a new directory. -/
def makeDirectory (t : FileTree) (s : Slot) : Except FileError FileTree :=
  if Path.isDots s.name then throw .exists
  else if isTooLong s.name then throw .nameTooLong
  else if (t.at? s.location).isSome then throw .exists
  else return t.put s.location .directory

/-- Do some parts of a path lead to a directory? -/
def leadsToDirectory (t : FileTree) (here : Location) (parts : List String) : Bool :=
  match t.walk here parts with
  | .ok l => t.at? l = some .directory
  | .error _ => false

/-- Make sure that there is a directory behind some parts of a path, the last part
given by itself. -/
def ensureDirectory (here : Location) (before : List String) (name : String) : Change Unit := do
  let t ← get
  match t.slot here before name >>= t.makeDirectory with
  | .ok t' => set t'
  | .error e => unless t.leadsToDirectory here (before ++ [name]) do throw e

/-- Make sure that there is a directory behind some parts of a path, given last
first, and before it all the directories on the way. -/
def ensureDirectories (here : Location) : List String → Change Unit
  | [] => return ()
  | name :: before => do
      let t ← get
      match t.slot here before.reverse name with
      | .error .notFound => ensureDirectories here before
      | _ => pure ()
      ensureDirectory here before.reverse name

/-- Make sure that a path leads to a directory. -/
def makeDirectories (p : Path) : Change Unit := do
  let t ← get
  match checkPath p with
  | .error e => throw e
  | .ok () => ensureDirectories (t.start p) p.steps.reverse

/-! ## files -/

/-- The tree with a finished file in place of what a path names.  The file takes the
place of another file or of nothing. -/
def replaceFile (t : FileTree) (p : Path) (bytes : ByteArray) : Except FileError FileTree := do
  if p.holdsNul then throw .badTarget
  let s ← t.slotOf p
  if Path.isDots s.name then throw .busy
  if isTooLong s.name then throw .nameTooLong
  if p.endsInSlash then throw .notDirectory
  if t.at? s.location = some .directory then throw .isDirectory
  return t.put s.location (.file bytes)

/-- The tree with a file written where it is, or where it is missing. -/
def writeFile (t : FileTree) (p : Path) (bytes : ByteArray) : Except FileError FileTree := do
  let s ← t.slotOf p
  if Path.isDots s.name || p.endsInSlash then throw .isDirectory
  if isTooLong s.name then throw .nameTooLong
  if t.at? s.location = some .directory then throw .isDirectory
  return t.put s.location (.file bytes)

end FileTree

end ScriptComposer
