import ScriptComposer.FileTree.Change

/-!
# ScriptComposer.FileTree.Unfinished

Finishing a file before it takes its place.

A file is first written under a name that no other file has, in the directory it is
meant for, and is then moved to where it belongs.  The disk can refuse each of the three
steps, for reasons of its own; the unfinished file is then removed again.
-/

namespace ScriptComposer

/-- What a disk does with unfinished files: how it names them, and whether it lets them be
made, written and moved. -/
structure Scratch where
  /-- The name of an unfinished file in a directory. -/
  name : FileTree → Path → String
  make : Path → Except FileError Unit
  fill : ByteArray → Except FileError Unit
  move : Path → Except FileError Unit

namespace Scratch

/-- A name for an unfinished file. -/
def numberedName (n : Nat) : String := ".tmp" ++ String.ofList (Text.writeNat n)

/-- A disk that refuses nothing, and gives an unfinished file the first numbered name that
is not in use. -/
def ample : Scratch where
  name t directory :=
    let isFree := fun n =>
      match t.walk (t.start directory) directory.parts with
      | .ok here => (t.at? (here ++ [numberedName n])).isNone
      | .error _ => true
    numberedName (((List.range t.entries.length).find? isFree).getD t.entries.length)
  make _ := .ok ()
  fill _ := .ok ()
  move _ := .ok ()

end Scratch

/-- Why a file was not finished. -/
inductive Unfinished where
  | notMade (p : Path) (e : FileError)
  | notFilled (p : Path) (e : FileError)
  | notMoved (e : FileError)
  deriving DecidableEq, Repr

namespace FileTree

/-- The tree with a new file that is still empty, and the location of the file; it does not
take the place of anything. -/
def newFile (t : FileTree) (s : Slot) : Except FileError (Location × FileTree) :=
  if (t.at? s.location).isSome then throw .exists
  else return (s.location, t.put s.location (.file .empty))

/-- The tree with the file at a location moved to where a path says. -/
def moveFile (t : FileTree) (l : Location) (p : Path) : Except FileError FileTree :=
  match t.at? l with
  | some (.file bytes) => (t.remove l).replaceFile p bytes
  | _ => throw .notFound

/-- The absolute path of an entry of a directory. -/
def pathIn (t : FileTree) (directory : Path) (name : String) : Path :=
  if directory.isAbsolute then directory.join name
  else ((pathOf t.workingDirectory).join directory.text).join name

/-- Finish a file in a directory and put it in place of what a path names.  What was made of
it is removed if that fails. -/
def finishFile (scratch : Scratch) (directory p : Path) (bytes : ByteArray) :
    EStateM Unfinished FileTree Unit := fun t =>
  let name := scratch.name t directory
  let unfinished := t.pathIn directory name
  let made := do
    scratch.make unfinished
    t.newFile (← t.slot (t.start directory) directory.parts name)
  match made with
  | .error e => .error (.notMade unfinished e) t
  | .ok (l, t) =>
      match scratch.fill bytes with
      | .error e => .error (.notFilled unfinished e) (t.remove l)
      | .ok () =>
          let t := t.put l (.file bytes)
          let moved := do
            scratch.move p
            t.moveFile l p
          match moved with
          | .error e => .error (.notMoved e) (t.remove l)
          | .ok t => .ok () t

end FileTree

end ScriptComposer
