import ScriptComposer.FileTree.Path
import ScriptComposer.Text.Decimal

/-!
# ScriptComposer.FileTree

A tree of files and directories, and how paths lead through it.

Every entry has a location, the names on the way to it from the root.  A path
is walked part by part, from the working directory or the root; each part can
only be taken in a directory.

* `at?_put` — what a tree holds after an entry was put into it.
-/

namespace ScriptComposer

/-- Why something could not be done with a file. -/
inductive FileError where
  | notFound
  | busy
  | exists
  | notDirectory
  | isDirectory
  | nameTooLong
  /-- Anything else that the system refuses, with its words and number. -/
  | refused (words : String) (number : Nat)
  /-- The path holds a NUL character. -/
  | badName
  /-- A finished file cannot be put there, for the path holds a NUL character. -/
  | badTarget
  /-- The file is not text in UTF-8. -/
  | notText
  deriving DecidableEq, Repr

namespace FileError

/-- An error of the system, with its number. -/
def numbered (words : String) (n : Nat) : String :=
  words ++ " (os error " ++ String.ofList (Text.writeNat n) ++ ")"

def message : FileError → String
  | .notFound => numbered "No such file or directory" 2
  | .busy => numbered "Device or resource busy" 16
  | .exists => numbered "File exists" 17
  | .notDirectory => numbered "Not a directory" 20
  | .isDirectory => numbered "Is a directory" 21
  | .nameTooLong => numbered "File name too long" 36
  | .refused words number => numbered words number
  | .badName => "file name contained an unexpected NUL byte"
  | .badTarget => numbered "Invalid argument" 22
  | .notText => "stream did not contain valid UTF-8"

end FileError

/-- A file with its bytes, or a directory. -/
inductive Entry where
  | directory
  | file (bytes : ByteArray)

/-- Files are equal if their bytes are. -/
instance : DecidableEq Entry
  | .directory, .directory => isTrue rfl
  | .file a, .file b =>
      if h : a.data = b.data then isTrue (congrArg Entry.file (ByteArray.ext h))
      else isFalse fun e => h (congrArg ByteArray.data (Entry.file.inj e))
  | .directory, .file _ => isFalse Entry.noConfusion
  | .file _, .directory => isFalse Entry.noConfusion

/-- A place in a tree: the names that lead there from the root. -/
abbrev Location := List String

/-- Files and directories.  The root is a directory without being listed. -/
structure FileTree where
  entries : List (Location × Entry)
  /-- The location that relative paths start from. -/
  workingDirectory : Location
  deriving DecidableEq

namespace FileTree

/-! ## entries -/

/-- What is at a location. -/
def at? (t : FileTree) : Location → Option Entry
  | [] => some .directory
  | l => t.entries.lookup l

/-- The tree with an entry at a location, in place of the one that was there. -/
def put (t : FileTree) (l : Location) (e : Entry) : FileTree :=
  { t with entries := (l, e) :: t.entries.filter (·.1 ≠ l) }

/-- The tree without the entry at a location. -/
def remove (t : FileTree) (l : Location) : FileTree :=
  { t with entries := t.entries.filter (·.1 ≠ l) }

/-- What a tree holds after an entry was put into it. -/
theorem at?_put {t : FileTree} {l : Location} {e : Entry} (h : l ≠ []) (m : Location) :
    (t.put l e).at? m = if m = l then some e else t.at? m := by
  have hf : ∀ es : List (Location × Entry), m ≠ l →
      (es.filter fun x => x.1 ≠ l).lookup m = es.lookup m := by
    intro es hne
    induction es with
    | nil => rfl
    | cons x es ih =>
        obtain ⟨k, v⟩ := x
        by_cases hk : k = l
        · have hb : (m == k) = false := by simpa [hk] using hne
          rw [List.filter_cons_of_neg (by simp [hk]), List.lookup_cons, hb]
          exact ih
        · rw [List.filter_cons_of_pos (by simp [hk]), List.lookup_cons, List.lookup_cons, ih]
  cases m with
  | nil => simp [at?, h.symm]
  | cons a m =>
      by_cases hl : a :: m = l
      · subst hl
        simp [at?, put]
      · have hb : (a :: m == l) = false := by simpa using hl
        rw [at?, put, List.lookup_cons, hb, hf t.entries hl, if_neg hl, at?] <;> simp

/-! ## walking -/

/-- The longest name of an entry, in bytes. -/
def nameLimit : Nat := 255

/-- The longest path, in bytes. -/
def pathLimit : Nat := 4095

/-- Is the name too long for an entry? -/
def isTooLong (name : String) : Bool := name.utf8ByteSize > nameLimit

/-- Take a part of a path. -/
def enter (t : FileTree) (here : Location) (part : String) : Except FileError Location :=
  match t.at? here with
  | none => throw .notFound
  | some (.file _) => throw .notDirectory
  | some .directory =>
      if Path.isIdle part then return here
      else if part = ".." then return here.dropLast
      else if isTooLong part then throw .nameTooLong
      else if (t.at? (here ++ [part])).isSome then return here ++ [part]
      else throw .notFound

/-- Take parts one after the other. -/
def walk (t : FileTree) (here : Location) (parts : List String) : Except FileError Location :=
  parts.foldlM t.enter here

/-- The locations on the way of a path, from where it starts. -/
def way (here : Location) (parts : List String) : List Location :=
  match parts with
  | [] => []
  | part :: rest =>
      let next :=
        if Path.isIdle part then here
        else if part = ".." then here.dropLast
        else here ++ [part]
      next :: way next rest

/-- Where a path starts. -/
def start (t : FileTree) (p : Path) : Location := if p.isAbsolute then [] else t.workingDirectory

/-- What is wrong with a path before any part of it is taken. -/
def checkPath (p : Path) : Except FileError Unit :=
  if p.holdsNul then throw .badName
  else if p.text = "" then throw .notFound
  else if p.text.utf8ByteSize > pathLimit then throw .nameTooLong
  else return ()

/-- Where a path leads. -/
def locate (t : FileTree) (p : Path) : Except FileError Location := do
  checkPath p
  t.walk (t.start p) p.parts

/-- What a path leads to. -/
def find? (t : FileTree) (p : Path) : Option Entry :=
  match t.locate p with
  | .ok l => t.at? l
  | .error _ => none

/-- Does the path lead to a directory? -/
def isDirectory (t : FileTree) (p : Path) : Bool :=
  match t.find? p with
  | some .directory => true
  | _ => false

/-- A location as an absolute path. -/
def pathOf (l : Location) : Path := ⟨"/" ++ "/".intercalate l⟩

/-! ## reading -/

/-- The bytes of the file that a path leads to. -/
def read (t : FileTree) (p : Path) : Except FileError ByteArray := do
  match t.at? (← t.locate p) with
  | some (.file bytes) => return bytes
  | some .directory => throw .isDirectory
  | none => throw .notFound

/-- The text of the file that a path leads to. -/
def readText (t : FileTree) (p : Path) : Except FileError String := do
  match String.fromUTF8? (← t.read p) with
  | some s => return s
  | none => throw .notText

end FileTree

end ScriptComposer
