import ScriptComposer.FileTree.Unfinished
import ScriptComposer.Program
import ScriptComposer.Script.Layout
import ScriptComposer.Script.Report
import ScriptComposer.Statement.Format
import ScriptComposer.Text.Visible

/-!
# ScriptComposer.Storage

Programs and scripts in files.

A program is kept as JSON and written where it is.  A script is exported: it is
finished first and then takes the place of what was there, so no half of a
script can be left behind, and directories that are missing on the way are
made.
-/

namespace ScriptComposer

/-! ## failures -/

/-- Why a task could not be done. -/
inductive Failure where
  | noInput
  | outputWithCheck
  | inputNotFound (p : Path)
  | unreadableScript (e : FileError)
  | unreadableProgram (p : Path) (e : FileError)
  | badProgram (p : Path) (e : Json.ReadError)
  | badStructure (p : Path) (r : Script.Report)
  | noDirectory (p : Path) (e : FileError)
  | noUnfinishedScript (p : Path) (e : FileError)
  | scriptNotFinished (p : Path) (e : FileError)
  | scriptNotWritten (p : Path) (e : FileError)
  | programNotWritten (p : Path) (e : FileError)
  deriving DecidableEq, Repr

def singleQuoted (s : String) : String := "'" ++ s ++ "'"

def reportText (p : Path) (r : Script.Report) : String :=
  "Script " ++ singleQuoted p.shown ++ " has " ++
    String.ofList (Text.writeNat r.findings.length) ++ " structural error(s):" ++
    String.join (r.findings.map fun f =>
      "\n  line " ++ String.ofList (Text.writeNat f.line) ++ ": " ++ f.fault.message)

/-- An error with the path it was met at. -/
def messageAt (p : Path) (e : FileError) : String := e.message ++ " at path " ++ Text.visible p.text

/-- The failure in words, from the task that failed to what made it fail. -/
def Failure.chain : Failure → List String
  | .noInput => ["An INPUT file is required."]
  | .outputWithCheck => ["OUTPUT cannot be used with --check."]
  | .inputNotFound p => ["Input file not found: " ++ singleQuoted p.text ++ "."]
  | .unreadableScript e => [e.message]
  | .unreadableProgram p e => ["Failed to read " ++ singleQuoted p.text ++ ".", e.message]
  | .badProgram p e => ["Invalid statement file " ++ singleQuoted p.shown ++ ".", e.message]
  | .badStructure p r => [reportText p r]
  | .noDirectory p e =>
      ["Failed to create output directory " ++ singleQuoted p.text ++ ".", e.message]
  | .noUnfinishedScript p e =>
      ["Failed to create temporary script file in output directory.", messageAt p e]
  | .scriptNotFinished p e => [messageAt p e]
  | .scriptNotWritten p e =>
      ["Failed to write script to " ++ singleQuoted p.text ++ ".",
        "failed to persist temporary file: " ++ e.message, e.message]
  | .programNotWritten p e => ["Failed to write " ++ singleQuoted p.text ++ ".", e.message]

/-! ## programs -/

/-- The script of a program's text. -/
def compile (source : String) (width : Nat) : Json.Reading String :=
  Script.generate width <$> scriptFormat.ofText source

def loadProgram (t : FileTree) (p : Path) : Except Failure Program :=
  match t.readText p with
  | .error e => throw (.unreadableProgram p e)
  | .ok source =>
      match scriptFormat.ofText source with
      | .error e => throw (.badProgram p e)
      | .ok statements => return .ofStatements statements

/-- The tree with a program in a file. -/
def saveProgram (t : FileTree) (p : Path) (program : Program) : Except Failure FileTree :=
  match t.writeFile p (scriptFormat.toText program.statements).toUTF8 with
  | .error e => throw (.programNotWritten p e)
  | .ok t => return t

/-! ## scripts -/

/-- The name of a script that is exported to a directory. -/
def scriptName : String := "script.lua"

/-- The type of the exported content. -/
def scriptType : String := "text/plain"

/-- Where a script goes: into the target if that is a directory. -/
def scriptPath (t : FileTree) (target : Path) : Path :=
  if t.isDirectory target then target.join scriptName else target

/-- Export a script.  The result is the path it was written to. -/
def exportWith (scratch : Scratch) (target : Path) (script : String) :
    EStateM Failure FileTree Path := fun t =>
  let p := scriptPath t target
  match FileTree.makeDirectories p.directory t with
  | .error e t => .error (.noDirectory p.directory e) t
  | .ok () t =>
      match FileTree.finishFile scratch p.directory p script.toUTF8 t with
      | .error (.notMade q e) t => .error (.noUnfinishedScript q e) t
      | .error (.notFilled q e) t => .error (.scriptNotFinished q e) t
      | .error (.notMoved e) t => .error (.scriptNotWritten p e) t
      | .ok () t => .ok p t

/-- Export a script on a disk that refuses nothing. -/
def exportScript (target : Path) (script : String) : EStateM Failure FileTree Path :=
  exportWith .ample target script

end ScriptComposer
