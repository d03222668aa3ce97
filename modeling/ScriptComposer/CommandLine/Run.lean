import ScriptComposer.Catalog.Builtin
import ScriptComposer.Catalog.Search
import ScriptComposer.CommandLine.Options
import ScriptComposer.Program.Sort
import ScriptComposer.Storage

/-!
# ScriptComposer.CommandLine.Run

What the command line does: list the functions of the catalog, check a script,
or generate one.

A run is described by what it leaves behind: the tree of files, the text it
prints, the steps it announces and the notices it gives; if it fails, the
failure comes with what was left behind until then.
-/

namespace ScriptComposer.CommandLine

/-! ## what a run leaves behind -/

structure Step where
  task : String
  label : String
  number : Nat
  total : Nat
  deriving DecidableEq, Repr

def barLength : Nat := 14

/-- A bar that shows how far a task has come, rounded to the nearest place. -/
def bar (number total : Nat) : String :=
  let filled := (number * barLength + total / 2) / total
  String.ofList
    ('[' :: List.replicate filled '=' ++ List.replicate (barLength - filled) '-' ++ [']'])

def Step.line (s : Step) : String :=
  "[" ++ s.task ++ "] " ++ s.label ++ "... (" ++ String.ofList (Text.writeNat s.number) ++ "/" ++
    String.ofList (Text.writeNat s.total) ++ ") " ++ bar s.number s.total

/-- Something worth noting. -/
inductive Notice where
  | finding (f : Script.Finding)
  | written (p : Path) (bytes : Nat)
  | valid (p : Path)
  deriving DecidableEq, Repr

def Notice.line : Notice → String
  | .finding f =>
      "WARN " ++ f.fault.message ++ " line=" ++ String.ofList (Text.writeNat f.line) ++
        " code=\"" ++ f.fault.code ++ "\""
  | .written p bytes =>
      "INFO wrote script path=" ++ p.text ++ " bytes=" ++ String.ofList (Text.writeNat bytes)
  | .valid p => "INFO script is structurally valid path=" ++ p.shown

/-- What a run has left behind. -/
structure Trace where
  tree : FileTree
  printed : String
  steps : List Step
  notices : List Notice
  deriving DecidableEq

/-- A task that leaves a trace and can fail. -/
abbrev Task := EStateM Failure Trace

def announce (task label : String) (number total : Nat) : Task Unit :=
  modify fun t => { t with steps := t.steps ++ [⟨task, label, number, total⟩] }

/-- Give a notice. -/
def note (n : Notice) : Task Unit := modify fun t => { t with notices := t.notices ++ [n] }

def print (s : String) : Task Unit := modify fun t => { t with printed := t.printed ++ s }

/-- Look at the tree; a failure to do so is a failure of the task. -/
def look {α : Type} (f : FileTree → Except Failure α) : Task α := fun t =>
  match f t.tree with
  | .ok a => .ok a t
  | .error e => .error e t

/-! ## listing -/

def functionLines (f : ApiFunction) : List String :=
  ("  " ++ f.signature) :: if f.description = "" then [] else ["      " ++ f.description]

def categoryLines (c : Category) : List String := c.name :: c.functions.flatMap functionLines

/-- The listing of a catalog, or of what a search finds in it. -/
def listing (catalog : Catalog) (search : Option String) : String :=
  let shown :=
    match search with
    | some term => catalog.search term
    | none => catalog.categories
  String.join ((shown.flatMap categoryLines).map (· ++ "\n"))

/-! ## reading the input -/

/-- The absolute path of the input, which must be a file. -/
def inputFile (t : FileTree) (p : Path) : Except Failure Path :=
  match t.locate p with
  | .error _ => throw (.inputNotFound p)
  | .ok l =>
      match t.at? l with
      | some (.file _) => return FileTree.pathOf l
      | _ => throw (.inputNotFound p)

/-- The text of the script in a file. -/
def scriptText (t : FileTree) (p : Path) : Except Failure String :=
  (t.readText p).mapError .unreadableScript

/-! ## tasks -/

/-- The file of a script, the structure of which must be right. -/
def examine (input : Path) : Task Path := do
  announce "Check" "Reading script" 1 2
  let input ← look (inputFile · input)
  let text ← look (scriptText · input)
  announce "Check" "Checking block and quote balance" 2 2
  let report := Script.validate text
  unless report.isValid do throw (.badStructure input report)
  return input

/-- Check the script in a file. -/
def check (input : Path) : Task Unit := do
  note (.valid (← examine input))

/-- Write a script to where it is asked for. -/
def write (scratch : Scratch) (target : Path) (script : String) : Task Unit := fun t =>
  match exportWith scratch target script t.tree with
  | .ok p tree => note (.written p script.utf8ByteSize) { t with tree }
  | .error e tree => .error e { t with tree }

/-- How many steps it takes to generate a script. -/
def generateSteps (o : Options) : Nat :=
  3 + (if o.clean then 1 else 0) + (if o.output.isSome then 1 else 0)

/-- Generate the script of the program in a file, and check its structure. -/
def compose (o : Options) (input : Path) : Task (String × Script.Report) := do
  let total := generateSteps o
  let cleaning := if o.clean then 1 else 0
  announce "Generate" "Loading statements" 1 total
  let input ← look (inputFile · input)
  let program ← look (loadProgram · input)
  if o.clean then announce "Generate" "Removing disabled statements" 2 total
  let program := if o.clean then program.removeDisabled else program
  announce "Generate" "Generating script" (2 + cleaning) total
  let script := Script.generate o.indent program.statements
  announce "Generate" "Checking block and quote balance" (3 + cleaning) total
  let report := Script.validate script
  if o.strict && !report.isValid then throw (.badStructure input report)
  return (script, report)

/-- Note what was found in a script, and print it or write it. -/
def deliver (scratch : Scratch) (o : Options) (script : String) (report : Script.Report) :
    Task Unit := do
  report.findings.forM fun f => note (.finding f)
  match o.output with
  | some output => do
      announce "Generate" "Writing script" (generateSteps o) (generateSteps o)
      write scratch ⟨output⟩ script
  | none => print script

/-- Generate the script of the program in a file, and print it or write it. -/
def generate (scratch : Scratch) (o : Options) (input : Path) : Task Unit := do
  let (script, report) ← compose o input
  deliver scratch o script report

/-- Do what the options ask for. -/
def run (scratch : Scratch) (o : Options) : Task Unit :=
  if o.listFunctions then print (listing Catalog.builtin o.search)
  else
    match o.input with
    | none => throw .noInput
    | some input =>
        if o.check then
          if o.output.isSome then throw .outputWithCheck else check ⟨input⟩
        else generate scratch o ⟨input⟩

def Trace.start (tree : FileTree) : Trace := ⟨tree, "", [], []⟩

/-- Do what the options ask for in a tree, on a disk of some kind. -/
def runOn (scratch : Scratch) (tree : FileTree) (o : Options) :
    EStateM.Result Failure Trace Unit :=
  run scratch o (.start tree)

/-- Do what the options ask for in a tree, on a disk that refuses nothing. -/
def runIn (tree : FileTree) (o : Options) : EStateM.Result Failure Trace Unit :=
  runOn .ample tree o

end ScriptComposer.CommandLine
