import ScriptComposer.CommandLine.Run

/-!
# ScriptComposer.Main

The program on the command line.

A run is computed on a picture of the file system that shows what lies on the
ways of the input and output paths.  Afterwards the changes of the picture are
made in the file system, and what the run left behind is printed: the script or
listing to standard output, all else to standard error.
-/

namespace ScriptComposer.CommandLine

/-! ## the picture -/

/-- The locations that a run with the options can come to. -/
def ways (here : Location) (o : Options) : List Location :=
  let start (p : Path) : Location := if p.isAbsolute then [] else here
  let paths := (o.input.toList ++ o.output.toList).map Path.mk
  let inside := o.output.toList.map fun s => (Path.mk s).join scriptName
  (paths ++ inside).flatMap fun p => FileTree.way (start p) p.parts

/-- The picture with what is at a location. -/
def observe (t : FileTree) (l : Location) : IO FileTree := do
  let name := (FileTree.pathOf l).text
  try
    let real ← IO.FS.realPath name
    if ← real.isDir then return t.put l .directory
    if ← real.pathExists then return t.put l (.file (← IO.FS.readBinFile name))
    return t
  catch _ => return t

/-- The picture for a run with the options. -/
def picture (o : Options) : IO FileTree := do
  let here := (Path.mk (← IO.currentDir).toString).steps
  (FileTree.way [] here ++ ways here o).foldlM observe ⟨[], here⟩

/-! ## the changes -/

/-- Make a change in the file system.  A file is finished under another name before
it takes its place. -/
def enact (l : Location) (e : Entry) : IO Unit := do
  let name := (FileTree.pathOf l).text
  match e with
  | .directory => IO.FS.createDirAll name
  | .file bytes =>
      let unfinished := name ++ ".part"
      IO.FS.writeBinFile unfinished bytes
      IO.FS.rename unfinished name

/-- Make the changes from one picture to another one.  The last entry that was put
is the first in the picture. -/
def enactAll (old new : FileTree) : IO Unit :=
  new.entries.reverse.forM fun (l, e) => do
    unless old.at? l = some e do enact l e

/-! ## the program -/

/-- What is said to somebody who asks for help or gives arguments that do not go
together. -/
def usage : String :=
  "Generate scripts from saved statements, and check the structure of scripts.\n\n" ++
    "Usage: script-composer [OPTIONS] [INPUT] [OUTPUT]\n\n" ++
    "  --check              check INPUT as a script\n" ++
    "  --strict             refuse a script with structural errors\n" ++
    "  --clean              drop disabled statements\n" ++
    "  --indent N           spaces per level (default 2)\n" ++
    "  --list-functions     list the functions of the catalog\n" ++
    "  --search TEXT        list only what contains the text\n" ++
    "  --log-level LEVEL    which notices are shown (default warn)\n" ++
    "  -h, --help           this text\n"

/-- Is the notice shown at that log level? -/
def Notice.isShown (level : String) (n : Notice) : Bool :=
  match n with
  | .finding _ => ["trace", "debug", "info", "warn"].contains level
  | .written .. | .valid _ => ["trace", "debug", "info"].contains level

/-- Print what a run left behind, and make its changes. -/
def report (o : Options) (old : FileTree) (t : Trace) : IO Unit := do
  t.steps.forM fun s => IO.eprintln s.line
  (t.notices.filter (·.isShown o.logLevel)).forM fun n => IO.eprintln n.line
  enactAll old t.tree
  IO.print t.printed

def execute (o : Options) : IO UInt32 := do
  let old ← picture o
  match runIn old o with
  | .ok () t => do
      report o old t
      return 0
  | .error f t => do
      report o old t
      IO.eprintln ("Error: " ++ "\n\nCaused by:\n    ".intercalate f.chain)
      return 1

end ScriptComposer.CommandLine

open ScriptComposer.CommandLine in
def main (args : List String) : IO UInt32 := do
  match Options.ofArguments args with
  | .ok o => execute o
  | .error .help => do
      IO.print usage
      return 0
  | .error r => do
      IO.eprint usage
      return r.exitCode.toUInt32
