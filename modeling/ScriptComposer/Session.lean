import ScriptComposer.Debounce
import ScriptComposer.Program.Edit
import ScriptComposer.Script.Layout
import ScriptComposer.Script.Report

/-!
# ScriptComposer.Session

An editing session: a program, the script generated from it, and the report on
the script that is shown.

The script shown is the generated one until the user begins to edit the text;
from then on it is the user's text, and what happens to the program does not
reach it, until the edit is discarded.  While the user types, the report waits
until the input has settled.

The script is generated again only when the program's version is another one
than at the last time.  Every edit of a program that changes it counts the
version up, so the script is up to date after a refresh; a program that is
replaced as a whole can have the version of the one before by accident.
-/

namespace ScriptComposer

/-- The text that is shown: the generated script, or the user's own text, which
may have been committed. -/
inductive ShownText where
  | generated
  | edited (text : String) (committed : Bool)
  deriving DecidableEq, Repr

/-- The delay of the debounce, in milliseconds, unless another is asked for. -/
def defaultDelay : Nat := 500

/-- An editing session. -/
structure Session where
  program : Program
  /-- The width of a level of indentation. -/
  indent : Nat
  debounce : Debounce
  /-- The script that was generated last. -/
  generated : String
  /-- The version of the program it was generated from. -/
  generatedVersion : Nat
  shown : ShownText
  report : Script.Report
  deriving DecidableEq, Repr

namespace Session

def script (s : Session) : String :=
  match s.shown with
  | .generated => s.generated
  | .edited text _ => text

/-- Has the user taken over the text? -/
def isEdited (s : Session) : Bool :=
  match s.shown with
  | .generated => false
  | .edited .. => true

/-- Has the user's text been committed? -/
def isCommitted (s : Session) : Bool :=
  match s.shown with
  | .generated => false
  | .edited _ committed => committed

/-- Will the report be made anew when the input has settled? -/
def isPending (s : Session) : Bool := s.debounce.isPending

def start (p : Program) (indent delay : Nat) : Session where
  program := p
  indent := indent
  debounce := .idle delay
  generated := Script.generate indent p.statements
  generatedVersion := p.version
  shown := .generated
  report := Script.validate (Script.generate indent p.statements)

/-- The session with a report on the script that is shown. -/
def revalidate (s : Session) : Session := { s with report := Script.validate s.script }

/-- The session with nothing pending and a report on the script that is shown. -/
def settle (s : Session) : Session := { s with debounce := s.debounce.cancel }.revalidate

/-- The session with the script of its program, unless it has one of the same
version. -/
def regenerate (s : Session) : Session :=
  if s.generatedVersion = s.program.version then s
  else
    { s with
      generated := Script.generate s.indent s.program.statements
      generatedVersion := s.program.version }

/-- Bring the generated script up to date, and with it what is shown, unless the
user has taken over. -/
def refresh (s : Session) : Session :=
  if s.isEdited then s.regenerate else s.regenerate.settle

/-- Let the user take over the text; it is the generated script at first. -/
def beginEdit (s : Session) : Session :=
  if s.isEdited then s else { s with shown := .edited s.generated false }

/-- The user has typed: the text is another one, and the report has to wait. -/
def input (s : Session) (text : String) (now : Nat) : Session :=
  { s with shown := .edited text false, debounce := s.debounce.schedule now }

/-- Time has passed: if the input has settled there is a new report. -/
def tick (s : Session) (now : Nat) : Session × Option Script.Report :=
  if s.debounce.isDue now then
    let s := { s with debounce := (s.debounce.fire now).1 }.revalidate
    (s, some s.report)
  else (s, none)

/-- Keep the user's text, if there is one. -/
def commit (s : Session) : Session :=
  match s.shown with
  | .generated => s.settle
  | .edited text _ => { s with shown := .edited text true }.settle

def discard (s : Session) : Session := { s with shown := .generated }.settle

/-- Stop waiting for input to settle. -/
def teardown (s : Session) : Session := { s with debounce := s.debounce.cancel }

/-- Edit the program; what is generated and shown stays behind until a refresh. -/
def edit (s : Session) (e : Edit) : Session × Outcome :=
  let (program, outcome) := e.apply s.program
  ({ s with program }, outcome)

def replaceProgram (s : Session) (p : Program) : Session := { s with program := p }

/-! ## histories -/

inductive Event where
  | refresh
  | beginEdit
  | input (text : String) (now : Nat)
  | tick (now : Nat)
  | commit
  | discard
  | teardown
  | edit (e : Edit)
  | replace (p : Program)
  deriving DecidableEq, Repr

def step (s : Session) : Event → Session
  | .refresh => s.refresh
  | .beginEdit => s.beginEdit
  | .input text now => s.input text now
  | .tick now => (s.tick now).1
  | .commit => s.commit
  | .discard => s.discard
  | .teardown => s.teardown
  | .edit e => (s.edit e).1
  | .replace p => s.replaceProgram p

def after (s : Session) (events : List Event) : Session := events.foldl step s

end Session

end ScriptComposer
