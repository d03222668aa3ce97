import ScriptComposer.Script.Layout
import ScriptComposer.Text.Decimal

/-!
# ScriptComposer.CommandLine.Options

What the arguments of the command line ask for.

Arguments are flags, settings with a value, and up to two operands, the input
and the output.  They are met from left to right.  A setting or operand is
looked at only when the next known thing is met, or at the end, so an unknown
argument is reported before a bad value in front of it.
-/

namespace ScriptComposer.CommandLine

/-- Why the arguments are not run: help was asked for, or something is wrong with
them. -/
inductive Refusal where
  | help
  | unknown
  | noValue
  | badNumber
  | repeated
  | needlessValue
  | incomplete
  deriving DecidableEq, Repr

/-- The status the program exits with.  Asking for help is no error. -/
def Refusal.exitCode : Refusal → Nat
  | .help => 0
  | _ => 2

/-- What the arguments ask for. -/
structure Options where
  input : Option String
  output : Option String
  check : Bool
  strict : Bool
  clean : Bool
  indent : Nat
  listFunctions : Bool
  search : Option String
  logLevel : String
  deriving DecidableEq, Repr

/-- The options without any argument. -/
def Options.default : Options where
  input := none
  output := none
  check := false
  strict := false
  clean := false
  indent := Script.defaultIndent
  listFunctions := false
  search := none
  logLevel := "warn"

/-! ## names -/

inductive Flag where
  | check
  | strict
  | clean
  | listFunctions
  deriving DecidableEq, Repr

inductive Setting where
  | indent
  | search
  | logLevel
  deriving DecidableEq, Repr

/-- What a long name stands for. -/
inductive Named where
  | flag (f : Flag)
  | setting (s : Setting)
  | help
  deriving DecidableEq, Repr

/-- What the long names stand for. -/
def named? : String → Option Named
  | "check" => some (.flag .check)
  | "strict" => some (.flag .strict)
  | "clean" => some (.flag .clean)
  | "list-functions" => some (.flag .listFunctions)
  | "indent" => some (.setting .indent)
  | "search" => some (.setting .search)
  | "log-level" => some (.setting .logLevel)
  | "help" => some .help
  | _ => none

/-! ## words -/

/-- An argument by its form. -/
inductive Word where
  /-- Two dashes alone: all that follow are operands. -/
  | separator
  | long (name : String) (value : Option String)
  | short (letters : List Char)
  | plain
  deriving DecidableEq, Repr

/-- The form of an argument. -/
def Word.ofArgument (arg : String) : Word :=
  match arg.toList with
  | ['-', '-'] => .separator
  | '-' :: '-' :: rest =>
      .long (String.ofList (rest.takeWhile (· ≠ '='))) <|
        match rest.dropWhile (· ≠ '=') with
        | [] => none
        | _ :: value => some (String.ofList value)
  | '-' :: c :: rest => .short (c :: rest)
  | _ => .plain

/-! ## settling -/

/-- A setting or operand that has been met and not looked at. -/
inductive Pending where
  | nothing
  | setting (s : Setting) (value : Option String)
  | operand (value : String)
  deriving DecidableEq, Repr

/-- What has been met so far. -/
structure Met where
  flags : List Flag
  indent : Option Nat
  search : Option String
  logLevel : Option String
  input : Option String
  output : Option String
  pending : Pending
  /-- How many operands have been met. -/
  operands : Nat
  /-- Are all further arguments operands? -/
  operandsOnly : Bool
  deriving DecidableEq, Repr

namespace Met

def nothing : Met := ⟨[], none, none, none, none, none, .nothing, 0, false⟩

/-- Take the value of a setting. -/
def set (m : Met) (s : Setting) (value : String) : Except Refusal Met :=
  match s with
  | .indent =>
      if m.indent.isSome then throw .repeated
      else
        match Text.readWord? value.toList with
        | some n => return { m with indent := some n }
        | none => throw .badNumber
  | .search =>
      if m.search.isSome then throw .repeated else return { m with search := some value }
  | .logLevel =>
      if m.logLevel.isSome then throw .repeated else return { m with logLevel := some value }

/-- Take an operand.  The first one is the input, the second the output. -/
def setOperand (m : Met) (value : String) : Except Refusal Met :=
  if value = "" then throw .noValue
  else if m.input.isNone then return { m with input := some value }
  else return { m with output := some value }

/-- Look at what is pending. -/
def settle (m : Met) : Except Refusal Met :=
  let done := { m with pending := .nothing }
  match m.pending with
  | .nothing => return m
  | .setting s (some value) => done.set s value
  | .setting _ none => throw .noValue
  | .operand value => done.setOperand value

/-! ## meeting an argument -/

def takeOperand (m : Met) (arg : String) : Except Refusal Met :=
  if m.operands < 2 then do
    let m ← m.settle
    return { m with pending := .operand arg, operands := m.operands + 1 }
  else throw .unknown

def takeFlag (m : Met) (f : Flag) : Except Refusal Met := do
  let m ← m.settle
  if f ∈ m.flags then throw .repeated else return { m with flags := f :: m.flags }

def takeHelp (m : Met) : Except Refusal Met := do
  let _ ← m.settle
  throw .help

/-- Meet an argument with two dashes. -/
def takeLong (m : Met) (name : String) (value : Option String) : Except Refusal Met :=
  match named? name, value with
  | none, _ => throw .unknown
  | some (.setting s), none => do return { ← m.settle with pending := .setting s none }
  | some (.setting s), some value => do (← m.settle).set s value
  | some (.flag f), none => m.takeFlag f
  | some .help, none => m.takeHelp
  | some (.flag _), some _ | some .help, some _ => throw .needlessValue

/-- Meet an argument with one dash. -/
def takeShort (m : Met) (letters : List Char) : Except Refusal Met :=
  match letters with
  | 'h' :: _ => m.takeHelp
  | _ => throw .unknown

def take (m : Met) (arg : String) : Except Refusal Met :=
  if m.operandsOnly then m.takeOperand arg
  else
    match Word.ofArgument arg, m.pending with
    | .separator, _ => return { m with operandsOnly := true }
    | .long name value, _ => m.takeLong name value
    | .short letters, _ => m.takeShort letters
    | .plain, .setting s none => return { m with pending := .setting s (some arg) }
    | .plain, _ => m.takeOperand arg

/-- The options, once all arguments have been met.  An input is required, unless the
functions are listed; a search needs the listing. -/
def options (m : Met) : Except Refusal Options := do
  let m ← m.settle
  let listed := m.flags.contains .listFunctions
  if !listed && (m.input.isNone || m.search.isSome) then throw .incomplete
  return {
    input := m.input
    output := m.output
    check := m.flags.contains .check
    strict := m.flags.contains .strict
    clean := m.flags.contains .clean
    indent := m.indent.getD Options.default.indent
    listFunctions := listed
    search := m.search
    logLevel := m.logLevel.getD Options.default.logLevel }

end Met

/-- What the arguments ask for. -/
def Options.ofArguments (args : List String) : Except Refusal Options := do
  (← args.foldlM Met.take Met.nothing).options

end ScriptComposer.CommandLine
