import ScriptComposer.Catalog.Format
import ScriptComposer.Json.Choice
import ScriptComposer.Statement

/-!
# ScriptComposer.Statement.Format

How statements are kept as JSON.

A saved script is an array of statements.  Every field that is not optional is
written, its default included, and an optional field that holds nothing is left
out, so a saved script can be read without knowing the defaults; a script that
was written by hand may leave the defaults out.

The stored switch for the main loop is kept as it is, also in a declaration.
-/

namespace ScriptComposer

open Json

/-! ## calls -/

/-- The format of what a call keeps of its function. -/
def Callee.format : Format Callee :=
  .record "struct FunctionRef"
    (.cons (.required "name" .text) <|
      .cons (.withDefault "description" .text "") <|
      .cons (.optional "category" .text) .nil)
    (fun (name, description, category, ()) => ⟨name, description, category⟩)
    (fun c => (c.name, c.description, c.category, ()))

def Argument.format : Format Argument :=
  .record "struct StatementParameter"
    (.cons (.required "name" .text) <|
      .cons (.required "type" ParamType.format) <|
      .cons (.withDefault "description" .text "") <|
      .cons (.withDefault "value" .text "") .nil)
    (fun (name, type, description, value, ()) => ⟨name, type, description, value⟩)
    (fun a => (a.name, a.type, a.description, a.value, ()))

def Call.format : Format Call :=
  .record "struct FunctionCall"
    (.cons (.required "function" Callee.format) <|
      .cons (.withDefault "parameters" (.list Argument.format) []) .nil)
    (fun (callee, arguments, ()) => ⟨callee, arguments⟩)
    (fun c => (c.callee, c.arguments, ()))

/-! ## control statements -/

def Declaration.format : Format Declaration :=
  .record "struct FunctionDecl"
    (.cons (.required "name" .text) <|
      .cons (.withDefault "params" .text "") <|
      .cons (.optional "body" .text) .nil)
    (fun (name, params, body, ()) => ⟨name, params, body⟩)
    (fun d => (d.name, d.params, d.body, ()))

/-- The format of the one field of an `if` or `while`. -/
def conditionFormat (name : String) : Format String :=
  .record name (.cons (.required "condition" .text) .nil) (fun (c, ()) => c) (fun c => (c, ()))

/-- The fields of a counting loop. -/
structure Counting where
  counter : String
  start : String
  stop : String
  step : String
  deriving DecidableEq, Repr

/-- The format of the fields of a counting loop. -/
def Counting.format : Format Counting :=
  .record "struct variant Control::For"
    (.cons (.required "loopVariable" .text) <|
      .cons (.required "startValue" .text) <|
      .cons (.required "endValue" .text) <|
      .cons (.withDefault "stepValue" .text unitStep) .nil)
    (fun (counter, start, stop, step, ()) => ⟨counter, start, stop, step⟩)
    (fun c => (c.counter, c.start, c.stop, c.step, ()))

namespace Control

/-- The format of the fields of an `if`. -/
def ifFormat : Format String := conditionFormat "struct variant Control::If"

/-- The format of the fields of a `while`. -/
def whileFormat : Format String := conditionFormat "struct variant Control::While"

/-- The control statements by their tags, which are their keywords. -/
def alternatives : Alternatives Control :=
  [("if", .ofRecord ifFormat .ifThen),
    ("while", .ofRecord whileFormat .whileDo),
    ("for", .ofRecord Counting.format fun c => .forDo c.counter c.start c.stop c.step),
    ("end", .nothing .blockEnd),
    ("function", .ofFormat Declaration.format .declaration)]

/-- The written form of a control statement. -/
def toValue : Control → Value
  | .ifThen condition => tagged "if" (ifFormat.write condition)
  | .whileDo condition => tagged "while" (whileFormat.write condition)
  | .forDo counter start stop step =>
      tagged "for" (Counting.format.write ⟨counter, start, stop, step⟩)
  | .blockEnd => .text "end"
  | .declaration d => tagged "function" (Declaration.format.write d)

def format : Format Control := .choice alternatives toValue

end Control

/-! ## statements -/

namespace Body

/-- The kinds of statements by their tags. -/
def alternatives : Alternatives Body :=
  [("call", .ofFormat Call.format .call), ("control", .ofFormat Control.format .control)]

/-- The written form of what a statement does. -/
def toValue : Body → Value
  | .call c => tagged "call" (Call.format.write c)
  | .control c => tagged "control" (Control.format.write c)

/-- The format of what a statement does. -/
def format : Format Body := .choice alternatives toValue

end Body

def StatementId.format : Format StatementId := .wrapped .mk StatementId.text

def Statement.format : Format Statement :=
  .record "struct Statement"
    (.cons (.required "id" StatementId.format) <|
      .cons (.withDefault "enabled" .boolean true) <|
      .cons (.withDefault "inMainLoop" .boolean true) <|
      .cons (.required "body" Body.format) <|
      .cons (.optional "notes" .text) .nil)
    (fun (id, enabled, wantsLoop, body, notes, ()) => ⟨id, enabled, wantsLoop, body, notes⟩)
    (fun s => (s.id, s.enabled, s.wantsLoop, s.body, s.notes, ()))

/-- The format of saved scripts. -/
def scriptFormat : Format (List Statement) := .list Statement.format

end ScriptComposer
