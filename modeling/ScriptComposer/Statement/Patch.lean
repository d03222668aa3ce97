import ScriptComposer.Statement.Form

/-!
# ScriptComposer.Statement.Patch

Changing single fields of a statement.  A patch names the new values of some
fields and leaves the others alone; fields that the statement does not have
are ignored, so one patch can be offered to any statement.
-/

namespace ScriptComposer

/-- New values for some fields of a statement. -/
structure Patch where
  enabled : Option Bool := none
  inside : Option Bool := none
  notes : Option String := none
  /-- New values of arguments, by the argument's name, the later winning. -/
  arguments : List (String × String) := []
  condition : Option String := none
  counter : Option String := none
  start : Option String := none
  stop : Option String := none
  step : Option String := none
  name : Option String := none
  params : Option String := none
  body : Option String := none
  deriving DecidableEq, Repr

/-- The arguments with a new value for the first one of that name. -/
def setArgument (name value : String) : List Argument → List Argument
  | [] => []
  | a :: rest =>
      if a.name = name then { a with value } :: rest else a :: setArgument name value rest

namespace Patch

/-- The call with the patch's argument values. -/
def applyToCall (p : Patch) (c : Call) : Call :=
  { c with
    arguments := p.arguments.foldl (fun args new => setArgument new.1 new.2 args) c.arguments }

/-- The control statement with the patch's values for the fields it has. -/
def applyToControl (p : Patch) : Control → Control
  | .ifThen condition => .ifThen (p.condition.getD condition)
  | .whileDo condition => .whileDo (p.condition.getD condition)
  | .forDo v start stop step =>
      .forDo (p.counter.getD v) (p.start.getD start) (p.stop.getD stop) (p.step.getD step)
  | .blockEnd => .blockEnd
  | .declaration d =>
      .declaration {
        name := p.name.getD d.name
        params := p.params.getD d.params
        body := (p.body.map bodyOfText).getD d.body }

def applyToBody (p : Patch) : Body → Body
  | .call c => .call (p.applyToCall c)
  | .control c => .control (p.applyToControl c)

/-- The statement with the patch's values. -/
def apply (p : Patch) (s : Statement) : Statement where
  id := s.id
  enabled := p.enabled.getD s.enabled
  wantsLoop := (p.inside.map fun inside => inside && !s.isDeclaration).getD s.wantsLoop
  body := p.applyToBody s.body
  notes := p.notes.or s.notes

end Patch

end ScriptComposer
