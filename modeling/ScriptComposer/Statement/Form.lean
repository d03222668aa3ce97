import ScriptComposer.Statement

/-!
# ScriptComposer.Statement.Form

The form by which a user adds a control statement.  Its fields are free text,
so the form is where control statements are brought into their normal shape: a
field that must say something may not be blank, a blank step is the step one,
and a blank body is no body.
-/

namespace ScriptComposer

/-- A function body as typed; a blank one is none. -/
def bodyOfText (text : String) : Option String :=
  if Text.isBlankText text then none else some text

/-- A filled-in form for a control statement. -/
inductive ControlForm where
  | ifThen (condition : String) (inside : Bool)
  | whileDo (condition : String) (inside : Bool)
  | forDo (counter start stop step : String) (inside : Bool)
  | blockEnd (inside : Bool)
  | declaration (name params body : String)
  deriving DecidableEq, Repr

/-- The control statement that the form describes and whether it goes inside the
main loop, or nothing when a field that must be filled is blank. -/
def ControlForm.control? : ControlForm → Option (Control × Bool)
  | .ifThen condition inside =>
      if Text.isBlankText condition then none else some (.ifThen condition, inside)
  | .whileDo condition inside =>
      if Text.isBlankText condition then none else some (.whileDo condition, inside)
  | .forDo v start stop step inside =>
      if Text.isBlankText v || Text.isBlankText start || Text.isBlankText stop then none
      else some (.forDo v start stop (if Text.isBlankText step then unitStep else step), inside)
  | .blockEnd inside => some (.blockEnd, inside)
  | .declaration name params body =>
      if Text.isBlankText name then none
      else some (.declaration ⟨name, params, bodyOfText body⟩, false)

end ScriptComposer
