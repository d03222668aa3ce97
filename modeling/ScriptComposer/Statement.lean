import ScriptComposer.Catalog
import ScriptComposer.Text.Decimal

/-!
# ScriptComposer.Statement

The statements a script is composed of: calls of API functions, and control
statements that open a block, close one, or declare a function.

A statement carries an id, by which the editor refers to it, and two switches:
whether it is enabled, and whether it belongs inside the main loop.  A
declaration never is inside the loop, whatever its switch says; the switch as
stored (`wantsLoop`) and the side the statement is on (`inMainLoop`) are
therefore kept apart.

* `number?_ofNumber` — the number of a generated id is read back from it.
-/

namespace ScriptComposer

/-! ## ids -/

/-- The name by which the editor refers to a statement. -/
structure StatementId where
  text : String
  deriving DecidableEq, Repr

namespace StatementId

/-- What generated ids start with. -/
def stem : List Char := ['s', 't', 'a', 't', 'e', 'm', 'e', 'n', 't', '-']

/-- The generated id with number `n`. -/
def ofNumber (n : Nat) : StatementId := ⟨String.ofList (stem ++ Text.writeNat n)⟩

/-- The number of an id that reads as a generated one.  A leading plus sign and
leading zeros are read over, so several ids can have one number. -/
def number? (id : StatementId) : Option Nat :=
  if stem.isPrefixOf id.text.toList then Text.readWord? (id.text.toList.drop stem.length)
  else none

/-- The number of a generated id is read back from it. -/
theorem number?_ofNumber {n : Nat} (h : n < Text.wordLimit) : (ofNumber n).number? = some n := by
  have hp : stem.isPrefixOf (stem ++ Text.writeNat n) = true :=
    List.isPrefixOf_iff_prefix.2 (List.prefix_append _ _)
  simp [number?, ofNumber, hp, Text.readWord?_writeNat h]

end StatementId

/-! ## calls -/

/-- What a call keeps of the function it was made from. -/
structure Callee where
  name : String
  description : String
  category : Option String
  deriving DecidableEq, Repr

/-- An argument of a call: the parameter it stands for, and the value as the
user typed it. -/
structure Argument where
  name : String
  type : ParamType
  description : String
  value : String
  deriving DecidableEq, Repr

/-- A call of an API function. -/
structure Call where
  callee : Callee
  arguments : List Argument
  deriving DecidableEq, Repr

/-- A new call of a catalog function: one argument per parameter, in order, set
to its default value if it has one. -/
def Call.ofFunction (f : ApiFunction) : Call where
  callee := ⟨f.name, f.description, f.category⟩
  arguments := f.parameters.map fun p => ⟨p.name, p.type, p.description, p.defaultValue.getD ""⟩

/-- The call as the editor shows it: the values as typed, `nil` for an empty
one. -/
def Call.label (c : Call) : String :=
  c.callee.name ++ "(" ++
    ", ".intercalate (c.arguments.map fun a => if a.value = "" then "nil" else a.value) ++ ")"

/-! ## control statements -/

/-- A function declared by the user. -/
structure Declaration where
  name : String
  params : String
  body : Option String
  deriving DecidableEq, Repr

/-- A control statement.  The first three open a block, which a `blockEnd` later
in the list closes. -/
inductive Control where
  | ifThen (condition : String)
  | whileDo (condition : String)
  | forDo (counter start stop step : String)
  | blockEnd
  | declaration (d : Declaration)
  deriving DecidableEq, Repr

/-- The step of a counting loop that need not be written. -/
def unitStep : String := "1"

/-- The step as it is written in the head of a counting loop. -/
def stepClause (step : String) : String := if step = unitStep then "" else ", " ++ step

namespace Control

/-- The word a control statement is known by. -/
def keyword : Control → String
  | .ifThen _ => "if"
  | .whileDo _ => "while"
  | .forDo .. => "for"
  | .blockEnd => "end"
  | .declaration _ => "function"

/-- Does the statement open a block that a `blockEnd` closes? -/
def opensBlock : Control → Bool
  | .ifThen _ | .whileDo _ | .forDo .. => true
  | .blockEnd | .declaration _ => false

/-- The line of script text that stands for the statement; of a declaration it
is the first one. -/
def headLine : Control → String
  | .ifThen condition => "if " ++ condition ++ " then"
  | .whileDo condition => "while " ++ condition ++ " do"
  | .forDo v start stop step =>
      "for " ++ v ++ " = " ++ start ++ ", " ++ stop ++ stepClause step ++ " do"
  | .blockEnd => "end"
  | .declaration d => "function " ++ d.name ++ "(" ++ d.params ++ ")"

end Control

/-! ## statements -/

/-- What a statement does. -/
inductive Body where
  | call (c : Call)
  | control (c : Control)
  deriving DecidableEq, Repr

/-- Is it the declaration of a function? -/
def Body.isDeclaration : Body → Bool
  | .control (.declaration _) => true
  | _ => false

/-- A statement of a script. -/
structure Statement where
  id : StatementId
  enabled : Bool
  /-- The stored switch; `Statement.inMainLoop` says where the statement is. -/
  wantsLoop : Bool
  body : Body
  notes : Option String
  deriving DecidableEq, Repr

namespace Statement

/-- Is the statement the declaration of a function? -/
def isDeclaration (s : Statement) : Bool := s.body.isDeclaration

/-- Is the statement inside the main loop?  Declarations never are. -/
def inMainLoop (s : Statement) : Bool := s.wantsLoop && !s.isDeclaration

/-- The statement put inside the main loop or outside of it; a declaration stays
outside. -/
def setInMainLoop (s : Statement) (inside : Bool) : Statement :=
  { s with wantsLoop := inside && !s.isDeclaration }

/-- A new statement: enabled and without notes. -/
def ofBody (id : StatementId) (body : Body) (inside : Bool) : Statement :=
  setInMainLoop ⟨id, true, inside, body, none⟩ inside

/-- A new call of a catalog function, inside the main loop. -/
def ofFunction (id : StatementId) (f : ApiFunction) : Statement :=
  ofBody id (.call (.ofFunction f)) true

/-- What the statement is sorted by: the name of the called function, or the
keyword. -/
def sortKey (s : Statement) : String :=
  match s.body with
  | .call c => c.callee.name
  | .control c => c.keyword

/-- The statement in one line, as the editor shows it. -/
def label (s : Statement) : String :=
  match s.body with
  | .call c => c.label
  | .control c => c.headLine

@[simp] theorem isDeclaration_setInMainLoop (s : Statement) (b : Bool) :
    (s.setInMainLoop b).isDeclaration = s.isDeclaration := rfl

/-- Only a declaration resists being put inside the main loop. -/
@[simp] theorem inMainLoop_setInMainLoop (s : Statement) (b : Bool) :
    (s.setInMainLoop b).inMainLoop = (b && !s.isDeclaration) := by
  cases h : s.isDeclaration <;> simp [inMainLoop, setInMainLoop, isDeclaration] <;>
    simp_all [isDeclaration]

end Statement

end ScriptComposer
