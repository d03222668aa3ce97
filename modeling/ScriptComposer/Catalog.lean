import ScriptComposer.Text.Blank
import ScriptComposer.Text.Lines

/-!
# ScriptComposer.Catalog

The catalog of API functions a script can call: functions with their
parameters, grouped into categories, in the order in which they are shown.

A catalog is made by `Catalog.ofCategories`, which writes the category's name
into every function that does not carry one of its own, so that a function
taken out of the catalog still knows where it came from.  Names may repeat;
every lookup answers with the first match.
-/

namespace ScriptComposer

/-! ## types of parameters -/

/-- The primitive types that a parameter type can mention. -/
inductive Primitive where
  | boolean
  | number
  | string
  | table
  deriving DecidableEq, Repr

/-- The word a parameter type mentions the primitive by. -/
def Primitive.keyword : Primitive → String
  | .boolean => "boolean"
  | .number => "number"
  | .string => "string"
  | .table => "table"

/-- A declared parameter type as it is written, such as `number`, `table|number`
or `WPOINT`. -/
structure ParamType where
  text : String
  deriving DecidableEq, Repr

/-- Does one of the alternatives of the type, written between bars, name the
primitive?  Letter case (of the ASCII letters) and white space around the word
do not matter. -/
def ParamType.mentions (t : ParamType) (p : Primitive) : Bool :=
  (Text.splitAt '|' t.text.toList).any fun part =>
    (Text.trim part).map Char.toLower == p.keyword.toList

/-! ## functions and categories -/

/-- A parameter of an API function. -/
structure ApiParameter where
  name : String
  type : ParamType
  description : String
  defaultValue : Option String
  deriving DecidableEq, Repr

/-- A function of the API. -/
structure ApiFunction where
  name : String
  description : String
  parameters : List ApiParameter
  returnType : String
  returnDescription : String
  category : Option String
  deriving DecidableEq, Repr

/-- The function in one line, such as `Sleep_tick(count) -> boolean`. -/
def ApiFunction.signature (f : ApiFunction) : String :=
  f.name ++ "(" ++ ", ".intercalate (f.parameters.map (·.name)) ++ ") -> " ++ f.returnType

/-- A named group of functions. -/
structure Category where
  name : String
  functions : List ApiFunction
  deriving DecidableEq, Repr

/-- The functions of a category, each with a category of its own or this one. -/
def Category.backfill (c : Category) : Category :=
  { c with
    functions := c.functions.map fun f => { f with category := f.category.or (some c.name) } }

/-- The callable functions, grouped by category. -/
structure Catalog where
  categories : List Category
  deriving DecidableEq, Repr

namespace Catalog

def ofCategories (categories : List Category) : Catalog :=
  ⟨categories.map Category.backfill⟩

def category? (catalog : Catalog) (name : String) : Option Category :=
  catalog.categories.find? (·.name = name)

/-- The function of that name, whatever its category. -/
def function? (catalog : Catalog) (name : String) : Option ApiFunction :=
  (catalog.categories.flatMap (·.functions)).find? (·.name = name)

/-- The function of that name in the category of that name. -/
def functionIn? (catalog : Catalog) (category name : String) : Option ApiFunction :=
  (catalog.category? category).bind fun c => c.functions.find? (·.name = name)

def size (catalog : Catalog) : Nat :=
  catalog.categories.foldr (fun c n => c.functions.length + n) 0

end Catalog

end ScriptComposer
