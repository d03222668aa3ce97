import ScriptComposer.Catalog
import ScriptComposer.Json.Record

/-!
# ScriptComposer.Catalog.Format

How catalogs are kept as JSON: an array of categories.
-/

namespace ScriptComposer

open Json

def ParamType.format : Format ParamType := .wrapped .mk ParamType.text

def ApiParameter.format : Format ApiParameter :=
  .record "struct Parameter"
    (.cons (.required "name" .text) <|
      .cons (.required "type" ParamType.format) <|
      .cons (.withDefault "description" .text "") <|
      .cons (.optional "defaultValue" .text) .nil)
    (fun (name, type, description, defaultValue, ()) => ⟨name, type, description, defaultValue⟩)
    (fun p => (p.name, p.type, p.description, p.defaultValue, ()))

def ApiFunction.format : Format ApiFunction :=
  .record "struct Function"
    (.cons (.required "name" .text) <|
      .cons (.withDefault "description" .text "") <|
      .cons (.withDefault "parameters" (.list ApiParameter.format) []) <|
      .cons (.withDefault "returnType" .text "") <|
      .cons (.withDefault "returnDescription" .text "") <|
      .cons (.optional "category" .text) .nil)
    (fun (name, description, parameters, returnType, returnDescription, category, ()) =>
      ⟨name, description, parameters, returnType, returnDescription, category⟩)
    (fun f => (f.name, f.description, f.parameters, f.returnType, f.returnDescription,
      f.category, ()))

def Category.format : Format Category :=
  .record "struct Category"
    (.cons (.required "name" .text) <|
      .cons (.required "functions" (.list ApiFunction.format)) .nil)
    (fun (name, functions, ()) => ⟨name, functions⟩)
    (fun c => (c.name, c.functions, ()))

/-- The format of the categories of a catalog. -/
def catalogFormat : Format (List Category) := .list Category.format

/-- The catalog that a text describes. -/
def Catalog.ofText (s : String) : Reading Catalog := Catalog.ofCategories <$> catalogFormat.ofText s

end ScriptComposer
