import ScriptComposer.Catalog
import ScriptComposer.Text.Case
import ScriptComposer.Text.Search

/-!
# ScriptComposer.Catalog.Search

Searching a catalog.  A function matches a term if its name or its
description contains the term, letter case apart; the white space around the
term does not count, and a blank term matches everything.

Both sides are lowered by themselves.  A capital sigma is lowered by what
stands around it, so a term that ends in one is compared in its word-final
form wherever it is looked for.
-/

namespace ScriptComposer

/-- What a search looks for: the trimmed term in lower case. -/
def searchKey (term : String) : List Char := Text.lowercase (Text.trim term.toList)

/-- Does the function's name or description contain the search key? -/
def ApiFunction.matchesKey (f : ApiFunction) (key : List Char) : Bool :=
  Text.occursIn key (Text.lowercase f.name.toList) ||
    Text.occursIn key (Text.lowercase f.description.toList)

/-- The category with only the functions that match, or nothing if none does. -/
def Category.restrict? (c : Category) (key : List Char) : Option Category :=
  match c.functions.filter (·.matchesKey key) with
  | [] => none
  | functions => some { c with functions }

/-- The categories as a search shows them: those without a match are dropped,
unless the term is blank. -/
def Catalog.search (catalog : Catalog) (term : String) : List Category :=
  match searchKey term with
  | [] => catalog.categories
  | key => catalog.categories.filterMap (·.restrict? key)

end ScriptComposer
