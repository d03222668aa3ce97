import ScriptComposer.Program.Sort

/-!
# ScriptComposer.Program.Edit

The edits that a user can make to a program, as values, and what comes out of
them.  A history of edits is a list of them.
-/

namespace ScriptComposer

/-- An edit of a program. -/
inductive Edit where
  | add (f : ApiFunction)
  | addAfter (anchor : StatementId) (f : ApiFunction)
  | addFromCatalog (catalog : Catalog) (category name : String)
  | addControl (form : ControlForm)
  | update (id : StatementId) (patch : Patch)
  | remove (id : StatementId)
  | reorder (source target : Nat)
  | move (active onto : StatementId)
  | sort (scope : Scope) (order : Order)
  | removeDisabled
  deriving DecidableEq, Repr

/-- What comes out of an edit besides the program. -/
inductive Outcome where
  /-- The id of the new statement, unless nothing was added. -/
  | added (id : Option StatementId)
  /-- Was there something to change? -/
  | changed (found : Bool)
  /-- The statement that was taken out, unless there was none. -/
  | removed (s : Option Statement)
  | sorted
  deriving DecidableEq, Repr

/-- Did the edit find nothing to do its work on? -/
def Outcome.isFailure : Outcome → Bool
  | .added none | .changed false | .removed none => true
  | _ => false

def Edit.apply (p : Program) : Edit → Program × Outcome
  | .add f => (p.add f).map id fun i => .added (some i)
  | .addAfter anchor f => (p.addAfter anchor f).map id fun i => .added (some i)
  | .addFromCatalog catalog category name =>
      (p.addFromCatalog catalog category name).map id .added
  | .addControl form => (p.addControl form).map id .added
  | .update i patch => (p.update i patch).map id .changed
  | .remove i => (p.remove i).map id .removed
  | .reorder source target => (p.reorder source target).map id .changed
  | .move active onto => (p.move active onto).map id .changed
  | .sort scope order => (p.sort scope order, .sorted)
  | .removeDisabled => (p.removeDisabled, .sorted)

/-- The program after a history of edits. -/
def Program.after (p : Program) (edits : List Edit) : Program :=
  edits.foldl (fun p e => (e.apply p).1) p

end ScriptComposer
