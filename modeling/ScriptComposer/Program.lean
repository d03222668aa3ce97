import ScriptComposer.Statement.Patch

/-!
# ScriptComposer.Program

The program a user is composing: a list of statements, a version that counts
the changes made to it, and the number that the next id is tried with.

An operation either changes the list and counts the version up by one, or
leaves the program exactly as it is; `none` and `false` always mean the
second.  Numbers are given out upwards and never again, so an id that was
removed does not come back.

* `firstUnused_eq_self` — a number that no statement has is taken at once;
* `moveItem_self` — moving a statement onto its own place changes nothing.
-/

namespace ScriptComposer

/-! ## moving in a list -/

/-- The list with the element at `source` taken out and put in again so that it
stands at `target`. -/
def moveItem {α : Type} (source target : Nat) (l : List α) : List α :=
  match l[source]? with
  | some x => (l.eraseIdx source).insertIdx target x
  | none => l

/-- Moving an element onto its own place changes nothing. -/
theorem moveItem_self {α : Type} (i : Nat) (l : List α) : moveItem i i l = l := by
  induction l generalizing i with
  | nil => simp [moveItem]
  | cons y l ih =>
      cases i with
      | zero => simp [moveItem]
      | succ i =>
          have h := ih i
          unfold moveItem at h ⊢
          cases hi : l[i]? with
          | none => simp [hi]
          | some x => simp_all

/-! ## programs -/

/-- A list of statements under construction. -/
structure Program where
  statements : List Statement
  version : Nat
  nextNumber : Nat
  deriving DecidableEq, Repr

namespace Program

/-- One more than the largest number of an id, or zero. -/
def numberAfter (statements : List Statement) : Nat :=
  (statements.filterMap (·.id.number?)).foldr (fun n next => max (n + 1) next) 0

/-- The program of a loaded list.  New ids go on after the largest number in it. -/
def ofStatements (statements : List Statement) : Program :=
  ⟨statements, 0, numberAfter statements⟩

def empty : Program := ofStatements []

def size (p : Program) : Nat := p.statements.length

/-- The place of the first statement with that id. -/
def position? (p : Program) (id : StatementId) : Option Nat :=
  p.statements.findIdx? (·.id = id)

/-- The first statement with that id. -/
def get? (p : Program) (id : StatementId) : Option Statement := p.statements.find? (·.id = id)

/-- The program with another list of statements, its version counted up. -/
def withStatements (p : Program) (statements : List Statement) : Program :=
  { p with statements, version := p.version + 1 }

/-! ### new ids -/

/-- The first number from `n` on, among the `tries + 1` next ones, that is not the
number of one of the ids. -/
def firstUnused (ids : List StatementId) : (tries : Nat) → Nat → Nat
  | 0, n => n
  | tries + 1, n =>
      if StatementId.ofNumber n ∈ ids then firstUnused ids tries (n + 1) else n

/-- The number of the next id. -/
def freshNumber (p : Program) : Nat := firstUnused (p.statements.map (·.id)) p.size p.nextNumber

/-- A number that no statement has is taken at once. -/
theorem firstUnused_eq_self {ids : List StatementId} {n : Nat} (h : StatementId.ofNumber n ∉ ids)
    (tries : Nat) : firstUnused ids tries n = n := by
  cases tries <;> simp [firstUnused, h]

/-- The program with a new statement at an index. -/
def insertNew (p : Program) (index : Nat) (make : StatementId → Statement) :
    Program × StatementId :=
  let n := p.freshNumber
  let id := StatementId.ofNumber n
  (⟨p.statements.insertIdx index (make id), p.version + 1, n + 1⟩, id)

/-! ### adding -/

/-- Add a call of a function at the end. -/
def add (p : Program) (f : ApiFunction) : Program × StatementId :=
  p.insertNew p.size fun id => .ofFunction id f

/-- Add a call of a function behind a statement, or at the end if there is none
with that id. -/
def addAfter (p : Program) (anchor : StatementId) (f : ApiFunction) : Program × StatementId :=
  match p.position? anchor with
  | some i => p.insertNew (i + 1) fun id => .ofFunction id f
  | none => p.add f

/-- Add a call of the function that a catalog has in a category under a name. -/
def addFromCatalog (p : Program) (catalog : Catalog) (category name : String) :
    Program × Option StatementId :=
  match catalog.functionIn? category name with
  | some f => (p.add f).map id some
  | none => (p, none)

/-- Add the control statement that a form describes at the end. -/
def addControl (p : Program) (form : ControlForm) : Program × Option StatementId :=
  match form.control? with
  | some (c, inside) =>
      (p.insertNew p.size fun id => .ofBody id (.control c) inside).map id some
  | none => (p, none)

/-! ### changing -/

/-- Patch the first statement with that id. -/
def update (p : Program) (id : StatementId) (patch : Patch) : Program × Bool :=
  match p.position? id with
  | some i => (p.withStatements (p.statements.modify i patch.apply), true)
  | none => (p, false)

/-- Take out the first statement with that id. -/
def remove (p : Program) (id : StatementId) : Program × Option Statement :=
  match p.position? id with
  | some i => (p.withStatements (p.statements.eraseIdx i), p.statements[i]?)
  | none => (p, none)

/-- Move the statement at one index to another one. -/
def reorder (p : Program) (source target : Nat) : Program × Bool :=
  if source < p.size ∧ target < p.size then
    if source = target then (p, true)
    else (p.withStatements (moveItem source target p.statements), true)
  else (p, false)

/-- Move a statement to the place that another one has. -/
def move (p : Program) (active onto : StatementId) : Program × Bool :=
  match p.position? active, p.position? onto with
  | some source, some target => p.reorder source target
  | _, _ => (p, false)

end Program

end ScriptComposer
