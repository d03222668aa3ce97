import ScriptComposer.Program
import ScriptComposer.Text.Case
import ScriptComposer.Text.Order

/-!
# ScriptComposer.Program.Sort

Sorting a program.

The statements inside the main loop and those outside of it are sorted apart:
the statements of one side trade the places that this side has, and the other
side stays where it is.  Alphabetical orders compare names with letter case
apart first, and keep statements of one name in the order they had, upwards
and downwards.
-/

namespace ScriptComposer

/-- Which sides of the main loop are sorted. -/
inductive Scope where
  | inside
  | outside
  | all
  deriving DecidableEq, Repr

/-- What the statements of a side are sorted by. -/
inductive Order where
  | ascending
  | descending
  | byCategory
  deriving DecidableEq, Repr

namespace Statement

/-! ## alphabetical orders -/

/-- Does the first statement come before the second, or could they change places?
Names are compared in lower case, and as they are only if that does not tell them
apart. -/
def nameLe (s t : Statement) : Bool :=
  let (a, b) := (s.sortKey.toList, t.sortKey.toList)
  let (la, lb) := (Text.lowercase a, Text.lowercase b)
  if la = lb then Text.le a b else Text.le la lb

/-! ## groups -/

/-- The group of a call: its category, or the capital form of its name's first
character.  Control statements are in no group. -/
def group? (s : Statement) : Option (List Char) :=
  match s.body with
  | .call c =>
      some <|
        match c.callee.category, c.callee.name.toList with
        | some category, _ => category.toList
        | none, first :: _ => Text.upperChar first
        | none, [] => []
  | .control _ => none

/-- The statements by groups, each group at the place of its first member, control
statements last. -/
def grouped (statements : List Statement) : List Statement :=
  let groups := (statements.filterMap group?).eraseDups
  (groups.flatMap fun g => statements.filter (·.group? = some g)) ++
    statements.filter (·.group? = none)

end Statement

/-- Statements of one side in order. -/
def Order.arrange : Order → List Statement → List Statement
  | .ascending, ss => ss.mergeSort Statement.nameLe
  | .descending, ss => ss.mergeSort fun s t => Statement.nameLe t s
  | .byCategory, ss => Statement.grouped ss

/-! ## places -/

/-- The list with the elements that are chosen replaced, one by one, by the new
ones. -/
def refill {α : Type} (chosen : α → Bool) : List α → List α → List α
  | [], _ => []
  | old, [] => old
  | x :: xs, y :: ys =>
      if chosen x then y :: refill chosen xs ys else x :: refill chosen xs (y :: ys)

/-- The statements with one side of the main loop in order. -/
def sortSide (o : Order) (inside : Bool) (ss : List Statement) : List Statement :=
  let chosen := fun s : Statement => s.inMainLoop == inside
  refill chosen ss (o.arrange (ss.filter chosen))

def Scope.sides : Scope → List Bool
  | .inside => [true]
  | .outside => [false]
  | .all => [true, false]

namespace Program

/-- Sort the sides in the scope.  The version is counted up even if everything is
in order already. -/
def sort (p : Program) (scope : Scope) (o : Order) : Program :=
  p.withStatements (scope.sides.foldl (fun ss inside => sortSide o inside ss) p.statements)

/-- Remove the disabled statements, wherever they are. -/
def removeDisabled (p : Program) : Program :=
  if p.statements.all (·.enabled) then p
  else p.withStatements (p.statements.filter (·.enabled))

end Program

end ScriptComposer
