import ScriptComposer.Script.Blocks
import ScriptComposer.Script.Quotes
import ScriptComposer.Text.Decimal
import ScriptComposer.Text.Lines

/-!
# ScriptComposer.Script.Report

The report on the structure of a script: unbalanced quotes, an `end` too many,
a block without its `end`.

The script is read line by line with a stack of the open blocks.  Lines that
are blank or hold a comment alone are passed over, but they count.  An `end`
closes the block that was opened last, whatever its kind; the blocks still
open at the end of the script are reported last, in the order in which they
were opened.
-/

namespace ScriptComposer.Script

/-- What can be wrong with a line. -/
inductive Fault where
  | unbalancedQuotes
  | unexpectedEnd
  | unclosedBlock (kind : BlockKind)
  deriving DecidableEq, Repr

namespace Fault

/-- What is wrong, for a person. -/
def message : Fault → String
  | .unbalancedQuotes => "Unbalanced quotes"
  | .unexpectedEnd => "Unexpected 'end' without a matching block"
  | .unclosedBlock kind => "unclosed \"" ++ kind.keyword ++ "\" block"

/-- What is wrong, for a program. -/
def code : Fault → String
  | .unbalancedQuotes => "unbalanced-quotes"
  | .unexpectedEnd => "unexpected-end"
  | .unclosedBlock _ => "unclosed-block"

end Fault

/-- Something wrong with a line; lines are numbered from one. -/
structure Finding where
  line : Nat
  fault : Fault
  deriving DecidableEq, Repr

/-- The finding in one line of text. -/
def Finding.display (f : Finding) : String :=
  "line " ++ String.ofList (Text.writeNat f.line) ++ ": " ++ f.fault.message ++
    " (" ++ f.fault.code ++ ")"

/-- What is wrong with a script. -/
structure Report where
  findings : List Finding
  deriving DecidableEq, Repr

/-- A script is valid if nothing is wrong with it. -/
def Report.isValid (r : Report) : Bool := r.findings.isEmpty

/-- A block that is open, and the line that opened it. -/
structure OpenBlock where
  kind : BlockKind
  line : Nat
  deriving DecidableEq, Repr

/-- Is the line passed over?  Blank lines are, and lines that hold a comment
alone; the line is trimmed. -/
def isSkipped : List Char → Bool
  | [] => true
  | '-' :: '-' :: _ => true
  | _ => false

/-- The finding on the quotes of a trimmed line. -/
def quoteFindings (n : Nat) (line : List Char) : List Finding :=
  if hasUnbalancedQuotes line then [⟨n, .unbalancedQuotes⟩] else []

/-- The findings on trimmed lines numbered from `n`, the open blocks being given
with the one opened last in front. -/
def findingsFrom : Nat → List OpenBlock → List (List Char) → List Finding
  | _, stack, [] => stack.reverse.map fun b => ⟨b.line, .unclosedBlock b.kind⟩
  | n, stack, line :: rest =>
      if isSkipped line then findingsFrom (n + 1) stack rest
      else
        quoteFindings n line ++
          match lineRole line, stack with
          | .plain, _ => findingsFrom (n + 1) stack rest
          | .opener kind, _ => findingsFrom (n + 1) (⟨kind, n⟩ :: stack) rest
          | .closer, _ :: stack' => findingsFrom (n + 1) stack' rest
          | .closer, [] => ⟨n, .unexpectedEnd⟩ :: findingsFrom (n + 1) [] rest

/-- With no line left, the blocks still open are reported. -/
theorem findingsFrom_nil (n : Nat) (stack : List OpenBlock) :
    findingsFrom n stack [] = stack.reverse.map fun b => ⟨b.line, .unclosedBlock b.kind⟩ := by
  simp only [findingsFrom]

def trimmedLines (script : String) : List (List Char) :=
  (Text.lines script.toList).map Text.trim

def validate (script : String) : Report := ⟨findingsFrom 1 [] (trimmedLines script)⟩

end ScriptComposer.Script
