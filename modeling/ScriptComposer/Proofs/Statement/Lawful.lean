import ScriptComposer.Proofs.Json.Lawful
import ScriptComposer.Statement.Format

/-!
# ScriptComposer.Proofs.Statement.Lawful

Statements are read from JSON as they were written.

Every part of a statement has a lawful format, from the texts up to the list of statements:
a record because its fields are lawful, a choice because each of its alternatives is
written under its own tag.

* `scriptFormat_isLawful` — what was saved is what is loaded.
-/

namespace ScriptComposer

open Json

/-! ## fields that hold a text -/

/-- A text that has to be there is read back under its key. -/
theorem required_text_isLawful (key : String) : (Field.required key .text).IsLawful :=
  Field.required_isLawful key Format.text_isLawful

/-- A text with a default is written even if it is the default, and read back. -/
theorem withDefault_text_isLawful (key default : String) :
    (Field.withDefault key .text default).IsLawful :=
  Field.withDefault_isLawful key Format.text_isLawful default

/-- A text is never taken for nothing, not even an empty one. -/
theorem optional_text_isLawful (key : String) : (Field.optional key .text).IsLawful :=
  Field.optional_isLawful key Format.text_isLawful fun _ => nofun

/-! ## calls -/

/-- The function of a call is read back with its description and category. -/
theorem Callee.format_isLawful : Callee.format.IsLawful := by
  refine record_isLawful _ (by decide) ?_ fun _ => rfl
  exact ⟨required_text_isLawful _, withDefault_text_isLawful _ _, optional_text_isLawful _, trivial⟩

theorem ParamType.format_isLawful : ParamType.format.IsLawful :=
  Format.wrapped_isLawful fun _ => rfl

/-- An argument is read back whatever its type is called. -/
theorem Argument.format_isLawful : Argument.format.IsLawful := by
  refine record_isLawful _ (by decide) ?_ fun _ => rfl
  exact ⟨required_text_isLawful _, Field.required_isLawful _ ParamType.format_isLawful,
    withDefault_text_isLawful _ _, withDefault_text_isLawful _ _, trivial⟩

/-- A call is read back with its arguments in order. -/
theorem Call.format_isLawful : Call.format.IsLawful := by
  have harguments := Format.list_isLawful Argument.format_isLawful
  refine record_isLawful _ (by decide) ?_ fun _ => rfl
  exact ⟨Field.required_isLawful _ Callee.format_isLawful,
    Field.withDefault_isLawful _ harguments _, trivial⟩

/-! ## control statements -/

/-- A declaration is read back; one without a body stays without. -/
theorem Declaration.format_isLawful : Declaration.format.IsLawful := by
  refine record_isLawful _ (by decide) ?_ fun _ => rfl
  exact ⟨required_text_isLawful _, withDefault_text_isLawful _ _, optional_text_isLawful _, trivial⟩

/-- The condition of an `if` or a `while` is read back. -/
theorem conditionFormat_isLawful (name : String) : (conditionFormat name).IsLawful := by
  refine record_isLawful _ (by decide) ?_ fun _ => rfl
  exact ⟨required_text_isLawful _, trivial⟩

/-- A counting loop is read back with its step, which is always written. -/
theorem Counting.format_isLawful : Counting.format.IsLawful := by
  refine record_isLawful _ (by decide) ?_ fun _ => rfl
  exact ⟨required_text_isLawful _, required_text_isLawful _, required_text_isLawful _,
    withDefault_text_isLawful _ _, trivial⟩

/-- A closing `end` is written as its tag alone, every other control statement under its
tag. -/
theorem Control.format_isLawful : Control.format.IsLawful := by
  intro c
  cases c with
  | ifThen condition =>
      exact Alternatives.read_tagged_ofRecord rfl (conditionFormat_isLawful _) condition
  | whileDo condition =>
      exact Alternatives.read_tagged_ofRecord rfl (conditionFormat_isLawful _) condition
  | forDo counter start stop step =>
      have htag : alternatives.lookup "for" = some (.ofRecord Counting.format fun c =>
          .forDo c.counter c.start c.stop c.step) := rfl
      exact Alternatives.read_tagged_ofRecord htag Counting.format_isLawful
        ⟨counter, start, stop, step⟩
  | blockEnd => exact Alternatives.read_tag rfl
  | declaration d => exact Alternatives.read_tagged_ofFormat rfl Declaration.format_isLawful d

/-! ## statements -/

/-- A call and a control statement are told apart by their keys. -/
theorem Body.format_isLawful : Body.format.IsLawful := by
  intro b
  cases b with
  | call c => exact Alternatives.read_tagged_ofFormat rfl Call.format_isLawful c
  | control c => exact Alternatives.read_tagged_ofFormat rfl Control.format_isLawful c

theorem StatementId.format_isLawful : StatementId.format.IsLawful :=
  Format.wrapped_isLawful fun _ => rfl

/-- A statement is read back with its switches and notes. -/
theorem Statement.format_isLawful : Statement.format.IsLawful := by
  refine record_isLawful _ (by decide) ?_ fun _ => rfl
  exact ⟨Field.required_isLawful _ StatementId.format_isLawful,
    Field.withDefault_isLawful _ Format.boolean_isLawful _,
    Field.withDefault_isLawful _ Format.boolean_isLawful _,
    Field.required_isLawful _ Body.format_isLawful, optional_text_isLawful _, trivial⟩

/-- What was saved is what is loaded. -/
theorem scriptFormat_isLawful : scriptFormat.IsLawful :=
  Format.list_isLawful Statement.format_isLawful

end ScriptComposer
