import ScriptComposer.Proofs.Json.Follows
import ScriptComposer.Statement.Format

/-!
# ScriptComposer.Proofs.Statement.Presentation

What of a saved script is content and what is presentation.

The shape of saved scripts lists their records, the keys of their fields and what a field that
is left out stands for.  The format follows it, so two texts that differ by it in presentation
only are loaded alike.

* `scriptFormat_reads_content` — a script is loaded from what is said, however it is presented,
  and not at all if a required field is missing or a field is given twice.
-/

namespace ScriptComposer

open Json

/-! ## the shape of saved scripts -/

/-- What a call keeps of its function. -/
def calleeShape : Shape :=
  .record [⟨"name", none, .plain⟩, ⟨"description", some (.text ""), .plain⟩,
    ⟨"category", some .nothing, .plain⟩]

def argumentShape : Shape :=
  .record [⟨"name", none, .plain⟩, ⟨"type", none, .plain⟩, ⟨"description", some (.text ""), .plain⟩,
    ⟨"value", some (.text ""), .plain⟩]

def callShape : Shape :=
  .record [⟨"function", none, calleeShape⟩, ⟨"parameters", some .noItems, .list argumentShape⟩]

def declarationShape : Shape :=
  .record [⟨"name", none, .plain⟩, ⟨"params", some (.text ""), .plain⟩,
    ⟨"body", some .nothing, .plain⟩]

/-- The content of an `if` or `while`. -/
def conditionShape : Shape := .record [⟨"condition", none, .plain⟩]

/-- The content of a `for`. -/
def countingShape : Shape :=
  .record [⟨"loopVariable", none, .plain⟩, ⟨"startValue", none, .plain⟩,
    ⟨"endValue", none, .plain⟩, ⟨"stepValue", some (.text "1"), .plain⟩]

def controlShape : Shape :=
  .choice [("if", conditionShape), ("while", conditionShape), ("for", countingShape),
    ("end", .plain), ("function", declarationShape)]

/-- What a statement does. -/
def bodyShape : Shape := .choice [("call", callShape), ("control", controlShape)]

def statementShape : Shape :=
  .record [⟨"id", none, .plain⟩, ⟨"enabled", some (.boolean true), .plain⟩,
    ⟨"inMainLoop", some (.boolean true), .plain⟩, ⟨"body", none, bodyShape⟩,
    ⟨"notes", some .nothing, .plain⟩]

def scriptShape : Shape := .list statementShape

/-! ## the formats follow it -/

/-- A text that may be left out is read as its default when the default is spelled out. -/
theorem text_read_default (s : String) (v : Node) (h : (Default.text s).IsSaidBy v) :
    Format.text.read v = .ok s := by
  obtain ⟨_⟩ := h
  assumption

/-- The same of a switch. -/
theorem boolean_read_default (b : Bool) (v : Node) (h : (Default.boolean b).IsSaidBy v) :
    Format.boolean.read v = .ok b := by
  obtain ⟨_⟩ := h
  rfl

/-- An empty array says what a missing one does. -/
theorem list_read_default {α : Type} (f : Format α) (v : Node) (h : Default.noItems.IsSaidBy v) :
    (Format.list f).read v = .ok [] := by
  obtain ⟨_⟩ := h
  rfl

/-- Only the name of a called function has to be given. -/
theorem callee_follows : Follows Callee.format.read calleeShape := by
  refine record_follows _ ?_ (by decide) _ _
  exact ⟨required_follows _ text_follows, withDefault_follows _ text_follows (text_read_default ""),
    optional_follows _ fun _ _ => text_follows.isWhole, rfl⟩

/-- An argument has a name and a type, and empty texts for what is missing. -/
theorem argument_follows : Follows Argument.format.read argumentShape := by
  refine record_follows _ ?_ (by decide) _ _
  exact ⟨required_follows _ text_follows, required_follows _ (wrapped_follows _ _),
    withDefault_follows _ text_follows (text_read_default ""),
    withDefault_follows _ text_follows (text_read_default ""), rfl⟩

/-- A call without arguments may leave them out. -/
theorem call_follows : Follows Call.format.read callShape := by
  refine record_follows _ ?_ (by decide) _ _
  exact ⟨required_follows _ callee_follows,
    withDefault_follows _ (list_follows argument_follows) (list_read_default _), rfl⟩

/-- A declaration may come without parameters and without a body. -/
theorem declaration_follows : Follows Declaration.format.read declarationShape := by
  refine record_follows _ ?_ (by decide) _ _
  exact ⟨required_follows _ text_follows, withDefault_follows _ text_follows (text_read_default ""),
    optional_follows _ fun _ _ => text_follows.isWhole, rfl⟩

/-- An `if` and a `while` are read alike, by their condition. -/
theorem condition_follows (name : String) : Follows (conditionFormat name).read conditionShape := by
  refine record_follows _ ?_ (by decide) _ _
  exact ⟨required_follows _ text_follows, rfl⟩

/-- A `for` without a step counts by one. -/
theorem counting_follows : Follows Counting.format.read countingShape := by
  refine record_follows _ ?_ (by decide) _ _
  exact ⟨required_follows _ text_follows, required_follows _ text_follows,
    required_follows _ text_follows,
    withDefault_follows _ text_follows (text_read_default unitStep), rfl⟩

/-- A control statement is read by the kind that it is named as. -/
theorem control_follows : Follows Control.format.read controlShape :=
  choice_follows <|
    .cons ⟨rfl, (condition_follows _).map _⟩ <|
    .cons ⟨rfl, (condition_follows _).map _⟩ <|
    .cons ⟨rfl, counting_follows.map _⟩ <|
    .cons ⟨rfl, nothing_follows _⟩ <|
    .cons ⟨rfl, declaration_follows.map _⟩ .nil

/-- What a statement does is a call or a control statement, by the key it stands under. -/
theorem body_follows : Follows Body.format.read bodyShape :=
  choice_follows <|
    .cons ⟨rfl, call_follows.map _⟩ <| .cons ⟨rfl, control_follows.map _⟩ .nil

/-- A statement is enabled and in the main loop unless it says otherwise. -/
theorem statement_follows : Follows Statement.format.read statementShape := by
  refine record_follows _ ?_ (by decide) _ _
  exact ⟨required_follows _ (wrapped_follows _ _),
    withDefault_follows _ boolean_follows (boolean_read_default true),
    withDefault_follows _ boolean_follows (boolean_read_default true),
    required_follows _ body_follows, optional_follows _ fun _ _ => text_follows.isWhole, rfl⟩

/-! ## loading -/

/-- A text that is loaded is a writing of a value.  Every writing of a value that differs from it
only in the presentation of records, with any white space, is loaded as the same statements; if a
required member is deleted or a field given twice, then nothing is loaded, however the value is
presented. -/
theorem scriptFormat_reads_content {source : String} {statements : List Statement}
    (h : scriptFormat.ofText source = .ok statements) :
    (∃ v : Node, v.IsWrittenIn source) ∧ ∀ v : Node, v.IsWrittenIn source →
      (∀ v' source', SameContent scriptShape v v' → v'.IsWrittenIn source' →
        scriptFormat.ofText source' = .ok statements) ∧
      (∀ v₁ v₂ v' source', SameContent scriptShape v v₁ → Spoiled scriptShape v₁ v₂ →
        SameContent scriptShape v₂ v' → v'.IsWrittenIn source' →
        ∃ e, scriptFormat.ofText source' = .error e) :=
  (list_follows statement_follows).ofText h

/-- A call whose callee becomes an array, in a statement with one more member and its own in
another order, is loaded as before; without the id, nothing is loaded. -/
theorem scriptFormat_reads_content_rearranged :
    scriptFormat.ofText
      "[\x7b\"id\":\"a\",\"body\":\x7b\"call\":\x7b\"function\":\x7b\"name\":\"f\"\x7d\x7d\x7d\x7d]"
      = .ok [⟨⟨"a"⟩, true, true, .call ⟨⟨"f", "", none⟩, []⟩, none⟩] ∧
    scriptFormat.ofText
      "[\n\x7b\"x\": [[]], \"body\": \x7b\"call\": \x7b\"function\":[\"f\"]\x7d\x7d, \"id\": \"a\"\x7d]"
      = .ok [⟨⟨"a"⟩, true, true, .call ⟨⟨"f", "", none⟩, []⟩, none⟩] ∧
    ∃ e, scriptFormat.ofText
      "[\n\x7b\"x\": [[]], \"body\": \x7b\"call\": \x7b\"function\":[\"f\"]\x7d\x7d\x7d]"
      = .error e := by
  have h : scriptFormat.ofText
      "[\x7b\"id\":\"a\",\"body\":\x7b\"call\":\x7b\"function\":\x7b\"name\":\"f\"\x7d\x7d\x7d\x7d]"
      = .ok [⟨⟨"a"⟩, true, true, .call ⟨⟨"f", "", none⟩, []⟩, none⟩] := rfl
  obtain ⟨hsame, hspoiled⟩ := (scriptFormat_reads_content h).2
    (Value.array [.object [("id", .text "a"),
      ("body", tagged "call" (.object [("function", .object [("name", .text "f")])]))]]).toNode
    (Node.isWrittenIn_iff.2 ⟨Value.isWhole_toNode _, rfl⟩)
  have hcallee : Relaid scriptShape
      (Value.array [.object [("id", .text "a"),
        ("body", tagged "call" (.object [("function", .object [("name", .text "f")])]))]]).toNode
      (Value.array [.object [("id", .text "a"),
        ("body", tagged "call" (.object [("function", .array [.text "f"])]))]]).toNode := by
    refine @Relaid.inItem _ [] [] _ _ ?_
    refine @Relaid.inMember _ ⟨"body", none, bodyShape⟩ [_] [] _ _ _ (by simp) rfl ?_
    refine @Relaid.inContent _ callShape "call" _ _ _ rfl rfl ?_
    refine @Relaid.inMember _ ⟨"function", none, calleeShape⟩ [] [] _ _ _ (by simp) rfl ?_
    exact .toArray (.next rfl .done)
  have hinserted : Relaid scriptShape
      (Value.array [.object [("id", .text "a"),
        ("body", tagged "call" (.object [("function", .array [.text "f"])]))]]).toNode
      (Value.array [.object [("id", .text "a"), ("x", .array [.array []]),
        ("body", tagged "call" (.object [("function", .array [.text "f"])]))]]).toNode := by
    refine @Relaid.inItem _ [] [] _ _ ?_
    exact @Relaid.insert _ [_] [_] _ "x" _ rfl (by decide)
      (Value.isWhole_toNode (.array [.array []]))
  have hpermuted : Relaid scriptShape
      (Value.array [.object [("id", .text "a"), ("x", .array [.array []]),
        ("body", tagged "call" (.object [("function", .array [.text "f"])]))]]).toNode
      (Value.array [.object [("x", .array [.array []]),
        ("body", tagged "call" (.object [("function", .array [.text "f"])])),
        ("id", .text "a")]]).toNode := by
    refine @Relaid.inItem _ [] [] _ _ (.permute ?_)
    exact .trans (.swap _ _ _) (.cons _ (.swap _ _ _))
  have hall := Relation.EqvGen.trans _ _ _ (.rel _ _ hcallee)
    (.trans _ _ _ (.rel _ _ hinserted) (.rel _ _ hpermuted))
  have hdeleted : Spoiled scriptShape
      (Value.array [.object [("x", .array [.array []]),
        ("body", tagged "call" (.object [("function", .array [.text "f"])])),
        ("id", .text "a")]]).toNode
      (Value.array [.object [("x", .array [.array []]),
        ("body", tagged "call" (.object [("function", .array [.text "f"])]))]]).toNode := by
    refine @Spoiled.inItem _ [] [] _ _ ?_
    exact @Spoiled.delete _ ⟨"id", none, .plain⟩ [_, _] [] _ _ (by simp) rfl rfl
  exact ⟨h, hsame _ _ hall (Node.isWrittenIn_iff.2 ⟨Value.isWhole_toNode _, rfl⟩),
    hspoiled _ _ _ _ hall hdeleted (.refl _)
      (Node.isWrittenIn_iff.2 ⟨Value.isWhole_toNode _, rfl⟩)⟩

end ScriptComposer
