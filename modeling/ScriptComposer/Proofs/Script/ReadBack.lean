import ScriptComposer.Proofs.Script.Argument

/-!
# ScriptComposer.Proofs.Script.ReadBack

What is written for an argument tells its value.

Truth values and tables do not: many texts are false, and a table is written as it was
typed.  Everything else is one of three forms, which begin differently: a quoted literal,
`nil` for the empty value, and a number, which goes on as long as there are characters of
numbers.  So a reader that knows no types finds the end of each argument, and the values of
a call can be read off its text.

* `readArgument_literal` — the three forms are told apart, and their ends are found;
* `readArguments_argumentList` — the values of all arguments of a call are read back;
* `arguments_read_back` — what the arguments of a call are written as, and that it tells
  their values.
-/

namespace ScriptComposer

namespace Script

/-! ## the forms of an argument -/

/-- How a value is written that is neither a string by its type nor a truth value or a table. -/
def literal (s : List Char) : List Char :=
  if s = [] then ['n', 'i', 'l'] else if isNumeral s then s else quoted s

/-- The empty text is no number. -/
theorem not_isDecimal_nil : ¬IsDecimal [] :=
  fun h => absurd (isNumeral_iff.2 h) (by decide)

/-- A value is written as `nil` only if it is empty. -/
theorem literal_eq_nil_iff {s : List Char} : literal s = ['n', 'i', 'l'] ↔ s = [] := by
  unfold literal
  split
  · next hempty => simp [hempty]
  · next hempty =>
      refine iff_of_false ?_ hempty
      split
      · next hnumeral =>
          rintro rfl
          exact absurd hnumeral (by decide)
      · simp [quoted]

/-- It is written as it is only if it is a number. -/
theorem literal_eq_self_iff {s : List Char} : literal s = s ↔ IsDecimal s := by
  unfold literal
  split
  · next hempty =>
      subst hempty
      exact iff_of_false (by simp) not_isDecimal_nil
  · split
    · next hnumeral => exact iff_of_true rfl (isNumeral_iff.1 hnumeral)
    · next hnumeral => exact iff_of_false (quoted_ne_self s) (mt isNumeral_iff.2 hnumeral)

theorem literal_eq_quoted_iff {s : List Char} :
    literal s = quoted s ↔ s ≠ [] ∧ ¬IsDecimal s := by
  unfold literal
  split
  · next hempty => exact iff_of_false (by simp [quoted]) fun h => h.1 hempty
  · next hempty =>
      split
      · next hnumeral =>
          exact iff_of_false (quoted_ne_self s).symm fun h => h.2 (isNumeral_iff.1 hnumeral)
      · next hnumeral => exact iff_of_true rfl ⟨hempty, mt isNumeral_iff.2 hnumeral⟩

/-! ## reading arguments -/

/-- The characters of numbers. -/
def isNumeralChar (c : Char) : Bool := c.isDigit || c == '.' || c == '-'

/-- Read an argument by its first characters: its value, and what is behind it. -/
def readArgument : List Char → Option (List Char × List Char)
  | '"' :: rest => readQuoted rest
  | 'n' :: 'i' :: 'l' :: rest => some ([], rest)
  | s => some (s.takeWhile isNumeralChar, s.dropWhile isNumeralChar)

/-- Read that many arguments, with two characters or the end of the text behind each. -/
def readArguments : Nat → List Char → Option (List (List Char))
  | 0, _ => some []
  | n + 1, s => (readArgument s).bind fun (value, behind) =>
      (readArguments n (behind.drop 2)).map (value :: ·)

/-- A quoted argument is read back. -/
theorem readArgument_quoted (s rest : List Char) :
    readArgument (quoted s ++ rest) = some (s, rest) :=
  readQuoted_quoted s rest

/-- A number ends where the characters of numbers do. -/
theorem readArgument_of_isNumeral {s : List Char} (h : isNumeral s = true) (rest : List Char)
    (hrest : ∀ c ∈ rest.head?, isNumeralChar c = false) :
    readArgument (s ++ rest) = some (s, rest) := by
  have hchars : ∀ c ∈ s, isNumeralChar c = true := by
    intro c hc
    simpa [isNumeralChar, or_assoc] using mem_of_isNumeral h c hc
  have hbehind : rest.takeWhile isNumeralChar = [] ∧ rest.dropWhile isNumeralChar = rest := by
    cases rest with
    | nil => exact ⟨rfl, rfl⟩
    | cons c rest => simp [hrest c rfl]
  cases s with
  | nil => exact absurd h (by decide)
  | cons c s =>
      -- the first character is neither a quote nor the first letter of `nil`
      have hfirst := hchars c List.mem_cons_self
      rw [readArgument, List.takeWhile_append_of_pos hchars, List.dropWhile_append_of_pos hchars,
        hbehind.1, hbehind.2, List.append_nil]
      · intro _ hquote
        obtain ⟨rfl, -⟩ := List.cons.inj hquote
        exact absurd hfirst (by decide)
      · intro _ hnil
        obtain ⟨rfl, -⟩ := List.cons.inj hnil
        exact absurd hfirst (by decide)

/-- So is a literal, if no more of a number follows. -/
theorem readArgument_literal (s rest : List Char)
    (hrest : ∀ c ∈ rest.head?, isNumeralChar c = false) :
    readArgument (literal s ++ rest) = some (s, rest) := by
  unfold literal
  split
  · next hempty =>
      rw [hempty]
      rfl
  · split
    · next hnumeral => exact readArgument_of_isNumeral hnumeral rest hrest
    · exact readArgument_quoted s rest

end Script

/-- Is the value read back from what is written for an argument of the type?  Truth values and
tables are not. -/
def ParamType.tellsValue (t : ParamType) : Bool :=
  t.mentions .string || (!t.mentions .boolean && !t.mentions .table)

namespace Script

theorem render_of_string {a : Argument} (h : a.type.mentions .string = true) :
    a.render = String.ofList (quoted a.value.toList) := by
  simp [Argument.render, h]

theorem render_of_plain {a : Argument} (hstring : a.type.mentions .string = false)
    (hboolean : a.type.mentions .boolean = false) (htable : a.type.mentions .table = false) :
    a.render = String.ofList (literal a.value.toList) := by
  simp only [Argument.render, literal, hstring, hboolean, htable, Bool.false_and, Bool.false_or,
    Bool.false_eq_true, if_false, String.toList_eq_nil_iff]
  split
  · rfl
  · split
    · rw [String.ofList_toList]
    · rfl

/-- An argument is read back, unless what is behind it goes on like a number. -/
theorem readArgument_render {a : Argument} (h : a.type.tellsValue = true) (rest : List Char)
    (hrest : ∀ c ∈ rest.head?, isNumeralChar c = false) :
    readArgument (a.render.toList ++ rest) = some (a.value.toList, rest) := by
  cases hstring : a.type.mentions .string with
  | true => rw [render_of_string hstring, String.toList_ofList, readArgument_quoted]
  | false =>
      obtain ⟨hboolean, htable⟩ : a.type.mentions .boolean = false ∧
          a.type.mentions .table = false := by simpa [ParamType.tellsValue, hstring] using h
      rw [render_of_plain hstring hboolean htable, String.toList_ofList,
        readArgument_literal _ rest hrest]

/-! ## calls -/

/-- What is behind the opening bracket of a call with the arguments. -/
def argumentList (arguments : List Argument) : List Char :=
  [',', ' '].intercalate (arguments.map (·.render.toList)) ++ [')']

theorem argumentList_singleton (a : Argument) : argumentList [a] = a.render.toList ++ [')'] := by
  simp [argumentList]

theorem argumentList_cons_cons (a b : Argument) (arguments : List Argument) :
    argumentList (a :: b :: arguments) =
      a.render.toList ++ ',' :: ' ' :: argumentList (b :: arguments) := by
  simp [argumentList, List.intercalate_cons_cons]

/-- A call is its name and its arguments between brackets. -/
theorem toList_render (c : Call) :
    c.render.toList =
      "API.".toList ++ (c.callee.name.toList ++ '(' :: argumentList c.arguments) := by
  simp [Call.render, argumentList, String.toList_intercalate, Function.comp_def]

/-- The values of the arguments are read back from their list. -/
theorem readArguments_argumentList {arguments : List Argument}
    (h : ∀ a ∈ arguments, a.type.tellsValue = true) :
    readArguments arguments.length (argumentList arguments) =
      some (arguments.map (·.value.toList)) := by
  induction arguments with
  | nil => rfl
  | cons a arguments ih =>
      have ha := h a List.mem_cons_self
      have ih := ih fun b hb => h b (List.mem_cons_of_mem _ hb)
      cases arguments with
      | nil =>
          rw [argumentList_singleton, List.length_singleton, readArguments,
            readArgument_render ha [')'] (by simp; decide)]
          rfl
      | cons b arguments =>
          rw [argumentList_cons_cons, List.length_cons, readArguments,
            readArgument_render ha (',' :: ' ' :: argumentList (b :: arguments)) (by simp; decide)]
          show (readArguments _ (argumentList (b :: arguments))).map _ = _
          rw [ih]
          rfl

/-- Calls of one function with arguments of the same types that are written the same have the
same values. -/
theorem values_eq_of_render_eq {c d : Call} (hname : c.callee.name = d.callee.name)
    (htypes : c.arguments.map (·.type) = d.arguments.map (·.type))
    (htells : ∀ a ∈ c.arguments, a.type.tellsValue = true) (hrender : c.render = d.render) :
    c.arguments.map (·.value) = d.arguments.map (·.value) := by
  have hlength : c.arguments.length = d.arguments.length := by
    simpa using congrArg List.length htypes
  have htells' : ∀ a ∈ d.arguments, a.type.tellsValue = true := by
    intro a ha
    have htype := List.mem_map_of_mem (f := (·.type)) ha
    rw [← htypes] at htype
    obtain ⟨b, hb, hba⟩ := List.mem_map.1 htype
    rw [← hba]
    exact htells b hb
  have hlist : argumentList c.arguments = argumentList d.arguments := by
    have htext := congrArg String.toList hrender
    rw [toList_render, toList_render, hname] at htext
    simpa using htext
  have hread := congrArg (readArguments c.arguments.length) hlist
  rw [readArguments_argumentList htells, hlength, readArguments_argumentList htells'] at hread
  have hvalues := congrArg (List.map String.ofList) (Option.some.inj hread)
  simpa [List.map_map, Function.comp_def] using hvalues

/-! ## what the text of an argument tells -/

section Plain

variable {a : Argument} (hstring : a.type.mentions .string = false)
  (hboolean : a.type.mentions .boolean = false) (htable : a.type.mentions .table = false)

include hstring hboolean htable

theorem render_eq_nil_iff : a.render = "nil" ↔ a.value = "" := by
  rw [render_of_plain hstring hboolean htable, ← String.toList_inj, String.toList_ofList]
  exact literal_eq_nil_iff.trans String.toList_eq_nil_iff

theorem render_eq_value_iff : a.render = a.value ↔ IsDecimal a.value.toList := by
  rw [render_of_plain hstring hboolean htable, ← String.toList_inj, String.toList_ofList]
  exact literal_eq_self_iff

theorem render_eq_quoted_iff :
    a.render = String.ofList (quoted a.value.toList) ↔
      a.value ≠ "" ∧ ¬IsDecimal a.value.toList := by
  rw [render_of_plain hstring hboolean htable, String.ofList_inj, literal_eq_quoted_iff, Ne,
    String.toList_eq_nil_iff]

end Plain

/-- A quoted literal stays on its line, and is read back up to its last character, whatever
follows.  An argument that may be a string is always quoted; if it can be neither a truth value
nor a table, it is `nil`, a number as it was typed, or quoted.  So the text of a call tells the
values of such arguments. -/
theorem arguments_read_back :
    (∀ s : List Char,
      quoted s = '"' :: (escape s ++ ['"']) ∧
      escape s = replaceChar '\r' ['\\', 'r'] (replaceChar '\n' ['\\', 'n']
        (replaceChar '"' ['\\', '"'] (replaceChar '\\' ['\\', '\\'] s))) ∧
      '\n' ∉ quoted s ∧ '\r' ∉ quoted s ∧
      ∀ rest, readQuoted ((quoted s).tail ++ rest) = some (s, rest)) ∧
    (∀ a : Argument, a.type.mentions .string = true →
      a.render = String.ofList (quoted a.value.toList)) ∧
    (∀ a : Argument, a.type.mentions .string = false → a.type.mentions .boolean = false →
      a.type.mentions .table = false →
        (a.render = "nil" ↔ a.value = "") ∧
        (a.render = a.value ↔ IsDecimal a.value.toList) ∧
        (a.render = String.ofList (quoted a.value.toList) ↔
          a.value ≠ "" ∧ ¬IsDecimal a.value.toList)) ∧
    ∀ c d : Call, c.callee.name = d.callee.name →
      c.arguments.map (·.type) = d.arguments.map (·.type) →
      (∀ a ∈ c.arguments, a.type.tellsValue = true) → c.render = d.render →
        c.arguments.map (·.value) = d.arguments.map (·.value) := by
  refine ⟨fun s => ⟨rfl, escape_eq_replaceChar s, ?_, ?_, readQuoted_quoted s⟩,
    fun _ => render_of_string, fun _ hstring hboolean htable => ⟨?_, ?_, ?_⟩,
    fun _ _ => values_eq_of_render_eq⟩
  · exact fun h => (ne_lineBreak_of_mem_quoted h).1 rfl
  · exact fun h => (ne_lineBreak_of_mem_quoted h).2 rfl
  · exact render_eq_nil_iff hstring hboolean htable
  · exact render_eq_value_iff hstring hboolean htable
  · exact render_eq_quoted_iff hstring hboolean htable

/-- A call with a text that looks like the end of the call, a number, and what is no number. -/
def reportCall (description : String) : Call where
  callee := ⟨"Report", description, none⟩
  arguments := [⟨"text", ⟨"boolean | String"⟩, description, "a\", nil)\r\n\\"⟩,
    ⟨"count", ⟨"number"⟩, description, "-12.50"⟩, ⟨"limit", ⟨"number"⟩, description, "1."⟩,
    ⟨"point", ⟨"WPOINT"⟩, description, ""⟩]

/-- The text that both calls are written as has only one list of values. -/
theorem arguments_read_back_report :
    (reportCall "old").render = (reportCall "new").render ∧
    (reportCall "old").render.toList =
      "API.Report(\"a\\\", nil)\\r\\n\\\\\", -12.50, \"1.\", nil)".toList ∧
    (reportCall "old").arguments.map (·.value) = (reportCall "new").arguments.map (·.value) ∧
    IsDecimal "-12.50".toList ∧ ¬IsDecimal "1.".toList := by
  obtain ⟨-, -, hplain, hcalls⟩ := arguments_read_back
  have hnumber := hplain ⟨"count", ⟨"number"⟩, "", "-12.50"⟩ (by decide) (by decide) (by decide)
  have hother := hplain ⟨"limit", ⟨"number"⟩, "", "1."⟩ (by decide) (by decide) (by decide)
  have hrender : (reportCall "old").render = (reportCall "new").render := rfl
  have hvalues := hcalls (reportCall "old") (reportCall "new") rfl rfl (by decide) hrender
  exact ⟨hrender, by decide, hvalues, hnumber.2.1.1 (by decide), (hother.2.2.1 (by decide)).2⟩

end Script

end ScriptComposer
