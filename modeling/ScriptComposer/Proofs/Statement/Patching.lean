import ScriptComposer.Statement.Patch

/-!
# ScriptComposer.Proofs.Statement.Patching

Patches in a row, and what no patch touches.

Two patches that are applied one after the other are one patch: field by field the second
one wins, and the new values of arguments are those of the first and then those of the
second.  What a patch leaves alone is the identity of a statement: its id, its kind, and all
of a call but the values of its arguments.

* `apply_merge` — two patches in one;
* `apply_apply` — a patch that is applied again changes nothing more;
* `alike_applyToBody` — a patched statement is of the kind it was.
-/

namespace ScriptComposer

/-! ## arguments -/

/-- The arguments with new values, each set in the first argument of its name. -/
def setArguments (news : List (String × String)) (arguments : List Argument) : List Argument :=
  news.foldl (fun arguments new => setArgument new.1 new.2 arguments) arguments

/-- The last of the new values under a name. -/
def lastValue? (name : String) : List (String × String) → Option String
  | [] => none
  | new :: news => (lastValue? name news).or (if new.1 = name then some new.2 else none)

theorem setArguments_nil (news : List (String × String)) : setArguments news [] = [] := by
  induction news with
  | nil => rfl
  | cons new news ih => exact ih

/-- The first argument takes the last value under its name; values under other names go to
the arguments behind it. -/
theorem setArguments_cons (news : List (String × String)) (a : Argument)
    (arguments : List Argument) :
    setArguments news (a :: arguments) =
      { a with value := (lastValue? a.name news).getD a.value } ::
        setArguments (news.filter (·.1 ≠ a.name)) arguments := by
  induction news generalizing a arguments with
  | nil => rfl
  | cons new news ih =>
      change setArguments news (setArgument new.1 new.2 (a :: arguments)) = _
      by_cases hname : a.name = new.1
      · rw [setArgument, if_pos hname, ih]
        simp [lastValue?, hname]
      · rw [setArgument, if_neg hname, ih, lastValue?, if_neg (Ne.symm hname), Option.or_none,
          List.filter_cons_of_pos (by simpa using Ne.symm hname)]
        rfl

theorem setArguments_setArguments (news : List (String × String)) (arguments : List Argument) :
    setArguments news (setArguments news arguments) = setArguments news arguments := by
  induction arguments generalizing news with
  | nil => rw [setArguments_nil, setArguments_nil]
  | cons a arguments ih =>
      rw [setArguments_cons, setArguments_cons, ih]
      cases lastValue? a.name news <;> rfl

/-- What an argument stands for: everything but its value. -/
def Argument.parameter (a : Argument) : String × ParamType × String :=
  (a.name, a.type, a.description)

/-- New values leave the arguments as they are otherwise, their number and order included. -/
theorem map_parameter_setArguments (news : List (String × String)) (arguments : List Argument) :
    (setArguments news arguments).map Argument.parameter = arguments.map Argument.parameter := by
  induction arguments generalizing news with
  | nil => rw [setArguments_nil]
  | cons a arguments ih =>
      rw [setArguments_cons, List.map_cons, List.map_cons, ih]
      rfl

/-! ## statements -/

attribute [ext] Statement

/-- Two bodies are of one kind, and calls of the same function with the same parameters. -/
inductive Body.Alike : Body → Body → Prop
  | call {callee arguments arguments'}
      (h : arguments'.map Argument.parameter = arguments.map Argument.parameter) :
      Alike (.call ⟨callee, arguments⟩) (.call ⟨callee, arguments'⟩)
  | ifThen (condition condition') :
      Alike (.control (.ifThen condition)) (.control (.ifThen condition'))
  | whileDo (condition condition') :
      Alike (.control (.whileDo condition)) (.control (.whileDo condition'))
  | forDo (counter start stop step counter' start' stop' step') :
      Alike (.control (.forDo counter start stop step))
        (.control (.forDo counter' start' stop' step'))
  | blockEnd : Alike (.control .blockEnd) (.control .blockEnd)
  | declaration (d d') : Alike (.control (.declaration d)) (.control (.declaration d'))

theorem Body.Alike.refl (b : Body) : b.Alike b := by
  cases b with
  | call c => exact .call rfl
  | control c => cases c <;> constructor

theorem Body.Alike.isDeclaration_eq {b b' : Body} (h : b.Alike b') :
    b'.isDeclaration = b.isDeclaration := by
  cases h <;> rfl

namespace Patch

/-! ## two patches in one -/

/-- The patch that does what the one and then the other does: a field is taken from the
second if it is there, else from the first. -/
def merge (first second : Patch) : Patch where
  enabled := second.enabled.or first.enabled
  inside := second.inside.or first.inside
  notes := second.notes.or first.notes
  arguments := first.arguments ++ second.arguments
  condition := second.condition.or first.condition
  counter := second.counter.or first.counter
  start := second.start.or first.start
  stop := second.stop.or first.stop
  step := second.step.or first.step
  name := second.name.or first.name
  params := second.params.or first.params
  body := second.body.or first.body

theorem alike_applyToBody (patch : Patch) (b : Body) : b.Alike (patch.applyToBody b) := by
  cases b with
  | call c => exact .call (map_parameter_setArguments patch.arguments c.arguments)
  | control c => cases c <;> constructor

theorem isDeclaration_apply (patch : Patch) (s : Statement) :
    (patch.apply s).isDeclaration = s.isDeclaration :=
  (patch.alike_applyToBody s.body).isDeclaration_eq

/-- No patch switches a declaration into the main loop. -/
theorem wantsLoop_of_apply {patch : Patch} {s : Statement} (h : s.isDeclaration = true)
    (hpatched : (patch.apply s).wantsLoop = true) : s.wantsLoop = true := by
  cases hinside : patch.inside with
  | none => simpa [apply, hinside] using hpatched
  | some inside => simp [apply, hinside, h] at hpatched

theorem applyToControl_merge (first second : Patch) (c : Control) :
    (first.merge second).applyToControl c = second.applyToControl (first.applyToControl c) := by
  cases c <;> simp [applyToControl, merge, Option.getD_or, Option.map_or]

theorem applyToBody_merge (first second : Patch) (b : Body) :
    (first.merge second).applyToBody b = second.applyToBody (first.applyToBody b) := by
  cases b with
  | call c => simp [applyToBody, applyToCall, merge, List.foldl_append]
  | control c => exact congrArg Body.control (applyToControl_merge first second c)

/-- Two patches, one after the other, are one patch. -/
theorem apply_merge (first second : Patch) (s : Statement) :
    (first.merge second).apply s = second.apply (first.apply s) := by
  refine Statement.ext rfl Option.getD_or ?_ (applyToBody_merge first second s.body)
    Option.or_assoc
  -- where a statement may go does not depend on whether it was patched before
  have hdeclared := first.isDeclaration_apply s
  simp only [apply, merge, Option.map_or, Option.getD_or] at hdeclared ⊢
  rw [hdeclared]

theorem applyToBody_applyToBody (patch : Patch) (b : Body) :
    patch.applyToBody (patch.applyToBody b) = patch.applyToBody b := by
  cases b with
  | call c =>
      have harguments := setArguments_setArguments patch.arguments c.arguments
      exact congrArg (fun arguments => Body.call ⟨c.callee, arguments⟩) harguments
  | control c =>
      rw [← applyToBody_merge]
      cases c <;> simp [applyToBody, applyToControl, merge]

/-- A patch that is applied again changes nothing more. -/
theorem apply_apply (patch : Patch) (s : Statement) :
    patch.apply (patch.apply s) = patch.apply s := by
  rw [← apply_merge]
  refine Statement.ext rfl ?_ ?_ ?_ ?_
  · simp [apply, merge]
  · simp [apply, merge]
  · exact (applyToBody_merge patch patch s.body).trans (patch.applyToBody_applyToBody s.body)
  · simp [apply, merge]

end Patch

end ScriptComposer
