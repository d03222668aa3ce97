import ScriptComposer.CommandLine.Run
import ScriptComposer.Proofs.Except
import ScriptComposer.Proofs.FileTree.Proper
import ScriptComposer.Proofs.Program.Sections

/-!
# ScriptComposer.Proofs.CommandLine.Ending

How a run on the command line ends.

Announced steps apart, a run comes down to what made it fail, if anything did, and to the
tree, the printed text and the notices it leaves behind.  To generate a script is first to
read the tree and then to deliver the script; cleaning takes part in neither.

* `Reads` — tasks that only read the tree, put together from such tasks;
* `ending_runOn` — the ending of a run, by what its options ask for;
* `scriptIn_eq_ok`, `checkedIn_eq_ok` — when there is a script to deliver, or one that is right.
-/

namespace ScriptComposer.CommandLine

structure Ending where
  failure : Option Failure
  tree : FileTree
  printed : String
  notices : List Notice

/-- The ending of a run, without the steps that were announced. -/
def ending {α : Type} : EStateM.Result Failure Trace α → Ending
  | .ok _ t => ⟨none, t.tree, t.printed, t.notices⟩
  | .error f t => ⟨some f, t.tree, t.printed, t.notices⟩

/-- A run succeeds if nothing made it fail. -/
theorem failure_ending_eq_none {r : EStateM.Result Failure Trace Unit} :
    (ending r).failure = none ↔ ∃ t, r = .ok () t := by
  cases r <;> simp [ending]

/-- What is said of a run that succeeds is said of its ending. -/
theorem exists_ok_iff_ending {r : EStateM.Result Failure Trace Unit}
    {P : FileTree → String → Prop} :
    (∃ t, r = .ok () t ∧ P t.tree t.printed) ↔
      (ending r).failure = none ∧ P (ending r).tree (ending r).printed := by
  cases r <;> simp [ending]

/-- The ending of a run that only looked at a tree. -/
def Ending.ofFailure (tree : FileTree) (f : Failure) : Ending := ⟨some f, tree, "", []⟩

variable {α β : Type} {scratch : Scratch} {o : Options} {input : Path} {tree : FileTree}

/-! ## tasks step by step -/

/-- A step that fails stops the run, and leaves what was done before. -/
theorem bind_apply (x : Task α) (f : α → Task β) (t : Trace) :
    (x >>= f) t = match x t with
      | .ok a t => f a t
      | .error e t => .error e t := by
  show EStateM.bind x f t = _
  rw [EStateM.bind]
  cases x t <;> rfl

theorem announce_apply (task label : String) (number total : Nat) (t : Trace) :
    announce task label number total t =
      .ok () { t with steps := t.steps ++ [⟨task, label, number, total⟩] } := rfl

/-- Notices are given one after the other. -/
theorem forM_note (fs : List Script.Finding) (t : Trace) :
    (fs.forM fun f => note (.finding f)) t =
      .ok () { t with notices := t.notices ++ fs.map .finding } := by
  induction fs generalizing t with
  | nil => rw [List.map_nil, List.append_nil]; rfl
  | cons f fs ih =>
      have hfirst : note (.finding f) t =
          .ok () { t with notices := t.notices ++ [.finding f] } := rfl
      rw [List.forM, bind_apply, hfirst]
      simp only [ih, List.map_cons, List.append_assoc, List.singleton_append]

/-! ## reading -/

/-- A task only reads the tree: apart from steps that it announces it leaves nothing
behind, and what comes of it is a function of the tree. -/
def Reads (x : Task α) (f : FileTree → Except Failure α) : Prop :=
  ∀ t : Trace, ∃ steps, x t = match f t.tree with
    | .ok a => .ok a { t with steps }
    | .error e => .error e { t with steps }

namespace Reads

theorem pure (a : α) : Reads (Pure.pure a) fun _ => .ok a := fun t => ⟨t.steps, rfl⟩

theorem throw (e : Failure) : Reads (MonadExcept.throw e : Task α) fun _ => .error e :=
  fun t => ⟨t.steps, rfl⟩

theorem announce {x : Task α} {f : FileTree → Except Failure α} {task label : String}
    {number total : Nat} (h : Reads x f) :
    Reads (CommandLine.announce task label number total >>= fun _ => x) f := by
  intro t
  rw [bind_apply]
  exact h { t with steps := t.steps ++ [⟨task, label, number, total⟩] }

/-- What is looked up in the tree is handed on, or its failure is the task's. -/
theorem look (f : FileTree → Except Failure α) {x : α → Task β}
    {g : α → FileTree → Except Failure β} (h : ∀ a, Reads (x a) (g a)) :
    Reads (CommandLine.look f >>= x) fun tree => f tree >>= fun a => g a tree := by
  intro t
  rw [bind_apply, CommandLine.look]
  dsimp only
  cases f t.tree with
  | ok a => exact h a t
  | error e => exact ⟨t.steps, rfl⟩

/-- A guard in a task is the same guard in what comes of it. -/
theorem guard {c : Prop} [Decidable c] {e : Failure} {x : Unit → Task α}
    {f : FileTree → Except Failure α} (h : Reads (x ()) f) :
    Reads (if c then MonadExcept.throw e >>= x else x ()) fun tree =>
      if c then .error e else f tree := by
  by_cases hc : c
  · simp only [if_pos hc]
    exact fun t => ⟨t.steps, rfl⟩
  · simpa only [if_neg hc] using h

end Reads

/-- The script of the program in a file with what is to be said about it; the script is
refused if its structure is to be right and is not. -/
def scriptIn (width : Nat) (strict : Bool) (input : Path) (tree : FileTree) :
    Except Failure (String × Script.Report) := do
  let input ← inputFile tree input
  let program ← loadProgram tree input
  let script := Script.generate width program.statements
  let report := Script.validate script
  if strict && !report.isValid then .error (.badStructure input report)
  else .ok (script, report)

/-- The file of a script whose structure is right. -/
def checkedIn (input : Path) (tree : FileTree) : Except Failure Path := do
  let input ← inputFile tree input
  let text ← scriptText tree input
  if (Script.validate text).isValid then .ok input
  else .error (.badStructure input (Script.validate text))

/-- Composing a script only reads the tree, and cleaning the program does not change the
script. -/
theorem reads_compose (o : Options) (input : Path) :
    Reads (compose o input) (scriptIn o.indent o.strict input) := by
  have hclean : ∀ program : Program,
      Script.generate o.indent (if o.clean then program.removeDisabled else program).statements =
        Script.generate o.indent program.statements := by
    intro program
    split
    · exact Script.generate_congr (members_removeDisabled · program) o.indent
    · rfl
  simp only [compose, hclean]
  refine .announce <| .look (inputFile · input) fun p => .look (loadProgram · p) fun program => ?_
  split
  · exact .announce <| .announce <| .announce <| .guard <| .pure _
  · exact .announce <| .announce <| .guard <| .pure _

/-- Checking a script only reads the tree. -/
theorem reads_examine (input : Path) : Reads (examine input) (checkedIn input) := by
  simp only [examine]
  refine .announce <| .look (inputFile · input) fun p => .look (scriptText · p) fun text =>
    .announce ?_
  split
  · exact .pure p
  · exact .throw _

/-! ## endings -/

/-- What is left behind when a script has been delivered. -/
def delivery (scratch : Scratch) (output : Option String) (script : String)
    (report : Script.Report) (tree : FileTree) : Ending :=
  let notices := report.findings.map .finding
  match output with
  | none => ⟨none, tree, script, notices⟩
  | some output =>
      match exportWith scratch ⟨output⟩ script tree with
      | .ok p tree => ⟨none, tree, "", notices ++ [.written p script.utf8ByteSize]⟩
      | .error f tree => ⟨some f, tree, "", notices⟩

/-- Writing prints nothing; it gives notice of the path and the size. -/
theorem ending_write (target : Path) (script : String) (t : Trace) :
    ending (write scratch target script t) =
      match exportWith scratch target script t.tree with
      | .ok p tree => ⟨none, tree, t.printed, t.notices ++ [.written p script.utf8ByteSize]⟩
      | .error f tree => ⟨some f, tree, t.printed, t.notices⟩ := by
  unfold write
  cases exportWith scratch target script t.tree <;> rfl

/-- Notices of the findings come before anything is delivered. -/
theorem ending_deliver (script : String) (report : Script.Report) (steps : List Step) :
    ending (deliver scratch o script report ⟨tree, "", steps, []⟩) =
      delivery scratch o.output script report tree := by
  rw [deliver, bind_apply, forM_note]
  unfold delivery
  cases o.output with
  | none => exact congrArg (Ending.mk none tree · _) String.empty_append
  | some output =>
      dsimp only
      rw [bind_apply, announce_apply]
      dsimp only
      rw [ending_write, List.nil_append]

/-- A run that generates a script. -/
theorem ending_generate (scratch : Scratch) (o : Options) (input : Path) (tree : FileTree) :
    ending (generate scratch o input (.start tree)) =
      match scriptIn o.indent o.strict input tree with
      | .ok (script, report) => delivery scratch o.output script report tree
      | .error f => .ofFailure tree f := by
  obtain ⟨steps, hrun⟩ := reads_compose o input (.start tree)
  rw [generate, bind_apply, hrun, Trace.start]
  cases scriptIn o.indent o.strict input tree with
  | error f => rfl
  | ok a => exact ending_deliver a.1 a.2 steps

/-- A run that checks a script. -/
theorem ending_check (input : Path) (tree : FileTree) :
    ending (check input (.start tree)) =
      match checkedIn input tree with
      | .ok p => ⟨none, tree, "", [.valid p]⟩
      | .error f => .ofFailure tree f := by
  obtain ⟨steps, hrun⟩ := reads_examine input (.start tree)
  rw [check, bind_apply, hrun, Trace.start]
  cases checkedIn input tree <;> rfl

/-- What the options ask for decides how a run ends. -/
theorem ending_runOn (scratch : Scratch) (tree : FileTree) (o : Options) :
    ending (runOn scratch tree o) =
      if o.listFunctions then ⟨none, tree, listing Catalog.builtin o.search, []⟩
      else match o.input with
        | none => .ofFailure tree .noInput
        | some input =>
            if o.check then
              if o.output.isSome then .ofFailure tree .outputWithCheck
              else match checkedIn ⟨input⟩ tree with
                | .ok p => ⟨none, tree, "", [.valid p]⟩
                | .error f => .ofFailure tree f
            else match scriptIn o.indent o.strict ⟨input⟩ tree with
              | .ok (script, report) => delivery scratch o.output script report tree
              | .error f => .ofFailure tree f := by
  rw [runOn, run]
  split
  · exact congrArg (Ending.mk none tree · _) String.empty_append
  · cases o.input with
    | none => rfl
    | some input =>
        dsimp only
        split
        · split
          · rfl
          · exact ending_check ⟨input⟩ tree
        · exact ending_generate scratch o ⟨input⟩ tree

/-! ## generating and checking -/

/-- The options with which a script is generated. -/
def Options.generating (o : Options) (input : String) (output : Option String)
    (strict clean : Bool) : Options :=
  { o with listFunctions := false, check := false, input := some input, output, strict, clean }

/-- The options with which a script is checked. -/
def Options.checking (o : Options) (input : String) : Options :=
  { o with listFunctions := false, check := true, input := some input, output := none }

/-- A run that generates: cleaning and the options that are switched off take no part. -/
theorem ending_generating (scratch : Scratch) (tree : FileTree) (o : Options) (input : String)
    (out : Option String) (strict clean : Bool) :
    ending (runOn scratch tree (o.generating input out strict clean)) =
      match scriptIn o.indent strict ⟨input⟩ tree with
      | .ok (script, report) => delivery scratch out script report tree
      | .error f => .ofFailure tree f := by
  rw [ending_runOn]
  simp only [Options.generating, Bool.false_eq_true, if_false]

/-- A run that checks a script. -/
theorem ending_checking (scratch : Scratch) (tree : FileTree) (o : Options) (input : String) :
    ending (runOn scratch tree (o.checking input)) =
      match checkedIn ⟨input⟩ tree with
      | .ok p => ⟨none, tree, "", [.valid p]⟩
      | .error f => .ofFailure tree f := by
  rw [ending_runOn]
  simp only [Options.checking, Bool.false_eq_true, if_false, if_true, Option.isSome_none]

/-! ## what can be read -/

/-- The input is a file that is there, under its absolute path. -/
theorem inputFile_eq_ok {q : Path} :
    inputFile tree input = .ok q ↔
      ∃ l bytes, tree.locate input = .ok l ∧ tree.at? l = some (.file bytes) ∧
        q = FileTree.pathOf l := by
  rw [inputFile]
  cases tree.locate input with
  | error e => simp
  | ok l =>
      cases hl : tree.at? l with
      | none => simp [hl]
      | some e =>
          cases e with
          | directory => simp [hl]
          | file bytes => simp [hl, eq_comm]

/-- The input has the same text under its absolute path, if that is not too long. -/
theorem readText_inputFile (htree : tree.IsProper) {q : Path} (h : inputFile tree input = .ok q)
    {text : String} :
    tree.readText q = .ok text ↔
      q.text.utf8ByteSize ≤ FileTree.pathLimit ∧ tree.readText input = .ok text := by
  obtain ⟨l, bytes, hlocate, hfile, rfl⟩ := inputFile_eq_ok.1 h
  exact FileTree.readText_pathOf htree hlocate (Option.isSome_of_eq_some hfile)

/-- A program is loaded from a text that the format reads. -/
theorem loadProgram_eq_ok {p : Path} {program : Program} :
    loadProgram tree p = .ok program ↔
      ∃ source statements, tree.readText p = .ok source ∧
        scriptFormat.ofText source = .ok statements ∧ program = .ofStatements statements := by
  rw [loadProgram]
  cases tree.readText p with
  | error e => simp
  | ok source =>
      cases h : scriptFormat.ofText source with
      | error e => simp [h]
      | ok statements => simp [h, eq_comm]

/-- A text compiles if the format reads it, to the script of what was read. -/
theorem compile_eq_ok {source script : String} {width : Nat} :
    compile source width = .ok script ↔
      ∃ statements, scriptFormat.ofText source = .ok statements ∧
        script = Script.generate width statements := by
  rw [compile]
  cases scriptFormat.ofText source <;> simp [Functor.map, Except.map, eq_comm]

/-- A script is had from a file if its text compiles, and if the structure of the script is
right or need not be. -/
theorem scriptIn_eq_ok {width : Nat} {strict : Bool} {script : String} {report : Script.Report} :
    scriptIn width strict input tree = .ok (script, report) ↔
      ∃ q source, inputFile tree input = .ok q ∧ tree.readText q = .ok source ∧
        compile source width = .ok script ∧ report = Script.validate script ∧
        (strict → (Script.validate script).isValid) := by
  have hguard : ∀ (q : Path) (made : String),
      (if strict && !(Script.validate made).isValid then
          (.error (.badStructure q (Script.validate made)) : Except Failure _)
        else .ok (made, Script.validate made)) = .ok (script, report) ↔
      script = made ∧ report = Script.validate script ∧
        (strict → (Script.validate script).isValid) := by
    intro q made
    split
    · next hrefused =>
        obtain ⟨hstrict, hinvalid⟩ : strict ∧ (Script.validate made).isValid = false := by
          simpa using hrefused
        simp only [reduceCtorEq, false_iff]
        rintro ⟨rfl, -, hvalid⟩
        simp [hvalid hstrict] at hinvalid
    · next hpassed =>
        have hvalid : strict → (Script.validate made).isValid := by
          simpa using hpassed
        simp only [Except.ok.injEq, Prod.mk.injEq]
        constructor
        · rintro ⟨rfl, rfl⟩
          exact ⟨rfl, rfl, hvalid⟩
        · rintro ⟨rfl, rfl, -⟩
          exact ⟨rfl, rfl⟩
  simp only [scriptIn, bind_eq_ok, hguard, loadProgram_eq_ok, compile_eq_ok]
  constructor
  · rintro ⟨q, hinput, _, ⟨source, statements, hsource, hread, rfl⟩, hscript, hreport, hvalid⟩
    exact ⟨q, source, hinput, hsource, ⟨statements, hread, hscript⟩, hreport, hvalid⟩
  · rintro ⟨q, source, hinput, hsource, ⟨statements, hread, hscript⟩, hreport, hvalid⟩
    exact ⟨q, hinput, _, ⟨source, statements, hsource, hread, rfl⟩, hscript, hreport, hvalid⟩

/-- A file is right if it can be read and the report on its text is valid. -/
theorem checkedIn_eq_ok {p : Path} :
    checkedIn input tree = .ok p ↔ inputFile tree input = .ok p ∧
      ∃ text, tree.readText p = .ok text ∧ (Script.validate text).isValid := by
  have htext : ∀ (q : Path) (text : String),
      scriptText tree q = .ok text ↔ tree.readText q = .ok text := by
    intro q text
    rw [scriptText]
    cases tree.readText q <;> simp [Except.mapError]
  have hguard : ∀ (q : Path) (text : String),
      (if (Script.validate text).isValid then (.ok q : Except Failure Path)
        else .error (.badStructure q (Script.validate text))) = .ok p ↔
      q = p ∧ (Script.validate text).isValid := by
    intro q text
    split <;> simp [*]
  simp only [checkedIn, bind_eq_ok, htext, hguard]
  constructor
  · rintro ⟨q, hinput, text, hread, rfl, hvalid⟩
    exact ⟨hinput, text, hread, hvalid⟩
  · rintro ⟨hinput, text, hread, hvalid⟩
    exact ⟨p, hinput, text, hread, rfl, hvalid⟩

end ScriptComposer.CommandLine
