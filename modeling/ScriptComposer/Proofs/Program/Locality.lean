import ScriptComposer.Proofs.CommandLine.Ending

/-!
# ScriptComposer.Proofs.Program.Locality

An edit of a program changes its script only where it should.

Which statements there are, and where they stand among those of other sections, can be quite
different after an edit; the members of each section are what the script is made of, and they
are what the edits are compared by.

* `exists_generate_eq` — the script, divided at the line its main loop begins with;
* `edits_act_locally` — disabling, removing, cleaning, sorting and moving, seen in the script.
-/

namespace ScriptComposer

namespace Script

/-! ## around the loop's first line -/

/-- The text of a script up to and with the line that its main loop begins with. -/
def textToLoop (width : Nat) (ss : List Statement) : List Char :=
  renderRows width
    (preamble ++ declarationsSection (declarations ss) ++ outsideSection (outside ss) ++ loopHead)

/-- The text of a script from the heading of its main loop on. -/
def textFromLoop (width : Nat) (ss : List Statement) : List Char :=
  renderRows width (loopSection (inside ss))

/-- The two texts share the heading and the first line of the main loop; put together there,
they are the script. -/
theorem exists_generate_eq (width : Nat) (ss : List Statement) :
    ∃ before behind, textToLoop width ss = before ++ renderRows width loopHead ∧
      textFromLoop width ss = renderRows width loopHead ++ behind ∧
      generate width ss = String.ofList (before ++ renderRows width loopHead ++ behind) := by
  obtain ⟨rest, hrest⟩ : ∃ rest, loopSection (inside ss) = loopHead ++ rest := by
    cases inside ss with
    | nil => exact ⟨_, rfl⟩
    | cons s ss => exact ⟨_, by rw [loopSection, List.append_assoc, List.append_assoc]; simp⟩
  refine ⟨_, renderRows width rest, renderRows_append width _ _, ?_, ?_⟩
  · rw [textFromLoop, hrest, renderRows_append]
  · rw [generate, layout, hrest]
    simp only [renderRows_append, List.append_assoc]

/-- The text before the loop depends on the members of the sections before it. -/
theorem textToLoop_congr {ss ss' : List Statement}
    (h : ∀ k : Section, k.isLoop = false → members k ss = members k ss') (width : Nat) :
    textToLoop width ss = textToLoop width ss' := by
  have hdeclared := h .declarations rfl
  have houtside := h .outside rfl
  rw [members_declarations, members_declarations] at hdeclared
  rw [members_outside, members_outside] at houtside
  rw [textToLoop, textToLoop, declarations_eq, declarations_eq, hdeclared, houtside]

/-- The text of the loop depends on its members. -/
theorem textFromLoop_congr {ss ss' : List Statement}
    (h : members .loop ss = members .loop ss') (width : Nat) :
    textFromLoop width ss = textFromLoop width ss' := by
  rw [members_loop, members_loop] at h
  rw [textFromLoop, textFromLoop, h]

end Script

open Script

namespace Program

open CommandLine (Options ending runOn ending_runOn)

/-- An alphabetical sort does not care whether disabled statements are removed before it. -/
theorem members_sort_removeDisabled (k : Section) (p : Program) (scope : Scope) {o : Order}
    (ho : o ≠ .byCategory) :
    members k (p.sort scope o).statements =
      members k (p.removeDisabled.sort scope o).statements := by
  by_cases hk : k.isLoop ∈ scope.sides
  · rw [members_sort hk ho, members_sort hk ho, members_removeDisabled]
  · rw [members_sort_of_ne hk, members_sort_of_ne hk, members_removeDisabled]

/-- For every program and every width:

* switching a statement off does to the script what removing it does, and switching it on
  again gives back the script that there was if it was on;
* removing the disabled statements changes nothing in the script, and so cleaning changes
  nothing in how a run on the command line ends;
* sorting the statements inside the main loop leaves the text up to and with the loop's first
  line as it was, sorting those outside leaves the text from the loop's heading on;
* an alphabetical sort gives the same script if disabled statements are removed before it;
* a statement that is moved past disabled statements and statements of other sections only is
  where it was in the script. -/
theorem edits_act_locally (p : Program) (width : Nat) :
    ((∀ id, generate width (p.update id (.switch false)).1.statements =
        generate width (p.remove id).1.statements) ∧
      ∀ id, (∀ s, p.get? id = some s → s.enabled = true) →
        generate width ((p.update id (.switch false)).1.update id (.switch true)).1.statements =
          generate width p.statements) ∧
    (generate width p.removeDisabled.statements = generate width p.statements ∧
      ∀ scratch tree (asked : Options),
        ending (runOn scratch tree { asked with clean := true }) =
          ending (runOn scratch tree { asked with clean := false })) ∧
    ((∀ ss, ∃ before behind, textToLoop width ss = before ++ renderRows width loopHead ∧
        textFromLoop width ss = renderRows width loopHead ++ behind ∧
        generate width ss = String.ofList (before ++ renderRows width loopHead ++ behind)) ∧
      ∀ o, textToLoop width (p.sort .inside o).statements = textToLoop width p.statements ∧
        textFromLoop width (p.sort .outside o).statements = textFromLoop width p.statements) ∧
    (∀ scope o, o ≠ .byCategory →
      generate width (p.sort scope o).statements =
        generate width (p.removeDisabled.sort scope o).statements) ∧
    ∀ source target, (∀ j x y, IsPassed source target j → p.statements[source]? = some x →
        p.statements[j]? = some y → y.enabled = false ∨ sectionOf y ≠ sectionOf x) →
      generate width (p.reorder source target).1.statements = generate width p.statements := by
  refine ⟨⟨fun id => ?_, fun id hon => ?_⟩, ⟨?_, fun scratch tree asked => ?_⟩,
    ⟨exists_generate_eq width, fun o => ⟨?_, ?_⟩⟩, fun scope o ho => ?_,
    fun source target hpassed => ?_⟩
  · exact generate_congr (fun k => members_update_switch_off k p id) width
  · rw [statements_switch_off_on hon]
  · exact generate_congr (fun k => members_removeDisabled k p) width
  · rw [ending_runOn, ending_runOn]
  · exact textToLoop_congr (fun k hk => members_sort_of_ne (by simp [Scope.sides, hk]) o p) width
  · exact textFromLoop_congr
      (members_sort_of_ne (by simp [Scope.sides, Section.isLoop]) o p) width
  · exact generate_congr (fun k => members_sort_removeDisabled k p scope ho) width
  · exact generate_congr (members_reorder hpassed) width

/-- The sections mixed: a call in the loop, one outside of it, a disabled call in the loop, a
declaration, and another call in the loop. -/
def mixed : Program := .ofStatements
  [.ofBody ⟨"statement-1"⟩ (.call ⟨⟨"Walk", "", none⟩, []⟩) true,
    .ofBody ⟨"statement-2"⟩ (.call ⟨⟨"Setup", "", none⟩, []⟩) false,
    { Statement.ofBody ⟨"statement-3"⟩ (.call ⟨⟨"Attack", "", none⟩, []⟩) true with
      enabled := false },
    .ofBody ⟨"statement-4"⟩ (.control (.declaration ⟨"rest", "", none⟩)) true,
    .ofBody ⟨"statement-5"⟩ (.call ⟨⟨"Eat", "", none⟩, []⟩) true]

/-- The first call can be switched off and on, and be moved to where the disabled one is, past
the one outside the loop. -/
theorem edits_act_locally_mixed :
    ((∀ s, mixed.get? ⟨"statement-1"⟩ = some s → s.enabled = true) ∧
      generate 2 ((mixed.update ⟨"statement-1"⟩ (.switch false)).1.update ⟨"statement-1"⟩
        (.switch true)).1.statements = generate 2 mixed.statements) ∧
    (Order.descending ≠ .byCategory ∧
      generate 2 (mixed.sort .all .descending).statements =
        generate 2 (mixed.removeDisabled.sort .all .descending).statements) ∧
    (∀ j x y, IsPassed 0 2 j → mixed.statements[0]? = some x → mixed.statements[j]? = some y →
      y.enabled = false ∨ sectionOf y ≠ sectionOf x) ∧
    (mixed.reorder 0 2).1.statements ≠ mixed.statements ∧
    generate 2 (mixed.reorder 0 2).1.statements = generate 2 mixed.statements := by
  have hon : ∀ s, mixed.get? ⟨"statement-1"⟩ = some s → s.enabled = true := by
    intro s hs
    obtain rfl := Option.some.inj hs
    rfl
  have hpassed : ∀ j x y, IsPassed 0 2 j → mixed.statements[0]? = some x →
      mixed.statements[j]? = some y → y.enabled = false ∨ sectionOf y ≠ sectionOf x := by
    intro j x y hj hx hy
    have hplace : j = 1 ∨ j = 2 := by
      unfold IsPassed at hj
      omega
    obtain rfl := Option.some.inj hx
    rcases hplace with rfl | rfl
    · obtain rfl := Option.some.inj hy
      exact .inr (by decide)
    · obtain rfl := Option.some.inj hy
      exact .inl rfl
  obtain ⟨⟨-, hswitch⟩, -, -, hsort, hreorder⟩ := edits_act_locally mixed 2
  exact ⟨⟨hon, hswitch _ hon⟩, ⟨nofun, hsort .all .descending nofun⟩, hpassed, by decide,
    hreorder 0 2 hpassed⟩

end Program

end ScriptComposer
