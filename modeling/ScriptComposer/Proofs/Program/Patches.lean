import ScriptComposer.Proofs.Program.Moves
import ScriptComposer.Proofs.Statement.Patching

/-!
# ScriptComposer.Proofs.Program.Patches

Patches of a program's statements, and the other edits around them.

An update patches the first statement with an id and leaves everything else where it is.
It does not change the ids, so the edits that look for ids find what they found before.  If
the ids are distinct, an update can be said without a place: whatever has the id is patched.
That is how it is compared with moves and removals, which do change places.

* `statements_update` — with distinct ids, an update patches by the id alone;
* `update_comm`, `update_reorder_comm`, `update_remove_comm` — edits that do not get in the
  way of an update;
* `updates_compose` — all of it.
-/

namespace ScriptComposer

theorem map_moveItem {α β : Type} (f : α → β) (source target : Nat) (l : List α) :
    (moveItem source target l).map f = moveItem source target (l.map f) := by
  unfold moveItem
  rw [List.getElem?_map]
  cases l[source]? with
  | none => rfl
  | some x => simp only [Option.map_some, List.map_insertIdx, List.eraseIdx_map]

attribute [ext] Program

namespace Program

variable {p : Program} {id other : StatementId} {patch : Patch}

/-! ## what an update changes -/

/-- Without a statement of the id nothing is updated. -/
theorem update_of_none (h : p.position? id = none) : p.update id patch = (p, false) := by
  rw [update, h]

/-- An update patches one place. -/
theorem update_of_some {i : Nat} (h : p.position? id = some i) :
    p.update id patch = (p.withStatements (p.statements.modify i patch.apply), true) := by
  rw [update, h]

theorem ids_update (p : Program) (id : StatementId) (patch : Patch) :
    (p.update id patch).1.ids = p.ids := by
  cases h : p.position? id with
  | none => rw [update_of_none h]
  | some i =>
      rw [update_of_some h]
      exact ids_modify p.statements i patch

theorem size_update (p : Program) (id : StatementId) (patch : Patch) :
    (p.update id patch).1.size = p.size := by
  simpa [ids, size] using congrArg List.length (ids_update p id patch)

/-- Ids are found where they were. -/
theorem position?_update (p : Program) (id other : StatementId) (patch : Patch) :
    (p.update id patch).1.position? other = p.position? other := by
  rw [position?_eq_findIdx?_ids, ids_update, ← position?_eq_findIdx?_ids]

theorem nextNumber_update (p : Program) (id : StatementId) (patch : Patch) :
    (p.update id patch).1.nextNumber = p.nextNumber := by
  unfold update
  split <;> rfl

/-- An update counts if there is a statement of the id, even if the patch changes nothing. -/
theorem version_update (p : Program) (id : StatementId) (patch : Patch) :
    (p.update id patch).1.version = p.version + if id ∈ p.ids then 1 else 0 := by
  cases h : p.position? id with
  | none =>
      rw [update_of_none h, if_neg (position?_eq_none_iff.1 h)]
      rfl
  | some i =>
      rw [update_of_some h, if_pos (mem_ids_of_position? h)]
      rfl

/-- One place is patched: the first with the id. -/
theorem getElem?_update (p : Program) (id : StatementId) (patch : Patch) (j : Nat) :
    (p.update id patch).1.statements[j]? =
      p.statements[j]?.map fun s => if p.position? id = some j then patch.apply s else s := by
  cases h : p.position? id with
  | none => simp [update_of_none h]
  | some i =>
      rw [update_of_some h]
      refine (List.getElem?_modify _ _ _ _).trans ?_
      simp

/-- A statement that is found by an id has it. -/
theorem id_of_position? {j : Nat} {s : Statement} (h : p.position? id = some j)
    (hs : p.statements[j]? = some s) : s.id = id := by
  obtain ⟨hj, rfl⟩ := List.getElem?_eq_some_iff.1 hs
  simpa using (List.findIdx?_eq_some_iff_getElem.1 h).2.1

/-- With distinct ids a statement is found by its own id only. -/
theorem position?_eq_some_iff (h : p.ids.Nodup) {j : Nat} {s : Statement}
    (hs : p.statements[j]? = some s) : p.position? id = some j ↔ s.id = id := by
  refine ⟨fun hid => id_of_position? hid hs, ?_⟩
  rintro rfl
  obtain ⟨hj, rfl⟩ := List.getElem?_eq_some_iff.1 hs
  exact position?_getElem h hj

/-- With distinct ids, whatever has the id is patched. -/
theorem statements_update (h : p.ids.Nodup) (id : StatementId) (patch : Patch) :
    (p.update id patch).1.statements =
      p.statements.map fun s => if s.id = id then patch.apply s else s := by
  refine List.ext_getElem? fun j => ?_
  rw [getElem?_update, List.getElem?_map]
  refine Option.map_congr fun s hs => ?_
  simp only [position?_eq_some_iff h hs]

/-! ## updates in a row -/

/-- Two updates of one statement are one. -/
theorem update_update (p : Program) (id : StatementId) (first second : Patch) :
    ((p.update id first).1.update id second).1.statements =
      (p.update id (first.merge second)).1.statements := by
  cases h : p.position? id with
  | none => rw [update_of_none h, update_of_none h, update_of_none h]
  | some i =>
      have hfound : (p.update id first).1.position? id = some i := by rw [position?_update, h]
      rw [update_of_some hfound, update_of_some h, update_of_some h]
      refine (List.modify_modify_eq _ _ _ _).trans ?_
      exact congrArg (p.statements.modify i) (funext fun s => (first.apply_merge second s).symm)

/-- A patch that is applied again changes nothing more. -/
theorem update_update_self (p : Program) (id : StatementId) (patch : Patch) :
    ((p.update id patch).1.update id patch).1.statements = (p.update id patch).1.statements := by
  have hmerge : (patch.merge patch).apply = patch.apply :=
    funext fun s => (patch.apply_merge patch s).trans (patch.apply_apply s)
  rw [update_update]
  simp only [update, hmerge]

/-- Updates of different statements can change places. -/
theorem update_comm (h : id ≠ other) (first second : Patch) :
    ((p.update id first).1.update other second).1 =
      ((p.update other second).1.update id first).1 := by
  refine Program.ext ?_ ?_ ?_
  · refine List.ext_getElem? fun j => ?_
    simp only [getElem?_update, position?_update, Option.map_map]
    refine Option.map_congr fun s hs => ?_
    by_cases hid : p.position? id = some j
    · have hother : p.position? other ≠ some j := fun hother =>
        h ((id_of_position? hid hs).symm.trans (id_of_position? hother hs))
      simp [hother]
    · simp [hid]
  · simp only [version_update, ids_update]
    omega
  · simp only [nextNumber_update]

/-! ## updates and other edits -/

theorem nextNumber_reorder (p : Program) (source target : Nat) :
    (p.reorder source target).1.nextNumber = p.nextNumber := by
  unfold reorder
  split
  · split <;> rfl
  · rfl

/-- A reorder counts if it moves something. -/
theorem version_reorder (p : Program) (source target : Nat) :
    (p.reorder source target).1.version =
      p.version + if source < p.size ∧ target < p.size ∧ source ≠ target then 1 else 0 := by
  by_cases hplaces : source < p.size ∧ target < p.size
  · by_cases hsame : source = target
    · simp [reorder, hplaces, hsame]
    · simp [reorder, hplaces, hsame, withStatements]
  · rw [reorder, if_neg hplaces, if_neg fun h => hplaces ⟨h.1, h.2.1⟩]
    rfl

theorem ids_perm_reorder (p : Program) (source target : Nat) :
    (p.reorder source target).1.ids.Perm p.ids := by
  by_cases hplaces : source < p.size ∧ target < p.size
  · exact ids_reorder_perm hplaces.1 hplaces.2
  · rw [reorder, if_neg hplaces]

/-- A statement is patched wherever it has been moved to. -/
theorem update_reorder_comm (h : p.ids.Nodup) (id : StatementId) (patch : Patch)
    (source target : Nat) :
    ((p.update id patch).1.reorder source target).1 =
      ((p.reorder source target).1.update id patch).1 := by
  have hperm := ids_perm_reorder p source target
  refine Program.ext ?_ ?_ ?_
  · rw [statements_update (hperm.nodup_iff.2 h)]
    by_cases hplaces : source < p.size ∧ target < p.size
    · have hupdated : source < (p.update id patch).1.size ∧
          target < (p.update id patch).1.size := by rwa [size_update]
      rw [statements_reorder hupdated.1 hupdated.2, statements_reorder hplaces.1 hplaces.2,
        statements_update h, map_moveItem]
    · rw [reorder, size_update, if_neg hplaces, reorder, if_neg hplaces, statements_update h]
  · simp only [version_update, version_reorder, size_update, hperm.mem_iff]
    omega
  · simp only [nextNumber_update, nextNumber_reorder]

theorem remove_of_none (h : p.position? id = none) : p.remove id = (p, none) := by
  rw [remove, h]

theorem remove_of_some {i : Nat} (h : p.position? id = some i) :
    p.remove id = (p.withStatements (p.statements.eraseIdx i), p.statements[i]?) := by
  rw [remove, h]

theorem ids_withStatements_eraseIdx (p : Program) (k : Nat) :
    (p.withStatements (p.statements.eraseIdx k)).ids = p.ids.eraseIdx k :=
  (List.eraseIdx_map _ _ _).symm

/-- Only an id that is found at a place goes with the place. -/
theorem mem_eraseIdx_ids_iff {k : Nat} (hk : p.position? other = some k) (h : id ≠ other) :
    id ∈ p.ids.eraseIdx k ↔ id ∈ p.ids := by
  refine ⟨List.mem_of_mem_eraseIdx, fun hid => ?_⟩
  obtain ⟨i, hi, rfl⟩ := List.getElem_of_mem hid
  refine List.mem_eraseIdx_iff_getElem.2 ⟨i, hi, ?_, rfl⟩
  rintro rfl
  rw [position?_eq_findIdx?_ids] at hk
  obtain ⟨_, hother, -⟩ := List.findIdx?_eq_some_iff_getElem.1 hk
  exact h (of_decide_eq_true hother)

/-- Another statement can be removed before or after a patch, and is the same. -/
theorem update_remove_comm (h : p.ids.Nodup) (hne : id ≠ other) (patch : Patch) :
    ((p.update id patch).1.remove other).1 = ((p.remove other).1.update id patch).1 ∧
      ((p.update id patch).1.remove other).2 = (p.remove other).2 := by
  cases hk : p.position? other with
  | none =>
      have hmissing : (p.update id patch).1.position? other = none := by
        rw [position?_update, hk]
      rw [remove_of_none hmissing, remove_of_none hk]
      exact ⟨rfl, rfl⟩
  | some k =>
      have hfound : (p.update id patch).1.position? other = some k := by rw [position?_update, hk]
      have hids := p.ids_withStatements_eraseIdx k
      have hnodup : (p.withStatements (p.statements.eraseIdx k)).ids.Nodup := by
        rw [hids]
        exact h.sublist (List.eraseIdx_sublist _ _)
      rw [remove_of_some hfound, remove_of_some hk]
      refine ⟨Program.ext ?_ ?_ ?_, ?_⟩
      · rw [statements_update hnodup, statements_update h]
        exact List.eraseIdx_map _ _ _
      · rw [version_update, hids]
        simp only [withStatements, version_update, mem_eraseIdx_ids_iff hk hne]
        omega
      · rw [nextNumber_update]
        exact p.nextNumber_update id patch
      · have hplace : ∀ s, p.statements[k]? = some s → p.position? id ≠ some k := fun s hs hid =>
          hne ((id_of_position? hid hs).symm.trans (id_of_position? hk hs))
        rw [getElem?_update]
        exact (Option.map_congr fun s hs => if_neg (hplace s hs)).trans Option.map_id'

/-- For every program, whatever its ids:

* an update and another one of the same statement are one update with the merged patch, and
  an update that is made again changes nothing more;
* an update finds a statement if there is one with the id; it changes the first of them and
  no other one, and of that neither the id nor the kind, and of a call only the values of its
  arguments; a declaration is not switched into the main loop;

and if the ids are distinct, an update can be made before or after

* an update of another statement,
* a move of statements,
* the removal of another statement, which takes out the same statement. -/
theorem updates_compose (p : Program) :
    ((∀ id first second, ((p.update id first).1.update id second).1.statements =
        (p.update id (first.merge second)).1.statements) ∧
      ∀ id patch, ((p.update id patch).1.update id patch).1.statements =
        (p.update id patch).1.statements) ∧
    (∀ id patch,
      ((p.update id patch).2 = true ↔ id ∈ p.ids) ∧
      (p.update id patch).1.size = p.size ∧
      ∀ j s, p.statements[j]? = some s → ∃ s', (p.update id patch).1.statements[j]? = some s' ∧
        s' = (if p.position? id = some j then patch.apply s else s) ∧
        s'.id = s.id ∧ s.body.Alike s'.body ∧
        (s.isDeclaration = true →
          s'.inMainLoop = false ∧ (s'.wantsLoop = true → s.wantsLoop = true))) ∧
    (p.ids.Nodup →
      (∀ id other first second, id ≠ other →
        ((p.update id first).1.update other second).1 =
          ((p.update other second).1.update id first).1) ∧
      (∀ id patch source target,
        ((p.update id patch).1.reorder source target).1 =
          ((p.reorder source target).1.update id patch).1) ∧
      ∀ id other patch, id ≠ other →
        ((p.update id patch).1.remove other).1 = ((p.remove other).1.update id patch).1 ∧
          ((p.update id patch).1.remove other).2 = (p.remove other).2) := by
  refine ⟨⟨p.update_update, p.update_update_self⟩, fun id patch => ⟨?_, p.size_update id patch,
    fun j s hs => ?_⟩, fun h => ⟨fun _ _ first second hne => update_comm hne first second,
    update_reorder_comm h, fun _ _ patch hne => update_remove_comm h hne patch⟩⟩
  · cases hid : p.position? id with
    | none => simp [update_of_none hid, position?_eq_none_iff.1 hid]
    | some i => simp [update_of_some hid, mem_ids_of_position? hid]
  · have hj := p.getElem?_update id patch j
    rw [hs, Option.map_some] at hj
    refine ⟨_, hj, rfl, ?_⟩
    split
    · have hdeclared := patch.isDeclaration_apply s
      exact ⟨rfl, patch.alike_applyToBody s.body, fun hd =>
        ⟨by simp [Statement.inMainLoop, hdeclared, hd], Patch.wantsLoop_of_apply hd⟩⟩
    · exact ⟨rfl, .refl _, fun hd => ⟨by simp [Statement.inMainLoop, hd], fun hl => hl⟩⟩

/-- A call with two parameters of one name, a declaration, and a counting loop. -/
def assembled : Program := .ofStatements
  [.ofBody ⟨"statement-0"⟩ (.call ⟨⟨"Walk", "", none⟩,
      [⟨"x", ⟨"number"⟩, "", "1"⟩, ⟨"x", ⟨"number"⟩, "", "2"⟩]⟩) true,
    .ofBody ⟨"statement-1"⟩ (.control (.declaration ⟨"rest", "", none⟩)) false,
    .ofBody ⟨"statement-2"⟩ (.control (.forDo "i" "1" "10" "1")) true]

/-- A patch that could be meant for any of the three. -/
def broadPatch : Patch :=
  { inside := some true, arguments := [("x", "3"), ("x", "4")], stop := some "5",
    body := some " " }

/-- The patch sets the first `x` to the later value and leaves the declaration outside of the
loop; it can be made before or after the declaration is moved to the front or removed. -/
theorem updates_compose_assembled :
    (assembled.ids.Nodup ∧ (⟨"statement-0"⟩ : StatementId) ≠ ⟨"statement-1"⟩) ∧
    ((assembled.update ⟨"statement-0"⟩ broadPatch).1.update ⟨"statement-0"⟩
        { arguments := [("y", "6")] }).1.statements.map (·.label) =
      ["Walk(4, 2)", "function rest()", "for i = 1, 10 do"] ∧
    ((assembled.update ⟨"statement-0"⟩ broadPatch).1.update ⟨"statement-1"⟩ broadPatch).1 =
      ((assembled.update ⟨"statement-1"⟩ broadPatch).1.update ⟨"statement-0"⟩ broadPatch).1 ∧
    ((assembled.update ⟨"statement-0"⟩ broadPatch).1.reorder 1 0).1 =
      ((assembled.reorder 1 0).1.update ⟨"statement-0"⟩ broadPatch).1 ∧
    ((assembled.update ⟨"statement-0"⟩ broadPatch).1.remove ⟨"statement-1"⟩).1 =
      ((assembled.remove ⟨"statement-1"⟩).1.update ⟨"statement-0"⟩ broadPatch).1 ∧
    ∃ s, assembled.statements[1]? = some s ∧ s.isDeclaration = true ∧
      ∃ s', (assembled.update ⟨"statement-1"⟩ broadPatch).1.statements[1]? = some s' ∧
        s'.inMainLoop = false := by
  obtain ⟨⟨hmerge, -⟩, hone, hdistinct⟩ := updates_compose assembled
  obtain ⟨hupdates, hreorder, hremove⟩ := hdistinct (by decide)
  obtain ⟨-, -, hplaces⟩ := hone ⟨"statement-1"⟩ broadPatch
  obtain ⟨s', hs', -, -, -, hdeclared⟩ := hplaces 1 _ rfl
  exact ⟨⟨by decide, by decide⟩, by rw [hmerge]; decide,
    hupdates _ _ _ _ (by decide), hreorder _ _ _ _, (hremove _ _ _ (by decide)).1,
    _, rfl, rfl, s', hs', (hdeclared rfl).1⟩

end Program

end ScriptComposer
