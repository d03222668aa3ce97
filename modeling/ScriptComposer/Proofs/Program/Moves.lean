import ScriptComposer.Proofs.Program.Version

/-!
# ScriptComposer.Proofs.Program.Moves

Moving statements one at a time.

Two things say what a move does: where the moved element is afterwards, and that the others
are in the order they had.  A move is undone by the one in the opposite direction, and moves
reach every order of a list, its places being filled from the first to the last.

* `moveItem_moveItem` — a move there and back changes nothing;
* `exists_reorders` — places are filled one after the other, each by one move;
* `exists_moves` — in a program with distinct ids the moves can be asked for by ids;
* `moves_reach_every_order` — all of it, for programs.
-/

namespace ScriptComposer

/-! ## moving in a list -/

section Items

variable {α : Type} {l : List α} {source target : Nat}

/-- A moved element is taken out, and put in at its target. -/
theorem moveItem_eq_insertIdx (hs : source < l.length) :
    moveItem source target l = (l.eraseIdx source).insertIdx target l[source] := by
  rw [moveItem, List.getElem?_eq_getElem hs]

theorem length_moveItem (ht : target < l.length) : (moveItem source target l).length = l.length :=
  (moveItem_perm ht).length_eq

/-- The element that is moved arrives at the target. -/
theorem getElem?_moveItem (hs : source < l.length) (ht : target < l.length) :
    (moveItem source target l)[target]? = l[source]? := by
  have hroom : target ≤ (l.eraseIdx source).length := by
    rw [List.length_eraseIdx_of_lt hs]
    omega
  rw [moveItem_eq_insertIdx hs, List.getElem?_insertIdx_self, if_pos hroom,
    List.getElem?_eq_getElem hs]

/-- The others are in the order they had. -/
theorem eraseIdx_moveItem (hs : source < l.length) :
    (moveItem source target l).eraseIdx target = l.eraseIdx source := by
  rw [moveItem_eq_insertIdx hs, List.eraseIdx_insertIdx_self]

/-- A move there and back changes nothing. -/
theorem moveItem_moveItem (hs : source < l.length) (ht : target < l.length) :
    moveItem target source (moveItem source target l) = l := by
  rw [moveItem, getElem?_moveItem hs ht, eraseIdx_moveItem hs, List.getElem?_eq_getElem hs]
  exact List.insertIdx_eraseIdx_getElem hs

end Items

namespace Program

/-! ## moving statements -/

section Reorder

variable {p : Program} {source target : Nat}

/-- To a place of its own a statement need not be moved. -/
theorem statements_reorder (hs : source < p.size) (ht : target < p.size) :
    (p.reorder source target).1.statements = moveItem source target p.statements := by
  rw [reorder, if_pos ⟨hs, ht⟩]
  by_cases hsame : source = target
  · rw [if_pos hsame, hsame, moveItem_self]
  · rw [if_neg hsame]
    rfl

theorem reorder_snd (hs : source < p.size) (ht : target < p.size) :
    (p.reorder source target).2 = true := by
  rw [reorder, if_pos ⟨hs, ht⟩]
  split <;> rfl

/-- Out of range nothing is moved. -/
theorem reorder_eq_self (h : p.size ≤ source ∨ p.size ≤ target) :
    p.reorder source target = (p, false) := by
  rw [reorder, if_neg (by omega)]

theorem size_reorder (hs : source < p.size) (ht : target < p.size) :
    (p.reorder source target).1.size = p.size := by
  rw [size, statements_reorder hs ht, length_moveItem ht]
  rfl

/-- Moving back undoes a move. -/
theorem reorder_reorder (hs : source < p.size) (ht : target < p.size) :
    ((p.reorder source target).1.reorder target source).1.statements = p.statements := by
  have hsize := size_reorder hs ht
  rw [statements_reorder (by omega) (by omega), statements_reorder hs ht, moveItem_moveItem hs ht]

theorem ids_reorder_perm (hs : source < p.size) (ht : target < p.size) :
    (p.reorder source target).1.ids.Perm p.ids := by
  rw [ids, statements_reorder hs ht]
  exact (moveItem_perm ht).map _

end Reorder

theorem exists_position?_eq_some {p : Program} {id : StatementId} (h : id ∈ p.ids) :
    ∃ i, p.position? id = some i :=
  Option.ne_none_iff_exists'.1 fun hnone => position?_eq_none_iff.1 hnone h

/-- Moving by ids is moving by their places. -/
theorem move_eq_reorder {p : Program} {active onto : StatementId} {source target : Nat}
    (hs : p.position? active = some source) (ht : p.position? onto = some target) :
    p.move active onto = p.reorder source target := by
  rw [move, hs, ht]

/-- If the ids are distinct, a statement is found by its own. -/
theorem position?_getElem {p : Program} (h : p.ids.Nodup) {i : Nat} (hi : i < p.statements.length) :
    p.position? p.statements[i].id = some i := by
  refine List.findIdx?_eq_some_iff_getElem.2 ⟨hi, by simp, fun j hj => ?_⟩
  have hdistinct : p.statements.Pairwise (·.id ≠ ·.id) := List.pairwise_map.1 h
  simpa using List.pairwise_iff_getElem.1 hdistinct j i (by omega) hi hj

/-! ## reaching an order -/

/-- Behind what is settled, places are filled one after the other: the statement that is
wanted next is moved past those that are not settled yet. -/
theorem exists_reorders {p : Program} {settled waiting wanted : List Statement}
    (hp : p.statements = settled ++ waiting) (h : wanted.Perm waiting) :
    ∃ places : List (Nat × Nat), (∀ m ∈ places, m.1 < p.size ∧ m.2 < p.size) ∧
      (p.after (places.map fun m => .reorder m.1 m.2)).statements = settled ++ wanted := by
  induction wanted generalizing p settled waiting with
  | nil =>
      obtain rfl : waiting = [] := h.nil_eq.symm
      exact ⟨[], by simp, hp⟩
  | cons s wanted ih =>
      obtain ⟨before, behind, rfl⟩ := List.append_of_mem (h.subset List.mem_cons_self)
      have hrest : wanted.Perm (before ++ behind) :=
        (h.trans List.perm_middle).cons_inv
      have hsize : p.size = settled.length + (before.length + (behind.length + 1)) := by
        simp [size, hp]
      have hs : settled.length + before.length < p.size := by omega
      have ht : settled.length < p.size := by omega
      have hnext : (p.reorder (settled.length + before.length) settled.length).1.statements =
          (settled ++ [s]) ++ (before ++ behind) := by
        rw [statements_reorder hs ht, hp, moveItem_append_down]
        simp
      obtain ⟨places, hplaces, hreached⟩ := ih hnext hrest
      rw [size_reorder hs ht] at hplaces
      refine ⟨(settled.length + before.length, settled.length) :: places,
        List.forall_mem_cons.2 ⟨⟨hs, ht⟩, hplaces⟩, ?_⟩
      exact hreached.trans (List.append_assoc settled [s] wanted)

/-- In a program with distinct ids every move between places can be asked for by ids. -/
theorem exists_moves {p : Program} (h : p.ids.Nodup) {places : List (Nat × Nat)}
    (hplaces : ∀ m ∈ places, m.1 < p.size ∧ m.2 < p.size) :
    ∃ pairs : List (StatementId × StatementId), (∀ m ∈ pairs, m.1 ∈ p.ids ∧ m.2 ∈ p.ids) ∧
      p.after (pairs.map fun m => .move m.1 m.2) =
        p.after (places.map fun m => .reorder m.1 m.2) := by
  induction places generalizing p with
  | nil => exact ⟨[], by simp, rfl⟩
  | cons m places ih =>
      obtain ⟨⟨hs, ht⟩, hplaces⟩ := List.forall_mem_cons.1 hplaces
      have hperm := ids_reorder_perm hs ht
      obtain ⟨pairs, hpairs, hafter⟩ := ih (hperm.nodup_iff.2 h)
        (fun m' hm => by rw [size_reorder hs ht]; exact hplaces m' hm)
      have hmove := move_eq_reorder (position?_getElem h hs) (position?_getElem h ht)
      refine ⟨(p.statements[m.1].id, p.statements[m.2].id) :: pairs, ?_, ?_⟩
      · refine List.forall_mem_cons.2 ⟨⟨List.mem_map_of_mem (List.getElem_mem hs),
          List.mem_map_of_mem (List.getElem_mem ht)⟩, fun m' hm => ?_⟩
        obtain ⟨hactive, honto⟩ := hpairs m' hm
        exact ⟨hperm.subset hactive, hperm.subset honto⟩
      · calc p.after (Edit.move p.statements[m.1].id p.statements[m.2].id ::
              pairs.map fun m => .move m.1 m.2)
            = (p.move p.statements[m.1].id p.statements[m.2].id).1.after
                (pairs.map fun m => .move m.1 m.2) := rfl
          _ = (p.reorder m.1 m.2).1.after (pairs.map fun m => .move m.1 m.2) := by rw [hmove]
          _ = (p.reorder m.1 m.2).1.after (places.map fun m => .reorder m.1 m.2) := hafter

/-- For every program:

* reordering from one of its places to another one says that it was done; the statement from
  the first place is at the second one, the others are in the order they had, and reordering
  back gives the statements from before;
* reordering between any other places says that it was not done and changes nothing;
* moving a statement to another one, both by their ids, puts the first statement with the one
  id at the place that the first statement with the other one had, and reordering back gives
  the statements from before;
* every order of the statements is reached by reordering, and if the ids are distinct by
  moving. -/
theorem moves_reach_every_order (p : Program) :
    (∀ source target, source < p.size → target < p.size →
      (p.reorder source target).2 = true ∧
      (p.reorder source target).1.statements[target]? = p.statements[source]? ∧
      (p.reorder source target).1.statements.eraseIdx target = p.statements.eraseIdx source ∧
      ((p.reorder source target).1.reorder target source).1.statements = p.statements) ∧
    (∀ source target, p.size ≤ source ∨ p.size ≤ target →
      p.reorder source target = (p, false)) ∧
    (∀ active ∈ p.ids, ∀ onto ∈ p.ids, ∃ source target s,
      p.position? active = some source ∧ p.position? onto = some target ∧
      p.get? active = some s ∧
      (p.move active onto).2 = true ∧
      (p.move active onto).1.statements[target]? = some s ∧
      (p.move active onto).1.statements.eraseIdx target = p.statements.eraseIdx source ∧
      ((p.move active onto).1.reorder target source).1.statements = p.statements) ∧
    ∀ ss, ss.Perm p.statements →
      (∃ places : List (Nat × Nat), (∀ m ∈ places, m.1 < p.size ∧ m.2 < p.size) ∧
        (p.after (places.map fun m => .reorder m.1 m.2)).statements = ss) ∧
      (p.ids.Nodup → ∃ pairs : List (StatementId × StatementId),
        (∀ m ∈ pairs, m.1 ∈ p.ids ∧ m.2 ∈ p.ids) ∧
        (p.after (pairs.map fun m => .move m.1 m.2)).statements = ss) := by
  have hmoved : ∀ source target, source < p.size → target < p.size →
      (p.reorder source target).2 = true ∧
      (p.reorder source target).1.statements[target]? = p.statements[source]? ∧
      (p.reorder source target).1.statements.eraseIdx target = p.statements.eraseIdx source ∧
      ((p.reorder source target).1.reorder target source).1.statements = p.statements := by
    intro source target hs ht
    have hstatements := statements_reorder hs ht
    refine ⟨reorder_snd hs ht, ?_, ?_, reorder_reorder hs ht⟩
    · rw [hstatements, getElem?_moveItem hs ht]
    · rw [hstatements, eraseIdx_moveItem hs]
  refine ⟨hmoved, fun _ _ => reorder_eq_self, fun active hactive onto honto => ?_,
    fun ss hss => ?_⟩
  · obtain ⟨source, hsource⟩ := exists_position?_eq_some hactive
    obtain ⟨target, htarget⟩ := exists_position?_eq_some honto
    have hs : source < p.statements.length := position?_lt hsource
    have hget : p.statements[source]? = some p.statements[source] := List.getElem?_eq_getElem hs
    obtain ⟨hdone, harrived, hothers, hback⟩ := hmoved source target hs (position?_lt htarget)
    rw [move_eq_reorder hsource htarget]
    exact ⟨source, target, p.statements[source], hsource, htarget,
      (get?_eq_getElem? hsource).trans hget, hdone, harrived.trans hget, hothers, hback⟩
  · obtain ⟨places, hplaces, hreached⟩ := exists_reorders (List.nil_append p.statements).symm hss
    refine ⟨⟨places, hplaces, hreached⟩, fun hnodup => ?_⟩
    obtain ⟨pairs, hpairs, hafter⟩ := exists_moves hnodup hplaces
    exact ⟨pairs, hpairs, by rw [hafter, hreached]; rfl⟩

/-- A block around a call, from its end to its head. -/
def reversed : Program := .ofStatements
  [.ofBody ⟨"statement-2"⟩ (.control .blockEnd) true,
    .ofBody ⟨"statement-0"⟩ (.call ⟨⟨"Eat", "", none⟩, []⟩) true,
    .ofBody ⟨"statement-1"⟩ (.control (.ifThen "hungry")) true]

/-- The head is moved up and back down, nothing is moved past the end of the list, and moves
bring the block in order. -/
theorem moves_reach_every_order_reversed :
    (2 < reversed.size ∧ 0 < reversed.size ∧
      (reversed.reorder 2 0).1.statements[0]? = reversed.statements[2]? ∧
      (reversed.reorder 2 0).1.statements.eraseIdx 0 = reversed.statements.eraseIdx 2 ∧
      ((reversed.reorder 2 0).1.reorder 0 2).1.statements = reversed.statements) ∧
    (reversed.size ≤ 3 ∧ reversed.reorder 0 3 = (reversed, false)) ∧
    (⟨"statement-2"⟩ ∈ reversed.ids ∧ ⟨"statement-1"⟩ ∈ reversed.ids ∧
      (reversed.move ⟨"statement-2"⟩ ⟨"statement-1"⟩).1.statements.eraseIdx 2 =
        reversed.statements.eraseIdx 0) ∧
    reversed.ids.Nodup ∧
    ∃ pairs : List (StatementId × StatementId),
      (reversed.after (pairs.map fun m => .move m.1 m.2)).statements.map (·.label) =
        ["if hungry then", "Eat()", "end"] := by
  obtain ⟨hreorder, hrefused, hmove, hreach⟩ := moves_reach_every_order reversed
  obtain ⟨-, harrived, hothers, hback⟩ := hreorder 2 0 (by decide) (by decide)
  obtain ⟨source, target, s, hsource, htarget, -, -, -, hmoved, -⟩ :=
    hmove ⟨"statement-2"⟩ (by decide) ⟨"statement-1"⟩ (by decide)
  obtain rfl : 0 = source := Option.some.inj hsource
  obtain rfl : 2 = target := Option.some.inj htarget
  obtain ⟨pairs, -, hpairs⟩ := (hreach _ (List.reverse_perm _)).2 (by decide)
  exact ⟨⟨by decide, by decide, harrived, hothers, hback⟩,
    ⟨by decide, hrefused 0 3 (.inr (by decide))⟩, ⟨by decide, by decide, hmoved⟩, by decide,
    pairs, by rw [hpairs]; decide⟩

end Program

end ScriptComposer
