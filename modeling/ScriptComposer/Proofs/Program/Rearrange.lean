import Mathlib.Data.List.Perm.Subperm
import ScriptComposer.Program.Sort

/-!
# ScriptComposer.Proofs.Program.Rearrange

Moving and sorting lose no statement and double none, and disturb the order of no others
than those they are about.

* `moveItem_perm` — moving an element inside a list permutes it;
* `filter_moveItem` — elements that it does not pass do not notice;
* `filter_refill_of_imp_not` — places that are not refilled do not, either;
* `sort_perm` — sorting permutes the statements, whatever the scope and the order.
-/

namespace ScriptComposer

/-! ## moving -/

/-- Moving an element loses none. -/
theorem moveItem_perm {α : Type} {source target : Nat} {l : List α} (ht : target < l.length) :
    (moveItem source target l).Perm l := by
  unfold moveItem
  cases hs : l[source]? with
  | none => exact .refl l
  | some x =>
      obtain ⟨hlt, rfl⟩ := List.getElem?_eq_some_iff.1 hs
      have hlen : target ≤ (l.eraseIdx source).length := by
        rw [List.length_eraseIdx_of_lt hlt]
        omega
      exact (List.perm_insertIdx _ _ hlen).trans (List.getElem_cons_eraseIdx_perm hlt)

theorem moveItem_cons {α : Type} (y : α) (l : List α) (source target : Nat) :
    moveItem (source + 1) (target + 1) (y :: l) = y :: moveItem source target l := by
  rw [moveItem, moveItem, List.getElem?_cons_succ]
  cases l[source]? <;> simp

/-- Moving an element up takes it past those behind it. -/
theorem moveItem_append_up {α : Type} (x : α) (before passed behind : List α) :
    moveItem before.length (before.length + passed.length) (before ++ x :: (passed ++ behind)) =
      before ++ (passed ++ x :: behind) := by
  induction before with
  | nil =>
      have hinsert : (passed ++ behind).insertIdx passed.length x = passed ++ x :: behind := by
        induction passed with
        | nil => simp
        | cons y passed ih => simpa using ih
      simpa [moveItem] using hinsert
  | cons y before ih =>
      rw [List.length_cons, Nat.succ_add, List.cons_append, moveItem_cons, ih, List.cons_append]

/-- Moving an element down takes it past those before it. -/
theorem moveItem_append_down {α : Type} (x : α) (before passed behind : List α) :
    moveItem (before.length + passed.length) before.length (before ++ (passed ++ x :: behind)) =
      before ++ x :: (passed ++ behind) := by
  induction before with
  | nil => simp [moveItem, List.eraseIdx_append_of_length_le]
  | cons y before ih =>
      rw [List.length_cons, Nat.succ_add, List.cons_append, moveItem_cons, ih, List.cons_append]

/-- The places that an element passes when it is moved, that of its arrival among them. -/
def IsPassed (source target j : Nat) : Prop :=
  source < j ∧ j ≤ target ∨ target ≤ j ∧ j < source

/-- An element that goes past others, none of which is chosen if it is itself, keeps its
place among the chosen ones. -/
theorem filter_append_skip {α : Type} {chosen : α → Bool} {x : α} {passed : List α}
    (h : ∀ y ∈ passed, chosen y = true → chosen x = false) (before behind : List α) :
    (before ++ (passed ++ x :: behind)).filter chosen =
      (before ++ x :: (passed ++ behind)).filter chosen := by
  cases hx : chosen x with
  | false => simp [hx]
  | true =>
      have hnone : passed.filter chosen = [] :=
        List.filter_eq_nil_iff.2 fun y hy hcy => by simp [h y hy hcy] at hx
      simp [hx, hnone]

/-- Moving an element past others, none of which is chosen if it is itself, leaves the
chosen ones as they are. -/
theorem filter_moveItem {α : Type} {chosen : α → Bool} {l : List α} {source target : Nat} {x : α}
    (hx : l[source]? = some x) (ht : target < l.length)
    (hpassed : ∀ j y, IsPassed source target j → l[j]? = some y → chosen y = true →
      chosen x = false) :
    (moveItem source target l).filter chosen = l.filter chosen := by
  obtain ⟨hs, hget⟩ := List.getElem?_eq_some_iff.1 hx
  rcases Nat.lt_or_ge source target with hlt | hge
  · obtain ⟨before, passed, behind, hb, hp, rfl⟩ : ∃ before passed behind,
        before.length = source ∧ source + passed.length = target ∧
          l = before ++ x :: (passed ++ behind) := by
      refine ⟨l.take source, (l.drop (source + 1)).take (target - source),
        (l.drop (source + 1)).drop (target - source), by simp; omega, by simp; omega, ?_⟩
      rw [List.take_append_drop, ← hget, List.getElem_cons_drop, List.take_append_drop]
    subst hb hp
    rw [moveItem_append_up]
    refine filter_append_skip (fun y hy => ?_) before behind
    obtain ⟨k, hk, rfl⟩ := List.getElem_of_mem hy
    refine hpassed (before.length + (k + 1)) _ (.inl ⟨by omega, by omega⟩) ?_
    rw [List.getElem?_append_right (by omega), Nat.add_sub_cancel_left, List.getElem?_cons_succ,
      List.getElem?_append_left hk, List.getElem?_eq_getElem hk]
  · obtain ⟨before, passed, behind, hb, hp, rfl⟩ : ∃ before passed behind,
        before.length = target ∧ target + passed.length = source ∧
          l = before ++ (passed ++ x :: behind) := by
      refine ⟨l.take target, (l.drop target).take (source - target), l.drop (source + 1),
        by simp; omega, by simp; omega, ?_⟩
      have hdrop : (l.drop target).drop (source - target) = x :: l.drop (source + 1) := by
        rw [List.drop_drop, Nat.add_sub_cancel' hge, ← hget, List.getElem_cons_drop]
      rw [← hdrop, List.take_append_drop, List.take_append_drop]
    subst hb hp
    rw [moveItem_append_down]
    refine (filter_append_skip (fun y hy => ?_) before behind).symm
    obtain ⟨k, hk, rfl⟩ := List.getElem_of_mem hy
    refine hpassed (before.length + k) _ (.inr ⟨by omega, by omega⟩) ?_
    rw [List.getElem?_append_right (by omega), Nat.add_sub_cancel_left,
      List.getElem?_append_left hk, List.getElem?_eq_getElem hk]

/-! ## refilling places -/

theorem refill_cons_of_not_chosen {α : Type} {chosen : α → Bool} {x : α} (hx : chosen x = false)
    (xs new : List α) : refill chosen (x :: xs) new = x :: refill chosen xs new := by
  cases new with
  | nil => cases xs <;> rfl
  | cons y ys => simp [refill, hx]

theorem refill_cons_of_chosen {α : Type} {chosen : α → Bool} {x : α} (hx : chosen x = true)
    (xs : List α) (y : α) (ys : List α) :
    refill chosen (x :: xs) (y :: ys) = y :: refill chosen xs ys := by
  simp [refill, hx]

/-- As many new elements as there are places make up a list with what was not chosen. -/
theorem refill_perm_append {α : Type} (chosen : α → Bool) {l new : List α}
    (h : new.length = (l.filter chosen).length) :
    (refill chosen l new).Perm (new ++ l.filter fun x => !chosen x) := by
  induction l generalizing new with
  | nil =>
      obtain rfl : new = [] := List.length_eq_zero_iff.1 h
      exact .refl _
  | cons x xs ih =>
      cases hx : chosen x with
      | true =>
          cases new with
          | nil => simp [hx] at h
          | cons y ys =>
              have hlen : ys.length = (xs.filter chosen).length := by simpa [hx] using h
              simpa [refill, hx] using ih hlen
      | false =>
          have hlen : new.length = (xs.filter chosen).length := by simpa [hx] using h
          rw [refill_cons_of_not_chosen hx, List.filter_cons_of_pos (by simp [hx])]
          exact ((ih hlen).cons x).trans List.perm_middle.symm

/-- Refilling places with what was chosen there loses nothing. -/
theorem refill_perm {α : Type} (chosen : α → Bool) {l new : List α}
    (h : new.Perm (l.filter chosen)) : (refill chosen l new).Perm l :=
  (refill_perm_append chosen h.length_eq).trans
    ((h.append_right _).trans (List.filter_append_perm chosen l))

/-- Among the places that are refilled the new elements stand in their order. -/
theorem filter_refill_of_imp {α : Type} {chosen wanted : α → Bool}
    (hw : ∀ x, wanted x = true → chosen x = true) {l new : List α}
    (h : new.length = (l.filter chosen).length) :
    (refill chosen l new).filter wanted = new.filter wanted := by
  induction l generalizing new with
  | nil =>
      obtain rfl : new = [] := List.length_eq_zero_iff.1 h
      rfl
  | cons x xs ih =>
      cases hx : chosen x with
      | true =>
          cases new with
          | nil => simp [hx] at h
          | cons y ys =>
              have hlen : ys.length = (xs.filter chosen).length := by simpa [hx] using h
              rw [refill_cons_of_chosen hx, List.filter_cons, List.filter_cons, ih hlen]
      | false =>
          have hlen : new.length = (xs.filter chosen).length := by simpa [hx] using h
          have hnot : ¬ wanted x = true := fun hwx => by simp [hw x hwx] at hx
          rw [refill_cons_of_not_chosen hx, List.filter_cons_of_neg hnot, ih hlen]

/-- The other places keep what they had. -/
theorem filter_refill_of_imp_not {α : Type} {chosen wanted : α → Bool}
    (hw : ∀ x, wanted x = true → chosen x = false) {l new : List α}
    (hnew : ∀ y ∈ new, chosen y = true) :
    (refill chosen l new).filter wanted = l.filter wanted := by
  have hnot : ∀ x, chosen x = true → ¬ wanted x = true := fun x hx hwx => by
    simp [hw x hwx] at hx
  induction l generalizing new with
  | nil => cases new <;> rfl
  | cons x xs ih =>
      cases hx : chosen x with
      | true =>
          cases new with
          | nil => rfl
          | cons y ys =>
              rw [refill_cons_of_chosen hx,
                List.filter_cons_of_neg (hnot y (hnew y List.mem_cons_self)),
                List.filter_cons_of_neg (hnot x hx),
                ih fun z hz => hnew z (List.mem_cons_of_mem y hz)]
      | false => rw [refill_cons_of_not_chosen hx, List.filter_cons, List.filter_cons, ih hnew]

/-! ## groups -/

theorem nodup_eraseDups {β : Type} [BEq β] [LawfulBEq β] (gs : List β) : gs.eraseDups.Nodup := by
  match gs with
  | [] => exact .nil
  | g :: rest =>
      have hg : g ∉ (rest.filter fun x => !x == g).eraseDups := by simp [List.mem_eraseDups]
      rw [List.eraseDups_cons]
      exact List.nodup_cons.2 ⟨hg, nodup_eraseDups _⟩
termination_by gs.length
decreasing_by exact Nat.lt_succ_of_le (List.length_filter_le _ _)

/-- Elements by groups are the elements of these groups. -/
theorem flatMap_filter_perm {α β : Type} [DecidableEq β] (key : α → β) (l : List α) {gs : List β}
    (h : gs.Nodup) {chosen : α → Bool} (hc : ∀ x ∈ l, chosen x = true ↔ key x ∈ gs) :
    (gs.flatMap fun g => l.filter (key · = g)).Perm (l.filter chosen) := by
  induction gs generalizing chosen with
  | nil =>
      have hnone : l.filter chosen = [] :=
        List.filter_eq_nil_iff.2 fun x hx hcx => List.not_mem_nil ((hc x hx).1 hcx)
      rw [hnone]
      exact .refl []
  | cons g gs ih =>
      obtain ⟨hg, hgs⟩ := List.nodup_cons.1 h
      have hfirst : (l.filter chosen).filter (key · = g) = l.filter (key · = g) := by
        rw [List.filter_filter]
        refine List.filter_congr fun x hx => ?_
        by_cases hkey : key x = g
        · simp [hkey, (hc x hx).2 (hkey ▸ List.mem_cons_self)]
        · simp [hkey]
      have hothers : (gs.flatMap fun g => l.filter (key · = g)).Perm
          (l.filter fun x => !decide (key x = g) && chosen x) := by
        refine ih hgs fun x hx => ?_
        by_cases hkey : key x = g
        · simp [hkey, hg]
        · simp [hkey, hc x hx]
      have hparts := List.filter_append_perm (key · = g) (l.filter chosen)
      rw [hfirst, List.filter_filter] at hparts
      rw [List.flatMap_cons]
      exact (hothers.append_left _).trans hparts

namespace Statement

/-- Grouping loses no statement and doubles none. -/
theorem grouped_perm (ss : List Statement) : (grouped ss).Perm ss := by
  have hcalls : (ss.filterMap group?).eraseDups.flatMap (fun g => ss.filter (·.group? = some g)) =
      ((ss.filterMap group?).eraseDups.map some).flatMap fun g => ss.filter (·.group? = g) := by
    rw [List.flatMap_map]
  have hnodup : ((ss.filterMap group?).eraseDups.map some).Nodup :=
    List.pairwise_map.2 ((nodup_eraseDups _).imp fun hne h => hne (Option.some.inj h))
  have hmem : ∀ s ∈ ss, (!decide (s.group? = none)) = true ↔
      s.group? ∈ (ss.filterMap group?).eraseDups.map some := by
    intro s hs
    cases hg : s.group? with
    | none => simp
    | some g =>
        have : g ∈ (ss.filterMap group?).eraseDups :=
          List.mem_eraseDups.2 (List.mem_filterMap.2 ⟨s, hs, hg⟩)
        exact ⟨fun _ => List.mem_map_of_mem this, fun _ => rfl⟩
  have hperm := flatMap_filter_perm group? ss hnodup hmem
  rw [← hcalls] at hperm
  rw [grouped]
  exact (hperm.append_right _).trans
    (List.perm_append_comm.trans (List.filter_append_perm (·.group? = none) ss))

end Statement

/-! ## sorting -/

/-- Nor does any other order. -/
theorem Order.arrange_perm (o : Order) (ss : List Statement) : (o.arrange ss).Perm ss := by
  cases o with
  | ascending => exact List.mergeSort_perm ss _
  | descending => exact List.mergeSort_perm ss _
  | byCategory => exact Statement.grouped_perm ss

theorem sortSide_perm (o : Order) (inside : Bool) (ss : List Statement) :
    (sortSide o inside ss).Perm ss :=
  refill_perm _ (o.arrange_perm _)

/-- Sorting permutes the statements. -/
theorem Program.sort_perm (p : Program) (scope : Scope) (o : Order) :
    (p.sort scope o).statements.Perm p.statements := by
  have hsides : ∀ (sides : List Bool) (ss : List Statement),
      (sides.foldl (fun ss inside => sortSide o inside ss) ss).Perm ss := by
    intro sides
    induction sides with
    | nil => exact fun ss => .refl ss
    | cons inside sides ih => exact fun ss => (ih _).trans (sortSide_perm o inside ss)
  exact hsides scope.sides p.statements

end ScriptComposer
