import ScriptComposer.Program.Sort

/-!
# ScriptComposer.Proofs.Program.StableSort

Sorting that keeps what it cannot tell apart in the order it had.

Two elements are tied if neither has to come first.  In a sorted list the ties stand side
by side, so a sorted list is known once the order inside each tie is; and a stable sort
leaves that order alone.  Hence leaving elements out before sorting or after it comes to
the same, and of several sorts by one key the last one decides.

* `eq_of_filter_alike_eq` — sorted lists with the same ties are the same;
* `filter_mergeSort` — filtering commutes with sorting;
* `IsStableSort` — what a stable sort is, by the keys of the elements: there is one at most,
  and merge sort gives it.
-/

namespace ScriptComposer

/-! ## ties -/

section Ties

variable {α : Type} {le : α → α → Bool}

/-- Neither of the two elements has to come before the other. -/
def tied (le : α → α → Bool) (x y : α) : Bool := le x y && le y x

variable (htrans : ∀ x y z, le x y = true → le y z = true → le x z = true)
  (htotal : ∀ x y, (le x y || le y x) = true)

include htotal in
theorem tied_self (x : α) : tied le x x = true := by
  simpa [tied] using htotal x x

include htotal in
theorem le_of_mem_of_pairwise {x y : α} {l : List α} (h : (x :: l).Pairwise (le · ·))
    (hy : y ∈ x :: l) : le x y = true := by
  rcases List.mem_cons.1 hy with rfl | hy
  · simpa using htotal y y
  · exact (List.pairwise_cons.1 h).1 y hy

/-- An element is among those that are like it. -/
theorem mem_of_filter_alike_eq {alike : α → α → Bool} (hself : ∀ x, alike x x = true)
    {l l' : List α} (h : ∀ x, l.filter (alike x) = l'.filter (alike x)) {x : α} (hx : x ∈ l) :
    x ∈ l' := by
  have hlike : x ∈ l.filter (alike x) := List.mem_filter.2 ⟨hx, hself x⟩
  rw [h x] at hlike
  exact (List.mem_filter.1 hlike).1

include htotal in
/-- Sorted lists are the same if they have the same elements like each one, in order, where
all that is tied has to be alike. -/
theorem eq_of_filter_alike_eq (alike : α → α → Bool) (hself : ∀ x, alike x x = true)
    {l l' : List α} (halike : ∀ x ∈ l, ∀ y ∈ l, tied le x y = true → alike x y = true)
    (h : l.Pairwise (le · ·)) (h' : l'.Pairwise (le · ·))
    (hsame : ∀ x, l.filter (alike x) = l'.filter (alike x)) : l = l' := by
  induction l generalizing l' with
  | nil =>
      refine (List.eq_nil_iff_forall_not_mem.2 fun x hx => ?_).symm
      exact List.not_mem_nil (mem_of_filter_alike_eq hself (fun x => (hsame x).symm) hx)
  | cons a l ih =>
      cases l' with
      | nil =>
          have ha := mem_of_filter_alike_eq hself hsame List.mem_cons_self
          exact absurd ha List.not_mem_nil
      | cons b l' =>
          have ha : a ∈ b :: l' := mem_of_filter_alike_eq hself hsame List.mem_cons_self
          have hb : b ∈ a :: l :=
            mem_of_filter_alike_eq hself (fun x => (hsame x).symm) List.mem_cons_self
          -- each of the heads comes before the other, so they are alike
          have hab : le a b = true := le_of_mem_of_pairwise htotal h hb
          have hba : le b a = true := le_of_mem_of_pairwise htotal h' ha
          have hlike : alike a b = true :=
            halike a List.mem_cons_self b hb (by simp [tied, hab, hba])
          have hhead := hsame a
          rw [List.filter_cons_of_pos (hself a), List.filter_cons_of_pos hlike] at hhead
          obtain ⟨rfl, -⟩ := List.cons.inj hhead
          have htail : ∀ x, l.filter (alike x) = l'.filter (alike x) := by
            intro x
            have hx := hsame x
            by_cases hxa : alike x a = true
            · rw [List.filter_cons_of_pos hxa, List.filter_cons_of_pos hxa] at hx
              exact (List.cons.inj hx).2
            · rwa [List.filter_cons_of_neg hxa, List.filter_cons_of_neg hxa] at hx
          have hlater : l = l' := ih
            (fun x hx y hy => halike x (List.mem_cons_of_mem a hx) y (List.mem_cons_of_mem a hy))
            (List.pairwise_cons.1 h).2 (List.pairwise_cons.1 h').2 htail
          rw [hlater]

include htrans htotal in
/-- Sorting leaves every tie in its order. -/
theorem filter_tied_mergeSort (l : List α) (x : α) :
    (l.mergeSort le).filter (tied le x) = l.filter (tied le x) := by
  have hpairwise : (l.filter (tied le x)).Pairwise (le · ·) := by
    refine List.pairwise_of_forall_mem_list fun y hy z hz => ?_
    have hyx := (List.mem_filter.1 hy).2
    have hxz := (List.mem_filter.1 hz).2
    simp only [tied, Bool.and_eq_true] at hyx hxz
    exact htrans y x z hyx.2 hxz.1
  have hsublist : (l.filter (tied le x)).Sublist ((l.mergeSort le).filter (tied le x)) := by
    have hsorted := List.sublist_mergeSort htrans htotal hpairwise List.filter_sublist
    simpa using hsorted.filter (tied le x)
  exact (hsublist.eq_of_length ((List.mergeSort_perm l le).filter _).length_eq.symm).symm

include htrans htotal in
/-- Leaving elements out before sorting or after it comes to the same. -/
theorem filter_mergeSort (chosen : α → Bool) (l : List α) :
    (l.mergeSort le).filter chosen = (l.filter chosen).mergeSort le := by
  refine eq_of_filter_alike_eq htotal (tied le) (tied_self htotal) (fun _ _ _ _ h => h)
    ((List.pairwise_mergeSort htrans htotal l).filter _)
    (List.pairwise_mergeSort htrans htotal _) fun x => ?_
  have hcomm : ∀ k : List α, (k.filter chosen).filter (tied le x) =
      (k.filter (tied le x)).filter chosen := by
    intro k
    rw [List.filter_filter, List.filter_filter]
    exact List.filter_congr fun y _ => Bool.and_comm _ _
  rw [filter_tied_mergeSort htrans htotal, hcomm, hcomm, filter_tied_mergeSort htrans htotal]

end Ties

/-! ## sorting by a key -/

/-- A list in order, with the elements that have one key as they stand in another list. -/
structure IsStableSort {α κ : Type} [DecidableEq κ] (r : α → α → Prop) (key : α → κ)
    (l sorted : List α) : Prop where
  ordered : sorted.Pairwise r
  kept : ∀ k, sorted.filter (key · = k) = l.filter (key · = k)

namespace IsStableSort

variable {α κ : Type} [DecidableEq κ] {r r' : α → α → Prop} {le : α → α → Bool} {key : α → κ}
  {l sorted sorted' : List α}

/-- Nothing is lost, and nothing comes in. -/
theorem mem_iff (h : IsStableSort r key l sorted) {x : α} : x ∈ sorted ↔ x ∈ l := by
  have hmem : ∀ k : List α, x ∈ k ↔ x ∈ k.filter (key · = key x) := by simp
  rw [hmem, h.kept, ← hmem]

/-- The last sort decides. -/
theorem trans (h : IsStableSort r key l sorted) (h' : IsStableSort r' key sorted sorted') :
    IsStableSort r' key l sorted' :=
  ⟨h'.ordered, fun k => (h'.kept k).trans (h.kept k)⟩

/-- There is one stable sort of a list if the order tells different keys apart. -/
theorem eq (htotal : ∀ x y, (le x y || le y x) = true)
    (hkey : ∀ x ∈ l, ∀ y ∈ l, tied le x y = true → key x = key y)
    (h : IsStableSort (le · ·) key l sorted) (h' : IsStableSort (le · ·) key l sorted') :
    sorted = sorted' := by
  refine eq_of_filter_alike_eq htotal (fun x y => key y = key x) (by simp)
    (fun x hx y hy hxy => ?_) h.ordered h'.ordered fun x => ?_
  · simpa using (hkey x (h.mem_iff.1 hx) y (h.mem_iff.1 hy) hxy).symm
  · exact (h.kept (key x)).trans (h'.kept (key x)).symm

/-- Merge sort is stable for every key that ties its elements. -/
theorem mergeSort (htrans : ∀ x y z, le x y = true → le y z = true → le x z = true)
    (htotal : ∀ x y, (le x y || le y x) = true)
    (hkey : ∀ x ∈ l, ∀ y ∈ l, key x = key y → le x y = true) :
    IsStableSort (le · ·) key l (l.mergeSort le) := by
  refine ⟨List.pairwise_mergeSort htrans htotal l, fun k => ?_⟩
  rw [filter_mergeSort htrans htotal]
  refine List.mergeSort_of_pairwise (List.pairwise_of_forall_mem_list fun x hx y hy => ?_)
  obtain ⟨hxl, hxk⟩ := List.mem_filter.1 hx
  obtain ⟨hyl, hyk⟩ := List.mem_filter.1 hy
  exact hkey x hxl y hyl ((of_decide_eq_true hxk).trans (of_decide_eq_true hyk).symm)

end IsStableSort

end ScriptComposer
