import Mathlib.Data.List.Induction
import ScriptComposer.Proofs.Program.Sides
import ScriptComposer.Proofs.Program.StableSort

/-!
# ScriptComposer.Proofs.Program.Grouping

Sorting by category, which goes by what comes first in the list itself.

A call ranks where the first call of its group is, and control statements rank behind all
calls.  Putting the groups one behind the other is the stable sort by this rank; and as the
first call of a group stays the first of it, doing it twice changes nothing more.

* `statements_gather` — the groups can be gathered in one walk over the statements;
* `grouped_eq_mergeSort` — grouping is the stable sort by rank;
* `grouped_grouped` — it is idempotent;
* `sort_byCategory` — what sorting a program by category does to its sides.
-/

namespace ScriptComposer

namespace Statement

/-! ## the groups of a list -/

/-- The groups that have a call in the list, by their first calls. -/
def groups (ss : List Statement) : List (List Char) := (ss.filterMap group?).eraseDups

/-- Only control statements have no group. -/
theorem group?_eq_none_iff {s : Statement} : s.group? = none ↔ ∃ c, s.body = .control c := by
  unfold group?
  split <;> simp_all

theorem grouped_eq (ss : List Statement) :
    grouped ss = ((groups ss).flatMap fun g => ss.filter (·.group? = some g)) ++
      ss.filter (·.group? = none) := rfl

/-- The groups are those of the calls. -/
theorem mem_groups {ss : List Statement} {g : List Char} :
    g ∈ groups ss ↔ ∃ s ∈ ss, s.group? = some g := by
  rw [groups, List.mem_eraseDups, List.mem_filterMap]

/-- No call is in a group that the list does not have. -/
theorem filter_group?_eq_nil {ss : List Statement} {g : List Char} (h : g ∉ groups ss) :
    ss.filter (·.group? = some g) = [] :=
  List.filter_eq_nil_iff.2 fun s hs hsg => h (mem_groups.2 ⟨s, hs, by simpa using hsg⟩)

theorem nodup_groups (ss : List Statement) : (groups ss).Nodup := nodup_eraseDups _

theorem eraseDups_concat {β : Type} [BEq β] [LawfulBEq β] (l : List β) (x : β) :
    (l ++ [x]).eraseDups = if x ∈ l then l.eraseDups else l.eraseDups ++ [x] := by
  rw [List.eraseDups_append, List.removeAll]
  split
  · next h => simp [h]
  · next h => simp [h, List.eraseDups_cons]

/-- A control statement more brings no group. -/
theorem groups_concat_control {s : Statement} (h : s.group? = none) (ss : List Statement) :
    groups (ss ++ [s]) = groups ss := by
  simp [groups, h]

/-- A call more brings its group unless it is there. -/
theorem groups_concat_call {s : Statement} {g : List Char} (h : s.group? = some g)
    (ss : List Statement) :
    groups (ss ++ [s]) = if g ∈ groups ss then groups ss else groups ss ++ [g] := by
  have hfilter : (ss ++ [s]).filterMap group? = ss.filterMap group? ++ [g] := by simp [h]
  rw [groups, hfilter, eraseDups_concat]
  simp only [groups, List.mem_eraseDups]

/-! ## gathering in one walk -/

/-- The statements that a walk has come across: the calls by groups, and the control
statements. -/
structure Gathered where
  calls : List (List Char × List Statement)
  controls : List Statement

/-- The groups with a call more.  It is put behind the others of its group; a new group is
opened behind all others. -/
def addCall (s : Statement) (g : List Char) :
    List (List Char × List Statement) → List (List Char × List Statement)
  | [] => [(g, [s])]
  | (h, members) :: rest =>
      if h = g then (h, members ++ [s]) :: rest else (h, members) :: addCall s g rest

/-- What is gathered with one statement more. -/
def Gathered.add (found : Gathered) (s : Statement) : Gathered :=
  match s.group? with
  | some g => { found with calls := addCall s g found.calls }
  | none => { found with controls := found.controls ++ [s] }

/-- Walk over the statements once. -/
def gather (ss : List Statement) : Gathered := ss.foldl Gathered.add ⟨[], []⟩

/-- The groups one behind the other, control statements last. -/
def Gathered.statements (found : Gathered) : List Statement :=
  found.calls.flatMap (·.2) ++ found.controls

/-- Groups of other names stay as they are. -/
theorem map_append_of_not_mem {gs : List (List Char)} {g : List Char} (h : g ∉ gs) {s : Statement}
    {members : List Char → List Statement} :
    gs.map (fun k => (k, members k ++ if k = g then [s] else [])) =
      gs.map fun k => (k, members k) := by
  refine List.map_congr_left fun k hk => ?_
  rw [if_neg fun (e : k = g) => h (e ▸ hk), List.append_nil]

/-- A call is added to the group of its name, or to a new one. -/
theorem addCall_map {gs : List (List Char)} (hgs : gs.Nodup) (s : Statement) (g : List Char)
    (members : List Char → List Statement) :
    addCall s g (gs.map fun h => (h, members h)) =
      if g ∈ gs then gs.map fun h => (h, members h ++ if h = g then [s] else [])
      else gs.map (fun h => (h, members h)) ++ [(g, [s])] := by
  induction gs with
  | nil => rfl
  | cons h gs ih =>
      obtain ⟨hnot, hgs⟩ := List.nodup_cons.1 hgs
      by_cases hg : h = g
      · subst hg
        simp [addCall, map_append_of_not_mem hnot]
      · rw [List.map_cons, addCall, if_neg hg, ih hgs]
        by_cases hmem : g ∈ gs
        · simp [hmem, hg]
        · simp [hmem, Ne.symm hg]

/-- A walk gathers, under the name of each group, the calls of that group. -/
theorem gather_eq (ss : List Statement) :
    gather ss = ⟨(groups ss).map fun g => (g, ss.filter (·.group? = some g)),
      ss.filter (·.group? = none)⟩ := by
  induction ss using List.reverseRecOn with
  | nil => rfl
  | append_singleton ss s ih =>
      have hstep : gather (ss ++ [s]) = (gather ss).add s := by simp [gather]
      rw [hstep, ih, Gathered.add]
      cases hs : s.group? with
      | none => simp [groups_concat_control hs, hs]
      | some g =>
          have hlast : ∀ h, [s].filter (·.group? = some h) = if h = g then [s] else [] := by
            intro h
            by_cases hg : h = g
            · simp [hs, hg]
            · simp [hs, hg, Ne.symm hg]
          have hcontrols : [s].filter (·.group? = none) = [] := by simp [hs]
          rw [groups_concat_call hs]
          simp only [addCall_map (nodup_groups ss), List.filter_append, hlast, hcontrols,
            List.append_nil]
          split
          · rfl
          · next hnew =>
              simp [filter_group?_eq_nil hnew, map_append_of_not_mem hnew]

theorem statements_gather (ss : List Statement) : (gather ss).statements = grouped ss := by
  rw [gather_eq, Gathered.statements, grouped_eq, List.flatMap_map]

/-! ## ranks -/

/-- Where the first call of a group is. -/
def firstPlace (ss : List Statement) (g : List Char) : Nat := ss.findIdx (·.group? = some g)

/-- What sorting by category goes by: a call ranks where the first call of its group is, a
control statement behind all calls. -/
def groupRank (ss : List Statement) (s : Statement) : Nat :=
  match s.group? with
  | some g => firstPlace ss g
  | none => ss.length

theorem groupRank_of_call {ss : List Statement} {s : Statement} {g : List Char}
    (h : s.group? = some g) : groupRank ss s = firstPlace ss g := by
  simp [groupRank, h]

/-- Control statements rank behind every call. -/
theorem groupRank_of_control {ss : List Statement} {s : Statement} (h : s.group? = none) :
    groupRank ss s = ss.length := by
  simp [groupRank, h]

theorem firstPlace_lt {ss : List Statement} {g : List Char} (h : g ∈ groups ss) :
    firstPlace ss g < ss.length := by
  obtain ⟨s, hs, hg⟩ := mem_groups.1 h
  exact List.findIdx_lt_length_of_exists ⟨s, hs, by simpa using hg⟩

theorem group?_firstPlace {ss : List Statement} {g : List Char}
    (h : firstPlace ss g < ss.length) : ss[firstPlace ss g].group? = some g := by
  have hfound := List.findIdx_getElem (p := fun s : Statement => s.group? = some g) (w := h)
  exact of_decide_eq_true hfound

/-- Two groups do not begin at one place. -/
theorem firstPlace_inj {ss : List Statement} {g h : List Char} (hg : g ∈ groups ss)
    (heq : firstPlace ss h = firstPlace ss g) : h = g := by
  have hplace := firstPlace_lt hg
  have hother : ss[firstPlace ss h].group? = some h := group?_firstPlace (heq ▸ hplace)
  simp only [heq, group?_firstPlace hplace] at hother
  exact (Option.some.inj hother).symm

/-- What comes behind a list does not change where its groups begin. -/
theorem firstPlace_append {ss : List Statement} {g : List Char} (h : g ∈ groups ss)
    (ts : List Statement) : firstPlace (ss ++ ts) g = firstPlace ss g := by
  rw [firstPlace, List.findIdx_append]
  exact if_pos (firstPlace_lt h)

/-- A group that a list does not have begins behind it. -/
theorem length_le_firstPlace_append {ss : List Statement} {g : List Char} (h : g ∉ groups ss)
    (ts : List Statement) : ss.length ≤ firstPlace (ss ++ ts) g := by
  have hnone : ss.findIdx (·.group? = some g) = ss.length :=
    List.findIdx_eq_length.2 fun s hs =>
      decide_eq_false fun hsg => h (mem_groups.2 ⟨s, hs, hsg⟩)
  rw [firstPlace, List.findIdx_append, hnone, if_neg (Nat.lt_irrefl _)]
  exact Nat.le_add_left _ _

/-- The groups come in the order in which they begin. -/
theorem pairwise_groups (ss : List Statement) :
    (groups ss).Pairwise fun g h => firstPlace ss g < firstPlace ss h := by
  induction ss using List.reverseRecOn with
  | nil => exact .nil
  | append_singleton ss s ih =>
      have hkept : (groups ss).Pairwise fun g h =>
          firstPlace (ss ++ [s]) g < firstPlace (ss ++ [s]) h := by
        refine ih.imp_of_mem fun hg hh hlt => ?_
        rwa [firstPlace_append hg, firstPlace_append hh]
      cases hs : s.group? with
      | none => rwa [groups_concat_control hs]
      | some g =>
          rw [groups_concat_call hs]
          split
          · exact hkept
          · next hnew =>
              refine List.pairwise_append.2 ⟨hkept, List.pairwise_singleton _ _, ?_⟩
              intro h hh k hk
              obtain rfl := List.mem_singleton.1 hk
              -- a new group begins at the new call, behind all that were there
              have hplace := length_le_firstPlace_append hnew [s]
              have hbefore := firstPlace_lt hh
              rw [firstPlace_append hh]
              omega

/-- Among the statements of a list the rank tells the group. -/
theorem group?_eq_of_groupRank_eq {ss : List Statement} {s t : Statement} (hs : s ∈ ss)
    (ht : t ∈ ss) (h : groupRank ss s = groupRank ss t) : s.group? = t.group? := by
  have hcall : ∀ {u : Statement} {g : List Char}, u ∈ ss → u.group? = some g → g ∈ groups ss :=
    fun hu hg => mem_groups.2 ⟨_, hu, hg⟩
  cases hsg : s.group? with
  | none =>
      cases htg : t.group? with
      | none => rfl
      | some g =>
          have hlt := firstPlace_lt (hcall ht htg)
          rw [groupRank_of_control hsg, groupRank_of_call htg] at h
          omega
  | some g =>
      cases htg : t.group? with
      | none =>
          have hlt := firstPlace_lt (hcall hs hsg)
          rw [groupRank_of_call hsg, groupRank_of_control htg] at h
          omega
      | some k =>
          rw [groupRank_of_call hsg, groupRank_of_call htg] at h
          rw [firstPlace_inj (hcall ht htg) h]

/-! ## grouping -/

theorem exists_of_mem_calls {ss : List Statement} {gs : List (List Char)} {s : Statement}
    (h : s ∈ gs.flatMap fun g => ss.filter (·.group? = some g)) : ∃ g ∈ gs, s.group? = some g := by
  obtain ⟨g, hg, hs⟩ := List.mem_flatMap.1 h
  exact ⟨g, hg, by simpa using (List.mem_filter.1 hs).2⟩

/-- The calls of a group stand together, as they stood. -/
theorem exists_grouped_eq_block (ss : List Statement) (g : List Char) :
    ∃ front back, grouped ss = front ++ ss.filter (·.group? = some g) ++ back ∧
      ∀ s ∈ front ++ back, s.group? ≠ some g := by
  by_cases hg : g ∈ groups ss
  · obtain ⟨before, behind, hgroups⟩ := List.append_of_mem hg
    have hnodup := nodup_groups ss
    rw [hgroups, List.nodup_append, List.nodup_cons] at hnodup
    obtain ⟨-, ⟨hbehind, -⟩, hbefore⟩ := hnodup
    refine ⟨before.flatMap fun h => ss.filter (·.group? = some h),
      (behind.flatMap fun h => ss.filter (·.group? = some h)) ++ ss.filter (·.group? = none),
      by simp [grouped_eq, hgroups], fun s hs hsg => ?_⟩
    rcases List.mem_append.1 hs with hs | hs
    · obtain ⟨h, hh, hsh⟩ := exists_of_mem_calls hs
      obtain rfl : g = h := Option.some.inj (hsg.symm.trans hsh)
      exact hbefore g hh g List.mem_cons_self rfl
    · rcases List.mem_append.1 hs with hs | hs
      · obtain ⟨h, hh, hsh⟩ := exists_of_mem_calls hs
        obtain rfl : g = h := Option.some.inj (hsg.symm.trans hsh)
        exact hbehind hh
      · simp [hsg] at hs
  · refine ⟨[], grouped ss, by simp [filter_group?_eq_nil hg], fun s hs hsg => ?_⟩
    exact hg (mem_groups.2 ⟨s, (grouped_perm ss).mem_iff.1 hs, hsg⟩)

/-- The control statements come last, as they stood. -/
theorem exists_grouped_eq_controls (ss : List Statement) :
    ∃ front, grouped ss = front ++ ss.filter (·.group? = none) ∧
      ∀ s ∈ front, s.group? ≠ none := by
  refine ⟨_, grouped_eq ss, fun s hs hnone => ?_⟩
  obtain ⟨g, -, hg⟩ := exists_of_mem_calls hs
  simp [hnone] at hg

/-- No group notices that the list is grouped. -/
theorem filter_grouped (ss : List Statement) (k : Option (List Char)) :
    (grouped ss).filter (·.group? = k) = ss.filter (·.group? = k) := by
  cases k with
  | none =>
      obtain ⟨front, heq, hfront⟩ := exists_grouped_eq_controls ss
      have hnone : front.filter (·.group? = none) = [] :=
        List.filter_eq_nil_iff.2 fun s hs => by simpa using hfront s hs
      rw [heq, List.filter_append, hnone, List.nil_append, List.filter_filter]
      simp
  | some g =>
      obtain ⟨front, back, heq, hothers⟩ := exists_grouped_eq_block ss g
      have hfront : front.filter (·.group? = some g) = [] :=
        List.filter_eq_nil_iff.2 fun s hs => by simpa using hothers s (List.mem_append_left _ hs)
      have hback : back.filter (·.group? = some g) = [] :=
        List.filter_eq_nil_iff.2 fun s hs => by simpa using hothers s (List.mem_append_right _ hs)
      rw [heq, List.filter_append, List.filter_append, hfront, hback, List.filter_filter]
      simp

/-- Grouping puts the ranks in order. -/
theorem pairwise_grouped (ss : List Statement) :
    (grouped ss).Pairwise fun s t => groupRank ss s ≤ groupRank ss t := by
  have hcall : ∀ {g : List Char}, ∀ s ∈ ss.filter (·.group? = some g),
      groupRank ss s = firstPlace ss g := fun s hs =>
    groupRank_of_call (by simpa using (List.mem_filter.1 hs).2)
  have hcontrol : ∀ s ∈ ss.filter (·.group? = none), groupRank ss s = ss.length := fun s hs =>
    groupRank_of_control (by simpa using (List.mem_filter.1 hs).2)
  rw [grouped_eq, List.pairwise_append, List.pairwise_flatMap]
  refine ⟨⟨fun g _ => ?_, ?_⟩, ?_, fun s hs t ht => ?_⟩
  · exact List.pairwise_of_forall_mem_list fun s hs t ht =>
      Nat.le_of_eq ((hcall s hs).trans (hcall t ht).symm)
  · refine (pairwise_groups ss).imp fun hlt s hs t ht => ?_
    rw [hcall s hs, hcall t ht]
    exact Nat.le_of_lt hlt
  · exact List.pairwise_of_forall_mem_list fun s hs t ht =>
      Nat.le_of_eq ((hcontrol s hs).trans (hcontrol t ht).symm)
  · obtain ⟨g, hg, hsg⟩ := exists_of_mem_calls hs
    rw [groupRank_of_call hsg, hcontrol t ht]
    exact Nat.le_of_lt (firstPlace_lt hg)

/-- Grouping is the stable sort by rank. -/
theorem grouped_eq_mergeSort (ss : List Statement) :
    grouped ss = ss.mergeSort fun s t => groupRank ss s ≤ groupRank ss t := by
  have htotal : ∀ s t : Statement, (decide (groupRank ss s ≤ groupRank ss t) ||
      decide (groupRank ss t ≤ groupRank ss s)) = true := fun s t => by
    simpa using Nat.le_total _ _
  have hgrouped : IsStableSort (fun s t => decide (groupRank ss s ≤ groupRank ss t) = true) group?
      ss (grouped ss) := ⟨by simpa using pairwise_grouped ss, filter_grouped ss⟩
  refine hgrouped.eq htotal (fun s hs t ht htied => ?_)
    (.mergeSort (fun s t u h h' => ?_) htotal fun s _ t _ hgroup => ?_)
  · refine group?_eq_of_groupRank_eq hs ht ?_
    simp only [tied, Bool.and_eq_true, decide_eq_true_eq] at htied
    omega
  · simp only [decide_eq_true_eq] at h h' ⊢
    omega
  · simp [groupRank, hgroup]

/-- Groups in order give their names in order. -/
theorem eraseDups_flatMap {β : Type} [BEq β] [LawfulBEq β] {gs : List β} (hgs : gs.Nodup)
    {f : β → List β} (hf : ∀ g ∈ gs, f g ≠ [] ∧ ∀ x ∈ f g, x = g) :
    (gs.flatMap f).eraseDups = gs := by
  induction gs with
  | nil => rfl
  | cons g gs ih =>
      obtain ⟨hne, hsame⟩ := hf g List.mem_cons_self
      obtain ⟨x, rest, hfg⟩ := List.exists_cons_of_ne_nil hne
      obtain rfl : x = g := hsame x (hfg ▸ List.mem_cons_self)
      obtain ⟨hnot, hgs⟩ := List.nodup_cons.1 hgs
      have hrest : rest.filter (fun y => !y == x) = [] :=
        List.filter_eq_nil_iff.2 fun y hy => by
          simp [hsame y (hfg ▸ List.mem_cons_of_mem _ hy)]
      have hothers : (gs.flatMap f).filter (fun y => !y == x) = gs.flatMap f := by
        refine List.filter_eq_self.2 fun y hy => ?_
        obtain ⟨g, hg, hy⟩ := List.mem_flatMap.1 hy
        obtain rfl := (hf g (List.mem_cons_of_mem _ hg)).2 y hy
        simpa using fun e : y = x => hnot (e ▸ hg)
      rw [List.flatMap_cons, hfg, List.cons_append, List.eraseDups_cons, List.filter_append, hrest,
        List.nil_append, hothers, ih hgs fun g hg => hf g (List.mem_cons_of_mem _ hg)]

/-- Grouping leaves the order in which the groups begin. -/
theorem groups_grouped (ss : List Statement) : groups (grouped ss) = groups ss := by
  have hcontrols : (ss.filter (·.group? = none)).filterMap group? = [] :=
    List.filterMap_eq_nil_iff.2 fun s hs => by simpa using (List.mem_filter.1 hs).2
  rw [groups, grouped_eq, List.filterMap_append, hcontrols, List.append_nil,
    List.filterMap_flatMap]
  refine eraseDups_flatMap (nodup_groups ss) fun g hg => ⟨?_, fun x hx => ?_⟩
  · obtain ⟨s, hs, hsg⟩ := mem_groups.1 hg
    exact List.ne_nil_of_mem (List.mem_filterMap.2 ⟨s, List.mem_filter.2 ⟨hs, by simpa using hsg⟩,
      hsg⟩)
  · obtain ⟨s, hs, hsx⟩ := List.mem_filterMap.1 hx
    have hsg : s.group? = some g := by simpa using (List.mem_filter.1 hs).2
    exact Option.some.inj (hsx.symm.trans hsg)

/-- Grouping a list that is grouped changes nothing. -/
theorem grouped_grouped (ss : List Statement) : grouped (grouped ss) = grouped ss := by
  rw [grouped_eq (grouped ss), groups_grouped]
  simp only [filter_grouped]
  rfl

end Statement

open Statement

/-! ## sorting a program -/

/-- What sorting by category makes of the statements of a side. -/
structure IsGrouping (before after : List Statement) : Prop where
  /-- They are in the order of a stable sort by rank. -/
  eq_mergeSort : after = before.mergeSort fun s t => groupRank before s ≤ groupRank before t
  /-- They are what is gathered in one walk. -/
  eq_gather : after = (gather before).statements
  /-- The calls of a group stand together, as they stood. -/
  block (g : List Char) : ∃ front back,
    after = front ++ before.filter (·.group? = some g) ++ back ∧
      ∀ s ∈ front ++ back, s.group? ≠ some g
  /-- The groups come in the order in which they first appeared. -/
  groups_eq : groups after = groups before
  /-- The control statements, which have no group, come last, as they stood. -/
  controls : ∃ front, after = front ++ before.filter (·.group? = none) ∧
    ∀ s ∈ front, s.group? ≠ none

/-- Grouping is what it is meant to be. -/
theorem isGrouping_grouped (ss : List Statement) : IsGrouping ss (grouped ss) where
  eq_mergeSort := grouped_eq_mergeSort ss
  eq_gather := (statements_gather ss).symm
  block := exists_grouped_eq_block ss
  groups_eq := groups_grouped ss
  controls := exists_grouped_eq_controls ss

namespace Program

/-- For every program and every scope, sorting by category

* puts the statements of each side in the scope in the order of a stable sort by rank, so that
  the calls of a group stand together, the groups by their first calls and the control
  statements, which are those without a group, behind them;
* keeps the places of the two sides, loses no statement and doubles none;
* changes nothing more when it is done again. -/
theorem sort_byCategory (p : Program) (scope : Scope) :
    ((∀ inside ∈ scope.sides, IsGrouping (side inside p.statements)
        (side inside (p.sort scope .byCategory).statements)) ∧
      ∀ s : Statement, s.group? = none ↔ ∃ c, s.body = .control c) ∧
    ((∀ i : Nat, (p.sort scope .byCategory).statements[i]?.map (·.inMainLoop) =
        p.statements[i]?.map (·.inMainLoop)) ∧
      (p.sort scope .byCategory).statements.Perm p.statements) ∧
    ((p.sort scope .byCategory).sort scope .byCategory).statements =
      (p.sort scope .byCategory).statements := by
  have hagain : ∀ ss, Order.byCategory.arrange (Order.byCategory.arrange ss) =
      Order.byCategory.arrange ss := grouped_grouped
  refine ⟨⟨fun inside hside => ?_, fun s => group?_eq_none_iff⟩,
    ⟨getElem?_sort_inMainLoop p scope .byCategory, sort_perm p scope .byCategory⟩,
    statements_sort_sort hagain p scope⟩
  rw [side_sort hside]
  exact isGrouping_grouped (side inside p.statements)

/-- Calls with and without a category, a control statement and a disabled call. -/
def assorted : Program := .ofStatements
  [.ofBody ⟨"a"⟩ (.call ⟨⟨"walk", "", none⟩, []⟩) true,
    .ofBody ⟨"b"⟩ (.control (.ifThen "ready")) true,
    .ofBody ⟨"c"⟩ (.call ⟨⟨"Deposit", "", some "Bank"⟩, []⟩) true,
    { Statement.ofBody ⟨"d"⟩ (.call ⟨⟨"Say", "", some "W"⟩, []⟩) true with enabled := false }]

/-- The call without a category is in the group of its capital, which is the category of
another call. -/
theorem sort_byCategory_assorted :
    true ∈ Scope.inside.sides ∧
      (side true (assorted.sort .inside .byCategory).statements).map (·.id.text) =
        ["a", "d", "c", "b"] := by
  obtain ⟨⟨hsides, -⟩, -, -⟩ := sort_byCategory assorted .inside
  have hside : true ∈ Scope.inside.sides := by decide
  refine ⟨hside, ?_⟩
  rw [(hsides true hside).eq_gather]
  decide

end Program

end ScriptComposer
