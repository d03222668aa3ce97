import Mathlib.Data.List.Nodup
import Mathlib.Data.Prod.Lex
import Mathlib.Data.String.Basic
import ScriptComposer.Proofs.Program.Sides
import ScriptComposer.Proofs.Program.StableSort

/-!
# ScriptComposer.Proofs.Program.Alphabetical

The alphabetical orders of statements.

Names are compared in lower case, and as they are where that does not tell them apart.  So
every statement has a key, a pair of texts, and the comparison is that of the keys; two
statements are tied only if they have the same name.  Both orders, upwards and downwards,
are stable sorts by that key.

* `nameLe_iff` — the comparison is the lexicographic order of the keys;
* `Order.isStableSort_arrange` — the alphabetical orders are stable sorts;
* `Order.filter_arrange` — leaving statements out commutes with them;
* `sort_alphabetically` — what sorting a program alphabetically does to its sides.
-/

namespace ScriptComposer

/-! ## texts -/

/-- Texts are compared in the lexicographic order of their characters. -/
theorem Text.le_iff {s t : List Char} : le s t = true ↔ ¬ List.Lex (· < ·) t s := by
  induction s generalizing t with
  | nil => simp [le]
  | cons a s ih =>
      cases t with
      | nil => simp [le]
      | cons b t =>
          rw [List.cons_lex_cons_iff, le]
          split
          · next h => simp [h, ih]
          · next h =>
              have hlt : a < b ↔ a ≤ b := ⟨le_of_lt, fun hle => lt_of_le_of_ne hle h⟩
              simpa [Ne.symm h] using (show a.toNat < b.toNat ↔ a ≤ b from hlt)

theorem Text.le_toList_iff {s t : String} : le s.toList t.toList = true ↔ s ≤ t :=
  Text.le_iff

/-! ## names -/

namespace Statement

/-- What the alphabetical orders go by: the name in lower case, then the name as it is. -/
def nameKey (s : Statement) : String ×ₗ String := toLex (Text.lowercased s.sortKey, s.sortKey)

/-- Names are compared by their keys. -/
theorem nameLe_iff {s t : Statement} : nameLe s t = true ↔ s.nameKey ≤ t.nameKey := by
  have hlower : ∀ s : String, Text.lowercase s.toList = (Text.lowercased s).toList := fun s => by
    rw [Text.lowercased, String.toList_ofList]
  rw [nameKey, nameKey, Prod.Lex.toLex_le_toLex]
  simp only [nameLe, hlower, String.toList_inj]
  split
  · next h => simp [h, Text.le_toList_iff]
  · next h => simp [h, Text.le_toList_iff, le_iff_lt_or_eq]

theorem nameLe_total (s t : Statement) : (nameLe s t || nameLe t s) = true := by
  simpa [nameLe_iff] using le_total s.nameKey t.nameKey

theorem nameLe_trans (s t u : Statement) (h : nameLe s t = true) (h' : nameLe t u = true) :
    nameLe s u = true :=
  nameLe_iff.2 ((nameLe_iff.1 h).trans (nameLe_iff.1 h'))

/-- Only the name decides, and it decides all but between statements of one name. -/
theorem nameLe_antisymm {s t : Statement} (h : nameLe s t = true) (h' : nameLe t s = true) :
    s.sortKey = t.sortKey :=
  congrArg (fun k => (ofLex k).2) (le_antisymm (nameLe_iff.1 h) (nameLe_iff.1 h'))

theorem nameLe_of_sortKey_eq {s t : Statement} (h : s.sortKey = t.sortKey) : nameLe s t = true :=
  nameLe_iff.2 (by rw [nameKey, nameKey, h])

end Statement

open Statement

/-! ## alphabetical orders -/

namespace Order

/-- May the first statement stand before the second in an alphabetical order? -/
def allows : Order → Statement → Statement → Bool
  | .ascending, s, t => nameLe s t
  | .descending, s, t => nameLe t s
  | .byCategory, _, _ => true

theorem allows_total (o : Order) (s t : Statement) : (o.allows s t || o.allows t s) = true := by
  cases o with
  | ascending => exact nameLe_total s t
  | descending => exact nameLe_total t s
  | byCategory => rfl

theorem allows_trans (o : Order) (s t u : Statement) (h : o.allows s t = true)
    (h' : o.allows t u = true) : o.allows s u = true := by
  cases o with
  | ascending => exact nameLe_trans s t u h h'
  | descending => exact nameLe_trans u t s h' h
  | byCategory => rfl

variable {o : Order} (ho : o ≠ .byCategory)

include ho in
theorem arrange_eq_mergeSort (ss : List Statement) : o.arrange ss = ss.mergeSort o.allows := by
  cases o with
  | ascending => rfl
  | descending => rfl
  | byCategory => exact absurd rfl ho

include ho in
/-- Statements tie if they are sorted by one name, letter case included. -/
theorem tied_allows_iff {s t : Statement} :
    tied o.allows s t = true ↔ s.sortKey = t.sortKey := by
  rw [tied, Bool.and_eq_true]
  cases o with
  | ascending =>
      exact ⟨fun h => nameLe_antisymm h.1 h.2,
        fun h => ⟨nameLe_of_sortKey_eq h, nameLe_of_sortKey_eq h.symm⟩⟩
  | descending =>
      exact ⟨fun h => nameLe_antisymm h.2 h.1,
        fun h => ⟨nameLe_of_sortKey_eq h.symm, nameLe_of_sortKey_eq h⟩⟩
  | byCategory => exact absurd rfl ho

include ho in
/-- Leaving statements out before they are put into an alphabetical order or after it
comes to the same. -/
theorem filter_arrange (chosen : Statement → Bool) (ss : List Statement) :
    (o.arrange ss).filter chosen = o.arrange (ss.filter chosen) := by
  rw [arrange_eq_mergeSort ho, arrange_eq_mergeSort ho]
  exact filter_mergeSort o.allows_trans o.allows_total chosen ss

include ho in
/-- An alphabetical order is a stable sort by the names. -/
theorem isStableSort_arrange (ss : List Statement) :
    IsStableSort (o.allows · ·) sortKey ss (o.arrange ss) := by
  rw [arrange_eq_mergeSort ho]
  refine .mergeSort o.allows_trans o.allows_total fun s _ t _ h => ?_
  have htied := (tied_allows_iff ho).2 h
  exact (Bool.and_eq_true_iff.1 htied).1

include ho in
/-- Of two alphabetical orders the later one decides. -/
theorem arrange_arrange {o' : Order} (ho' : o' ≠ .byCategory) (ss : List Statement) :
    o'.arrange (o.arrange ss) = o'.arrange ss := by
  have hafter := (isStableSort_arrange ho ss).trans (isStableSort_arrange ho' (o.arrange ss))
  exact hafter.eq o'.allows_total (fun s _ t _ h => (tied_allows_iff ho').1 h)
    (isStableSort_arrange ho' ss)

/-- Where no name comes twice, descending is ascending from the end. -/
theorem arrange_descending {ss : List Statement} (h : (ss.map sortKey).Nodup) :
    descending.arrange ss = (ascending.arrange ss).reverse := by
  have hdown := (isStableSort_arrange (o := descending) nofun ss).ordered
  have hup := (isStableSort_arrange (o := ascending) nofun ss).ordered
  refine List.Perm.eq_of_pairwise (fun s t hs ht hst hts => ?_) hdown
    (List.pairwise_reverse.2 hup)
    ((descending.arrange_perm ss).trans ((ascending.arrange_perm ss).symm.trans
      (List.reverse_perm _).symm))
  have hkey : s.sortKey = t.sortKey := nameLe_antisymm hts hst
  exact List.inj_on_of_nodup_map h ((descending.arrange_perm ss).mem_iff.1 hs)
    ((ascending.arrange_perm ss).mem_iff.1 (List.mem_reverse.1 ht)) hkey

end Order

/-! ## sorting a program -/

namespace Program

/-- Names are compared by a total preorder that ties statements of one name only.  For every
program and every scope:

* sorting upwards puts each side in the scope in the order of the names in lower case and then
  as they are, and keeps statements of one name as they stood;
* sorting downwards puts it in the opposite order, and keeps statements of one name as they
  stood as well, so it is the other one reversed if no name comes twice;
* an alphabetical sort after another one, be it the same one, gives what it gives alone. -/
theorem sort_alphabetically (p : Program) (scope : Scope) :
    ((∀ s t, nameLe s t = true ↔ s.nameKey ≤ t.nameKey) ∧
      (∀ s t, nameLe s t = true ∨ nameLe t s = true) ∧
      (∀ s t u, nameLe s t = true → nameLe t u = true → nameLe s u = true) ∧
      ∀ s t, nameLe s t = true → nameLe t s = true → s.sortKey = t.sortKey) ∧
    (∀ inside ∈ scope.sides,
      IsStableSort (fun s t => s.nameKey ≤ t.nameKey) sortKey (side inside p.statements)
        (side inside (p.sort scope .ascending).statements) ∧
      IsStableSort (fun s t => t.nameKey ≤ s.nameKey) sortKey (side inside p.statements)
        (side inside (p.sort scope .descending).statements) ∧
      (((side inside p.statements).map sortKey).Nodup →
        side inside (p.sort scope .descending).statements =
          (side inside (p.sort scope .ascending).statements).reverse)) ∧
    ∀ o o', o ≠ .byCategory → o' ≠ .byCategory →
      ((p.sort scope o).sort scope o').statements = (p.sort scope o').statements := by
  refine ⟨⟨fun s t => nameLe_iff, fun s t => by simpa using nameLe_total s t, nameLe_trans,
    fun s t => nameLe_antisymm⟩, fun inside hside => ?_, fun o o' ho ho' => ?_⟩
  · rw [side_sort hside, side_sort hside]
    simp only [← nameLe_iff]
    exact ⟨Order.isStableSort_arrange (o := .ascending) nofun _,
      Order.isStableSort_arrange (o := .descending) nofun _, Order.arrange_descending⟩
  · exact statements_sort_sort (Order.arrange_arrange ho ho') p scope

/-- Calls inside the main loop whose names differ in letter case or not at all, between
statements outside of it whose names are all different. -/
def namesakes : Program := .ofStatements
  [.ofBody ⟨"a"⟩ (.call ⟨⟨"walk", "", none⟩, []⟩) true,
    .ofBody ⟨"b"⟩ (.control .blockEnd) false,
    .ofBody ⟨"c"⟩ (.call ⟨⟨"Walk", "first", none⟩, []⟩) true,
    .ofBody ⟨"d"⟩ (.call ⟨⟨"Setup", "", none⟩, []⟩) false,
    .ofBody ⟨"e"⟩ (.call ⟨⟨"Walk", "second", none⟩, []⟩) true]

/-- The two calls of one name stay in order whichever way they are sorted, the side without
namesakes is turned around, and sorting upwards does not matter before sorting downwards. -/
theorem sort_alphabetically_namesakes :
    (true ∈ Scope.all.sides ∧
      ((side true (namesakes.sort .all .ascending).statements).filter
        (·.sortKey = "Walk")).map (·.id.text) = ["c", "e"] ∧
      ((side true (namesakes.sort .all .descending).statements).filter
        (·.sortKey = "Walk")).map (·.id.text) = ["c", "e"]) ∧
    (false ∈ Scope.all.sides ∧ ((side false namesakes.statements).map sortKey).Nodup ∧
      side false (namesakes.sort .all .descending).statements =
        (side false (namesakes.sort .all .ascending).statements).reverse) ∧
    (Order.ascending ≠ .byCategory ∧ Order.descending ≠ .byCategory ∧
      ((namesakes.sort .all .ascending).sort .all .descending).statements =
        (namesakes.sort .all .descending).statements) := by
  obtain ⟨-, hsides, hlast⟩ := sort_alphabetically namesakes .all
  obtain ⟨hup, hdown, -⟩ := hsides true (by decide)
  obtain ⟨-, -, hreverse⟩ := hsides false (by decide)
  have hnames : ((side false namesakes.statements).map sortKey).Nodup := by decide
  refine ⟨⟨by decide, ?_, ?_⟩, ⟨by decide, hnames, hreverse hnames⟩,
    nofun, nofun, hlast .ascending .descending nofun nofun⟩
  · rw [hup.kept]
    decide
  · rw [hdown.kept]
    decide

end Program

end ScriptComposer
