import Mathlib.Data.List.Basic
import Mathlib.Data.List.Induction
import ScriptComposer.Script.Blocks

/-!
# ScriptComposer.Proofs.Script.Matching

Which `end` closes which block.

A sequence of line roles is `Balanced` if every block in it is closed where it
stands; an `end` matches an opener if what lies between them is balanced.  An
`end` that matches no opener is a stray, an opener that no `end` matches is
unclosed.  None of this mentions a stack; the stack comes second:

* `foldl_read_eq` — one pass with a stack of the open blocks finds exactly the
  strays and exactly the unclosed openers, both in order;
* `balanced_iff` — there are neither in exactly the balanced sequences.
-/

namespace ScriptComposer.Script

/-! ## balanced sequences -/

/-- Every block is closed where it stands: blocks side by side, one inside another,
and plain lines anywhere. -/
inductive Balanced : List LineRole → Prop
  | nil : Balanced []
  | plain {q} (h : Balanced q) : Balanced (.plain :: q)
  | block {kind a b} (ha : Balanced a) (hb : Balanced b) :
      Balanced (.opener kind :: (a ++ .closer :: b))

/-- Balanced sequences one after the other are balanced. -/
theorem Balanced.append {a b : List LineRole} (ha : Balanced a) (hb : Balanced b) :
    Balanced (a ++ b) := by
  induction ha with
  | nil => exact hb
  | plain _ ih => exact .plain ih
  | block ha' _ _ ih =>
      rw [List.cons_append, List.append_assoc, List.cons_append]
      exact .block ha' ih

/-- How many blocks are open behind a sequence, `depth` of them being open before
it.  An `end` without a block leaves none open. -/
def depthAfter (depth : Nat) : List LineRole → Nat
  | [] => depth
  | .plain :: q => depthAfter depth q
  | .opener _ :: q => depthAfter (depth + 1) q
  | .closer :: q => depthAfter (depth - 1) q

/-- Counting goes on where the first sequence leaves off. -/
theorem depthAfter_append (depth : Nat) (a b : List LineRole) :
    depthAfter depth (a ++ b) = depthAfter (depthAfter depth a) b := by
  induction a generalizing depth with
  | nil => rfl
  | cons r a ih => cases r <;> simp only [List.cons_append, depthAfter, ih]

/-- A balanced sequence leaves the depth as it was. -/
theorem Balanced.depthAfter {q : List LineRole} (h : Balanced q) (depth : Nat) :
    depthAfter depth q = depth := by
  induction h generalizing depth with
  | nil => rfl
  | plain _ ih => exact ih depth
  | block _ _ iha ihb => simp only [Script.depthAfter, depthAfter_append, iha, ihb,
      Nat.add_sub_cancel]

/-! ## deciding balance -/

/-- The sequence closes `depth` blocks of the text before it, and is balanced
otherwise. -/
inductive Unwinds : Nat → List LineRole → Prop
  | done {q} (h : Balanced q) : Unwinds 0 q
  | close {depth a q} (ha : Balanced a) (h : Unwinds depth q) :
      Unwinds (depth + 1) (a ++ .closer :: q)

/-- A balanced sequence in front closes nothing of the text before it. -/
theorem Unwinds.prepend {depth : Nat} {a q : List LineRole} (ha : Balanced a)
    (h : Unwinds depth q) : Unwinds depth (a ++ q) := by
  cases h with
  | done h => exact .done (ha.append h)
  | close hb h =>
      rw [← List.append_assoc]
      exact .close (ha.append hb) h

/-- An opener takes the first `end` for itself. -/
theorem Unwinds.opener {depth : Nat} {q : List LineRole} (kind : BlockKind)
    (h : Unwinds (depth + 1) q) : Unwinds depth (.opener kind :: q) := by
  cases h with
  | close ha h =>
      cases h with
      | done hb => exact .done (.block ha hb)
      | close hb h =>
          have hblock : Balanced (.opener kind :: (_ ++ .closer :: _)) := .block ha hb
          have := Unwinds.close hblock h
          simpa using this

/-- Does the sequence close exactly `depth` blocks of the text before it? -/
def unwinds : Nat → List LineRole → Bool
  | depth, [] => depth == 0
  | depth, .plain :: q => unwinds depth q
  | depth, .opener _ :: q => unwinds (depth + 1) q
  | 0, .closer :: _ => false
  | depth + 1, .closer :: q => unwinds depth q

/-- Deciding passes over a balanced sequence. -/
theorem Balanced.unwinds_append {a : List LineRole} (ha : Balanced a) (depth : Nat)
    (q : List LineRole) : unwinds depth (a ++ q) = unwinds depth q := by
  induction ha generalizing depth q with
  | nil => rfl
  | plain _ ih => simp only [List.cons_append, unwinds, ih]
  | block _ _ iha ihb =>
      rw [List.cons_append, List.append_assoc, unwinds, iha, List.cons_append, unwinds, ihb]

/-- What is decided is so. -/
theorem Unwinds.of_unwinds {depth : Nat} {q : List LineRole} (h : unwinds depth q = true) :
    Unwinds depth q := by
  induction q generalizing depth with
  | nil =>
      obtain rfl : depth = 0 := by simpa [unwinds] using h
      exact .done .nil
  | cons r q ih =>
      cases r with
      | plain => exact Unwinds.prepend (.plain .nil) (ih h)
      | opener kind => exact Unwinds.opener kind (ih h)
      | closer =>
          cases depth with
          | zero => simp [unwinds] at h
          | succ depth => exact Unwinds.close .nil (ih h)

/-- Balance is decided by counting. -/
theorem unwinds_zero_iff {q : List LineRole} : unwinds 0 q = true ↔ Balanced q := by
  constructor
  · intro h
    cases Unwinds.of_unwinds h with
    | done h => exact h
  · intro h
    have := h.unwinds_append 0 []
    rwa [List.append_nil] at this

instance (q : List LineRole) : Decidable (Balanced q) := decidable_of_iff _ unwinds_zero_iff

/-! ## openers and ends that belong together -/

/-- Does a line of that role open a block? -/
def LineRole.isOpener : LineRole → Bool
  | .opener _ => true
  | .closer | .plain => false

/-- Does a block open at place `i`? -/
def OpensAt (q : List LineRole) (i : Nat) : Prop := ∃ kind, q[i]? = some (.opener kind)

/-- The `end` at place `j` closes the block opened at place `i`: what lies between
the two is balanced. -/
def Matches (q : List LineRole) (i j : Nat) : Prop :=
  i < j ∧ OpensAt q i ∧ q[j]? = some .closer ∧ Balanced ((q.take j).drop (i + 1))

/-- An `end` at place `j` that closes no block. -/
def IsStray (q : List LineRole) (j : Nat) : Prop :=
  q[j]? = some .closer ∧ ∀ i < j, ¬ Matches q i j

/-- A block opened at place `i` that no `end` closes. -/
def IsUnclosed (q : List LineRole) (i : Nat) : Prop :=
  OpensAt q i ∧ ∀ j < q.length, ¬ Matches q i j

/-- The block opened at place `i` is the one that an `end` behind the sequence
would close. -/
def Awaits (q : List LineRole) (i : Nat) : Prop := OpensAt q i ∧ Balanced (q.drop (i + 1))

instance (q : List LineRole) (i : Nat) : Decidable (OpensAt q i) :=
  match h : q[i]? with
  | some (.opener kind) => isTrue ⟨kind, h⟩
  | some .closer | some .plain | none => isFalse (by rintro ⟨kind, hk⟩; simp [h] at hk)

instance (q : List LineRole) (i j : Nat) : Decidable (Matches q i j) :=
  inferInstanceAs (Decidable (_ ∧ _))

instance (q : List LineRole) (j : Nat) : Decidable (IsStray q j) :=
  inferInstanceAs (Decidable (_ ∧ _))

instance (q : List LineRole) (i : Nat) : Decidable (IsUnclosed q i) :=
  inferInstanceAs (Decidable (_ ∧ _))

instance (q : List LineRole) (i : Nat) : Decidable (Awaits q i) :=
  inferInstanceAs (Decidable (_ ∧ _))

theorem OpensAt.lt {q : List LineRole} {i : Nat} (h : OpensAt q i) : i < q.length := by
  obtain ⟨kind, hk⟩ := h
  exact (List.getElem?_eq_some_iff.1 hk).1

theorem opensAt_append {q : List LineRole} {i : Nat} (hi : i < q.length) (r : List LineRole) :
    OpensAt (q ++ r) i ↔ OpensAt q i := by
  simp only [OpensAt, List.getElem?_append_left hi]

/-- A sequence is cut in three at a place where a block opens. -/
theorem OpensAt.eq_append {q : List LineRole} {i : Nat} (h : OpensAt q i) :
    ∃ kind, q = q.take i ++ .opener kind :: q.drop (i + 1) := by
  obtain ⟨kind, hk⟩ := h
  obtain ⟨hi, hget⟩ := List.getElem?_eq_some_iff.1 hk
  exact ⟨kind, by rw [← hget, List.getElem_cons_drop, List.take_append_drop]⟩

/-! ### longer sequences -/

/-- Whether an `end` matches an opener is settled at the `end`. -/
theorem matches_append_of_lt {q r : List LineRole} {i j : Nat} (hj : j < q.length) :
    Matches (q ++ r) i j ↔ Matches q i j := by
  have htake : (q ++ r).take j = q.take j := List.take_append_of_le_length (Nat.le_of_lt hj)
  constructor
  · rintro ⟨hij, ho, hc, hb⟩
    rw [opensAt_append (Nat.lt_trans hij hj)] at ho
    rw [List.getElem?_append_left hj] at hc
    exact ⟨hij, ho, hc, htake ▸ hb⟩
  · rintro ⟨hij, ho, hc, hb⟩
    refine ⟨hij, (opensAt_append (Nat.lt_trans hij hj) _).2 ho, ?_, htake ▸ hb⟩
    rwa [List.getElem?_append_left hj]

/-- Whether an `end` is a stray is settled at the `end`. -/
theorem isStray_append_of_lt {q r : List LineRole} {j : Nat} (hj : j < q.length) :
    IsStray (q ++ r) j ↔ IsStray q j := by
  simp only [IsStray, List.getElem?_append_left hj, matches_append_of_lt hj]

/-- A role behind the sequence makes a new pair only if it is an `end`. -/
theorem matches_concat {q : List LineRole} {r : LineRole} {i j : Nat} :
    Matches (q ++ [r]) i j ↔ Matches q i j ∨ (j = q.length ∧ r = .closer ∧ Awaits q i) := by
  rcases Nat.lt_trichotomy j q.length with hj | rfl | hj
  · rw [matches_append_of_lt hj]
    simp only [Nat.ne_of_lt hj, false_and, or_false]
  · have htake : (q ++ [r]).take q.length = q := List.take_left
    constructor
    · rintro ⟨hij, ho, hc, hb⟩
      rw [htake] at hb
      refine .inr ⟨rfl, by simpa using hc, (opensAt_append hij _).1 ho, hb⟩
    · rintro (⟨-, -, hc, -⟩ | ⟨-, rfl, ho, hb⟩)
      · simp at hc
      · exact ⟨ho.lt, (opensAt_append ho.lt _).2 ho, by simp, by rwa [htake]⟩
  · have hnone : ∀ q' : List LineRole, q'.length ≤ j → ¬ Matches q' i j := by
      rintro q' hlen ⟨-, -, hc, -⟩
      simp [List.getElem?_eq_none hlen] at hc
    constructor
    · intro h
      exact absurd h (hnone _ (by simp only [List.length_append, List.length_singleton]; omega))
    · rintro (h | ⟨rfl, -⟩)
      · exact absurd h (hnone _ (Nat.le_of_lt hj))
      · exact absurd hj (Nat.lt_irrefl _)

/-- The last `end` is a stray if no block waits for it. -/
theorem isStray_concat_length {q : List LineRole} {r : LineRole} :
    IsStray (q ++ [r]) q.length ↔ r = .closer ∧ ∀ i < q.length, ¬ Awaits q i := by
  have hno : ∀ i, ¬ Matches q i q.length := fun i h => by simpa using h.2.2.1
  simp only [IsStray, matches_concat, hno, false_or, true_and]
  constructor
  · rintro ⟨hr, h⟩
    obtain rfl : r = .closer := by simpa using hr
    exact ⟨rfl, fun i hi ha => h i hi ⟨rfl, ha⟩⟩
  · rintro ⟨rfl, h⟩
    exact ⟨by simp, fun i hi ha => h i hi ha.2⟩

/-- A block stays unclosed unless the last `end` is the one it waits for. -/
theorem isUnclosed_concat_of_lt {q : List LineRole} {r : LineRole} {i : Nat} (hi : i < q.length) :
    IsUnclosed (q ++ [r]) i ↔ IsUnclosed q i ∧ ¬ (r = .closer ∧ Awaits q i) := by
  simp only [IsUnclosed, opensAt_append hi, matches_concat, List.length_append,
    List.length_singleton]
  constructor
  · rintro ⟨ho, h⟩
    refine ⟨⟨ho, fun j hj hm => h j (by omega) (.inl hm)⟩, fun hr => ?_⟩
    exact h q.length (by omega) (.inr ⟨rfl, hr⟩)
  · rintro ⟨⟨ho, h⟩, hr⟩
    refine ⟨ho, fun j _ hm => ?_⟩
    rcases hm with hm | ⟨rfl, hm⟩
    · exact h j (List.getElem?_eq_some_iff.1 hm.2.2.1).1 hm
    · exact hr hm

/-- A block that has just been opened is unclosed. -/
theorem isUnclosed_concat_length {q : List LineRole} {r : LineRole} :
    IsUnclosed (q ++ [r]) q.length ↔ r.isOpener = true := by
  constructor
  · rintro ⟨⟨kind, hk⟩, -⟩
    obtain rfl : r = .opener kind := by simpa using hk
    rfl
  · intro hr
    obtain ⟨kind, rfl⟩ : ∃ kind, r = .opener kind := by cases r <;> simp_all [LineRole.isOpener]
    refine ⟨⟨kind, by simp⟩, fun j hj hm => ?_⟩
    have := hm.1
    simp only [List.length_append, List.length_singleton] at hj
    omega

/-! ## the blocks open behind a sequence -/

/-- The blocks open behind a sequence are those opened at the given places, the
innermost first. -/
inductive Stacked : List LineRole → List Nat → Prop
  | balanced {q} (h : Balanced q) : Stacked q []
  | stray {q b} (h : Stacked q []) (hb : Balanced b) : Stacked (q ++ .closer :: b) []
  | push {q places kind b} (h : Stacked q places) (hb : Balanced b) :
      Stacked (q ++ .opener kind :: b) (q.length :: places)

namespace Stacked

/-- What is balanced leaves the open blocks as they are. -/
theorem append {q b : List LineRole} {places : List Nat} (h : Stacked q places)
    (hb : Balanced b) : Stacked (q ++ b) places := by
  cases h with
  | balanced h => exact .balanced (h.append hb)
  | stray h ha =>
      rw [List.append_assoc, List.cons_append]
      exact .stray h (ha.append hb)
  | push h ha =>
      rw [List.append_assoc, List.cons_append]
      exact .push h (ha.append hb)

/-- An `end` closes the innermost block. -/
theorem closer {q : List LineRole} {i : Nat} {places : List Nat} (h : Stacked q (i :: places)) :
    Stacked (q ++ [.closer]) places := by
  cases h with
  | push h hb =>
      rw [List.append_assoc, List.cons_append]
      exact h.append (.block hb .nil)

theorem lt {q : List LineRole} {places : List Nat} (h : Stacked q places) :
    ∀ i ∈ places, i < q.length := by
  induction h with
  | balanced _ => simp
  | stray _ _ _ => simp
  | push _ _ ih =>
      intro i hi
      simp only [List.length_append, List.length_cons]
      rcases List.mem_cons.1 hi with rfl | hi
      · omega
      · have := ih i hi
        omega

/-- The blocks are stacked by their places, the last one on top. -/
theorem lt_head {q : List LineRole} {i : Nat} {places : List Nat} (h : Stacked q (i :: places)) :
    ∀ j ∈ places, j < i := by
  cases h with
  | push h _ => exact h.lt

/-- The depth is the number of open blocks. -/
theorem depthAfter_eq {q : List LineRole} {places : List Nat} (h : Stacked q places) :
    depthAfter 0 q = places.length := by
  induction h with
  | balanced h => exact h.depthAfter 0
  | stray _ hb ih => rw [depthAfter_append, ih, depthAfter, hb.depthAfter]; rfl
  | push _ hb ih => rw [depthAfter_append, ih, depthAfter, hb.depthAfter]; rfl

end Stacked

/-- A block that is opened and not closed leaves a sequence unbalanced. -/
theorem not_balanced_append_opener {a b : List LineRole} {kind : BlockKind} (hb : Balanced b) :
    ¬ Balanced (a ++ .opener kind :: b) := by
  intro h
  have := h.depthAfter 0
  rw [depthAfter_append, depthAfter, hb.depthAfter] at this
  exact Nat.succ_ne_zero _ this

/-- The block an `end` would close is the innermost open one. -/
theorem Stacked.awaits_iff {q : List LineRole} {places : List Nat} (h : Stacked q places)
    {i : Nat} : Awaits q i ↔ places.head? = some i := by
  constructor
  · rintro ⟨ho, hb⟩
    obtain ⟨kind, hq⟩ := ho.eq_append
    have hdepth := h.depthAfter_eq
    rw [hq, depthAfter_append, depthAfter, hb.depthAfter] at hdepth
    cases h with
    | balanced _ => simp at hdepth
    | stray _ _ => simp at hdepth
    | @push q' places kind' b h hb' =>
        rcases Nat.lt_trichotomy i q'.length with hi | rfl | hi
        · rw [List.drop_append_of_le_length hi] at hb
          exact absurd hb (not_balanced_append_opener hb')
        · rfl
        · obtain ⟨k, rfl⟩ : ∃ k, i = q'.length + (k + 1) := ⟨i - q'.length - 1, by omega⟩
          have hob : OpensAt b k := by
            obtain ⟨kind'', hk⟩ := ho
            rw [List.getElem?_append_right (by omega), Nat.add_sub_cancel_left,
              List.getElem?_cons_succ] at hk
            exact ⟨kind'', hk⟩
          obtain ⟨kind'', hb''⟩ := hob.eq_append
          rw [Nat.add_assoc, List.drop_append, List.drop_of_length_le (by omega),
            Nat.add_sub_cancel_left, List.drop_succ_cons, List.nil_append] at hb
          rw [hb''] at hb'
          exact absurd hb' (not_balanced_append_opener hb)
  · intro hi
    cases h with
    | balanced _ => simp at hi
    | stray _ _ => simp at hi
    | @push q' places kind b h hb =>
        obtain rfl := Option.some.inj hi
        exact ⟨⟨kind, by simp⟩, by simpa using hb⟩

/-! ## one pass with a stack -/

/-- What a pass over lines has found: the strays, in order, and the openers of the
blocks that are open, the innermost first. -/
structure Nesting (β : Type) where
  strays : List β
  stack : List β

section Pass

variable {β : Type} (role : β → LineRole)

/-- The pass takes one line. -/
def Nesting.read (n : Nesting β) (x : β) : Nesting β :=
  match role x, n.stack with
  | .plain, _ => n
  | .opener _, stack => { n with stack := x :: stack }
  | .closer, _ :: stack => { n with stack }
  | .closer, [] => { n with strays := n.strays ++ [x] }

/-- The lines with an `end` that closes no block, each with its place. -/
def straysIn (xs : List β) : List (β × Nat) :=
  xs.zipIdx.filter fun x => IsStray (xs.map role) x.2

/-- The lines that open a block no `end` closes, each with its place. -/
def unclosedIn (xs : List β) : List (β × Nat) :=
  xs.zipIdx.filter fun x => IsUnclosed (xs.map role) x.2

/-- The lines with an `end` that closes no block, in order. -/
def strays (xs : List β) : List β := (straysIn role xs).map (·.1)

/-- The lines that open a block no `end` closes, in order. -/
def unclosed (xs : List β) : List β := (unclosedIn role xs).map (·.1)

/-- A pass over numbered lines, the numbers left out of account. -/
theorem foldl_read_map {γ : Type} (f : γ → β) (xs : List γ) (n : Nesting γ) :
    (xs.map f).foldl (Nesting.read role) ⟨n.strays.map f, n.stack.map f⟩ =
      let m := xs.foldl (Nesting.read (role ∘ f)) n
      ⟨m.strays.map f, m.stack.map f⟩ := by
  induction xs generalizing n with
  | nil => rfl
  | cons x xs ih =>
      have hstep : Nesting.read role ⟨n.strays.map f, n.stack.map f⟩ (f x) =
          ⟨(n.read (role ∘ f) x).strays.map f, (n.read (role ∘ f) x).stack.map f⟩ := by
        obtain ⟨strays, stack⟩ := n
        cases hr : role (f x) <;> cases stack <;> simp [Nesting.read, hr]
      rw [List.map_cons, List.foldl_cons, hstep, ih, List.foldl_cons]

/-- A balanced stretch of lines leaves the pass where it was. -/
theorem foldl_read_of_balanced {xs : List β} (h : Balanced (xs.map role)) (n : Nesting β) :
    xs.foldl (Nesting.read role) n = n := by
  generalize hq : xs.map role = q at h
  induction h generalizing xs n with
  | nil =>
      obtain rfl := List.map_eq_nil_iff.1 hq
      rfl
  | plain _ ih =>
      obtain ⟨x, xs, rfl, hx, hxs⟩ := List.map_eq_cons_iff.1 hq
      have hread : n.read role x = n := by simp [Nesting.read, hx]
      rw [List.foldl_cons, hread, ih n hxs]
  | block _ _ iha ihb =>
      obtain ⟨x, xs, rfl, hx, hxs⟩ := List.map_eq_cons_iff.1 hq
      obtain ⟨as, ys, rfl, ha, hys⟩ := List.map_eq_append_iff.1 hxs
      obtain ⟨y, bs, rfl, hy, hb⟩ := List.map_eq_cons_iff.1 hys
      have hopen : n.read role x = { n with stack := x :: n.stack } := by
        simp [Nesting.read, hx]
      have hclose : Nesting.read role { n with stack := x :: n.stack } y = n := by
        simp [Nesting.read, hy]
      rw [List.foldl_cons, hopen, List.foldl_append, iha _ ha, List.foldl_cons, hclose, ihb n hb]

/-! ### what the pass has found -/

/-- One more line adds itself to the strays, or nothing. -/
theorem straysIn_concat (xs : List β) (x : β) :
    straysIn role (xs ++ [x]) = straysIn role xs ++
      if role x = .closer ∧ ∀ i < xs.length, ¬ Awaits (xs.map role) i then [(x, xs.length)]
      else [] := by
  have hlen : (xs.map role).length = xs.length := List.length_map role
  have hlast := isStray_concat_length (q := xs.map role) (r := role x)
  rw [hlen] at hlast
  simp only [straysIn, List.zipIdx_append, List.filter_append, List.map_append]
  congr 1
  · refine List.filter_congr fun y hy => ?_
    have hlt : y.2 < (xs.map role).length := by simpa using List.snd_lt_of_mem_zipIdx hy
    simp only [List.map_cons, List.map_nil, isStray_append_of_lt hlt]
  · simp [List.filter_cons, hlast]

/-- One more line closes the block that waits for it, or opens one, or does nothing. -/
theorem unclosedIn_concat (xs : List β) (x : β) :
    unclosedIn role (xs ++ [x]) =
      (unclosedIn role xs).filter (fun y => ¬ (role x = .closer ∧ Awaits (xs.map role) y.2)) ++
      if (role x).isOpener then [(x, xs.length)] else [] := by
  have hlen : (xs.map role).length = xs.length := List.length_map role
  have hlast := isUnclosed_concat_length (q := xs.map role) (r := role x)
  rw [hlen] at hlast
  simp only [unclosedIn, List.zipIdx_append, List.filter_append, List.map_append,
    List.filter_filter]
  congr 1
  · refine List.filter_congr fun y hy => ?_
    have hlt : y.2 < (xs.map role).length := by simpa using List.snd_lt_of_mem_zipIdx hy
    simp only [List.map_cons, List.map_nil, isUnclosed_concat_of_lt hlt, Bool.decide_and,
      Bool.and_comm]
  · simp [List.filter_cons, hlast]

/-- The pass over numbered lines has found what matching asks for. -/
structure Found (xs : List β) (n : Nesting (β × Nat)) : Prop where
  stacked : Stacked (xs.map role) (n.stack.map (·.2))
  strays : n.strays = straysIn role xs
  unclosed : n.stack.reverse = unclosedIn role xs

variable {role}

/-- Reading one more line keeps what was found in step with matching. -/
theorem Found.read {xs : List β} {n : Nesting (β × Nat)} (h : Found role xs n) (x : β) :
    Found role (xs ++ [x]) (n.read (role ∘ Prod.fst) (x, xs.length)) := by
  obtain ⟨strays, stack⟩ := n
  obtain ⟨hstack, rfl, hopen⟩ := h
  have hawaits : ∀ i, Awaits (xs.map role) i ↔ (stack.map (·.2)).head? = some i :=
    fun i => hstack.awaits_iff
  cases hr : role x with
  | plain =>
      refine ⟨?_, ?_, ?_⟩
      · simpa [Nesting.read, hr] using hstack.append (.plain .nil)
      · simp [Nesting.read, hr, straysIn_concat]
      · simpa [Nesting.read, hr, unclosedIn_concat, LineRole.isOpener] using hopen
  | opener kind =>
      refine ⟨?_, ?_, ?_⟩
      · have hpush : Stacked (xs.map role ++ [.opener kind]) _ := .push hstack .nil
        simpa [Nesting.read, hr] using hpush
      · simp [Nesting.read, hr, straysIn_concat]
      · simpa [Nesting.read, hr, unclosedIn_concat, LineRole.isOpener] using hopen
  | closer =>
      cases stack with
      | nil =>
          have hno : ∀ i, ¬ Awaits (xs.map role) i := by simp [hawaits]
          refine ⟨?_, ?_, ?_⟩
          · simpa [Nesting.read, hr] using Stacked.stray hstack .nil
          · simp [Nesting.read, hr, straysIn_concat, hno]
          · simp [Nesting.read, hr, unclosedIn_concat, LineRole.isOpener, ← hopen]
      | cons t stack =>
          have ht : t.2 < xs.length := by
            simpa using hstack.lt t.2 (by simp)
          have hlast : ∀ y ∈ stack, y.2 ≠ t.2 := fun y hy =>
            Nat.ne_of_lt (hstack.lt_head y.2 (List.mem_map_of_mem hy))
          refine ⟨?_, ?_, ?_⟩
          · simpa [Nesting.read, hr] using hstack.closer
          · simpa [Nesting.read, hr, straysIn_concat, hawaits] using ht
          · have hkeep : stack.reverse.filter (fun y => ¬ t.2 = y.2) = stack.reverse :=
              List.filter_eq_self.2 fun y hy => by
                simpa using (hlast y (List.mem_reverse.1 hy)).symm
            simpa [Nesting.read, hr, unclosedIn_concat, LineRole.isOpener, ← hopen, hawaits]
              using hkeep.symm

variable (role)

/-- So it is after the whole pass. -/
theorem found_foldl_read (xs : List β) :
    Found role xs (xs.zipIdx.foldl (Nesting.read (role ∘ Prod.fst)) ⟨[], []⟩) := by
  induction xs using List.reverseRecOn with
  | nil => exact ⟨.balanced .nil, rfl, rfl⟩
  | append_singleton xs x ih =>
      rw [List.zipIdx_append, List.foldl_append]
      simpa using ih.read x

/-- One pass with a stack finds exactly the strays, in order, and is left with
exactly the unclosed openers, the last one on top. -/
theorem foldl_read_eq (xs : List β) :
    xs.foldl (Nesting.read role) ⟨[], []⟩ = ⟨strays role xs, (unclosed role xs).reverse⟩ := by
  obtain ⟨-, hstrays, hopen⟩ := found_foldl_read role xs
  have hmap := foldl_read_map role Prod.fst xs.zipIdx ⟨[], []⟩
  rw [List.zipIdx_map_fst] at hmap
  rw [strays, unclosed, ← hstrays, ← hopen, List.map_reverse, List.reverse_reverse]
  exact hmap

theorem strays_ne_nil {xs : List β} {j : Nat} (h : IsStray (xs.map role) j) :
    strays role xs ≠ [] := by
  have hj : j < xs.length := by simpa using (List.getElem?_eq_some_iff.1 h.1).1
  have hmem : (xs[j], j) ∈ straysIn role xs :=
    List.mem_filter.2 ⟨List.mk_mem_zipIdx_iff_getElem?.2 (List.getElem?_eq_getElem hj), by
      simpa using h⟩
  exact fun hnil => by simp [List.map_eq_nil_iff.1 hnil] at hmem

/-- Lines are balanced if no `end` is a stray and no block is left open. -/
theorem balanced_iff (xs : List β) :
    Balanced (xs.map role) ↔ strays role xs = [] ∧ unclosed role xs = [] := by
  constructor
  · intro h
    have := (foldl_read_eq role xs).symm.trans (foldl_read_of_balanced role h ⟨[], []⟩)
    simpa using this
  · rintro ⟨hs, ho⟩
    have hstack := (found_foldl_read role xs).stacked
    rw [← List.reverse_reverse (Nesting.stack _), (found_foldl_read role xs).unclosed,
      List.map_eq_nil_iff.1 ho] at hstack
    generalize hq : xs.map role = q at hstack
    cases hstack with
    | balanced h => exact h
    | @stray q b h hb =>
        -- a stray `end` in the middle would have been found
        have hlt : q.length < (q ++ [LineRole.closer]).length := by simp
        have hstray : IsStray (q ++ .closer :: b) q.length := by
          rw [List.append_cons, isStray_append_of_lt hlt, isStray_concat_length]
          exact ⟨rfl, fun i _ => by simp [h.awaits_iff]⟩
        rw [← hq] at hstray
        exact absurd hs (strays_ne_nil role hstray)

end Pass

end ScriptComposer.Script
