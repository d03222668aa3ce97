import ScriptComposer.Proofs.Program.Rearrange

/-!
# ScriptComposer.Proofs.Program.Sides

Sorting and the two sides of the main loop.

A list of statements is known by three things: on which side each of its places is, and
which statements each side has, in order.  Sorting leaves the first alone, and changes each
side by itself; so it does not matter which side is sorted first, and a side that is not
sorted stays where it is.

* `places_sort` — every place stays on its side;
* `side_sort` — a side in the scope is arranged, the other one is as it was;
* `eq_of_side_eq` — nothing else is to be known about the list;
* `sort_keeps_sides` — what sorting, and removing the disabled statements, may do.
-/

namespace ScriptComposer

/-! ## lists with a key at every place -/

section Keys

variable {α β : Type} [DecidableEq β] {f : α → β} {l l' : List α}

/-- If the places with a key are the same and hold the same elements in order, then an
element with that key is where it was. -/
theorem getElem?_of_filter_eq (hplaces : l'.map f = l.map f) {x : α}
    (h : l'.filter (f · == f x) = l.filter (f · == f x)) {i : Nat} (hx : l[i]? = some x) :
    l'[i]? = some x := by
  induction l generalizing l' i with
  | nil => simp at hx
  | cons y l ih =>
      cases l' with
      | nil => simp at hplaces
      | cons y' l' =>
          obtain ⟨hy, hlater⟩ : f y' = f y ∧ l'.map f = l.map f := by simpa using hplaces
          by_cases hkey : f y = f x
          · -- both heads have the key, so they are the first element with it
            obtain ⟨rfl, htail⟩ : y' = y ∧ l'.filter (f · == f x) = l.filter (f · == f x) := by
              simpa [hy, hkey] using h
            cases i with
            | zero => exact hx
            | succ i => simpa using ih hlater htail (by simpa using hx)
          · have htail : l'.filter (f · == f x) = l.filter (f · == f x) := by
              simpa [hy, hkey] using h
            cases i with
            | zero =>
                obtain rfl : y = x := by simpa using hx
                exact absurd rfl hkey
            | succ i => simpa using ih hlater htail (by simpa using hx)

/-- Lists that have the same keys at the same places, and for each key the same elements in
order, are the same. -/
theorem eq_of_filter_eq (hplaces : l'.map f = l.map f)
    (h : ∀ b, l'.filter (f · == b) = l.filter (f · == b)) : l' = l := by
  have hlength : l'.length = l.length := by simpa using congrArg List.length hplaces
  refine List.ext_getElem? fun i => ?_
  cases hx : l[i]? with
  | some x => exact getElem?_of_filter_eq hplaces (h (f x)) hx
  | none =>
      have hi : l.length ≤ i := List.getElem?_eq_none_iff.1 hx
      exact List.getElem?_eq_none (by omega)

end Keys

/-- What the new elements have in common with the ones they take the places of, the places
keep. -/
theorem map_refill {α β : Type} {chosen : α → Bool} {f : α → β} {b : β}
    (hchosen : ∀ x, chosen x = true → f x = b) {new : List α} (hnew : ∀ y ∈ new, f y = b)
    (l : List α) : (refill chosen l new).map f = l.map f := by
  induction l generalizing new with
  | nil => simp [refill]
  | cons x xs ih =>
      cases hx : chosen x with
      | false => rw [refill_cons_of_not_chosen hx, List.map_cons, List.map_cons, ih hnew]
      | true =>
          cases new with
          | nil => simp [refill]
          | cons y ys =>
              rw [refill_cons_of_chosen hx, List.map_cons, List.map_cons, hchosen x hx,
                hnew y List.mem_cons_self, ih fun z hz => hnew z (List.mem_cons_of_mem y hz)]

/-! ## the sides of the main loop -/

/-- The statements on one side of the main loop, in order. -/
def side (inside : Bool) (ss : List Statement) : List Statement :=
  ss.filter (·.inMainLoop == inside)

/-- For each place of a list, whether it is inside the main loop. -/
def places (ss : List Statement) : List Bool := ss.map (·.inMainLoop)

/-- The places and the two sides are all there is to a list of statements. -/
theorem eq_of_side_eq {ss ss' : List Statement} (hplaces : places ss' = places ss)
    (h : ∀ inside, side inside ss' = side inside ss) : ss' = ss :=
  eq_of_filter_eq hplaces h

/-- A statement is where it was if the places are the same and its side is. -/
theorem getElem?_of_side_eq {ss ss' : List Statement} (hplaces : places ss' = places ss)
    {s : Statement} (h : side s.inMainLoop ss' = side s.inMainLoop ss) {i : Nat}
    (hs : ss[i]? = some s) : ss'[i]? = some s :=
  getElem?_of_filter_eq hplaces h hs

/-! ### sorting one side -/

/-- Arranging a side brings no statement of the other one in. -/
theorem inMainLoop_of_mem_arrange {o : Order} {inside : Bool} {ss : List Statement}
    {s : Statement} (h : s ∈ o.arrange (side inside ss)) : s.inMainLoop = inside := by
  have hs : s ∈ side inside ss := (o.arrange_perm _).mem_iff.1 h
  exact beq_iff_eq.1 (List.mem_filter.1 hs).2

/-- Every place stays on its side. -/
theorem places_sortSide (o : Order) (inside : Bool) (ss : List Statement) :
    places (sortSide o inside ss) = places ss :=
  map_refill (fun _ h => beq_iff_eq.1 h) (fun _ h => inMainLoop_of_mem_arrange h) ss

/-- The sorted side is in order. -/
theorem side_sortSide_self (o : Order) (inside : Bool) (ss : List Statement) :
    side inside (sortSide o inside ss) = o.arrange (side inside ss) := by
  have hall : (o.arrange (side inside ss)).filter (·.inMainLoop == inside) =
      o.arrange (side inside ss) :=
    List.filter_eq_self.2 fun _ h => beq_iff_eq.2 (inMainLoop_of_mem_arrange h)
  exact (filter_refill_of_imp (fun _ h => h) (o.arrange_perm _).length_eq).trans hall

/-- The other side is as it was. -/
theorem side_sortSide_of_ne (o : Order) {inside other : Bool} (h : other ≠ inside)
    (ss : List Statement) : side other (sortSide o inside ss) = side other ss := by
  refine filter_refill_of_imp_not (fun s hs => ?_) fun s hs => ?_
  · rw [beq_iff_eq.1 hs]
    exact beq_eq_false_iff_ne.2 h
  · exact beq_iff_eq.2 (inMainLoop_of_mem_arrange hs)

namespace Program

/-! ### sorting a program -/

/-- Every place of a program stays on its side of the main loop. -/
theorem places_sort (p : Program) (scope : Scope) (o : Order) :
    places (p.sort scope o).statements = places p.statements := by
  cases scope with
  | inside => exact places_sortSide o true p.statements
  | outside => exact places_sortSide o false p.statements
  | all => exact (places_sortSide o false _).trans (places_sortSide o true p.statements)

theorem getElem?_sort_inMainLoop (p : Program) (scope : Scope) (o : Order) (i : Nat) :
    (p.sort scope o).statements[i]?.map (·.inMainLoop) = p.statements[i]?.map (·.inMainLoop) := by
  rw [← List.getElem?_map, ← List.getElem?_map]
  exact congrArg (·[i]?) (places_sort p scope o)

/-- A side in the scope is arranged. -/
theorem side_sort {scope : Scope} {inside : Bool} (h : inside ∈ scope.sides) (p : Program)
    (o : Order) :
    side inside (p.sort scope o).statements = o.arrange (side inside p.statements) := by
  cases scope with
  | inside =>
      obtain rfl : inside = true := by simpa [Scope.sides] using h
      exact side_sortSide_self o true p.statements
  | outside =>
      obtain rfl : inside = false := by simpa [Scope.sides] using h
      exact side_sortSide_self o false p.statements
  | all =>
      show side inside (sortSide o false (sortSide o true p.statements)) = _
      cases inside with
      | true => rw [side_sortSide_of_ne o (by simp), side_sortSide_self]
      | false => rw [side_sortSide_self, side_sortSide_of_ne o (by simp)]

/-- A side that is not in the scope is left alone. -/
theorem side_sort_of_not_mem {scope : Scope} {inside : Bool} (h : inside ∉ scope.sides)
    (p : Program) (o : Order) :
    side inside (p.sort scope o).statements = side inside p.statements := by
  cases scope with
  | inside => exact side_sortSide_of_ne o (by simpa [Scope.sides] using h) p.statements
  | outside => exact side_sortSide_of_ne o (by simpa [Scope.sides] using h) p.statements
  | all => cases inside <;> simp [Scope.sides] at h

/-- A statement on a side that is not in the scope keeps its place. -/
theorem getElem?_sort_of_not_mem {scope : Scope} {s : Statement} (h : s.inMainLoop ∉ scope.sides)
    {p : Program} {i : Nat} (hs : p.statements[i]? = some s) (o : Order) :
    (p.sort scope o).statements[i]? = some s :=
  getElem?_of_side_eq (places_sort p scope o) (side_sort_of_not_mem h p o) hs

/-- The sides do not get into each other's way, so the second one to be sorted can as well be
the first. -/
theorem sort_outside_inside (p : Program) (o : Order) :
    ((p.sort .outside o).sort .inside o).statements =
      ((p.sort .inside o).sort .outside o).statements := by
  refine eq_of_side_eq ?_ fun inside => ?_
  · rw [places_sort, places_sort, places_sort, places_sort]
  · cases inside with
    | true =>
        rw [side_sort (by simp [Scope.sides]), side_sort_of_not_mem (by simp [Scope.sides]),
          side_sort_of_not_mem (by simp [Scope.sides]), side_sort (by simp [Scope.sides])]
    | false =>
        rw [side_sort_of_not_mem (by simp [Scope.sides]), side_sort (by simp [Scope.sides]),
          side_sort (by simp [Scope.sides]), side_sort_of_not_mem (by simp [Scope.sides])]

/-- A sort that is undone by a later one on each list need not have been made. -/
theorem statements_sort_sort {o o' : Order}
    (h : ∀ ss, o'.arrange (o.arrange ss) = o'.arrange ss) (p : Program) (scope : Scope) :
    ((p.sort scope o).sort scope o').statements = (p.sort scope o').statements := by
  refine eq_of_side_eq ?_ fun inside => ?_
  · rw [places_sort, places_sort, places_sort]
  · by_cases hside : inside ∈ scope.sides
    · rw [side_sort hside, side_sort hside, side_sort hside, h]
    · rw [side_sort_of_not_mem hside, side_sort_of_not_mem hside, side_sort_of_not_mem hside]

theorem statements_removeDisabled (p : Program) :
    p.removeDisabled.statements = p.statements.filter (·.enabled) := by
  rw [removeDisabled]
  split
  · next hall => exact (List.filter_eq_self.2 (List.all_eq_true.1 hall)).symm
  · rfl

/-- For every program and every order:

* sorting permutes the statements, whatever the scope, and at every place there is a
  statement of the side that was there before;
* the statements outside the main loop keep their places when those inside are sorted, and
  those inside when those outside are;
* sorting all is sorting one side and then the other, in whichever turn;
* removing the disabled statements leaves the enabled ones, in order; it has no scope.

The side a statement is on is not the switch stored with it: declarations, whose switch may
be on, are outside. -/
theorem sort_keeps_sides (p : Program) :
    (∀ scope o, (p.sort scope o).statements.Perm p.statements ∧
      ∀ i : Nat, (p.sort scope o).statements[i]?.map (·.inMainLoop) =
        p.statements[i]?.map (·.inMainLoop)) ∧
    (∀ (o : Order) (i : Nat) s, p.statements[i]? = some s →
      (s.inMainLoop = false → (p.sort .inside o).statements[i]? = some s) ∧
      (s.inMainLoop = true → (p.sort .outside o).statements[i]? = some s)) ∧
    (∀ o, (p.sort .all o).statements = ((p.sort .inside o).sort .outside o).statements ∧
      (p.sort .all o).statements = ((p.sort .outside o).sort .inside o).statements) ∧
    p.removeDisabled.statements = p.statements.filter (·.enabled) := by
  refine ⟨fun scope o => ⟨sort_perm p scope o, getElem?_sort_inMainLoop p scope o⟩,
    fun o i s hs => ⟨fun hside => ?_, fun hside => ?_⟩, fun o => ⟨rfl, ?_⟩,
    statements_removeDisabled p⟩
  · exact getElem?_sort_of_not_mem (by simp [Scope.sides, hside]) hs o
  · exact getElem?_sort_of_not_mem (by simp [Scope.sides, hside]) hs o
  · exact (sort_outside_inside p o).symm

/-- A call inside the main loop. -/
def walk : Statement := .ofBody ⟨"walk"⟩ (.call ⟨⟨"Walk", "", none⟩, []⟩) true

/-- A declaration that was stored as if it were inside the main loop. -/
def strayDeclaration : Statement where
  id := ⟨"rest"⟩
  enabled := true
  wantsLoop := true
  body := .control (.declaration ⟨"rest", "", none⟩)
  notes := none

/-- The declaration between calls inside the main loop that are out of order. -/
def interleaved : Program := .ofStatements
  [walk, strayDeclaration, .ofBody ⟨"attack"⟩ (.call ⟨⟨"Attack", "", none⟩, []⟩) true]

/-- The declaration keeps its place when the calls around it are sorted, and they keep theirs
when the other side is. -/
theorem sort_keeps_sides_interleaved :
    (interleaved.statements[1]? = some strayDeclaration ∧
      strayDeclaration.wantsLoop = true ∧ strayDeclaration.inMainLoop = false ∧
      (interleaved.sort .inside .ascending).statements[1]? = some strayDeclaration) ∧
    (interleaved.statements[0]? = some walk ∧ walk.inMainLoop = true ∧
      (interleaved.sort .outside .descending).statements[0]? = some walk) := by
  obtain ⟨-, hplaces, -, -⟩ := sort_keeps_sides interleaved
  exact ⟨⟨rfl, rfl, rfl, (hplaces .ascending 1 strayDeclaration rfl).1 rfl⟩,
    rfl, rfl, (hplaces .descending 0 walk rfl).2 rfl⟩

end Program

end ScriptComposer
