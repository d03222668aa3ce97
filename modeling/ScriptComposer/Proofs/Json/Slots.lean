import ScriptComposer.Proofs.Json.Lawful
import ScriptComposer.Proofs.Json.Tree

/-!
# ScriptComposer.Proofs.Json.Slots

What a record is read from, apart from the order of its members.

A field looks at the members of its name only, and takes the value of one such member, or its
default if there is none; what no field looks at has to be passed over.  So every fact about
the members of an object is proved field by field, the members that a field does not look at
being left to the fields behind it.

* `ofMembers_cons` — the first field and the others take their members apart;
* `ofMembers_perm` — the order of the members does not matter;
* `isWhole_of_ofMembers` — a record is only read from whole members.
-/

namespace ScriptComposer.Json

/-! ## names -/

/-- The literal says the key. -/
def Literal.names (l : Literal) (key : String) : Bool :=
  match readLiteral l with
  | .ok s => s == key
  | .error _ => false

/-- A literal says the key that it is read as. -/
theorem Literal.names_iff {l : Literal} {key : String} :
    l.names key = true ↔ readLiteral l = .ok key := by
  rw [Literal.names]
  cases readLiteral l <;> simp

/-- A literal says one key. -/
theorem Literal.names_eq_false {l : Literal} {key other : String} (h : l.names key = true)
    (hne : key ≠ other) : l.names other = false := by
  refine Bool.eq_false_iff.2 fun hother => hne ?_
  exact Except.ok.inj ((Literal.names_iff.1 h).symm.trans (Literal.names_iff.1 hother))

/-- Members of one name are none of another. -/
theorem filter_names_filter {key other : String} (hne : key ≠ other)
    (members : List (Literal × Node)) :
    (members.filter fun m => !m.1.names other).filter (fun m => m.1.names key) =
      members.filter fun m => m.1.names key := by
  rw [List.filter_filter]
  refine List.filter_congr fun m _ => ?_
  cases h : m.1.names key with
  | false => rfl
  | true => simp [Literal.names_eq_false h hne]

/-- A member of a name is none of the others. -/
theorem filter_not_named_middle {key : String} {name : Literal} (hname : name.names key = true)
    (before after : List (Literal × Node)) (v : Node) :
    ((before ++ (name, v) :: after).filter fun m => !m.1.names key) =
      (before ++ after).filter fun m => !m.1.names key := by
  simp [hname]

/-- Strokes that do not end with a closing quote say nothing. -/
theorem closing_of_readStrokes {closing : Closing} {strokes : List Stroke} {cs : List Char}
    (h : readStrokes closing strokes = .ok cs) : closing = .closed := by
  fun_induction readStrokes closing strokes generalizing cs with
  | case1 hclosing => cases closing <;> first | rfl | cases hclosing
  | case2 | case5 | case7 | case8 | case9 => cases h
  | case3 _ _ ih | case4 _ _ ih =>
      obtain ⟨cs', hcs', -⟩ := map_eq_ok.1 h
      exact ih hcs'
  | case6 _ _ _ _ _ _ ih =>
      obtain ⟨cs', hcs', -⟩ := map_eq_ok.1 h
      exact ih hcs'
  | case10 _ _ _ _ ih =>
      obtain ⟨cs', hcs', -⟩ := map_eq_ok.1 h
      exact ih hcs'

/-- Only a literal that is closed says something. -/
theorem closing_of_readLiteral {l : Literal} {s : String} (h : readLiteral l = .ok s) :
    l.closing = .closed := by
  obtain ⟨cs, hstrokes, -⟩ := map_eq_ok.1 (mapError_eq_ok.1 h)
  exact closing_of_readStrokes hstrokes

/-! ## fields -/

namespace Field

variable {α : Type} (field : Field α)

/-- From the members of its name the field takes a value: that of the only one, or its default. -/
def Takes : List (Literal × Node) → α → Prop
  | [], a => field.absent = some a
  | [m], a => field.read m.2 = .ok a
  | _ :: _ :: _, _ => False

/-- The members of its name lead the field from one slot to another. -/
def Fills : Option α → List (Literal × Node) → Option α → Prop
  | slot, [], slot' => slot = slot'
  | slot, m :: members, slot' =>
      slot = none ∧ ∃ a, field.read m.2 = .ok a ∧ Fills (some a) members slot'

/-- Taking a value is filling an empty slot and reading it off at the end. -/
theorem takes_iff {members : List (Literal × Node)} {a : α} :
    field.Takes members a ↔
      ∃ slot, field.Fills none members slot ∧ Layout.fill field slot = .ok a := by
  match members with
  | [] =>
      simp only [Takes, Fills, exists_eq_left', Layout.fill]
      cases field.absent <;> simp
  | [m] =>
      simp [Takes, Fills, Layout.fill]
  | m :: m' :: members => simp [Takes, Fills]

variable {field}

/-- The order of the members does not matter to a field. -/
theorem takes_perm {members members' : List (Literal × Node)} (h : members.Perm members')
    {a : α} : field.Takes members a ↔ field.Takes members' a := by
  match members, members', h.length_eq with
  | [], [], _ => rfl
  | [m], [m'], _ =>
      obtain rfl := List.cons.inj (List.perm_singleton.1 h) |>.1
      rfl
  | _ :: _ :: _, _ :: _ :: _, _ => rfl

/-- Without a member of its name a field takes its default. -/
theorem takes_of_not_named {key : String} {members : List (Literal × Node)}
    (h : ∀ m ∈ members, m.1.names key = false) {a : α} :
    field.Takes (members.filter fun m => m.1.names key) a ↔ field.absent = some a := by
  rw [List.filter_eq_nil_iff.2 (by simpa using h)]
  rfl

/-- A member of its name is what a field takes, if it is the only one. -/
theorem takes_middle {key : String} {before after : List (Literal × Node)} {name : Literal}
    {v : Node} (hname : name.names key = true) {a : α} :
    field.Takes ((before ++ (name, v) :: after).filter fun m => m.1.names key) a ↔
      (∀ m ∈ before ++ after, m.1.names key = false) ∧ field.read v = .ok a := by
  have hfilter : ((name, v) :: (before ++ after)).filter (fun m => m.1.names key) =
      (name, v) :: (before ++ after).filter fun m => m.1.names key :=
    List.filter_cons_of_pos hname
  rw [takes_perm (List.perm_middle.filter _), hfilter]
  have hnone : (before ++ after).filter (fun m => m.1.names key) = [] ↔
      ∀ m ∈ before ++ after, m.1.names key = false := by
    simp only [List.filter_eq_nil_iff, Bool.not_eq_true]
  rw [← hnone]
  cases (before ++ after).filter fun m => m.1.names key with
  | nil => exact (and_iff_right rfl).symm
  | cons m own => exact ⟨fun htakes => htakes.elim, fun h => absurd h.1 (by simp)⟩

end Field

/-! ## layouts -/

namespace Layout

variable {α σ τ : Type} {field : Field α} {rest : Layout σ τ}

/-- Members are put into their slots one by one, each under the key that its name says. -/
theorem insertAll_eq_ok {l : Layout σ τ} {name : Literal} {v : Node}
    {members : List (Literal × Node)} {slots slots' : σ} :
    l.insertAll slots ((name, v) :: members) = .ok slots' ↔
      ∃ key, readLiteral name = .ok key ∧
        ∃ slots₁, l.insert key v slots = .ok slots₁ ∧ l.insertAll slots₁ members = .ok slots' := by
  simp only [insertAll, bind_eq_ok]

/-- The first field fills its slot from the members of its name, the others theirs from all
others. -/
theorem insertAll_cons_eq_ok {members : List (Literal × Node)} {slot slot' : Option α}
    {slots slots' : σ} :
    (Layout.cons field rest).insertAll (slot, slots) members = .ok (slot', slots') ↔
      field.Fills slot (members.filter fun m => m.1.names field.key) slot' ∧
        rest.insertAll slots (members.filter fun m => !m.1.names field.key) = .ok slots' := by
  induction members generalizing slot slots with
  | nil => simp [insertAll, Field.Fills]
  | cons m members ih =>
      obtain ⟨name, v⟩ := m
      rw [insertAll_eq_ok]
      cases hnames : name.names field.key with
      | true =>
          have hkey := Literal.names_iff.1 hnames
          simp only [hkey, List.filter_cons, hnames, if_true, Bool.not_true, Bool.false_eq_true,
            if_false, Field.Fills, Except.ok.injEq, exists_eq_left', insert]
          cases slot with
          | some a => simp
          | none =>
              simp only [bind_eq_ok, true_and, pure_eq_ok, Except.ok.injEq]
              constructor
              · rintro ⟨_, ⟨a, hread, rfl⟩, hrest⟩
                obtain ⟨hfills, hrest⟩ := ih.1 hrest
                exact ⟨⟨a, hread, hfills⟩, hrest⟩
              · rintro ⟨⟨a, hread, hfills⟩, hrest⟩
                exact ⟨_, ⟨a, hread, rfl⟩, ih.2 ⟨hfills, hrest⟩⟩
      | false =>
          have hkey : ∀ key, readLiteral name = .ok key → field.key ≠ key := by
            rintro key hname rfl
            rw [Literal.names_iff.2 hname] at hnames
            cases hnames
          simp only [List.filter_cons, hnames, Bool.not_false, Bool.false_eq_true, if_false,
            if_true, insertAll_eq_ok]
          constructor
          · rintro ⟨key, hname, slots₁, hinsert, hrest⟩
            simp only [insert, if_neg (hkey key hname)] at hinsert
            obtain ⟨slots₂, hothers, hslots⟩ := bind_eq_ok.1 hinsert
            obtain rfl := Except.ok.inj hslots
            obtain ⟨hfills, hrest⟩ := ih.1 hrest
            exact ⟨hfills, key, hname, slots₂, hothers, hrest⟩
          · rintro ⟨hfills, key, hname, slots₂, hinsert, hrest⟩
            refine ⟨key, hname, (slot, slots₂), ?_, ih.2 ⟨hfills, hrest⟩⟩
            simp only [insert, if_neg (hkey key hname), hinsert]
            rfl

/-- A record is read when all members are in their slots and every slot has its value. -/
theorem ofMembers_eq_ok {l : Layout σ τ} {members : List (Literal × Node)} {ending : Ending}
    {b : τ} :
    l.ofMembers members ending = .ok b ↔
      ∃ slots, l.insertAll l.noSlots members = .ok slots ∧ ending = .closed ∧
        l.finish slots = .ok b := by
  have hclose : ending.closeObject = .ok () ↔ ending = .closed := by
    cases ending <;> simp [Ending.closeObject, stop]
  rw [ofMembers, bind_eq_ok]
  refine exists_congr fun slots => and_congr_right fun _ => ?_
  rw [← hclose]
  exact seq_eq_ok

/-- The first field takes the members of its name, and the others are read from all others. -/
theorem ofMembers_cons {members : List (Literal × Node)} {a : α} {b : τ} :
    (Layout.cons field rest).ofMembers members .closed = .ok (a, b) ↔
      field.Takes (members.filter fun m => m.1.names field.key) a ∧
        rest.ofMembers (members.filter fun m => !m.1.names field.key) .closed = .ok b := by
  have hfinish : ∀ slot slots, (Layout.cons field rest).finish (slot, slots) = .ok (a, b) ↔
      fill field slot = .ok a ∧ rest.finish slots = .ok b := by
    intro slot slots
    simp only [finish, bind_eq_ok, pure_eq_ok, Except.ok.injEq, Prod.mk.injEq]
    constructor
    · rintro ⟨_, hfill, _, hrest, rfl, rfl⟩
      exact ⟨hfill, hrest⟩
    · rintro ⟨hfill, hrest⟩
      exact ⟨a, hfill, b, hrest, rfl, rfl⟩
  simp only [ofMembers_eq_ok, Field.takes_iff, Prod.exists, hfinish, insertAll_cons_eq_ok, noSlots]
  constructor
  · rintro ⟨slot, slots, ⟨hfills, hrest⟩, -, hfill, hfinish⟩
    exact ⟨⟨slot, hfills, hfill⟩, slots, hrest, trivial, hfinish⟩
  · rintro ⟨⟨slot, hfills, hfill⟩, slots, hrest, -, hfinish⟩
    exact ⟨slot, slots, ⟨hfills, hrest⟩, trivial, hfill, hfinish⟩

/-- What no field looks at has a name and can be passed over. -/
theorem ofMembers_nil {members : List (Literal × Node)} :
    Layout.nil.ofMembers members .closed = .ok () ↔
      ∀ m ∈ members, (∃ key, readLiteral m.1 = .ok key) ∧ m.2.IsWhole := by
  have hinsert : Layout.nil.ofMembers members .closed = .ok () ↔
      Layout.nil.insertAll () members = .ok () := by
    rw [ofMembers_eq_ok]
    constructor
    · rintro ⟨slots, hslots, -, -⟩
      exact hslots
    · exact fun hslots => ⟨(), hslots, rfl, rfl⟩
  rw [hinsert]
  clear hinsert
  induction members with
  | nil => simp [insertAll]
  | cons m members ih =>
      obtain ⟨name, v⟩ := m
      rw [insertAll_eq_ok, List.forall_mem_cons, ← Node.skip_eq_ok]
      constructor
      · rintro ⟨key, hname, slots, hskip, hrest⟩
        exact ⟨⟨⟨key, hname⟩, hskip⟩, ih.1 hrest⟩
      · rintro ⟨⟨⟨key, hname⟩, hskip⟩, hrest⟩
        exact ⟨key, hname, (), hskip, ih.2 hrest⟩

/-- The order of the members does not matter. -/
theorem ofMembers_perm (l : Layout σ τ) {members members' : List (Literal × Node)}
    (h : members.Perm members') (b : τ) :
    l.ofMembers members .closed = .ok b ↔ l.ofMembers members' .closed = .ok b := by
  induction l generalizing members members' with
  | nil =>
      rw [ofMembers_nil, ofMembers_nil]
      exact forall_congr' fun m => by rw [h.mem_iff]
  | cons field rest ih =>
      obtain ⟨a, b⟩ := b
      rw [ofMembers_cons, ofMembers_cons, Field.takes_perm (h.filter _), ih (h.filter _)]

/-- Members without a field only have to be whole. -/
theorem ofMembers_unknown (l : Layout σ τ) {name : Literal} {key : String} {v : Node}
    (hname : readLiteral name = .ok key) (hkey : key ∉ l.keys) (hv : v.IsWhole)
    (members : List (Literal × Node)) (b : τ) :
    l.ofMembers ((name, v) :: members) .closed = .ok b ↔ l.ofMembers members .closed = .ok b := by
  induction l generalizing members with
  | nil =>
      rw [ofMembers_nil, ofMembers_nil, List.forall_mem_cons]
      exact and_iff_right ⟨⟨key, hname⟩, hv⟩
  | cons field rest ih =>
      obtain ⟨a, b⟩ := b
      obtain ⟨hne, hkey⟩ := not_or.1 (mt List.mem_cons.2 hkey)
      have hnames : name.names field.key = false :=
        Literal.names_eq_false (Literal.names_iff.2 hname) hne
      rw [ofMembers_cons, ofMembers_cons, List.filter_cons_of_neg (by simp [hnames]),
        List.filter_cons_of_pos (by simp [hnames]), ih hkey]

/-! ### one field and the others -/

def field? (key : String) : {σ τ : Type} → Layout σ τ → Option (Σ α, Field α)
  | _, _, .nil => none
  | _, _, .cons field rest => if field.key = key then some ⟨_, field⟩ else rest.field? key

/-- A record is what one of its fields takes from the members of its name, and what the other
fields make of all others. -/
theorem exists_takes_iff {l : Layout σ τ} {key : String} (h : l.field? key = some ⟨α, field⟩)
    (b : τ) :
    ∃ (a : α) (others : List (Literal × Node) → Prop), ∀ members,
      l.ofMembers members .closed = .ok b ↔
        field.Takes (members.filter fun m => m.1.names key) a ∧
          others (members.filter fun m => !m.1.names key) := by
  induction l with
  | nil => cases h
  | cons first rest ih =>
      obtain ⟨b₁, b⟩ := b
      rw [field?] at h
      split at h
      · next hkey =>
          obtain ⟨rfl, ⟨⟩⟩ := h
          refine ⟨b₁, fun members => rest.ofMembers members .closed = .ok b, fun members => ?_⟩
          rw [ofMembers_cons, hkey]
      · next hkey =>
          -- The first field and the one of the key look at different members, so it does not
          -- matter which of them are put aside first.
          obtain ⟨a, others, hothers⟩ := ih h b
          refine ⟨a, fun members => first.Takes (members.filter fun m => m.1.names first.key) b₁ ∧
            others (members.filter fun m => !m.1.names first.key), fun members => ?_⟩
          dsimp only
          rw [ofMembers_cons, hothers, filter_names_filter (Ne.symm hkey), filter_names_filter hkey,
            List.filter_comm]
          exact and_left_comm

/-- A record stays the same if one field takes the same and nothing else is changed. -/
theorem ofMembers_congr {l : Layout σ τ} {key : String} (h : l.field? key = some ⟨α, field⟩)
    {members members' : List (Literal × Node)}
    (hothers : (members.filter fun m => !m.1.names key) = members'.filter fun m => !m.1.names key)
    (htakes : ∀ a, field.Takes (members.filter fun m => m.1.names key) a ↔
      field.Takes (members'.filter fun m => m.1.names key) a) (b : τ) :
    l.ofMembers members .closed = .ok b ↔ l.ofMembers members' .closed = .ok b := by
  obtain ⟨a, others, hb⟩ := exists_takes_iff h b
  rw [hb, hb, hothers, htakes]

/-- A record is lost if one field that took something takes nothing any more. -/
theorem ofMembers_ne_ok {l : Layout σ τ} {key : String} (h : l.field? key = some ⟨α, field⟩)
    {members members' : List (Literal × Node)}
    (htakes : ∀ a a', field.Takes (members.filter fun m => m.1.names key) a →
      ¬field.Takes (members'.filter fun m => m.1.names key) a')
    {b : τ} (hb : l.ofMembers members .closed = .ok b) (b' : τ) :
    l.ofMembers members' .closed ≠ .ok b' := by
  intro hb'
  obtain ⟨a, _, ha⟩ := exists_takes_iff h b
  obtain ⟨a', _, ha'⟩ := exists_takes_iff h b'
  exact htakes a a' ((ha members).1 hb).1 ((ha' members').1 hb').1

end Layout

end ScriptComposer.Json
