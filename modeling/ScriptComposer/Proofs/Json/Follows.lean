import Mathlib.Data.List.Forall2
import ScriptComposer.Proofs.Json.Shape

/-!
# ScriptComposer.Proofs.Json.Follows

Formats that follow a shape.

A format follows a shape if the shape says rightly what is presentation: nodes that differ in it
are read alike, nothing is read from a spoiled node, and only whole values are read.  Formats are
put together as shapes are, and what is put together of parts that follow their shapes follows
the shape that is put together of these.

* `record_follows`, `list_follows`, `choice_follows` — formats follow the shapes that are put
  together as they are;
* `Follows.ofText` — a text is read by its content, and not at all if it is spoiled.
-/

namespace ScriptComposer.Json

/-! ## following a shape -/

/-- What is read does not depend on presentation, nothing is read from what is spoiled, and only
whole values are read. -/
structure Follows {α : Type} (read : Node → Reading α) (shape : Shape) : Prop where
  read_iff : ∀ {v v'}, Relaid shape v v' → ∀ a, read v = .ok a ↔ read v' = .ok a
  spoiled : ∀ {v v'}, Spoiled shape v v' → ∀ {a}, read v = .ok a → ∀ b, read v' ≠ .ok b
  isWhole : ∀ {v a}, read v = .ok a → v.IsWhole

section

variable {α β : Type} {read : Node → Reading α} {shape : Shape}

/-- A change of presentation does not change what is read. -/
theorem Follows.read_iff_of_sameContent (h : Follows read shape) {v v' : Node}
    (hv : SameContent shape v v') (a : α) : read v = .ok a ↔ read v' = .ok a := by
  induction hv with
  | rel v v' hv => exact h.read_iff hv a
  | refl v => rfl
  | symm v v' _ ih => exact ih.symm
  | trans v v' v'' _ _ ih ih' => exact ih.trans ih'

/-- Without records there is nothing to present in another way. -/
theorem follows_plain (h : ∀ v a, read v = .ok a → v.IsWhole) : Follows read .plain where
  read_iff := nofun
  spoiled := nofun
  isWhole := h _ _

/-- What is made of the value that is read does not matter. -/
theorem Follows.map (h : Follows read shape) (f : α → β) :
    Follows (fun v => f <$> read v) shape where
  read_iff hv := fmap_congr (h.read_iff hv) f
  spoiled hv := fmap_ne_ok (h.spoiled hv)
  isWhole hb := by
    obtain ⟨a, ha, -⟩ := fmap_eq_ok.1 hb
    exact h.isWhole ha

end

/-! ## plain values and lists -/

/-- A value of the wrong kind is never read. -/
theorem refuse_ne_ok {α : Type} (v : Node) (wanted : Wanted) (a : α) : v.refuse wanted ≠ .ok a := by
  intro h
  obtain ⟨found, -, hthrow⟩ := bind_eq_ok.1 h
  cases hthrow

/-- A text is plain: no part of it is presentation. -/
theorem text_follows : Follows Format.text.read .plain := by
  refine follows_plain fun v s h => ?_
  match v with
  | .text l => exact closing_of_readLiteral h
  | .null | .boolean _ | .number _ | .array .. | .object .. | .broken _ =>
      exact absurd h (refuse_ne_ok _ _ _)

/-- So is a switch. -/
theorem boolean_follows : Follows Format.boolean.read .plain := by
  refine follows_plain fun v b h => ?_
  match v with
  | .boolean _ => trivial
  | .null | .text _ | .number _ | .array .. | .object .. | .broken _ =>
      exact absurd h (refuse_ne_ok _ _ _)

/-- So is what is kept as a text. -/
theorem wrapped_follows {α : Type} (make : String → α) (get : α → String) :
    Follows (Format.wrapped make get).read .plain :=
  text_follows.map make

/-- An array ends well only at its bracket. -/
theorem Ending.closeArray_eq_ok {ending : Ending} :
    ending.closeArray = .ok () ↔ ending = .closed := by
  cases ending <;> simp [Ending.closeArray, stop]

/-- Items that are read are whole. -/
theorem wholeItems_of_mapM {α : Type} {read : Node → Reading α}
    (h : ∀ v a, read v = .ok a → v.IsWhole) {items : List Node} {as : List α}
    (hitems : items.mapM read = .ok as) : WholeItems items := by
  induction items generalizing as with
  | nil => trivial
  | cons v items ih =>
      rw [List.mapM_cons] at hitems
      obtain ⟨a, ha, hrest⟩ := bind_eq_ok.1 hitems
      obtain ⟨as', has', -⟩ := bind_eq_ok.1 hrest
      exact ⟨h v a ha, ih has'⟩

/-- A list follows the shape of its items. -/
theorem list_follows {α : Type} {f : Format α} {item : Shape} (h : Follows f.read item) :
    Follows (Format.list f).read (.list item) where
  read_iff := by
    intro v v' hv as
    cases hv with
    | inItem hv =>
        simp only [Format.list, List.mapM_append, List.mapM_cons, bind_eq_ok, h.read_iff hv]
  spoiled := by
    intro v v' hv as has bs hbs
    cases hv with
    | inItem hv =>
        simp only [Format.list, List.mapM_append, List.mapM_cons, bind_eq_ok] at has hbs
        obtain ⟨-, ⟨-, -, -, ⟨a, ha, -⟩, -⟩, -⟩ := has
        obtain ⟨-, ⟨-, -, -, ⟨b, hb, -⟩, -⟩, -⟩ := hbs
        exact h.spoiled hv ha b hb
  isWhole := by
    intro v as has
    cases v with
    | array items ending =>
        obtain ⟨as', hitems, hrest⟩ := bind_eq_ok.1 has
        exact ⟨wholeItems_of_mapM (fun _ _ => h.isWhole) hitems,
          Ending.closeArray_eq_ok.1 (seq_eq_ok.1 hrest).1⟩
    | null | boolean | text | number | object | broken =>
        exact absurd has (refuse_ne_ok _ _ _)

/-! ## records -/

/-- A field follows its shape: its default says what the shape says, and without one in its shape
it has none. -/
structure Field.Follows {α : Type} (field : Field α) (shape : FieldShape Shape) : Prop where
  key : field.key = shape.key
  read : Json.Follows field.read shape.shape
  required : shape.default? = none → field.absent = none
  default : ∀ d, shape.default? = some d →
    ∃ a, field.absent = some a ∧ ∀ v, d.IsSaidBy v → field.read v = .ok a

section

variable {α : Type} {f : Format α} {shape : Shape}

/-- A required field cannot be left out. -/
theorem required_follows (key : String) (h : Follows f.read shape) :
    (Field.required key f).Follows ⟨key, none, shape⟩ where
  key := rfl
  read := h
  required _ := rfl
  default := nofun

/-- A field with a default may be left out, or say the default. -/
theorem withDefault_follows (key : String) (h : Follows f.read shape) {a : α} {d : Default}
    (ha : ∀ v, d.IsSaidBy v → f.read v = .ok a) :
    (Field.withDefault key f a).Follows ⟨key, some d, shape⟩ where
  key := rfl
  read := h
  required := nofun
  default := by
    rintro _ ⟨⟩
    exact ⟨a, rfl, ha⟩

/-- An optional field may be left out, or say that it holds nothing. -/
theorem optional_follows (key : String) (h : ∀ v a, f.read v = .ok a → v.IsWhole) :
    (Field.optional key f).Follows ⟨key, some .nothing, .plain⟩ where
  key := rfl
  read := by
    refine follows_plain fun v a ha => ?_
    match v with
    | .null => trivial
    | .boolean _ | .text _ | .number _ | .array .. | .object .. | .broken _ =>
        obtain ⟨b, hb, -⟩ := fmap_eq_ok.1 ha
        exact h _ b hb
  required := nofun
  default := by
    rintro _ ⟨⟩
    refine ⟨none, rfl, ?_⟩
    rintro _ ⟨⟩
    rfl

end

namespace Layout

/-- The fields follow the shapes one by one. -/
def Follows : {σ τ : Type} → Layout σ τ → List (FieldShape Shape) → Prop
  | _, _, .nil, fields => fields = []
  | _, _, .cons _ _, [] => False
  | _, _, .cons field rest, shape :: fields => field.Follows shape ∧ rest.Follows fields

variable {σ τ : Type} {l : Layout σ τ} {fields : List (FieldShape Shape)}

theorem Follows.keys_eq (h : l.Follows fields) : l.keys = fields.map (·.key) := by
  induction l generalizing fields with
  | nil => rw [h]; rfl
  | cons field rest ih =>
      match fields, h with
      | shape :: fields, h => rw [keys, h.1.key, ih h.2, List.map_cons]

/-- The field of a key follows the shape of that key. -/
theorem Follows.exists_field? (h : l.Follows fields) (hkeys : (fields.map (·.key)).Nodup)
    {shape : FieldShape Shape} (hshape : shape ∈ fields) :
    ∃ α, ∃ field : Field α, l.field? shape.key = some ⟨α, field⟩ ∧ field.Follows shape := by
  induction l generalizing fields with
  | nil =>
      rw [h] at hshape
      cases hshape
  | @cons α _ _ field rest ih =>
      match fields, h with
      | first :: fields, ⟨hfield, hrest⟩ =>
          obtain ⟨hfirst, hkeys⟩ := List.nodup_cons.1 hkeys
          rcases List.mem_cons.1 hshape with rfl | hshape
          · exact ⟨α, field, if_pos hfield.key, hfield⟩
          · obtain ⟨β, other, hother, hfollows⟩ := ih hrest hkeys hshape
            have hne : ¬field.key = shape.key := by
              rw [hfield.key]
              exact fun e => hfirst (List.mem_map.2 ⟨shape, hshape, e.symm⟩)
            exact ⟨β, other, (if_neg hne).trans hother, hfollows⟩

/-! ### from an object -/

/-- A record is only read from whole members. -/
theorem Follows.wholeMembers (h : l.Follows fields) {members : List (Literal × Node)} {b : τ}
    (hb : l.ofMembers members .closed = .ok b) : WholeMembers members := by
  rw [wholeMembers_iff]
  induction l generalizing fields members with
  | nil =>
      intro m hm
      obtain ⟨⟨key, hname⟩, hwhole⟩ := ofMembers_nil.1 hb m hm
      exact ⟨closing_of_readLiteral hname, hwhole⟩
  | cons field rest ih =>
      match fields, h with
      | shape :: fields, ⟨hfield, hrest⟩ =>
          obtain ⟨a, b⟩ := b
          obtain ⟨htakes, hothers⟩ := ofMembers_cons.1 hb
          intro m hm
          cases hnames : m.1.names field.key with
          | false => exact ih hrest hothers m (List.mem_filter.2 ⟨hm, by simp [hnames]⟩)
          | true =>
              obtain ⟨before, after, rfl⟩ := List.append_of_mem hm
              exact ⟨closing_of_readLiteral (Literal.names_iff.1 hnames),
                hfield.read.isWhole ((Field.takes_middle hnames).1 htakes).2⟩

/-- A member that no field looks at changes nothing. -/
theorem Follows.ofMembers_insert (h : l.Follows fields) {before after : List (Literal × Node)}
    {name : Literal} {key : String} {v : Node} (hname : readLiteral name = .ok key)
    (hkey : ∀ shape ∈ fields, shape.key ≠ key) (hv : v.IsWhole) (b : τ) :
    l.ofMembers (before ++ after) .closed = .ok b ↔
      l.ofMembers (before ++ (name, v) :: after) .closed = .ok b := by
  have hunknown : key ∉ l.keys := by
    rw [h.keys_eq]
    rintro hmem
    obtain ⟨shape, hshape, he⟩ := List.mem_map.1 hmem
    exact hkey shape hshape he
  rw [ofMembers_perm l List.perm_middle]
  exact (l.ofMembers_unknown hname hunknown hv (before ++ after) b).symm

section

variable (h : l.Follows fields) (hkeys : (fields.map (·.key)).Nodup) {shape : FieldShape Shape}
  (hshape : shape ∈ fields) {before after : List (Literal × Node)} {name : Literal}
  (hname : name.names shape.key = true) {v v' : Node}

include h hkeys hshape hname

/-- A default may be left out or written out. -/
theorem Follows.ofMembers_writeOut {d : Default} (hd : shape.default? = some d)
    (habsent : ∀ m ∈ before ++ after, m.1.names shape.key = false) (hv : d.IsSaidBy v) (b : τ) :
    l.ofMembers (before ++ after) .closed = .ok b ↔
      l.ofMembers (before ++ (name, v) :: after) .closed = .ok b := by
  obtain ⟨α, field, hfield, hfollows⟩ := h.exists_field? hkeys hshape
  obtain ⟨a₀, hdefault, hread⟩ := hfollows.default d hd
  refine ofMembers_congr hfield (filter_not_named_middle hname before after v).symm (fun a => ?_) b
  rw [Field.takes_of_not_named habsent, Field.takes_middle hname, and_iff_right habsent, hdefault,
    hread v hv, Option.some.injEq, Except.ok.injEq]

/-- The value of a field may be presented in another way. -/
theorem Follows.ofMembers_inMember (hv : Relaid shape.shape v v') (b : τ) :
    l.ofMembers (before ++ (name, v) :: after) .closed = .ok b ↔
      l.ofMembers (before ++ (name, v') :: after) .closed = .ok b := by
  obtain ⟨α, field, hfield, hfollows⟩ := h.exists_field? hkeys hshape
  refine ofMembers_congr hfield ?_ (fun a => ?_) b
  · rw [filter_not_named_middle hname, filter_not_named_middle hname]
  · rw [Field.takes_middle hname, Field.takes_middle hname, hfollows.read.read_iff hv a]

/-- A field without a default has to be given. -/
theorem Follows.ofMembers_delete (hrequired : shape.default? = none) {b : τ}
    (hb : l.ofMembers (before ++ (name, v) :: after) .closed = .ok b) (b' : τ) :
    l.ofMembers (before ++ after) .closed ≠ .ok b' := by
  obtain ⟨α, field, hfield, hfollows⟩ := h.exists_field? hkeys hshape
  refine ofMembers_ne_ok hfield (fun a a' htakes => ?_) hb b'
  rw [Field.takes_of_not_named ((Field.takes_middle hname).1 htakes).1,
    hfollows.required hrequired]
  simp

/-- A field cannot be given twice. -/
theorem Follows.ofMembers_double (hgiven : ∃ m ∈ before ++ after, m.1.names shape.key = true)
    {b : τ} (hb : l.ofMembers (before ++ after) .closed = .ok b) (b' : τ) :
    l.ofMembers (before ++ (name, v) :: after) .closed ≠ .ok b' := by
  obtain ⟨α, field, hfield, -⟩ := h.exists_field? hkeys hshape
  obtain ⟨m, hm, hnames⟩ := hgiven
  refine ofMembers_ne_ok hfield (fun a a' _ htakes => ?_) hb b'
  rw [((Field.takes_middle hname).1 htakes).1 m hm] at hnames
  cases hnames

/-- A record is not read if the value of a field is spoiled. -/
theorem Follows.ofMembers_spoiled (hv : Spoiled shape.shape v v') {b : τ}
    (hb : l.ofMembers (before ++ (name, v) :: after) .closed = .ok b) (b' : τ) :
    l.ofMembers (before ++ (name, v') :: after) .closed ≠ .ok b' := by
  obtain ⟨α, field, hfield, hfollows⟩ := h.exists_field? hkeys hshape
  refine ofMembers_ne_ok hfield (fun a a' htakes htakes' => ?_) hb b'
  exact hfollows.read.spoiled hv ((Field.takes_middle hname).1 htakes).2 a'
    ((Field.takes_middle hname).1 htakes').2

end

/-! ### from an array -/

/-- A record is only read from whole items. -/
theorem Follows.wholeItems (h : l.Follows fields) {name : String} {size index : Nat}
    {items : List Node} {ending : Ending} {b : τ}
    (hb : l.ofItems name size ending index items = .ok b) :
    WholeItems items ∧ ending = .closed := by
  induction l generalizing fields items index with
  | nil =>
      simp only [ofItems] at hb
      cases items with
      | nil => cases ending <;> first | exact ⟨trivial, rfl⟩ | cases hb
      | cons v items => cases hb
  | cons field rest ih =>
      match fields, h with
      | shape :: fields, ⟨hfield, hrest⟩ =>
          cases items with
          | nil =>
              simp only [ofItems] at hb
              exact ⟨trivial, Ending.closeArray_eq_ok.1 (seq_eq_ok.1 hb).1⟩
          | cons v items =>
              simp only [ofItems] at hb
              obtain ⟨a, hread, hothers⟩ := bind_eq_ok.1 hb
              obtain ⟨b, hothers, -⟩ := bind_eq_ok.1 hothers
              obtain ⟨hitems, hending⟩ := ih hrest hothers
              exact ⟨⟨hfield.read.isWhole hread, hitems⟩, hending⟩

/-- For an item that is missing there has to be a default. -/
theorem fillItem_eq_ok {α : Type} {field : Field α} {index size : Nat} {name : String} {a : α} :
    fillItem field index name size = .ok a ↔ field.absent = some a := by
  rw [fillItem]
  cases field.absent <;> simp

/-- Behind the last item every field takes its default. -/
theorem ofItems_nil {α : Type} {field : Field α} {rest : Layout σ τ} {name : String}
    {size index : Nat} {a : α} {b : τ} :
    (Layout.cons field rest).ofItems name size .closed index [] = .ok (a, b) ↔
      field.absent = some a ∧ rest.ofItems name size .closed (index + 1) [] = .ok b := by
  simp only [ofItems, Ending.closeArray, bind_eq_ok, fillItem_eq_ok, pure_eq_ok, Except.ok.injEq,
    Prod.mk.injEq]
  constructor
  · rintro ⟨-, -, _, habsent, _, hrest, rfl, rfl⟩
    exact ⟨habsent, hrest⟩
  · rintro ⟨habsent, hrest⟩
    exact ⟨(), trivial, a, habsent, b, hrest, rfl, rfl⟩

/-- An item is read by the field whose turn it is. -/
theorem ofItems_cons {α : Type} {field : Field α} {rest : Layout σ τ} {name : String}
    {size index : Nat} {v : Node} {items : List Node} {a : α} {b : τ} :
    (Layout.cons field rest).ofItems name size .closed index (v :: items) = .ok (a, b) ↔
      field.read v = .ok a ∧ rest.ofItems name size .closed (index + 1) items = .ok b := by
  simp only [ofItems, bind_eq_ok, pure_eq_ok, Except.ok.injEq, Prod.mk.injEq]
  constructor
  · rintro ⟨_, hread, _, hrest, rfl, rfl⟩
    exact ⟨hread, hrest⟩
  · rintro ⟨hread, hrest⟩
    exact ⟨a, hread, b, hrest, rfl, rfl⟩

/-- The values of the first fields make the same record as an array. -/
theorem Follows.ofItems_eq_ok (h : l.Follows fields) (hkeys : (fields.map (·.key)).Nodup)
    {members : List (Literal × Node)} (hmembers : GivesFirst fields members) (name : String)
    (size index : Nat) (b : τ) :
    l.ofItems name size .closed index (members.map (·.2)) = .ok b ↔
      l.ofMembers members .closed = .ok b := by
  induction l generalizing fields members index with
  | nil =>
      obtain rfl : fields = [] := h
      cases hmembers with
      | done => exact ⟨fun _ => rfl, fun _ => rfl⟩
  | cons field rest ih =>
      match fields, h with
      | shape :: fields, ⟨hfield, hrest⟩ =>
          obtain ⟨a, b⟩ := b
          obtain ⟨hfirst, hkeys⟩ := List.nodup_cons.1 hkeys
          rw [ofMembers_cons]
          cases hmembers with
          | done =>
              rw [List.map_nil, ofItems_nil]
              exact and_congr_right fun _ => ih hrest hkeys .done (index + 1) b
          | @next _ _ name v members hname hmembers =>
              have hnames : name.names field.key = true := hfield.key ▸ hname
              have hnone : ∀ m ∈ members, m.1.names field.key = false :=
                hfield.key ▸ hmembers.names_eq_false hfirst
              have hown : ((name, v) :: members).filter (fun m => m.1.names field.key) =
                  [(name, v)] := by
                rw [List.filter_cons_of_pos (by exact hnames),
                  List.filter_eq_nil_iff.2 (by simpa using hnone)]
              have hothers : ((name, v) :: members).filter (fun m => !m.1.names field.key) =
                  members := by
                rw [List.filter_cons_of_neg (by simp [hnames]),
                  List.filter_eq_self.2 (by simpa using hnone)]
              rw [List.map_cons, ofItems_cons, ih hrest hkeys hmembers (index + 1) b, hown, hothers]
              rfl

end Layout

/-- A record follows the shapes of its fields, if their keys differ. -/
theorem record_follows {α σ τ : Type} (name : String) {layout : Layout σ τ}
    {fields : List (FieldShape Shape)} (h : layout.Follows fields)
    (hkeys : (fields.map (·.key)).Nodup) (ofFields : τ → α) (toFields : α → τ) :
    Follows (Format.record name layout ofFields toFields).read (.record fields) where
  read_iff := by
    intro v v' hv
    cases hv with
    | permute hperm => exact fmap_congr (layout.ofMembers_perm hperm) ofFields
    | writeOut hfield hdefault habsent hname hv =>
        exact fmap_congr (h.ofMembers_writeOut hkeys hfield hname hdefault habsent hv) ofFields
    | insert hname hkey hv => exact fmap_congr (h.ofMembers_insert hname hkey hv) ofFields
    | toArray hmembers =>
        exact fmap_congr
          (fun b => (h.ofItems_eq_ok hkeys hmembers name layout.size 0 b).symm) ofFields
    | inMember hfield hname hv =>
        exact fmap_congr (h.ofMembers_inMember hkeys hfield hname hv) ofFields
  spoiled := by
    intro v v' hv a
    cases hv with
    | delete hfield hrequired hname =>
        exact fmap_ne_ok (h.ofMembers_delete hkeys hfield hname hrequired)
    | double hfield hgiven hname =>
        exact fmap_ne_ok (h.ofMembers_double hkeys hfield hname hgiven)
    | inMember hfield hname hv =>
        exact fmap_ne_ok (h.ofMembers_spoiled hkeys hfield hname hv)
  isWhole := by
    intro v a ha
    match v with
    | .object members ending =>
        obtain ⟨b, hb, -⟩ := fmap_eq_ok.1 ha
        obtain rfl : ending = .closed := by
          obtain ⟨_, _, hending, _⟩ := Layout.ofMembers_eq_ok.1 hb
          exact hending
        exact ⟨h.wholeMembers hb, rfl⟩
    | .array items ending =>
        obtain ⟨b, hb, -⟩ := fmap_eq_ok.1 ha
        exact h.wholeItems hb
    | .null | .boolean _ | .text _ | .number _ | .broken _ =>
        exact absurd ha (refuse_ne_ok _ _ _)

/-! ## choices -/

section

variable {α : Type}

/-- Content without a value is plain. -/
theorem nothing_follows (a : α) : Follows (Content.nothing a).ofValue .plain := by
  refine follows_plain fun v b h => ?_
  match v with
  | .null => trivial
  | .boolean _ | .text _ | .number _ | .array .. | .object .. | .broken _ =>
      exact absurd h (refuse_ne_ok _ _ _)

/-- The contents follow the shapes of the same tags. -/
def Alternatives.Follows (as : Alternatives α) (contents : List (String × Shape)) : Prop :=
  List.Forall₂ (fun a c => a.1 = c.1 ∧ Json.Follows a.2.ofValue c.2) as contents

/-- What has a tag follows the shape of that tag, and only tags of shapes are known. -/
theorem Alternatives.Follows.lookup {as : Alternatives α} {contents : List (String × Shape)}
    (h : as.Follows contents) (tag : String) :
    (as.lookup tag = none ∧ contents.lookup tag = none) ∨
      ∃ c content, as.lookup tag = some c ∧ contents.lookup tag = some content ∧
        Json.Follows c.ofValue content := by
  induction h with
  | nil => exact .inl ⟨rfl, rfl⟩
  | @cons a c as contents hac _ ih =>
      obtain ⟨known, value⟩ := a
      obtain ⟨known', content⟩ := c
      obtain ⟨rfl, hfollows⟩ := hac
      cases htag : tag == known with
      | true =>
          exact .inr ⟨value, content, by simp [List.lookup_cons, htag],
            by simp [List.lookup_cons, htag], hfollows⟩
      | false => simpa [List.lookup_cons, htag] using ih

/-- A choice is only made by whole values. -/
theorem Alternatives.isWhole_of_read {as : Alternatives α}
    (h : ∀ tag c, as.lookup tag = some c → ∀ v a, c.ofValue v = .ok a → v.IsWhole) {v : Node}
    {a : α} (ha : as.read v = .ok a) : v.IsWhole := by
  match v with
  | .text l =>
      obtain ⟨tag, hname, -⟩ := bind_eq_ok.1 ha
      exact closing_of_readLiteral hname
  | .object [] ending => cases ending <;> cases ha
  | .object ((name, v) :: rest) ending =>
      obtain ⟨tag, hname, ha⟩ := bind_eq_ok.1 ha
      obtain ⟨c, hcontent, ha⟩ := bind_eq_ok.1 ha
      obtain ⟨a', hread, ha⟩ := bind_eq_ok.1 ha
      have hclose := (seq_eq_ok.1 ha).1
      have htag : as.lookup tag = some c := by
        rw [content] at hcontent
        cases hlookup : as.lookup tag with
        | none => rw [hlookup] at hcontent; cases hcontent
        | some c' => rw [hlookup] at hcontent; exact congrArg some (Except.ok.inj hcontent)
      have hwhole := h tag c htag v a' hread
      cases rest with
      | cons m rest => cases hclose
      | nil =>
          have hending : ending = .closed := by cases ending <;> first | rfl | cases hclose
          exact ⟨⟨closing_of_readLiteral hname, hwhole, trivial⟩, hending⟩
  | .broken d => cases ha
  | .null | .boolean _ | .number _ | .array .. => cases ha

/-- What stands alone under a tag is read by the content of that tag. -/
theorem Alternatives.Follows.exists_read_single {as : Alternatives α}
    {contents : List (String × Shape)} (h : as.Follows contents) {content : Shape} {tag : String}
    (hcontent : contents.lookup tag = some content) {name : Literal}
    (hname : readLiteral name = .ok tag) :
    ∃ read, Json.Follows read content ∧ ∀ v, as.read (.object [(name, v)] .closed) = read v := by
  obtain ⟨-, hnone⟩ | ⟨c, content', hc, hcontent', hfollows⟩ := h.lookup tag
  · rw [hcontent] at hnone
    cases hnone
  · obtain rfl := Option.some.inj (hcontent.symm.trans hcontent')
    exact ⟨c.ofValue, hfollows, Alternatives.read_single hname hc⟩

/-- A choice follows the shapes of its contents. -/
theorem choice_follows {as : Alternatives α} {contents : List (String × Shape)}
    (h : as.Follows contents) : Follows as.read (.choice contents) where
  read_iff := by
    intro v v' hv a
    cases hv with
    | inContent hcontent hname hv =>
        obtain ⟨read, hfollows, hread⟩ := h.exists_read_single hcontent hname
        rw [hread, hread]
        exact hfollows.read_iff hv a
  spoiled := by
    intro v v' hv a ha a'
    cases hv with
    | inContent hcontent hname hv =>
        obtain ⟨read, hfollows, hread⟩ := h.exists_read_single hcontent hname
        rw [hread] at ha ⊢
        exact hfollows.spoiled hv ha a'
  isWhole := by
    refine Alternatives.isWhole_of_read fun tag c hc v a hread => ?_
    obtain ⟨hnone, -⟩ | ⟨c', content, hc', -, hfollows⟩ := h.lookup tag
    · rw [hc] at hnone
      cases hnone
    · obtain rfl := Option.some.inj (hc.symm.trans hc')
      exact hfollows.isWhole hread

end

/-! ## whole texts -/

/-- A text that is read by a format that follows a shape is a writing of a value.  Every writing
of a value that differs from it in presentation is read as the same, and no writing of a spoiled
value is read, however it is presented. -/
theorem Follows.ofText {α : Type} {f : Format α} {shape : Shape} (hf : Follows f.read shape)
    {s : String} {a : α} (h : f.ofText s = .ok a) :
    (∃ v : Node, v.IsWrittenIn s) ∧ ∀ v : Node, v.IsWrittenIn s →
      (∀ v' s', SameContent shape v v' → v'.IsWrittenIn s' → f.ofText s' = .ok a) ∧
      (∀ v₁ v₂ v' s', SameContent shape v v₁ → Spoiled shape v₁ v₂ → SameContent shape v₂ v' →
        v'.IsWrittenIn s' → ∃ e, f.ofText s' = .error e) := by
  refine ⟨Format.exists_isWrittenIn (fun _ _ => hf.isWhole) h, fun v hv => ?_⟩
  have hread : f.read v = .ok a := (f.ofText_of_isWrittenIn hv).symm.trans h
  constructor
  · intro v' s' hsame hwritten
    rw [f.ofText_of_isWrittenIn hwritten]
    exact (hf.read_iff_of_sameContent hsame a).1 hread
  · intro v₁ v₂ v' s' hsame hspoiled hsame' hwritten
    rw [f.ofText_of_isWrittenIn hwritten]
    cases hb : f.read v' with
    | error e => exact ⟨e, rfl⟩
    | ok b =>
        have hread₁ := (hf.read_iff_of_sameContent hsame a).1 hread
        have hread₂ := (hf.read_iff_of_sameContent hsame' b).2 hb
        exact absurd hread₂ (hf.spoiled hspoiled hread₁ b)

end ScriptComposer.Json
