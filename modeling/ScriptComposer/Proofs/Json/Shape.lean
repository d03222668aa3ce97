import Mathlib.Logic.Relation
import ScriptComposer.Proofs.Json.Slots

/-!
# ScriptComposer.Proofs.Json.Shape

What of a value is content and what is presentation.

The shape of a format says where its records are, which keys they have, and what a field that is
left out stands for.  By a shape nodes can differ in presentation only: `Relaid` says how one
record may be presented in another way, and `SameContent` that any number of records is.
`Spoiled` says how a record can lack what it needs or have a field twice.
-/

namespace ScriptComposer.Json

/-! ## shapes -/

/-- What a field holds when it is left out. -/
inductive Default where
  | nothing
  | boolean (b : Bool)
  | text (s : String)
  | noItems
  deriving DecidableEq, Repr

/-- The default written out. -/
inductive Default.IsSaidBy : Default → Node → Prop
  | nothing : IsSaidBy .nothing .null
  | boolean {b : Bool} : IsSaidBy (.boolean b) (.boolean b)
  | text {s : String} {l : Literal} (h : readLiteral l = .ok s) : IsSaidBy (.text s) (.text l)
  | noItems : IsSaidBy .noItems (.array [] .closed)

/-- A field of a record: its key, its default if it may be left out, and what it holds. -/
structure FieldShape (σ : Type) where
  key : String
  default? : Option Default
  shape : σ

/-- Where in a value there are records, and which.  The contents of a choice are told apart by
their tags. -/
inductive Shape where
  | plain
  | list (item : Shape)
  | record (fields : List (FieldShape Shape))
  | choice (contents : List (String × Shape))

/-! ## changes of presentation -/

/-- The members give the first fields, each once and in declared order. -/
inductive GivesFirst : List (FieldShape Shape) → List (Literal × Node) → Prop
  | done {fields : List (FieldShape Shape)} : GivesFirst fields []
  | next {field : FieldShape Shape} {fields : List (FieldShape Shape)} {name : Literal} {v : Node}
      {members : List (Literal × Node)} (hname : name.names field.key = true)
      (h : GivesFirst fields members) : GivesFirst (field :: fields) ((name, v) :: members)

/-- Members that are given in order have the names of the fields only. -/
theorem GivesFirst.names_eq_false {fields : List (FieldShape Shape)}
    {members : List (Literal × Node)} (h : GivesFirst fields members) {key : String}
    (hkey : key ∉ fields.map (·.key)) : ∀ m ∈ members, m.1.names key = false := by
  induction h with
  | done => simp
  | next hname _ ih =>
      obtain ⟨hne, hkey⟩ := not_or.1 (mt List.mem_cons.2 hkey)
      exact List.forall_mem_cons.2 ⟨Literal.names_eq_false hname (Ne.symm hne), ih hkey⟩

/-- The second node is the first with one record, at any depth, presented in another way. -/
inductive Relaid : Shape → Node → Node → Prop
  /-- The members come in another order. -/
  | permute {fields : List (FieldShape Shape)} {members members' : List (Literal × Node)}
      (h : members.Perm members') :
      Relaid (.record fields) (.object members .closed) (.object members' .closed)
  /-- A default that was left out is written out. -/
  | writeOut {fields : List (FieldShape Shape)} {field : FieldShape Shape} {default : Default}
      {before after : List (Literal × Node)} {name : Literal} {v : Node}
      (hfield : field ∈ fields) (hdefault : field.default? = some default)
      (habsent : ∀ m ∈ before ++ after, m.1.names field.key = false)
      (hname : name.names field.key = true) (hv : default.IsSaidBy v) :
      Relaid (.record fields) (.object (before ++ after) .closed)
        (.object (before ++ (name, v) :: after) .closed)
  /-- A member is inserted that no field looks at. -/
  | insert {fields : List (FieldShape Shape)} {before after : List (Literal × Node)}
      {name : Literal} {key : String} {v : Node} (hname : readLiteral name = .ok key)
      (hkey : ∀ field ∈ fields, field.key ≠ key) (hv : v.IsWhole) :
      Relaid (.record fields) (.object (before ++ after) .closed)
        (.object (before ++ (name, v) :: after) .closed)
  /-- The values of the first fields are given as an array. -/
  | toArray {fields : List (FieldShape Shape)} {members : List (Literal × Node)}
      (h : GivesFirst fields members) :
      Relaid (.record fields) (.object members .closed) (.array (members.map (·.2)) .closed)
  | inMember {fields : List (FieldShape Shape)} {field : FieldShape Shape}
      {before after : List (Literal × Node)} {name : Literal} {v v' : Node}
      (hfield : field ∈ fields) (hname : name.names field.key = true)
      (h : Relaid field.shape v v') :
      Relaid (.record fields) (.object (before ++ (name, v) :: after) .closed)
        (.object (before ++ (name, v') :: after) .closed)
  | inItem {item : Shape} {before after : List Node} {v v' : Node} (h : Relaid item v v') :
      Relaid (.list item) (.array (before ++ v :: after) .closed)
        (.array (before ++ v' :: after) .closed)
  | inContent {contents : List (String × Shape)} {content : Shape} {tag : String}
      {name : Literal} {v v' : Node} (hcontent : contents.lookup tag = some content)
      (hname : readLiteral name = .ok tag) (h : Relaid content v v') :
      Relaid (.choice contents) (.object [(name, v)] .closed) (.object [(name, v')] .closed)

/-- The nodes differ in the presentation of any number of records. -/
def SameContent (shape : Shape) : Node → Node → Prop := Relation.EqvGen (Relaid shape)

/-- The second node is the first with one record, at any depth, that lacks what it needs or has
a field twice. -/
inductive Spoiled : Shape → Node → Node → Prop
  /-- The member of a field without a default is deleted. -/
  | delete {fields : List (FieldShape Shape)} {field : FieldShape Shape}
      {before after : List (Literal × Node)} {name : Literal} {v : Node}
      (hfield : field ∈ fields) (hrequired : field.default? = none)
      (hname : name.names field.key = true) :
      Spoiled (.record fields) (.object (before ++ (name, v) :: after) .closed)
        (.object (before ++ after) .closed)
  /-- A field is given once more. -/
  | double {fields : List (FieldShape Shape)} {field : FieldShape Shape}
      {before after : List (Literal × Node)} {name : Literal} {v : Node}
      (hfield : field ∈ fields) (hgiven : ∃ m ∈ before ++ after, m.1.names field.key = true)
      (hname : name.names field.key = true) :
      Spoiled (.record fields) (.object (before ++ after) .closed)
        (.object (before ++ (name, v) :: after) .closed)
  | inMember {fields : List (FieldShape Shape)} {field : FieldShape Shape}
      {before after : List (Literal × Node)} {name : Literal} {v v' : Node}
      (hfield : field ∈ fields) (hname : name.names field.key = true)
      (h : Spoiled field.shape v v') :
      Spoiled (.record fields) (.object (before ++ (name, v) :: after) .closed)
        (.object (before ++ (name, v') :: after) .closed)
  | inItem {item : Shape} {before after : List Node} {v v' : Node} (h : Spoiled item v v') :
      Spoiled (.list item) (.array (before ++ v :: after) .closed)
        (.array (before ++ v' :: after) .closed)
  | inContent {contents : List (String × Shape)} {content : Shape} {tag : String}
      {name : Literal} {v v' : Node} (hcontent : contents.lookup tag = some content)
      (hname : readLiteral name = .ok tag) (h : Spoiled content v v') :
      Spoiled (.choice contents) (.object [(name, v)] .closed) (.object [(name, v')] .closed)

end ScriptComposer.Json
