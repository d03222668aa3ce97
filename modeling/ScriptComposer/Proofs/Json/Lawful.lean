import ScriptComposer.Json.Choice
import ScriptComposer.Json.Record
import ScriptComposer.Proofs.Except
import ScriptComposer.Proofs.Json.Written

/-!
# ScriptComposer.Proofs.Json.Lawful

Lawful formats: what is written is read back.

A format is lawful if it reads from the node of a written value the value that was
written.  Formats are put together from parts, and a format of lawful parts is lawful:
a list always, a record if its keys differ and every field that is left out has a default
that says the same, a choice if every alternative is written under its own tag.

* `Format.IsLawful.ofText_toText` — a lawful format reads whole texts that it wrote;
* `record_isLawful` — records of lawful fields.
-/

namespace ScriptComposer.Json

/-- What the format writes it reads back. -/
def Format.IsLawful {α : Type} (f : Format α) : Prop := ∀ a, f.read (f.write a).toNode = .ok a

/-- A text is read back from its own literal. -/
theorem readLiteral_ofString (s : String) : readLiteral (.ofString s) = .ok s := by
  rw [readLiteral, Literal.text_ofString]
  rfl

namespace Format

variable {α : Type} {f : Format α}

/-- A lawful format reads whole texts that it wrote. -/
theorem IsLawful.ofText_toText (h : f.IsLawful) (a : α) : f.ofText (f.toText a) = .ok a := by
  rw [ofText, toText, Value.toText, String.toList_ofList, ofTokens_tokens_write]
  simp only [h a]
  rfl

/-! ## plain values and lists -/

/-- Texts are read back. -/
theorem text_isLawful : text.IsLawful := readLiteral_ofString

theorem boolean_isLawful : boolean.IsLawful := fun _ => rfl

/-- What is kept as a text is read back if the text tells it apart from everything else. -/
theorem wrapped_isLawful {make : String → α} {get : α → String} (h : ∀ a, make (get a) = a) :
    (wrapped make get).IsLawful := by
  intro a
  have hread : text.read (text.write (get a)).toNode = .ok (get a) := text_isLawful (get a)
  simp only [wrapped, hread]
  exact congrArg Except.ok (h a)

/-- Lists are read back item by item. -/
theorem list_isLawful (h : f.IsLawful) : (list f).IsLawful := by
  intro as
  have hitems : (itemNodes (as.map f.write)).mapM f.read = .ok as := by
    induction as with
    | nil => rfl
    | cons a as ih =>
        rw [List.map_cons, itemNodes, List.mapM_cons, h a, ih]
        rfl
  simp only [list, Value.toNode, hitems]
  rfl

end Format

/-! ## fields -/

/-- A field reads what it writes, and if it writes nothing its default says the same. -/
structure Field.IsLawful {α : Type} (f : Field α) : Prop where
  read_write : ∀ a v, f.write a = some v → f.read v.toNode = .ok a
  absent_of_write : ∀ a, f.write a = none → f.absent = some a

namespace Field

variable {α : Type} {f : Format α}

/-- A required field is always written. -/
theorem required_isLawful (key : String) (h : f.IsLawful) : (required key f).IsLawful where
  read_write a v hv := by
    obtain rfl := Option.some.inj hv
    exact h a
  absent_of_write a hv := by simp [required] at hv

/-- So is one with a default, even when it holds the default. -/
theorem withDefault_isLawful (key : String) (h : f.IsLawful) (default : α) :
    (withDefault key f default).IsLawful where
  read_write a v hv := by
    obtain rfl := Option.some.inj hv
    exact h a
  absent_of_write a hv := by simp [withDefault] at hv

/-- A field that may hold nothing cannot take what it holds for nothing. -/
theorem optional_isLawful (key : String) (h : f.IsLawful)
    (hnull : ∀ a, (f.write a).toNode ≠ .null) : (optional key f).IsLawful where
  read_write a v hv := by
    obtain ⟨b, rfl, rfl⟩ := Option.map_eq_some_iff.1 hv
    have hread : ∀ node, node ≠ .null → (optional key f).read node = some <$> f.read node := by
      intro node hnode
      cases node with
      | null => exact absurd rfl hnode
      | _ => rfl
    rw [hread _ (hnull b), h b]
    rfl
  absent_of_write a hv := by rw [Option.map_eq_none_iff.1 hv]; rfl

end Field

/-! ## layouts -/

namespace Layout

def keys : {σ τ : Type} → Layout σ τ → List String
  | _, _, .nil => []
  | _, _, .cons field rest => field.key :: rest.keys

/-- Every field is lawful. -/
def IsLawful : {σ τ : Type} → Layout σ τ → Prop
  | _, _, .nil => True
  | _, _, .cons field rest => field.IsLawful ∧ rest.IsLawful

/-- The slots behind the members of a written record: those of the fields that were left out
are empty. -/
def filled : {σ τ : Type} → Layout σ τ → τ → σ
  | _, _, .nil, () => ()
  | _, _, .cons field rest, (a, b) => ((field.write a).map fun _ => a, rest.filled b)

/-- Only the keys of the fields are written. -/
theorem key_mem_of_mem_write {σ τ : Type} (l : Layout σ τ) (a : τ) :
    ∀ m ∈ l.write a, m.1 ∈ l.keys := by
  induction l with
  | nil => simp [write]
  | cons field rest ih =>
      obtain ⟨a, b⟩ := a
      intro m hm
      rw [write, List.mem_append, Option.mem_toList] at hm
      rcases hm with hm | hm
      · obtain ⟨v, -, rfl⟩ := Option.map_eq_some_iff.1 hm
        exact List.mem_cons_self
      · exact List.mem_cons_of_mem _ (ih b m hm)

/-- Written members are put into their slots one by one. -/
theorem insertAll_memberNodes {σ τ : Type} (l : Layout σ τ) (slots : σ) (key : String) (v : Value)
    (members : List (String × Value)) :
    l.insertAll slots (memberNodes ((key, v) :: members)) =
      l.insert key v.toNode slots >>= fun slots => l.insertAll slots (memberNodes members) := by
  rw [memberNodes, insertAll, readLiteral_ofString]
  rfl

/-- The members of the other fields pass a field by. -/
theorem insertAll_cons {α σ τ : Type} {field : Field α} {rest : Layout σ τ} (slot : Option α)
    {members : List (String × Value)} (hkeys : ∀ m ∈ members, m.1 ≠ field.key) {slots slots' : σ}
    (h : rest.insertAll slots (memberNodes members) = .ok slots') :
    (Layout.cons field rest).insertAll (slot, slots) (memberNodes members) =
      .ok (slot, slots') := by
  induction members generalizing slots with
  | nil =>
      obtain rfl := Except.ok.inj h
      rfl
  | cons m members ih =>
      obtain ⟨key, v⟩ := m
      have hkey : field.key ≠ key := fun e => hkeys _ List.mem_cons_self e.symm
      rw [insertAll_memberNodes] at h ⊢
      obtain ⟨slots₁, hinsert, hrest⟩ := bind_eq_ok.1 h
      refine bind_eq_ok.2 ⟨(slot, slots₁), ?_,
        ih (fun m hm => hkeys m (List.mem_cons_of_mem _ hm)) hrest⟩
      simp only [insert, if_neg hkey, hinsert]
      rfl

/-- The members of a written record fill its slots, if its keys differ. -/
theorem insertAll_write {σ τ : Type} {l : Layout σ τ} (hkeys : l.keys.Nodup) (h : l.IsLawful)
    (a : τ) : l.insertAll l.noSlots (memberNodes (l.write a)) = .ok (l.filled a) := by
  induction l with
  | nil => rfl
  | cons field rest ih =>
      obtain ⟨hkey, hkeys⟩ := List.nodup_cons.1 hkeys
      obtain ⟨hfield, hrest⟩ := h
      obtain ⟨a, b⟩ := a
      have hothers : ∀ m ∈ rest.write b, m.1 ≠ field.key := fun m hm e =>
        hkey (e ▸ rest.key_mem_of_mem_write b m hm)
      cases hw : field.write a with
      | none =>
          have hpassed := insertAll_cons none hothers (ih hkeys hrest b)
          simpa [write, filled, noSlots, hw] using hpassed
      | some v =>
          have hinsert : (Layout.cons field rest).insert field.key v.toNode
              (none, rest.noSlots) = .ok (some a, rest.noSlots) := by
            simp only [insert, if_true, hfield.read_write a v hw]
            rfl
          have hpassed := insertAll_cons (some a) hothers (ih hkeys hrest b)
          simp only [write, filled, noSlots, hw, Option.map_some, Option.toList_some,
            List.singleton_append, insertAll_memberNodes, hinsert]
          exact hpassed

/-- Filled slots make the record again. -/
theorem finish_filled {σ τ : Type} {l : Layout σ τ} (h : l.IsLawful) (a : τ) :
    l.finish (l.filled a) = .ok a := by
  induction l with
  | nil => rfl
  | cons field rest ih =>
      obtain ⟨hfield, hrest⟩ := h
      obtain ⟨a, b⟩ := a
      have hslot : fill field ((field.write a).map fun _ => a) = .ok a := by
        rw [fill]
        cases hw : field.write a with
        | none => simp [hfield.absent_of_write a hw]
        | some v => rfl
      rw [filled, finish, hslot, ih hrest b]
      rfl

end Layout

/-- Records of lawful fields with different keys are lawful. -/
theorem record_isLawful {α σ τ : Type} (name : String) {layout : Layout σ τ}
    (hkeys : layout.keys.Nodup) (h : layout.IsLawful) {ofFields : τ → α} {fields : α → τ}
    (hf : ∀ a, ofFields (fields a) = a) :
    (Format.record name layout ofFields fields).IsLawful := by
  intro a
  have hmembers : layout.ofMembers (memberNodes (layout.write (fields a))) .closed =
      .ok (fields a) := by
    rw [Layout.ofMembers, Layout.insertAll_write hkeys h]
    exact Layout.finish_filled h (fields a)
  simp only [Format.record, Value.toNode, hmembers]
  exact congrArg Except.ok (hf a)

/-! ## choices -/

namespace Alternatives

variable {α β : Type} {as : Alternatives α} {tag : String} {f : Format β} {make : β → α}

/-- What stands alone under a tag is read as the content that belongs to it. -/
theorem read_single {c : Content α} {name : Literal} (hname : readLiteral name = .ok tag)
    (htag : as.lookup tag = some c) (v : Node) :
    as.read (.object [(name, v)] .closed) = c.ofValue v := by
  rw [read, hname]
  show (as.content tag >>= fun c => c.ofValue v >>= fun a => pure a) = _
  rw [content, htag]
  exact bind_pure (c.ofValue v)

/-- What is written under a tag is read as the content that belongs to it. -/
theorem read_tagged {c : Content α} (htag : as.lookup tag = some c) (v : Value) :
    as.read (tagged tag v).toNode = c.ofValue v.toNode :=
  read_single (readLiteral_ofString tag) htag v.toNode

/-- A value under its tag is read back as what the tag makes of it. -/
theorem read_tagged_ofFormat (htag : as.lookup tag = some (.ofFormat f make)) (h : f.IsLawful)
    (b : β) : as.read (tagged tag (f.write b)).toNode = .ok (make b) := by
  rw [read_tagged htag]
  show make <$> f.read (f.write b).toNode = _
  rw [h b]
  rfl

/-- The same of a record under its tag. -/
theorem read_tagged_ofRecord (htag : as.lookup tag = some (.ofRecord f make)) (h : f.IsLawful)
    (b : β) : as.read (tagged tag (f.write b)).toNode = .ok (make b) := by
  rw [read_tagged htag]
  show make <$> f.read (f.write b).toNode = _
  rw [h b]
  rfl

/-- A tag alone is read as the choice without content that belongs to it. -/
theorem read_tag {a : α} (htag : as.lookup tag = some (.nothing a)) :
    as.read (Value.text tag).toNode = .ok a := by
  rw [Value.toNode, read, readLiteral_ofString]
  show (as.content tag >>= fun c => c.ofTag) = _
  rw [content, htag]
  rfl

end Alternatives

end ScriptComposer.Json
