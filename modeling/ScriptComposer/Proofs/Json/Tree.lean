import ScriptComposer.Json.Format
import ScriptComposer.Proofs.Json.Spelling

/-!
# ScriptComposer.Proofs.Json.Tree

Values and the texts in which they are written.

A value is whole if nothing in it is damaged.  Its tokens stand in the text in one order only,
so the machine that builds nodes gives back the value whose tokens it is given, and whenever it
ends with a whole value the tokens that it has taken are those of the value.

* `skip_eq_ok` — whole values are those that can be passed over;
* `isWrittenIn_iff` — the value that is written in a text is the one that the machine builds
  from it, with nothing left over.
-/

namespace ScriptComposer.Json

/-! ## whole values -/

mutual

/-- Nothing in the value is damaged: every text, array and object is closed. -/
def Node.IsWhole : Node → Prop
  | .null | .boolean _ | .number _ => True
  | .text l => l.closing = .closed
  | .array items ending => WholeItems items ∧ ending = .closed
  | .object members ending => WholeMembers members ∧ ending = .closed
  | .broken _ => False

def WholeItems : List Node → Prop
  | [] => True
  | v :: rest => v.IsWhole ∧ WholeItems rest

/-- The members are whole, their names included. -/
def WholeMembers : List (Literal × Node) → Prop
  | [] => True
  | (name, v) :: rest => name.closing = .closed ∧ v.IsWhole ∧ WholeMembers rest

end

theorem not_isWhole_broken (d : Damage) : ¬(Node.broken d).IsWhole := by
  simp [Node.IsWhole]

/-- An array that is not closed is not whole. -/
theorem not_isWhole_array {items : List Node} {ending : Ending} (h : ending ≠ .closed) :
    ¬(Node.array items ending).IsWhole :=
  fun hwhole => h hwhole.2

/-- Nor is an object. -/
theorem not_isWhole_object {members : List (Literal × Node)} {ending : Ending}
    (h : ending ≠ .closed) : ¬(Node.object members ending).IsWhole :=
  fun hwhole => h hwhole.2

/-- A text that is closed can be passed over, whatever its strokes. -/
theorem skipLiteral_eq_ok {l : Literal} : skipLiteral l = .ok () ↔ l.closing = .closed := by
  rw [skipLiteral, mapError_eq_ok, Literal.skip]
  cases l.closing <;> simp [Closing.fault?]

/-- An array can be passed over if it is closed. -/
theorem Ending.skipArray_eq_ok {ending : Ending} :
    ending.skipArray = .ok () ↔ ending = .closed := by
  cases ending <;> simp [Ending.skipArray, stop]

/-- So can an object. -/
theorem Ending.skipObject_eq_ok {ending : Ending} :
    ending.skipObject = .ok () ↔ ending = .closed := by
  cases ending <;> simp [Ending.skipObject, stop]

mutual

/-- Whole values are those that can be passed over. -/
theorem Node.skip_eq_ok (v : Node) : v.skip = .ok () ↔ v.IsWhole := by
  match v with
  | .null | .boolean _ | .number _ => simp [Node.skip, Node.IsWhole]
  | .text l => rw [Node.skip, Node.IsWhole, skipLiteral_eq_ok]
  | .array items ending =>
      simp only [Node.skip, Node.IsWhole, seq_eq_ok, skipItems_eq_ok,
        Ending.skipArray_eq_ok]
  | .object members ending =>
      simp only [Node.skip, Node.IsWhole, seq_eq_ok, skipMembers_eq_ok,
        Ending.skipObject_eq_ok]
  | .broken d => simp [Node.skip, Node.IsWhole, stop]

/-- Items can be passed over if they are whole. -/
theorem skipItems_eq_ok (items : List Node) : skipItems items = .ok () ↔ WholeItems items := by
  match items with
  | [] => simp [skipItems, WholeItems]
  | v :: rest =>
      simp only [skipItems, WholeItems, seq_eq_ok, v.skip_eq_ok,
        skipItems_eq_ok rest]

/-- Members can be passed over if their names are closed and their values whole. -/
theorem skipMembers_eq_ok (members : List (Literal × Node)) :
    skipMembers members = .ok () ↔ WholeMembers members := by
  match members with
  | [] => simp [skipMembers, WholeMembers]
  | (name, v) :: rest =>
      simp only [skipMembers, WholeMembers, seq_eq_ok, skipLiteral_eq_ok,
        v.skip_eq_ok, skipMembers_eq_ok rest]

end

/-- Members are whole one by one. -/
theorem wholeMembers_iff {members : List (Literal × Node)} :
    WholeMembers members ↔ ∀ m ∈ members, m.1.closing = .closed ∧ m.2.IsWhole := by
  induction members with
  | nil => simp [WholeMembers]
  | cons m members ih =>
      obtain ⟨name, v⟩ := m
      simp [WholeMembers, ih, and_assoc]

mutual

/-- What is written is whole. -/
theorem Value.isWhole_toNode (v : Value) : v.toNode.IsWhole := by
  match v with
  | .null | .boolean _ => trivial
  | .text s => rfl
  | .array items => exact ⟨wholeItems_itemNodes items, rfl⟩
  | .object members => exact ⟨wholeMembers_memberNodes members, rfl⟩

/-- Items that are written are whole. -/
theorem wholeItems_itemNodes (items : List Value) : WholeItems (itemNodes items) := by
  match items with
  | [] => trivial
  | v :: rest => exact ⟨v.isWhole_toNode, wholeItems_itemNodes rest⟩

/-- So are members, their names included. -/
theorem wholeMembers_memberNodes (members : List (String × Value)) :
    WholeMembers (memberNodes members) := by
  match members with
  | [] => trivial
  | (name, v) :: rest => exact ⟨rfl, v.isWhole_toNode, wholeMembers_memberNodes rest⟩

end

/-! ## tokens of values -/

mutual

/-- The tokens of a value.  How it ends is not told: what is whole is closed. -/
def Node.tokens : Node → List Token
  | .null => [.null]
  | .boolean b => [.boolean b]
  | .number n => [.number n]
  | .text l => [.text l]
  | .array items _ => .openArray :: ((itemTokens items).tail ++ [.closeArray])
  | .object members _ => .openObject :: ((memberTokens members).tail ++ [.closeObject])
  | .broken d => [.broken d]

/-- The tokens of items, a comma before each. -/
def itemTokens : List Node → List Token
  | [] => []
  | v :: rest => .comma :: (v.tokens ++ itemTokens rest)

/-- The tokens of members, a comma before each. -/
def memberTokens : List (Literal × Node) → List Token
  | [] => []
  | (name, v) :: rest => .comma :: .text name :: .colon :: (v.tokens ++ memberTokens rest)

end

/-- One more item stands behind a comma, the first one too. -/
theorem itemTokens_concat (items : List Node) (v : Node) :
    itemTokens (items ++ [v]) = itemTokens items ++ .comma :: v.tokens := by
  induction items with
  | nil => simp [itemTokens]
  | cons u items ih => simp [itemTokens, ih]

/-- One more member stands behind a comma, with its name and a colon. -/
theorem memberTokens_concat (members : List (Literal × Node)) (name : Literal) (v : Node) :
    memberTokens (members ++ [(name, v)]) =
      memberTokens members ++ .comma :: .text name :: .colon :: v.tokens := by
  induction members with
  | nil => simp [memberTokens]
  | cons m members ih =>
      obtain ⟨first, u⟩ := m
      simp [memberTokens, ih]

/-- A value does not begin as an array ends. -/
theorem Node.tokens_eq_cons (v : Node) : ∃ t ts, v.tokens = t :: ts ∧ t ≠ .closeArray := by
  cases v <;> exact ⟨_, _, by rw [Node.tokens], by simp⟩

mutual

/-- A whole value has no broken tokens. -/
theorem Node.isLast_of_mem_tokens {v : Node} (h : v.IsWhole) :
    ∀ t ∈ v.tokens, t.isLast = false := by
  match v with
  | .null | .boolean _ | .number _ => simp [Node.tokens, Token.isLast]
  | .text l => simpa [Node.tokens, Token.isLast, Node.IsWhole] using h
  | .broken d => exact absurd h (not_isWhole_broken d)
  | .array items ending =>
      intro t ht
      rw [Node.tokens, List.mem_cons, List.mem_append, List.mem_singleton] at ht
      rcases ht with rfl | ht | rfl
      · rfl
      · exact isLast_of_mem_itemTokens h.1 t (List.mem_of_mem_tail ht)
      · rfl
  | .object members ending =>
      intro t ht
      rw [Node.tokens, List.mem_cons, List.mem_append, List.mem_singleton] at ht
      rcases ht with rfl | ht | rfl
      · rfl
      · exact isLast_of_mem_memberTokens h.1 t (List.mem_of_mem_tail ht)
      · rfl

/-- In whole items no token breaks the text off. -/
theorem isLast_of_mem_itemTokens {items : List Node} (h : WholeItems items) :
    ∀ t ∈ itemTokens items, t.isLast = false := by
  match items with
  | [] => simp [itemTokens]
  | v :: rest =>
      intro t ht
      rw [itemTokens, List.mem_cons, List.mem_append] at ht
      rcases ht with rfl | ht | ht
      · rfl
      · exact Node.isLast_of_mem_tokens h.1 t ht
      · exact isLast_of_mem_itemTokens h.2 t ht

/-- Nor in whole members, for their names are closed. -/
theorem isLast_of_mem_memberTokens {members : List (Literal × Node)} (h : WholeMembers members) :
    ∀ t ∈ memberTokens members, t.isLast = false := by
  match members with
  | [] => simp [memberTokens]
  | (name, v) :: rest =>
      intro t ht
      rw [memberTokens, List.mem_cons, List.mem_cons, List.mem_cons, List.mem_append] at ht
      rcases ht with rfl | rfl | rfl | ht | ht
      · rfl
      · simpa [Token.isLast] using h.1
      · rfl
      · exact Node.isLast_of_mem_tokens h.2.1 t ht
      · exact isLast_of_mem_memberTokens h.2.2 t ht

end

/-! ### no number follows a number -/

/-- Behind a token that is no number anything may follow. -/
theorem Separated.cons {t : Token} {ts : List Token} (ht : t.isNumber = false)
    (h : Separated ts) : Separated (t :: ts) := by
  refine List.isChain_cons.2 ⟨fun u _ hnumber => ?_, h⟩
  rw [ht] at hnumber
  cases hnumber

/-- Two runs of tokens can be joined where the second begins with no number. -/
theorem Separated.append {ts us : List Token} (h : Separated ts) (h' : Separated us)
    (hhead : ∀ u ∈ us.head?, u.isNumber = false) : Separated (ts ++ us) :=
  List.isChain_append.2 ⟨h, h', fun _ _ u hu _ => hhead u hu⟩

theorem Separated.tail {ts : List Token} (h : Separated ts) : Separated ts.tail :=
  List.IsChain.tail h

mutual

/-- In a value every number is followed by a separator, a bracket or the end. -/
theorem Node.separated_tokens (v : Node) : Separated v.tokens := by
  match v with
  | .null | .boolean _ | .number _ | .text _ | .broken _ => exact List.isChain_singleton _
  | .array items _ =>
      rw [Node.tokens]
      refine .cons rfl ((separated_itemTokens items).1.tail.append (List.isChain_singleton _) ?_)
      rintro u ⟨⟩
      rfl
  | .object members _ =>
      rw [Node.tokens]
      refine .cons rfl
        ((separated_memberTokens members).1.tail.append (List.isChain_singleton _) ?_)
      rintro u ⟨⟩
      rfl

/-- Items keep numbers apart by their commas. -/
theorem separated_itemTokens (items : List Node) :
    Separated (itemTokens items) ∧ ∀ u ∈ (itemTokens items).head?, u.isNumber = false := by
  match items with
  | [] => exact ⟨List.isChain_nil, by simp [itemTokens]⟩
  | v :: rest =>
      obtain ⟨hrest, hhead⟩ := separated_itemTokens rest
      rw [itemTokens]
      refine ⟨.cons rfl (v.separated_tokens.append hrest hhead), ?_⟩
      rintro u ⟨⟩
      rfl

/-- Members do so by their names as well. -/
theorem separated_memberTokens (members : List (Literal × Node)) :
    Separated (memberTokens members) ∧ ∀ u ∈ (memberTokens members).head?, u.isNumber = false := by
  match members with
  | [] => exact ⟨List.isChain_nil, by simp [memberTokens]⟩
  | (name, v) :: rest =>
      obtain ⟨hrest, hhead⟩ := separated_memberTokens rest
      rw [memberTokens]
      refine ⟨.cons rfl (.cons rfl (.cons rfl (v.separated_tokens.append hrest hhead))), ?_⟩
      rintro u ⟨⟩
      rfl

end

/-! ## building what the tokens say -/

namespace Building

mutual

/-- The machine accepts a whole value when it is given its tokens. -/
theorem run_tokens {v : Node} (h : v.IsWhole) (frames : List Frame) (rest : List Token) :
    run ⟨.value, frames⟩ (v.tokens ++ rest) = (accept frames v).resume rest := by
  match v with
  | .null | .boolean _ | .number _ | .text _ => exact run_cons _ _ _
  | .broken d => exact absurd h (not_isWhole_broken d)
  | .array [] ending =>
      obtain ⟨-, rfl⟩ := h
      exact (run_cons _ _ _).trans (run_cons _ _ _)
  | .array (v :: items) ending =>
      obtain ⟨⟨hv, hitems⟩, rfl⟩ := h
      obtain ⟨t, ts, hts, ht⟩ := v.tokens_eq_cons
      have hfirst := run_tokens hv (.array [] :: frames)
        (itemTokens items ++ .closeArray :: rest)
      simp only [Node.tokens, itemTokens, List.tail_cons, List.cons_append, List.append_assoc,
        List.nil_append]
      rw [run_cons]
      show run ⟨.item [], frames⟩ _ = _
      rw [hts, List.cons_append, run_item ht, ← List.cons_append, ← hts, hfirst]
      show run ⟨.itemEnd [v], frames⟩ _ = _
      rw [run_itemTokens hitems, run_cons]
      simp [step]
  | .object [] ending =>
      obtain ⟨-, rfl⟩ := h
      exact (run_cons _ _ _).trans (run_cons _ _ _)
  | .object ((name, v) :: members) ending =>
      obtain ⟨⟨-, hv, hmembers⟩, rfl⟩ := h
      have hfirst := run_tokens hv (.object [] name :: frames)
        (memberTokens members ++ .closeObject :: rest)
      simp only [Node.tokens, memberTokens, List.tail_cons, List.cons_append, List.append_assoc,
        List.nil_append]
      rw [run_cons]
      show run ⟨.member [], frames⟩ _ = _
      rw [run_name, hfirst]
      show run ⟨.memberEnd [(name, v)], frames⟩ _ = _
      rw [run_memberTokens hmembers, run_cons]
      simp [step]

/-- The machine takes items to the place behind them. -/
theorem run_itemTokens {items : List Node} (h : WholeItems items) (before : List Node)
    (frames : List Frame) (rest : List Token) :
    run ⟨.itemEnd before, frames⟩ (itemTokens items ++ rest) =
      run ⟨.itemEnd (items.reverse ++ before), frames⟩ rest := by
  match items with
  | [] => rfl
  | v :: items =>
      obtain ⟨hv, hitems⟩ := h
      obtain ⟨t, ts, hts, ht⟩ := v.tokens_eq_cons
      have hfirst := run_tokens hv (.array before :: frames) (itemTokens items ++ rest)
      simp only [itemTokens, List.cons_append, List.append_assoc]
      rw [run_cons]
      show run ⟨.item before, frames⟩ _ = _
      rw [hts, List.cons_append, run_item ht, ← List.cons_append, ← hts, hfirst]
      show run ⟨.itemEnd (v :: before), frames⟩ _ = _
      rw [run_itemTokens hitems]
      simp

/-- The machine takes members to the place behind them. -/
theorem run_memberTokens {members : List (Literal × Node)} (h : WholeMembers members)
    (before : List (Literal × Node)) (frames : List Frame) (rest : List Token) :
    run ⟨.memberEnd before, frames⟩ (memberTokens members ++ rest) =
      run ⟨.memberEnd (members.reverse ++ before), frames⟩ rest := by
  match members with
  | [] => rfl
  | (name, v) :: members =>
      obtain ⟨-, hv, hmembers⟩ := h
      have hfirst := run_tokens hv (.object before name :: frames) (memberTokens members ++ rest)
      simp only [memberTokens, List.cons_append, List.append_assoc]
      rw [run_cons]
      show run ⟨.member before, frames⟩ _ = _
      rw [run_name, hfirst]
      show run ⟨.memberEnd ((name, v) :: before), frames⟩ _ = _
      rw [run_memberTokens hmembers]
      simp

end

/-! ## what has been taken -/

/-- The tokens of the containers that are open, up to the values to come. -/
def framesTaken : List Frame → List Token
  | [] => []
  | .array items :: frames =>
      framesTaken frames ++ .openArray :: (itemTokens items.reverse ++ [Token.comma]).tail
  | .object members name :: frames =>
      framesTaken frames ++
        .openObject :: (memberTokens members.reverse ++ [Token.comma, .text name, .colon]).tail

/-- The tokens that have been taken in the innermost container. -/
def placeTaken : Place → List Token
  | .value => []
  | .item items => .openArray :: (itemTokens items.reverse ++ [Token.comma]).tail
  | .itemEnd items => .openArray :: (itemTokens items.reverse).tail
  | .member members => .openObject :: (memberTokens members.reverse ++ [Token.comma]).tail
  | .memberEnd members => .openObject :: (memberTokens members.reverse).tail
  | .colon members name =>
      .openObject :: (memberTokens members.reverse ++ [Token.comma, .text name]).tail

/-- All tokens that have been taken. -/
def taken (b : Building) : List Token := framesTaken b.frames ++ placeTaken b.place

/-- A separator is only looked for behind an item or member. -/
def Started (b : Building) : Prop := b.place ≠ .itemEnd [] ∧ b.place ≠ .memberEnd []

end Building

/-- The tokens given have been taken, unless the value that is done is damaged. -/
def Progress.HasTaken (ts : List Token) : Progress → Prop
  | .building b => b.Started ∧ b.taken = ts
  | .done v => v.IsWhole → v.tokens = ts

/-- What damage leaves is damaged. -/
theorem not_isWhole_abandon {v : Node} (h : ¬v.IsWhole) (frames : List Frame) :
    ¬(abandon v frames).IsWhole := by
  induction frames generalizing v with
  | nil => exact h
  | cons frame frames ih =>
      cases frame with
      | array items => exact ih (not_isWhole_array (by simp))
      | object members name => exact ih (not_isWhole_object (by simp))

namespace Building

/-- A text that ends too early leaves damage. -/
theorem not_isWhole_ended (b : Building) : ¬b.ended.IsWhole := by
  rw [ended.eq_def]
  split
  all_goals
    refine not_isWhole_abandon ?_ _
    first
      | exact not_isWhole_broken _
      | exact not_isWhole_array (by simp)
      | exact not_isWhole_object (by simp)

/-- What stops with damage has no tokens to account for. -/
theorem fail_hasTaken {v : Node} (h : ¬v.IsWhole) (frames : List Frame) (ts : List Token) :
    (fail frames v).HasTaken ts :=
  fun hwhole => absurd hwhole (not_isWhole_abandon h frames)

/-- A value that is accepted has been taken. -/
theorem accept_hasTaken {frames : List Frame} {v : Node} {ts : List Token}
    (hts : framesTaken frames ++ v.tokens = ts) : (accept frames v).HasTaken ts := by
  subst hts
  match frames with
  | [] => exact fun _ => rfl
  | .array items :: frames =>
      refine ⟨⟨by simp, by simp⟩, ?_⟩
      simp only [taken, placeTaken, framesTaken, List.reverse_cons, itemTokens_concat]
      cases itemTokens items.reverse <;> simp
  | .object members name :: frames =>
      refine ⟨⟨by simp, by simp⟩, ?_⟩
      simp only [taken, placeTaken, framesTaken, List.reverse_cons, memberTokens_concat]
      cases memberTokens members.reverse <;> simp

/-- A step that begins a value takes its token. -/
theorem startValue_hasTaken (frames : List Frame) (t : Token) :
    (startValue frames t).HasTaken (framesTaken frames ++ [t]) := by
  cases t with
  | null | boolean b | number n | text l => exact accept_hasTaken rfl
  | openArray => exact ⟨⟨by simp, by simp⟩, rfl⟩
  | openObject => exact ⟨⟨by simp, by simp⟩, rfl⟩
  | broken d => exact fail_hasTaken (not_isWhole_broken _) frames _
  | closeArray | closeObject | comma | colon => exact fail_hasTaken (not_isWhole_broken _) frames _

/-- Every step takes its token. -/
theorem step_hasTaken {b : Building} (hb : b.Started) (t : Token) :
    (b.step t).HasTaken (b.taken ++ [t]) := by
  -- Contents begin with a comma that is not written, so a comma behind them only stays where it
  -- is if they are not empty: this is what `Started` is for.
  obtain ⟨place, frames⟩ := b
  cases place with
  | value =>
      rw [taken, placeTaken, List.append_nil]
      exact startValue_hasTaken frames t
  | item items =>
      rw [step.eq_def]
      dsimp only
      split
      · exact accept_hasTaken (by simp [taken, placeTaken, Node.tokens, itemTokens])
      · exact fail_hasTaken (not_isWhole_array (by simp)) frames _
      · exact startValue_hasTaken (.array items :: frames) t
  | itemEnd items =>
      have hitems : itemTokens items.reverse ≠ [] := by
        cases items with
        | nil => exact absurd rfl hb.1
        | cons v items => simp [itemTokens_concat]
      rw [step.eq_def]
      dsimp only
      split
      · exact accept_hasTaken (by simp [taken, placeTaken, Node.tokens])
      · refine ⟨⟨by simp, by simp⟩, ?_⟩
        simp [taken, placeTaken, List.tail_append_of_ne_nil hitems]
      · exact fail_hasTaken (not_isWhole_array (by simp)) frames _
  | member members =>
      rw [step.eq_def]
      dsimp only
      split
      · refine ⟨⟨by simp, by simp⟩, ?_⟩
        cases h : memberTokens members.reverse <;> simp [taken, placeTaken, h]
      · exact accept_hasTaken (by simp [taken, placeTaken, Node.tokens, memberTokens])
      · exact fail_hasTaken (not_isWhole_object (by simp)) frames _
      · exact fail_hasTaken (not_isWhole_object (by simp)) frames _
  | memberEnd members =>
      have hmembers : memberTokens members.reverse ≠ [] := by
        cases members with
        | nil => exact absurd rfl hb.2
        | cons m members =>
            obtain ⟨name, v⟩ := m
            simp [memberTokens_concat]
      rw [step.eq_def]
      dsimp only
      split
      · exact accept_hasTaken (by simp [taken, placeTaken, Node.tokens])
      · refine ⟨⟨by simp, by simp⟩, ?_⟩
        simp [taken, placeTaken, List.tail_append_of_ne_nil hmembers]
      · exact fail_hasTaken (not_isWhole_object (by simp)) frames _
  | colon members name =>
      rw [step.eq_def]
      dsimp only
      split
      · refine ⟨⟨by simp, by simp⟩, ?_⟩
        cases h : memberTokens members.reverse <;> simp [taken, placeTaken, framesTaken, h]
      · exact fail_hasTaken (not_isWhole_broken _) _ _

/-- A run that ends with a whole value has taken the tokens of the value, those before the run
included. -/
theorem taken_append {b : Building} (hb : b.Started) {ts rest : List Token} {v : Node}
    (hrun : b.run ts = (v, rest)) (hv : v.IsWhole) : b.taken ++ ts = v.tokens ++ rest := by
  induction ts generalizing b with
  | nil =>
      obtain ⟨rfl, -⟩ := Prod.mk.inj hrun
      exact absurd hv (not_isWhole_ended b)
  | cons t ts ih =>
      have hstep := step_hasTaken hb t
      rw [run_cons] at hrun
      rw [List.append_cons]
      cases h : b.step t with
      | building b' =>
          rw [h] at hrun hstep
          obtain ⟨hb', htaken⟩ := hstep
          rw [← htaken]
          exact ih hb' hrun
      | done u =>
          rw [h] at hrun hstep
          obtain ⟨rfl, rfl⟩ := Prod.mk.inj hrun
          rw [hstep hv]

end Building

/-- A whole value is built from its tokens, and from nothing else. -/
theorem Node.ofTokens_eq_iff {v : Node} (h : v.IsWhole) {ts rest : List Token} :
    Node.ofTokens ts = (v, rest) ↔ ts = v.tokens ++ rest := by
  constructor
  · intro hts
    exact Building.taken_append (b := ⟨.value, []⟩) ⟨by simp, by simp⟩ hts h
  · rintro rfl
    exact Building.run_tokens h [] rest

/-! ## values in texts -/

/-- The text is a writing of the value: its tokens, with any white space before each of them and
at the end. -/
def Node.IsWrittenIn (v : Node) (s : String) : Prop := v.IsWhole ∧ Spells v.tokens s.toList

/-- The value that is written in a text is the one that is built from it, with nothing left
over. -/
theorem Node.isWrittenIn_iff {v : Node} {s : String} :
    v.IsWrittenIn s ↔ v.IsWhole ∧ Node.ofTokens (Json.tokens s.toList) = (v, []) := by
  refine and_congr_right fun hv => ?_
  rw [Node.ofTokens_eq_iff hv, List.append_nil]
  constructor
  · exact fun hspells => tokensFrom_of_spells hspells v.separated_tokens
  · intro hts
    change tokensFrom 0 s.toList = v.tokens at hts
    rw [← hts]
    exact spells_tokensFrom s.toList (hts ▸ Node.isLast_of_mem_tokens hv)

/-- A text is read as the value that is written in it is. -/
theorem Format.ofText_of_isWrittenIn {α : Type} (f : Format α) {v : Node} {s : String}
    (h : v.IsWrittenIn s) : f.ofText s = f.read v := by
  rw [Format.ofText, (Node.isWrittenIn_iff.1 h).2]
  exact bind_pure (f.read v)

/-- If a format only accepts whole values, then a value is written in every text that it
accepts. -/
theorem Format.exists_isWrittenIn {α : Type} {f : Format α}
    (hf : ∀ v a, f.read v = .ok a → v.IsWhole) {s : String} {a : α} (h : f.ofText s = .ok a) :
    ∃ v : Node, v.IsWrittenIn s := by
  rw [Format.ofText] at h
  generalize hts : Node.ofTokens (tokens s.toList) = built at h
  obtain ⟨v, rest⟩ := built
  obtain ⟨b, hread, hrest⟩ := bind_eq_ok.1 h
  cases rest with
  | nil => exact ⟨v, Node.isWrittenIn_iff.2 ⟨hf v b hread, hts⟩⟩
  | cons t rest => cases hrest

end ScriptComposer.Json
