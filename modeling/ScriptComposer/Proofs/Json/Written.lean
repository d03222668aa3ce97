import ScriptComposer.Json.Value

/-!
# ScriptComposer.Proofs.Json.Written

What is written is read as the node it was written for.

A written value is cut into tokens piece by piece: whatever follows a piece, its token is
the same, because no piece can be continued.  The machine that builds nodes then takes the
tokens of a value to the point where the value is accepted, whatever containers are open
around it.

* `run_write` — the machine accepts a written value as its node, the rest of the text
  being left over;
* `ofTokens_tokens_write` — a value that stands alone is all there is.
-/

namespace ScriptComposer.Json

/-! ## tokens -/

/-- The characters of a token are not looked at again. -/
theorem tokensFrom_append (taken rest : List Char) :
    tokensFrom taken.length (taken ++ rest) = tokensFrom 0 rest := by
  induction taken with
  | nil => rfl
  | cons c taken ih => exact ih

/-- A token is cut off if it takes all the characters given to it. -/
theorem tokensFrom_cons {c : Char} {taken : List Char} {t : Token} (rest : List Char)
    (hc : isSpace c = false) (hscan : scanToken c (taken ++ rest) = (t, taken.length))
    (ht : t.isLast = false) :
    tokensFrom 0 (c :: (taken ++ rest)) = t :: tokensFrom 0 rest := by
  rw [tokensFrom, hc, if_neg Bool.false_ne_true, hscan]
  simp only [ht, Bool.false_eq_true, if_false, tokensFrom_append]

section Pieces

variable (rest : List Char)

theorem tokensFrom_openArray : tokensFrom 0 ('[' :: rest) = .openArray :: tokensFrom 0 rest := rfl

theorem tokensFrom_closeArray :
    tokensFrom 0 (']' :: rest) = .closeArray :: tokensFrom 0 rest := rfl

theorem tokensFrom_openObject :
    tokensFrom 0 ('\x7b' :: rest) = .openObject :: tokensFrom 0 rest := rfl

theorem tokensFrom_closeObject :
    tokensFrom 0 ('\x7d' :: rest) = .closeObject :: tokensFrom 0 rest := rfl

theorem tokensFrom_comma : tokensFrom 0 (',' :: rest) = .comma :: tokensFrom 0 rest := rfl

theorem tokensFrom_colon : tokensFrom 0 (':' :: rest) = .colon :: tokensFrom 0 rest := rfl

theorem tokensFrom_space : tokensFrom 0 (' ' :: rest) = tokensFrom 0 rest := rfl

/-- A line feed and the indentation behind it are no tokens. -/
theorem tokensFrom_newline (level : Nat) :
    tokensFrom 0 (newline level ++ rest) = tokensFrom 0 rest := by
  have hspaces : ∀ n, tokensFrom 0 (List.replicate n ' ' ++ rest) = tokensFrom 0 rest := by
    intro n
    induction n with
    | zero => rfl
    | succ n ih => exact (tokensFrom_space _).trans ih
  exact hspaces (2 * level)

/-- The literal of a text ends at its closing quote. -/
theorem tokensFrom_writeText (s : String) :
    tokensFrom 0 (writeText s ++ rest) = .text (.ofString s) :: tokensFrom 0 rest := by
  have htaken : writeText s ++ rest =
      '"' :: ((s.toList.flatMap writeChar ++ ['"']) ++ rest) := by
    simp [writeText]
  rw [htaken]
  refine tokensFrom_cons rest (by decide) ?_ (by simp [Token.isLast, Literal.ofString,
    Literal.ofChars])
  rw [List.append_assoc, List.singleton_append, scanToken, scan_flatMap_writeChar]
  simp [Literal.ofString]

end Pieces

/-! ## nodes -/

/-- Go on with the tokens that are left. -/
def Progress.resume : Progress → List Token → Node × List Token
  | .building b, ts => b.run ts
  | .done v, ts => (v, ts)

namespace Building

/-- The machine takes a token and goes on as it then is. -/
theorem run_cons (b : Building) (t : Token) (ts : List Token) :
    b.run (t :: ts) = (b.step t).resume ts := by
  rw [run]
  cases b.step t <;> rfl

/-- A written value does not begin as an array ends. -/
theorem tokensFrom_write_eq_cons (v : Value) (level : Nat) (rest : List Char) :
    ∃ t ts, tokensFrom 0 (v.write level ++ rest) = t :: ts ∧ t ≠ .closeArray := by
  cases v with
  | null => exact ⟨_, _, rfl, by simp⟩
  | boolean b => cases b <;> exact ⟨_, _, rfl, by simp⟩
  | text s => exact ⟨_, _, tokensFrom_writeText rest s, by simp⟩
  | array items => cases items <;> exact ⟨_, _, rfl, by simp⟩
  | object members => rcases members with _ | ⟨⟨name, v⟩, members⟩ <;> exact ⟨_, _, rfl, by simp⟩

/-- Where an item may come, one that does come is a value in the array. -/
theorem run_item {t : Token} (ht : t ≠ .closeArray) (items : List Node) (frames : List Frame)
    (ts : List Token) :
    run ⟨.item items, frames⟩ (t :: ts) = run ⟨.value, .array items :: frames⟩ (t :: ts) := by
  have hstep : step ⟨.item items, frames⟩ t = step ⟨.value, .array items :: frames⟩ t := by
    cases t with
    | closeArray => exact absurd rfl ht
    | _ => rfl
  rw [run_cons, run_cons, hstep]

/-- Where a member may come, a name and a colon lead to its value. -/
theorem run_name (members : List (Literal × Node)) (name : Literal) (frames : List Frame)
    (ts : List Token) :
    run ⟨.member members, frames⟩ (.text name :: .colon :: ts) =
      run ⟨.value, .object members name :: frames⟩ ts := by
  rw [run_cons]
  show run ⟨.colon members name, frames⟩ _ = _
  exact run_cons _ _ _

/-- A written name is followed by its value. -/
theorem run_member (name : String) (members : List (Literal × Node)) (frames : List Frame)
    (rest : List Char) :
    run ⟨.member members, frames⟩ (tokensFrom 0 (writeText name ++ ':' :: ' ' :: rest)) =
      run ⟨.value, .object members (.ofString name) :: frames⟩ (tokensFrom 0 rest) := by
  rw [tokensFrom_writeText, tokensFrom_colon, tokensFrom_space, run_name]

mutual

/-- The machine accepts a written value as its node. -/
theorem run_write (v : Value) (level : Nat) (frames : List Frame) (rest : List Char) :
    run ⟨.value, frames⟩ (tokensFrom 0 (v.write level ++ rest)) =
      (accept frames v.toNode).resume (tokensFrom 0 rest) := by
  match v with
  | .null => exact run_cons _ _ _
  | .boolean true => exact run_cons _ _ _
  | .boolean false => exact run_cons _ _ _
  | .text s =>
      rw [Value.write, tokensFrom_writeText]
      exact run_cons _ _ _
  | .array [] => exact (run_cons _ _ _).trans (run_cons _ _ _)
  | .array (v :: items) =>
      obtain ⟨t, ts, hts, ht⟩ := tokensFrom_write_eq_cons v (level + 1)
        (writeItems (level + 1) items ++ (newline level ++ ']' :: rest))
      have hfirst := run_write v (level + 1) (.array [] :: frames)
        (writeItems (level + 1) items ++ (newline level ++ ']' :: rest))
      simp only [Value.write, List.cons_append, List.append_assoc, List.nil_append,
        tokensFrom_openArray, tokensFrom_newline]
      rw [run_cons]
      show run ⟨.item [], frames⟩ _ = _
      rw [hts, run_item ht, ← hts, hfirst]
      show run ⟨.itemEnd [v.toNode], frames⟩ _ = _
      rw [run_writeItems, tokensFrom_newline, tokensFrom_closeArray, run_cons]
      simp [step, Value.toNode, itemNodes]
  | .object [] => exact (run_cons _ _ _).trans (run_cons _ _ _)
  | .object ((name, v) :: members) =>
      have hfirst := run_write v (level + 1) (.object [] (.ofString name) :: frames)
        (writeMembers (level + 1) members ++ (newline level ++ '\x7d' :: rest))
      simp only [Value.write, List.cons_append, List.append_assoc, List.nil_append,
        tokensFrom_openObject, tokensFrom_newline]
      rw [run_cons]
      show run ⟨.member [], frames⟩ _ = _
      rw [run_member, hfirst]
      show run ⟨.memberEnd [(.ofString name, v.toNode)], frames⟩ _ = _
      rw [run_writeMembers, tokensFrom_newline, tokensFrom_closeObject, run_cons]
      simp [step, Value.toNode, memberNodes]

/-- The machine takes written items to the end of their array. -/
theorem run_writeItems (items : List Value) (before : List Node) (level : Nat)
    (frames : List Frame) (rest : List Char) :
    run ⟨.itemEnd before, frames⟩ (tokensFrom 0 (writeItems level items ++ rest)) =
      run ⟨.itemEnd ((itemNodes items).reverse ++ before), frames⟩ (tokensFrom 0 rest) := by
  match items with
  | [] => rfl
  | v :: items =>
      obtain ⟨t, ts, hts, ht⟩ := tokensFrom_write_eq_cons v level (writeItems level items ++ rest)
      have hfirst := run_write v level (.array before :: frames) (writeItems level items ++ rest)
      simp only [writeItems, List.cons_append, List.append_assoc, tokensFrom_comma,
        tokensFrom_newline]
      rw [run_cons]
      show run ⟨.item before, frames⟩ _ = _
      rw [hts, run_item ht, ← hts, hfirst]
      show run ⟨.itemEnd (v.toNode :: before), frames⟩ _ = _
      rw [run_writeItems]
      simp [itemNodes]

/-- The machine takes written members to the end of their object. -/
theorem run_writeMembers (members : List (String × Value)) (before : List (Literal × Node))
    (level : Nat) (frames : List Frame) (rest : List Char) :
    run ⟨.memberEnd before, frames⟩ (tokensFrom 0 (writeMembers level members ++ rest)) =
      run ⟨.memberEnd ((memberNodes members).reverse ++ before), frames⟩ (tokensFrom 0 rest) := by
  match members with
  | [] => rfl
  | (name, v) :: members =>
      have hfirst := run_write v level (.object before (.ofString name) :: frames)
        (writeMembers level members ++ rest)
      simp only [writeMembers, List.cons_append, List.append_assoc, tokensFrom_comma,
        tokensFrom_newline]
      rw [run_cons]
      show run ⟨.member before, frames⟩ _ = _
      rw [run_member, hfirst]
      show run ⟨.memberEnd ((.ofString name, v.toNode) :: before), frames⟩ _ = _
      rw [run_writeMembers]
      simp [memberNodes]

end

end Building

/-- A value that stands alone is all there is. -/
theorem ofTokens_tokens_write (v : Value) :
    Node.ofTokens (tokens (v.write 0)) = (v.toNode, []) := by
  have hrun := Building.run_write v 0 [] []
  rw [List.append_nil] at hrun
  exact hrun

end ScriptComposer.Json
