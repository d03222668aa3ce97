import ScriptComposer.Proofs.Script.Matching
import ScriptComposer.Proofs.Script.Reading

/-!
# ScriptComposer.Proofs.Script.Bracketing

The report on any text, read off by counting.

Whether the `end` on a line is one too many, and whether the block opened on a line is left
open, can be said without a stack and without matching: it is a matter of how many lines
open a block and how many close one in the stretches that end before the line, or begin
behind it.  Here this is proved of the report itself, whatever else the text says, quotation
findings among the others included:

* `findingsFrom_cons` — what the report says of one line, and the blocks it leaves open;
* `mem_findingsFrom_unexpectedEnd_iff`, `mem_findingsFrom_unclosedBlock_iff` — when an `end`
  and when a block is reported, other blocks being open before the text;
* `findings_bracketing` — the report on a text is bracket matching, in order and in number.
-/

namespace ScriptComposer.Script

/-! ## counting openers and ends -/

/-- How many lines open a block. -/
def openers (q : List LineRole) : Nat := q.countP (·.isOpener)

def closers (q : List LineRole) : Nat := q.count .closer

/-- The roles of the lines from `first` on that come before `last`. -/
def stretch (q : List LineRole) (first last : Nat) : List LineRole := (q.take last).drop first

@[simp] theorem openers_nil : openers [] = 0 := rfl

@[simp] theorem closers_nil : closers [] = 0 := rfl

/-- A line counts as an opener or it does not. -/
@[simp] theorem openers_cons (r : LineRole) (q : List LineRole) :
    openers (r :: q) = openers q + if r.isOpener then 1 else 0 := List.countP_cons

/-- A line counts as an end or it does not. -/
@[simp] theorem closers_cons (r : LineRole) (q : List LineRole) :
    closers (r :: q) = closers q + if r = .closer then 1 else 0 := by
  simp [closers, List.count_cons]

/-- No block is left open if and only if no stretch at the end has more openers than ends,
the blocks open before it counted with the longest. -/
theorem depthAfter_eq_zero_iff (depth : Nat) (q : List LineRole) :
    depthAfter depth q = 0 ↔ depth + openers q ≤ closers q ∧
      ∀ s, openers (q.drop s) ≤ closers (q.drop s) := by
  induction q generalizing depth with
  | nil => simp [depthAfter]
  | cons r q ih =>
      rw [← Nat.and_forall_add_one (p := fun s => openers ((r :: q).drop s) ≤ _)]
      by_cases hq : ∀ s, openers (q.drop s) ≤ closers (q.drop s)
      · have hall : openers q ≤ closers q := hq 0
        cases r with
        | plain => simp [depthAfter, ih, hq, hall, LineRole.isOpener]
        | opener kind => simp [depthAfter, ih, hq, LineRole.isOpener]; omega
        | closer => simp [depthAfter, ih, hq, LineRole.isOpener]; omega
      · cases r <;> simp [depthAfter, ih, hq]

/-- A block that is open before the lines, with `inner` others inside of it, is not closed by
them: up to no line are there more ends than it takes. -/
def StaysOpen (inner : Nat) (q : List LineRole) : Prop :=
  ∀ e, closers (q.take e) ≤ openers (q.take e) + inner

/-- A block stays open if no stretch that begins with the first line closes it. -/
theorem staysOpen_cons_iff {inner : Nat} {r : LineRole} {q : List LineRole} :
    StaysOpen inner (r :: q) ↔ ∀ e, closers (r :: q.take e) ≤ openers (r :: q.take e) + inner := by
  rw [StaysOpen, ← Nat.and_forall_add_one]
  simp

@[simp] theorem staysOpen_plain {inner : Nat} {q : List LineRole} :
    StaysOpen inner (.plain :: q) ↔ StaysOpen inner q := by
  rw [staysOpen_cons_iff, StaysOpen]
  simp [LineRole.isOpener]

/-- Behind an opener one more end is needed. -/
@[simp] theorem staysOpen_opener {inner : Nat} {kind : BlockKind} {q : List LineRole} :
    StaysOpen inner (.opener kind :: q) ↔ StaysOpen (inner + 1) q := by
  rw [staysOpen_cons_iff]
  refine forall_congr' fun e => ?_
  simp only [closers_cons, openers_cons, LineRole.isOpener, reduceCtorEq, if_true, if_false]
  omega

@[simp] theorem not_staysOpen_zero_closer {q : List LineRole} : ¬ StaysOpen 0 (.closer :: q) :=
  fun h => by simpa [LineRole.isOpener] using h 1

/-- An end closes a block inside, as long as there is one. -/
@[simp] theorem staysOpen_succ_closer {inner : Nat} {q : List LineRole} :
    StaysOpen (inner + 1) (.closer :: q) ↔ StaysOpen inner q := by
  rw [staysOpen_cons_iff]
  refine forall_congr' fun e => ?_
  simp only [closers_cons, openers_cons, LineRole.isOpener, if_true, Bool.false_eq_true, if_false]
  omega

/-! ## one line -/

/-- What a line of a script does to the nesting of blocks: nothing if it is passed over. -/
def roleOf (line : List Char) : LineRole := if isSkipped line then .plain else lineRole line

/-- The blocks open behind line `n`. -/
def blocksBehind (n : Nat) (stack : List OpenBlock) : LineRole → List OpenBlock
  | .plain => stack
  | .opener kind => ⟨kind, n⟩ :: stack
  | .closer => stack.tail

/-- The blocks left open are as many as the depth says. -/
theorem length_blocksBehind (n : Nat) (stack : List OpenBlock) (r : LineRole) :
    (blocksBehind n stack r).length = depthAfter stack.length [r] := by
  cases r <;> simp [blocksBehind, depthAfter]

/-- What is found on line `n` when it is read. -/
def findingsAt (n : Nat) (stack : List OpenBlock) (line : List Char) : List Finding :=
  (if isSkipped line then [] else quoteFindings n line) ++
    if roleOf line = .closer ∧ stack = [] then [⟨n, .unexpectedEnd⟩] else []

/-- The report takes one line. -/
theorem findingsFrom_cons (n : Nat) (stack : List OpenBlock) (line : List Char)
    (rest : List (List Char)) :
    findingsFrom n stack (line :: rest) =
      findingsAt n stack line ++
        findingsFrom (n + 1) (blocksBehind n stack (roleOf line)) rest := by
  cases hs : isSkipped line with
  | true => simp [findingsFrom_skipped hs, findingsAt, roleOf, hs, blocksBehind]
  | false =>
      cases hr : lineRole line with
      | plain => simp [findingsFrom_plain hs hr, findingsAt, roleOf, hs, hr, blocksBehind]
      | opener kind => simp [findingsFrom_opener hs hr, findingsAt, roleOf, hs, hr, blocksBehind]
      | closer =>
          cases stack with
          | nil => simp [findingsFrom_closer_nil hs hr, findingsAt, roleOf, hs, hr, blocksBehind]
          | cons b stack =>
              simp [findingsFrom_closer_cons hs hr, findingsAt, roleOf, hs, hr, blocksBehind]

/-- Is it a block that is left open? -/
def Fault.isUnclosed : Fault → Bool
  | .unclosedBlock _ => true
  | .unbalancedQuotes | .unexpectedEnd => false

section FindingsAt

variable {n : Nat} {stack : List OpenBlock} {line : List Char}

/-- The quotations of a line give one finding at most. -/
theorem mem_quoteFindings {f : Finding} (hf : f ∈ quoteFindings n line) :
    f = ⟨n, .unbalancedQuotes⟩ := by
  unfold quoteFindings at hf
  split at hf <;> simp_all

/-- A line is reported for its quotations, and for an `end` where no block is open. -/
theorem mem_findingsAt {f : Finding} (hf : f ∈ findingsAt n stack line) :
    f = ⟨n, .unbalancedQuotes⟩ ∨
      f = ⟨n, .unexpectedEnd⟩ ∧ roleOf line = .closer ∧ stack = [] := by
  rcases List.mem_append.1 hf with hf | hf
  · split at hf
    · simp at hf
    · exact .inl (mem_quoteFindings hf)
  · split at hf
    · next h => exact .inr ⟨List.mem_singleton.1 hf, h⟩
    · simp at hf

/-- A line is reported as an `end` too many where no block is open before it. -/
theorem unexpectedEnd_mem_findingsAt_iff {l : Nat} :
    ⟨l, .unexpectedEnd⟩ ∈ findingsAt n stack line ↔
      l = n ∧ roleOf line = .closer ∧ stack = [] := by
  constructor
  · intro h
    rcases mem_findingsAt h with h | ⟨h, hend⟩
    · simp at h
    · exact ⟨by simpa using h, hend⟩
  · rintro ⟨rfl, hend⟩
    simp [findingsAt, hend]

/-- No block is reported as open before the last line is read. -/
theorem unclosedBlock_not_mem_findingsAt {l : Nat} {kind : BlockKind} :
    ⟨l, .unclosedBlock kind⟩ ∉ findingsAt n stack line := by
  intro h
  rcases mem_findingsAt h with h | ⟨h, -⟩ <;> simp at h

end FindingsAt

/-! ## all lines -/

/-- An `end` is reported if and only if no block is open before it. -/
theorem mem_findingsFrom_unexpectedEnd_iff {n : Nat} {stack : List OpenBlock}
    {lines : List (List Char)} {l : Nat} :
    ⟨l, .unexpectedEnd⟩ ∈ findingsFrom n stack lines ↔
      ∃ j, l = n + j ∧ (lines.map roleOf)[j]? = some .closer ∧
        depthAfter stack.length ((lines.map roleOf).take j) = 0 := by
  induction lines generalizing n stack with
  | nil => simp [findingsFrom]
  | cons line rest ih =>
      have hdepth : ∀ q, depthAfter stack.length (roleOf line :: q) =
          depthAfter (blocksBehind n stack (roleOf line)).length q := by
        intro q
        rw [length_blocksBehind, ← depthAfter_append]
        rfl
      rw [findingsFrom_cons, List.mem_append, unexpectedEnd_mem_findingsAt_iff, ih,
        ← Nat.or_exists_add_one (p := fun j => l = n + j ∧ _)]
      simp [hdepth, depthAfter, Nat.add_right_comm, Nat.add_assoc]

/-- The block that line `l` opens is reported if and only if it stays open. -/
theorem mem_findingsFrom_unclosedBlock_iff {n : Nat} {stack : List OpenBlock}
    {lines : List (List Char)} {l : Nat} {kind : BlockKind} :
    ⟨l, .unclosedBlock kind⟩ ∈ findingsFrom n stack lines ↔
      (∃ i, stack[i]? = some ⟨kind, l⟩ ∧ StaysOpen i (lines.map roleOf)) ∨
        ∃ j, l = n + j ∧ (lines.map roleOf)[j]? = some (.opener kind) ∧
          StaysOpen 0 ((lines.map roleOf).drop (j + 1)) := by
  induction lines generalizing n stack with
  | nil =>
      have hopen : ⟨l, .unclosedBlock kind⟩ ∈ findingsFrom n stack [] ↔ ⟨kind, l⟩ ∈ stack := by
        rw [findingsFrom_nil]
        constructor
        · intro h
          obtain ⟨b, hb, heq⟩ := List.mem_map.1 h
          obtain ⟨rfl, rfl⟩ : b.line = l ∧ b.kind = kind := by simpa using heq
          exact List.mem_reverse.1 hb
        · exact fun h => List.mem_map.2 ⟨_, List.mem_reverse.2 h, rfl⟩
      simp [hopen, List.mem_iff_getElem?, StaysOpen]
  | cons line rest ih =>
      rw [findingsFrom_cons, List.mem_append, or_iff_right unclosedBlock_not_mem_findingsAt, ih,
        ← Nat.or_exists_add_one (p := fun j => l = n + j ∧ _)]
      simp only [List.map_cons, List.getElem?_cons_zero, List.getElem?_cons_succ,
        List.drop_succ_cons, List.drop_zero, Nat.add_right_comm n 1, Nat.add_assoc n,
        Nat.add_zero, Option.some.injEq]
      cases hr : roleOf line with
      | plain => simp [blocksBehind]
      | opener kind' =>
          rw [← Nat.or_exists_add_one (p := fun i => (blocksBehind n stack _)[i]? = _ ∧ _)]
          simp [blocksBehind, or_assoc, or_left_comm, and_assoc, and_left_comm,
            eq_comm (a := l) (b := n)]
      | closer =>
          rw [← Nat.or_exists_add_one (p := fun i => stack[i]? = _ ∧ _)]
          simp [blocksBehind]

/-- A line gives at most one `end` too many. -/
theorem countP_unexpectedEnd_findingsAt (n : Nat) (stack : List OpenBlock) (line : List Char) :
    (findingsAt n stack line).countP (·.fault = .unexpectedEnd) =
      if roleOf line = .closer ∧ stack = [] then 1 else 0 := by
  have hquotes : (quoteFindings n line).countP (·.fault = .unexpectedEnd) = 0 :=
    List.countP_eq_zero.2 fun f hf => by simp [mem_quoteFindings hf]
  rw [findingsAt, List.countP_append]
  split <;> split <;> simp [hquotes]

theorem countP_isUnclosed_findingsAt (n : Nat) (stack : List OpenBlock) (line : List Char) :
    (findingsAt n stack line).countP (·.fault.isUnclosed) = 0 :=
  List.countP_eq_zero.2 fun f hf => by
    rcases mem_findingsAt hf with rfl | ⟨rfl, -⟩ <;> simp [Fault.isUnclosed]

/-- Every opener is closed or reported, and every `end` closes a block or is reported. -/
theorem length_add_openers (n : Nat) (stack : List OpenBlock) (lines : List (List Char)) :
    stack.length + openers (lines.map roleOf) +
        (findingsFrom n stack lines).countP (·.fault = .unexpectedEnd) =
      closers (lines.map roleOf) + (findingsFrom n stack lines).countP (·.fault.isUnclosed) := by
  induction lines generalizing n stack with
  | nil => simp [findingsFrom_nil, List.countP_map, Function.comp_def, Fault.isUnclosed]
  | cons line rest ih =>
      have hrest := ih (n + 1) (blocksBehind n stack (roleOf line))
      rw [findingsFrom_cons, List.countP_append, List.countP_append,
        countP_unexpectedEnd_findingsAt, countP_isUnclosed_findingsAt, List.map_cons,
        openers_cons, closers_cons]
      cases hr : roleOf line with
      | plain =>
          rw [hr] at hrest
          simp [blocksBehind, LineRole.isOpener] at hrest ⊢
          omega
      | opener kind =>
          rw [hr] at hrest
          simp [blocksBehind, LineRole.isOpener] at hrest ⊢
          omega
      | closer =>
          rw [hr] at hrest
          cases stack <;> simp [blocksBehind, LineRole.isOpener] at hrest ⊢ <;> omega

/-! ## order -/

/-- A finding is made before another: on an earlier line, or on the same one, where the
quotations are looked at first. -/
def Finding.Precedes (f g : Finding) : Prop :=
  f.line < g.line ∨
    (f.line = g.line ∧ f.fault = .unbalancedQuotes ∧ g.fault = .unexpectedEnd)

/-- On one line, quotations come before the `end`. -/
theorem pairwise_findingsAt (n : Nat) (stack : List OpenBlock) (line : List Char) :
    (findingsAt n stack line).Pairwise Finding.Precedes := by
  have hquotes : (quoteFindings n line).Pairwise Finding.Precedes := by
    unfold quoteFindings
    split <;> simp
  refine List.pairwise_append.2 ⟨?_, ?_, fun f hf g hg => ?_⟩
  · split
    · exact .nil
    · exact hquotes
  · split <;> simp
  · split at hf
    · simp at hf
    · split at hg
      · rw [mem_quoteFindings hf, List.mem_singleton.1 hg]
        exact .inr ⟨rfl, rfl, rfl⟩
      · simp at hg

/-- The open blocks were opened on lines that are read. -/
theorem line_lt_of_mem_blocksBehind {n : Nat} {stack : List OpenBlock} {r : LineRole}
    (h : ∀ b ∈ stack, b.line < n) : ∀ b ∈ blocksBehind n stack r, b.line < n + 1 := by
  have hstack : ∀ b ∈ stack, b.line < n + 1 := fun b hb => Nat.lt_succ_of_lt (h b hb)
  cases r with
  | plain => exact hstack
  | opener kind => exact List.forall_mem_cons.2 ⟨Nat.lt_succ_self n, hstack⟩
  | closer => exact fun b hb => hstack b (List.mem_of_mem_tail hb)

/-- The blocks are stacked by their lines, the last one on top. -/
theorem pairwise_blocksBehind {n : Nat} {stack : List OpenBlock} {r : LineRole}
    (h : ∀ b ∈ stack, b.line < n) (hstack : stack.Pairwise (·.line > ·.line)) :
    (blocksBehind n stack r).Pairwise (·.line > ·.line) := by
  cases r with
  | plain => exact hstack
  | opener kind => exact .cons h hstack
  | closer => exact hstack.tail

/-- First comes what is found line by line, then the blocks left open, by their lines. -/
theorem findingsFrom_eq_append {n : Nat} {stack : List OpenBlock} {lines : List (List Char)}
    (h : ∀ b ∈ stack, b.line < n) (hstack : stack.Pairwise (·.line > ·.line)) :
    ∃ found opened, findingsFrom n stack lines = found ++ opened ∧
      found.Pairwise Finding.Precedes ∧
      (∀ f ∈ found, n ≤ f.line ∧ f.fault.isUnclosed = false) ∧
      opened.Pairwise (·.line < ·.line) ∧ ∀ f ∈ opened, f.fault.isUnclosed = true := by
  induction lines generalizing n stack with
  | nil =>
      refine ⟨[], _, findingsFrom_nil n stack, .nil, by simp, ?_, ?_⟩
      · rw [List.pairwise_map, List.pairwise_reverse]
        exact hstack
      · intro f hf
        obtain ⟨b, -, rfl⟩ := List.mem_map.1 hf
        rfl
  | cons line rest ih =>
      obtain ⟨found, opened, heq, hfound, hlines, hopened⟩ :=
        ih (line_lt_of_mem_blocksBehind h) (pairwise_blocksBehind (r := roleOf line) h hstack)
      refine ⟨findingsAt n stack line ++ found, opened, ?_, ?_, ?_, hopened⟩
      · rw [findingsFrom_cons, heq, List.append_assoc]
      · refine List.pairwise_append.2 ⟨pairwise_findingsAt n stack line, hfound, ?_⟩
        intro f hf g hg
        have hline : f.line = n := by rcases mem_findingsAt hf with rfl | ⟨rfl, -⟩ <;> rfl
        exact .inl (hline ▸ (hlines g hg).1)
      · intro f hf
        rcases List.mem_append.1 hf with hf | hf
        · rcases mem_findingsAt hf with rfl | ⟨rfl, -⟩ <;> exact ⟨Nat.le_refl n, rfl⟩
        · exact (hlines f hf).imp_left Nat.le_of_succ_le

/-! ## a whole script -/

/-- What the lines of a script do to the nesting of blocks, the white space at their ends apart.
The list begins with a line that does nothing, since the lines are numbered from one. -/
def roles (script : String) : List LineRole :=
  .plain :: (Text.lines script.toList).map fun line => roleOf (Text.trim line)

theorem stretch_eq_nil {q : List LineRole} {first last : Nat} (h : last ≤ first) :
    stretch q first last = [] :=
  List.drop_eq_nil_of_le (Nat.le_trans (List.length_take_le last q) h)

/-- No block is open before line `l` if no stretch that ends there has more openers than ends. -/
theorem depthAfter_take_eq_zero_iff (q : List LineRole) (l : Nat) :
    depthAfter 0 (q.take l) = 0 ↔
      ∀ s < l, openers (stretch q s l) ≤ closers (stretch q s l) := by
  rw [depthAfter_eq_zero_iff, Nat.zero_add]
  constructor
  · exact fun h s _ => h.2 s
  · intro h
    have hall : ∀ s, openers (stretch q s l) ≤ closers (stretch q s l) := fun s => by
      rcases Nat.lt_or_ge s l with hs | hs
      · exact h s hs
      · rw [stretch_eq_nil hs]
        exact Nat.le_refl 0
    exact ⟨hall 0, hall⟩

/-- What stays open behind line `l` is said by the stretches that begin there. -/
theorem staysOpen_zero_drop_iff (q : List LineRole) (l : Nat) :
    StaysOpen 0 (q.drop (l + 1)) ↔
      ∀ e > l, closers (stretch q (l + 1) (e + 1)) ≤ openers (stretch q (l + 1) (e + 1)) := by
  have hstretch : ∀ n, stretch q (l + 1) (l + n + 1) = (q.drop (l + 1)).take n := fun n => by
    rw [stretch, List.drop_take]
    congr 1
    omega
  constructor
  · intro h e he
    obtain ⟨n, rfl⟩ := Nat.exists_eq_add_of_lt he
    rw [Nat.add_assoc l n 1, hstretch]
    exact h (n + 1)
  · intro h n
    rcases n.eq_zero_or_pos with rfl | hn
    · simp
    · have hle := h (l + n) (Nat.lt_add_of_pos_right hn)
      rwa [hstretch] at hle

/-- The code of a finding tells whether it is a block left open. -/
theorem isUnclosed_eq_of_code_eq {f g : Fault} (h : f.code = g.code) :
    f.isUnclosed = g.isUnclosed := by
  cases f <;> cases g <;> simp_all [Fault.code, Fault.isUnclosed]

/-- A finding comes before another only by its line, or by its kind. -/
theorem Finding.Precedes.key_ne {f g : Finding} (h : f.Precedes g) :
    (f.line, f.fault.code) ≠ (g.line, g.fault.code) := by
  intro heq
  obtain ⟨hline, hcode⟩ := Prod.mk.inj heq
  rcases h with h | ⟨-, hf, hg⟩
  · exact absurd hline (Nat.ne_of_lt h)
  · simp [hf, hg, Fault.code] at hcode

/-- Nothing is reported twice of a line. -/
theorem nodup_keys_append {found opened : List Finding} (hfound : found.Pairwise Finding.Precedes)
    (hlines : ∀ f ∈ found, f.fault.isUnclosed = false)
    (hopened : opened.Pairwise (·.line < ·.line))
    (hblocks : ∀ f ∈ opened, f.fault.isUnclosed = true) :
    ((found ++ opened).map fun f => (f.line, f.fault.code)).Nodup := by
  rw [List.map_append, List.nodup_append]
  refine ⟨?_, ?_, ?_⟩
  · exact List.pairwise_map.2 (hfound.imp Finding.Precedes.key_ne)
  · refine List.pairwise_map.2 (hopened.imp fun hlt heq => ?_)
    exact Nat.ne_of_lt hlt (Prod.mk.inj heq).1
  · intro a ha b hb heq
    obtain ⟨f, hf, rfl⟩ := List.mem_map.1 ha
    obtain ⟨g, hg, rfl⟩ := List.mem_map.1 hb
    have hcode := isUnclosed_eq_of_code_eq (Prod.mk.inj heq).2
    rw [hlines f hf, hblocks g hg] at hcode
    cases hcode

/-- The report on a script is bracket matching.  An `end` is reported if and only if no
stretch of lines before it has more openers than ends; the block that a line opens is
reported, by its kind, if and only if no stretch behind the line has more ends than openers.
What is found line by line comes first, quotations before the `end` of their line, and then
the open blocks by their lines; nothing is reported twice of a line, and every opener and
every `end` is accounted for. -/
theorem findings_bracketing (script : String) :
    (∀ l, ⟨l, .unexpectedEnd⟩ ∈ (validate script).findings ↔
      (roles script)[l]? = some .closer ∧
        ∀ s < l, openers (stretch (roles script) s l) ≤ closers (stretch (roles script) s l)) ∧
    (∀ l kind, ⟨l, .unclosedBlock kind⟩ ∈ (validate script).findings ↔
      (roles script)[l]? = some (.opener kind) ∧
        ∀ e > l, closers (stretch (roles script) (l + 1) (e + 1)) ≤
          openers (stretch (roles script) (l + 1) (e + 1))) ∧
    (∃ found opened, (validate script).findings = found ++ opened ∧
      found.Pairwise Finding.Precedes ∧ (∀ f ∈ found, f.fault.isUnclosed = false) ∧
      opened.Pairwise (·.line < ·.line) ∧ ∀ f ∈ opened, f.fault.isUnclosed = true) ∧
    ((validate script).findings.map fun f => (f.line, f.fault.code)).Nodup ∧
    openers (roles script) + (validate script).findings.countP (·.fault = .unexpectedEnd) =
      closers (roles script) + (validate script).findings.countP (·.fault.isUnclosed) ∧
    ((validate script).isValid = true ↔ (validate script).findings = []) := by
  -- with a blank line in front, lines are numbered from zero and their places are their numbers
  have hzero : (validate script).findings = findingsFrom 0 [] ([] :: trimmedLines script) :=
    (findingsFrom_skipped rfl).symm
  have hroles : roles script = ([] :: trimmedLines script).map roleOf := by
    rw [roles, trimmedLines, List.map_cons, List.map_map]
    rfl
  obtain ⟨found, opened, heq, hfound, hlines, hopened, hblocks⟩ :=
    @findingsFrom_eq_append 0 [] ([] :: trimmedLines script) (by simp) .nil
  rw [← hzero] at heq
  refine ⟨fun l => ?_, fun l kind => ?_, ?_, ?_, ?_, ?_⟩
  · rw [hzero, mem_findingsFrom_unexpectedEnd_iff, ← hroles]
    simp only [Nat.zero_add, exists_eq_left', List.length_nil, depthAfter_take_eq_zero_iff]
  · rw [hzero, mem_findingsFrom_unclosedBlock_iff, ← hroles]
    simp only [Nat.zero_add, exists_eq_left', List.getElem?_nil, reduceCtorEq, false_and,
      exists_false, false_or, staysOpen_zero_drop_iff]
  · exact ⟨found, opened, heq, hfound, fun f hf => (hlines f hf).2, hopened, hblocks⟩
  · exact heq ▸ nodup_keys_append hfound (fun f hf => (hlines f hf).2) hopened hblocks
  · have hcount := length_add_openers 0 [] ([] :: trimmedLines script)
    rwa [List.length_nil, Nat.zero_add, ← hzero, ← hroles] at hcount
  · rw [Report.isValid, List.isEmpty_iff]

/-- An `end` too many does not make up for a block left open below it. -/
example : (validate "end\nif a then\nend\nwhile b do").findings =
    [⟨1, .unexpectedEnd⟩, ⟨4, .unclosedBlock .whileDo⟩] := by decide +kernel

end ScriptComposer.Script
