import ScriptComposer.Proofs.Script.HeadLine
import ScriptComposer.Proofs.Script.Matching

/-!
# ScriptComposer.Proofs.Script.Reading

Reading lines as brackets.

To the report, a script is a sequence of brackets: the head lines of the
statements that open a block, and the lines of the `end`s.  What else it says
is silent.  A declaration is silent as a whole if its body is: it opens a block
and closes it again.

* `silent_of_findingsFrom_eq_nil` — lines without a finding of their own are
  silent wherever they stand;
* `Reads.findingsFrom_eq` — the findings on lines that read as brackets are
  those of one pass over the brackets;
* `Reads.getElem?_line` — and each bracket stands on its line;
* `Reads.append` — what is read in parts reads as the parts do, one after the other.
-/

namespace ScriptComposer

/-- What the statement does to the nesting of blocks. -/
def Control.role : Control → Script.LineRole
  | .ifThen _ => .opener .ifThen
  | .whileDo _ => .opener .whileDo
  | .forDo .. => .opener .forDo
  | .blockEnd => .closer
  | .declaration _ => .plain

namespace Script

/-! ## one line more in front -/

section Line

variable {n : Nat} {stack : List OpenBlock} {line : List Char} {rest : List (List Char)}

/-- A line that is passed over has no finding, not even for its quotations. -/
theorem findingsFrom_skipped (h : isSkipped line = true) :
    findingsFrom n stack (line :: rest) = findingsFrom (n + 1) stack rest := by
  simp [findingsFrom, h]

/-- A plain line is only looked at for its quotations. -/
theorem findingsFrom_plain (h : isSkipped line = false) (hr : lineRole line = .plain) :
    findingsFrom n stack (line :: rest) =
      quoteFindings n line ++ findingsFrom (n + 1) stack rest := by
  simp [findingsFrom, h, hr]

/-- An opener is put on the stack with its line. -/
theorem findingsFrom_opener (h : isSkipped line = false) {kind : BlockKind}
    (hr : lineRole line = .opener kind) :
    findingsFrom n stack (line :: rest) =
      quoteFindings n line ++ findingsFrom (n + 1) (⟨kind, n⟩ :: stack) rest := by
  simp [findingsFrom, h, hr]

/-- An `end` closes the block on top. -/
theorem findingsFrom_closer_cons (h : isSkipped line = false) (hr : lineRole line = .closer)
    (b : OpenBlock) :
    findingsFrom n (b :: stack) (line :: rest) =
      quoteFindings n line ++ findingsFrom (n + 1) stack rest := by
  simp [findingsFrom, h, hr]

/-- An `end` is unexpected when the stack is empty. -/
theorem findingsFrom_closer_nil (h : isSkipped line = false) (hr : lineRole line = .closer) :
    findingsFrom n [] (line :: rest) =
      quoteFindings n line ++ ⟨n, .unexpectedEnd⟩ :: findingsFrom (n + 1) [] rest := by
  simp [findingsFrom, h, hr]

theorem quoteFindings_eq_nil_iff :
    quoteFindings n line = [] ↔ hasUnbalancedQuotes line = false := by
  simp [quoteFindings]

end Line

/-! ## silent lines -/

/-- Lines that the report passes over: wherever they stand, there is no finding on
them and they leave the same blocks open. -/
def Silent (lines : List (List Char)) : Prop :=
  ∀ n stack rest, findingsFrom n stack (lines ++ rest) = findingsFrom (n + lines.length) stack rest

theorem silent_nil : Silent [] := fun _ _ _ => rfl

/-- Silent lines one after the other are silent. -/
theorem Silent.append {as bs : List (List Char)} (ha : Silent as) (hb : Silent bs) :
    Silent (as ++ bs) := by
  intro n stack rest
  rw [List.append_assoc, ha, hb, List.length_append, Nat.add_assoc]

theorem silent_of_isSkipped {line : List Char} (h : isSkipped line = true) : Silent [line] :=
  fun _ _ _ => findingsFrom_skipped h

/-- A plain line with its quotations closed is silent. -/
theorem silent_of_plain {line : List Char} (h : isSkipped line = false)
    (hq : hasUnbalancedQuotes line = false) (hr : lineRole line = .plain) : Silent [line] := by
  intro n stack rest
  rw [List.singleton_append, findingsFrom_plain h hr, quoteFindings_eq_nil_iff.2 hq]
  rfl

/-- Lines that leave nothing open and have no finding are silent below other open
blocks and at another place, too. -/
theorem findingsFrom_append_of_eq_nil {lines : List (List Char)} {n : Nat}
    {opened : List OpenBlock} (h : findingsFrom n opened lines = []) (m : Nat)
    (opened' stack : List OpenBlock) (rest : List (List Char))
    (hlen : opened'.length = opened.length) :
    findingsFrom m (opened' ++ stack) (lines ++ rest) =
      findingsFrom (m + lines.length) stack rest := by
  induction lines generalizing n opened m opened' with
  | nil =>
      obtain rfl : opened = [] := by simpa [findingsFrom] using h
      obtain rfl : opened' = [] := List.length_eq_zero_iff.1 hlen
      rfl
  | cons line lines ih =>
      rw [List.length_cons, Nat.add_comm lines.length, ← Nat.add_assoc, List.cons_append]
      cases hs : isSkipped line with
      | true =>
          rw [findingsFrom_skipped hs] at h ⊢
          exact ih h (m + 1) opened' hlen
      | false =>
          cases hr : lineRole line with
          | plain =>
              rw [findingsFrom_plain hs hr] at h ⊢
              obtain ⟨hq, h⟩ := List.append_eq_nil_iff.1 h
              rw [quoteFindings_eq_nil_iff.2 (quoteFindings_eq_nil_iff.1 hq)]
              exact ih h (m + 1) opened' hlen
          | opener kind =>
              rw [findingsFrom_opener hs hr] at h ⊢
              obtain ⟨hq, h⟩ := List.append_eq_nil_iff.1 h
              rw [quoteFindings_eq_nil_iff.2 (quoteFindings_eq_nil_iff.1 hq)]
              exact ih h (m + 1) (⟨kind, m⟩ :: opened') (by simp [hlen])
          | closer =>
              cases opened with
              | nil =>
                  rw [findingsFrom_closer_nil hs hr] at h
                  simp at h
              | cons b opened =>
                  obtain ⟨b', opened', rfl⟩ := List.exists_cons_of_length_eq_add_one hlen
                  rw [List.cons_append, findingsFrom_closer_cons hs hr]
                  rw [findingsFrom_closer_cons hs hr] at h
                  obtain ⟨hq, h⟩ := List.append_eq_nil_iff.1 h
                  rw [quoteFindings_eq_nil_iff.2 (quoteFindings_eq_nil_iff.1 hq)]
                  exact ih h (m + 1) opened' (Nat.add_right_cancel hlen)

/-- Lines without findings of their own are silent wherever they stand. -/
theorem silent_of_findingsFrom_eq_nil {n : Nat} {lines : List (List Char)}
    (h : findingsFrom n [] lines = []) : Silent lines :=
  fun m stack rest => findingsFrom_append_of_eq_nil h m [] stack rest rfl

/-- A block around silent lines is silent. -/
theorem Silent.block {first last : List Char} {lines : List (List Char)} {kind : BlockKind}
    (hf : isSkipped first = false) (hfq : hasUnbalancedQuotes first = false)
    (hfr : lineRole first = .opener kind) (h : Silent lines)
    (hl : isSkipped last = false) (hlq : hasUnbalancedQuotes last = false)
    (hlr : lineRole last = .closer) : Silent (first :: (lines ++ [last])) := by
  intro n stack rest
  have hopen : findingsFrom n stack (first :: (lines ++ last :: rest)) =
      findingsFrom (n + 1) (⟨kind, n⟩ :: stack) (lines ++ last :: rest) := by
    rw [findingsFrom_opener hf hfr, quoteFindings_eq_nil_iff.2 hfq]
    rfl
  have hclose : findingsFrom (n + 1 + lines.length) (⟨kind, n⟩ :: stack) (last :: rest) =
      findingsFrom (n + 1 + lines.length + 1) stack rest := by
    rw [findingsFrom_closer_cons hl hlr, quoteFindings_eq_nil_iff.2 hlq]
    rfl
  rw [List.cons_append, List.append_assoc, List.singleton_append, hopen, h, hclose]
  congr 1
  simp only [List.length_cons, List.length_append, List.length_nil]
  omega

/-! ## brackets -/

/-- A statement that opens or closes a block, and the line that its text stands on. -/
structure Bracket where
  line : Nat
  control : Control
  deriving DecidableEq, Repr

namespace Bracket

/-- What the bracket does to the nesting of blocks. -/
def role (b : Bracket) : LineRole := b.control.role

/-- The kind of block that the report takes the bracket for: that of the first block
its line could open. -/
def kind (b : Bracket) : BlockKind :=
  (openedBlock? (pieces b.control.headLine.toList)).getD .function

/-- The block that is open behind the bracket. -/
def openBlock (b : Bracket) : OpenBlock := ⟨b.kind, b.line⟩

/-- The finding on an `end` that closes no block. -/
def strayFinding (b : Bracket) : Finding := ⟨b.line, .unexpectedEnd⟩

/-- The finding on a block that no `end` closes. -/
def unclosedFinding (b : Bracket) : Finding := ⟨b.line, .unclosedBlock b.kind⟩

end Bracket

/-- The findings on what a pass over brackets has found. -/
def Nesting.findings (n : Nesting Bracket) : List Finding :=
  n.strays.map Bracket.strayFinding ++ n.stack.reverse.map Bracket.unclosedFinding

/-- The words around a condition have visible ends, and none begins a comment. -/
theorem ends_blockWords : ∀ words ∈ blockWords, ∃ first last,
    words.1.toList.head? = some first ∧ words.2.toList.getLast? = some last ∧
      Text.isBlank first = false ∧ Text.isBlank last = false ∧ first ≠ '-' := by
  intro words hw
  simp only [blockWords, List.mem_cons, List.not_mem_nil, or_false] at hw
  rcases hw with rfl | rfl | rfl
  · exact ⟨'i', 'n', by decide⟩
  · exact ⟨'w', 'o', by decide⟩
  · exact ⟨'f', 'o', by decide⟩

/-- The ends of a head line are visible, and it is no comment. -/
theorem headLine_ends {c : Control} (h : c.role ≠ .plain) :
    ∃ first last, c.headLine.toList.head? = some first ∧ c.headLine.toList.getLast? = some last ∧
      Text.isBlank first = false ∧ Text.isBlank last = false ∧ first ≠ '-' := by
  by_cases hc : c = .blockEnd
  · subst hc
    exact ⟨'e', 'd', by decide⟩
  · have ho : c.opensBlock = true := by
      cases c <;> simp_all [Control.role, Control.opensBlock]
    obtain ⟨words, hw, middle, hline⟩ := headLine_of_opensBlock ho
    obtain ⟨first, last, hfirst, hlast, hends⟩ := ends_blockWords words hw
    refine ⟨first, last, ?_, ?_, hends⟩
    · rw [hline, List.head?_append, hfirst, Option.some_or]
    · rw [hline, ← List.cons_append, ← List.append_assoc, List.append_cons,
        List.getLast?_append, hlast, Option.some_or]

/-- Only a line that begins with a hyphen can be a comment. -/
theorem isSkipped_eq_false {line : List Char} {c : Char} (h : line.head? = some c) (hc : c ≠ '-') :
    isSkipped line = false := by
  obtain ⟨rest, rfl⟩ := List.head?_eq_some_iff.1 h
  unfold isSkipped
  split <;> simp_all

/-- The line of a bracket is not passed over. -/
theorem isSkipped_headLine {c : Control} (h : c.role ≠ .plain) :
    isSkipped c.headLine.toList = false := by
  obtain ⟨first, -, hfirst, -, -, -, hc⟩ := headLine_ends h
  exact isSkipped_eq_false hfirst hc

/-- The line of an opener is read as one of its kind, whatever its condition. -/
theorem lineRole_headLine_of_opener {b : Bracket} {kind : BlockKind} (h : b.role = .opener kind) :
    lineRole b.control.headLine.toList = .opener b.kind := by
  have ho : b.control.opensBlock = true := by
    cases hc : b.control <;> simp_all [Bracket.role, Control.role, Control.opensBlock]
  obtain ⟨kind', hk⟩ := openedBlock?_headLine ho
  simp [lineRole, Bracket.kind, hk]

/-- The line of an `end` is read as one. -/
theorem lineRole_headLine_of_closer {b : Bracket} (h : b.role = .closer) :
    lineRole b.control.headLine.toList = .closer := by
  have hc : b.control = .blockEnd := by
    cases hc : b.control <;> simp_all [Bracket.role, Control.role]
  rw [hc, lineRole_end]

/-! ## reading -/

/-- The lines numbered from `n` on read as the brackets: each line is the head line of
the next bracket or belongs to a silent stretch. -/
inductive Reads : Nat → List (List Char) → List Bracket → Prop
  | done (n) : Reads n [] []
  | silent {n lines rest q} (h : Silent lines) (hr : Reads (n + lines.length) rest q) :
      Reads n (lines ++ rest) q
  | bracket {n c rest q} (hc : Control.role c ≠ .plain)
      (hq : hasUnbalancedQuotes c.headLine.toList = false) (hr : Reads (n + 1) rest q) :
      Reads n (c.headLine.toList :: rest) (⟨n, c⟩ :: q)

/-- Lines that read as brackets, one after the other, read as these brackets in order. -/
theorem Reads.append {n : Nat} {as bs : List (List Char)} {p q : List Bracket}
    (ha : Reads n as p) (hb : Reads (n + as.length) bs q) : Reads n (as ++ bs) (p ++ q) := by
  induction ha with
  | done n => exact hb
  | silent h _ ih =>
      rw [List.length_append, ← Nat.add_assoc] at hb
      rw [List.append_assoc]
      exact .silent h (ih hb)
  | bracket hc hq _ ih =>
      rw [List.length_cons, Nat.add_comm _ 1, ← Nat.add_assoc] at hb
      exact .bracket hc hq (ih hb)

/-- Silent lines read as no brackets. -/
theorem Silent.reads {lines : List (List Char)} (h : Silent lines) (n : Nat) :
    Reads n lines [] := by
  have := Reads.silent h (.done (n + lines.length))
  rwa [List.append_nil] at this

/-- The findings on lines that read as brackets are those of a pass over the
brackets. -/
theorem Reads.findingsFrom_eq {n : Nat} {lines : List (List Char)} {q : List Bracket}
    (h : Reads n lines q) (strays stack : List Bracket) :
    strays.map Bracket.strayFinding ++ findingsFrom n (stack.map Bracket.openBlock) lines =
      (q.foldl (Nesting.read Bracket.role) ⟨strays, stack⟩).findings := by
  induction h generalizing strays stack with
  | done n => simp [findingsFrom, Nesting.findings, Bracket.openBlock, Bracket.unclosedFinding]
  | silent h _ ih => rw [h, ih]
  | @bracket n c rest q hc hq _ ih =>
      have hs := isSkipped_headLine hc
      have hquote : quoteFindings n c.headLine.toList = [] := quoteFindings_eq_nil_iff.2 hq
      rw [List.foldl_cons]
      cases hr : Bracket.role ⟨n, c⟩ with
      | plain => exact absurd hr hc
      | opener kind =>
          have hread : Nesting.read Bracket.role ⟨strays, stack⟩ ⟨n, c⟩ =
              ⟨strays, ⟨n, c⟩ :: stack⟩ := by simp [Nesting.read, hr]
          have hline := lineRole_headLine_of_opener hr
          rw [findingsFrom_opener hs hline, hquote, hread, ← ih]
          rfl
      | closer =>
          have hline := lineRole_headLine_of_closer hr
          cases stack with
          | nil =>
              have hread : Nesting.read Bracket.role ⟨strays, []⟩ ⟨n, c⟩ =
                  ⟨strays ++ [⟨n, c⟩], []⟩ := by simp [Nesting.read, hr]
              rw [List.map_nil, findingsFrom_closer_nil hs hline, hquote, hread, ← ih]
              simp [Bracket.strayFinding]
          | cons b stack =>
              have hread : Nesting.read Bracket.role ⟨strays, b :: stack⟩ ⟨n, c⟩ =
                  ⟨strays, stack⟩ := by simp [Nesting.read, hr]
              rw [List.map_cons, findingsFrom_closer_cons hs hline, hquote, hread, ← ih]
              rfl

/-- Each bracket stands on its line. -/
theorem Reads.getElem?_line {n : Nat} {lines : List (List Char)} {q : List Bracket}
    (h : Reads n lines q) :
    ∀ b ∈ q, n ≤ b.line ∧ lines[b.line - n]? = some b.control.headLine.toList := by
  induction h with
  | done n => simp
  | @silent n lines rest q _ _ ih =>
      intro b hb
      obtain ⟨hle, hline⟩ := ih b hb
      refine ⟨by omega, ?_⟩
      rw [List.getElem?_append_right (by omega), Nat.sub_sub]
      exact hline
  | @bracket n c rest q _ _ _ ih =>
      intro b hb
      rcases List.mem_cons.1 hb with rfl | hb
      · exact ⟨Nat.le_refl n, by simp⟩
      · obtain ⟨hle, hline⟩ := ih b hb
        refine ⟨by omega, ?_⟩
        obtain ⟨k, hk⟩ : ∃ k, b.line = n + 1 + k := ⟨b.line - (n + 1), by omega⟩
        rw [hk, Nat.add_sub_cancel_left] at hline
        rw [hk, Nat.add_assoc, Nat.add_sub_cancel_left, Nat.add_comm 1, List.getElem?_cons_succ]
        exact hline

/-- The brackets stand on lines of their own, in order. -/
theorem Reads.pairwise {n : Nat} {lines : List (List Char)} {q : List Bracket}
    (h : Reads n lines q) : q.Pairwise (·.line < ·.line) := by
  induction h with
  | done _ => exact .nil
  | silent _ _ ih => exact ih
  | bracket _ _ hr ih => exact .cons (fun b hb => (hr.getElem?_line b hb).1) ih

end Script

end ScriptComposer
