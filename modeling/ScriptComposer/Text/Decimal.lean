/-!
# ScriptComposer.Text.Decimal

Natural numbers in decimal digits, written without leading zeros and read
with any number of them.

* `readNat?_writeNat` — what is written is read back;
* `readWord?_writeNat` — so it is by the reader of 64-bit words, below its
  limit.
-/

namespace ScriptComposer.Text

def writeNat (n : Nat) : List Char := Nat.toDigits 10 n

/-- The number that a run of ASCII digits stands for; nothing else is a
number. -/
def readNat? (s : List Char) : Option Nat :=
  if s ≠ [] ∧ s.all Char.isDigit then some (Nat.ofDigitChars 10 s 0) else none

/-- One more than the largest 64-bit word. -/
def wordLimit : Nat := Nat.pow 2 64

/-- The 64-bit word that a run of digits stands for; one plus sign may come
first, and a number that is too large is none. -/
def readWord? (s : List Char) : Option Nat :=
  let digits :=
    match s with
    | '+' :: rest => rest
    | _ => s
  (readNat? digits).filter (· < wordLimit)

/-- The written form has digits only. -/
theorem isDigit_of_mem_writeNat {n : Nat} {c : Char} (h : c ∈ writeNat n) : c.isDigit = true :=
  Nat.isDigit_of_mem_toDigits (by decide) (by decide) h

/-- What is written is read back. -/
theorem readNat?_writeNat (n : Nat) : readNat? (writeNat n) = some n := by
  have hd : (writeNat n).all Char.isDigit = true :=
    List.all_eq_true.2 fun _ hc => isDigit_of_mem_writeNat hc
  rw [readNat?, if_pos ⟨Nat.toDigits_ne_nil, hd⟩, writeNat,
    Nat.ofDigitChars_toDigits (by decide) (by decide)]

/-- A written number never starts with a plus sign. -/
theorem writeNat_ne_plus (n : Nat) (rest : List Char) : writeNat n ≠ '+' :: rest := fun h =>
  absurd (isDigit_of_mem_writeNat (n := n) (h ▸ List.mem_cons_self)) (by decide)

/-- What is written is read back as a word, below the limit. -/
theorem readWord?_writeNat {n : Nat} (h : n < wordLimit) : readWord? (writeNat n) = some n := by
  unfold readWord?
  split
  · next rest heq => exact absurd heq (writeNat_ne_plus n rest)
  · simp [readNat?_writeNat, h]

end ScriptComposer.Text
