import ScriptComposer.Json.Error

/-!
# ScriptComposer.Json.Literal

Strings as JSON writes them.

A literal is first cut into strokes, each a character that stands for itself
or an escape, up to the closing quote.  What the strokes say is a second
question: escapes of UTF-16 units can pair up into one character or fail to,
and a reader that only passes over a literal does not ask.

* `scan_flatMap_writeChar` — what is written is scanned up to its closing quote,
  stroke by stroke;
* `text_ofString` — and says what was written.
-/

namespace ScriptComposer.Json

/-- A character or escape of a string literal. -/
inductive Stroke where
  | plain (c : Char)
  /-- A backslash and one letter, for the character given. -/
  | short (c : Char)
  /-- A UTF-16 unit by its four hexadecimal digits. -/
  | unit (n : Nat)
  deriving DecidableEq, Repr

/-- Where the strokes of a literal end. -/
inductive Closing where
  | closed
  | endOfText
  | controlCharacter
  /-- A backslash before a character that no escape begins with. -/
  | badEscape
  /-- The escape of a unit without its four digits. -/
  | badUnit
  deriving DecidableEq, Repr

/-- A string literal, from behind its opening quote. -/
structure Literal where
  strokes : List Stroke
  closing : Closing
  deriving DecidableEq, Repr

/-! ## scanning -/

/-- The value of a hexadecimal digit. -/
def hexValue? (c : Char) : Option Nat :=
  if '0' ≤ c ∧ c ≤ '9' then some (c.toNat - '0'.toNat)
  else if 'a' ≤ c ∧ c ≤ 'f' then some (c.toNat - 'a'.toNat + 10)
  else if 'A' ≤ c ∧ c ≤ 'F' then some (c.toNat - 'A'.toNat + 10)
  else none

/-- The unit with those four hexadecimal digits. -/
def unitOfDigits? (a b c d : Char) : Option Nat := do
  return 4096 * (← hexValue? a) + 256 * (← hexValue? b) + 16 * (← hexValue? c) + (← hexValue? d)

/-- The character that a backslash and one letter stand for. -/
def shortEscape? : Char → Option Char
  | '"' => some '"'
  | '\\' => some '\\'
  | '/' => some '/'
  | 'b' => some '\x08'
  | 'f' => some '\x0c'
  | 'n' => some '\n'
  | 'r' => some '\r'
  | 't' => some '\t'
  | _ => none

/-- How many bytes the text takes in UTF-8. -/
def byteLength (s : List Char) : Nat := s.foldr (fun c n => c.utf8Size + n) 0

/-- Put a stroke in front of a literal that was scanned to the length `n`, the
stroke taking `k` characters. -/
def addStroke (k : Nat) (stroke : Stroke) (scanned : Literal × Nat) : Literal × Nat :=
  (⟨stroke :: scanned.1.strokes, scanned.1.closing⟩, k + scanned.2)

/-- The literal that the text behind an opening quote begins with, and how many
characters of the text it takes.

The four digits of a unit are four bytes: with fewer left the text is at its
end, even if a closing quote is among them. -/
def Literal.scan : List Char → Literal × Nat
  | [] => (⟨[], .endOfText⟩, 0)
  | '"' :: _ => (⟨[], .closed⟩, 1)
  | '\\' :: 'u' :: a :: b :: c :: d :: rest =>
      match unitOfDigits? a b c d with
      | some n => addStroke 6 (.unit n) (scan rest)
      | none => (⟨[], .badUnit⟩, 2)
  | '\\' :: 'u' :: rest => (⟨[], if byteLength rest < 4 then .endOfText else .badUnit⟩, 2)
  | ['\\'] => (⟨[], .endOfText⟩, 1)
  | '\\' :: c :: rest =>
      match shortEscape? c with
      | some c => addStroke 2 (.short c) (scan rest)
      | none => (⟨[], .badEscape⟩, 2)
  | c :: rest =>
      if c < ' ' then (⟨[], .controlCharacter⟩, 1) else addStroke 1 (.plain c) (scan rest)

/-! ## what a literal says -/

/-- Is the unit the first half of a surrogate pair? -/
def isLeading (n : Nat) : Bool := Nat.ble 0xd800 n && Nat.ble n 0xdbff

/-- Is the unit the second half of a surrogate pair? -/
def isTrailing (n : Nat) : Bool := Nat.ble 0xdc00 n && Nat.ble n 0xdfff

/-- The character of a surrogate pair. -/
def pairedChar (first second : Nat) : Char :=
  Char.ofNat (0x10000 + (first - 0xd800) * 0x400 + (second - 0xdc00))

/-- The fault of a literal that is not closed. -/
def Closing.fault? : Closing → Option Fault
  | .closed => none
  | .endOfText => some .endInText
  | .controlCharacter => some .controlCharacter
  | .badEscape | .badUnit => some .badEscape

/-- The fault of a first half of a pair that no unit follows. -/
def Closing.afterLeading : Closing → Fault
  | .endOfText => .endInText
  | .badUnit => .badEscape
  | .closed | .controlCharacter | .badEscape => .cutSurrogate

/-- What the strokes say, up to the first fault. -/
def readStrokes (closing : Closing) : List Stroke → Except Fault (List Char)
  | [] =>
      match closing.fault? with
      | none => .ok []
      | some f => .error f
  | .plain c :: rest => (readStrokes closing rest).map (c :: ·)
  | .short c :: rest => (readStrokes closing rest).map (c :: ·)
  | .unit n :: rest =>
      if isTrailing n then .error .loneSurrogate
      else if isLeading n then
        match rest with
        | .unit m :: rest =>
            if isTrailing m then (readStrokes closing rest).map (pairedChar n m :: ·)
            else .error .loneSurrogate
        | [] => .error closing.afterLeading
        | _ :: _ => .error .cutSurrogate
      else (readStrokes closing rest).map (Char.ofNat n :: ·)

/-- What the literal says. -/
def Literal.text (l : Literal) : Except Fault String :=
  (readStrokes l.closing l.strokes).map String.ofList

/-- Pass over the literal: its escapes must be escapes, whatever they say. -/
def Literal.skip (l : Literal) : Except Fault Unit :=
  match l.closing.fault? with
  | none => .ok ()
  | some f => .error f

/-! ## writing -/

/-- A hexadecimal digit, for values below sixteen. -/
def hexDigit (n : Nat) : Char := Nat.digitChar n

/-- How a character is written in a string literal.  Controls without a short
escape are written as units; all else stands for itself. -/
def writeChar (c : Char) : List Char :=
  match c with
  | '"' => ['\\', '"']
  | '\\' => ['\\', '\\']
  | '\x08' => ['\\', 'b']
  | '\x0c' => ['\\', 'f']
  | '\n' => ['\\', 'n']
  | '\r' => ['\\', 'r']
  | '\t' => ['\\', 't']
  | c =>
      if c < ' ' then ['\\', 'u', '0', '0', hexDigit (c.toNat / 16), hexDigit (c.toNat % 16)]
      else [c]

/-- The stroke by which a character is written. -/
def strokeOf (c : Char) : Stroke :=
  match c with
  | '"' | '\\' | '\x08' | '\x0c' | '\n' | '\r' | '\t' => .short c
  | c => if c < ' ' then .unit c.toNat else .plain c

/-- The literal that says `s`. -/
def Literal.ofChars (s : List Char) : Literal := ⟨s.map strokeOf, .closed⟩

/-- The literal that says `s`. -/
def Literal.ofString (s : String) : Literal := .ofChars s.toList

/-- A text as it is written, between its quotes. -/
def writeText (s : String) : List Char := '"' :: s.toList.flatMap writeChar ++ ['"']

/-! ## what is written is read -/

/-- The hexadecimal digits of a control character are those of its number. -/
theorem unitOfDigits?_hexDigit {n : Nat} (h : n < 32) :
    unitOfDigits? '0' '0' (hexDigit (n / 16)) (hexDigit (n % 16)) = some n := by
  revert n
  decide

/-- A character that is no quote, backslash or control stands for itself. -/
theorem scan_plain {c : Char} (rest : List Char) (hq : c ≠ '"') (hb : c ≠ '\\')
    (hc : ¬c < ' ') : Literal.scan (c :: rest) = addStroke 1 (.plain c) (Literal.scan rest) := by
  rw [Literal.scan.eq_def]
  split
  · next h => cases h
  · next h => exact absurd (List.cons.inj h).1 hq
  · next h => exact absurd (List.cons.inj h).1 hb
  · next h => exact absurd (List.cons.inj h).1 hb
  · next h => exact absurd (List.cons.inj h).1 hb
  · next h => exact absurd (List.cons.inj h).1 hb
  · next h =>
      obtain ⟨rfl, rfl⟩ := List.cons.inj h
      exact if_neg hc

/-- A written character is scanned as one stroke. -/
theorem scan_writeChar (c : Char) (rest : List Char) :
    Literal.scan (writeChar c ++ rest) =
      addStroke (writeChar c).length (strokeOf c) (Literal.scan rest) := by
  unfold writeChar strokeOf
  split
  all_goals try rfl
  next hq hb _ _ _ _ _ =>
    split
    · next hc =>
        have hn : c.toNat < 32 := hc
        simp [Literal.scan, unitOfDigits?_hexDigit hn]
    · next hc => exact scan_plain rest hq hb hc

/-- What is written is scanned up to its closing quote, stroke by stroke. -/
theorem scan_flatMap_writeChar (s rest : List Char) :
    Literal.scan (s.flatMap writeChar ++ '"' :: rest) =
      (.ofChars s, (s.flatMap writeChar).length + 1) := by
  induction s with
  | nil => simp [Literal.scan, Literal.ofChars]
  | cons c s ih =>
      rw [List.flatMap_cons, List.append_assoc, scan_writeChar, ih]
      simp [addStroke, Literal.ofChars, Nat.add_assoc]

/-- A character is written as itself, by a letter, or, if it is a control, as a unit. -/
theorem strokeOf_cases (c : Char) :
    strokeOf c = .plain c ∨ strokeOf c = .short c ∨
      (strokeOf c = .unit c.toNat ∧ c.toNat < 32) := by
  unfold strokeOf
  split
  all_goals try exact .inr (.inl rfl)
  split
  · next hc => exact .inr (.inr ⟨rfl, hc⟩)
  · exact .inl rfl

/-- A unit outside of the surrogates says its character. -/
theorem readStrokes_unit {n : Nat} (ht : isTrailing n = false) (hl : isLeading n = false)
    (closing : Closing) (rest : List Stroke) :
    readStrokes closing (.unit n :: rest) =
      (readStrokes closing rest).map (Char.ofNat n :: ·) := by
  rw [readStrokes.eq_def]
  simp [ht, hl]

/-- The strokes by which a text is written say the text. -/
theorem readStrokes_map_strokeOf (s : List Char) :
    readStrokes .closed (s.map strokeOf) = .ok s := by
  induction s with
  | nil => rfl
  | cons c s ih =>
      rw [List.map_cons]
      rcases strokeOf_cases c with h | h | ⟨h, hc⟩
      · simp [h, readStrokes, ih, Except.map]
      · simp [h, readStrokes, ih, Except.map]
      · have ht : isTrailing c.toNat = false := by simp [isTrailing]; omega
        have hl : isLeading c.toNat = false := by simp [isLeading]; omega
        simp [h, readStrokes_unit ht hl, ih, Except.map]

/-- The literal of a text says the text. -/
theorem Literal.text_ofString (s : String) : (Literal.ofString s).text = .ok s := by
  simp [Literal.text, Literal.ofString, Literal.ofChars, readStrokes_map_strokeOf, Except.map]

end ScriptComposer.Json
