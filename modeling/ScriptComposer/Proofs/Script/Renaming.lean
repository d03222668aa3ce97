import ScriptComposer.Proofs.Script.HeadLine
import ScriptComposer.Proofs.Text.Lines
import ScriptComposer.Script.Report

/-!
# ScriptComposer.Proofs.Script.Renaming

Giving the words of a text other names.

A renaming puts a word in the place of every word.  The keywords keep their name and no other
word gets the name of a keyword, so a line does to the nesting of blocks what it did before.

* `Renaming.pieces_apply` — a renamed text falls into the renamed pieces: words are renamed as
  a whole and never grow together;
* `Renaming.splitAt_apply`, `Renaming.trim_apply` — a text is renamed line by line, whatever
  white space stands around its lines;
* `Renaming.hasUnbalancedQuotes_apply` — quotations end where they ended;
* `Renaming.lineRole_apply` — lines keep what they do to the nesting of blocks.
-/

namespace ScriptComposer

namespace Text

/-- No stretch of white space overlaps one of word characters. -/
theorem blankClass_apart_wordClass : (blankClass.stretches.any fun r =>
    wordClass.stretches.any fun t => Nat.ble t.1 r.2 && Nat.ble r.1 t.2) = false := by
  decide +kernel

/-- White space is not part of a word. -/
theorem isWord_eq_false_of_isBlank {c : Char} (h : isBlank c = true) : isWord c = false := by
  rw [Bool.eq_false_iff]
  intro hword
  obtain ⟨r, hr, hr₁, hr₂⟩ := CharClass.hasPoint_iff.1 h
  obtain ⟨t, ht, ht₁, ht₂⟩ := CharClass.hasPoint_iff.1 hword
  have hnone := Bool.eq_false_iff.2 (List.any_eq_false.1 blankClass_apart_wordClass r hr)
  have hapart := List.any_eq_false.1 hnone t ht
  rw [Bool.and_eq_true, Nat.ble_eq, Nat.ble_eq] at hapart
  omega

end Text

namespace Script

/-! ## what is in a cut text -/

/-- A word is made of word characters, of one at least. -/
def IsWordText (w : List Char) : Prop := w ≠ [] ∧ ∀ c ∈ w, Text.isWord c = true

instance (w : List Char) : Decidable (IsWordText w) := inferInstanceAs (Decidable (_ ∧ _))

theorem isWordText_singleton {c : Char} (hc : Text.isWord c = true) : IsWordText [c] :=
  ⟨List.cons_ne_nil c [], by simpa using hc⟩

/-- A word grows at its front. -/
theorem IsWordText.cons {c : Char} {w : List Char} (hc : Text.isWord c = true)
    (hw : IsWordText w) : IsWordText (c :: w) :=
  ⟨List.cons_ne_nil c w, List.forall_mem_cons.2 ⟨hc, hw.2⟩⟩

/-- Pieces that a text is cut into: between two words there is always another character. -/
inductive IsCut : List Piece → Prop
  | nil : IsCut []
  | gap {c ps} (hc : Text.isWord c = false) (h : IsCut ps) : IsCut (.gap c :: ps)
  | word {w} (hw : IsWordText w) : IsCut [.word w]
  | wordGap {w c ps} (hw : IsWordText w) (hc : Text.isWord c = false) (h : IsCut ps) :
      IsCut (.word w :: .gap c :: ps)

/-- A word character in front extends the first word, or begins one. -/
theorem isCut_extendWord {c : Char} {ps : List Piece} (hc : Text.isWord c = true)
    (h : IsCut ps) : IsCut (extendWord c ps) := by
  cases h with
  | nil => exact .word (isWordText_singleton hc)
  | gap hd h => exact .wordGap (isWordText_singleton hc) hd h
  | word hw => exact .word (hw.cons hc)
  | wordGap hw hd h => exact .wordGap (hw.cons hc) hd h

/-- A text is cut between words. -/
theorem isCut_pieces (s : List Char) : IsCut (pieces s) := by
  induction s with
  | nil => exact .nil
  | cons c s ih =>
      rw [pieces]
      split
      · next hc => exact isCut_extendWord hc ih
      · next hc => exact .gap (Bool.eq_false_iff.2 hc) ih

/-- A word is one piece. -/
theorem pieces_of_isWordText {w : List Char} (h : IsWordText w) : pieces w = [.word w] := by
  obtain ⟨hne, hword⟩ := h
  induction w with
  | nil => exact absurd rfl hne
  | cons c w ih =>
      obtain ⟨hc, hw⟩ := List.forall_mem_cons.1 hword
      rw [pieces, if_pos hc]
      cases w with
      | nil => rfl
      | cons d w => rw [ih (List.cons_ne_nil d w) hw]; rfl

/-- The pieces a text is made up of are those it is cut into. -/
theorem IsCut.pieces_flatMap_text {ps : List Piece} (h : IsCut ps) :
    pieces (ps.flatMap Piece.text) = ps := by
  induction h with
  | nil => rfl
  | gap hc _ ih => rw [List.flatMap_cons, Piece.text, List.singleton_append, pieces, hc, ih]; rfl
  | word hw => rw [List.flatMap_singleton, Piece.text, pieces_of_isWordText hw]
  | wordGap hw hc _ ih =>
      rw [List.flatMap_cons, List.flatMap_cons, Piece.text, Piece.text, List.singleton_append,
        pieces_append_gap hc, pieces_of_isWordText hw, ih]
      rfl

/-- A piece that is a word is one as text. -/
def Piece.IsWhole : Piece → Prop
  | .word w => IsWordText w
  | .gap _ => True

/-- The words that a text is cut into are whole words. -/
theorem forall_isWhole_pieces (s : List Char) : ∀ p ∈ pieces s, p.IsWhole := by
  have hcut := isCut_pieces s
  generalize pieces s = ps at hcut
  induction hcut with
  | nil => exact fun p hp => absurd hp List.not_mem_nil
  | gap _ _ ih => exact List.forall_mem_cons.2 ⟨trivial, ih⟩
  | word hw => exact fun p hp => (List.mem_singleton.1 hp) ▸ hw
  | wordGap hw _ _ ih =>
      exact List.forall_mem_cons.2 ⟨hw, List.forall_mem_cons.2 ⟨trivial, ih⟩⟩

/-! ## renamings -/

/-- The words the report knows. -/
def keywords : List String := ["function", "if", "then", "while", "do", "for", "end"]

/-- New names for words, the keywords excepted. -/
structure Renaming where
  word : List Char → List Char
  isWordText : ∀ {w}, IsWordText w → IsWordText (word w)
  fixes : ∀ k ∈ keywords, word k.toList = k.toList
  avoids : ∀ {w}, IsWordText w → ∀ k ∈ keywords, word w = k.toList → w = k.toList

/-- The piece with another name, if it is a word. -/
def Piece.rename (f : Renaming) : Piece → Piece
  | .word w => .word (f.word w)
  | .gap c => .gap c

namespace Renaming

variable (f : Renaming)

/-- The text with every word renamed. -/
def apply (s : List Char) : List Char := ((pieces s).map (Piece.rename f)).flatMap Piece.text

/-- Renaming leaves the cuts where they are. -/
theorem isCut_map {ps : List Piece} (h : IsCut ps) : IsCut (ps.map (Piece.rename f)) := by
  induction h with
  | nil => exact .nil
  | gap hc _ ih => exact .gap hc ih
  | word hw => exact .word (f.isWordText hw)
  | wordGap hw hc _ ih => exact .wordGap (f.isWordText hw) hc ih

/-- A renamed text falls into the renamed pieces. -/
theorem pieces_apply (s : List Char) : pieces (f.apply s) = (pieces s).map (Piece.rename f) :=
  (f.isCut_map (isCut_pieces s)).pieces_flatMap_text

/-- A character between two words is kept, and the words beside it are renamed apart. -/
theorem apply_append_gap {c : Char} (hc : Text.isWord c = false) (s t : List Char) :
    f.apply (s ++ c :: t) = f.apply s ++ c :: f.apply t := by
  simp [apply, pieces_append_gap hc, Piece.rename, Piece.text]

theorem apply_cons_gap {c : Char} (hc : Text.isWord c = false) (s : List Char) :
    f.apply (c :: s) = c :: f.apply s :=
  f.apply_append_gap hc [] s

/-- The new name of a word has word characters only. -/
theorem exists_cons_of_isWordText {w : List Char} (h : IsWordText w) :
    ∃ d v, f.word w = d :: v ∧ ∀ e ∈ d :: v, Text.isWord e = true := by
  obtain ⟨hne, hword⟩ := f.isWordText h
  obtain ⟨d, v, heq⟩ := List.exists_cons_of_ne_nil hne
  exact ⟨d, v, heq, heq ▸ hword⟩

/-- A word character goes with the rest of its word: what stands for it is made of word
characters, and so is what stands for the rest of the word alone. -/
theorem exists_apply_cons {c : Char} (hc : Text.isWord c = true) (s : List Char) :
    ∃ d v w t, (∀ e ∈ d :: v, Text.isWord e = true) ∧ (∀ e ∈ w, Text.isWord e = true) ∧
      f.apply (c :: s) = d :: (v ++ t) ∧ f.apply s = w ++ t := by
  have hcut := isCut_pieces s
  rw [apply, apply, pieces, if_pos hc]
  generalize pieces s = ps at hcut
  -- the character is a word by itself, or the first one of the word that `s` starts with
  cases hcut with
  | nil =>
      obtain ⟨d, v, heq, hv⟩ := f.exists_cons_of_isWordText (isWordText_singleton hc)
      exact ⟨d, v, [], [], hv, by simp, by simp [extendWord, Piece.rename, Piece.text, heq], rfl⟩
  | @gap c' ps _ _ =>
      obtain ⟨d, v, heq, hv⟩ := f.exists_cons_of_isWordText (isWordText_singleton hc)
      exact ⟨d, v, [], _, hv, by simp,
        by simp [extendWord, Piece.rename, Piece.text, heq, List.flatMap_def], rfl⟩
  | @word w hw =>
      obtain ⟨d, v, heq, hv⟩ := f.exists_cons_of_isWordText (hw.cons hc)
      exact ⟨d, v, f.word w, [], hv, (f.isWordText hw).2,
        by simp [extendWord, Piece.rename, Piece.text, heq], rfl⟩
  | @wordGap w c' ps hw _ _ =>
      obtain ⟨d, v, heq, hv⟩ := f.exists_cons_of_isWordText (hw.cons hc)
      exact ⟨d, v, f.word w, _, hv, (f.isWordText hw).2,
        by simp [extendWord, Piece.rename, Piece.text, heq, List.flatMap_def], rfl⟩

/-! ## characters between words -/

/-- Characters between words stay as many as they are. -/
theorem count_apply {c : Char} (hc : Text.isWord c = false) (s : List Char) :
    (f.apply s).count c = s.count c := by
  have hzero : ∀ {w : List Char}, (∀ e ∈ w, Text.isWord e = true) → w.count c = 0 := fun hw =>
    List.count_eq_zero.2 fun hmem => by simp [hw c hmem] at hc
  induction s with
  | nil => rfl
  | cons d s ih =>
      by_cases hd : Text.isWord d = true
      · obtain ⟨e, v, w, t, hv, hw, hcons, hrest⟩ := f.exists_apply_cons hd s
        rw [hrest, List.count_append, hzero hw, Nat.zero_add] at ih
        have hne : d ≠ c := by rintro rfl; simp [hd] at hc
        rw [hcons, ← List.cons_append, List.count_append, hzero hv, Nat.zero_add,
          List.count_cons_of_ne hne, ih]
      · rw [f.apply_cons_gap (Bool.eq_false_iff.2 hd), List.count_cons, List.count_cons, ih]

/-- Renaming neither brings nor takes away characters between words. -/
theorem mem_apply_iff {c : Char} (hc : Text.isWord c = false) (s : List Char) :
    c ∈ f.apply s ↔ c ∈ s := by
  rw [← List.count_pos_iff, ← List.count_pos_iff, f.count_apply hc]

/-- What a renamed text starts with stood there before, a word excepted. -/
theorem exists_of_apply_eq_cons {c : Char} (hc : Text.isWord c = false) {s t : List Char}
    (h : f.apply s = c :: t) : ∃ t', s = c :: t' ∧ f.apply t' = t := by
  cases s with
  | nil => cases h
  | cons d s =>
      by_cases hd : Text.isWord d = true
      · obtain ⟨e, v, w, u, hv, -, hcons, -⟩ := f.exists_apply_cons hd s
        obtain ⟨rfl, -⟩ := List.cons.inj (hcons.symm.trans h)
        simp [hv e List.mem_cons_self] at hc
      · rw [f.apply_cons_gap (Bool.eq_false_iff.2 hd)] at h
        obtain ⟨rfl, rfl⟩ := List.cons.inj h
        exact ⟨s, rfl, rfl⟩

/-- What a renamed text ends with stood there before, a word excepted. -/
theorem exists_of_apply_eq_concat {c : Char} (hc : Text.isWord c = false) {s t : List Char}
    (h : f.apply s = t ++ [c]) : ∃ t', s = t' ++ [c] := by
  have hpieces := f.pieces_apply s
  rw [h, pieces_append_gap hc] at hpieces
  obtain ⟨ps, qs, hs, -, hqs⟩ := List.append_eq_map_iff.1 hpieces
  obtain ⟨p, rfl, hgap⟩ : ∃ p, qs = [p] ∧ p.rename f = .gap c := by
    rcases qs with _ | ⟨p, _ | ⟨q, qs⟩⟩ <;> simp_all [pieces]
  obtain rfl : p = .gap c := by
    cases p <;> simp_all [Piece.rename]
  refine ⟨ps.flatMap Piece.text, ?_⟩
  rw [← flatMap_text_pieces s, hs, List.flatMap_append, List.flatMap_singleton, Piece.text]

/-! ## lines -/

theorem isWord_lineFeed : Text.isWord '\n' = false := Text.isWord_of_toNat_lt (by decide)

/-- A text is renamed line by line. -/
theorem splitAt_apply (s : List Char) :
    Text.splitAt '\n' (f.apply s) = (Text.splitAt '\n' s).map f.apply := by
  by_cases hs : '\n' ∈ s
  · -- the first line has no line feed, and what is behind it is shorter
    obtain ⟨l, rest, heq, hl⟩ := List.eq_append_cons_of_mem hs
    have hlength : rest.length < s.length := by
      rw [heq, List.length_append, List.length_cons]
      omega
    have hrest := splitAt_apply rest
    rw [heq, f.apply_append_gap isWord_lineFeed, Text.splitAt_append_cons hl,
      Text.splitAt_append_cons (mt (f.mem_apply_iff isWord_lineFeed l).1 hl), hrest,
      List.map_cons]
  · rw [Text.splitAt_of_not_mem hs, Text.splitAt_of_not_mem
      (mt (f.mem_apply_iff isWord_lineFeed s).1 hs), List.map_singleton]
termination_by s.length

/-- White space in front of a text stays in front of the renamed text. -/
theorem apply_blank_append {lead : List Char} (h : ∀ c ∈ lead, Text.isBlank c = true)
    (s : List Char) : f.apply (lead ++ s) = lead ++ f.apply s := by
  induction lead with
  | nil => rfl
  | cons c lead ih =>
      obtain ⟨hc, hlead⟩ := List.forall_mem_cons.1 h
      rw [List.cons_append, f.apply_cons_gap (Text.isWord_eq_false_of_isBlank hc), ih hlead,
        List.cons_append]

/-- The same of white space behind it. -/
theorem apply_append_blank {trail : List Char} (h : ∀ c ∈ trail, Text.isBlank c = true)
    (s : List Char) : f.apply (s ++ trail) = f.apply s ++ trail := by
  cases trail with
  | nil => simp
  | cons c trail =>
      obtain ⟨hc, htrail⟩ := List.forall_mem_cons.1 h
      have hself := f.apply_blank_append htrail []
      rw [List.append_nil] at hself
      rw [f.apply_append_gap (Text.isWord_eq_false_of_isBlank hc), hself]
      simp [apply, pieces]

/-- White space around a text is no part of its words. -/
theorem trim_apply (s : List Char) : Text.trim (f.apply s) = f.apply (Text.trim s) := by
  obtain ⟨lead, trail, hlead, htrail, hs⟩ := Text.exists_eq_append_trim s
  have happly : f.apply s = lead ++ f.apply (Text.trim s) ++ trail :=
    calc f.apply s = f.apply (lead ++ Text.trim s ++ trail) := congrArg f.apply hs
      _ = lead ++ f.apply (Text.trim s) ++ trail := by
        rw [f.apply_append_blank htrail, f.apply_blank_append hlead]
  rw [happly, Text.trim_append_blank hlead htrail]
  apply Text.trim_eq_self_of_ends
  · refine fun c hc => Bool.eq_false_iff.2 fun hblank => ?_
    obtain ⟨t, ht⟩ := List.head?_eq_some_iff.1 hc
    obtain ⟨t', ht', -⟩ := f.exists_of_apply_eq_cons (Text.isWord_eq_false_of_isBlank hblank) ht
    simp [Text.isBlank_of_head?_trim (List.head?_eq_some_iff.2 ⟨t', ht'⟩)] at hblank
  · refine fun c hc => Bool.eq_false_iff.2 fun hblank => ?_
    obtain ⟨t, ht⟩ := List.getLast?_eq_some_iff.1 hc
    obtain ⟨t', ht'⟩ := f.exists_of_apply_eq_concat (Text.isWord_eq_false_of_isBlank hblank) ht
    simp [Text.isBlank_of_getLast?_trim (List.getLast?_eq_some_iff.2 ⟨t', ht'⟩)] at hblank

theorem isWord_hyphen : Text.isWord '-' = false := Text.isWord_of_toNat_lt (by decide)

/-- A comment starts where it started. -/
theorem exists_of_apply_eq_hyphens {s t : List Char} (h : f.apply s = '-' :: '-' :: t) :
    ∃ t', s = '-' :: '-' :: t' := by
  obtain ⟨s', rfl, hs'⟩ := f.exists_of_apply_eq_cons isWord_hyphen h
  obtain ⟨t', rfl, -⟩ := f.exists_of_apply_eq_cons isWord_hyphen hs'
  exact ⟨t', rfl⟩

/-- A comment is still a comment. -/
theorem apply_hyphens (t : List Char) :
    f.apply ('-' :: '-' :: t) = '-' :: '-' :: f.apply t := by
  rw [f.apply_cons_gap isWord_hyphen, f.apply_cons_gap isWord_hyphen]

/-- Something is left of every text. -/
theorem apply_ne_nil {s : List Char} (h : s ≠ []) : f.apply s ≠ [] := by
  obtain ⟨c, s, rfl⟩ := List.exists_cons_of_ne_nil h
  by_cases hc : Text.isWord c = true
  · obtain ⟨d, v, w, t, -, -, hcons, -⟩ := f.exists_apply_cons hc s
    simp [hcons]
  · simp [f.apply_cons_gap (Bool.eq_false_iff.2 hc)]

/-- A renamed line is passed over if it was. -/
theorem isSkipped_apply (line : List Char) : isSkipped (f.apply line) = isSkipped line := by
  fun_cases isSkipped line with
  | case1 => rfl
  | case2 t => rw [f.apply_hyphens, isSkipped]
  | case3 _ hnil hcomment =>
      rw [isSkipped]
      · exact f.apply_ne_nil hnil
      · intro t ht
        obtain ⟨t', rfl⟩ := f.exists_of_apply_eq_hyphens ht
        exact hcomment t' rfl

/-! ## quotations -/

theorem isWord_backslash : Text.isWord '\\' = false := Text.isWord_of_toNat_lt (by decide)

/-- Quotation marks stand between words. -/
theorem isWord_quote {c : Char} (h : c = '"' ∨ c = '\'') : Text.isWord c = false := by
  rcases h with rfl | rfl <;> exact Text.isWord_of_toNat_lt (by decide)

/-- Inside and outside of quotations, a character of a word means nothing. -/
theorem quotesClose_cons_of_isWord {o : Option Char} (ho : ∀ q ∈ o, Text.isWord q = false)
    {c : Char} (hc : Text.isWord c = true) (t : List Char) :
    quotesClose o (c :: t) = quotesClose o t := by
  have hne : ∀ {d}, Text.isWord d = false → c ≠ d := by
    rintro d hd rfl
    simp [hc] at hd
  cases o with
  | none =>
      have hquote : ¬IsQuote c := fun h => hne (isWord_quote h) rfl
      exact quotesClose_none_cons hquote fun h => hne isWord_hyphen h.1
  | some q => exact quotesClose_some_cons (hne isWord_backslash) (hne (ho q rfl)) t

/-- A word neither opens nor closes a quotation. -/
theorem quotesClose_append_of_isWord {o : Option Char} (ho : ∀ q ∈ o, Text.isWord q = false)
    {w : List Char} (hw : ∀ c ∈ w, Text.isWord c = true) (t : List Char) :
    quotesClose o (w ++ t) = quotesClose o t := by
  induction w with
  | nil => rfl
  | cons c w ih =>
      obtain ⟨hc, hw⟩ := List.forall_mem_cons.1 hw
      rw [List.cons_append, quotesClose_cons_of_isWord ho hc, ih hw]

/-- A word character may be left out, in a renamed text as well. -/
theorem quotesClose_apply_cons_of_isWord {o : Option Char} (ho : ∀ q ∈ o, Text.isWord q = false)
    {c : Char} (hc : Text.isWord c = true) (s : List Char) :
    quotesClose o (f.apply (c :: s)) = quotesClose o (f.apply s) := by
  obtain ⟨d, v, w, t, hv, hw, hcons, hrest⟩ := f.exists_apply_cons hc s
  rw [hcons, hrest, ← List.cons_append, quotesClose_append_of_isWord ho hv,
    quotesClose_append_of_isWord ho hw]

/-- So renaming does not change whether quotations close. -/
theorem quotesClose_apply {o : Option Char} (ho : ∀ q ∈ o, Text.isWord q = false)
    (s : List Char) : quotesClose o (f.apply s) = quotesClose o s := by
  -- character by character: those of a word are left out on both sides, all others stay
  fun_induction quotesClose o s with
  | case1 => rfl
  | case2 t => rw [f.apply_hyphens, quotesClose]
  | case3 c rest hcomment ih =>
      have hquote : ∀ q ∈ (if c = '"' ∨ c = '\'' then some c else none), Text.isWord q = false := by
        intro q hq
        split at hq
        · next hc =>
            obtain rfl := Option.mem_some.1 hq
            exact isWord_quote hc
        · cases hq
      by_cases hc : Text.isWord c = true
      · rw [f.quotesClose_apply_cons_of_isWord ho hc, ← ih hquote, if_neg fun h => ?_]
        simp [isWord_quote h] at hc
      · rw [f.apply_cons_gap (Bool.eq_false_iff.2 hc), quotesClose, ih hquote]
        rintro t rfl ht
        obtain ⟨t', rfl, -⟩ := f.exists_of_apply_eq_cons isWord_hyphen ht
        exact hcomment t' rfl rfl
  | case4 q => rfl
  | case5 q => rw [f.apply_cons_gap isWord_backslash]; rfl
  | case6 q c rest ih =>
      rw [f.apply_cons_gap isWord_backslash, ← ih ho]
      by_cases hc : Text.isWord c = true
      · -- the backslash takes the first character of the word, whichever it is
        obtain ⟨d, v, w, t, hv, hw, hcons, hrest⟩ := f.exists_apply_cons hc rest
        rw [hcons, quotesClose, hrest, quotesClose_append_of_isWord ho hw,
          quotesClose_append_of_isWord ho (List.forall_mem_cons.1 hv).2]
      · rw [f.apply_cons_gap (Bool.eq_false_iff.2 hc), quotesClose]
  | case7 q c rest hend hescape ih =>
      have hquote : ∀ d ∈ (if c = q then none else some q), Text.isWord d = false := by
        intro d hd
        split at hd
        · cases hd
        · exact ho d hd
      have hbackslash : c ≠ '\\' := by
        rintro rfl
        cases rest with
        | nil => exact hend rfl rfl
        | cons d rest => exact hescape d rest rfl rfl
      by_cases hc : Text.isWord c = true
      · rw [f.quotesClose_apply_cons_of_isWord ho hc, ← ih hquote, if_neg fun h => ?_]
        simp [h, ho q rfl] at hc
      · rw [f.apply_cons_gap (Bool.eq_false_iff.2 hc), quotesClose, ih hquote]
        · exact fun h _ => hbackslash h
        · exact fun _ _ h _ => hbackslash h

/-- A renamed line is reported for its quotes if it was. -/
theorem hasUnbalancedQuotes_apply (line : List Char) :
    hasUnbalancedQuotes (f.apply line) = hasUnbalancedQuotes line := by
  rw [hasUnbalancedQuotes, hasUnbalancedQuotes, f.count_apply (isWord_quote (.inl rfl)),
    f.count_apply (isWord_quote (.inr rfl)), f.quotesClose_apply (by simp)]

/-! ## blocks -/

@[simp] theorem isBlank_rename (p : Piece) : (p.rename f).isBlank = p.isBlank := by
  cases p <;> rfl

@[simp] theorem isNamePart_rename (p : Piece) : (p.rename f).isNamePart = p.isNamePart := by
  cases p <;> rfl

/-- Keywords stand where they stood. -/
theorem rename_eq_ofString_iff {p : Piece} (hp : p.IsWhole) {k : String} (hk : k ∈ keywords) :
    p.rename f = .ofString k ↔ p = .ofString k := by
  cases p with
  | gap c => exact iff_of_false Piece.noConfusion Piece.noConfusion
  | word w =>
      have hword : f.word w = k.toList ↔ w = k.toList :=
        ⟨f.avoids hp k hk, fun hw => hw ▸ f.fixes k hk⟩
      simp [Piece.rename, Piece.ofString, hword]

section Words

variable {ps : List Piece} (h : ∀ p ∈ ps, p.IsWhole)

include h

/-- A keyword is there if it was there before. -/
theorem hasWord_map {k : String} (hk : k ∈ keywords) :
    hasWord k (ps.map (Piece.rename f)) = hasWord k ps := by
  rw [Bool.eq_iff_iff, hasWord, hasWord, List.contains_iff_mem, List.contains_iff_mem,
    List.mem_map]
  constructor
  · rintro ⟨p, hp, heq⟩
    exact (f.rename_eq_ofString_iff (h p hp) hk).1 heq ▸ hp
  · exact fun hp => ⟨_, hp, (f.rename_eq_ofString_iff (h _ hp) hk).2 rfl⟩

/-- The first keyword of a line stays the first. -/
theorem dropWhile_map {k : String} (hk : k ∈ keywords) :
    (ps.map (Piece.rename f)).dropWhile (· != .ofString k) =
      (ps.dropWhile (· != .ofString k)).map (Piece.rename f) := by
  induction ps with
  | nil => rfl
  | cons p ps ih =>
      obtain ⟨hp, hps⟩ := List.forall_mem_cons.1 h
      have hiff := f.rename_eq_ofString_iff hp hk
      by_cases heq : p = .ofString k
      · rw [List.map_cons, List.dropWhile_cons_of_neg (by simp [hiff.2 heq]),
          List.dropWhile_cons_of_neg (by simp [heq]), List.map_cons]
      · have hne : p.rename f ≠ .ofString k := mt hiff.1 heq
        simp [heq, hne, ih hps]

/-- Two keywords follow each other if they did before. -/
theorem hasWordThen_map {first second : String} (hfirst : first ∈ keywords)
    (hsecond : second ∈ keywords) :
    hasWordThen first second (ps.map (Piece.rename f)) = hasWordThen first second ps := by
  have hrest : ∀ p ∈ (ps.dropWhile (· != .ofString first)).drop 1, p.IsWhole := fun p hp =>
    h p ((List.dropWhile_sublist _).mem (List.mem_of_mem_drop hp))
  rw [hasWordThen, f.dropWhile_map h hfirst, ← List.map_drop, f.hasWord_map hrest hsecond,
    hasWordThen]

end Words

/-- A parameter list begins where it began. -/
theorem startsParameters_map (ps : List Piece) :
    startsParameters (ps.map (Piece.rename f)) = startsParameters ps := by
  simp only [startsParameters, List.dropWhile_map, Function.comp_def, isBlank_rename,
    isNamePart_rename]
  generalize List.dropWhile _ (List.dropWhile _ (List.dropWhile _ ps)) = qs
  rcases qs with _ | ⟨w | c, qs⟩
  · rfl
  · rfl
  · by_cases hc : c = '(' <;> simp [Piece.rename, hc]

/-- A line defines a function if it did before, with a name or without. -/
theorem definesFunction_map {ps : List Piece} (h : ∀ p ∈ ps, p.IsWhole) :
    definesFunction (ps.map (Piece.rename f)) = definesFunction ps := by
  induction ps with
  | nil => rfl
  | cons p ps ih =>
      obtain ⟨hp, hps⟩ := List.forall_mem_cons.1 h
      have hword : (p.rename f == .ofString "function") = (p == .ofString "function") := by
        rw [Bool.eq_iff_iff, beq_iff_eq, beq_iff_eq, f.rename_eq_ofString_iff hp (by decide)]
      rw [List.map_cons, definesFunction, definesFunction, hword, f.startsParameters_map, ih hps]

/-- A renamed line opens the block it opened. -/
theorem openedBlock?_map {ps : List Piece} (h : ∀ p ∈ ps, p.IsWhole) :
    openedBlock? (ps.map (Piece.rename f)) = openedBlock? ps := by
  rw [openedBlock?, openedBlock?, f.definesFunction_map h,
    f.hasWordThen_map h (by decide) (by decide), f.hasWordThen_map h (by decide) (by decide),
    f.hasWordThen_map h (by decide) (by decide)]

/-- A renamed line does to the nesting of blocks what it did. -/
theorem lineRole_apply (line : List Char) : lineRole (f.apply line) = lineRole line := by
  have h := forall_isWhole_pieces line
  rw [lineRole, lineRole, f.pieces_apply, f.openedBlock?_map h, f.hasWord_map h (by decide)]

end Renaming

end Script

end ScriptComposer
