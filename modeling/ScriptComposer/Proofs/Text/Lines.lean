import Mathlib.Data.List.DropRight
import ScriptComposer.Text.Blank
import ScriptComposer.Text.Lines

/-!
# ScriptComposer.Proofs.Text.Lines

Cutting text at a character, and trimming what is cut.

* `lines_append_lineFeed` — a text written with its line feed is read back first, cut at
  its own line feeds;
* `splitAt_intercalate` — parts that are put together with separators are cut apart again;
* `getLast?_splitAt_eq_nil` — the last part is empty only behind a separator.
-/

namespace ScriptComposer.Text

/-! ## lines and parts -/

/-- There is always a first part. -/
theorem splitAt_ne_nil (sep : Char) (s : List Char) : splitAt sep s ≠ [] := by
  cases s with
  | nil => simp [splitAt]
  | cons c s =>
      rw [splitAt]
      split
      · simp
      · split <;> simp

/-- A character that is no separator belongs to the first part. -/
theorem splitAt_cons_of_ne {sep c : Char} (hc : c ≠ sep) (s : List Char) :
    splitAt sep (c :: s) = (splitAt sep s).modifyHead (c :: ·) := by
  rw [splitAt]
  cases h : splitAt sep s with
  | nil => exact absurd h (splitAt_ne_nil sep s)
  | cons part parts => simp [hc]

/-- A separator ends an empty part. -/
theorem splitAt_cons_self (sep : Char) (s : List Char) :
    splitAt sep (sep :: s) = [] :: splitAt sep s := by
  rw [splitAt]
  cases h : splitAt sep s with
  | nil => exact absurd h (splitAt_ne_nil sep s)
  | cons part parts => simp

/-- Text without a separator is one part. -/
theorem splitAt_of_not_mem {sep : Char} {s : List Char} (h : sep ∉ s) : splitAt sep s = [s] := by
  induction s with
  | nil => rfl
  | cons c s ih =>
      obtain ⟨hc, hs⟩ : sep ≠ c ∧ sep ∉ s := by simpa using h
      rw [splitAt_cons_of_ne (Ne.symm hc), ih hs, List.modifyHead_cons]

/-- A part is separator-free and made of characters of the text. -/
theorem mem_of_mem_splitAt {sep c : Char} {s part : List Char} (hpart : part ∈ splitAt sep s)
    (hc : c ∈ part) : c ≠ sep ∧ c ∈ s := by
  induction s generalizing part with
  | nil => simp_all [splitAt]
  | cons d s ih =>
      by_cases hd : d = sep
      · subst hd
        rw [splitAt_cons_self] at hpart
        rcases List.mem_cons.1 hpart with rfl | hpart
        · simp at hc
        · exact (ih hpart hc).imp_right (List.mem_cons_of_mem d)
      · rw [splitAt_cons_of_ne hd] at hpart
        cases hparts : splitAt sep s with
        | nil => exact absurd hparts (splitAt_ne_nil sep s)
        | cons first parts =>
            rw [hparts, List.modifyHead_cons] at hpart
            rcases List.mem_cons.1 hpart with rfl | hpart
            · rcases List.mem_cons.1 hc with rfl | hc
              · exact ⟨hd, List.mem_cons_self⟩
              · exact (ih (hparts ▸ List.mem_cons_self) hc).imp_right (List.mem_cons_of_mem d)
            · exact (ih (hparts ▸ List.mem_cons_of_mem first hpart) hc).imp_right
                (List.mem_cons_of_mem d)

/-- A separator cuts a text in two, and each half is cut by itself. -/
theorem splitAt_append_sep (sep : Char) (s rest : List Char) :
    splitAt sep (s ++ sep :: rest) = splitAt sep s ++ splitAt sep rest := by
  induction s with
  | nil => exact splitAt_cons_self sep rest
  | cons c s ih =>
      by_cases hc : c = sep
      · subst hc
        rw [List.cons_append, splitAt_cons_self, splitAt_cons_self, ih, List.cons_append]
      · rw [List.cons_append, splitAt_cons_of_ne hc, splitAt_cons_of_ne hc, ih]
        cases hparts : splitAt sep s with
        | nil => exact absurd hparts (splitAt_ne_nil sep s)
        | cons part parts => rfl

/-- Text up to a separator is the first part. -/
theorem splitAt_append_cons {sep : Char} {part : List Char} (h : sep ∉ part) (rest : List Char) :
    splitAt sep (part ++ sep :: rest) = part :: splitAt sep rest := by
  rw [splitAt_append_sep, splitAt_of_not_mem h, List.singleton_append]

/-- Parts that are put together with separators are cut apart again. -/
theorem splitAt_intercalate {sep : Char} {parts : List (List Char)} (hne : parts ≠ [])
    (h : ∀ part ∈ parts, sep ∉ part) : splitAt sep ([sep].intercalate parts) = parts := by
  induction parts with
  | nil => exact absurd rfl hne
  | cons part parts ih =>
      have hpart : sep ∉ part := h part List.mem_cons_self
      cases parts with
      | nil => rw [List.intercalate_singleton, splitAt_of_not_mem hpart]
      | cons next parts =>
          rw [List.intercalate_cons_cons, List.append_assoc, List.singleton_append,
            splitAt_append_cons hpart,
            ih (List.cons_ne_nil next parts) fun q hq => h q (List.mem_cons_of_mem part hq)]

/-- The last part is empty only behind a separator, or if there is no text. -/
theorem getLast?_splitAt_eq_nil {sep : Char} {s : List Char}
    (h : (splitAt sep s).getLast? = some []) : s = [] ∨ s.getLast? = some sep := by
  induction s with
  | nil => exact .inl rfl
  | cons c s ih =>
      right
      by_cases hc : c = sep
      · subst hc
        rw [splitAt_cons_self, List.getLast?_cons_of_ne_nil (splitAt_ne_nil c s)] at h
        rcases ih h with rfl | hs
        · rfl
        · rw [List.getLast?_cons, hs]
          rfl
      · rw [splitAt_cons_of_ne hc] at h
        cases hparts : splitAt sep s with
        | nil => exact absurd hparts (splitAt_ne_nil sep s)
        | cons part parts =>
            rw [hparts, List.modifyHead_cons] at h
            cases parts with
            | nil => simp at h
            | cons next parts =>
                rw [List.getLast?_cons_cons, ← List.getLast?_cons_cons (a := part), ← hparts] at h
                rcases ih h with rfl | hs
                · simp [splitAt] at hparts
                · rw [List.getLast?_cons, hs]
                  rfl

/-- A text written with its line feed is read back first, cut at its own line feeds. -/
theorem lines_append_lineFeed (s rest : List Char) :
    lines (s ++ '\n' :: rest) = splitAt '\n' s ++ lines rest := by
  induction s with
  | nil => simp [lines, splitAt]
  | cons c s ih =>
      by_cases hc : c = '\n'
      · subst hc
        rw [List.cons_append, lines, if_pos rfl, ih, splitAt_cons_self, List.cons_append]
      · rw [List.cons_append, lines, if_neg hc, ih, splitAt_cons_of_ne hc]
        cases h : splitAt '\n' s with
        | nil => exact absurd h (splitAt_ne_nil '\n' s)
        | cons part parts => rfl

/-- Text that does not end in a line feed is cut at its line feeds. -/
theorem lines_eq_splitAt {s : List Char} (hne : s ≠ []) (hlast : s.getLast hne ≠ '\n') :
    lines s = splitAt '\n' s := by
  induction s with
  | nil => exact absurd rfl hne
  | cons c s ih =>
      cases s with
      | nil =>
          have hc : c ≠ '\n' := hlast
          simp [lines, splitAt, hc]
      | cons d s =>
          have hs : lines (d :: s) = splitAt '\n' (d :: s) :=
            ih (List.cons_ne_nil d s) (by rwa [List.getLast_cons_cons] at hlast)
          by_cases hc : c = '\n'
          · subst hc
            rw [lines, if_pos rfl, hs, splitAt_cons_self]
          · rw [lines, if_neg hc, hs, splitAt_cons_of_ne hc]
            cases h : splitAt '\n' (d :: s) with
            | nil => exact absurd h (splitAt_ne_nil '\n' (d :: s))
            | cons part parts => rfl

/-- Every line feed by itself is an empty line. -/
theorem lines_replicate_lineFeed (n : Nat) :
    lines (List.replicate n '\n') = List.replicate n [] := by
  induction n with
  | zero => rfl
  | succ n ih => simp [List.replicate_succ, lines, ih]

/-- The lines of a text are its parts between line feeds; an empty last part is no line. -/
theorem splitAt_eq_lines (s : List Char) :
    splitAt '\n' s = lines s ∨ splitAt '\n' s = lines s ++ [[]] := by
  induction s with
  | nil => exact .inr rfl
  | cons c s ih =>
      by_cases hc : c = '\n'
      · subst hc
        rw [splitAt_cons_self, lines, if_pos rfl]
        exact ih.imp (congrArg ([] :: ·)) (congrArg ([] :: ·))
      · rw [splitAt_cons_of_ne hc, lines, if_neg hc]
        cases hl : lines s with
        | nil =>
            rcases ih with h | h
            · exact absurd (h.trans hl) (splitAt_ne_nil '\n' s)
            · simp [h, hl]
        | cons l ls => rcases ih with h | h <;> simp [h, hl]

/-- What `dropWhile` drops, the character being known. -/
theorem eq_replicate_append_dropWhile (c : Char) (s : List Char) :
    ∃ k, s = List.replicate k c ++ s.dropWhile (· = c) := by
  induction s with
  | nil => exact ⟨0, rfl⟩
  | cons d s ih =>
      by_cases hd : d = c
      · obtain ⟨k, hk⟩ := ih
        refine ⟨k + 1, ?_⟩
        rw [List.dropWhile_cons_of_pos (by simpa using hd), List.replicate_succ,
          List.cons_append, ← hk, hd]
      · exact ⟨0, by rw [List.dropWhile_cons_of_neg (by simpa using hd)]; rfl⟩

/-- What `rdropWhile` drops, the character being known. -/
theorem eq_rdropWhile_append_replicate (c : Char) (s : List Char) :
    ∃ k, s = s.rdropWhile (· = c) ++ List.replicate k c := by
  obtain ⟨k, hk⟩ := eq_replicate_append_dropWhile c s.reverse
  refine ⟨k, ?_⟩
  have hs := congrArg List.reverse hk
  rwa [List.reverse_reverse, List.reverse_append, List.reverse_replicate] at hs

/-- What `rdropWhile` leaves does not end in the character. -/
theorem getLast?_rdropWhile_ne (c : Char) (s : List Char) :
    (s.rdropWhile (· = c)).getLast? ≠ some c := by
  intro hlast
  obtain ⟨hne, hc⟩ := List.mem_getLast?_eq_getLast hlast
  exact List.rdropWhile_last_not _ s hne (decide_eq_true hc.symm)

/-! ## trimming -/

/-- White space in front is trimmed one by one. -/
theorem trim_cons_blank {c : Char} (hc : isBlank c = true) (s : List Char) :
    trim (c :: s) = trim s := by
  rw [trim, trimLeft, List.dropWhile_cons_of_pos hc]
  rfl

/-- Text with something visible at both ends is not trimmed. -/
theorem trim_eq_self {first last : Char} {s : List Char} (hs : s.head? = some first)
    (hl : s.getLast? = some last) (hfirst : isBlank first = false)
    (hlast : isBlank last = false) : trim s = s := by
  obtain ⟨r, rfl⟩ : ∃ r, s = first :: r := by
    cases s with
    | nil => simp at hs
    | cons c r => exact ⟨r, by rw [Option.some.inj hs]⟩
  rw [trim, trimLeft, List.dropWhile_cons_of_neg (by simp [hfirst]), trimRight]
  rw [← List.head?_reverse] at hl
  cases h : (first :: r).reverse with
  | nil => simp [h] at hl
  | cons c t =>
      rw [h] at hl
      rw [List.dropWhile_cons_of_neg (by simp [Option.some.inj hl, hlast]), ← h,
        List.reverse_reverse]

/-- Text without white space at its ends is not trimmed. -/
theorem trim_eq_self_of_ends {s : List Char} (hfirst : ∀ c, s.head? = some c → isBlank c = false)
    (hlast : ∀ c, s.getLast? = some c → isBlank c = false) : trim s = s := by
  cases s with
  | nil => rfl
  | cons c s =>
      have hl := List.getLast?_eq_some_getLast (List.cons_ne_nil c s)
      exact trim_eq_self rfl hl (hfirst c rfl) (hlast _ hl)

/-- White space at the two ends of a text makes no difference to what is left of it. -/
theorem trim_append_blank {lead trail : List Char} (hlead : ∀ c ∈ lead, isBlank c = true)
    (htrail : ∀ c ∈ trail, isBlank c = true) (s : List Char) :
    trim (lead ++ s ++ trail) = trim s := by
  have hright : ∀ t, trimRight (t ++ trail) = trimRight t := fun t => by
    rw [trimRight, List.reverse_append,
      List.dropWhile_append_of_pos fun c hc => htrail c (List.mem_reverse.1 hc), trimRight]
  rw [trim, trimLeft, List.append_assoc, List.dropWhile_append_of_pos hlead, List.dropWhile_append,
    trim, trimLeft]
  split
  · next hempty =>
      have hnone : trail.dropWhile isBlank = [] :=
        dropWhile_eq_nil_iff.2 (List.all_eq_true.2 htrail)
      rw [List.isEmpty_iff.1 hempty, hnone]
  · exact hright _

/-- What trimming takes from the end of a text. -/
theorem trim_append_takeWhile (s : List Char) :
    trim s ++ ((trimLeft s).reverse.takeWhile isBlank).reverse = trimLeft s := by
  rw [trim, trimRight, ← List.reverse_append, List.takeWhile_append_dropWhile,
    List.reverse_reverse]

/-- A text is what trimming leaves of it, between white space. -/
theorem exists_eq_append_trim (s : List Char) :
    ∃ lead trail, (∀ c ∈ lead, isBlank c = true) ∧ (∀ c ∈ trail, isBlank c = true) ∧
      s = lead ++ trim s ++ trail := by
  refine ⟨s.takeWhile isBlank, ((trimLeft s).reverse.takeWhile isBlank).reverse,
    List.all_eq_true.1 List.all_takeWhile,
    fun c hc => List.all_eq_true.1 List.all_takeWhile c (List.mem_reverse.1 hc), ?_⟩
  rw [List.append_assoc, trim_append_takeWhile, trimLeft, List.takeWhile_append_dropWhile]

/-- What is trimmed begins with something visible. -/
theorem isBlank_of_head?_trim {s : List Char} {c : Char} (h : (trim s).head? = some c) :
    isBlank c = false := by
  have hstart := List.head?_dropWhile_not isBlank s
  obtain ⟨rest, hrest⟩ := List.head?_eq_some_iff.1 h
  obtain ⟨trail, hleft⟩ : ∃ trail, s.dropWhile isBlank = c :: trail :=
    ⟨_, by rw [← trimLeft, ← trim_append_takeWhile, hrest, List.cons_append]⟩
  rwa [hleft] at hstart

/-- It ends with something visible. -/
theorem isBlank_of_getLast?_trim {s : List Char} {c : Char} (h : (trim s).getLast? = some c) :
    isBlank c = false := by
  have hend := List.head?_dropWhile_not isBlank (trimLeft s).reverse
  rw [trim, trimRight, List.getLast?_reverse] at h
  simpa [h] using hend

end ScriptComposer.Text
