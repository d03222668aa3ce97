import Mathlib.Data.List.Forall2
import ScriptComposer.Proofs.Script.Plain
import ScriptComposer.Proofs.Script.Renaming

/-!
# ScriptComposer.Proofs.Script.Indifference

What the report on a script does not see.

The report tells words apart only by whether they are keywords, and which; it sees no white
space at the ends of a line and no carriage return.

* `validate_eq_of_relaid` — scripts whose lines differ in the white space at their ends have
  the same report;
* `relaid_withCarriageReturns` — so have scripts with the two kinds of line ends;
* `validate_rename` — words may have other names;
* `hasWord_keyword_of_opener`, `hasWord_end_of_closer` — a line opens or closes a block only
  with a keyword that stands alone.
-/

namespace ScriptComposer.Script

/-- The report can be made on the parts between line feeds: an empty last part is passed
over. -/
theorem validate_eq_splitAt (script : String) :
    validate script = ⟨findingsFrom 1 [] ((Text.splitAt '\n' script.toList).map Text.trim)⟩ := by
  rw [validate, trimmedLines]
  rcases Text.splitAt_eq_lines script.toList with h | h
  · rw [h]
  · rw [h, List.map_append, findingsFrom_append_skipped]
    exact List.forall_mem_singleton.2 rfl

/-! ## white space -/

/-- The lines have the same text between white space. -/
def Padded (l m : List Char) : Prop :=
  ∃ text lead trail lead' trail', (∀ c ∈ lead ++ trail, Text.isBlank c = true) ∧
    (∀ c ∈ lead' ++ trail', Text.isBlank c = true) ∧
      l = lead ++ text ++ trail ∧ m = lead' ++ text ++ trail'

theorem Padded.trim_eq {l m : List Char} (h : Padded l m) : Text.trim l = Text.trim m := by
  obtain ⟨text, lead, trail, lead', trail', hblank, hblank', rfl, rfl⟩ := h
  obtain ⟨hlead, htrail⟩ := List.forall_mem_append.1 hblank
  obtain ⟨hlead', htrail'⟩ := List.forall_mem_append.1 hblank'
  rw [Text.trim_append_blank hlead htrail, Text.trim_append_blank hlead' htrail']

/-- The scripts have the same lines but for white space at their ends. -/
def Relaid (s t : String) : Prop :=
  List.Forall₂ Padded (Text.splitAt '\n' s.toList) (Text.splitAt '\n' t.toList)

theorem map_trim_eq {ls ms : List (List Char)} (h : List.Forall₂ Padded ls ms) :
    ls.map Text.trim = ms.map Text.trim := by
  induction h with
  | nil => rfl
  | cons hp _ ih => rw [List.map_cons, List.map_cons, hp.trim_eq, ih]

/-- White space at the ends of lines makes no difference to the report. -/
theorem validate_eq_of_relaid {s t : String} (h : Relaid s t) : validate t = validate s := by
  rw [validate_eq_splitAt, validate_eq_splitAt, map_trim_eq h]

/-- The text with a carriage return in front of every line feed. -/
def withCarriageReturns (s : List Char) : List Char :=
  s.flatMap fun c => if c = '\n' then ['\r', '\n'] else [c]

theorem withCarriageReturns_lineFeed (s : List Char) :
    withCarriageReturns ('\n' :: s) = ['\r'] ++ '\n' :: withCarriageReturns s := rfl

theorem withCarriageReturns_cons {c : Char} (hc : c ≠ '\n') (s : List Char) :
    withCarriageReturns (c :: s) = c :: withCarriageReturns s := by
  simp [withCarriageReturns, hc]

/-- A carriage return more at the end of a line, or none: the last line has no line feed. -/
theorem forall₂_splitAt_withCarriageReturns (s : List Char) :
    List.Forall₂ (fun l m => m = l ∨ m = l ++ ['\r']) (Text.splitAt '\n' s)
      (Text.splitAt '\n' (withCarriageReturns s)) := by
  induction s with
  | nil => exact .cons (.inl rfl) .nil
  | cons c s ih =>
      by_cases hc : c = '\n'
      · subst hc
        rw [withCarriageReturns_lineFeed, Text.splitAt_cons_self,
          Text.splitAt_append_cons (by decide)]
        exact .cons (.inr rfl) ih
      · rw [withCarriageReturns_cons hc, Text.splitAt_cons_of_ne hc, Text.splitAt_cons_of_ne hc]
        revert ih
        generalize Text.splitAt '\n' s = parts
        generalize Text.splitAt '\n' (withCarriageReturns s) = parts'
        rintro (_ | ⟨h, hs⟩)
        · exact .nil
        · exact .cons (h.imp (congrArg (c :: ·)) (congrArg (c :: ·))) hs

theorem relaid_withCarriageReturns (s : String) :
    Relaid s (.ofList (withCarriageReturns s.toList)) := by
  have hreturn : Text.isBlank '\r' = true := by decide
  rw [Relaid, String.toList_ofList]
  refine (forall₂_splitAt_withCarriageReturns s.toList).imp fun l m h => ?_
  rcases h with rfl | rfl
  · exact ⟨m, [], [], [], [], by simp, by simp, by simp, by simp⟩
  · exact ⟨l, [], [], [], ['\r'], by simp, by simp [hreturn], by simp, by simp⟩

/-! ## words -/

theorem findingsFrom_map_apply (f : Renaming) (n : Nat) (stack : List OpenBlock)
    (lines : List (List Char)) :
    findingsFrom n stack (lines.map f.apply) = findingsFrom n stack lines := by
  induction lines generalizing n stack with
  | nil => rfl
  | cons line lines ih =>
      simp only [List.map_cons, findingsFrom, quoteFindings, f.isSkipped_apply,
        f.hasUnbalancedQuotes_apply, f.lineRole_apply, ih]

/-- Words may have other names. -/
theorem validate_rename (f : Renaming) (script : String) :
    validate (.ofList (f.apply script.toList)) = validate script := by
  have htrim : (Text.splitAt '\n' (f.apply script.toList)).map Text.trim =
      ((Text.splitAt '\n' script.toList).map Text.trim).map f.apply := by
    rw [f.splitAt_apply, List.map_map, List.map_map]
    exact congrArg (List.map · _) (funext f.trim_apply)
  rw [validate_eq_splitAt, String.toList_ofList, htrim, findingsFrom_map_apply,
    ← validate_eq_splitAt]

/-- A line opens a block only with the keyword of the block. -/
theorem hasWord_keyword_of_opener {line : List Char} {kind : BlockKind}
    (h : lineRole line = .opener kind) : hasWord kind.keyword (pieces line) = true := by
  have hopened : openedBlock? (pieces line) = some kind := by
    cases hk : openedBlock? (pieces line) with
    | none => simp only [lineRole, hk] at h; split at h <;> cases h
    | some kind' => simp only [lineRole, hk] at h; rw [LineRole.opener.inj h]
  have hword : ∀ {first second}, hasWordThen first second (pieces line) = true →
      hasWord first (pieces line) = true := fun {first second} hthen => by
    by_contra hnone
    simp [hasWordThen_eq_false (Bool.eq_false_iff.2 hnone) second] at hthen
  unfold openedBlock? at hopened
  split_ifs at hopened with hfunction hif hwhile hfor
  all_goals obtain rfl := Option.some.inj hopened
  · by_contra hnone
    simp [definesFunction_eq_false (Bool.eq_false_iff.2 hnone)] at hfunction
  · exact hword hif
  · exact hword hwhile
  · exact hword hfor

/-- A line closes a block only with an `end`. -/
theorem hasWord_end_of_closer {line : List Char} (h : lineRole line = .closer) :
    hasWord "end" (pieces line) = true := by
  simp only [lineRole] at h
  split at h
  · cases h
  · split at h
    · assumption
    · cases h

/-- Words that begin or end like a keyword. -/
def lookalikes : List String := ["elseif", "functions", "ending", "x_end", "done"]

theorem pieces_lookalikes : ∀ w ∈ lookalikes, pieces w.toList = [.ofString w] := by
  decide +kernel

/-- A line with no other words neither opens nor closes a block. -/
theorem lineRole_of_lookalikes {line : List Char}
    (h : ∀ w, .word w ∈ pieces line → ∃ u ∈ lookalikes, w = u.toList) :
    lineRole line = .plain := by
  have hother : ∀ k ∈ structureWords, k ∉ lookalikes := by decide
  refine lineRole_eq_plain fun k hk => Bool.eq_false_iff.2 fun hword => ?_
  obtain ⟨u, hu, heq⟩ := h k.toList (by simpa [hasWord, Piece.ofString] using hword)
  exact hother k hk (String.toList_inj.1 heq ▸ hu)

/-- The report on a script depends on words only through the keywords, and not on layout.  It
stays the same if other words get other names, if white space at the ends of lines comes or
goes, and if a carriage return is put in front of every line feed.  A line opens a block only
with the keyword of that block as a word of its own and closes one only with `end`; words
that only contain a keyword are other words, and a line of such words does neither. -/
theorem validate_indifferent (script : String) :
    (∀ f : Renaming, validate (.ofList (f.apply script.toList)) = validate script) ∧
      (∀ script', Relaid script script' → validate script' = validate script) ∧
      validate (.ofList (withCarriageReturns script.toList)) = validate script ∧
      (∀ line kind, lineRole line = .opener kind →
        hasWord kind.keyword (pieces line) = true) ∧
      (∀ line, lineRole line = .closer → hasWord "end" (pieces line) = true) ∧
      (∀ w ∈ lookalikes, pieces w.toList = [.ofString w]) ∧
      ∀ line, (∀ w, .word w ∈ pieces line → ∃ u ∈ lookalikes, w = u.toList) →
        lineRole line = .plain :=
  ⟨fun f => validate_rename f script, fun _ h => validate_eq_of_relaid h,
    validate_eq_of_relaid (relaid_withCarriageReturns script),
    fun _ _ h => hasWord_keyword_of_opener h, fun _ h => hasWord_end_of_closer h,
    pieces_lookalikes, fun _ h => lineRole_of_lookalikes h⟩

/-- Every word gets an underscore, the keywords excepted. -/
def underscored : Renaming where
  word w := if w ∈ keywords.map String.toList then w else w ++ ['_']
  isWordText {w} h := by
    have hunderscore : Text.isWord '_' = true := Text.isWord_of_toNat_lt (by decide)
    split
    · exact h
    · exact ⟨by simp, List.forall_mem_append.2 ⟨h.2, by simpa using hunderscore⟩⟩
  fixes k hk := if_pos (List.mem_map_of_mem hk)
  avoids {w} _ k hk heq := by
    have hlast : ∀ k ∈ keywords, k.toList.getLast? ≠ some '_' := by decide
    split at heq
    · exact heq
    · exact absurd (by rw [← heq, List.getLast?_concat]) (hlast k hk)

/-- An `end` too many, below a comment with an apostrophe. -/
def late : String := "if low then\n\tending() -- it's\nend\nend"

/-- The apostrophe of the comment stays in the comment, and the last `end` stays the one too
many. -/
theorem validate_indifferent_late :
    underscored.apply late.toList =
        "if low_ then\n\tending_() -- it_'s_\nend\nend".toList ∧
      validate (.ofList (underscored.apply late.toList)) = ⟨[⟨4, .unexpectedEnd⟩]⟩ ∧
      validate "  if low then \nending() -- it's\t\n end\nend" =
        ⟨[⟨4, .unexpectedEnd⟩]⟩ ∧
      lineRole "done(ending)".toList = .plain := by
  have hlate : validate late = ⟨[⟨4, .unexpectedEnd⟩]⟩ := by decide +kernel
  have hspace : Text.isBlank ' ' = true := by decide
  have htab : Text.isBlank '\t' = true := by decide
  have hrelaid : Relaid late "  if low then \nending() -- it's\t\n end\nend" :=
    .cons ⟨"if low then".toList, [], [], [' ', ' '], [' '], by simp, by simp [hspace], rfl, rfl⟩
      (.cons ⟨"ending() -- it's".toList, ['\t'], [], [], ['\t'], by simp [htab],
          by simp [htab], rfl, rfl⟩
        (.cons ⟨"end".toList, [], [], [' '], [], by simp, by simp [hspace], rfl, rfl⟩
          (.cons ⟨"end".toList, [], [], [], [], by simp, by simp, rfl, rfl⟩ .nil)))
  have hpieces : pieces "done(ending)".toList =
      [.ofString "done", .gap '(', .ofString "ending", .gap ')'] := by decide +kernel
  obtain ⟨hrename, hlayout, -, -, -, -, hplain⟩ := validate_indifferent late
  refine ⟨by decide +kernel, (hrename underscored).trans hlate, (hlayout _ hrelaid).trans hlate,
    hplain _ fun w hw => ?_⟩
  rw [hpieces] at hw
  obtain rfl | rfl : w = "done".toList ∨ w = "ending".toList := by
    simpa [Piece.ofString] using hw
  · exact ⟨"done", by decide, rfl⟩
  · exact ⟨"ending", by decide, rfl⟩

end ScriptComposer.Script
