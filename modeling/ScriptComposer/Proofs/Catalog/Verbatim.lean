import ScriptComposer.Proofs.Catalog.Search
import ScriptComposer.Proofs.Text.Lowering

/-!
# ScriptComposer.Proofs.Catalog.Verbatim

Searching for what stands in a catalog word for word.

A search compares the term with names and descriptions after both sides were lowered on their
own.  A term that a name contains as it is typed is found in it, unless a capital sigma at the
edge of the term is lowered differently in the name: typed alone it is the last letter of a
word, or the first, and in the name it need not be.

* `Catalog.shows_iff` — what a search shows of a category;
* `Catalog.shows_verbatim` — which terms are found wherever they stand word for word;
* `Catalog.not_shows_streets` — a name is hidden from a part of itself.
-/

namespace ScriptComposer

/-- The search shows the function under the name of its category, among functions of that
category. -/
def Catalog.Shows (catalog : Catalog) (term : String) (c : Category) (f : ApiFunction) : Prop :=
  ∃ shown ∈ catalog.search term,
    shown.name = c.name ∧ shown.functions.Sublist c.functions ∧ f ∈ shown.functions

/-- The name or the description of the function is `before`, the trimmed term and `after`, one
behind the other. -/
def ApiFunction.HasVerbatim (f : ApiFunction) (term : String) (before after : List Char) : Prop :=
  f.name.toList = before ++ Text.trim term.toList ++ after ∨
    f.description.toList = before ++ Text.trim term.toList ++ after

namespace Catalog

variable {catalog : Catalog} {term : String} {c : Category} {f : ApiFunction}

/-- A search shows the functions that mention the term, each in its category. -/
theorem shows_iff (hc : c ∈ catalog.categories) (hf : f ∈ c.functions) :
    catalog.Shows term c f ↔ f.Mentions term := by
  constructor
  · intro h
    obtain ⟨shown, hshown, -, -, hmem⟩ := h
    obtain ⟨c', -, rfl⟩ := exists_of_mem_search hshown
    simpa using (List.mem_filter.1 hmem).2
  · intro h
    have hmem : f ∈ (c.mentioning term).functions :=
      List.mem_filter.2 ⟨hf, decide_eq_true h⟩
    have hshown : c.mentioning term ∈ catalog.search term := by
      rw [search_eq, List.mem_filter]
      have hne : (c.mentioning term).functions ≠ [] := List.ne_nil_of_mem hmem
      exact ⟨List.mem_map_of_mem hc, by simp [hne]⟩
    exact ⟨_, hshown, rfl, List.filter_sublist, hmem⟩

end Catalog

/-- A function mentions what it has word for word at a place where no sigma turns. -/
theorem ApiFunction.HasVerbatim.mentions {f : ApiFunction} {term : String}
    {before after : List Char} (h : f.HasVerbatim term before after)
    (hsigma : ¬Text.SigmaTurns before (Text.trim term.toList) after) : f.Mentions term := by
  rcases h with hname | hdescription
  · left
    rw [hname]
    exact Text.lowercase_infix hsigma
  · right
    rw [hdescription]
    exact Text.lowercase_infix hsigma

/-- A term with a loose sigma is hidden from a function that has it word for word. -/
theorem Text.HasLooseSigma.exists_not_mentions {term : String}
    (h : HasLooseSigma (trim term.toList)) :
    ∃ (f : ApiFunction) (before after : List Char),
      f.HasVerbatim term before after ∧ ¬f.Mentions term := by
  obtain ⟨before, after, hnot⟩ := h.exists_not_infix
  refine ⟨⟨String.ofList (before ++ trim term.toList ++ after), "", [], "", "", none⟩, before,
    after, .inl String.toList_ofList, ?_⟩
  rintro (hname | hdescription)
  · rw [String.toList_ofList] at hname
    exact hnot hname
  · -- Nothing is a part of the empty description but the empty term, which has no sigma.
    have hempty : lowercase (trim term.toList) = [] := List.infix_nil.1 hdescription
    obtain ⟨s₁, s₂, hs, -⟩ := h
    rw [lowercase_eq_nil_iff, hs] at hempty
    simp at hempty

/-- For every term:

* in every catalog, a function whose name or description has the trimmed term somewhere word
  for word is shown in its category, if no capital sigma of the term is lowered there in
  another way than in the term alone;
* in every catalog, all functions that have the term word for word are shown, wherever it
  stands in their name or description, if and only if the term has no loose sigma. -/
theorem Catalog.shows_verbatim (term : String) :
    (∀ catalog : Catalog, ∀ c ∈ catalog.categories, ∀ f ∈ c.functions, ∀ before after,
      f.HasVerbatim term before after →
        ¬Text.SigmaTurns before (Text.trim term.toList) after → catalog.Shows term c f) ∧
    ((∀ catalog : Catalog, ∀ c ∈ catalog.categories, ∀ f ∈ c.functions, ∀ before after,
      f.HasVerbatim term before after → catalog.Shows term c f) ↔
        ¬Text.HasLooseSigma (Text.trim term.toList)) := by
  have hplace : ∀ catalog : Catalog, ∀ c ∈ catalog.categories, ∀ f ∈ c.functions,
      ∀ before after, f.HasVerbatim term before after →
        ¬Text.SigmaTurns before (Text.trim term.toList) after → catalog.Shows term c f := by
    intro catalog c hc f hf before after hverbatim hsigma
    exact (shows_iff hc hf).2 (hverbatim.mentions hsigma)
  refine ⟨hplace, ?_, ?_⟩
  · intro hall hloose
    obtain ⟨f, before, after, hverbatim, hnot⟩ := hloose.exists_not_mentions
    have hshown := hall ⟨[⟨"", [f]⟩]⟩ ⟨"", [f]⟩ (by simp) f (by simp) before after hverbatim
    exact hnot ((shows_iff (by simp) (by simp)).1 hshown)
  · intro hloose catalog c hc f hf before after hverbatim
    exact hplace catalog c hc f hf before after hverbatim fun h => hloose h.hasLooseSigma

def streets : Catalog := .ofCategories [⟨"Streets", [⟨"ΟΔΟΣ", "", [], "", "", none⟩]⟩]

/-- The last letter of the only name is hidden from a search for it: it is lowered to a medial
sigma in the term and to a final one in the name. -/
theorem Catalog.not_shows_streets :
    ∃ c ∈ streets.categories, ∃ f ∈ c.functions,
      f.HasVerbatim "Σ" "ΟΔΟ".toList [] ∧ ¬streets.Shows "Σ" c f := by
  have hsearch : streets.search "Σ" = [] := by decide +kernel
  refine ⟨_, List.mem_singleton.2 rfl, _, List.mem_singleton.2 rfl, .inl (by decide), ?_⟩
  rintro ⟨shown, hshown, -⟩
  rw [hsearch] at hshown
  cases hshown

end ScriptComposer
