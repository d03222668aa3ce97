import ScriptComposer.Catalog.Search
import ScriptComposer.Program

/-!
# ScriptComposer.Proofs.Catalog.Search

What a search shows, and that all of it can be added to a program.

A search shows parts of the catalog, while a function is added by looking it up in the whole
catalog, by the name of its category and its own.  If no name is given twice, the function
that is found is the one that was shown.

* `search_eq` — the categories a search shows, and their functions;
* `functionIn?_of_mem` — what is in a category is found there;
* `shown_functions_are_added` — so what is shown is what is added.
-/

namespace ScriptComposer

/-- An element that has its key alone is found by it. -/
theorem find?_key {α β : Type} [DecidableEq β] {key : α → β} {l : List α} (h : (l.map key).Nodup)
    {x : α} (hx : x ∈ l) : l.find? (key · = key x) = some x := by
  induction l with
  | nil => simp at hx
  | cons y l ih =>
      obtain ⟨hy, hl⟩ := List.nodup_cons.1 h
      rcases List.mem_cons.1 hx with rfl | hx
      · simp
      · have hne : key y ≠ key x := fun e => hy (e ▸ List.mem_map_of_mem hx)
        rw [List.find?_cons_of_neg (by simpa using hne), ih hl hx]

/-! ## searching -/

/-- The function's name or its description has the trimmed term as a part, both in lower
case. -/
def ApiFunction.Mentions (f : ApiFunction) (term : String) : Prop :=
  Text.lowercase (Text.trim term.toList) <:+: Text.lowercase f.name.toList ∨
    Text.lowercase (Text.trim term.toList) <:+: Text.lowercase f.description.toList

theorem ApiFunction.matchesKey_iff {f : ApiFunction} {term : String} :
    f.matchesKey (searchKey term) = true ↔ f.Mentions term := by
  rw [matchesKey, Bool.or_eq_true, Text.occursIn_iff, Text.occursIn_iff]
  rfl

instance (f : ApiFunction) (term : String) : Decidable (f.Mentions term) :=
  decidable_of_iff _ ApiFunction.matchesKey_iff

/-- The category with only the functions that mention a term. -/
def Category.mentioning (c : Category) (term : String) : Category :=
  { c with functions := c.functions.filter (·.Mentions term) }

theorem searchKey_eq_nil_iff {term : String} :
    searchKey term = [] ↔ Text.isBlankText term = true := by
  rw [searchKey, Text.lowercase_eq_nil_iff, Text.trim_eq_nil_iff]
  rfl

/-- Everything mentions a blank term. -/
theorem Category.mentioning_of_blank {term : String} (h : Text.isBlankText term = true)
    (c : Category) : c.mentioning term = c := by
  have hall : ∀ f ∈ c.functions, decide (f.Mentions term) = true := by
    intro f _
    have hkey : Text.lowercase (Text.trim term.toList) = [] := searchKey_eq_nil_iff.2 h
    exact decide_eq_true (.inl (hkey ▸ List.nil_infix))
  rw [mentioning, List.filter_eq_self.2 hall]

theorem Category.restrict?_eq (c : Category) (term : String) :
    c.restrict? (searchKey term) =
      if (c.mentioning term).functions = [] then none else some (c.mentioning term) := by
  have hfunctions : c.functions.filter (·.matchesKey (searchKey term)) =
      (c.mentioning term).functions :=
    List.filter_congr fun f _ => by
      rw [Bool.eq_iff_iff, ApiFunction.matchesKey_iff, decide_eq_true_iff]
  unfold restrict?
  rw [hfunctions]
  split
  · next h => rw [if_pos h]
  · next h => exact (if_neg h).symm

/-- A search shows every category with the functions that mention the term; one without any is
left out, unless the term is blank. -/
theorem Catalog.search_eq (catalog : Catalog) (term : String) :
    catalog.search term =
      (catalog.categories.map (·.mentioning term)).filter fun c =>
        Text.isBlankText term || c.functions ≠ [] := by
  cases hblank : Text.isBlankText term with
  | true =>
      have hall : catalog.categories.map (·.mentioning term) = catalog.categories :=
        List.map_id'' (Category.mentioning_of_blank hblank) _
      rw [search, searchKey_eq_nil_iff.2 hblank, hall]
      exact (List.filter_eq_self.2 fun _ _ => rfl).symm
  | false =>
      obtain ⟨c, rest, hkey⟩ := List.exists_cons_of_ne_nil fun hnil =>
        Bool.false_ne_true (hblank ▸ searchKey_eq_nil_iff.1 hnil)
      have hsearch : catalog.search term =
          catalog.categories.filterMap (·.restrict? (searchKey term)) := by rw [search, hkey]
      rw [hsearch]
      induction catalog.categories with
      | nil => rfl
      | cons c cs ih =>
          rw [List.filterMap_cons, Category.restrict?_eq, List.map_cons, List.filter_cons, ih]
          by_cases h : (c.mentioning term).functions = [] <;> simp [h]

/-! ## what is shown is found -/

namespace Catalog

variable {cs : List Category} {term : String}

theorem map_name_categories (cs : List Category) :
    (ofCategories cs).categories.map (·.name) = cs.map (·.name) := by
  simp [ofCategories, Category.backfill]

theorem map_name_backfill (c : Category) :
    c.backfill.functions.map (·.name) = c.functions.map (·.name) := by
  simp [Category.backfill]

/-- A category that is shown is one of the catalog, by its name, and its functions are some of
that one's. -/
theorem exists_of_mem_search {catalog : Catalog} {shown : Category}
    (h : shown ∈ catalog.search term) :
    ∃ c ∈ catalog.categories, shown = c.mentioning term := by
  rw [search_eq] at h
  obtain ⟨c, hc, rfl⟩ := List.mem_map.1 (List.mem_filter.1 h).1
  exact ⟨c, hc, rfl⟩

theorem nodup_map_name_of_mem (h : ∀ c ∈ cs, (c.functions.map (·.name)).Nodup) {c : Category}
    (hc : c ∈ (ofCategories cs).categories) : (c.functions.map (·.name)).Nodup := by
  obtain ⟨c', hc', rfl⟩ := List.mem_map.1 hc
  rw [map_name_backfill]
  exact h c' hc'

theorem map_name_search_sublist (catalog : Catalog) (term : String) :
    ((catalog.search term).map (·.name)).Sublist (catalog.categories.map (·.name)) := by
  rw [search_eq]
  refine (List.filter_sublist.map _).trans ?_
  rw [List.map_map]
  exact .refl _

/-- If no name is given twice, a function is found by the name of a category that it is in. -/
theorem functionIn?_of_mem (hcategories : (cs.map (·.name)).Nodup)
    (hfunctions : ∀ c ∈ cs, (c.functions.map (·.name)).Nodup) {c : Category}
    (hc : c ∈ (ofCategories cs).categories) {f : ApiFunction} (hf : f ∈ c.functions) :
    (ofCategories cs).functionIn? c.name f.name = some f := by
  have hcategory : (ofCategories cs).category? c.name = some c :=
    find?_key (by rwa [map_name_categories]) hc
  have hfunction : c.functions.find? (·.name = f.name) = some f :=
    find?_key (nodup_map_name_of_mem hfunctions hc) hf
  rw [functionIn?, hcategory]
  exact hfunction

/-- A name that is not in the category is not found. -/
theorem functionIn?_eq_none {catalog : Catalog} {category name : String}
    (h : ∀ c ∈ catalog.categories, c.name = category → ∀ f ∈ c.functions, f.name ≠ name) :
    catalog.functionIn? category name = none := by
  cases hcategory : catalog.category? category with
  | none => simp [functionIn?, hcategory]
  | some c =>
      have hc := List.mem_of_find?_eq_some hcategory
      have hname : c.name = category := by simpa using List.find?_some hcategory
      rw [functionIn?, hcategory]
      exact List.find?_eq_none.2 fun f hf => by simpa using h c hc hname f hf

end Catalog

/-! ## adding what is shown -/

/-- A function that is added becomes the last statement, a call inside the main loop. -/
theorem Program.statements_add (p : Program) (f : ApiFunction) :
    (p.add f).1.statements = p.statements ++ [.ofFunction (p.add f).2 f] :=
  List.insertIdx_length_self

theorem Program.addFromCatalog_of_some {catalog : Catalog} {category name : String}
    {f : ApiFunction} (h : catalog.functionIn? category name = some f) (p : Program) :
    p.addFromCatalog catalog category name = ((p.add f).1, some (p.add f).2) := by
  rw [addFromCatalog, h]
  rfl

/-- For every catalog in which no category has the name of another one, and no function the
name of another one of its category, every term and every program:

* the search shows the categories of the catalog in their order, each with those of its
  functions, in their order, that mention the term; a category without any is shown only if
  the term is blank; nothing is shown twice;
* a function that is shown in a category is a function given for it, which carries the
  category's name unless one was given; it can be added by the two names, and this puts one
  statement behind the others: an enabled call inside the main loop, with the function's
  name, description and category, and for each parameter an argument, set to the default
  value or to the empty text;
* under a category and a name that are not together in the catalog nothing is added. -/
theorem Catalog.shown_functions_are_added (cs : List Category)
    (hcategories : (cs.map (·.name)).Nodup)
    (hfunctions : ∀ c ∈ cs, (c.functions.map (·.name)).Nodup) (term : String) (p : Program) :
    ((ofCategories cs).search term =
        ((ofCategories cs).categories.map (·.mentioning term)).filter
          (fun c => Text.isBlankText term || c.functions ≠ []) ∧
      (((ofCategories cs).search term).map (·.name)).Nodup ∧
      ∀ c ∈ (ofCategories cs).search term, (c.functions.map (·.name)).Nodup) ∧
    (∀ c ∈ (ofCategories cs).search term, ∀ f ∈ c.functions,
      (∃ c' ∈ cs, c'.name = c.name ∧ ∃ f' ∈ c'.functions,
        f = { f' with category := f'.category.or (some c'.name) }) ∧
      ∃ s : Statement,
        (p.addFromCatalog (ofCategories cs) c.name f.name).2 = some s.id ∧
        (p.addFromCatalog (ofCategories cs) c.name f.name).1.statements = p.statements ++ [s] ∧
        s.enabled = true ∧ s.inMainLoop = true ∧
        s.body = .call ⟨⟨f.name, f.description, f.category⟩,
          f.parameters.map fun q => ⟨q.name, q.type, q.description, q.defaultValue.getD ""⟩⟩) ∧
    ∀ category name, (∀ c ∈ (ofCategories cs).categories, c.name = category →
        ∀ f ∈ c.functions, f.name ≠ name) →
      p.addFromCatalog (ofCategories cs) category name = (p, none) := by
  refine ⟨⟨search_eq _ term, ?_, fun shown hshown => ?_⟩, fun shown hshown f hf => ?_,
    fun category name h => ?_⟩
  · have hnames := ((ofCategories cs).map_name_search_sublist term)
    rw [map_name_categories] at hnames
    exact hcategories.sublist hnames
  · obtain ⟨c, hc, rfl⟩ := exists_of_mem_search hshown
    exact (nodup_map_name_of_mem hfunctions hc).sublist (List.filter_sublist.map _)
  · obtain ⟨c, hc, rfl⟩ := exists_of_mem_search hshown
    have hmem : f ∈ c.functions := (List.mem_filter.1 hf).1
    have hadded := p.addFromCatalog_of_some (functionIn?_of_mem hcategories hfunctions hc hmem)
    refine ⟨?_, .ofFunction (p.add f).2 f, congrArg Prod.snd hadded, ?_, rfl, rfl, rfl⟩
    · obtain ⟨c', hc', rfl⟩ := List.mem_map.1 hc
      obtain ⟨f', hf', rfl⟩ := List.mem_map.1 hmem
      exact ⟨c', hc', rfl, f', hf', rfl⟩
    · exact (congrArg (·.1.statements) hadded).trans (p.statements_add f)
  · rw [Program.addFromCatalog, functionIn?_eq_none h]

/-- Two functions of one name, one that was given the name of another category, and a category
without functions. -/
def assorted : List Category :=
  [⟨"Moving", [⟨"Walk", "", [⟨"x", ⟨"number"⟩, "", none⟩, ⟨"y", ⟨"number"⟩, "", some "2"⟩],
      "", "", none⟩, ⟨"Stop", "Stand still", [], "", "", some "Basics"⟩]⟩,
    ⟨"Old", [⟨"Walk", "Walk until you stop", [], "", "", none⟩]⟩, ⟨"New", []⟩]

/-- Both functions that mention stopping are shown, and the one from the second category is
added although the first has one of its name; the first function is not in the second
category. -/
theorem Catalog.shown_functions_are_added_assorted :
    ((assorted.map (·.name)).Nodup ∧ ∀ c ∈ assorted, (c.functions.map (·.name)).Nodup) ∧
    ((ofCategories assorted).search " STOP").map (fun c => (c.name, c.functions.map (·.name))) =
      [("Moving", ["Stop"]), ("Old", ["Walk"])] ∧
    (∃ s : Statement,
      (Program.empty.addFromCatalog (ofCategories assorted) "Old" "Walk").1.statements = [s] ∧
        s.inMainLoop = true ∧
        s.body = .call ⟨⟨"Walk", "Walk until you stop", some "Old"⟩, []⟩) ∧
    Program.empty.addFromCatalog (ofCategories assorted) "Old" "Stop" = (Program.empty, none) := by
  have hcategories : (assorted.map (·.name)).Nodup := by decide
  have hfunctions : ∀ c ∈ assorted, (c.functions.map (·.name)).Nodup := by decide
  obtain ⟨-, hadded, hmissing⟩ :=
    shown_functions_are_added assorted hcategories hfunctions " STOP" .empty
  have hshown : ⟨"Old", [⟨"Walk", "Walk until you stop", [], "", "", some "Old"⟩]⟩ ∈
      (ofCategories assorted).search " STOP" := by decide +kernel
  obtain ⟨-, s, -, hstatements, -, hinside, hbody⟩ := hadded _ hshown _ List.mem_cons_self
  exact ⟨⟨hcategories, hfunctions⟩, by decide +kernel, ⟨s, hstatements, hinside, hbody⟩,
    hmissing "Old" "Stop" (by decide)⟩

end ScriptComposer
