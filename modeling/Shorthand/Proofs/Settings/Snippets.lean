import Shorthand.Proofs.Settings.Selection
import Shorthand.Proofs.Snippet.Precedence

/-! # Snippets of layered options

Layered options resolve a name to its last entry among the built-in tables, the sections that apply
and the caller's snippets, and only without any entry to the placeholder text.
-/

namespace Shorthand.Settings

open Templates

variable (s : Settings) (c : Context) (o : Options)

/-- The sources of snippets in order: built-in tables, sections that apply, the caller's. -/
def snippetSources (family : Family) (dialect : String) (project : Option String) (top : Json) :
    List Templates :=
  builtin family dialect ++ (s.bags family dialect project (·.snippets) top).flatMap ofValue

theorem filterMap_snippetItems (v : Json) : (snippetItems v).filterMap ofItem? = ofValue v := by
  cases v with
  | str name =>
    simp only [snippetItems, List.filterMap_cons, List.filterMap_nil, ofValue]
    cases ofItem? (.str name) <;> rfl
  | _ => rfl

theorem filterMap_flatMap_snippetItems (values : List Json) :
    (values.flatMap snippetItems).filterMap ofItem? = values.flatMap ofValue := by
  rw [List.filterMap_flatMap]
  exact congrArg (values.flatMap ·) (funext filterMap_snippetItems)

theorem userLayers_snippetItems {v : Json}
    (h : ∀ table, v = .str table → Builtin.table? table = none) :
    SnippetSource.userLayers (.arr (snippetItems v)) = SnippetSource.userLayers v := by
  cases v with
  | str name =>
    change [Json.str name].filterMap SnippetSource.userLayer? = []
    simp only [List.filterMap_cons, SnippetSource.userLayer?, h name rfl, List.filterMap_nil]
  | _ => rfl

theorem snippets_resolve_optionsWith {top : Json} (h : o.snippets = .raw top) :
    (s.optionsWith c o).resolve.snippets =
      (SnippetSource.raw (.arr ((layers (·.snippets) (s.sectionsFor c o) top).flatMap
        snippetItems))).build (familyFor c o) (dialectFor c o) := by
  have hs : (s.optionsWith c o).snippets =
      .raw (.arr ((layers (·.snippets) (s.sectionsFor c o) top).flatMap snippetItems)) := by
    simp only [optionsWith, h]
  change (s.optionsWith c o).snippets.build (s.optionsWith c o).family
    (s.optionsWith c o).resolve.dialect = _
  rw [hs, family_optionsWith, resolve_dialect_optionsWith]

theorem resolve_layered_snippets {top : Json} (h : o.snippets = .raw top) {name : String}
    {x : Snippet} : (s.optionsWith c o).resolve.snippets.resolve name = some x ↔
      Resolves (familyFor c o) (builtin (familyFor c o) (dialectFor c o) ++
        (layers (·.snippets) (s.sectionsFor c o) top).flatMap ofValue) name x := by
  rw [s.snippets_resolve_optionsWith c o h, SnippetSource.resolve_build,
    filterMap_flatMap_snippetItems]

/--
A name resolves to the entry of the last source that has it, else to the placeholder text where
that applies. No entry of an earlier source makes way for nothing.
-/
theorem resolve_snippets_optionsWith (top : Json) (name : String) :
    let cfg := (s.optionsWith c { o with snippets := .raw top }).resolve
    let sources := s.snippetSources cfg.family cfg.dialect c.project top
    (∀ x, cfg.snippets.resolve name = some x ↔
      LastGives (Gives name) sources x ∨
        (∀ t ∈ sources, ∀ e ∈ t, ¬ Layer.Registers e.1 name) ∧ cfg.family = .markup ∧
          SnippetSource.loremPattern.isMatch name ∧ x = .lorem) ∧
    ∀ t ∈ sources, ∀ e ∈ t, Layer.Registers e.1 name → cfg.snippets.contains name := by
  intro cfg sources
  have hr (x : Snippet) :
      cfg.snippets.resolve name = some x ↔ Resolves cfg.family sources name x := by
    simp only [cfg, sources, snippetSources, bags_resolve_optionsWith]
    simp only [resolve_family_optionsWith, resolve_dialect_optionsWith]
    exact s.resolve_layered_snippets c { o with snippets := .raw top } rfl
  constructor
  · intro x
    rw [hr, Resolves, forall_not_lastGives_iff]
  · intro t ht e he hname
    obtain ⟨x, hx⟩ := exists_lastGives_iff.mpr ⟨t, ht, exists_gives_iff.mpr ⟨e, he, hname⟩⟩
    rw [Registry.contains, (hr x).mpr (Or.inl hx)]
    rfl

/-- Two names for one template, of which the caller gives one another template. -/
def aliasSettings : Settings where
  globals := { markup := some { snippets := .obj [("a|b", .str "x")] } }

theorem resolve_snippets_optionsWith_aliases :
    let cfg := (aliasSettings.optionsWith {} { snippets := .raw (.obj [("b", .str "y")]) }).resolve
    cfg.snippets.resolve "b" = some (.literal "y") ∧ Layer.Registers "a|b" "a" ∧
      cfg.snippets.contains "a" := by
  intro cfg
  have hb : Layer.Registers "b" "b" := Layer.mem_aliases_iff.mp (by decide)
  have ha : Layer.Registers "a|b" "a" := Layer.mem_aliases_iff.mp (by decide)
  have hgives : Gives "b" [("b", "y")] (.literal "y") := ⟨[], _, [], rfl, ⟨hb, rfl⟩, by simp⟩
  refine ⟨?_, ha, ?_⟩
  · apply ((aliasSettings.resolve_snippets_optionsWith {} {} (.obj [("b", .str "y")]) "b").1 _).mpr
    exact Or.inl ⟨[Builtin.htmlSnippets, [("a|b", "x")]], _, [], rfl, hgives, by simp⟩
  · have hsource : [("a|b", "x")] ∈ aliasSettings.snippetSources .markup "html" none
        (.obj [("b", .str "y")]) := List.mem_cons_of_mem _ List.mem_cons_self
    exact (aliasSettings.resolve_snippets_optionsWith {} {} (.obj [("b", .str "y")]) "a").2
      _ hsource _ List.mem_cons_self ha

/-- Sections that have been layered once more below the caller's snippets change no lookup. -/
theorem resolve_snippets_twice (name : String) :
    (s.optionsWith c (s.optionsWith c o)).resolve.snippets.resolve name =
      (s.optionsWith c o).resolve.snippets.resolve name := by
  cases h : o.snippets with
  | registry r =>
    have hs (t : Options) (ht : t.snippets = .registry r) :
        (s.optionsWith c t).snippets = .registry r := by
      simp only [optionsWith, ht]
    have hr (t : Options) (ht : t.snippets = .registry r) : t.resolve.snippets = r := by
      change t.snippets.build _ _ = r
      rw [ht]; rfl
    rw [hr _ (hs _ (hs o h)), hr _ (hs o h)]
  | raw top =>
    have hs : (s.optionsWith c o).snippets =
        .raw (.arr ((layers (·.snippets) (s.sectionsFor c o) top).flatMap snippetItems)) := by
      simp only [optionsWith, h]
    apply Option.ext
    intro x
    rw [s.resolve_layered_snippets c _ hs, s.resolve_layered_snippets c o h,
      familyFor_optionsWith, dialectFor_optionsWith, sectionsFor_optionsWith]
    simp only [layers, List.flatMap_append, List.flatMap_singleton]
    rw [ofValue, List.filterMap_append, filterMap_flatMap_snippetItems, filterMap_snippetItems,
      resolves_append_self]

end Shorthand.Settings
