import Shorthand.Proofs.Json.Remerge
import Shorthand.Proofs.Settings.Ordered
import Shorthand.Proofs.Settings.Snippets

/-! # Layering settings under options

Layering the same settings a second time changes no part of the configuration that results. Empty
settings change it in two respects only: members that are null are dropped from two bags, and a
bare text for snippets counts as the name of a table.
-/

namespace Shorthand

/-- Configurations with equal parts, and with registries that resolve every name alike. -/
structure Configuration.Agree (a b : Configuration) : Prop where
  family : a.family = b.family
  dialect : a.dialect = b.dialect
  field : a.field = b.field
  text : a.text = b.text
  profile : a.profile = b.profile
  vars : a.vars = b.vars
  addons : a.addons = b.addons
  format : a.format = b.format
  resolve : ∀ name, a.snippets.resolve name = b.snippets.resolve name

namespace Settings

variable {s : Settings} {c : Context} {o : Options}

def bag (s : Settings) (c : Context) (o : Options) (pick : Section → Json) (top : Json) : Json :=
  Json.mergeLayers (layers pick (s.sectionsFor c o) top)

theorem vars_optionsWith : (s.optionsWith c o).vars = s.bag c o (·.vars) o.vars :=
  rfl

theorem addons_optionsWith : (s.optionsWith c o).addons = s.bag c o (·.addons) o.addons :=
  rfl

theorem format_optionsWith : (s.optionsWith c o).format = s.bag c o (·.format) o.format :=
  rfl

theorem profile_optionsWith_options {top : Json} (h : o.profile = .options top) :
    (s.optionsWith c o).profile = .options (s.bag c o (·.profile) top) := by
  simp only [optionsWith, h, bag]

theorem profile_optionsWith_resolved {p : Profile} (h : o.profile = .resolved p) :
    (s.optionsWith c o).profile = .resolved p := by
  simp only [optionsWith, h]

/-- A bag in which the sections have been merged absorbs them. -/
theorem bag_optionsWith (hs : s.Ordered) {pick : Section → Json}
    (hp : ∀ sec : Section, sec.Ordered → (pick sec).Ordered) {top : Json} (ht : top.Ordered) :
    s.bag c (s.optionsWith c o) pick (s.bag c o pick top) = s.bag c o pick top := by
  have hl : ∀ v ∈ (s.sectionsFor c o).map pick, v.Ordered := by
    intro v hv
    obtain ⟨sec, hsec, rfl⟩ := List.mem_map.mp hv
    exact hp sec (hs.of_mem_sections hsec)
  rw [bag, bag, sectionsFor_optionsWith]
  exact Json.mergeLayers_append_mergeLayers hl ht

theorem profile_optionsWith_twice (hs : s.Ordered) (ho : o.Ordered) :
    (s.optionsWith c (s.optionsWith c o)).profile = (s.optionsWith c o).profile := by
  have hp := ho.profile
  cases h : o.profile with
  | resolved p =>
    have h₁ : (s.optionsWith c o).profile = .resolved p := profile_optionsWith_resolved h
    rw [profile_optionsWith_resolved h₁, h₁]
  | options top =>
    rw [h] at hp
    have h₁ := profile_optionsWith_options (s := s) (c := c) h
    rw [profile_optionsWith_options h₁, h₁, bag_optionsWith hs (fun _ h => h.profile) hp]

/-- Layering the same settings under options a second time changes nothing. -/
theorem resolve_optionsWith_twice (hs : s.Ordered) (ho : o.Ordered) :
    (s.optionsWith c (s.optionsWith c o)).resolve.Agree (s.optionsWith c o).resolve where
  family := by simp
  dialect := by simp
  field := rfl
  text := rfl
  profile := congrArg ProfileSource.build (profile_optionsWith_twice hs ho)
  vars := by
    have h : (s.optionsWith c (s.optionsWith c o)).vars = (s.optionsWith c o).vars := by
      simp only [vars_optionsWith, bag_optionsWith hs (fun _ h => h.vars) ho.vars]
    exact congrArg resolveVariables h
  addons := by
    have h : (s.optionsWith c (s.optionsWith c o)).addons = (s.optionsWith c o).addons := by
      simp only [addons_optionsWith, bag_optionsWith hs (fun _ h => h.addons) ho.addons]
    exact congrArg Json.members h
  format := by
    have h : (s.optionsWith c (s.optionsWith c o)).format = (s.optionsWith c o).format := by
      simp only [format_optionsWith, bag_optionsWith hs (fun _ h => h.format) ho.format]
    exact congrArg (FormatOptions.mk _ <| formatBag ·) h
  resolve := s.resolve_snippets_twice c o

def clashingSettings : Settings where
  globals := { markup := some {
    vars := .obj [("lang", .str "ru"), ("theme", .null)]
    addons := .obj
      [("bem", .obj [("element", .str "--"), ("modifier", .null)]), ("jsx", .bool true)]
    snippets := .str "xsl" } }
  dialects := [("angular", {
    addons := .obj [("bem", .bool false), ("jsx", .obj [("tag", .null)])]
    snippets := .arr [.obj [("sw", .str "div[ngSwitch]")], .str "none"] })]

theorem resolve_optionsWith_twice_clashing :
    let c : Context := { dialect := some "angular" }
    let o : Options := { addons := .obj [("bem", .obj [("element", .str "__")]), ("jsx", .null)] }
    clashingSettings.Ordered ∧ o.Ordered ∧
      (clashingSettings.optionsWith c (clashingSettings.optionsWith c o)).resolve.Agree
        (clashingSettings.optionsWith c o).resolve := by
  have hs : clashingSettings.Ordered := ⟨⟨⟨by decide, by decide⟩, by decide⟩, nofun⟩
  exact ⟨hs, by decide, resolve_optionsWith_twice hs (by decide)⟩

end Settings

theorem Profile.ofMembers_nonNull (members : Dict Json) :
    ofMembers (Json.nonNull members) = ofMembers members := by
  have hnull : ∀ bag e, e.2.isNull = true → addMember bag e = bag := by
    intro bag e he
    rw [addMember, tryMember, if_pos he]
  rw [ofMembers, Json.foldl_nonNull addMember hnull, ofMembers]

theorem resolveVariables_nonNull (v : Json) :
    resolveVariables (.obj (Json.nonNull v.members)) = resolveVariables v :=
  Json.foldl_nonNull _ (fun vars e he => by
    obtain ⟨key, w⟩ := e
    obtain rfl : w = .null := Json.isNull_iff.mp he
    rfl) _ v.members

theorem formatBag_nonNull (v : Json) :
    formatBag (.obj (Json.nonNull v.members)) = Json.nonNull (formatBag v) :=
  List.filter_comm ..

namespace Settings

variable {o : Options}

theorem bag_empty {pick : Section → Json} {top : Json} (ht : top.Ordered) :
    ({} : Settings).bag {} o pick top = .obj (Json.nonNull top.members) := by
  rw [bag, sectionsFor_empty]
  exact Json.mergeLayers_singleton ht

theorem build_profile_empty (ho : o.Ordered) :
    (({} : Settings).optionsWith {} o).profile.build = o.profile.build := by
  have hp := ho.profile
  cases h : o.profile with
  | resolved p => rw [profile_optionsWith_resolved h]
  | options top =>
    rw [h] at hp
    rw [profile_optionsWith_options h, bag_empty hp]
    exact Profile.ofMembers_nonNull top.members

theorem resolve_snippets_empty
    (h : ∀ table, o.snippets = .raw (.str table) → Builtin.table? table = none) :
    (({} : Settings).optionsWith {} o).resolve.snippets = o.resolve.snippets := by
  cases hs : o.snippets with
  | registry r =>
    have hr : (({} : Settings).optionsWith {} o).snippets = .registry r := by
      simp only [optionsWith, hs]
    change SnippetSource.build _ _ _ = SnippetSource.build _ _ _
    rw [hr, hs]; rfl
  | raw top =>
    rw [snippets_resolve_optionsWith _ _ _ hs, sectionsFor_empty, familyFor_empty,
      dialectFor_empty]
    change _ = SnippetSource.build _ _ _
    rw [hs, layers, List.map_nil, List.nil_append, List.flatMap_singleton]
    simp only [SnippetSource.build]
    rw [userLayers_snippetItems fun table ht => h table (hs.trans (congrArg _ ht))]
    rfl

/--
Empty settings pass options on unchanged but for the null members of two bags, which are dropped,
and for the bare name of a built-in table as snippets, which counts as a list of that name.
-/
theorem resolve_optionsWith_empty (ho : o.Ordered) :
    let layered := (({} : Settings).optionsWith {} o).resolve
    let direct := o.resolve
    layered.family = direct.family ∧ layered.dialect = direct.dialect ∧
      layered.field = direct.field ∧ layered.text = direct.text ∧
      layered.profile = direct.profile ∧ layered.vars = direct.vars ∧
      layered.addons = Json.nonNull direct.addons ∧
      layered.format.options = Json.nonNull direct.format.options ∧
      ((∀ table, o.snippets = .raw (.str table) → Builtin.table? table = none) →
        layered.snippets = direct.snippets) ∧
      ∀ table, o.snippets = .raw (.str table) → layered.snippets =
        ({ o with snippets := .raw (.arr [.str table]) } : Options).resolve.snippets := by
  intro layered direct
  refine ⟨?_, ?_, rfl, rfl, build_profile_empty ho, ?_, ?_, ?_, resolve_snippets_empty, ?_⟩
  · exact (resolve_family_optionsWith ..).trans (familyFor_empty o)
  · exact (resolve_dialect_optionsWith ..).trans (dialectFor_empty o)
  · exact (congrArg resolveVariables (bag_empty ho.vars)).trans (resolveVariables_nonNull o.vars)
  · exact congrArg Json.members (bag_empty ho.addons)
  · exact (congrArg formatBag (bag_empty ho.format)).trans (formatBag_nonNull o.format)
  · intro table h
    rw [show layered.snippets = _ from snippets_resolve_optionsWith _ _ _ h, sectionsFor_empty,
      familyFor_empty, dialectFor_empty]
    rfl

def looseOptions : Options where
  addons := .obj [("bem", .obj [("element", .null)]), ("jsx", .null)]
  format := .obj [("comment", .null)]
  snippets := .raw (.str "xsl")

theorem resolve_optionsWith_empty_loose :
    looseOptions.Ordered ∧
      (({} : Settings).optionsWith {} looseOptions).resolve.addons =
        [("bem", .obj [("element", .null)])] :=
  have ho : looseOptions.Ordered := by decide
  have ⟨_, _, _, _, _, _, haddons, _⟩ := resolve_optionsWith_empty ho
  ⟨ho, haddons⟩

def xmlDeclaration : String := "\x7b<?xml version=\"1.0\" encoding=\"UTF-8\"?>\x7d"

theorem empty_settings_not_transparent :
    let layered := (({} : Settings).optionsWith {} looseOptions).resolve
    let direct := looseOptions.resolve
    looseOptions.Ordered ∧ layered.addons ≠ direct.addons ∧
      layered.format.options ≠ direct.format.options ∧
      layered.snippets.resolve "!!!" ≠ direct.snippets.resolve "!!!" := by
  intro layered direct
  have hlayered : layered.snippets.resolve "!!!" = some (.literal xmlDeclaration) := by
    have hlast : Templates.Gives "!!!" Builtin.xslSnippets (.literal xmlDeclaration) :=
      Templates.get?_layerOf.mp rfl
    apply (resolve_layered_snippets _ _ looseOptions rfl).mpr
    exact Or.inl ⟨[Builtin.htmlSnippets], Builtin.xslSnippets, [], rfl, hlast, by simp⟩
  have hhtml : ∀ e ∈ Builtin.htmlSnippets, e.2 ≠ xmlDeclaration := by decide +kernel
  refine ⟨by decide, nofun, nofun, fun h => ?_⟩
  rcases (SnippetSource.resolve_build .markup "html" []).mp (h.symm.trans hlayered) with
    hgives | ⟨-, -, -, hlorem⟩
  · obtain ⟨t, ht, hgives⟩ := hgives.exists_mem
    obtain rfl : t = Builtin.htmlSnippets := List.mem_singleton.mp ht
    obtain ⟨e, he, -, heq⟩ := hgives.exists_mem
    exact hhtml e he (Snippet.literal.inj heq)
  · cases hlorem

end Settings

end Shorthand
