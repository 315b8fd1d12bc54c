import Shorthand.Configuration
import Shorthand.Proofs.Dict
import Shorthand.Proofs.Json.LastWriter
import Shorthand.Proofs.Settings.Selection
import Shorthand.Proofs.Snippet.Precedence

/-! # Resolved configurations

Options may be read from any JSON value, and they always resolve. The configuration has a dialect
and a family that fit together, a format bag without a tabstop writer, and a registry that stands
on the table of its family.
-/

namespace Shorthand

namespace Family

def patterns : Family → List (Pattern × Snippet)
  | .markup => [(SnippetSource.loremPattern, .lorem)]
  | .stylesheet => []

theorem ofName_eq_stylesheet_iff (name : String) :
    ofName name = .stylesheet ↔ name = "stylesheet" := by
  rw [ofName]
  split <;> simp_all

theorem classify_eq_stylesheet_iff (kind : Option String) (dialect : String) :
    classify kind dialect = .stylesheet ↔
      kind = some "stylesheet" ∨
        (∀ name, kind = some name → name = "") ∧ dialect ∈ stylesheetDialects := by
  have hd : classify none dialect = .stylesheet ↔ dialect ∈ stylesheetDialects := by
    simp [classify, nonEmpty, isStylesheet]
  cases kind with
  | none => simpa using hd
  | some name =>
    by_cases hn : name = ""
    · subst hn
      change classify none dialect = .stylesheet ↔ _
      simpa using hd
    · rw [classify, nonEmpty_some hn]
      simp [ofName_eq_stylesheet_iff, hn]

end Family

namespace Registry

/--
The first layer holds the names that the table registers and the given patterns, other layers hold
no pattern, and the names of the table resolve.
-/
structure StandsOn (r : Registry) (table : Templates) (patterns : List (Pattern × Snippet)) :
    Prop where
  names : r.layers.head?.map (·.names) = some (Builtin.layerOf table).names
  mem_names : ∀ l, r.layers.head? = some l → ∀ name,
    name ∈ l.names.keys ↔ ∃ e ∈ table, Layer.Registers e.1 name
  patterns : r.layers.head?.map (·.patterns) = some patterns
  rest : ∀ l ∈ r.layers.tail, l.patterns = []
  contains : ∀ e ∈ table, ∀ name, Layer.Registers e.1 name → r.contains name

theorem contains_of_mem {r : Registry} {l : Layer} {name : String} (hl : l ∈ r.layers)
    (h : (l.get? name).isSome) : r.contains name := by
  have hs : (r.layers.reverse.findSome? (·.get? name)).isSome :=
    List.findSome?_isSome_iff.mpr ⟨l, List.mem_reverse.mpr hl, h⟩
  rw [contains, resolve, Option.isSome_or, hs, Bool.true_or]

end Registry

namespace SnippetSource

open Templates

theorem patterns_layerOf (t : Templates) : (Builtin.layerOf t).patterns = [] :=
  Layer.patterns_ofPairs _

theorem patterns_of_userLayer? {v : Json} {l : Layer} (h : userLayer? v = some l) :
    l.patterns = [] := by
  rw [userLayer?_eq, Option.map_eq_some_iff] at h
  obtain ⟨t, _, rfl⟩ := h
  exact patterns_layerOf t

theorem patterns_of_mem_userLayers {v : Json} {l : Layer} (h : l ∈ userLayers v) :
    l.patterns = [] := by
  cases v with
  | arr items =>
    obtain ⟨item, _, hi⟩ := List.mem_filterMap.mp h
    exact patterns_of_userLayer? hi
  | obj members =>
    obtain rfl := List.mem_singleton.mp h
    exact Layer.patterns_ofPairs _
  | _ => cases h

theorem patterns_of_mem_builtinLayers {family : Family} {dialect : String} {l : Layer}
    (h : l ∈ builtinLayers family dialect) : l.patterns = [] := by
  rw [builtinLayers_eq] at h
  obtain ⟨t, _, rfl⟩ := List.mem_map.mp h
  exact patterns_layerOf t

theorem installLorem_cons (family : Family) {base : Layer} (h : base.patterns = [])
    (layers : List Layer) :
    installLorem family (base :: layers) = { base with patterns := family.patterns } :: layers := by
  cases family with
  | markup => simp [installLorem, Layer.setPattern, h, Family.patterns]
  | stylesheet => rw [installLorem, Family.patterns, ← h]

variable (v : Json) (family : Family) (dialect : String)

/-- The family's table always survives as the first layer, so the patterns go to it. -/
theorem layers_build : ∃ rest, ((raw v).build family dialect).layers =
      { Builtin.layerOf (base family) with patterns := family.patterns } :: rest ∧
    ∀ l ∈ rest, l.patterns = [] := by
  obtain ⟨more, hm⟩ : ∃ more, builtinLayers family dialect =
      Builtin.layerOf (base family) :: more := by
    rw [builtinLayers_eq]
    exact ⟨_, rfl⟩
  refine ⟨more ++ userLayers v, ?_, ?_⟩
  · change installLorem family (builtinLayers family dialect ++ userLayers v) = _
    rw [hm, List.cons_append, installLorem_cons family (patterns_layerOf _)]
  · intro l hl
    rcases List.mem_append.mp hl with hl | hl
    · have hbuiltin : l ∈ builtinLayers family dialect := by
        rw [hm]
        exact List.mem_cons_of_mem _ hl
      exact patterns_of_mem_builtinLayers hbuiltin
    · exact patterns_of_mem_userLayers hl

theorem standsOn_build : ((raw v).build family dialect).StandsOn (base family) family.patterns := by
  obtain ⟨rest, hl, hr⟩ := layers_build v family dialect
  constructor
  · rw [hl]; rfl
  · rw [hl]
    rintro l ⟨⟩ name
    exact mem_keys_layerOf
  · rw [hl]; rfl
  · rw [hl]; exact hr
  · intro e he name hname
    have hbase : { Builtin.layerOf (base family) with patterns := family.patterns } ∈
        ((raw v).build family dialect).layers := by
      rw [hl]
      exact List.mem_cons_self
    have hmem : name ∈ (Builtin.layerOf (base family)).names.keys :=
      mem_keys_layerOf.mpr ⟨e, he, hname⟩
    exact Registry.contains_of_mem hbase (Dict.contains_iff_mem_keys.mpr hmem)

end SnippetSource

theorem get?_formatBag {key : String} (h : key ≠ "field") (v : Json) :
    (formatBag v).get? key = v.get? key :=
  Dict.get?_erase_of_ne h v.members

namespace Options

open Json

variable (v : Json)

theorem kind_ofJson : (ofJson v).kind = (v.get? "type").bind str? := by
  cases v <;> rfl

theorem format_ofJson : (ofJson v).format = (v.get? "format").getD .null := by
  cases v <;> rfl

theorem snippets_ofJson : (ofJson v).snippets = .raw ((v.get? "snippets").getD .null) := by
  cases v <;> rfl

theorem family_ofJson_eq_stylesheet_iff :
    (ofJson v).family = .stylesheet ↔
      v.get? "type" = some (.str "stylesheet") ∨
        (∀ name, v.get? "type" = some (.str name) → name = "") ∧
          (ofJson v).resolve.dialect ∈ Family.stylesheetDialects := by
  have hf : (ofJson v).family =
      Family.classify (ofJson v).kind (ofJson v).resolve.dialect := rfl
  rw [hf, Family.classify_eq_stylesheet_iff, kind_ofJson]
  simp only [bind_str?_eq_some_iff]

theorem get?_formatBag_ofJson {key : String} (hk : key ≠ "field") :
    (formatBag (ofJson v).format).get? key = v.at? ["format", key] := by
  rw [get?_formatBag hk, format_ofJson, at?_cons]
  cases v.get? "format" with
  | none => rfl
  | some w =>
    simp only [Option.getD_some, Option.bind_some, at?_cons]
    cases w.get? key <;> rfl

/--
Whatever value the options are read from, the configuration is whole: the dialect has a name and
fits the family, the bag is the given one without a tabstop writer, and no snippet of the user can
displace the table of the family.
-/
theorem invariants_resolve_ofJson (v : Json) :
    let cfg := (ofJson v).resolve
    cfg.dialect ≠ "" ∧
      (cfg.family = .stylesheet ↔
        v.get? "type" = some (.str "stylesheet") ∨
          (∀ name, v.get? "type" = some (.str name) → name = "") ∧
            cfg.dialect ∈ ["css", "sass", "scss", "less", "stylus", "sss", "sugarss"]) ∧
      ("field" ∉ cfg.format.options.keys ∧
        ∀ key ≠ "field", cfg.format.get? key = v.at? ["format", key]) ∧
      cfg.snippets.StandsOn (Templates.base cfg.family) cfg.family.patterns := by
  intro cfg
  refine ⟨Family.dialectOr_ne_empty _ _, family_ofJson_eq_stylesheet_iff v, ⟨?_, ?_⟩, ?_⟩
  · exact Dict.not_mem_keys_erase "field" _
  · intro key hk
    exact get?_formatBag_ofJson v hk
  · have hs : cfg.snippets = (ofJson v).snippets.build cfg.family cfg.dialect := rfl
    rw [hs, snippets_ofJson]
    exact SnippetSource.standsOn_build _ cfg.family cfg.dialect

/-- An empty type gives way to the dialect, and a type alone has a dialect of its own. -/
example :
    (ofJson (.obj [("syntax", .str "scss"), ("type", .str "")])).resolve.family = .stylesheet ∧
      (ofJson (.obj [("type", .str "stylesheet")])).resolve.dialect = "css" := by
  decide

end Options

end Shorthand
