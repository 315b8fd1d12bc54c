import Shorthand.Proofs.Snippet.Names
import Shorthand.Proofs.Snippet.Stack
import Shorthand.Snippet.Source

/-! # Precedence of snippets

The layers of a registry come from lists of keys with templates. A name stands for the template of
the last key that registers it, in the last list that has such a key. Only names that no list
registers are tried as placeholder names, and only for markup.
-/

namespace Shorthand

variable {family : Family} {name : String} {s : Snippet}

namespace Layer

theorem patterns_ofPairs (pairs : List (String × Snippet)) : (ofPairs pairs).patterns = [] := by
  suffices h : ∀ l : Layer, (pairs.foldl (fun l e => l.insert e.1 e.2) l).patterns = l.patterns
    from h {}
  induction pairs with
  | nil => exact fun l => rfl
  | cons e pairs ih => exact fun l => ih (l.insert e.1 e.2)

theorem matchPattern?_of_patterns_nil {l : Layer} (h : l.patterns = []) (name : String) :
    l.matchPattern? name = none := by
  rw [matchPattern?, h]; rfl

theorem matchPattern?_setPattern {l : Layer} (h : l.patterns = []) (p : Pattern) (s : Snippet)
    (name : String) :
    (l.setPattern p s).matchPattern? name = if p.isMatch name then some s else none := by
  simp only [matchPattern?, setPattern, h]
  cases hm : p.isMatch name <;> simp [hm]

end Layer

namespace Templates

open Layer

variable {t : Templates} {sources first second : List Templates}

/-- The template of the last key of the list that registers the name. -/
def Gives (name : String) (t : Templates) (s : Snippet) : Prop :=
  LastGives (fun e s => Registers e.1 name ∧ .literal e.2 = s) t s

theorem exists_gives_iff : (∃ s, Gives name t s) ↔ ∃ e ∈ t, Registers e.1 name := by
  unfold Gives
  rw [exists_lastGives_iff]
  simp

theorem get?_layerOf : (Builtin.layerOf t).get? name = some s ↔ Gives name t s := by
  have hnames : (fun e : String × String => Edit.Names name (.insert e.1 (.literal e.2))) =
      fun e s => Registers e.1 name ∧ .literal e.2 = s := by
    funext e s
    exact propext insert_names_iff
  rw [Builtin.layerOf, ofPairs_eq_ofEdits, get?_ofEdits, List.map_map, lastGives_map, Gives,
    ← hnames]
  rfl

theorem mem_keys_layerOf :
    name ∈ (Builtin.layerOf t).names.keys ↔ ∃ e ∈ t, Registers e.1 name := by
  rw [← Dict.contains_iff_mem_keys, ← exists_gives_iff]
  simp only [← get?_layerOf]
  exact Option.isSome_iff_exists

def table? (name : String) : Option Templates :=
  Dict.get? [("css", Builtin.cssSnippets), ("html", Builtin.htmlSnippets),
    ("xsl", Builtin.xslSnippets)] name

def base : Family → Templates
  | .markup => Builtin.htmlSnippets
  | .stylesheet => Builtin.cssSnippets

/-- A table that goes by the name of the dialect and is not the one of the family already. -/
def ofDialect? : Family → String → Option Templates
  | .markup, dialect => if dialect = "html" then none else table? dialect
  | .stylesheet, dialect => if dialect = "css" then none else table? dialect

def builtin (family : Family) (dialect : String) : List Templates :=
  base family :: (ofDialect? family dialect).toList

/-- A text names a built-in table, an object gives its own templates, other values nothing. -/
def ofItem? : Json → Option Templates
  | .str name => table? name
  | .obj members => some (ofMembers members)
  | _ => none

/-- A list stands for its items, any other value for itself. -/
def ofValue : Json → List Templates
  | .arr items => items.filterMap ofItem?
  | v => (ofItem? v).toList

/-- What the last source with an entry gives for a name, else the placeholder text for markup. -/
def Resolves (family : Family) (sources : List Templates) (name : String) (s : Snippet) : Prop :=
  LastGives (Gives name) sources s ∨
    (∀ x, ¬ LastGives (Gives name) sources x) ∧ family = .markup ∧
      SnippetSource.loremPattern.isMatch name ∧ s = .lorem

theorem forall_not_lastGives_iff : (∀ x, ¬ LastGives (Gives name) sources x) ↔
    ∀ t ∈ sources, ∀ e ∈ t, ¬ Registers e.1 name := by
  rw [← not_exists, exists_lastGives_iff]
  simp only [exists_gives_iff]
  push Not
  rfl

theorem lastGives_append_self :
    LastGives (Gives name) (first ++ (first ++ second)) s ↔
      LastGives (Gives name) (first ++ second) s := by
  rw [lastGives_append]
  constructor
  · rintro (h | ⟨h, hnone⟩)
    · exact h
    · have hsecond : ∀ c, ¬ LastGives (Gives name) second c := fun c hc =>
        hnone c (lastGives_append.mpr (Or.inl hc))
      exact absurd (lastGives_append.mpr (Or.inr ⟨h, hsecond⟩)) (hnone s)
  · exact Or.inl

theorem resolves_append_self (builtin : List Templates) :
    Resolves family (builtin ++ (first ++ (first ++ second))) name s ↔
      Resolves family (builtin ++ (first ++ second)) name s := by
  have h (x : Snippet) : LastGives (Gives name) (builtin ++ (first ++ (first ++ second))) x ↔
      LastGives (Gives name) (builtin ++ (first ++ second)) x := by
    rw [lastGives_append]
    simp only [lastGives_append_self]
    exact lastGives_append.symm
  rw [Resolves, Resolves]
  simp only [h]

theorem table?_eq (name : String) : Builtin.table? name = (table? name).map Builtin.layerOf := by
  simp only [Builtin.table?, Builtin.tables, table?, Dict.get?_cons, Dict.get?_nil]
  split
  · rfl
  · split
    · rfl
    · split <;> rfl

theorem ofMembers_eq (members : Dict Json) :
    Layer.ofMembers members = Builtin.layerOf (ofMembers members) := by
  rw [ofMembers_eq_ofEdits, Builtin.layerOf, ofPairs_eq_ofEdits, List.map_map]; rfl

theorem userLayer?_eq (v : Json) :
    SnippetSource.userLayer? v = (ofItem? v).map Builtin.layerOf := by
  cases v with
  | str name => exact table?_eq name
  | obj members => exact congrArg some (ofMembers_eq members)
  | _ => rfl

theorem builtinLayers_eq (family : Family) (dialect : String) :
    SnippetSource.builtinLayers family dialect = (builtin family dialect).map Builtin.layerOf := by
  have hbase : (table? family.baseTable).toList = [base family] := by cases family <;> rfl
  have hdialect : ofDialect? family dialect =
      if dialect = family.baseTable then none else table? dialect := by cases family <;> rfl
  rw [SnippetSource.builtinLayers, builtin, table?_eq, table?_eq, hdialect, Option.toList_map,
    hbase]
  split
  · rfl
  · rw [Option.toList_map]; rfl

end Templates

namespace SnippetSource

open Templates

theorem named?_installLorem (family : Family) (layers : List Layer) (name : String) :
    Registry.named? ⟨installLorem family layers⟩ name = Registry.named? ⟨layers⟩ name := by
  cases layers with
  | nil => rfl
  | cons base layers => cases family <;> rfl

/-- Layers without patterns come to match placeholder names, and only for markup. -/
theorem matched?_installLorem {base : Layer} {layers : List Layer}
    (h : ∀ l ∈ base :: layers, l.patterns = []) :
    Registry.matched? ⟨installLorem family (base :: layers)⟩ name = some s ↔
      family = .markup ∧ loremPattern.isMatch name ∧ s = .lorem := by
  obtain ⟨hbase, hlayers⟩ := List.forall_mem_cons.mp h
  have hrest : layers.findSome? (·.matchPattern? name) = none :=
    List.findSome?_eq_none_iff.mpr fun l hl =>
      Layer.matchPattern?_of_patterns_nil (hlayers l hl) name
  rw [Registry.matched?, List.head?_filterMap]
  cases family with
  | markup =>
    rw [installLorem, List.findSome?_cons, Layer.matchPattern?_setPattern hbase, hrest]
    cases hm : loremPattern.isMatch name <;> simp [eq_comm]
  | stylesheet =>
    rw [installLorem, List.findSome?_cons, Layer.matchPattern?_of_patterns_nil hbase, hrest]
    simp

theorem resolve_installLorem (t : Templates) (ts : List Templates) :
    Registry.resolve ⟨installLorem family ((t :: ts).map Builtin.layerOf)⟩ name = some s ↔
      Resolves family (t :: ts) name s := by
  have hnamed (x : Snippet) :
      Registry.named? ⟨installLorem family ((t :: ts).map Builtin.layerOf)⟩ name = some x ↔
        LastGives (Gives name) (t :: ts) x := by
    rw [named?_installLorem, Registry.named?_eq_some_iff, lastGives_map]
    simp only [get?_layerOf]
  have hpatterns : ∀ l ∈ (t :: ts).map Builtin.layerOf, l.patterns = [] :=
    List.forall_mem_map.mpr fun _ _ => Layer.patterns_ofPairs _
  rw [Registry.resolve_eq, Option.or_eq_some_iff, Option.eq_none_iff_forall_ne_some,
    List.map_cons, matched?_installLorem hpatterns, ← List.map_cons, Resolves]
  simp only [ne_eq, hnamed]

theorem userLayers_arr_eq (items : List Json) :
    userLayers (.arr items) = (items.filterMap ofItem?).map Builtin.layerOf := by
  rw [List.map_filterMap]
  exact congrArg (items.filterMap ·) (funext userLayer?_eq)

theorem resolve_build (family : Family) (dialect : String) (items : List Json) :
    ((raw (.arr items)).build family dialect).resolve name = some s ↔
      Resolves family (builtin family dialect ++ items.filterMap ofItem?) name s := by
  rw [build, builtinLayers_eq, userLayers_arr_eq, ← List.map_append]
  exact resolve_installLorem _ _

end SnippetSource

end Shorthand
