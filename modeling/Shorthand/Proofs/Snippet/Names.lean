import Mathlib.Data.Finset.Card
import Shorthand.Proofs.Json.Ordered
import Shorthand.Proofs.Last
import Shorthand.Proofs.Text.Blank
import Shorthand.Proofs.Text.Octets
import Shorthand.Proofs.Text.Split
import Shorthand.Snippet.Layer

/-! # Exact names of a layer

A layer comes from a history of insertions, with patterns set in between. An exact name stands for
the snippet of the last insertion whose key registers it. The members of an object are inserted by
the octets of their keys.
-/

namespace Shorthand

abbrev Templates := List (String × String)

def Templates.ofMembers (members : Dict Json) : Templates :=
  members.filterMap fun e => e.2.str?.map (e.1, ·)

namespace Layer

variable {edits : List Edit} {l : Layer} {key name : String} {s : Snippet} {p : Pattern}

/--
A key without separators registers itself. Another one registers what stands between its
separators without the blanks around it, if anything is left.
-/
def Registers (key name : String) : Prop :=
  ('|' ∉ key.toList ∧ name = key) ∨
    ('|' ∈ key.toList ∧ name ≠ "" ∧
      ∃ piece, Text.IsPiece '|' key.toList piece ∧ Text.IsCore Text.isBlank piece name.toList)

theorem mem_aliases_iff : name ∈ aliases key ↔ Registers key name := by
  rw [aliases, Registers]
  by_cases h : '|' ∈ key.toList
  · have htrim (piece : List Char) : String.ofList (Text.trim piece) = name ↔
        Text.IsCore Text.isBlank piece name.toList := by
      rw [← Text.trimWhere_eq_iff, ← String.toList_inj, String.toList_ofList, Text.trim]
    simp [h, List.mem_filter, Text.mem_split_iff, htrim, and_comm]
  · simp [h]

theorem Registers.not_mem (h : Registers key name) : '|' ∉ name.toList := by
  rcases h with ⟨hk, rfl⟩ | ⟨-, -, piece, ⟨hp, -⟩, left, right, rfl, -⟩
  · exact hk
  · exact fun hn => hp (by simp [hn])

inductive Edit where
  | insert (key : String) (s : Snippet)
  | setPattern (p : Pattern) (s : Snippet)

def edit (l : Layer) : Edit → Layer
  | .insert key s => l.insert key s
  | .setPattern p s => l.setPattern p s

def ofEdits (edits : List Edit) : Layer :=
  edits.foldl edit {}

/-- The change gives the name its snippet. -/
def Edit.Names (name : String) (e : Edit) (s : Snippet) : Prop :=
  ∃ key, e = .insert key s ∧ Registers key name

theorem get?_insert (l : Layer) (key : String) (s : Snippet) (name : String) :
    (l.insert key s).get? name = if name ∈ aliases key then some s else l.get? name := by
  change Dict.get? ((aliases key).foldl (fun names a => names.insert a s) l.names) name =
    if name ∈ aliases key then some s else Dict.get? l.names name
  generalize l.names = names
  induction aliases key generalizing names with
  | nil => rfl
  | cons a as ih =>
    rw [List.foldl_cons, ih, Dict.get?_insert]
    by_cases ha : name = a <;> by_cases has : name ∈ as <;> simp [ha, has]

theorem ofEdits_append_singleton (edits : List Edit) (e : Edit) :
    ofEdits (edits ++ [e]) = (ofEdits edits).edit e := by
  rw [ofEdits, List.foldl_append]; rfl

theorem ofPairs_eq_ofEdits (pairs : List (String × Snippet)) :
    ofPairs pairs = ofEdits (pairs.map fun e => .insert e.1 e.2) := by
  rw [ofEdits, List.foldl_map]; rfl

theorem insert_names_iff {t : Snippet} :
    (Edit.insert key s).Names name t ↔ Registers key name ∧ s = t := by
  simp [Edit.Names, and_comm]

theorem not_setPattern_names {t : Snippet} : ¬ (Edit.setPattern p s).Names name t := by
  rintro ⟨key, h, _⟩
  cases h

/-- One change gives a name its snippet or leaves the name as it was. -/
theorem get?_edit {e : Edit} :
    (l.edit e).get? name = some s ↔
      e.Names name s ∨ (l.get? name = some s ∧ ∀ t, ¬ e.Names name t) := by
  cases e with
  | insert key t =>
    simp only [edit, get?_insert, insert_names_iff, ← mem_aliases_iff]
    by_cases h : name ∈ aliases key <;> simp [h]
  | setPattern p t =>
    simp only [not_setPattern_names, not_false_eq_true, implies_true, and_true, false_or]
    rfl

theorem get?_ofEdits :
    (ofEdits edits).get? name = some s ↔ LastGives (Edit.Names name) edits s := by
  induction edits using List.reverseRecOn with
  | nil => exact iff_of_false (by simp [ofEdits, get?]) not_lastGives_nil
  | append_singleton edits e ih =>
    rw [ofEdits_append_singleton, get?_edit, ih, lastGives_append_singleton]

theorem mem_keys_ofEdits :
    name ∈ (ofEdits edits).names.keys ↔ ∃ e ∈ edits, ∃ s, e.Names name s := by
  rw [← Dict.contains_iff_mem_keys, ← exists_lastGives_iff]
  simp only [← get?_ofEdits]
  exact Option.isSome_iff_exists

theorem sorted_names_edit (hl : Dict.Sorted l.names) (e : Edit) : Dict.Sorted (l.edit e).names := by
  cases e with
  | insert key s =>
    change Dict.Sorted ((aliases key).foldl (fun names a => names.insert a s) l.names)
    generalize l.names = names at hl
    induction aliases key generalizing names with
    | nil => exact hl
    | cons a as ih => exact ih _ (Dict.sorted_insert a s hl)
  | setPattern p s => exact hl

theorem sorted_names_ofEdits (edits : List Edit) : Dict.Sorted (ofEdits edits).names := by
  induction edits using List.reverseRecOn with
  | nil => exact Dict.sorted_nil
  | append_singleton edits e ih =>
    rw [ofEdits_append_singleton]
    exact sorted_names_edit ih e

theorem size_ofEdits (edits : List Edit) :
    (ofEdits edits).size = (ofEdits edits).names.keys.toFinset.card := by
  have hn : (ofEdits edits).names.keys.Nodup :=
    (sorted_names_ofEdits edits).keys_pairwise.imp fun h => String.ne_of_lt h
  rw [List.toFinset_card_of_nodup hn, Dict.keys, List.length_map]; rfl

section Members

open Templates

variable {members : Dict Json}

theorem mem_templates_iff (hm : Dict.Sorted members) {t : String} :
    (key, t) ∈ Templates.ofMembers members ↔ Dict.get? members key = some (.str t) := by
  have hstr (v : Json) : v.str? = some t ↔ v = .str t := by cases v <;> simp [Json.str?]
  rw [Dict.get?_eq_some_iff hm, Templates.ofMembers, List.mem_filterMap]
  simp [hstr]

theorem pairwise_octets (hm : Dict.Sorted members) :
    (Templates.ofMembers members).Pairwise fun x y => Text.octets x.1 < Text.octets y.1 := by
  refine List.Pairwise.filterMap _ (fun x y hxy a ha b hb => ?_) hm
  obtain ⟨_, _, rfl⟩ := Option.map_eq_some_iff.mp ha
  obtain ⟨_, _, rfl⟩ := Option.map_eq_some_iff.mp hb
  exact Text.octets_lt_iff.mpr hxy

theorem ofMembers_eq_ofEdits (members : Dict Json) :
    Layer.ofMembers members =
      ofEdits ((Templates.ofMembers members).map fun e => .insert e.1 (.literal e.2)) := by
  rw [Layer.ofMembers, ofPairs_eq_ofEdits, Templates.ofMembers, List.map_filterMap,
    List.map_filterMap]
  congr 2
  funext e
  cases e.2.str? <;> rfl

/-- Of the keys that register a name the greatest by octets counts. -/
theorem get?_ofMembers (hm : Dict.Sorted members) {x : Snippet} :
    (Layer.ofMembers members).get? name = some x ↔
      ∃ key t, x = .literal t ∧ Dict.get? members key = some (.str t) ∧ Registers key name ∧
        ∀ later u, Dict.get? members later = some (.str u) → Registers later name →
          ¬ Text.octets key < Text.octets later := by
  have hasymm (x y : String × String) (h : Text.octets x.1 < Text.octets y.1) :
      ¬ Text.octets y.1 < Text.octets x.1 := List.lt_asymm h
  rw [ofMembers_eq_ofEdits, get?_ofEdits, lastGives_map,
    lastGives_iff_of_pairwise hasymm (pairwise_octets hm)]
  simp only [insert_names_iff, Prod.exists, Prod.forall, mem_templates_iff hm]
  constructor
  · rintro ⟨key, t, ht, ⟨hr, rfl⟩, hn⟩
    exact ⟨key, t, rfl, ht, hr, fun later u hu hl hlt => hn later u hu hlt _ ⟨hl, rfl⟩⟩
  · rintro ⟨key, t, rfl, ht, hr, hn⟩
    exact ⟨key, t, ht, ⟨hr, rfl⟩, fun later u hu hlt _ hl => hn later u hu hl.1 hlt⟩

end Members

/--
Whatever the history of a layer, each name it has stands for the snippet of the last insertion
whose key registers it, no name has a separator in it, and the size counts the names that were
registered. A layer read from an object has the history of its texts by the octets of their keys,
so of the keys that register a name the greatest counts.
-/
theorem exact_names_of_history :
    (∀ edits : List Edit,
      (∀ name s, (ofEdits edits).get? name = some s ↔ LastGives (Edit.Names name) edits s) ∧
        (∀ name, (ofEdits edits).get? name = none ↔ ∀ e ∈ edits, ∀ s, ¬ e.Names name s) ∧
        (∀ name ∈ (ofEdits edits).names.keys, '|' ∉ name.toList) ∧
        ∃ names : Finset String, (∀ name, name ∈ names ↔ ∃ e ∈ edits, ∃ s, e.Names name s) ∧
          (ofEdits edits).size = names.card) ∧
    ∀ members : Dict Json, (Json.obj members).Ordered →
      ∃ (l : Layer) (texts : List (String × String)), ofJson? (.obj members) = some l ∧
        l = ofEdits (texts.map fun e => .insert e.1 (.literal e.2)) ∧
        (∀ key t, (key, t) ∈ texts ↔ Dict.get? members key = some (.str t)) ∧
        texts.Pairwise (fun x y => Text.octets x.1 < Text.octets y.1) ∧
        ∀ name x, l.get? name = some x ↔
          ∃ key t, x = .literal t ∧ Dict.get? members key = some (.str t) ∧ Registers key name ∧
            ∀ later u, Dict.get? members later = some (.str u) → Registers later name →
              ¬ Text.octets key < Text.octets later := by
  constructor
  · intro edits
    refine ⟨fun name s => get?_ofEdits, fun name => ?_, fun name hn => ?_,
      (ofEdits edits).names.keys.toFinset, fun name => ?_, size_ofEdits edits⟩
    · rw [Option.eq_none_iff_forall_ne_some]
      simp only [ne_eq, get?_ofEdits, ← not_exists, exists_lastGives_iff]
      simp
    · obtain ⟨_, _, _, key, _, hr⟩ := mem_keys_ofEdits.mp hn
      exact hr.not_mem
    · rw [List.mem_toFinset, mem_keys_ofEdits]
  · intro members hm
    exact ⟨.ofMembers members, Templates.ofMembers members, rfl, ofMembers_eq_ofEdits members,
      fun key t => mem_templates_iff hm.sorted, pairwise_octets hm.sorted,
      fun name x => get?_ofMembers hm.sorted⟩

/-- Two keys that share an alias, one with blanks alone, and a member that is no text. -/
def sharedKeys : Dict Json :=
  [(" | ", .str "z"), ("a| b ", .str "x"), ("b", .str "y"), ("b|c", .null)]

theorem exact_names_of_history_sharedKeys :
    (Json.obj sharedKeys).Ordered ∧
      ∃ l, ofJson? (.obj sharedKeys) = some l ∧ l.get? "b" = some (.literal "y") ∧
        ∃ key, Dict.get? sharedKeys key = some (.str "y") ∧ Registers key "b" ∧
          ∀ later u, Dict.get? sharedKeys later = some (.str u) → Registers later "b" →
            ¬ Text.octets key < Text.octets later := by
  have hm : (Json.obj sharedKeys).Ordered := by decide
  obtain ⟨l, _, hl, _, _, _, hget⟩ := exact_names_of_history.2 sharedKeys hm
  have hb : l.get? "b" = some (.literal "y") := by
    cases hl
    rfl
  obtain ⟨key, _, hx, hkey, hlast⟩ := (hget "b" (.literal "y")).mp hb
  cases hx
  exact ⟨hm, l, hl, hb, key, hkey, hlast⟩

end Layer

end Shorthand
