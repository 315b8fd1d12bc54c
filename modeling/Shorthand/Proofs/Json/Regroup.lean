import Shorthand.Proofs.Json.LastValue
import Shorthand.Proofs.Json.LastWriter

/-! # Merging in groups

Layers may be merged in groups of any shape. Only one thing stands in the way: a scalar or a list
at a path where both an earlier layer and a later one have an object.
-/

namespace Shorthand.Json

variable {a b c o v w : Json} {key : String} {path : List String}

theorem mergeOption_assoc {x y z : Option Json}
    (h : ∀ a ∈ x, ∀ b ∈ y, ∀ c ∈ z, mergeInto (mergeInto a b) c = mergeInto a (mergeInto b c)) :
    mergeOption (mergeOption x y) z = mergeOption x (mergeOption y z) := by
  cases z with
  | none => rfl
  | some c =>
    cases y with
    | none =>
      cases hc : c.isNull with
      | true =>
        obtain rfl := isNull_iff.mp hc
        exact mergeMember_null x
      | false => simp only [mergeOption_some, mergeOption_none, mergeMember_none hc]
    | some b =>
      simp only [mergeOption_some]
      cases x with
      | some a => exact congrArg some (h a rfl b rfl c rfl)
      | none =>
        cases hb : b.isNull with
        | true =>
          obtain rfl := isNull_iff.mp hb
          have hc : mergeMember (some .null) c = some c := congrArg some (null_mergeInto c)
          rw [mergeMember_null, hc, mergeOption_some]
        | false =>
          have hbc : (mergeInto b c).isNull = false := by
            cases hc : c.isNull with
            | true => rwa [isNull_iff.mp hc, mergeInto_null]
            | false => exact isNull_mergeInto hc
          rw [mergeMember_none hb, mergeMember, mergeOption_some, mergeMember_none hbc]

/-- At the path the middle value has a scalar or a list, and the outer values have objects. -/
def Clash (a b c : Json) (path : List String) : Prop :=
  (∃ d, a.at? path = some (.obj d)) ∧
    (∃ w, b.at? path = some w ∧ w.isNull = false ∧ w.isObj = false) ∧
    ∃ e, c.at? path = some (.obj e)

theorem clash_cons_iff : Clash a b c (key :: path) ↔
    ∃ x y z, a.get? key = some x ∧ b.get? key = some y ∧ c.get? key = some z ∧
      Clash x y z path := by
  simp only [Clash, at?_cons, Option.bind_eq_some_iff]
  constructor
  · rintro ⟨⟨d, x, hx, hd⟩, ⟨w, ⟨y, hy, hw⟩, hn⟩, ⟨e, z, hz, he⟩⟩
    exact ⟨x, y, z, hx, hy, hz, ⟨d, hd⟩, ⟨w, hw, hn⟩, ⟨e, he⟩⟩
  · rintro ⟨x, y, z, hx, hy, hz, ⟨d, hd⟩, ⟨w, hw, hn⟩, ⟨e, he⟩⟩
    exact ⟨⟨d, x, hx, hd⟩, ⟨w, ⟨y, hy, hw⟩, hn⟩, ⟨e, z, hz, he⟩⟩

theorem clash_nil_iff : Clash a b c [] ↔
    a.isObj ∧ (b.isNull = false ∧ b.isObj = false) ∧ c.isObj := by
  simp only [Clash, at?_nil, Option.some.injEq, isObj_iff, exists_eq_left']

theorem not_clash_null (b c : Json) (path : List String) : ¬ Clash .null b c path := by
  cases path with
  | nil => simp [clash_nil_iff, isObj]
  | cons key path => simp [clash_cons_iff, get?_eq_none_of_not_isObj (v := .null) rfl]

/-- Two merges without a clash may be done in either order. -/
theorem mergeInto_assoc (ha : a.Ordered) (hb : b.Ordered) (hc : c.Ordered)
    (h : ∀ path, ¬ Clash a b c path) :
    mergeInto (mergeInto a b) c = mergeInto a (mergeInto b c) := by
  induction a using memberInduction generalizing b c with
  | step a ih =>
    rcases mergeInto_cases b c with rfl | ⟨e, f, rfl, rfl⟩ | ⟨hcn, hbc, hm⟩
    · rw [mergeInto_null, mergeInto_null]
    · rw [mergeInto_obj_obj]
      cases hao : a.isObj with
      | false =>
        have hover (members : Dict Json) : mergeInto a (.obj members) = .obj members :=
          mergeInto_eq_overlay rfl (Or.inl hao)
        rw [hover, hover, mergeInto_obj_obj]
      | true =>
        obtain ⟨d, rfl⟩ := isObj_iff.mp hao
        simp only [mergeInto_obj_obj]
        congr 1
        have hde : Dict.Sorted (mergeMembers d e) := sorted_mergeMembers ha.sorted e
        have hef : Dict.Sorted (mergeMembers e f) := sorted_mergeMembers hb.sorted f
        refine Dict.Sorted.ext (sorted_mergeMembers hde f) (sorted_mergeMembers ha.sorted _) ?_
        intro k
        rw [get?_mergeMembers hc.sorted, get?_mergeMembers hb.sorted, get?_mergeMembers hef,
          get?_mergeMembers hc.sorted]
        apply mergeOption_assoc
        intro x hx y hy z hz
        apply ih k x hx (ha.of_get? hx) (hb.of_get? hy) (hc.of_get? hz)
        intro path hp
        exact h (k :: path) (clash_cons_iff.mpr ⟨x, y, z, hx, hy, hz, hp⟩)
    · rw [hm]
      cases hco : c.isObj with
      | false => simp only [mergeInto_eq_overlay hcn (Or.inr hco)]
      | true =>
        cases hbn : b.isNull with
        | true => rw [isNull_iff.mp hbn, mergeInto_null]
        | false =>
          have hbo : b.isObj = false := by simpa [hco] using hbc
          have hao : a.isObj = false := by
            by_contra hao
            exact h [] (clash_nil_iff.mpr ⟨by simpa using hao, ⟨hbn, hbo⟩, hco⟩)
          rw [mergeInto_eq_overlay hbn (Or.inr hbo), hm, mergeInto_eq_overlay hcn (Or.inl hao)]

theorem at?_mergeInto_cases (hb : b.Ordered) (h : (mergeInto a b).at? path = some w) :
    a.at? path = some w ∨ b.at? path = some w ∨
      ∃ d e, a.at? path = some (.obj d) ∧ b.at? path = some (.obj e) ∧
        w = .obj (mergeMembers d e) := by
  induction path generalizing a b with
  | nil =>
    rcases mergeInto_cases a b with rfl | ⟨d, e, rfl, rfl⟩ | ⟨_, _, hm⟩
    · left; rwa [mergeInto_null] at h
    · right; right
      rw [mergeInto_obj_obj] at h
      exact ⟨d, e, rfl, rfl, (Option.some.inj h).symm⟩
    · right; left; rwa [hm] at h
  | cons key path ih =>
    rcases mergeInto_cases a b with rfl | ⟨d, e, rfl, rfl⟩ | ⟨_, _, hm⟩
    · left; rwa [mergeInto_null] at h
    · simp only [mergeInto_obj_obj, at?_cons, get?_obj, get?_mergeMembers hb.sorted] at h ⊢
      cases he : Dict.get? e key with
      | none =>
        rw [he] at h
        exact Or.inl h
      | some y =>
        cases hd : Dict.get? d key with
        | none =>
          cases hy : y.isNull with
          | true => simp [he, hd, mergeMember, hy] at h
          | false =>
            right; left
            simpa [he, hd, mergeMember, hy] using h
        | some x =>
          simp only [he, hd, mergeMember, Option.elim_some, Option.bind_some] at h ⊢
          exact ih (hb.of_get? he) h
    · right; left; rwa [hm] at h

/-- A way to merge layers: one layer, or a group over which another group is merged. -/
inductive Grouping where
  | layer (v : Json)
  | join (below above : Grouping)

namespace Grouping

def layers : Grouping → List Json
  | layer v => [v]
  | join g h => g.layers ++ h.layers

def merged : Grouping → Json
  | layer v => v
  | join g h => mergeInto g.merged h.merged

variable {g h : Grouping}

theorem ordered_merged (hg : ∀ v ∈ g.layers, v.Ordered) : g.merged.Ordered := by
  induction g with
  | layer v => exact hg v (List.mem_singleton_self v)
  | join g h ihg ihh =>
    obtain ⟨hg, hh⟩ := List.forall_mem_append.mp hg
    exact (ihg hg).mergeInto (ihh hh)

theorem exists_obj_of_merged (hg : ∀ v ∈ g.layers, v.Ordered) {d : Dict Json}
    (hd : g.merged.at? path = some (.obj d)) :
    ∃ v ∈ g.layers, ∃ e, v.at? path = some (.obj e) := by
  induction g generalizing d with
  | layer v => exact ⟨v, List.mem_singleton_self v, d, hd⟩
  | join g h ihg ihh =>
    obtain ⟨hg, hh⟩ := List.forall_mem_append.mp hg
    rcases at?_mergeInto_cases (ordered_merged hh) hd with hd | hd | ⟨e, f, he, _, _⟩
    · obtain ⟨v, hv, he⟩ := ihg hg hd
      exact ⟨v, List.mem_append_left _ hv, he⟩
    · obtain ⟨v, hv, he⟩ := ihh hh hd
      exact ⟨v, List.mem_append_right _ hv, he⟩
    · obtain ⟨v, hv, he⟩ := ihg hg he
      exact ⟨v, List.mem_append_left _ hv, he⟩

theorem exists_layer_of_merged (hg : ∀ v ∈ g.layers, v.Ordered) (ho : w.isObj = false)
    (hw : g.merged.at? path = some w) : ∃ v ∈ g.layers, v.at? path = some w := by
  induction g with
  | layer v => exact ⟨v, List.mem_singleton_self v, hw⟩
  | join g h ihg ihh =>
    obtain ⟨hg, hh⟩ := List.forall_mem_append.mp hg
    rcases at?_mergeInto_cases (ordered_merged hh) hw with hw | hw | ⟨d, e, _, _, rfl⟩
    · obtain ⟨v, hv, hw⟩ := ihg hg hw
      exact ⟨v, List.mem_append_left _ hv, hw⟩
    · obtain ⟨v, hv, hw⟩ := ihh hh hw
      exact ⟨v, List.mem_append_right _ hv, hw⟩
    · cases ho

end Grouping

/-- Some layer has a scalar or a list where an earlier and a later layer have objects. -/
def Clashing (layers : List Json) : Prop :=
  ∃ a b c path, [a, b, c].Sublist layers ∧ Clash a b c path

theorem clashing_triple_iff : Clashing [a, b, c] ↔ ∃ path, Clash a b c path := by
  constructor
  · rintro ⟨x, y, z, path, hs, h⟩
    have he : [x, y, z] = [a, b, c] := hs.eq_of_length rfl
    simp only [List.cons.injEq, and_true] at he
    obtain ⟨rfl, rfl, rfl⟩ := he
    exact ⟨path, h⟩
  · rintro ⟨path, h⟩
    exact ⟨a, b, c, path, List.Sublist.refl _, h⟩

theorem clashing_null_cons {layers : List Json} (h : Clashing (.null :: layers)) :
    Clashing layers := by
  obtain ⟨a, b, c, path, hs, hc⟩ := h
  cases hs with
  | cons _ hs => exact ⟨a, b, c, path, hs, hc⟩
  | cons_cons _ _ => exact absurd hc (not_clash_null b c path)

namespace Grouping

variable {g h k : Grouping}

/-- Groups clash only if three of their layers do. -/
theorem not_clash_merged (hg : ∀ v ∈ g.layers, v.Ordered) (hh : ∀ v ∈ h.layers, v.Ordered)
    (hk : ∀ v ∈ k.layers, v.Ordered) (hc : ¬ Clashing (g.layers ++ (h.layers ++ k.layers))) :
    ∀ path, ¬ Clash g.merged h.merged k.merged path := by
  rintro path ⟨⟨d, hd⟩, ⟨w, hw, hn, ho⟩, ⟨e, he⟩⟩
  obtain ⟨a, ha, had⟩ := exists_obj_of_merged hg hd
  obtain ⟨b, hb, hbw⟩ := exists_layer_of_merged hh ho hw
  obtain ⟨c, hc', hce⟩ := exists_obj_of_merged hk he
  have hs : [a, b, c].Sublist (g.layers ++ (h.layers ++ k.layers)) :=
    (List.singleton_sublist.mpr ha).append
      ((List.singleton_sublist.mpr hb).append (List.singleton_sublist.mpr hc'))
  exact hc ⟨a, b, c, path, hs, had, ⟨w, hbw, hn, ho⟩, hce⟩

theorem mergeInto_merged (hg : ∀ v ∈ g.layers, v.Ordered) (hh : ∀ v ∈ h.layers, v.Ordered)
    (hc : ¬ Clashing (g.layers ++ h.layers)) :
    mergeInto g.merged h.merged = h.layers.foldl mergeInto g.merged := by
  induction h generalizing g with
  | layer v => rfl
  | join h k ihh ihk =>
    obtain ⟨hh, hk⟩ := List.forall_mem_append.mp hh
    have hgh : ¬ Clashing (g.layers ++ h.layers) := by
      rintro ⟨a, b, c, path, hs, hp⟩
      refine hc ⟨a, b, c, path, hs.trans ?_, hp⟩
      rw [layers, ← List.append_assoc]
      exact List.sublist_append_left _ _
    have hghk : ¬ Clashing ((g.join h).layers ++ k.layers) := by
      rwa [layers, List.append_assoc]
    calc mergeInto g.merged (mergeInto h.merged k.merged)
        = mergeInto (mergeInto g.merged h.merged) k.merged :=
          (mergeInto_assoc (ordered_merged hg) (ordered_merged hh) (ordered_merged hk)
            (not_clash_merged hg hh hk hc)).symm
      _ = k.layers.foldl mergeInto (mergeInto g.merged h.merged) :=
          ihk (g := g.join h) (List.forall_mem_append.mpr ⟨hg, hh⟩) hk hghk
      _ = k.layers.foldl mergeInto (h.layers.foldl mergeInto g.merged) := by rw [ihh hg hh hgh]
      _ = (h.layers ++ k.layers).foldl mergeInto g.merged := List.foldl_append.symm

/-- A grouping without a clash merges its layers as if one by one. -/
theorem merged_eq_foldl (hg : ∀ v ∈ g.layers, v.Ordered) (hc : ¬ Clashing g.layers) :
    g.merged = g.layers.foldl mergeInto .null := by
  have hnull : ∀ v ∈ (layer .null).layers, v.Ordered := List.forall_mem_singleton.mpr trivial
  rw [← null_mergeInto g.merged]
  exact mergeInto_merged (g := layer .null) hnull hg fun h => hc (clashing_null_cons h)

end Grouping

/--
Two merges may be done in either order, or a scalar or a list stands between two objects at some
path. So layers may be merged in groups of any shape unless three of them clash in this way.
-/
theorem mergeInto_regroup :
    (∀ a b c : Json, a.Ordered → b.Ordered → c.Ordered →
      mergeInto (mergeInto a b) c = mergeInto a (mergeInto b c) ∨ ∃ path, Clash a b c path) ∧
    ∀ g h : Grouping, g.layers = h.layers → (∀ v ∈ g.layers, v.Ordered) → ¬ Clashing g.layers →
      g.merged = h.merged := by
  constructor
  · intro a b c ha hb hc
    by_cases h : ∃ path, Clash a b c path
    · exact Or.inr h
    · exact Or.inl (mergeInto_assoc ha hb hc (not_exists.mp h))
  · intro g h hl hg hc
    rw [Grouping.merged_eq_foldl hg hc, hl]
    exact (Grouping.merged_eq_foldl (hl ▸ hg) (hl ▸ hc)).symm

/-- With a clash the two orders differ. -/
example :
    let a := obj [("indent", obj [("text", .str " ")])]
    let b := obj [("indent", .bool false)]
    let c := obj [("indent", obj [("width", .ofInt 2)])]
    (mergeInto (mergeInto a b) c).at? ["indent", "text"] = none ∧
      (mergeInto a (mergeInto b c)).at? ["indent", "text"] = some (.str " ") :=
  ⟨rfl, rfl⟩

/-- An object under a null that a boolean and an object replace, beside objects that merge. -/
def nestedLayers : List Json :=
  [.obj [("bem", .obj [("element", .str "__"), ("modifier", .null)]), ("jsx", .null)],
    .obj [("bem", .obj [("modifier", .str "_")]), ("jsx", .bool true)],
    .obj [("bem", .obj [("element", .null)]), ("jsx", .obj [("tag", .str "x")])]]

theorem not_clashing_nestedLayers : ¬ Clashing nestedLayers := by
  rw [nestedLayers, clashing_triple_iff]
  rintro ⟨path, h⟩
  cases path with
  | nil => simp [clash_nil_iff, isObj] at h
  | cons key path =>
    obtain ⟨x, y, z, hx, hy, hz, h⟩ := clash_cons_iff.mp h
    by_cases hk : key = "bem"
    · subst hk
      cases hy
      cases path with
      | nil => simp [clash_nil_iff, isObj] at h
      | cons key path =>
        obtain ⟨_, v, w, _, hv, hw, _⟩ := clash_cons_iff.mp h
        cases hz
        simp only [get?_obj, Dict.get?_cons, Dict.get?_nil] at hv hw
        grind
    · have hnull : x = .null := by
        simp only [get?_obj, Dict.get?_cons, Dict.get?_nil, if_neg hk] at hx
        grind
      exact not_clash_null y z path (hnull ▸ h)

theorem mergeInto_regroup_nestedLayers :
    ∃ a b c, nestedLayers = [a, b, c] ∧ (∀ v ∈ nestedLayers, v.Ordered) ∧
      ¬ Clashing nestedLayers ∧
      mergeInto (mergeInto a b) c = mergeInto a (mergeInto b c) ∧
      (((Grouping.layer a).join (.layer b)).join (.layer c)).merged =
        ((Grouping.layer a).join ((Grouping.layer b).join (.layer c))).merged := by
  have hl : ∀ v ∈ nestedLayers, v.Ordered := by decide
  have hc : ¬ Clashing nestedLayers := not_clashing_nestedLayers
  refine ⟨_, _, _, rfl, hl, hc, ?_, ?_⟩
  · obtain ⟨ha, hb, hc'⟩ : Ordered _ ∧ Ordered _ ∧ Ordered _ := by
      simpa [nestedLayers] using hl
    rcases mergeInto_regroup.1 _ _ _ ha hb hc' with h | h
    · exact h
    · exact absurd (clashing_triple_iff.mpr h) hc
  · exact mergeInto_regroup.2 _ _ rfl hl hc

end Shorthand.Json
