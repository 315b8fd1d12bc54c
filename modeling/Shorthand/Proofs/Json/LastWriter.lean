import Mathlib.Tactic.Tauto
import Shorthand.Proofs.Json.Merge

/-! # The last writer of a path

A scalar or a list stands at a path of merged layers exactly when some layer has put it there and
no later layer has overwritten it, be it at the path itself or on the way to it.
-/

namespace Shorthand.Json

variable {b o v w : Json} {key : String} {path : List String}

@[simp] theorem at?_nil (v : Json) : v.at? [] = some v :=
  rfl

theorem at?_cons (v : Json) (key : String) (path : List String) :
    v.at? (key :: path) = (v.get? key).bind (·.at? path) := by
  rw [at?]
  cases v.get? key <;> rfl

/--
A value overwrites what is at a path if it has more than null there, or if on the way there it has
a scalar or a list.
-/
def Overwrites (v : Json) (path : List String) : Prop :=
  (∃ w, v.at? path = some w ∧ w.isNull = false) ∨
    ∃ way, way <+: path ∧ way ≠ path ∧ ∃ w, v.at? way = some w ∧ w.isNull = false ∧ w.isObj = false

theorem overwrites_nil : v.Overwrites [] ↔ v.isNull = false := by
  constructor
  · rintro (⟨w, hw, hn⟩ | ⟨way, hp, hne, _⟩)
    · exact Option.some.inj hw ▸ hn
    · exact absurd (List.prefix_nil.mp hp) hne
  · intro h; exact Or.inl ⟨v, rfl, h⟩

theorem overwrites_cons : v.Overwrites (key :: path) ↔
    (v.isNull = false ∧ v.isObj = false) ∨ ∃ w, v.get? key = some w ∧ w.Overwrites path := by
  constructor
  · rintro (⟨w, hw, hn⟩ | ⟨way, hp, hne, w, hw, hn, ho⟩)
    · rw [at?_cons, Option.bind_eq_some_iff] at hw
      obtain ⟨u, hu, hw⟩ := hw
      exact Or.inr ⟨u, hu, Or.inl ⟨w, hw, hn⟩⟩
    · cases way with
      | nil => exact Or.inl (Option.some.inj hw ▸ ⟨hn, ho⟩)
      | cons k way =>
        obtain ⟨rfl, hway⟩ := List.cons_prefix_cons.mp hp
        rw [at?_cons, Option.bind_eq_some_iff] at hw
        obtain ⟨u, hu, hw⟩ := hw
        exact Or.inr ⟨u, hu, Or.inr ⟨way, hway, fun h => hne (h ▸ rfl), w, hw, hn, ho⟩⟩
  · rintro (⟨hn, ho⟩ | ⟨u, hu, ⟨w, hw, hn⟩ | ⟨way, hp, hne, w, hw, hn, ho⟩⟩)
    · exact Or.inr ⟨[], List.nil_prefix, by simp, v, rfl, hn, ho⟩
    · exact Or.inl ⟨w, by rw [at?_cons, hu]; exact hw, hn⟩
    · refine Or.inr ⟨key :: way, List.cons_prefix_cons.mpr ⟨rfl, hp⟩, ?_, w, ?_, hn, ho⟩
      · exact fun h => hne (List.cons.inj h).2
      · rw [at?_cons, hu]; exact hw

theorem Overwrites.of_at? (h : v.at? path = some w) (hn : w.isNull = false) :
    v.Overwrites path :=
  Or.inl ⟨w, h, hn⟩

theorem not_overwrites_null (path : List String) : ¬ null.Overwrites path := by
  cases path with
  | nil => simp [overwrites_nil, isNull]
  | cons key path => simp [overwrites_cons, isNull, get?, Json.members, obj?]

theorem overwrites_of_not_isObj (hn : v.isNull = false) (ho : v.isObj = false) :
    v.Overwrites path := by
  cases path with
  | nil => exact overwrites_nil.mpr hn
  | cons key path => exact overwrites_cons.mpr (Or.inl ⟨hn, ho⟩)

theorem at?_eq_none_of_not_isObj (h : v.isObj = false) (key : String) (path : List String) :
    v.at? (key :: path) = none := by
  rw [at?_cons, get?_eq_none_of_not_isObj h]; rfl

/-- What one merge leaves at a path, for values that are neither null nor objects. -/
theorem at?_mergeInto_iff (ho : o.Ordered) (hn : v.isNull = false) (hv : v.isObj = false) :
    (mergeInto b o).at? path = some v ↔
      o.at? path = some v ∨ (b.at? path = some v ∧ ¬ o.Overwrites path) := by
  induction path generalizing b o with
  | nil =>
    simp only [at?_nil, Option.some.injEq, overwrites_nil, Bool.not_eq_false]
    rcases mergeInto_cases b o with rfl | ⟨d, e, rfl, rfl⟩ | ⟨hon, _, h⟩
    · rw [mergeInto_null]
      constructor
      · intro h; exact Or.inr ⟨h, rfl⟩
      · rintro (rfl | h)
        · cases hn
        · exact h.1
    · rw [mergeInto_obj_obj]
      constructor
      · rintro rfl; cases hv
      · rintro (rfl | h)
        · cases hv
        · obtain ⟨rfl, _⟩ := h; cases hv
    · simp [h, hon]
  | cons key path ih =>
    rcases mergeInto_cases b o with rfl | ⟨d, e, rfl, rfl⟩ | ⟨hon, hbo, h⟩
    · have hnull : null.at? (key :: path) = none := at?_eq_none_of_not_isObj rfl key path
      simp [hnull, not_overwrites_null]
    · rw [mergeInto_obj_obj, at?_cons, at?_cons, at?_cons, overwrites_cons]
      simp only [get?_obj, get?_mergeMembers ho.sorted, isObj, Bool.true_eq_false, and_false,
        false_or]
      cases he : Dict.get? e key with
      | none => simp
      | some w =>
        have hw : w.Ordered := ho.of_get? he
        cases hd : Dict.get? d key with
        | some old => simp [mergeMember, ih hw]
        | none =>
          cases hwn : w.isNull with
          | false => simp [mergeMember, hwn]
          | true =>
            obtain rfl : w = .null := by cases w <;> simp_all [isNull]
            have hne : null.at? path ≠ some v := fun h =>
              not_overwrites_null path (.of_at? h hn)
            simp [mergeMember, hwn, hne]
    · rw [h]
      constructor
      · exact Or.inl
      · rintro (ho' | hb)
        · exact ho'
        · rcases hbo with hbo | hoo
          · simp [at?_eq_none_of_not_isObj hbo] at hb
          · exact absurd (overwrites_of_not_isObj hon hoo) hb.2

/--
A layer has `v` at the path and no later one overwrites it. Layers that are no objects take no
part.
-/
def LastWritten (layers : List Json) (path : List String) (v : Json) : Prop :=
  ∃ before layer after, layers = before ++ layer :: after ∧ layer.isObj ∧
    layer.at? path = some v ∧ ∀ later ∈ after, later.isObj → ¬ later.Overwrites path

theorem not_lastWritten_nil (path : List String) (v : Json) : ¬ LastWritten [] path v := by
  rintro ⟨before, layer, after, h, _⟩
  simp at h

theorem lastWritten_cons {layer : Json} {layers : List Json} :
    LastWritten (layer :: layers) path v ↔ LastWritten layers path v ∨
      (layer.isObj ∧ layer.at? path = some v ∧
        ∀ later ∈ layers, later.isObj → ¬ later.Overwrites path) := by
  constructor
  · rintro ⟨before, l, after, h, hl⟩
    cases before with
    | nil =>
      obtain ⟨rfl, rfl⟩ := List.cons.inj h
      exact Or.inr hl
    | cons m before => exact Or.inl ⟨before, l, after, (List.cons.inj h).2, hl⟩
  · rintro (⟨before, l, after, h, hl⟩ | h)
    · exact ⟨layer :: before, l, after, by rw [h]; rfl, hl⟩
    · exact ⟨[], layer, layers, rfl, h⟩

/-- What a run of merges leaves at a path: what a layer wrote last, or what was there before. -/
theorem at?_foldl_mergeInto_iff {layers : List Json} (hl : ∀ l ∈ layers, l.Ordered)
    (hn : v.isNull = false) (hv : v.isObj = false) :
    (layers.foldl (fun b l => if l.isObj then mergeInto b l else b) b).at? path = some v ↔
      LastWritten layers path v ∨
        (b.at? path = some v ∧ ∀ l ∈ layers, l.isObj → ¬ l.Overwrites path) := by
  induction layers generalizing b with
  | nil => simp [not_lastWritten_nil]
  | cons l layers ih =>
    obtain ⟨hlo, hl⟩ := List.forall_mem_cons.mp hl
    rw [List.foldl_cons, ih hl, lastWritten_cons, List.forall_mem_cons]
    cases ho : l.isObj with
    | false => simp
    | true =>
      simp only [if_true, at?_mergeInto_iff hlo hn hv, true_and, forall_const]
      tauto

/-- A scalar or a list stands at a path of merged layers exactly where a layer wrote it last. -/
theorem at?_mergeLayers_iff_lastWritten {layers : List Json} (hl : ∀ l ∈ layers, l.Ordered)
    (hn : v.isNull = false) (hv : v.isObj = false) :
    (mergeLayers layers).at? path = some v ↔ LastWritten layers path v := by
  have hbase : (obj []).at? path ≠ some v := by
    cases path with
    | nil => rintro h; simp [← Option.some.inj h, isObj] at hv
    | cons key path => simp [at?_cons]
  rw [mergeLayers, List.foldl_filter, at?_foldl_mergeInto_iff hl hn hv]
  simp [hbase]

def clashingLayers : List Json :=
  [.obj [("bem", .obj [("element", .str "__"), ("modifier", .str "_")])],
    .arr [.obj [("bem", .null)]],
    .obj [("bem", .obj [("element", .null), ("modifier", .str "--")])],
    .obj [("bem", .null), ("jsx", .bool true)]]

theorem lastWritten_clashingLayers :
    (∀ l ∈ clashingLayers, l.Ordered) ∧ (str "--").isNull = false ∧ (str "--").isObj = false ∧
      LastWritten clashingLayers ["bem", "modifier"] (str "--") := by
  have hl : ∀ l ∈ clashingLayers, l.Ordered := by decide
  exact ⟨hl, rfl, rfl, (at?_mergeLayers_iff_lastWritten hl rfl rfl).mp rfl⟩

end Shorthand.Json
