import Shorthand.Proofs.Json.LastWriter

/-! # Null members of merged layers

Null members decide nothing about the rest of merged layers. They are dropped, but for those that
come inside an object for which the layers before have no place: such an object is put down as it
is, with its nulls.
-/

namespace Shorthand.Json

variable {a b o v w : Json} {members : Dict Json} {layers : List Json} {key : String}
  {path : List String}

mutual

/-- The value without the null members of nested objects. Lists stay as they are. -/
def dropNulls : Json → Json
  | .obj members => .obj (dropNullMembers members)
  | v => v

def dropNullMembers : List (String × Json) → List (String × Json)
  | [] => []
  | (key, v) :: members =>
    if v.isNull then dropNullMembers members
    else (key, v.dropNulls) :: dropNullMembers members

end

theorem dropNulls_obj (members : Dict Json) :
    (obj members).dropNulls = .obj (dropNullMembers members) := by
  rw [dropNulls]

theorem dropNulls_of_not_isObj (h : v.isObj = false) : v.dropNulls = v := by
  cases v with
  | obj members => cases h
  | _ => rw [dropNulls]; simp

@[simp] theorem isObj_dropNulls (v : Json) : v.dropNulls.isObj = v.isObj := by
  cases v with
  | obj members => rw [dropNulls_obj]; rfl
  | _ => rw [dropNulls_of_not_isObj rfl]

@[simp] theorem isNull_dropNulls (v : Json) : v.dropNulls.isNull = v.isNull := by
  cases v with
  | obj members => rw [dropNulls_obj]; rfl
  | _ => rw [dropNulls_of_not_isObj rfl]

theorem dropNullMembers_eq (members : Dict Json) :
    dropNullMembers members = (nonNull members).mapValues dropNulls := by
  induction members with
  | nil => rw [dropNullMembers]; rfl
  | cons e members ih =>
    obtain ⟨key, v⟩ := e
    rw [dropNullMembers, ih, nonNull, nonNull]
    cases hv : v.isNull with
    | true => rw [if_pos rfl, List.filter_cons_of_neg (by simp [hv])]
    | false => rw [if_neg Bool.false_ne_true, List.filter_cons_of_pos (by simp [hv])]; rfl

theorem sorted_dropNullMembers (hm : Dict.Sorted members) :
    Dict.Sorted (dropNullMembers members) := by
  rw [dropNullMembers_eq]
  exact Dict.sorted_mapValues dropNulls (Dict.sorted_filter _ hm)

def dropNullOption (x : Option Json) : Option Json :=
  (x.filter (!·.isNull)).map dropNulls

theorem get?_dropNullMembers (hm : Dict.Sorted members) (k : String) :
    Dict.get? (dropNullMembers members) k = dropNullOption (Dict.get? members k) := by
  rw [dropNullMembers_eq, Dict.get?_mapValues, nonNull, Dict.get?_filter _ hm]
  rfl

theorem dropNullOption_some (hn : v.isNull = false) :
    dropNullOption (some v) = some v.dropNulls := by
  simp [dropNullOption, Option.filter, hn]

theorem dropNullOption_mergeOption {x y : Option Json}
    (h : ∀ a ∈ x, ∀ b ∈ y, (mergeInto a b).dropNulls = mergeInto a.dropNulls b.dropNulls) :
    dropNullOption (mergeOption x y) = mergeOption (dropNullOption x) (dropNullOption y) := by
  cases y with
  | none => rfl
  | some b =>
    rw [mergeOption_some]
    cases hb : b.isNull with
    | true =>
      obtain rfl := isNull_iff.mp hb
      rw [mergeMember_null]; rfl
    | false =>
      have hd : b.dropNulls.isNull = false := by rw [isNull_dropNulls, hb]
      rw [dropNullOption_some hb, mergeOption_some]
      cases x with
      | none =>
        rw [mergeMember_none hb, dropNullOption_some hb]
        exact (mergeMember_none hd).symm
      | some a =>
        rw [mergeMember, dropNullOption_some (isNull_mergeInto hb), h a rfl b rfl]
        cases ha : a.isNull with
        | false => rw [dropNullOption_some ha, mergeMember]
        | true =>
          obtain rfl := isNull_iff.mp ha
          rw [dropNulls_of_not_isObj rfl, null_mergeInto]
          exact (mergeMember_none hd).symm

/-- The null members of the two sides do not count for the rest of a merge. -/
theorem dropNulls_mergeInto (ha : a.Ordered) (ho : o.Ordered) :
    (mergeInto a o).dropNulls = mergeInto a.dropNulls o.dropNulls := by
  induction a using memberInduction generalizing o with
  | step a ih =>
    rcases mergeInto_cases a o with rfl | ⟨d, e, rfl, rfl⟩ | ⟨hn, hao, hm⟩
    · rw [mergeInto_null, dropNulls_of_not_isObj (v := .null) rfl, mergeInto_null]
    · simp only [mergeInto_obj_obj, dropNulls_obj]
      congr 1
      have hs : Dict.Sorted (mergeMembers d e) := sorted_mergeMembers ha.sorted e
      have hd : Dict.Sorted (dropNullMembers d) := sorted_dropNullMembers ha.sorted
      have he : Dict.Sorted (dropNullMembers e) := sorted_dropNullMembers ho.sorted
      refine Dict.Sorted.ext (sorted_dropNullMembers hs) (sorted_mergeMembers hd _) fun k => ?_
      rw [get?_dropNullMembers hs, get?_mergeMembers ho.sorted, get?_mergeMembers he,
        get?_dropNullMembers ha.sorted, get?_dropNullMembers ho.sorted]
      apply dropNullOption_mergeOption
      intro x hx y hy
      exact ih k x hx (ha.of_get? hx) (ho.of_get? hy)
    · rw [hm, mergeInto_eq_overlay]
      · rw [isNull_dropNulls, hn]
      · simpa only [isObj_dropNulls] using hao

theorem dropNulls_mergeLayers (hl : ∀ v ∈ layers, v.Ordered) :
    (mergeLayers layers).dropNulls = mergeLayers (layers.map dropNulls) := by
  induction layers using List.reverseRecOn with
  | nil => rfl
  | append_singleton layers v ih =>
    obtain ⟨hl, hv⟩ := List.forall_mem_append.mp hl
    rw [List.map_append, List.map_singleton, mergeLayers_append_singleton,
      mergeLayers_append_singleton, isObj_dropNulls, ← ih hl]
    split
    · exact dropNulls_mergeInto (.mergeLayers hl) (hv v (List.mem_singleton_self v))
    · rfl

theorem null_at?_cons (key : String) (path : List String) : null.at? (key :: path) = none :=
  at?_eq_none_of_not_isObj rfl key path

/-- The value has an object that the last key of the path would belong to. -/
def HasPlace (v : Json) (path : List String) : Prop :=
  ∃ members, v.at? path.dropLast = some (.obj members)

theorem hasPlace_singleton : v.HasPlace [key] ↔ v.isObj := by
  simp only [HasPlace, List.dropLast_singleton, at?_nil, Option.some.injEq]
  cases v <;> simp [isObj]

theorem hasPlace_cons {k : String} : v.HasPlace (key :: k :: path) ↔
    ∃ w, v.get? key = some w ∧ w.HasPlace (k :: path) := by
  simp only [HasPlace, List.dropLast_cons_cons, at?_cons, Option.bind_eq_some_iff]
  constructor
  · rintro ⟨members, w, hw, h⟩; exact ⟨w, hw, members, h⟩
  · rintro ⟨w, hw, members, h⟩; exact ⟨members, w, hw, h⟩

theorem mergeMember_eq_null_iff {x : Option Json} :
    mergeMember x v = some .null ↔ x = some .null ∧ v.isNull := by
  cases hv : v.isNull with
  | true => rw [isNull_iff.mp hv, mergeMember_null]; simp
  | false =>
    cases x with
    | none =>
      rw [mergeMember_none hv]
      constructor
      · intro h; rw [Option.some.inj h] at hv; cases hv
      · rintro ⟨h, _⟩; cases h
    | some a =>
      have hm : (mergeInto a v).isNull = false := isNull_mergeInto hv
      rw [mergeMember]
      constructor
      · intro h; rw [Option.some.inj h] at hm; cases hm
      · rintro ⟨_, h⟩; cases h

theorem bind_mergeMember_eq_null_iff {x : Option Json} {k : String}
    (h : ∀ a ∈ x, (mergeInto a v).at? (k :: path) = some .null ↔
      (a.at? (k :: path) = some .null ∧ ¬ v.Overwrites (k :: path)) ∨
        (v.at? (k :: path) = some .null ∧ ¬ a.HasPlace (k :: path))) :
    (mergeMember x v).bind (·.at? (k :: path)) = some .null ↔
      (x.bind (·.at? (k :: path)) = some .null ∧ ¬ v.Overwrites (k :: path)) ∨
        (v.at? (k :: path) = some .null ∧ ¬ ∃ a, x = some a ∧ a.HasPlace (k :: path)) := by
  cases x with
  | some a => simpa [mergeMember] using h a rfl
  | none =>
    cases hv : v.isNull with
    | true => simp [isNull_iff.mp hv, mergeMember_null, null_at?_cons]
    | false => simp [mergeMember_none hv]

/-- What one merge leaves of nulls below the top: they were there, or had no place there. -/
theorem at?_mergeInto_null_iff (ho : o.Ordered) (hp : path ≠ []) :
    (mergeInto b o).at? path = some .null ↔
      (b.at? path = some .null ∧ ¬ o.Overwrites path) ∨
        (o.at? path = some .null ∧ ¬ b.HasPlace path) := by
  induction path generalizing b o with
  | nil => exact absurd rfl hp
  | cons key path ih =>
    rcases mergeInto_cases b o with rfl | ⟨d, e, rfl, rfl⟩ | ⟨hon, hbo, h⟩
    · simp [null_at?_cons, not_overwrites_null]
    · rw [mergeInto_obj_obj, at?_cons, at?_cons, at?_cons, overwrites_cons]
      simp only [get?_obj, get?_mergeMembers ho.sorted, isObj, Bool.true_eq_false, and_false,
        false_or]
      cases he : Dict.get? e key with
      | none => simp
      | some w =>
        have hw : w.Ordered := ho.of_get? he
        simp only [Option.elim_some, Option.bind_some, Option.some.injEq, exists_eq_left']
        cases path with
        | nil =>
          have hd : (obj d).HasPlace [key] := hasPlace_singleton.mpr rfl
          simp only [at?_nil, overwrites_nil, hd]
          simp [mergeMember_eq_null_iff]
        | cons k path =>
          rw [hasPlace_cons]
          exact bind_mergeMember_eq_null_iff fun a _ => ih hw (List.cons_ne_nil k path)
    · rw [h]
      cases hoo : o.isObj with
      | false =>
        have hov : o.Overwrites (key :: path) := overwrites_of_not_isObj hon hoo
        simp [at?_eq_none_of_not_isObj hoo, hov]
      | true =>
        have hb : b.isObj = false := by simpa [hoo] using hbo
        have hplace : ¬ b.HasPlace (key :: path) := by
          rintro ⟨members, hm⟩
          cases path with
          | nil => rw [Option.some.inj hm] at hb; cases hb
          | cons k path => simp [at?_eq_none_of_not_isObj hb] at hm
        simp [at?_eq_none_of_not_isObj hb, hplace]

/--
A layer has null at the path where the layers before it have no place for it, and no later layer
overwrites it. Layers that are no objects take no part.
-/
def NullKept (layers : List Json) (path : List String) : Prop :=
  ∃ before layer after, layers = before ++ layer :: after ∧ layer.isObj ∧
    layer.at? path = some .null ∧ ¬ (mergeLayers before).HasPlace path ∧
    ∀ later ∈ after, later.isObj → ¬ later.Overwrites path

theorem nullKept_append_singleton : NullKept (layers ++ [v]) path ↔
    (NullKept layers path ∧ (v.isObj → ¬ v.Overwrites path)) ∨
      (v.isObj ∧ v.at? path = some .null ∧ ¬ (mergeLayers layers).HasPlace path) := by
  constructor
  · rintro ⟨before, layer, after, hl, ho, hn, hp, hafter⟩
    rcases List.eq_nil_or_concat after with rfl | ⟨after, last, rfl⟩
    · obtain ⟨rfl, hv⟩ := List.append_inj' hl rfl
      obtain rfl : v = layer := List.singleton_inj.mp hv
      exact Or.inr ⟨ho, hn, hp⟩
    · rw [List.concat_eq_append, ← List.cons_append, ← List.append_assoc] at hl
      obtain ⟨rfl, hv⟩ := List.append_inj' hl rfl
      obtain rfl : v = last := List.singleton_inj.mp hv
      rw [List.concat_eq_append, List.forall_mem_append, List.forall_mem_singleton] at hafter
      exact Or.inl ⟨⟨before, layer, after, rfl, ho, hn, hp, hafter.1⟩, hafter.2⟩
  · rintro (⟨⟨before, layer, after, rfl, ho, hn, hp, hafter⟩, hv⟩ | ⟨ho, hn, hp⟩)
    · refine ⟨before, layer, after ++ [v], by simp, ho, hn, hp, ?_⟩
      exact List.forall_mem_append.mpr ⟨hafter, List.forall_mem_singleton.mpr hv⟩
    · exact ⟨layers, v, [], rfl, ho, hn, hp, List.forall_mem_nil _⟩

theorem not_nullKept_nil (layers : List Json) : ¬ NullKept layers [] := by
  rintro ⟨before, layer, after, _, ho, hn, _⟩
  rw [Option.some.inj hn] at ho
  cases ho

theorem at?_mergeLayers_null_iff (hl : ∀ v ∈ layers, v.Ordered) :
    (mergeLayers layers).at? path = some .null ↔ NullKept layers path := by
  by_cases hp : path = []
  · subst hp
    have ho := isObj_mergeLayers layers
    refine iff_of_false (fun h => ?_) (not_nullKept_nil layers)
    rw [Option.some.inj h] at ho
    cases ho
  · induction layers using List.reverseRecOn with
    | nil =>
      refine iff_of_false (fun h => ?_) (by rintro ⟨_, _, _, h, _⟩; simp at h)
      obtain ⟨key, path, rfl⟩ := List.exists_cons_of_ne_nil hp
      cases h
    | append_singleton layers v ih =>
      obtain ⟨hl, hv⟩ := List.forall_mem_append.mp hl
      rw [nullKept_append_singleton, mergeLayers_append_singleton]
      cases ho : v.isObj with
      | false => simp [ih hl]
      | true =>
        rw [if_pos rfl, at?_mergeInto_null_iff (hv v (List.mem_singleton_self v)) hp, ih hl]
        simp

/--
The null members of all layers may be deleted at any depth without any effect on the merged layers
but for their nulls. A null is left only where its layer has put down an object for which the layers
before it had no place, and never at the top.
-/
theorem nulls_mergeLayers (hl : ∀ v ∈ layers, v.Ordered) :
    (mergeLayers layers).dropNulls = mergeLayers (layers.map dropNulls) ∧
      (∀ path, (mergeLayers layers).at? path = some .null ↔ NullKept layers path) ∧
      ∀ key, (mergeLayers layers).get? key ≠ some .null := by
  refine ⟨dropNulls_mergeLayers hl, fun path => at?_mergeLayers_null_iff hl, ?_⟩
  intro key hk
  have hn : (mergeLayers layers).at? [key] = some .null := by rw [at?_cons, hk]; rfl
  obtain ⟨before, _, _, _, _, _, hp, _⟩ := (at?_mergeLayers_null_iff hl).mp hn
  exact hp (hasPlace_singleton.mpr (isObj_mergeLayers before))

def nullLayers : List Json :=
  [.obj [("bem", .obj [("element", .null), ("modifier", .str "_")])],
    .obj [("bem", .obj [("block", .null), ("modifier", .null)]), ("jsx", .null)]]

theorem nulls_mergeLayers_nullLayers :
    (∀ v ∈ nullLayers, v.Ordered) ∧
      (mergeLayers nullLayers).dropNulls = mergeLayers (nullLayers.map dropNulls) ∧
      NullKept nullLayers ["bem", "element"] ∧ ¬ NullKept nullLayers ["bem", "block"] ∧
      (mergeLayers nullLayers).get? "jsx" ≠ some .null := by
  have hl : ∀ v ∈ nullLayers, v.Ordered := by decide
  obtain ⟨hdrop, hnull, htop⟩ := nulls_mergeLayers hl
  refine ⟨hl, hdrop, (hnull _).mp rfl, fun h => ?_, htop "jsx"⟩
  cases (hnull _).mpr h

/-- The null inside a fresh object is kept, but dropped once an object stands in its place. -/
theorem null_kept_in_fresh_object :
    (∀ v ∈ nullLayers, v.Ordered) ∧
      mergeLayers nullLayers ≠ mergeLayers (nullLayers.map dropNulls) ∧
      (mergeLayers nullLayers).at? ["bem", "element"] = some .null ∧
      (mergeLayers (.obj [("bem", .obj [])] :: nullLayers)).at? ["bem", "element"] = none := by
  refine ⟨by decide, fun h => ?_, rfl, rfl⟩
  have hat : (some Json.null : Option Json) = none :=
    congrArg (·.at? ["bem", "element"]) h
  cases hat

end Shorthand.Json
