import Mathlib.Data.List.Induction
import Shorthand.Json.Merge
import Shorthand.Proofs.Json.Ordered

/-! # Laws of the deep merge

What a merge of two objects holds under a key depends only on what the objects hold there. Merging
keeps values ordered, and a value merged over itself stays as it is.
-/

namespace Shorthand.Json

variable {a b o v w : Json} {base overlay : Dict Json} {layers : List Json}

/-- What stands under a key once `v` is merged over what was there. -/
def mergeMember : Option Json → Json → Option Json
  | some old, v => some (mergeInto old v)
  | none, v => if v.isNull then none else some v

@[simp] theorem mergeInto_null (base : Json) : mergeInto base .null = base := by
  rw [mergeInto]

@[simp] theorem mergeInto_obj_obj (base overlay : Dict Json) :
    mergeInto (.obj base) (.obj overlay) = .obj (mergeMembers base overlay) := by
  rw [mergeInto]

/-- An overlay is null, or it is merged member by member, or it replaces the base. -/
theorem mergeInto_cases (base overlay : Json) :
    overlay = .null ∨ (∃ d e, base = .obj d ∧ overlay = .obj e) ∨
      (overlay.isNull = false ∧ (base.isObj = false ∨ overlay.isObj = false) ∧
        mergeInto base overlay = overlay) := by
  cases overlay with
  | null => exact Or.inl rfl
  | obj e =>
    cases base with
    | obj d => exact Or.inr (Or.inl ⟨d, e, rfl, rfl⟩)
    | _ => exact Or.inr (Or.inr ⟨rfl, Or.inl rfl, rfl⟩)
  | _ => exact Or.inr (Or.inr ⟨rfl, Or.inr rfl, rfl⟩)

theorem mergeMembers_cons (base : Dict Json) (key : String) (v : Json) (overlay : Dict Json) :
    mergeMembers base ((key, v) :: overlay) =
      mergeMembers ((mergeMember (base.get? key) v).elim base (base.insert key ·)) overlay := by
  rw [mergeMembers]
  cases base.get? key with
  | some old => rfl
  | none => cases hv : v.isNull <;> simp [mergeMember, hv]

/-- What a merge of members holds under a key depends on both sides at that key only. -/
theorem get?_mergeMembers (ho : Dict.Sorted overlay) (base : Dict Json) (k : String) :
    (mergeMembers base overlay).get? k =
      (overlay.get? k).elim (base.get? k) (mergeMember (base.get? k)) := by
  induction overlay generalizing base with
  | nil => rw [mergeMembers]; rfl
  | cons e overlay ih =>
    obtain ⟨key, v⟩ := e
    rw [mergeMembers_cons, ih ho.tail, Dict.get?_cons]
    by_cases hk : k = key
    · subst hk
      rw [ho.get?_head, if_pos rfl, Option.elim_none, Option.elim_some]
      cases hm : mergeMember (base.get? k) v with
      | some w => simp [Dict.get?_insert]
      | none =>
        cases hb : base.get? k with
        | none => exact hb
        | some old => simp [hb, mergeMember] at hm
    · rw [if_neg hk]
      cases mergeMember (base.get? key) v with
      | some w => simp [Dict.get?_insert, hk]
      | none => rfl

theorem sorted_mergeMembers (hb : Dict.Sorted base) (overlay : Dict Json) :
    Dict.Sorted (mergeMembers base overlay) := by
  induction overlay generalizing base with
  | nil => rw [mergeMembers]; exact hb
  | cons e overlay ih =>
    obtain ⟨key, v⟩ := e
    rw [mergeMembers_cons]
    apply ih
    cases mergeMember (base.get? key) v with
    | some w => exact Dict.sorted_insert key w hb
    | none => exact hb

theorem Ordered.mergeInto (ha : a.Ordered) (ho : o.Ordered) : (mergeInto a o).Ordered := by
  induction a using memberInduction generalizing o with
  | step a ih =>
    rcases mergeInto_cases a o with rfl | ⟨d, e, rfl, rfl⟩ | ⟨_, _, h⟩
    · rwa [mergeInto_null]
    · have hs : Dict.Sorted (mergeMembers d e) := sorted_mergeMembers ha.sorted e
      rw [mergeInto_obj_obj]
      refine ordered_obj_iff.mpr ⟨hs, fun x hx => ?_⟩
      have hg := Dict.get?_of_mem hs hx
      rw [get?_mergeMembers ho.sorted] at hg
      cases hw : Dict.get? e x.1 with
      | none =>
        rw [hw] at hg
        exact ha.of_get? hg
      | some w =>
        have hwo : w.Ordered := ho.of_get? hw
        cases hd : Dict.get? d x.1 with
        | none =>
          simp only [hw, hd, Option.elim_some, mergeMember, Option.ite_none_left_eq_some] at hg
          exact Option.some.inj hg.2 ▸ hwo
        | some old =>
          simp only [hw, hd, Option.elim_some, mergeMember] at hg
          exact Option.some.inj hg ▸ ih x.1 old hd (ha.of_get? hd) hwo
    · rwa [h]

theorem mergeInto_self (ha : a.Ordered) : mergeInto a a = a := by
  induction a using memberInduction with
  | step a ih =>
    rcases mergeInto_cases a a with rfl | ⟨d, e, rfl, he⟩ | ⟨_, _, h⟩
    · rfl
    · obtain rfl := obj.inj he
      have hs := ha.sorted
      rw [mergeInto_obj_obj]
      congr 1
      refine Dict.Sorted.ext (sorted_mergeMembers hs d) hs fun k => ?_
      rw [get?_mergeMembers hs]
      cases hk : Dict.get? d k with
      | none => rfl
      | some w => simp [mergeMember, ih k w hk (ha.of_get? hk)]
    · exact h

theorem mergeInto_eq_overlay (hn : o.isNull = false) (h : b.isObj = false ∨ o.isObj = false) :
    mergeInto b o = o := by
  rcases mergeInto_cases b o with rfl | ⟨d, e, rfl, rfl⟩ | ⟨_, _, hm⟩
  · cases hn
  · rcases h with h | h <;> cases h
  · exact hm

theorem null_mergeInto (o : Json) : mergeInto .null o = o := by
  cases ho : o.isNull with
  | true => rw [isNull_iff.mp ho, mergeInto_null]
  | false => exact mergeInto_eq_overlay ho (Or.inl rfl)

theorem isNull_mergeInto (hn : o.isNull = false) : (mergeInto b o).isNull = false := by
  rcases mergeInto_cases b o with rfl | ⟨d, e, rfl, rfl⟩ | ⟨_, _, hm⟩
  · cases hn
  · rw [mergeInto_obj_obj]; rfl
  · rw [hm]; exact hn

theorem mergeMember_null (x : Option Json) : mergeMember x .null = x := by
  cases x with
  | none => rfl
  | some old => rw [mergeMember, mergeInto_null]

theorem mergeMember_none (hn : v.isNull = false) : mergeMember none v = some v := by
  simp [mergeMember, hn]

def mergeOption (x y : Option Json) : Option Json :=
  y.elim x (mergeMember x)

@[simp] theorem mergeOption_none (x : Option Json) : mergeOption x none = x :=
  rfl

@[simp] theorem mergeOption_some (x : Option Json) (v : Json) :
    mergeOption x (some v) = mergeMember x v :=
  rfl

theorem mergeLayers_append_singleton (layers : List Json) (v : Json) :
    mergeLayers (layers ++ [v]) =
      if v.isObj then mergeInto (mergeLayers layers) v else mergeLayers layers := by
  cases h : v.isObj <;> simp [mergeLayers, h]

theorem isObj_mergeInto (ha : a.isObj) (ho : o.isObj) : (mergeInto a o).isObj := by
  rcases mergeInto_cases a o with rfl | ⟨d, e, rfl, rfl⟩ | ⟨_, _, h⟩
  · rwa [mergeInto_null]
  · rfl
  · rwa [h]

theorem isObj_mergeLayers (layers : List Json) : (mergeLayers layers).isObj := by
  induction layers using List.reverseRecOn with
  | nil => rfl
  | append_singleton layers v ih =>
    rw [mergeLayers_append_singleton]
    split
    · exact isObj_mergeInto ih ‹_›
    · exact ih

theorem Ordered.mergeLayers (h : ∀ v ∈ layers, v.Ordered) : (mergeLayers layers).Ordered := by
  induction layers using List.reverseRecOn with
  | nil => decide
  | append_singleton layers v ih =>
    have hl : (Json.mergeLayers layers).Ordered :=
      ih fun w hw => h w (List.mem_append_left _ hw)
    rw [mergeLayers_append_singleton]
    split
    · exact hl.mergeInto (h v (by simp))
    · exact hl

def nonNull (members : Dict Json) : Dict Json :=
  members.filter fun e => !e.2.isNull

theorem foldl_nonNull {β : Type} (f : β → String × Json → β)
    (hf : ∀ b e, e.2.isNull = true → f b e = b) (b : β) (members : Dict Json) :
    (nonNull members).foldl f b = members.foldl f b := by
  rw [nonNull, List.foldl_filter]
  congr 1
  funext b e
  cases he : e.2.isNull with
  | true => simp [hf b e he]
  | false => rfl

theorem mergeLayers_singleton (hv : v.Ordered) : mergeLayers [v] = .obj (nonNull v.members) := by
  cases v with
  | obj members =>
    change mergeInto (.obj []) (.obj members) = .obj (nonNull members)
    rw [mergeInto_obj_obj]
    congr 1
    refine Dict.Sorted.ext (sorted_mergeMembers Dict.sorted_nil members)
      (Dict.sorted_filter _ hv.sorted) fun k => ?_
    change _ = Dict.get? (members.filter _) k
    rw [get?_mergeMembers hv.sorted, Dict.get?_filter _ hv.sorted]
    cases Dict.get? members k with
    | none => rfl
    | some w => cases hw : w.isNull <;> simp [mergeMember, Option.filter, hw]
  | _ => rfl

end Shorthand.Json
