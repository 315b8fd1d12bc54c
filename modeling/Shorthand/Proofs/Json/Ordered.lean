import Shorthand.Json.Basic
import Shorthand.Proofs.Dict

/-! # Ordered values

Objects list their members by increasing key throughout an ordered value. Being ordered passes to
members and can be decided, and a property of values may be shown by induction along members.
-/

namespace Shorthand.Json

variable {v w : Json} {key : String} {members : Dict Json} {items : List Json}

theorem orderedItems_iff : OrderedItems items ↔ ∀ v ∈ items, v.Ordered := by
  induction items with
  | nil => simp [OrderedItems]
  | cons v items ih => simp [OrderedItems, ih]

theorem orderedMembers_iff : OrderedMembers members ↔ ∀ e ∈ members, e.2.Ordered := by
  induction members with
  | nil => simp [OrderedMembers]
  | cons e members ih => obtain ⟨key, v⟩ := e; simp [OrderedMembers, ih]

theorem ordered_obj_iff :
    (obj members).Ordered ↔ Dict.Sorted members ∧ ∀ e ∈ members, e.2.Ordered := by
  rw [Ordered, orderedMembers_iff]

theorem ordered_obj_nil : (obj []).Ordered :=
  ordered_obj_iff.mpr ⟨Dict.sorted_nil, List.forall_mem_nil _⟩

theorem ordered_arr_iff : (arr items).Ordered ↔ ∀ v ∈ items, v.Ordered := by
  rw [Ordered, orderedItems_iff]

theorem isNull_iff : v.isNull ↔ v = .null := by
  cases v <;> simp [isNull]

theorem bind_str?_eq_some_iff {v : Option Json} {s : String} :
    v.bind str? = some s ↔ v = some (.str s) := by
  rcases v with _ | v
  · simp
  · cases v <;> simp [str?]

theorem bind_bool?_eq_some_iff {v : Option Json} {b : Bool} :
    v.bind bool? = some b ↔ v = some (.bool b) := by
  rcases v with _ | v
  · simp
  · cases v <;> simp [bool?]

@[simp] theorem get?_obj (members : Dict Json) (key : String) :
    (obj members).get? key = members.get? key :=
  rfl

theorem get?_eq_none_of_not_isObj (h : v.isObj = false) (key : String) : v.get? key = none := by
  cases v with
  | obj members => simp [isObj] at h
  | _ => rfl

theorem Ordered.sorted (h : (obj members).Ordered) : Dict.Sorted members :=
  (ordered_obj_iff.mp h).1

theorem Ordered.sorted_members (h : v.Ordered) : Dict.Sorted v.members := by
  cases v with
  | obj members => exact h.sorted
  | _ => exact Dict.sorted_nil

theorem mem_members_of_get? (h : v.get? key = some w) : (key, w) ∈ v.members :=
  Dict.mem_of_get? h

theorem Ordered.of_mem (hv : v.Ordered) {e : String × Json} (he : e ∈ v.members) :
    e.2.Ordered := by
  cases v with
  | obj members => exact (ordered_obj_iff.mp hv).2 e he
  | _ => simp [Json.members, obj?] at he

theorem Ordered.of_get? (hv : v.Ordered) (h : v.get? key = some w) : w.Ordered :=
  hv.of_mem (mem_members_of_get? h)

theorem ordered_obj_insert (hm : (obj members).Ordered) (key : String) (hw : w.Ordered) :
    (obj (Dict.insert key w members)).Ordered := by
  obtain ⟨hs, hm⟩ := ordered_obj_iff.mp hm
  refine ordered_obj_iff.mpr ⟨Dict.sorted_insert key w hs, fun e he => ?_⟩
  rcases Dict.mem_insert he with rfl | he
  · exact hw
  · exact hm e he

theorem ordered_object (hm : ∀ e ∈ members, e.2.Ordered) : (object members).Ordered :=
  ordered_obj_iff.mpr ⟨Dict.sorted_ofList members, fun e he => hm e (Dict.mem_ofList he)⟩

theorem ordered_ofOption {α : Type u} {f : α → Json} {o : Option α}
    (h : ∀ a ∈ o, (f a).Ordered) : (ofOption f o).Ordered := by
  cases o with
  | none => trivial
  | some a => exact h a rfl

theorem ordered_mapValues {α : Type u} {f : α → Json} {d : Dict α} (hd : Dict.Sorted d)
    (h : ∀ e ∈ d, (f e.2).Ordered) : (obj (Dict.mapValues f d)).Ordered := by
  refine ordered_obj_iff.mpr ⟨Dict.sorted_mapValues f hd, fun e he => ?_⟩
  obtain ⟨x, hx, rfl⟩ := List.mem_map.mp he
  exact h x hx

theorem sizeOf_lt_of_get? (h : v.get? key = some w) : sizeOf w < sizeOf v := by
  cases v with
  | obj members =>
    have hm : sizeOf (key, w) < sizeOf members := List.sizeOf_lt_of_mem (Dict.mem_of_get? h)
    simp only [Prod.mk.sizeOf_spec, obj.sizeOf_spec] at hm ⊢
    omega
  | _ => simp [get?, Json.members, obj?] at h

/-- A property holds of every value if it passes from the members of a value to the value. -/
theorem memberInduction {P : Json → Prop}
    (step : ∀ v, (∀ key w, v.get? key = some w → P w) → P v) (v : Json) : P v :=
  step v fun _ w _ => memberInduction step w
termination_by sizeOf v
decreasing_by exact sizeOf_lt_of_get? ‹_›

instance {α : Type u} (d : Dict α) : Decidable (Dict.Sorted d) :=
  inferInstanceAs (Decidable (List.Pairwise _ d))

mutual

def decideOrdered : (v : Json) → Decidable v.Ordered
  | .null | .bool _ | .num _ | .str _ => isTrue trivial
  | .arr items => decideOrderedItems items
  | .obj members => have := decideOrderedMembers members; instDecidableAnd

def decideOrderedItems : (items : List Json) → Decidable (OrderedItems items)
  | [] => isTrue trivial
  | v :: items => have := decideOrdered v; have := decideOrderedItems items; instDecidableAnd

def decideOrderedMembers : (members : List (String × Json)) → Decidable (OrderedMembers members)
  | [] => isTrue trivial
  | (_, v) :: members =>
    have := decideOrdered v; have := decideOrderedMembers members; instDecidableAnd

end

instance (v : Json) : Decidable v.Ordered :=
  decideOrdered v

example : (obj [("a", .null), ("b", .arr [obj [("d", .null), ("c", .null)]])]).Ordered ↔ False := by
  decide

end Shorthand.Json
