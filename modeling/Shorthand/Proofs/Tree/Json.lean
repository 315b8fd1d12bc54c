import Shorthand.Proofs.Json.Decode
import Shorthand.Proofs.Tree.Shape
import Shorthand.Tree.Json

/-! # Trees that are written

What is written for a tree has neither null nor an empty list at any level, since absent and empty
parts are left out. Reading restores them, so every tree is read back from what is written for it.
-/

namespace Shorthand

namespace Json

variable {v w : Json}

inductive Occurs (w : Json) : Json → Prop where
  | whole : Occurs w w
  | inside {v u : Json} (hu : u ∈ v.children) (h : Occurs w u) : Occurs w v

/-- Neither null nor an empty list occurs. -/
def Full (v : Json) : Prop :=
  ∀ w, Occurs w v → w ≠ .null ∧ w ≠ .arr []

theorem full_iff : v.Full ↔ (v ≠ .null ∧ v ≠ .arr []) ∧ ∀ u ∈ v.children, u.Full := by
  constructor
  · intro h
    exact ⟨h v .whole, fun u hu w hw => h w (.inside hu hw)⟩
  · rintro ⟨hv, hchildren⟩ w (_ | ⟨hu, hw⟩)
    · exact hv
    · exact hchildren _ hu w hw

theorem full_str (s : String) : (str s).Full :=
  full_iff.mpr ⟨⟨nofun, nofun⟩, nofun⟩

theorem full_arr_iff {items : List Json} :
    (arr items).Full ↔ items ≠ [] ∧ ∀ v ∈ items, v.Full := by
  rw [full_iff]
  simp [children]

theorem full_obj_iff {members : Dict Json} : (obj members).Full ↔ ∀ e ∈ members, e.2.Full := by
  rw [full_iff, children, List.forall_mem_map]
  simp

/-- A list is written under its key unless it is empty. -/
def listMember (key : String) (items : List Json) : Dict Json :=
  if items.isEmpty then [] else [(key, .arr items)]

def textMember (key : String) : Option String → Dict Json
  | some s => [(key, .str s)]
  | none => []

theorem full_of_mem_listMember {key : String} {items : List Json} (h : ∀ v ∈ items, v.Full) :
    ∀ e ∈ listMember key items, e.2.Full := by
  unfold listMember
  split
  · exact nofun
  · rintro e (_ | ⟨_, ⟨⟩⟩)
    refine full_arr_iff.mpr ⟨?_, h⟩
    rintro rfl
    contradiction

theorem full_of_mem_textMember {key : String} {text : Option String} :
    ∀ e ∈ textMember key text, e.2.Full := by
  cases text with
  | none => exact nofun
  | some s => exact List.forall_mem_singleton.mpr (full_str s)

end Json

open Json Json.Decode

namespace Attribute

theorem toJson_eq (a : Attribute) :
    a.toJson = .obj (("name", .str a.name) :: textMember "value" a.value) := by
  rw [toJson]
  cases a.value <;> rfl

theorem full_toJson (a : Attribute) : a.toJson.Full := by
  rw [toJson_eq, full_obj_iff, List.forall_mem_cons]
  exact ⟨full_str a.name, full_of_mem_textMember⟩

theorem readsBack : ReadsBack decode toJson := by
  rintro ⟨name, _ | value⟩ <;> rfl

end Attribute

namespace Node

variable {n m : Node}

theorem toJsonAll_eq_map (nodes : List Node) : toJsonAll nodes = nodes.map toJson := by
  induction nodes with
  | nil => rfl
  | cons n nodes ih => rw [toJsonAll, ih, List.map_cons]

theorem decodeAll_eq_mapM (items : List Json) : decodeAll items = items.mapM decode := by
  induction items with
  | nil => rfl
  | cons v items ih => rw [decodeAll, ih, List.mapM_cons]

theorem toJson_eq (n : Node) :
    n.toJson = .obj (listMember "attributes" (n.attributes.map (·.toJson)) ++
      listMember "children" (n.children.map toJson) ++ textMember "name" n.name ++
      textMember "value" n.value) := by
  rcases n with ⟨_ | name, _ | value, attributes, children⟩
  all_goals
    simp only [Node.toJson, toJsonAll_eq_map, listMember, List.isEmpty_map, textMember,
      List.append_nil]

theorem full_toJson (n : Node) : n.toJson.Full := by
  induction n using childInduction with
  | step n ih =>
    rw [toJson_eq, full_obj_iff]
    simp only [List.forall_mem_append]
    refine ⟨⟨⟨?_, ?_⟩, full_of_mem_textMember⟩, full_of_mem_textMember⟩
    · apply full_of_mem_listMember
      exact List.forall_mem_map.mpr fun a _ => a.full_toJson
    · apply full_of_mem_listMember
      exact List.forall_mem_map.mpr ih

theorem decodeMembers_append {first : Dict Json} (h : decodeMembers n first = .ok m)
    (second : Dict Json) : decodeMembers n (first ++ second) = decodeMembers m second := by
  induction first generalizing n with
  | nil => cases h; rfl
  | cons e first ih =>
    obtain ⟨key, v⟩ := e
    rw [decodeMembers] at h
    obtain ⟨k, hk, h⟩ := bind_ok_iff.mp h
    rw [List.cons_append, decodeMembers, hk]
    exact ih h

theorem decodeMembers_singleton (n : Node) (key : String) (v : Json) :
    decodeMembers n [(key, v)] = decodeField n key v := by
  rw [decodeMembers]
  cases decodeField n key v <;> rfl

theorem decodeMembers_listMember {key : String} {items : List Json} (hnil : items = [] → n = m)
    (h : decodeField n key (.arr items) = .ok m) :
    decodeMembers n (listMember key items) = .ok m := by
  unfold listMember
  split
  · rename_i hempty
    rw [hnil (List.isEmpty_iff.mp hempty)]
    rfl
  · rw [decodeMembers_singleton, h]

theorem decodeMembers_attributes (n : Node) :
    decodeMembers {} (listMember "attributes" (n.attributes.map (·.toJson))) =
      .ok { attributes := n.attributes } := by
  have h : Decode.list Attribute.decode (.arr (n.attributes.map (·.toJson))) = .ok n.attributes :=
    readsBack_list Attribute.readsBack n.attributes
  apply decodeMembers_listMember
  · intro hnil
    rw [List.map_eq_nil_iff.mp hnil]
  · rw [decodeField, if_neg (by decide), decodeOwn, h]
    rfl

theorem decodeMembers_children (n : Node) (h : decodeAll (n.children.map toJson) = .ok n.children) :
    decodeMembers { attributes := n.attributes } (listMember "children" (n.children.map toJson)) =
      .ok { attributes := n.attributes, children := n.children } := by
  apply decodeMembers_listMember
  · intro hnil
    rw [List.map_eq_nil_iff.mp hnil]
  · rw [decodeField, if_pos rfl, h]
    rfl

theorem decodeMembers_name (n : Node) :
    decodeMembers { attributes := n.attributes, children := n.children }
      (textMember "name" n.name) =
        .ok { name := n.name, attributes := n.attributes, children := n.children } := by
  cases n.name <;> rfl

theorem decodeMembers_value (n : Node) :
    decodeMembers { name := n.name, attributes := n.attributes, children := n.children }
      (textMember "value" n.value) = .ok n := by
  obtain ⟨name, _ | value, attributes, children⟩ := n <;> rfl

/-- The parts that are left out are the ones that a tree to be read starts with. -/
theorem readsBack : ReadsBack decode toJson := by
  intro n
  induction n using childInduction with
  | step n ih =>
    have hall : decodeAll (n.children.map toJson) = .ok n.children := by
      rw [decodeAll_eq_mapM]
      exact mapM_map_ok ih
    rw [toJson_eq, decode]
    have hattributes := decodeMembers_attributes n
    have hchildren := (decodeMembers_append hattributes _).trans (decodeMembers_children n hall)
    have hname := (decodeMembers_append hchildren _).trans (decodeMembers_name n)
    exact (decodeMembers_append hname _).trans (decodeMembers_value n)

/--
What is written for a tree has no null and no empty list at any level, and exactly the tree is read
back from it.
-/
theorem full_and_decode_toJson (n : Node) : n.toJson.Full ∧ decode n.toJson = .ok n :=
  ⟨full_toJson n, readsBack n⟩

end Node

end Shorthand
