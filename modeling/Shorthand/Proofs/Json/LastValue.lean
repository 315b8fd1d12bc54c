import Shorthand.Proofs.Json.Merge

/-! # The last value under a key

Merged layers hold under a key the last value that is not null, unless that value is an object,
which is merged with what came before. So a reader that accepts no objects reads the same from the
merged layers as from the last value.
-/

namespace Shorthand.Json

variable {α : Type} {layers : List Json} {key : String} {v w : Json}

theorem isObj_iff : v.isObj ↔ ∃ members, v = .obj members := by
  cases v <;> simp [isObj]

def value? (v : Json) (key : String) : Option Json :=
  (v.get? key).filter (!·.isNull)

/-- The last value that is not null under a key. Layers that are no objects have none. -/
def lastValue? (layers : List Json) (key : String) : Option Json :=
  layers.reverse.findSome? (·.value? key)

theorem value?_eq_some_iff : v.value? key = some w ↔ v.get? key = some w ∧ w.isNull = false := by
  simp [value?, Option.filter_eq_some_iff]

theorem value?_eq_none_iff : v.value? key = none ↔ ∀ w ∈ v.get? key, w.isNull := by
  simp [value?, Option.filter_eq_none_iff]

theorem lastValue?_append (first second : List Json) (key : String) :
    lastValue? (first ++ second) key = (lastValue? second key).or (lastValue? first key) := by
  rw [lastValue?, List.reverse_append, List.findSome?_append]; rfl

theorem lastValue?_singleton (v : Json) (key : String) : lastValue? [v] key = v.value? key := by
  rw [lastValue?, List.reverse_singleton, List.findSome?_singleton]

theorem lastValue?_append_singleton (layers : List Json) (v : Json) (key : String) :
    lastValue? (layers ++ [v]) key = (v.value? key).or (lastValue? layers key) := by
  rw [lastValue?_append, lastValue?_singleton]

theorem exists_mem_of_lastValue? (h : lastValue? layers key = some w) :
    ∃ layer ∈ layers, layer.value? key = some w := by
  obtain ⟨layer, hl, hw⟩ := List.exists_of_findSome?_eq_some h
  exact ⟨layer, List.mem_reverse.mp hl, hw⟩

theorem exists_eq_append_of_lastValue? (h : lastValue? layers key = some w) :
    ∃ before layer after, layers = before ++ layer :: after ∧ layer.value? key = some w ∧
      ∀ later ∈ after, later.value? key = none := by
  obtain ⟨after, layer, before, hl, hw, hn⟩ := List.findSome?_eq_some_iff.mp h
  refine ⟨before.reverse, layer, after.reverse, ?_, hw, ?_⟩
  · simpa using congrArg List.reverse hl
  · exact fun later hl => hn later (List.mem_reverse.mp hl)

inductive Alike : Option Json → Option Json → Prop where
  | same (v : Option Json) : Alike v v
  | objects (d e : Dict Json) : Alike (some (.obj d)) (some (.obj e))

theorem Alike.bind_eq {a b : Option Json} (h : Alike a b) {f : Json → Option α}
    (hf : ∀ d, f (.obj d) = none) : a.bind f = b.bind f := by
  cases h with
  | same => rfl
  | objects d e => exact (hf d).trans (hf e).symm

theorem alike_mergeMember {a b : Option Json} (h : Alike a b) (w : Json) :
    Alike (mergeMember a w) (((some w).filter (!·.isNull)).or b) := by
  cases hw : w.isNull with
  | true =>
    obtain rfl := isNull_iff.mp hw
    rw [mergeMember_null]
    exact h
  | false =>
    have hs : ((some w).filter (!·.isNull)).or b = some w := by simp [Option.filter, hw]
    rw [hs]
    cases a with
    | none => simpa [mergeMember, hw] using Alike.same (some w)
    | some old =>
      rcases mergeInto_cases old w with rfl | ⟨d, e, rfl, rfl⟩ | ⟨-, -, hm⟩
      · cases hw
      · rw [mergeMember, mergeInto_obj_obj]
        exact .objects _ e
      · rw [mergeMember, hm]
        exact .same _

/-- Merged layers hold the last value under a key, or an object where that is one. -/
theorem alike_lastValue? (hl : ∀ v ∈ layers, v.Ordered) (key : String) :
    Alike ((mergeLayers layers).get? key) (lastValue? layers key) := by
  induction layers using List.reverseRecOn with
  | nil => exact .same none
  | append_singleton layers v ih =>
    have ih := ih fun w hw => hl w (List.mem_append_left _ hw)
    rw [mergeLayers_append_singleton, lastValue?_append_singleton]
    cases hv : v.isObj with
    | false =>
      have hn : v.value? key = none := by rw [value?, get?_eq_none_of_not_isObj hv]; rfl
      simpa [hn] using ih
    | true =>
      obtain ⟨e, rfl⟩ := isObj_iff.mp hv
      obtain ⟨d, hd⟩ := isObj_iff.mp (isObj_mergeLayers layers)
      have he : Dict.Sorted e := (hl _ (by simp)).sorted
      rw [hd, get?_obj] at ih
      rw [if_pos rfl, hd, mergeInto_obj_obj, get?_obj, get?_mergeMembers he, value?, get?_obj]
      cases Dict.get? e key with
      | none => exact ih
      | some w => exact alike_mergeMember ih w

/-- A reader that accepts no objects reads the last value from merged layers. -/
theorem bind_get?_mergeLayers (hl : ∀ v ∈ layers, v.Ordered) {f : Json → Option α}
    (hf : ∀ d, f (.obj d) = none) (key : String) :
    ((mergeLayers layers).get? key).bind f = (lastValue? layers key).bind f :=
  (alike_lastValue? hl key).bind_eq hf

end Shorthand.Json
