import Shorthand.Proofs.Json.Regroup

/-! # Merging again

A merge absorbs both of its sides, and merged layers may stand as one layer in the place of all of
them. Each of these is a merge done in another order: a value over itself changes nothing, and
neither it nor an empty object at the bottom can clash.
-/

namespace Shorthand.Json

variable {a b c o v : Json} {layers : List Json}

theorem not_clash_of_eq (h : b = a ∨ b = c) (path : List String) : ¬ Clash a b c path := by
  rintro ⟨⟨d, hd⟩, ⟨w, hw, -, ho⟩, e, he⟩
  rcases h with rfl | rfl
  · rw [← Option.some.inj (hd.symm.trans hw)] at ho
    cases ho
  · rw [← Option.some.inj (he.symm.trans hw)] at ho
    cases ho

theorem not_clash_empty (hv : v.isObj) (o : Json) (path : List String) :
    ¬ Clash (.obj []) v o path := by
  cases path with
  | nil => simp [clash_nil_iff, hv]
  | cons key path => simp [clash_cons_iff]

/-- A merge absorbs its overlay. -/
theorem mergeInto_mergeInto_overlay (ha : a.Ordered) (ho : o.Ordered) :
    mergeInto (mergeInto a o) o = mergeInto a o := by
  rw [mergeInto_assoc ha ho ho (not_clash_of_eq (Or.inr rfl)), mergeInto_self ho]

theorem mergeInto_mergeInto_self (ha : a.Ordered) (ho : o.Ordered) :
    mergeInto a (mergeInto a o) = mergeInto a o := by
  rw [← mergeInto_assoc ha ha ho (not_clash_of_eq (Or.inl rfl)), mergeInto_self ha]

theorem mergeLayers_append_mergeLayers (hl : ∀ v ∈ layers, v.Ordered) (ho : o.Ordered) :
    mergeLayers (layers ++ [mergeLayers (layers ++ [o])]) = mergeLayers (layers ++ [o]) := by
  have ha : (Json.mergeLayers layers).Ordered := .mergeLayers hl
  rw [mergeLayers_append_singleton, if_pos (isObj_mergeLayers _), mergeLayers_append_singleton]
  split
  · exact mergeInto_mergeInto_self ha ho
  · exact mergeInto_self ha

theorem mergeLayers_append (xs ys : List Json) :
    mergeLayers (xs ++ ys) = (ys.filter isObj).foldl mergeInto (mergeLayers xs) := by
  rw [mergeLayers, mergeLayers, List.filter_append, List.foldl_append]

theorem empty_mergeInto_mergeLayers (hl : ∀ v ∈ layers, v.Ordered) :
    mergeInto (.obj []) (mergeLayers layers) = mergeLayers layers := by
  induction layers using List.reverseRecOn with
  | nil => rfl
  | append_singleton layers v ih =>
    obtain ⟨hl, hv⟩ := List.forall_mem_append.mp hl
    rw [mergeLayers_append_singleton]
    split
    · have hm : (mergeLayers layers).Ordered := .mergeLayers hl
      have hv : v.Ordered := hv v (List.mem_singleton_self v)
      rw [← mergeInto_assoc ordered_obj_nil hm hv (not_clash_empty (isObj_mergeLayers layers) v),
        ih hl]
    · exact ih hl

/-- Merged layers count as one layer that stands for all of them. -/
theorem mergeLayers_cons_merged {xs : List Json} (hx : ∀ v ∈ xs, v.Ordered) (ys : List Json) :
    mergeLayers (mergeLayers xs :: ys) = mergeLayers (xs ++ ys) := by
  have hone : mergeLayers [mergeLayers xs] = mergeLayers xs := by
    rw [← List.nil_append [mergeLayers xs], mergeLayers_append_singleton,
      if_pos (isObj_mergeLayers xs)]
    exact empty_mergeInto_mergeLayers hx
  rw [← List.singleton_append, mergeLayers_append, hone, mergeLayers_append]

/--
What has been merged may be merged again without any effect: the overlay once more over the result,
the result over its base, or merged layers as the first layer of the rest.
-/
theorem mergeInto_again :
    (∀ a o : Json, a.Ordered → o.Ordered →
      mergeInto (mergeInto a o) o = mergeInto a o ∧
        mergeInto a (mergeInto a o) = mergeInto a o) ∧
    ∀ xs ys : List Json, (∀ v ∈ xs ++ ys, v.Ordered) →
      mergeLayers ([mergeLayers xs] ++ ys) = mergeLayers (xs ++ ys) := by
  constructor
  · intro a o ha ho
    exact ⟨mergeInto_mergeInto_overlay ha ho, mergeInto_mergeInto_self ha ho⟩
  · intro xs ys hl
    exact mergeLayers_cons_merged (List.forall_mem_append.mp hl).1 ys

theorem mergeInto_again_nestedLayers :
    (∀ v ∈ nestedLayers ++ clashingLayers, v.Ordered) ∧
      (∃ a b c, nestedLayers = [a, b, c] ∧
        mergeInto (mergeInto a c) c = mergeInto a c ∧
        mergeInto b (mergeInto b c) = mergeInto b c) ∧
      mergeLayers ([mergeLayers nestedLayers] ++ clashingLayers) =
        mergeLayers (nestedLayers ++ clashingLayers) := by
  have hl : ∀ v ∈ nestedLayers ++ clashingLayers, v.Ordered := by decide
  obtain ⟨ha, hb, hc⟩ : Ordered _ ∧ Ordered _ ∧ Ordered _ := by
    simpa [nestedLayers] using (List.forall_mem_append.mp hl).1
  refine ⟨hl, ⟨_, _, _, rfl, ?_, ?_⟩, ?_⟩
  · exact (mergeInto_again.1 _ _ ha hc).1
  · exact (mergeInto_again.1 _ _ hb hc).2
  · exact mergeInto_again.2 _ _ hl

end Shorthand.Json
