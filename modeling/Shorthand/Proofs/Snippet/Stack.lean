import Shorthand.Proofs.Last
import Shorthand.Snippet.Registry

/-! # Registries upon registries

A registry put on another one overrides its exact names but comes after its patterns. So one more
layer wins with its names at the top of a registry and with its patterns at the bottom, and at
either end every name that resolved before still resolves.
-/

namespace Shorthand.Registry

variable {r : Registry} {name : String} {s : Snippet}

/-- The exact entry of the last layer that has the name. -/
def named? (r : Registry) (name : String) : Option Snippet :=
  (r.layers.filterMap (·.get? name)).getLast?

/-- The pattern entry of the first layer that matches the name. -/
def matched? (r : Registry) (name : String) : Option Snippet :=
  (r.layers.filterMap (·.matchPattern? name)).head?

theorem resolve_eq (r : Registry) (name : String) :
    r.resolve name = (r.named? name).or (r.matched? name) := by
  rw [resolve, named?, matched?, List.getLast?_filterMap, List.head?_filterMap]

theorem named?_eq_some_iff :
    r.named? name = some s ↔ LastGives (fun l s => l.get? name = some s) r.layers s := by
  obtain ⟨layers⟩ := r
  induction layers using List.reverseRecOn with
  | nil => simp [named?, not_lastGives_nil]
  | append_singleton layers l ih =>
    rw [lastGives_append_singleton, ← ih]
    simp only [named?, List.filterMap_append, List.getLast?_append]
    cases h : l.get? name <;> simp [h]

def stack (below above : Registry) : Registry :=
  ⟨below.layers ++ above.layers⟩

theorem named?_stack (below above : Registry) (name : String) :
    (below.stack above).named? name = (above.named? name).or (below.named? name) := by
  rw [stack, named?, List.filterMap_append, List.getLast?_append]; rfl

theorem matched?_stack (below above : Registry) (name : String) :
    (below.stack above).matched? name = (below.matched? name).or (above.matched? name) := by
  rw [stack, matched?, List.filterMap_append, List.head?_append]; rfl

/-- The upper registry is asked for an exact name, then the lower one for all it has. -/
theorem resolve_stack (below above : Registry) (name : String) :
    (below.stack above).resolve name =
      (above.named? name).or ((below.resolve name).or (above.resolve name)) := by
  rw [resolve_eq, named?_stack, matched?_stack, resolve_eq below, resolve_eq above]
  cases above.named? name with
  | some s => rfl
  | none => simp only [Option.none_or, Option.or_assoc]

theorem contains_stack (below above : Registry) (name : String) :
    (below.stack above).contains name = (below.contains name || above.contains name) := by
  simp only [contains, resolve_stack, Option.isSome_or]
  rw [resolve_eq above, Option.isSome_or]
  cases (above.named? name).isSome <;> cases (below.resolve name).isSome <;> rfl

theorem named?_singleton (l : Layer) (name : String) : named? ⟨[l]⟩ name = l.get? name := by
  rw [named?, List.filterMap_cons]
  cases l.get? name <;> rfl

theorem resolve_singleton (l : Layer) (name : String) :
    resolve ⟨[l]⟩ name = (l.get? name).or (l.matchPattern? name) := by
  rw [resolve_eq, named?_singleton, matched?, List.head?_filterMap, List.findSome?_singleton]

/--
One more layer, put last, is asked for its exact name before the registry and for its patterns
after it. Put first, it is asked for both after the exact names of the registry and before its
patterns. At either end, what resolved before still does.
-/
theorem resolve_one_more_layer (r : Registry) (l : Layer) (name : String) :
    resolve ⟨r.layers ++ [l]⟩ name =
        (l.get? name).or ((r.resolve name).or (l.matchPattern? name)) ∧
      resolve ⟨l :: r.layers⟩ name =
        (r.named? name).or ((l.get? name).or ((l.matchPattern? name).or (r.resolve name))) ∧
      (∀ s, r.named? name = some s ↔ LastGives (fun l s => l.get? name = some s) r.layers s) ∧
      (r.contains name → contains ⟨r.layers ++ [l]⟩ name ∧ contains ⟨l :: r.layers⟩ name) := by
  refine ⟨?_, ?_, fun s => named?_eq_some_iff, fun hr => ⟨?_, ?_⟩⟩
  · calc resolve ⟨r.layers ++ [l]⟩ name
        = (named? ⟨[l]⟩ name).or ((r.resolve name).or (resolve ⟨[l]⟩ name)) :=
          resolve_stack r ⟨[l]⟩ name
      _ = (l.get? name).or ((r.resolve name).or ((l.get? name).or (l.matchPattern? name))) := by
          rw [named?_singleton, resolve_singleton]
      _ = (l.get? name).or ((r.resolve name).or (l.matchPattern? name)) := by
          cases l.get? name <;> rfl
  · calc resolve ⟨l :: r.layers⟩ name
        = (r.named? name).or ((resolve ⟨[l]⟩ name).or (r.resolve name)) :=
          resolve_stack ⟨[l]⟩ r name
      _ = (r.named? name).or ((l.get? name).or ((l.matchPattern? name).or (r.resolve name))) := by
          rw [resolve_singleton, Option.or_assoc]
  · calc contains ⟨r.layers ++ [l]⟩ name
        = (r.contains name || contains ⟨[l]⟩ name) := contains_stack r ⟨[l]⟩ name
      _ = true := by rw [hr, Bool.true_or]
  · calc contains ⟨l :: r.layers⟩ name
        = (contains ⟨[l]⟩ name || r.contains name) := contains_stack ⟨[l]⟩ r name
      _ = true := by rw [hr, Bool.or_true]

def itemLayers : Registry :=
  ⟨[{ patterns := [(⟨"^item\\d+$"⟩, .literal "numbered")] },
    { names := [("item", .literal "one")], patterns := [(⟨"^item"⟩, .literal "some")] }]⟩

theorem resolve_one_more_layer_item :
    itemLayers.contains "item2" ∧
      resolve ⟨itemLayers.layers ++ [.ofPairs [("item2|item", .literal "two")]]⟩ "item2" =
        some (.literal "two") ∧
      resolve ⟨.ofPairs [("item2|item", .literal "two")] :: itemLayers.layers⟩ "item" =
        some (.literal "one") ∧
      contains ⟨.ofPairs [] :: itemLayers.layers⟩ "item2" := by
  have hc : itemLayers.contains "item2" := by decide
  refine ⟨hc, ?_, ?_, ((resolve_one_more_layer _ _ _).2.2.2 hc).2⟩
  · rw [(resolve_one_more_layer _ _ _).1]; rfl
  · rw [(resolve_one_more_layer _ _ _).2.1]; rfl

end Shorthand.Registry
