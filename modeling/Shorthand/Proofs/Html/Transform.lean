import Shorthand.Proofs.Html.Stages
import Shorthand.Proofs.Json.Ordered

/-! # What the transformation of a tree changes

Inserted text becomes the value of the last node in preorder, and class attributes get another
name where the addons ask for it. Nothing else changes.
-/

namespace Shorthand

section ModifyLast

variable {α β : Type} {f : α → α} {g : α → β}

theorem map_modifyLast_of_keeps (h : ∀ a, g (f a) = g a) (l : List α) :
    (l.modifyLast f).map g = l.map g := by
  rcases List.eq_nil_or_concat l with rfl | ⟨before, last, rfl⟩
  · rfl
  · rw [List.concat_eq_append, List.modifyLast_concat, List.map_append, List.map_append,
      List.map_singleton, List.map_singleton, h]

theorem map_modifyLast_of_const {b : β} (h : ∀ a, g (f a) = b) {l : List α} (hl : l ≠ []) :
    (l.modifyLast f).map g = (l.map g).dropLast ++ [b] := by
  obtain ⟨before, last, rfl⟩ := (List.eq_nil_or_concat l).resolve_left hl
  rw [List.concat_eq_append, List.modifyLast_concat, List.map_append, List.map_append,
    List.map_singleton, List.map_singleton, List.dropLast_concat, h]

end ModifyLast

namespace Html

open Node

variable {text : Option InsertedText} {addons : Dict Json} {tree : Node}

theorem wantsJsx_iff : wantsJsx addons = true ↔ addons.get? "jsx" = some (.bool true) := by
  rw [wantsJsx, beq_iff_eq, Json.bind_bool?_eq_some_iff]

def withText (t : InsertedText) (n : Node) : Node :=
  { n with value := some t.joined }

theorem insertText_some (t : InsertedText) (tree : Node) :
    insertText (some t) tree = tree.modifyLast (withText t) :=
  rfl

theorem transform_of_not_jsx (h : ¬ wantsJsx addons) :
    transform text addons tree = insertText text tree :=
  if_neg h

theorem labels_insertText_some (t : InsertedText) (tree : Node) :
    (insertText (some t) tree).preorder.map label =
      (tree.preorder.modifyLast (withText t)).map label := by
  rw [insertText_some]
  apply map_label_preorder_modifyLast
  exact fun _ => rfl

theorem skeleton_insertText : (insertText text tree).skeleton = tree.skeleton := by
  cases text with
  | none => rfl
  | some t =>
    rw [insertText_some]
    apply skeleton_modifyLast
    exact fun _ => rfl

theorem names_insertText :
    (insertText text tree).preorder.map (·.name) = tree.preorder.map (·.name) := by
  cases text with
  | none => rfl
  | some t =>
    rw [(map_label_eq_iff.mp (labels_insertText_some t tree)).1]
    apply map_modifyLast_of_keeps
    exact fun _ => rfl

theorem attributes_insertText :
    (insertText text tree).preorder.map (·.attributes) = tree.preorder.map (·.attributes) := by
  cases text with
  | none => rfl
  | some t =>
    rw [(map_label_eq_iff.mp (labels_insertText_some t tree)).2.2]
    apply map_modifyLast_of_keeps
    exact fun _ => rfl

theorem values_insertText_some (t : InsertedText) (tree : Node) :
    (insertText (some t) tree).preorder.map (·.value) =
      (tree.preorder.map (·.value)).dropLast ++ [some t.joined] := by
  rw [(map_label_eq_iff.mp (labels_insertText_some t tree)).2.1]
  apply map_modifyLast_of_const _ tree.preorder_ne_nil
  exact fun _ => rfl

theorem transform_keeps (text : Option InsertedText) (addons : Dict Json) (tree : Node) :
    (transform text addons tree).skeleton = (insertText text tree).skeleton ∧
    (transform text addons tree).preorder.map (·.name) =
      (insertText text tree).preorder.map (·.name) ∧
    (transform text addons tree).preorder.map (·.value) =
      (insertText text tree).preorder.map (·.value) := by
  by_cases hjsx : wantsJsx addons
  · have hlabels := map_label_preorder_relabel withClassName (insertText text tree)
    obtain ⟨hnames, hvalues, -⟩ := map_label_eq_iff.mp hlabels
    rw [transform_eq_relabel hjsx, hnames, hvalues, List.map_map, List.map_map]
    exact ⟨skeleton_relabel _ _, rfl, rfl⟩
  · rw [transform_of_not_jsx hjsx]
    exact ⟨rfl, rfl, rfl⟩

/--
The tree keeps its shape and its names. The last of its nodes in preorder gets the inserted text
for a value, lines being joined by line breaks, and no other value changes. With `jsx` among the
addons every attribute of the name `class` gets the name `className`; nothing else changes in
attributes.
-/
theorem transform_frame (text : Option InsertedText) (addons : Dict Json) (tree : Node) :
    (transform text addons tree).skeleton = tree.skeleton ∧
    (transform text addons tree).preorder.map (·.name) = tree.preorder.map (·.name) ∧
    (transform text addons tree).preorder.map (·.value) = (match text with
      | none => tree.preorder.map (·.value)
      | some (.single s) => (tree.preorder.map (·.value)).dropLast ++ [some s]
      | some (.lines ss) =>
        (tree.preorder.map (·.value)).dropLast ++ [some ("\n".intercalate ss)]) ∧
    (addons.get? "jsx" = some (.bool true) →
      (transform text addons tree).preorder.map (·.attributes) = tree.preorder.map fun n =>
        n.attributes.map fun a => if a.name = "class" then { a with name := "className" } else a) ∧
    (addons.get? "jsx" ≠ some (.bool true) →
      (transform text addons tree).preorder.map (·.attributes) =
        tree.preorder.map (·.attributes)) := by
  obtain ⟨hskeleton, hnames, hvalues⟩ := transform_keeps text addons tree
  refine ⟨hskeleton.trans skeleton_insertText, hnames.trans names_insertText, ?_, ?_, ?_⟩
  · rw [hvalues]
    match text with
    | none => rfl
    | some (.single s) => exact values_insertText_some (.single s) tree
    | some (.lines ss) => exact values_insertText_some (.lines ss) tree
  · intro hjsx
    have hlabels := map_label_preorder_relabel withClassName (insertText text tree)
    calc (transform text addons tree).preorder.map (·.attributes)
      _ = ((insertText text tree).preorder.map withClassName).map (·.attributes) := by
          rw [transform_eq_relabel (wantsJsx_iff.mpr hjsx), (map_label_eq_iff.mp hlabels).2.2]
      _ = ((insertText text tree).preorder.map (·.attributes)).map (·.map renameClass) := by
          rw [List.map_map, List.map_map]
          rfl
      _ = tree.preorder.map fun n => n.attributes.map renameClass := by
          rw [attributes_insertText, List.map_map]
          rfl
  · intro hjsx
    rw [transform_of_not_jsx (mt wantsJsx_iff.mp hjsx)]
    exact attributes_insertText

theorem transform_frame_jsxLines :
    let item := ((Node.named "b").withAttribute ⟨"class", some "x"⟩).withValue "old"
    let list := (((Node.named "a").withAttribute ⟨"class", none⟩).withAttribute
      ⟨"id", some "class"⟩).withChild (Node.group.withChild item)
    let result := transform (some (.lines ["v", "w"])) [("jsx", .bool true)] list
    result.skeleton = list.skeleton ∧
    result.preorder.map (·.value) = [none, none, some "v\nw"] ∧
    result.preorder.map (·.attributes) =
      [[⟨"className", none⟩, ⟨"id", some "class"⟩], [], [⟨"className", some "x"⟩]] := by
  intro item list result
  obtain ⟨hskeleton, -, hvalues, hjsx, -⟩ :=
    transform_frame (some (.lines ["v", "w"])) [("jsx", .bool true)] list
  exact ⟨hskeleton, hvalues.trans (by decide), (hjsx rfl).trans (by decide)⟩

end Html

end Shorthand
