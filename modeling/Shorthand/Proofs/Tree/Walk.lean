import Shorthand.Tree.Walk

/-! # Stages that act on the trees of a group by themselves

Relabelling acts on the children of a node one by one. A relabelling that keeps groups therefore
acts on each tree of a group as it would on that tree alone.
-/

namespace Shorthand.Node

mutual

/-- Gives every node the name, the value and the attributes that `f` gives it. -/
def relabel (f : Node → Node) : Node → Node
  | ⟨name, value, attributes, children⟩ =>
    let n := f ⟨name, value, attributes, children⟩
    ⟨n.name, n.value, n.attributes, relabelAll f children⟩

def relabelAll (f : Node → Node) : List Node → List Node
  | [] => []
  | n :: nodes => n.relabel f :: relabelAll f nodes

end

variable {f : Node → Node}

theorem relabelAll_eq_map (f : Node → Node) (nodes : List Node) :
    relabelAll f nodes = nodes.map (relabel f) := by
  induction nodes with
  | nil => rfl
  | cons n nodes ih => rw [relabelAll, ih, List.map_cons]

structure KeepsGroups (f : Node → Node) : Prop where
  name : ∀ children, (f { children }).name = none
  value : ∀ children, (f { children }).value = none
  attributes : ∀ children, (f { children }).attributes = []

/-- Changes the trees of a group one by one, each to what `item` makes of it. -/
def ActsOnEach (stage item : Node → Node) : Prop :=
  ∀ children, stage { children } = { children := children.map item }

theorem relabel_actsOnEach (hf : KeepsGroups f) : ActsOnEach (relabel f) (relabel f) := by
  intro children
  rw [relabel, relabelAll_eq_map]
  simp only [hf.name, hf.value, hf.attributes]

namespace ActsOnEach

variable {stage stage' item item' : Node → Node}

protected theorem id : ActsOnEach id id := fun children => by
  rw [List.map_id, id]

theorem comp (h' : ActsOnEach stage' item') (h : ActsOnEach stage item) :
    ActsOnEach (stage' ∘ stage) (item' ∘ item) := fun children => by
  rw [Function.comp_apply, h, h', List.map_map]

end ActsOnEach

end Shorthand.Node
