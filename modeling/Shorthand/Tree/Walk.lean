import Shorthand.Tree.Basic

/-! # Walks

A walk visits a node, then its children as the visit left them. A visitor may carry a state along.
-/

namespace Shorthand.Node

/-- Changes a node and the state it carries along. -/
abbrev Visitor (σ : Type) := Node → σ → Node × σ

/--
Visits a tree from its root. The walk gives up below `depth` levels, since a visitor may add
children without end.
-/
def walk (visit : Visitor σ) : Nat → Node → StateT σ Option Node
  | 0, _ => fun _ => none
  | depth + 1, n => do
    let n ← fun s => some (visit n s)
    let children ← n.children.mapM (walk visit depth)
    return { n with children }

/-- What a visitor without state leaves of a tree that it makes no higher. -/
def walked (f : Node → Node) (tree : Node) : Node :=
  ((walk (fun n s => (f n, s)) tree.height tree ()).map (·.1)).getD tree

mutual

/-- Changes the last node in preorder. -/
def modifyLast (f : Node → Node) : Node → Node
  | ⟨name, value, attributes, children⟩ =>
    if children.isEmpty then f ⟨name, value, attributes, children⟩
    else ⟨name, value, attributes, modifyLastOf f children⟩

def modifyLastOf (f : Node → Node) : List Node → List Node
  | [] => []
  | [n] => [n.modifyLast f]
  | n :: m :: nodes => n :: modifyLastOf f (m :: nodes)

end

end Shorthand.Node
