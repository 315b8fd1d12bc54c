import Shorthand.Html.Stages
import Shorthand.Proofs.Tree.Visit

/-! # Markup stages on siblings

The stages walk a tree and change labels only, so they are relabellings. Only inserted text has to
find the last of several siblings. Without it every stage does to a group what it does to each of
its trees.
-/

namespace Shorthand.Html

open Node

theorem children_resolveNode (r : Registry) (n : Node) :
    (resolveNode r n).children = n.children := by
  unfold resolveNode
  cases r.snippet? n with
  | none => rfl
  | some s =>
    cases s with
    | literal template => dsimp only; split <;> rfl
    | _ => rfl

theorem resolveSnippets_eq_relabel (r : Registry) :
    resolveSnippets r = relabel (resolveNode r) :=
  funext (walked_eq_relabel (children_resolveNode r))

theorem resolveVariables_eq_relabel (vars : Dict String) :
    resolveVariables vars = relabel (substituteIn vars) :=
  funext (walked_eq_relabel fun _ => rfl)

theorem transform_eq_relabel {addons : Dict Json} (h : wantsJsx addons)
    (text : Option InsertedText) (tree : Node) :
    transform text addons tree = (insertText text tree).relabel withClassName := by
  have hkeep : ∀ n, (withClassName n).children = n.children := fun _ => rfl
  rw [transform, if_pos h, walked_eq_relabel hkeep]

theorem resolveSnippets_actsOnEach (r : Registry) :
    ActsOnEach (resolveSnippets r) (resolveSnippets r) := by
  have hgroup : ∀ children, resolveNode r { children } = { children } := fun _ => rfl
  rw [resolveSnippets_eq_relabel]
  apply relabel_actsOnEach
  constructor <;> intro children <;> rw [hgroup]

theorem resolveVariables_actsOnEach (vars : Dict String) :
    ActsOnEach (resolveVariables vars) (resolveVariables vars) := by
  rw [resolveVariables_eq_relabel]
  apply relabel_actsOnEach
  constructor <;> intro children <;> rfl

theorem transform_actsOnEach (addons : Dict Json) :
    ActsOnEach (transform none addons) (transform none addons) := by
  by_cases hjsx : wantsJsx addons = true
  · have hrename : transform none addons = relabel withClassName :=
      funext (transform_eq_relabel hjsx none)
    rw [hrename]
    apply relabel_actsOnEach
    constructor <;> intro children <;> rfl
  · have hid : transform none addons = id := by
      funext tree
      exact if_neg hjsx
    rw [hid]
    exact .id

end Shorthand.Html
