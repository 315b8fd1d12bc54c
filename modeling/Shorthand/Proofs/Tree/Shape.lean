import Mathlib.Data.List.Basic
import Mathlib.Data.List.ModifyLast
import Shorthand.Proofs.Tree.Walk

/-! # Labels and shape of a tree

A tree is its shape together with the labels of its nodes in preorder. A relabelling changes the
labels one by one, a change of the last node only the last of them, and both keep the shape.
-/

namespace Shorthand.Node

variable {f : Node → Node} {n c : Node}

/-- A property holds of every tree if it passes from the children of a node to the node. -/
theorem childInduction {P : Node → Prop} (step : ∀ n, (∀ c ∈ n.children, P c) → P n)
    (n : Node) : P n :=
  step n fun c _ => childInduction step c
termination_by sizeOf n
decreasing_by
  rename_i hc
  have hlt := List.sizeOf_lt_of_mem hc
  cases n
  simp only [mk.sizeOf_spec] at hlt ⊢
  omega

def label (n : Node) : Option String × Option String × List Attribute :=
  (n.name, n.value, n.attributes)

theorem map_label_eq_iff {as bs : List Node} : as.map label = bs.map label ↔
    as.map (·.name) = bs.map (·.name) ∧ as.map (·.value) = bs.map (·.value) ∧
      as.map (·.attributes) = bs.map (·.attributes) := by
  induction as generalizing bs with
  | nil => cases bs <;> simp
  | cons a as ih =>
    cases bs with
    | nil => simp
    | cons b bs =>
      simp only [List.map_cons, List.cons.injEq, ih, label, Prod.mk.injEq]
      tauto

def skeleton (n : Node) : Node :=
  n.relabel fun _ => .group

theorem preorderAll_eq_flatMap (nodes : List Node) : preorderAll nodes = nodes.flatMap preorder := by
  induction nodes with
  | nil => rfl
  | cons n nodes ih => rw [preorderAll, ih, List.flatMap_cons]

theorem preorder_eq (n : Node) : n.preorder = n :: n.children.flatMap preorder := by
  cases n
  rw [preorder, preorderAll_eq_flatMap]

theorem preorder_ne_nil (n : Node) : n.preorder ≠ [] := by
  rw [preorder_eq]
  exact List.cons_ne_nil _ _

theorem relabel_eq (f : Node → Node) (n : Node) :
    n.relabel f = { f n with children := n.children.map (relabel f) } := by
  cases n
  rw [relabel, relabelAll_eq_map]

theorem skeleton_eq (n : Node) : n.skeleton = { children := n.children.map skeleton } :=
  relabel_eq _ n

theorem height_pos (n : Node) : 0 < n.height := by
  cases n
  rw [height]
  exact Nat.succ_pos _

theorem heightAll_le_iff {nodes : List Node} {k : Nat} :
    heightAll nodes ≤ k ↔ ∀ n ∈ nodes, n.height ≤ k := by
  induction nodes with
  | nil => simp [heightAll]
  | cons n nodes ih => rw [heightAll, Nat.max_le, ih, List.forall_mem_cons]

theorem height_le_succ_iff {k : Nat} : n.height ≤ k + 1 ↔ ∀ c ∈ n.children, c.height ≤ k := by
  cases n
  rw [height, Nat.succ_le_succ_iff, heightAll_le_iff]

theorem map_label_preorder_relabel (f : Node → Node) (n : Node) :
    (n.relabel f).preorder.map label = (n.preorder.map f).map label := by
  induction n using childInduction with
  | step n ih =>
    simp only [List.map_map] at ih ⊢
    rw [relabel_eq, preorder_eq, preorder_eq n, List.map_cons, List.map_cons, List.map_flatMap,
      List.map_flatMap, List.flatMap_map]
    exact congrArg ((f n).label :: ·) (List.flatMap_congr ih)

theorem skeleton_relabel (f : Node → Node) (n : Node) : (n.relabel f).skeleton = n.skeleton := by
  induction n using childInduction with
  | step n ih =>
    rw [relabel_eq, skeleton_eq, skeleton_eq n, List.map_map]
    exact congrArg (fun children => ({ children } : Node)) (List.map_congr_left ih)

theorem modifyLast_of_childless (h : n.children = []) : n.modifyLast f = f n := by
  cases n
  subst h
  rfl

theorem modifyLastOf_concat (f : Node → Node) (nodes : List Node) (c : Node) :
    modifyLastOf f (nodes ++ [c]) = nodes ++ [c.modifyLast f] := by
  induction nodes with
  | nil => rfl
  | cons n nodes ih =>
    cases nodes with
    | nil => rfl
    | cons m nodes => exact congrArg (n :: ·) ih

theorem modifyLast_concat {nodes : List Node} (h : n.children = nodes ++ [c]) :
    n.modifyLast f = { n with children := nodes ++ [c.modifyLast f] } := by
  cases n
  subst h
  rw [modifyLast, modifyLastOf_concat, if_neg (by simp)]

/-- Down the last children, down to one without any. -/
theorem lastInduction {P : Node → Prop} (childless : ∀ n, n.children = [] → P n)
    (concat : ∀ n nodes c, n.children = nodes ++ [c] → P c → P n) (n : Node) : P n := by
  induction n using childInduction with
  | step n ih =>
    rcases List.eq_nil_or_concat n.children with h | ⟨nodes, c, h⟩
    · exact childless n h
    · rw [List.concat_eq_append] at h
      exact concat n nodes c h (ih c (by simp [h]))

theorem skeleton_modifyLast (hf : ∀ m, (f m).children = m.children) (n : Node) :
    (n.modifyLast f).skeleton = n.skeleton := by
  induction n using lastInduction with
  | childless n h => rw [modifyLast_of_childless h, skeleton_eq, skeleton_eq n, hf]
  | concat n nodes c h ih =>
    rw [modifyLast_concat h, skeleton_eq, skeleton_eq n, h, List.map_append, List.map_append,
      List.map_singleton, List.map_singleton, ih]

/-- The node that changes is the last one in preorder. -/
theorem map_label_preorder_modifyLast (hf : ∀ m, (f m).children = m.children) (n : Node) :
    (n.modifyLast f).preorder.map label = (n.preorder.modifyLast f).map label := by
  induction n using lastInduction with
  | childless n h =>
    rw [modifyLast_of_childless h, preorder_eq, preorder_eq n, hf, h]
    rfl
  | concat n nodes c h ih =>
    have hlast : n.preorder.modifyLast f =
        n :: nodes.flatMap preorder ++ c.preorder.modifyLast f := by
      rw [preorder_eq, h, List.flatMap_append, List.flatMap_singleton, ← List.cons_append]
      exact List.modifyLast_append_of_right_ne_nil f _ c.preorder c.preorder_ne_nil
    rw [hlast, modifyLast_concat h, preorder_eq, List.flatMap_append, List.flatMap_singleton,
      ← List.cons_append, List.map_append, List.map_append, ih]
    rfl

end Shorthand.Node
