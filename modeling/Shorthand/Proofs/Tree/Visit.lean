import Shorthand.Proofs.Tree.Shape

/-! # The visits of a walk

A visitor changes the children that a walk is about to go to. What a walk visits is therefore the
tree that it leaves behind: the visits are that tree in preorder, and what they were given are the
tree itself and the children that earlier visits left. A visitor that keeps children visits the
nodes of the tree it is given.
-/

namespace Shorthand.Node

variable {σ : Type} {visit : Visitor σ} {n n' : Node} {nodes nodes' : List Node} {s s' : σ}
  {depth : Nat}

section Run

variable {α β : Type} {f g : α → StateT σ Option β} {a : α} {as : List α} {r : List β × σ}

theorem bind_run_iff {m : StateT σ Option α} {k : α → StateT σ Option β} {r : β × σ} :
    (m >>= k) s = some r ↔ ∃ a t, m s = some (a, t) ∧ k a t = some r := by
  change (m s).bind (fun (a, t) => k a t) = some r ↔ _
  rw [Option.bind_eq_some_iff, Prod.exists]

theorem pure_run_iff {b : β} {r : β × σ} : (pure b : StateT σ Option β) s = some r ↔ r = (b, s) :=
  Option.some_inj.trans eq_comm

theorem mapM_cons_iff : (a :: as).mapM f s = some r ↔ ∃ b t, f a s = some (b, t) ∧
    ∃ bs t', as.mapM f t = some (bs, t') ∧ r = (b :: bs, t') := by
  simp only [List.mapM_cons, bind_run_iff, pure_run_iff]

theorem mapM_mono (h : ∀ a ∈ as, ∀ s r, f a s = some r → g a s = some r)
    (hr : as.mapM f s = some r) : as.mapM g s = some r := by
  induction as generalizing s r with
  | nil => exact hr
  | cons a as ih =>
    obtain ⟨ha, has⟩ := List.forall_mem_cons.mp h
    obtain ⟨b, t, hb, bs, t', hbs, hr⟩ := mapM_cons_iff.mp hr
    exact mapM_cons_iff.mpr ⟨b, t, ha s _ hb, bs, t', ih has hbs, hr⟩

theorem exists_mapM (h : ∀ a ∈ as, ∀ s, ∃ r, f a s = some r) (s : σ) :
    ∃ r, as.mapM f s = some r := by
  induction as generalizing s with
  | nil => exact ⟨([], s), rfl⟩
  | cons a as ih =>
    obtain ⟨ha, has⟩ := List.forall_mem_cons.mp h
    obtain ⟨⟨b, t⟩, hb⟩ := ha s
    obtain ⟨⟨bs, t'⟩, hbs⟩ := ih has t
    exact ⟨(b :: bs, t'), mapM_cons_iff.mpr ⟨b, t, hb, bs, t', hbs, rfl⟩⟩

theorem mapM_eq_map {h : α → β} (hf : ∀ a ∈ as, ∀ s, f a s = some (h a, s)) (s : σ) :
    as.mapM f s = some (as.map h, s) := by
  induction as generalizing s with
  | nil => rfl
  | cons a as ih =>
    obtain ⟨ha, has⟩ := List.forall_mem_cons.mp hf
    exact mapM_cons_iff.mpr ⟨h a, s, ha s, as.map h, s, ih has s, rfl⟩

end Run

theorem walk_succ_iff {r : Node × σ} : walk visit (depth + 1) n s = some r ↔ ∃ children s',
    (visit n s).1.children.mapM (walk visit depth) (visit n s).2 = some (children, s') ∧
      r = ({ (visit n s).1 with children }, s') := by
  have hvisit : walk visit (depth + 1) n s =
      (do
        let children ← (visit n s).1.children.mapM (walk visit depth)
        return { (visit n s).1 with children } : StateT σ Option Node) (visit n s).2 := rfl
  simp only [hvisit, bind_run_iff, pure_run_iff]

/-- More depth changes no walk that ends. -/
theorem walk_of_le {more : Nat} {r : Node × σ} (hle : depth ≤ more)
    (h : walk visit depth n s = some r) : walk visit more n s = some r := by
  induction depth generalizing more n s r with
  | zero => cases h
  | succ depth ih =>
    obtain ⟨more, rfl⟩ : ∃ k, more = k + 1 := ⟨more - 1, by omega⟩
    obtain ⟨children, s', hchildren, hr⟩ := walk_succ_iff.mp h
    have hmore := mapM_mono (fun c _ t r hc => ih (Nat.le_of_succ_le_succ hle) hc) hchildren
    exact walk_succ_iff.mpr ⟨children, s', hmore, hr⟩

/-- A call of a visitor: the node that it is given and what it makes of it. -/
structure Visit where
  given : Node
  left : Node

/-- The visitor that also notes its visits. -/
def Visitor.logged (visit : Visitor σ) : Visitor (σ × List Visit) := fun n s =>
  let (left, t) := visit n s.1
  (left, t, s.2 ++ [⟨n, left⟩])

/--
The trees of a list are walked one after the other. After a node come the children that its visit
left, then the trees that follow it.
-/
inductive Walks (visit : Visitor σ) : List Node → σ → List Visit → List Node → σ → Prop where
  | nil (s : σ) : Walks visit [] s [] [] s
  | cons (n : Node) (s : σ) {nodes children nodes' : List Node} {below after : List Visit}
    {t s' : σ} (hbelow : Walks visit (visit n s).1.children (visit n s).2 below children t)
    (hafter : Walks visit nodes t after nodes' s') :
    Walks visit (n :: nodes) s (⟨n, (visit n s).1⟩ :: (below ++ after))
      ({ (visit n s).1 with children } :: nodes') s'

namespace Walks

variable {visits : List Visit}

theorem length_eq (h : Walks visit nodes s visits nodes' s') : nodes'.length = nodes.length := by
  induction h with
  | nil => rfl
  | cons _ _ _ _ _ ih => rw [List.length_cons, List.length_cons, ih]

theorem append {first second first' second' : List Node} {visits₁ visits₂ : List Visit} {t : σ}
    (h : Walks visit first s visits₁ first' t) (h' : Walks visit second t visits₂ second' s') :
    Walks visit (first ++ second) s (visits₁ ++ visits₂) (first' ++ second') s' := by
  induction h with
  | nil => exact h'
  | cons n s hbelow _ _ ih =>
    rw [List.cons_append, List.cons_append, List.append_assoc]
    exact .cons n s hbelow (ih h')

theorem map_left (h : Walks visit nodes s visits nodes' s') :
    visits.map (fun v => (v.left.label, v.left.children.length)) =
      (nodes'.flatMap preorder).map fun m => (m.label, m.children.length) := by
  induction h with
  | nil => rfl
  | cons n s hbelow _ ihbelow ihafter =>
    rw [List.map_cons, List.map_append, ihbelow, ihafter, List.flatMap_cons, preorder_eq,
      List.cons_append, List.map_cons, List.map_append, hbelow.length_eq]
    rfl

open scoped List in
theorem map_given_perm (h : Walks visit nodes s visits nodes' s') :
    (visits.map (·.given)).Perm (nodes ++ visits.flatMap (·.left.children)) := by
  induction h with
  | nil => exact .nil
  | @cons n s nodes _ _ below after _ _ _ _ ihbelow ihafter =>
    rw [List.map_cons, List.map_append, List.flatMap_cons, List.flatMap_append, List.cons_append]
    apply List.Perm.cons
    calc below.map (·.given) ++ after.map (·.given)
      _ ~ ((visit n s).1.children ++ below.flatMap (·.left.children)) ++
          (nodes ++ after.flatMap (·.left.children)) := ihbelow.append ihafter
      _ ~ nodes ++ (((visit n s).1.children ++ below.flatMap (·.left.children)) ++
          after.flatMap (·.left.children)) := List.perm_append_comm_assoc ..
      _ = nodes ++ ((visit n s).1.children ++ (below.flatMap (·.left.children) ++
          after.flatMap (·.left.children))) := by rw [List.append_assoc]

theorem sublist_map_given (h : Walks visit nodes s visits nodes' s') :
    nodes.Sublist (visits.map (·.given)) := by
  induction h with
  | nil => exact .slnil
  | cons n s _ _ _ ih =>
    rw [List.map_cons, List.map_append]
    exact .cons_cons n (ih.trans (List.sublist_append_right _ _))

theorem children_sublist (h : Walks visit nodes s visits nodes' s') :
    ∀ before v after, visits = before ++ v :: after →
      v.left.children.Sublist (after.map (·.given)) := by
  induction h with
  | nil => simp
  | cons n s hbelow _ ihbelow ihafter =>
    intro before v after hvisits
    rcases List.cons_eq_append_iff.mp hvisits with ⟨rfl, hv⟩ | ⟨before, rfl, hv⟩
    · cases hv
      rw [List.map_append]
      exact hbelow.sublist_map_given.trans (List.sublist_append_left _ _)
    · rcases List.append_eq_append_iff.mp hv with ⟨rest, rfl, hrest⟩ | ⟨rest, hrest, hv⟩
      · exact ihafter rest v after hrest
      · rcases List.cons_eq_append_iff.mp hv with ⟨rfl, hv⟩ | ⟨rest, rfl, rfl⟩
        · exact ihafter [] v after hv.symm
        · rw [List.map_append]
          exact (ihbelow before v rest hrest).trans (List.sublist_append_left _ _)

theorem state_eq (h : Walks visit nodes s visits nodes' s') :
    s' = (visits.map (·.given)).foldl (fun s n => (visit n s).2) s := by
  induction h with
  | nil => rfl
  | cons n s _ _ ihbelow ihafter =>
    rw [List.map_cons, List.foldl_cons, List.map_append, List.foldl_append, ← ihbelow, ← ihafter]

theorem map_given_of_keeps (hkeep : ∀ n s, (visit n s).1.children = n.children)
    (h : Walks visit nodes s visits nodes' s') : visits.map (·.given) = nodes.flatMap preorder := by
  induction h with
  | nil => rfl
  | cons n s _ _ ihbelow ihafter =>
    rw [List.map_cons, List.map_append, ihbelow, ihafter, List.flatMap_cons, preorder_eq, hkeep]
    rfl

theorem map_skeleton_of_keeps (hkeep : ∀ n s, (visit n s).1.children = n.children)
    (h : Walks visit nodes s visits nodes' s') : nodes'.map skeleton = nodes.map skeleton := by
  induction h with
  | nil => rfl
  | cons n s _ _ ihbelow ihafter =>
    rw [List.map_cons, List.map_cons, ihafter, skeleton_eq, skeleton_eq n, ihbelow, hkeep]

end Walks

theorem exists_walks_of_mapM
    (hone : ∀ n s n' s', walk visit depth n s = some (n', s') → ∃ visits,
      Walks visit [n] s visits [n'] s' ∧
        ∀ seen, walk (Visitor.logged visit) depth n (s, seen) = some (n', s', seen ++ visits))
    (h : nodes.mapM (walk visit depth) s = some (nodes', s')) :
    ∃ visits, Walks visit nodes s visits nodes' s' ∧
      ∀ seen, nodes.mapM (walk (Visitor.logged visit) depth) (s, seen) =
        some (nodes', s', seen ++ visits) := by
  induction nodes generalizing s nodes' with
  | nil =>
    cases h
    refine ⟨[], .nil _, fun seen => ?_⟩
    rw [List.append_nil]
    rfl
  | cons n nodes ih =>
    obtain ⟨n', t, hn, rest, t', hrest, hr⟩ := mapM_cons_iff.mp h
    cases hr
    obtain ⟨first, hfirst, hlog⟩ := hone n s n' t hn
    obtain ⟨second, hsecond, hlogs⟩ := ih hrest
    refine ⟨first ++ second, hfirst.append hsecond, fun seen => ?_⟩
    rw [← List.append_assoc]
    exact mapM_cons_iff.mpr ⟨n', _, hlog seen, rest, _, hlogs (seen ++ first), rfl⟩

/-- Noting the visits of a walk changes nothing else of it. -/
theorem exists_walks (h : walk visit depth n s = some (n', s')) : ∃ visits,
    Walks visit [n] s visits [n'] s' ∧
      ∀ seen, walk (Visitor.logged visit) depth n (s, seen) = some (n', s', seen ++ visits) := by
  induction depth generalizing n s n' s' with
  | zero => cases h
  | succ depth ih =>
    obtain ⟨children, t, hchildren, hr⟩ := walk_succ_iff.mp h
    cases hr
    obtain ⟨below, hbelow, hlog⟩ := exists_walks_of_mapM (fun _ _ _ _ => ih) hchildren
    refine ⟨_, .cons n s hbelow (.nil s'), fun seen => ?_⟩
    rw [List.append_nil, List.append_cons]
    exact walk_succ_iff.mpr ⟨children, _, hlog _, rfl⟩

theorem exists_walk (hkeep : ∀ n s, (visit n s).1.children = n.children) (s : σ)
    (hn : n.height ≤ depth) : ∃ r, walk visit depth n s = some r := by
  induction depth generalizing n s with
  | zero => exact absurd hn (Nat.not_le_of_lt n.height_pos)
  | succ depth ih =>
    have hchildren : ∀ c ∈ (visit n s).1.children, ∀ t, ∃ r, walk visit depth c t = some r := by
      rw [hkeep]
      exact fun c hc t => ih t (height_le_succ_iff.mp hn c hc)
    obtain ⟨⟨children, s'⟩, h⟩ := exists_mapM hchildren (visit n s).2
    exact ⟨_, walk_succ_iff.mpr ⟨children, s', h, rfl⟩⟩

/-- A walk that changes labels only is a relabelling. -/
theorem walk_eq_relabel {f : Node → Node} (hf : ∀ m, (f m).children = m.children)
    (hn : n.height ≤ depth) (s : σ) :
    walk (fun m s => (f m, s)) depth n s = some (n.relabel f, s) := by
  induction depth generalizing n s with
  | zero => exact absurd hn (Nat.not_le_of_lt n.height_pos)
  | succ depth ih =>
    have hchildren : (f n).children.mapM (walk (fun m s => (f m, s)) depth) s =
        some (n.children.map (relabel f), s) := by
      rw [hf]
      exact mapM_eq_map (fun c hc t => ih (height_le_succ_iff.mp hn c hc) t) s
    exact walk_succ_iff.mpr ⟨_, s, hchildren, by rw [relabel_eq]⟩

theorem walked_eq_relabel {f : Node → Node} (hf : ∀ m, (f m).children = m.children) (n : Node) :
    n.walked f = n.relabel f := by
  rw [walked, walk_eq_relabel hf (Nat.le_refl n.height)]
  rfl

/--
A walk that ends has visited the nodes of the tree that it leaves, each once and in preorder, with
the labels and the numbers of children that the visitor left them. The visitor was given the tree
and, once each, the children that it left, those of a node after the node and in their order. If
the visitor leaves children alone, then the walk ends at any depth that the tree fits in, keeps the
shape of the tree and runs over its nodes in preorder.
-/
theorem walk_preorder (visit : Visitor σ) (tree : Node) (s : σ) :
    (∀ depth tree' s', walk visit depth tree s = some (tree', s') → ∃ visits : List Visit,
      walk (Visitor.logged visit) depth tree (s, []) = some (tree', s', visits) ∧
      visits.map (fun v => (v.left.label, v.left.children.length)) =
        tree'.preorder.map (fun n => (n.label, n.children.length)) ∧
      (visits.map (·.given)).Perm (tree :: visits.flatMap (·.left.children)) ∧
      ∀ before v after, visits = before ++ v :: after →
        v.left.children.Sublist (after.map (·.given))) ∧
    ((∀ n s, (visit n s).1.children = n.children) → ∃ tree', tree'.skeleton = tree.skeleton ∧
      ∀ depth, tree.height ≤ depth →
        walk visit depth tree s =
          some (tree', tree.preorder.foldl (fun s n => (visit n s).2) s)) := by
  constructor
  · intro depth tree' s' h
    obtain ⟨visits, hvisits, hlog⟩ := exists_walks h
    refine ⟨visits, hlog [], ?_, hvisits.map_given_perm, hvisits.children_sublist⟩
    rw [hvisits.map_left, List.flatMap_singleton]
  · intro hkeep
    obtain ⟨⟨tree', s'⟩, h⟩ := exists_walk hkeep s (Nat.le_refl tree.height)
    obtain ⟨visits, hvisits, -⟩ := exists_walks h
    have hgiven := hvisits.map_given_of_keeps hkeep
    have hskeleton := hvisits.map_skeleton_of_keeps hkeep
    rw [List.flatMap_singleton] at hgiven
    refine ⟨tree', List.singleton_injective hskeleton, fun depth hdepth => ?_⟩
    rw [← hgiven, ← hvisits.state_eq]
    exact walk_of_le hdepth h

def tidy : Visitor (List (Option String)) := fun n seen =>
  let left :=
    if n.name = some "ul" then { n with children := [] }
    else if n.name = some "p" then n.withChild (named "i")
    else n
  (left, seen ++ [n.name])

def untidy : Node :=
  (group.withChild ((named "ul").withChild (named "li"))).withChild
    ((named "p").withChild (named "b"))

theorem walk_preorder_tidy : ∃ tree' seen, ∃ visits : List Visit,
    walk (Visitor.logged tidy) 3 untidy ([], []) = some (tree', seen, visits) ∧
    seen = [none, some "ul", some "p", some "b", some "i"] ∧
    visits.map (fun v => (v.left.label, v.left.children.length)) =
      [((none, none, []), 2), ((some "ul", none, []), 0), ((some "p", none, []), 2),
        ((some "b", none, []), 0), ((some "i", none, []), 0)] ∧
    (visits.map (·.given)).Perm (untidy :: visits.flatMap (·.left.children)) := by
  have hwalk : walk tidy 3 untidy [] = some
      ((group.withChild (named "ul")).withChild
        (((named "p").withChild (named "b")).withChild (named "i")),
        [none, some "ul", some "p", some "b", some "i"]) := by rfl
  obtain ⟨visits, hlog, hleft, hgiven, -⟩ := (walk_preorder tidy untidy []).1 3 _ _ hwalk
  exact ⟨_, _, visits, hlog, rfl, hleft.trans rfl, hgiven⟩

end Shorthand.Node
