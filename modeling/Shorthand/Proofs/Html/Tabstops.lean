import Shorthand.Proofs.Html.Format

/-! # Tabstops in the order of the document

Only a named element without value and children gets a tabstop, unless it is void, and the tabstop
stands alone between its tags. So the output is a text with such elements in it, and the tabstop
writer is asked for the numbers from one on, once for each of them in their order.
-/

namespace Shorthand.Html

abbrev FieldM (m : Type → Type) := Nat → Option String → m String

variable {m : Type → Type} [Monad m] {l : Layout} {ps qs : List Piece} {ns ms : List Node}

def Written.addM (p : Profile) (ask : FieldM m) (w : Written) : Piece → m Written
  | .tabstop => do
    let text ← ask (w.tabstops + 1) none
    return w.add p (fun _ _ => text) .tabstop
  | q => return w.add p Field.plain q

/-- The formatter for a writer of tabstops that may have effects. -/
def formatM (p : Profile) (ask : FieldM m) (options : FormatOptions) (tree : Node) : m String := do
  let w ← (Layout.pieces ⟨p, wantsPretty options⟩ 0 tree).foldlM (Written.addM p ask) {}
  return w.out

theorem Written.addM_pure [LawfulMonad m] (p : Profile) (field : Field) (w : Written) (q : Piece) :
    w.addM p (fun i placeholder => (pure (field i placeholder) : m String)) q =
      pure (w.add p field q) := by
  cases q with
  | tabstop => rw [addM, pure_bind]; rfl
  | _ => rfl

theorem formatM_pure [LawfulMonad m] (p : Profile) (dialect : String) (options : FormatOptions)
    (tree : Node) :
    formatM p (fun i placeholder => (pure (options.field i placeholder) : m String)) options tree =
      pure (format p dialect options tree) := by
  have hadd : Written.addM p (fun i placeholder => (pure (options.field i placeholder) : m String)) =
      fun w q => pure (w.add p options.field q) := by
    funext w q
    exact Written.addM_pure p options.field w q
  rw [formatM, hadd, List.foldlM_pure, pure_bind]
  rfl

/-- A named node without value and children, unless it is void. -/
def takesTabstop (n : Node) : Bool :=
  n.name.any (· ∉ ["br", "hr", "img", "input", "link", "meta"]) && n.value.isNone && n.children.isEmpty

namespace Layout

def element (l : Layout) (n : Node) (content : String) : String :=
  let name := l.profile.tagName (n.name.getD "")
  "<" ++ name ++ String.join (n.attributes.map l.attributeText) ++ ">" ++ content ++
    "</" ++ name ++ ">"

/-- A text, then elements with the given contents and the text that follows each. -/
def fill (l : Layout) (first : String) (rest : List (Node × String)) (contents : List String) :
    String :=
  first ++ String.join (List.zipWith (fun e content => l.element e.1 content ++ e.2) rest contents)

/-- Pieces in which tabstops stand only between the tags of certain nodes, one for each. -/
inductive Lays (l : Layout) : List Piece → List Node → Prop where
  | nil : Lays l [] []
  | plain {q : Piece} {ps : List Piece} {ns : List Node} (hq : q ≠ .tabstop) (h : Lays l ps ns) :
    Lays l (q :: ps) ns
  | stop (n : Node) {name : String} {ps : List Piece} {ns : List Node} (hn : n.name = some name)
    (h : Lays l ps ns) :
    Lays l (.text (l.openTag name n.attributes) :: .text ">" :: .tabstop ::
      .text ("</" ++ l.profile.tagName name ++ ">") :: ps) (n :: ns)

theorem Lays.append (h : Lays l ps ns) (h' : Lays l qs ms) : Lays l (ps ++ qs) (ns ++ ms) := by
  induction h with
  | nil => exact h'
  | plain hq _ ih => exact .plain hq ih
  | stop n hn _ ih => exact .stop n hn ih

theorem Lays.plain_append (hp : .tabstop ∉ ps) (h : Lays l qs ns) : Lays l (ps ++ qs) ns := by
  induction ps with
  | nil => exact h
  | cons q ps ih =>
    obtain ⟨hq, hps⟩ := not_or.mp (mt List.mem_cons.mpr hp)
    exact .plain (Ne.symm hq) (ih hps)

theorem Lays.append_plain (h : Lays l ps ns) (hq : .tabstop ∉ qs) : Lays l (ps ++ qs) ns := by
  have hqs : Lays l (qs ++ []) [] := .plain_append hq .nil
  rw [List.append_nil] at hqs
  exact List.append_nil ns ▸ h.append hqs

theorem takesTabstop_iff {name : String} {value : Option String} {attributes : List Attribute}
    {children : List Node} :
    takesTabstop ⟨some name, value, attributes, children⟩ ↔
      isVoid name value children = false ∧ value = none ∧ children = [] := by
  have hvoid : isVoid name none [] = false ↔ name ∉ voidElements := by simp [isVoid]
  constructor
  · intro h
    simp only [takesTabstop, Bool.and_eq_true, Option.isNone_iff_eq_none, List.isEmpty_iff] at h
    obtain ⟨⟨hname, rfl⟩, rfl⟩ := h
    exact ⟨hvoid.mpr (of_decide_eq_true hname), rfl, rfl⟩
  · rintro ⟨h, rfl, rfl⟩
    simpa [takesTabstop, voidElements] using hvoid.mp h

theorem tabstop_not_mem_content {value : Option String} {children : List Node}
    (h : ¬ (value = none ∧ children = [])) : .tabstop ∉ content value children := by
  cases value with
  | some v => simp [content]
  | none =>
    have hc : children ≠ [] := fun hc => h ⟨rfl, hc⟩
    simp [content, hc]

mutual

theorem lays_pieces (level : Nat) :
    ∀ n : Node, Lays l (l.pieces level n) (n.preorder.filter takesTabstop)
  | ⟨none, value, attributes, children⟩ => by
    have hc := lays_piecesAll level children
    rw [pieces, Node.preorder]
    exact .plain_append (by simp) hc
  | ⟨some name, value, attributes, children⟩ => by
    have hc := lays_piecesAll (level + 1) children
    have hbreak : .tabstop ∉ if l.isBlock name then [Piece.breakBefore level] else [] := by
      split <;> simp
    rw [pieces, Node.preorder]
    apply Lays.plain_append hbreak
    by_cases hstop : takesTabstop ⟨some name, value, attributes, children⟩ = true
    · obtain ⟨hvoid, rfl, rfl⟩ := takesTabstop_iff.mp hstop
      rw [List.filter_cons_of_pos hstop, hvoid, piecesAll, Node.preorderAll]
      exact .stop ⟨some name, none, attributes, []⟩ rfl .nil
    · rw [List.filter_cons_of_neg hstop]
      refine .plain nofun ?_
      split
      · rename_i hvoid
        obtain rfl : children = [] := by simp_all [isVoid]
        rw [Node.preorderAll]
        exact .plain nofun .nil
      · rename_i hvoid
        have hcontent : .tabstop ∉ .text ">" :: content value children := by
          have hnone := tabstop_not_mem_content fun h =>
            hstop (takesTabstop_iff.mpr ⟨eq_false_of_ne_true hvoid, h⟩)
          simp [hnone]
        have hafter : .tabstop ∉ if children.any fun c => c.name.any l.isBlock then
            [Piece.breakAfter level] else [] := by
          split <;> simp
        exact (Lays.append_plain (.plain_append hcontent hc) hafter).append_plain (by simp)

theorem lays_piecesAll (level : Nat) :
    ∀ nodes : List Node, Lays l (l.piecesAll level nodes)
      ((Node.preorderAll nodes).filter takesTabstop)
  | [] => by
    rw [piecesAll, Node.preorderAll]
    exact .nil
  | n :: nodes => by
    have hn := lays_pieces level n
    have hns := lays_piecesAll level nodes
    rw [piecesAll, Node.preorderAll, List.filter_append]
    exact hn.append hns

end

theorem fill_append (s first : String) (rest : List (Node × String)) (contents : List String) :
    l.fill (s ++ first) rest contents = s ++ l.fill first rest contents :=
  String.append_assoc

end Layout

namespace Written

theorem isEmpty_append (s t : String) : (s ++ t).isEmpty = (s.isEmpty && t.isEmpty) := by
  rw [Bool.eq_iff_iff]
  simp

/-- What a piece other than a tabstop adds depends on nothing but whether it is the first one. -/
theorem exists_add_eq {q : Piece} (hq : q ≠ .tabstop) (p : Profile) (started : Bool) :
    ∃ s, ∀ (field : Field) (w : Written), w.out.isEmpty = !started →
      w.add p field q = { w with out := w.out ++ s } := by
  cases q with
  | text s => exact ⟨s, fun _ _ _ => rfl⟩
  | tabstop => exact absurd rfl hq
  | breakBefore level =>
    refine ⟨(if started then "\n" else "") ++ p.indentation level, fun field w hw => ?_⟩
    rw [add, hw]
    cases started <;> simp [String.append_assoc]
  | breakAfter level =>
    refine ⟨"\n" ++ p.indentation level, fun field w _ => ?_⟩
    rw [add, String.append_assoc]

theorem addM_of_ne {q : Piece} (hq : q ≠ .tabstop) (p : Profile) (ask : FieldM m) (w : Written) :
    w.addM p ask q = pure (w.add p Field.plain q) := by
  cases q with
  | tabstop => exact absurd rfl hq
  | _ => rfl

end Written

/-- The answers of a tabstop writer to the next `count` numbers after `k`. -/
def answers (ask : FieldM m) (k count : Nat) : m (List String) :=
  (List.range count).mapM fun i => ask (k + i + 1) none

theorem answers_pure [LawfulMonad m] (field : Field) (k count : Nat) :
    answers (fun i placeholder => (pure (field i placeholder) : m String)) k count =
      pure ((List.range count).map fun i => field (k + i + 1) none) :=
  List.mapM_pure

theorem answers_succ [LawfulMonad m] (ask : FieldM m) (k count : Nat) :
    answers ask k (count + 1) = do
      let content ← ask (k + 1) none
      let contents ← answers ask (k + 1) count
      return content :: contents := by
  have hnext : (fun i => ask (k + i + 1) none) ∘ Nat.succ = fun i => ask (k + 1 + i + 1) none := by
    funext i
    rw [Function.comp_apply, Nat.succ_eq_add_one, Nat.add_right_comm k 1 i, Nat.add_assoc k i 1]
  rw [answers, List.range_succ_eq_map, List.mapM_cons, List.mapM_map, hnext]
  rfl

/--
The texts between the contents do not depend on the tabstop writer. Of the output before them they
depend on whether it has begun only, as a break is left out at its start.
-/
theorem Layout.Lays.foldlM_addM (h : l.Lays ps ns) (started : Bool) :
    ∃ (first : String) (rest : List (Node × String)), rest.map (·.1) = ns ∧
      ∀ (m : Type → Type) [Monad m] [LawfulMonad m] (ask : FieldM m) (w : Written),
        w.out.isEmpty = !started →
          ps.foldlM (Written.addM l.profile ask) w = do
            let contents ← answers ask w.tabstops ns.length
            return {
              out := w.out ++ l.fill first rest contents
              tabstops := w.tabstops + ns.length } := by
  induction h generalizing started with
  | nil =>
    refine ⟨"", [], rfl, ?_⟩
    intro m _ _ ask w _
    simp [answers, fill]
  | @plain q ps ns hq _ ih =>
    obtain ⟨s, hs⟩ := Written.exists_add_eq hq l.profile started
    obtain ⟨first, rest, hrest, hfold⟩ := ih (started || !s.isEmpty)
    refine ⟨s ++ first, rest, hrest, ?_⟩
    intro m _ _ ask w hw
    have hout : (w.out ++ s).isEmpty = !(started || !s.isEmpty) := by
      rw [Written.isEmpty_append, hw, Bool.not_or, Bool.not_not]
    rw [List.foldlM_cons, Written.addM_of_ne hq, pure_bind, hs _ w hw, hfold m ask _ hout]
    simp only [fill_append, String.append_assoc]
  | @stop n name ps ns hn _ ih =>
    obtain ⟨first, rest, hrest, hfold⟩ := ih true
    refine ⟨"", (n, first) :: rest, by rw [List.map_cons, hrest], ?_⟩
    intro m _ _ ask w _
    simp only [List.foldlM_cons, Written.addM, Written.add, pure_bind, bind_assoc,
      List.length_cons, answers_succ]
    refine bind_congr fun content => ?_
    rw [hfold m ask]
    · refine bind_congr fun contents => congrArg pure ?_
      ext1
      · simp [fill, element, openTag, hn, String.append_assoc]
      · exact (Nat.add_right_comm _ 1 _).trans (Nat.add_assoc _ _ 1)
    · simp [Written.isEmpty_append]

theorem formatM_eq (p : Profile) (options : FormatOptions) (tree : Node) :
    ∃ (first : String) (rest : List (Node × String)),
      rest.map (·.1) = tree.preorder.filter takesTabstop ∧
      ∀ (m : Type → Type) [Monad m] [LawfulMonad m] (ask : FieldM m),
        formatM p ask options tree = do
          let contents ← answers ask 0 rest.length
          return Layout.fill ⟨p, wantsPretty options⟩ first rest contents := by
  obtain ⟨first, rest, hrest, hfold⟩ :=
    (Layout.lays_pieces (l := ⟨p, wantsPretty options⟩) 0 tree).foldlM_addM false
  refine ⟨first, rest, hrest, ?_⟩
  intro m _ _ ask
  rw [formatM, hfold m ask {} rfl, bind_assoc, ← hrest, List.length_map]
  simp

/--
The output is a text with the elements that take tabstops in it, in the order of the document, and
no other part of it depends on the tabstop writer. The writer gives the text between the tags of
each of them. It is asked for the numbers from one on, once for each, and never for a placeholder.
-/
theorem format_tabstops (p : Profile) (options : FormatOptions) (tree : Node) :
    ∃ (first : String) (rest : List (Node × String)),
      rest.map (·.1) = tree.preorder.filter takesTabstop ∧
      (∀ (dialect : String) (field : Field),
        format p dialect { options with field } tree =
          Layout.fill ⟨p, wantsPretty options⟩ first rest
            ((List.range rest.length).map fun i => field (i + 1) none)) ∧
      ∀ (m : Type → Type) [Monad m] [LawfulMonad m] (ask : FieldM m),
        formatM p ask options tree = do
          let contents ← (List.range rest.length).mapM fun i => ask (i + 1) none
          return Layout.fill ⟨p, wantsPretty options⟩ first rest contents := by
  obtain ⟨first, rest, hrest, hformat⟩ := formatM_eq p options tree
  refine ⟨first, rest, hrest, ?_, ?_⟩
  · intro dialect field
    have h := formatM_pure (m := Id) p dialect { options with field } tree
    have hfill := hformat Id fun i placeholder => pure (field i placeholder)
    rw [answers_pure, pure_bind] at hfill
    simpa using congrArg Id.run (h.symm.trans hfill)
  · intro m _ _ ask
    rw [hformat m ask, answers]
    simp

/-- The writer notes what it is asked for. Only the two items take tabstops. -/
example :
    let ask : FieldM (StateM (List (Nat × Option String))) := fun i placeholder => do
      modify (· ++ [(i, placeholder)])
      return "$" ++ toString i
    let list := (Node.named "ul").withChild (Node.named "li")
    let tree := { children := [Node.group.withChild list, Node.named "br",
      (Node.named "p").withValue "v", Node.named "li"] }
    (formatM {} ask ⟨Field.plain, [("pretty", .bool true)]⟩ tree).run [] =
      ("<ul>\n\t<li>$1</li>\n</ul><br>\n<p>v</p>\n<li>$2</li>", [(1, none), (2, none)]) := by
  rfl

end Shorthand.Html
