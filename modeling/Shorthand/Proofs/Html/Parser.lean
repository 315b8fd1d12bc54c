import Shorthand.Proofs.Html.Element

/-! # Reading markup abbreviations

An abbreviation is read exactly when all its elements are well formed. Otherwise the fault is that
of the last ill-formed element in the first chain that has one. The tree is a group of chains, in
which every element holds the next one.
-/

namespace Shorthand.Html

open Text

variable {s : String} {text : List Char} {tree n : Node} {e : ParseError}
  {elements : List Element}

def chain : List Node → Node
  | [] => .group
  | [n] => n
  | n :: m :: nodes => { n with children := [chain (m :: nodes)] }

/-- The elements of a chain from the outermost one to the innermost one. -/
def IsChain (text : List Char) (n : Node) : Prop :=
  ∃ elements, List.Forall₂ (fun piece element => Element.read piece = .ok element)
    (split '>' text) elements ∧ chain (elements.map Element.node) = n

/-- The error of the last ill-formed element of a chain. -/
def LastFault (text : List Char) (e : ParseError) : Prop :=
  ∃ outer piece inner, split '>' text = outer ++ piece :: inner ∧
    (∀ p ∈ inner, WellFormed p) ∧ ¬ WellFormed piece ∧ Element.read piece = .error e

theorem nest_concat {nodes : List Node} (h : nodes ≠ []) (n : Node) :
    nest (nodes ++ [n]) = n.withChild (nest nodes) := by
  cases nodes with
  | nil => exact absurd rfl h
  | cons m nodes => rw [List.cons_append, nest, nest, List.foldl_append]; rfl

theorem nest_reverse (elements : List Element) :
    nest (elements.map Element.node).reverse = chain (elements.map Element.node) := by
  induction elements with
  | nil => rfl
  | cons element elements ih =>
    cases elements with
    | nil => rfl
    | cons next elements =>
      rw [List.map_cons, List.reverse_cons, nest_concat (by simp), ih]
      rfl

theorem parseChain_ok_iff : parseChain text = .ok n ↔ IsChain text n := by
  rw [parseChain, map_ok_iff]
  simp only [mapM_reverse_ok_iff]
  constructor
  · rintro ⟨elements, h, rfl⟩
    refine ⟨elements.reverse, h, ?_⟩
    rw [← nest_reverse, List.map_reverse, List.reverse_reverse]
  · rintro ⟨elements, h, rfl⟩
    refine ⟨elements.reverse, by rwa [List.reverse_reverse], ?_⟩
    rw [List.map_reverse, nest_reverse]

theorem exists_parseChain_iff :
    (∃ n, parseChain text = .ok n) ↔ ∀ piece ∈ split '>' text, WellFormed piece := by
  simp only [parseChain, exists_map_ok_iff, exists_mapM_ok_iff, List.mem_reverse, exists_read_iff]

theorem parseChain_error_iff : parseChain text = .error e ↔ LastFault text e := by
  simp only [parseChain, map_error_iff, mapM_reverse_error_iff, exists_read_iff]
  constructor
  · rintro ⟨outer, piece, inner, h, hinner, hpiece⟩
    refine ⟨outer, piece, inner, h, hinner, ?_, hpiece⟩
    intro hwf
    obtain ⟨element, hok⟩ := exists_read_of_wellFormed hwf
    rw [hok] at hpiece
    cases hpiece
  · rintro ⟨outer, piece, inner, h, hinner, -, hpiece⟩
    exact ⟨outer, piece, inner, h, hinner, hpiece⟩

theorem parse_ok_iff : parse s = .ok tree ↔ ∃ children,
    List.Forall₂ IsChain (split '+' s.toList) children ∧ { children } = tree := by
  simp only [parse, map_ok_iff, mapM_ok_iff, parseChain_ok_iff]

/-! ## The nodes of a tree that is read -/

def IsElement (n : Node) : Prop :=
  (∃ name, n.name = some name ∧ name ≠ "") ∧ n.value = none

theorem Element.isElement_node (element : Element) : IsElement element.node := by
  refine ⟨⟨_, rfl, ?_⟩, rfl⟩
  split
  · decide
  · rename_i h
    simpa using h

theorem isElement_of_mem_chain (h : elements ≠ []) :
    ∀ n ∈ (chain (elements.map Element.node)).preorder, IsElement n := by
  induction elements with
  | nil => exact absurd rfl h
  | cons element elements ih =>
    have helement := element.isElement_node
    cases elements with
    | nil =>
      rw [List.map_cons, List.map_nil, chain, Element.node, Node.preorder, Node.preorderAll]
      exact List.forall_mem_singleton.mpr helement
    | cons next elements =>
      rw [List.map_cons, List.map_cons, chain, Node.preorder, Node.preorderAll, Node.preorderAll,
        List.append_nil, List.forall_mem_cons]
      exact ⟨helement, ih (List.cons_ne_nil _ _)⟩

theorem IsChain.isElement (h : IsChain text n) : ∀ m ∈ n.preorder, IsElement m := by
  obtain ⟨elements, helements, rfl⟩ := h
  apply isElement_of_mem_chain
  rintro rfl
  exact split_ne_nil '>' text (List.forall₂_nil_right_iff.mp helements)

/-- A group of the chains between the `+`, whose nodes all have a name and no value. -/
structure IsGroup (s : String) (tree : Node) : Prop where
  root : tree = { children := tree.children }
  chains : List.Forall₂ IsChain (split '+' s.toList) tree.children
  elements : ∀ n ∈ Node.preorderAll tree.children, IsElement n

theorem isElement_of_mem_chains {texts : List (List Char)} {nodes : List Node}
    (h : List.Forall₂ IsChain texts nodes) : ∀ n ∈ Node.preorderAll nodes, IsElement n := by
  induction h with
  | nil =>
    rw [Node.preorderAll]
    exact nofun
  | cons hn _ ih =>
    rw [Node.preorderAll, List.forall_mem_append]
    exact ⟨hn.isElement, ih⟩

theorem isGroup_of_parse (h : parse s = .ok tree) : IsGroup s tree := by
  obtain ⟨children, hchildren, rfl⟩ := parse_ok_iff.mp h
  exact ⟨rfl, hchildren, isElement_of_mem_chains hchildren⟩

/--
An abbreviation is read exactly when all its elements are well formed. Otherwise the fault is that
of the last ill-formed element in the first chain that has one: a bracket that is not closed, else
the first character that no name has, else that nothing is there. Elements are sliced between
characters only. The tree that is read is a group of chains, with a node for each element.
-/
theorem parse_wellFormed (s : String) :
    ((∃ tree, parse s = .ok tree) ↔
      ∀ text ∈ split '+' s.toList, ∀ piece ∈ split '>' text, WellFormed piece) ∧
    (∀ e, parse s = .error e ↔ ∃ before text after, split '+' s.toList = before ++ text :: after ∧
      (∀ t ∈ before, ∀ piece ∈ split '>' t, WellFormed piece) ∧ LastFault text e) ∧
    (∀ piece e, Element.read piece = .error e ↔ Fault piece e) ∧
    (∀ piece head inner, cutBrackets piece = .ok (head, some inner) →
      '[' ∉ head ∧ IsSlice piece 0 (octetCount head) head ∧
        IsSlice piece (octetCount head) (octetCount head + 1) ['['] ∧
        IsSlice piece (octetCount head + 1) (octetCount piece - 1) inner) ∧
    ∀ tree, parse s = .ok tree → IsGroup s tree := by
  refine ⟨?_, ?_, ?_, ?_, ?_⟩
  · simp only [parse, exists_map_ok_iff, exists_mapM_ok_iff, exists_parseChain_iff]
  · intro e
    simp only [parse, map_error_iff, mapM_error_iff, exists_parseChain_iff, parseChain_error_iff]
  · exact fun piece e => read_error_iff
  · exact fun piece head inner => slices_of_cutBrackets
  · exact fun tree => isGroup_of_parse

theorem parse_wellFormed_severalFaults :
    parse "a.b[c=[é]]+p(>é>q+[x" = .error (.unexpected 'é' "é") ∧
      ∃ tree, parse ".a>[=[é]]+b" = .ok tree ∧ IsGroup ".a>[=[é]]+b" tree := by
  constructor
  · refine ((parse_wellFormed _).2.1 _).mpr ⟨["a.b[c=[é]]".toList], "p(>é>q".toList,
      ["[x".toList], rfl, by decide, ["p(".toList], "é".toList, ["q".toList], rfl, by decide,
      by decide, ?_⟩
    exact ((parse_wellFormed "").2.2.1 _ _).mpr
      (.unexpected (by decide) [] [] rfl nofun (by decide))
  · obtain ⟨tree, htree⟩ := (parse_wellFormed ".a>[=[é]]+b").1.mpr (by decide)
    exact ⟨tree, htree, (parse_wellFormed _).2.2.2.2 tree htree⟩

end Shorthand.Html
