import Shorthand.Proofs.Html.Stretch

/-! # Pretty output

Pretty output is the plain output with runs of white space put in. A run stands before the opening
tag of every element that is not inline, and before the closing tag of every element that holds
one. Both layouts go through the tree alike, and the plain one leaves the breaks out.
-/

namespace Shorthand.Html

open Piece

variable {p : Profile} {l : Layout} {started started' : Bool} {i j k : Nat} {q : Piece}
  {ps qs ps' qs' : List Piece}

/-- No inline element has the name, whatever the case of its ASCII letters. -/
def StandsApart (p : Profile) (name : String) : Prop :=
  ∀ e ∈ p.inlineElements, Text.lowerAscii e ≠ Text.lowerAscii name

instance (p : Profile) : DecidablePred (StandsApart p) := fun _ => List.decidableBAll _ _

theorem isInline_eq_false_iff {name : String} : p.isInline name = false ↔ StandsApart p name := by
  simp [Profile.isInline, Text.eqIgnoreAsciiCase, StandsApart]

def isBlockElement (p : Profile) (n : Node) : Bool :=
  n.name.any (StandsApart p ·)

def holdsBlock (p : Profile) (n : Node) : Bool :=
  n.name.isSome && n.children.any (isBlockElement p)

/-- The tags of a node that runs may stand before. -/
inductive RunsBefore (p : Profile) (n : Node) : String → Prop where
  | opening {name : String} (hn : n.name = some name) (hblock : StandsApart p name) :
    RunsBefore p n
      ("<" ++ p.tagName name ++ String.join (n.attributes.map (Layout.attributeText ⟨p, true⟩)))
  | closing {name : String} (hn : n.name = some name) :
    RunsBefore p n ("</" ++ p.tagName name ++ ">")

/-- The same pieces but for breaks, each of them before a text that `P` admits. -/
inductive Loosened (P : String → Prop) : List Piece → List Piece → Nat → Prop where
  | nil : Loosened P [] [] 0
  | plain {q : Piece} {ps qs : List Piece} {i : Nat} (hq : q.isBreak = false)
    (h : Loosened P ps qs i) : Loosened P (q :: ps) (q :: qs) i
  | before {q : Piece} {tag : String} {ps qs : List Piece} {i : Nat} (hq : q.isBreak = true)
    (htag : P tag) (h : Loosened P ps qs i) :
    Loosened P (q :: .text tag :: ps) (.text tag :: qs) (i + 1)

namespace Loosened

variable {P : String → Prop} {tag : String}

theorem append (h : Loosened P ps qs i) (h' : Loosened P ps' qs' j) :
    Loosened P (ps ++ ps') (qs ++ qs') (i + j) := by
  induction h with
  | nil =>
    rw [Nat.zero_add]
    exact h'
  | plain hq _ ih => exact .plain hq ih
  | before hq htag _ ih =>
    rw [Nat.add_right_comm]
    exact .before hq htag ih

theorem of_plain (h : ∀ q ∈ ps, q.isBreak = false) : Loosened P ps ps 0 := by
  induction ps with
  | nil => exact .nil
  | cons q ps ih =>
    obtain ⟨hq, hps⟩ := List.forall_mem_cons.mp h
    exact .plain hq (ih hps)

theorem optional (c : Bool) (hq : q.isBreak = true) (htag : c = true → P tag)
    (h : Loosened P ps qs i) :
    Loosened P ((if c then [q] else []) ++ .text tag :: ps) (.text tag :: qs)
      (i + if c then 1 else 0) := by
  cases c with
  | true => exact .before hq (htag rfl) h
  | false => exact .plain rfl h

/-- Without runs the stretches of the one list are those of the other. -/
theorem filter_stretches (h : Loosened P ps qs i) (started started' : Bool) (k : Nat) :
    (stretches p started k ps).filter (!·.isRun) = stretches p started' k qs := by
  induction h generalizing started started' k with
  | nil => rfl
  | plain hq _ ih =>
    rw [stretches, List.filter_cons_of_pos (by simp [isRun_stretch, hq]), stretches,
      stretch_of_not_isBreak hq started started' k]
    exact congrArg _ (ih _ _ _)
  | before hq _ _ ih =>
    rw [stretches, List.filter_cons_of_neg (by simp [isRun_stretch, hq]),
      tabstops_of_isBreak hq, stretches, List.filter_cons_of_pos rfl, stretches]
    exact congrArg _ (ih _ _ _)

theorem countP_stretches (h : Loosened P ps qs i) (started : Bool) (k : Nat) :
    (stretches p started k ps).countP (·.isRun) = i := by
  induction h generalizing started k with
  | nil => rfl
  | plain hq _ ih =>
    rw [stretches, List.countP_cons_of_neg (by simp [isRun_stretch, hq])]
    exact ih _ _
  | before hq _ _ ih =>
    rw [stretches, List.countP_cons_of_pos (by simp [isRun_stretch, hq]), stretches,
      List.countP_cons_of_neg (by simp [isRun_stretch, isBreak]), ih]

theorem exists_text (h : Loosened P ps qs i) {before after : List Stretch} {newline : Bool}
    {copies : Nat} (hrun : stretches p started k ps = before ++ .run newline copies :: after) :
    ∃ tag rest, after = .text tag :: rest ∧ P tag := by
  induction h generalizing before started k with
  | nil => simp [stretches] at hrun
  | @plain q ps _ _ hq _ ih =>
    rw [stretches] at hrun
    rcases List.cons_eq_append_iff.mp hrun with ⟨-, hhead⟩ | ⟨before, -, htail⟩
    · have hstretch : (q.stretch started k).isRun = true := by
        rw [← (List.cons.inj hhead).1]
        rfl
      rw [isRun_stretch, hq] at hstretch
      cases hstretch
    · exact ih htail
  | @before q tag _ _ _ _ htag _ ih =>
    rw [stretches, stretches] at hrun
    rcases List.cons_eq_append_iff.mp hrun with ⟨-, hhead⟩ | ⟨before, -, htail⟩
    · exact ⟨tag, _, (List.cons.inj hhead).2, htag⟩
    · rcases List.cons_eq_append_iff.mp htail with ⟨-, hhead⟩ | ⟨before, -, htail⟩
      · cases (List.cons.inj hhead).1
      · exact ih htail

end Loosened

namespace Layout

theorem isBreak_of_mem_content {value : Option String} {children : List Node} :
    ∀ q ∈ content value children, q.isBreak = false := by
  intro q hq
  cases value with
  | some v =>
    obtain rfl := List.mem_singleton.mp hq
    rfl
  | none =>
    rw [content] at hq
    split at hq
    · obtain rfl := List.mem_singleton.mp hq
      rfl
    · cases hq

theorem isBlock_pretty : isBlock ⟨p, true⟩ = fun name => decide (StandsApart p name) := by
  funext name
  rw [Bool.eq_iff_iff, decide_eq_true_iff, ← isInline_eq_false_iff]
  simp [isBlock]

theorem any_isBlock_of_not_pretty (hl : l.pretty = false) (children : List Node) :
    (children.any fun c => c.name.any l.isBlock) = false := by
  rw [List.any_eq_false]
  rintro ⟨_ | name, _, _, _⟩ _
  · exact Bool.false_ne_true
  · rw [Option.any_some, isBlock_of_not_pretty hl]
    exact Bool.false_ne_true

/-- The runs that the nodes get: before opening tags and before closing tags. -/
def runs (p : Profile) (nodes : List Node) : Nat :=
  nodes.countP (isBlockElement p) + nodes.countP (holdsBlock p)

theorem runs_cons (n : Node) (nodes : List Node) : runs p (n :: nodes) =
    runs p nodes + (if holdsBlock p n then 1 else 0) + if isBlockElement p n then 1 else 0 := by
  simp only [runs, List.countP_cons]
  omega

theorem runs_append (nodes nodes' : List Node) :
    runs p (nodes ++ nodes') = runs p nodes + runs p nodes' := by
  simp only [runs, List.countP_append]
  omega

variable {P : String → Prop}

mutual

theorem loosened_pieces (level : Nat) : ∀ n : Node,
    (∀ m ∈ n.preorder, ∀ tag, RunsBefore p m tag → P tag) →
      Loosened P (pieces ⟨p, true⟩ level n) (pieces ⟨p, false⟩ level n) (runs p n.preorder)
  | ⟨none, value, attributes, children⟩, hP => by
    rw [Node.preorder] at hP ⊢
    have hc := loosened_piecesAll level children fun m hm => hP m (List.mem_cons_of_mem _ hm)
    have hvalue : ∀ q ∈ value.toList.map Piece.text, q.isBreak = false := by simp [isBreak]
    have hpieces := (Loosened.of_plain hvalue).append hc
    rw [Nat.zero_add] at hpieces
    rw [pieces, pieces, runs_cons]
    exact hpieces
  | ⟨some name, value, attributes, children⟩, hP => by
    rw [Node.preorder] at hP ⊢
    have hc := loosened_piecesAll (level + 1) children fun m hm => hP m (List.mem_cons_of_mem _ hm)
    have htags := hP _ List.mem_cons_self
    have hopen : decide (StandsApart p name) = true → P (openTag ⟨p, true⟩ name attributes) :=
      fun hblock => htags _ (.opening rfl (of_decide_eq_true hblock))
    rw [pieces, pieces, runs_cons, isBlock_pretty, isBlock_of_not_pretty (l := ⟨p, false⟩) rfl,
      any_isBlock_of_not_pretty (l := ⟨p, false⟩) rfl]
    refine .optional _ rfl hopen ?_
    by_cases hvoid : isVoid name value children = true
    · have hnil : children = [] := by simp_all [isVoid]
      rw [if_pos hvoid, if_pos hvoid, hnil, Node.preorderAll]
      exact .of_plain (by simp [isBreak])
    · have hcontent : Loosened P (.text ">" :: content value children)
          (.text ">" :: content value children) 0 :=
        .plain rfl (.of_plain isBreak_of_mem_content)
      have hclose := Loosened.optional (q := .breakAfter level)
        (holdsBlock p ⟨some name, value, attributes, children⟩) rfl
        (fun _ => htags _ (.closing rfl)) .nil
      have hbody := (hcontent.append hc).append hclose
      rw [Nat.zero_add, Nat.zero_add] at hbody
      rw [if_neg hvoid, if_neg hvoid, if_neg Bool.false_ne_true, List.append_nil,
        List.append_assoc]
      exact hbody

theorem loosened_piecesAll (level : Nat) : ∀ nodes : List Node,
    (∀ m ∈ Node.preorderAll nodes, ∀ tag, RunsBefore p m tag → P tag) →
      Loosened P (piecesAll ⟨p, true⟩ level nodes) (piecesAll ⟨p, false⟩ level nodes)
        (runs p (Node.preorderAll nodes))
  | [], _ => by
    rw [piecesAll, piecesAll, Node.preorderAll]
    exact .nil
  | n :: nodes, hP => by
    rw [Node.preorderAll] at hP ⊢
    rw [List.forall_mem_append] at hP
    rw [piecesAll, piecesAll, runs_append]
    exact (loosened_pieces level n hP.1).append (loosened_piecesAll level nodes hP.2)

end

end Layout

/--
The pretty output is made of stretches, and the plain output of those among them that are no runs,
tabstops having the same numbers in both. What comes directly after a run is the opening tag of an
element of the tree that is not inline, or a closing tag. There are as many runs as elements that
are not inline and elements with such a child.
-/
theorem format_pretty (p : Profile) (tree : Node) : ∃ stretches : List Stretch,
    (∀ dialect options, options.get? "pretty" = some (.bool true) →
      format p dialect options tree = Stretch.joined p options.field stretches) ∧
    (∀ dialect options, options.get? "pretty" ≠ some (.bool true) →
      format p dialect options tree =
        Stretch.joined p options.field (stretches.filter (!·.isRun))) ∧
    (∀ before newline copies after, stretches = before ++ .run newline copies :: after →
      ∃ n ∈ tree.preorder, ∃ tag rest, after = .text tag :: rest ∧ RunsBefore p n tag) ∧
    stretches.countP (·.isRun) =
      tree.preorder.countP (isBlockElement p) + tree.preorder.countP (holdsBlock p) := by
  have hwrites (pretty : Bool) (field : Field) :
      (write p field (Layout.pieces ⟨p, pretty⟩ 0 tree)).out =
        Stretch.joined p field (stretches p false 0 (Layout.pieces ⟨p, pretty⟩ 0 tree)) := by
    have hlays := Layout.lays_pieces (l := ⟨p, pretty⟩) 0 tree
    rw [write, hlays.writesStretches p field false {} rfl, String.empty_append]
  have hloosened := Layout.loosened_pieces (p := p)
    (P := fun tag => ∃ n ∈ tree.preorder, RunsBefore p n tag) 0 tree
    fun m hm tag htag => ⟨m, hm, htag⟩
  refine ⟨stretches p false 0 (Layout.pieces ⟨p, true⟩ 0 tree), ?_, ?_, ?_, ?_⟩
  · intro dialect options hoptions
    rw [format, wantsPretty_iff.mpr hoptions, hwrites]
  · intro dialect options hoptions
    rw [format, Bool.eq_false_iff.mpr (mt wantsPretty_iff.mp hoptions), hwrites,
      hloosened.filter_stretches]
  · intro before newline copies after hrun
    obtain ⟨tag, rest, rfl, n, hn, htag⟩ := hloosened.exists_text hrun
    exact ⟨n, hn, tag, rest, rfl, htag⟩
  · exact hloosened.countP_stretches false 0

def nestedBlocks : Node :=
  ((Node.named "div").withChild ((Node.named "p").withValue "v")).withChild (Node.named "a")

def dollar : Field :=
  fun i _ => "$" ++ toString i

theorem format_pretty_nestedBlocks : ∃ stretches : List Stretch,
    Stretch.joined {} dollar stretches = "<div>\n\t<p>v</p><a>$1</a>\n</div>" ∧
    Stretch.joined {} dollar (stretches.filter (!·.isRun)) = "<div><p>v</p><a>$1</a></div>" ∧
    stretches.countP (·.isRun) = 3 := by
  have hpretty : format {} "html" ⟨dollar, [("pretty", .bool true)]⟩ nestedBlocks =
      "<div>\n\t<p>v</p><a>$1</a>\n</div>" := by rfl
  have hplain : format {} "html" ⟨dollar, []⟩ nestedBlocks = "<div><p>v</p><a>$1</a></div>" := by
    rfl
  obtain ⟨stretches, hloose, htight, -, hruns⟩ := format_pretty {} nestedBlocks
  refine ⟨stretches, ?_, ?_, ?_⟩
  · rw [← hpretty]
    exact (hloose "html" ⟨dollar, [("pretty", .bool true)]⟩ rfl).symm
  · rw [← hplain]
    exact (htight "html" ⟨dollar, []⟩ nofun).symm
  · rw [hruns]
    decide

end Shorthand.Html
