import Shorthand.Html.Format
import Shorthand.Proofs.Json.Ordered

/-! # Output written piece by piece

Pieces written after others come out as they would alone, with their tabstops numbered on. Only a
break before a block looks at what has been written, and a layout that is not pretty has none.
-/

namespace Shorthand

def Field.after (field : Field) (k : Nat) : Field :=
  fun i placeholder => field (k + i) placeholder

@[simp] theorem Field.plain_after (k : Nat) : Field.plain.after k = Field.plain :=
  rfl

namespace Html

variable {p : Profile} {field : Field} {l : Layout}

namespace Written

attribute [ext] Written

instance : Append Written where
  append w u := { out := w.out ++ u.out, tabstops := w.tabstops + u.tabstops }

@[simp] theorem out_append (w u : Written) : (w ++ u).out = w.out ++ u.out :=
  rfl

@[simp] theorem tabstops_append (w u : Written) :
    (w ++ u).tabstops = w.tabstops + u.tabstops :=
  rfl

@[simp] theorem append_empty (w : Written) : w ++ ({} : Written) = w := by
  ext1
  · exact String.append_empty
  · exact Nat.add_zero w.tabstops

/-- One piece written after `w` is the piece written alone, its tabstops counted on from `w`. -/
theorem add_append {q : Piece} (hq : ∀ level, q ≠ .breakBefore level) (w u : Written) :
    (w ++ u).add p field q = w ++ u.add p (field.after w.tabstops) q := by
  cases q with
  | text s => ext1 <;> simp [add, String.append_assoc]
  | tabstop => ext1 <;> simp [add, Field.after, String.append_assoc, Nat.add_assoc]
  | breakBefore level => exact absurd rfl (hq level)
  | breakAfter level => ext1 <;> simp [add, String.append_assoc]

theorem foldl_add_append {qs : List Piece} (hq : ∀ level, .breakBefore level ∉ qs)
    (w u : Written) :
    qs.foldl (add p field) (w ++ u) = w ++ qs.foldl (add p (field.after w.tabstops)) u := by
  induction qs generalizing u with
  | nil => rfl
  | cons q qs ih =>
    have hhead : ∀ level, q ≠ .breakBefore level := fun level h =>
      hq level (h ▸ List.mem_cons_self)
    have htail : ∀ level, .breakBefore level ∉ qs := fun level h =>
      hq level (List.mem_cons_of_mem q h)
    rw [List.foldl_cons, List.foldl_cons, add_append hhead, ih htail]

end Written

theorem write_append (ps : List Piece) {qs : List Piece}
    (hq : ∀ level, .breakBefore level ∉ qs) :
    write p field (ps ++ qs) =
      write p field ps ++ write p (field.after (write p field ps).tabstops) qs := by
  calc write p field (ps ++ qs)
    _ = qs.foldl (Written.add p field) (write p field ps ++ {}) := by
        rw [write, List.foldl_append, Written.append_empty]
        rfl
    _ = write p field ps ++ write p (field.after (write p field ps).tabstops) qs :=
        Written.foldl_add_append hq (write p field ps) {}

namespace Layout

theorem piecesAll_append (level : Nat) (first second : List Node) :
    l.piecesAll level (first ++ second) = l.piecesAll level first ++ l.piecesAll level second := by
  induction first with
  | nil => rw [List.nil_append, piecesAll, List.nil_append]
  | cons n first ih => rw [List.cons_append, piecesAll, piecesAll, ih, List.append_assoc]

theorem pieces_group (level : Nat) (children : List Node) :
    l.pieces level { children } = l.piecesAll level children := by
  rw [pieces]; rfl

theorem isBlock_of_not_pretty (hl : l.pretty = false) (name : String) : l.isBlock name = false := by
  rw [isBlock, hl, Bool.false_and]

theorem breakBefore_not_mem_content (level : Nat) (value : Option String) (children : List Node) :
    .breakBefore level ∉ content value children := by
  cases value with
  | some v => simp [content]
  | none => rw [content]; split <;> simp

mutual

theorem breakBefore_not_mem_pieces (hl : l.pretty = false) (k level : Nat) :
    ∀ n : Node, .breakBefore k ∉ l.pieces level n
  | ⟨none, value, _, children⟩ => by
    have hc := breakBefore_not_mem_piecesAll hl k level children
    rw [pieces]
    simp [hc]
  | ⟨some name, value, attributes, children⟩ => by
    have hc := breakBefore_not_mem_piecesAll hl k (level + 1) children
    have hv := breakBefore_not_mem_content k value children
    rw [pieces, isBlock_of_not_pretty hl]
    by_cases hvoid : isVoid name value children = true
    · simp [hvoid]
    · simp [hvoid, hc, hv]

theorem breakBefore_not_mem_piecesAll (hl : l.pretty = false) (k level : Nat) :
    ∀ nodes : List Node, .breakBefore k ∉ l.piecesAll level nodes
  | [] => by rw [piecesAll]; exact List.not_mem_nil
  | n :: nodes => by
    have hn := breakBefore_not_mem_pieces hl k level n
    have hns := breakBefore_not_mem_piecesAll hl k level nodes
    rw [piecesAll]
    simp [hn, hns]

end

end Layout

theorem wantsPretty_iff {options : FormatOptions} :
    wantsPretty options = true ↔ options.get? "pretty" = some (.bool true) := by
  rw [wantsPretty, beq_iff_eq, Json.bind_bool?_eq_some_iff]

/-- What is written for a tree: the output, and how many tabstops are in it. -/
def written (p : Profile) (options : FormatOptions) (tree : Node) : Written :=
  write p options.field (Layout.pieces ⟨p, wantsPretty options⟩ 0 tree)

theorem format_eq_written (p : Profile) (dialect : String) (options : FormatOptions)
    (tree : Node) : format p dialect options tree = (written p options tree).out :=
  rfl

/-- Output that is not pretty is written for one group of trees after the other. -/
theorem written_append {options : FormatOptions} (hp : wantsPretty options = false)
    (first second : List Node) :
    written p options { children := first ++ second } =
      written p options { children := first } ++
        written p
          { options with
            field := options.field.after (written p options { children := first }).tabstops }
          { children := second } := by
  have hq : ∀ level,
      .breakBefore level ∉ Layout.piecesAll ⟨p, wantsPretty options⟩ 0 second := fun level =>
    Layout.breakBefore_not_mem_piecesAll hp level 0 second
  simp only [written, Layout.pieces_group, Layout.piecesAll_append]
  exact write_append _ hq

end Html

end Shorthand
