import Mathlib.Data.List.TakeWhile
import Shorthand.Text.Split

/-! # Pieces of a text

Cutting a text at a separator is the library's split of lists. A text with a separator inside has
the pieces of what stands before it, then the pieces of what stands after it, so its pieces are
the parts between one separator, or one end, and the next.
-/

namespace Shorthand.Text

variable {p : Char → Bool} {sep : Char} {s piece : List Char} {pieces : List (List Char)}

theorem splitWhere_eq_splitOnP (p : Char → Bool) (s : List Char) :
    splitWhere p s = s.splitOnP p := by
  induction s with
  | nil => rfl
  | cons c s ih =>
    rw [splitWhere, List.splitOnP_cons_eq_if_modifyHead, ih]
    split
    · rfl
    · cases h : s.splitOnP p with
      | nil => exact absurd h (List.splitOnP_ne_nil p s)
      | cons piece pieces => rfl

theorem split_append_cons (sep : Char) (s t : List Char) :
    split sep (s ++ sep :: t) = split sep s ++ split sep t := by
  simp only [split, splitWhere_eq_splitOnP]
  exact List.splitOnP_append_cons s t (beq_self_eq_true sep)

theorem split_ne_nil (sep : Char) (s : List Char) : split sep s ≠ [] :=
  splitWhere_ne_nil _ s

theorem split_of_not_mem (h : sep ∉ s) : split sep s = [s] := by
  rw [split, splitWhere_eq_splitOnP]
  apply List.splitOnP_eq_singleton
  intro c hc
  exact beq_false_of_ne fun hcs => h (hcs ▸ hc)

/-- The piece reaches from a separator or the start to a separator or the end, with none inside. -/
def IsPiece (sep : Char) (s piece : List Char) : Prop :=
  sep ∉ piece ∧ ∃ before after, s = before ++ piece ++ after ∧
    (∀ c ∈ before.getLast?, c = sep) ∧ ∀ c ∈ after.head?, c = sep

theorem isPiece_of_mem_split {s : List Char} (h : piece ∈ split sep s) : IsPiece sep s piece := by
  by_cases hs : sep ∈ s
  · obtain ⟨x, y, rfl⟩ := List.append_of_mem hs
    rw [split_append_cons, List.mem_append] at h
    rcases h with h | h
    · obtain ⟨hp, before, after, hx, hb, ha⟩ := isPiece_of_mem_split h
      refine ⟨hp, before, after ++ sep :: y, ?_, hb, ?_⟩
      · rw [hx, List.append_assoc]
      · cases after with
        | nil => simp
        | cons c after => simpa using ha
    · obtain ⟨hp, before, after, hy, hb, ha⟩ := isPiece_of_mem_split h
      refine ⟨hp, x ++ sep :: before, after, ?_, ?_, ha⟩
      · simp [hy]
      · cases before with
        | nil => simp
        | cons c before => simpa [List.getLast?_cons_cons] using hb
  · rw [split_of_not_mem hs, List.mem_singleton] at h
    subst h
    exact ⟨hs, [], [], by simp⟩
termination_by s.length

theorem mem_split_of_isPiece (h : IsPiece sep s piece) : piece ∈ split sep s := by
  obtain ⟨hp, before, after, rfl, hb, ha⟩ := h
  have hpiece : piece ∈ split sep (piece ++ after) := by
    cases after with
    | nil => rw [List.append_nil, split_of_not_mem hp]; exact List.mem_singleton_self piece
    | cons c after =>
      obtain rfl : c = sep := ha c rfl
      rw [split_append_cons, split_of_not_mem hp]
      exact List.mem_append_left _ (List.mem_singleton_self piece)
  rcases List.eq_nil_or_concat before with rfl | ⟨before, c, rfl⟩
  · exact hpiece
  · obtain rfl : c = sep := hb c (by simp)
    rw [List.concat_eq_append, List.append_assoc, List.append_assoc, List.singleton_append,
      split_append_cons]
    exact List.mem_append_right _ hpiece

theorem mem_split_iff : piece ∈ split sep s ↔ IsPiece sep s piece :=
  ⟨isPiece_of_mem_split, mem_split_of_isPiece⟩

theorem split_intercalate (hne : pieces ≠ []) (h : ∀ piece ∈ pieces, sep ∉ piece) :
    split sep ([sep].intercalate pieces) = pieces := by
  rw [split, splitWhere_eq_splitOnP]
  exact List.splitOn_intercalate sep h hne

theorem intercalate_split (sep : Char) (s : List Char) : [sep].intercalate (split sep s) = s := by
  rw [split, splitWhere_eq_splitOnP]
  exact List.intercalate_splitOn sep

theorem mem_of_mem_intercalate {α : Type} {sep : List α} {l : List (List α)} {a : α}
    (h : a ∈ sep.intercalate l) : a ∈ sep ∨ ∃ w ∈ l, a ∈ w := by
  induction l with
  | nil => cases h
  | cons b l ih =>
    cases l with
    | nil => exact Or.inr ⟨b, List.mem_cons_self, by simpa using h⟩
    | cons b' l =>
      rw [List.intercalate_cons_cons, List.append_assoc, List.mem_append, List.mem_append] at h
      rcases h with hb | hsep | hl
      · exact Or.inr ⟨b, List.mem_cons_self, hb⟩
      · exact Or.inl hsep
      · exact (ih hl).imp_right fun ⟨w, hw, ha⟩ => ⟨w, List.mem_cons_of_mem _ hw, ha⟩

/-! ## The first separator -/

theorem ne_of_not_mem (h : sep ∉ s) : ∀ c ∈ s, decide (c ≠ sep) := by
  intro c hc
  exact decide_eq_true fun hcs => h (hcs ▸ hc)

theorem takeWhile_of_not_mem (h : sep ∉ s) : s.takeWhile (· ≠ sep) = s :=
  List.takeWhile_eq_self_iff.mpr (ne_of_not_mem h)

theorem takeWhile_append_cons (h : sep ∉ s) (t : List Char) :
    (s ++ sep :: t).takeWhile (· ≠ sep) = s := by
  rw [List.takeWhile_append_of_pos (ne_of_not_mem h), List.takeWhile_cons_of_neg (by simp),
    List.append_nil]

theorem headD_split (sep : Char) (s : List Char) :
    (split sep s).headD [] = s.takeWhile (· ≠ sep) := by
  by_cases hs : sep ∈ s
  · obtain ⟨before, after, rfl, hbefore⟩ := List.eq_append_cons_of_mem hs
    rw [split_append_cons, split_of_not_mem hbefore, takeWhile_append_cons hbefore]
    rfl
  · rw [split_of_not_mem hs, takeWhile_of_not_mem hs]
    rfl

theorem splitOnce_of_not_mem (h : sep ∉ s) : splitOnce sep s = (s, none) := by
  rw [splitOnce, List.dropWhile_eq_nil_iff.mpr (ne_of_not_mem h)]

theorem splitOnce_append_cons (h : sep ∉ s) (t : List Char) :
    splitOnce sep (s ++ sep :: t) = (s, some t) := by
  have hdrop : (s ++ sep :: t).dropWhile (· ≠ sep) = sep :: t := by
    rw [List.dropWhile_append_of_pos (ne_of_not_mem h), List.dropWhile_cons_of_neg (by simp)]
  rw [splitOnce, hdrop, takeWhile_append_cons h]

end Shorthand.Text
