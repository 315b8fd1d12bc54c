import Mathlib.Data.List.TakeWhile
import Shorthand.Proofs.Text.Split
import Shorthand.Text.Blank

/-! # Trimmed texts and words

Trimming leaves what stands between the blanks at both ends, which neither begins nor ends with
a blank itself. The words of a text with a blank inside are those before it and those after it.
-/

namespace Shorthand.Text

variable {p : Char → Bool} {s core left right : List Char} {blank : Char}

/-- Nothing but characters in `p` stands around the core, which has none at its own ends. -/
def IsCore (p : Char → Bool) (s core : List Char) : Prop :=
  ∃ left right, s = left ++ core ++ right ∧ (∀ c ∈ left, p c) ∧ (∀ c ∈ right, p c) ∧
    (∀ c ∈ core.head?, p c = false) ∧ ∀ c ∈ core.getLast?, p c = false

theorem dropWhile_of_head? (h : ∀ c ∈ s.head?, p c = false) : s.dropWhile p = s := by
  cases s with
  | nil => rfl
  | cons c s => exact List.dropWhile_cons_of_neg (by simp [h c rfl])

theorem head?_dropWhile (p : Char → Bool) (s : List Char) :
    ∀ c ∈ (s.dropWhile p).head?, p c = false := by
  intro c hc
  have hp := List.head?_dropWhile_not p s
  rwa [hc] at hp

theorem isCore_trimWhere (p : Char → Bool) (s : List Char) : IsCore p s (trimWhere p s) := by
  have hcore : s.dropWhile p = trimWhere p s ++ ((s.dropWhile p).reverse.takeWhile p).reverse := by
    rw [trimWhere, ← List.reverse_append, List.takeWhile_append_dropWhile, List.reverse_reverse]
  refine ⟨s.takeWhile p, ((s.dropWhile p).reverse.takeWhile p).reverse, ?_, ?_, ?_, ?_, ?_⟩
  · rw [List.append_assoc, ← hcore, List.takeWhile_append_dropWhile]
  · exact fun c hc => List.mem_takeWhile_imp hc
  · exact fun c hc => List.mem_takeWhile_imp (List.mem_reverse.mp hc)
  · intro c hc
    apply head?_dropWhile p s c
    rw [hcore, List.head?_append, hc]
    rfl
  · intro c hc
    rw [trimWhere, List.getLast?_reverse] at hc
    exact head?_dropWhile p _ c hc

theorem trimWhere_append (hl : ∀ c ∈ left, p c) (hr : ∀ c ∈ right, p c)
    (hhead : ∀ c ∈ core.head?, p c = false) (hlast : ∀ c ∈ core.getLast?, p c = false) :
    trimWhere p (left ++ core ++ right) = core := by
  have hright : right.dropWhile p = [] := List.dropWhile_eq_nil_iff.mpr hr
  have hrest : (core ++ right).reverse.dropWhile p = core.reverse := by
    rw [List.reverse_append, List.dropWhile_append_of_pos (by simpa using hr)]
    exact dropWhile_of_head? (by rwa [List.head?_reverse])
  rw [trimWhere, List.append_assoc, List.dropWhile_append_of_pos hl]
  cases core with
  | nil => rw [List.nil_append, hright]; rfl
  | cons c core =>
    rw [dropWhile_of_head? (s := c :: core ++ right) (by simpa using hhead), hrest,
      List.reverse_reverse]

theorem trimWhere_eq_iff : trimWhere p s = core ↔ IsCore p s core := by
  constructor
  · rintro rfl
    exact isCore_trimWhere p s
  · rintro ⟨left, right, rfl, hl, hr, hhead, hlast⟩
    exact trimWhere_append hl hr hhead hlast

theorem words_append_cons (h : isBlank blank) (s t : List Char) :
    words (s ++ blank :: t) = words s ++ words t := by
  simp only [words, splitWhere_eq_splitOnP]
  rw [List.splitOnP_append_cons s t h, List.filter_append]

theorem words_of_forall (hs : s ≠ []) (h : ∀ c ∈ s, isBlank c = false) : words s = [s] := by
  rw [words, splitWhere_eq_splitOnP, List.splitOnP_eq_singleton h]
  exact List.filter_cons_of_pos (by simpa using hs)

theorem words_intercalate (h : isBlank blank) (pieces : List (List Char)) :
    words ([blank].intercalate pieces) = pieces.flatMap words := by
  induction pieces with
  | nil => rfl
  | cons piece pieces ih =>
    cases pieces with
    | nil => simp
    | cons next pieces =>
      rw [List.intercalate_cons_cons, List.append_assoc, List.singleton_append,
        words_append_cons h, ih]
      rfl

end Shorthand.Text
