import Mathlib.Data.List.Induction

/-! # The last one that gives something

In a list whose elements may each give something, what the last of them gives. A new last element
counts alone if it gives anything, and in a list that stands in an order the greatest element that
gives anything counts.
-/

namespace Shorthand

variable {α : Type u} {β : Type v} {γ : Type w} {gives : α → β → Prop} {xs : List α} {a : α} {b : β}

/-- Some element gives `b`, and no later one gives anything. -/
def LastGives (gives : α → β → Prop) (xs : List α) (b : β) : Prop :=
  ∃ before a after, xs = before ++ a :: after ∧ gives a b ∧ ∀ later ∈ after, ∀ c, ¬ gives later c

theorem LastGives.exists_mem (h : LastGives gives xs b) : ∃ a ∈ xs, gives a b := by
  obtain ⟨before, a, after, rfl, hb, -⟩ := h
  exact ⟨a, by simp, hb⟩

theorem not_lastGives_nil : ¬ LastGives gives [] b := by
  rintro ⟨before, a, after, h, _⟩
  simp at h

theorem lastGives_append_singleton :
    LastGives gives (xs ++ [a]) b ↔ gives a b ∨ (LastGives gives xs b ∧ ∀ c, ¬ gives a c) := by
  constructor
  · rintro ⟨before, x, after, hx, hb, hn⟩
    rcases List.eq_nil_or_concat after with rfl | ⟨after, last, rfl⟩
    · obtain ⟨rfl, ha⟩ := List.append_inj' hx rfl
      obtain rfl : a = x := List.singleton_inj.mp ha
      exact Or.inl hb
    · rw [List.concat_eq_append, ← List.cons_append, ← List.append_assoc] at hx
      obtain ⟨rfl, ha⟩ := List.append_inj' hx rfl
      obtain rfl : a = last := List.singleton_inj.mp ha
      rw [List.concat_eq_append, List.forall_mem_append, List.forall_mem_singleton] at hn
      exact Or.inr ⟨⟨before, x, after, rfl, hb, hn.1⟩, hn.2⟩
  · rintro (hb | ⟨⟨before, x, after, rfl, hb, hn⟩, ha⟩)
    · exact ⟨xs, a, [], rfl, hb, List.forall_mem_nil _⟩
    · refine ⟨before, x, after ++ [a], by simp, hb, ?_⟩
      exact List.forall_mem_append.mpr ⟨hn, List.forall_mem_singleton.mpr ha⟩

theorem lastGives_append {ys : List α} :
    LastGives gives (xs ++ ys) b ↔
      LastGives gives ys b ∨ (LastGives gives xs b ∧ ∀ c, ¬ LastGives gives ys c) := by
  induction ys using List.reverseRecOn generalizing b with
  | nil => simp [not_lastGives_nil]
  | append_singleton ys a ih =>
    rw [← List.append_assoc]
    simp only [lastGives_append_singleton, ih]
    by_cases ha : ∃ c, gives a c
    · obtain ⟨c, hc⟩ := ha
      have hsome : ¬ ∀ c, ¬ gives a c := fun h => h c hc
      simp only [hsome, and_false, or_false]
    · have hnone : ∀ c, ¬ gives a c := not_exists.mp ha
      simp [hnone]

theorem exists_lastGives_iff : (∃ b, LastGives gives xs b) ↔ ∃ a ∈ xs, ∃ b, gives a b := by
  induction xs using List.reverseRecOn with
  | nil => simp [not_lastGives_nil]
  | append_singleton xs a ih =>
    simp only [lastGives_append_singleton, List.mem_append, List.mem_singleton, or_and_right,
      exists_or, exists_eq_left, ← ih, exists_and_right]
    by_cases ha : ∃ c, gives a c
    · simp [ha]
    · simp [not_exists.mp ha]

theorem lastGives_map {f : γ → α} {ys : List γ} :
    LastGives gives (ys.map f) b ↔ LastGives (fun y => gives (f y)) ys b := by
  induction ys using List.reverseRecOn with
  | nil => exact iff_of_false not_lastGives_nil not_lastGives_nil
  | append_singleton ys y ih =>
    rw [List.map_append, List.map_singleton, lastGives_append_singleton,
      lastGives_append_singleton, ih]

theorem lastGives_iff_of_pairwise {lt : α → α → Prop} (hlt : ∀ x y, lt x y → ¬ lt y x)
    (h : xs.Pairwise lt) :
    LastGives gives xs b ↔ ∃ a ∈ xs, gives a b ∧ ∀ x ∈ xs, lt a x → ∀ c, ¬ gives x c := by
  constructor
  · rintro ⟨before, a, after, rfl, hb, hn⟩
    obtain ⟨-, -, hbefore⟩ := List.pairwise_append.mp h
    refine ⟨a, by simp, hb, fun x hx hax => ?_⟩
    rcases List.mem_append.mp hx with hx | hx
    · exact absurd hax (hlt x a (hbefore x hx a List.mem_cons_self))
    · rcases List.mem_cons.mp hx with rfl | hx
      · exact absurd hax (hlt x x hax)
      · exact hn x hx
  · rintro ⟨a, ha, hb, hn⟩
    obtain ⟨before, after, rfl⟩ := List.append_of_mem ha
    refine ⟨before, a, after, rfl, hb, fun x hx => hn x (by simp [hx]) ?_⟩
    exact List.rel_of_pairwise_cons (List.pairwise_append.mp h).2.1 hx

end Shorthand
