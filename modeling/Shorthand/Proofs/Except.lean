import Mathlib.Data.List.Forall2

/-! # Lists that are read item by item

A list has a result when each of its items has one, and the results stand in the order of the
items. Otherwise the first item without a result gives the error, or the last one if the list is
read from its end.
-/

namespace Shorthand

variable {α β ε : Type} {f : α → Except ε β} {xs : List α} {e : ε}

theorem map_ok_iff {g : α → β} {x : Except ε α} {b : β} :
    x.map g = .ok b ↔ ∃ a, x = .ok a ∧ g a = b := by
  cases x <;> simp [Except.map]

theorem exists_map_ok_iff {g : α → β} {x : Except ε α} :
    (∃ b, x.map g = .ok b) ↔ ∃ a, x = .ok a := by
  cases x <;> simp [Except.map]

theorem map_error_iff {g : α → β} {x : Except ε α} : x.map g = .error e ↔ x = .error e := by
  cases x <;> simp [Except.map]

theorem bind_ok_iff {x : Except ε α} {g : α → Except ε β} {b : β} :
    x >>= g = .ok b ↔ ∃ a, x = .ok a ∧ g a = .ok b := by
  cases x <;> simp [bind, Except.bind]

theorem bind_error_iff {x : Except ε α} {g : α → Except ε β} :
    x >>= g = .error e ↔ x = .error e ∨ ∃ a, x = .ok a ∧ g a = .error e := by
  cases x <;> simp [bind, Except.bind]

theorem mapM_cons_ok_iff {x : α} {ys : List β} :
    (x :: xs).mapM f = .ok ys ↔ ∃ y rest, f x = .ok y ∧ xs.mapM f = .ok rest ∧ ys = y :: rest := by
  rw [List.mapM_cons, bind_ok_iff]
  simp only [bind_ok_iff]
  constructor
  · rintro ⟨y, hy, rest, hrest, h⟩
    exact ⟨y, rest, hy, hrest, (Except.ok.inj h).symm⟩
  · rintro ⟨y, rest, hy, hrest, rfl⟩
    exact ⟨y, hy, rest, hrest, rfl⟩

theorem mapM_cons_error_iff {x : α} :
    (x :: xs).mapM f = .error e ↔ f x = .error e ∨ (∃ y, f x = .ok y) ∧ xs.mapM f = .error e := by
  rw [List.mapM_cons, bind_error_iff]
  simp only [bind_error_iff]
  constructor
  · rintro (hx | ⟨y, hy, hxs | ⟨rest, -, h⟩⟩)
    · exact Or.inl hx
    · exact Or.inr ⟨⟨y, hy⟩, hxs⟩
    · cases h
  · rintro (hx | ⟨⟨y, hy⟩, hxs⟩)
    · exact Or.inl hx
    · exact Or.inr ⟨y, hy, Or.inl hxs⟩

theorem mapM_ok_iff {ys : List β} :
    xs.mapM f = .ok ys ↔ List.Forall₂ (fun x y => f x = .ok y) xs ys := by
  induction xs generalizing ys with
  | nil =>
    rw [List.forall₂_nil_left_iff]
    exact ⟨fun h => (Except.ok.inj h).symm, fun h => h ▸ rfl⟩
  | cons x xs ih =>
    rw [mapM_cons_ok_iff, List.forall₂_cons_left_iff]
    simp only [ih]

theorem exists_mem_of_forall₂ {R : α → β → Prop} {ys : List β} (h : List.Forall₂ R xs ys) :
    ∀ y ∈ ys, ∃ x ∈ xs, R x y := by
  induction h with
  | nil => exact nofun
  | @cons x y xs ys hxy _ ih =>
    rw [List.forall_mem_cons]
    refine ⟨⟨x, List.mem_cons_self, hxy⟩, fun z hz => ?_⟩
    obtain ⟨w, hw, hwz⟩ := ih z hz
    exact ⟨w, List.mem_cons_of_mem x hw, hwz⟩

theorem exists_mapM_ok_iff : (∃ ys, xs.mapM f = .ok ys) ↔ ∀ x ∈ xs, ∃ y, f x = .ok y := by
  induction xs with
  | nil => exact ⟨nofun, fun _ => ⟨[], rfl⟩⟩
  | cons x xs ih =>
    rw [List.forall_mem_cons, ← ih]
    constructor
    · rintro ⟨ys, h⟩
      obtain ⟨y, rest, hy, hrest, -⟩ := mapM_cons_ok_iff.mp h
      exact ⟨⟨y, hy⟩, rest, hrest⟩
    · rintro ⟨⟨y, hy⟩, rest, hrest⟩
      exact ⟨y :: rest, mapM_cons_ok_iff.mpr ⟨y, rest, hy, hrest, rfl⟩⟩

/-- The first item without a result decides. -/
theorem mapM_error_iff :
    xs.mapM f = .error e ↔ ∃ before x after, xs = before ++ x :: after ∧
      (∀ y ∈ before, ∃ b, f y = .ok b) ∧ f x = .error e := by
  induction xs with
  | nil =>
    constructor
    · intro h
      cases h
    · rintro ⟨before, x, after, h, -⟩
      exact absurd h.symm (by simp)
  | cons x xs ih =>
    rw [mapM_cons_error_iff, ih]
    constructor
    · rintro (hx | ⟨hx, before, y, after, rfl, hbefore, hy⟩)
      · exact ⟨[], x, xs, rfl, nofun, hx⟩
      · exact ⟨x :: before, y, after, rfl, List.forall_mem_cons.mpr ⟨hx, hbefore⟩, hy⟩
    · rintro ⟨before, y, after, h, hbefore, hy⟩
      cases before with
      | nil =>
        cases h
        exact Or.inl hy
      | cons b before =>
        cases h
        obtain ⟨hb, hbefore⟩ := List.forall_mem_cons.mp hbefore
        exact Or.inr ⟨hb, before, y, after, rfl, hbefore, hy⟩

theorem mapM_reverse_ok_iff {ys : List β} :
    xs.reverse.mapM f = .ok ys ↔ List.Forall₂ (fun x y => f x = .ok y) xs ys.reverse := by
  rw [mapM_ok_iff, ← List.forall₂_reverse_iff, List.reverse_reverse]

theorem mapM_reverse_error_iff :
    xs.reverse.mapM f = .error e ↔ ∃ before x after, xs = before ++ x :: after ∧
      (∀ y ∈ after, ∃ b, f y = .ok b) ∧ f x = .error e := by
  rw [mapM_error_iff]
  constructor
  · rintro ⟨after, x, before, h, hafter, hx⟩
    refine ⟨before.reverse, x, after.reverse, ?_, ?_, hx⟩
    · rw [← List.reverse_reverse xs, h]
      simp
    · simpa using hafter
  · rintro ⟨before, x, after, rfl, hafter, hx⟩
    exact ⟨after.reverse, x, before.reverse, by simp, by simpa using hafter, hx⟩

theorem mapM_map_ok {γ : Type} {write : γ → α} {g : α → Except ε γ} {as : List γ}
    (h : ∀ a ∈ as, g (write a) = .ok a) : (as.map write).mapM g = .ok as := by
  rw [mapM_ok_iff, List.forall₂_map_left_iff, List.forall₂_same]
  exact h

end Shorthand
