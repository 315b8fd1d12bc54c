import Shorthand.Dict

/-! # Laws of dictionaries

Insertion, erasure and filtering keep the keys increasing. A dictionary whose keys increase is
determined by its lookups.
-/

namespace Shorthand.Dict

variable {α : Type u} {d e : Dict α} {key k : String} {a b : α}

theorem sorted_nil : Sorted ([] : Dict α) :=
  List.Pairwise.nil

theorem sorted_cons_iff :
    Sorted ((key, a) :: d) ↔ (∀ x ∈ d, key < x.1) ∧ Sorted d :=
  List.pairwise_cons

theorem sorted_of_keys (names : List String) (hk : keys d = names) (h : names.Pairwise (· < ·)) :
    Sorted d :=
  List.pairwise_map.mp (hk ▸ h : (keys d).Pairwise (· < ·))

theorem Sorted.keys_pairwise (h : Sorted d) : (keys d).Pairwise (· < ·) :=
  List.pairwise_map.mpr h

theorem Sorted.tail (h : Sorted ((key, a) :: d)) : Sorted d :=
  (sorted_cons_iff.mp h).2

theorem get?_eq_none_of_lt (h : ∀ x ∈ d, key < x.1) : get? d key = none := by
  induction d with
  | nil => rfl
  | cons x d ih =>
    have hx : key ≠ x.1 := String.ne_of_lt (h x List.mem_cons_self)
    rw [show x = (x.1, x.2) from rfl, get?_cons, if_neg hx]
    exact ih fun y hy => h y (List.mem_cons_of_mem x hy)

theorem Sorted.get?_head (h : Sorted ((key, a) :: d)) : get? d key = none :=
  get?_eq_none_of_lt (sorted_cons_iff.mp h).1

theorem mem_of_get? (h : get? d key = some a) : (key, a) ∈ d := by
  induction d with
  | nil => simp at h
  | cons x d ih =>
    obtain ⟨k, b⟩ := x
    rw [get?_cons] at h
    split at h
    · obtain rfl := Option.some.inj h
      subst key; exact List.mem_cons_self
    · exact List.mem_cons_of_mem _ (ih h)

theorem get?_of_mem (hd : Sorted d) (h : (key, a) ∈ d) : get? d key = some a := by
  induction d with
  | nil => simp at h
  | cons x d ih =>
    obtain ⟨k, b⟩ := x
    rw [get?_cons]
    rcases List.mem_cons.mp h with he | h
    · obtain ⟨rfl, rfl⟩ := Prod.mk.inj he
      exact if_pos rfl
    · have hlt : k < key := (sorted_cons_iff.mp hd).1 _ h
      rw [if_neg (Ne.symm (String.ne_of_lt hlt)), ih hd.tail h]

theorem get?_eq_some_iff (hd : Sorted d) : get? d key = some a ↔ (key, a) ∈ d :=
  ⟨mem_of_get?, get?_of_mem hd⟩

theorem mem_insert {x : String × α} (h : x ∈ insert key a d) : x = (key, a) ∨ x ∈ d := by
  induction d with
  | nil => exact Or.inl (List.mem_singleton.mp h)
  | cons y d ih =>
    rw [insert] at h
    split at h
    · rcases List.mem_cons.mp h with h | h
      · exact Or.inl h
      · exact Or.inr (List.mem_cons_of_mem _ h)
    · split at h
      · exact List.mem_cons.mp h
      · rcases List.mem_cons.mp h with h | h
        · exact Or.inr (h ▸ List.mem_cons_self)
        · exact (ih h).imp_right (List.mem_cons_of_mem _)

theorem sorted_insert (key : String) (a : α) (hd : Sorted d) : Sorted (insert key a d) := by
  induction d with
  | nil => exact List.pairwise_singleton _ _
  | cons x d ih =>
    obtain ⟨k, b⟩ := x
    obtain ⟨hlt, hd⟩ := sorted_cons_iff.mp hd
    rw [insert]
    split
    · subst key
      exact sorted_cons_iff.mpr ⟨hlt, hd⟩
    · split
      · rename_i hk
        refine sorted_cons_iff.mpr ⟨fun y hy => ?_, sorted_cons_iff.mpr ⟨hlt, hd⟩⟩
        rcases List.mem_cons.mp hy with rfl | hy
        · exact hk
        · exact String.lt_trans hk (hlt y hy)
      · rename_i hne hnlt
        refine sorted_cons_iff.mpr ⟨fun y hy => ?_, ih hd⟩
        rcases mem_insert hy with rfl | hy
        · exact Std.lt_of_le_of_ne (String.not_lt.mp hnlt) (Ne.symm hne)
        · exact hlt y hy

theorem sorted_ofList (entries : List (String × α)) : Sorted (ofList entries) := by
  suffices h : ∀ d : Dict α, Sorted d →
      Sorted (entries.foldl (fun d e => insert e.1 e.2 d) d) from h [] sorted_nil
  induction entries with
  | nil => exact fun d hd => hd
  | cons x entries ih => exact fun d hd => ih _ (sorted_insert x.1 x.2 hd)

theorem mem_ofList {entries : List (String × α)} {x : String × α} (h : x ∈ ofList entries) :
    x ∈ entries := by
  suffices hf : ∀ d : Dict α, x ∈ entries.foldl (fun d e => insert e.1 e.2 d) d →
      x ∈ entries ∨ x ∈ d by
    rcases hf [] h with h | h
    · exact h
    · cases h
  clear h
  induction entries with
  | nil => exact fun d hd => Or.inr hd
  | cons y entries ih =>
    intro d hd
    rcases ih _ hd with h | h
    · exact Or.inl (List.mem_cons_of_mem y h)
    · rcases mem_insert h with rfl | h
      · exact Or.inl List.mem_cons_self
      · exact Or.inr h

theorem sorted_filter (p : String × α → Bool) (hd : Sorted d) : Sorted (d.filter p) :=
  List.Pairwise.filter p hd

theorem get?_erase_of_ne (h : k ≠ key) (d : Dict α) : get? (erase d key) k = get? d k := by
  induction d with
  | nil => rfl
  | cons x d ih =>
    obtain ⟨l, b⟩ := x
    rw [get?_cons, ← ih]
    by_cases hl : l = key
    · have hk : k ≠ l := hl ▸ h
      rw [if_neg hk, erase, List.filter_cons_of_neg (by simpa using hl)]
      rfl
    · rw [erase, List.filter_cons_of_pos (by simpa using hl), get?_cons]
      rfl

theorem contains_iff_mem_keys : contains d key ↔ key ∈ keys d := by
  induction d with
  | nil => simp [contains, keys]
  | cons x d ih =>
    obtain ⟨l, a⟩ := x
    have hk : key ∈ keys ((l, a) :: d) ↔ key = l ∨ key ∈ keys d := List.mem_cons
    rw [hk, ← ih, contains, contains, get?_cons]
    split <;> simp [*]

theorem not_mem_keys_erase (key : String) (d : Dict α) : key ∉ keys (erase d key) := by
  intro h
  obtain ⟨x, hx, hk⟩ := List.mem_map.mp h
  have hne : x.1 ≠ key := by simpa using (List.mem_filter.mp hx).2
  exact hne hk

theorem get?_filter (p : String × α → Bool) (hd : Sorted d) :
    get? (d.filter p) k = (get? d k).filter fun a => p (k, a) := by
  refine Option.ext fun a => ?_
  rw [get?_eq_some_iff (sorted_filter p hd), List.mem_filter, Option.filter_eq_some_iff,
    get?_eq_some_iff hd]

@[simp] theorem get?_mapValues {β : Type v} (f : α → β) (d : Dict α) (k : String) :
    get? (mapValues f d) k = (get? d k).map f := by
  induction d with
  | nil => rfl
  | cons x d ih =>
    obtain ⟨l, a⟩ := x
    have hmap : mapValues f ((l, a) :: d) = (l, f a) :: mapValues f d := rfl
    rw [hmap, get?_cons, get?_cons, ih]
    split <;> rfl

theorem sorted_mapValues {β : Type v} (f : α → β) (hd : Sorted d) : Sorted (mapValues f d) :=
  sorted_of_keys (keys d) List.map_map hd.keys_pairwise

theorem Sorted.ext (hd : Sorted d) (he : Sorted e) (h : ∀ k, get? d k = get? e k) : d = e := by
  induction d generalizing e with
  | nil =>
    cases e with
    | nil => rfl
    | cons y e =>
      obtain ⟨k, b⟩ := y
      simpa [get?_cons] using h k
  | cons x d ih =>
    obtain ⟨k, a⟩ := x
    cases e with
    | nil => simpa [get?_cons] using h k
    | cons y e =>
      obtain ⟨l, b⟩ := y
      have hk : (k, a) ∈ (l, b) :: e := mem_of_get? ((h k).symm.trans (by simp [get?_cons]))
      have hl : (l, b) ∈ (k, a) :: d := mem_of_get? ((h l).trans (by simp [get?_cons]))
      have hxy : (k, a) = (l, b) := by
        rcases List.mem_cons.mp hk with hx | hk
        · exact hx
        · rcases List.mem_cons.mp hl with hy | hl
          · exact hy.symm
          · have hlk : l < k := (sorted_cons_iff.mp he).1 _ hk
            have hkl : k < l := (sorted_cons_iff.mp hd).1 _ hl
            exact absurd hlk (String.lt_asymm hkl)
      obtain ⟨rfl, rfl⟩ := Prod.mk.inj hxy
      rw [ih hd.tail he.tail fun m => ?_]
      by_cases hm : m = k
      · rw [hm, hd.get?_head, he.get?_head]
      · simpa [get?_cons, hm] using h m

end Shorthand.Dict
