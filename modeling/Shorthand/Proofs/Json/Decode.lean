import Shorthand.Json.Decode
import Shorthand.Proofs.Except
import Shorthand.Proofs.Json.Ordered

/-! # Records that are read

What all fields of a record preserve holds of every record that is read. The entries of a
dictionary that is read come from the values below an object. A reader that takes back what is
written for a value also does so for an optional value, a list and a dictionary of values.
-/

namespace Shorthand.Json

def children : Json → List Json
  | .arr items => items
  | .obj members => members.map (·.2)
  | _ => []

theorem Ordered.of_mem_children {v w : Json} (hv : v.Ordered) (hw : w ∈ v.children) :
    w.Ordered := by
  cases v with
  | arr items => exact ordered_arr_iff.mp hv w hw
  | obj members =>
    obtain ⟨e, he, rfl⟩ := List.mem_map.mp hw
    exact (ordered_obj_iff.mp hv).2 e he
  | _ => cases hw

namespace Decode

variable {α β : Type} {v : Json}

theorem foldlM_induct {γ : Type} {f : β → γ → Except ShapeError β} {P : β → Prop} {xs : List γ}
    {b c : β} (hb : P b) (hstep : ∀ x ∈ xs, ∀ b c, P b → f b x = .ok c → P c)
    (h : xs.foldlM f b = .ok c) : P c := by
  induction xs generalizing b with
  | nil => cases h; exact hb
  | cons x xs ih =>
    obtain ⟨hx, hxs⟩ := List.forall_mem_cons.mp hstep
    obtain ⟨d, hd, h⟩ := bind_ok_iff.mp h
    exact ih (hx b d hb hd) hxs h

theorem option_ok {f : Decoder α} {o : Option α} (h : option f v = .ok o) :
    ∀ a ∈ o, f v = .ok a := by
  cases v with
  | null => cases h; exact nofun
  | _ =>
    obtain ⟨b, hb, rfl⟩ := map_ok_iff.mp h
    rintro a ⟨⟩
    exact hb

theorem dict_obj_ok_iff {f : Decoder α} {members : Dict Json} {d : Dict α} :
    dict f (.obj members) = .ok d ↔
      List.Forall₂ (fun m e => ∃ a, f m.2 = .ok a ∧ (m.1, a) = e) members d := by
  change members.mapM (fun e => (f e.2).map (e.1, ·)) = .ok d ↔ _
  rw [mapM_ok_iff]
  simp only [map_ok_iff]

theorem dict_ok {f : Decoder α} {d : Dict α} (h : dict f v = .ok d) :
    ∀ e ∈ d, ∃ w ∈ v.children, f w = .ok e.2 := by
  cases v with
  | obj members =>
    intro e he
    obtain ⟨m, hm, a, ha, rfl⟩ := exists_mem_of_forall₂ (dict_obj_ok_iff.mp h) e he
    exact ⟨m.2, List.mem_map_of_mem hm, ha⟩
  | _ => cases h

theorem keys_dict {f : Decoder α} {d : Dict α} (h : dict f v = .ok d) :
    Dict.keys d = Dict.keys v.members := by
  cases v with
  | obj members =>
    have hkeys : List.Forall₂ (· = ·) (members.map (·.1)) (d.map (·.1)) := by
      rw [List.forall₂_map_left_iff, List.forall₂_map_right_iff]
      refine (dict_obj_ok_iff.mp h).imp ?_
      rintro m e ⟨a, -, rfl⟩
      rfl
    rw [List.forall₂_eq_eq_eq] at hkeys
    exact hkeys.symm
  | _ => cases h

theorem sorted_dict {f : Decoder α} {d : Dict α} (hv : v.Ordered) (h : dict f v = .ok d) :
    Dict.Sorted d :=
  Dict.sorted_of_keys _ (keys_dict h) hv.sorted_members.keys_pairwise

theorem field_ok {name : String} {f : Decoder β} {set : α → β → α} {a b : α} {w : Json}
    (h : (field name f set).2 a w = .ok b) : ∃ x, f w = .ok x ∧ set a x = b :=
  map_ok_iff.mp h

/-- A property of the initial record that every field preserves holds of the record read. -/
theorem record_induct {name : String} {fields : Fields α} {start a : α} {P : α → Prop}
    (hstart : P start)
    (hstep : ∀ field ∈ fields, ∀ w ∈ v.children, ∀ a b, P a → field.2 a w = .ok b → P b)
    (h : record name fields start v = .ok a) : P a := by
  cases v with
  | obj members =>
    refine foldlM_induct hstart (fun e he b c hb hc => ?_) h
    have hw : e.2 ∈ (obj members).children := List.mem_map_of_mem he
    cases hf : fields.lookup e.1 with
    | none =>
      rw [hf] at hc
      cases hc; exact hb
    | some step =>
      rw [hf] at hc
      exact hstep (e.1, step) (Dict.mem_of_get? hf) e.2 hw b c hb hc
  | arr items =>
    obtain ⟨b, hb, h⟩ := bind_ok_iff.mp h
    split at h
    · cases h
    · cases h
      refine foldlM_induct hstart (fun e he b c hb hc => ?_) hb
      obtain ⟨hfield, hitem⟩ := List.of_mem_zip he
      exact hstep e.1 hfield e.2 hitem b c hb hc
  | _ => cases h

/-- The reader takes every value back from what is written for it. -/
def ReadsBack (f : Decoder α) (write : α → Json) : Prop :=
  ∀ a, f (write a) = .ok a

theorem readsBack_string : ReadsBack string .str :=
  fun _ => rfl

theorem readsBack_bool : ReadsBack bool .bool :=
  fun _ => rfl

theorem readsBack_word : ReadsBack word fun n => .ofInt n.toNat := by
  intro n
  have hn : ¬ (n.toNat : Int) < 0 := by omega
  have hlt : (n.toNat : Int) < wordCount := Int.ofNat_lt.mpr n.toNat_lt
  change word (.num (.int n.toNat)) = .ok n
  rw [word, if_neg hn, if_pos hlt, Int.toNat_natCast, UInt64.ofNat_toNat]

section ReadsBack

variable {f : Decoder α} {write : α → Json}

theorem readsBack_option (h : ReadsBack f write) (hn : ∀ a, write a ≠ .null) :
    ReadsBack (option f) (ofOption write) := by
  rintro (_ | a)
  · rfl
  · have hw : option f (write a) = (f (write a)).map some := by
      rw [option.eq_def]
      split
      · exact absurd ‹_› (hn a)
      · rfl
    rw [ofOption, hw, h a]
    rfl

theorem readsBack_list (h : ReadsBack f write) :
    ReadsBack (list f) fun as => .arr (as.map write) :=
  fun _ => mapM_map_ok fun a _ => h a

theorem readsBack_dict (h : ReadsBack f write) :
    ReadsBack (dict f) fun d => .obj (Dict.mapValues write d) := by
  intro d
  rw [dict_obj_ok_iff, Dict.mapValues, List.forall₂_map_left_iff, List.forall₂_same]
  exact fun e _ => ⟨e.2, h e.2, rfl⟩

/-- A member for a field is set in the record, which is read on from there. -/
theorem record_obj_cons {fields : Fields α} {key : String} {g : Decoder β} {set : α → β → α}
    {w : Json} {b : β} (hf : fields.lookup key = some (field key g set).2) (hw : g w = .ok b)
    (name : String) (start : α) (members : Dict Json) :
    record name fields start (.obj ((key, w) :: members)) =
      record name fields (set start b) (.obj members) := by
  have hstep : (field key g set).2 start w = .ok (set start b) := map_ok_iff.mpr ⟨b, hw, rfl⟩
  rw [record, List.foldlM_cons]
  simp only [hf, hstep]
  rfl

end ReadsBack

end Decode

end Shorthand.Json
