import Shorthand.Proofs.Profile.Trial

/-! # Profiles that are written

The bag that is written for a profile holds a readable value for every field. So the same profile is
read from it, whether the members are tried one by one on the defaults or the bag is read at once,
and no member is left out.
-/

namespace Shorthand.Profile

open Json

theorem get?_members (p : Profile) : ∀ f ∈ fields, p.members.get? f.key = some (f.write p) := by
  intro f hf
  exact Dict.get?_of_mem (readable_members p).sorted (List.mem_map_of_mem hf)

theorem texts?_arr (ss : List String) : (arr (ss.map .str)).texts? = some ss := by
  have h := Decode.readsBack_list Decode.readsBack_string ss
  rw [← Decode.toOption_texts, h]
  rfl

theorem word?_ofInt (n : UInt64) : (ofInt n.toNat).word? = some n := by
  have h : Decode.word (ofInt n.toNat) = .ok n := Decode.readsBack_word n
  rw [← Decode.toOption_word, h]
  rfl

theorem withValues_members (p q : Profile) : q.withValues (Dict.get? p.members) = p := by
  have hget := get?_members p
  simp only [fields, List.forall_mem_cons, textField, flagField, listField, wordField] at hget
  -- steps by definition would have the kernel count up to the bound of a word
  simp -implicitDefEqProofs only [withValues, hget, Option.bind_some, str?, bool?, texts?_arr,
    word?_ofInt, Option.getD_some]

theorem acceptAll_members (p q : Profile) : q.acceptAll p.members = p := by
  rw [acceptAll_eq_withValues (readable_members p).sorted, withValues_members]

theorem ofOptions_toJson (p : Profile) : ofOptions p.toJson = p :=
  (ofMembers_eq_acceptAll p.members).trans (acceptAll_members p {})

theorem decode_toJson (p : Profile) : decode p.toJson = .ok p := by
  rw [toJson, decode_obj, forM_check_of_ok (readable_members p).check, acceptAll_members]
  rfl

theorem notes_toJson (p : Profile) : notes p.toJson = [] := by
  rw [toJson, notes_obj, List.flatMap_eq_nil_iff]
  intro e he
  rw [(readable_members p).check e (List.mem_filter.mp he).1]

/--
A profile is read back from what is written for it, with nothing left out on the way. So writing
the profile that any options give and reading it again changes nothing.
-/
theorem reread_written :
    (∀ p : Profile, ofOptions p.toJson = p ∧ decode p.toJson = .ok p ∧ notes p.toJson = []) ∧
      ∀ v, ofOptions (ofOptions v).toJson = ofOptions v := by
  constructor
  · intro p
    exact ⟨ofOptions_toJson p, decode_toJson p, notes_toJson p⟩
  · intro v
    exact ofOptions_toJson (ofOptions v)

end Shorthand.Profile
