import Mathlib.Data.String.Basic

/-! # Texts and their octets

Texts are compared by code points. Their octets in UTF-8 stand in the same order, because the
octets of a smaller character come before those of a greater one whatever follows either. A slice
between two octets is a part of the text when both lie between characters.
-/

namespace Shorthand.Text

def octets (s : String) : List UInt8 :=
  s.toUTF8.data.toList

theorem octets_eq_flatMap (s : String) : octets s = s.toList.flatMap String.utf8EncodeChar := by
  rw [octets, String.toUTF8_eq_toByteArray, ← String.utf8Encode_toList, List.utf8Encode,
    List.data_toByteArray]

theorem codePoint_lt (c : Char) : c.val.toNat < 0x110000 := by
  have h := c.valid
  simp only [UInt32.isValidChar, Nat.isValidChar] at h
  omega

theorem utf8EncodeChar_append_lt {c d : Char} (h : c < d) (s t : List UInt8) :
    String.utf8EncodeChar c ++ s < String.utf8EncodeChar d ++ t := by
  have hlt : c.val.toNat < d.val.toNat := h
  have hc := codePoint_lt c
  have hd := codePoint_lt d
  simp only [String.utf8EncodeChar]
  generalize c.val.toNat = m at *
  generalize d.val.toNat = n at *
  split_ifs <;> simp (disch := omega) only [List.cons_append, List.nil_append,
    List.cons_lt_cons_iff, UInt8.lt_iff_toNat_lt, ← UInt8.toNat_inj, UInt8.toNat_ofNat',
    Nat.reducePow, Nat.mod_eq_of_lt] <;> omega

theorem flatMap_utf8EncodeChar_lt {s t : List Char} (h : s < t) :
    s.flatMap String.utf8EncodeChar < t.flatMap String.utf8EncodeChar := by
  induction s generalizing t with
  | nil =>
    cases t with
    | nil => exact absurd h (List.not_lt_nil [])
    | cons d t =>
      obtain ⟨x, xs, hx⟩ := List.exists_cons_of_ne_nil (String.utf8EncodeChar_ne_nil (c := d))
      rw [List.flatMap_nil, List.flatMap_cons, hx]
      exact List.nil_lt_cons x _
  | cons c s ih =>
    cases t with
    | nil => exact absurd h (List.not_lt_nil _)
    | cons d t =>
      rw [List.flatMap_cons, List.flatMap_cons]
      rcases List.cons_lt_cons_iff.mp h with hcd | ⟨rfl, hst⟩
      · exact utf8EncodeChar_append_lt hcd _ _
      · exact List.append_left_lt (ih hst)

theorem octets_lt_of_lt {s t : String} (h : s < t) : octets s < octets t := by
  rw [octets_eq_flatMap, octets_eq_flatMap]
  exact flatMap_utf8EncodeChar_lt (String.lt_iff.mp h)

/-- The order of texts is the order of their octets. -/
theorem octets_lt_iff {s t : String} : octets s < octets t ↔ s < t := by
  refine ⟨fun h => ?_, octets_lt_of_lt⟩
  by_contra hst
  rcases eq_or_lt_of_le (not_lt.mp hst) with rfl | hts
  · exact List.lt_irrefl _ h
  · exact List.lt_asymm h (octets_lt_of_lt hts)

def octetCount (s : List Char) : Nat :=
  (octets (.ofList s)).length

theorem octetCount_append (s t : List Char) :
    octetCount (s ++ t) = octetCount s + octetCount t := by
  simp only [octetCount, octets_eq_flatMap, String.toList_ofList, List.flatMap_append,
    List.length_append]

/-- From octet `i` up to octet `j` the text is `t`, and both lie between characters. -/
def IsSlice (s : List Char) (i j : Nat) (t : List Char) : Prop :=
  ∃ before after, s = before ++ t ++ after ∧ octetCount before = i ∧ octetCount (before ++ t) = j

end Shorthand.Text
