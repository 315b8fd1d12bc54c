import Shorthand.Profile
import Shorthand.Proofs.Json.Ordered

/-! # Profiles read from option bags

Each member of an option bag is taken in by itself, so every field of the resulting profile is
decided by the one value under its key. A value of the wrong type leaves the field as it was.
-/

namespace Shorthand

namespace Json

variable {α β : Type} {v : Json}

def texts? : Json → Option (List String)
  | .arr items => items.mapM str?
  | _ => none

/-- An integer of at most 64 bits that is not negative. -/
def word? : Json → Option UInt64
  | .num (.int n) => if 0 ≤ n ∧ n < wordCount then some (.ofNat n.toNat) else none
  | _ => none

namespace Decode

theorem toOption_map (x : Except ShapeError α) (f : α → β) :
    (x.map f).toOption = x.toOption.map f := by
  cases x <;> rfl

theorem toOption_string (v : Json) : (string v).toOption = v.str? := by
  cases v <;> rfl

theorem toOption_bool (v : Json) : (bool v).toOption = v.bool? := by
  cases v <;> rfl

theorem toOption_mapM {f : Decoder α} {g : Json → Option α} (h : ∀ v, (f v).toOption = g v)
    (items : List Json) : (items.mapM f).toOption = items.mapM g := by
  induction items with
  | nil => rfl
  | cons v items ih =>
    rw [List.mapM_cons, List.mapM_cons, ← h, ← ih]
    cases f v with
    | error e => rfl
    | ok a => cases items.mapM f <;> rfl

theorem toOption_texts (v : Json) : (list string v).toOption = v.texts? := by
  cases v with
  | arr items => exact toOption_mapM toOption_string items
  | _ => rfl

theorem toOption_word (v : Json) : (word v).toOption = v.word? := by
  cases v with
  | num x =>
    cases x with
    | int n =>
      simp only [word, word?]
      split
      · rw [if_neg (by omega)]; rfl
      · split
        · rw [if_pos (by omega)]; rfl
        · rw [if_neg (by omega)]; rfl
    | float x => rfl
  | _ => rfl

end Decode

end Json

namespace Profile

open Json

variable {p : Profile} {key : String} {v : Json} {f g : String → Option Json}

/-- The fields take the values under their keys that have the right type; others stay. -/
def withValues (p : Profile) (value? : String → Option Json) : Profile where
  indent := ((value? "indent").bind str?).getD p.indent
  tagCase := ((value? "tagCase").bind str?).getD p.tagCase
  attributeCase := ((value? "attributeCase").bind str?).getD p.attributeCase
  attributeQuotes := ((value? "attributeQuotes").bind str?).getD p.attributeQuotes
  format := ((value? "format").bind bool?).getD p.format
  formatSkip := ((value? "formatSkip").bind texts?).getD p.formatSkip
  formatForce := ((value? "formatForce").bind texts?).getD p.formatForce
  inlineBreak := ((value? "inlineBreak").bind word?).getD p.inlineBreak
  compactBooleanAttributes :=
    ((value? "compactBooleanAttributes").bind bool?).getD p.compactBooleanAttributes
  booleanAttributes := ((value? "booleanAttributes").bind texts?).getD p.booleanAttributes
  selfClosingStyle := ((value? "selfClosingStyle").bind str?).getD p.selfClosingStyle
  inlineElements := ((value? "inlineElements").bind texts?).getD p.inlineElements

/-- Reading one member for a field: null is passed over like any value of the wrong type. -/
def Field.take (f : Field) (p : Profile) (v : Json) : Profile :=
  (if v.isNull then .ok p else f.read p v).toOption.getD p

def accept (p : Profile) (key : String) (v : Json) : Profile :=
  match fields.find? (·.key = key) with
  | some f => f.take p v
  | none => p

def acceptAll (p : Profile) (members : Dict Json) : Profile :=
  members.foldl (fun p e => p.accept e.1 e.2) p

@[simp] theorem acceptAll_nil (p : Profile) : p.acceptAll [] = p :=
  rfl

@[simp] theorem acceptAll_cons (p : Profile) (e : String × Json) (members : Dict Json) :
    p.acceptAll (e :: members) = (p.accept e.1 e.2).acceptAll members :=
  rfl

section Take

variable {α : Type} {read : Decoder α} {read? : Json → Option α} {get : Profile → α}
  {set : Profile → α → Profile}

theorem take_eq (h : ∀ v, (read v).toOption = read? v) (hn : read? .null = none)
    (hset : ∀ p, set p (get p) = p) (write : Profile → Json) (p : Profile) (v : Json) :
    Field.take ⟨key, write, fun p v => (read v).map (set p)⟩ p v =
      set p ((read? v).getD (get p)) := by
  have hv : (if v.isNull then .ok p else (read v).map (set p)).toOption.getD p =
      ((read? v).map (set p)).getD p := by
    cases v with
    | null => rw [hn]; rfl
    | _ => simp only [isNull, Bool.false_eq_true, if_false, Decode.toOption_map, h]
  rw [Field.take, hv]
  cases read? v with
  | none => exact (hset p).symm
  | some a => rfl

end Take

theorem take_textField {get : Profile → String} {set : Profile → String → Profile}
    (hset : ∀ p, set p (get p) = p) (p : Profile) (v : Json) :
    (textField key get set).take p v = set p (v.str?.getD (get p)) :=
  take_eq Decode.toOption_string rfl hset _ p v

theorem take_flagField {get : Profile → Bool} {set : Profile → Bool → Profile}
    (hset : ∀ p, set p (get p) = p) (p : Profile) (v : Json) :
    (flagField key get set).take p v = set p (v.bool?.getD (get p)) :=
  take_eq Decode.toOption_bool rfl hset _ p v

theorem take_listField {get : Profile → List String} {set : Profile → List String → Profile}
    (hset : ∀ p, set p (get p) = p) (p : Profile) (v : Json) :
    (listField key get set).take p v = set p (v.texts?.getD (get p)) :=
  take_eq Decode.toOption_texts rfl hset _ p v

theorem take_wordField {get : Profile → UInt64} {set : Profile → UInt64 → Profile}
    (hset : ∀ p, set p (get p) = p) (p : Profile) (v : Json) :
    (wordField key get set).take p v = set p (v.word?.getD (get p)) :=
  take_eq Decode.toOption_word rfl hset _ p v

theorem accept_of_mem {f : Field} (h : fields.find? (·.key = key) = some f) (p : Profile)
    (v : Json) : p.accept key v = f.take p v := by
  rw [accept, h]

theorem accept_of_unknown (h : fields.find? (·.key = key) = none) (p : Profile) (v : Json) :
    p.accept key v = p := by
  rw [accept, h]

/-- A single member decides the field of its key and no other. -/
theorem accept_eq_withValues (p : Profile) (key : String) (v : Json) :
    p.accept key v = p.withValues fun k => if k = key then some v else none := by
  cases hf : fields.find? (·.key = key) with
  | none =>
    have hk : ∀ k ∈ fields.map (·.key), k ≠ key := by
      intro k hk
      obtain ⟨f, hm, rfl⟩ := List.mem_map.mp hk
      simpa using List.find?_eq_none.mp hf f hm
    rw [accept_of_unknown hf]
    simp only [fields, textField, flagField, listField, wordField, List.map_cons, List.map_nil,
      List.forall_mem_cons] at hk
    simp [withValues, hk]
  | some f =>
    have hm : f ∈ fields := List.mem_of_find?_eq_some hf
    have hk : f.key = key := by simpa using List.find?_some hf
    rw [accept_of_mem hf, ← hk]
    clear hf hk
    simp only [fields, List.mem_cons, List.not_mem_nil, or_false] at hm
    rcases hm with rfl | rfl | rfl | rfl | rfl | rfl | rfl | rfl | rfl | rfl | rfl | rfl <;>
      simp only [take_textField, take_flagField, take_listField, take_wordField, implies_true]
    all_goals
      simp [withValues, textField, flagField, listField, wordField]

theorem withValues_withValues (h : ∀ k, f k = none ∨ g k = none) :
    (p.withValues f).withValues g = p.withValues fun k => (f k).or (g k) := by
  have hget {α : Type} (read? : Json → Option α) (a : α) (k : String) :
      ((g k).bind read?).getD (((f k).bind read?).getD a) =
        (((f k).or (g k)).bind read?).getD a := by
    rcases h k with hk | hk
    · rw [hk]; rfl
    · rw [hk, Option.or_none]; rfl
  simp only [withValues, hget]

/-- Members taken in one after the other decide the fields by their keys. -/
theorem acceptAll_eq_withValues {members : Dict Json} (hm : Dict.Sorted members) (p : Profile) :
    p.acceptAll members = p.withValues (Dict.get? members) := by
  induction members generalizing p with
  | nil => rfl
  | cons e members ih =>
    obtain ⟨key, v⟩ := e
    have hk : ∀ k, (if k = key then some v else none) = none ∨ Dict.get? members k = none := by
      intro k
      by_cases h : k = key
      · exact Or.inr (h ▸ hm.get?_head)
      · exact Or.inl (if_neg h)
    rw [acceptAll_cons, ih hm.tail, accept_eq_withValues, withValues_withValues hk]
    congr 1
    funext k
    rw [Dict.get?_cons]
    split <;> rfl

end Profile

end Shorthand
