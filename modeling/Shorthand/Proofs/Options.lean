import Shorthand.Configuration
import Shorthand.Proofs.Json.LastValue

/-! # Null members of options

Options are read from the members of an object one key at a time, and null under a key counts as
nothing there. So null members may be deleted, with one exception: add-ons that are null hide the
add-ons under their older name.
-/

namespace Shorthand

namespace Json

variable {members : Dict Json}

theorem get?_nonNull (hm : Dict.Sorted members) (key : String) :
    (nonNull members).get? key = (obj members).value? key :=
  Dict.get?_filter _ hm

theorem value?_cases (v : Json) (key : String) :
    v.value? key = v.get? key ∨ (v.get? key = some .null ∧ v.value? key = none) := by
  cases hn : v.value? key with
  | some w => exact Or.inl (value?_eq_some_iff.mp hn).1.symm
  | none =>
    cases hw : v.get? key with
    | none => exact Or.inl rfl
    | some w =>
      have hnull : w.isNull := value?_eq_none_iff.mp hn w hw
      exact Or.inr ⟨congrArg some (isNull_iff.mp hnull), rfl⟩

/-- A reader that takes nothing from null does not tell null from an absent member. -/
theorem bind_value? {α : Type} {f : Json → Option α} (hf : f .null = none) (v : Json)
    (key : String) : (v.value? key).bind f = (v.get? key).bind f := by
  rcases value?_cases v key with h | ⟨hget, h⟩
  · rw [h]
  · rw [h, hget, Option.bind_some, hf]
    rfl

theorem getD_value? (v : Json) (key : String) :
    (v.value? key).getD .null = (v.get? key).getD .null := by
  rcases value?_cases v key with h | ⟨hget, h⟩
  · rw [h]
  · rw [h, hget]
    rfl

end Json

namespace Options

open Json

variable {members : Dict Json}

def eitherAddons (v : Json) : Json :=
  ((v.value? "addons").or (v.value? "options")).getD .null

theorem ofJson_nonNull (hm : Dict.Sorted members) : ofJson (.obj (nonNull members)) =
    { ofJson (.obj members) with addons := eitherAddons (.obj members) } := by
  have hstr := bind_value? (f := str?) rfl (.obj members)
  have htext := bind_value? (f := InsertedText.ofJson?) rfl (.obj members)
  have hraw := getD_value? (.obj members)
  simp only [get?_obj] at hstr htext hraw
  have hobj (d : Dict Json) : ofJson (.obj d) = ofMembers d := rfl
  simp only [hobj, ofMembers, get?_nonNull hm, hstr, htext, hraw, eitherAddons]

theorem addons_ofJson (members : Dict Json) : (ofJson (.obj members)).addons =
    ((members.get? "addons").or (members.get? "options")).getD .null :=
  rfl

theorem eitherAddons_of_null (h : members.get? "addons" = some .null) :
    eitherAddons (.obj members) = (members.get? "options").getD .null := by
  have hn : (obj members).value? "addons" = none := by rw [value?, get?_obj, h]; rfl
  rw [eitherAddons, hn, Option.none_or, getD_value?]
  rfl

theorem eitherAddons_of_ne_null (h : members.get? "addons" ≠ some .null) :
    eitherAddons (.obj members) = (ofJson (.obj members)).addons := by
  have hv : (obj members).value? "addons" = members.get? "addons" := by
    rcases value?_cases (.obj members) "addons" with hv | ⟨hnull, _⟩
    · exact hv
    · exact absurd hnull h
  rw [eitherAddons, hv, addons_ofJson]
  cases members.get? "addons" with
  | none => exact getD_value? (.obj members) "options"
  | some w => rfl

/--
Null members of options may be deleted without any effect but one. Add-ons that are null count as
no add-ons and hide those under the older name, which count once the null is deleted.
-/
theorem resolve_ofJson_nonNull (hm : Dict.Sorted members) :
    let whole := (ofJson (.obj members)).resolve
    let rest := (ofJson (.obj (nonNull members))).resolve
    rest = { whole with addons := rest.addons } ∧
      match members.get? "addons" with
      | some .null =>
        whole.addons = [] ∧ rest.addons = ((members.get? "options").getD .null).members
      | _ => rest.addons = whole.addons := by
  intro whole rest
  have hrest : rest = { whole with addons := (eitherAddons (.obj members)).members } :=
    congrArg resolve (ofJson_nonNull hm)
  have haddons : rest.addons = (eitherAddons (.obj members)).members := congrArg (·.addons) hrest
  have hwhole : whole.addons = (ofJson (.obj members)).addons.members := rfl
  constructor
  · rw [haddons]
    exact hrest
  · split
    · rename_i h
      rw [hwhole, addons_ofJson, haddons, eitherAddons_of_null h, h]
      exact ⟨rfl, rfl⟩
    · rename_i h
      rw [haddons, eitherAddons_of_ne_null h, hwhole]

def nullMembers : Dict Json :=
  [("addons", .null), ("format", .null), ("options", .obj [("jsx", .bool true)]),
    ("syntax", .str "scss"), ("text", .null), ("type", .null), ("variables", .null)]

theorem resolve_ofJson_nonNull_nullMembers :
    Dict.Sorted nullMembers ∧ (ofJson (.obj (nonNull nullMembers))).resolve =
      { (ofJson (.obj nullMembers)).resolve with addons := [("jsx", .bool true)] } := by
  have hm : Dict.Sorted nullMembers := by decide
  obtain ⟨hrest, -, haddons⟩ := resolve_ofJson_nonNull hm
  refine ⟨hm, hrest.trans ?_⟩
  rw [haddons]
  rfl

/-- The add-ons are lost under the null, and nothing is reported. -/
theorem addons_lost_under_null :
    Dict.Sorted nullMembers ∧ (ofJson (.obj nullMembers)).resolve.addons = [] ∧
      (ofJson (.obj (nonNull nullMembers))).resolve.addons = [("jsx", .bool true)] ∧
      jsonNotes (.obj nullMembers) = [] ∧ (ofJson (.obj nullMembers)).resolveNotes = [] :=
  ⟨by decide, rfl, rfl, rfl, rfl⟩

end Options

end Shorthand
