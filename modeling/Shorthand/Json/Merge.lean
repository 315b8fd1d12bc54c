import Shorthand.Json.Basic

/-! # Deep merge

Layers of option bags are combined left to right. Objects merge member by member, null leaves
what is there, and any other value replaces it.
-/

namespace Shorthand.Json

mutual

def mergeInto (base : Json) : Json → Json
  | .null => base
  | .obj overlay => match base with
    | .obj members => .obj (mergeMembers members overlay)
    | _ => .obj overlay
  | overlay => overlay

def mergeMembers (base : Dict Json) : List (String × Json) → Dict Json
  | [] => base
  | (key, v) :: overlay =>
    mergeMembers
      (match base.get? key with
        | some old => base.insert key (mergeInto old v)
        | none => if v.isNull then base else base.insert key v)
      overlay

end

/-- Merges the layers that are objects; the others take no part. -/
def mergeLayers (layers : List Json) : Json :=
  (layers.filter isObj).foldl mergeInto (.obj [])

/-- The base after each of the overlays. -/
def mergeSteps (base : Json) (overlays : List Json) : List Json :=
  (overlays.foldl (fun (steps, v) o => let v := mergeInto v o; (v :: steps, v)) ([], base)).1.reverse

end Shorthand.Json
