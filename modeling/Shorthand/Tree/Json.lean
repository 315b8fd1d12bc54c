import Shorthand.Json.Decode
import Shorthand.Tree.Basic

/-! # Trees as JSON

Absent and empty parts are left out when a tree is written and restored when it is read.
-/

namespace Shorthand

open Json

namespace Attribute

def toJson (a : Attribute) : Json :=
  .obj (("name", .str a.name) :: match a.value with
    | some v => [("value", .str v)]
    | none => [])

/-- The fields read so far. -/
structure Draft where
  name : Option String := none
  value : Option String := none

def decode : Decoder Attribute := fun v => do
  let fields := [
    Decode.field "name" Decode.string fun (d : Draft) s => { d with name := some s },
    Decode.field "value" (Decode.option Decode.string) fun d s => { d with value := s }]
  let d ← Decode.record "Attribute" fields {} v
  match d.name, v with
  | some name, _ => return { name, value := d.value }
  | none, .arr _ => throw (.tooFew 0 "struct Attribute with 2 elements")
  | none, _ => throw (.missingField "name")

end Attribute

namespace Node

mutual

def toJson : Node → Json
  | ⟨name, value, attributes, children⟩ =>
    .obj (
      (if attributes.isEmpty then [] else [("attributes", .arr (attributes.map (·.toJson)))]) ++
      (if children.isEmpty then [] else [("children", .arr (toJsonAll children))]) ++
      (match name with | some s => [("name", .str s)] | none => []) ++
      (match value with | some s => [("value", .str s)] | none => []))

def toJsonAll : List Node → List Json
  | [] => []
  | n :: nodes => n.toJson :: toJsonAll nodes

end

/-- A field that holds no nodes. -/
def decodeOwn (n : Node) (key : String) (v : Json) : Except ShapeError Node :=
  match key with
  | "name" => (Decode.option Decode.string v).map fun name => { n with name }
  | "value" => (Decode.option Decode.string v).map fun value => { n with value }
  | "attributes" => (Decode.list Attribute.decode v).map fun attributes => { n with attributes }
  | "children" => .error (.type v "a sequence")
  | _ => .ok n

mutual

def decode : Json → Except ShapeError Node
  | .obj members => decodeMembers {} members
  | .arr items => do
    let n ← decodeFields {} ["name", "value", "attributes", "children"] items
    if 4 < items.length then .error (.tooMany items.length) else .ok n
  | .null => .error (.type .null "struct Node")
  | .bool b => .error (.type (.bool b) "struct Node")
  | .num n => .error (.type (.num n) "struct Node")
  | .str s => .error (.type (.str s) "struct Node")

def decodeMembers (n : Node) : List (String × Json) → Except ShapeError Node
  | [] => .ok n
  | (key, v) :: members => do decodeMembers (← decodeField n key v) members

/-- Takes values for the named fields in turn. -/
def decodeFields (n : Node) (fields : List String) : List Json → Except ShapeError Node
  | [] => .ok n
  | v :: items => match fields with
    | [] => .ok n
    | key :: fields => do decodeFields (← decodeField n key v) fields items

def decodeField (n : Node) (key : String) : Json → Except ShapeError Node
  | .arr items =>
    if key = "children" then (decodeAll items).map fun children => { n with children }
    else decodeOwn n key (.arr items)
  | .null => decodeOwn n key .null
  | .bool b => decodeOwn n key (.bool b)
  | .num x => decodeOwn n key (.num x)
  | .str s => decodeOwn n key (.str s)
  | .obj members => decodeOwn n key (.obj members)

def decodeAll : List Json → Except ShapeError (List Node)
  | [] => .ok []
  | v :: items => do return (← decode v) :: (← decodeAll items)

end

end Node

end Shorthand
