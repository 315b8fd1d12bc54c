import Shorthand.Json.Basic
import Shorthand.Number.Shortest
import Shorthand.Number.Word
import Shorthand.Text.Quoted

/-! # Reading values of a given shape

Records are read from objects, whose members are visited in key order and whose unknown members
are ignored, or from lists of their fields in declaration order. The first fault is reported.
-/

namespace Shorthand.Json

inductive ShapeError where
  | type (found : Json) (expected : String)
  | negative (n : Int)
  | duplicateField (name : String)
  | missingField (name : String)
  | tooMany (count : Nat)
  | tooFew (count : Nat) (expected : String)
  | severalKeys
  | unknownVariant (name : String) (variants : List String)

namespace ShapeError

def found : Json → String
  | .null => "null"
  | .bool true => "boolean `true`"
  | .bool false => "boolean `false`"
  | .num (.int n) => "integer `" ++ toString n ++ "`"
  | .num (.float x) => "floating point `" ++ x.text ++ "`"
  | .str s => "string " ++ Text.quoted s
  | .arr _ => "sequence"
  | .obj _ => "map"

def quotedName (name : String) : String :=
  "`" ++ name ++ "`"

def message : ShapeError → String
  | .type v expected => "invalid type: " ++ found v ++ ", expected " ++ expected
  | .negative n => "invalid value: integer `" ++ toString n ++ "`, expected usize"
  | .duplicateField name => "duplicate field " ++ quotedName name
  | .missingField name => "missing field " ++ quotedName name
  | .tooMany count =>
    "invalid length " ++ toString count ++ ", expected fewer elements in array"
  | .tooFew count expected => "invalid length " ++ toString count ++ ", expected " ++ expected
  | .severalKeys => "invalid value: map, expected map with a single key"
  | .unknownVariant name variants =>
    "unknown variant " ++ quotedName name ++ ", expected " ++
      " or ".intercalate (variants.map quotedName)

end ShapeError

abbrev Decoder (α : Type) := Json → Except ShapeError α

namespace Decode

def string : Decoder String
  | .str s => .ok s
  | v => .error (.type v "a string")

def bool : Decoder Bool
  | .bool b => .ok b
  | v => .error (.type v "a boolean")

/-- A 64-bit word, written as an integer. -/
def word : Decoder UInt64
  | .num (.int n) =>
    if n < 0 then .error (.negative n)
    else if n < wordCount then .ok (.ofNat n.toNat)
    else .error (.type (.ofInt n) "usize")
  | v => .error (.type v "usize")

def unit : Decoder Unit
  | .null => .ok ()
  | v => .error (.type v "unit")

def option (f : Decoder α) : Decoder (Option α)
  | .null => .ok none
  | v => (f v).map some

def list (f : Decoder α) : Decoder (List α)
  | .arr items => items.mapM f
  | v => .error (.type v "a sequence")

def dict (f : Decoder α) : Decoder (Dict α)
  | .obj members => members.mapM fun e => (f e.2).map (e.1, ·)
  | v => .error (.type v "a map")

/-- The fields of a record: names with the step that takes in a value. -/
abbrev Fields (α : Type) := List (String × (α → Decoder α))

/-- Takes in the fields that are present, starting from `start`. -/
def record (name : String) (fields : Fields α) (start : α) : Decoder α
  | .obj members =>
    members.foldlM (fun a e => match fields.lookup e.1 with
      | some step => step a e.2
      | none => .ok a) start
  | .arr items => do
    let a ← (fields.zip items).foldlM (fun a e => e.1.2 a e.2) start
    if fields.length < items.length then .error (.tooMany items.length) else .ok a
  | v => .error (.type v ("struct " ++ name))

/-- A field that holds what `f` reads. -/
def field (name : String) (f : Decoder β) (set : α → β → α) : String × (α → Decoder α) :=
  (name, fun a v => (f v).map (set a))

/-- One of several names, or an object with one of them as its only key and null under it. -/
def variant (variants : List (String × α)) : Decoder α
  | .str s => pick s
  | .obj [] => .error .severalKeys
  | .obj [(key, v)] => do
    let a ← pick key
    unit v
    return a
  | .obj _ => .error .severalKeys
  | v => .error (.type v "string or map")
where
  pick (name : String) : Except ShapeError α :=
    match variants.lookup name with
    | some a => .ok a
    | none => .error (.unknownVariant name (variants.map Prod.fst))

end Decode

end Shorthand.Json
