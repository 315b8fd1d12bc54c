import Shorthand.Dict
import Shorthand.Number.Binary64

/-! # JSON values

Integers and doubles are kept apart, and the members of an object stand in key order.
-/

namespace Shorthand

inductive Json.Number where
  | int (n : Int)
  | float (x : Binary64)
  deriving DecidableEq, Repr

inductive Json where
  | null
  | bool (b : Bool)
  | num (n : Json.Number)
  | str (s : String)
  | arr (items : List Json)
  | obj (members : List (String × Json))
  deriving Repr

namespace Json

instance : Inhabited Json := ⟨.null⟩

def ofInt (n : Int) : Json := .num (.int n)

def isNull : Json → Bool
  | .null => true
  | _ => false

def isObj : Json → Bool
  | .obj _ => true
  | _ => false

def str? : Json → Option String
  | .str s => some s
  | _ => none

def bool? : Json → Option Bool
  | .bool b => some b
  | _ => none

def arr? : Json → Option (List Json)
  | .arr items => some items
  | _ => none

def obj? : Json → Option (Dict Json)
  | .obj members => some members
  | _ => none

/-- The members of an object; no members for any other value. -/
def members (v : Json) : Dict Json :=
  v.obj?.getD []

def get? (v : Json) (key : String) : Option Json :=
  v.members.get? key

/-- The value reached from `v` along a path of keys. -/
def at? (v : Json) : List String → Option Json
  | [] => some v
  | key :: path => match v.get? key with
    | some w => w.at? path
    | none => none

/-- An absent value is written as null. -/
def ofOption (f : α → Json) : Option α → Json
  | some a => f a
  | none => .null

/-- An object from members in any order. -/
def object (members : List (String × Json)) : Json :=
  .obj (Dict.ofList members)

mutual

/-- Every object in the value lists its members by strictly increasing key. -/
def Ordered : Json → Prop
  | .arr items => OrderedItems items
  | .obj members => Dict.Sorted members ∧ OrderedMembers members
  | _ => True

def OrderedItems : List Json → Prop
  | [] => True
  | v :: items => v.Ordered ∧ OrderedItems items

def OrderedMembers : List (String × Json) → Prop
  | [] => True
  | (_, v) :: members => v.Ordered ∧ OrderedMembers members

end

end Json

end Shorthand
