/-! # Abbreviation trees

A tree of named nodes and unnamed groups, each with a value, attributes and children.
-/

namespace Shorthand

structure Attribute where
  name : String
  /-- A bare attribute has no value. -/
  value : Option String := none
  deriving DecidableEq, Repr

/-- A node without a name is a group. -/
structure Node where
  name : Option String := none
  value : Option String := none
  attributes : List Attribute := []
  children : List Node := []
  deriving Repr

namespace Node

instance : Inhabited Node := ⟨{}⟩

def group : Node := {}

def named (name : String) : Node := { name := some name }

def withValue (n : Node) (value : String) : Node :=
  { n with value := some value }

def withAttribute (n : Node) (a : Attribute) : Node :=
  { n with attributes := n.attributes ++ [a] }

def withChild (n child : Node) : Node :=
  { n with children := n.children ++ [child] }

def attribute? (n : Node) (name : String) : Option Attribute :=
  n.attributes.find? (·.name = name)

mutual

/-- The nodes of a tree, parents before children. -/
def preorder : Node → List Node
  | ⟨name, value, attributes, children⟩ =>
    ⟨name, value, attributes, children⟩ :: preorderAll children

def preorderAll : List Node → List Node
  | [] => []
  | n :: nodes => n.preorder ++ preorderAll nodes

end

mutual

/-- The number of nodes on the longest way down. -/
def height : Node → Nat
  | ⟨_, _, _, children⟩ => heightAll children + 1

def heightAll : List Node → Nat
  | [] => 0
  | n :: nodes => max n.height (heightAll nodes)

end

mutual

def beq : Node → Node → Bool
  | ⟨n, v, as, cs⟩, ⟨n', v', as', cs'⟩ => n == n' && v == v' && as == as' && beqAll cs cs'

def beqAll : List Node → List Node → Bool
  | [], [] => true
  | n :: ns, n' :: ns' => n.beq n' && beqAll ns ns'
  | _, _ => false

end

instance : BEq Node := ⟨beq⟩

end Node

/-- What can be expanded: a text, a tree still to be resolved, or a resolved tree. -/
inductive Abbreviation where
  | text (s : String)
  | parsed (tree : Node)
  | resolved (tree : Node)

end Shorthand
