import Shorthand.Snippet.Layer

/-! # Snippet registries

An exact name is looked up from the last layer to the first. Patterns are tried only when no
layer has the name, and from the first layer to the last.
-/

namespace Shorthand

structure Registry where
  layers : List Layer := []

namespace Registry

def resolve (r : Registry) (name : String) : Option Snippet :=
  (r.layers.reverse.findSome? (·.get? name)).or (r.layers.findSome? (·.matchPattern? name))

def contains (r : Registry) (name : String) : Bool :=
  (r.resolve name).isSome

/-- The snippet for the name of a node; a group has none. -/
def snippet? (r : Registry) (n : Node) : Option Snippet :=
  n.name.bind r.resolve

def expand (r : Registry) (n : Node) : Option String :=
  (r.snippet? n).map (·.render n)

def expandNotes (r : Registry) (n : Node) : List Note :=
  ((r.snippet? n).map (·.renderNotes n)).getD []

/-- Changes the layer at `i`, if there is one. -/
def modifyLayer? (r : Registry) (i : Nat) (f : Layer → Layer) : Option Registry :=
  if i < r.layers.length then some ⟨r.layers.modify i f⟩ else none

end Registry

end Shorthand
