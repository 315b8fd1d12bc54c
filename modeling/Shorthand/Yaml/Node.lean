import Shorthand.Yaml.Tag

/-! # Nodes

The tree of a document before aliases are followed and scalars are given their values.
-/

namespace Shorthand.Yaml

structure Properties where
  anchor : Option String := none
  tag : Option TagText := none

/-- An alias refers to its target by a `ρ`. -/
inductive Node (ρ : Type) where
  | alias (target : ρ)
  | scalar (properties : Properties) (plain : Bool) (text : String)
  | sequence (properties : Properties) (items : List (Node ρ))
  | mapping (properties : Properties) (entries : List (Node ρ × Node ρ))

namespace Node

variable {ρ : Type}

/-- A node that is left out. -/
def empty (p : Properties := {}) : Node ρ :=
  .scalar p true ""

def properties : Node ρ → Properties
  | .alias _ => {}
  | .scalar p _ _ => p
  | .sequence p _ => p
  | .mapping p _ => p

mutual

/-- The node and all nodes below it, in the order in which they start. -/
def all : Node ρ → List (Node ρ)
  | .alias r => [.alias r]
  | .scalar p plain text => [.scalar p plain text]
  | .sequence p items => .sequence p items :: allItems items
  | .mapping p entries => .mapping p entries :: allEntries entries

def allItems : List (Node ρ) → List (Node ρ)
  | [] => []
  | n :: items => n.all ++ allItems items

def allEntries : List (Node ρ × Node ρ) → List (Node ρ)
  | [] => []
  | (k, v) :: entries => k.all ++ v.all ++ allEntries entries

end

/-- Scalars and aliases count once, collections for their start and for their end. -/
def weight : Node ρ → Nat
  | .alias _ | .scalar .. => 1
  | .sequence .. | .mapping .. => 2

end Node

end Shorthand.Yaml
