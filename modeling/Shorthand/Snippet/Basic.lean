import Shorthand.Lorem.Note
import Shorthand.Tree.Basic

/-! # Snippets

A snippet is a template, or content computed from the node that is expanded.
-/

namespace Shorthand

inductive Snippet where
  | literal (template : String)
  | lorem
  | generator (render : Node → String)

namespace Snippet

def render (s : Snippet) (n : Node) : String :=
  match s with
  | .literal template => template
  | .lorem => Lorem.render n.name
  | .generator f => f n

def literal? : Snippet → Option String
  | .literal template => some template
  | _ => none

/-- The text that stands for a snippet in diagnostics. -/
def describe : Snippet → String
  | .literal template => "Literal(" ++ Text.quoted template ++ ")"
  | _ => "Generator(..)"

def renderNotes (s : Snippet) (n : Node) : List Note :=
  match s with
  | .lorem => Lorem.renderNotes n.name
  | _ => []

end Snippet

end Shorthand
