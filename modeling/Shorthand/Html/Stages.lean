import Shorthand.Expander
import Shorthand.Text.Split
import Shorthand.Tree.Walk

/-! # Stages of a small markup backend

Inserted text goes into the last node, snippets give elements their names, and variables are
substituted in values.
-/

namespace Shorthand.Html

def renameClass (a : Attribute) : Attribute :=
  if a.name = "class" then { a with name := "className" } else a

def withClassName (n : Node) : Node :=
  { n with attributes := n.attributes.map renameClass }

def insertText (text : Option InsertedText) (tree : Node) : Node :=
  match text with
  | some t => tree.modifyLast fun n => { n with value := some t.joined }
  | none => tree

def wantsJsx (addons : Dict Json) : Bool :=
  (addons.get? "jsx").bind Json.bool? == some true

def transform (text : Option InsertedText) (addons : Dict Json) (tree : Node) : Node :=
  let tree := insertText text tree
  if wantsJsx addons then tree.walked withClassName else tree

def isElementChar (c : Char) : Bool :=
  c.isAlphanum || c == ':' || c == '-'

/-- The element name that a template starts with. -/
def templateElement (template : String) : String :=
  .ofList (template.toList.takeWhile isElementChar)

/-- A template renames the node; computed content replaces name and value. -/
def resolveNode (r : Registry) (n : Node) : Node :=
  match r.snippet? n with
  | some (.literal template) =>
    let element := templateElement template
    if element.isEmpty then n else { n with name := some element }
  | some s => { n with name := none, value := some (s.render n) }
  | none => n

def resolveSnippets (r : Registry) (tree : Node) : Node :=
  tree.walked (resolveNode r)

/-- Substitutes the variables one after the other. -/
def substitute (vars : Dict String) (s : String) : String :=
  .ofList (vars.foldl
    (fun s e => Text.replaceAll (['$', '\x7b'] ++ e.1.toList ++ ['\x7d']) e.2.toList s) s.toList)

def substituteIn (vars : Dict String) (n : Node) : Node :=
  { n with
    value := n.value.map (substitute vars)
    attributes := n.attributes.map fun a => { a with value := a.value.map (substitute vars) } }

def resolveVariables (vars : Dict String) (tree : Node) : Node :=
  tree.walked (substituteIn vars)

def snippetNotes (r : Registry) (tree : Node) : List Note :=
  tree.preorder.flatMap r.expandNotes

end Shorthand.Html
