import Shorthand.Family
import Shorthand.Snippet.Builtin
import Shorthand.Snippet.Registry

/-! # Building registries

A registry starts with the table of its family and the table of its dialect, if there is one.
User snippets follow: one object, or a list of objects and names of tables. Markup registries
get the placeholder text as a pattern of their first layer.
-/

namespace Shorthand

inductive SnippetSource where
  /-- Used as it is. -/
  | registry (r : Registry)
  | raw (v : Json)

namespace SnippetSource

/-- Unknown tables and other values give no layer. -/
def userLayer? : Json → Option Layer
  | .str name => Builtin.table? name
  | v => Layer.ofJson? v

def userLayers : Json → List Layer
  | .arr items => items.filterMap userLayer?
  | .obj members => [Layer.ofMembers members]
  | _ => []

def builtinLayers (family : Family) (dialect : String) : List Layer :=
  (Builtin.table? family.baseTable).toList ++
    if dialect = family.baseTable then [] else (Builtin.table? dialect).toList

def loremPattern : Pattern := ⟨"(?i)^lorem([a-z]*)(\\d*)$"⟩

def installLorem (family : Family) : List Layer → List Layer
  | [] => []
  | base :: layers => match family with
    | .markup => base.setPattern loremPattern .lorem :: layers
    | .stylesheet => base :: layers

def build (source : SnippetSource) (family : Family) (dialect : String) : Registry :=
  match source with
  | .registry r => r
  | .raw v => ⟨installLorem family (builtinLayers family dialect ++ userLayers v)⟩

def itemNotes : Json → List Note
  | .str name => if (Builtin.table? name).isSome then [] else [.unknownTable name]
  | .obj members => Layer.notes (.obj members)
  | v => [.snippetItem v]

def notes : SnippetSource → List Note
  | .registry _ => []
  | .raw (.arr items) => items.flatMap itemNotes
  | .raw (.obj members) => Layer.notes (.obj members)
  | .raw .null => []
  | .raw v => [.snippetsNotLayers v]

end SnippetSource

end Shorthand
