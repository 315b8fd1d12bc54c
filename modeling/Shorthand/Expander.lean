import Shorthand.Configuration

/-! # Expanding abbreviations

An expander routes an abbreviation through the stages of its family. Markup is parsed,
transformed, resolved for snippets and then for variables, and formatted; a stylesheet has
neither a transform nor variables.
-/

namespace Shorthand

inductive Stage where
  | transform | snippets | substitution
  deriving DecidableEq, Repr

structure MarkupBackend (ε : Type) where
  parse : String → Except ε Node
  transform : Option InsertedText → Dict Json → Node → Node
  resolveSnippets : Registry → Node → Node
  resolveVariables : Dict String → Node → Node
  format : Profile → String → FormatOptions → Node → String
  /-- What resolving the snippets of a tree reports. -/
  snippetNotes : Registry → Node → List Note := fun _ _ => []

structure StylesheetBackend (ε : Type) where
  parse : String → Except ε Node
  resolveSnippets : Registry → Dict Json → Node → Node
  format : Profile → String → FormatOptions → Node → String
  snippetNotes : Registry → Node → List Note := fun _ _ => []

structure Expander (ε : Type) where
  markup : MarkupBackend ε
  stylesheet : StylesheetBackend ε

namespace Expander

variable {ε : Type}

def parser (x : Expander ε) : Family → String → Except ε Node
  | .markup => x.markup.parse
  | .stylesheet => x.stylesheet.parse

/-- The stages between parsing and formatting. -/
def stages (x : Expander ε) (c : Configuration) : List (Stage × (Node → Node)) :=
  match c.family with
  | .markup => [
    (.transform, x.markup.transform c.text c.addons),
    (.snippets, x.markup.resolveSnippets c.snippets),
    (.substitution, x.markup.resolveVariables c.vars)]
  | .stylesheet => [(.snippets, x.stylesheet.resolveSnippets c.snippets c.addons)]

def runStages (stages : List (Stage × (Node → Node))) (tree : Node) : Node :=
  stages.foldl (fun t s => s.2 t) tree

/-- Each stage with the tree it is given. -/
def stageInputs : List (Stage × (Node → Node)) → Node → List (Stage × Node)
  | [], _ => []
  | s :: stages, tree => (s.1, tree) :: stageInputs stages (s.2 tree)

/-- A resolved tree is returned as it is; a parsed one skips only the parser. -/
def parse (x : Expander ε) (a : Abbreviation) (c : Configuration) : Except ε Node :=
  match a with
  | .resolved tree => .ok tree
  | .parsed tree => .ok (runStages (x.stages c) tree)
  | .text s => (x.parser c.family s).map (runStages (x.stages c))

def format (x : Expander ε) (c : Configuration) (tree : Node) : String :=
  match c.family with
  | .markup => x.markup.format c.profile c.dialect c.format tree
  | .stylesheet => x.stylesheet.format c.profile c.dialect c.format tree

def expand (x : Expander ε) (a : Abbreviation) (c : Configuration) : Except ε String :=
  (x.parse a c).map (x.format c)

/-- The stages an abbreviation passes, each with the tree it is given. -/
def visited (x : Expander ε) (a : Abbreviation) (c : Configuration) : List (Stage × Node) :=
  match a with
  | .resolved _ => []
  | .parsed tree => stageInputs (x.stages c) tree
  | .text s => match x.parser c.family s with
    | .ok tree => stageInputs (x.stages c) tree
    | .error _ => []

def notes (x : Expander ε) (a : Abbreviation) (c : Configuration) : List Note :=
  let snippetNotes := match c.family with
    | .markup => x.markup.snippetNotes
    | .stylesheet => x.stylesheet.snippetNotes
  .dispatching c.family.name c.dialect ::
    (x.visited a c).flatMap fun (s, tree) =>
      if s = .snippets then snippetNotes c.snippets tree else []

end Expander

end Shorthand
