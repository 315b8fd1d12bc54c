import Shorthand.Configuration
import Shorthand.Json.Merge

/-! # Project settings

Sections of options for a family or a dialect, in general and for single projects. The sections
that apply are layered under the options of a call, the most specific one on top.
-/

namespace Shorthand

structure Section where
  format : Json := .null
  profile : Json := .null
  vars : Json := .null
  snippets : Json := .null
  addons : Json := .null

structure FamilySections where
  markup : Option Section := none
  stylesheet : Option Section := none

def FamilySections.get? (s : FamilySections) : Family → Option Section
  | .markup => s.markup
  | .stylesheet => s.stylesheet

/-- Sections by family and by dialect. -/
structure Scope where
  globals : FamilySections := {}
  dialects : Dict Section := []

/-- The section for the family, then the one for the dialect. -/
def Scope.sections (s : Scope) (family : Family) (dialect : String) : List Section :=
  (s.globals.get? family).toList ++ (s.dialects.get? dialect).toList

structure Settings extends Scope where
  projects : Dict Scope := []

/-- What is about to be expanded. -/
structure Context where
  kind : Option String := none
  dialect : Option String := none
  project : Option String := none

namespace Settings

/-- The sections that apply, least specific first. -/
def sections (s : Settings) (family : Family) (dialect : String) (project : Option String) :
    List Section :=
  s.toScope.sections family dialect ++
    ((project.bind s.projects.get?).map (·.sections family dialect)).getD []

def sectionNotes (s : Settings) (project : Option String) : List Note :=
  match project with
  | some name => if s.projects.contains name then [] else [.unknownProject name]
  | none => []

/-- A list stands for its items, null for none, any other value for itself. -/
def snippetItems : Json → List Json
  | .null => []
  | .arr items => items
  | v => [v]

def layers (pick : Section → Json) (sections : List Section) (top : Json) : List Json :=
  sections.map pick ++ [top]

/-- The type to go by: that of the call, else that of the context. -/
def kindFor (c : Context) (o : Options) : Option String :=
  (Family.nonEmpty o.kind).or (Family.nonEmpty c.kind)

def dialectFor (c : Context) (o : Options) : String :=
  Family.dialectOr (kindFor c o) ((Family.nonEmpty o.dialect).or (Family.nonEmpty c.dialect))

def familyFor (c : Context) (o : Options) : Family :=
  Family.classify (kindFor c o) (dialectFor c o)

def sectionsFor (s : Settings) (c : Context) (o : Options) : List Section :=
  s.sections (familyFor c o) (dialectFor c o) c.project

/--
Options for a context with those of a call on top. A profile or a registry that the caller has
built replaces the configured one.
-/
def optionsWith (s : Settings) (c : Context) (o : Options) : Options :=
  let sections := s.sectionsFor c o
  let merged (pick : Section → Json) (top : Json) : Json :=
    Json.mergeLayers (layers pick sections top)
  { kind := some (familyFor c o).name
    dialect := some (dialectFor c o)
    field := o.field
    text := o.text
    profile := match o.profile with
      | .resolved p => .resolved p
      | .options top => .options (merged (·.profile) top)
    vars := merged (·.vars) o.vars
    snippets := match o.snippets with
      | .registry r => .registry r
      | .raw top => .raw (.arr ((layers (·.snippets) sections top).flatMap snippetItems))
    addons := merged (·.addons) o.addons
    format := merged (·.format) o.format }

def options (s : Settings) (c : Context) : Options :=
  s.optionsWith c {}

/-- Each layer that is neither an object nor null is reported. -/
def layerNotes (layers : List Json) : List Note :=
  (layers.filter fun v => !(v.isObj || v.isNull)).map .skippedLayer

def optionsWithNotes (s : Settings) (c : Context) (o : Options) : List Note :=
  let sections := s.sectionsFor c o
  let merged (pick : Section → Json) (top : Json) : List Note :=
    layerNotes (layers pick sections top)
  s.sectionNotes c.project ++
    (match o.profile with
      | .resolved _ => []
      | .options top => merged (·.profile) top) ++
    merged (·.vars) o.vars ++ merged (·.addons) o.addons ++ merged (·.format) o.format

end Settings

end Shorthand
