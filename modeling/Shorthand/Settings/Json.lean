import Shorthand.Settings

/-! # Settings as JSON

Every field is written, an absent section as null. Add-ons may be read under their older name
`options`, but not under both names at once.
-/

namespace Shorthand

open Json

namespace Section

def toJson (s : Section) : Json :=
  .obj [("addons", s.addons), ("format", s.format), ("profile", s.profile),
    ("snippets", s.snippets), ("variables", s.vars)]

def rawField (key : String) (set : Section → Json → Section) :
    String × (Section → Decoder Section) :=
  (key, fun s v => .ok (set s v))

/-- The fields in declaration order. -/
def fields : Decode.Fields Section := [
  rawField "format" fun s v => { s with format := v },
  rawField "profile" fun s v => { s with profile := v },
  rawField "variables" fun s v => { s with vars := v },
  rawField "snippets" fun s v => { s with snippets := v },
  rawField "addons" fun s v => { s with addons := v }]

/-- Members under the older name count as add-ons. -/
def renameOptions (members : Dict Json) : Dict Json :=
  members.map fun e => (if e.1 = "options" then "addons" else e.1, e.2)

def decode : Decoder Section
  | .obj members =>
    if Dict.contains members "addons" && Dict.contains members "options" then
      .error (.duplicateField "addons")
    else Decode.record "ConfigSection" fields {} (.obj (renameOptions members))
  | v => Decode.record "ConfigSection" fields {} v

end Section

namespace FamilySections

def toJson (s : FamilySections) : Json :=
  .obj [("markup", .ofOption (·.toJson) s.markup),
    ("stylesheet", .ofOption (·.toJson) s.stylesheet)]

def decode : Decoder FamilySections :=
  Decode.record "TypeSections" [
    Decode.field "markup" (Decode.option Section.decode) fun s x => { s with markup := x },
    Decode.field "stylesheet" (Decode.option Section.decode)
      fun s x => { s with stylesheet := x }] {}

end FamilySections

namespace Scope

def dialectsJson (s : Scope) : Json :=
  .obj (s.dialects.mapValues (·.toJson))

def toJson (s : Scope) : Json :=
  .obj [("globals", s.globals.toJson), ("syntax", s.dialectsJson)]

def decode : Decoder Scope :=
  Decode.record "ProjectSection" [
    Decode.field "globals" FamilySections.decode fun s x => { s with globals := x },
    Decode.field "syntax" (Decode.dict Section.decode) fun s x => { s with dialects := x }] {}

end Scope

namespace Settings

def toJson (s : Settings) : Json :=
  .obj [("globals", s.globals.toJson), ("project", .obj (s.projects.mapValues (·.toJson))),
    ("syntax", s.dialectsJson)]

def decode : Decoder Settings :=
  Decode.record "ProjectConfig" [
    Decode.field "globals" FamilySections.decode fun s x => { s with globals := x },
    Decode.field "syntax" (Decode.dict Section.decode) fun s x => { s with dialects := x },
    Decode.field "project" (Decode.dict Scope.decode) fun s x => { s with projects := x }] {}

end Settings

end Shorthand
