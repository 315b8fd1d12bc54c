import Shorthand.Profile
import Shorthand.Snippet.Source

/-! # Options

What a caller asks for, each part of it optional. Parts of an unexpected type count as absent.
-/

namespace Shorthand

/-- Writes the tabstop with an index and possibly a placeholder. -/
abbrev Field := Nat → Option String → String

/-- The placeholder, or nothing. -/
def Field.plain : Field := fun _ placeholder => placeholder.getD ""

/-- Text to insert into an expansion. -/
inductive InsertedText where
  | single (s : String)
  | lines (ss : List String)
  deriving DecidableEq, Repr

namespace InsertedText

/-- A text, or a list from which the texts are taken. -/
def ofJson? : Json → Option InsertedText
  | .str s => some (.single s)
  | .arr items => some (.lines (items.filterMap Json.str?))
  | _ => none

def joined : InsertedText → String
  | .single s => s
  | .lines ss => "\n".intercalate ss

end InsertedText

inductive ProfileSource where
  /-- Used as it is. -/
  | resolved (p : Profile)
  | options (v : Json)

namespace ProfileSource

def build : ProfileSource → Profile
  | .resolved p => p
  | .options v => Profile.ofOptions v

def notes : ProfileSource → List Note
  | .resolved _ => []
  | .options v => Profile.notes v

end ProfileSource

structure Options where
  /-- The abbreviation type by name. -/
  kind : Option String := none
  dialect : Option String := none
  field : Option Field := none
  text : Option InsertedText := none
  profile : ProfileSource := .options .null
  vars : Json := .null
  snippets : SnippetSource := .raw .null
  addons : Json := .null
  format : Json := .null

namespace Options

/-- The shorthand for options that only name a dialect. -/
def ofDialect (dialect : String) : Options :=
  { dialect := some dialect }

def ofMembers (members : Dict Json) : Options :=
  let raw (key : String) : Json := (members.get? key).getD .null
  { kind := (members.get? "type").bind Json.str?
    dialect := (members.get? "syntax").bind Json.str?
    text := (members.get? "text").bind InsertedText.ofJson?
    profile := .options (raw "profile")
    vars := raw "variables"
    snippets := .raw (raw "snippets")
    addons := ((members.get? "addons").or (members.get? "options")).getD .null
    format := raw "format" }

/-- An object, or a dialect by its name; other values give empty options. -/
def ofJson : Json → Options
  | .str dialect => ofDialect dialect
  | v => ofMembers v.members

def jsonNotes : Json → List Note
  | .str _ | .obj _ | .null => []
  | v => [.optionsNotObject v]

end Options

end Shorthand
