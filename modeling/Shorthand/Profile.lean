import Shorthand.Note
import Shorthand.Text.Case

/-! # Output profiles

Formatting parameters. A profile is read from an option bag layered over the defaults: the members
are tried one after the other, and one that keeps the profile from being read is left out.
-/

namespace Shorthand

structure Profile where
  indent : String := "\t"
  /-- `upper`, `lower`, or anything else to keep names as written. -/
  tagCase : String := ""
  attributeCase : String := ""
  attributeQuotes : String := "double"
  format : Bool := true
  formatSkip : List String := ["html"]
  formatForce : List String := ["body"]
  inlineBreak : UInt64 := 3
  compactBooleanAttributes : Bool := false
  booleanAttributes : List String := [
    "contenteditable", "seamless", "async", "autofocus", "autoplay", "checked", "controls",
    "defer", "disabled", "formnovalidate", "hidden", "ismap", "loop", "multiple", "muted",
    "novalidate", "readonly", "required", "reversed", "selected", "typemustmatch"]
  selfClosingStyle : String := "html"
  inlineElements : List String := [
    "a", "abbr", "acronym", "applet", "b", "basefont", "bdo", "big", "br", "button", "cite",
    "code", "del", "dfn", "em", "font", "i", "iframe", "img", "input", "ins", "kbd", "label",
    "map", "object", "q", "s", "samp", "select", "small", "span", "strike", "strong", "sub",
    "sup", "textarea", "tt", "u", "var"]
  deriving DecidableEq, Repr

namespace Profile

open Json

/-- Key, value written for a profile, and the step that takes a value in. -/
structure Field where
  key : String
  write : Profile → Json
  read : Profile → Decoder Profile

def textField (key : String) (get : Profile → String) (set : Profile → String → Profile) :
    Field where
  key := key
  write p := .str (get p)
  read p v := (Decode.string v).map (set p)

def flagField (key : String) (get : Profile → Bool) (set : Profile → Bool → Profile) : Field where
  key := key
  write p := .bool (get p)
  read p v := (Decode.bool v).map (set p)

def listField (key : String) (get : Profile → List String)
    (set : Profile → List String → Profile) : Field where
  key := key
  write p := .arr ((get p).map .str)
  read p v := (Decode.list Decode.string v).map (set p)

def wordField (key : String) (get : Profile → UInt64) (set : Profile → UInt64 → Profile) :
    Field where
  key := key
  write p := .ofInt (get p).toNat
  read p v := (Decode.word v).map (set p)

/-- The fields by key. -/
def fields : List Field := [
  textField "attributeCase" attributeCase fun p x => { p with attributeCase := x },
  textField "attributeQuotes" attributeQuotes fun p x => { p with attributeQuotes := x },
  listField "booleanAttributes" booleanAttributes fun p x => { p with booleanAttributes := x },
  flagField "compactBooleanAttributes" compactBooleanAttributes
    fun p x => { p with compactBooleanAttributes := x },
  flagField "format" format fun p x => { p with format := x },
  listField "formatForce" formatForce fun p x => { p with formatForce := x },
  listField "formatSkip" formatSkip fun p x => { p with formatSkip := x },
  textField "indent" indent fun p x => { p with indent := x },
  wordField "inlineBreak" inlineBreak fun p x => { p with inlineBreak := x },
  listField "inlineElements" inlineElements fun p x => { p with inlineElements := x },
  textField "selfClosingStyle" selfClosingStyle fun p x => { p with selfClosingStyle := x },
  textField "tagCase" tagCase fun p x => { p with tagCase := x }]

/-- The bag that is written for a profile. -/
def members (p : Profile) : Dict Json :=
  fields.map fun f => (f.key, f.write p)

def toJson (p : Profile) : Json :=
  .obj p.members

/-- Reads a whole profile. What is absent has its default, unknown members are ignored. -/
def decode : Decoder Profile :=
  Decode.record "Profile" (fields.map fun f => (f.key, f.read)) {}

/-- Puts a member into a bag if a profile can still be read from it. Null changes nothing. -/
def tryMember (bag : Dict Json) (key : String) (v : Json) : Except ShapeError (Dict Json) :=
  if v.isNull then .ok bag
  else (decode (.obj (bag.insert key v))).map fun _ => bag.insert key v

/-- A member that would spoil the bag is left out. -/
def addMember (bag : Dict Json) (e : String × Json) : Dict Json :=
  match tryMember bag e.1 e.2 with
  | .ok candidate => candidate
  | .error _ => bag

/-- The members are tried one by one on the bag of the default profile. -/
def ofMembers (members : Dict Json) : Profile :=
  (decode (.obj (members.foldl addMember ({} : Profile).members))).toOption.getD {}

/-- Values that are no object give the defaults. -/
def ofOptions (v : Json) : Profile :=
  ofMembers v.members

/-- Each member that is left out is reported. -/
def memberNotes (bag : Dict Json) : Dict Json → List Note
  | [] => []
  | e :: members =>
    (match tryMember bag e.1 e.2 with
      | .ok _ => []
      | .error err => [.profileOption e.1 err]) ++
    memberNotes (addMember bag e) members

def notes : Json → List Note
  | .obj members => memberNotes ({} : Profile).members members
  | .null => []
  | v => [.profileNotObject v]

def applyCase (case s : String) : String :=
  if case = "upper" then Text.upper s else if case = "lower" then Text.lower s else s

def tagName (p : Profile) (name : String) : String :=
  applyCase p.tagCase name

def attributeName (p : Profile) (name : String) : String :=
  applyCase p.attributeCase name

def quote (p : Profile) : Char :=
  if p.attributeQuotes = "single" then '\'' else '"'

/-- What closes a tag without content, before the angle. -/
def selfClose (p : Profile) : String :=
  if p.selfClosingStyle = "xhtml" then " /" else if p.selfClosingStyle = "xml" then "/" else ""

def isInline (p : Profile) (name : String) : Bool :=
  p.inlineElements.any (Text.eqIgnoreAsciiCase · name)

def isBooleanAttribute (p : Profile) (name : String) : Bool :=
  p.booleanAttributes.any (Text.eqIgnoreAsciiCase · name)

def indentation (p : Profile) (level : Nat) : String :=
  String.join (List.replicate level p.indent)

end Profile

end Shorthand
