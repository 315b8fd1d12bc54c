import Shorthand.Json.Reader
import Shorthand.Settings.Json
import Shorthand.Text.Blank
import Shorthand.Yaml.Document

/-! # Loading settings

Settings come as JSON or as YAML; the extension of a file decides. The root has to be a mapping.
-/

namespace Shorthand

inductive LoadError where
  | notFound
  | notText
  | notJson
  | notYaml
  | shape (e : Json.ShapeError)
  | rootNotMapping

/-- Faults of syntax are told apart by kind alone. -/
def LoadError.message : LoadError → String
  | .notFound => "file not found"
  | .notText => "file is not UTF-8"
  | .notJson => "not JSON"
  | .notYaml => "not YAML"
  | .shape e => "Config JSON error: " ++ e.message
  | .rootNotMapping => "Config must be a mapping at the top level"

namespace Settings

def ofValue (v : Json) : Except LoadError Settings :=
  if v.isObj then (decode v).mapError .shape else .error .rootNotMapping

def ofJsonText (s : String) : Except LoadError Settings :=
  match Json.read? s with
  | some v => ofValue v
  | none => .error .notJson

/-- A blank text and a null document are empty settings. -/
def ofYamlText (s : String) : Except LoadError Settings :=
  if s.toList.all Text.isBlank then .ok {}
  else match Yaml.readJson? s with
    | some .null => .ok {}
    | some v => ofValue v
    | none => .error .notYaml

/-- The part of a file name after its last dot, unless the name starts with that dot. -/
def extension? (path : String) : Option String :=
  let parts := (Text.split '/' path.toList).filter fun p => !p.isEmpty && p ≠ ['.']
  match parts.getLast? with
  | none => none
  | some name =>
    if name = ['.', '.'] then none
    else
      let ending := (name.reverse.takeWhile (· ≠ '.')).reverse
      if ending.length + 1 < name.length then some (.ofList ending) else none

def isYaml (path : String) : Bool :=
  extension? path == some "yaml" || extension? path == some "yml"

/-- Reads a file with the given content. -/
def load (path : String) (content : Option ByteArray) : Except LoadError Settings :=
  match content with
  | none => .error .notFound
  | some bytes => match String.fromUTF8? bytes with
    | none => .error .notText
    | some s => if isYaml path then ofYamlText s else ofJsonText s

end Settings

end Shorthand
