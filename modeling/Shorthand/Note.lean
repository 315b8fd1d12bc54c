import Shorthand.Json.Decode
import Shorthand.Json.Printer

/-! # Notes

What resolution leaves out or dispatches is reported in notes, which never change a result.
-/

namespace Shorthand

inductive Level where
  | trace | debug | warn

def Level.text : Level → String
  | .trace => "trace"
  | .debug => "debug"
  | .warn => "warn"

inductive Note where
  | skippedLayer (v : Json)
  | profileNotObject (v : Json)
  | profileOption (key : String) (e : Json.ShapeError)
  | snippetNotText (name : String) (v : Json)
  | snippetsNotLayers (v : Json)
  | snippetItem (v : Json)
  | unknownTable (name : String)
  | loremCount (digits : String)
  | loremVocabulary (name : String)
  | optionsNotObject (v : Json)
  | bagNotObject (label : String) (v : Json)
  | fieldNotCallable
  | variablesNotObject (v : Json)
  | variableNotScalar (name : String) (v : Json)
  | unknownProject (name : String)
  | dispatching (kind dialect : String)

namespace Note

def level : Note → Level
  | .profileOption .. => .warn
  | .dispatching .. => .trace
  | _ => .debug

def message : Note → String
  | .skippedLayer v => "Skipping non-object option layer: " ++ v.text
  | .profileNotObject v => "Ignoring non-object profile options: " ++ v.text
  | .profileOption key e => "Ignoring profile option '" ++ key ++ "': " ++ e.message
  | .snippetNotText name v => "Ignoring non-string snippet '" ++ name ++ "': " ++ v.text
  | .snippetsNotLayers v => "Ignoring snippets that are neither object nor list: " ++ v.text
  | .snippetItem v => "Ignoring snippet list item: " ++ v.text
  | .unknownTable name => "Dropping reference to unknown snippet table '" ++ name ++ "'"
  | .loremCount digits => "Clamping lorem word count " ++ digits ++ " to 10000"
  | .loremVocabulary name => "Unknown lorem vocabulary '" ++ name ++ "', using latin"
  | .optionsNotObject v => "Ignoring options that are not an object: " ++ v.text
  | .bagNotObject label v => "Ignoring " ++ label ++ " that is not an object: " ++ v.text
  | .fieldNotCallable => "Ignoring non-callable 'field' in format options"
  | .variablesNotObject v => "Ignoring variables that are not an object: " ++ v.text
  | .variableNotScalar name v =>
    "Ignoring variable '" ++ name ++ "' with non-scalar value: " ++ v.text
  | .unknownProject name => "No configuration for project '" ++ name ++ "'"
  | .dispatching kind dialect => "Dispatching " ++ kind ++ " abbreviation (" ++ dialect ++ ")"

def text (n : Note) : String :=
  n.level.text ++ ": " ++ n.message

end Note

end Shorthand
