import Shorthand.Yaml.Tag

/-! # Tokens

The tokens of a YAML source. Indentation shows as tokens that open and close block collections.
-/

namespace Shorthand.Yaml

inductive Directive where
  | version (major minor : Nat)
  | handle (name : String) (text : TagText)

inductive Token where
  | directive (d : Directive)
  | documentStart | documentEnd
  | blockSequence | blockMapping | blockEnd
  | flowSequence | flowSequenceEnd | flowMapping | flowMappingEnd
  | entry | comma | key | value
  | alias (name : String)
  | anchor (name : String)
  | tag (t : Tag)
  | scalar (plain : Bool) (text : String)

end Shorthand.Yaml
