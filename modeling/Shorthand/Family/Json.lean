import Shorthand.Family
import Shorthand.Json.Decode

/-! # Families as JSON

A family is written as its name.
-/

namespace Shorthand.Family

open Json

def decode : Decoder Family :=
  Decode.variant [("markup", .markup), ("stylesheet", .stylesheet)]

def toJson (f : Family) : Json :=
  .str f.name

end Shorthand.Family
