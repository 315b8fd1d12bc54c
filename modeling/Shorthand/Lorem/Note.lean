import Shorthand.Lorem
import Shorthand.Note

/-! # Notes on placeholder text -/

namespace Shorthand.Lorem

/-- A count beyond the limit is reported. -/
def requestNotes (name : String) : List Note :=
  match parts? name with
  | some (_, digits) =>
    if !digits.isEmpty && exceeds digits then [.loremCount (.ofList digits)] else []
  | none => []

/-- A vocabulary that does not exist is reported. -/
def Request.notes (r : Request) : List Note :=
  if (vocabulary? r.vocabulary).isSome then [] else [.loremVocabulary r.vocabulary]

def renderNotes (name : Option String) : List Note :=
  match name with
  | some name => requestNotes name ++ ((request? name).getD {}).notes
  | none => []

end Shorthand.Lorem
