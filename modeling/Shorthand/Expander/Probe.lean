import Shorthand.Expander

/-! # Probing backends

Backends that leave a mark on the root at each stage, so that an output tells which stages ran
and what they were given.
-/

namespace Shorthand.Probe

/-- The text becomes the name of the root. -/
def parse (s : String) : Except String Node :=
  match s.toList with
  | [] => .error "empty abbreviation"
  | '?' :: rest => .error ("bad abbreviation: " ++ .ofList rest)
  | _ => .ok (Node.named s)

def resolveSnippets (r : Registry) (n : Node) : Node :=
  match r.expand n with
  | some value => n.withValue value
  | none => n

def format (p : Profile) (dialect : String) (options : FormatOptions) (n : Node) : String :=
  "|".intercalate [dialect, p.tagName (n.name.getD "#group"), n.value.getD "-",
    options.field 1 (some "ph")]

def markup : MarkupBackend String where
  parse := parse
  transform _ _ n := n.withAttribute { name := "transformed" }
  resolveSnippets := resolveSnippets
  resolveVariables vars n :=
    n.withAttribute { name := "vars", value := some (toString vars.length) }
  format := format
  snippetNotes r n := r.expandNotes n

def stylesheet : StylesheetBackend String where
  parse := parse
  resolveSnippets r _ n := resolveSnippets r n
  format := format
  snippetNotes r n := r.expandNotes n

def expander : Expander String := ⟨markup, stylesheet⟩

end Shorthand.Probe
