import Shorthand.Html.Format
import Shorthand.Html.Parser
import Shorthand.Html.Stages

/-! # A small markup backend -/

namespace Shorthand.Html

def backend : MarkupBackend ParseError where
  parse := parse
  transform := transform
  resolveSnippets := resolveSnippets
  resolveVariables := resolveVariables
  format := format
  snippetNotes := snippetNotes

end Shorthand.Html
