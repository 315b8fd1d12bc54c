import Shorthand.Css
import Shorthand.Html

/-! # The small backends together

An expander for markup and stylesheets. A fault is that of the parser for the family.
-/

namespace Shorthand.Small

inductive ParseError where
  | markup (e : Html.ParseError)
  | stylesheet (e : Css.ParseError)
  deriving DecidableEq, Repr

def ParseError.message : ParseError → String
  | .markup e => e.message
  | .stylesheet e => e.message

def expander : Expander ParseError where
  markup := { Html.backend with parse := fun s => (Html.parse s).mapError .markup }
  stylesheet := { Css.backend with parse := fun s => (Css.parse s).mapError .stylesheet }

/-- Expands a text under the options of a call. -/
def expand (s : String) (o : Options) : Except ParseError String :=
  expander.expand (.text s) o.resolve

end Shorthand.Small
