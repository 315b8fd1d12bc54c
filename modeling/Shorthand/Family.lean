/-! # Families

Abbreviations expand to markup or to stylesheets. A type named explicitly decides, else the
dialect does.
-/

namespace Shorthand

inductive Family where
  | markup | stylesheet
  deriving DecidableEq, Repr

namespace Family

instance : Inhabited Family := ⟨.markup⟩

def stylesheetDialects : List String :=
  ["css", "sass", "scss", "less", "stylus", "sss", "sugarss"]

/-- Any other name is markup. -/
def ofName (name : String) : Family :=
  if name = "stylesheet" then .stylesheet else .markup

def name : Family → String
  | .markup => "markup"
  | .stylesheet => "stylesheet"

def defaultDialect : Family → String
  | .markup => "html"
  | .stylesheet => "css"

/-- The table that every registry of the family starts with. -/
def baseTable : Family → String
  | .markup => "html"
  | .stylesheet => "css"

def isStylesheet (dialect : String) : Bool :=
  dialect ∈ stylesheetDialects

/-- The empty text counts as absent. -/
def nonEmpty (s : Option String) : Option String :=
  s.filter (· ≠ "")

def classify (explicit : Option String) (dialect : String) : Family :=
  match nonEmpty explicit with
  | some name => ofName name
  | none => if isStylesheet dialect then .stylesheet else .markup

/-- The dialect asked for, or the default one of the explicit type. -/
def dialectOr (explicit dialect : Option String) : String :=
  (nonEmpty dialect).getD (((nonEmpty explicit).map ofName).getD .markup).defaultDialect

end Family

end Shorthand
