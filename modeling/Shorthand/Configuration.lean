import Shorthand.Options

/-! # Configurations

Options with every part resolved. Resolution never fails: what is absent or malformed becomes
its default.
-/

namespace Shorthand

/-- The bag of formatter options together with the tabstop writer. -/
structure FormatOptions where
  field : Field
  options : Dict Json

def FormatOptions.get? (f : FormatOptions) (key : String) : Option Json :=
  f.options.get? key

structure Configuration where
  family : Family
  dialect : String
  field : Field
  text : Option InsertedText
  profile : Profile
  vars : Dict String
  snippets : Registry
  addons : Dict Json
  format : FormatOptions

/-- The text of a scalar variable. -/
def variableText? : Json → Option String
  | .str s => some s
  | .num n => some n.text
  | .bool b => some (if b then "true" else "false")
  | _ => none

/-- The scalar members, over the built-in variables. -/
def resolveVariables (v : Json) : Dict String :=
  v.members.foldl (fun vars e => match variableText? e.2 with
    | some s => vars.insert e.1 s
    | none => vars) Builtin.vars

/-- The tabstop writer is not set through the bag. -/
def formatBag (v : Json) : Dict Json :=
  v.members.erase "field"

namespace Options

def family (o : Options) : Family :=
  Family.classify o.kind (Family.dialectOr o.kind o.dialect)

def resolve (o : Options) : Configuration :=
  let dialect := Family.dialectOr o.kind o.dialect
  let field := o.field.getD Field.plain
  { family := o.family
    dialect
    field
    text := o.text
    profile := o.profile.build
    vars := resolveVariables o.vars
    snippets := o.snippets.build o.family dialect
    addons := o.addons.members
    format := { field, options := formatBag o.format } }

end Options

/-- A bag that is neither an object nor null is reported. -/
def bagNotes (label : String) (v : Json) : List Note :=
  if v.isObj || v.isNull then [] else [.bagNotObject label v]

def formatNotes (v : Json) : List Note :=
  bagNotes "format" v ++ if v.members.contains "field" then [.fieldNotCallable] else []

def variableNotes : Json → List Note
  | .obj members => (members.filter fun e => (variableText? e.2).isNone).map fun e =>
    .variableNotScalar e.1 e.2
  | .null => []
  | v => [.variablesNotObject v]

def Options.resolveNotes (o : Options) : List Note :=
  formatNotes o.format ++ o.profile.notes ++ o.snippets.notes ++ variableNotes o.vars ++
    bagNotes "addons" o.addons

end Shorthand
