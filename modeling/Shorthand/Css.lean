import Shorthand.Expander
import Shorthand.Number.Word
import Shorthand.Text.Split

/-! # A small stylesheet backend

Items `name` or `name` with a value, joined by `+`. A snippet gives the property and a default
for the value.
-/

namespace Shorthand.Css

inductive ParseError where
  | noProperty (item : String)
  deriving DecidableEq, Repr

def ParseError.message : ParseError → String
  | .noProperty item => "expected property in '" ++ item ++ "'"

def isNameChar (c : Char) : Bool :=
  c.isAlpha || c == '@'

/-- The longest run of name characters is the property; what follows is the value. -/
def parseItem (item : List Char) : Except ParseError Node :=
  let name := item.takeWhile isNameChar
  let value := item.dropWhile isNameChar
  if name.isEmpty then .error (.noProperty (.ofList item))
  else .ok {
    name := some (.ofList name)
    value := if value.isEmpty then none else some (.ofList value) }

def parse (s : String) : Except ParseError Node :=
  ((Text.split '+' s.toList).mapM parseItem).map fun children => { children }

/-- The first alternative after the colon of a template stands for a value that is missing. -/
def resolveItem (r : Registry) (n : Node) : Node :=
  match r.snippet? n with
  | some (.literal template) => match Text.splitOnce ':' template.toList with
    | (property, some default) =>
      { n with
        name := some (.ofList property)
        value := n.value.or (some (.ofList (default.takeWhile (· ≠ '|')))) }
    | (_, none) => { n with name := some template }
  | _ => n

def resolveSnippets (r : Registry) (tree : Node) : Node :=
  { tree with children := tree.children.map (resolveItem r) }

/-- The field that a text starts with: its index, its placeholder, and the text after it. -/
def leadingField? (s : List Char) : Option (Nat × Option String × List Char) :=
  match s with
  | '$' :: '\x7b' :: s =>
    let digits := s.takeWhile Text.isDigit
    if digits.isEmpty then none else
    let index := match Text.readNat? digits with
      | some n => if n < wordCount then n else 0
      | none => 0
    match s.dropWhile Text.isDigit with
    | '\x7d' :: rest => some (index, none, rest)
    | ':' :: rest => match rest.dropWhile (· ≠ '\x7d') with
      | _ :: after => some (index, some (.ofList (rest.takeWhile (· ≠ '\x7d'))), after)
      | [] => none
    | _ => none
  | _ => none

theorem length_dropWhile_le (p : Char → Bool) (s : List Char) :
    (s.dropWhile p).length ≤ s.length :=
  (List.dropWhile_sublist p).length_le

theorem leadingField?_shorter {s rest : List Char} {i : Nat} {placeholder : Option String}
    (h : leadingField? s = some (i, placeholder, rest)) : rest.length < s.length := by
  unfold leadingField? at h
  split at h
  · rename_i s
    simp only at h
    have hd := length_dropWhile_le Text.isDigit s
    split at h
    · simp at h
    split at h
    · rename_i h'
      simp only [Option.some.injEq, Prod.mk.injEq] at h
      rw [h', h.2.2] at hd
      simp only [List.length_cons] at hd ⊢
      omega
    · rename_i r h'
      have hr := length_dropWhile_le (· ≠ '\x7d') r
      split at h
      · rename_i h''
        simp only [Option.some.injEq, Prod.mk.injEq] at h
        rw [h'', h.2.2] at hr
        rw [h'] at hd
        simp only [List.length_cons] at hd hr ⊢
        omega
      · simp at h
    · simp at h
  · simp at h

/-- Writes each field of a text through the tabstop writer. -/
def renderFields (field : Field) (s : List Char) : List Char :=
  match _h : leadingField? s with
  | some (index, placeholder, rest) =>
    (field index placeholder).toList ++ renderFields field rest
  | none => match s with
    | [] => []
    | c :: s => c :: renderFields field s
termination_by s.length
decreasing_by
  · exact leadingField?_shorter _h
  · simp

/-- A value of digits alone is a length in pixels. -/
def withUnit (value : List Char) : List Char :=
  if !value.isEmpty && value.all Char.isDigit then value ++ ['p', 'x'] else value

def declaration (p : Profile) (field : Field) (n : Node) : String :=
  p.tagName (n.name.getD "") ++ ": " ++
    .ofList (withUnit (renderFields field (n.value.getD "").toList)) ++ ";"

def format (p : Profile) (_ : String) (options : FormatOptions) (tree : Node) : String :=
  "\n".intercalate (tree.children.map (declaration p options.field))

def backend : StylesheetBackend ParseError where
  parse := parse
  resolveSnippets r _ tree := resolveSnippets r tree
  format := format

end Shorthand.Css
