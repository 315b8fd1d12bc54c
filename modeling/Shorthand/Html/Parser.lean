import Shorthand.Text.Blank
import Shorthand.Tree.Basic

/-! # Reading markup abbreviations

Siblings are joined by `+` and nested elements by `>`. An element is a name, classes after dots,
and attributes between brackets. Of several faults in one chain the rightmost is reported.
-/

namespace Shorthand.Html

open Text

inductive ParseError where
  | unterminated (element : String)
  | unexpected (c : Char) (element : String)
  | empty
  deriving DecidableEq, Repr

def ParseError.message : ParseError → String
  | .unterminated element => "unterminated attributes in '" ++ element ++ "'"
  | .unexpected c element =>
    "unexpected character '" ++ .singleton c ++ "' in '" ++ element ++ "'"
  | .empty => "empty element"

def isNameChar (c : Char) : Bool :=
  c.isAlphanum || c == ':' || c == '!' || c == '-'

/-- An element cut into its parts; without brackets there are no attributes at all. -/
structure Element where
  name : List Char
  classes : List (List Char)
  brackets : Option (List Char)

/-- What stands before the first bracket, and what stands between it and the last one. -/
def cutBrackets (s : List Char) : Except ParseError (List Char × Option (List Char)) :=
  match splitOnce '[' s with
  | (_, none) => .ok (s, none)
  | (head, some rest) =>
    if s.getLast? = some ']' then .ok (head, some rest.dropLast)
    else .error (.unterminated (.ofList s))

def Element.read (s : List Char) : Except ParseError Element := do
  let (head, brackets) ← cutBrackets s
  let pieces := split '.' head
  let name := pieces.headD []
  let classes := pieces.tail.filter (!·.isEmpty)
  match name.find? (!isNameChar ·) with
  | some c => throw (.unexpected c (.ofList s))
  | none =>
    if name.isEmpty && classes.isEmpty && brackets.isNone then throw .empty
    else return { name, classes, brackets }

/-- A value may stand between quotes. -/
def readAttribute (s : List Char) : Attribute :=
  match splitOnce '=' s with
  | (name, some value) =>
    { name := .ofList name, value := some (.ofList (trimWhere (· == '"') value)) }
  | (_, none) => { name := .ofList s }

namespace Element

def classAttribute (e : Element) : List Attribute :=
  if e.classes.isEmpty then []
  else [{ name := "class", value := some (.ofList ([' '].intercalate e.classes)) }]

/-- An element without a name is a `div`. -/
def node (e : Element) : Node where
  name := some (if e.name.isEmpty then "div" else .ofList e.name)
  attributes := e.classAttribute ++ (words (e.brackets.getD [])).map readAttribute

end Element

/-- Each element of the list is the only child of the one after it. -/
def nest : List Node → Node
  | [] => .group
  | n :: outer => outer.foldl (fun child parent => parent.withChild child) n

def parseChain (s : List Char) : Except ParseError Node :=
  ((split '>' s).reverse.mapM Element.read).map fun es => nest (es.map Element.node)

def parse (s : String) : Except ParseError Node :=
  ((split '+' s.toList).mapM parseChain).map fun children => { children }

end Shorthand.Html
