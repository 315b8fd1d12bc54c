import Shorthand.Configuration

/-! # Formatting markup

A tree is laid out as pieces: texts, tabstops that are still without a number, and the places
where pretty output breaks the line. Writing the pieces numbers the tabstops in order.
-/

namespace Shorthand.Html

inductive Piece where
  | text (s : String)
  | tabstop
  /-- Before a block element; there is no break at the very start. -/
  | breakBefore (level : Nat)
  /-- Before a closing tag. -/
  | breakAfter (level : Nat)
  deriving DecidableEq, Repr

def voidElements : List String := ["br", "hr", "img", "input", "link", "meta"]

/-- The layout: a profile, and whether block elements stand on lines of their own. -/
structure Layout where
  profile : Profile
  pretty : Bool

namespace Layout

def isBlock (l : Layout) (name : String) : Bool :=
  l.pretty && !l.profile.isInline name

def between (l : Layout) (s : String) : String :=
  "=" ++ .singleton l.profile.quote ++ s ++ .singleton l.profile.quote

def attributeText (l : Layout) (a : Attribute) : String :=
  let name := l.profile.attributeName a.name
  " " ++ name ++ match a.value with
    | some value => l.between value
    | none =>
      if l.profile.isBooleanAttribute a.name then
        if l.profile.compactBooleanAttributes then "" else l.between name
      else l.between ""

/-- The opening tag without its closing angle. -/
def openTag (l : Layout) (name : String) (attributes : List Attribute) : String :=
  "<" ++ l.profile.tagName name ++ String.join (attributes.map l.attributeText)

def isVoid (name : String) (value : Option String) (children : List Node) : Bool :=
  name ∈ voidElements && value.isNone && children.isEmpty

/-- A node without value and children gets a tabstop. -/
def content (value : Option String) (children : List Node) : List Piece :=
  match value with
  | some v => [.text v]
  | none => if children.isEmpty then [.tabstop] else []

mutual

def pieces (l : Layout) (level : Nat) : Node → List Piece
  | ⟨none, value, _, children⟩ =>
    (value.toList.map .text) ++ piecesAll l level children
  | ⟨some name, value, attributes, children⟩ =>
    (if l.isBlock name then [.breakBefore level] else []) ++
    .text (l.openTag name attributes) ::
    if isVoid name value children then [.text (l.profile.selfClose ++ ">")]
    else
      .text ">" :: content value children ++ piecesAll l (level + 1) children ++
        (if children.any fun c => c.name.any l.isBlock then [.breakAfter level] else []) ++
        [.text ("</" ++ l.profile.tagName name ++ ">")]

def piecesAll (l : Layout) (level : Nat) : List Node → List Piece
  | [] => []
  | n :: nodes => pieces l level n ++ piecesAll l level nodes

end

end Layout

/-- The output so far and the number of tabstops in it. -/
structure Written where
  out : String := ""
  tabstops : Nat := 0

def Written.add (p : Profile) (field : Field) (w : Written) : Piece → Written
  | .text s => { w with out := w.out ++ s }
  | .tabstop => { out := w.out ++ field (w.tabstops + 1) none, tabstops := w.tabstops + 1 }
  | .breakBefore level =>
    { w with out := w.out ++ (if w.out.isEmpty then "" else "\n") ++ p.indentation level }
  | .breakAfter level => { w with out := w.out ++ "\n" ++ p.indentation level }

def write (p : Profile) (field : Field) (pieces : List Piece) : Written :=
  pieces.foldl (Written.add p field) {}

def wantsPretty (options : FormatOptions) : Bool :=
  (options.get? "pretty").bind Json.bool? == some true

def format (p : Profile) (_ : String) (options : FormatOptions) (tree : Node) : String :=
  (write p options.field (Layout.pieces ⟨p, wantsPretty options⟩ 0 tree)).out

end Shorthand.Html
