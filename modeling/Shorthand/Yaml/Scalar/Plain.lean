import Shorthand.Yaml.Cursor

/-! # Plain scalars

A plain scalar runs until a character that ends it. White space between its words is kept on a
line and folded across lines.
-/

namespace Shorthand.Yaml

/-- A single line break becomes a space; of several line breaks the first is dropped. -/
def foldSpace (gap : List Char) : List Char :=
  match gap.filter isBreak with
  | [] => gap
  | ['\n'] => [' ']
  | '\n' :: breaks => breaks
  | breaks => breaks

/-- Where a scalar stands: inside brackets or not, and the least column of its further lines. -/
structure Place where
  inFlow : Bool
  margin : Nat

namespace Plain

/-- Words read so far and the white space after them, both in reverse. -/
structure Draft where
  text : List Char := []
  gap : List Char := []

def Draft.crossesLine (d : Draft) : Bool :=
  d.gap.any isBreak

def Draft.addSpace (d : Draft) (c : Char) : Draft :=
  { d with gap := c :: d.gap }

def Draft.add (d : Draft) (c : Char) : Draft :=
  { text := c :: ((foldSpace d.gap.reverse).reverse ++ d.text) }

/-- Whether a scalar ends before `c`, which is followed by `rest`. -/
def ends (k : Place) (d : Draft) (p : Position) (c : Char) (rest : List Char) : Bool :=
  (c == ':' && startsBlank rest) || (k.inFlow && isFlowIndicator c) ||
    (!d.gap.isEmpty &&
      (c == '#' || isMarker p (c :: rest) || (!k.inFlow && p.column < k.margin)))

/-- Inside brackets a colon may not touch what follows it. -/
def isMisplacedColon (k : Place) (c : Char) (rest : List Char) : Bool :=
  k.inFlow && c == ':' && rest.head?.any fun x => x == '?' || isFlowIndicator x

/-- A tab may not indent a further line. -/
def isMisplacedTab (k : Place) (d : Draft) (p : Position) (c : Char) : Bool :=
  c == '\t' && d.crossesLine && p.column < k.margin

def read? (k : Place) (d : Draft) (p : Position) : List Char → Option (Draft × Cursor)
  | [] => some (d, ⟨p, []⟩)
  | c :: rest =>
    if isSpace c then
      if isMisplacedTab k d p c then none else read? k (d.addSpace c) (p.after c) rest
    else if isMisplacedColon k c rest then none
    else if ends k d p c rest then some (d, ⟨p, c :: rest⟩)
    else read? k (d.add c) (p.after c) rest

/-- The characters that may not start a plain scalar. -/
def isIndicator (c : Char) : Bool :=
  isFlowIndicator c || "-?:#&*!|>'\"%@\x60".toList.contains c

/-- Some indicators start a scalar when something follows them directly. -/
def canStart (inFlow : Bool) (c : Char) (rest : List Char) : Bool :=
  if c == '-' then !rest.head?.any isBlank
  else if c == '?' || c == ':' then !inFlow && !startsBlank rest
  else !isSpace c && !isIndicator c

end Plain

end Shorthand.Yaml
