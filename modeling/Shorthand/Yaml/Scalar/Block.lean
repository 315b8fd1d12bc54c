import Shorthand.Yaml.Cursor

/-! # Block scalars

A literal or folded scalar takes the lines that are indented far enough. The line breaks at its
end are kept, cut to one, or dropped.
-/

namespace Shorthand.Yaml.Block

inductive Chomping where
  | strip | clip | keep
  deriving DecidableEq

/-- The chomping and the explicit indentation after the indicator. -/
structure Header where
  chomping : Option Chomping := none
  increment : Option Nat := none

def chomping? : Char → Option Chomping
  | '+' => some .keep
  | '-' => some .strip
  | _ => none

def increment? (c : Char) : Option Nat :=
  if c.isDigit ∧ c ≠ '0' then some (c.toNat - '0'.toNat) else none

namespace Header

/-- Takes in one of the two parts, each of them once. -/
def add? (h : Header) (c : Char) : Option Header :=
  match chomping? c, increment? c with
  | some k, _ => if h.chomping.isNone then some { h with chomping := some k } else none
  | none, some n => if h.increment.isNone then some { h with increment := some n } else none
  | none, none => none

/-- Reads the parts in either order. -/
def read (h : Header) : List Char → Header × Nat
  | [] => (h, 0)
  | c :: rest => match h.add? c with
    | some h => let (h, n) := h.read rest; (h, n + 1)
    | none => (h, 0)

end Header

structure Line where
  text : List Char
  ending : Option Char

/-- The lines of a text; the last one has no ending. -/
def linesFrom (text : List Char) : List Char → List Line
  | [] => [⟨text.reverse, none⟩]
  | c :: rest =>
    if isBreak c then ⟨text.reverse, some c⟩ :: linesFrom [] rest
    else linesFrom (c :: text) rest

def lines (s : List Char) : List Line :=
  linesFrom [] s

namespace Line

def indent (l : Line) : Nat :=
  (l.text.takeWhile (· == ' ')).length

def first? (l : Line) (n : Nat) : Option Char :=
  (l.text.drop (min n l.indent)).head?

/-- Holds nothing beyond an indentation of `n`. -/
def isEmpty (n : Nat) (l : Line) : Bool :=
  l.ending.isSome && (l.first? n).isNone

end Line

/-- The indentation of the first line that is not empty, unless an empty line before it is longer. -/
def detectIndent? (margin : Nat) (ls : List Line) : Option Nat :=
  let isEmpty (l : Line) : Bool := l.isEmpty l.indent
  let widths := (ls.takeWhile isEmpty).map Line.indent
  match ls.dropWhile isEmpty with
  | [] => some ((max margin 1 :: widths).foldl max 0)
  | l :: _ =>
    if l.first? l.indent = some '\t' then none
    else some ((max margin 1 :: l.indent :: widths).foldl max 0)

/-- The text read so far, the break after its last line, and the empty lines after that. -/
structure Draft where
  text : List Char := []
  ending : List Char := []
  empties : List Char := []
  indented : Bool := false

/-- Between two lines that are not indented further, a folded scalar turns the break into a space. -/
def Draft.addLine (folded : Bool) (d : Draft) (line : List Char) (ending : Option Char) : Draft :=
  let indented := line.head?.any isBlank
  let joint :=
    if folded ∧ d.ending = ['\n'] ∧ !d.indented ∧ !indented then
      if d.empties.isEmpty then [' '] else []
    else d.ending
  { text := d.text ++ joint ++ d.empties ++ line, ending := ending.toList, indented }

def Draft.finish (d : Draft) : Chomping → List Char
  | .strip => d.text
  | .clip => d.text ++ d.ending
  | .keep => d.text ++ d.ending ++ d.empties

/-- Reads lines with an indentation of `n`; also gives the number of characters taken. -/
def readLines? (folded : Bool) (n : Nat) (d : Draft) : List Line → Option (Draft × Nat)
  | [] => some (d, 0)
  | l :: ls =>
    let width := min n l.indent
    if width < n ∧ l.first? n = some '\t' then none
    else if l.isEmpty n then do
      let (d, taken) ← readLines? folded n { d with empties := d.empties ++ l.ending.toList } ls
      some (d, taken + width + 1)
    else if width < n ∨ (l.first? n).isNone then some (d, width)
    else do
      let d := d.addLine folded (l.text.drop n) l.ending
      if l.ending.isNone then some (d, l.text.length)
      else
        let (d, taken) ← readLines? folded n d ls
        some (d, taken + l.text.length + 1)

/-- Reads from behind the indicator. -/
def read? (folded : Bool) (margin : Nat) (c : Cursor) : Option (List Char × Cursor) := do
  let (h, n) := Header.read {} c.rest
  let c ← (c.skip n).endLine?
  let ls := lines c.rest
  let indent ← match h.increment with
    | some n => some (margin - 1 + n)
    | none => detectIndent? margin ls
  let (d, taken) ← readLines? folded indent {} ls
  return (d.finish (h.chomping.getD .clip), c.skip taken)

end Shorthand.Yaml.Block
