import Shorthand.Text.Digit

/-! # Reading positions

A YAML source has one kind of line feed. Positions count lines, and characters and octets within
the line.
-/

namespace Shorthand.Yaml

/-- Characters that a source may contain. -/
def isPrintable (c : Char) : Bool :=
  c == '\t' || c == '\n' || c == '\r' || (' ' ≤ c && c ≤ '~') || c == '\u0085' ||
    ('\u00a0' ≤ c && c.toNat ≤ 0xfffd) || 0x10000 ≤ c.toNat

def isBreak (c : Char) : Bool :=
  c == '\n' || c == '\u2028' || c == '\u2029'

def isBlank (c : Char) : Bool :=
  c == ' ' || c == '\t'

def isSpace (c : Char) : Bool :=
  isBlank c || isBreak c

/-- Letters of names: ASCII letters, digits, `_` and `-`. -/
def isWord (c : Char) : Bool :=
  c.isAlphanum || c == '_' || c == '-'

/-- Brackets, braces and the comma. -/
def isFlowIndicator (c : Char) : Bool :=
  c == ',' || c == '[' || c == ']' || c == '\x7b' || c == '\x7d'

def byteOrderMark : Char := '\ufeff'

/-- The ways to write a line feed become one. -/
def normalizeBreaks : List Char → List Char
  | '\r' :: '\n' :: s => '\n' :: normalizeBreaks s
  | c :: s => (if c == '\r' || c == '\u0085' then '\n' else c) :: normalizeBreaks s
  | [] => []

/-- The characters to read. -/
def source? (s : List Char) : Option (List Char) :=
  if s.all isPrintable then some (normalizeBreaks s) else none

structure Position where
  line : Nat := 0
  column : Nat := 0
  octets : Nat := 0

def Position.after (p : Position) (c : Char) : Position :=
  if isBreak c then { line := p.line + 1 }
  else { p with column := p.column + 1, octets := p.octets + c.utf8Size }

structure Cursor extends Position where
  rest : List Char

/-- White space or the end. -/
def startsBlank (s : List Char) : Bool :=
  s.head?.all isSpace

namespace Cursor

def head? (c : Cursor) : Option Char :=
  c.rest.head?

def next (c : Cursor) : Cursor :=
  match c.rest with
  | [] => c
  | x :: rest => { toPosition := c.toPosition.after x, rest }

def skip : Nat → Cursor → Cursor
  | 0, c => c
  | n + 1, c => c.next.skip n

def skipWhile (p : Char → Bool) (c : Cursor) : Cursor :=
  c.skip (c.rest.takeWhile p).length

/-- Skips blanks, a comment and the line break after them; nothing else may follow on the line. -/
def endLine? (c : Cursor) : Option Cursor :=
  let c := c.skipWhile isBlank
  let c := if c.head? = some '#' then c.skipWhile (!isBreak ·) else c
  if c.head?.all isBreak then some c.next else none

end Cursor

/-- A line starts with three dashes or three dots that stand alone. -/
def isMarker (p : Position) (s : List Char) : Bool :=
  p.column == 0 && (s.take 3 == ['-', '-', '-'] || s.take 3 == ['.', '.', '.']) &&
    startsBlank (s.drop 3)

end Shorthand.Yaml
