import Shorthand.Yaml.Scalar.Plain

/-! # Quoted scalars

Between single quotes a quote is written twice; between double quotes a backslash starts an
escape. White space is folded as in plain scalars.
-/

namespace Shorthand.Yaml.Quoted

/-- What the characters read so far leave open. -/
inductive Mode where
  | text
  | quote
  | escape
  | code (left value : Nat)

/-- Text and white space read so far, in reverse; the white space may follow an escaped break. -/
structure Draft where
  text : List Char := []
  gap : List Char := []
  continued : Bool := false
  mode : Mode := .text

namespace Draft

/-- After an escaped line break blanks are dropped and further line breaks are kept. -/
def flush (d : Draft) : Draft :=
  let gap := d.gap.reverse
  let gap := if d.continued then gap.filter isBreak else foldSpace gap
  { text := gap.reverse ++ d.text }

def add (d : Draft) (c : Char) : Draft :=
  { d.flush with text := c :: d.flush.text }

def addSpace (d : Draft) (c : Char) : Draft :=
  { d with gap := c :: d.gap }

end Draft

def escaped? : Char → Option Char
  | '0' => some '\x00'
  | 'a' => some '\x07'
  | 'b' => some '\x08'
  | 't' | '\t' => some '\t'
  | 'n' => some '\n'
  | 'v' => some '\x0b'
  | 'f' => some '\x0c'
  | 'r' => some '\r'
  | 'e' => some '\x1b'
  | ' ' => some ' '
  | '"' => some '"'
  | '/' => some '/'
  | '\\' => some '\\'
  | 'N' => some '\u0085'
  | '_' => some '\u00a0'
  | 'L' => some '\u2028'
  | 'P' => some '\u2029'
  | _ => none

/-- The number of hexadecimal digits after the letter of an escape. -/
def codeLength? : Char → Option Nat
  | 'x' => some 2
  | 'u' => some 4
  | 'U' => some 8
  | _ => none

def scalarValue? (n : Nat) : Option Char :=
  if n.isValidChar then some (Char.ofNat n) else none

/-- Goes on after a backslash. -/
def escape? (d : Draft) (c : Char) : Option Draft :=
  if isBreak c then some { d with continued := true, mode := .text }
  else match codeLength? c with
    | some n => some { d with mode := .code n 0 }
    | none => (escaped? c).map d.add

/-- Goes on inside an escape that still needs `left` digits. -/
def code? (d : Draft) (left value : Nat) (c : Char) : Option Draft := do
  let n := 16 * value + (← Text.hexValue? c)
  if left ≤ 1 then (scalarValue? n).map d.add
  else some { d with mode := .code (left - 1) n }

def readDouble? (d : Draft) (p : Position) : List Char → Option (List Char × Cursor)
  | [] => none
  | c :: rest =>
    match d.mode with
    | .escape => do readDouble? (← escape? d c) (p.after c) rest
    | .code left value => do readDouble? (← code? d left value c) (p.after c) rest
    | _ =>
      if isSpace c then readDouble? (d.addSpace c) (p.after c) rest
      else if isMarker p (c :: rest) then none
      else if c == '"' then some (d.flush.text.reverse, ⟨p.after c, rest⟩)
      else if c == '\\' then readDouble? { d.flush with mode := .escape } (p.after c) rest
      else readDouble? (d.add c) (p.after c) rest

def readSingle? (d : Draft) (p : Position) : List Char → Option (List Char × Cursor)
  | [] => none
  | c :: rest =>
    match d.mode with
    | .quote => readSingle? (d.add c) (p.after c) rest
    | _ =>
      if isSpace c then readSingle? (d.addSpace c) (p.after c) rest
      else if isMarker p (c :: rest) then none
      else if c == '\'' then
        if rest.head? = some '\'' then readSingle? { d with mode := .quote } (p.after c) rest
        else some (d.flush.text.reverse, ⟨p.after c, rest⟩)
      else readSingle? (d.add c) (p.after c) rest

end Shorthand.Yaml.Quoted
