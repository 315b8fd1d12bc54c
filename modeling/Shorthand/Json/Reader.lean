import Shorthand.Json.Number

/-! # Reading JSON

A text is cut into lexemes, and the lexemes are assembled on a stack of open containers. Of
members with one key the last remains.
-/

namespace Shorthand.Json

inductive Lexeme where
  | openArr | closeArr | openObj | closeObj | comma | colon
  | str (s : String)
  | scalar (v : Json)

namespace Lexeme

/-- What the characters read so far leave open; texts are kept in reverse. -/
inductive Mode where
  | between
  | word (chars : List Char)
  | text (chars : List Char)
  | escape (chars : List Char)
  | unicode (chars : List Char) (high : Option Nat) (digits value : Nat)
  | low (chars : List Char) (high : Nat)
  | lowEscape (chars : List Char) (high : Nat)

def punctuation? : Char → Option Lexeme
  | '[' => some openArr
  | ']' => some closeArr
  | '\x7b' => some openObj
  | '\x7d' => some closeObj
  | ',' => some comma
  | ':' => some colon
  | _ => none

def isSpace (c : Char) : Bool :=
  c == ' ' || c == '\n' || c == '\t' || c == '\r'

/-- A literal or a number. -/
def word? (chars : List Char) : Option Lexeme :=
  if chars = ['n', 'u', 'l', 'l'] then some (scalar .null)
  else if chars = ['t', 'r', 'u', 'e'] then some (scalar (.bool true))
  else if chars = ['f', 'a', 'l', 's', 'e'] then some (scalar (.bool false))
  else (Number.read? chars).map (scalar <| .num ·)

def escaped? : Char → Option Char
  | '"' => some '"'
  | '\\' => some '\\'
  | '/' => some '/'
  | 'b' => some '\x08'
  | 'f' => some '\x0c'
  | 'n' => some '\n'
  | 'r' => some '\r'
  | 't' => some '\t'
  | _ => none

/-- A UTF-16 unit given by an escape; a leading surrogate waits for its trailing one. -/
def unit? (chars : List Char) (high : Option Nat) (n : Nat) : Option Mode :=
  let leading := 0xd800 ≤ n ∧ n < 0xdc00
  let trailing := 0xdc00 ≤ n ∧ n < 0xe000
  match high with
  | none =>
    if leading then some (.low chars n)
    else if trailing then none
    else some (.text (Char.ofNat n :: chars))
  | some h =>
    if trailing then
      some (.text (Char.ofNat (0x10000 + (h - 0xd800) * 0x400 + (n - 0xdc00)) :: chars))
    else none

/-- Lexemes so far, in reverse, and what is open. -/
abbrev Scan := List Lexeme × Mode

def start (done : List Lexeme) (c : Char) : Scan :=
  if c == '"' then (done, .text [])
  else if isSpace c then (done, .between)
  else match punctuation? c with
    | some l => (l :: done, .between)
    | none => (done, .word [c])

def step : Scan → Char → Option Scan
  | (done, .between), c => some (start done c)
  | (done, .word chars), c =>
    if c == '"' || isSpace c || (punctuation? c).isSome then
      (word? chars.reverse).map fun l => start (l :: done) c
    else some (done, .word (c :: chars))
  | (done, .text chars), c =>
    if c == '"' then some (str (.ofList chars.reverse) :: done, .between)
    else if c == '\\' then some (done, .escape chars)
    else if c.toNat < 0x20 then none
    else some (done, .text (c :: chars))
  | (done, .escape chars), c =>
    if c == 'u' then some (done, .unicode chars none 0 0)
    else (escaped? c).map fun e => (done, .text (e :: chars))
  | (done, .unicode chars high digits value), c => do
    let n := 16 * value + (← Text.hexValue? c)
    if digits = 3 then (unit? chars high n).map (done, ·)
    else some (done, .unicode chars high (digits + 1) n)
  | (done, .low chars high), c => if c == '\\' then some (done, .lowEscape chars high) else none
  | (done, .lowEscape chars high), c =>
    if c == 'u' then some (done, .unicode chars (some high) 0 0) else none

def finish : Scan → Option (List Lexeme)
  | (done, .between) => some done.reverse
  | (done, .word chars) => (word? chars.reverse).map fun l => (l :: done).reverse
  | _ => none

def scan (s : List Char) : Option (List Lexeme) :=
  (s.foldlM step ([], .between)).bind finish

end Lexeme

/-- An open container: its finished items in reverse, or its members and the key in hand. -/
inductive Frame where
  | items (done : List Json)
  | member (done : Dict Json) (key : String)

/-- What may come next, above the containers that are still open. -/
inductive Expecting where
  | value (stack : List Frame)
  | firstItem (stack : List Frame)
  | key (stack : List Frame) (done : Dict Json)
  | firstKey (stack : List Frame)
  | colon (stack : List Frame) (done : Dict Json) (key : String)
  | moreItems (stack : List Frame) (done : List Json)
  | moreMembers (stack : List Frame) (done : Dict Json)
  | nothing (v : Json)

namespace Expecting

/-- Containers may be open one inside the other up to this number. -/
def maxDepth : Nat := 127

/-- Puts a finished value into the innermost open container. -/
def place (v : Json) : List Frame → Expecting
  | [] => .nothing v
  | .items done :: stack => .moreItems stack (v :: done)
  | .member done k :: stack => .moreMembers stack (Dict.insert k v done)

def startValue (stack : List Frame) : Lexeme → Option Expecting
  | .scalar v => some (place v stack)
  | .str s => some (place (.str s) stack)
  | .openArr => if stack.length < maxDepth then some (.firstItem stack) else none
  | .openObj => if stack.length < maxDepth then some (.firstKey stack) else none
  | _ => none

def step : Expecting → Lexeme → Option Expecting
  | .value stack, l => startValue stack l
  | .firstItem stack, .closeArr => some (place (.arr []) stack)
  | .firstItem stack, l => startValue (.items [] :: stack) l
  | .firstKey stack, .closeObj => some (place (.obj []) stack)
  | .firstKey stack, .str k => some (.colon stack [] k)
  | .key stack done, .str k => some (.colon stack done k)
  | .colon stack done k, .colon => some (.value (.member done k :: stack))
  | .moreItems stack done, .comma => some (.value (.items done :: stack))
  | .moreItems stack done, .closeArr => some (place (.arr done.reverse) stack)
  | .moreMembers stack done, .comma => some (.key stack done)
  | .moreMembers stack done, .closeObj => some (place (.obj done) stack)
  | _, _ => none

end Expecting

def assemble (lexemes : List Lexeme) : Option Json :=
  match lexemes.foldlM Expecting.step (.value []) with
  | some (.nothing v) => some v
  | _ => none

/-- The value a text spells; none when the text is not JSON. -/
def read? (s : String) : Option Json :=
  (Lexeme.scan s.toList).bind assemble

end Shorthand.Json
