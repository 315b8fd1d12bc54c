import Shorthand.Yaml.Scalar.Block
import Shorthand.Yaml.Scalar.Quoted
import Shorthand.Yaml.Token

/-! # Cutting a source into tokens

A colon may turn what came before it on the line into a key. The place where such a key would
start is remembered, and the tokens that announce it are put there once the colon shows up.
-/

namespace Shorthand.Yaml

/-- A place where a key may start, after the first `tokens` tokens. -/
structure PossibleKey where
  position : Position
  tokens : Nat
  required : Bool

/-- A key ends on its line, within 1024 octets. -/
def PossibleKey.isStale (k : PossibleKey) (p : Position) : Bool :=
  k.position.line < p.line || k.position.octets + 1024 < p.octets

/-- The margins of the open block collections and the possible keys outside the innermost
brackets come innermost first. A margin lies one column behind its collection. -/
structure Lexer where
  cursor : Cursor
  tokens : Array Token := #[]
  margins : List Nat := []
  key : Option PossibleKey := none
  outerKeys : List (Option PossibleKey) := []
  keyAllowed : Bool := true

namespace Lexer

def inFlow (s : Lexer) : Bool :=
  !s.outerKeys.isEmpty

def margin (s : Lexer) : Nat :=
  s.margins.headD 0

def push (s : Lexer) (t : Token) : Lexer :=
  { s with tokens := s.tokens.push t }

def insert (s : Lexer) (place : Nat) (t : Token) : Lexer :=
  { s with tokens := s.tokens.insertIdxIfInBounds place t }

/-- Moves past the next characters. -/
def skip (s : Lexer) (n : Nat) : Lexer :=
  { s with cursor := s.cursor.skip n }

/-- Opens a block collection at `column`, unless one is open there. -/
def openBlock (s : Lexer) (column place : Nat) (t : Token) : Lexer :=
  if s.inFlow ∨ column < s.margin then s
  else { s.insert place t with margins := (column + 1) :: s.margins }

/-- Closes the block collections whose margin lies beyond `limit`. -/
def closeBlocks (s : Lexer) (limit : Nat) : Lexer :=
  if s.inFlow then s
  else
    let closed := s.margins.takeWhile (limit < ·)
    { s with
      tokens := closed.foldl (fun ts _ => ts.push .blockEnd) s.tokens
      margins := s.margins.drop closed.length }

/-- Gives up the possible key at this level. -/
def dropKey? (s : Lexer) : Option Lexer :=
  if s.key.any (·.required) then none else some { s with key := none }

/-- A key is required where the entries of the innermost block collection start. -/
def saveKey? (s : Lexer) : Option Lexer :=
  if s.keyAllowed then do
    let p := s.cursor.toPosition
    let required := !s.inFlow && s.margin == p.column + 1
    return { ← s.dropKey? with key := some ⟨p, s.tokens.size, required⟩ }
  else some s

/-- Forgets the possible keys that ended without a colon. -/
def dropStale? (s : Lexer) : Option Lexer := do
  let check (k : Option PossibleKey) : Option (Option PossibleKey) :=
    match k with
    | some k =>
      if k.isStale s.cursor.toPosition then if k.required then none else some none
      else some (some k)
    | none => some none
  return { s with key := ← check s.key, outerKeys := ← s.outerKeys.mapM check }

/-- Skips white space and comments; a line break allows a key in block context. Tabs do not count
as white space where a key may start. A byte order mark may start a line, and takes a column. -/
def skipSpace (inFlow keyAllowed inComment : Bool) (p : Position) : List Char → Cursor × Bool
  | [] => (⟨p, []⟩, keyAllowed)
  | c :: rest =>
    if isBreak c then skipSpace inFlow (keyAllowed || !inFlow) false (p.after c) rest
    else if inComment then skipSpace inFlow keyAllowed true (p.after c) rest
    else if c == '#' then skipSpace inFlow keyAllowed true (p.after c) rest
    else if c == ' ' || (c == '\t' && (inFlow || !keyAllowed)) ||
        (c == byteOrderMark && p.column == 0) then
      skipSpace inFlow keyAllowed false (p.after c) rest
    else (⟨p, c :: rest⟩, keyAllowed)

/-- Moves to the next token and closes the block collections that end before it. -/
def settle? (s : Lexer) : Option Lexer := do
  let (cursor, keyAllowed) :=
    skipSpace s.inFlow s.keyAllowed false s.cursor.toPosition s.cursor.rest
  let s ← dropStale? { s with cursor, keyAllowed }
  return s.closeBlocks (cursor.column + 1)

/-- Digits of a version number, up to nine. -/
def number? (c : Cursor) : Option (Nat × Cursor) :=
  let digits := c.rest.takeWhile Char.isDigit
  if digits.isEmpty ∨ 9 < digits.length then none
  else some (digits.foldl (fun n d => 10 * n + (d.toNat - '0'.toNat)) 0, c.skip digits.length)

def version? (c : Cursor) : Option (Directive × Cursor) := do
  let (major, c) ← number? (c.skipWhile isBlank)
  if c.head? ≠ some '.' then none
  let (minor, c) ← number? c.next
  return (.version major minor, c)

/-- A handle is one exclamation mark, or a word between two. -/
def handle? (c : Cursor) : Option (Directive × Cursor) := do
  let c := c.skipWhile isBlank
  if c.head? ≠ some '!' then none
  let word := c.next.rest.takeWhile isWord
  let c := c.next.skip word.length
  let (name, c) ←
    if c.head? = some '!' then some ("!" ++ .ofList word ++ "!", c.next)
    else if word.isEmpty then some ("!", c)
    else none
  if !c.head?.any isBlank then none
  let (text, c) ← Tag.readNonempty? true (c.skipWhile isBlank)
  if startsBlank c.rest then some (.handle name text, c) else none

def directive? (c : Cursor) : Option (Directive × Cursor) := do
  let name := c.next.rest.takeWhile isWord
  let c := c.next.skip name.length
  if !startsBlank c.rest then none
  let (d, c) ←
    if name = "YAML".toList then version? c
    else if name = "TAG".toList then handle? c
    else none
  return (d, ← c.endLine?)

def fetchDirective? (s : Lexer) : Option Lexer := do
  let s ← (s.closeBlocks 0).dropKey?
  let (d, cursor) ← directive? s.cursor
  return { s.push (.directive d) with cursor, keyAllowed := false }

def fetchMarker? (s : Lexer) (t : Token) : Option Lexer := do
  let s ← (s.closeBlocks 0).dropKey?
  return { (s.push t).skip 3 with keyAllowed := false }

def openFlow? (s : Lexer) (t : Token) : Option Lexer := do
  let s ← s.saveKey?
  return { (s.push t).skip 1 with
    key := none, outerKeys := s.key :: s.outerKeys, keyAllowed := true }

def closeFlow? (s : Lexer) (t : Token) : Option Lexer := do
  let s ← s.dropKey?
  return { (s.push t).skip 1 with
    key := s.outerKeys.headD none, outerKeys := s.outerKeys.tail, keyAllowed := false }

def fetchComma? (s : Lexer) : Option Lexer := do
  let s ← s.dropKey?
  return { (s.push .comma).skip 1 with keyAllowed := true }

/-- Entries are written with a dash in block context only. -/
def fetchEntry? (s : Lexer) : Option Lexer := do
  if s.inFlow ∨ !s.keyAllowed then none
  let s ← (s.openBlock s.cursor.column s.tokens.size .blockSequence).dropKey?
  return { (s.push .entry).skip 1 with keyAllowed := true }

def fetchKey? (s : Lexer) : Option Lexer := do
  if !s.inFlow ∧ !s.keyAllowed then none
  let s ← (s.openBlock s.cursor.column s.tokens.size .blockMapping).dropKey?
  return { (s.push .key).skip 1 with keyAllowed := !s.inFlow }

/-- The value of the possible key, or else of a key that was announced by itself. -/
def fetchValue? (s : Lexer) : Option Lexer :=
  match s.key with
  | some k =>
    let s := (s.insert k.tokens .key).openBlock k.position.column k.tokens .blockMapping
    some { (s.push .value).skip 1 with key := none, keyAllowed := false }
  | none =>
    if !s.inFlow ∧ !s.keyAllowed then none
    else
      let s := s.openBlock s.cursor.column s.tokens.size .blockMapping
      some { (s.push .value).skip 1 with keyAllowed := !s.inFlow }

/-- A name and the character that ends it. -/
def fetchName? (s : Lexer) (token : String → Token) : Option Lexer := do
  let s := (← s.saveKey?).skip 1
  let name := s.cursor.rest.takeWhile isWord
  let s := s.skip name.length
  if name.isEmpty then none
  let ends := startsBlank s.cursor.rest ||
    s.cursor.head?.any "?:,]\x7d%@\x60".toList.contains
  if ends then some { s.push (token (.ofList name)) with keyAllowed := false } else none

def fetchTag? (s : Lexer) : Option Lexer := do
  let s ← s.saveKey?
  let (t, cursor) ← Tag.read? s.inFlow s.cursor
  return { s.push (.tag t) with cursor, keyAllowed := false }

def fetchBlockScalar? (s : Lexer) (folded : Bool) : Option Lexer := do
  let s ← s.dropKey?
  let (text, cursor) ← Block.read? folded s.margin s.cursor.next
  return { s.push (.scalar false (.ofList text)) with cursor, keyAllowed := true }

def fetchQuoted? (s : Lexer) (read : Position → List Char → Option (List Char × Cursor)) :
    Option Lexer := do
  let s ← s.saveKey?
  let c := s.cursor.next
  let (text, cursor) ← read c.toPosition c.rest
  return { s.push (.scalar false (.ofList text)) with cursor, keyAllowed := false }

/-- A scalar that ran into the next line leaves the place free for a key. -/
def fetchPlain? (s : Lexer) : Option Lexer := do
  let s ← s.saveKey?
  let (d, cursor) ← Plain.read? ⟨s.inFlow, s.margin⟩ {} s.cursor.toPosition s.cursor.rest
  let t := Token.scalar true (.ofList d.text.reverse)
  return { s.push t with cursor, keyAllowed := d.crossesLine }

/-- Reads the token that starts with `c`. -/
def fetch? (s : Lexer) (c : Char) : Option Lexer :=
  let rest := s.cursor.rest.tail
  let isIndicator := startsBlank rest
  if c == '%' && s.cursor.column == 0 then s.fetchDirective?
  else if isMarker s.cursor.toPosition s.cursor.rest then
    s.fetchMarker? (if c == '-' then .documentStart else .documentEnd)
  else match c with
    | '[' => s.openFlow? .flowSequence
    | '\x7b' => s.openFlow? .flowMapping
    | ']' => s.closeFlow? .flowSequenceEnd
    | '\x7d' => s.closeFlow? .flowMappingEnd
    | ',' => s.fetchComma?
    | '*' => s.fetchName? .alias
    | '&' => s.fetchName? .anchor
    | '!' => s.fetchTag?
    | '\'' => s.fetchQuoted? (Quoted.readSingle? {})
    | '"' => s.fetchQuoted? (Quoted.readDouble? {})
    | _ =>
      if c == '-' && isIndicator then s.fetchEntry?
      else if c == '?' && (s.inFlow || isIndicator) then s.fetchKey?
      else if c == ':' && (s.inFlow || isIndicator) then s.fetchValue?
      else if (c == '|' || c == '>') && !s.inFlow then s.fetchBlockScalar? (c == '>')
      else if Plain.canStart s.inFlow c rest then s.fetchPlain?
      else none

/-- Reads tokens to the end of the source; each of them takes a character. -/
def run? : Nat → Lexer → Option (Array Token)
  | 0, _ => none
  | n + 1, s => do
    let s ← s.settle?
    match s.cursor.head? with
    | none => return (← (s.closeBlocks 0).dropKey?).tokens
    | some c => run? n (← s.fetch? c)

end Lexer

def Token.scan? (s : String) : Option (List Token) := do
  let source ← source? s.toList
  return (← Lexer.run? (source.length + 1) { cursor := { rest := source } }).toList

end Shorthand.Yaml
