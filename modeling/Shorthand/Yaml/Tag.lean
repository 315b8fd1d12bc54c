import Shorthand.Yaml.Cursor

/-! # Tags

A tag is a handle and a suffix. Directives give handles their texts; escapes stand for octets.
-/

namespace Shorthand.Yaml

/-- The octets of a tag. -/
abbrev TagText := List UInt8

/-- A tag as written; a tag without a handle is complete. -/
structure Tag where
  handle : String
  suffix : TagText

namespace Tag

def octets (s : String) : TagText :=
  s.toUTF8.toList

/-- Characters of tags; `,`, `[` and `]` only where the tag is delimited. -/
def isTagChar (delimited : Bool) (c : Char) : Bool :=
  isWord c || ";/?:@&=+$.%!~*'()".toList.contains c ||
    (delimited && (c == ',' || c == '[' || c == ']'))

/-- The number of octets that follow the first one of a character. -/
def followers? (octet : Nat) : Option Nat :=
  if octet < 0x80 then some 0
  else if 0xc0 ≤ octet ∧ octet < 0xe0 then some 1
  else if 0xe0 ≤ octet ∧ octet < 0xf0 then some 2
  else if 0xf0 ≤ octet ∧ octet < 0xf8 then some 3
  else none

def octet? (high low : Char) : Option Nat := do
  return 16 * (← Text.hexValue? high) + (← Text.hexValue? low)

/-- Resolves escapes; `pending` of them still belong to the character before. -/
def unescape? (pending : Nat) : List Char → Option TagText
  | '%' :: a :: b :: s => do
    let n ← octet? a b
    let pending ← match pending with
      | 0 => followers? n
      | k + 1 => if 0x80 ≤ n ∧ n < 0xc0 then some k else none
    return n.toUInt8 :: (← unescape? pending s)
  | c :: s =>
    if c = '%' ∨ pending ≠ 0 then none else (unescape? 0 s).map (c.toNat.toUInt8 :: ·)
  | [] => if pending = 0 then some [] else none

/-- The longest run of tag characters; a zero octet ends its text. -/
def readText? (delimited : Bool) (c : Cursor) : Option (TagText × Cursor) := do
  let run := c.rest.takeWhile (isTagChar delimited)
  return ((← unescape? 0 run).takeWhile (· ≠ 0), c.skip run.length)

def readNonempty? (delimited : Bool) (c : Cursor) : Option (TagText × Cursor) :=
  if c.head?.any (isTagChar delimited) then readText? delimited c else none

/-- A text between angle brackets, read from behind the first one. -/
def readVerbatim? (c : Cursor) : Option (Tag × Cursor) := do
  let (suffix, c) ← readNonempty? true c
  if c.head? = some '>' then some (⟨"", suffix⟩, c.next) else none

/-- A handle and a suffix, or a suffix alone, read from behind the exclamation mark. -/
def readShorthand? (c : Cursor) : Option (Tag × Cursor) := do
  let word := c.rest.takeWhile isWord
  let afterWord := c.skip word.length
  if afterWord.head? = some '!' then
    let (suffix, c) ← readNonempty? false afterWord.next
    return (⟨"!" ++ .ofList word ++ "!", suffix⟩, c)
  else
    let (suffix, c) ← readText? false c
    return (if suffix.isEmpty then ⟨"", octets "!"⟩ else ⟨"!", suffix⟩, c)

/-- White space follows a tag; inside brackets a comma may. -/
def read? (inFlow : Bool) (c : Cursor) : Option (Tag × Cursor) := do
  let c := c.next
  let (t, c) ← if c.head? = some '<' then readVerbatim? c.next else readShorthand? c
  if startsBlank c.rest || (inFlow && c.head? = some ',') then some (t, c) else none

end Tag

/-- The texts that handles stand for. -/
abbrev Handles := List (String × TagText)

namespace Handles

def predefined : Handles :=
  [("!", Tag.octets "!"), ("!!", Tag.octets "tag:yaml.org,2002:")]

def resolve? (h : Handles) (t : Tag) : Option TagText :=
  if t.handle.isEmpty then some t.suffix
  else (h.lookup t.handle).map (· ++ t.suffix)

end Handles

end Shorthand.Yaml
