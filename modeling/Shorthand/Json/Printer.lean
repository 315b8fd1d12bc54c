import Shorthand.Json.Basic
import Shorthand.Number.Shortest

/-! # Writing JSON

The compact form: no spaces, members in the order they are stored.
-/

namespace Shorthand.Json

def hexDigit (n : Nat) : Char :=
  Nat.digitChar n

def escape (c : Char) : List Char :=
  match c with
  | '"' => ['\\', '"']
  | '\\' => ['\\', '\\']
  | '\x08' => ['\\', 'b']
  | '\x0c' => ['\\', 'f']
  | '\n' => ['\\', 'n']
  | '\r' => ['\\', 'r']
  | '\t' => ['\\', 't']
  | c =>
    if c.toNat < 0x20 then ['\\', 'u', '0', '0', hexDigit (c.toNat / 16), hexDigit (c.toNat % 16)]
    else [c]

def strText (s : String) : String :=
  .ofList ('"' :: s.toList.flatMap escape ++ ['"'])

def Number.text : Number → String
  | .int n => toString n
  | .float x => x.text

mutual

def text : Json → String
  | .null => "null"
  | .bool true => "true"
  | .bool false => "false"
  | .num n => n.text
  | .str s => strText s
  | .arr items => "[" ++ itemsText items ++ "]"
  | .obj members => "\x7b" ++ membersText members ++ "\x7d"

def itemsText : List Json → String
  | [] => ""
  | [v] => v.text
  | v :: items => v.text ++ "," ++ itemsText items

def membersText : List (String × Json) → String
  | [] => ""
  | [(k, v)] => strText k ++ ":" ++ v.text
  | (k, v) :: members => strText k ++ ":" ++ v.text ++ "," ++ membersText members

end

end Shorthand.Json
