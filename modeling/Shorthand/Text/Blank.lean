import Shorthand.Text.CharClass
import Shorthand.Text.Split

/-! # Blank characters

The white space of Unicode, trimming, and splitting into words.
-/

namespace Shorthand.Text

def whiteSpace : CharClass where
  bounds := [
    0x9, 0xe, 0x20, 0x21, 0x85, 0x86, 0xa0, 0xa1, 0x1680, 0x1681, 0x2000, 0x200b, 0x2028, 0x202a,
    0x202f, 0x2030, 0x205f, 0x2060, 0x3000, 0x3001]

def isBlank (c : Char) : Bool :=
  whiteSpace.contains c

/-- The maximal runs of characters that are not blank. -/
def words (s : List Char) : List (List Char) :=
  (splitWhere isBlank s).filter (!·.isEmpty)

/-- Drops the characters in `p` from both ends. -/
def trimWhere (p : Char → Bool) (s : List Char) : List Char :=
  ((s.dropWhile p).reverse.dropWhile p).reverse

def trim (s : List Char) : List Char :=
  trimWhere isBlank s

end Shorthand.Text
