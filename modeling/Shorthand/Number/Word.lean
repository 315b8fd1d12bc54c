/-! # Words

Integers that fit a word of a given size.
-/

namespace Shorthand

/-- The number of different 64-bit words. -/
def wordCount : Nat := 0x10000000000000000

/-- Whether an integer is one of `count` words, read with or without a sign. -/
def fitsIn (count : Nat) (n : Int) : Bool :=
  -((count / 2 : Nat) : Int) ≤ n && n < count

end Shorthand
