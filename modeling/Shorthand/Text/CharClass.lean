/-! # Classes of characters

A class lists the code points at which membership begins or ends, in increasing order.
-/

namespace Shorthand.Text

structure CharClass where
  bounds : List Nat

/-- A character belongs to the class when an odd number of bounds lie at or below it. -/
def CharClass.contains (k : CharClass) (c : Char) : Bool :=
  (k.bounds.takeWhile (· ≤ c.toNat)).length % 2 == 1

end Shorthand.Text
