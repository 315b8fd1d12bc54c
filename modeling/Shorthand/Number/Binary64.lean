/-! # Doubles

Finite numbers of the binary64 format. A quotient of naturals is rounded to the nearest double,
ties going to the even significand; products, quotients and decimals are rounded that way.
-/

namespace Shorthand

/-- The number `± significand * 2 ^ exponent`. -/
structure Binary64 where
  negative : Bool
  significand : Nat
  exponent : Int
  deriving DecidableEq, Repr

/-- The quotient rounded to the nearest natural, ties to even. -/
def roundDiv (num den : Nat) : Nat :=
  let q := num / den
  let r := 2 * (num % den)
  if r < den ∨ (r = den ∧ q % 2 = 0) then q else q + 1

/-- `num / den` divided by `base ^ e`, as a pair again. -/
def shiftRatio (base num den : Nat) (e : Int) : Nat × Nat :=
  (num * base.pow (-e).toNat, den * base.pow e.toNat)

namespace Binary64

def minExponent : Int := -1074
def maxExponent : Int := 971

/-- The significand of a power of two, `2 ^ 52`. -/
def leastNormal : Nat := 0x10000000000000

def zero (negative : Bool) : Binary64 := ⟨negative, 0, minExponent⟩

def isZero (x : Binary64) : Bool := x.significand == 0

def neg (x : Binary64) : Binary64 := { x with negative := !x.negative }

/-- The double nearest to `num / den`; none beyond the largest one. -/
def ofRatio? (negative : Bool) (num den : Nat) : Option Binary64 :=
  if num = 0 then some (zero negative) else
  let l : Int := num.log2 - den.log2
  let (n, d) := shiftRatio 2 num den l
  let e := max ((if d ≤ n then l else l - 1) - 52) minExponent
  let (n, d) := shiftRatio 2 num den e
  let m := roundDiv n d
  let (m, e) := if m = 2 * leastNormal then (leastNormal, e + 1) else (m, e)
  if maxExponent < e then none else some ⟨negative, m, e⟩

/-- The absolute value as a quotient. -/
def ratio (x : Binary64) : Nat × Nat :=
  shiftRatio 2 x.significand 1 (-x.exponent)

def mul? (x y : Binary64) : Option Binary64 :=
  let (a, b) := x.ratio
  let (c, d) := y.ratio
  ofRatio? (x.negative != y.negative) (a * c) (b * d)

def div? (x y : Binary64) : Option Binary64 :=
  let (a, b) := x.ratio
  let (c, d) := y.ratio
  ofRatio? (x.negative != y.negative) (a * d) (b * c)

/-- The double nearest to `digits * 10 ^ e`, where `digits` has `count` decimal places. -/
def ofDecimal? (negative : Bool) (digits count : Nat) (e : Int) : Option Binary64 :=
  if digits = 0 ∨ e + count < -330 then some (zero negative)
  else if 310 < e then none
  else
    let (n, d) := shiftRatio 10 digits 1 (-e)
    ofRatio? negative n d

end Binary64

end Shorthand
