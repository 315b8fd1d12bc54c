import Shorthand.Number.Binary64

/-! # Shortest decimals

The decimal with the fewest digits that rounds to a given double, nearest to it among those, and
its layout: positional for moderate exponents, scientific otherwise.
-/

namespace Shorthand

/-- The number `digits * 10 ^ exponent`. -/
structure Decimal where
  digits : Nat
  exponent : Int
  deriving DecidableEq, Repr

namespace Decimal

/-- Moves trailing zeros into the exponent. -/
def normalize : Nat → Decimal → Decimal
  | 0, d => d
  | n + 1, d =>
    if d.digits % 10 = 0 then normalize n ⟨d.digits / 10, d.exponent + 1⟩ else d

end Decimal

namespace Binary64

/--
Factors that turn multiples of `10 ^ p` and multiples of a quarter unit in the last place of `x`
into one unit.
-/
def commonUnit (x : Binary64) (p : Int) : Nat × Nat :=
  let e := x.exponent - 2
  (Nat.pow 10 p.toNat * Nat.pow 2 (-e).toNat, Nat.pow 2 e.toNat * Nat.pow 10 (-p).toNat)

/-- Quarters of the last place from the lower end of the reals that round to `x` up to `x`. -/
def lowerGap (x : Binary64) : Nat :=
  if x.significand = leastNormal ∧ minExponent < x.exponent then 1 else 2

/-- The multiple `c * 10 ^ p` rounds to `x`. -/
def roundsTo (x : Binary64) (c : Nat) (p : Int) : Bool :=
  let (a, b) := x.commonUnit p
  let low := (4 * x.significand - x.lowerGap) * b
  let high := (4 * x.significand + 2) * b
  if x.significand % 2 = 0 then low ≤ c * a && c * a ≤ high else low < c * a && c * a < high

/-- The multiple of `10 ^ p` that is nearest to `x` among its neighbours that round to `x`. -/
def onGrid? (x : Binary64) (p : Int) : Option Decimal :=
  let (a, b) := x.commonUnit p
  let v := 4 * x.significand * b
  let c := v / a
  match x.roundsTo c p, x.roundsTo (c + 1) p with
  | true, true =>
    let below := v - c * a
    let above := (c + 1) * a - v
    some ⟨if below < above ∨ (below = above ∧ c % 2 = 0) then c else c + 1, p⟩
  | true, false => some ⟨c, p⟩
  | false, true => some ⟨c + 1, p⟩
  | false, false => none

/-- The exponent of the leading decimal digit. -/
def leadingExponent (x : Binary64) : Int :=
  let guess := (x.exponent + x.significand.log2) * 30103 / 100000
  let reaches (p : Int) : Bool :=
    let (a, b) := x.commonUnit p
    a ≤ 4 * x.significand * b
  if reaches (guess + 1) then guess + 1 else if reaches guess then guess else guess - 1

def shortest (x : Binary64) : Decimal :=
  let top := x.leadingExponent
  let grids := (List.range 17).map fun (n : Nat) => top - n
  ((grids.findSome? x.onGrid?).getD ⟨x.significand, x.exponent⟩).normalize 20

/-- Layout of `digits` whose decimal point stands after the first `point` of them. -/
def layout (digits : List Char) (point : Int) : List Char :=
  let count : Int := digits.length
  if 0 < point ∧ point ≤ 16 then
    if count ≤ point then
      digits ++ List.replicate (point - count).toNat '0' ++ ['.', '0']
    else digits.take point.toNat ++ '.' :: digits.drop point.toNat
  else if -5 < point ∧ point ≤ 0 then
    ['0', '.'] ++ List.replicate (-point).toNat '0' ++ digits
  else
    let exponent := 'e' :: (toString (point - 1)).toList
    match digits with
    | [d] => d :: exponent
    | d :: ds => d :: '.' :: ds ++ exponent
    | [] => exponent

def text (x : Binary64) : String :=
  let unsigned :=
    if x.isZero then ['0', '.', '0']
    else
      let d := x.shortest
      let digits := Nat.toDigits 10 d.digits
      layout digits (digits.length + d.exponent)
  .ofList (if x.negative then '-' :: unsigned else unsigned)

end Binary64

end Shorthand
