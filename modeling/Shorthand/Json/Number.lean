import Shorthand.Json.Basic
import Shorthand.Number.Word
import Shorthand.Text.Digit

/-! # Number texts

Digits are taken into a 64-bit significand as long as they fit; the remaining ones only count for
the exponent. The significand is then scaled by powers of ten in double arithmetic.
-/

namespace Shorthand.Json.Number

open Text

/-- Takes digits while the significand fits; returns it with the number of digits left over. -/
def significand (start : Nat) : List Char → Nat × Nat
  | [] => (start, 0)
  | c :: digits =>
    let n := 10 * start + (c.toNat - '0'.toNat)
    if n < wordCount then significand n digits else (start, digits.length + 1)

def powerOfTen (n : Nat) : Binary64 :=
  (Binary64.ofDecimal? false 1 1 n).getD (.zero false)

/-- Scales by powers of ten no larger than `10 ^ 308`, one after the other. -/
def scale (x : Binary64) (e : Int) : Option Binary64 :=
  if e.natAbs ≤ 308 then
    if 0 ≤ e then x.mul? (powerOfTen e.toNat) else x.div? (powerOfTen (-e).toNat)
  else if x.isZero then some x
  else if _ : 0 ≤ e then none
  else (x.div? (powerOfTen 308)).bind (scale · (e + 308))
termination_by (-e).toNat
decreasing_by omega

/-- The parts of a number text: `whole.fraction e exponent`. -/
structure Parts where
  negative : Bool
  whole : List Char
  fraction : Option (List Char)
  exponent : Option Int

def exponent? (s : List Char) : Option Int :=
  match s with
  | '-' :: digits => (readNat? digits).map fun n => -n
  | '+' :: digits => (readNat? digits).map Int.ofNat
  | digits => (readNat? digits).map Int.ofNat

/-- The part after the whole digits: a fraction, an exponent, or both. -/
def Parts.tail? (negative : Bool) (whole : List Char) (s : List Char) : Option Parts :=
  let isExponentMark (c : Char) : Bool := c == 'e' || c == 'E'
  let exponentPart (fraction : Option (List Char)) : List Char → Option Parts
    | [] => some ⟨negative, whole, fraction, none⟩
    | c :: s => if isExponentMark c then (exponent? s).map fun e => ⟨negative, whole, fraction, e⟩ else none
  match s with
  | '.' :: s =>
    let digits := s.takeWhile Char.isDigit
    if digits.isEmpty then none else exponentPart (some digits) (s.dropWhile Char.isDigit)
  | s => exponentPart none s

def Parts.read? (s : List Char) : Option Parts :=
  let (negative, s) := match s with
    | '-' :: s => (true, s)
    | s => (false, s)
  match s with
  | '0' :: s => tail? negative ['0'] s
  | s =>
    let whole := s.takeWhile Char.isDigit
    if whole.isEmpty then none else tail? negative whole (s.dropWhile Char.isDigit)

def Parts.value? (p : Parts) : Option Number :=
  let (n, dropped) := significand 0 p.whole
  let float (n : Nat) (e : Int) : Option Number :=
    ((Binary64.ofRatio? false n 1).bind (scale · e)).map fun x =>
      .float (if p.negative then x.neg else x)
  match p.fraction, p.exponent with
  | none, none =>
    if dropped ≠ 0 then float n dropped
    else if !p.negative then some (.int n)
    else if n ≠ 0 ∧ fitsIn wordCount (-n) then some (.int (-n))
    else float n 0
  | fraction, e =>
    let digits := fraction.getD []
    let (n, rest) := significand n digits
    float n (dropped - ((digits.length : Int) - rest) + e.getD 0)

/-- The number a text spells; none when it is malformed or beyond the largest double. -/
def read? (s : List Char) : Option Number :=
  (Parts.read? s).bind Parts.value?

end Shorthand.Json.Number
