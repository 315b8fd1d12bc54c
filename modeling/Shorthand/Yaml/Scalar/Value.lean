import Shorthand.Json.Number
import Shorthand.Number.Word
import Shorthand.Yaml.Tag

/-! # Values of scalars

Plain scalars that look like null, a truth value or a number are read as such. A tag may ask for
one of these, or for a text.
-/

namespace Shorthand.Yaml.Scalar

open Text

def nullWords : List String := ["null", "Null", "NULL", "~"]

def bool? (s : String) : Option Bool :=
  if s ∈ ["true", "True", "TRUE"] then some true
  else if s ∈ ["false", "False", "FALSE"] then some false
  else none

/-- Digits of a base up to 16, at least one. -/
def digits? (base : Nat) (s : List Char) : Option Nat :=
  if s.isEmpty then none
  else s.foldlM (fun n c => (hexValue? c).bind fun d =>
    if d < base then some (base * n + d) else none) 0

/-- Several digits that start with a zero are no number. -/
def isPadded (s : List Char) : Bool :=
  match s with
  | '0' :: c :: digits => (c :: digits).all Char.isDigit
  | _ => false

def natural? : List Char → Option Nat
  | '0' :: 'x' :: s => digits? 16 s
  | '0' :: 'o' :: s => digits? 8 s
  | '0' :: 'b' :: s => digits? 2 s
  | s => if isPadded s then none else readNat? s

def integer? : List Char → Option Int
  | '+' :: s => (natural? s).map Int.ofNat
  | '-' :: s => (natural? s).map fun n => -n
  | s => (natural? s).map Int.ofNat

/-- Digits with an optional fraction and exponent; either part around the point may be missing. -/
def decimal? (negative : Bool) (s : List Char) : Option Binary64 := do
  let whole := s.takeWhile Char.isDigit
  let s := s.dropWhile Char.isDigit
  let (fraction, s) := match s with
    | '.' :: s => (s.takeWhile Char.isDigit, s.dropWhile Char.isDigit)
    | s => ([], s)
  let e ← match s with
    | [] => some 0
    | c :: s => if c = 'e' ∨ c = 'E' then Json.Number.exponent? s else none
  let digits := whole ++ fraction
  Binary64.ofDecimal? negative (← readNat? digits) digits.length (e - fraction.length)

def float? : List Char → Option Binary64
  | '+' :: s => decimal? false s
  | '-' :: s => decimal? true s
  | s => decimal? false s

/-- Infinities and the value that is no number. -/
def isNonFinite (s : String) : Bool :=
  s ∈ [".inf", ".Inf", ".INF", "+.inf", "+.Inf", "+.INF", "-.inf", "-.Inf", "-.INF", ".nan",
    ".NaN", ".NAN"]

/-- Values that are not finite become null. -/
def floatValue? (s : String) : Option Json :=
  if isNonFinite s then some .null else (float? s.toList).map fun x => .num (.float x)

def unsigned (s : List Char) : List Char :=
  match s with
  | '+' :: s => s
  | '-' :: s => s
  | s => s

/-- A plain scalar. Integers of more than 64 bits are refused, and those of more than 128 bits
count as floats. -/
def plain? (s : String) : Option Json :=
  if s.isEmpty ∨ s ∈ nullWords then some .null
  else match bool? s with
    | some b => some (.bool b)
    | none => match (integer? s.toList).filter (fitsIn (wordCount * wordCount)) with
      | some n => if fitsIn wordCount n then some (.ofInt n) else none
      | none =>
        if isPadded (unsigned s.toList) then some (.str s)
        else some ((floatValue? s).getD (.str s))

/-- A tag of the core schema. -/
def coreTag (name : String) : TagText :=
  Tag.octets ("tag:yaml.org,2002:" ++ name)

/-- A local tag starts with an exclamation mark. -/
def isLocal (tag : TagText) : Bool :=
  tag.head? == some 0x21

def untagged? (plain : Bool) (s : String) : Option Json :=
  if plain then plain? s else some (.str s)

def value? (tag : Option TagText) (plain : Bool) (s : String) : Option Json :=
  match tag with
  | none => untagged? plain s
  | some tag =>
    if tag = coreTag "bool" then (bool? s).map .bool
    else if tag = coreTag "int" then ((integer? s.toList).filter (fitsIn wordCount)).map .ofInt
    else if tag = coreTag "float" then floatValue? s
    else if tag = coreTag "null" then if s ∈ nullWords then some .null else none
    else untagged? (plain && isLocal tag) s

end Shorthand.Yaml.Scalar
