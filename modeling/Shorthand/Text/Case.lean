import Shorthand.Text.CaseTable

/-! # Letter case

Upper and lower case of texts, and comparison up to the case of ASCII letters. A capital sigma
at the end of a word becomes the final form.
-/

namespace Shorthand.Text

def CaseSpan.map? (s : CaseSpan) (n : Nat) : Option Nat :=
  if s.first ≤ n ∧ n ≤ s.last ∧ (n - s.first) % s.step = 0 then some (s.target + (n - s.first))
  else none

/-- The other case of a character, which may be a sequence. -/
def caseMap (spans : List CaseSpan) (sequences : List (Nat × List Nat)) (c : Char) : List Char :=
  match spans.findSome? (·.map? c.toNat) with
  | some n => [Char.ofNat n]
  | none => match sequences.lookup c.toNat with
    | some ns => ns.map Char.ofNat
    | none => [c]

def upperChar (c : Char) : List Char :=
  if c.toNat < 128 then [c.toUpper] else caseMap upperSpans upperSequences c

def lowerChar (c : Char) : List Char :=
  if c.toNat < 128 then [c.toLower] else caseMap lowerSpans lowerSequences c

def upper (s : String) : String :=
  .ofList (s.toList.flatMap upperChar)

/-- After any case-ignorable characters comes a cased one. -/
def casedAhead (s : List Char) : Bool :=
  (s.dropWhile caseIgnorable.contains).head?.any cased.contains

/-- `before` holds the characters already passed, nearest first. -/
def lowerFrom (before : List Char) : List Char → List Char
  | [] => []
  | c :: s =>
    (if c = 'Σ' then [if casedAhead before && !casedAhead s then 'ς' else 'σ'] else lowerChar c) ++
      lowerFrom (c :: before) s

def lower (s : String) : String :=
  .ofList (lowerFrom [] s.toList)

/-- ASCII letters in lower case, all else as it is. -/
def lowerAscii (s : String) : String :=
  .ofList (s.toList.map Char.toLower)

def eqIgnoreAsciiCase (s t : String) : Bool :=
  lowerAscii s == lowerAscii t

end Shorthand.Text
