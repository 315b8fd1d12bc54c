import Shorthand.Lorem.Vocabulary
import Shorthand.Text.Blank
import Shorthand.Text.Case
import Shorthand.Text.Digit

/-! # Placeholder text

A name `lorem`, letters for a vocabulary, digits for a number of words: both may be missing. The
words are cut into sentences whose lengths repeat, and the last one may be cut short.
-/

namespace Shorthand.Lorem

def defaultCount : Nat := 30
def maxCount : Nat := 10000
def defaultVocabulary : String := "latin"
def sentenceLengths : List Nat := [8, 11, 6, 9, 13, 7]

/-- What a placeholder name asks for. -/
structure Request where
  vocabulary : String := defaultVocabulary
  count : Nat := defaultCount
  deriving DecidableEq, Repr

/-- An ASCII letter, or one of the two other characters whose case mate is one. -/
def isLetter (c : Char) : Bool :=
  c.isAlpha || c == 'ſ' || c == '\u212a'

/-- The letters and the digits that follow `lorem` in a placeholder name. -/
def parts? (name : String) : Option (List Char × List Char) :=
  let s := name.toList
  let rest := s.drop 5
  let letters := rest.takeWhile isLetter
  let digits := rest.dropWhile isLetter
  if (s.take 5).map Char.toLower = ['l', 'o', 'r', 'e', 'm'] ∧ digits.all Text.isDigit then
    some (letters, digits)
  else none

/-- The number of words that digits ask for. Digits outside ASCII ask for more than any number. -/
def count (digits : List Char) : Nat :=
  match Text.readNat? digits with
  | some n => min n maxCount
  | none => maxCount

/-- The digits ask for more words than a text may have. -/
def exceeds (digits : List Char) : Bool :=
  (Text.readNat? digits).all (maxCount < ·)

/-- The request a name spells; none when the name is no placeholder name. -/
def request? (name : String) : Option Request :=
  (parts? name).map fun (letters, digits) => {
    vocabulary := if letters.isEmpty then defaultVocabulary else .ofList (letters.map Char.toLower)
    count := if digits.isEmpty then defaultCount else Lorem.count digits }

def Request.source (r : Request) : Vocabulary :=
  (vocabulary? r.vocabulary).getD latin

def Request.words (r : Request) : List String :=
  (List.range r.count).map r.source.word

/-- Cuts words into stretches, the lengths going round in a cycle. -/
def cut (lengths : List Nat) (i : Nat) (ws : List String) : List (List String) :=
  match ws with
  | [] => []
  | w :: ws =>
    let n := lengths.getD (i % lengths.length) 1 - 1
    (w :: ws.take n) :: cut lengths (i + 1) (ws.drop n)
termination_by ws.length
decreasing_by simp only [List.length_drop, List.length_cons]; omega

/-- The first letter in upper case, the words between single spaces, a dot at the end. -/
def sentence (ws : List String) : String :=
  match (" ".intercalate ws).toList with
  | [] => "."
  | c :: s => .ofList (Text.upperChar c ++ s ++ ['.'])

def text (r : Request) : String :=
  " ".intercalate ((cut sentenceLengths 0 r.words).map sentence)

/-- The text a name asks for; a name that is no placeholder name gets the default text. -/
def render (name : Option String) : String :=
  text ((name.bind request?).getD {})

end Shorthand.Lorem
