import Shorthand.Text.Case
import Shorthand.Text.Digit

/-! # Regular expressions over names

Expressions with anchors, matched by derivatives. An anchor matches the empty text at the start or
at the end of the name, so both the test for the empty text and the derivative know whether they
stand at the start.
-/

namespace Shorthand.Pattern

inductive Atom where
  | char (c : Char)
  | range (first last : Char)
  | digit
  | any

/-- A character together with its other cases, where those are single characters. The dotless i
has none, since it is not a case of `i`. -/
def caseVariants (c : Char) : List Char :=
  if c = 'ı' then [c] else
  let single (f : Char → List Char) (c : Char) : Char := match f c with
    | [d] => d
    | _ => c
  let low := single Text.lowerChar c
  let up := single Text.upperChar c
  [c, low, up, single Text.lowerChar up, single Text.upperChar low]

def Atom.test (c : Char) : Atom → Bool
  | .char d => c == d
  | .range first last => first ≤ c && c ≤ last
  | .digit => Text.isDigit c
  | .any => c != '\n'

inductive Expr where
  | never
  | blank
  | start
  | finish
  | oneOf (atoms : List Atom) (anyCase : Bool)
  | seq (a b : Expr)
  | alt (a b : Expr)
  | star (a : Expr)

namespace Expr

def mkSeq : Expr → Expr → Expr
  | .never, _ => .never
  | _, .never => .never
  | .blank, b => b
  | a, b => .seq a b

def mkAlt : Expr → Expr → Expr
  | .never, b => b
  | a, .never => a
  | a, b => .alt a b

/-- Matches the empty text between the given ends of the name. -/
def nullable (atStart atEnd : Bool) : Expr → Bool
  | .never => false
  | .blank => true
  | .start => atStart
  | .finish => atEnd
  | .oneOf .. => false
  | .seq a b => a.nullable atStart atEnd && b.nullable atStart atEnd
  | .alt a b => a.nullable atStart atEnd || b.nullable atStart atEnd
  | .star _ => true

/-- What remains to be matched after the character `c`. -/
def derive (atStart : Bool) (c : Char) : Expr → Expr
  | .never | .blank | .start | .finish => .never
  | .oneOf atoms anyCase =>
    let variants := if anyCase then caseVariants c else [c]
    if variants.any fun d => atoms.any (·.test d) then .blank else .never
  | .seq a b =>
    mkAlt (mkSeq (a.derive atStart c) b)
      (if a.nullable atStart false then b.derive atStart c else .never)
  | .alt a b => mkAlt (a.derive atStart c) (b.derive atStart c)
  | .star a => mkSeq (a.derive atStart c) (.star a)

/-- Matches some initial part of the text. -/
def matchesHere (atStart : Bool) : Expr → List Char → Bool
  | .never, _ => false
  | e, [] => e.nullable atStart true
  | e, c :: s => e.nullable atStart false || matchesHere false (e.derive atStart c) s

/-- Matches some part of the text. -/
def matchesIn (e : Expr) (atStart : Bool) : List Char → Bool
  | [] => e.matchesHere atStart []
  | c :: s => e.matchesHere atStart (c :: s) || e.matchesIn false s

end Expr

end Shorthand.Pattern
