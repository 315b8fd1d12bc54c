import Shorthand.Pattern.Reader

/-! # Patterns

A pattern is known by its source text. It matches a name when some part of the name matches.
-/

namespace Shorthand

structure Pattern where
  source : String
  deriving DecidableEq, Repr

namespace Pattern

def expr? (p : Pattern) : Option Expr :=
  readExpr? p.source.toList

/-- A source that is no expression matches nothing. -/
def isMatch (p : Pattern) (name : String) : Bool :=
  p.expr?.any (·.matchesIn true name.toList)

end Pattern

end Shorthand
