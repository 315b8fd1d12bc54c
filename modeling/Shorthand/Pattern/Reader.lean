import Shorthand.Pattern.Expr

/-! # Reading regular expressions

Literals, the dot, `\d`, classes of characters and ranges, groups, alternatives, the repetitions
`*`, `+` and `?`, both anchors, and a leading `(?i)` that lifts the distinction of case.
-/

namespace Shorthand.Pattern

/-- A group that is still open: its finished alternatives and, in reverse, the current one. -/
structure OpenGroup where
  alternatives : List Expr := []
  current : List Expr := []

namespace OpenGroup

def sequence (g : OpenGroup) : Expr :=
  g.current.foldl (fun e a => .mkSeq a e) .blank

def expr (g : OpenGroup) : Expr :=
  g.alternatives.foldl (fun e a => .mkAlt a e) g.sequence

def add (g : OpenGroup) (e : Expr) : OpenGroup :=
  { g with current := e :: g.current }

/-- Changes the last expression. -/
def repeatLast? (g : OpenGroup) (f : Expr → Expr) : Option OpenGroup :=
  match g.current with
  | e :: es => some { g with current := f e :: es }
  | [] => none

end OpenGroup

/-- What the characters read so far leave open. -/
inductive Mode where
  | plain
  | escape
  | members (done : List Atom) (last : Option Char) (dash : Bool)

structure Reading where
  group : OpenGroup := {}
  outer : List OpenGroup := []
  mode : Mode := .plain

namespace Reading

def addAtoms (r : Reading) (anyCase : Bool) (atoms : List Atom) : Reading :=
  { r with group := r.group.add (.oneOf atoms anyCase), mode := .plain }

def plain? (anyCase : Bool) (r : Reading) (c : Char) : Option Reading :=
  match c with
  | '(' => some { r with group := {}, outer := r.group :: r.outer }
  | ')' => match r.outer with
    | g :: outer => some { r with group := g.add r.group.expr, outer }
    | [] => none
  | '|' =>
    let alternatives := r.group.sequence :: r.group.alternatives
    some { r with group := { alternatives, current := [] } }
  | '*' => (r.group.repeatLast? .star).map fun group => { r with group }
  | '+' => (r.group.repeatLast? fun e => .seq e (.star e)).map fun group => { r with group }
  | '?' => (r.group.repeatLast? fun e => .alt e .blank).map fun group => { r with group }
  | '^' => some { r with group := r.group.add .start }
  | '$' => some { r with group := r.group.add .finish }
  | '.' => some (r.addAtoms false [.any])
  | '\\' => some { r with mode := .escape }
  | '[' => some { r with mode := .members [] none false }
  | c => some (r.addAtoms anyCase [.char c])

def step (anyCase : Bool) (r : Reading) (c : Char) : Option Reading :=
  match r.mode with
  | .plain => r.plain? anyCase c
  | .escape =>
    if c == 'd' then some (r.addAtoms false [.digit])
    else if c.isAlphanum then none
    else some (r.addAtoms anyCase [.char c])
  | .members done last dash =>
    let pending := last.toList.map Atom.char
    match c, last, dash with
    | ']', _, _ => some (r.addAtoms anyCase (done ++ pending ++ if dash then [.char '-'] else []))
    | '-', some _, false => some { r with mode := .members done last true }
    | c, some first, true => some { r with mode := .members (done ++ [.range first c]) none false }
    | c, _, _ => some { r with mode := .members (done ++ pending) (some c) false }

def finish? (r : Reading) : Option Expr :=
  match r.mode, r.outer with
  | .plain, [] => some r.group.expr
  | _, _ => none

end Reading

/-- The expression a text spells. -/
def readExpr? (s : List Char) : Option Expr :=
  match s with
  | '(' :: '?' :: 'i' :: ')' :: s => (s.foldlM (Reading.step true) {}).bind Reading.finish?
  | s => (s.foldlM (Reading.step false) {}).bind Reading.finish?

end Shorthand.Pattern
