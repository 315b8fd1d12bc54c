import Shorthand.Pattern
import Shorthand.Snippet.Basic

/-! # Snippet layers

A layer maps exact names and patterns to snippets. A key `a|b` stands for each of its aliases.
-/

namespace Shorthand

structure Layer where
  names : Dict Snippet := []
  patterns : List (Pattern × Snippet) := []

namespace Layer

/-- The names that a key registers. -/
def aliases (key : String) : List String :=
  if '|' ∈ key.toList then
    ((Text.split '|' key.toList).map fun s => String.ofList (Text.trim s)).filter (· ≠ "")
  else [key]

def insert (l : Layer) (key : String) (s : Snippet) : Layer :=
  { l with names := (aliases key).foldl (fun names a => names.insert a s) l.names }

/-- Replaces the snippet of a source, keeping its rank, or appends a new pattern. -/
def setPattern (l : Layer) (p : Pattern) (s : Snippet) : Layer :=
  { l with patterns :=
    if l.patterns.any (·.1 = p) then l.patterns.map fun e => if e.1 = p then (p, s) else e
    else l.patterns ++ [(p, s)] }

def get? (l : Layer) (name : String) : Option Snippet :=
  l.names.get? name

/-- The snippet of the first pattern that matches. -/
def matchPattern? (l : Layer) (name : String) : Option Snippet :=
  (l.patterns.find? (·.1.isMatch name)).map (·.2)

def size (l : Layer) : Nat := l.names.length

def isEmpty (l : Layer) : Bool := l.names.isEmpty && l.patterns.isEmpty

def ofPairs (pairs : List (String × Snippet)) : Layer :=
  pairs.foldl (fun l e => l.insert e.1 e.2) {}

/-- The members of an object that are texts, inserted in key order. -/
def ofMembers (members : Dict Json) : Layer :=
  ofPairs (members.filterMap fun e => e.2.str?.map fun s => (e.1, .literal s))

def ofJson? (v : Json) : Option Layer :=
  v.obj?.map ofMembers

/-- Each member that is no text is reported. -/
def notes (v : Json) : List Note :=
  (v.members.filter (·.2.str?.isNone)).map fun e => .snippetNotText e.1 e.2

end Layer

end Shorthand
