import Shorthand.Number.Shortest
import Shorthand.Yaml.Node.Builder
import Shorthand.Yaml.Scalar.Value
import Shorthand.Yaml.Token.Lexer

/-! # Documents

Aliases are bound to anchors in the order of the text, and nodes become JSON values. Nesting and
the following of aliases are limited.
-/

namespace Shorthand.Yaml

/-- Numbers of the anchors seen so far, and at which nodes they stand; the latest come first. -/
structure Anchors where
  numbers : Dict Nat := []
  places : List (Nat × Nat) := []
  nodes : Nat := 0

/-- Counts a node. Its anchor gets the number of different names before it. -/
def Anchors.enter (a : Anchors) (anchor : Option String) : Anchors :=
  match anchor with
  | none => { a with nodes := a.nodes + 1 }
  | some name =>
    let n := a.numbers.length
    { numbers := a.numbers.insert name n
      places := (n, a.nodes) :: a.places
      nodes := a.nodes + 1 }

namespace Node

mutual

/-- Replaces the names of anchors by numbers; none when an alias comes before its anchor. -/
def bind? (a : Anchors) : Node String → Option (Node Nat × Anchors)
  | .alias name => do return (.alias (← a.numbers.get? name), a.enter none)
  | .scalar p plain text => some (.scalar p plain text, a.enter p.anchor)
  | .sequence p items => do
    let (items, a) ← bindItems? (a.enter p.anchor) items
    return (.sequence p items, a)
  | .mapping p entries => do
    let (entries, a) ← bindEntries? (a.enter p.anchor) entries
    return (.mapping p entries, a)

def bindItems? (a : Anchors) : List (Node String) → Option (List (Node Nat) × Anchors)
  | [] => some ([], a)
  | n :: items => do
    let (n, a) ← n.bind? a
    let (items, a) ← bindItems? a items
    return (n :: items, a)

def bindEntries? (a : Anchors) :
    List (Node String × Node String) → Option (List (Node Nat × Node Nat) × Anchors)
  | [] => some ([], a)
  | (k, v) :: entries => do
    let (k, a) ← k.bind? a
    let (v, a) ← v.bind? a
    let (entries, a) ← bindEntries? a entries
    return ((k, v) :: entries, a)

end

end Node

/-- A document whose aliases are numbers. A number given to several nodes stands for the last of
them, which comes first. -/
structure Document where
  root : Node Nat
  targets : List (Nat × Node Nat)
  maxJumps : Nat

namespace Document

def maxDepth : Nat := 128

/-- Aliases may be followed a hundred times as often as the document has parts. -/
def ofNode? (n : Node String) : Option Document := do
  let (root, a) ← n.bind? {}
  let nodes := root.all.toArray
  return {
    root
    targets := a.places.filterMap fun e => nodes[e.2]?.map (e.1, ·)
    maxJumps := 100 * nodes.foldl (fun k n => k + n.weight) 0 }

/-- How many aliases have been followed. -/
abbrev Reading := StateT Nat Option

def follow (d : Document) (n : Nat) : Reading (Node Nat) := do
  let jumps ← get
  set (jumps + 1)
  if d.maxJumps ≤ jumps then none
  d.targets.lookup n

/-- The name of a local tag. -/
def tagName? (tag : TagText) : Option String :=
  if Scalar.isLocal tag then String.fromUTF8? ⟨tag.toArray⟩ else none

/-- The key under which a tagged value stands: one of two leading exclamation marks is dropped,
and a tag that is an exclamation mark alone gets a second one. -/
def tagKey (name : String) : String :=
  match name.toList with
  | ['!'] => "!!"
  | '!' :: '!' :: c :: rest => .ofList ('!' :: c :: rest)
  | _ => name

/-- The text of a key; keys are texts, truth values or numbers. -/
def keyText? : Json → Option String
  | .str s => some s
  | .bool b => some (if b then "true" else "false")
  | .num (.int n) => some (toString n)
  | .num (.float x) => some x.text
  | _ => none

/-- Keys are equal when they are of one kind and of one value. -/
def sameKey : Json → Json → Bool
  | .str s, .str t => s == t
  | .bool a, .bool b => a == b
  | .num (.int m), .num (.int n) => m == n
  | .num (.float x), .num (.float y) => x == y || (x.isZero && y.isZero)
  | _, _ => false

/-- An object from entries with different keys; of keys with one text the last counts. -/
def object? (entries : List (Json × Json)) : Option Json :=
  let rec distinct : List Json → Bool
    | [] => true
    | k :: keys => !keys.any (sameKey k) && distinct keys
  if distinct (entries.map Prod.fst) then do
    return .object (← entries.mapM fun e => (keyText? e.1).map (·, e.2))
  else none

/-- Reads the nodes of a collection, which must not be nested too deeply. -/
abbrev Below := Option (Node Nat → Reading Json)

/-- The value of a node whose tag is `tag`. -/
def content (below : Below) (tag : Option TagText) : Node Nat → Reading Json
  | .alias _ => failure
  | .scalar _ plain text => Scalar.value? tag plain text
  | .sequence _ items => do return .arr (← items.mapM (← below))
  | .mapping _ entries => do
    let below ← below
    let entries ← entries.mapM fun e => do return (← below e.1, ← below e.2)
    object? entries

/-- A local tag becomes the only key of an object. -/
def nodeValue (d : Document) (below : Below) (n : Node Nat) : Reading Json := do
  let n ← match n with
    | .alias k => d.follow k
    | n => pure n
  let tag := n.properties.tag
  match tag.bind tagName? with
  | some name => return .object [(tagKey name, ← content below none n)]
  | none => content below tag n

def value (d : Document) : Nat → Node Nat → Reading Json
  | 0 => d.nodeValue none
  | depth + 1 => d.nodeValue (some (d.value depth))

def toJson? (d : Document) : Option Json :=
  (d.value maxDepth d.root).run' 0

end Document

/-- The JSON value of the document in a source; none when it is not valid. -/
def readJson? (s : String) : Option Json := do
  let tokens ← Token.scan? s
  let root ← Node.ofTokens? tokens
  (← Document.ofNode? root).toJson?

end Shorthand.Yaml
