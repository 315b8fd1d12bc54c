import Shorthand.Yaml.Node
import Shorthand.Yaml.Token

/-! # Assembling nodes

Tokens are taken in one at a time, above a stack of open collections. A node that is left out
becomes an empty scalar.
-/

namespace Shorthand.Yaml

/-- An indentless sequence stands in a block mapping, at its column; a pair is a mapping of one
entry in a flow sequence. -/
inductive Style where
  | blockSequence | indentless | blockMapping | flowSequence | flowMapping | pair
  deriving DecidableEq

/-- Consecutive nodes as keys and values. -/
def pairUp : List (Node ρ) → List (Node ρ × Node ρ)
  | k :: v :: nodes => (k, v) :: pairUp nodes
  | _ => []

/-- An open collection. Items come last first, and so do keys and values, which alternate. The
node awaited may be a lone key, written without an indicator and without a value. -/
structure Frame where
  style : Style
  properties : Properties := {}
  nodes : List (Node String) := []
  lone : Bool := false

namespace Frame

def node (f : Frame) : Node String :=
  match f.style with
  | .blockSequence | .indentless | .flowSequence => .sequence f.properties f.nodes.reverse
  | .blockMapping | .flowMapping | .pair => .mapping f.properties (pairUp f.nodes.reverse)

/-- A key has been read and its value has not. -/
def lacksValue (f : Frame) : Bool :=
  match f.style with
  | .blockSequence | .indentless | .flowSequence => false
  | .blockMapping | .flowMapping | .pair => f.nodes.length % 2 == 1

def push (f : Frame) (n : Node String) : Frame :=
  if f.lone then { f with nodes := .empty :: n :: f.nodes, lone := false }
  else { f with nodes := n :: f.nodes }

/-- A pair ends with its value. -/
def isComplete (f : Frame) : Bool :=
  f.style == .pair && f.nodes.length == 2

end Frame

/-- What may come next: a node of which some properties have been read, an item of a flow
collection or its end, or what follows a node. -/
inductive Phase where
  | node (read : Properties)
  | item
  | rest

/-- The innermost open collection comes first. -/
structure Builder where
  frames : List Frame := []
  phase : Phase := .item
  root : Option (Node String) := none

namespace Builder

/-- Puts a finished node where it was awaited. -/
def place (n : Node String) : List Frame → Builder
  | [] => { phase := .rest, root := some n }
  | f :: frames =>
    let f := f.push n
    if f.isComplete then place f.node frames else { frames := f :: frames, phase := .rest }

def await (b : Builder) : Builder :=
  { b with phase := .node {} }

def startCollection (b : Builder) (style : Style) (p : Properties) (phase : Phase) : Builder :=
  { b with frames := { style, properties := p } :: b.frames, phase }

def inBlockMapping (b : Builder) : Bool :=
  b.frames.head?.any (·.style == .blockMapping)

/-- Goes on with an awaited node. -/
def node? (handles : Handles) (b : Builder) (p : Properties) : Token → Option Builder
  | .anchor name =>
    if p.anchor.isNone then some { b with phase := .node { p with anchor := some name } }
    else none
  | .tag t =>
    if p.tag.isNone then
      (handles.resolve? t).map fun tag => { b with phase := .node { p with tag := some tag } }
    else none
  | .alias name =>
    if p.anchor.isNone ∧ p.tag.isNone then some (place (.alias name) b.frames) else none
  | .scalar plain text => some (place (.scalar p plain text) b.frames)
  | .blockSequence => some (b.startCollection .blockSequence p .rest)
  | .blockMapping => some (b.startCollection .blockMapping p .rest)
  | .flowSequence => some (b.startCollection .flowSequence p .item)
  | .flowMapping => some (b.startCollection .flowMapping p .item)
  | .entry => if b.inBlockMapping then some (b.startCollection .indentless p (.node {})) else none
  | _ => none

/-- Ends an indentless sequence at anything but a further entry. -/
def leaveSequence (b : Builder) (t : Token) : Builder :=
  match b.frames with
  | f :: frames =>
    if f.style == .indentless && !(t matches .entry) then place f.node frames else b
  | [] => b

/-- A key without a value has an empty one. -/
def leaveValue (b : Builder) (t : Token) : Builder :=
  match b.frames with
  | f :: _ => if f.lacksValue && !(t matches .value) then place .empty b.frames else b
  | [] => b

/-- Goes on after a node. -/
def rest? (b : Builder) (t : Token) : Option Builder :=
  let b := (b.leaveSequence t).leaveValue t
  match b.frames with
  | [] => if t matches .documentEnd then some b else none
  | f :: frames =>
    match f.style, t with
    | .blockSequence, .entry | .indentless, .entry | .blockMapping, .key => some b.await
    | _, .value => if f.lacksValue then some b.await else none
    | .flowSequence, .comma | .flowMapping, .comma => some { b with phase := .item }
    | .blockSequence, .blockEnd | .blockMapping, .blockEnd
    | .flowSequence, .flowSequenceEnd | .flowMapping, .flowMappingEnd =>
      some (place f.node frames)
    | _, _ => none

/-- Goes on with an item of a flow collection, or at the start of a document. -/
def item? (handles : Handles) (b : Builder) (t : Token) : Option Builder :=
  match b.frames with
  | [] => b.node? handles {} t
  | f :: frames =>
    match f.style, t with
    | .flowSequence, .flowSequenceEnd | .flowMapping, .flowMappingEnd => some (place f.node frames)
    | .flowSequence, .key => some (b.startCollection .pair {} (.node {}))
    | .flowMapping, .key => some b.await
    | .flowMapping, t => { b with frames := { f with lone := true } :: frames }.node? handles {} t
    | _, t => b.node? handles {} t

def step? (handles : Handles) (b : Builder) (t : Token) : Option Builder :=
  match b.phase with
  | .item => b.item? handles t
  | .rest => b.rest? t
  | .node p => match b.node? handles p t with
    | some b => some b
    | none => (place (.empty p) b.frames).rest? t

def finish? (b : Builder) : Option (Node String) :=
  let b := match b.phase with
    | .node p => place (.empty p) b.frames
    | _ => b
  if b.frames.isEmpty then b.root else none

end Builder

/-- The handles that directives define; at most one directive may give the version. -/
def handles? (versioned : Bool) (defined : Handles) : List Directive → Option Handles
  | [] => some (defined ++ Handles.predefined)
  | .version major minor :: ds =>
    if !versioned ∧ major = 1 ∧ (minor = 1 ∨ minor = 2) then handles? true defined ds else none
  | .handle name text :: ds =>
    if (defined.lookup name).isNone then handles? versioned ((name, text) :: defined) ds else none

/-- The directives in front, and the tokens behind them. -/
def spanDirectives : List Token → List Directive × List Token
  | .directive d :: ts => let (ds, ts) := spanDirectives ts; (d :: ds, ts)
  | ts => ([], ts)

/-- The root of the only document; an empty source holds an empty one. -/
def Node.ofTokens? (tokens : List Token) : Option (Node String) := do
  let build (handles : Handles) (start : Phase) (ts : List Token) : Option (Node String) :=
    (ts.foldlM (Builder.step? handles) { phase := start }).bind Builder.finish?
  match spanDirectives tokens with
  | ([], []) => some .empty
  | (ds, .documentStart :: ts) => build (← handles? false [] ds) (.node {}) ts
  | ([], ts) => build Handles.predefined .item ts
  | _ => none

end Shorthand.Yaml
