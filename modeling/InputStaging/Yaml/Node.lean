import InputStaging.Yaml.Tag
import InputStaging.Yaml.Token

/-!
# Nodes of a YAML text

The nodes that the tokens of a text stand for. A node can be given a name, its anchor,
and be referred to by it from then on, even from within, so that the nodes make up a
graph. They are numbered in the order in which they begin.
-/

namespace InputStaging.Yaml

/-- The number of a node in its graph. -/
abbrev NodeId := Nat

inductive Content where
  | scalar (text : String)
  | sequence (items : List NodeId)
  | mapping (entries : List (NodeId × NodeId))
  deriving DecidableEq, Repr, Inhabited

structure Node where
  tag : Tag
  content : Content
  deriving DecidableEq, Repr, Inhabited

/-- The nodes of a text's only document. -/
structure Graph where
  nodes : Array Node
  root : NodeId

/-- What is left of the tokens, and what is known of names and handles. -/
structure Reading where
  tokens : List Token
  /-- What stopped the reading behind the tokens. -/
  fault : Option Fault
  handles : List (String × String) := []
  nodes : Array Node := #[]
  anchors : List (String × NodeId) := []
  /-- The number of collections around what is read. -/
  depth : Nat := 0

abbrev Read := StateT Reading (Except Fault)

namespace Read

def refuse {α : Type} (m : Malformation) : Read α := throw (.malformed m)

/-- The next token. A fault of the text comes up when the token is asked for that it
keeps from being known. -/
def peek : Read Token := do
  let r ← get
  match r.tokens, r.fault with
  | t :: _, _ => return t
  | [], some f => throw f
  | [], none => return .streamEnd

def drop : Read Unit := modify fun r => { r with tokens := r.tokens.tail }

/-- Drop a token if it is next. -/
def accept (t : Token) : Read Bool := do
  if (← peek) = t then
    drop
    return true
  return false

/-! ## Properties of nodes -/

/-- What stands in front of a node. -/
structure Properties where
  anchor : Option String := none
  /-- The handle and the rest of a tag. -/
  tag : Option (Option String × String) := none

def anchor? : Read (Option String) := do
  match ← peek with
  | .anchor n => drop; return some n
  | _ => return none

def tag? : Read (Option (Option String × String)) := do
  match ← peek with
  | .tag h s => drop; return some (h, s)
  | _ => return none

/-- An anchor and a tag, in either order. -/
def properties : Read Properties := do
  match ← anchor? with
  | some n => return { anchor := some n, tag := ← tag? }
  | none =>
    match ← tag? with
    | some t => return { anchor := ← anchor?, tag := some t }
    | none => return {}

/-- The address that a tag stands for. A lone exclamation mark is none. -/
def address (p : Properties) : Read (Option String) := do
  match p.tag with
  | none => return none
  | some (none, suffix) => return some suffix
  | some (some h, suffix) =>
    match (← get).handles.lookup h with
    | some front => return some (front ++ suffix)
    | none => refuse (.expected s!"a tag handle other than {h}")

/-- The type of a collection. -/
def collectionTag (uri : Option String) (dflt : Tag) : Tag :=
  match uri with
  | none => dflt
  | some u => if u = "!" then dflt else .ofUri u

/-- The type of a scalar: its tag's, or that of its spelling if it is plain. Marked by a
lone exclamation mark, any scalar counts as plain. -/
def scalarTag (uri : Option String) (isPlain : Bool) (text : String) : Tag :=
  match uri with
  | none => if isPlain then .ofPlain text.toList else .text
  | some u => if u = "!" then .ofPlain text.toList else .ofUri u

/-! ## Nodes -/

/-- Begin a node. From here on, its name stands for it. -/
def begin (anchor : Option String) (n : Node) : Read NodeId := do
  let r ← get
  let id := r.nodes.size
  set { r with nodes := r.nodes.push n }
  if let some name := anchor then
    if (r.anchors.lookup name).isSome then refuse (.duplicateAnchor name)
    modify fun r => { r with anchors := (name, id) :: r.anchors }
  return id

/-- Give a node its content. -/
def finish (id : NodeId) (c : Content) : Read NodeId := do
  modify fun r => { r with nodes := r.nodes.modify id fun n => { n with content := c } }
  return id

/-- A node that nothing is written for. -/
def empty : Read NodeId := begin none ⟨.null, .scalar ""⟩

/-- How many collections may be within one another. -/
def deepest : Nat := 489

/-- Read the parts of a collection. -/
def within {α : Type} (parts : Read α) : Read α := do
  let depth := (← get).depth
  if deepest ≤ depth then throw (.scalar .tooDeep)
  modify fun r => { r with depth := depth + 1 }
  let read ← parts
  modify fun r => { r with depth }
  return read

/-- A sequence, whose items are read once it has begun. -/
def sequence (p : Properties) (uri : Option String) (items : Read (List NodeId)) :
    Read NodeId := do
  let id ← begin p.anchor ⟨collectionTag uri .sequence, .sequence []⟩
  finish id (.sequence (← within items))

/-- A mapping, whose entries are read once it has begun. -/
def mapping (p : Properties) (uri : Option String) (entries : Read (List (NodeId × NodeId))) :
    Read NodeId := do
  let id ← begin p.anchor ⟨collectionTag uri .mapping, .mapping []⟩
  finish id (.mapping (← within entries))

mutual

/-- A node. Block collections are not taken everywhere, and a sequence without
indentation only as part of a mapping. -/
def node (inBlock unindented : Bool) : Nat → Read NodeId
  | 0 => refuse (.expected "less nesting")
  | fuel + 1 => do
    if let .alias n := ← peek then
      drop
      let some id := (← get).anchors.lookup n | refuse (.undefinedAlias n)
      return id
    let p ← properties
    let uri ← address p
    match ← peek with
    | .scalar text isPlain =>
      drop
      begin p.anchor ⟨scalarTag uri isPlain text, .scalar text⟩
    | .flowSequenceStart =>
      drop
      sequence p uri (flowItems [] fuel)
    | .flowMappingStart =>
      drop
      mapping p uri (flowEntries [] fuel)
    | t =>
      if unindented ∧ t = .blockEntry then sequence p uri (unindentedItems [] fuel)
      else if inBlock ∧ t = .sequenceStart then
        drop
        sequence p uri (blockItems [] fuel)
      else if inBlock ∧ t = .mappingStart then
        drop
        mapping p uri (blockEntries [] fuel)
      else if p.anchor.isSome ∨ p.tag.isSome then
        begin p.anchor ⟨scalarTag uri true "", .scalar ""⟩
      else refuse (.expected "the node content")

/-- A node, or an empty one if one of these tokens is next. -/
def nodeUnless (stops : List Token) (inBlock unindented : Bool) : Nat → Read NodeId
  | 0 => refuse (.expected "less nesting")
  | fuel + 1 => do
    if (← peek) ∈ stops then empty else node inBlock unindented fuel

/-- The items of a block sequence, after those that were read, the last of them first. -/
def blockItems (read : List NodeId) : Nat → Read (List NodeId)
  | 0 => refuse (.expected "less nesting")
  | fuel + 1 => do
    if ← accept .blockEntry then
      let n ← nodeUnless [.blockEntry, .blockEnd] true false fuel
      blockItems (n :: read) fuel
    else if ← accept .blockEnd then return read.reverse
    else refuse (.expected "<block end>")

def unindentedItems (read : List NodeId) : Nat → Read (List NodeId)
  | 0 => refuse (.expected "less nesting")
  | fuel + 1 => do
    if ← accept .blockEntry then
      let n ← nodeUnless [.blockEntry, .key, .value, .blockEnd] true false fuel
      unindentedItems (n :: read) fuel
    else return read.reverse

def blockEntries (read : List (NodeId × NodeId)) : Nat → Read (List (NodeId × NodeId))
  | 0 => refuse (.expected "less nesting")
  | fuel + 1 => do
    let stops : List Token := [.key, .value, .blockEnd]
    if ← accept .key then
      let k ← nodeUnless stops true true fuel
      let v ← if ← accept .value then nodeUnless stops true true fuel else empty
      blockEntries ((k, v) :: read) fuel
    else if ← accept .blockEnd then return read.reverse
    else refuse (.expected "<block end>")

/-- The items of a flow sequence. A key among them stands for a mapping of one entry. -/
def flowItems (read : List NodeId) : Nat → Read (List NodeId)
  | 0 => refuse (.expected "less nesting")
  | fuel + 1 => do
    if ← accept .flowSequenceEnd then return read.reverse
    unless read.isEmpty do
      unless ← accept .flowEntry do refuse (.expected "',' or ']'")
    let stops : List Token := [.flowEntry, .flowSequenceEnd]
    if ← accept .key then
      let n ← mapping {} none (do
        let k ← nodeUnless (.value :: stops) false false fuel
        let v ← if ← accept .value then nodeUnless stops false false fuel else empty
        return [(k, v)])
      flowItems (n :: read) fuel
    else if ← accept .flowSequenceEnd then return read.reverse
    else
      let n ← node false false fuel
      flowItems (n :: read) fuel

/-- The entries of a flow mapping. What is no key has no value. -/
def flowEntries (read : List (NodeId × NodeId)) : Nat → Read (List (NodeId × NodeId))
  | 0 => refuse (.expected "less nesting")
  | fuel + 1 => do
    if ← accept .flowMappingEnd then return read.reverse
    unless read.isEmpty do
      unless ← accept .flowEntry do refuse (.expected "',' or '\x7d'")
    let stops : List Token := [.flowEntry, .flowMappingEnd]
    if ← accept .key then
      let k ← nodeUnless (.value :: stops) false false fuel
      let v ← if ← accept .value then nodeUnless stops false false fuel else empty
      flowEntries ((k, v) :: read) fuel
    else if ← accept .flowMappingEnd then return read.reverse
    else
      let k ← node false false fuel
      flowEntries ((k, ← empty) :: read) fuel

end

/-! ## Documents -/

/-- The directives in front of a document; whether a version was among them. -/
def directives : Nat → Bool → Read Unit
  | 0, _ => return
  | fuel + 1, versioned => do
    let .directive d := ← peek | return
    drop
    match d with
    | .version major =>
      if versioned then refuse (.expected "one version")
      if major ≠ 1 then refuse (.expected "version 1")
      directives fuel true
    | .tag h v =>
      if ((← get).handles.lookup h).isSome then refuse (.expected "one prefix for each handle")
      modify fun r => { r with handles := (h, v) :: r.handles }
      directives fuel versioned
    | .other => directives fuel versioned

/-- The handles that need not be declared. -/
def standardHandles : List (String × String) := [("!", "!"), ("!!", "tag:yaml.org,2002:")]

/-- The directives and the mark in front of a document. -/
def preamble : Read Unit := do
  modify fun r => { r with handles := [] }
  directives (← get).tokens.length false
  unless ← accept .documentStart do refuse (.expected "'<document start>'")

def isDirective : Token → Bool
  | .directive _ => true
  | _ => false

/-- The root of the document. A text without any document has an empty one. -/
def root : Read NodeId := do
  let fuel := 4 * (← get).tokens.length + 8
  let first ← peek
  if first = .streamEnd then return ← empty
  let marked := first = .documentStart || isDirective first
  if marked then preamble
  modify fun r => { r with handles := r.handles ++ standardHandles }
  if marked then
    let t ← peek
    if isDirective t || t ∈ [.documentStart, .documentEnd, .streamEnd] then return ← empty
  node true false fuel

def dropEnds : Nat → Read Unit
  | 0 => return
  | fuel + 1 => do if ← accept .documentEnd then dropEnds fuel

/-- Nothing but marks may follow the document. -/
def close : Read Unit := do
  dropEnds (← get).tokens.length
  unless (← peek) = .streamEnd do
    preamble
    refuse .severalDocuments

end Read

/-- The graph of a text's tokens. -/
def Graph.ofTokens (ts : Tokens) : Except Fault Graph := do
  let (root, r) ← (do
    let n ← Read.root
    Read.close
    return n : Read NodeId).run { tokens := ts.list, fault := ts.fault }
  return { nodes := r.nodes, root }

end InputStaging.Yaml
