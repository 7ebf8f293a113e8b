import InputStaging.Yaml.Merge
import InputStaging.Yaml.Value

/-!
# Shapes of YAML nodes

The shape of a node says what kind of document it stands for, and which nodes stand for
the parts. Nodes are visited level by level: a scalar has its value as soon as it is met,
and a collection is looked into once everything on the level before has been. So, of
several faults, one nearer to the root comes up before one further down.
-/

namespace InputStaging.Yaml

inductive Shape where
  /-- A scalar; whether it is what is not a number, called by its name. -/
  | leaf (d : Document) (namedNaN : Bool)
  | list (items : List NodeId)
  | pairs (entries : Entries)
  | set (entries : Entries)
  | mapping (entries : Entries)
  deriving Inhabited

structure Building where
  nodes : Array Node
  shapes : Array (Option Shape)
  /-- The collections that have been met, in this order. -/
  met : Array NodeId := #[]

abbrev Build := StateT Building (Except Fault)

namespace Build

def refuse {α : Type} (m : Malformation) : Build α := throw (.malformed m)

def content (id : NodeId) : Build Content := return contentAt (← get).nodes id

def shape? (id : NodeId) : Build (Option Shape) := return (← get).shapes[id]?.join

def setShape (id : NodeId) (s : Shape) : Build Unit :=
  modify fun b => { b with shapes := b.shapes.setIfInBounds id (some s) }

/-- The text of a scalar. A mapping has that of the value beside its key `=`. More steps than
there are nodes lead in a circle. -/
def scalarText : Nat → NodeId → Build String
  | 0, _ => throw (.scalar .tooDeep)
  | fuel + 1, id => do
    let nodes := (← get).nodes
    match contentAt nodes id with
    | .scalar text => return text
    | .sequence _ => refuse (.wrongShape "scalar")
    | .mapping es =>
      match es.find? fun e => tagAt nodes e.1 = .value with
      | some (_, v) => scalarText fuel v
      | none => refuse (.wrongShape "scalar")

def scalar (id : NodeId) (tag : Tag) : Build Shape := do
  let text ← scalarText ((← get).nodes.size + 1) id
  if tag = .timestamp then
    if let .mapping _ := ← content id then throw (.scalar .timestampOfMapping)
  match scalarOf tag text with
  | .ok d => return .leaf d (tag = .float && namesNaN text)
  | .error f => throw f

/-- The shape of a collection that has not been looked into. -/
def blank? : Tag → Option Shape
  | .sequence => some (.list [])
  | .omap | .pairs => some (.pairs [])
  | .set => some (.set [])
  | .mapping => some (.mapping [])
  | _ => none

/-- Meet a node. -/
def visit (id : NodeId) : Build Unit := do
  if (← shape? id).isSome then return
  let tag := tagAt (← get).nodes id
  if tag.isScalar then setShape id (← scalar id tag)
  else
    match blank? tag with
    | none => refuse (.unknownTag tag.uri)
    | some s =>
      setShape id s
      modify fun b => { b with met := b.met.push id }

/-- Meet the nodes of an entry. A key has to be a scalar. -/
def visitEntry (e : NodeId × NodeId) : Build Unit := do
  visit e.1
  unless (← shape? e.1) matches some (.leaf ..) do refuse .compoundKey
  visit e.2

/-- The entries of a mapping, all of them met. -/
def entries (id : NodeId) : Build Entries := do
  let b ← get
  let ((), nodes) ← (flatten (entryCount b.nodes + 1) id).run b.nodes
  set { b with nodes }
  match ← content id with
  | .mapping es =>
    es.forM visitEntry
    return es
  | _ => refuse (.wrongShape "mapping")

/-- The only entry of a mapping, both of its nodes met. -/
def pair (id : NodeId) : Build (NodeId × NodeId) := do
  match ← content id with
  | .mapping [(k, v)] =>
    visit k
    visit v
    return (k, v)
  | _ => refuse (.wrongShape "mapping of one entry")

def items (id : NodeId) : Build (List NodeId) := do
  match ← content id with
  | .sequence ns => return ns
  | _ => refuse (.wrongShape "sequence")

/-- Look into a collection. -/
def lookInto (id : NodeId) : Build Unit := do
  match tagAt (← get).nodes id with
  | .sequence =>
    let ns ← items id
    ns.forM visit
    setShape id (.list ns)
  | .omap | .pairs => setShape id (.pairs (← (← items id).mapM pair))
  | .set => setShape id (.set (← entries id))
  | _ => setShape id (.mapping (← entries id))

/-- Look into the collections from the `i`-th on, and into those that are met thereby. -/
def level (i : Nat) : Nat → Build Unit
  | 0 => return
  | fuel + 1 => do
    match (← get).met[i]? with
    | none => return
    | some id =>
      lookInto id
      level (i + 1) fuel

end Build

/-- The shapes of the nodes that can be reached from the root. -/
def Graph.shapes (g : Graph) : Except Fault (Array (Option Shape)) := do
  let start : Building := { nodes := g.nodes, shapes := Array.replicate g.nodes.size none }
  let (_, b) ← (do
    Build.visit g.root
    Build.level 0 g.nodes.size : Build Unit).run start
  return b.shapes

end InputStaging.Yaml
