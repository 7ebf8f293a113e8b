import InputStaging.Yaml.Node

/-!
# Mappings that take in others

A key `<<` stands for the entries of another mapping, or of several. Before the entries of
a mapping are looked at, the keys of this kind are taken out, and the entries that they
stand for are put in front. A key `=` becomes text then. Both changes last, and show
wherever else the nodes are referred to.
-/

namespace InputStaging.Yaml

abbrev Entries := List (NodeId × NodeId)

/-- What is done to the nodes of a graph. -/
abbrev Change := StateT (Array Node) (Except Fault)

def nodeAt (nodes : Array Node) (id : NodeId) : Node := nodes[id]?.getD ⟨.null, .scalar ""⟩

def tagAt (nodes : Array Node) (id : NodeId) : Tag := (nodeAt nodes id).tag

def contentAt (nodes : Array Node) (id : NodeId) : Content := (nodeAt nodes id).content

/-- The entries of a mapping. -/
def entriesAt (nodes : Array Node) (id : NodeId) : Entries :=
  match contentAt nodes id with
  | .mapping es => es
  | _ => []

def setEntries (id : NodeId) (es : Entries) : Change Unit :=
  modify fun nodes => nodes.modify id fun n => { n with content := .mapping es }

/-- The first node that is taken in, and the entries without its key. -/
def takeMerge? (nodes : Array Node) (es : Entries) : Option (NodeId × Entries) :=
  let isOwn (e : NodeId × NodeId) : Bool := tagAt nodes e.1 ≠ .merge
  match es.dropWhile isOwn with
  | [] => none
  | e :: rest => some (e.2, es.takeWhile isOwn ++ rest)

/-- Keys `=` are text from here on. -/
def nameDefaults (id : NodeId) : Change Unit := do
  let nodes ← get
  for k in (entriesAt nodes id).map (·.1) do
    if tagAt nodes k = .value then
      modify fun nodes => nodes.modify k fun n => { n with tag := .text }

/-- Put the entries of the mappings that a mapping takes in in front of its own. Each step
takes out one key, so that as many steps as there are entries are enough. -/
def flatten : Nat → NodeId → Change Unit
  | 0, _ => return
  | fuel + 1, id => do
    let nodes ← get
    match takeMerge? nodes (entriesAt nodes id) with
    | none => nameDefaults id
    | some (taken, own) =>
      setEntries id own
      let entriesOf (i : NodeId) : Change Entries := do
        unless (contentAt (← get) i) matches .mapping _ do throw (.malformed .badMerge)
        flatten fuel i
        return entriesAt (← get) i
      let more ← match contentAt (← get) taken with
        | .sequence items => do pure (← items.mapM entriesOf).reverse.flatten
        | _ => entriesOf taken
      flatten fuel id
      setEntries id (more ++ entriesAt (← get) id)

/-- The number of entries of all mappings. -/
def entryCount (nodes : Array Node) : Nat :=
  nodes.foldl (fun n node =>
    match node.content with
    | .mapping es => n + es.length
    | _ => n) 0

end InputStaging.Yaml
