import InputStaging.Yaml.Shape

/-!
# Documents of YAML nodes

A node's document is put together from those of its parts. Nodes with finitely much in
them come first, each once all of its parts are there. What is left then contains itself,
and is unfolded to a depth to which no schema looks.
-/

namespace InputStaging.Yaml

namespace Unfold

/-- Keys that a mapping takes for the same: what is not a number is the same as itself if
it is written once, or called by its name. -/
def sameKey (shapes : Array (Option Shape)) (i j : NodeId) : Bool :=
  i = j ||
    match shapes[i]?.join, shapes[j]?.join with
    | some (.leaf _ true), some (.leaf _ true) => true
    | some (.leaf d _), some (.leaf e _) => Document.sameKey d e
    | _, _ => false

/-- Put a document together from those of the parts, if there are all of them. -/
def document? (order : SetOrder) (shapes : Array (Option Shape))
    (part : NodeId → Option Document) : Shape → Option Document
  | .leaf d _ => some d
  | .list ns => (ns.mapM part).map .list
  | .pairs es => (es.mapM pairOf).map fun ps => .list (ps.map fun p => .list [p.1, p.2])
  | .set es => ((Document.distinct (sameKey shapes) es).mapM fun e => part e.1).map
    fun ds => .set (order.arrange ds)
  | .mapping es => ((Document.distinct (sameKey shapes) es).mapM pairOf).map .mapping
where
  pairOf (e : NodeId × NodeId) : Option (Document × Document) :=
    return (← part e.1, ← part e.2)

/-- Put together what can be; the nodes that are left come in reverse order. -/
def pass (order : SetOrder) (shapes : Array (Option Shape)) (todo : List NodeId)
    (docs : Array (Option Document)) : Array (Option Document) × List NodeId :=
  todo.foldl
    (fun (docs, left) id =>
      match (shapes[id]?.join).bind (document? order shapes fun i => docs[i]?.join) with
      | some d => (docs.setIfInBounds id (some d), left)
      | none => (docs, id :: left))
    (docs, [])

/-- Put together what can be, over and over, until no more comes of it. -/
def settle (order : SetOrder) (shapes : Array (Option Shape)) :
    Nat → List NodeId → Array (Option Document) → Array (Option Document) × List NodeId
  | 0, todo, docs => (docs, todo)
  | fuel + 1, todo, docs =>
    let (docs, left) := pass order shapes todo docs
    if left.length = todo.length then (docs, left) else settle order shapes fuel left docs

/-- How far nodes that contain themselves are unfolded. -/
def deepest : Nat := 8

/-- Unfold nodes once more; a part that is not there stands for nothing. -/
def deepen (order : SetOrder) (shapes : Array (Option Shape)) (ids : List NodeId)
    (docs : Array (Option Document)) : Array (Option Document) :=
  ids.foldl
    (fun docs id =>
      let part (i : NodeId) : Option Document := some ((docs[i]?.join).getD .null)
      docs.setIfInBounds id ((shapes[id]?.join).bind (document? order shapes part)))
    docs

end Unfold

/-- The document of the root, given the order in which elements come out of sets. -/
def Graph.document (g : Graph) (order : SetOrder) : Except Fault Document := do
  let shapes ← g.shapes
  let ids := ((List.range shapes.size).filter fun i => (shapes[i]?.join).isSome).reverse
  let (docs, left) := Unfold.settle order shapes ids.length ids (Array.replicate shapes.size none)
  let docs := (List.range Unfold.deepest).foldl (fun docs _ => Unfold.deepen order shapes left docs) docs
  return (docs[g.root]?.join).getD .null

end InputStaging.Yaml
