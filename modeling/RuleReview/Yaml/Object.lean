import RuleReview.Yaml.Node
import RuleReview.Yaml.NumberTable

/-! # What the nodes of a document stand for

Every node stands for one object, and collections name the objects in them by the places of their nodes, so
that an object may be in several collections and even in itself. Collections are made empty and get their
content later, in the order in which they were made. A mapping takes the members of the mappings under its
merge keys before its own, so that its own win.
-/
namespace RuleReview.Yaml

inductive Object where
  | atom (a : Atom)
  | list (items : List NodeId)
  | map (members : List (Atom × NodeId))
  | set (items : List Atom)
  | pairs (items : List (NodeId × NodeId))

instance : Inhabited Object := ⟨.atom .null⟩

namespace Object

def isBlank : Object → Bool
  | .atom a => a.isBlank
  | .list l => l.isEmpty
  | .map ms => ms.isEmpty
  | .set l => l.isEmpty
  | .pairs l => l.isEmpty

def empty? : Tag → Option Object
  | .seq => some (.list [])
  | .map => some (.map [])
  | .set => some (.set [])
  | .pairs => some (.pairs [])
  | _ => none

end Object

/-- The nodes as they are so far, the objects that are made, and the collections that wait for their content,
the first one first. -/
structure Build where
  nodes : Array Node
  objects : Array (Option Object)
  waiting : List NodeId := []

abbrev Building := StateT Build (Except Problem)

namespace Build

def malformed : Building α := throw .malformed

def node (id : NodeId) : Building Node := do return ((← get).nodes[id]?).getD (.scalar .null [])

def setNode (id : NodeId) (n : Node) : Building Unit :=
  modify fun b => { b with nodes := b.nodes.setIfInBounds id n }

def setObject (id : NodeId) (o : Object) : Building Unit :=
  modify fun b => { b with objects := b.objects.setIfInBounds id (some o) }

def members (id : NodeId) : Building (List (NodeId × NodeId)) := do
  match ← node id with
  | .map _ ms => return ms
  | _ => malformed

def setMembers (id : NodeId) (ms : List (NodeId × NodeId)) : Building Unit := do
  setNode id (.map (← node id).tag ms)

/-- The text of a scalar. A mapping has the text of its member with the key `=`. -/
def textOf : Nat → NodeId → Building Glyphs
  | 0, _ => throw .tooDeep
  | fuel + 1, id => do
    match ← node id with
    | .scalar _ s => return s
    | .seq .. => malformed
    | .map _ ms =>
      match ← ms.findM? fun m => do return (← node m.1).tag = .default with
      | some m => textOf fuel m.2
      | none => malformed

def atom (id : NodeId) (tag : Tag) : Building Atom := do
  if tag = .unknown || tag = .merge || tag = .default then malformed
  let s ← textOf ((← get).nodes.size + 1) id
  match tag, ← node id with
  | .timestamp, .map .. => throw .noTimestampText
  | _, _ => Scalar.atom id tag s

/-- The object of a node; a collection that is new is empty and waits. -/
def object (id : NodeId) : Building Object := do
  match ((← get).objects[id]?).join with
  | some o => return o
  | none =>
    let tag := (← node id).tag
    match Object.empty? tag with
    | some o =>
      setObject id o
      modify fun b => { b with waiting := b.waiting ++ [id] }
      return o
    | none =>
      let o := Object.atom (← atom id tag)
      setObject id o
      return o

def retag (id : NodeId) : Building Unit := do
  match ← node id with
  | .scalar .default s => setNode id (.scalar .str s)
  | .seq .default items => setNode id (.seq .str items)
  | .map .default ms => setNode id (.map .str ms)
  | _ => return ()

def takeMerge (id : NodeId) : Building (Option NodeId) := do
  let ms ← members id
  match ← ms.findM? fun m => do return (← node m.1).tag = .merge with
  | some m => setMembers id (ms.erase m); return some m.2
  | none => return none

def mergeLimit : Nat := 970

/-- Puts the members of merged mappings before the own ones. Of several mappings under one key the first one
wins. -/
def merge : Nat → NodeId → Building Unit
  | 0, _ => throw .tooDeep
  | fuel + 1, id => do
    let ms ← members id
    ms.forM fun m => retag m.1
    let merged (v : NodeId) : Building (List (NodeId × NodeId)) := do
      match ← node v with
      | .map .. => merge fuel v; members v
      | _ => malformed
    let parts ← ms.mapM fun _ => do
      match ← takeMerge id with
      | none => return []
      | some v =>
        match ← node v with
        | .seq _ items => return (← items.mapM merged).reverse.flatten
        | _ => merged v
    setMembers id (parts.flatten ++ (← members id))

def put (ms : List (Atom × NodeId)) (m : Atom × NodeId) : List (Atom × NodeId) :=
  if ms.any fun x => x.1.same m.1 then ms.map fun x => if x.1.same m.1 then (x.1, m.2) else x
  else ms ++ [m]

def atomMembers (id : NodeId) : Building (List (Atom × NodeId)) := do
  merge mergeLimit id
  let found ← (← members id).mapM fun (k, v) => do
    match ← object k with
    | .atom a => let _ ← object v; return (a, v)
    | _ => malformed
  return found.foldl put []

def pair (id : NodeId) : Building (NodeId × NodeId) := do
  match ← members id with
  | [(k, v)] => let _ ← object k; let _ ← object v; return (k, v)
  | _ => malformed

def fill (id : NodeId) : Building Unit := do
  match ← node id with
  | .seq .seq items => items.forM (discard <| object ·); setObject id (.list items)
  | .seq .pairs items => setObject id (.pairs (← items.mapM pair))
  | .map .map _ => setObject id (.map (← atomMembers id))
  | .map .set _ => setObject id (.set (NumberTable.listed ((← atomMembers id).map (·.1))))
  | _ => malformed

/-- Fills the collections that wait, and those that come up meanwhile. -/
def fillAll : Nat → Building Unit
  | 0 => return ()
  | fuel + 1 => do
    match (← get).waiting with
    | [] => return ()
    | id :: rest =>
      modify fun b => { b with waiting := rest }
      fill id
      fillAll fuel

end Build

structure Document where
  objects : Array Object
  root : NodeId

namespace Document

def object (d : Document) (id : NodeId) : Object := (d.objects[id]?).getD default

def ofGraph (g : Graph) : Except Problem Document := do
  let build : Building Unit := do
    let _ ← Build.object g.root
    Build.fillAll (g.nodes.size + 1)
  let ((), b) ← build.run { nodes := g.nodes, objects := Array.replicate g.nodes.size none }
  return ⟨b.objects.map (·.getD default), g.root⟩

def ofText (s : Text) : Except Problem (Option Document) := do
  (← Graph.ofText s).mapM ofGraph

end Document

end RuleReview.Yaml
