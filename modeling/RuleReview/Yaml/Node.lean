import RuleReview.Yaml.Tag
import RuleReview.Yaml.Token

/-! # The nodes of a YAML document

The nodes stand in an array and name each other by their places in it, so that a reference is the place of the
node with its anchor, even inside that node. A node has a tag, which for a plain scalar is found from its text.
-/
namespace RuleReview.Yaml

abbrev NodeId := Nat

inductive Node where
  | scalar (tag : Tag) (text : Glyphs)
  | seq (tag : Tag) (items : List NodeId)
  | map (tag : Tag) (members : List (NodeId × NodeId))

def Node.tag : Node → Tag
  | .scalar t _ | .seq t _ | .map t _ => t

structure Graph where
  nodes : Array Node
  root : NodeId

/-- What is left of the text, the tag handles of the document, the places of anchors and the nodes so far. -/
structure Compose where
  rest : Tokens
  handles : List (Text × Text) := []
  anchors : List (Text × NodeId) := []
  nodes : Array Node := #[]

abbrev Composing := StateT Compose (Except Problem)

namespace Compose

def nestingLimit : Nat := 485

def malformed : Composing α := throw .malformed

def peek : Composing Token := do
  let rest := (← get).rest
  match rest.tokens with
  | t :: _ => return t
  | [] => throw (rest.fault.getD .malformed)

def advance : Composing Unit :=
  modify fun s => { s with rest := { s.rest with tokens := s.rest.tokens.tail } }

def add (n : Node) : Composing NodeId :=
  modifyGet fun s => (s.nodes.size, { s with nodes := s.nodes.push n })

def nodeOfEmpty : Composing NodeId := add (.scalar .null [])

def expand (t : TagName) : Composing Text := do
  match t.handle with
  | none => return t.rest
  | some h =>
    match (← get).handles.lookup h with
    | some start => return start ++ t.rest
    | none => malformed

def properties : Composing (Option Text × Option Text) := do
  match ← peek with
  | .anchor a =>
    advance
    match ← peek with
    | .tag t => advance; return (some a, some (← expand t))
    | _ => return (some a, none)
  | .tag t =>
    advance
    match ← peek with
    | .anchor a => advance; return (some a, some (← expand t))
    | _ => return (none, some (← expand t))
  | _ => return (none, none)

/-- Adds a node and binds its anchor, which must be new. -/
def declare (anchor : Option Text) (n : Node) : Composing NodeId := do
  let some a := anchor | add n
  if (← get).anchors.any (·.1 == a) then malformed
  let id ← add n
  modify fun s => { s with anchors := (a, id) :: s.anchors }
  return id

def settle (id : NodeId) (n : Node) : Composing NodeId := do
  modify fun s => { s with nodes := s.nodes.setIfInBounds id n }
  return id

def collectionTag (given : Option Text) (d : Tag) : Tag :=
  match given with
  | none => d
  | some t => if t = ['!'] then d else .ofText t

def scalarTag (given : Option Text) (text : Glyphs) (plain : Bool) : Tag :=
  match given with
  | none => if plain then .ofPlain text else .str
  | some t => if t = ['!'] then .ofPlain text else .ofText t

def scalar (anchor tag : Option Text) (text : Glyphs) (plain : Bool) : Composing NodeId :=
  declare anchor (.scalar (scalarTag tag text plain) text)

/-- A sequence: its place is known before its items are. -/
def sequence (anchor tag : Option Text) (items : Composing (List NodeId)) : Composing NodeId := do
  let t := collectionTag tag .seq
  let id ← declare anchor (.seq t [])
  settle id (.seq t (← items))

def mapping (anchor tag : Option Text) (members : Composing (List (NodeId × NodeId))) : Composing NodeId := do
  let t := collectionTag tag .map
  let id ← declare anchor (.map t [])
  settle id (.map t (← members))

mutual

/-- A node inside so many others. Block collections, and sequences without an indentation of their own, only
where allowed. -/
def node : Nat → Nat → Bool → Bool → Composing NodeId
  | 0, _, _, _ => malformed
  | fuel + 1, depth, block, indentless => do
    if nestingLimit < depth then throw .tooDeep
    if let .reference a ← peek then
      advance
      match (← get).anchors.lookup a with
      | some id => return id
      | none => malformed
    else
      let (anchor, tag) ← properties
      match ← peek, block with
      | .entry, _ =>
        if indentless then sequence anchor tag (indentlessItems fuel (depth + 1))
        else if anchor.isSome || tag.isSome then scalar anchor tag [] true
        else malformed
      | .scalar text plain, _ => advance; scalar anchor tag text plain
      | .flowSequence, _ => advance; sequence anchor tag (flowItems fuel (depth + 1) true)
      | .flowMapping, _ => advance; mapping anchor tag (flowMembers fuel (depth + 1) true)
      | .blockSequence, true => advance; sequence anchor tag (blockItems fuel (depth + 1))
      | .blockMapping, true => advance; mapping anchor tag (blockMembers fuel (depth + 1))
      | _, _ => if anchor.isSome || tag.isSome then scalar anchor tag [] true else malformed

def blockItems : Nat → Nat → Composing (List NodeId)
  | 0, _ => malformed
  | fuel + 1, depth => do
    match ← peek with
    | .entry =>
      advance
      let n ← match ← peek with
        | .entry | .blockEnd => nodeOfEmpty
        | _ => node fuel depth true false
      return n :: (← blockItems fuel depth)
    | .blockEnd => advance; return []
    | _ => malformed

def indentlessItems : Nat → Nat → Composing (List NodeId)
  | 0, _ => malformed
  | fuel + 1, depth => do
    match ← peek with
    | .entry =>
      advance
      let n ← match ← peek with
        | .entry | .key | .value | .blockEnd => nodeOfEmpty
        | _ => node fuel depth true false
      return n :: (← indentlessItems fuel depth)
    | _ => return []

def blockMembers : Nat → Nat → Composing (List (NodeId × NodeId))
  | 0, _ => malformed
  | fuel + 1, depth => do
    match ← peek with
    | .key =>
      advance
      let k ← match ← peek with
        | .key | .value | .blockEnd => nodeOfEmpty
        | _ => node fuel depth true true
      let v ← blockValue fuel depth
      return (k, v) :: (← blockMembers fuel depth)
    | .blockEnd => advance; return []
    | _ => malformed

def blockValue : Nat → Nat → Composing NodeId
  | 0, _ => malformed
  | fuel + 1, depth => do
    match ← peek with
    | .value =>
      advance
      match ← peek with
      | .key | .value | .blockEnd => nodeOfEmpty
      | _ => node fuel depth true true
    | _ => nodeOfEmpty

/-- The items up to the closing bracket; a key makes a mapping of one member. -/
def flowItems : Nat → Nat → Bool → Composing (List NodeId)
  | 0, _, _ => malformed
  | fuel + 1, depth, first => do
    if let .flowSequenceEnd ← peek then advance; return []
    if !first then
      match ← peek with
      | .flowEntry => advance
      | _ => malformed
    match ← peek with
    | .key =>
      advance
      let n ← mapping none none do
        let k ← match ← peek with
          | .value | .flowEntry | .flowSequenceEnd => nodeOfEmpty
          | _ => node fuel (depth + 1) false false
        return [(k, ← flowValue fuel (depth + 1))]
      return n :: (← flowItems fuel depth false)
    | .flowSequenceEnd => advance; return []
    | _ =>
      let n ← node fuel depth false false
      return n :: (← flowItems fuel depth false)

/-- The members up to the closing brace; a node without a value is a key of an empty one. -/
def flowMembers : Nat → Nat → Bool → Composing (List (NodeId × NodeId))
  | 0, _, _ => malformed
  | fuel + 1, depth, first => do
    if let .flowMappingEnd ← peek then advance; return []
    if !first then
      match ← peek with
      | .flowEntry => advance
      | _ => malformed
    match ← peek with
    | .key =>
      advance
      let k ← match ← peek with
        | .value | .flowEntry | .flowMappingEnd => nodeOfEmpty
        | _ => node fuel depth false false
      let v ← flowValue fuel depth
      return (k, v) :: (← flowMembers fuel depth false)
    | .flowMappingEnd => advance; return []
    | _ =>
      let k ← node fuel depth false false
      let v ← nodeOfEmpty
      return (k, v) :: (← flowMembers fuel depth false)

def flowValue : Nat → Nat → Composing NodeId
  | 0, _ => malformed
  | fuel + 1, depth => do
    match ← peek with
    | .value =>
      advance
      match ← peek with
      | .flowEntry | .flowSequenceEnd | .flowMappingEnd => nodeOfEmpty
      | _ => node fuel depth false false
    | _ => nodeOfEmpty

end

def standardHandles : List (Text × Text) := [(['!'], ['!']), (['!', '!'], Tag.standard)]

/-- The directives before a document: at most one version, whose first number is one, and no handle
twice. -/
def directives : Nat → Bool → Composing Unit
  | 0, _ => malformed
  | fuel + 1, seen => do
    match ← peek with
    | .directive d =>
      advance
      match d with
      | .version major => if seen || major != 1 then malformed else directives fuel true
      | .tag h start =>
        if (← get).handles.any (·.1 == h) then malformed
        modify fun s => { s with handles := s.handles ++ [(h, start)] }
        directives fuel seen
      | .other => directives fuel seen
    | _ => return ()

def documentStart (fuel : Nat) : Composing Unit := do
  directives fuel false
  match ← peek with
  | .documentStart => advance
  | _ => malformed

def content (fuel : Nat) : Composing NodeId := do
  match ← peek with
  | .directive _ | .documentStart | .documentEnd | .finish => nodeOfEmpty
  | _ => node fuel 0 true false

/-- The end of the text, after any number of markers for the end of a document; there is no second one. -/
def atEnd : Nat → Composing Unit
  | 0 => malformed
  | fuel + 1 => do
    match ← peek with
    | .documentEnd => advance; atEnd fuel
    | .finish => return ()
    | _ =>
      modify fun s => { s with handles := [] }
      documentStart fuel
      malformed

def document (fuel : Nat) : Composing (Option NodeId) := do
  match ← peek with
  | .finish => return none
  | t =>
    match t with
    | .directive _ | .documentStart => documentStart fuel
    | _ => pure ()
    modify fun s => { s with handles := s.handles ++ standardHandles }
    let root ← match t with
      | .directive _ | .documentStart => content fuel
      | _ => node fuel 0 true false
    atEnd fuel
    return some root

end Compose

/-- The nodes of a text that holds one document, or none when it holds none. -/
def Graph.ofText (s : Text) : Except Problem (Option Graph) := do
  let rest := Tokens.ofText s
  let (root, c) ← (Compose.document (2 * rest.tokens.length + 4)).run { rest }
  return root.map fun root => ⟨c.nodes, root⟩

end RuleReview.Yaml
