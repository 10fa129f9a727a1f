import ApiScan.Yaml.Node
import ApiScan.Yaml.Scalar

set_option autoImplicit false

/-! # From nodes to values

Each node of a document stands for one value, however often it is met. The value of a scalar is read
when it is met first. A collection is drafted empty when it is met, and drafts are filled one after
the other in the order in which they were met, so everything on one level of a document comes before
anything on the next. Where several values of a document are faulty, the one that is met first in
this order is told. -/

/-! ## Merge keys

An entry of a mapping whose key is the merge key stands for the entries of another mapping, or of a
sequence of mappings of which the first counts most. The mapping is flattened in place: its merge
entries give way to the entries that they stand for, in front of its own, so that its own win. The
other mapping is flattened first, and since it may be the very mapping that is being flattened, each
merge entry is taken out before it is followed; their number bounds the work. -/

namespace ApiScan.Yaml

/-- The nodes of a document by their numbers. -/
abbrev Nodes := Array Node

namespace Nodes

/-- The tag of a node. -/
def tagOf (nodes : Nodes) (number : Nat) : Tag := (nodes.getD number Node.absent).tag

/-- The content of a node. -/
def contentOf (nodes : Nodes) (number : Nat) : Content := (nodes.getD number Node.absent).content

/-- The entries of a mapping. -/
def entriesOf (nodes : Nodes) (number : Nat) : List (Nat × Nat) :=
  match nodes.contentOf number with
  | .mapping entries => entries
  | _ => []

/-- Give a mapping other entries. -/
def putEntries (nodes : Nodes) (number : Nat) (entries : List (Nat × Nat)) : Nodes :=
  nodes.modify number fun node => { node with content := .mapping entries }

/-- Whether a key asks for a merge. -/
def isMerge (nodes : Nodes) (key : Nat) : Bool := nodes.tagOf key = .merge

/-- How many entries ask for a merge. -/
def mergeCount (nodes : Nodes) : Nat :=
  (List.range nodes.size).foldl (fun count number =>
    count + ((nodes.entriesOf number).filter fun (key, _) => nodes.isMerge key).length) 0

/-- Make a key that stands for the value of its mapping a text. -/
def spellKey (nodes : Nodes) (key : Nat) : Nodes :=
  if nodes.tagOf key = .value then nodes.modify key fun node => { node with tag := .str }
  else nodes

/-- The value of the first entry that asks for a merge, and the entries without it. -/
def takeMerge? (nodes : Nodes) : List (Nat × Nat) → Option (Nat × List (Nat × Nat))
  | [] => none
  | (key, value) :: more =>
    if nodes.isMerge key then some (value, more)
    else (takeMerge? nodes more).map fun (found, rest) => (found, (key, value) :: rest)

mutual

/-- Flatten a mapping: none of its entries asks for a merge any more. -/
def flattenMapping : Nat → Nat → Nodes → Except Fault Nodes
  | 0, _, _ => .error .malformed
  | n + 1, number, nodes => do
    let (merged, nodes) ← takeMerged n number nodes
    let own := nodes.entriesOf number
    let nodes := own.foldl (fun nodes (key, _) => nodes.spellKey key) nodes
    return if merged.isEmpty then nodes else nodes.putEntries number (merged ++ own)

/-- Take the merge entries out of a mapping: the entries that they stand for, in order. -/
def takeMerged : Nat → Nat → Nodes → Except Fault (List (Nat × Nat) × Nodes)
  | 0, _, _ => .error .malformed
  | n + 1, number, nodes =>
    match nodes.takeMerge? (nodes.entriesOf number) with
    | none => .ok ([], nodes)
    | some (value, rest) => do
      let nodes := nodes.putEntries number rest
      let (found, nodes) ←
        match nodes.contentOf value with
        | .mapping _ => flattenEach n [value] nodes
        | .sequence items => flattenEach n items nodes
        | .scalar _ => .error .malformed
      let (more, nodes) ← takeMerged n number nodes
      return (found ++ more, nodes)

/-- Flatten mappings one after the other: their entries, those of the last one first. -/
def flattenEach : Nat → List Nat → Nodes → Except Fault (List (Nat × Nat) × Nodes)
  | 0, _, _ => .error .malformed
  | _ + 1, [], nodes => .ok ([], nodes)
  | n + 1, number :: more, nodes =>
    match nodes.contentOf number with
    | .mapping _ => do
      let nodes ← flattenMapping n number nodes
      let entries := nodes.entriesOf number
      let (later, nodes) ← flattenEach n more nodes
      return (later ++ entries, nodes)
    | _ => .error .malformed

end

/-- The greatest number of items of a sequence, which bounds how many mappings one entry merges. -/
def widest (nodes : Nodes) : Nat :=
  nodes.foldl (fun most node =>
    match node.content with
    | .sequence items => max most items.length
    | _ => most) 0

/-- What bounds the work of flattening the mappings of a document: each merge entry is followed
    once, to as many mappings as a sequence has items. -/
def mergeBound (nodes : Nodes) : Nat := (nodes.mergeCount + 1) * (nodes.widest + 4)

end Nodes

end ApiScan.Yaml

namespace ApiScan.Yaml

/-- The value of a node in the making: a finished scalar, or a collection that gives the nodes in it
    by their numbers. -/
inductive Draft where
  | scalar (value : Value)
  | list (items : List Nat)
  /-- A list of lists of two. -/
  | pairs (items : List (Nat × Nat))
  | map (entries : List (Nat × Nat))
  | set (items : List Nat)
  deriving Repr

/-- The drafts of the nodes of a document. -/
structure Drafts where
  nodes : Nodes
  /-- What bounds the work of flattening a mapping. -/
  mergeBound : Nat
  drafts : Array (Option Draft)
  /-- The collections in the order in which they were met. -/
  met : Array Nat := #[]

namespace Drafts

/-- A step in the making of values. -/
abbrev Make := StateT Drafts (Except Fault)

/-- The draft of a node, if it was met. -/
def draft? (number : Nat) (made : Drafts) : Option Draft := made.drafts.getD number none

/-- The nodes as they are now. -/
def nodesNow : Make Nodes := return (← get).nodes

/-- Set the draft of a node. -/
def put (number : Nat) (draft : Draft) : Make Unit :=
  modify fun made => { made with drafts := made.drafts.setIfInBounds number (some draft) }

/-! ## Meeting a node -/

/-- The text of a scalar, or of the entry of a mapping that is its value. A chain of such entries
    that is longer than there are nodes has no end. -/
def textOf (nodes : Nodes) : Nat → Nat → Except Fault Points
  | 0, _ => .error .endlessText
  | n + 1, number =>
    match nodes.contentOf number with
    | .scalar text => .ok text
    | .sequence _ => .error .malformed
    | .mapping entries =>
      match entries.find? fun (key, _) => nodes.tagOf key = .value with
      | some (_, value) => textOf nodes n value
      | none => .error .malformed

/-- The value of a node that has to be a scalar of a kind. A date or time is read from a scalar
    alone. -/
def scalarOf (nodes : Nodes) (tag : Tag) (number : Nat) : Except Fault Value := do
  let text ← textOf nodes (nodes.size + 1) number
  match tag, nodes.contentOf number with
  | .timestamp, .mapping _ => .error .timeOfCollection
  | tag, _ => readScalar tag text

/-- The empty collection of a tag. -/
def emptyOf? : Tag → Option Draft
  | .seq => some (.list [])
  | .omap | .pairs => some (.pairs [])
  | .map => some (.map [])
  | .set => some (.set [])
  | _ => none

/-- Whether a tag has values. -/
def isKnown : Tag → Bool
  | .merge | .value | .other => false
  | _ => true

/-- Meet a node: its draft, which is made if there is none yet. -/
def meet (number : Nat) : Make Draft := do
  match (← get).draft? number with
  | some draft => return draft
  | none =>
    let nodes ← nodesNow
    let tag := nodes.tagOf number
    match emptyOf? tag with
    | some draft =>
      put number draft
      modify fun made => { made with met := made.met.push number }
      return draft
    | none =>
      if !isKnown tag then throw .malformed
      let draft := .scalar (← scalarOf nodes tag number)
      put number draft
      return draft

/-! ## Filling a collection -/

/-- A key by its node and its value. -/
structure Key where
  node : Nat
  value : Value

instance : BEq Key := ⟨fun a b => a.node == b.node || Value.sameKey a.value b.value⟩

/-- Meet a node that is a key; only scalars are keys. -/
def meetKey (number : Nat) : Make Key := do
  match ← meet number with
  | .scalar value => return ⟨number, value⟩
  | _ => throw .malformed

/-- Meet the entries of a mapping, each key before its value. -/
def meetEntries (entries : List (Nat × Nat)) : Make (List (Nat × Nat)) := do
  let met ← entries.mapM fun (key, value) => do
    let key ← meetKey key
    let _ ← meet value
    return (key, value)
  return (Assoc.ofPairs met).map fun (key, value) => (key.node, value)

/-- Meet the only entry of a mapping, which makes a pair. -/
def meetPair (number : Nat) : Make (Nat × Nat) := do
  match (← nodesNow).contentOf number with
  | .mapping [(key, value)] =>
    let _ ← meet key
    let _ ← meet value
    return (key, value)
  | _ => throw .malformed

/-- The entries of a mapping without merge keys. -/
def plainEntries (number : Nat) : Make (List (Nat × Nat)) := do
  let made ← get
  let nodes ← made.nodes.flattenMapping made.mergeBound number
  set { made with nodes }
  return nodes.entriesOf number

/-- Fill the draft of a collection. -/
def fill (number : Nat) : Make Unit := do
  let node := (← nodesNow).getD number Node.absent
  match node.tag, node.content with
  | .seq, .sequence items =>
    for item in items do
      let _ ← meet item
    put number (.list items)
  | .omap, .sequence items | .pairs, .sequence items =>
    put number (.pairs (← items.mapM meetPair))
  | .map, .mapping _ => put number (.map (← meetEntries (← plainEntries number)))
  | .set, .mapping _ =>
    put number (.set ((← meetEntries (← plainEntries number)).map Prod.fst))
  | _, _ => throw .malformed

/-- Fill the collections from the one that was met at a place in the order on. No collection is met
    twice, so the number of nodes bounds their number. -/
def fillFrom : Nat → Nat → Make Unit
  | 0, _ => return ()
  | n + 1, place => do
    match (← get).met[place]? with
    | none => return ()
    | some number =>
      fill number
      fillFrom n (place + 1)

/-! ## Values -/

/-- The value of a node inside the given collections, the one right around it first. A list of two
    in a list of pairs has no node of its own. -/
def valueOf (made : Drafts) : Nat → List (Option Nat) → Nat → Value
  | 0, _, _ => .null
  | n + 1, around, number =>
    match around.idxOf? (some number) with
    | some distance => .outer distance
    | none =>
      let inside := valueOf made n (some number :: around)
      match made.draft? number with
      | none => .null
      | some (.scalar value) => value
      | some (.list items) => .list (items.map inside)
      | some (.pairs items) =>
        let within := valueOf made n (none :: some number :: around)
        .list (items.map fun (first, second) => .list [within first, within second])
      | some (.map entries) => .map (entries.map fun (key, value) => (inside key, inside value))
      | some (.set items) => .set (items.map inside)

end Drafts

namespace Document

/-- The value that a document stands for. -/
def value (doc : Document) : Except Fault Value := do
  let start : Drafts :=
    ⟨doc.nodes, Nodes.mergeBound doc.nodes, Array.replicate doc.nodes.size none, #[]⟩
  let make : Drafts.Make Unit := do
    let _ ← Drafts.meet doc.root
    Drafts.fillFrom doc.nodes.size 0
  let (_, made) ← make.run start
  return made.valueOf (doc.nodes.size + 1) [] doc.root

end Document

/-- The value of the single document of a text; a text without a document stands for null. -/
def Value.ofText (text : Text) : Except Fault Value := do
  match ← Document.ofText? text with
  | none => return .null
  | some doc => doc.value

end ApiScan.Yaml
