import ApiScan.Yaml.Tag
import ApiScan.Yaml.Token.Scan

set_option autoImplicit false

/-! # Nodes of a YAML document

What the tokens of a document spell. The nodes are numbered in the order in which they start, and a
collection holds the numbers of its nodes: an alias stands for the very node that its anchor names,
so a node may be in several places, and a collection may hold itself. -/

namespace ApiScan.Yaml

/-- What a node holds; the other nodes in it are given by their numbers. -/
inductive Content where
  | scalar (text : Points)
  | sequence (items : List Nat)
  | mapping (entries : List (Nat × Nat))
  deriving DecidableEq, Repr

/-- A node of a YAML document. -/
structure Node where
  tag : Tag
  content : Content
  deriving DecidableEq, Repr

/-- The node of an absent scalar. -/
def Node.absent : Node := ⟨.null, .scalar []⟩

/-- The nodes of a document, and the number of the one that holds all. -/
structure Document where
  nodes : Array Node
  root : Nat
  deriving Repr

namespace Document

/-! ## Reading tokens -/

/-- The tag handles of a document. -/
abbrev Handles := List (Text × Text)

/-- The handles that every document has unless its directives give them another meaning. -/
def defaultHandles : Handles := [(['!'], ['!']), (['!', '!'], Tag.space)]

/-- The tokens still to be read, the tag handles, and the anchors and nodes met so far. -/
structure Pending where
  tokens : List Token
  /-- Why no more tokens follow these. -/
  fault : Option Fault := none
  handles : Handles := defaultHandles
  anchors : List (Text × Nat) := []
  nodes : Array Node := #[]

/-- A reader of tokens. -/
abbrev Read := StateT Pending (Except Fault)

/-- A text that no YAML text can be. -/
def malformed {α : Type} : Read α := throw .malformed

/-- The next token. -/
def peek : Read Token := do
  let pending ← get
  match pending.tokens with
  | token :: _ => return token
  | [] => throw (pending.fault.getD .malformed)

/-- Go past the next token. -/
def next : Read Unit := modify fun pending => { pending with tokens := pending.tokens.drop 1 }

/-- Whether the next token is one of the given ones. -/
def sees (tokens : List Token) : Read Bool := return (← peek) ∈ tokens

/-! ## Nodes -/

/-- Add a node, and name it if there is an anchor. A name is given once. -/
def add (anchor : Option Text) (node : Node) : Read Nat := do
  let number ← modifyGet fun pending =>
    (pending.nodes.size, { pending with nodes := pending.nodes.push node })
  match anchor with
  | none => return number
  | some name =>
    if ((← get).anchors.lookup name).isSome then malformed
    modify fun pending => { pending with anchors := (name, number) :: pending.anchors }
    return number

/-- Add a collection whose content is read after it is named. -/
def collect (anchor : Option Text) (tag : Tag) (content : Read Content) : Read Nat := do
  let number ← add anchor ⟨tag, .sequence []⟩
  let content ← content
  modify fun pending =>
    { pending with nodes := pending.nodes.setIfInBounds number ⟨tag, content⟩ }
  return number

/-- The tag in front of a node, in full. -/
def fullTag : Option Text × Text → Read Text
  | (none, suffix) => return suffix
  | (some handle, suffix) => do
    match (← get).handles.lookup handle with
    | some start => return start ++ suffix
    | none => malformed

/-- The anchor at a place, if there is one. -/
def anchor? : Read (Option Text) := do
  match ← peek with
  | .anchor name =>
    next
    return some name
  | _ => return none

/-- The tag at a place, if there is one, by its handle and its suffix. -/
def tag? : Read (Option (Option Text × Text)) := do
  match ← peek with
  | .tag handle suffix =>
    next
    return some (handle, suffix)
  | _ => return none

/-- The anchor and the tag in front of a node, in either order. -/
def properties : Read (Option Text × Option Text) := do
  match ← anchor? with
  | some anchor =>
    let tag ← (← tag?).mapM fullTag
    return (some anchor, tag)
  | none =>
    match ← tag? with
    | none => return (none, none)
    | some tag =>
      let anchor ← anchor?
      return (anchor, some (← fullTag tag))

/-- The tag of a scalar. A single exclamation mark as a tag has the spelling decide, as it does for
    a plain scalar without a tag. -/
def scalarTag (tag : Option Text) (text : Points) (plain : Bool) : Tag :=
  match tag with
  | none => if plain then Tag.ofPoints text else .str
  | some name => if name = ['!'] then Tag.ofPoints text else Tag.ofFullName name

/-- The tag of a collection. -/
def collectionTag (tag : Option Text) (default : Tag) : Tag :=
  match tag with
  | none => default
  | some name => if name = ['!'] then default else Tag.ofFullName name

mutual

/-- The node that the next tokens spell. A block collection is read only where `block` allows it,
    and a sequence that is indented no further than its key only where `indentless` does. -/
def readNode : Nat → Bool → Bool → Read Nat
  | 0, _, _ => malformed
  | n + 1, block, indentless => do
    match ← peek with
    | .alias name =>
      next
      match (← get).anchors.lookup name with
      | some number => return number
      | none => malformed
    | _ =>
      let (anchor, tag) ← properties
      let token ← peek
      match token, block, indentless with
      | .scalar text plain, _, _ =>
        next
        add anchor ⟨scalarTag tag text plain, .scalar text⟩
      | .flowSequenceStart, _, _ =>
        next
        collect anchor (collectionTag tag .seq) (.sequence <$> readFlowItems n true)
      | .flowMappingStart, _, _ =>
        next
        collect anchor (collectionTag tag .map) (.mapping <$> readFlowEntries n true)
      | .blockEntry, _, true =>
        collect anchor (collectionTag tag .seq) (.sequence <$> readIndentless n)
      | .blockSequenceStart, true, _ =>
        next
        collect anchor (collectionTag tag .seq) (.sequence <$> readBlockItems n)
      | .blockMappingStart, true, _ =>
        next
        collect anchor (collectionTag tag .map) (.mapping <$> readBlockEntries n)
      | _, _, _ =>
        if anchor.isSome || tag.isSome then add anchor ⟨scalarTag tag [] true, .scalar []⟩
        else malformed

/-- The node that the next tokens spell, or an absent scalar in front of one of the given tokens. -/
def readOrAbsent : Nat → List Token → Bool → Bool → Read Nat
  | 0, _, _, _ => malformed
  | n + 1, stops, block, indentless => do
    if ← sees stops then add none Node.absent else readNode n block indentless

/-- The value of an entry, which is absent without a colon. -/
def readValue : Nat → List Token → Bool → Bool → Read Nat
  | 0, _, _, _ => malformed
  | n + 1, stops, block, indentless => do
    if ← sees [.value] then
      next
      readOrAbsent n stops block indentless
    else add none Node.absent

/-- The items of a block sequence. -/
def readBlockItems : Nat → Read (List Nat)
  | 0 => malformed
  | n + 1 => do
    match ← peek with
    | .blockEntry =>
      next
      let item ← readOrAbsent n [.blockEntry, .blockEnd] true false
      return item :: (← readBlockItems n)
    | .blockEnd =>
      next
      return []
    | _ => malformed

/-- The items of a sequence that is indented no further than its key. -/
def readIndentless : Nat → Read (List Nat)
  | 0 => malformed
  | n + 1 => do
    match ← peek with
    | .blockEntry =>
      next
      let item ← readOrAbsent n [.blockEntry, .key, .value, .blockEnd] true false
      return item :: (← readIndentless n)
    | _ => return []

/-- The entries of a block mapping. -/
def readBlockEntries : Nat → Read (List (Nat × Nat))
  | 0 => malformed
  | n + 1 => do
    match ← peek with
    | .key =>
      next
      let key ← readOrAbsent n [.key, .value, .blockEnd] true true
      let value ← readValue n [.key, .value, .blockEnd] true true
      return (key, value) :: (← readBlockEntries n)
    | .blockEnd =>
      next
      return []
    | _ => malformed

/-- The items of a flow sequence. An item that starts with a key is a mapping of one entry. -/
def readFlowItems : Nat → Bool → Read (List Nat)
  | 0, _ => malformed
  | n + 1, first => do
    if ← sees [.flowSequenceEnd] then
      next
      return []
    if !first then
      if ← sees [.flowEntry] then next else malformed
    match ← peek with
    | .flowSequenceEnd =>
      next
      return []
    | .key =>
      next
      let item ← collect none .map do
        let key ← readOrAbsent n [.value, .flowEntry, .flowSequenceEnd] false false
        let value ← readValue n [.flowEntry, .flowSequenceEnd] false false
        return .mapping [(key, value)]
      return item :: (← readFlowItems n false)
    | _ =>
      let item ← readNode n false false
      return item :: (← readFlowItems n false)

/-- The entries of a flow mapping. An entry without a colon has an absent value. -/
def readFlowEntries : Nat → Bool → Read (List (Nat × Nat))
  | 0, _ => malformed
  | n + 1, first => do
    if ← sees [.flowMappingEnd] then
      next
      return []
    if !first then
      if ← sees [.flowEntry] then next else malformed
    match ← peek with
    | .flowMappingEnd =>
      next
      return []
    | .key =>
      next
      let key ← readOrAbsent n [.value, .flowEntry, .flowMappingEnd] false false
      let value ← readValue n [.flowEntry, .flowMappingEnd] false false
      return (key, value) :: (← readFlowEntries n false)
    | _ =>
      let key ← readNode n false false
      let value ← add none Node.absent
      return (key, value) :: (← readFlowEntries n false)

end

/-! ## Documents -/

/-- The directives in front of a document, as its tag handles; there are `n` tokens at most. -/
def readDirectives : Nat → Bool → Handles → Read Handles
  | 0, _, _ => malformed
  | n + 1, versioned, handles => do
    match ← peek with
    | .directive (.version major _) =>
      next
      if versioned || major ≠ 1 then malformed else readDirectives n true handles
    | .directive (.tagHandle handle start) =>
      next
      if (handles.lookup handle).isSome then malformed
      else readDirectives n versioned ((handle, start) :: handles)
    | .directive .other =>
      next
      readDirectives n versioned handles
    | _ => return handles ++ defaultHandles

/-- Whether a token can follow the start of a document that holds nothing. -/
def endsDocument : Token → Bool
  | .directive _ | .documentStart | .documentEnd | .streamEnd => true
  | _ => false

/-- Go past the marks that end a document; there are `n` tokens at most. -/
def skipEnds : Nat → Read Unit
  | 0 => malformed
  | n + 1 => do
    if ← sees [.documentEnd] then
      next
      skipEnds n

/-- The start of a document, with the directives in front of it. -/
def readStart (n : Nat) : Read Unit := do
  let handles ← readDirectives n false []
  if ← sees [.documentStart] then
    next
    modify fun pending => { pending with handles }
  else malformed

/-- The root of the single document of a text, if the text has a document. -/
def readRoot (n : Nat) : Read (Option Nat) := do
  let token ← peek
  if token = .streamEnd then return none
  let root ←
    match token with
    | .directive _ | .documentStart =>
      readStart n
      if endsDocument (← peek) then add none Node.absent else readNode n true false
    | _ => readNode n true false
  skipEnds n
  if ← sees [.streamEnd] then return some root
  -- what follows has to start another document, but there is place for one only
  readStart n
  malformed

/-- The single document of a text; a text without a document has none. -/
def ofText? (text : Text) : Except Fault (Option Document) := do
  let (tokens, fault) := Token.ofText text
  let (root, pending) ← (readRoot (4 * tokens.length + 4)).run { tokens, fault }
  return root.map fun root => ⟨pending.nodes, root⟩

end Document

end ApiScan.Yaml
