import ApiScan.Yaml.Token
import ApiScan.Yaml.Token.Scalar

set_option autoImplicit false

/-! # From a YAML text to its tokens

A reader of tokens keeps the indentations of the open blocks, the depth of flow collections, and the
places where an implicit key may have started. Such a key is known for one only when its colon
comes, on the same line and at most 1024 characters later; its token is then put in front of the
tokens read since. Tokens are given out as soon as nothing can come in front of them any more, so a
fault further on is met only by who asks for the tokens behind it. -/

namespace ApiScan.Yaml

/-- A place where an implicit key may have started. -/
structure KeyStart where
  /-- How many tokens came before it. -/
  token : Nat
  /-- Whether the block structure leaves nothing else that it could be. -/
  required : Bool
  index : Nat
  line : Nat
  column : Nat
  deriving Repr

/-- The state of a reader of tokens. -/
structure Scan where
  place : Cursor
  /-- The tokens read so far, the last one first. -/
  tokens : List Token := []
  /-- How many they are. -/
  count : Nat := 0
  /-- The depth of flow collections. -/
  flow : Nat := 0
  /-- The column of the innermost block, and those of the blocks around it. -/
  indent : Int := -1
  outer : List Int := []
  /-- Whether an implicit key may start here. -/
  keyAllowed : Bool := true
  /-- The possible key at each depth of flow collections. -/
  keys : List (Nat × KeyStart) := []
  /-- Whether the end of the text is read. -/
  ended : Bool := false
  deriving Repr

namespace Scan

/-- Put a token behind those read so far. -/
def push (token : Token) (s : Scan) : Scan :=
  { s with tokens := token :: s.tokens, count := s.count + 1 }

/-- Put a token in front of those from the given number on. -/
def insertAt (number : Nat) (token : Token) (s : Scan) : Scan :=
  let since := s.count - number
  { s with tokens := s.tokens.take since ++ token :: s.tokens.drop since, count := s.count + 1 }

/-! ## Possible keys -/

/-- Give up possible keys that can no longer be one: those that started on an earlier line or too
    far back. -/
def dropStaleKeys (s : Scan) : Except Fault Scan :=
  let isStale (key : KeyStart) : Bool :=
    key.line ≠ s.place.line || 1024 < s.place.index - key.index
  if s.keys.any fun (_, key) => isStale key && key.required then .error .malformed
  else .ok { s with keys := s.keys.filter fun (_, key) => !isStale key }

/-- The possible key at the present depth. -/
def key? (s : Scan) : Option KeyStart := s.keys.lookup s.flow

/-- Give up the possible key at the present depth. -/
def dropKey (s : Scan) : Except Fault Scan :=
  if s.key?.any KeyStart.required then .error .malformed
  else .ok { s with keys := s.keys.filter fun (depth, _) => depth ≠ s.flow }

/-- Note that a key may start here. -/
def saveKey (s : Scan) : Except Fault Scan :=
  if s.keyAllowed then do
    let required := s.flow = 0 && s.indent = s.place.column
    let s ← s.dropKey
    let key : KeyStart :=
      ⟨s.count, required, s.place.index, s.place.line, s.place.column⟩
    return { s with keys := (s.flow, key) :: s.keys }
  else .ok s

/-! ## Indentation -/

/-- Close the blocks that are indented further than a column. -/
def closeBlocks (column : Int) : List Int → Scan → Scan
  | [], s => s
  | outer :: more, s =>
    if column < s.indent then
      closeBlocks column more { s.push .blockEnd with indent := outer, outer := more }
    else s

/-- Close the blocks that are indented further than a column, outside flow collections. -/
def unindent (column : Int) (s : Scan) : Scan :=
  if s.flow = 0 then closeBlocks column s.outer s else s

/-- Whether a column opens a new block. -/
def opensBlock (column : Nat) (s : Scan) : Bool := s.indent < column

/-- Open a block at a column. -/
def openBlock (column : Nat) (s : Scan) : Scan :=
  { s with indent := column, outer := s.indent :: s.outer }

/-! ## White space -/

/-- The place of the next token, behind blanks, comments and line breaks, from a place with the
    given text ahead, and whether a line was broken on the way to it. `comment` tells whether the
    place is in a comment, and `broke` whether a line was broken before it. -/
def nextPlace (comment broke : Bool) : Text → Cursor → Cursor × Bool
  | [], at_ => (at_, broke)
  | c :: cs, at_ =>
    if isBreak c then nextPlace false true cs at_.next
    else if comment || c = '#' then nextPlace true broke cs at_.next
    else if c = ' ' then nextPlace false broke cs at_.next
    else (at_, broke)

/-- Go to the next token. Outside flow collections a key may start on a new line. A byte order mark
    is passed over at the start of the text. -/
def toNextToken (s : Scan) : Scan :=
  let place := s.place
  let place := if place.index = 0 && place.peek = some '\uFEFF' then place.next else place
  let (place, broke) := nextPlace false false place.ahead place
  { s with place, keyAllowed := s.keyAllowed || (broke && s.flow = 0) }

/-! ## Tokens -/

/-- End the document that is open: no block and no possible key goes on. -/
def endDocument (s : Scan) : Except Fault Scan := do
  let s ← (s.unindent (-1)).dropKey
  return { s with keyAllowed := false }

/-- A mark between documents. -/
def documentMark (token : Token) (s : Scan) : Except Fault Scan := do
  let s ← s.endDocument
  return { s with place := s.place.skip 3 }.push token

/-- The start of a flow collection. -/
def flowStart (token : Token) (s : Scan) : Except Fault Scan := do
  let s ← s.saveKey
  return { s with place := s.place.next, flow := s.flow + 1, keyAllowed := true }.push token

/-- The end of a flow collection. -/
def flowEnd (token : Token) (s : Scan) : Except Fault Scan := do
  let s ← s.dropKey
  if s.flow = 0 then .error .malformed
  else return { s with place := s.place.next, flow := s.flow - 1, keyAllowed := false }.push token

/-- A comma in a flow collection. -/
def flowEntry (s : Scan) : Except Fault Scan := do
  let s ← { s with keyAllowed := true }.dropKey
  return { s with place := s.place.next }.push .flowEntry

/-- Open a block of a kind at the present column if that is further in than the innermost one. A
    token that starts a block stands where a key may start. -/
def startBlock (token : Token) (s : Scan) : Except Fault Scan :=
  if s.flow ≠ 0 then .ok s
  else if !s.keyAllowed then .error .malformed
  else if s.opensBlock s.place.column then .ok ((s.openBlock s.place.column).push token)
  else .ok s

/-- A dash in front of an entry of a block sequence. -/
def blockEntry (s : Scan) : Except Fault Scan := do
  let s ← s.startBlock .blockSequenceStart
  let s ← { s with keyAllowed := true }.dropKey
  return { s with place := s.place.next }.push .blockEntry

/-- A question mark in front of a key. -/
def explicitKey (s : Scan) : Except Fault Scan := do
  let s ← s.startBlock .blockMappingStart
  let s ← { s with keyAllowed := s.flow = 0 }.dropKey
  return { s with place := s.place.next }.push .key

/-- A colon in front of a value. If a key may have started before it, that was one. -/
def value (s : Scan) : Except Fault Scan := do
  let s ←
    match s.key? with
    | some key =>
      let s := { s with keys := s.keys.filter fun (depth, _) => depth ≠ s.flow }
      let s := s.insertAt key.token .key
      let s :=
        if s.flow = 0 && s.opensBlock key.column then
          (s.openBlock key.column).insertAt key.token .blockMappingStart
        else s
      .ok { s with keyAllowed := false }
    | none => do
      let s ← s.startBlock .blockMappingStart
      { s with keyAllowed := s.flow = 0 }.dropKey
  return { s with place := s.place.next }.push .value

/-- A token that belongs to a node and may start a key. -/
def nodePart (read : Cursor → Option (Token × Cursor)) (s : Scan) : Except Fault Scan := do
  let s ← s.saveKey
  match read s.place with
  | some (token, place) => return { s with place, keyAllowed := false }.push token
  | none => .error .malformed

/-- A block scalar. A key may start after it. -/
def blockScalar (fold : Bool) (s : Scan) : Except Fault Scan := do
  let s ← { s with keyAllowed := true }.dropKey
  let (text, place) ← Yaml.blockScalar fold s.indent s.place
  return { s with place }.push (.scalar text false)

/-- A quoted scalar. -/
def quotedScalar (double : Bool) (s : Scan) : Except Fault Scan := do
  let s ← s.saveKey
  let (text, place) ← Yaml.quotedScalar double s.place
  return { s with place, keyAllowed := false }.push (.scalar text false)

/-- A plain scalar. A key may start after it if it ended its line. -/
def plainScalar (s : Scan) : Except Fault Scan := do
  let s ← s.saveKey
  let (text, place, broke) := Yaml.plainScalar (s.flow ≠ 0) s.indent s.place
  return { s with place, keyAllowed := broke }.push (.scalar text true)

/-- Whether a plain scalar may start with a character, given the one after it. -/
def startsPlain (inFlow : Bool) (c : Char) (after : Option Char) : Bool :=
  !(isBreak c || c ∈ " \t-?:,[]\x7b\x7d#&*!|>'\"%@\x60".toList)
    || (!endsToken after && (c = '-' || (!inFlow && (c = '?' || c = ':'))))

/-- Read the token at the present place. -/
def readToken (c : Char) (s : Scan) : Except Fault Scan :=
  let after := s.place.peekAt 1
  let first := s.place.column = 0
  if c = '%' ∧ first then do
    let s ← s.endDocument
    let (value, place) ← directive s.place
    return { s with place }.push (.directive value)
  else if first ∧ s.place.atMark '-' then s.documentMark .documentStart
  else if first ∧ s.place.atMark '.' then s.documentMark .documentEnd
  else if c = '[' then s.flowStart .flowSequenceStart
  else if c = '\x7b' then s.flowStart .flowMappingStart
  else if c = ']' then s.flowEnd .flowSequenceEnd
  else if c = '\x7d' then s.flowEnd .flowMappingEnd
  else if c = ',' then s.flowEntry
  else if c = '-' ∧ endsToken after then s.blockEntry
  else if c = '?' ∧ (s.flow ≠ 0 ∨ endsToken after) then s.explicitKey
  else if c = ':' ∧ (s.flow ≠ 0 ∨ endsToken after) then s.value
  else if c = '*' then s.nodePart fun at_ =>
    (anchorName? at_.next).map fun (name, at_) => (.alias name, at_)
  else if c = '&' then s.nodePart fun at_ =>
    (anchorName? at_.next).map fun (name, at_) => (.anchor name, at_)
  else if c = '!' then s.nodePart fun at_ =>
    (tag? at_).map fun (handle, suffix, at_) => (.tag handle suffix, at_)
  else if c = '|' ∧ s.flow = 0 then s.blockScalar false
  else if c = '>' ∧ s.flow = 0 then s.blockScalar true
  else if c = '\'' then s.quotedScalar false
  else if c = '"' then s.quotedScalar true
  else if startsPlain (s.flow ≠ 0) c after then s.plainScalar
  else .error .malformed

/-- The end of the text. -/
def streamEnd (s : Scan) : Except Fault Scan := do
  let s ← (s.unindent (-1)).dropKey
  return { s.push .streamEnd with ended := true }

/-- Read the next token. -/
def step (s : Scan) : Except Fault Scan := do
  let s ← s.toNextToken.dropStaleKeys
  let s := s.unindent s.place.column
  match s.place.peek with
  | none => s.streamEnd
  | some c => s.readToken c

/-- The tokens that nothing can come in front of any more, in order. -/
def released (s : Scan) : List Token :=
  let held := s.keys.foldl (fun count (_, key) => min count key.token) s.count
  s.tokens.reverse.take held

/-- Read tokens up to the end of the text, or to a fault. Every token takes a character, so the
    length of the text bounds their number. -/
def toEnd : Nat → Scan → List Token × Option Fault
  | 0, _ => ([], some .malformed)
  | n + 1, s =>
    if s.ended then (s.tokens.reverse, none)
    else
      match s.dropStaleKeys with
      | .error fault => ([], some fault)
      | .ok s =>
        match s.step with
        | .error fault => (s.released, some fault)
        | .ok s => toEnd n s

end Scan

/-- The tokens of a YAML text, and why no more of them follow if the text is not read to its end. -/
def Token.ofText (text : Text) : List Token × Option Fault :=
  if text.all isPrintable then Scan.toEnd (text.length + 2) { place := ⟨text, 0, 0, 0⟩ }
  else ([], some .malformed)

end ApiScan.Yaml
