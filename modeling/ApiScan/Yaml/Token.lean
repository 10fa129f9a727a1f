import ApiScan.Text.CodePoint
import ApiScan.Text.Utf8
import ApiScan.Yaml.Cursor
import ApiScan.Yaml.Fault

set_option autoImplicit false

/-! # YAML tokens

The tokens of a YAML text. Block structure, which a text shows by indentation, is spelled out in
tokens that open and close collections, and every implicit key is announced. -/

namespace ApiScan.Yaml

/-- A directive before a document. -/
inductive Directive where
  | version (major minor : Nat)
  | tagHandle (handle start : Text)
  | other
  deriving DecidableEq, Repr

/-- A token of a YAML text. -/
inductive Token where
  | directive (value : Directive)
  | documentStart
  | documentEnd
  | streamEnd
  | blockSequenceStart
  | blockMappingStart
  | blockEnd
  | flowSequenceStart
  | flowSequenceEnd
  | flowMappingStart
  | flowMappingEnd
  | blockEntry
  | flowEntry
  | key
  | value
  | alias (name : Text)
  | anchor (name : Text)
  | tag (handle : Option Text) (suffix : Text)
  | scalar (text : Points) (plain : Bool)
  deriving DecidableEq, Repr

end ApiScan.Yaml

/-! ## Anchors, tags and directives

The parts of a YAML text that are not content: the names of anchors and aliases, the tags of nodes,
and the directives in front of a document. -/

namespace ApiScan.Yaml

/-! ## Anchors -/

/-- The name of an anchor or alias, given the place after its sign. -/
def anchorName? (at_ : Cursor) : Option (Text × Cursor) :=
  let (name, at_) := at_.run isAnchorChar
  let ends := endsToken at_.peek || at_.peek.any fun c =>
    c ∈ ['?', ':', ',', ']', '\x7d', '%', '@', '\x60']
  if name.isEmpty || !ends then none else some (name, at_)

/-! ## Tags -/

/-- Whether a character can stand in a tag as it is. -/
def isTagChar (c : Char) : Bool :=
  Text.isAsciiLetter c || Text.isDigit c || c ∈ "-;/?:@&=+$,_.!~*'()[]".toList

/-- The bytes written as escapes from a place on. -/
def escapedBytes? : Nat → Cursor → Option (Bytes × Cursor)
  | 0, at_ => some ([], at_)
  | n + 1, at_ =>
    match at_.ahead with
    | '%' :: a :: b :: _ =>
      if [a, b].all (Text.isDigitOf 16) then do
        let (bytes, at_) ← escapedBytes? n (at_.skip 3)
        return (UInt8.ofNat (Text.toNat 16 [a, b]) :: bytes, at_)
      else none
    | '%' :: _ => none
    | _ => some ([], at_)

/-- The text of a tag from a place on, with its escapes resolved. -/
def tagTextFrom? : Nat → Cursor → Option (Text × Cursor)
  | 0, at_ => some ([], at_)
  | n + 1, at_ => do
    let (text, at_) := at_.run isTagChar
    if at_.peek = some '%' then
      let (bytes, at_) ← escapedBytes? (at_.ahead.length + 1) at_
      let escaped ← Text.ofBytes? bytes
      let (more, at_) ← tagTextFrom? n at_
      return (text ++ escaped ++ more, at_)
    else return (text, at_)

/-- The text of a tag at a place; it is not empty. -/
def tagText? (at_ : Cursor) : Option (Text × Cursor) :=
  if at_.peek.any fun c => isTagChar c || c = '%' then tagTextFrom? (at_.ahead.length + 1) at_
  else none

/-- The handle at a place: one exclamation mark, or a name between two. -/
def tagHandle? (at_ : Cursor) : Option (Text × Cursor) :=
  match at_.ahead with
  | '!' :: ' ' :: _ => some (['!'], at_.next)
  | '!' :: _ =>
    let (name, after) := at_.next.run isAnchorChar
    if after.peek = some '!' then some ('!' :: name ++ ['!'], after.next) else none
  | _ => none

/-- The tag at a place, by its handle, which a tag in angle brackets lacks, and its suffix. -/
def tag? (at_ : Cursor) : Option (Option Text × Text × Cursor) := do
  let (handle, suffix, at_) ←
    (if at_.peekAt 1 = some '<' then do
      let (suffix, at_) ← tagText? (at_.skip 2)
      if at_.peek = some '>' then some (none, suffix, at_.next) else none
    else if endsToken (at_.peekAt 1) then some (none, ['!'], at_.next)
    else
      let word := at_.next.ahead.takeWhile fun c => !endsWord (some c)
      if word.contains '!' then do
        let (handle, at_) ← tagHandle? at_
        let (suffix, at_) ← tagText? at_
        some (some handle, suffix, at_)
      else do
        let (suffix, at_) ← tagText? at_.next
        some (some ['!'], suffix, at_) : Option (Option Text × Text × Cursor))
  if endsWord at_.peek then some (handle, suffix, at_) else none

/-! ## Directives -/

/-- What was found at a place, which is malformed if nothing was. -/
def needed {α : Type} : Option α → Except Fault α
  | some found => .ok found
  | none => .error .malformed

/-- The number at a place. -/
def versionNumber (at_ : Cursor) : Except Fault (Nat × Cursor) :=
  let (digits, at_) := at_.run Text.isDigit
  if digits.isEmpty then .error .malformed
  else if Text.maxDigits < digits.length then .error (.intTooLong digits.length)
  else .ok (Text.toNat 10 digits, at_)

/-- The two numbers of a version, with a point between them, and nothing else. -/
def version (at_ : Cursor) : Except Fault (Directive × Cursor) := do
  let (major, at_) ← versionNumber at_
  if at_.peek ≠ some '.' then .error .malformed
  let (minor, at_) ← versionNumber at_.next
  if endsWord at_.peek then return (.version major minor, at_) else .error .malformed

/-- A tag handle and what it stands for. -/
def tagHandle (at_ : Cursor) : Except Fault (Directive × Cursor) := do
  let (handle, at_) ← needed (tagHandle? at_)
  if at_.peek ≠ some ' ' then .error .malformed
  let (start, at_) ← needed (tagText? at_.skipBlanks)
  if endsWord at_.peek then return (.tagHandle handle start, at_) else .error .malformed

/-- The directive whose sign stands at a place, up to the end of its line. -/
def directive (at_ : Cursor) : Except Fault (Directive × Cursor) := do
  let (name, at_) := at_.next.run isAnchorChar
  if name.isEmpty || !endsWord at_.peek then .error .malformed
  let (value, at_) ←
    if name = "YAML".toList then version at_.skipBlanks
    else if name = "TAG".toList then tagHandle at_.skipBlanks
    else pure (.other, at_.skipLine)
  return (value, ← needed at_.endLine?)

end ApiScan.Yaml
