import ApiScan.Json.Printer
import ApiScan.Yaml.Style

set_option autoImplicit false

/-! # Writing YAML

The written form of a JSON document as a YAML text: block style throughout, two blanks of
indentation, sequences in a mapping indented no further than their key, empty collections as a pair
of brackets, and scalars folded at blanks once a line has passed eighty columns. The writer keeps a
pen: its column, and whether it stands behind white space or at the start of a line. -/

namespace ApiScan.Yaml

/-- The column after which a scalar is folded at its next blank. -/
def lineWidth : Nat := 80

/-- The state of a writer. -/
structure Pen where
  column : Nat := 0
  /-- Whether the pen stands behind white space or at the start of the text. -/
  spaced : Bool := true
  /-- Whether nothing but indentation and marks of block collections stands on the line. -/
  fresh : Bool := true
  /-- What is written so far, the last character first. -/
  written : Text := []

namespace Pen

/-- Write a text without line breaks. -/
def put (s : Text) (pen : Pen) : Pen :=
  { pen with column := pen.column + s.length, written := s.reverse ++ pen.written }

/-- Break the line by a character. -/
def breakLine (by_ : Char) (pen : Pen) : Pen :=
  { column := 0, spaced := true, fresh := true, written := by_ :: pen.written }

/-- Go to an indentation, on a new line unless the pen can still reach it on this one. -/
def indentTo (indent : Nat) (pen : Pen) : Pen :=
  let pen :=
    if !pen.fresh || indent < pen.column || (pen.column = indent && !pen.spaced) then
      pen.breakLine '\n'
    else pen
  if pen.column < indent then
    { pen.put (List.replicate (indent - pen.column) ' ') with spaced := true }
  else pen

/-- Write a mark, apart from what stands before it where `apart` says so. -/
def mark (s : Text) (apart : Bool) (pen : Pen) : Pen :=
  { pen.put (if pen.spaced || !apart then s else ' ' :: s) with spaced := false, fresh := false }

/-- Write the mark of an entry of a block collection, after which a block may start on the line. -/
def blockMark (c : Char) (pen : Pen) : Pen :=
  { pen.mark [c] true with fresh := pen.fresh }

/-- Go on behind a text. -/
def settle (pen : Pen) : Pen := { pen with spaced := false, fresh := false }

end Pen

/-! ## Scalars -/

/-- Whether the blank between two neighbours may give way to a line break: it stands alone, and the
    line is long enough. -/
def folds (split : Bool) (before after : Option Char) (pen : Pen) : Bool :=
  split && lineWidth < pen.column && before ≠ some ' ' && after ≠ some ' '

/-- The characters of a plain scalar. -/
def plainBody (indent : Nat) (split : Bool) (before : Option Char) : Text → Pen → Pen
  | [], pen => pen
  | c :: cs, pen =>
    let pen :=
      if c = ' ' && folds split before cs.head? pen then (pen.indentTo indent).settle
      else pen.put [c]
    plainBody indent split (some c) cs pen

/-- Write a text plain. -/
def putPlain (indent : Nat) (split : Bool) (s : Text) (pen : Pen) : Pen :=
  if s.isEmpty then pen
  else
    let pen := if pen.spaced then pen else pen.put [' ']
    plainBody indent split none s pen.settle

/-- The characters between single quotes. The first break of a group is written twice if it is a
    line feed, since one alone would read as a blank. -/
def singleBody (indent : Nat) (split : Bool) (before : Option Char) : Text → Pen → Pen
  | [], pen => pen
  | c :: cs, pen =>
    let pen :=
      if c = ' ' then
        if before.isSome && !cs.isEmpty && folds split before cs.head? pen then pen.indentTo indent
        else pen.put [c]
      else if Style.breaksLine c then
        let pen :=
          if c = '\n' && !before.any Style.breaksLine then pen.breakLine '\n' else pen
        let pen := pen.breakLine c
        if cs.head?.any Style.breaksLine then pen else pen.indentTo indent
      else if c = '\'' then pen.put ['\'', '\'']
      else pen.put [c]
    singleBody indent split (some c) cs pen

/-- Write a text in single quotes. -/
def putSingle (indent : Nat) (split : Bool) (s : Text) (pen : Pen) : Pen :=
  (singleBody indent split none s (pen.mark ['\''] true)).mark ['\''] false

/-- Whether a character stands for itself between double quotes. -/
def isLiteral (c : Char) : Bool :=
  let n := c.toNat
  c ≠ '"' && c ≠ '\\' && n ≠ 0x2028 && n ≠ 0x2029 && n ≠ 0xFEFF
    && ((0x20 ≤ n && n ≤ 0x7E) || (0xA0 ≤ n && n ≤ 0xFFFD))

/-- The escape of a character between double quotes. -/
def escape (c : Char) : Text :=
  let n := c.toNat
  match c with
  | '\x00' => ['\\', '0']
  | '\x07' => ['\\', 'a']
  | '\x08' => ['\\', 'b']
  | '\t' => ['\\', 't']
  | '\n' => ['\\', 'n']
  | '\x0b' => ['\\', 'v']
  | '\x0c' => ['\\', 'f']
  | '\r' => ['\\', 'r']
  | '\x1b' => ['\\', 'e']
  | '"' => ['\\', '"']
  | '\\' => ['\\', '\\']
  | '\x85' => ['\\', 'N']
  | '\u2028' => ['\\', 'L']
  | '\u2029' => ['\\', 'P']
  | _ =>
    if n ≤ 0xFF then '\\' :: 'x' :: Text.upperHexDigits 2 n
    else if n ≤ 0xFFFF then '\\' :: 'u' :: Text.upperHexDigits 4 n
    else '\\' :: 'U' :: Text.upperHexDigits 8 n

/-- The escape of a half of a surrogate pair. -/
def escapeHalf (index : Fin 2048) : Text := '\\' :: 'u' :: Text.upperHexDigits 4 (0xD800 + index)

/-- The literal form of a code point between double quotes, if it stands for itself, or else its
    escape. -/
def doubleForm : CodePoint → Text ⊕ Text
  | .char c => if isLiteral c then .inl [c] else .inr (escape c)
  | .half index => .inr (escapeHalf index)

/-- Break the line between double quotes. -/
def foldDouble (indent : Nat) (next : Option CodePoint) (pen : Pen) : Pen :=
  let pen := ((pen.put ['\\']).indentTo indent).settle
  if next = some (.char ' ') then pen.put ['\\'] else pen

/-- The characters between double quotes. A long line breaks at a blank, or next to an escape;
    `start` tells whether a new run of literal characters starts here. -/
def doubleBody (indent : Nat) (split first start : Bool) : Points → Pen → Pen
  | [], pen => pen
  | c :: cs, pen =>
    let inside := split && !first && !cs.isEmpty
    match doubleForm c with
    | .inl literal =>
      let pen :=
        if inside && (c = .char ' ' || start) && lineWidth < pen.column then
          foldDouble indent (some c) pen
        else pen
      doubleBody indent split false false cs (pen.put literal)
    | .inr escaped =>
      let pen := pen.put escaped
      let pen :=
        if inside && lineWidth + 1 < pen.column then foldDouble indent cs.head? pen else pen
      doubleBody indent split false true cs pen

/-- Write a text in double quotes. -/
def putDouble (indent : Nat) (split : Bool) (s : Points) (pen : Pen) : Pen :=
  (doubleBody indent split true true s (pen.mark ['"'] true)).mark ['"'] false

/-- Write a text in its style. -/
def putText (indent : Nat) (split : Bool) (s : Points) (pen : Pen) : Pen :=
  match Style.ofPoints s with
  | .plain => putPlain indent split s.shown pen
  | .single => putSingle indent split s.shown pen
  | .double => putDouble indent split s pen

/-- A floating-point number as it is written: always with a point. -/
def floatText : Binary64 → Text
  | .infinite false => ".inf".toList
  | .infinite true => "-.inf".toList
  | .nan => ".nan".toList
  | .finite negative mantissa exponent _ =>
    let s := Binary64.finiteText negative mantissa exponent
    if s.contains '.' then s else Text.replaceFirst ['e'] ['.', '0', 'e'] s

/-! ## Documents -/

/-- Where a value stands. -/
inductive Position where
  | root
  | item
  | field
  deriving DecidableEq, Repr

/-- The indentation inside a block that is nested in one of the given indentation. -/
def deeper : Option Nat → Nat
  | none => 0
  | some indent => indent + 2

/-- The indentation of the later lines of a scalar. -/
def scalarIndent (indent : Option Nat) : Nat := indent.getD 0 + 2

mutual

/-- Write a value that stands in a block of an indentation, or at the root. -/
def putNode (indent : Option Nat) (position : Position) : Json → Pen → Pen
  | .null, pen => putPlain (scalarIndent indent) true "null".toList pen
  | .bool true, pen => putPlain (scalarIndent indent) true "true".toList pen
  | .bool false, pen => putPlain (scalarIndent indent) true "false".toList pen
  | .int value, pen => putPlain (scalarIndent indent) true (Text.ofInt value) pen
  | .float value, pen => putPlain (scalarIndent indent) true (floatText value) pen
  | .str s, pen => putText (scalarIndent indent) true s pen
  | .list [], pen => pen.mark ['[', ']'] true
  | .list (item :: items), pen =>
    -- a sequence that is the value of a field is indented as the field is
    let inner := if position = .field && !pen.fresh then indent.getD 0 else deeper indent
    putItems inner (item :: items) pen
  | .object [], pen => pen.mark ['\x7b', '\x7d'] true
  | .object (field :: fields), pen => putFields (deeper indent) (field :: fields) pen

/-- Write the items of a sequence. -/
def putItems (indent : Nat) : List Json → Pen → Pen
  | [], pen => pen
  | item :: items, pen =>
    let pen := (pen.indentTo indent).blockMark '-'
    putItems indent items (putNode (some indent) .item item pen)

/-- Write the fields of a mapping. A name that is empty, goes over several lines or is too long gets
    a mark of its own. -/
def putFields (indent : Nat) : List (Points × Json) → Pen → Pen
  | [], pen => pen
  | (name, value) :: fields, pen =>
    let pen := pen.indentTo indent
    let pen :=
      if Style.isSimpleKey name then (putText (indent + 2) false name pen).mark [':'] false
      else
        let pen := putText (indent + 2) true name (pen.blockMark '?')
        (pen.indentTo indent).blockMark ':'
    putFields indent fields (putNode (some indent) .field value pen)

end

/-- Whether a document is a scalar that is written plain: such a document has to be ended. -/
def isPlainScalar : Json → Bool
  | .list _ | .object _ => false
  | .str s => Style.ofPoints s = .plain
  | _ => true

/-- The YAML text of a document. -/
def text (doc : Json) : Text :=
  let pen := (putNode none .root doc {}).indentTo 0
  pen.written.reverse ++ if isPlainScalar doc then "...\n".toList else []

end ApiScan.Yaml
