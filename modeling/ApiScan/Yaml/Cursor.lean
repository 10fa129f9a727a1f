import ApiScan.Text.Word

set_option autoImplicit false

/-! # Places in a YAML text

Block structure is told by columns, and an implicit key has to end on its line and within a limited
distance, so a reader keeps track of its place: the text still ahead, the number of characters
behind it, the line and the column. -/

namespace ApiScan.Yaml

/-! ## Character classes -/

/-- Whether a character breaks a line. -/
def isBreak (c : Char) : Bool :=
  c = '\n' || c = '\r' || c = '\x85' || c = '\u2028' || c = '\u2029'

/-- Whether a place is at the end of its line. -/
def endsLine (c : Option Char) : Bool := c.all isBreak

/-- Whether a place is at the end of its line or in front of a blank. -/
def endsWord (c : Option Char) : Bool := c.all fun c => c = ' ' || isBreak c

/-- Whether a place is at the end of its line or in front of a blank or a tab. -/
def endsToken (c : Option Char) : Bool := c.all fun c => c = ' ' || c = '\t' || isBreak c

/-- Whether a character can stand in the name of an anchor or in a tag handle. -/
def isAnchorChar (c : Char) : Bool :=
  Text.isAsciiLetter c || Text.isDigit c || c = '-' || c = '_'

/-- Whether a character may stand in a YAML text. -/
def isPrintable (c : Char) : Bool :=
  let n := c.toNat
  n = 0x09 || n = 0x0A || n = 0x0D || n = 0x85 || (0x20 ≤ n && n ≤ 0x7E)
    || (0xA0 ≤ n && n ≤ 0xFFFD) || 0x10000 ≤ n

/-! ## The cursor -/

/-- A place in a text. -/
structure Cursor where
  ahead : Text
  index : Nat := 0
  line : Nat := 0
  column : Nat := 0
  deriving Repr

namespace Cursor

/-- The next character. -/
def peek (at_ : Cursor) : Option Char := at_.ahead.head?

/-- The character `n` places ahead. -/
def peekAt (n : Nat) (at_ : Cursor) : Option Char := at_.ahead[n]?

/-- One character further. A carriage return before a line feed breaks no line of its own, and a
    byte order mark takes no column. -/
def next (at_ : Cursor) : Cursor :=
  match at_.ahead with
  | [] => at_
  | c :: rest =>
    if isBreak c && !(c = '\r' && rest.head? = some '\n') then
      ⟨rest, at_.index + 1, at_.line + 1, 0⟩
    else ⟨rest, at_.index + 1, at_.line, if c = '\uFEFF' then at_.column else at_.column + 1⟩

/-- A number of characters further. -/
def skip : Nat → Cursor → Cursor
  | 0, at_ => at_
  | n + 1, at_ => skip n at_.next

/-- The longest run of characters of a class, and the place after it. -/
def run (p : Char → Bool) (at_ : Cursor) : Text × Cursor :=
  let text := at_.ahead.takeWhile p
  (text, at_.skip text.length)

/-- The place after the longest run of characters of a class. -/
def skipRun (p : Char → Bool) (at_ : Cursor) : Cursor := (at_.run p).2

/-- The place after the blanks. -/
def skipBlanks (at_ : Cursor) : Cursor := at_.skipRun (· = ' ')

/-- The place after the rest of the line. -/
def skipLine (at_ : Cursor) : Cursor := at_.skipRun fun c => !isBreak c

/-- The line break at a place, as it counts in a scalar: the two Unicode separators stand for
    themselves and every other break is a line feed. -/
def lineBreak? (at_ : Cursor) : Option (Char × Cursor) :=
  match at_.ahead with
  | '\r' :: '\n' :: _ => some ('\n', at_.skip 2)
  | c :: _ =>
    if c = '\u2028' ∨ c = '\u2029' then some (c, at_.next)
    else if isBreak c then some ('\n', at_.next)
    else none
  | [] => none

/-- Whether a document mark stands at a place: three equal signs and the end of a token. -/
def atMark (sign : Char) (at_ : Cursor) : Bool :=
  at_.ahead.take 3 = [sign, sign, sign] && endsToken (at_.peekAt 3)

/-- Whether a mark between documents stands at a place. -/
def atSeparator (at_ : Cursor) : Bool := at_.atMark '-' || at_.atMark '.'

/-- The place after the blanks, the comment and the line break that end a line. -/
def endLine? (at_ : Cursor) : Option Cursor :=
  let at_ := at_.skipBlanks
  let at_ := if at_.peek = some '#' then at_.skipLine else at_
  if endsLine at_.peek then some ((at_.lineBreak?.map Prod.snd).getD at_) else none

end Cursor

end ApiScan.Yaml
