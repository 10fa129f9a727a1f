import ApiScan.Text.CodePoint
import ApiScan.Yaml.Cursor
import ApiScan.Yaml.Tag

set_option autoImplicit false

/-! # How a scalar is written

A text is written plain where that reads back as the same text, in single quotes where it needs no
escapes, and in double quotes otherwise. The rules look at the characters of the text alone. -/

namespace ApiScan.Yaml

/-- The three ways in which a scalar is written. -/
inductive Style where
  | plain
  | single
  | double
  deriving DecidableEq, Repr

namespace Style

/-- Whether a character breaks a line in a written scalar. A carriage return does not: it is
    escaped. -/
def breaksLine (c : Char) : Bool := c = '\n' || c = '\x85' || c = '\u2028' || c = '\u2029'

/-- Whether a character has to be escaped wherever it stands. -/
def isSpecial (c : Char) : Bool :=
  let n := c.toNat
  !(n = 0x0A || (0x20 ≤ n && n ≤ 0x7E) || n = 0x85 || (0xA0 ≤ n && n ≤ 0xFFFD && n ≠ 0xFEFF)
    || (0x10000 ≤ n && n < 0x10FFFF))

/-- Whether two neighbouring characters of a text are related by `p`. -/
def hasPair (p : Char → Char → Bool) : Text → Bool
  | a :: b :: rest => p a b || hasPair p (b :: rest)
  | _ => false

/-- Whether a blank stands right before a break. -/
def blankBeforeBreak (s : Text) : Bool := hasPair (fun a b => a = ' ' && breaksLine b) s

/-- Whether a blank stands right after a break. -/
def blankAfterBreak (s : Text) : Bool := hasPair (fun a b => breaksLine a && b = ' ') s

/-- Whether a text goes over several lines. -/
def isMultiline (s : Text) : Bool := s.any breaksLine

/-- Whether a character that is not the first would end a plain scalar: a colon before white space
    or the end, or a hash after white space. -/
def hasInnerMark : Text → Bool
  | a :: b :: rest =>
    (b = ':' && endsToken rest.head?) || (b = '#' && endsToken (some a)) || hasInnerMark (b :: rest)
  | _ => false

/-- Whether the start of a text would not be read as a plain scalar. -/
def hasLeadingMark (s : Text) : Bool :=
  Text.startsWith ['-', '-', '-'] s || Text.startsWith ['.', '.', '.'] s ||
  match s with
  | [] => false
  | c :: rest =>
    c ∈ "#,[]\x7b\x7d&*!|>'\"%@\x60".toList
      || ((c = '?' || c = ':' || c = '-') && endsToken rest.head?)

/-- Whether a text starts or ends with a blank or a break. -/
def hasLooseEnds (s : Text) : Bool :=
  let loose (c : Char) : Bool := c = ' ' || breaksLine c
  s.head?.any loose || s.getLast?.any loose

/-- Whether a text may be written plain, apart from what its spelling stands for. -/
def allowsPlain (s : Text) : Bool :=
  !(hasLooseEnds s || isMultiline s || s.any isSpecial || hasLeadingMark s || hasInnerMark s)

/-- Whether a text may be written in single quotes. -/
def allowsSingle (s : Text) : Bool :=
  !(blankBeforeBreak s || blankAfterBreak s || s.any isSpecial)

/-- The style of a text. Plain is for texts that spell nothing else. -/
def ofText (s : Text) : Style :=
  if Tag.ofPlain s = .str && allowsPlain s then .plain
  else if allowsSingle s then .single
  else .double

/-- The style of a text that may hold halves of surrogate pairs, which are always escaped. -/
def ofPoints (s : Points) : Style :=
  match s.toText? with
  | some s => ofText s
  | none => .double

/-- The greatest length of a text that is written as a key without a mark of its own. The length of
    the tag of texts counts toward a limit of 128. -/
def maxKeyLength : Nat := 122

/-- Whether a text is written as a key without a mark of its own. -/
def isSimpleKey (s : Points) : Bool :=
  !s.isEmpty && !isMultiline s.shown && s.length ≤ maxKeyLength

end Style

end ApiScan.Yaml
