import ApiScan.Json.Basic
import ApiScan.Number.Binary64

set_option autoImplicit false

/-! # Writing JSON

The written form of a document: two blanks of indentation per level, one item or field per line,
empty containers as a pair of brackets, and plain ASCII, every other character being escaped by its
UTF-16 code units in lower-case hexadecimal. -/

namespace ApiScan.Json

/-! ## Texts -/

/-- The escape of one UTF-16 code unit. -/
def unitEscape (unit : Nat) : Text := '\\' :: 'u' :: Text.hexDigits 4 unit

/-- The written form of one character inside a quoted text. -/
def quotedChar (c : Char) : Text :=
  match c with
  | '"' => ['\\', '"']
  | '\\' => ['\\', '\\']
  | '\n' => ['\\', 'n']
  | '\r' => ['\\', 'r']
  | '\t' => ['\\', 't']
  | '\x08' => ['\\', 'b']
  | '\x0c' => ['\\', 'f']
  | c =>
    let n := c.toNat
    if 0x20 ≤ n ∧ n < 0x7F then [c]
    else if n < 0x10000 then unitEscape n
    else
      let n := n - 0x10000
      unitEscape (0xD800 + n / 0x400) ++ unitEscape (0xDC00 + n % 0x400)

/-- The written form of one code point inside a quoted text. -/
def quotedPoint : CodePoint → Text
  | .char c => quotedChar c
  | .half index => unitEscape (0xD800 + index)

/-- A quoted text. -/
def quoted (s : Points) : Text := '"' :: s.flatMap quotedPoint ++ ['"']

/-! ## Documents -/

/-- The written form of a floating-point number. -/
def floatText : Binary64 → Text
  | .finite negative mantissa exponent _ => Binary64.finiteText negative mantissa exponent
  | .infinite false => "Infinity".toList
  | .infinite true => "-Infinity".toList
  | .nan => "NaN".toList

/-- A line break followed by the indentation of a level. -/
def lineStart (level : Nat) : Text := '\n' :: List.replicate (2 * level) ' '

mutual

/-- A value at a level of indentation, in front of `rest`; its first line is not indented. -/
def print (level : Nat) (rest : Text) : Json → Text
  | .null => "null".toList ++ rest
  | .bool true => "true".toList ++ rest
  | .bool false => "false".toList ++ rest
  | .int value => Text.ofInt value ++ rest
  | .float value => floatText value ++ rest
  | .str text => quoted text ++ rest
  | .list [] => '[' :: ']' :: rest
  | .list (item :: items) =>
    let close := lineStart level ++ ']' :: rest
    '[' :: lineStart (level + 1) ++ print (level + 1) (printItems (level + 1) close items) item
  | .object [] => '{' :: '}' :: rest
  | .object ((name, value) :: fields) =>
    let close := lineStart level ++ '}' :: rest
    '{' :: lineStart (level + 1) ++ quoted name ++ ": ".toList
      ++ print (level + 1) (printFields (level + 1) close fields) value

/-- The items of a list after its first, each behind a comma, in front of `rest`. -/
def printItems (level : Nat) (rest : Text) : List Json → Text
  | [] => rest
  | item :: items =>
    ',' :: lineStart level ++ print level (printItems level rest items) item

/-- The fields of an object after its first, each behind a comma, in front of `rest`. -/
def printFields (level : Nat) (rest : Text) : List (Points × Json) → Text
  | [] => rest
  | (name, value) :: fields =>
    ',' :: lineStart level ++ quoted name ++ ": ".toList
      ++ print level (printFields level rest fields) value

end

/-- The text of a document: its written form and a final line break. -/
def text (doc : Json) : Text := print 0 ['\n'] doc

end ApiScan.Json
