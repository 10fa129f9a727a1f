import ApiScan.Text.Blank
import ApiScan.Text.CodePoint
import ApiScan.Text.Digits

set_option autoImplicit false

/-! # Numerals of all scripts

A number may be written with the decimal digits of any script and with white space around it. Both
are brought to ASCII first, and the number is read from there. -/

namespace ApiScan.Text

/-- The zeros of the decimal digits; the other nine digits of a script follow its zero. The data is
    that of Unicode 14. -/
def decimalZeros : List Nat := [
    0x30, 0x660, 0x6F0, 0x7C0, 0x966, 0x9E6, 0xA66, 0xAE6, 0xB66, 0xBE6, 0xC66, 0xCE6, 0xD66, 0xDE6,
    0xE50, 0xED0, 0xF20, 0x1040, 0x1090, 0x17E0, 0x1810, 0x1946, 0x19D0, 0x1A80, 0x1A90, 0x1B50,
    0x1BB0, 0x1C40, 0x1C50, 0xA620, 0xA8D0, 0xA900, 0xA9D0, 0xA9F0, 0xAA50, 0xABF0, 0xFF10, 0x104A0,
    0x10D30, 0x11066, 0x110F0, 0x11136, 0x111D0, 0x112F0, 0x11450, 0x114D0, 0x11650, 0x116C0,
    0x11730, 0x118E0, 0x11950, 0x11C50, 0x11D50, 0x11DA0, 0x16A60, 0x16AC0, 0x16B50, 0x1D7CE,
    0x1D7D8, 0x1D7E2, 0x1D7EC, 0x1D7F6, 0x1E140, 0x1E2F0, 0x1E950, 0x1FBF0]

/-- The value of a decimal digit of any script. -/
def decimalValue? (c : Char) : Option Nat :=
  (decimalZeros.find? fun first => first ≤ c.toNat && c.toNat < first + 10).map (c.toNat - ·)

/-- Whether a character is a decimal digit of any script. -/
def isDecimal (c : Char) : Bool := (decimalValue? c).isSome

/-- A character of a numeral in ASCII; what has no place in a numeral becomes a question mark. -/
def asciiNumeralChar (c : Char) : Char :=
  if c.toNat < 0x7F then c
  else if isBlank c then ' '
  else
    match decimalValue? c with
    | some value => hexDigit value
    | none => '?'

/-- A numeral in ASCII. -/
def asciiNumeral (s : Points) : Text := s.map fun c => asciiNumeralChar c.shown

/-- The white space that may stand around a numeral in ASCII. -/
def isNumeralSpace (c : Char) : Bool := c = ' ' || (9 ≤ c.toNat && c.toNat ≤ 13)

/-- A numeral in ASCII, without the white space around it. -/
def trimmedNumeral (s : Points) : Text :=
  dropEndWhile isNumeralSpace ((asciiNumeral s).dropWhile isNumeralSpace)

/-- A text without a sign in front. -/
def unsigned (s : Text) : Text :=
  match s with
  | '-' :: rest => rest
  | '+' :: rest => rest
  | _ => s

/-- Whether a text starts with a minus sign. -/
def isNegative (s : Text) : Bool := s.head? = some '-'

/-- The letter that may stand behind a zero in front of the digits of a base. -/
def baseLetter? : Nat → Option Char
  | 2 => some 'b'
  | 8 => some 'o'
  | 16 => some 'x'
  | _ => none

/-- The digits of a numeral without the mark of its base. -/
def withoutBase (base : Nat) (s : Text) : Text :=
  match s with
  | '0' :: letter :: rest => if baseLetter? base = some letter.toLower then rest else s
  | _ => s

/-- Why a text is no whole number. -/
inductive NumeralFault where
  | malformed
  /-- There are more decimal digits than are read. -/
  | tooLong (digits : Nat)
  deriving DecidableEq, Repr

/-- The wording of a number of digits beyond the limit. -/
def tooLongMessage (digits : Nat) : Text :=
  "Exceeds the limit (".toList ++ ofNat maxDigits
    ++ " digits) for integer string conversion: value has ".toList ++ ofNat digits
    ++ " digits; use sys.set_int_max_str_digits() to increase the limit".toList

/-- The whole number that a text spells in a base. Only decimal digits are limited in number; digits
    of the other bases make up whole bits. -/
def wholeNumber (base : Nat) (s : Points) : Except NumeralFault Int :=
  let trimmed := trimmedNumeral s
  let digits := withoutBase base (unsigned trimmed)
  let run := digits.takeWhile (isDigitOf base)
  if base = 10 && maxDigits < run.length then .error (.tooLong run.length)
  else if run.isEmpty || run.length < digits.length then .error .malformed
  else
    let size : Int := toNat base run
    .ok (if isNegative trimmed then -size else size)

end ApiScan.Text
