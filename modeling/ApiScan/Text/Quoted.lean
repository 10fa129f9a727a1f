import ApiScan.Text.CodePoint
import ApiScan.Text.Digits
import ApiScan.Text.Ranges
import ApiScan.Text.UnprintedTable

set_option autoImplicit false

/-! # Quoted texts

How a text is told in a message: between single quotes, or between double ones if it holds single
quotes only, with a backslash before the quote and before a backslash, and with an escape for each
code point that shows nothing of its own. -/

namespace ApiScan.Text

/-- The escape of a number by two, four or eight hexadecimal digits. -/
def numberEscape (n : Nat) : Text :=
  if n < 0x100 then '\\' :: 'x' :: hexDigits 2 n
  else if n < 0x10000 then '\\' :: 'u' :: hexDigits 4 n
  else '\\' :: 'U' :: hexDigits 8 n

/-- The form of a code point between quotes of a kind. -/
def quotedPoint (quote : Char) : CodePoint → Text
  | .half index => numberEscape (0xD800 + index)
  | .char c =>
    if c = '\\' || c = quote then ['\\', c]
    else if c = '\n' then ['\\', 'n']
    else if c = '\r' then ['\\', 'r']
    else if c = '\t' then ['\\', 't']
    else if inRanges c.toNat unprintedRanges then numberEscape c.toNat
    else [c]

/-- The quote of a text. -/
def quoteOf (s : Points) : Char :=
  if s.contains (.char '\'') && !s.contains (.char '"') then '"' else '\''

/-- A text in quotes. -/
def quoted (s : Points) : Text :=
  let quote := quoteOf s
  quote :: s.flatMap (quotedPoint quote) ++ [quote]

end ApiScan.Text
