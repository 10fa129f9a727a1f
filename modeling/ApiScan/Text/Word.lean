import ApiScan.Text.Basic
import ApiScan.Text.Ranges
import ApiScan.Text.WordTable

set_option autoImplicit false

/-! # Word characters

Identifiers in source texts are runs of word characters. The ASCII part of the class is spelled
out, so that it is decided without the table. -/

namespace ApiScan.Text

/-- Whether a character is an ASCII digit. -/
def isDigit (c : Char) : Bool := 48 ≤ c.toNat && c.toNat ≤ 57

/-- Whether a character is an ASCII letter. -/
def isAsciiLetter (c : Char) : Bool :=
  (65 ≤ c.toNat && c.toNat ≤ 90) || (97 ≤ c.toNat && c.toNat ≤ 122)

/-- Whether a character is a letter, a digit or other number, or the low line. -/
def isWord (c : Char) : Bool :=
  if c.toNat < 0x80 then isAsciiLetter c || isDigit c || c = '_'
  else inRanges c.toNat wordRanges

/-- Whether a character can stand in an identifier that may also hold dollar signs. -/
def isNameChar (c : Char) : Bool := isWord c || c = '$'

end ApiScan.Text
