import ApiScan.Text.Basic
import ApiScan.Text.Ranges

set_option autoImplicit false

/-! # White space

White space is a property of characters in Unicode: the ASCII blanks and line breaks, the four
information separators, and the wider spaces and separators beyond ASCII. Trimming and splitting
into words both follow it. -/

namespace ApiScan.Text

/-- The white space characters beyond ASCII. -/
def wideBlankRanges : List (Nat × Nat) := [
    (0x85, 0x85), (0xA0, 0xA0), (0x1680, 0x1680), (0x2000, 0x200A), (0x2028, 0x2029),
    (0x202F, 0x202F), (0x205F, 0x205F), (0x3000, 0x3000)]

/-- Whether a character is white space. -/
def isBlank (c : Char) : Bool :=
  let n := c.toNat
  if n < 0x80 then (9 ≤ n && n ≤ 13) || (28 ≤ n && n ≤ 32) else inRanges n wideBlankRanges

/-- Whether a text holds nothing but white space. -/
def allBlank (s : Text) : Bool := s.all isBlank

/-- A text without its leading white space. -/
def stripStart (s : Text) : Text := s.dropWhile isBlank

/-- A text without its leading and trailing white space. -/
def strip (s : Text) : Text := dropEndWhile isBlank (stripStart s)

/-- The maximal runs of characters that are not white space. -/
def words (s : Text) : List Text := (pieces isBlank s).filter fun word => !word.isEmpty

end ApiScan.Text
