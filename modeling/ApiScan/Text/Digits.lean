import ApiScan.Text.Word

set_option autoImplicit false

/-! # Numerals

Reading and writing whole numbers in a base up to sixteen. -/

namespace ApiScan.Text

/-- The greatest number of decimal digits of a whole number that is read or written. -/
def maxDigits : Nat := 4300

/-- The decimal digits of a number. -/
def ofNat (n : Nat) : Text := Nat.toDigits 10 n

/-- The decimal form of an integer, with a minus sign where it is negative. -/
def ofInt : Int → Text
  | .ofNat n => ofNat n
  | .negSucc n => '-' :: ofNat (n + 1)

/-- The value of a hexadecimal digit of either case. -/
def digitValue? (c : Char) : Option Nat :=
  let n := c.toNat
  if 48 ≤ n && n ≤ 57 then some (n - 48)
  else if 97 ≤ n && n ≤ 102 then some (n - 87)
  else if 65 ≤ n && n ≤ 70 then some (n - 55)
  else none

/-- Whether a character is a digit of base `base`. -/
def isDigitOf (base : Nat) (c : Char) : Bool := (digitValue? c).any (· < base)

/-- The number written by a list of digits, most significant first. -/
def toNat (base : Nat) (digits : Text) : Nat :=
  digits.foldl (fun n c => n * base + (digitValue? c).getD 0) 0

/-- The lower-case hexadecimal digit of a value below sixteen. -/
def hexDigit (n : Nat) : Char := Nat.digitChar n

/-- The last `width` hexadecimal digits of a number, in lower case. -/
def hexDigits : Nat → Nat → Text
  | 0, _ => []
  | width + 1, n => hexDigits width (n / 16) ++ [hexDigit (n % 16)]

/-- The last `width` hexadecimal digits of a number, in upper case. -/
def upperHexDigits (width n : Nat) : Text := (hexDigits width n).map Char.toUpper

end ApiScan.Text
