import ApiScan.Text.Digits

set_option autoImplicit false

/-! # Binary64 numbers

Numbers of the 64-bit binary floating-point format, as exact values: a finite number is a sign, a
natural mantissa and a power of two, and every operation is exact arithmetic on naturals followed
by one rounding to nearest, ties to the even mantissa. Nothing here depends on machine floats, so
the functions can be evaluated and reasoned about. -/

namespace ApiScan

/-- Whether a mantissa and an exponent are those of a finite number: the mantissa is below `2 ^ 53`,
    and at least `2 ^ 52` unless the exponent is the least one. So each magnitude apart from zero
    has one form. -/
structure Canonical (mantissa : Nat) (exponent : Int) : Prop where
  mantissa_lt : mantissa < 0x20000000000000
  exponent_ge : -1074 ≤ exponent
  exponent_le : exponent ≤ 971
  normal_or_least : 0x10000000000000 ≤ mantissa ∨ exponent = -1074

instance (mantissa : Nat) (exponent : Int) : Decidable (Canonical mantissa exponent) :=
  decidable_of_iff
    (mantissa < 0x20000000000000 ∧ -1074 ≤ exponent ∧ exponent ≤ 971 ∧
      (0x10000000000000 ≤ mantissa ∨ exponent = -1074))
    ⟨fun ⟨h₁, h₂, h₃, h₄⟩ => ⟨h₁, h₂, h₃, h₄⟩, fun ⟨h₁, h₂, h₃, h₄⟩ => ⟨h₁, h₂, h₃, h₄⟩⟩

/-- A binary64 number. A finite one has the value `mantissa * 2 ^ exponent`. -/
inductive Binary64 where
  | finite (negative : Bool) (mantissa : Nat) (exponent : Int)
      (canonical : Canonical mantissa exponent)
  | infinite (negative : Bool)
  | nan
  deriving DecidableEq, Repr

namespace Binary64

/-- Ten to the power `n`. -/
def tenTo (n : Nat) : Nat := Nat.pow 10 n

/-- Positive or negative zero. -/
def zero (negative : Bool) : Binary64 := .finite negative 0 (-1074) (by decide)

/-- The natural number nearest to `num / den`, a half going to the even neighbour. -/
def nearest (num den : Nat) : Nat :=
  let q := num / den
  let r := num % den
  if den < 2 * r ∨ (2 * r = den ∧ q % 2 = 1) then q + 1 else q

/-- The exponent at which the fraction `num / den` has a mantissa of 53 bits before rounding. -/
def binaryExponent (num den : Nat) : Int :=
  let guess : Int := (num.log2 : Int) - den.log2 - 52
  -- the quotient has 53 or 54 bits at `guess - 1`, so one step decides the exponent
  if num <<< (-guess).toNat < den <<< (guess.toNat + 52) then guess - 1 else guess

/-- The binary64 number nearest to the positive or negative fraction `num / den`. -/
def ofFraction (negative : Bool) (num den : Nat) : Binary64 :=
  if num = 0 then zero negative
  else
    let exponent := max (binaryExponent num den) (-1074)
    let mantissa := nearest (num <<< (-exponent).toNat) (den <<< exponent.toNat)
    let (mantissa, exponent) :=
      if mantissa = 0x20000000000000 then (0x10000000000000, exponent + 1) else (mantissa, exponent)
    if canonical : Canonical mantissa exponent then .finite negative mantissa exponent canonical
    else .infinite negative

/-- The binary64 number nearest to `digits * 10 ^ power`. Powers far outside the range of the format
    are decided by the number of digits alone. -/
def ofDecimal (negative : Bool) (digits : Nat) (power : Int) : Binary64 :=
  let size : Int := (digits.log2 : Int) * 30103 / 100000 + power
  if digits = 0 then zero negative
  else if 400 < size then .infinite negative
  else if size < -400 then zero negative
  else ofFraction negative (digits * tenTo power.toNat) (tenTo (-power).toNat)

/-- The magnitude of a finite number as a fraction. -/
def fraction (mantissa : Nat) (exponent : Int) : Nat × Nat :=
  (mantissa <<< exponent.toNat, 1 <<< (-exponent).toNat)

/-- The number with the opposite sign. -/
def neg : Binary64 → Binary64
  | .finite negative m e canonical => .finite (!negative) m e canonical
  | .infinite negative => .infinite (!negative)
  | .nan => .nan

/-- A natural number with a sign. -/
def signed (negative : Bool) (n : Nat) : Int := if negative then -n else n

/-- The sum of two numbers. A sum of zero is negative only if both numbers are. -/
def add : Binary64 → Binary64 → Binary64
  | .nan, _ => .nan
  | _, .nan => .nan
  | .infinite negative, .infinite negative' =>
    if negative = negative' then .infinite negative else .nan
  | .infinite negative, .finite .. => .infinite negative
  | .finite .., .infinite negative => .infinite negative
  | .finite negative m e _, .finite negative' m' e' _ =>
    let (num, den) := fraction m e
    let (num', den') := fraction m' e'
    let sum := signed negative (num * den') + signed negative' (num' * den)
    if sum = 0 then zero (negative && negative')
    else ofFraction (sum < 0) sum.natAbs (den * den')

/-- The product of two numbers. -/
def mul : Binary64 → Binary64 → Binary64
  | .nan, _ => .nan
  | _, .nan => .nan
  | .infinite negative, .infinite negative' => .infinite (negative != negative')
  | .infinite negative, .finite negative' m _ _ =>
    if m = 0 then .nan else .infinite (negative != negative')
  | .finite negative m _ _, .infinite negative' =>
    if m = 0 then .nan else .infinite (negative != negative')
  | .finite negative m e _, .finite negative' m' e' _ =>
    let (num, den) := fraction m e
    let (num', den') := fraction m' e'
    ofFraction (negative != negative') (num * num') (den * den')

/-- Whether a number is a zero of either sign. -/
def isZero : Binary64 → Bool
  | .finite _ m _ _ => m == 0
  | _ => false

/-- The integer that a number equals, if it equals one. -/
def toInt? : Binary64 → Option Int
  | .finite negative m e _ =>
    let (num, den) := fraction m e
    if num % den = 0 then
      some (if negative then -Int.ofNat (num / den) else Int.ofNat (num / den))
    else none
  | _ => none

end Binary64

end ApiScan

/-! ## The shortest decimal that reads back

A binary64 number is written with the fewest significant digits that still round to it, and of the
decimals of that length with the one nearest to it, an exact tie going to the even digit. The reals
that round to a number form an interval around it, which includes its ends exactly when the mantissa
is even; on each decimal grid only the two neighbours of the number can be the nearest point. -/

namespace ApiScan.Binary64

/-- Whether `num / den` is at least ten to the power `k`. -/
def reaches (num den : Nat) (k : Int) : Bool :=
  decide (den * tenTo k.toNat ≤ num * tenTo (-k).toNat)

/-- The largest `k` for which the fraction reaches ten to the power `k`, found from its size in
    bits up to one and corrected. -/
def decimalExponent (num den : Nat) : Int :=
  let guess := ((num.log2 : Int) - den.log2) * 30103 / 100000
  if reaches num den (guess + 1) then guess + 1
  else if reaches num den guess then guess
  else guess - 1

/-- Whether `digits * 10 ^ power` rounds to the finite positive number with the given mantissa and
    exponent. Distances are compared on the scale of quarters of the last place. -/
def roundsTo (mantissa : Nat) (exponent : Int) (digits : Nat) (power : Int) : Bool :=
  let below := if mantissa = 0x10000000000000 ∧ -1074 < exponent then 1 else 2
  let low := 4 * mantissa - below
  let high := 4 * mantissa + 2
  let scale := exponent - 2
  -- both sides of `digits * 10 ^ power ? bound * 2 ^ scale` as naturals
  let left := (digits * tenTo power.toNat) <<< (-scale).toNat
  let right := tenTo (-power).toNat <<< scale.toNat
  if mantissa % 2 = 0 then low * right ≤ left ∧ left ≤ high * right
  else low * right < left ∧ left < high * right

/-- The best decimal of `count` significant digits, if one rounds to the number. -/
def atLength? (mantissa : Nat) (exponent : Int) (count : Nat) : Option (Nat × Int) :=
  let (num, den) := fraction mantissa exponent
  let power := decimalExponent num den - (count - 1 : Nat)
  let num := num * tenTo (-power).toNat
  let den := den * tenTo power.toNat
  let below := num / den
  let nearer := nearest num den
  let farther := if nearer = below then below + 1 else below
  if roundsTo mantissa exponent nearer power then some (nearer, power)
  else if roundsTo mantissa exponent farther power then some (farther, power)
  else none

/-- The decimals of `count`, `count + 1`, … digits, tried in turn. -/
def shortestFrom (mantissa : Nat) (exponent : Int) : Nat → Nat → Nat × Int
  | 0, count => (atLength? mantissa exponent count).getD (0, 0)
  | more + 1, count =>
    match atLength? mantissa exponent count with
    | some found => found
    | none => shortestFrom mantissa exponent more (count + 1)

/-- The significant digits of a finite positive number and the place of its decimal point: the
    number reads back from `0.` followed by the digits, times ten to the power of the place. -/
def shortestDigits (mantissa : Nat) (exponent : Int) : Text × Int :=
  let (digits, power) := shortestFrom mantissa exponent 16 1
  let text := Text.ofNat digits
  (Text.dropEndWhile (· = '0') text, text.length + power)

/-- A finite number in decimal notation: positional where the point falls at most sixteen digits
    right and three zeros left of the first digit, with an exponent of at least two digits
    otherwise. A positional whole number ends in `.0`. -/
def finiteText (negative : Bool) (mantissa : Nat) (exponent : Int) : Text :=
  let sign : Text := if negative then ['-'] else []
  if mantissa = 0 then sign ++ ['0', '.', '0']
  else
    let (digits, point) := shortestDigits mantissa exponent
    if -4 < point ∧ point ≤ 16 then
      if point ≤ 0 then sign ++ ['0', '.'] ++ List.replicate (-point).toNat '0' ++ digits
      else
        let whole := digits.take point.toNat
        let zeros := List.replicate (point.toNat - digits.length) '0'
        let part := digits.drop point.toNat
        sign ++ whole ++ zeros ++ ['.'] ++ (if part.isEmpty then ['0'] else part)
    else
      let part := if digits.length = 1 then [] else '.' :: digits.drop 1
      let power := point - 1
      let size := Text.ofNat power.natAbs
      let size := if size.length < 2 then '0' :: size else size
      sign ++ digits.take 1 ++ part ++ ['e', if power < 0 then '-' else '+'] ++ size

end ApiScan.Binary64
