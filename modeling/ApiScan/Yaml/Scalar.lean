import ApiScan.Text.Letter
import ApiScan.Text.Numeral
import ApiScan.Yaml.Fault
import ApiScan.Yaml.Value

set_option autoImplicit false

/-! # Values of scalars

What the text of a scalar stands for, given the kind of value that it has to be. -/

namespace ApiScan.Yaml

/-! ## Whole numbers -/

/-- A text without low lines, which only group digits. -/
def ungrouped (s : Points) : Points := s.filter (· ≠ .char '_')

/-- A text without a sign in front. -/
def withoutSign (s : Points) : Points :=
  match s with
  | .char '-' :: rest => rest
  | .char '+' :: rest => rest
  | _ => s

/-- Whether a text starts with a minus sign. -/
def hasMinus (s : Points) : Bool := s.head? = some (.char '-')

/-- The pieces of a text between colons; always at least one. -/
def colonPieces : Points → List Points
  | [] => [[]]
  | c :: cs =>
    if c = .char ':' then [] :: colonPieces cs
    else
      match colonPieces cs with
      | [] => [[c]]
      | piece :: more => (c :: piece) :: more

/-- The whole number that a text spells in a base. -/
def wholeNumber (base : Nat) (s : Points) : Except Fault Int :=
  (Text.wholeNumber base s).mapError fun fault =>
    match fault with
    | .malformed => .notAnInt base s
    | .tooLong digits => .intTooLong digits

/-- The value of digit groups in base sixty. -/
def sexagesimal (digits : List Int) : Int := digits.foldl (fun n digit => n * 60 + digit) 0

/-- The magnitude of the whole number of a scalar. A zero in front makes the number octal, and
    colons divide digits in base sixty. -/
def intSize (s : Points) : Except Fault Int :=
  match s with
  | [] => .error .emptyNumber
  | [.char '0'] => .ok 0
  | .char '0' :: .char 'b' :: rest => wholeNumber 2 rest
  | .char '0' :: .char 'x' :: rest => wholeNumber 16 rest
  | .char '0' :: _ => wholeNumber 8 s
  | _ =>
    if s.contains (.char ':') then
      ((colonPieces s).mapM (wholeNumber 10)).map sexagesimal
    else wholeNumber 10 s

/-- The whole number of a scalar. -/
def readInt (s : Points) : Except Fault Int := do
  let s := ungrouped s
  let size ← intSize (withoutSign s)
  return if hasMinus s then -size else size

/-! ## Floating-point numbers -/

/-- The magnitude of a decimal number: digits around a point, at least one of them, and an exponent
    if there is one. -/
def decimal? (s : Text) : Option Binary64 := do
  let whole := s.takeWhile Text.isDigit
  let rest := s.dropWhile Text.isDigit
  let (part, rest) :=
    match rest with
    | '.' :: rest => (rest.takeWhile Text.isDigit, rest.dropWhile Text.isDigit)
    | _ => ([], rest)
  if whole.isEmpty && part.isEmpty then none
  let power : Int ←
    match rest with
    | [] => some 0
    | e :: rest =>
      let digits := Text.unsigned rest
      if (e = 'e' || e = 'E') && !digits.isEmpty && digits.all Text.isDigit then
        let size : Int := Text.toNat 10 digits
        some (if Text.isNegative rest then -size else size)
      else none
  return Binary64.ofDecimal false (Text.toNat 10 (whole ++ part)) (power - part.length)

/-- The floating-point number that a text spells, with a sign perhaps and white space around it. -/
def floatNumber (s : Points) : Except Fault Binary64 :=
  let trimmed := Text.trimmedNumeral s
  let size := Text.unsigned trimmed
  let word := size.map Char.toLower
  let found :=
    if (["inf", "infinity"].map String.toList).contains word then some (.infinite false)
    else if word = "nan".toList then some .nan
    else decimal? size
  match found with
  | some x => .ok (if Text.isNegative trimmed then x.neg else x)
  | none => .error (.notAFloat s)

/-- The sum of digits in base sixty, the last one first, each step rounded. -/
def sexagesimalFloat : Nat → Binary64 → List Binary64 → Except Fault Binary64
  | _, sum, [] => .ok sum
  | base, sum, digit :: more =>
    match Binary64.ofFraction false base 1 with
    | .infinite _ => .error .placeTooHigh
    | place => sexagesimalFloat (base * 60) (sum.add (digit.mul place)) more

/-- The magnitude of the floating-point number of a scalar. -/
def floatSize (s : Points) : Except Fault Value :=
  if s = ".inf".toList then .ok (.float (.infinite false))
  else if s = ".nan".toList then .ok .notANumber
  else if s.contains (.char ':') then do
    let digits ← (colonPieces s).mapM floatNumber
    return .float (← sexagesimalFloat 1 (Binary64.zero false) digits.reverse)
  else (floatNumber s).map .float

/-- The floating-point number of a scalar, whatever the case of its letters. -/
def readFloat (s : Points) : Except Fault Value := do
  let s := Points.mapRuns Text.lower (ungrouped s)
  if s.isEmpty then throw .emptyNumber
  match ← floatSize (withoutSign s) with
  | .float size => return .float (if hasMinus s then size.neg else size)
  | value => return value

/-! ## Dates -/

/-- The number of days in a month. -/
def daysIn (year month : Nat) : Nat :=
  if month = 2 then
    if year % 4 = 0 ∧ (year % 100 ≠ 0 ∨ year % 400 = 0) then 29 else 28
  else if month ∈ [4, 6, 9, 11] then 30
  else 31

/-- A date has to exist in the calendar. -/
def checkDate (d : Tag.DateParts) : Except TimeFault Unit :=
  if d.year = 0 then .error .year
  else if d.month = 0 ∨ 12 < d.month then .error .month
  else if d.day = 0 ∨ daysIn d.year d.month < d.day then .error .day
  else .ok ()

/-- A time of day has to exist. -/
def checkTime (t : Tag.TimeParts) : Except TimeFault Unit :=
  if 23 < t.hour then .error .hour
  else if 59 < t.minute then .error .minute
  else if 59 < t.second then .error .second
  else .ok ()

/-- A time zone is less than a day off. -/
def checkZone (t : Tag.TimeParts) : Except TimeFault Unit :=
  match t.zone with
  | none => .ok ()
  | some offset =>
    if 24 * 60 ≤ offset.minutes then
      .error (.zone (if offset.negative then -offset.minutes else offset.minutes))
    else .ok ()

/-- The value of a date and of the time of day if there is one. -/
def timeValue (date : Tag.DateParts) : Option Tag.TimeParts → Except TimeFault Value
  | none => do
    checkDate date
    return .date date
  | some time => do
    checkZone time
    checkDate date
    checkTime time
    return .dateTime date time

/-- The date or time of a scalar. -/
def readTimestamp (s : Points) : Except Fault Value :=
  match s.toText?.bind Tag.timestamp? with
  | none => .error .notATime
  | some (date, time) => (timeValue date time).mapError .badTime

/-! ## Bytes -/

/-- The value of a digit of base sixty-four. -/
def sextet? (c : Char) : Option Nat :=
  let n := c.toNat
  if 65 ≤ n && n ≤ 90 then some (n - 65)
  else if 97 ≤ n && n ≤ 122 then some (n - 71)
  else if 48 ≤ n && n ≤ 57 then some (n + 4)
  else if c = '+' then some 62
  else if c = '/' then some 63
  else none

/-- The bytes of a text in base sixty-four. `count` digits of the present group of four are in
    `bits`, and `pads` equal signs have followed them; other characters are passed over, and a group
    filled up by equal signs ends the text. -/
def base64From? (count bits pads : Nat) : Text → Option Bytes
  | [] => if count = 0 then some [] else none
  | c :: cs =>
    if c = '=' then
      if 2 ≤ count ∧ 4 ≤ count + pads + 1 then some []
      else base64From? count bits (if 2 ≤ count then pads + 1 else pads) cs
    else
      match sextet? c with
      | none => base64From? count bits pads cs
      | some n =>
        match count with
        | 0 => base64From? 1 n 0 cs
        | 1 => (base64From? 2 (n % 16) 0 cs).map (UInt8.ofNat (bits * 4 + n / 16) :: ·)
        | 2 => (base64From? 3 (n % 4) 0 cs).map (UInt8.ofNat (bits * 16 + n / 4) :: ·)
        | _ => (base64From? 0 0 0 cs).map (UInt8.ofNat (bits * 64 + n) :: ·)

/-- The bytes of a scalar. -/
def readBytes (s : Points) : Except Fault Value :=
  match s.toText? with
  | none => .error .malformed
  | some text =>
    if text.all fun c => c.toNat < 0x80 then
      match base64From? 0 0 0 text with
      | some content => .ok (.bytes content)
      | none => .error .malformed
    else .error .malformed

/-! ## Truth values -/

/-- The truth value of a scalar. -/
def readBool (s : Points) : Except Fault Value :=
  let word := Points.mapRuns Text.lower s
  if word ∈ Tag.trueWords.map Points.ofText then .ok (.bool true)
  else if word ∈ Tag.falseWords.map Points.ofText then .ok (.bool false)
  else .error (.notABool word)

/-- The value of a scalar of a kind. -/
def readScalar (tag : Tag) (s : Points) : Except Fault Value :=
  match tag with
  | .null => .ok .null
  | .bool => readBool s
  | .int => (readInt s).map .int
  | .float => readFloat s
  | .binary => readBytes s
  | .timestamp => readTimestamp s
  | .str => .ok (.str s)
  | _ => .error .malformed

end ApiScan.Yaml
