import ApiScan.Text.Numeral
import ApiScan.Text.Quoted

set_option autoImplicit false

/-! # Faults of YAML texts

Everything that can keep a YAML text from having a value. Most of it makes the text malformed; what
is left are scalars that are well formed and of a known kind but stand for no value of that kind,
each for a reason of its own. -/

namespace ApiScan.Yaml

/-- A part of a date or time that the calendar or the clock does not have. -/
inductive TimeFault where
  | year
  | month
  | day
  | hour
  | minute
  | second
  /-- A time zone is a whole day or more away, by the given number of minutes. -/
  | zone (minutes : Int)
  deriving DecidableEq, Repr

/-- Why a YAML text has no value. -/
inductive Fault where
  /-- The text is not a YAML text, or a value in it is not of the kind that it says it is. -/
  | malformed
  /-- An escape names a number beyond all code points. -/
  | codeTooHigh
  /-- An escape names a number beyond 31 bits. -/
  | codeTooLong
  /-- A truth value is none of the words for one. -/
  | notABool (word : Points)
  /-- A number has no characters. -/
  | emptyNumber
  | notAnInt (base : Nat) (text : Points)
  /-- A whole number has more decimal digits than are read. -/
  | intTooLong (digits : Nat)
  | notAFloat (text : Points)
  /-- A place in base sixty counts for more than a floating-point number can be. -/
  | placeTooHigh
  /-- A date or time is not written as one. -/
  | notATime
  /-- A collection stands where a date or time is read. -/
  | timeOfCollection
  | badTime (fault : TimeFault)
  /-- The text of a mapping is that of its own entry, without end. -/
  | endlessText
  deriving DecidableEq, Repr

/-- The span of a number of minutes, in whole days and the seconds that remain. -/
def spanText (minutes : Int) : Text :=
  let seconds := 60 * minutes % 86400
  "datetime.timedelta(days=".toList ++ Text.ofInt (60 * minutes / 86400)
    ++ (if seconds = 0 then [] else ", seconds=".toList ++ Text.ofInt seconds) ++ [')']

/-- The wording of a fault of a date or time. -/
def TimeFault.message : TimeFault → Text
  | .year => "year 0 is out of range".toList
  | .month => "month must be in 1..12".toList
  | .day => "day is out of range for month".toList
  | .hour => "hour must be in 0..23".toList
  | .minute => "minute must be in 0..59".toList
  | .second => "second must be in 0..59".toList
  | .zone minutes =>
    "offset must be a timedelta strictly between -timedelta(hours=24) and ".toList
      ++ "timedelta(hours=24), not ".toList ++ spanText minutes ++ ['.']

namespace Fault

/-- The greatest length of a text that is told because it is no whole number, with its quotes. -/
def shownLength : Nat := 200

/-- The wording of a fault. -/
def message : Fault → Text
  | .malformed => "malformed".toList
  | .codeTooHigh => "chr() arg not in range(0x110000)".toList
  | .codeTooLong => "Python int too large to convert to C int".toList
  | .notABool word => Text.quoted word
  | .emptyNumber => "string index out of range".toList
  | .notAnInt base text =>
    "invalid literal for int() with base ".toList ++ Text.ofNat base ++ ": ".toList
      ++ (Text.quoted text).take shownLength
  | .intTooLong digits => Text.tooLongMessage digits
  | .notAFloat text => "could not convert string to float: ".toList ++ Text.quoted text
  | .placeTooHigh => "int too large to convert to float".toList
  | .notATime => "'NoneType' object has no attribute 'groupdict'".toList
  | .timeOfCollection => "expected string or bytes-like object, got 'list'".toList
  | .badTime fault => fault.message
  | .endlessText => "maximum recursion depth exceeded".toList

end Fault

end ApiScan.Yaml
