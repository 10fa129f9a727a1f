import ApiScan.Json.Basic
import ApiScan.Text.Digits

set_option autoImplicit false

/-! # Reading JSON

A reader for JSON texts. White space is the blank, the tab, the line feed and the carriage return;
control characters do not stand raw in quoted texts; `NaN`, `Infinity` and `-Infinity` are numbers;
a number with a fraction or an exponent is a floating-point number and any other is whole; of the
fields of one name in an object the last gives the value and the first the place. -/

namespace ApiScan.Json

/-- Why a text was not read. -/
inductive ReadFault where
  /-- The text is not a JSON text. -/
  | malformed
  /-- A whole number has more digits than the reader takes. -/
  | numberTooLong (digits : Nat)
  deriving DecidableEq, Repr

/-- Skip white space. -/
def skipSpace (s : Text) : Text :=
  s.dropWhile fun c => c = ' ' || c = '\t' || c = '\n' || c = '\r'

/-! ## Texts -/

/-- The code unit written by four hexadecimal digits at the start of a text. -/
def readUnit? : Text → Option (Nat × Text)
  | a :: b :: c :: d :: rest =>
    if [a, b, c, d].all (Text.isDigitOf 16) then some (Text.toNat 16 [a, b, c, d], rest) else none
  | _ => none

/-- The low half of a surrogate pair that is escaped at the start of a text. -/
def readLow? : Text → Option (Nat × Text)
  | '\\' :: 'u' :: rest => do
    let (low, rest) ← readUnit? rest
    if 0xDC00 ≤ low ∧ low < 0xE000 then return (low, rest) else none
  | _ => none

/-- The code point of a code unit and the unit that may follow it: a high half joins with a low one
    right after it, and any other half stands alone. -/
def readEscaped? (s : Text) : Option (CodePoint × Text) := do
  let (unit, rest) ← readUnit? s
  let paired := if 0xD800 ≤ unit ∧ unit < 0xDC00 then readLow? rest else none
  match paired with
  | some (low, rest) =>
    return (.char (Char.ofNat (0x10000 + (unit - 0xD800) * 0x400 + (low - 0xDC00))), rest)
  | none => return (← CodePoint.ofNat? unit, rest)

/-- The character named by the letter after a backslash. -/
def shortEscape? : Char → Option Char
  | '"' => some '"'
  | '\\' => some '\\'
  | '/' => some '/'
  | 'b' => some '\x08'
  | 'f' => some '\x0c'
  | 'n' => some '\n'
  | 'r' => some '\r'
  | 't' => some '\t'
  | _ => none

/-- The rest of a quoted text, up to and including its closing quote. -/
def readQuoted? : Nat → Text → Option (Points × Text)
  | 0, _ => none
  | _ + 1, [] => none
  | _ + 1, '"' :: rest => some ([], rest)
  | n + 1, '\\' :: 'u' :: rest => do
    let (c, rest) ← readEscaped? rest
    let (more, rest) ← readQuoted? n rest
    return (c :: more, rest)
  | n + 1, '\\' :: letter :: rest => do
    let c ← shortEscape? letter
    let (more, rest) ← readQuoted? n rest
    return (.char c :: more, rest)
  | n + 1, c :: rest =>
    if c = '\\' ∨ c.toNat < 0x20 then none
    else do
      let (more, rest) ← readQuoted? n rest
      return (.char c :: more, rest)

/-! ## Numbers -/

/-- The digits at the start of a text. -/
def digitRun (s : Text) : Text × Text := (s.takeWhile Text.isDigit, s.dropWhile Text.isDigit)

/-- The fraction digits at the start of a text, if it starts with a point and a digit. -/
def readFraction (s : Text) : Text × Text :=
  match s with
  | '.' :: rest => if (digitRun rest).1.isEmpty then ([], s) else digitRun rest
  | _ => ([], s)

/-- The exponent at the start of a text, if there is one. -/
def readPower? (s : Text) : Option (Int × Text) :=
  match s with
  | e :: rest =>
    if e = 'e' ∨ e = 'E' then
      let (negative, rest) :=
        match rest with
        | '-' :: rest => (true, rest)
        | '+' :: rest => (false, rest)
        | rest => (false, rest)
      let (digits, rest) := digitRun rest
      if digits.isEmpty then none
      else
        let size : Int := Text.toNat 10 digits
        some (if negative then -size else size, rest)
    else none
  | [] => none

/-- The magnitude at the start of a text: one zero, or digits that do not start with a zero. -/
def wholeDigits (s : Text) : Text × Text :=
  match s with
  | '0' :: rest => (['0'], rest)
  | _ => digitRun s

/-- The number at the start of a text, behind its sign. -/
def readMagnitude (negative : Bool) (s : Text) : Except ReadFault (Json × Text) :=
  let (whole, rest) := wholeDigits s
  if whole.isEmpty then .error .malformed
  else
    let (part, rest) := readFraction rest
    match readPower? rest with
    | some (power, rest) =>
      let digits := Text.toNat 10 (whole ++ part)
      .ok (.float (Binary64.ofDecimal negative digits (power - part.length)), rest)
    | none =>
      if part.isEmpty then
        if Text.maxDigits < whole.length then .error (.numberTooLong whole.length)
        else
          let size : Int := Text.toNat 10 whole
          .ok (.int (if negative then -size else size), rest)
      else
        let digits := Text.toNat 10 (whole ++ part)
        .ok (.float (Binary64.ofDecimal negative digits (-part.length)), rest)

/-- The number at the start of a text. -/
def readNumber (s : Text) : Except ReadFault (Json × Text) :=
  match s with
  | '-' :: rest => readMagnitude true rest
  | _ => readMagnitude false s

/-! ## Documents -/

/-- The words that stand for values. -/
def constants : List (Text × Json) := [
    ("null".toList, .null), ("true".toList, .bool true), ("false".toList, .bool false),
    ("NaN".toList, .float .nan), ("Infinity".toList, .float (.infinite false)),
    ("-Infinity".toList, .float (.infinite true))]

/-- The constant at the start of a text. -/
def readConstant? (s : Text) : Option (Json × Text) :=
  constants.findSome? fun (word, value) => (Text.after? word s).map fun rest => (value, rest)

mutual

/-- The value at the start of a text. -/
def readValue : Nat → Text → Except ReadFault (Json × Text)
  | 0, _ => .error .malformed
  | _ + 1, '"' :: rest =>
    match readQuoted? (rest.length + 1) rest with
    | some (s, rest) => .ok (.str s, rest)
    | none => .error .malformed
  | n + 1, '[' :: rest =>
    match skipSpace rest with
    | ']' :: rest => .ok (.list [], rest)
    | rest => do
      let (items, rest) ← readItems n rest
      return (.list items, rest)
  | n + 1, '{' :: rest =>
    match skipSpace rest with
    | '}' :: rest => .ok (.object [], rest)
    | rest => do
      let (fields, rest) ← readFields n rest
      return (.object (Assoc.ofPairs fields), rest)
  | _ + 1, s =>
    match readConstant? s with
    | some found => .ok found
    | none => readNumber s

/-- The items of a list, up to and including its closing bracket. -/
def readItems : Nat → Text → Except ReadFault (List Json × Text)
  | 0, _ => .error .malformed
  | n + 1, s => do
    let (item, rest) ← readValue n s
    match skipSpace rest with
    | ']' :: rest => return ([item], rest)
    | ',' :: rest =>
      let (items, rest) ← readItems n (skipSpace rest)
      return (item :: items, rest)
    | _ => throw .malformed

/-- The fields of an object, up to and including its closing brace. -/
def readFields : Nat → Text → Except ReadFault (List (Points × Json) × Text)
  | n + 1, '"' :: rest =>
    match readQuoted? (rest.length + 1) rest with
    | some (name, rest) =>
      match skipSpace rest with
      | ':' :: rest => do
        let (value, rest) ← readValue n (skipSpace rest)
        match skipSpace rest with
        | '}' :: rest => return ([(name, value)], rest)
        | ',' :: rest =>
          let (fields, rest) ← readFields n (skipSpace rest)
          return ((name, value) :: fields, rest)
        | _ => throw .malformed
      | _ => .error .malformed
    | none => .error .malformed
  | _, _ => .error .malformed

end

/-- The document that a text holds. Every step of the reader moves forward or enters a container, so
    twice the length of the text bounds their number. -/
def read (s : Text) : Except ReadFault Json := do
  let (doc, rest) ← readValue (2 * s.length + 2) (skipSpace s)
  if (skipSpace rest).isEmpty then return doc else throw .malformed

end ApiScan.Json
