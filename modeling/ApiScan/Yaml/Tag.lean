import ApiScan.Text.Numeral

set_option autoImplicit false

/-! # Tags, and the tags of plain scalars

A tag says what kind of value a node stands for. A plain scalar without a tag has its kind told by
its spelling: the spellings of null, truth values, whole and floating-point numbers, dates and the
two special keys are fixed, and every other spelling is a text. -/

namespace ApiScan.Yaml

/-- The kind of value that a node stands for. -/
inductive Tag where
  | null
  | bool
  | int
  | float
  | binary
  | timestamp
  | str
  | seq
  | map
  | set
  | omap
  | pairs
  | merge
  | value
  /-- Any other kind; it has no values. -/
  | other
  deriving DecidableEq, Repr

namespace Tag

/-- The start of the full names of the tags. -/
def space : Text := "tag:yaml.org,2002:".toList

/-- The tags and their names. -/
def names : List (String × Tag) := [
  ("null", .null), ("bool", .bool), ("int", .int), ("float", .float), ("binary", .binary),
  ("timestamp", .timestamp), ("str", .str), ("seq", .seq), ("map", .map), ("set", .set),
  ("omap", .omap), ("pairs", .pairs), ("merge", .merge), ("value", .value)]

/-- The tag of a full name. -/
def ofFullName (name : Text) : Tag :=
  match Text.after? space name with
  | some rest => ((names.find? fun (short, _) => short.toList = rest).map Prod.snd).getD .other
  | none => .other

/-! ## Spellings -/

/-- Whether a text is a run of digits of a base and low lines, at least one character long. -/
def isDigitRun (base : Nat) (s : Text) : Bool :=
  !s.isEmpty && s.all fun c => c = '_' || Text.isDigitOf base c

/-- Whether a text is a part of a number in base sixty: one digit, or two below sixty. -/
def isSixtieth (s : Text) : Bool :=
  match s with
  | [a] => Text.isDigit a
  | [a, b] => Text.isDigit a && Text.isDigit b && a.toNat < 54
  | _ => false

/-- Whether a text is digits and low lines behind a digit. -/
def isWhole (s : Text) : Bool := s.head?.any Text.isDigit && isDigitRun 10 s

/-- Whether a text spells a whole number. -/
def isIntText (s : Text) : Bool :=
  match Text.unsigned s with
  | ['0'] => true
  | '0' :: 'b' :: rest => isDigitRun 2 rest
  | '0' :: 'x' :: rest => isDigitRun 16 rest
  | '0' :: rest => isDigitRun 8 rest
  | s =>
    match Text.pieces (· = ':') s with
    | whole :: parts => isWhole whole && parts.all isSixtieth
    | [] => false

/-- Whether a text is an exponent with a sign, or nothing. -/
def isPower (s : Text) : Bool :=
  match s with
  | [] => true
  | e :: sign :: digits =>
    (e = 'e' || e = 'E') && (sign = '-' || sign = '+') && !digits.isEmpty
      && digits.all Text.isDigit
  | _ => false

/-- Whether a text is digits and low lines, perhaps none, and an exponent, if there is one. -/
def isFraction (s : Text) : Bool :=
  isPower (s.dropWhile fun c => c = '_' || Text.isDigit c)

/-- The spellings of infinity without its sign. -/
def infinityWords : List Text := [".inf", ".Inf", ".INF"].map String.toList

/-- The spellings of what is not a number. -/
def nanWords : List Text := [".nan", ".NaN", ".NAN"].map String.toList

/-- Whether a text spells a floating-point number. -/
def isFloatText (s : Text) : Bool :=
  nanWords.contains s || infinityWords.contains (Text.unsigned s) ||
  match s with
  | '.' :: rest => rest.head?.any Text.isDigit && isFraction rest
  | _ =>
    let whole := (Text.unsigned s).takeWhile (· ≠ '.')
    match (Text.unsigned s).dropWhile (· ≠ '.') with
    | '.' :: rest =>
      match Text.pieces (· = ':') whole with
      | [whole] => isWhole whole && isFraction rest
      | whole :: parts =>
        isWhole whole && parts.all isSixtieth && rest.all fun c => c = '_' || Text.isDigit c
      | [] => false
    | _ => false

/-- The spellings of true. -/
def trueWords : List Text :=
  ["yes", "Yes", "YES", "true", "True", "TRUE", "on", "On", "ON"].map String.toList

/-- The spellings of false. -/
def falseWords : List Text :=
  ["no", "No", "NO", "false", "False", "FALSE", "off", "Off", "OFF"].map String.toList

/-- The spellings of null. -/
def nullWords : List Text := ["", "~", "null", "Null", "NULL"].map String.toList

/-! ## Dates and times -/

/-- One or two digits at the start of a text, as a number. -/
def oneOrTwo? (s : Text) : Option (Nat × Text) :=
  match s with
  | a :: rest =>
    if Text.isDigit a then
      match rest with
      | b :: more =>
        if Text.isDigit b then some (Text.toNat 10 [a, b], more) else some (Text.toNat 10 [a], rest)
      | [] => some (Text.toNat 10 [a], [])
    else none
  | [] => none

/-- Exactly two digits at the start of a text, as a number. -/
def two? (s : Text) : Option (Nat × Text) :=
  match s with
  | a :: b :: rest =>
    if Text.isDigit a && Text.isDigit b then some (Text.toNat 10 [a, b], rest) else none
  | _ => none

/-- The offset of a time zone from universal time, in minutes. -/
structure Offset where
  negative : Bool
  minutes : Nat
  deriving DecidableEq, Repr

/-- The parts of a date as they are written. -/
structure DateParts where
  year : Nat
  month : Nat
  day : Nat
  deriving DecidableEq, Repr

/-- The parts of a time of day as they are written: the fraction of a second in millionths, and the
    offset of the time zone if there is one. -/
structure TimeParts where
  hour : Nat
  minute : Nat
  second : Nat
  micro : Nat
  zone : Option Offset
  deriving DecidableEq, Repr

/-- The time zone that a text spells. -/
def zone? (s : Text) : Option (Option Offset) :=
  let blank (c : Char) : Bool := c = ' ' || c = '\t'
  match s.dropWhile blank with
  | [] => if s.isEmpty then some none else none
  | ['Z'] => some (some ⟨false, 0⟩)
  | sign :: rest =>
    if sign = '-' ∨ sign = '+' then do
      let (hours, rest) ← oneOrTwo? rest
      match rest with
      | [] => some (some ⟨sign = '-', hours * 60⟩)
      | ':' :: rest =>
        let (minutes, rest) ← two? rest
        if rest.isEmpty then some (some ⟨sign = '-', hours * 60 + minutes⟩) else none
      | _ => none
    else none

/-- The time of day that a text spells. -/
def time? (s : Text) : Option TimeParts := do
  let (hour, rest) ← oneOrTwo? s
  let rest ← Text.after? [':'] rest
  let (minute, rest) ← two? rest
  let rest ← Text.after? [':'] rest
  let (second, rest) ← two? rest
  let (micro, rest) :=
    match rest with
    | '.' :: rest =>
      let digits := rest.takeWhile Text.isDigit
      (Text.toNat 10 ((digits ++ List.replicate 6 '0').take 6), rest.dropWhile Text.isDigit)
    | _ => (0, rest)
  let zone ← zone? rest
  some ⟨hour, minute, second, micro, zone⟩

/-- The date, and the time of day if there is one, that a text spells. -/
def moment? (s : Text) : Option (DateParts × Option TimeParts) := do
  let year := s.take 4
  if year.length ≠ 4 || !year.all Text.isDigit then none
  let rest ← Text.after? ['-'] (s.drop 4)
  let (month, rest) ← oneOrTwo? rest
  let rest ← Text.after? ['-'] rest
  let (day, rest) ← oneOrTwo? rest
  let date : DateParts := ⟨Text.toNat 10 year, month, day⟩
  match rest with
  | [] => some (date, none)
  | c :: more =>
    if c = 'T' ∨ c = 't' then (time? more).map fun time => (date, some time)
    else if c = ' ' ∨ c = '\t' then
      (time? (more.dropWhile fun c => c = ' ' || c = '\t')).map fun time => (date, some time)
    else none

/-- A spelling without a line feed at its end, which does not count. -/
def withoutBreak (s : Text) : Text := if s.getLast? = some '\n' then s.dropLast else s

/-- The date and time that a scalar spells. -/
def timestamp? (s : Text) : Option (DateParts × Option TimeParts) := moment? (withoutBreak s)

/-- Whether a plain scalar spells a date or time. A date without a time has two digits each for the
    month and the day. -/
def isTimestampText (s : Text) : Bool :=
  match moment? s with
  | some (_, some _) => true
  | some (_, none) => s.length = 10
  | none => false

/-- The tag of a spelling without a line feed at its end. -/
def ofSpelling (s : Text) : Tag :=
  if nullWords.contains s then .null
  else if trueWords.contains s || falseWords.contains s then .bool
  else if isIntText s then .int
  else if isFloatText s then .float
  else if isTimestampText s then .timestamp
  else if s = ['<', '<'] then .merge
  else if s = ['='] then .value
  else if [['!'], ['&'], ['*']].contains s then .other
  else .str

/-- The tag of a plain scalar. A line feed alone is a text. -/
def ofPlain (s : Text) : Tag := if s = ['\n'] then .str else ofSpelling (withoutBreak s)

/-- The tag of a scalar whose spelling decides. -/
def ofPoints (s : Points) : Tag :=
  match s.toText? with
  | some s => ofPlain s
  | none => .str

end Tag

end ApiScan.Yaml
