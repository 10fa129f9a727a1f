import ApiScan.Assoc
import ApiScan.Json.Printer
import ApiScan.Number.Binary64
import ApiScan.Text.Utf8
import ApiScan.Yaml.Tag

set_option autoImplicit false

/-! # Values of YAML documents

There are more kinds of values than JSON has: dates, times, bytes and sets have no JSON form, and a
mapping may have keys of any scalar kind. A collection may hold itself; a value writes that down as
a finite tree in which some places refer outward, to a collection around them. -/

namespace ApiScan.Yaml

/-- A value of a YAML document. -/
inductive Value where
  | null
  | bool (value : Bool)
  | int (value : Int)
  | float (value : Binary64)
  /-- What is written as not being a number. It is one and the same key wherever it stands, while a
      computed number that is none differs from every other key. -/
  | notANumber
  | str (text : Points)
  | date (date : Tag.DateParts)
  | dateTime (date : Tag.DateParts) (time : Tag.TimeParts)
  | bytes (content : Bytes)
  | list (items : List Value)
  | map (entries : List (Value × Value))
  | set (items : List Value)
  /-- The collection that is the given number of collections further out than the one right around
      this place. -/
  | outer (distance : Nat)
  deriving Repr, Inhabited

namespace Value

/-! ## Keys -/

/-- The whole number that a key equals: truth values count as zero and one, and a floating-point
    number equals the whole number of the same value. -/
def wholeKey? : Value → Option Int
  | .bool value => some (if value then 1 else 0)
  | .int value => some value
  | .float value => value.toInt?
  | _ => none

/-- Whether two values are the same key. -/
def sameKey (a b : Value) : Bool :=
  match wholeKey? a, wholeKey? b with
  | some m, some n => m = n
  | none, none =>
    match a, b with
    | .null, .null => true
    | .float x, .float y => x ≠ .nan && x = y
    | .notANumber, .notANumber => true
    | .str s, .str t => s = t
    | .date d, .date d' => d = d'
    | .dateTime d t, .dateTime d' t' => d = d' && t = t'
    | .bytes s, .bytes t => s = t
    | _, _ => false
  | _, _ => false

instance : BEq Value := ⟨sameKey⟩

/-! ## Entries -/

mutual

/-- A value with `whole` at the places that refer to the collection `depth` collections out. -/
def close (whole : Value) (depth : Nat) : Value → Value
  | .outer distance => if distance = depth then whole else .outer distance
  | .list items => .list (closeItems whole (depth + 1) items)
  | .map entries => .map (closeEntries whole (depth + 1) entries)
  | value => value

/-- The items of a list, closed. -/
def closeItems (whole : Value) (depth : Nat) : List Value → List Value
  | [] => []
  | item :: more => close whole depth item :: closeItems whole depth more

/-- The entries of a mapping, closed; keys are scalars. -/
def closeEntries (whole : Value) (depth : Nat) : List (Value × Value) → List (Value × Value)
  | [] => []
  | (key, value) :: more => (key, close whole depth value) :: closeEntries whole depth more

end

/-- The entries of a mapping, in which nothing refers outward any more if nothing in the mapping
    refers beyond it. -/
def entries? : Value → Option (List (Value × Value))
  | .map entries => some (closeEntries (.map entries) 0 entries)
  | _ => none

end Value

end ApiScan.Yaml

/-! ## JSON forms of YAML values

The JSON document that a YAML value stands for. Keys that are no texts stand for their written
forms. A value has no JSON form if it holds itself or anything that JSON lacks; what is met first,
in the order in which the document is written, is told. -/

namespace ApiScan.Yaml.Value

/-- Why a value has no JSON form. -/
inductive FormFault where
  /-- A value of a kind that JSON lacks. -/
  | value (kind : String)
  /-- A key of a kind that stands for no name. -/
  | key (kind : String)
  /-- A whole number has more digits than are written. -/
  | intTooLong
  | cyclic
  deriving DecidableEq, Repr

/-- The name of a kind of value that JSON lacks. -/
def foreignKind : Value → String
  | .date _ => "date"
  | .dateTime .. => "datetime"
  | .bytes _ => "bytes"
  | .set _ => "set"
  | _ => ""

/-- A whole number that can be written. -/
def written (n : Int) : Except FormFault Int :=
  if Text.maxDigits < (Text.ofNat n.natAbs).length then .error .intTooLong else .ok n

/-- The name of the field that a key stands for. -/
def fieldName : Value → Except FormFault Points
  | .str text => .ok text
  | .null => .ok "null".toList
  | .bool true => .ok "true".toList
  | .bool false => .ok "false".toList
  | .int value => (written value).map fun n => Text.ofInt n
  | .float value => .ok (Json.floatText value)
  | .notANumber => .ok (Json.floatText .nan)
  | key => .error (.key key.foreignKind)

mutual

/-- The JSON form of a value. -/
def toJson? : Value → Except FormFault Json
  | .null => .ok .null
  | .bool value => .ok (.bool value)
  | .int value => (written value).map .int
  | .float value => .ok (.float value)
  | .notANumber => .ok (.float .nan)
  | .str text => .ok (.str text)
  | .list items => (itemForms items).map .list
  | .map entries => (entryForms entries).map .object
  | .outer _ => .error .cyclic
  | .date d => .error (.value (foreignKind (.date d)))
  | .dateTime d t => .error (.value (foreignKind (.dateTime d t)))
  | .bytes content => .error (.value (foreignKind (.bytes content)))
  | .set items => .error (.value (foreignKind (.set items)))

/-- The JSON forms of the items of a list. -/
def itemForms : List Value → Except FormFault (List Json)
  | [] => .ok []
  | item :: more => do
    let item ← toJson? item
    return item :: (← itemForms more)

/-- The fields that the entries of a mapping stand for. Two keys may stand for one name; both
    fields are kept. -/
def entryForms : List (Value × Value) → Except FormFault Json.Fields
  | [] => .ok []
  | (key, value) :: more => do
    let name ← fieldName key
    let value ← toJson? value
    return (name, value) :: (← entryForms more)

end

end ApiScan.Yaml.Value
