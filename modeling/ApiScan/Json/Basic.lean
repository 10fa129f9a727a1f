import ApiScan.Assoc
import ApiScan.Number.Binary64
import ApiScan.Text.CodePoint

set_option autoImplicit false

/-! # JSON documents

A document is a tree of JSON values. Objects keep their fields in order, because the order is
visible in every text that is written; whole numbers and floating-point numbers are told apart. A
text may hold halves of surrogate pairs, because a quoted text can name them. -/

namespace ApiScan

/-- A JSON value. -/
inductive Json where
  | null
  | bool (value : Bool)
  | int (value : Int)
  | float (value : Binary64)
  | str (text : Points)
  | list (items : List Json)
  | object (fields : List (Points × Json))
  deriving Repr, BEq, Inhabited

namespace Json

/-- The fields of an object, in order. -/
abbrev Fields := List (Points × Json)

/-- A string value of fixed text. -/
def ofString (text : String) : Json := .str text.toList

/-- Fields of fixed names. -/
def named (fields : List (String × Json)) : Fields :=
  fields.map fun (name, value) => (Points.ofText name.toList, value)

/-- The object with the given fields of fixed names. -/
def record (fields : List (String × Json)) : Json := .object (named fields)

/-- The fields of an object; a value of another kind has none. -/
def fields : Json → Fields
  | .object fields => fields
  | _ => []

/-- Whether a value is an object. -/
def isObject : Json → Bool
  | .object _ => true
  | _ => false

/-- The value of a field of an object. -/
def field? (name : Text) (doc : Json) : Option Json := Assoc.get? (Points.ofText name) doc.fields

/-- The kinds of values. -/
inductive Kind where
  | null
  | bool
  | int
  | float
  | str
  | list
  | object
  deriving DecidableEq, Repr

/-- The kind of a value. -/
def kind : Json → Kind
  | .null => .null
  | .bool _ => .bool
  | .int _ => .int
  | .float _ => .float
  | .str _ => .str
  | .list _ => .list
  | .object _ => .object

/-- Whether a value counts as given: everything but `null`, `false`, zero, and the empty text, list
    and object. -/
def isGiven : Json → Bool
  | .null => false
  | .bool value => value
  | .int value => value != 0
  | .float value => !value.isZero
  | .str text => !text.isEmpty
  | .list items => !items.isEmpty
  | .object fields => !fields.isEmpty

end Json

end ApiScan
