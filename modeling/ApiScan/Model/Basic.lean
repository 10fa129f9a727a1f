import ApiScan.Text.Blank
import ApiScan.Text.Letter

set_option autoImplicit false

/-! # Models

What a scan of the schema sources yields: a model for each table, with its fields in order. Field
types are kept as written, in lower case and trimmed; an array type carries a pair of brackets. -/

namespace ApiScan

/-- A field of a model. -/
structure Field where
  name : Text
  type : Text
  deriving DecidableEq, Repr, Inhabited

/-- A model found in a source file, which is named without its extension. -/
structure Model where
  table : Text
  source : Text
  fields : List Field := []
  deriving DecidableEq, Repr, Inhabited

namespace Field

/-- The form in which a type token of a source text is kept. -/
def lowerType (token : Text) : Text := Text.lower (Text.strip token)

/-- The mark at the end of an array type. -/
def arrayMark : Text := ['[', ']']

/-- Whether a field holds an array. -/
def isArray (field : Field) : Bool := Text.endsWith arrayMark field.type

end Field

end ApiScan
