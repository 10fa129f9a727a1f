import ApiScan.Json.Printer
import ApiScan.Text.Letter

set_option autoImplicit false

/-! # The project configuration

The answers collected for a project and saved next to its package file. Folder values are relative
to the project and may carry a leading slash. Reading a configuration is lenient about the letter
case of a choice, about an empty or absent choice, and about how a yes or no is spelled; it ignores
fields that it does not know, and it reports every field that is wrong, in the order of the
fields. -/

namespace ApiScan

/-- How requests are authorized. -/
inductive Authorization where
  | bearer
  | basic
  | none
  deriving DecidableEq, Repr, Inhabited

namespace Authorization

/-- The name of a choice. -/
def name : Authorization → Text
  | .bearer => "bearer".toList
  | .basic => "basic".toList
  | .none => "none".toList

/-- The choice of a name. -/
def ofName? (name : Text) : Option Authorization :=
  [Authorization.bearer, .basic, .none].find? fun choice => choice.name = name

end Authorization

/-- The library whose schemas are scanned. -/
inductive Database where
  | mongoose
  | prisma
  | drizzle
  | unknown
  deriving DecidableEq, Repr, Inhabited

namespace Database

/-- The name of a choice. -/
def name : Database → Text
  | .mongoose => "mongoose".toList
  | .prisma => "prisma".toList
  | .drizzle => "drizzle".toList
  | .unknown => "unknown".toList

/-- The choice of a name. -/
def ofName? (name : Text) : Option Database :=
  [Database.mongoose, .prisma, .drizzle, .unknown].find? fun choice => choice.name = name

end Database

/-- The configuration of a project. -/
structure Config where
  name : Points := []
  version : Points := "1.0.0".toList
  description : Points := []
  authorization : Authorization := .none
  baseurl : Points := "http://localhost:3000".toList
  main : Points := []
  database : Database := .unknown
  schema : Points := []
  routes : Points := "/routes".toList
  docs : Points := "/docs".toList
  gitignore : Bool := true
  deriving DecidableEq, Repr, Inhabited

namespace Config

/-! ## What can be wrong with a field -/

/-- What is wrong with the value of a field. -/
inductive Issue where
  /-- A text field holds no text. -/
  | notText
  /-- The text of a choice or of a yes or no holds half of a surrogate pair. -/
  | brokenText
  /-- A choice field holds none of its choices. -/
  | notAChoice
  /-- The value is of no kind that spells a yes or no. -/
  | notAYesNo
  /-- The value could spell a yes or no, but does not. -/
  | unknownYesNo
  /-- The whole configuration is not an object. -/
  | notAnObject
  deriving DecidableEq, Repr

/-- A field and what is wrong with its value. -/
abbrev FieldIssue := Text × Issue

/-! ## Reading one field -/

/-- A text field. -/
def readText (value : Json) : Except Issue Points :=
  match value with
  | .str text => .ok text
  | _ => .error .notText

/-- A choice field, by the lower case of its text; `null` and the empty text stand for `unset`. -/
def readChoice {α : Type} (unset : α) (ofName? : Text → Option α) (value : Json) :
    Except Issue α :=
  match value with
  | .null => .ok unset
  | .str [] => .ok unset
  | .str text =>
    match text.toText? with
    | none => .error .brokenText
    | some text =>
      match ofName? (Text.lower text) with
      | some choice => .ok choice
      | none => .error .notAChoice
  | _ => .error .notAChoice

/-- The spellings of yes. -/
def yesWords : List Text := ["1", "t", "y", "true", "yes", "on"].map String.toList

/-- The spellings of no. -/
def noWords : List Text := ["0", "f", "n", "false", "no", "off"].map String.toList

/-- The yes or no that a whole number stands for. -/
def yesNoOf (number : Int) : Except Issue Bool :=
  if number = 0 then .ok false else if number = 1 then .ok true else .error .unknownYesNo

/-- A yes-or-no field: a truth value, zero or one, or one of the spellings, whatever the case of its
    ASCII letters. A number counts only if it is whole and of 64 bits; a floating-point one has to
    be above the least of those. -/
def readYesNo (value : Json) : Except Issue Bool :=
  match value with
  | .bool value => .ok value
  | .int number =>
    if -0x8000000000000000 ≤ number ∧ number < 0x8000000000000000 then yesNoOf number else .error .notAYesNo
  | .float number =>
    match number.toInt? with
    | some number =>
      if -0x8000000000000000 < number ∧ number < 0x8000000000000000 then yesNoOf number else .error .notAYesNo
    | none => .error .notAYesNo
  | .str text =>
    match text.toText? with
    | none => .error .brokenText
    | some text =>
      let word := text.map Char.toLower
      if word ∈ yesWords then .ok true
      else if word ∈ noWords then .ok false
      else .error .unknownYesNo
  | _ => .error .notAYesNo

/-! ## Reading a configuration -/

/-- The value of a field under the first of its names that is present, read as the field wants it.
    An absent field takes its default value, which a wrong one keeps beside its issue. -/
def readField {α : Type} (names : List String) (unset : α) (read : Json → Except Issue α)
    (fields : Json.Fields) : α × List FieldIssue :=
  match names.findSome? fun name =>
      (Assoc.get? (Points.ofText name.toList) fields).map fun value => (name.toList, value) with
  | none => (unset, [])
  | some (name, value) =>
    match read value with
    | .ok value => (value, [])
    | .error issue => (unset, [(name, issue)])

/-- The configuration held by the fields of an object, or everything that is wrong with them. -/
def ofFields? (fields : Json.Fields) : Except (List FieldIssue) Config :=
  let unset : Config := {}
  let (name, issues₁) := readField ["name"] unset.name readText fields
  let (version, issues₂) := readField ["version"] unset.version readText fields
  let (description, issues₃) := readField ["description"] unset.description readText fields
  let (authorization, issues₄) := readField ["authorization"] unset.authorization
    (readChoice .none Authorization.ofName?) fields
  let (baseurl, issues₅) := readField ["baseurl"] unset.baseurl readText fields
  let (main, issues₆) := readField ["main"] unset.main readText fields
  let (database, issues₇) := readField ["database"] unset.database
    (readChoice .unknown Database.ofName?) fields
  let (schema, issues₈) := readField ["schema", "schema_path"] unset.schema readText fields
  let (routes, issues₉) := readField ["routes"] unset.routes readText fields
  let (docs, issues₁₀) := readField ["docs"] unset.docs readText fields
  let (gitignore, issues₁₁) := readField ["gitignore"] unset.gitignore readYesNo fields
  let issues := issues₁ ++ issues₂ ++ issues₃ ++ issues₄ ++ issues₅ ++ issues₆ ++ issues₇
    ++ issues₈ ++ issues₉ ++ issues₁₀ ++ issues₁₁
  if issues.isEmpty then
    .ok { name, version, description, authorization, baseurl, main, database, schema, routes,
          docs, gitignore }
  else .error issues

/-- The configuration held by a JSON value, or everything that is wrong with it. -/
def ofJson? : Json → Except (List FieldIssue) Config
  | .object fields => ofFields? fields
  | _ => .error [([], .notAnObject)]

/-! ## Writing a configuration -/

/-- A configuration as a JSON value. -/
def toJson (config : Config) : Json := .record [
  ("name", .str config.name),
  ("version", .str config.version),
  ("description", .str config.description),
  ("authorization", .str config.authorization.name),
  ("baseurl", .str config.baseurl),
  ("main", .str config.main),
  ("database", .str config.database.name),
  ("schema", .str config.schema),
  ("routes", .str config.routes),
  ("docs", .str config.docs),
  ("gitignore", .bool config.gitignore)]

/-- The text of a configuration file. -/
def text (config : Config) : Text := config.toJson.text

end Config

end ApiScan
