import ApiScan.Log
import ApiScan.Model.Basic
import ApiScan.Source.Block
import ApiScan.Source.Comment
import ApiScan.Source.Extension
import ApiScan.Text.Word

set_option autoImplicit false

/-! # Document schemas (Mongoose)

A source file defines a document schema by a call that takes a block of fields and perhaps a block
of options, and registers it under a model name:

    const schema = new mongoose.Schema({
        name: { type: String, required: true },
        age: { type: Number },
    }, { timestamps: true });
    module.exports = mongoose.model('User', schema);

The file yields one model: the first such block, laid out with one top-level field per line, gives a
field for each line that has an explicit `type:`. Fields in shorthand and references to other
documents give none. Time stamps add two fields of their own. -/

namespace ApiScan.DocumentSchema

/-! ## The model name -/

/-- The first argument of a registration at the start of a text: everything between one character
    that is no word character and the next comma on the line. -/
def registration? (s : Text) : Option Text :=
  match Text.after? "model(".toList s with
  | some (c :: rest) =>
    if Text.isWord c then none
    else
      match rest.dropWhile fun c => c ≠ ',' && c ≠ '\n' with
      | ',' :: _ => some (rest.takeWhile fun c => c ≠ ',' && c ≠ '\n')
      | _ => none
  | _ => none

/-- The name under which a file registers its model, without quotes; empty if it registers none. -/
def modelName (s : Text) : Text :=
  match Text.find? registration? s with
  | some name => Text.strip (name.filter fun c => !Source.isQuote c)
  | none => []

/-! ## One field per line -/

/-- Break the line after each brace that closes a top-level group; `depth` groups are open. -/
def breakGroups (depth : Nat) : Text → Text
  | [] => []
  | c :: cs =>
    if c = '{' then c :: breakGroups (depth + 1) cs
    else if c = '}' ∧ depth = 1 then c :: '\n' :: breakGroups 0 cs
    else if c = '}' then c :: breakGroups (depth - 1) cs
    else c :: breakGroups depth cs

/-- A one-line block with every top-level field on a line of its own: the line breaks after the
    opening brace of the block and after each brace that closes a top-level group. -/
def reflow : Text → Text
  | '{' :: cs => '{' :: '\n' :: breakGroups 0 cs
  | s => breakGroups 0 s

/-- A block on one line and without comments. -/
def flatten (block : Text) : Text :=
  ((Source.stripComments block).filter (· ≠ '\r')).map fun c => if c = '\n' then ' ' else c

/-! ## Fields -/

/-- What follows the last occurrence of `mark`. -/
def afterLast? (mark : Text) : Text → Option Text
  | [] => Text.after? mark []
  | c :: cs =>
    match afterLast? mark cs with
    | some rest => some rest
    | none => Text.after? mark (c :: cs)

/-- Lines without what the first line that holds a document reference has up to its end. -/
def dropReferenceLine : List Text → List Text
  | [] => []
  | line :: more =>
    match afterLast? "ObjectId".toList line with
    | some rest => rest :: more
    | none => line :: dropReferenceLine more

/-- A text without the first document reference and everything before it on its line. -/
def dropReference (s : Text) : Text :=
  Text.joinWith ['\n'] (dropReferenceLine (Text.lines s))

/-- Whether a character can stand in a type token. -/
def isTypeChar (c : Char) : Bool := Text.isWord c || c = '.' || c = '$'

/-- The type token of an explicit `type:` at the start of a text. The token ends at a comma, white
    space, a closing brace or the end. -/
def typeToken? (before : Option Char) (s : Text) : Option Text := do
  let rest ← Text.after? "type".toList s
  if before.any Text.isWord then none
  match Text.stripStart rest with
  | ':' :: rest =>
    let rest := Text.stripStart rest
    let token := rest.takeWhile isTypeChar
    if token.isEmpty then none
    match rest.dropWhile isTypeChar with
    | [] => some token
    | c :: _ => if c = ',' || c = '}' || Text.isBlank c then some token else none
  | _ => none

/-- A text without the characters at its ends that are no word characters. -/
def trimToWord (s : Text) : Text :=
  Text.dropEndWhile (fun c => !Text.isWord c) (s.dropWhile fun c => !Text.isWord c)

/-- The field on one line of a laid out block, such as `name: { type: String }`. -/
def parseField? (line : Text) : Option Field := do
  let line := Text.strip (dropReference line)
  let line := Text.strip (line.dropWhile (· = ','))
  let token ← Text.first? typeToken? none line
  let name := trimToWord (line.takeWhile (· ≠ ':'))
  if name.isEmpty then none else some ⟨name, Field.lowerType token⟩

/-- The fields of a flattened block. -/
def fieldsOf (flat : Text) : List Field := (Text.lines (reflow flat)).filterMap parseField?

/-! ## Time stamps -/

/-- Whether the start of a text switches time stamps on. -/
def timestampsOn? (before : Option Char) (s : Text) : Option Unit := do
  let rest ← Text.after? "timestamp".toList s
  if before.any Text.isWord then none
  let rest := (Text.after? ['s'] rest).getD rest
  match Text.stripStart rest with
  | ':' :: rest =>
    let rest ← Text.after? "true".toList (Text.stripStart rest)
    if rest.head?.any Text.isWord then none else some ()
  | _ => none

/-- Whether a text switches time stamps on. -/
def enablesTimestamps (s : Text) : Bool := (Text.first? timestampsOn? none s).isSome

/-- The block of options, given the text after the block of fields. -/
def options? (rest : Text) : Option Text :=
  match Text.stripStart rest with
  | ',' :: more =>
    match Text.stripStart more with
    | '{' :: _ => Source.block? ['{'] rest
    | _ => none
  | _ => none

/-- The fields that time stamps add. -/
def timestampFields : List Field :=
  [⟨"createdAt".toList, "date".toList⟩, ⟨"updatedAt".toList, "date".toList⟩]

/-! ## Files -/

/-- The marks that open a schema definition. -/
def marks : List Text := [".Schema(".toList, "new Schema(".toList]

/-- The model of a file; a file yields at most one. -/
def extract (file text : Text) : Findings Model :=
  match Source.firstMark? marks text with
  | none => ⟨[], []⟩
  | some mark =>
    match Source.blockAfter? mark text with
    | none => .skipped .unbalancedSchema
    | some (block, rest) =>
      let table := modelName text
      if table.isEmpty then .skipped .noModelName
      else
        let flat := flatten block
        let stamped := enablesTimestamps flat ||
          (options? rest).any fun options => enablesTimestamps (Source.stripComments options)
        let fields := fieldsOf flat ++ if stamped then timestampFields else []
        ⟨[⟨table, Source.stripExtension file, fields⟩], []⟩

end ApiScan.DocumentSchema
