import ApiScan.Log
import ApiScan.Model.Basic
import ApiScan.Source.Comment
import ApiScan.Source.Extension
import ApiScan.Text.Word

set_option autoImplicit false

/-! # Schema definition files (Prisma)

A schema file is a sequence of blocks, and each `model Name { … }` among them is one model. A field
line is exactly a name and a type; a line with attributes, or with any other number of words, gives
no field. -/

namespace ApiScan.SchemaFile

/-- What follows the head of a model at the start of a line: white space, the keyword, white space,
    and then, left in place, the name and an opening brace. -/
def afterModelKeyword? (s : Text) : Option Text := do
  let rest ← Text.after? "model".toList (Text.stripStart s)
  let name := Text.stripStart rest
  let afterName := name.dropWhile Text.isWord
  if name.length < rest.length ∧ afterName.length < name.length ∧
      (Text.stripStart afterName).head? = some '{' then some name
  else none

/-- The work of `chunks` with a bound on the number of steps; `fresh` tells whether the place is the
    start of a line. -/
def chunksWithin : Nat → Bool → Text → List Text
  | 0, _, s => [s]
  | _ + 1, _, [] => [[]]
  | n + 1, fresh, c :: cs =>
    match if fresh then afterModelKeyword? (c :: cs) else none with
    | some rest => [] :: chunksWithin n false rest
    | none =>
      match chunksWithin n (c = '\n') cs with
      | [] => [[c]]
      | chunk :: more => (c :: chunk) :: more

/-- A text cut at the heads of its models. What stands before the first head is the first chunk, and
    each other chunk starts with a model name. -/
def chunks (s : Text) : List Text := chunksWithin s.length true s

/-- The name and the field lines of a chunk. The name stands before the first brace that has one;
    the lines of that brace and of every closing brace are no field lines. -/
def parseLines (table : Text) : List Text → Text × List Field
  | [] => (table, [])
  | line :: more =>
    if table.isEmpty && line.contains '{' then
      parseLines (Text.strip (line.takeWhile (· ≠ '{'))) more
    else if line.contains '}' then parseLines table more
    else
      match Text.words line with
      | [name, type] =>
        let (table, fields) := parseLines table more
        (table, ⟨name, Field.lowerType type⟩ :: fields)
      | _ => parseLines table more

/-- The model of a chunk, if its name is a single word; other blocks are told by their names. -/
def parseChunk (source chunk : Text) : Findings Model :=
  let (table, fields) := parseLines [] (Text.lines chunk)
  if table.isEmpty then ⟨[], []⟩
  else if table.all Text.isWord then ⟨[⟨table, source, fields⟩], []⟩
  else .skipped .otherBlock

/-- The models of a file, in order. -/
def extract (file text : Text) : Findings Model :=
  let source := Source.stripExtension file
  let body := Text.strip (Source.stripComments text)
  .join (((chunks body).filter fun chunk => !Text.allBlank chunk).map (parseChunk source))

end ApiScan.SchemaFile
