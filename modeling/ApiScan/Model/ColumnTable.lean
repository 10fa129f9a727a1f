import ApiScan.Log
import ApiScan.Model.Basic
import ApiScan.Source.Block
import ApiScan.Source.Comment
import ApiScan.Source.Extension
import ApiScan.Text.Word

set_option autoImplicit false

/-! # Column tables (Drizzle)

A source file defines a table by a call that takes its name and a block of columns:

    export const users = pgTable("users", {
        id: serial("id").primaryKey(),
        tags: text("tags").array(),
    });

The file yields one model, named by the first literal argument. The block is cut at every comma, so
a column whose own arguments hold commas leaves fragments behind; a fragment that does not start
with a name, a colon and a builder is passed over. -/

namespace ApiScan.ColumnTable

/-- The calls that define a table. -/
def marks : List Text := ["pgTable(", "mysqlTable(", "sqliteTable("].map String.toList

/-- The literal right after a mark at the start of a text, between two quotes of one kind. -/
def nameAfter? (mark s : Text) : Option Text := do
  let rest ← Text.after? mark s
  match Text.stripStart rest with
  | quote :: rest =>
    if Source.isQuote quote && (rest.dropWhile fun c => !Source.isQuote c).head? = some quote then
      some (rest.takeWhile fun c => !Source.isQuote c)
    else none
  | [] => none

/-- The table name: the literal after the first mark that is followed by one; empty without one. -/
def tableName (text mark : Text) : Text :=
  match Text.find? (nameAfter? mark) text with
  | some name => Text.strip name
  | none => []

/-- The fragments of a block between commas, without the braces around it. -/
def fragments (block : Text) : List Text :=
  let body := Text.strip (Source.stripComments block)
  let body := (Text.after? ['{'] body).getD body
  let body := if Text.endsWith ['}'] body then body.dropLast else body
  (Text.pieces (· = ',') body).filter fun fragment => !Text.allBlank fragment

/-- Whether the start of a text is a call that makes a column an array. -/
def arrayCall? (s : Text) : Option Unit := do
  let rest ← Text.after? ".array".toList s
  if (Text.stripStart rest).head? = some '(' then some () else none

/-- The column that a fragment defines. -/
def parseColumn? (fragment : Text) : Option Field :=
  let rest := Text.stripStart fragment
  let name := rest.takeWhile Text.isWord
  match Text.stripStart (rest.dropWhile Text.isWord) with
  | ':' :: rest =>
    let builder := (Text.stripStart rest).takeWhile Text.isWord
    if name.isEmpty || builder.isEmpty then none
    else
      let mark := if (Text.find? arrayCall? fragment).isSome then Field.arrayMark else []
      some ⟨name, Field.lowerType builder ++ mark⟩
  | _ => none

/-- The model of a file; a file yields at most one. -/
def extract (file text : Text) : Findings Model :=
  match Source.firstMark? marks text with
  | none => ⟨[], []⟩
  | some mark =>
    let table := tableName text mark
    if table.isEmpty then .skipped .noTableName
    else
      match Source.block? mark text with
      | none => .skipped .unbalancedTable
      | some block =>
        ⟨[⟨table, Source.stripExtension file, (fragments block).filterMap parseColumn?⟩], []⟩

end ApiScan.ColumnTable
