import ApiScan.Assoc
import ApiScan.Log
import ApiScan.Path
import ApiScan.Route.Basic
import ApiScan.Source.Extension
import ApiScan.Text.Word

set_option autoImplicit false

/-! # File routes (Next.js)

A file under the folder of the API serves the path of its own name, for all five common methods,
when it exports a handler and ends a response:

    users/index.ts   -> tag users, /users/index
    users/[id].ts    -> tag users, /users/{id}
    hello.ts         -> tag hello, /hello

Files are grouped by their first segment. -/

namespace ApiScan.FileRoute

/-- A relative path with forward slashes and without leading `./`. -/
def normalize (path : Text) : Text :=
  Path.dropDotSlash (path.map fun c => if c = '\\' then '/' else c)

/-- The tag of a file: its first segment, without a source extension. -/
def tag (path : Text) : Text := Source.stripExtension ((normalize path).takeWhile (· ≠ '/'))

/-- The closing brackets of a dynamic segment: one, and a second one if it is there. -/
def afterClose? : Text → Option Text
  | ']' :: ']' :: rest => some rest
  | ']' :: rest => some rest
  | _ => none

/-- The rest of a dynamic segment behind its opening brackets, in the form of a document. -/
def dynamicName? (s : Text) : Option (Text × Text) :=
  let s := (Text.after? ['.', '.', '.'] s).getD s
  let name := s.takeWhile Text.isWord
  if name.isEmpty then none
  else (afterClose? (s.dropWhile Text.isWord)).map fun rest => ('{' :: name ++ ['}'], rest)

/-- The dynamic segment at the start of a path, such as `[id]`, `[...slug]` or `[[...slug]]`. -/
def dynamic? : Text → Option (Text × Text)
  | '[' :: '[' :: rest => dynamicName? rest
  | '[' :: rest => dynamicName? rest
  | _ => none

/-- The path that a file serves. -/
def path (file : Text) : Text :=
  '/' :: Text.replaceAll dynamic? (Source.stripExtension (normalize file))

/-- The marks of a file that exports a handler. -/
def exportMarks : List Text := ["export default", "module.exports"].map String.toList

/-- The marks of a file that ends a response. -/
def responseMarks : List Text :=
  [".json(", ".status(", ".send(", ".end(", ".redirect("].map String.toList

/-- Whether a file handles requests. -/
def isHandler (text : Text) : Bool :=
  exportMarks.any (Text.holds · text) && responseMarks.any (Text.holds · text)

/-- The methods of a file route, in order. -/
def methods : List Method := [.get, .post, .put, .patch, .delete]

/-- The entries of one file, under its tag; a file without a tag is told. -/
def entriesOf (lookup : Text → Option Text) (file : Text) : Findings (Text × List RouteEntry) :=
  if (tag file).isEmpty then .skipped .noRouteSegment
  else
    match lookup file with
    | none => ⟨[], []⟩
    | some text =>
      if isHandler text then ⟨[(tag file, methods.map fun method => ⟨method, path file⟩)], []⟩
      else ⟨[], []⟩

/-- The entries of all files under each tag, in the order of the first files. -/
def grouped (parts : List (Text × List RouteEntry)) : List (Text × List RouteEntry) :=
  parts.foldl (fun groups (tag, entries) =>
    Assoc.alter tag (fun old => old.getD [] ++ entries) groups) []

/-- A group for each tag. `lookup` supplies the text of a file. -/
def extract (files : List Text) (lookup : Text → Option Text) : Findings RouteGroup :=
  let parts := Findings.join (files.map (entriesOf lookup))
  ⟨(grouped parts.found).map fun (tag, entries) => ⟨tag, tag, [], entries⟩, parts.log⟩

end ApiScan.FileRoute
