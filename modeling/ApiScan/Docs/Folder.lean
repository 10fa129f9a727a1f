import ApiScan.Config
import ApiScan.OpenApi.Document
import ApiScan.Work
import ApiScan.Yaml.Value

set_option autoImplicit false

/-! # Writing the docs folder

The docs folder of a project holds a text that explains it, a folder of schema documents with one
file for each model file, and a folder of path documents with one file for each route group and one
for the paths that comments document. -/

namespace ApiScan.Docs

/-! ## Names -/

/-- The folder of the schema documents. -/
def schemasFolder (docs : Path) : Path := docs.step "schemas".toList

/-- The folder of the path documents. -/
def routesFolder (docs : Path) : Path := docs.step "routes".toList

/-- The extension of documents. -/
def extension : Text := ".json".toList

/-- The document of the paths that comments document. -/
def commentsFile : Text := "swagger-comments.json".toList

/-- The text that explains the folder. -/
def readme : Text := Text.joinWith ['\n'] <| [
  "# Swagme",
  "",
  "Generated by swagme.",
  "",
  "- `schemas/` holds one OpenAPI schema file per model file.",
  "- `routes/` holds one OpenAPI paths file per route file.",
  "",
  "Edit these files by hand and run `swagme build` (without `--scan`) to",
  "rebuild swagger.json / swagger.yml from them.",
  ""].map String.toList

/-! ## Writing -/

/-- Make the folders, unless they are there. -/
def create (docs : Path) : Work Unit :=
  [docs, schemasFolder docs, routesFolder docs].forM fun folder =>
    Work.makeFolders folder fun fault =>
      if fault = .nulInPath then .file fault folder else .docsNotMade docs

/-- Write the text that explains the folder. -/
def writeReadme (docs : Path) : Work Path := do
  let path := docs.step "README.md".toList
  Work.write path readme
  return path

/-- The schema documents of models, by the files of the models. -/
def schemasBySource (models : List Model) : List (Text × Json.Fields) :=
  models.foldl (fun docs model =>
    Assoc.alter model.source
      (fun doc => Assoc.update (doc.getD []) (OpenApi.schemaDocument model)) docs) []

/-- Write the schema documents of models. -/
def writeSchemas (docs : Path) (models : List Model) : Work (List Path) :=
  (schemasBySource models).mapM fun (source, doc) =>
    Work.writeDocument ((schemasFolder docs).join (source ++ extension)) (.object doc)

/-- Write the path documents of route groups. -/
def writeRoutes (docs : Path) (authorization : Authorization) (groups : List RouteGroup) :
    Work (List Path) :=
  groups.mapM fun group =>
    Work.writeDocument ((routesFolder docs).join (group.source ++ extension))
      (.object (OpenApi.pathsDocument group authorization))

/-- The JSON form of documented paths. -/
def commentsDocument (entries : List (Yaml.Value × Yaml.Value)) : Except Failure Json :=
  (Yaml.Value.map entries).toJson?.mapError .noJsonForm

/-- Write the document of the paths that comments document, if there are any. The folder is made
    before the JSON form of the paths is known. -/
def writeComments (docs : Path) (entries : List (Yaml.Value × Yaml.Value)) : Work (List Path) := do
  if entries.isEmpty then return []
  let path := (routesFolder docs).step commentsFile
  Work.makeFolders path.parent (.file · path.parent)
  match commentsDocument entries with
  | .error failure => Survey.fail failure
  | .ok doc =>
    Work.write path doc.text
    return [path]

end ApiScan.Docs

/-! ## Reading the docs folder

What the docs folder holds is collected from every document in it, whoever wrote it. Documents are
taken in the order of their names, except that the paths documented in comments come last, so that
they win over those that a scan found. A file that is no document is told and passed over. -/

namespace ApiScan.Docs

/-- The names of the documents in a folder, in the order in which they are taken. -/
def documentNames (names : List Text) : List Text :=
  let documents := names.filter (Text.endsWith extension)
  documents.filter (· ≠ commentsFile) ++ documents.filter (· = commentsFile)

/-- The fields of the document in a file, if there is one. -/
def loadDocument (path : Path) : Survey (List Json.Fields) := do
  match ← Survey.document path with
  | .ok (.object fields) => return [fields]
  | .ok _ => return []
  | .error _ =>
    Survey.tell .docsFileSkipped
    return []

/-- The documents of a folder, which may be missing. -/
def loadDocuments (folder : Path) : Survey (List Json.Fields) := do
  if !(← Survey.isFolder folder) then return []
  let names := documentNames (← Survey.names folder)
  return (← (names.map folder.step).mapM loadDocument).flatten

/-- What the docs folder holds. -/
structure Contents where
  schemas : Json.Fields := []
  paths : Json.Fields := []
  deriving BEq, Repr

/-- What the docs folder holds: of the schemas of one name the last one, and the merged paths. -/
def load (docs : Path) : Survey Contents := do
  let schemas ← loadDocuments (schemasFolder docs)
  let paths ← loadDocuments (routesFolder docs)
  return ⟨schemas.foldl Assoc.update [], paths.foldl OpenApi.mergePaths []⟩

end ApiScan.Docs
