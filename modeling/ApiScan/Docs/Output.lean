import ApiScan.Docs.Folder
import ApiScan.OpenApi.Document
import ApiScan.Yaml.Printer

set_option autoImplicit false

/-! # The files at the root of a project

From the docs folder the whole document is put together and written to the root of the project, as
JSON, as YAML, or as both. The docs folder and the configuration are kept out of version control by
an entry in the ignore file of the project, if it has one. -/

namespace ApiScan.Docs

/-! ## Forms of the document -/

/-- In which forms the document is written. -/
structure Forms where
  json : Bool := true
  yaml : Bool := true
  deriving DecidableEq, Repr

/-- The forms that were asked for; both if none was. -/
def Forms.asked (json yaml : Bool) : Forms := if json || yaml then ⟨json, yaml⟩ else ⟨true, true⟩

/-- The file of the document as JSON. -/
def jsonFile : Text := "swagger.json".toList

/-- The file of the document as YAML. -/
def yamlFile : Text := "swagger.yml".toList

/-- Write the document of a project in the given forms. -/
def writeOutput (root : Path) (config : Config) (docs : Path) (forms : Forms) :
    Work (List Path) := do
  let contents ← load docs
  let doc : Json := .object (OpenApi.document config contents.schemas contents.paths)
  if forms.json then Work.write (root.step jsonFile) doc.text
  if forms.yaml then Work.write (root.step yamlFile) (Yaml.text doc)
  return (if forms.json then [root.step jsonFile] else [])
    ++ (if forms.yaml then [root.step yamlFile] else [])

/-! ## The ignore file -/

/-- The ignore file of a project. -/
def ignoreFile : Text := ".gitignore".toList

/-- The entry of the docs folder in the ignore file. -/
def ignoreEntry (docs : Text) : Text := '/' :: (Path.under {} docs).text

/-- The lines that keep the docs folder and the configuration out of version control. -/
def ignoreLines (docs : Text) : Text :=
  "\n\n# Ignore Swagme Files\n".toList ++ ignoreEntry docs ++ ['\n'] ++ Failure.configFile ++ ['\n']

/-- Append the lines to the ignore file, unless both names stand somewhere in it; whether they were
    appended. A project without an ignore file is told. -/
def updateIgnore (root : Path) (docs : Text) : Work Bool := do
  let path := root.step ignoreFile
  match ← Survey.strictText path with
  | .error .notFound =>
    Survey.tell .noGitignore
    return false
  | .error fault => Survey.fail (.file fault path)
  | .ok content =>
    if Text.holds (ignoreEntry docs) content && Text.holds Failure.configFile content then
      return false
    Work.append path (ignoreLines docs)
    return true

end ApiScan.Docs
