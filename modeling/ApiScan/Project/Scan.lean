import ApiScan.DocComment
import ApiScan.Model.ColumnTable
import ApiScan.Model.DocumentSchema
import ApiScan.Model.SchemaFile
import ApiScan.Project.Sources
import ApiScan.Route.FileRoute
import ApiScan.Route.Router

set_option autoImplicit false

/-! # Scanning a project

The models, the routes and the documented paths of a project, from its source files and as its
configuration says where they are. -/

namespace ApiScan.Project

/-! ## Models -/

/-- How the models of a library are found in a file. -/
def modelsOf : Database → Option (Text → Text → Findings Model)
  | .mongoose => some DocumentSchema.extract
  | .prisma => some SchemaFile.extract
  | .drizzle => some ColumnTable.extract
  | .unknown => none

/-- The models of a file, if the file can be read. -/
def scanModelFile (extract : Text → Text → Findings Model) (path : Path) : Survey (List Model) := do
  match ← Survey.sourceText? path with
  | none => return []
  | some text =>
    let models ← Survey.findings (extract path.name text)
    if models.isEmpty then Survey.tell .noSchemaFound
    return models

/-- The models of a project. -/
def scanModels (root : Path) (config : Config) : Survey (List Model) := do
  match modelsOf config.database with
  | none =>
    Survey.tell .noDialect
    return []
  | some extract =>
    let files ← modelFiles root config.database config.schema.inPath
    return (← files.mapM (scanModelFile extract)).flatten

/-! ## Routes -/

/-- A value, or another one in the place of the empty one. -/
def orElse (value unset : Text) : Text := if value.isEmpty then unset else value

/-- The folder of file routes. -/
def routeRoot (root : Path) (config : Config) : Path :=
  root.under (orElse config.routes.inPath (defaultRoutes (some .nextjs)))

/-- The routes of a project. -/
def scanRoutes (root : Path) (config : Config) : Option Kind → Survey (List RouteGroup)
  | none => return []
  | some .nextjs => do
    let folder := routeRoot root config
    let files ← routeFilesBelow folder
    let tree ← Survey.tree
    Survey.findings (FileRoute.extract files fun file => tree.sourceText? (folder.join file))
  | some .express => do
    let mainFile := root.under (orElse config.main.inPath defaultMainFile)
    if !(← Survey.isFile mainFile) then Survey.fail (.noMainFile mainFile)
    let mainText := (← Survey.sourceText? mainFile).getD []
    let folder := root.under config.routes.inPath
    let files ← routerFiles root config.routes.inPath
    let tree ← Survey.tree
    Survey.findings
      (Router.extract mainText config.routes.inPath files fun file =>
        tree.sourceText? (folder.step file))

/-! ## Documented paths -/

/-- The files whose comments may document paths. -/
def documentedFiles (root : Path) (config : Config) : Option Kind → Survey (List Path)
  | none => return []
  | some .nextjs => do
    let folder := routeRoot root config
    return (← routeFilesBelow folder).map folder.join
  | some .express => do
    let folder := root.under config.routes.inPath
    return (← routerFiles root config.routes.inPath).map folder.step

/-- The paths that a file documents. -/
def scanDocFile (path : Path) : Survey DocComment.Entries := fun tree =>
  match Survey.sourceText? path tree with
  | (log, .error failure) => (log, .error failure)
  | (log, .ok text?) =>
    let text := text?.getD []
    if Text.holds DocComment.mark text then
      let (more, loaded) := DocComment.load text
      (log ++ more, loaded.mapError .badDocs)
    else (log, .ok [])

/-- The paths that comments of a project document. Of the files that document a path, the last one
    gives its item. -/
def scanDocs (root : Path) (config : Config) (kind : Option Kind) : Survey DocComment.Entries := do
  let files ← documentedFiles root config kind
  return (← files.mapM scanDocFile).foldl Assoc.update []

end ApiScan.Project
