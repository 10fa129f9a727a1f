import ApiScan.Config
import ApiScan.Project.Kind
import ApiScan.Survey

set_option autoImplicit false

/-! # Source files

Which files of a project hold its models and its routes. Folders are listed in the order of names;
a folder that has to be there and is not ends the listing. -/

namespace ApiScan.Project

/-- The extensions of files with column tables. -/
def tableExtensions : List Text := [".ts", ".js"].map String.toList

/-- The extension of schema files. -/
def schemaExtension : Text := ".prisma".toList

/-- Whether a file name is that of a schema file. -/
def isSchemaFile (name : Text) : Bool := Path.suffixOf name = schemaExtension

/-- A folder that has to be there. -/
def expectFolder (purpose : String) (folder : Path) : Survey Unit := do
  if ← Survey.isFolder folder then return () else Survey.fail (.noFolder purpose folder)

/-- The files right inside a folder that has to be there. -/
def filesOf (purpose : String) (folder : Path) (wanted : Text → Bool) : Survey (List Path) := do
  expectFolder purpose folder
  Survey.filesIn folder wanted

/-! ## Models -/

/-- The folder of generated migrations, whose schema files hold no models. -/
def migrationsFolder : Text := "migrations".toList

/-- The schema files that an entry of the schema folder stands for: the entry itself, or the files
    right inside it. -/
def schemaFilesAt (path : Path) : Survey (List Path) := do
  if isSchemaFile path.name && (← Survey.isFile path) then return [path]
  else if ← Survey.isFolder path then Survey.filesIn path isSchemaFile
  else return []

/-- The source files of the models, by the library and the schema value of the configuration. An
    empty value means that there are none. -/
def modelFiles (root : Path) (database : Database) (schema : Text) : Survey (List Path) := do
  if schema.isEmpty then return []
  match database with
  | .unknown => return []
  | .mongoose => filesOf "schema" (root.under schema) fun _ => true
  | .prisma =>
    if Text.endsWith schemaExtension schema then return [root.under schema]
    let folder := root.under schema
    expectFolder "schema" folder
    let entries := (← Survey.names folder).filter (· ≠ migrationsFolder)
    return (← (entries.map folder.step).mapM schemaFilesAt).flatten
  | .drizzle =>
    let inFolder (folder : Text) : Survey (List Path) :=
      filesOf "schema" (root.under folder) fun name => tableExtensions.contains (Path.suffixOf name)
    match Text.cut? ['*'] schema with
    | some (folder, _) => inFolder folder
    | none =>
      if tableExtensions.any (Text.endsWith · schema) then return [root.under schema]
      inFolder schema

/-! ## Routes -/

/-- The names of the router files of a project. -/
def routerFiles (root : Path) (routes : Text) : Survey (List Text) := do
  return (← filesOf "routes" (root.under routes) fun _ => true).map Path.name

/-- The files anywhere below the folder of file routes, by their paths from there. Files without an
    extension serve nothing. -/
def routeFilesBelow (folder : Path) : Survey (List Text) := do
  match ← Survey.ask Tree.folder? folder with
  | none => Survey.fail (.noFolder "routes" folder)
  | some place =>
    let files := (← Survey.tree).filesBelow place
    let served := files.filter fun steps => Path.suffixOf (steps.getLast?.getD []) ≠ []
    return Text.sort (served.map (Text.joinWith ['/']))

end ApiScan.Project
