import ApiScan.Project.Kind
import ApiScan.Source.Comment
import ApiScan.Survey
import ApiScan.Text.Blank

set_option autoImplicit false

/-! # What a project shows of itself

The kind of a project, the library of its models, its main file and the folder of its schemas are
found from the files at its root and from its dependencies. -/

/-! ## The package file

A project describes itself in a package file: an object whose dependencies are an object, too, with
a field for each library that the project depends on. -/

namespace ApiScan.Project

/-- The name of the package file. -/
def packageFile : Text := "package.json".toList

/-- The field of the dependencies. -/
def dependenciesField : Text := "dependencies".toList

/-- The package file of a project. -/
def readPackage (root : Path) : Survey Json := do
  let path := root.step packageFile
  match ← Survey.document path with
  | .error (.unreadable .notFound) => Survey.fail (.noPackageFile root)
  | .error _ => Survey.fail (.unreadablePackage path)
  | .ok package =>
    match package.field? dependenciesField with
    | some (.object _) => return package
    | _ => Survey.fail .noDependencies

/-- Whether a project depends on a library, by its package file. Dependencies may also be listed as
    texts, or named in one text; a value of another kind cannot be searched. -/
def dependsOn? (package : Json) (library : Text) : Except Failure Bool :=
  match package.field? dependenciesField with
  | none => .ok false
  | some (.object fields) => .ok (Assoc.has (Points.ofText library) fields)
  | some (.list items) => .ok (items.any fun item =>
      match item with
      | .str name => name = Points.ofText library
      | _ => false)
  | some (.str names) => .ok (Text.holds library names.shown)
  | some value => .error (.notSearchable value.kind)

/-- Whether a project is known to depend on a library. -/
def dependsOn (package : Json) (library : Text) : Bool :=
  match dependsOn? package library with
  | .ok found => found
  | .error _ => false

end ApiScan.Project

namespace ApiScan.Project

/-- The extensions of scripts, the preferred one first. -/
def scriptExtensions : List Text := [".ts", ".js"].map String.toList

/-- Look up a library among the dependencies of a package file. -/
def lookUp (package : Json) (library : Text) : Survey Bool :=
  if !package.isObject then Survey.fail (.noFields package.kind)
  else
    match dependsOn? package library with
    | .ok found => return found
    | .error failure => Survey.fail failure

/-! ## Kind -/

/-- The files that mark a project whose files are its routes. -/
def fileRouteMarks : List Text :=
  ["next.config.mjs", "next.config.js", "next.config.ts"].map String.toList

/-- The kind of a project. A mark of file routes decides before the dependencies do. -/
def detectKind (root : Path) (package : Json) : Survey (Option Kind) := do
  match ← Survey.firstPresent? (fileRouteMarks.map root.step) with
  | some _ => return some .nextjs
  | none => return if ← lookUp package Kind.express.name then some .express else none

/-! ## Models -/

/-- The places where the configuration file of a library of models may be. -/
def ormConfigPaths (root : Path) (orm : Text) : List Path :=
  scriptExtensions.map fun ext => root.step (orm ++ ".config".toList ++ ext)

/-- The libraries of models that are known by a configuration file. -/
def configuredOrms : List Text := ["prisma", "drizzle"].map String.toList

/-- The first of some libraries that has a configuration file, or else the one that is known by the
    dependencies; the empty text if there is none. A package file may be left out. -/
def detectOrmAmong (root : Path) (package : Json) : List Text → Survey Text
  | [] => do
    let package := if package.isGiven then package else .object []
    return if ← lookUp package Database.mongoose.name then Database.mongoose.name else []
  | orm :: more => do
    match ← Survey.firstPresent? (ormConfigPaths root orm) with
    | some _ => return orm
    | none => detectOrmAmong root package more

/-- The library of the models of a project. -/
def detectOrm (root : Path) (package : Json) : Survey Text :=
  detectOrmAmong root package configuredOrms

/-- The value that a text assigns right after the word `schema`: what stands up to the first comma,
    on one line. -/
def schemaValue? (s : Text) : Option Text := do
  let rest := Text.stripStart (← Text.after? "schema".toList s)
  let rest := Text.stripStart ((Text.after? [':'] rest).getD rest)
  if (rest.dropWhile fun c => c ≠ ',' && c ≠ '\n').head? = some ',' then
    some (rest.takeWhile fun c => c ≠ ',' && c ≠ '\n')
  else none

/-- The folder or file of a schema value: without white space, quotes and leading `./`. -/
def schemaPlace (value : Text) : Text :=
  Path.dropDotSlash
    (Text.dropEndWhile Source.isQuote ((Text.strip value).dropWhile Source.isQuote))

/-- The folder or file of the schemas that the configuration of a library of models names. -/
def detectSchemas (root : Path) (orm : Text) : Survey Text := do
  let text? ←
    match ← Survey.firstPresent? (ormConfigPaths root orm) with
    | some path => Survey.sourceText? path
    | none => pure none
  match text? with
  | none =>
    Survey.tell .ormConfigUnreadable
    return defaultSchemas
  | some text =>
    match (Text.find? schemaValue? text).map schemaPlace with
    | none | some [] => return defaultSchemas
    | some place => return place

/-! ## Main file -/

/-- The mark of a call that mounts something. -/
def mountMark : Text := ".use(".toList

/-- The first of some scripts that mounts something. -/
def detectMainAmong : List Path → Survey Text
  | [] => return defaultMainFile
  | path :: more => do
    if Text.holds mountMark ((← Survey.sourceText? path).getD []) then
      Survey.tell .mainFileFound
      return '/' :: path.name
    else detectMainAmong more

/-- Whether a file name is that of a script. -/
def isScript (name : Text) : Bool := scriptExtensions.contains (Path.suffixOf name)

/-- The main file of a project: the first script at its root that mounts something. -/
def detectMain (root : Path) : Survey Text := do
  detectMainAmong (← Survey.filesIn root isScript)

end ApiScan.Project
