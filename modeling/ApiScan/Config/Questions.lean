import ApiScan.Config
import ApiScan.Project.Kind
import ApiScan.Terminal

set_option autoImplicit false

/-! # Asking for a configuration

Before anything is asked, a configuration is put together from what is known of the project: the
saved one, if it has a name, and otherwise one from the package file and from what the project shows
of itself. It gives the default answer to each question, and the terminal refuses a question whose
default answer holds half of a surrogate pair. -/

namespace ApiScan.Config

/-- What is known of a project before anything is asked. -/
structure Known where
  kind : Option Project.Kind := none
  package : Json := .object []
  saved : Option Config := none
  mainFile : Text := []
  /-- The library of the models; empty if there is none. -/
  orm : Text := []
  /-- The folder or file of the schemas; empty if nothing names one. -/
  schemas : Text := []

namespace Known

/-! ## The configuration to start from -/

/-- A field of the package file, unless it is not given. -/
def packageValue (known : Known) (name : String) (unset : Text) : Json :=
  match known.package.field? name.toList with
  | some value => if value.isGiven then value else .str unset
  | none => .str unset

/-- What the package file and the project itself say about the configuration. -/
def detected (known : Known) : Json.Fields :=
  Json.named [
    ("name", known.packageValue "name" []),
    ("version", known.packageValue "version" "1.0.0".toList),
    ("description", known.packageValue "description" []),
    ("main", .str known.mainFile),
    ("database", .str (if known.orm.isEmpty then Database.name .unknown else known.orm)),
    ("schema", .str (if known.schemas.isEmpty then Project.defaultSchemas else known.schemas)),
    ("routes", .str (Project.defaultRoutes known.kind))]

/-- The configuration to start from, or what is wrong with what was detected. -/
def initial (known : Known) : Except (List FieldIssue) Config :=
  match known.saved with
  | some config => if config.name.isEmpty then ofFields? known.detected else .ok config
  | none => ofFields? known.detected

end Known

/-! ## Questions -/

/-- The choices of an authorization, in the order in which they are offered. -/
def authorizationChoices : List (Text × Authorization) :=
  [Authorization.none, .bearer, .basic].map fun choice => (choice.name, choice)

/-- The choices of a library of models. -/
def databaseChoices : List (Text × Database) :=
  [Database.mongoose, .prisma, .drizzle].map fun choice => (choice.name, choice)

/-- The library of models to offer for the one of a configuration. -/
def offeredDatabase : Database → Database
  | .unknown => .mongoose
  | database => database

/-- What is answered to the questions about a project. -/
structure Replies where
  name : Points
  version : Points
  description : Points
  authorization : Authorization
  baseurl : Points
  /-- The main file, unless it is not asked for. -/
  main : Option Points
  database : Database
  schema : Points
  routes : Points
  docs : Points
  gitignore : Bool

namespace Replies

/-- The replies as the fields of an object. What is not asked for is no field. -/
def fields (replies : Replies) : Json.Fields :=
  Json.named <|
    [("name", .str replies.name),
      ("version", .str replies.version),
      ("description", .str replies.description),
      ("authorization", .str replies.authorization.name),
      ("baseurl", .str replies.baseurl)]
    ++ (replies.main.map fun main => ("main", Json.str main)).toList
    ++ [("database", .str replies.database.name),
      ("schema", .str replies.schema),
      ("routes", .str replies.routes),
      ("docs", .str replies.docs),
      ("gitignore", .bool replies.gitignore)]

/-- The replies as a configuration. -/
def config (replies : Replies) : Config where
  name := replies.name
  version := replies.version
  description := replies.description
  authorization := replies.authorization
  baseurl := replies.baseurl
  main := replies.main.getD []
  database := replies.database
  schema := replies.schema
  routes := replies.routes
  docs := replies.docs
  gitignore := replies.gitignore

end Replies

/-- Ask for the main file. A project whose files are its routes has none. -/
def askMain (kind : Option Project.Kind) (base : Config) : Inquiry (Option Points) := do
  if kind = some .nextjs then return none
  let main ← Inquiry.askText
    "Path where you've defined your express app (e.g. 'const app = express();')".toList base.main
  return some main

/-- Ask the questions about a project. -/
def askReplies (kind : Option Project.Kind) (base : Config) : Inquiry Replies := do
  let api := if kind = some .nextjs then "Next JS" else "Express"
  let name ← Inquiry.askText ("Name of ".toList ++ api.toList ++ " API".toList) base.name
  let version ← Inquiry.askText "Version".toList base.version
  let description ← Inquiry.askText "Project description".toList base.description
  let authorization ← Inquiry.ofDialogue <|
    Dialogue.askChoice "Authorization type".toList authorizationChoices
      (base.authorization.name, base.authorization)
  let baseurl ← Inquiry.askText "Base URL".toList base.baseurl
  let main ← askMain kind base
  let offered := offeredDatabase base.database
  let database ← Inquiry.ofDialogue <|
    Dialogue.askChoice "Choose database, ODM or ORM".toList databaseChoices (offered.name, offered)
  let schema ← Inquiry.askText
    "Where is the folder for your schemas or models? (leave blank to skip models)".toList
    base.schema
  let routes ← Inquiry.askText "Where is the folder for your routes?".toList base.routes
  let docs ← Inquiry.askText "Where to put the swagme files?".toList base.docs
  let gitignore ← Inquiry.ofDialogue <|
    Dialogue.askYesNo "Git ignore swagme files and folders?".toList base.gitignore
  return { name, version, description, authorization, baseurl, main, database, schema, routes, docs,
           gitignore }

/-- Ask for the configuration of a project. The dialogue breaks off at a question that the terminal
    refuses. -/
def askAll (kind : Option Project.Kind) (base : Config) : Dialogue Config := do
  return (← (askReplies kind base).answered).config

/-- Ask for the configuration of a project, and check the replies like the fields of a file. -/
def askChecked (kind : Option Project.Kind) (base : Config) :
    Inquiry (Except (List FieldIssue) Config) := do
  return ofFields? (← askReplies kind base).fields

/-- Ask for the configuration of a project of which something is known. -/
def Known.ask (known : Known) :
    Except (List FieldIssue) (Inquiry (Except (List FieldIssue) Config)) :=
  known.initial.map (askChecked known.kind)

/-- Ask whether everything that was generated is to be deleted. -/
def askDelete : Dialogue Bool :=
  Dialogue.askYesNo "Are you sure you want to delete swagme files and folders?".toList false

end ApiScan.Config
