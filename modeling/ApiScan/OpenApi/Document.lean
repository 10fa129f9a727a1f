import ApiScan.Config
import ApiScan.Json.Basic
import ApiScan.Model.Basic
import ApiScan.Route.Basic
import ApiScan.Text.Blank

set_option autoImplicit false

/-! # The document of a project

The parts that a document is put together from: the security scheme of the configuration, the paths
of the route groups, and the schemas of the models. -/

/-! ## Security schemes

The scheme that stands for each kind of authorization in a document. -/

namespace ApiScan.OpenApi

/-- The name and the definition of the scheme of an authorization. -/
def securityScheme? : Authorization → Option (Text × Json)
  | .bearer => some ("bearerAuth".toList, .record [
      ("type", .ofString "http"),
      ("scheme", .ofString "bearer"),
      ("bearerFormat", .ofString "JWT"),
      ("description", .ofString "Enter your JWT token (without 'Bearer ' prefix)")])
  | .basic => some ("basicAuth".toList, .record [
      ("type", .ofString "http"),
      ("scheme", .ofString "basic"),
      ("description", .ofString "Enter your basic auth credentials")])
  | .none => none

/-- What an authorization requires of a request: its scheme, with no scopes. -/
def securityRequirement (authorization : Authorization) : List Json :=
  match securityScheme? authorization with
  | some (name, _) => [.object [(name, .list [])]]
  | none => []

end ApiScan.OpenApi

/-! ## Paths of a document

Each route group becomes a set of path items, one for each path that the group serves, with an
operation for each method. Path items merge method by method. -/

namespace ApiScan.OpenApi

/-- Join a mount path and a router path with a single slash. -/
def joinRoute (base path : Text) : Text :=
  let base := Text.dropEndWhile (· = '/') base
  let tail := Text.strip path
  if tail = [] ∨ tail = ['/'] then (if base.isEmpty then ['/'] else base)
  else base ++ ['/'] ++ tail.dropWhile (· = '/')

/-- The answers that every operation lists. -/
def responses : Json := .record [
  ("200", .record [("description", .ofString "Okay")]),
  ("404", .record [("description", .ofString "Not Found")]),
  ("500", .record [("description", .ofString "Server Error")])]

/-- The operation of a route under a tag. -/
def operation (tag : Text) (authorization : Authorization) : Json.Fields :=
  let security := securityRequirement authorization
  Json.named
    ([("summary", .ofString "API Documentation"),
      ("produces", .list [.ofString "application/json"]),
      ("tags", .list [.str tag])]
    ++ (if security.isEmpty then [] else [("security", .list security)])
    ++ [("responses", responses)])

/-- Put an operation under a path and a method. -/
def putOperation (path : Text) (method : Method) (operation : Json) (paths : Json.Fields) :
    Json.Fields :=
  Assoc.alter (Points.ofText path) (fun item =>
    let fields := (item.getD (.object [])).fields
    .object (Assoc.put (Points.ofText method.key) operation fields)) paths

/-- The path items of a group: an operation for each entry. -/
def pathsDocument (group : RouteGroup) (authorization : Authorization) : Json.Fields :=
  group.entries.foldl (fun paths entry =>
    putOperation (joinRoute group.base entry.path) entry.method
      (.object (operation group.tag authorization)) paths) []

/-- Merge a path item into the one that stands at its path. Two objects merge field by field, and
    otherwise the new item takes the place. -/
def mergeItem (new : Json) : Option Json → Json
  | some (.object old) =>
    match new with
    | .object fields => .object (Assoc.update old fields)
    | _ => new
  | _ => new

/-- Merge path items into others, in order. -/
def mergePaths (target incoming : Json.Fields) : Json.Fields :=
  incoming.foldl (fun paths (path, item) => Assoc.alter path (mergeItem item) paths) target

end ApiScan.OpenApi

/-! ## Schemas of a document

Each model becomes an object schema with a property for each field. -/

namespace ApiScan.OpenApi

/-- The schema of a field. A date is a string of a format; every other type stands for itself. -/
def fieldSchema (field : Field) : Json.Fields :=
  if field.type = "date".toList then
    Json.named [("type", .ofString "string"), ("format", .ofString "date-time")]
  else Json.named [("type", .str field.type)]

/-- The properties of a model: of the fields of one name, the first gives the place and the last
    the schema. -/
def properties (fields : List Field) : Json.Fields :=
  Assoc.ofPairs (fields.map fun field => (↑field.name, .object (fieldSchema field)))

/-- The document of one model: its table name with its schema. -/
def schemaDocument (model : Model) : Json.Fields :=
  [(model.table, .record [
    ("type", .ofString "object"), ("properties", .object (properties model.fields))])]

end ApiScan.OpenApi

/-! ## The whole document -/

namespace ApiScan.OpenApi

/-- The version of the format. -/
def formatVersion : String := "3.0.0"

/-- The document of a project: its description from the configuration, and the given schemas and
    paths. -/
def document (config : Config) (schemas paths : Json.Fields) : Json.Fields :=
  let scheme? := securityScheme? config.authorization
  let info : Json := .record [
    ("title", .str config.name),
    ("version", .str config.version),
    ("description", .str config.description)]
  let components : Json := .record (("schemas", .object schemas) ::
    match scheme? with
    | some (name, scheme) => [("securitySchemes", .object [(name, scheme)])]
    | none => [])
  Json.named
    ([("openapi", .ofString formatVersion),
      ("info", info),
      ("servers", .list [.record [("url", .str config.baseurl)]]),
      ("components", components),
      ("paths", .object paths)]
    ++ match scheme? with
       | some (name, _) => [("security", .list [.object [(name, .list [])]])]
       | none => [])

end ApiScan.OpenApi
