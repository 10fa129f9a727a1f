import ApiScan.Build
import ApiScan.CommandLine.Arguments
import ApiScan.CommandLine.Session
import ApiScan.Config.Questions
import ApiScan.Config.Store
import ApiScan.Project.Detection

set_option autoImplicit false

/-! # Commands

What each command does. All but one look at the project, find or ask for its configuration, and then
save it, build the documentation, or both; the other one deletes what was generated. -/

namespace ApiScan.CommandLine

/-- The codes with which a command ends. -/
inductive Exit where
  | done
  | failed
  /-- The arguments spell no command. -/
  | misused
  deriving DecidableEq, Repr

/-- The number of a code. -/
def Exit.code : Exit → Nat
  | .done => 0
  | .failed => 1
  | .misused => 2

/-! ## The project -/

/-- The directory of the project, seen from the current one. -/
def projectRoot (current : Path) (command : Command) : Session Path :=
  let path := current.join (command.directory.getD [])
  if path.steps.any fun step => step.contains '\x00' then Session.fail (.file .nulInPath path)
  else return path.normalize

/-- Warn of a project whose kind is unclear or that lacks the library of its kind. -/
def warnOfKind (kind : Option Project.Kind) (package : Json) : Session Unit :=
  match kind with
  | none => Session.warn "could not detect an Express or Next.js project".toList
  | some kind =>
    if Project.dependsOn package kind.name then return ()
    else Session.warn "Next JS dependency not found".toList

/-- Warn of a project that lacks the library that shows its documentation. -/
def warnOfViewer (package : Json) : Session Unit :=
  if Project.dependsOn package "swagger-ui-express".toList then return ()
  else
    Session.warn
      "we recommend installing swagger-ui-express: npm install swagger-ui-express".toList

/-- Show how the models of a project were found. -/
def sayModels (saved : Option Config) (orm : Text) : Session Unit :=
  if saved.any fun config => !config.name.isEmpty then
    Session.sayField "config file detected" Failure.configFile
  else if !orm.isEmpty then Session.say (orm ++ " detected".toList)
  else return ()

/-- Find out what is known of a project before anything is asked. -/
def survey (root : Path) : Session Config.Known := do
  let package ← Session.look (Project.readPackage root)
  let saved ← Session.look (Config.load root)
  let kind ← Session.look (Project.detectKind root package)
  warnOfKind kind package
  warnOfViewer package
  let orm ← Session.look (Project.detectOrm root package)
  let mainFile ←
    if kind = some .express then Session.look (Project.detectMain root) else pure []
  sayModels saved orm
  let schemas ←
    if Project.configuredOrms.contains orm then Session.look (Project.detectSchemas root orm) else pure []
  return { kind, package, saved, mainFile, orm, schemas }

/-- Go on with what was read, unless something is wrong with it. -/
def accept {α : Type} : Except (List Config.FieldIssue) α → Session α
  | .ok a => pure a
  | .error issues => Session.fail (.invalidAnswers issues)

/-- The configuration to work with: the one to start from, or the answers to questions about it. It
    needs a name and a folder of routes. -/
def settle (known : Config.Known) (ask : Bool) : Session Config := do
  let config ←
    if ask then
      let inquiry ← accept known.ask
      accept (← Session.inquire inquiry)
    else accept known.initial
  if Text.allBlank config.name.shown then Session.fail .nameMissing
  if Text.allBlank config.routes.shown then Session.fail .routesMissing
  return config

/-! ## Configuring and building -/

/-- What a command does with a project besides looking at it. -/
structure Tasks where
  ask : Bool
  configure : Bool
  build : Bool
  options : Build.Options

/-- The tasks of a command. The command that does everything can be told to configure only or to
    build only. -/
def Command.tasks (command : Command) : Tasks :=
  let options : Build.Options := {
    forms := .asked (command.isOn .json) (command.isOn .yaml)
    schemas := command.isOn .schemas
    routes := command.isOn .routes
    scan := command.isOn .scan }
  let neither := !command.isOn .config && !command.isOn .build
  match command.verb with
  | .run =>
    { ask := !command.isOn .auto, configure := neither || command.isOn .config,
      build := neither || command.isOn .build, options }
  | .config => { ask := !command.isOn .auto, configure := true, build := false, options }
  | .build => { ask := false, configure := false, build := true, options }
  | .delete => { ask := !command.isOn .auto, configure := false, build := false, options }

/-- Show what a build found, and tell what it wrote. -/
def sayResult (result : Build.Result) : Session Unit := do
  result.models.forM fun model => Session.sayField "model added" model.table
  result.groups.forM fun group =>
    Session.sayField "routes added" (if group.base.isEmpty then group.tag else group.base)
  result.written.forM fun _ => Session.look (Survey.tell .fileWritten)

/-- A configuration by its name and version. -/
def title (config : Config) : Points :=
  config.name ++ Points.ofText " (".toList ++ config.version ++ Points.ofText [')']

/-- Configure a project, build its documentation, or both. -/
def generate (current : Path) (command : Command) : Session Exit := do
  Session.say "Swagme - swagger docs for Express and Next.js APIs".toList
  let root ← projectRoot current command
  let known ← survey root
  let config ← settle known command.tasks.ask
  if config.database = .mongoose && !Project.dependsOn known.package Database.mongoose.name then
    Session.warn "could not find mongoose in package.json: npm install mongoose".toList
  if command.tasks.configure then
    let path ← Session.work (config.save root)
    Session.say ("saved ".toList ++ path.name)
  if command.tasks.build then
    sayResult (← Session.work (Build.run root config known.kind command.tasks.options))
  Session.sayPoints (title config ++ Points.ofText " has been Swagged!".toList)
  return .done

/-! ## Deleting -/

/-- Delete the docs folder of a project, unless it is the project itself. -/
def deleteDocs (root docs : Path) : Session Unit := do
  if (← Session.look (Survey.isFolder docs)) && docs ≠ root then
    Session.work (Work.removeFolder docs)
    Session.say (docs.text ++ " has been removed".toList)
  else Session.warn ("could not find swagme folder: ".toList ++ docs.text)

/-- Delete what was generated for a project, and its configuration. -/
def delete (current : Path) (command : Command) : Session Exit := do
  let root ← projectRoot current command
  let saved ← Session.look (Config.load root)
  match saved.filter fun config => !config.name.isEmpty with
  | none =>
    Session.complain ("could not find config file ".toList ++ Failure.configFile)
    return .failed
  | some config =>
    if command.tasks.ask then
      if !(← Session.converse Config.askDelete) then return .done
    deleteDocs root (root.under config.docs.inPath)
    if ← Session.work (Config.remove root) then
      Session.say (Failure.configFile ++ " has been removed".toList)
    Session.sayPoints (title config ++ Points.ofText " has been De-Swagged!".toList)
    return .done

/-! ## Whole runs -/

/-- What a command does. -/
def Command.session (current : Path) (command : Command) : Session Exit :=
  match command.verb with
  | .delete => delete current command
  | _ => generate current command

/-- The events that a command tells: those of debugging only when they are asked for. -/
def Command.told (command : Command) (log : Log) : Log :=
  log.filter fun event => event.level = .warning || command.isOn .debug

/-- How a command ends: why it stopped is reported as an error, and only the events that the command
    tells are kept. -/
def Command.finish (command : Command) : Except Stop Exit × World → Exit × World
  | (.ok exit, world) => (exit, { world with log := command.told world.log })
  | (.error stop, world) =>
    (.failed, { (Session.complain stop.message world).2 with log := command.told world.log })

/-- Carry out a command. -/
def Command.run (current : Path) (command : Command) (world : World) : Exit × World :=
  command.finish (command.session current world)

/-- Carry out the command that arguments spell. -/
def run (current : Path) (arguments : List Text) (world : World) : Exit × World :=
  match read? arguments with
  | none => (.misused, world)
  | some command => command.run current world

end ApiScan.CommandLine
