import ApiScan.Docs.Output
import ApiScan.Project.Scan

set_option autoImplicit false

/-! # Building the documentation

A build scans the project, if it is asked to, writes what it found to the docs folder, and puts the
whole document together from there. The scan comes first, so that nothing is written when it
fails. -/

namespace ApiScan.Build

/-- What a build does. -/
structure Options where
  forms : Docs.Forms := {}
  /-- Whether models are documented. -/
  schemas : Bool := true
  /-- Whether routes are documented. -/
  routes : Bool := true
  /-- Whether the project is scanned at all. -/
  scan : Bool := true
  deriving DecidableEq, Repr

/-- What a build found and wrote. -/
structure Result where
  models : List Model := []
  groups : List RouteGroup := []
  written : List Path := []
  deriving DecidableEq, Repr

/-- What a build scans before it writes. -/
def scan (root : Path) (config : Config) (kind : Option Project.Kind) (options : Options) :
    Survey (List Model × List RouteGroup) := do
  let models ←
    if options.scan && options.schemas then Project.scanModels root config else pure []
  let groups ←
    if options.scan && options.routes then Project.scanRoutes root config kind else pure []
  return (models, groups)

/-- Write what a build found to the docs folder. -/
def writeDocs (root : Path) (config : Config) (kind : Option Project.Kind) (options : Options)
    (models : List Model) (groups : List RouteGroup) : Work (List Path) := do
  let docs := root.under config.docs.inPath
  Docs.create docs
  let readme ← Docs.writeReadme docs
  let schemas ← if options.scan && options.schemas then Docs.writeSchemas docs models else pure []
  if options.scan && options.routes then
    let routes ← Docs.writeRoutes docs config.authorization groups
    let documented ← Project.scanDocs root config kind
    let comments ← Docs.writeComments docs documented
    return readme :: schemas ++ routes ++ comments
  else return readme :: schemas

/-- Build the documentation of a project. -/
def run (root : Path) (config : Config) (kind : Option Project.Kind) (options : Options) :
    Work Result := do
  let (models, groups) ← scan root config kind options
  let docs ← writeDocs root config kind options models groups
  if config.gitignore then
    let _ ← Docs.updateIgnore root config.docs.inPath
  if options.forms.json || options.forms.yaml then
    let output ← Docs.writeOutput root config (root.under config.docs.inPath) options.forms
    return ⟨models, groups, docs ++ output⟩
  else return ⟨models, groups, docs⟩

end ApiScan.Build
