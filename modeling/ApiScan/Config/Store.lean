import ApiScan.Config
import ApiScan.Work

set_option autoImplicit false

/-! # The configuration file

The configuration of a project is kept in a file at its root. -/

namespace ApiScan.Config

/-- The place of the configuration of a project. -/
def pathIn (root : Path) : Path := root.step Failure.configFile

/-- The configuration of a project, if it has one. -/
def load (root : Path) : Survey (Option Config) := do
  let path := pathIn root
  if !(← Survey.present path) then return none
  match ← Survey.document path with
  | .error _ => Survey.fail (.unreadableConfig path)
  | .ok (.object fields) =>
    match ofFields? fields with
    | .ok config => return some config
    | .error issues => Survey.fail (.invalidConfig issues)
  | .ok _ => Survey.fail (.configNotAnObject path)

/-- Save the configuration of a project. -/
def save (root : Path) (config : Config) : Work Path := do
  let path := pathIn root
  Work.write path config.text
  Survey.tell .configWritten
  return path

/-- Remove the configuration of a project; whether there was one. -/
def remove (root : Path) : Work Bool := fun tree =>
  match tree.remove (pathIn root) with
  | .ok tree => (tree, [], .ok true)
  | .error .notFound => (tree, [.configMissing], .ok false)
  | .error fault => (tree, [], .error (.file fault (pathIn root)))

end ApiScan.Config
