import ApiScan.Text.Blank

set_option autoImplicit false

/-! # Paths

A path is an anchor, which is empty for a relative path, and a list of steps. Repeated slashes and
steps of a single dot mean nothing and are dropped when a path is read; a step up stays as it is,
because what it leads to depends on the files. -/

namespace ApiScan

/-- A path to a file or folder. -/
structure Path where
  anchor : Text := []
  steps : List Text := []
  deriving DecidableEq, Repr, Inhabited

namespace Path

/-- The step to the folder above. -/
def up : Text := ['.', '.']

/-- The steps that a text spells. -/
def stepsOf (s : Text) : List Text :=
  (Text.pieces (· = '/') s).filter fun step => !step.isEmpty && step ≠ ['.']

/-- The path that a text spells. Exactly two slashes in front are an anchor of their own. -/
def ofText (s : Text) : Path :=
  let slashes := (s.takeWhile (· = '/')).length
  ⟨if slashes = 0 then [] else if slashes = 2 then ['/', '/'] else ['/'], stepsOf s⟩

/-- The text of a path. -/
def text (path : Path) : Text :=
  if path.anchor.isEmpty && path.steps.isEmpty then ['.']
  else path.anchor ++ Text.joinWith ['/'] path.steps

/-- A path followed by what a text spells; an absolute one replaces the path. -/
def join (path : Path) (s : Text) : Path :=
  let more := ofText s
  if more.anchor.isEmpty then { path with steps := path.steps ++ more.steps } else more

/-- A path followed by one step. -/
def step (path : Path) (name : Text) : Path := { path with steps := path.steps ++ [name] }

/-- The path of the folder that a path stands in. -/
def parent (path : Path) : Path := { path with steps := path.steps.dropLast }

/-- The last step of a path. -/
def name (path : Path) : Text := path.steps.getLast?.getD []

/-- The extension of a file name: from its last dot on, if characters stand on both sides. -/
def suffixOf (name : Text) : Text :=
  let tail := (name.reverse.takeWhile (· ≠ '.')).reverse
  let stem := name.length - tail.length - 1
  if tail.length < name.length ∧ 0 < stem ∧ tail ≠ [] then '.' :: tail else []

/-- The steps of a path after one step more: a step up drops the step before it. -/
def takeStep (done : List Text) (step : Text) : List Text :=
  if step = up then done.dropLast else done ++ [step]

/-- A path with its steps up taken. -/
def normalize (path : Path) : Path := { path with steps := path.steps.foldl takeStep [] }

/-- A text without all its leading `./`. -/
def dropDotSlash : Text → Text
  | '.' :: '/' :: cs => dropDotSlash cs
  | s => s

/-- The path of a folder value of the configuration under the root of a project: forward slashes,
    trimmed, and neither `./` nor slashes in front. -/
def under (root : Path) (value : Text) : Path :=
  let value := Text.strip (value.map fun c => if c = '\\' then '/' else c)
  root.join ((dropDotSlash value).dropWhile (· = '/'))

end Path

end ApiScan
