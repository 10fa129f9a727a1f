import ApiScan.Failure
import ApiScan.Json.Reader
import ApiScan.Log

set_option autoImplicit false

/-! # Surveys

A survey looks at a tree of files and leaves it as it is. It gives a result or ends in a failure,
and it tells events on the way; the events of its parts follow one another. -/

namespace ApiScan

/-- A look at a tree of files. -/
def Survey (α : Type) := Tree → Log × Except Failure α

namespace Survey

variable {α : Type}

instance : Monad Survey where
  pure a := fun _ => ([], .ok a)
  bind survey next := fun tree =>
    match survey tree with
    | (log, .error failure) => (log, .error failure)
    | (log, .ok a) =>
      let after := next a tree
      (log ++ after.1, after.2)

/-- End in a failure. -/
def fail (failure : Failure) : Survey α := fun _ => ([], .error failure)

/-- Tell an event. -/
def tell (event : Event) : Survey Unit := fun _ => ([event], .ok ())

/-- What a scan of source texts found. -/
def findings (findings : Findings α) : Survey (List α) :=
  fun _ => (findings.log, .ok findings.found)

/-- The tree that the survey looks at. -/
def tree : Survey Tree := fun tree => ([], .ok tree)

/-- Ask the tree about a path. A refusal ends the survey. -/
def ask (question : Tree → Path → Except FileFault α) (path : Path) : Survey α := fun tree =>
  match question tree path with
  | .ok answer => ([], .ok answer)
  | .error fault => ([], .error (.file fault path))

/-! ## Files and folders -/

/-- Whether something stands where a path leads. -/
def present (path : Path) : Survey Bool := ask Tree.present path

/-- Whether a path leads to a file. -/
def isFile (path : Path) : Survey Bool := ask Tree.isFile path

/-- Whether a path leads to a folder. -/
def isFolder (path : Path) : Survey Bool := return (← ask Tree.folder? path).isSome

/-- The first of some paths where something stands. -/
def firstPresent? : List Path → Survey (Option Path)
  | [] => return none
  | path :: more => do if ← present path then return some path else firstPresent? more

/-- The names in the folder that a path leads to, in order. -/
def names (path : Path) : Survey (List Text) := ask Tree.namesAt path

/-- The paths of the files right inside a folder whose names are wanted, in order. -/
def filesIn (folder : Path) (wanted : Text → Bool) : Survey (List Path) := do
  let paths := (← names folder).filter wanted |>.map folder.step
  paths.filterM isFile

/-! ## Contents -/

/-- The text of a source file, in which bytes that are no UTF-8 are replaced. A file that cannot be
    read is told and has no text. -/
def sourceText? (path : Path) : Survey (Option Text) := fun tree =>
  match tree.read path with
  | .ok content => ([], .ok (some (Text.ofSource content)))
  | .error .nulInPath => ([], .error (.file .nulInPath path))
  | .error _ => ([.fileUnreadable], .ok none)

/-- The text of a file that has to be UTF-8, or why the file cannot be read. -/
def strictText (path : Path) : Survey (Except FileFault Text) := fun tree =>
  match tree.read path with
  | .ok content =>
    match Text.ofBytes? content with
    | some text => ([], .ok (.ok (Text.unifyBreaks text)))
    | none => ([], .error .notUtf8)
  | .error .nulInPath => ([], .error (.file .nulInPath path))
  | .error fault => ([], .ok (.error fault))

/-- Why a file gives no document. -/
inductive DocumentFault where
  | unreadable (fault : FileFault)
  | malformed
  deriving DecidableEq, Repr

/-- The document in a JSON file, or why there is none. -/
def document (path : Path) : Survey (Except DocumentFault Json) := do
  match ← strictText path with
  | .error fault => return .error (.unreadable fault)
  | .ok text =>
    match Json.read text with
    | .ok doc => return .ok doc
    | .error .malformed => return .error .malformed
    | .error (.numberTooLong digits) => fail (.numberTooLong digits)

end Survey

end ApiScan
