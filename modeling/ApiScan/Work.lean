import ApiScan.Survey

set_option autoImplicit false

/-! # Work on files

Work is a survey that may also change the tree. What it has changed stays changed when it ends in a
failure. -/

namespace ApiScan

/-- Work on a tree of files: the tree that it leaves, the events on the way, and the result. -/
def Work (α : Type) := Tree → Tree × Log × Except Failure α

namespace Work

variable {α : Type}

instance : Monad Work where
  pure a := fun tree => (tree, [], .ok a)
  bind work next := fun tree =>
    match work tree with
    | (tree, log, .error failure) => (tree, log, .error failure)
    | (tree, log, .ok a) =>
      let after := next a tree
      (after.1, log ++ after.2.1, after.2.2)

/-- A survey as work that changes nothing. -/
def ofSurvey (survey : Survey α) : Work α := fun tree => (tree, survey tree)

instance : MonadLift Survey Work := ⟨ofSurvey⟩

/-- Change the tree at a path. A refusal ends the work and leaves the tree as it was. -/
def change (operation : Tree → Path → Except FileFault Tree) (path : Path) : Work Unit :=
  fun tree =>
  match operation tree path with
  | .ok tree => (tree, [], .ok ())
  | .error fault => (tree, [], .error (.file fault path))

/-- Write a text to the file that a path leads to. -/
def write (path : Path) (text : Text) : Work Unit :=
  change (fun tree path => tree.write path fun _ => Text.toBytes text) path

/-- Append a text to the file that a path leads to. -/
def append (path : Path) (text : Text) : Work Unit :=
  change (fun tree path => tree.write path (· ++ Text.toBytes text)) path

/-- Make the folder that a path leads to and those on the way, unless they are there; `told` is the
    failure of a refusal. -/
def makeFolders (path : Path) (told : FileFault → Failure) : Work Unit := fun tree =>
  let (tree, made) := tree.makeFolders path
  (tree, [], made.mapError told)

/-- Remove the folder that a path leads to with everything below it. -/
def removeFolder (path : Path) : Work Unit := fun tree =>
  let (tree, removed) := tree.removeFolder path
  (tree, [], removed.mapError (.file · path))

/-- Write a document to the file that a path leads to, in a folder that is made if it is missing. -/
def writeDocument (path : Path) (doc : Json) : Work Path := do
  makeFolders path.parent (.file · path.parent)
  write path doc.text
  return path

end Work

end ApiScan
