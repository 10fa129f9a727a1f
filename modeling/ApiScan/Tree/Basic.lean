import ApiScan.Assoc
import ApiScan.Path
import ApiScan.Text.Order
import ApiScan.Text.Utf8

set_option autoImplicit false

/-! # File trees

The files and folders that a project lives among. A place is named by the steps that lead to it from
the top, without steps up; the top is a folder. A path may hold steps up, and where it leads depends
on the tree: each step has to start in a folder that exists, and only the last one may lead to a
place where nothing is yet. -/

namespace ApiScan

/-- A place in a tree: the names that lead to it from the top. -/
abbrev Place := List Text

/-- What stands at a place. -/
inductive Entry where
  | folder
  | file (content : Bytes)
  deriving DecidableEq, Repr, Inhabited

/-- Files and folders by their places. -/
structure Tree where
  entries : List (Place × Entry) := []
  deriving DecidableEq, Repr, Inhabited

/-- Why an operation on a tree was refused. -/
inductive FileFault where
  | notFound
  | notAFolder
  | isAFolder
  | alreadyThere
  | nameTooLong
  | notEmpty
  /-- The path holds a NUL character, which no path can. Half of a surrogate pair in a value of the
      configuration stands as one, because no file has it in its name either. -/
  | nulInPath
  deriving DecidableEq, Repr

namespace Tree

/-! ## Places -/

/-- What stands at a place. The top is always a folder. -/
def entry? (tree : Tree) (place : Place) : Option Entry :=
  if place.isEmpty then some .folder else Assoc.get? place tree.entries

/-- The tree with an entry put at a place. -/
def put (place : Place) (entry : Entry) (tree : Tree) : Tree :=
  ⟨Assoc.put place entry tree.entries⟩

/-- The tree without a place and everything below it. -/
def erase (place : Place) (tree : Tree) : Tree :=
  ⟨tree.entries.filter fun (p, _) => !place.isPrefixOf p⟩

/-- The tree without everything below a place. -/
def eraseBelow (place : Place) (tree : Tree) : Tree :=
  ⟨tree.entries.filter fun (p, _) => p = place || !place.isPrefixOf p⟩

/-- The name of a place right inside a folder. -/
def childName? (folder place : Place) : Option Text :=
  match place.getLast? with
  | some name => if place.dropLast = folder then some name else none
  | none => none

/-- The names in a folder, in order. -/
def names (folder : Place) (tree : Tree) : List Text :=
  Text.sort (tree.entries.filterMap fun (place, _) => childName? folder place)

/-- The files anywhere below a folder, by the steps that lead to them from the folder. -/
def filesBelow (folder : Place) (tree : Tree) : List (List Text) :=
  tree.entries.filterMap fun (place, entry) =>
    match entry with
    | .file _ => if folder.isPrefixOf place then some (place.drop folder.length) else none
    | .folder => none

/-! ## Where paths lead -/

/-- Where a path leads. -/
inductive Target where
  | present (place : Place) (entry : Entry)
  | vacant (place : Place)
  deriving DecidableEq, Repr

/-- The greatest length of a name, in bytes. -/
def maxNameLength : Nat := 255

/-- Follow steps from a place in a tree. -/
def follow (tree : Tree) (here : Place) : List Text → Except FileFault Target
  | [] =>
    match tree.entry? here with
    | some entry => .ok (.present here entry)
    | none => .error .notFound
  | name :: more =>
    match tree.entry? here with
    | none => .error .notFound
    | some (.file _) => .error .notAFolder
    | some .folder =>
      if name = Path.up then follow tree here.dropLast more
      else if maxNameLength < (Text.toBytes name).length then .error .nameTooLong
      else if (tree.entry? (here ++ [name])).isNone && more.isEmpty then
        .ok (.vacant (here ++ [name]))
      else follow tree (here ++ [name]) more

/-- The greatest length of a whole path, in bytes. -/
def maxPathLength : Nat := 4095

/-- Where a path leads from the top. -/
def locate (tree : Tree) (path : Path) : Except FileFault Target :=
  if path.steps.any fun step => step.contains '\x00' then .error .nulInPath
  else if maxPathLength < (Text.toBytes path.text).length then .error .nameTooLong
  else follow tree [] path.steps

/-- What stands where a path leads, if anything does. A path through missing or unfit places leads
    to nothing. -/
def status (tree : Tree) (path : Path) : Except FileFault (Option (Place × Entry)) :=
  match tree.locate path with
  | .ok (.present place entry) => .ok (some (place, entry))
  | .ok (.vacant _) => .ok none
  | .error .nameTooLong => .error .nameTooLong
  | .error _ => .ok none

/-- Whether something stands where a path leads. -/
def present (tree : Tree) (path : Path) : Except FileFault Bool :=
  (tree.status path).map Option.isSome

/-- The folder that a path leads to, if it leads to one. -/
def folder? (tree : Tree) (path : Path) : Except FileFault (Option Place) :=
  (tree.status path).map fun found =>
    match found with
    | some (place, .folder) => some place
    | _ => none

/-- Whether a path leads to a file. -/
def isFile (tree : Tree) (path : Path) : Except FileFault Bool :=
  (tree.status path).map fun found =>
    match found with
    | some (_, .file _) => true
    | _ => false

/-- The names in the folder that a path leads to, in order. -/
def namesAt (tree : Tree) (path : Path) : Except FileFault (List Text) := do
  match ← tree.locate path with
  | .present place .folder => return tree.names place
  | .present _ (.file _) => throw .notAFolder
  | .vacant _ => throw .notFound

/-! ## Files -/

/-- The content of the file that a path leads to. -/
def read (tree : Tree) (path : Path) : Except FileFault Bytes := do
  match ← tree.locate path with
  | .present _ (.file content) => return content
  | .present _ .folder => throw .isAFolder
  | .vacant _ => throw .notFound

/-- The text of the source file that a path leads to. -/
def sourceText? (tree : Tree) (path : Path) : Option Text :=
  (tree.read path).toOption.map Text.ofSource

/-- Give the file that a path leads to a content, which may depend on the one that it has. -/
def write (tree : Tree) (path : Path) (content : Bytes → Bytes) : Except FileFault Tree := do
  match ← tree.locate path with
  | .present place (.file old) => return tree.put place (.file (content old))
  | .present _ .folder => throw .isAFolder
  | .vacant place => return tree.put place (.file (content []))

/-- Remove the file that a path leads to. -/
def remove (tree : Tree) (path : Path) : Except FileFault Tree := do
  match ← tree.locate path with
  | .present place (.file _) => return tree.erase place
  | .present _ .folder => throw .isAFolder
  | .vacant _ => throw .notFound

/-! ## Folders -/

/-- Make the folder that a path leads to. -/
def makeFolder (tree : Tree) (path : Path) : Except FileFault Tree := do
  match ← tree.locate path with
  | .present .. => throw .alreadyThere
  | .vacant place => return tree.put place .folder

/-- Accept a folder that is already there, after making it was refused. -/
def acceptFolder (tree : Tree) (path : Path) (fault : FileFault) : Except FileFault Unit := do
  match ← tree.folder? path with
  | some _ => return ()
  | none => throw fault

/-- Make the folder that a path leads to and those on the way that are missing, given the steps of
    the path from the last one back. What was made before a refusal stays. -/
def makeFoldersBack (anchor : Text) (tree : Tree) : List Text → Tree × Except FileFault Unit
  | [] => (tree, .ok ())
  | name :: back =>
    let path : Path := ⟨anchor, (name :: back).reverse⟩
    match tree.makeFolder path with
    | .ok tree => (tree, .ok ())
    | .error .notFound =>
      match makeFoldersBack anchor tree back with
      | (tree, .error fault) => (tree, .error fault)
      | (tree, .ok ()) =>
        match tree.makeFolder path with
        | .ok tree => (tree, .ok ())
        | .error .notFound => (tree, .error .notFound)
        | .error fault => (tree, tree.acceptFolder path fault)
    | .error fault => (tree, tree.acceptFolder path fault)

/-- Make the folder that a path leads to, and those on the way, unless they are there. -/
def makeFolders (tree : Tree) (path : Path) : Tree × Except FileFault Unit :=
  makeFoldersBack path.anchor tree path.steps.reverse

/-- Remove the folder that a path leads to with everything below it. What is below goes first, and
    the path is followed once more for the folder itself: a path that leads through what is already
    gone, or that ends in a step up, is refused then. -/
def removeFolder (tree : Tree) (path : Path) : Tree × Except FileFault Unit :=
  match tree.locate path with
  | .error fault => (tree, .error fault)
  | .ok (.vacant _) => (tree, .error .notFound)
  | .ok (.present _ (.file _)) => (tree, .error .notAFolder)
  | .ok (.present place .folder) =>
    let tree := tree.eraseBelow place
    match tree.locate path with
    | .error fault => (tree, .error fault)
    | .ok (.vacant _) => (tree, .error .notFound)
    | .ok (.present place _) =>
      if path.name = Path.up then (tree, .error .notEmpty) else (tree.erase place, .ok ())

end Tree

end ApiScan
