import ApiScan.CommandLine.Run

set_option autoImplicit false

/-! # The program

The directory of the project is loaded as a tree, the command is carried out on it, and what it
changed is written back. A command that runs out of lines to read is carried out again with one line
more: it shows the same again and goes on from there, so only what is new is printed. -/

namespace ApiScan.Program

/-! ## Loading -/

/-- Folders that hold nothing of a project's own. They are not loaded. -/
def foreignFolders : List String := ["node_modules", ".git"]

/-- A directory entry and everything below it, at a place. -/
partial def loadEntry (place : Place) (entry : IO.FS.DirEntry) : IO (List (Place × Entry)) := do
  if ← entry.path.isDir then
    if entry.fileName ∈ foreignFolders then return []
    let inside ← (← entry.path.readDir).toList.mapM fun child =>
      loadEntry (place ++ [child.fileName.toList]) child
    return (place, .folder) :: inside.flatten
  else if ← entry.path.pathExists then
    return [(place, .file (← IO.FS.readBinFile entry.path).toList)]
  else return []

/-- The tree of a directory: the folders that lead to it, and everything below it. -/
def loadTree (directory : Path) : IO Tree := do
  let above : List (Place × Entry) :=
    (List.range directory.steps.length).tail.map fun n => (directory.steps.take n, .folder)
  let entry : IO.FS.DirEntry := ⟨String.ofList directory.text, ""⟩
  return ⟨above ++ (← loadEntry directory.steps entry)⟩

/-! ## Writing back -/

/-- The directory entry of a place. -/
def onDisk (place : Place) : IO.FS.DirEntry := ⟨"/", String.ofList (Text.joinWith ['/'] place)⟩

/-- Whether one place is not above another. -/
def deeper (a b : Place × Entry) : Bool := b.1.length ≤ a.1.length

/-- Write the changes of a tree to the disk. -/
def writeBack (old new : Tree) : IO Unit := do
  let gone := old.entries.filter fun (place, _) => !Assoc.has place new.entries
  for (place, entry) in gone.mergeSort deeper do
    match entry with
    | .folder => IO.FS.removeDir (onDisk place).path
    | .file _ => IO.FS.removeFile (onDisk place).path
  let fresh := new.entries.filter fun entry => !old.entries.contains entry
  for (place, entry) in (fresh.mergeSort deeper).reverse do
    match entry with
    | .folder => IO.FS.createDirAll (onDisk place).path
    | .file content => IO.FS.writeBinFile (onDisk place).path ⟨content.toArray⟩

/-! ## Running -/

/-- The next line of the input, if there is one. -/
def nextLine? : IO (Option Text) := do
  let line := (← (← IO.getStdin).getLine).toList
  return if line.isEmpty then none else some (Text.dropEndWhile (· = '\n') line)

/-- Carry out a command with the lines read so far, of which the first `shown` characters of what it
    shows are printed already. -/
partial def carryOut (current : Path) (command : CommandLine.Command) (world : CommandLine.World)
    (shown : Nat) : IO (CommandLine.Exit × CommandLine.World) := do
  let result := command.session current world
  IO.print (String.ofList (result.2.out.drop shown))
  (← IO.getStdout).flush
  match result.1 with
  | .error (.failed .endOfInput) =>
    match ← nextLine? with
    | some line =>
      carryOut current command { world with input := world.input ++ [line] } result.2.out.length
    | none => return command.finish result
  | _ => return command.finish result

/-- Carry out the command that arguments spell. -/
def run (arguments : List String) : IO CommandLine.Exit := do
  let current := Path.ofText (← IO.currentDir).toString.toList
  match CommandLine.read? (arguments.map String.toList) with
  | none =>
    IO.eprintln "error: the arguments spell no command"
    return .misused
  | some command =>
    let tree ← loadTree (current.join (command.directory.getD [])).normalize
    let (exit, world) ← carryOut current command { tree } 0
    world.problems.forM fun problem => IO.eprintln (String.ofList problem)
    world.log.forM fun event => IO.eprintln event.message
    writeBack tree world.tree
    return exit

end ApiScan.Program

/-- The program. -/
def main (arguments : List String) : IO UInt32 :=
  return (← ApiScan.Program.run arguments).code.toUInt32
