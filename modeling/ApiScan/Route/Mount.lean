import ApiScan.Assoc
import ApiScan.Path
import ApiScan.Source.Comment
import ApiScan.Source.Extension
import ApiScan.Text.Blank
import ApiScan.Text.Word

set_option autoImplicit false

/-! # Mounted routers

The main file of an application binds router modules to variables and mounts them at paths:

    const users = require('./routes/user');
    app.use('/users', users);
    app.use('/admin', require('./routes/admin'));

A binding may also be an import statement. The file is read statement by statement. What one
statement says is a value of its own, `Statement`; the statements then act in order on the variables
bound so far and the mounts made so far. A binding counts only for the statements after it, a later
binding of a variable replaces an earlier one, and a later mount of a module replaces the path of an
earlier one. -/

namespace ApiScan.Mount

/-! ## The routes folder -/

/-- A folder value of the configuration as it is looked for in the main file: forward slashes, and
    neither `./` in front nor slashes at the ends. -/
def normalizeFolder (folder : Text) : Text :=
  let folder := Text.strip (folder.map fun c => if c = '\\' then '/' else c)
  Text.dropEndWhile (· = '/') ((Path.dropDotSlash folder).dropWhile (· = '/'))

/-- What follows the last slash of a text; the whole text if it has none. -/
def lastSegment (path : Text) : Text := (path.reverse.takeWhile (· ≠ '/')).reverse

/-- The text that tells that a statement mentions the routes folder: the folder, or the last segment
    of its path, since main files often stand next to it. -/
def folderToken? (folder line : Text) : Option Text :=
  let token := folder ++ ['/']
  if Text.holds token line then some token
  else
    let tail := lastSegment folder ++ ['/']
    if tail ≠ token ∧ Text.holds tail line then some tail else none

/-- The module named after the folder token, up to the closing quote. -/
def moduleName (token line : Text) : Text :=
  match Text.cut? token line with
  | some (_, rest) =>
    Source.stripExtension (Text.strip (rest.takeWhile fun c => !Source.isQuote c))
  | none => []

/-! ## Statements -/

/-- The pieces of a source text that are read one at a time: its lines, cut further at
    semicolons. -/
def statements (text : Text) : List Text :=
  Text.pieces (fun c => c = '\n' || c = ';') (Source.stripComments text)

/-- The call that mounts a router. -/
def useCall : Text := ".use(".toList

/-- The call that loads a module. -/
def requireCall : Text := "require(".toList

/-- The quoted absolute path at the start of a text, if a comma follows it. -/
def pathArgument? : Text → Option Text
  | quote :: '/' :: rest =>
    if Source.isQuote quote then
      match rest.dropWhile fun c => !Source.isQuote c with
      | close :: more =>
        if close = quote ∧ (Text.stripStart more).head? = some ',' then
          some ('/' :: rest.takeWhile fun c => !Source.isQuote c)
        else none
      | [] => none
    else none
  | _ => none

/-- What follows white space that is not empty. -/
def afterBlank? (s : Text) : Option Text :=
  if s.head?.any Text.isBlank then some (Text.stripStart s) else none

/-- The variable that an import at the start of a statement binds. -/
def imported? (line : Text) : Option Text := do
  let rest ← Text.after? "import".toList (Text.stripStart line)
  let rest ← afterBlank? rest
  let rest :=
    match rest with
    | '*' :: more =>
      (do
        let more ← afterBlank? more
        let more ← Text.after? "as".toList more
        afterBlank? more).getD rest
    | _ => rest
  let name := rest.takeWhile Text.isNameChar
  if name.isEmpty then none
  let rest ← afterBlank? (rest.dropWhile Text.isNameChar)
  let rest ← Text.after? "from".toList rest
  if rest.head?.any Text.isWord then none else some name

/-- The variable that a declaration at the start of a text binds to a loaded module. -/
def declared? (before : Option Char) (s : Text) : Option Text := do
  if before.any Text.isWord then none
  let rest ← ["const", "let", "var"].findSome? fun keyword => Text.after? keyword.toList s
  let rest ← afterBlank? rest
  let name := rest.takeWhile Text.isNameChar
  if name.isEmpty then none
  match Text.stripStart (rest.dropWhile Text.isNameChar) with
  | '=' :: rest =>
    let rest ← Text.after? "require".toList (Text.stripStart rest)
    if (Text.stripStart rest).head? = some '(' then some name else none
  | _ => none

/-- The variable that a statement binds. -/
def boundName? (line : Text) : Option Text :=
  match imported? line with
  | some name => some name
  | none => Text.first? declared? none line

/-- The literal at the start of a text, up to the next quote of its kind, as nothing. -/
def emptiedLiteral? : Text → Option (Text × Text)
  | quote :: rest =>
    if Source.isQuote quote then
      match rest.dropWhile fun c => c ≠ quote && c ≠ '\n' with
      | close :: more => if close = quote then some ([], more) else none
      | [] => none
    else none
  | [] => none

/-- A statement without its literals. -/
def withoutLiterals (line : Text) : Text := Text.replaceAll emptiedLiteral? line

/-- What one statement of a main file says. -/
inductive Statement where
  /-- A router module is mounted where it is loaded. -/
  | mountModule (module path : Text)
  /-- The variables that occur in the code are mounted. -/
  | mountVariables (code path : Text)
  /-- A variable is bound to a router module. -/
  | bind (name module : Text)
  /-- Nothing about routers. -/
  | other
  deriving DecidableEq, Repr

/-- Read one statement. -/
def Statement.read (folder line : Text) : Statement :=
  let token? := folderToken? folder line
  if Text.holds useCall line then
    match Text.find? pathArgument? line with
    | none => .other
    | some path =>
      match token? with
      | some token =>
        if Text.holds requireCall line then
          let module := moduleName token line
          if module.isEmpty then .other else .mountModule module path
        else .mountVariables (withoutLiterals line) path
      | none => .mountVariables (withoutLiterals line) path
  else
    match token?, boundName? line with
    | some token, some name =>
      let module := moduleName token line
      if module.isEmpty then .other else .bind name module
    | _, _ => .other

/-! ## Bindings and mounts -/

/-- Whether the start of a text is a whole identifier. -/
def identifier? (name : Text) (before : Option Char) (s : Text) : Option Unit := do
  let rest ← Text.after? name s
  if before.any Text.isNameChar || rest.head?.any Text.isNameChar then none else some ()

/-- Whether an identifier occurs in a text. -/
def references (name code : Text) : Bool := (Text.first? (identifier? name) none code).isSome

/-- The variables bound to modules and the modules mounted at paths so far. -/
structure Mounts where
  bindings : List (Text × Text) := []
  paths : List (Text × Text) := []
  deriving DecidableEq, Repr

/-- The effect of one statement. -/
def Mounts.step (mounts : Mounts) : Statement → Mounts
  | .mountModule module path => { mounts with paths := Assoc.put module path mounts.paths }
  | .mountVariables code path =>
    let mounted := mounts.bindings.filter fun (name, _) => references name code
    { mounts with
      paths := mounted.foldl (fun paths (_, module) => Assoc.put module path paths) mounts.paths }
  | .bind name module => { mounts with bindings := Assoc.put name module mounts.bindings }
  | .other => mounts

/-- The effect of a list of statements, in order. -/
def Mounts.run (statements : List Statement) : Mounts := statements.foldl Mounts.step {}

/-- The mount path of each router module of a main file, in the order of their first mounts. -/
def resolve (mainText routesFolder : Text) : List (Text × Text) :=
  let folder := normalizeFolder routesFolder
  if folder.isEmpty then []
  else (Mounts.run ((statements mainText).map (Statement.read folder))).paths

end ApiScan.Mount
