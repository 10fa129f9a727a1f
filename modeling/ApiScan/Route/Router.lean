import ApiScan.Log
import ApiScan.Route.Basic
import ApiScan.Route.Mount
import ApiScan.Text.Letter

set_option autoImplicit false

/-! # Router files (Express)

A router file serves its routes by calls such as `.get('/path', handler)`. Each statement gives at
most one entry. Parameters are written `:name` in a router and `{name}` in a document. Router files
that the main file does not mount are left out. -/

namespace ApiScan.Router

/-! ## Path parameters -/

/-- The parameter at the start of a path, in the form of a document. -/
def parameter? : Text → Option (Text × Text)
  | ':' :: rest =>
    let name := rest.takeWhile Text.isNameChar
    if name.isEmpty then none else some ('{' :: name ++ ['}'], rest.dropWhile Text.isNameChar)
  | _ => none

/-- A path with every parameter in the form of a document. -/
def templateParams (path : Text) : Text := Text.replaceAll parameter? path

/-! ## Entries -/

/-- The methods of router calls. The first one that a statement calls gives its entry. -/
def methods : List Method := [.get, .post, .patch, .put, .delete]

/-- The path of a call of a method at the start of a text. -/
def servedPath? (method : Method) (s : Text) : Option Text := do
  let rest ← Text.after? ('.' :: method.key ++ ['(']) s
  match Text.stripStart rest with
  | quote :: '/' :: rest =>
    if Source.isQuote quote && (rest.dropWhile fun c => !Source.isQuote c).head? = some quote then
      some ('/' :: rest.takeWhile fun c => !Source.isQuote c)
    else none
  | _ => none

/-- The entry of a statement. -/
def entry? (line : Text) : Option RouteEntry :=
  methods.findSome? fun method =>
    (Text.find? (servedPath? method) line).map fun path => ⟨method, templateParams path⟩

/-- The entries of a router file, in order. -/
def entries (text : Text) : List RouteEntry := (Mount.statements text).filterMap entry?

/-! ## Groups -/

/-- The group of one router file. -/
def groupOf (mounts : List (Text × Text)) (lookup : Text → Option Text) (file : Text) :
    Findings RouteGroup :=
  let source := Source.stripExtension file
  match Assoc.get? source mounts with
  | none => .skipped .routerNotMounted
  | some base =>
    match lookup file with
    | none => .skipped .routerUnavailable
    | some text => ⟨[⟨Text.upper source, source, base, entries text⟩], []⟩

/-- A group for each mounted router file whose text `lookup` supplies, in the order of the files. -/
def extract (mainText routesFolder : Text) (files : List Text) (lookup : Text → Option Text) :
    Findings RouteGroup :=
  let mounts := Mount.resolve mainText routesFolder
  .join (files.map (groupOf mounts lookup))

end ApiScan.Router
