import ApiScan.Config
import ApiScan.Text.Quoted
import ApiScan.Tree.Basic
import ApiScan.Yaml.Fault
import ApiScan.Yaml.Value

set_option autoImplicit false

/-! # Failures

Everything that can end a run without a result, by its cause, and the words in which it is told. -/

namespace ApiScan

namespace FileFault

/-- The number and the words of a refusal. -/
def reason : FileFault → Text
  | .notFound => "[Errno 2] No such file or directory".toList
  | .notAFolder => "[Errno 20] Not a directory".toList
  | .isAFolder => "[Errno 21] Is a directory".toList
  | .alreadyThere => "[Errno 17] File exists".toList
  | .nameTooLong => "[Errno 36] File name too long".toList
  | .notEmpty => "[Errno 39] Directory not empty".toList
  | .nulInPath => "embedded null byte".toList

/-- A refusal in words, with the path in quotes. -/
def message (fault : FileFault) (path : Path) : Text :=
  if fault = .nulInPath then fault.reason
  else fault.reason ++ ": ".toList ++ Text.quoted path.text

end FileFault

/-- Why a run ended without a result. -/
inductive Failure where
  /-- The configuration file is no readable JSON text. -/
  | unreadableConfig (path : Path)
  | configNotAnObject (path : Path)
  | invalidConfig (issues : List Config.FieldIssue)
  | nameMissing
  | routesMissing
  | noPackageFile (root : Path)
  /-- The package file is no readable JSON text. -/
  | unreadablePackage (path : Path)
  | noDependencies
  /-- The dependencies are of a kind that holds nothing. -/
  | notSearchable (kind : Json.Kind)
  /-- The package file is of a kind that has no fields. -/
  | noFields (kind : Json.Kind)
  /-- A folder of the project is missing; the first part says what it is for. -/
  | noFolder (purpose : String) (path : Path)
  | noMainFile (path : Path)
  | docsNotMade (path : Path)
  /-- What is known of the project makes no valid configuration. -/
  | invalidAnswers (issues : List Config.FieldIssue)
  /-- A documented item has no JSON form. -/
  | noJsonForm (fault : Yaml.Value.FormFault)
  /-- A documented value stands for nothing. -/
  | badDocs (fault : Yaml.Fault)
  /-- A whole number of a JSON file has too many digits. -/
  | numberTooLong (digits : Nat)
  /-- A file that has to be UTF-8 is not. -/
  | notUtf8
  | endOfInput
  | file (fault : FileFault) (path : Path)
  deriving DecidableEq, Repr

namespace Failure

/-- The name of a kind of JSON value in a message. -/
def kindName : Json.Kind → Text
  | .null => "NoneType".toList
  | .bool => "bool".toList
  | .int => "int".toList
  | .float => "float".toList
  | .str => "str".toList
  | .list => "list".toList
  | .object => "dict".toList

/-- The name of the configuration file. -/
def configFile : Text := "swagme.config.json".toList

/-- A failure in words. -/
def message : Failure → Text
  | .unreadableConfig path => "could not read ".toList ++ path.text
  | .configNotAnObject path => path.text ++ " must contain a JSON object".toList
  | .invalidConfig _ => "invalid ".toList ++ configFile
  | .nameMissing => "please make sure you enter the name".toList
  | .routesMissing => "please make sure you enter the routes folder".toList
  | .noPackageFile root => "could not find package.json in ".toList ++ root.text
  | .unreadablePackage path => "could not read ".toList ++ path.text
  | .noDependencies => "dependencies not found in package.json".toList
  | .notSearchable kind =>
    "argument of type '".toList ++ kindName kind ++ "' is not iterable".toList
  | .noFields kind => ['\''] ++ kindName kind ++ "' object has no attribute 'get'".toList
  | .noFolder purpose path => purpose.toList ++ " folder was not found: ".toList ++ path.text
  | .noMainFile path => "main file was not found: ".toList ++ path.text
  | .docsNotMade path => "could not create ".toList ++ path.text
  | .invalidAnswers _ => "validation error".toList
  | .noJsonForm (.value kind) =>
    "Object of type ".toList ++ kind.toList ++ " is not JSON serializable".toList
  | .noJsonForm (.key kind) =>
    "keys must be str, int, float, bool or None, not ".toList ++ kind.toList
  | .noJsonForm .intTooLong =>
    "Exceeds the limit (".toList ++ Text.ofNat Text.maxDigits
      ++ " digits) for integer string conversion; ".toList
      ++ "use sys.set_int_max_str_digits() to increase the limit".toList
  | .noJsonForm .cyclic => "Circular reference detected".toList
  | .badDocs fault => fault.message
  | .numberTooLong digits => Text.tooLongMessage digits
  | .notUtf8 => "'utf-8' codec can't decode".toList
  | .endOfInput => "EOF when reading a line".toList
  | .file fault path => fault.message path

end Failure

end ApiScan
