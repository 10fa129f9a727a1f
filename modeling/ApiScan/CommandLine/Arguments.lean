import ApiScan.Assoc
import ApiScan.Text.Numeral

set_option autoImplicit false

/-! # Arguments

The first argument names a command, and the others are its options. A switch is turned on by its
name and off by its name behind `no-`; some switches have a letter, too, and letters may stand
together behind one hyphen. The directory of a project is an option, except that the command that
does everything takes it as it is. Without any arguments that command is meant, and it scans. The
last of several settings of one option counts. -/

namespace ApiScan.CommandLine

/-- What is to be done. -/
inductive Verb where
  /-- Configure, build, or both. -/
  | run
  | config
  | build
  | delete
  deriving DecidableEq, Repr

/-- The names of the commands. -/
def verbNames : List (Text × Verb) :=
  [("run".toList, .run), ("config".toList, .config), ("build".toList, .build),
   ("del".toList, .delete)]

/-- An option that is on or off. -/
inductive Switch where
  /-- Nothing is asked. -/
  | auto
  /-- Only the configuration is written, unless a build is asked for, too. -/
  | config
  /-- Only the documentation is built, unless the configuration is asked for, too. -/
  | build
  | routes
  | schemas
  | scan
  | json
  | yaml
  | debug
  deriving DecidableEq, Repr

namespace Switch

/-- The name of a switch. -/
def name : Switch → Text
  | .auto => "auto".toList
  | .config => "config".toList
  | .build => "build".toList
  | .routes => "routes".toList
  | .schemas => "schemas".toList
  | .scan => "scan".toList
  | .json => "json".toList
  | .yaml => "yaml".toList
  | .debug => "debug".toList

/-- The letter of a switch. -/
def letter? : Switch → Option Char
  | .auto => some 'y'
  | .config => some 'c'
  | .build => some 'b'
  | _ => none

/-- Whether a switch is on unless it is set. -/
def unset : Switch → Bool
  | .routes | .schemas => true
  | _ => false

end Switch

/-- The switches of a command. -/
def Verb.switches : Verb → List Switch
  | .run => [.auto, .config, .build, .routes, .schemas, .scan, .json, .yaml, .debug]
  | .config => [.auto, .debug]
  | .build => [.routes, .schemas, .scan, .json, .yaml, .debug]
  | .delete => [.auto, .debug]

/-- A command with its options. -/
structure Command where
  verb : Verb
  /-- The directory of the project, if it is given. -/
  directory : Option Text := none
  /-- The switches that are set. -/
  set : List (Switch × Bool) := []
  deriving DecidableEq, Repr

namespace Command

/-- Whether a switch of a command is on. -/
def isOn (command : Command) (switch : Switch) : Bool :=
  (Assoc.get? switch command.set).getD switch.unset

/-- A command with a switch set. -/
def setSwitch (command : Command) (switch : Switch) (on : Bool) : Command :=
  { command with set := Assoc.put switch on command.set }

end Command

/-! ## Reading arguments -/

/-- Whether an argument can be a value: one that starts with a hyphen is an option unless the hyphen
    stands alone or a number follows it. -/
def isValue (argument : Text) : Bool :=
  match argument with
  | '-' :: rest =>
    match rest with
    | [] => true
    | '.' :: more => more.head?.any Text.isDecimal
    | c :: _ => Text.isDecimal c
  | _ => true

/-- What an option asks for: some switches to be set, and perhaps a directory, which is the rest of
    the argument itself if there is any. -/
structure Request where
  switches : List (Switch × Bool) := []
  directory : Bool := false
  rest : Text := []
  deriving DecidableEq, Repr

/-- The name of an option in its usual form. An underscore stands for a hyphen. -/
def optionName (s : Text) : Text := s.map fun c => if c = '_' then '-' else c

/-- Whether a command takes its directory as an option. -/
def Verb.namesDirectory (verb : Verb) : Bool := verb ≠ .run

/-- What an option in words asks of a command. -/
def readName? (verb : Verb) (name : Text) : Option Request :=
  if verb.namesDirectory && name = "dir".toList then some { directory := true }
  else
    verb.switches.findSome? fun switch =>
      if name = switch.name then some { switches := [(switch, true)] }
      else if name = "no-".toList ++ switch.name then some { switches := [(switch, false)] }
      else none

/-- What letters behind one hyphen ask of a command, each for itself. What follows the letter of the
    directory is the directory. -/
def readLetters? (verb : Verb) : Text → Option Request
  | [] => some {}
  | letter :: more =>
    if verb.namesDirectory && letter = 'p' then some { directory := true, rest := more }
    else
      match verb.switches.find? fun switch => switch.letter? = some letter with
      | none => none
      | some switch =>
        (readLetters? verb more).map fun request =>
          { request with switches := (switch, true) :: request.switches }

/-- What an option asks of a command. -/
def readOption? (verb : Verb) (option : Text) : Option Request :=
  match option with
  | '-' :: '-' :: name => readName? verb (optionName name)
  | '-' :: letters => readLetters? verb letters
  | _ => none

/-- An option without the value that an equals sign joins to it, and that value. -/
def splitValue (option : Text) : Text × List Text :=
  match Text.cut? ['='] option with
  | some (front, value) => (front, [value])
  | none => (option, [])

/-- A command with the directory that it takes as it is, which comes once. -/
def takeDirectory? (command : Command) (value : Text) : Option Command :=
  if command.verb.namesDirectory || command.directory.isSome then none
  else some { command with directory := some value }

/-- A command with the switches that an option sets. -/
def setAll (command : Command) (switches : List (Switch × Bool)) : Command :=
  switches.foldl (fun command (switch, on) => command.setSwitch switch on) command

/-- A command with the options that arguments give. A value that is joined to an option counts as
    the argument after it, and so does the rest of an argument behind the letter of the directory,
    so the characters of the arguments bound the work. All arguments after two hyphens are taken as
    they are. -/
def readArguments? (command : Command) : Nat → List Text → Option Command
  | _, [] => some command
  | 0, _ => none
  | n + 1, argument :: more =>
    if argument = ['-', '-'] then more.foldlM takeDirectory? command
    else if isValue argument then do readArguments? (← takeDirectory? command argument) n more
    else do
      let (option, value) := splitValue argument
      let request ← readOption? command.verb option
      let command := setAll command request.switches
      let joined := if request.rest.isEmpty then value else request.rest :: value
      if !request.directory then readArguments? command n (joined ++ more)
      else
        match joined ++ more with
        | [] => none
        | value :: more =>
          if isValue value then
            readArguments? { command with directory := some value } n more
          else none

/-- The command that arguments spell, if they spell one. -/
def read? : List Text → Option Command
  | [] => some ({ verb := .run : Command }.setSwitch .scan true)
  | name :: more => do
    let verb ← Assoc.get? name verbNames
    readArguments? { verb } (more.foldl (fun bound argument => bound + argument.length + 1) 1) more

end ApiScan.CommandLine
