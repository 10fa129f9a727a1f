import ApiScan.Terminal
import ApiScan.Text.Emoji
import ApiScan.Work

set_option autoImplicit false

/-! # Sessions

A session is what a command does: it works on files, talks on a terminal, and reports problems on a
channel of their own. Whatever it has done and shown stays when it stops before its end, in a failure
or at a text that the terminal refuses to show. -/

/-! ## Markup

The lines of a session are marked up: a word between brackets starts a style, the same word behind a
slash ends it, and a name between colons stands for an emoji. Styles are not shown. A backslash in
front of a bracket makes it an ordinary one, so a text that is put into a line is escaped first. -/

namespace ApiScan.CommandLine.Markup

/-- Whether a character can start a tag. -/
def startsTag (c : Char) : Bool := ('a' ≤ c && c ≤ 'z') || c = '#' || c = '/' || c = '@'

/-- The tag at the start of a text, with its brackets, and what follows it. -/
def tag? : Text → Option (Text × Text)
  | '[' :: c :: cs =>
    let word := cs.takeWhile fun c => c ≠ '[' && c ≠ ']'
    match cs.drop word.length with
    | ']' :: rest => if startsTag c then some ('[' :: c :: word ++ [']'], rest) else none
    | _ => none
  | _ => none

/-- The backslashes and the tag behind them at the start of a text, and what follows. -/
def slashedTag? (s : Text) : Option (Nat × Text × Text) :=
  let count := (s.takeWhile (· = '\\')).length
  (tag? (s.drop count)).map fun (tag, rest) => (count, tag, rest)

/-- A text whose tags are ordinary text: backslashes in front of a tag are doubled, with one more to
    escape the tag. A backslash alone at the end is doubled, too. -/
def escape (s : Text) : Text :=
  let escaped := Text.replaceAll (fun s =>
    (slashedTag? s).map fun (count, tag, rest) =>
      (List.replicate (2 * count + 1) '\\' ++ tag, rest)) s
  if Text.endsWith ['\\'] escaped && !Text.endsWith ['\\', '\\'] escaped then escaped ++ ['\\']
  else escaped

/-- The pieces of plain text in a marked-up text. A tag behind an odd number of backslashes is plain
    text, and two backslashes in front of a tag stand for one. `front` holds the piece before the
    place, its last character first, and there are `n` characters at most. -/
def piecesFrom (front : Text) : Nat → Text → List Text
  | 0, _ => [front.reverse]
  | _ + 1, [] => [front.reverse]
  | n + 1, c :: cs =>
    match slashedTag? (c :: cs) with
    | some (count, tag, rest) =>
      front.reverse :: List.replicate (count / 2) '\\' :: (if count % 2 = 1 then tag else []) ::
        piecesFrom [] n rest
    | none => piecesFrom (c :: front) n cs

/-- A piece of plain text as it is shown. A backslash in front of a bracket is left out. -/
def shownPiece (s : Text) : Text :=
  Text.withEmoji
    (Text.replaceAll (fun s => (Text.after? ['\\', '['] s).map fun rest => (['['], rest)) s)

/-- A marked-up text as it is shown. -/
def shown (s : Text) : Text := (piecesFrom [] (s.length + 1) s).flatMap shownPiece

/-- A text in a style. -/
def styled (style : String) (s : Text) : Text :=
  '[' :: style.toList ++ [']'] ++ s ++ ['[', '/'] ++ style.toList ++ [']']

end ApiScan.CommandLine.Markup

namespace ApiScan.CommandLine

/-- What a command works on and what it has shown. -/
structure World where
  tree : Tree
  /-- The lines of the input that are still to come. -/
  input : List Text := []
  /-- What was shown. -/
  out : Text := []
  /-- The problems that were reported. -/
  problems : List Text := []
  log : Log := []
  deriving DecidableEq, Repr

/-- Why a command stops before its end. -/
inductive Stop where
  | failed (failure : Failure)
  /-- The terminal refused to show a text. -/
  | refused (text : Points)
  deriving DecidableEq, Repr

/-- Why a command stopped, in words. -/
def Stop.message : Stop → Text
  | .failed failure => failure.message
  | .refused text => Terminal.refusal text

/-- A command under way. -/
abbrev Session := ExceptT Stop (StateM World)

namespace Session

variable {α : Type}

/-- End in a failure. -/
def fail (failure : Failure) : Session α := throw (.failed failure)

/-- Do work on the files. -/
def work (work : Work α) : Session α := fun world =>
  let (tree, log, result) := work world.tree
  (result.mapError .failed, { world with tree, log := world.log ++ log })

/-- Look at the files. -/
def look (survey : Survey α) : Session α := work (.ofSurvey survey)

/-- Hold a dialogue. -/
def converse (dialogue : Dialogue α) : Session α := fun world =>
  match dialogue world.input with
  | (shown, some (a, rest)) => (.ok a, { world with input := rest, out := world.out ++ shown })
  | (shown, none) =>
    (.error (.failed .endOfInput), { world with input := [], out := world.out ++ shown })

/-- Hold an inquiry. -/
def inquire (inquiry : Inquiry α) : Session α := do
  match ← converse inquiry.run with
  | .ok a => return a
  | .error text => throw (.refused text)

/-- A line of markup as the terminal shows it. -/
def shownLine (line : Text) : Text := Terminal.shown (Markup.shown line)

/-- Show a line of markup. -/
def sayMarkup (line : Text) : Session Unit :=
  modify fun world => { world with out := world.out ++ shownLine line ++ ['\n'] }

/-- A line that is shown as it is, in bold letters. -/
def plainLine (line : Text) : Text := Markup.styled "bold" (Markup.escape line)

/-- Show a line. -/
def say (line : Text) : Session Unit := sayMarkup (plainLine line)

/-- Show a line that may hold halves of surrogate pairs. The terminal refuses it if it does. -/
def sayPoints (line : Points) : Session Unit :=
  match line.toText? with
  | some line => say line
  | none => throw (.refused (line.mapShown fun line => shownLine (plainLine line) ++ ['\n']))

/-- A text behind a name. -/
def labelled (name : String) (text : Text) : Text :=
  Markup.styled "cyan" (name.toList ++ [':']) ++ ' ' :: Markup.escape text

/-- Show what a name stands for. -/
def sayField (name : String) (value : Text) : Session Unit := sayMarkup (labelled name value)

/-- Report a problem of a kind. -/
def report (kind : String) (problem : Text) : Session Unit :=
  modify fun world =>
    { world with problems := world.problems ++ [shownLine (labelled kind problem)] }

/-- Warn of a problem. -/
def warn (problem : Text) : Session Unit := report "warning" problem

/-- Report an error. -/
def complain (problem : Text) : Session Unit := report "error" problem

end Session

end ApiScan.CommandLine
