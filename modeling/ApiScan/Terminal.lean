import ApiScan.Assoc
import ApiScan.Text.Basic
import ApiScan.Text.Blank
import ApiScan.Text.CodePoint
import ApiScan.Text.Quoted
import ApiScan.Text.Ranges
import ApiScan.Text.WidthTable

set_option autoImplicit false

/-! # Terminals

How a text is shown on a terminal, and how questions are asked there. A terminal gives lines until
its input ends. A question is shown with its default answer, which an empty line stands for, and it
is asked again for as long as the answer is none that it takes. A terminal takes texts as UTF-8,
which has no form for half of a surrogate pair: a text that holds one is refused as a whole. -/

/-! ## Widths of texts

How many columns of a terminal a text takes. Most characters take one, wide ones two, and marks that
combine with another character none. Two invisible characters change their neighbours: a joiner
melts the character after it into the one before, and a selector makes a picture of the character
before it. -/

namespace ApiScan.Text

/-- How many columns a character takes by itself. -/
def charWidth (c : Char) : Nat :=
  let n := c.toNat
  if n < 0x20 then 0
  else if n < 0x7F then 1
  else if n < 0xA0 || inRanges n zeroWidthRanges then 0
  else if inRanges n wideRanges then 2
  else 1

/-- The invisible character that joins two others. -/
def joiner : Char := '\u200D'

/-- The invisible character that asks for a picture of the character before it. -/
def selector : Char := '\uFE0F'

/-- Whether a character becomes wide as a picture. -/
def widens (c : Char) : Bool := inRanges c.toNat widenedRanges

/-- The width of a text behind `last`, the last character that takes a column and was not selected
    as a picture yet. -/
def widthAfter (last : Option Char) : Text → Nat
  | [] => 0
  | c :: cs =>
    if c = joiner then
      match cs with
      | [] => 0
      | _ :: more => widthAfter last more
    else if c = selector then
      (if last.any widens then 1 else 0) + widthAfter none cs
    else charWidth c + widthAfter (if charWidth c = 0 then last else some c) cs

/-- How many columns a text takes. -/
def width (s : Text) : Nat := widthAfter none s

end ApiScan.Text

namespace ApiScan

/-! ## Showing texts -/

namespace Terminal

/-- The characters that move the cursor or ring the bell, which are not shown. -/
def silent : List Char := ['\x07', '\x08', '\x0b', '\x0c', '\r']

/-- The distance between two tab stops. -/
def tabWidth : Nat := 8

/-- What a tab shows behind a piece of a line that starts at a tab stop: one blank, and more up to
    the next stop. -/
def tabBlanks (piece : Text) : Text :=
  List.replicate (tabWidth - Text.width piece % tabWidth) ' '

/-- A line as it is shown: a tab goes to the next stop. -/
def shownLine (line : Text) : Text :=
  let pieces := Text.pieces (· = '\t') line
  pieces.dropLast.flatMap (fun piece => piece ++ tabBlanks piece) ++ pieces.getLast?.getD []

/-- A text as it is shown. -/
def shown (text : Text) : Text :=
  Text.joinWith ['\n'] ((Text.lines (text.filter (· ∉ silent))).map shownLine)

/-- What is told of a text that a terminal refuses: the first halves in it that stand together, and
    where they stand. -/
def refusal (text : Points) : Text :=
  let start := (text.takeWhile fun point => point.char?.isSome).length
  let halves := (text.drop start).takeWhile fun point => point.char?.isNone
  let found :=
    match halves with
    | [half] =>
      "character '".toList ++ Text.numberEscape half.toNat ++ "' in position ".toList
        ++ Text.ofNat start
    | _ =>
      "characters in position ".toList ++ Text.ofNat start ++ ['-']
        ++ Text.ofNat (start + halves.length - 1)
  "'utf-8' codec can't encode ".toList ++ found ++ ": surrogates not allowed\n".toList
    ++ "*** You may need to add PYTHONIOENCODING=utf-8 to your environment ***".toList

/-- The lines that an input gives: a line break ends a line, and what follows the last one is a line
    if it is not empty. -/
def linesOf (input : Text) : List Text :=
  let lines := Text.lines input
  if lines.getLast? = some [] then lines.dropLast else lines

end Terminal

/-! ## Dialogues -/

/-- A dialogue on a terminal: from the lines that are still to come to the text that is shown and,
    unless the lines end too early, the result and the lines that remain. -/
def Dialogue (α : Type) := List Text → Text × Option (α × List Text)

namespace Dialogue

variable {α : Type}

instance : Monad Dialogue where
  pure a := fun lines => ([], some (a, lines))
  bind dialogue next := fun lines =>
    match dialogue lines with
    | (shown, none) => (shown, none)
    | (shown, some (a, rest)) =>
      let after := next a rest
      (shown ++ after.1, after.2)

/-- Ask a question until `read` takes the answer; `retry` is shown after each answer that it does
    not take. -/
def ask (question retry : Text) (unset : α) (read : Text → Option α) : Dialogue α
  | [] => (question, none)
  | [] :: lines => (question, some (unset, lines))
  | line :: lines =>
    match read line with
    | some answer => (question, some (answer, lines))
    | none =>
      let again := ask question retry unset read lines
      (question ++ retry ++ again.1, again.2)

/-- A question with its default answer. -/
def withDefault (question answer : Text) : Text :=
  Terminal.shown (question ++ " (".toList ++ answer ++ "): ".toList)

/-- A question with the choices that it takes. -/
def withChoices (question : Text) (choices : List Text) : Text :=
  question ++ " [".toList ++ Text.joinWith ['/'] choices ++ [']']

/-- What is shown after an answer that is none of the choices. -/
def choiceRetry : Text := "Please select one of the available options\n".toList

/-- Ask for one of some choices, by its exact name. -/
def askChoice (question : Text) (choices : List (Text × α)) (unset : Text × α) : Dialogue α :=
  ask (withDefault (withChoices question (choices.map Prod.fst)) unset.1) choiceRetry unset.2
    fun line => Assoc.get? (Text.strip line) choices

/-- What is shown after an answer that is neither yes nor no. -/
def yesNoRetry : Text := "Please enter Y or N\n".toList

/-- The letter of a yes or no. -/
def yesNoLetter (answer : Bool) : Text := if answer then ['y'] else ['n']

/-- Ask for a yes or no. -/
def askYesNo (question : Text) (unset : Bool) : Dialogue Bool :=
  let letters := [true, false].map yesNoLetter
  ask (withDefault (withChoices question letters) (yesNoLetter unset)) yesNoRetry unset fun line =>
    match Text.strip line with
    | ['y'] | ['Y'] => some true
    | ['n'] | ['N'] => some false
    | _ => none

/-- Break the dialogue off, as it ends when there are no lines left. -/
def breakOff : Dialogue α := fun _ => ([], none)

end Dialogue

/-- A dialogue about texts that may hold halves of surrogate pairs. It ends with its result or with
    the text that the terminal refused to show. -/
abbrev Inquiry := ExceptT Points Dialogue

namespace Inquiry

/-- A dialogue of which the terminal refuses nothing. -/
def ofDialogue {α : Type} (dialogue : Dialogue α) : Inquiry α := ExceptT.lift dialogue

/-- Ask for a text, which loses the white space around it. The terminal refuses the question if the
    default answer holds a half. -/
def askText (question : Text) (unset : Points) : Inquiry Points :=
  match unset.toText? with
  | some shown =>
    ofDialogue <| Dialogue.ask (Dialogue.withDefault question shown) [] unset fun line =>
      some (Points.ofText (Text.strip line))
  | none => throw (unset.mapShown (Dialogue.withDefault question))

/-- An inquiry as a dialogue, which breaks off at a text that the terminal refuses. -/
def answered {α : Type} (inquiry : Inquiry α) : Dialogue α := do
  match ← inquiry.run with
  | .ok a => return a
  | .error _ => Dialogue.breakOff

end Inquiry

end ApiScan
