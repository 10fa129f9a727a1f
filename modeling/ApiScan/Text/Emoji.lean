import ApiScan.Text.Blank
import ApiScan.Text.Digits
import ApiScan.Text.EmojiTable
import ApiScan.Text.Letter

set_option autoImplicit false

/-! # Emoji by name

A name between two colons stands for an emoji. The name may end in the words `-text` or `-emoji`,
which ask for one of the two forms of a character that has both. A name that stands for nothing is
left as it is, with both of its colons. -/

namespace ApiScan.Text

/-- The emoji of a name, whatever the case of its letters. -/
def emoji? (name : Text) : Option Text :=
  emojiNames.findSome? fun line =>
    (pieces (· = ';') line.toList).findSome? fun entry =>
      match words entry with
      | [] => none
      | known :: codes =>
        if known = lower name then some (codes.map fun code => Char.ofNat (toNat 16 code))
        else none

/-- The words that ask for a form, and the characters that select it. -/
def emojiForms : List (Text × Text) :=
  [("-emoji:".toList, ['\uFE0F']), ("-text:".toList, ['\uFE0E']), (":".toList, [])]

/-- The end of a name at the start of a text: what selects the form, and the rest of the text. -/
def nameEnd? (s : Text) : Option (Text × Text) :=
  emojiForms.findSome? fun (mark, form) => (after? mark s).map fun rest => (form, rest)

/-- The shortest name in front of its end, which holds no white space: the name, what selects the
    form, and the rest of the text. -/
def namePart? : Text → Option (Text × Text × Text)
  | [] => none
  | c :: cs =>
    match nameEnd? (c :: cs) with
    | some (form, rest) => some ([], form, rest)
    | none =>
      if isBlank c then none
      else (namePart? cs).map fun (name, form, rest) => (c :: name, form, rest)

/-- The name between colons at the start of a text: what is shown for it, and the rest. -/
def emojiCode? : Text → Option (Text × Text)
  | ':' :: s => do
    let (name, form, rest) ← namePart? s
    match emoji? name with
    | some emoji => some (emoji ++ form, rest)
    | none => some (':' :: s.take (s.length - rest.length), rest)
  | _ => none

/-- A text with emoji for their names. -/
def withEmoji (s : Text) : Text := replaceAll emojiCode? s

end ApiScan.Text
