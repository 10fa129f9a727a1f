import ApiScan.Text.Basic
import ApiScan.Text.CaseTable
import ApiScan.Text.Ranges

set_option autoImplicit false

/-! # Upper and lower case

Case mapping of whole texts, by the full mappings of Unicode: a character may map to several, and
the Greek capital sigma maps to the final form where a word ends. -/

namespace ApiScan.Text

/-- The image of a code point under a table of runs. -/
def shifted (n : Nat) : List CaseRun → Nat
  | [] => n
  | run :: more =>
    if run.first ≤ n ∧ n ≤ run.last ∧ (n - run.first) % run.step = 0 then
      (Int.ofNat n + run.shift).toNat
    else shifted n more

/-- The image of a character under a table of longer images and a table of runs. -/
def mapped (long : List (Nat × List Nat)) (runs : List CaseRun) (c : Char) : Text :=
  match long.lookup c.toNat with
  | some image => image.map Char.ofNat
  | none => [Char.ofNat (shifted c.toNat runs)]

/-- The lower-case form of one character, apart from the final sigma. -/
def lowerChar (c : Char) : Text :=
  if c.toNat < 0x80 then
    if 65 ≤ c.toNat && c.toNat ≤ 90 then [Char.ofNat (c.toNat + 32)] else [c]
  else mapped longLower lowerRuns c

/-- The upper-case form of one character. -/
def upperChar (c : Char) : Text :=
  if c.toNat < 0x80 then
    if 97 ≤ c.toNat && c.toNat ≤ 122 then [Char.ofNat (c.toNat - 32)] else [c]
  else mapped longUpper upperRuns c

/-- Whether the next character that counts for case, skipping those that are passed over, is a
    cased one. -/
def meetsCased : Text → Bool
  | [] => false
  | c :: cs =>
    if inRanges c.toNat ignoredRanges then meetsCased cs else inRanges c.toNat casedRanges

/-- Lower case of a text, where `front` holds the characters already passed, nearest first. A
    capital sigma takes its final form when a cased character stands before it and none after. -/
def lowerAfter (front : Text) : Text → Text
  | [] => []
  | c :: cs =>
    let image :=
      if c = 'Σ' then
        if meetsCased front && !meetsCased cs then ['ς'] else ['σ']
      else lowerChar c
    image ++ lowerAfter (c :: front) cs

/-- A text in lower case. -/
def lower (s : Text) : Text := lowerAfter [] s

/-- A text in upper case. -/
def upper (s : Text) : Text := s.flatMap upperChar

end ApiScan.Text
