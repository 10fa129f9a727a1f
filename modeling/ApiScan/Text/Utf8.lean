import ApiScan.Text.Basic

set_option autoImplicit false

/-! # UTF-8

The bytes of a text and back. Reading goes byte by byte through a small state: between characters,
or inside one with its bits so far, the number of bytes still owed and the range of the next byte.
An ill-formed sequence is cut into its maximal subparts, each of which stands for one unreadable
place, so that a lenient reader can put one replacement character there and a strict one refuse.
Line breaks are unified after decoding: a carriage return, alone or before a line feed, reads as a
line feed. -/

namespace ApiScan

/-- The content of a file. -/
abbrev Bytes := List UInt8

namespace Text

/-- The UTF-8 form of a text. -/
def toBytes (s : Text) : Bytes := s.flatMap String.utf8EncodeChar

/-! ## Decoding -/

/-- Where a decoder stands: between characters, or inside one. -/
inductive DecodeState where
  | start
  | inside (bits owed low high : Nat)

/-- What the first byte of a character leads to: a complete character, a state inside a character,
    or nothing where no character starts with that byte. -/
def leadByte (b : Nat) : Option (Char ⊕ DecodeState) :=
  if b < 0x80 then some (.inl (Char.ofNat b))
  else if b < 0xC2 then none
  else if b < 0xE0 then some (.inr (.inside (b - 0xC0) 1 0x80 0xBF))
  else if b = 0xE0 then some (.inr (.inside 0 2 0xA0 0xBF))
  else if b = 0xED then some (.inr (.inside 0xD 2 0x80 0x9F))
  else if b < 0xF0 then some (.inr (.inside (b - 0xE0) 2 0x80 0xBF))
  else if b = 0xF0 then some (.inr (.inside 0 3 0x90 0xBF))
  else if b < 0xF4 then some (.inr (.inside (b - 0xF0) 3 0x80 0xBF))
  else if b = 0xF4 then some (.inr (.inside 4 3 0x80 0x8F))
  else none

/-- The characters of a byte sequence, with `none` for each maximal ill-formed subpart. -/
def decodeFrom : DecodeState → Bytes → List (Option Char)
  | .start, [] => []
  | .inside .., [] => [none]
  | .start, b :: bs =>
    match leadByte b.toNat with
    | some (.inl c) => some c :: decodeFrom .start bs
    | some (.inr state) => decodeFrom state bs
    | none => none :: decodeFrom .start bs
  | .inside bits owed low high, b :: bs =>
    if low ≤ b.toNat ∧ b.toNat ≤ high then
      let bits := bits * 64 + (b.toNat - 0x80)
      if owed ≤ 1 then some (Char.ofNat bits) :: decodeFrom .start bs
      else decodeFrom (.inside bits (owed - 1) 0x80 0xBF) bs
    else
      match leadByte b.toNat with
      | some (.inl c) => none :: some c :: decodeFrom .start bs
      | some (.inr state) => none :: decodeFrom state bs
      | none => none :: none :: decodeFrom .start bs

/-- The text of a well-formed byte sequence. -/
def ofBytes? (bytes : Bytes) : Option Text := (decodeFrom .start bytes).mapM id

/-- The text of any byte sequence, with U+FFFD for each maximal ill-formed subpart. -/
def ofBytesLossy (bytes : Bytes) : Text :=
  (decodeFrom .start bytes).map fun c => c.getD '\uFFFD'

/-! ## Line breaks -/

/-- A text with each carriage return, and a line feed right after it, turned into a line feed. -/
def unifyBreaks : Text → Text
  | [] => []
  | '\r' :: '\n' :: cs => '\n' :: unifyBreaks cs
  | '\r' :: cs => '\n' :: unifyBreaks cs
  | c :: cs => c :: unifyBreaks cs

/-- The text of a source file, whatever its bytes. -/
def ofSource (bytes : Bytes) : Text := unifyBreaks (ofBytesLossy bytes)

end Text

end ApiScan
