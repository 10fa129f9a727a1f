import ApiScan.Text.Basic

set_option autoImplicit false

/-! # Code points

The texts of JSON and YAML can name code points by number, and some of the numbers are kept for the
halves of surrogate pairs: no character has them, but such a half may stand in a text alone and is
written out as it was read. A value of these formats is therefore a list of code points, of which
the characters are all but 2048. -/

namespace ApiScan

/-- A code point. -/
inductive CodePoint where
  | char (c : Char)
  /-- One half of a surrogate pair, which stands alone. -/
  | half (index : Fin 2048)
  deriving DecidableEq, Repr

namespace CodePoint

/-- The number of a code point. -/
def toNat : CodePoint → Nat
  | .char c => c.toNat
  | .half index => 0xD800 + index

/-- The code point of a number, which is below `0x110000`. -/
def ofNat? (n : Nat) : Option CodePoint :=
  if h : 0xD800 ≤ n ∧ n < 0xE000 then some (.half ⟨n - 0xD800, by omega⟩)
  else if n < 0x110000 then some (.char (Char.ofNat n))
  else none

/-- The character of a code point, if it is one. -/
def char? : CodePoint → Option Char
  | .char c => some c
  | .half _ => none

/-- A code point as a character, with U+FFFD for a half. -/
def shown : CodePoint → Char
  | .char c => c
  | .half _ => '\uFFFD'

/-- A code point as a character of a path, with NUL for a half. -/
def inPath : CodePoint → Char
  | .char c => c
  | .half _ => '\x00'

end CodePoint

/-- A text that may hold halves of surrogate pairs. -/
abbrev Points := List CodePoint

namespace Points

/-- A text as code points. -/
def ofText (s : Text) : Points := s.map .char

instance : Coe Text Points := ⟨ofText⟩

/-- The text of code points that are all characters. -/
def toText? (s : Points) : Option Text := s.mapM CodePoint.char?

/-- The text of code points, with U+FFFD for each half. -/
def shown (s : Points) : Text := s.map CodePoint.shown

/-- The text of code points as a part of a path. The name of no file holds a half, and none holds a
    NUL: with one in its place the path is refused wherever the half would be. -/
def inPath (s : Points) : Text := s.map CodePoint.inPath

/-- A text with code points put back for its U+FFFD, from left to right. -/
def putBack : Points → Text → Points
  | point :: more, c :: cs =>
    if c = '\uFFFD' then point :: putBack more cs else .char c :: putBack (point :: more) cs
  | _, cs => ofText cs

/-- What a change of texts makes of code points. They are changed as they are shown, and each U+FFFD,
    which the change has to keep, is then what it was before. -/
def mapShown (change : Text → Text) (s : Points) : Points :=
  putBack (s.filter fun point => point.shown = '\uFFFD') (change s.shown)

/-- The work of `mapRuns`, where `front` holds the run before the place, its last character
    first. -/
def mapRunsAfter (change : Text → Text) (front : Text) : Points → Points
  | [] => ofText (change front.reverse)
  | .char c :: more => mapRunsAfter change (c :: front) more
  | .half index :: more =>
    ofText (change front.reverse) ++ .half index :: mapRunsAfter change [] more

/-- Change each run of characters between halves. -/
def mapRuns (change : Text → Text) (s : Points) : Points := mapRunsAfter change [] s

@[simp]
theorem toText?_ofText (s : Text) : toText? (ofText s) = some s := by
  unfold toText? ofText
  induction s with
  | nil => rfl
  | cons c cs ih => simp [CodePoint.char?, ih]

theorem toText?_eq_some_iff {s : Points} {t : Text} : s.toText? = some t ↔ s = ofText t := by
  constructor
  · intro h
    induction s generalizing t with
    | nil =>
        obtain rfl := Option.some.inj h
        rfl
    | cons point s ih =>
        rw [toText?, List.mapM_cons] at h
        obtain ⟨c, hc, h⟩ := Option.bind_eq_some_iff.1 h
        obtain ⟨t, ht, h⟩ := Option.bind_eq_some_iff.1 h
        obtain rfl := Option.some.inj h
        cases point with
        | half index => exact nomatch hc
        | char d =>
            obtain rfl : d = c := Option.some.inj hc
            rw [ih ht]
            rfl
  · rintro rfl
    exact toText?_ofText t

theorem ofText_inj {s t : Text} : ofText s = ofText t ↔ s = t := by
  constructor
  · intro h
    have := congrArg toText? h
    simpa using this
  · rintro rfl
    rfl

@[simp]
theorem shown_ofText (s : Text) : shown (ofText s) = s := by
  unfold shown ofText
  induction s with
  | nil => rfl
  | cons c cs ih => simpa [CodePoint.shown] using ih

@[simp]
theorem inPath_ofText (s : Text) : inPath (ofText s) = s := by
  unfold inPath ofText
  induction s with
  | nil => rfl
  | cons c cs ih => simpa [CodePoint.inPath] using ih

end Points

end ApiScan
