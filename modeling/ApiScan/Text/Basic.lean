set_option autoImplicit false

/-! # Texts

A text is the list of its characters. Everything this library reads is scanned from left to right,
and on a list that is recursion on the data: a scanner takes the rest of the text and returns what
it found together with what is left. This module holds the operations that do not depend on a
character class: searching, cutting, splitting, and replacing leftmost matches. -/

namespace ApiScan

/-- A text: a list of characters. -/
abbrev Text := List Char

namespace Text

/-! ## Prefixes and suffixes -/

/-- What follows `mark` at the start of a text, if the text starts with it. -/
def after? : Text → Text → Option Text
  | [], s => some s
  | _ :: _, [] => none
  | m :: ms, c :: cs => if m = c then after? ms cs else none

/-- Whether a text starts with `mark`. -/
def startsWith (mark s : Text) : Bool := (after? mark s).isSome

/-- Whether a text ends with `mark`. -/
def endsWith (mark s : Text) : Bool := startsWith mark.reverse s.reverse

theorem after?_eq_some_iff {mark s rest : Text} : after? mark s = some rest ↔ s = mark ++ rest := by
  induction mark generalizing s with
  | nil => simp [after?, eq_comm]
  | cons m ms ih =>
    cases s with
    | nil => simp [after?]
    | cons c cs =>
      by_cases h : m = c
      · subst h; simp [after?, ih]
      · simp [after?, h, Ne.symm h]

/-- Drop the longest suffix of characters in the class `p`. -/
def dropEndWhile (p : Char → Bool) (s : Text) : Text := (s.reverse.dropWhile p).reverse

/-! ## Searching -/

/-- Cut a text at the first occurrence of `mark`: what stands before it and what follows it. -/
def cut? (mark : Text) : Text → Option (Text × Text)
  | [] => (after? mark []).map fun rest => ([], rest)
  | c :: cs =>
    match after? mark (c :: cs) with
    | some rest => some ([], rest)
    | none => (cut? mark cs).map fun (front, rest) => (c :: front, rest)

/-- Whether `mark` occurs in a text. -/
def holds (mark s : Text) : Bool := (cut? mark s).isSome

/-- How many characters stand before the first occurrence of `mark`. -/
def indexOf? (mark s : Text) : Option Nat := (cut? mark s).map fun (front, _) => front.length

theorem eq_of_cut?_eq_some {mark s front rest : Text} (h : cut? mark s = some (front, rest)) :
    s = front ++ mark ++ rest := by
  induction s generalizing front with
  | nil =>
    simp only [cut?, Option.map_eq_some_iff] at h
    obtain ⟨r, hr, he⟩ := h
    obtain ⟨rfl, rfl⟩ := Prod.mk.inj he
    simpa using after?_eq_some_iff.1 hr
  | cons c cs ih =>
    unfold cut? at h
    split at h
    · next r hr =>
      obtain ⟨rfl, rfl⟩ := Prod.mk.inj (Option.some.inj h)
      simpa using after?_eq_some_iff.1 hr
    · simp only [Option.map_eq_some_iff] at h
      obtain ⟨⟨f, r⟩, hf, he⟩ := h
      obtain ⟨rfl, rfl⟩ := Prod.mk.inj he
      rw [ih hf]; rfl

/-- The leftmost place where `found` recognises something. `found` sees the character before the
    place, if there is one, and the text from the place on; the end of the text is a place too. -/
def first? {α : Type} (found : Option Char → Text → Option α) (before : Option Char) :
    Text → Option α
  | [] => found before []
  | c :: cs =>
    match found before (c :: cs) with
    | some a => some a
    | none => first? found (some c) cs

/-- The leftmost place where `found` recognises something, whatever stands before the place. -/
def find? {α : Type} (found : Text → Option α) (s : Text) : Option α :=
  first? (fun _ rest => found rest) none s

/-! ## Splitting -/

/-- The pieces of a text between the characters of the class `p`; always at least one. -/
def pieces (p : Char → Bool) : Text → List Text
  | [] => [[]]
  | c :: cs =>
    if p c then [] :: pieces p cs
    else
      match pieces p cs with
      | [] => [[c]]
      | piece :: more => (c :: piece) :: more

/-- The lines of a text. -/
def lines (s : Text) : List Text := pieces (· = '\n') s

/-- Join texts with a separator between neighbours. -/
def joinWith (sep : Text) : List Text → Text
  | [] => []
  | [s] => s
  | s :: more => s ++ sep ++ joinWith sep more

/-! ## Replacing -/

/-- Replace the first occurrence of `mark`, if there is one. -/
def replaceFirst (mark new s : Text) : Text :=
  match cut? mark s with
  | some (front, rest) => front ++ new ++ rest
  | none => s

/-- The work of `replaceAll` with a bound on the number of steps. -/
def replaceAllWithin (found : Text → Option (Text × Text)) : Nat → Text → Text
  | 0, s => s
  | _ + 1, [] => []
  | n + 1, c :: cs =>
    match found (c :: cs) with
    | some (new, rest) => new ++ replaceAllWithin found n rest
    | none => c :: replaceAllWithin found n cs

/-- Replace every leftmost match, from left to right and without overlap: where `found` recognises
    the start of the rest it gives the replacement and what follows the match, and everywhere else
    one character is kept. Each step consumes a character, so the length bounds their number. -/
def replaceAll (found : Text → Option (Text × Text)) (s : Text) : Text :=
  replaceAllWithin found s.length s

/-- A recogniser that always consumes something. -/
def Consumes (found : Text → Option (Text × Text)) : Prop :=
  ∀ s new rest, found s = some (new, rest) → rest.length < s.length

theorem replaceAllWithin_eq {found : Text → Option (Text × Text)} (hf : Consumes found) {m n : Nat}
    {s : Text} (hm : s.length ≤ m) (hn : s.length ≤ n) :
    replaceAllWithin found m s = replaceAllWithin found n s := by
  induction m generalizing n s with
  | zero =>
    obtain rfl : s = [] := List.length_eq_zero_iff.1 (Nat.le_zero.1 hm)
    cases n <;> rfl
  | succ m ih =>
    cases s with
    | nil => cases n <;> rfl
    | cons c cs =>
      cases n with
      | zero => simp at hn
      | succ n =>
        simp only [List.length_cons, Nat.add_le_add_iff_right] at hm hn
        unfold replaceAllWithin
        split
        · next new rest h =>
          have := hf _ _ _ h
          simp only [List.length_cons] at this
          rw [ih (by omega) (by omega : rest.length ≤ n)]
        · rw [ih hm hn]

theorem replaceAll_nil (found : Text → Option (Text × Text)) : replaceAll found [] = [] := rfl

theorem replaceAll_of_found {found : Text → Option (Text × Text)} (hf : Consumes found)
    {c : Char} {cs new rest : Text} (h : found (c :: cs) = some (new, rest)) :
    replaceAll found (c :: cs) = new ++ replaceAll found rest := by
  have := hf _ _ _ h
  simp only [List.length_cons] at this
  unfold replaceAll
  rw [List.length_cons, replaceAllWithin, h]
  simp only
  rw [replaceAllWithin_eq hf (by omega) (Nat.le_refl _)]

theorem replaceAll_of_not_found {found : Text → Option (Text × Text)} {c : Char} {cs : Text}
    (h : found (c :: cs) = none) : replaceAll found (c :: cs) = c :: replaceAll found cs := by
  simp [replaceAll, replaceAllWithin, h]

end Text

end ApiScan
