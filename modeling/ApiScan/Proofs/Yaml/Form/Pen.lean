import ApiScan.Proofs.Yaml.Quoted
import ApiScan.Yaml.Printer

set_option autoImplicit false

/-! # What a pen writes

A pen only adds to what is written. Where it goes to an indentation it breaks the line, unless it
stands at the start of a line or behind marks on it, and can still reach the indentation there. -/

/-! ## Places behind a text

Where a reader stands after a text that it has gone past: as many characters further, on the same
line if the text breaks none, and at the indentation behind a line break. -/

namespace ApiScan.Yaml

/-- A line break followed by an indentation. -/
def lineStart (indent : Nat) : Text := '\n' :: List.replicate indent ' '

@[simp]
theorem length_lineStart (indent : Nat) : (lineStart indent).length = indent + 1 := by
  simp [lineStart]

/-- Whether a character moves a place by one column. -/
def TakesColumn (c : Char) : Prop := isBreak c = false ∧ c ≠ '\uFEFF'

instance (c : Char) : Decidable (TakesColumn c) := inferInstanceAs (Decidable (_ ∧ _))

namespace Cursor

variable {at_ : Cursor} {s rest : Text} {c : Char}

theorem skip_add (m n : Nat) (at_ : Cursor) : at_.skip (m + n) = (at_.skip m).skip n := by
  induction m generalizing at_ with
  | zero => simp [skip]
  | succ m ih => rw [Nat.succ_add, skip, skip, ih]

theorem peekAt_one (hat : at_.ahead = c :: rest) : at_.peekAt 1 = rest.head? := by
  simp [peekAt, hat, List.head?_eq_getElem?]

theorem skip_succ (n : Nat) (at_ : Cursor) : at_.skip (n + 1) = at_.next.skip n := rfl

theorem ahead_skip_length (hat : at_.ahead = s ++ rest) : (at_.skip s.length).ahead = rest := by
  rw [skip_ahead, hat, List.drop_left]

/-- One character further on the same line. -/
theorem next_of_takesColumn (hat : at_.ahead = c :: rest) (hc : TakesColumn c) :
    at_.next = ⟨rest, at_.index + 1, at_.line, at_.column + 1⟩ := by
  simp [next, hat, hc.1, hc.2]

theorem column_next (hat : at_.ahead = c :: rest) (hc : TakesColumn c) :
    at_.next.column = at_.column + 1 := by
  rw [next_of_takesColumn hat hc]

/-- The place behind characters that break no line. -/
theorem skip_of_takesColumn (hat : at_.ahead = s ++ rest) (hs : ∀ c ∈ s, TakesColumn c) :
    at_.skip s.length = ⟨rest, at_.index + s.length, at_.line, at_.column + s.length⟩ := by
  induction s generalizing at_ with
  | nil =>
      obtain ⟨ahead, index, line, column⟩ := at_
      obtain rfl : ahead = rest := hat
      rfl
  | cons c s ih =>
      obtain ⟨hc, hs⟩ := List.forall_mem_cons.1 hs
      have hnext := next_of_takesColumn hat hc
      rw [List.length_cons, skip_succ, ih (next_ahead hat) hs, hnext]
      simp only [mk.injEq, true_and]
      omega

theorem next_of_lineFeed (hat : at_.ahead = '\n' :: rest) :
    at_.next = ⟨rest, at_.index + 1, at_.line + 1, 0⟩ := by
  have hbreak : isBreak '\n' = true := by decide
  simp [next, hat, hbreak]

/-- The place behind a line break and an indentation. -/
theorem skip_lineStart {indent : Nat} (hat : at_.ahead = lineStart indent ++ rest) :
    at_.skip (indent + 1) = ⟨rest, at_.index + (indent + 1), at_.line + 1, indent⟩ := by
  have hnext := next_of_lineFeed hat
  have hblanks : ∀ c ∈ List.replicate indent ' ', TakesColumn c := by
    intro c hc
    obtain rfl := List.eq_of_mem_replicate hc
    decide
  have hskip := skip_of_takesColumn (next_ahead hat) hblanks
  rw [List.length_replicate] at hskip
  rw [skip_succ, hskip, hnext]
  simp only [mk.injEq, true_and]
  omega

theorem line_le_next (at_ : Cursor) : at_.line ≤ at_.next.line := by
  unfold next
  split
  · exact Nat.le_refl _
  · split
    · exact Nat.le_succ _
    · exact Nat.le_refl _

/-- Lines are passed in order. -/
theorem line_le_skip (n : Nat) (at_ : Cursor) : at_.line ≤ (at_.skip n).line := by
  induction n generalizing at_ with
  | zero => exact Nat.le_refl _
  | succ n ih => exact (line_le_next at_).trans (ih at_.next)

/-- The blanks at a place. -/
theorem run_replicate {p : Char → Bool} {n : Nat} (hp : p ' ' = true)
    (hrest : ∀ c ∈ rest.head?, p c = false) (hat : at_.ahead = List.replicate n ' ' ++ rest) :
    at_.run p = (List.replicate n ' ', at_.skip n) := by
  have htake : at_.ahead.takeWhile p = List.replicate n ' ' := by
    rw [hat, List.takeWhile_append_of_pos fun c hc => by rw [List.eq_of_mem_replicate hc]; exact hp]
    cases rest with
    | nil => simp
    | cons c rest => simp [hrest c rfl]
  simp [run, htake]

theorem lineBreak?_lineFeed (hat : at_.ahead = '\n' :: rest) :
    at_.lineBreak? = some ('\n', at_.next) := by
  have hbreak : isBreak '\n' = true := by decide
  unfold lineBreak?
  rw [hat]
  simp [hbreak]

theorem lineBreak?_of_head? (hrest : ∀ c ∈ at_.ahead.head?, isBreak c = false) :
    at_.lineBreak? = none := by
  cases hat : at_.ahead with
  | nil =>
      unfold lineBreak?
      rw [hat]
  | cons c rest =>
      refine lineBreak?_eq_none hat (hrest c ?_)
      rw [hat]
      rfl

/-- A text that starts with neither sign holds no mark between documents. -/
theorem atSeparator_of_head? (hrest : ∀ c ∈ at_.ahead.head?, c ≠ '-' ∧ c ≠ '.') :
    at_.atSeparator = false := by
  unfold atSeparator atMark
  cases hat : at_.ahead with
  | nil => simp
  | cons c rest =>
      obtain ⟨hdash, hdot⟩ := hrest c (by rw [hat]; rfl)
      simp [hdash, hdot]

end Cursor

end ApiScan.Yaml

namespace ApiScan.Yaml.Pen

variable {pen : Pen} {s t : Text} {c : Char} {indent : Nat}

/-- Whether a pen breaks the line on its way to an indentation. -/
def Breaks (indent : Nat) (pen : Pen) : Prop := pen.fresh = false ∨ indent < pen.column

@[simp] theorem written_put : (pen.put s).written = s.reverse ++ pen.written := rfl

@[simp] theorem column_put : (pen.put s).column = pen.column + s.length := rfl

@[simp] theorem fresh_put : (pen.put s).fresh = pen.fresh := rfl

@[simp] theorem spaced_put : (pen.put s).spaced = pen.spaced := rfl

@[simp] theorem written_settle : pen.settle.written = pen.written := rfl

@[simp] theorem column_settle : pen.settle.column = pen.column := rfl

@[simp] theorem fresh_settle : pen.settle.fresh = false := rfl

@[simp] theorem spaced_settle : pen.settle.spaced = false := rfl

@[simp] theorem fresh_mark (apart : Bool) : (pen.mark s apart).fresh = false := rfl

@[simp] theorem spaced_mark (apart : Bool) : (pen.mark s apart).spaced = false := rfl

theorem put_put : (pen.put s).put t = pen.put (s ++ t) := by
  simp [put, Nat.add_assoc]

/-- The line is broken, and the pen stands at the indentation. -/
theorem indentTo_of_breaks (h : pen.Breaks indent) :
    pen.indentTo indent = ⟨indent, true, true, (lineStart indent).reverse ++ pen.written⟩ := by
  have hbreak : (!pen.fresh || indent < pen.column || (pen.column = indent && !pen.spaced)) = true := by
    rcases h with h | h <;> simp [h]
  unfold indentTo
  rw [if_pos hbreak]
  cases indent <;> simp [breakLine, put, lineStart]

/-- At the start of the next line, the pen goes on to the indentation. -/
theorem indentTo_of_column_eq_zero (hfresh : pen.fresh = true) (hspaced : pen.spaced = true)
    (hcolumn : pen.column = 0) :
    pen.indentTo indent = ⟨indent, true, true, List.replicate indent ' ' ++ pen.written⟩ := by
  obtain ⟨column, spaced, fresh, written⟩ := pen
  obtain rfl : fresh = true := hfresh
  obtain rfl : spaced = true := hspaced
  obtain rfl : column = 0 := hcolumn
  unfold indentTo
  cases indent <;> simp [put]

/-- Behind a mark of a block, the pen goes one column further. -/
theorem indentTo_of_column_lt (hfresh : pen.fresh = true) (hcolumn : pen.column + 1 = indent) :
    pen.indentTo indent = ⟨indent, true, true, ' ' :: pen.written⟩ := by
  obtain ⟨column, spaced, fresh, written⟩ := pen
  obtain rfl : fresh = true := hfresh
  subst hcolumn
  have hreach : ¬ (column + 1 < column ∨ column = column + 1) := by omega
  unfold indentTo
  simp only [put]
  simp [show ¬ column + 1 < column by omega]

theorem written_mark (apart : Bool) :
    (pen.mark s apart).written
      = (if pen.spaced || !apart then s else ' ' :: s).reverse ++ pen.written := rfl

end ApiScan.Yaml.Pen
