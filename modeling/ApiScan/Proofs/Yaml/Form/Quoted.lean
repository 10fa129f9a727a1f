import ApiScan.Proofs.Yaml.Form.Pen
import ApiScan.Yaml.Token.Scalar

set_option autoImplicit false

/-! # Reading what stands between quotes

The rest of a quoted scalar is read piece by piece, whatever stands behind the closing quote. What
is read from a text is told by what is read from its pieces. -/

namespace ApiScan.Yaml

variable {double : Bool} {body front rest bs : Text} {s piece : Points} {c b : Char} {at_ : Cursor}
  {indent n : Nat}

/-- The quote around a scalar. -/
def quoteOf (double : Bool) : Char := if double then '"' else '\''

/-- A text in front of a closing quote that is read as the given points. A single quote is not
    followed by another one, since that would not be a closing quote. -/
def ReadsAs (double : Bool) (body : Text) (s : Points) : Prop :=
  ∀ (at_ : Cursor) (rest : Text) (fuel : Nat), at_.ahead = body ++ quoteOf double :: rest →
    (double = false → rest.head? ≠ some '\'') → at_.ahead.length < fuel →
    quotedFrom double fuel at_ = .ok (s, at_.skip (body.length + 1))

theorem quotedFrom_of_piece {at' : Cursor} (hpiece : quotedPiece? double at_ = .ok (some (piece, at')))
    (fuel : Nat) : quotedFrom double (fuel + 1) at_
      = (quotedFrom double fuel at').map fun more => (piece ++ more.1, more.2) := by
  rw [quotedFrom, hpiece]
  show (quotedFrom double fuel at' >>= fun more => pure (piece ++ more.1, more.2)) = _
  cases quotedFrom double fuel at' <;> rfl

namespace ReadsAs

theorem nil (double : Bool) : ReadsAs double [] [] := by
  intro at_ rest fuel hat hrest hfuel
  obtain ⟨fuel, rfl⟩ := Nat.exists_eq_add_one_of_ne_zero (Nat.ne_of_gt (Nat.zero_lt_of_lt hfuel))
  have hpiece : quotedPiece? double at_ = .ok none := by
    unfold quotedPiece?
    rw [hat]
    cases double with
    | true => simp [quoteOf, show isBreak '"' = false by decide]
    | false => simp [quoteOf, hrest rfl, show isBreak '\'' = false by decide]
  unfold quotedFrom
  rw [hpiece]
  rfl

/-- A piece at the front of a text. -/
theorem cons (hfront : front ≠ [])
    (hpiece : ∀ (at_ : Cursor) (rest : Text), at_.ahead = front ++ (body ++ quoteOf double :: rest) →
      quotedPiece? double at_ = .ok (some (piece, at_.skip front.length)))
    (h : ReadsAs double body s) : ReadsAs double (front ++ body) (piece ++ s) := by
  intro at_ rest fuel hat hrest hfuel
  rw [List.append_assoc] at hat
  obtain ⟨fuel, rfl⟩ := Nat.exists_eq_add_one_of_ne_zero (Nat.ne_of_gt (Nat.zero_lt_of_lt hfuel))
  have hbody := Cursor.ahead_skip_length hat
  have hless : (at_.skip front.length).ahead.length < fuel := by
    have := List.length_pos_iff.2 hfront
    rw [hat, List.length_append] at hfuel
    rw [hbody]
    omega
  rw [quotedFrom_of_piece (hpiece at_ rest hat), h _ rest fuel hbody hrest hless, ← Cursor.skip_add]
  simp [Except.map, Nat.add_assoc]

/-- A character that stands for itself. -/
theorem char (hblank : c ≠ ' ' ∧ c ≠ '\t') (hbreak : isBreak c = false)
    (hquote : double = false → c ≠ '\'') (hdouble : double = true → c ≠ '"' ∧ c ≠ '\\')
    (h : ReadsAs double body s) : ReadsAs double (c :: body) (.char c :: s) := by
  show ReadsAs double ([c] ++ body) ([.char c] ++ s)
  refine cons (List.cons_ne_nil _ _) ?_ h
  intro at_ rest hat
  unfold quotedPiece?
  rw [hat]
  cases double with
  | true => simp [hblank, hbreak, hdouble, Cursor.skip]
  | false => simp [hblank, hbreak, hquote, Cursor.skip]

/-- Two single quotes, which stand for one. -/
theorem quote (h : ReadsAs false body s) : ReadsAs false ('\'' :: '\'' :: body) (.char '\'' :: s) := by
  show ReadsAs false (['\'', '\''] ++ body) ([.char '\''] ++ s)
  refine cons (List.cons_ne_nil _ _) ?_ h
  intro at_ rest hat
  unfold quotedPiece?
  rw [hat]
  simp [show isBreak '\'' = false by decide]

end ReadsAs

/-! ## Blanks -/

/-- Whether a character is white space inside a quoted scalar. -/
def isSpacing (c : Char) : Bool := c = ' ' || c = '\t'

/-- Behind the white space that a text starts with, no line is broken. -/
def StaysOnLine (body : Text) : Prop := ∀ c ∈ (body.dropWhile isSpacing).head?, isBreak c = false

theorem isBreak_quoteOf (double : Bool) : isBreak (quoteOf double) = false := by
  cases double <;> decide

theorem isSpacing_quoteOf (double : Bool) : isSpacing (quoteOf double) = false := by
  cases double <;> decide

/-- White space inside a line is a piece of its own. -/
theorem quotedPiece?_of_isSpacing {u : Text} (hc : isSpacing c = true)
    (hat : at_.ahead = c :: u) (hline : StaysOnLine at_.ahead)
    (hends : at_.ahead.dropWhile isSpacing ≠ []) :
    quotedPiece? double at_
      = .ok (some (Points.ofText (at_.ahead.takeWhile isSpacing),
          at_.skip (at_.ahead.takeWhile isSpacing).length)) := by
  have hahead : (at_.skip (at_.ahead.takeWhile isSpacing).length).ahead
      = at_.ahead.dropWhile isSpacing := Cursor.run_ahead isSpacing at_
  have hbreak : (at_.skip (at_.ahead.takeWhile isSpacing).length).lineBreak? = none :=
    Cursor.lineBreak?_of_head? fun c hc => hline c (hahead ▸ hc)
  have hempty : (at_.skip (at_.ahead.takeWhile isSpacing).length).ahead.isEmpty = false := by
    rw [hahead]
    simpa using hends
  have hrun : (at_.run fun c => c = ' ' || c = '\t')
      = (at_.ahead.takeWhile isSpacing, at_.skip (at_.ahead.takeWhile isSpacing).length) := rfl
  have hspacing : (c = ' ' || c = '\t') = true := hc
  unfold quotedPiece?
  simp only [hat] at hrun hbreak hempty ⊢
  simp only [hspacing, if_true, hrun, hbreak, hempty]
  rfl

/-- Behind the white space at the front of a piece comes the rest of the text or the closing quote. -/
theorem StaysOnLine.append_quote (h : StaysOnLine body) (double : Bool) (rest : Text) :
    StaysOnLine (body ++ quoteOf double :: rest)
      ∧ (body ++ quoteOf double :: rest).dropWhile isSpacing ≠ [] := by
  have hquote := isSpacing_quoteOf double
  unfold StaysOnLine
  rw [List.dropWhile_append]
  split
  · simp [hquote, isBreak_quoteOf]
  · next hempty =>
      obtain ⟨c, t, hct⟩ := List.exists_cons_of_ne_nil (fun he => hempty (List.isEmpty_iff.2 he))
      refine ⟨?_, by simp [hct]⟩
      intro d hd
      refine h d ?_
      rw [hct] at hd ⊢
      exact hd

/-- A blank that stands for itself. -/
theorem ReadsAs.blank (hline : StaysOnLine body) (h : ReadsAs double body s) :
    ReadsAs double (' ' :: body) (.char ' ' :: s) := by
  intro at_ rest fuel hat hrest hfuel
  obtain ⟨fuel, rfl⟩ := Nat.exists_eq_add_one_of_ne_zero (Nat.ne_of_gt (Nat.zero_lt_of_lt hfuel))
  have hbody := hline.append_quote double rest
  have hnext : at_.next.ahead = body ++ quoteOf double :: rest := Cursor.next_ahead hat
  have hless : at_.next.ahead.length < fuel + 1 := by
    rw [hnext]
    rw [hat] at hfuel
    simp only [List.length_cons, List.length_append] at hfuel ⊢
    omega
  have htake : at_.ahead.takeWhile isSpacing = ' ' :: at_.next.ahead.takeWhile isSpacing := by
    rw [hat, hnext]
    rfl
  have hpiece : quotedPiece? double at_ = .ok (some (Points.ofText (at_.ahead.takeWhile isSpacing),
      at_.skip (at_.ahead.takeWhile isSpacing).length)) := by
    refine quotedPiece?_of_isSpacing (by decide) hat ?_ ?_
    · rw [hat]
      exact hbody.1
    · rw [hat]
      exact hbody.2
  rw [quotedFrom_of_piece hpiece, htake]
  by_cases hfirst : ∃ c u, at_.next.ahead = c :: u ∧ isSpacing c = true
  · -- the next character is one of the same piece
    obtain ⟨c, u, hcons, hc⟩ := hfirst
    have hread := h at_.next rest (fuel + 1) hnext hrest hless
    rw [quotedFrom_of_piece (quotedPiece?_of_isSpacing hc hcons (hnext ▸ hbody.1) (hnext ▸ hbody.2))]
      at hread
    rw [List.length_cons, Cursor.skip_succ]
    cases hmore : quotedFrom double fuel (at_.next.skip (at_.next.ahead.takeWhile isSpacing).length) with
    | error fault =>
        rw [hmore] at hread
        cases hread
    | ok more =>
        rw [hmore] at hread
        obtain ⟨rfl, hplace⟩ := Prod.mk.inj (Except.ok.inj hread)
        simp [Except.map, hplace, Points.ofText, Cursor.skip_succ]
  · have hnone : at_.next.ahead.takeWhile isSpacing = [] := by
      cases hcons : at_.next.ahead with
      | nil => rfl
      | cons c u => exact List.takeWhile_cons_of_neg fun hc => hfirst ⟨c, u, hcons, hc⟩
    rw [hnone, List.length_singleton, Cursor.skip_succ, Cursor.skip, h at_.next rest fuel hnext hrest]
    · rfl
    · rw [hnext]
      rw [hat] at hfuel
      simpa using hfuel

/-! ## Line breaks -/

/-- Whether a line break stands for itself in a scalar. -/
def IsOwnBreak (c : Char) : Prop := c = '\n' ∨ c = '\u2028' ∨ c = '\u2029'

theorem IsOwnBreak.isBreak (hb : IsOwnBreak b) : isBreak b = true := by
  rcases hb with rfl | rfl | rfl <;> decide

theorem IsOwnBreak.isSpacing_eq_false (hb : IsOwnBreak b) : isSpacing b = false := by
  rcases hb with rfl | rfl | rfl <;> decide

theorem IsOwnBreak.lineBreak? (hb : IsOwnBreak b) (hat : at_.ahead = b :: rest) :
    at_.lineBreak? = some (b, at_.next) := by
  have hbreak := hb.isBreak
  unfold Cursor.lineBreak?
  rw [hat]
  rcases hb with rfl | rfl | rfl <;> simp [hbreak]

/-- Whether a text starts with neither white space nor a line break. -/
def StartsInk (s : Text) : Prop := ∀ c ∈ s.head?, isSpacing c = false ∧ isBreak c = false

theorem StartsInk.append_quote (h : StartsInk body) (double : Bool) (rest : Text) :
    StartsInk (body ++ quoteOf double :: rest) := by
  cases body with
  | nil =>
      intro c hc
      obtain rfl : quoteOf double = c := Option.some.inj hc
      exact ⟨isSpacing_quoteOf double, isBreak_quoteOf double⟩
  | cons c body => exact h

/-- The breaks of a group behind its first, and the indentation behind them. -/
theorem quotedBreaks_eq {fuel : Nat} (hbs : ∀ b ∈ bs, IsOwnBreak b) (hindent : 0 < indent)
    (hrest : StartsInk rest) (hat : at_.ahead = bs ++ (List.replicate indent ' ' ++ rest))
    (hfuel : bs.length < fuel) :
    quotedBreaks fuel at_ = .ok (bs, at_.skip (bs.length + indent)) := by
  induction bs generalizing at_ fuel with
  | nil =>
      obtain ⟨fuel, rfl⟩ := Nat.exists_eq_add_one_of_ne_zero (Nat.ne_of_gt (Nat.zero_lt_of_lt hfuel))
      have hblanks : at_.ahead = List.replicate indent ' ' ++ rest := hat
      have hmark : at_.atSeparator = false := by
        refine Cursor.atSeparator_of_head? ?_
        obtain ⟨indent, rfl⟩ := Nat.exists_eq_add_one_of_ne_zero (Nat.ne_of_gt hindent)
        rw [hblanks, List.replicate_succ]
        simp
      have hrun : at_.run isSpacing = (List.replicate indent ' ', at_.skip indent) :=
        Cursor.run_replicate (by decide) (fun c hc => (hrest c hc).1) hblanks
      have hskip : at_.skipRun (fun c => c = ' ' || c = '\t') = at_.skip indent :=
        congrArg Prod.snd hrun
      have hahead : (at_.skip indent).ahead = rest := by
        rw [Cursor.skip_ahead, hblanks, List.drop_left' (by simp)]
      have hbreak : (at_.skip indent).lineBreak? = none :=
        Cursor.lineBreak?_of_head? fun c hc => (hrest c (hahead ▸ hc)).2
      unfold quotedBreaks
      simp [hmark, hskip, hbreak]
  | cons b bs ih =>
      obtain ⟨fuel, rfl⟩ := Nat.exists_eq_add_one_of_ne_zero (Nat.ne_of_gt (Nat.zero_lt_of_lt hfuel))
      obtain ⟨hb, hbs⟩ := List.forall_mem_cons.1 hbs
      have hmark : at_.atSeparator = false := by
        refine Cursor.atSeparator_of_head? ?_
        rw [hat]
        rcases hb with rfl | rfl | rfl <;> simp
      have hrun : at_.run isSpacing = ([], at_) := by
        have hnone : at_.ahead = List.replicate 0 ' ' ++ at_.ahead := rfl
        refine Cursor.run_replicate (by decide) ?_ hnone
        rw [hat]
        simpa using hb.isSpacing_eq_false
      have hskip : at_.skipRun (fun c => c = ' ' || c = '\t') = at_ := congrArg Prod.snd hrun
      have hmore := ih hbs (Cursor.next_ahead hat) (Nat.lt_of_succ_lt_succ hfuel)
      unfold quotedBreaks
      simp only [hmark, hskip, hb.lineBreak? hat]
      rw [hmore, List.length_cons, Nat.add_right_comm, Cursor.skip_succ]
      rfl

namespace ReadsAs

/-- A group of line breaks with the indentation behind it, as far as it counts. -/
theorem breaks (hb : IsOwnBreak b) (hbs : ∀ b ∈ bs, IsOwnBreak b) (hindent : 0 < indent)
    (hbody : StartsInk body) (h : ReadsAs double body s) :
    ReadsAs double (b :: (bs ++ List.replicate indent ' ') ++ body)
      (Points.ofText (folded b bs) ++ s) := by
  refine cons (List.cons_ne_nil _ _) ?_ h
  intro at_ rest hat
  have hspacing : (b = ' ' || b = '\t') = false := hb.isSpacing_eq_false
  have hnext : at_.next.ahead = bs ++ (List.replicate indent ' ' ++ (body ++ quoteOf double :: rest)) := by
    rw [Cursor.next_ahead hat]
    simp
  have hfuel : bs.length < at_.next.ahead.length + 1 := by
    rw [hnext, List.length_append]
    omega
  have hbreaks := quotedBreaks_eq hbs hindent (hbody.append_quote double rest) hnext hfuel
  unfold quotedPiece?
  rw [hat]
  simp only [List.cons_append, hspacing, hb.isBreak, if_true, hb.lineBreak? hat, hbreaks]
  simp [bind, Except.bind, pure, Except.pure, Cursor.skip_succ]

/-! ## Escapes -/

/-- An escape by a letter. -/
theorem escape (hc : shortEscape? c = some b) (h : ReadsAs true body s) :
    ReadsAs true ('\\' :: c :: body) (.char b :: s) := by
  show ReadsAs true (['\\', c] ++ body) ([.char b] ++ s)
  refine cons (List.cons_ne_nil _ _) ?_ h
  intro at_ rest hat
  unfold quotedPiece?
  rw [hat]
  simp [hc, show isBreak '\\' = false by decide]

/-- An escape by the number of a code point. -/
theorem code {point : CodePoint} {digits : Text} (hshort : shortEscape? c = none)
    (hwidth : codeWidth? c = some digits.length) (hdigits : digits.all (Text.isDigitOf 16) = true)
    (hpoint : codePoint (Text.toNat 16 digits) = .ok point) (h : ReadsAs true body s) :
    ReadsAs true ('\\' :: c :: (digits ++ body)) (point :: s) := by
  show ReadsAs true (('\\' :: c :: digits) ++ body) ([point] ++ s)
  refine cons (List.cons_ne_nil _ _) ?_ h
  intro at_ rest hat
  have htake : (digits ++ (body ++ quoteOf true :: rest)).take digits.length = digits := List.take_left
  have hlength : ('\\' :: c :: digits).length = 2 + digits.length := Nat.add_comm digits.length 2
  unfold quotedPiece?
  rw [hat]
  rw [hlength]
  simp only [List.cons_append, hshort, hwidth, htake, hdigits, hpoint]
  simp [show isBreak '\\' = false by decide, bind, Except.bind, pure, Except.pure]

/-- A line that is broken behind a backslash goes on behind the indentation. -/
theorem escapedBreak (hindent : 0 < indent) (hbody : StartsInk body) (h : ReadsAs true body s) :
    ReadsAs true ('\\' :: (lineStart indent ++ body)) s := by
  show ReadsAs true (('\\' :: lineStart indent) ++ body) ([] ++ s)
  refine cons (List.cons_ne_nil _ _) ?_ h
  intro at_ rest hat
  have hfeed : at_.next.ahead = '\n' :: (List.replicate indent ' ' ++ (body ++ quoteOf true :: rest)) := by
    rw [Cursor.next_ahead hat]
    simp [lineStart]
  have hnext : at_.next.next.ahead
      = [] ++ (List.replicate indent ' ' ++ (body ++ quoteOf true :: rest)) :=
    Cursor.next_ahead hfeed
  have hnone : ∀ b ∈ ([] : Text), IsOwnBreak b := by simp
  have hbreaks := quotedBreaks_eq hnone hindent (hbody.append_quote true rest) hnext
    (Nat.succ_pos at_.next.next.ahead.length)
  unfold quotedPiece?
  rw [hat]
  simp only [List.cons_append, lineStart, Cursor.lineBreak?_lineFeed hfeed, hbreaks]
  simp [show isBreak '\\' = false by decide, show shortEscape? '\n' = none by decide,
    show codeWidth? '\n' = none by decide, bind, Except.bind, pure, Except.pure, Cursor.skip_succ,
    Points.ofText]

end ReadsAs

/-- **A scalar between quotes is read as what stands between them.** -/
theorem quotedScalar_of_readsAs (h : ReadsAs double body s)
    (hat : at_.ahead = quoteOf double :: (body ++ quoteOf double :: rest))
    (hrest : double = false → rest.head? ≠ some '\'') :
    quotedScalar double at_ = .ok (s, at_.skip (body.length + 2)) := by
  have hnext := Cursor.next_ahead hat
  have hfuel : at_.next.ahead.length < at_.ahead.length + 1 := by
    rw [hnext, hat, List.length_cons]
    omega
  rw [quotedScalar, h at_.next rest _ hnext hrest hfuel]
  rfl

end ApiScan.Yaml
