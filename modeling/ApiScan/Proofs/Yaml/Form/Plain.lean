import ApiScan.Proofs.Yaml.Form.Pen
import ApiScan.Yaml.Token.Scalar

set_option autoImplicit false

/-! # The plain form of a text

A text that is written plain is words and the blanks between them, of which a single one may give
way to a line break and an indentation. Read from a place, such a form gives the text back, as long
as what follows ends a plain scalar. -/

namespace ApiScan.Yaml

variable {s out w g g' rest : Text} {indent n k : Nat} {c : Char} {at_ : Cursor}

/-! ## The form -/

/-- Whether a character can stand in a word of a plain scalar. -/
structure IsWordChar (c : Char) : Prop where
  ne_blank : c ≠ ' '
  ne_tab : c ≠ '\t'
  takesColumn : TakesColumn c

/-- Characters that are read together in a plain scalar. -/
structure IsWord (w : Text) : Prop where
  ne_nil : w ≠ []
  chars : ∀ c ∈ w, IsWordChar c
  getLast? : w.getLast? ≠ some ':'

/-- What stands between two words, and how it is written. -/
inductive IsGap (indent : Nat) : Text → Text → Prop
  | blanks (n : Nat) : IsGap indent (List.replicate (n + 1) ' ') (List.replicate (n + 1) ' ')
  | fold : IsGap indent [' '] (lineStart indent)

/-- The forms of a text that is written plain. -/
inductive PlainForm (indent : Nat) : Text → Text → Prop
  | word {w : Text} (hw : IsWord w) : PlainForm indent w w
  | words {w g g' s out : Text} (hw : IsWord w) (hg : IsGap indent g g') (hs : s.head? ≠ some '#')
      (h : PlainForm indent s out) : PlainForm indent (w ++ (g ++ s)) (w ++ (g' ++ out))

theorem IsGap.ne_nil (hg : IsGap indent g g') : g ≠ [] := by
  cases hg with
  | blanks n => exact List.cons_ne_nil _ _
  | fold => exact List.cons_ne_nil _ _

theorem IsWord.cons (hc : IsWordChar c) (hw : IsWord w) : IsWord (c :: w) where
  ne_nil := List.cons_ne_nil _ _
  chars := List.forall_mem_cons.2 ⟨hc, hw.chars⟩
  getLast? := by
    rw [List.getLast?_cons_of_ne_nil hw.ne_nil]
    exact hw.getLast?

theorem IsWord.singleton (hc : IsWordChar c) (hcolon : c ≠ ':') : IsWord [c] where
  ne_nil := List.cons_ne_nil _ _
  chars := by simpa using hc
  getLast? := by simpa using hcolon

theorem PlainForm.cons (hc : IsWordChar c) (h : PlainForm indent s out) :
    PlainForm indent (c :: s) (c :: out) := by
  cases h with
  | word hw => exact .word (hw.cons hc)
  | words hw hg hs h => exact .words (hw.cons hc) hg hs h

theorem PlainForm.exists_cons (h : PlainForm indent s out) :
    ∃ c t u, s = c :: t ∧ out = c :: u ∧ IsWordChar c := by
  cases h with
  | word hw =>
      obtain ⟨c, t, rfl⟩ := List.exists_cons_of_ne_nil hw.ne_nil
      exact ⟨c, t, t, rfl, rfl, hw.chars c List.mem_cons_self⟩
  | words hw hg hs h =>
      obtain ⟨c, t, rfl⟩ := List.exists_cons_of_ne_nil hw.ne_nil
      exact ⟨c, _, _, rfl, rfl, hw.chars c List.mem_cons_self⟩

/-- A form has the characters of its text, and those of line breaks and indentations. -/
theorem PlainForm.mem (h : PlainForm indent s out) : ∀ c ∈ out, c ∈ s ∨ c = '\n' ∨ c = ' ' := by
  induction h with
  | word hw => exact fun c hc => Or.inl hc
  | @words w g g' s out hw hg hs h ih =>
      intro c hc
      rcases List.mem_append.1 hc with hc | hc
      · exact Or.inl (List.mem_append_left _ hc)
      · rcases List.mem_append.1 hc with hc | hc
        · cases hg with
          | blanks n => exact Or.inr (Or.inr (List.eq_of_mem_replicate hc))
          | fold =>
              rcases List.mem_cons.1 hc with rfl | hc
              · exact Or.inr (Or.inl rfl)
              · exact Or.inr (Or.inr (List.eq_of_mem_replicate hc))
        · rcases ih c hc with hc | hc
          · exact Or.inl (List.mem_append_right _ (List.mem_append_right _ hc))
          · exact Or.inr hc

/-! ## Writing -/

/-- What follows a character of a text that is written plain. -/
inductive PlainTail (indent : Nat) (before : Char) : Text → Text → Prop
  | nil : PlainTail indent before [] []
  | form {s out : Text} (h : PlainForm indent s out) : PlainTail indent before s out
  | gap {g g' s out : Text} (hg : IsGap indent g g') (hbefore : before = ' ' → g' = g)
      (hs : s.head? ≠ some '#') (h : PlainForm indent s out) :
      PlainTail indent before (g ++ s) (g' ++ out)

/-- Whether the rest of a text can be written plain behind a character. -/
structure GoesPlain (before : Char) (s : Text) : Prop where
  chars : ∀ c ∈ s, c = ' ' ∨ IsWordChar c
  marks : Style.hasInnerMark (before :: s) = false
  getLast? : (before :: s).getLast? ≠ some ' '

theorem GoesPlain.tail {before : Char} (h : GoesPlain before (c :: s)) : GoesPlain c s where
  chars := (List.forall_mem_cons.1 h.chars).2
  marks := by
    have := h.marks
    simp only [Style.hasInnerMark, Bool.or_eq_false_iff] at this
    exact this.2
  getLast? := by
    have := h.getLast?
    rwa [List.getLast?_cons_cons] at this

theorem GoesPlain.not_colon {before : Char} (h : GoesPlain before (c :: s))
    (hs : endsToken s.head? = true) : c ≠ ':' := by
  rintro rfl
  have := h.marks
  simp [Style.hasInnerMark, hs] at this

theorem GoesPlain.not_hash {before : Char} (h : GoesPlain before s) (hbefore : before = ' ') :
    s.head? ≠ some '#' := by
  intro hs
  have := h.marks
  cases s with
  | nil => exact absurd hs (Option.some_ne_none _).symm
  | cons c s =>
      obtain rfl : c = '#' := Option.some.inj hs
      have hends : endsToken (some ' ') = true := by decide
      simp [Style.hasInnerMark, hbefore, hends] at this

/-- A character of a word in front of what follows it. -/
theorem PlainTail.form_cons (hc : IsWordChar c) (hcolon : endsToken s.head? = true → c ≠ ':')
    (h : PlainTail indent c s out) : PlainForm indent (c :: s) (c :: out) := by
  have hends : endsToken (some ' ') = true := by decide
  cases h with
  | nil => exact .word (.singleton hc (hcolon (by decide)))
  | form h => exact h.cons hc
  | gap hg hbefore hs h =>
      refine .words (w := [c]) (.singleton hc (hcolon ?_)) hg hs h
      cases hg with
      | blanks n => exact hends
      | fold => exact hends

/-- A blank in front of what follows it, as it is or folded. -/
theorem PlainTail.blank {before : Char} (htail : GoesPlain ' ' s) (h : PlainTail indent ' ' s out) :
    PlainTail indent before (' ' :: s) (' ' :: out)
      ∧ (before ≠ ' ' → s.head? ≠ some ' ' →
        PlainTail indent before (' ' :: s) (lineStart indent ++ out)) := by
  cases h with
  | nil => exact absurd rfl htail.getLast?
  | form h =>
      have hs := htail.not_hash rfl
      exact ⟨.gap (.blanks 0) (fun _ => rfl) hs h,
        fun hbefore _ => .gap .fold (fun he => absurd he hbefore) hs h⟩
  | @gap g g' s out hg hsame hs h =>
      obtain rfl := hsame rfl
      cases hg with
      | blanks n => exact ⟨.gap (.blanks (n + 1)) (fun _ => rfl) hs h, fun _ hne => absurd rfl hne⟩

/-- The rest of a plain scalar is written in one of its forms. -/
theorem exists_plainBody {before : Char} (split : Bool) {pen : Pen} (h : GoesPlain before s)
    (hfresh : pen.fresh = false) (hspaced : pen.spaced = false) :
    ∃ out, PlainTail indent before s out
      ∧ (plainBody indent split (some before) s pen).written = out.reverse ++ pen.written
      ∧ (plainBody indent split (some before) s pen).fresh = false
      ∧ (plainBody indent split (some before) s pen).spaced = false := by
  induction s generalizing before pen with
  | nil => exact ⟨[], .nil, rfl, hfresh, hspaced⟩
  | cons c s ih =>
      unfold plainBody
      by_cases hfold : (c = ' ' && folds split (some before) s.head? pen) = true
      · simp only [hfold, if_true]
        have hbreaks : pen.Breaks indent := Or.inl hfresh
        have hsettled : (pen.indentTo indent).settle.fresh = false := rfl
        obtain ⟨out, htail, hwritten, hrest⟩ := ih h.tail hsettled rfl
        obtain ⟨rfl, hfold⟩ : c = ' ' ∧ folds split (some before) s.head? pen = true := by
          simpa using hfold
        obtain ⟨⟨-, hbefore⟩, hafter⟩ :
            ((split = true ∧ lineWidth < pen.column) ∧ before ≠ ' ') ∧ s.head? ≠ some ' ' := by
          simpa [folds] using hfold
        refine ⟨lineStart indent ++ out, (htail.blank h.tail).2 hbefore hafter, ?_, hrest⟩
        rw [hwritten, Pen.written_settle, Pen.indentTo_of_breaks hbreaks]
        simp
      · simp only [hfold]
        have hput : (pen.put [c]).fresh = false := hfresh
        obtain ⟨out, htail, hwritten, hrest⟩ := ih h.tail hput hspaced
        refine ⟨c :: out, ?_, by simpa using hwritten, hrest⟩
        rcases h.chars c List.mem_cons_self with rfl | hc
        · exact (htail.blank h.tail).1
        · exact .form (htail.form_cons hc h.not_colon)

/-! ## Texts that may be written plain -/

theorem isWordChar_of_not_special (hspecial : Style.isSpecial c = false)
    (hbreak : Style.breaksLine c = false) (hblank : c ≠ ' ') : IsWordChar c := by
  have hne {d : Char} (hd : Style.isSpecial d = true) : c ≠ d := by
    rintro rfl
    exact absurd (hspecial.symm.trans hd) Bool.false_ne_true
  have hreturn : c ≠ '\r' := hne (by decide)
  refine ⟨hblank, hne (by decide), ?_, hne (by decide)⟩
  simpa [isBreak, hreturn, Style.breaksLine, and_assoc] using hbreak

/-- A text that may be written plain starts with a character of a word, and the rest goes plain
    behind it. -/
theorem goesPlain_of_allowsPlain (h : Style.allowsPlain (c :: s) = true) :
    IsWordChar c ∧ c ≠ '#' ∧ (endsToken s.head? = true → c ≠ ':') ∧ GoesPlain c s := by
  obtain ⟨⟨⟨⟨hends, hlines⟩, hspecial⟩, hstart⟩, hmarks⟩ :
      (((Style.hasLooseEnds (c :: s) = false ∧ Style.isMultiline (c :: s) = false)
        ∧ (c :: s).any Style.isSpecial = false) ∧ Style.hasLeadingMark (c :: s) = false)
        ∧ Style.hasInnerMark (c :: s) = false := by
    simpa only [Style.allowsPlain, Bool.not_eq_true', Bool.or_eq_false_iff] using h
  unfold Style.hasLooseEnds at hends
  obtain ⟨hfirst, hlast⟩ := Bool.or_eq_false_iff.1 hends
  have hchar : ∀ d ∈ c :: s, d ≠ ' ' → IsWordChar d := fun d hd hblank =>
    isWordChar_of_not_special (Bool.eq_false_iff.2 (List.any_eq_false.1 hspecial d hd))
      (Bool.eq_false_iff.2 (List.any_eq_false.1 hlines d hd)) hblank
  have hblank : c ≠ ' ' := by
    rintro rfl
    simp at hfirst
  obtain ⟨-, hmember, hpair⟩ : _ ∧ c ∉ "#,[]\x7b\x7d&*!|>'\"%@\x60".toList
      ∧ ((c = '?' || c = ':' || c = '-') && endsToken s.head?) = false := by
    simpa only [Style.hasLeadingMark, Bool.or_eq_false_iff, decide_eq_false_iff_not] using hstart
  refine ⟨hchar c List.mem_cons_self hblank, ?_, ?_, ?_, hmarks, ?_⟩
  · rintro rfl
    exact hmember (by decide)
  · rintro hs rfl
    simp [hs] at hpair
  · intro d hd
    by_cases hd' : d = ' '
    · exact Or.inl hd'
    · exact Or.inr (hchar d (List.mem_cons_of_mem _ hd) hd')
  · intro hblank
    rw [hblank] at hlast
    simp at hlast

/-- **A text that may be written plain is written in one of its plain forms**, apart from what stands
    before it. -/
theorem exists_putPlain (split : Bool) (pen : Pen) (hne : s ≠ []) (h : Style.allowsPlain s = true) :
    ∃ out, PlainForm indent s out
      ∧ (putPlain indent split s pen).written
        = (if pen.spaced then out else ' ' :: out).reverse ++ pen.written
      ∧ (putPlain indent split s pen).fresh = false
      ∧ (putPlain indent split s pen).spaced = false := by
  obtain ⟨c, s, rfl⟩ := List.exists_cons_of_ne_nil hne
  obtain ⟨hc, -, hcolon, hgoes⟩ := goesPlain_of_allowsPlain h
  let start : Pen := if pen.spaced then pen else pen.put [' ']
  have hput : (start.settle.put [c]).fresh = false := rfl
  have hstart : putPlain indent split (c :: s) pen
      = plainBody indent split (some c) s (start.settle.put [c]) := by
    simp [putPlain, plainBody, hc.ne_blank, start]
  obtain ⟨out, htail, hwritten, hrest⟩ := exists_plainBody split hgoes hput rfl
  refine ⟨c :: out, htail.form_cons hc hcolon, ?_, hstart ▸ hrest⟩
  rw [hstart, hwritten]
  cases hspaced : pen.spaced <;> simp [start, hspaced]

/-- Where no line may be broken, a text is written as it is. -/
theorem plainBody_of_not_split (before : Option Char) (s : Text) (pen : Pen) :
    plainBody indent false before s pen = pen.put s := by
  induction s generalizing before pen with
  | nil => rfl
  | cons c s ih =>
      rw [plainBody, ih]
      simp [folds, Pen.put_put]

/-! ## Reading -/

theorem IsWordChar.endsToken_eq_false (hc : IsWordChar c) : endsToken (some c) = false := by
  simp [endsToken, hc.ne_blank, hc.ne_tab, hc.takesColumn.1]

/-- A word is read up to what ends it. -/
theorem plainRun_append (hchars : ∀ c ∈ w, IsWordChar c) (hlast : w.getLast? ≠ some ':')
    (hrest : plainRun false rest = 0) : plainRun false (w ++ rest) = w.length := by
  induction w with
  | nil => exact hrest
  | cons c w ih =>
      obtain ⟨hc, hchars⟩ := List.forall_mem_cons.1 hchars
      have hcolon : (c = ':' && endsToken (w ++ rest).head?) = false := by
        cases w with
        | nil => simpa using fun he => absurd he (by simpa using hlast)
        | cons d w => simp [(hchars d List.mem_cons_self).endsToken_eq_false]
      have hlast : w.getLast? ≠ some ':' := by
        cases w with
        | nil => simp
        | cons d w => rwa [List.getLast?_cons_cons] at hlast
      have hbreak := hc.takesColumn.1
      rw [List.cons_append, plainRun]
      simp only [Bool.false_and, Bool.or_false, hcolon]
      simp [hc.ne_blank, hc.ne_tab, hbreak, ih hchars hlast]

/-- The indentation behind a line break is passed over. -/
theorem plainBreaks_replicate {fuel : Nat} (hhead : ∀ c ∈ rest.head?, c ≠ ' ' ∧ isBreak c = false)
    (hat : at_.ahead = List.replicate n ' ' ++ rest) (hfuel : n < fuel) :
    plainBreaks fuel at_ = ([], at_.skip n, false) := by
  induction n generalizing at_ fuel with
  | zero =>
      obtain ⟨fuel, rfl⟩ := Nat.exists_eq_add_one_of_ne_zero (Nat.ne_of_gt hfuel)
      have hrest : at_.ahead = rest := by simpa using hat
      have hblank : at_.peek ≠ some ' ' := by
        intro hpeek
        rw [Cursor.peek, hrest] at hpeek
        exact (hhead ' ' hpeek).1 rfl
      have hbreak : at_.lineBreak? = none :=
        Cursor.lineBreak?_of_head? fun c hc => (hhead c (hrest ▸ hc)).2
      rw [plainBreaks, if_neg hblank, hbreak]
      rfl
  | succ n ih =>
      obtain ⟨fuel, rfl⟩ := Nat.exists_eq_add_one_of_ne_zero (Nat.ne_of_gt (Nat.zero_lt_of_lt hfuel))
      have hblank : at_.peek = some ' ' := by
        rw [Cursor.peek, hat]
        rfl
      rw [plainBreaks, if_pos hblank, ih (Cursor.next_ahead hat) (Nat.lt_of_succ_lt_succ hfuel)]
      rfl

/-- A line break and an indentation behind a word, which count as a blank. -/
theorem plainGap_lineStart (hhead : ∀ c ∈ rest.head?, c ≠ ' ' ∧ isBreak c = false)
    (hmark : at_.next.atSeparator = false) (hat : at_.ahead = lineStart indent ++ rest) :
    plainGap at_ = ([' '], at_.skip (indent + 1), true) := by
  have hnone : at_.ahead = List.replicate 0 ' ' ++ at_.ahead := rfl
  have hrun : at_.run (· = ' ') = ([], at_) := by
    refine Cursor.run_replicate (by simp) ?_ hnone
    rw [hat]
    simp [lineStart]
  have hnext : at_.next.ahead = List.replicate indent ' ' ++ rest := Cursor.next_ahead hat
  have hfuel : indent < at_.next.ahead.length + 1 := by
    rw [hnext, List.length_append, List.length_replicate]
    omega
  have hbreaks := plainBreaks_replicate hhead hnext hfuel
  unfold plainGap
  rw [hrun]
  simp only [Cursor.lineBreak?_lineFeed hat, hmark, hbreaks]
  simp [folded, Cursor.skip_succ]

theorem plainGap_of_isGap (hg : IsGap indent g g') (hindent : 0 < indent)
    (hhead : ∀ c ∈ rest.head?, IsWordChar c) (hat : at_.ahead = g' ++ rest) :
    ∃ broke, plainGap at_ = (g, at_.skip g'.length, broke) := by
  cases hg with
  | blanks n =>
      have hrun : at_.run (· = ' ') = (List.replicate (n + 1) ' ', at_.skip (n + 1)) :=
        Cursor.run_replicate (by simp) (fun c hc => by simpa using (hhead c hc).ne_blank) hat
      have hahead : (at_.skip (n + 1)).ahead = rest := by
        rw [Cursor.skip_ahead, hat, List.drop_left' (by simp)]
      have hbreak : (at_.skip (n + 1)).lineBreak? = none :=
        Cursor.lineBreak?_of_head? fun c hc => (hhead c (hahead ▸ hc)).takesColumn.1
      refine ⟨false, ?_⟩
      unfold plainGap
      rw [hrun]
      simp [hbreak]
  | fold =>
      refine ⟨true, ?_⟩
      rw [length_lineStart]
      refine plainGap_lineStart (fun c hc => ⟨(hhead c hc).ne_blank, (hhead c hc).takesColumn.1⟩) ?_ hat
      refine Cursor.atSeparator_of_head? ?_
      obtain ⟨indent, rfl⟩ := Nat.exists_eq_add_one_of_ne_zero (Nat.ne_of_gt hindent)
      rw [Cursor.next_ahead hat, List.replicate_succ]
      simp

/-- What ends a plain scalar in a block: no word goes on, and the gap after it is empty or leads out
    of the block. `k` characters belong to the gap. -/
structure StopsPlain (least : Int) (rest : Text) (k : Nat) (broke : Bool) : Prop where
  word : plainRun false rest = 0
  gap : ∀ at_ : Cursor, at_.ahead = rest → ∃ next, plainGap at_ = (next, at_.skip k, broke)
    ∧ (next.isEmpty || (at_.skip k).peek = some '#' || (at_.skip k).column < least) = true

/-- The characters at a place that are read together are those of the word there. -/
theorem count_of_isWord (hw : IsWord w) (hhead : w.head? ≠ some '#')
    (hrest : plainRun false rest = 0) (hat : at_.ahead = w ++ rest) :
    (if at_.peek = some '#' then 0 else plainRun false at_.ahead) = w.length := by
  have hpeek : at_.peek = w.head? := by
    rw [Cursor.peek, hat, List.head?_append_of_ne_nil _ hw.ne_nil]
  rw [hpeek, if_neg hhead, hat, plainRun_append hw.chars hw.getLast? hrest]

theorem plainRun_of_isGap (hg : IsGap indent g g') : plainRun false (g' ++ rest) = 0 := by
  have hbreak : isBreak '\n' = true := by decide
  cases hg with
  | blanks n => simp [List.replicate_succ, plainRun]
  | fold => simp [lineStart, plainRun, hbreak]

/-- Behind a gap a place is no further out than the text is indented. -/
theorem le_column_of_isGap {least : Int} (hg : IsGap indent g g') (hleast : least ≤ indent)
    (hcolumn : least ≤ at_.column) (hat : at_.ahead = g' ++ rest) :
    least ≤ (at_.skip g'.length).column := by
  cases hg with
  | blanks n =>
      have hblanks : ∀ c ∈ List.replicate (n + 1) ' ', TakesColumn c := by
        intro c hc
        obtain rfl := List.eq_of_mem_replicate hc
        decide
      rw [Cursor.skip_of_takesColumn hat hblanks]
      push_cast
      omega
  | fold =>
      rw [length_lineStart, Cursor.skip_lineStart hat]
      exact hleast

/-- **A plain form is read as its text.** -/
theorem plainFrom_of_form {least : Int} {broke : Bool} {gap : Text} {fuel : Nat}
    (h : PlainForm indent s out) (hs : s.head? ≠ some '#') (hindent : 0 < indent)
    (hleast : least ≤ indent) (hstop : StopsPlain least rest k broke)
    (hat : at_.ahead = out ++ rest) (hcolumn : least ≤ at_.column + 1) (hfuel : out.length < fuel) :
    plainFrom false least fuel gap at_ = (gap ++ s, at_.skip (out.length + k), broke) := by
  -- each word is one turn of the loop, and the gap in front of it is part of the text
  induction h generalizing at_ gap fuel with
  | @word w hw =>
      obtain ⟨fuel, rfl⟩ := Nat.exists_eq_add_one_of_ne_zero (Nat.ne_of_gt (Nat.zero_lt_of_lt hfuel))
      have hcount := count_of_isWord hw hs hstop.word hat
      have hcons : w.length ≠ 0 := fun he => hw.ne_nil (List.length_eq_zero_iff.1 he)
      obtain ⟨next, hgap, hstops⟩ := hstop.gap _ (Cursor.ahead_skip_length hat)
      rw [← Cursor.skip_add] at hgap hstops
      unfold plainFrom
      simp only [hcount, hcons, if_false, hgap, Bool.not_false, Bool.true_and]
      rw [if_pos hstops, hat, List.take_left]
  | @words w g g' s out hw hg hs' h ih =>
      obtain ⟨fuel, rfl⟩ := Nat.exists_eq_add_one_of_ne_zero (Nat.ne_of_gt (Nat.zero_lt_of_lt hfuel))
      obtain ⟨c, t, u, rfl, rfl, hc⟩ := h.exists_cons
      have hhead : w.head? ≠ some '#' := by
        rwa [List.head?_append_of_ne_nil _ hw.ne_nil] at hs
      have hat' : at_.ahead = w ++ (g' ++ (c :: u ++ rest)) := by simpa using hat
      have hcount := count_of_isWord hw hhead (plainRun_of_isGap hg) hat'
      have hcons : w.length ≠ 0 := fun he => hw.ne_nil (List.length_eq_zero_iff.1 he)
      have hword := Cursor.ahead_skip_length hat'
      obtain ⟨broke', hgap⟩ := plainGap_of_isGap hg hindent (by simpa using hc) hword
      have hnext := Cursor.ahead_skip_length hword
      have hwordColumn : least ≤ (at_.skip w.length).column := by
        have := List.length_pos_iff.2 hw.ne_nil
        rw [Cursor.skip_of_takesColumn hat' fun c hc => (hw.chars c hc).takesColumn]
        push_cast
        omega
      have hnextColumn := le_column_of_isGap hg hleast hwordColumn hword
      -- the scalar goes on behind the gap
      have hgoesOn : (g.isEmpty || ((at_.skip w.length).skip g'.length).peek = some '#'
          || ((at_.skip w.length).skip g'.length).column < least) = false := by
        have hhash : c ≠ '#' := by simpa using hs'
        simp [hg.ne_nil, Cursor.peek, hnext, hhash, hnextColumn]
      have hlength : (c :: u).length < fuel := by
        simp only [List.length_append, List.length_cons] at hfuel ⊢
        have := List.length_pos_iff.2 hw.ne_nil
        omega
      have hmore : plainFrom false least fuel g ((at_.skip w.length).skip g'.length)
          = (g ++ c :: t, ((at_.skip w.length).skip g'.length).skip ((c :: u).length + k), broke) :=
        ih hs' hnext (by omega) hlength
      have hplace : ((at_.skip w.length).skip g'.length).skip ((c :: u).length + k)
          = at_.skip ((w ++ (g' ++ c :: u)).length + k) := by
        rw [← Cursor.skip_add, ← Cursor.skip_add]
        simp [Nat.add_assoc]
      unfold plainFrom
      simp only [hcount, hcons, if_false, hgap, Bool.not_false, Bool.true_and, hgoesOn]
      obtain ⟨b, g, rfl⟩ := List.exists_cons_of_ne_nil hg.ne_nil
      rw [hmore, hplace, hat', List.take_left]
      simp

/-! ## What ends a plain scalar -/

/-- A colon that ends a key. -/
theorem stopsPlain_colon (least : Int) (hrest : endsToken rest.head? = true) :
    StopsPlain least (':' :: rest) 0 false where
  word := by simp [plainRun, hrest]
  gap := by
    intro at_ hat
    have hnone : at_.ahead = List.replicate 0 ' ' ++ (':' :: rest) := hat
    have hrun : at_.run (· = ' ') = ([], at_) := Cursor.run_replicate (by simp) (by simp) hnone
    have hbreak : at_.lineBreak? = none := Cursor.lineBreak?_eq_none hat (by decide)
    refine ⟨[], ?_, by simp⟩
    unfold plainGap
    rw [hrun]
    simp only [hbreak]
    rfl

/-- What may stand at the start of a line, behind its indentation. -/
structure StartsLine (tail : Text) : Prop where
  head : ∀ c ∈ tail.head?, c ≠ ' ' ∧ c ≠ '#' ∧ TakesColumn c
  not_dashes : tail.take 3 ≠ ['-', '-', '-']
  not_dots : tail.take 3 ≠ ['.', '.', '.']

theorem take_append_colon {key : Text} (hcolon : c ≠ ':') (h : key.take 3 ≠ [c, c, c]) (rest : Text) :
    (key ++ ':' :: rest).take 3 ≠ [c, c, c] := by
  rcases key with _ | ⟨a, _ | ⟨b, _ | ⟨d, key⟩⟩⟩
  · simp [hcolon.symm]
  · simp [hcolon.symm]
  · simp [hcolon.symm]
  · exact h

/-- A colon behind a text that may start a line makes no mark of it. -/
theorem StartsLine.append_colon {key : Text} (h : StartsLine key) (rest : Text) :
    StartsLine (key ++ ':' :: rest) where
  head := by
    cases key with
    | nil =>
        have hcolon : TakesColumn ':' := by decide
        intro c hc
        obtain rfl : ':' = c := Option.some.inj hc
        exact ⟨by decide, by decide, hcolon⟩
    | cons c key => exact h.head
  not_dashes := take_append_colon (by decide) h.not_dashes rest
  not_dots := take_append_colon (by decide) h.not_dots rest

theorem StartsLine.atSeparator_eq_false {tail : Text} (h : StartsLine tail)
    (hat : at_.ahead = List.replicate n ' ' ++ tail) : at_.atSeparator = false := by
  cases n with
  | zero =>
      have htail : at_.ahead = tail := hat
      simp [Cursor.atSeparator, Cursor.atMark, htail, h.not_dashes, h.not_dots]
  | succ n =>
      refine Cursor.atSeparator_of_head? ?_
      rw [hat, List.replicate_succ]
      simp

/-- The end of a line, if the next one is further out. -/
theorem stopsPlain_lineStart {least : Int} {tail : Text} (htail : StartsLine tail)
    (hleast : (n : Int) < least) :
    StopsPlain least (lineStart n ++ tail) (n + 1) true where
  word := by
    have hbreak : isBreak '\n' = true := by decide
    simp [lineStart, plainRun, hbreak]
  gap := by
    intro at_ hat
    have hnext : at_.next.ahead = List.replicate n ' ' ++ tail := Cursor.next_ahead hat
    have hmark := htail.atSeparator_eq_false hnext
    have hgap := plainGap_lineStart (fun c hc => ⟨(htail.head c hc).1, (htail.head c hc).2.2.1⟩)
      hmark hat
    refine ⟨[' '], hgap, ?_⟩
    rw [Cursor.skip_lineStart hat]
    simp [hleast]

end ApiScan.Yaml
