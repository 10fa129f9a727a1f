import ApiScan.Proofs.Json.Quoted
import ApiScan.Proofs.Yaml.Form.Pen
import ApiScan.Proofs.Yaml.Form.Quoted

set_option autoImplicit false

/-! # The form of a text in double quotes

Between double quotes every character is written as itself or as its escape, and a long line may be
broken behind a backslash. Such a form is read as its text. The writer keeps to these forms unless
it breaks the line twice in a row at one blank, which happens behind an escape where the indentation
alone fills a line. -/

namespace ApiScan

/-! ## Hexadecimal digits -/

namespace Text

theorem length_upperHexDigits (width n : Nat) : (upperHexDigits width n).length = width := by
  rw [upperHexDigits, List.length_map]
  induction width generalizing n with
  | zero => rfl
  | succ width ih => rw [hexDigits, List.length_append, ih, List.length_singleton]

theorem digitValue?_toUpper {n : Nat} (h : n < 16) :
    digitValue? (Char.toUpper (hexDigit n)) = some n := by
  have hall : ∀ n < 16, digitValue? (Char.toUpper (hexDigit n)) = some n := by decide
  exact hall n h

theorem upperHexDigits_succ (width n : Nat) :
    upperHexDigits (width + 1) n
      = upperHexDigits width (n / 16) ++ [Char.toUpper (hexDigit (n % 16))] := by
  simp [upperHexDigits, hexDigits]

theorem all_upperHexDigits (width n : Nat) : (upperHexDigits width n).all (isDigitOf 16) = true := by
  induction width generalizing n with
  | zero => rfl
  | succ width ih =>
      have hlt : n % 16 < 16 := Nat.mod_lt n (by decide)
      rw [upperHexDigits_succ, List.all_append, ih]
      simp [isDigitOf, digitValue?_toUpper hlt, hlt]

theorem toNat_upperHexDigits {width n : Nat} (h : n < 16 ^ width) :
    toNat 16 (upperHexDigits width n) = n := by
  induction width generalizing n with
  | zero =>
      obtain rfl : n = 0 := by simpa using h
      rfl
  | succ width ih =>
      have hlt : n % 16 < 16 := Nat.mod_lt n (by decide)
      have hfront : toNat 16 (upperHexDigits width (n / 16)) = n / 16 :=
        ih (Nat.div_lt_of_lt_mul (by rwa [Nat.pow_succ, Nat.mul_comm] at h))
      rw [upperHexDigits_succ, toNat, List.foldl_append]
      rw [toNat] at hfront
      rw [hfront]
      simp [digitValue?_toUpper hlt]
      omega

end Text

namespace Yaml

variable {s out : Text} {indent : Nat} {c : Char}

/-! ## The form -/

/-- The forms of a text between double quotes. -/
inductive DoubleForm (indent : Nat) : Text → Text → Prop
  | nil : DoubleForm indent [] []
  | literal {c : Char} {s out : Text} (hc : isLiteral c = true) (h : DoubleForm indent s out) :
      DoubleForm indent (c :: s) (c :: out)
  | escape {c : Char} {s out : Text} (hc : isLiteral c = false) (h : DoubleForm indent s out) :
      DoubleForm indent (c :: s) (escape c ++ out)
  | fold {s out : Text} (hs : s.head? ≠ some ' ') (h : DoubleForm indent s out) :
      DoubleForm indent s ('\\' :: (lineStart indent ++ out))
  | foldBlank {s out : Text} (h : DoubleForm indent s out) :
      DoubleForm indent (' ' :: s) ('\\' :: (lineStart indent ++ '\\' :: ' ' :: out))

theorem exists_escape_eq_cons (c : Char) : ∃ u, escape c = '\\' :: u := by
  unfold escape
  split
  all_goals try exact ⟨_, rfl⟩
  simp only
  split
  · exact ⟨_, rfl⟩
  · split <;> exact ⟨_, rfl⟩

/-- A character that stands for itself is no white space but a blank, and breaks no line. -/
theorem isLiteral_spec (hc : isLiteral c = true) :
    isBreak c = false ∧ c ≠ '\t' ∧ c ≠ '"' ∧ c ≠ '\\' := by
  have hne {d : Char} (hd : isLiteral d = false) : c ≠ d := by
    rintro rfl
    exact absurd (hc.symm.trans hd) (by decide)
  refine ⟨?_, hne (by decide), hne (by decide), hne (by decide)⟩
  have hfeed : c ≠ '\n' := hne (by decide)
  have hreturn : c ≠ '\r' := hne (by decide)
  have hnext : c ≠ '\x85' := hne (by decide)
  have hline : c ≠ '\u2028' := hne (by decide)
  have hparagraph : c ≠ '\u2029' := hne (by decide)
  simp [isBreak, hfeed, hreturn, hnext, hline, hparagraph]

theorem DoubleForm.staysOnLine (h : DoubleForm indent s out) : StaysOnLine out := by
  have hslash (u : Text) : StaysOnLine ('\\' :: u) := by
    intro d hd
    obtain rfl : '\\' = d := Option.some.inj hd
    decide
  induction h with
  | nil => exact fun d hd => absurd hd (Option.not_mem_none d)
  | @literal c s out hc h ih =>
      by_cases hspacing : isSpacing c = true
      · intro d hd
        rw [List.dropWhile_cons_of_pos hspacing] at hd
        exact ih d hd
      · intro d hd
        rw [List.dropWhile_cons_of_neg hspacing] at hd
        obtain rfl : c = d := Option.some.inj hd
        exact (isLiteral_spec hc).1
  | @escape c s out hc h ih =>
      obtain ⟨u, hu⟩ := exists_escape_eq_cons c
      rw [hu]
      exact hslash _
  | fold => exact hslash _
  | foldBlank => exact hslash _

theorem DoubleForm.startsInk (h : DoubleForm indent s out) (hs : s.head? ≠ some ' ') :
    StartsInk out := by
  have hslash (u : Text) : StartsInk ('\\' :: u) := by
    intro d hd
    obtain rfl : '\\' = d := Option.some.inj hd
    decide
  cases h with
  | nil => exact fun d hd => absurd hd (Option.not_mem_none d)
  | @literal c s out hc h =>
      intro d hd
      obtain rfl : c = d := Option.some.inj hd
      obtain ⟨hbreak, htab, -⟩ := isLiteral_spec hc
      have hblank : c ≠ ' ' := fun he => hs (congrArg some he)
      exact ⟨by simp [isSpacing, hblank, htab], hbreak⟩
  | @escape c s out hc h =>
      obtain ⟨u, hu⟩ := exists_escape_eq_cons c
      rw [hu]
      exact hslash _
  | fold => exact hslash _
  | foldBlank => exact hslash _

/-! ## Reading -/

/-- An escape is read as its character. -/
theorem ReadsAs.escaped {body : Text} {points : Points} (c : Char) (h : ReadsAs true body points) :
    ReadsAs true (Yaml.escape c ++ body) (.char c :: points) := by
  have hcode {letter : Char} {width : Nat} (hshort : shortEscape? letter = none)
      (hwidth : codeWidth? letter = some width) (hlt : c.toNat < 16 ^ width) :
      ReadsAs true ('\\' :: letter :: Text.upperHexDigits width c.toNat ++ body)
        (.char c :: points) := by
    refine h.code hshort ?_ (Text.all_upperHexDigits width c.toNat) ?_
    · rw [hwidth, Text.length_upperHexDigits]
    · rw [Text.toNat_upperHexDigits hlt, codePoint, Json.ofNat?_toNat]
  have hbound := Json.toNat_lt c
  unfold Yaml.escape
  split
  all_goals try exact h.escape (by decide)
  simp only
  split
  · next hlt => exact hcode (by decide) (by decide) (Nat.lt_succ_of_le hlt)
  · split
    · next hlt => exact hcode (by decide) (by decide) (Nat.lt_succ_of_le hlt)
    · exact hcode (by decide) (by decide) (Nat.lt_trans hbound (by decide))

/-- **A form between double quotes is read as its text.** -/
theorem DoubleForm.readsAs (hindent : 0 < indent) (h : DoubleForm indent s out) :
    ReadsAs true out (Points.ofText s) := by
  induction h with
  | nil => exact .nil true
  | @literal c s out hc h ih =>
      obtain ⟨hbreak, htab, hquote, hslash⟩ := isLiteral_spec hc
      by_cases hblank : c = ' '
      · subst hblank
        exact ih.blank h.staysOnLine
      · exact ih.char ⟨hblank, htab⟩ hbreak (fun hsingle => absurd hsingle (by decide))
          fun _ => ⟨hquote, hslash⟩
  | @escape c s out hc h ih => exact ih.escaped c
  | fold hs h ih => exact ih.escapedBreak hindent (h.startsInk hs)
  | foldBlank h ih =>
      have hescaped := ih.escape (c := ' ') (b := ' ') (by decide)
      refine hescaped.escapedBreak hindent ?_
      intro d hd
      obtain rfl : '\\' = d := Option.some.inj hd
      decide

/-! ## Writing -/

/-- Whether a blank with something behind it follows a character that is escaped. -/
def hasEscapeBeforeBlank : Text → Bool
  | a :: b :: c :: rest => (!isLiteral a && b = ' ') || hasEscapeBeforeBlank (b :: c :: rest)
  | _ => false

theorem hasEscapeBeforeBlank_tail (h : hasEscapeBeforeBlank (c :: s) = false) :
    hasEscapeBeforeBlank s = false := by
  cases s with
  | nil => rfl
  | cons d s =>
      cases s with
      | nil => rfl
      | cons e s =>
          rw [hasEscapeBeforeBlank, Bool.or_eq_false_iff] at h
          exact h.2

/-- Whether no line is broken twice at one blank. The first character of a text does not count, since
    a line is not broken behind it. -/
def BreaksOnce (indent : Nat) (split first : Bool) (s : Text) : Prop :=
  split = true → indent < lineWidth ∨ hasEscapeBeforeBlank (if first then s.tail else s) = false

instance (indent : Nat) (split first : Bool) (s : Text) : Decidable (BreaksOnce indent split first s) :=
  inferInstanceAs (Decidable (_ → _ ∨ _))

theorem BreaksOnce.tail {split first : Bool} (h : BreaksOnce indent split first (c :: s)) :
    BreaksOnce indent split false s := by
  intro hsplit
  refine (h hsplit).imp id fun h => ?_
  cases first with
  | true => exact h
  | false => exact hasEscapeBeforeBlank_tail h

/-- The rest of a text is written in one of its forms by every pen. -/
def WritesDouble (indent : Nat) (split first start : Bool) (s : Text) : Prop :=
  ∀ pen : Pen, pen.fresh = false → ∃ out, DoubleForm indent s out
    ∧ (doubleBody indent split first start (Points.ofText s) pen).written
      = out.reverse ++ pen.written

theorem foldDouble_eq (indent : Nat) {pen : Pen} (hfresh : pen.fresh = false) (next : Option CodePoint) :
    (foldDouble indent next pen).fresh = false
      ∧ (foldDouble indent next pen).column = indent + (if next = some (.char ' ') then 1 else 0)
      ∧ (foldDouble indent next pen).written
        = (if next = some (.char ' ') then ['\\'] else []) ++ (lineStart indent).reverse
          ++ '\\' :: pen.written := by
  have hbreaks : (pen.put ['\\']).Breaks indent := Or.inl hfresh
  unfold foldDouble
  rw [Pen.indentTo_of_breaks hbreaks]
  split <;> simp [Pen.put, Pen.settle]

theorem doubleBody_literal {split first start : Bool} {pen : Pen} (hc : isLiteral c = true) :
    doubleBody indent split first start (Points.ofText (c :: s)) pen
      = doubleBody indent split false false (Points.ofText s)
        ((if split && !first && !s.isEmpty && (c = ' ' || start) && lineWidth < pen.column then
            foldDouble indent (some (.char c)) pen
          else pen).put [c]) := by
  rw [Points.ofText, List.map_cons, doubleBody]
  simp [doubleForm, hc, Points.ofText]

theorem doubleBody_escape {split first start : Bool} {pen : Pen} (hc : isLiteral c = false) :
    doubleBody indent split first start (Points.ofText (c :: s)) pen
      = doubleBody indent split false true (Points.ofText s)
        (if split && !first && !s.isEmpty && lineWidth + 1 < (pen.put (escape c)).column then
            foldDouble indent (Points.ofText s).head? (pen.put (escape c))
          else pen.put (escape c)) := by
  rw [Points.ofText, List.map_cons, doubleBody]
  simp [doubleForm, hc, Points.ofText]

/-- A character that stands for itself, perhaps on a new line. -/
theorem writesDouble_literal {split first start : Bool} (hc : isLiteral c = true)
    (ih : WritesDouble indent split false false s) :
    WritesDouble indent split first start (c :: s) := by
  intro pen hfresh
  rw [doubleBody_literal hc]
  split
  · obtain ⟨hfold, -, hwritten⟩ := foldDouble_eq indent hfresh (some (.char c))
    obtain ⟨out, hform, hout⟩ := ih ((foldDouble indent (some (.char c)) pen).put [c]) hfold
    by_cases hblank : c = ' '
    · subst hblank
      refine ⟨_, hform.foldBlank, hout.trans ?_⟩
      simp [hwritten]
    · have hhead : (c :: s).head? ≠ some ' ' := fun he => hblank (Option.some.inj he)
      refine ⟨_, (hform.literal hc).fold hhead, hout.trans ?_⟩
      simp [hwritten, hblank]
  · obtain ⟨out, hform, hout⟩ := ih (pen.put [c]) hfresh
    exact ⟨_, hform.literal hc, hout.trans (by simp)⟩

/-- An escape, perhaps with a new line behind it, where a blank has to be kept apart from the
    indentation. -/
theorem writesDouble_escape {split first start : Bool} (hc : isLiteral c = false)
    (honce : BreaksOnce indent split first (c :: s))
    (ih : WritesDouble indent split false true s)
    (ihBlank : ∀ t, s = ' ' :: t → WritesDouble indent split false false t) :
    WritesDouble indent split first start (c :: s) := by
  intro pen hfresh
  have hput : (pen.put (escape c)).fresh = false := hfresh
  rw [doubleBody_escape hc]
  split
  · next hbroken =>
      obtain ⟨⟨⟨hsplit, hfirst⟩, hne⟩, -⟩ : ((split = true ∧ first = false) ∧ s.isEmpty = false) ∧ _ := by
        simpa only [Bool.and_eq_true, Bool.not_eq_true'] using hbroken
      obtain ⟨hfold, hcolumn, hwritten⟩ := foldDouble_eq indent hput (Points.ofText s).head?
      by_cases hblank : s.head? = some ' '
      · obtain ⟨t, rfl⟩ := List.head?_eq_some_iff.1 hblank
        have hnext : (Points.ofText (' ' :: t)).head? = some (.char ' ') := rfl
        rw [hnext] at hfold hcolumn hwritten ⊢
        -- the line is not broken again at the blank
        have hstays : ¬ (split && !false && !t.isEmpty && (' ' = ' ' || true)
            && lineWidth < (foldDouble indent (some (.char ' ')) (pen.put (escape c))).column) = true := by
          rw [hcolumn, if_pos rfl]
          rcases honce hsplit with hlt | hnone
          · simp [Nat.not_lt.2 hlt]
          · cases t with
            | nil => simp
            | cons d t => simp [hfirst, hasEscapeBeforeBlank, hc] at hnone
        obtain ⟨out, hform, hout⟩ := ihBlank t rfl
          ((foldDouble indent (some (.char ' ')) (pen.put (escape c))).put [' ']) hfold
        refine ⟨_, hform.foldBlank.escape hc, ?_⟩
        rw [doubleBody_literal (by decide), if_neg hstays, hout]
        simp [hwritten]
      · -- the new line starts with the next character
        have hnext : (Points.ofText s).head? ≠ some (.char ' ') := by
          cases s with
          | nil => exact (Option.some_ne_none _).symm
          | cons d t =>
              intro he
              exact hblank (congrArg some (CodePoint.char.inj (Option.some.inj he)))
        obtain ⟨out, hform, hout⟩ :=
          ih (foldDouble indent (Points.ofText s).head? (pen.put (escape c))) hfold
        refine ⟨_, (hform.fold hblank).escape hc, ?_⟩
        rw [hout]
        simp [hwritten, hnext]
  · obtain ⟨out, hform, hout⟩ := ih (pen.put (escape c)) hput
    exact ⟨_, hform.escape hc, hout.trans (by simp)⟩

/-- **The rest of a text is written between double quotes in one of its forms**, unless a line is
    broken twice at one blank. -/
theorem writesDouble (indent : Nat) (split first start : Bool) (s : Text)
    (honce : BreaksOnce indent split first s) : WritesDouble indent split first start s := by
  -- behind an escape a blank is written together with it, so the induction is on the length
  induction hn : s.length using Nat.strong_induction_on generalizing first start s with
  | _ n ih =>
      subst hn
      cases s with
      | nil => exact fun pen _ => ⟨[], .nil, rfl⟩
      | cons c s =>
          have hless : s.length < (c :: s).length := Nat.lt_succ_self _
          by_cases hc : isLiteral c = true
          · exact writesDouble_literal hc (ih _ hless false false s honce.tail rfl)
          · refine writesDouble_escape (Bool.eq_false_iff.2 hc) honce
              (ih _ hless false true s honce.tail rfl) ?_
            rintro t rfl
            exact ih _ (Nat.lt_trans (Nat.lt_succ_self _) hless) false false t honce.tail.tail rfl

/-- **A text is written in double quotes in one of its forms there**, unless a line is broken twice at
    one blank. -/
theorem exists_putDouble (split : Bool) (pen : Pen) (honce : BreaksOnce indent split true s) :
    ∃ body, DoubleForm indent s body
      ∧ (putDouble indent split (Points.ofText s) pen).written
        = (if pen.spaced then '"' :: (body ++ ['"']) else ' ' :: '"' :: (body ++ ['"'])).reverse
          ++ pen.written
      ∧ (putDouble indent split (Points.ofText s) pen).fresh = false
      ∧ (putDouble indent split (Points.ofText s) pen).spaced = false := by
  obtain ⟨body, hform, hwritten⟩ := writesDouble indent split true true s honce (pen.mark ['"'] true) rfl
  refine ⟨body, hform, ?_, rfl, rfl⟩
  rw [putDouble, Pen.written_mark, hwritten, Pen.written_mark]
  cases pen.spaced <;> simp

/-! ## Characters -/

/-- Whether a character may stand in a YAML text and comes back from a file as it is. -/
def isWritten (c : Char) : Bool := isPrintable c && c ≠ '\r'

theorem isWritten_of_toNat (hc : isPrintable c = true) (hreturn : c.toNat ≠ 0x0D) :
    isWritten c = true := by
  refine Bool.and_eq_true_iff.2 ⟨hc, decide_eq_true ?_⟩
  rintro rfl
  exact hreturn rfl

theorem isWritten_of_isLiteral (hc : isLiteral c = true) : isWritten c = true := by
  simp only [isLiteral, Bool.and_eq_true, Bool.or_eq_true, decide_eq_true_eq] at hc
  refine isWritten_of_toNat ?_ (by omega)
  simp only [isPrintable, Bool.or_eq_true, Bool.and_eq_true, decide_eq_true_eq]
  rcases hc.2 with h | h
  · exact Or.inl (Or.inl (Or.inr h))
  · exact Or.inl (Or.inr h)

/-- Whether a character is one of ASCII that is shown. -/
def IsShownAscii (c : Char) : Prop := 0x20 ≤ c.toNat ∧ c.toNat ≤ 0x7E

instance (c : Char) : Decidable (IsShownAscii c) := inferInstanceAs (Decidable (_ ∧ _))

theorem IsShownAscii.isWritten (h : IsShownAscii c) : isWritten c = true := by
  have hrange : (decide (0x20 ≤ c.toNat) && decide (c.toNat ≤ 0x7E)) = true := by
    rw [Bool.and_eq_true, decide_eq_true_eq, decide_eq_true_eq]
    exact h
  refine isWritten_of_toNat ?_ (by have := h.1; omega)
  simp only [isPrintable, hrange, Bool.or_true, Bool.true_or]

theorem IsShownAscii.takesColumn (h : IsShownAscii c) : TakesColumn c := by
  have hne {d : Char} (hd : ¬ IsShownAscii d) : c ≠ d := by
    rintro rfl
    exact hd h
  have hmark : c ≠ '\uFEFF' := hne (by decide)
  refine ⟨?_, hmark⟩
  have hfeed : c ≠ '\n' := hne (by decide)
  have hreturn : c ≠ '\r' := hne (by decide)
  have hnext : c ≠ '\x85' := hne (by decide)
  have hline : c ≠ '\u2028' := hne (by decide)
  have hparagraph : c ≠ '\u2029' := hne (by decide)
  simp [isBreak, hfeed, hreturn, hnext, hline, hparagraph]

theorem isShownAscii_of_mem_upperHexDigits {width n : Nat} (h : c ∈ Text.upperHexDigits width n) :
    IsShownAscii c := by
  have hdigit : ∀ n < 16, IsShownAscii (Char.toUpper (Text.hexDigit n)) := by decide
  induction width generalizing n with
  | zero => exact absurd h List.not_mem_nil
  | succ width ih =>
      rw [Text.upperHexDigits_succ, List.mem_append, List.mem_singleton] at h
      rcases h with h | rfl
      · exact ih h
      · exact hdigit _ (Nat.mod_lt n (by decide))

/-- An escape is made of characters of ASCII that are shown. -/
theorem isShownAscii_of_mem_escape {d : Char} (h : d ∈ escape c) : IsShownAscii d := by
  have hpair {letter : Char} (hletter : IsShownAscii letter) (h : d ∈ ['\\', letter]) :
      IsShownAscii d := by
    simp only [List.mem_cons, List.not_mem_nil, or_false] at h
    rcases h with rfl | rfl
    · decide
    · exact hletter
  have hcode {letter : Char} {width n : Nat} (hletter : IsShownAscii letter)
      (h : d ∈ '\\' :: letter :: Text.upperHexDigits width n) : IsShownAscii d := by
    rw [List.mem_cons, List.mem_cons] at h
    rcases h with rfl | rfl | h
    · decide
    · exact hletter
    · exact isShownAscii_of_mem_upperHexDigits h
  unfold escape at h
  split at h
  all_goals try exact hpair (by decide) h
  simp only at h
  split at h
  · exact hcode (by decide) h
  · split at h
    · exact hcode (by decide) h
    · exact hcode (by decide) h

/-- The characters of a form may stand in a YAML text and come back from a file. -/
theorem DoubleForm.isWritten (h : DoubleForm indent s out) : ∀ c ∈ out, isWritten c = true := by
  have hslash : Yaml.isWritten '\\' = true := by decide
  have hblank : Yaml.isWritten ' ' = true := by decide
  have hstart : ∀ c ∈ lineStart indent, Yaml.isWritten c = true := by
    intro c hc
    rcases List.mem_cons.1 hc with rfl | hc
    · decide
    · rw [List.eq_of_mem_replicate hc]
      decide
  induction h with
  | nil => exact fun c hc => absurd hc List.not_mem_nil
  | literal hc h ih => exact List.forall_mem_cons.2 ⟨isWritten_of_isLiteral hc, ih⟩
  | escape hc h ih =>
      exact List.forall_mem_append.2 ⟨fun d hd => (isShownAscii_of_mem_escape hd).isWritten, ih⟩
  | fold hs h ih => exact List.forall_mem_cons.2 ⟨hslash, List.forall_mem_append.2 ⟨hstart, ih⟩⟩
  | foldBlank h ih =>
      refine List.forall_mem_cons.2 ⟨hslash, List.forall_mem_append.2 ⟨hstart, ?_⟩⟩
      exact List.forall_mem_cons.2 ⟨hslash, List.forall_mem_cons.2 ⟨hblank, ih⟩⟩

/-! ## Texts on one line -/

/-- What stands between double quotes where no line is broken. -/
def doubleText (s : Text) : Text := s.flatMap fun c => if isLiteral c then [c] else escape c

theorem doubleBody_of_not_split (first start : Bool) (s : Text) (pen : Pen) :
    doubleBody indent false first start (Points.ofText s) pen = pen.put (doubleText s) := by
  induction s generalizing first start pen with
  | nil => rfl
  | cons c s ih =>
      have hcons : doubleText (c :: s) = (if isLiteral c then [c] else escape c) ++ doubleText s :=
        List.flatMap_cons
      by_cases hc : isLiteral c = true
      · rw [doubleBody_literal hc, ih, hcons]
        simp [hc, Pen.put_put]
      · rw [doubleBody_escape (Bool.eq_false_iff.2 hc), ih, hcons]
        simp [hc, Pen.put_put]

theorem takesColumn_of_mem_doubleText {d : Char} (h : d ∈ doubleText s) : TakesColumn d := by
  obtain ⟨c, -, hd⟩ := List.mem_flatMap.1 h
  by_cases hc : isLiteral c = true
  · rw [if_pos hc, List.mem_singleton] at hd
    subst hd
    refine ⟨(isLiteral_spec hc).1, ?_⟩
    rintro rfl
    exact absurd hc (by decide)
  · rw [if_neg hc] at hd
    exact (isShownAscii_of_mem_escape hd).takesColumn

end Yaml

end ApiScan
