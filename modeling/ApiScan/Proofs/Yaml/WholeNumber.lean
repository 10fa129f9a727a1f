import ApiScan.Proofs.Json.Number
import ApiScan.Proofs.Text.Lines
import ApiScan.Proofs.Text.Words
import ApiScan.Yaml.Scalar
import ApiScan.Yaml.Style

set_option autoImplicit false

/-! # Whole numbers as plain scalars

The decimal form of a whole number may be written plain, spells a whole number there and no other
kind of value, and is read as the number, as long as it is short enough to be read. -/

namespace ApiScan.Yaml

variable {s : Text} {c : Char} {n : Int}

/-! ## Digits -/

theorem isDigitOf_ten (h : Text.isDigit c = true) : Text.isDigitOf 10 c = true := by
  have hlt := Text.digitValue?_lt_ten h
  simp only [Text.isDigit, Bool.and_eq_true, decide_eq_true_eq] at h
  simp [Text.isDigitOf, Text.digitValue?, h.1, h.2]
  omega

/-- Characters that are no digits. -/
theorem ne_of_isDigit {d : Char} (h : Text.isDigit c = true) (hd : Text.isDigit d = false) : c ≠ d := by
  rintro rfl
  exact absurd (h.symm.trans hd) (by decide)

/-- A sign, if there is one, and the digits behind it. -/
theorem ofInt_eq (n : Int) :
    Text.ofInt n = (if n < 0 then ['-'] else []) ++ Text.ofNat n.natAbs := by
  cases n with
  | ofNat n => simp [Text.ofInt]
  | negSucc n => simp [Text.ofInt, Int.natAbs_negSucc]

theorem isDigit_or_sign_of_mem_ofInt (h : c ∈ Text.ofInt n) : Text.isDigit c = true ∨ c = '-' := by
  rw [ofInt_eq, List.mem_append] at h
  rcases h with h | h
  · split at h
    · exact Or.inr (List.mem_singleton.1 h)
    · exact absurd h List.not_mem_nil
  · exact Or.inl (Text.isDigit_of_mem_ofNat h)

theorem ofInt_ne_nil (n : Int) : Text.ofInt n ≠ [] := by
  rw [ofInt_eq]
  exact List.append_ne_nil_of_right_ne_nil _ (Text.ofNat_ne_nil _)

theorem getLast?_ofInt (n : Int) : ∃ c, (Text.ofInt n).getLast? = some c ∧ Text.isDigit c = true := by
  have hne := Text.ofNat_ne_nil n.natAbs
  refine ⟨(Text.ofNat n.natAbs).getLast hne, ?_, Text.isDigit_of_mem_ofNat (List.getLast_mem hne)⟩
  rw [ofInt_eq, List.getLast?_append_of_ne_nil _ hne, List.getLast?_eq_some_getLast hne]

/-! ## Style -/

theorem hasInnerMark_eq_false (hcolon : ':' ∉ s) (hhash : '#' ∉ s) : Style.hasInnerMark s = false := by
  induction s with
  | nil => rfl
  | cons a s ih =>
      have htail := ih (fun h => hcolon (List.mem_cons_of_mem a h)) fun h => hhash (List.mem_cons_of_mem a h)
      cases s with
      | nil => rfl
      | cons b s =>
          have hb : b ≠ ':' ∧ b ≠ '#' := by
            constructor
            · rintro rfl
              simp at hcolon
            · rintro rfl
              simp at hhash
          rw [Style.hasInnerMark]
          simp [hb, htail]

theorem hasLeadingMark_ofInt (n : Int) : Style.hasLeadingMark (Text.ofInt n) = false := by
  have hdigit {d : Char} {t : Text} (hd : Text.isDigit d = true) :
      Style.hasLeadingMark (d :: t) = false ∧ Style.hasLeadingMark ('-' :: d :: t) = false := by
    have hmember : d ∉ "#,[]\x7b\x7d&*!|>'\"%@\x60".toList := by
      intro hmem
      have hall : ∀ c ∈ "#,[]\x7b\x7d&*!|>'\"%@\x60".toList, Text.isDigit c = false := by decide
      exact absurd (hd.symm.trans (hall d hmem)) (by decide)
    have hdash : '-' ≠ d := (ne_of_isDigit hd (by decide)).symm
    have hdot : '.' ≠ d := (ne_of_isDigit hd (by decide)).symm
    have hquestion : d ≠ '?' := ne_of_isDigit hd (by decide)
    have hcolon : d ≠ ':' := ne_of_isDigit hd (by decide)
    have hends : endsToken (some d) = false := by
      have hblank : d ≠ ' ' := ne_of_isDigit hd (by decide)
      have htab : d ≠ '\t' := ne_of_isDigit hd (by decide)
      have hfeed : d ≠ '\n' := ne_of_isDigit hd (by decide)
      have hreturn : d ≠ '\r' := ne_of_isDigit hd (by decide)
      have hnext : d ≠ '\x85' := ne_of_isDigit hd (by decide)
      have hline : d ≠ '\u2028' := ne_of_isDigit hd (by decide)
      have hparagraph : d ≠ '\u2029' := ne_of_isDigit hd (by decide)
      simp [endsToken, isBreak, hblank, htab, hfeed, hreturn, hnext, hline, hparagraph]
    constructor
    · simp only [Style.hasLeadingMark, Text.startsWith, Text.after?, hdash, hdot, hquestion, hcolon,
        hdash.symm, if_false, decide_eq_false hmember]
      rfl
    · simp [Style.hasLeadingMark, Text.startsWith, Text.after?, hdash, hends]
  obtain ⟨d, t, hdt⟩ := List.exists_cons_of_ne_nil (Text.ofNat_ne_nil n.natAbs)
  have hd : Text.isDigit d = true :=
    Text.isDigit_of_mem_ofNat (by rw [hdt]; exact List.mem_cons_self)
  rw [ofInt_eq, hdt]
  split
  · exact (hdigit hd).2
  · exact (hdigit hd).1

/-- **A whole number may be written plain.** -/
theorem allowsPlain_ofInt (n : Int) : Style.allowsPlain (Text.ofInt n) = true := by
  have hchar {c : Char} (hc : c ∈ Text.ofInt n) :
      c ≠ ' ' ∧ Style.breaksLine c = false ∧ Style.isSpecial c = false := by
    rcases isDigit_or_sign_of_mem_ofInt hc with hc | rfl
    · refine ⟨ne_of_isDigit hc (by decide), ?_, ?_⟩
      · have hfeed : c ≠ '\n' := ne_of_isDigit hc (by decide)
        have hnext : c ≠ '\x85' := ne_of_isDigit hc (by decide)
        have hline : c ≠ '\u2028' := ne_of_isDigit hc (by decide)
        have hparagraph : c ≠ '\u2029' := ne_of_isDigit hc (by decide)
        simp [Style.breaksLine, hfeed, hnext, hline, hparagraph]
      · simp only [Text.isDigit, Bool.and_eq_true, decide_eq_true_eq] at hc
        have hlow : 0x20 ≤ c.toNat := by omega
        have hhigh : c.toNat ≤ 0x7E := by omega
        simp [Style.isSpecial, hlow, hhigh]
    · decide
  have hnone {d : Char} (hdigit : Text.isDigit d = false) (hsign : d ≠ '-') : d ∉ Text.ofInt n := by
    intro hd
    rcases isDigit_or_sign_of_mem_ofInt hd with h | h
    · exact absurd (h.symm.trans hdigit) (by decide)
    · exact hsign h
  have hends : Style.hasLooseEnds (Text.ofInt n) = false := by
    have hloose {c : Char} (hc : c ∈ Text.ofInt n) : (c = ' ' || Style.breaksLine c) = false := by
      simp [(hchar hc).1, (hchar hc).2.1]
    obtain ⟨c, hlast, -⟩ := getLast?_ofInt n
    obtain ⟨d, t, hdt⟩ := List.exists_cons_of_ne_nil (ofInt_ne_nil n)
    have hfirst : (Text.ofInt n).head? = some d := by rw [hdt]; rfl
    unfold Style.hasLooseEnds
    rw [hlast, hfirst]
    exact Bool.or_eq_false_iff.2
      ⟨hloose (List.mem_of_mem_head? hfirst), hloose (List.mem_of_getLast? hlast)⟩
  have hlines : Style.isMultiline (Text.ofInt n) = false :=
    List.any_eq_false.2 fun c hc => by simp [(hchar hc).2.1]
  have hspecial : (Text.ofInt n).any Style.isSpecial = false :=
    List.any_eq_false.2 fun c hc => by simp [(hchar hc).2.2]
  have hmarks := hasInnerMark_eq_false (hnone (d := ':') (by decide) (by decide))
    (hnone (d := '#') (by decide) (by decide))
  simp [Style.allowsPlain, hends, hlines, hspecial, hasLeadingMark_ofInt, hmarks]

/-! ## Spelling -/

/-- A text that ends with a digit is none of some words that do not. -/
theorem contains_eq_false {words : List Text} (hlast : s.getLast? = some c)
    (hc : Text.isDigit c = true) (hwords : ∀ w ∈ words, w.getLast?.any Text.isDigit = false) :
    words.contains s = false := by
  rw [Bool.eq_false_iff]
  intro hmem
  have hnone := hwords s (List.contains_iff_mem.1 hmem)
  rw [hlast, Option.any_some, hc] at hnone
  exact absurd hnone (by decide)

theorem unsigned_ofInt (n : Int) : Text.unsigned (Text.ofInt n) = Text.ofNat n.natAbs := by
  rw [ofInt_eq]
  split
  · rfl
  · obtain ⟨d, t, hdt⟩ := List.exists_cons_of_ne_nil (Text.ofNat_ne_nil n.natAbs)
    have hd : Text.isDigit d = true :=
      Text.isDigit_of_mem_ofNat (by rw [hdt]; exact List.mem_cons_self)
    have hminus : d ≠ '-' := ne_of_isDigit hd (by decide)
    have hplus : d ≠ '+' := ne_of_isDigit hd (by decide)
    rw [List.nil_append, hdt, Text.unsigned]
    · exact fun rest he => hminus (List.cons.inj he).1
    · exact fun rest he => hplus (List.cons.inj he).1

/-- The digits of a number spell a whole number in base ten. -/
theorem isIntText_ofInt (n : Int) : Tag.isIntText (Text.ofInt n) = true := by
  have hdigits : ∀ c ∈ Text.ofNat n.natAbs, Text.isDigit c = true := fun c hc =>
    Text.isDigit_of_mem_ofNat hc
  obtain ⟨d, t, hdt⟩ := List.exists_cons_of_ne_nil (Text.ofNat_ne_nil n.natAbs)
  have hd := hdigits d (by rw [hdt]; exact List.mem_cons_self)
  unfold Tag.isIntText
  rw [unsigned_ofInt]
  by_cases hzero : d = '0'
  · -- a number that starts with a zero is zero
    have hnumber : Text.ofNat n.natAbs = ['0'] :=
      Json.ofNat_eq_zero_of_head? (by rw [hdt, hzero]; rfl)
    rw [hnumber]
    rfl
  · have hpieces : Text.pieces (· = ':') (Text.ofNat n.natAbs) = [Text.ofNat n.natAbs] :=
      Text.pieces_of_forall fun c hc => by
        simpa using ne_of_isDigit (hdigits c hc) (by decide : Text.isDigit ':' = false)
    have hrun : Tag.isDigitRun 10 (Text.ofNat n.natAbs) = true := by
      rw [Tag.isDigitRun, Bool.and_eq_true]
      refine ⟨by simp [Text.ofNat_ne_nil], List.all_eq_true.2 fun c hc => ?_⟩
      rw [isDigitOf_ten (hdigits c hc), Bool.or_true]
    have hwhole : Tag.isWhole (Text.ofNat n.natAbs) = true := by
      rw [Tag.isWhole, hrun, hdt]
      simpa using hd
    have hnot {rest : Text} : Text.ofNat n.natAbs ≠ '0' :: rest := by
      rw [hdt]
      exact fun he => hzero (List.cons.inj he).1
    split
    · rfl
    · next he => exact absurd he hnot
    · next he => exact absurd he hnot
    · next he => exact absurd he hnot
    · rw [hpieces]
      simpa using hwhole

/-- **The form of a whole number spells a whole number.** -/
theorem ofPlain_ofInt (n : Int) : Tag.ofPlain (Text.ofInt n) = .int := by
  obtain ⟨c, hlast, hc⟩ := getLast?_ofInt n
  have hfeed : c ≠ '\n' := ne_of_isDigit hc (by decide)
  have hbreak : Tag.withoutBreak (Text.ofInt n) = Text.ofInt n := by
    rw [Tag.withoutBreak, if_neg]
    rw [hlast]
    simpa using hfeed
  have hline : Text.ofInt n ≠ ['\n'] := by
    intro he
    rw [he] at hlast
    exact hfeed (Option.some.inj hlast).symm
  have hnull : Tag.nullWords.contains (Text.ofInt n) = false :=
    contains_eq_false hlast hc (by decide)
  have htrue : Tag.trueWords.contains (Text.ofInt n) = false :=
    contains_eq_false hlast hc (by decide)
  have hfalse : Tag.falseWords.contains (Text.ofInt n) = false :=
    contains_eq_false hlast hc (by decide)
  rw [Tag.ofPlain, if_neg hline, hbreak, Tag.ofSpelling]
  simp only [hnull, htrue, hfalse, isIntText_ofInt]
  rfl

/-! ## Reading -/

/-- The digits of a whole number are read as the number, if they are not too many. -/
theorem wholeNumber_ofNat {k : Nat} (hk : (Text.ofNat k).length ≤ Text.maxDigits) :
    wholeNumber 10 (Points.ofText (Text.ofNat k)) = .ok k := by
  have hdigits : ∀ c ∈ Text.ofNat k, Text.isDigit c = true := fun c hc => Text.isDigit_of_mem_ofNat hc
  have hbounds : ∀ c ∈ Text.ofNat k, 48 ≤ c.toNat ∧ c.toNat ≤ 57 := fun c hc => by
    simpa [Text.isDigit] using hdigits c hc
  have hascii : Text.asciiNumeral (Points.ofText (Text.ofNat k)) = Text.ofNat k := by
    rw [Text.asciiNumeral, Points.ofText, List.map_map]
    refine (List.map_congr_left fun c hc => ?_).trans (List.map_id _)
    have hlow : c.toNat < 0x7F := by
      have := hbounds c hc
      omega
    show Text.asciiNumeralChar c = c
    rw [Text.asciiNumeralChar, if_pos hlow]
  have htrimmed : Text.trimmedNumeral (Points.ofText (Text.ofNat k)) = Text.ofNat k := by
    have hnospace : ∀ c ∈ Text.ofNat k, Text.isNumeralSpace c = false := by
      intro c hc
      have hblank : c ≠ ' ' := ne_of_isDigit (hdigits c hc) (by decide)
      have hhigh : ¬ c.toNat ≤ 13 := by
        have := hbounds c hc
        omega
      simp [Text.isNumeralSpace, hblank, hhigh]
    rw [Text.trimmedNumeral, hascii, Text.dropWhile_of_forall hnospace,
      Text.dropEndWhile_of_forall hnospace]
  have hunsigned : Text.unsigned (Text.ofNat k) = Text.ofNat k := unsigned_ofInt k
  have hbase : Text.withoutBase 10 (Text.ofNat k) = Text.ofNat k := by
    unfold Text.withoutBase
    split
    · rfl
    · rfl
  have hrun : (Text.ofNat k).takeWhile (Text.isDigitOf 10) = Text.ofNat k :=
    List.takeWhile_eq_self_iff.2 fun c hc => isDigitOf_ten (hdigits c hc)
  have hpositive : Text.isNegative (Text.ofNat k) = false := by
    obtain ⟨d, t, hdt⟩ := List.exists_cons_of_ne_nil (Text.ofNat_ne_nil k)
    have hd := ne_of_isDigit (hdigits d (by rw [hdt]; exact List.mem_cons_self))
      (by decide : Text.isDigit '-' = false)
    rw [Text.isNegative, hdt]
    simpa using hd
  unfold wholeNumber Text.wholeNumber
  simp only [htrimmed, hunsigned, hbase, hrun]
  simp [hpositive, Text.toNat_ofNat, Nat.not_lt.2 hk, Text.ofNat_ne_nil, Except.mapError]

theorem intSize_ofNat {k : Nat} (hk : (Text.ofNat k).length ≤ Text.maxDigits) :
    intSize (Points.ofText (Text.ofNat k)) = .ok k := by
  have hdigits : ∀ c ∈ Text.ofNat k, Text.isDigit c = true := fun c hc => Text.isDigit_of_mem_ofNat hc
  obtain ⟨d, t, hdt⟩ := List.exists_cons_of_ne_nil (Text.ofNat_ne_nil k)
  by_cases hzero : d = '0'
  · have hnumber : Text.ofNat k = ['0'] := Json.ofNat_eq_zero_of_head? (by rw [hdt, hzero]; rfl)
    have hk0 : k = 0 := by
      rw [← Text.toNat_ofNat k, hnumber]
      rfl
    subst hk0
    rfl
  · have hnot {rest : Points} : Points.ofText (Text.ofNat k) ≠ .char '0' :: rest := by
      rw [hdt]
      exact fun he => hzero (CodePoint.char.inj (List.cons.inj he).1)
    have hcolon : (Points.ofText (Text.ofNat k)).contains (.char ':') = false := by
      rw [Bool.eq_false_iff]
      intro hmem
      obtain ⟨c, hc, he⟩ := List.mem_map.1 (List.contains_iff_mem.1 hmem)
      exact ne_of_isDigit (hdigits c hc) (by decide : Text.isDigit ':' = false) (CodePoint.char.inj he)
    unfold intSize
    split
    · next he => exact absurd he (by rw [hdt]; exact List.cons_ne_nil _ _)
    · next he => exact absurd he hnot
    · next he => exact absurd he hnot
    · next he => exact absurd he hnot
    · next he => exact absurd he hnot
    · rw [hcolon]
      exact wholeNumber_ofNat hk

/-- **A whole number that is short enough is read as itself.** -/
theorem readInt_ofInt (hn : Json.IsShort n) : readInt (Points.ofText (Text.ofInt n)) = .ok n := by
  have hungrouped : ungrouped (Points.ofText (Text.ofInt n)) = Points.ofText (Text.ofInt n) := by
    refine List.filter_eq_self.2 fun point hpoint => ?_
    obtain ⟨c, hc, rfl⟩ := List.mem_map.1 hpoint
    have hline : c ≠ '_' := by
      rcases isDigit_or_sign_of_mem_ofInt hc with hc | rfl
      · exact ne_of_isDigit hc (by decide)
      · decide
    simpa using hline
  have hsize := intSize_ofNat hn
  unfold readInt
  simp only [hungrouped]
  by_cases hsign : n < 0
  · have hform : Points.ofText (Text.ofInt n) = .char '-' :: Points.ofText (Text.ofNat n.natAbs) := by
      rw [ofInt_eq, if_pos hsign]
      rfl
    rw [hform, withoutSign, hsize]
    have hvalue : -(n.natAbs : Int) = n := by omega
    show Except.ok (-(n.natAbs : Int)) = _
    rw [hvalue]
  · have hform : Points.ofText (Text.ofInt n) = Points.ofText (Text.ofNat n.natAbs) := by
      rw [ofInt_eq, if_neg hsign]
      rfl
    obtain ⟨d, t, hdt⟩ := List.exists_cons_of_ne_nil (Text.ofNat_ne_nil n.natAbs)
    have hd : Text.isDigit d = true :=
      Text.isDigit_of_mem_ofNat (by rw [hdt]; exact List.mem_cons_self)
    have hminus : d ≠ '-' := ne_of_isDigit hd (by decide)
    have hplus : d ≠ '+' := ne_of_isDigit hd (by decide)
    have hpoints : Points.ofText (Text.ofNat n.natAbs) = .char d :: Points.ofText t := by
      rw [hdt]
      rfl
    have hunsigned : withoutSign (Points.ofText (Text.ofNat n.natAbs))
        = Points.ofText (Text.ofNat n.natAbs) := by
      rw [hpoints]
      unfold withoutSign
      split
      · next he => exact absurd (CodePoint.char.inj (List.cons.inj he).1) hminus
      · next he => exact absurd (CodePoint.char.inj (List.cons.inj he).1) hplus
      · rfl
    have hnominus : hasMinus (Points.ofText (Text.ofNat n.natAbs)) = false := by
      rw [hasMinus, hpoints]
      simpa using hminus
    have hvalue : (n.natAbs : Int) = n := by omega
    rw [hform, hunsigned, hsize, hnominus]
    show Except.ok (n.natAbs : Int) = _
    rw [hvalue]

end ApiScan.Yaml
