import ApiScan.Json.Printer
import ApiScan.Json.Reader
import ApiScan.Proofs.Text.Digits

set_option autoImplicit false

/-! # Quoted texts read back

A quoted text reads as the text, except that the halves of a surrogate pair that stand side by side
in it are written as the two escapes of one character, and read as that character. A text of
characters only reads back as it is. -/

namespace ApiScan

/-! ## Joined halves -/

/-- The character of a high and a low half. -/
def CodePoint.pair (high low : Fin 2048) : CodePoint :=
  .char (Char.ofNat (0x10000 + high * 0x400 + (low - 0x400)))

/-- A text with each high half and a low half right behind it joined to the character of the pair. -/
def Points.joined : Points → Points
  | .half high :: .half low :: more =>
    if (high : Nat) < 0x400 ∧ 0x400 ≤ (low : Nat) then CodePoint.pair high low :: joined more
    else .half high :: joined (.half low :: more)
  | point :: more => point :: joined more
  | [] => []

theorem Points.joined_ofText (s : Text) : Points.joined (Points.ofText s) = Points.ofText s := by
  induction s with
  | nil => rfl
  | cons c s ih =>
      show Points.joined (.char c :: Points.ofText s) = .char c :: Points.ofText s
      rw [Points.joined, ih]
      simp

namespace Json

/-! ## Escapes -/

theorem hexDigits_four (unit : Nat) :
    Text.hexDigits 4 unit = [Nat.digitChar (unit / 16 / 16 / 16 % 16),
      Nat.digitChar (unit / 16 / 16 % 16), Nat.digitChar (unit / 16 % 16),
      Nat.digitChar (unit % 16)] := rfl

theorem isDigitOf_digitChar {n : Nat} (h : n < 16) :
    Text.isDigitOf 16 (Nat.digitChar n) = true := by
  rw [Text.isDigitOf, Text.digitValue?_digitChar h]
  simpa using h

theorem readUnit?_hexDigits {unit : Nat} (h : unit < 0x10000) (rest : Text) :
    readUnit? (Text.hexDigits 4 unit ++ rest) = some (unit, rest) := by
  have hmod (n : Nat) : n % 16 < 16 := Nat.mod_lt n (by decide)
  have hvalue : Text.toNat 16 (Text.hexDigits 4 unit) = unit := by
    rw [hexDigits_four]
    simp only [Text.toNat, List.foldl_cons, List.foldl_nil, Text.digitValue?_digitChar (hmod _),
      Option.getD_some]
    omega
  rw [hexDigits_four] at hvalue ⊢
  simp only [List.cons_append, List.nil_append, readUnit?, List.all_cons, List.all_nil,
    isDigitOf_digitChar (hmod _), Bool.and_self, if_true, hvalue]

theorem readLow?_unitEscape {unit : Nat} (h : unit < 0x10000) (rest : Text) :
    readLow? (unitEscape unit ++ rest)
      = if 0xDC00 ≤ unit ∧ unit < 0xE000 then some (unit, rest) else none := by
  simp only [unitEscape, List.cons_append, readLow?, readUnit?_hexDigits h, Option.bind_eq_bind,
    Option.bind_some]
  rfl

/-- A code unit that is no high half stands for itself, whatever follows. -/
theorem readEscaped?_single {unit : Nat} (h : unit < 0x10000)
    (hhigh : ¬ (0xD800 ≤ unit ∧ unit < 0xDC00)) (rest : Text) :
    readEscaped? (Text.hexDigits 4 unit ++ rest)
      = (CodePoint.ofNat? unit).map fun point => (point, rest) := by
  simp only [readEscaped?, readUnit?_hexDigits h, Option.bind_eq_bind, Option.bind_some,
    if_neg hhigh]
  cases CodePoint.ofNat? unit <;> rfl

/-- A high half stands alone where no low half follows. -/
theorem readEscaped?_alone {unit : Nat} (hlow : 0xD800 ≤ unit) (hhigh : unit < 0xDC00) {rest : Text}
    (hrest : readLow? rest = none) :
    readEscaped? (Text.hexDigits 4 unit ++ rest)
      = some (.half ⟨unit - 0xD800, by omega⟩, rest) := by
  simp only [readEscaped?, readUnit?_hexDigits (by omega : unit < 0x10000), Option.bind_eq_bind,
    Option.bind_some, if_pos (And.intro hlow hhigh), hrest, CodePoint.ofNat?]
  rw [dif_pos ⟨hlow, by omega⟩]
  rfl

/-- A high half and a low one join. -/
theorem readEscaped?_pair (high low : Nat) (hhigh : 0xD800 ≤ high ∧ high < 0xDC00)
    (hlow : 0xDC00 ≤ low ∧ low < 0xE000) (rest : Text) :
    readEscaped? (Text.hexDigits 4 high ++ (unitEscape low ++ rest))
      = some (.char (Char.ofNat (0x10000 + (high - 0xD800) * 0x400 + (low - 0xDC00))), rest) := by
  simp only [readEscaped?, readUnit?_hexDigits (by omega : high < 0x10000), Option.bind_eq_bind,
    Option.bind_some, if_pos hhigh, readLow?_unitEscape (by omega : low < 0x10000), if_pos hlow]
  rfl

/-! ## Characters -/

theorem toNat_not_half (c : Char) : ¬ (0xD800 ≤ c.toNat ∧ c.toNat < 0xE000) := by
  rintro ⟨hlow, hhigh⟩
  rcases c.valid with h | h
  · exact absurd hlow (Nat.not_le.2 h)
  · have hafter : 0xDFFF < c.toNat := h.1
    omega

theorem toNat_lt (c : Char) : c.toNat < 0x110000 := by
  rcases c.valid with h | h
  · have h' : c.toNat < 0xD800 := h
    omega
  · exact h.2

theorem ofNat?_toNat (c : Char) : CodePoint.ofNat? c.toNat = some (.char c) := by
  rw [CodePoint.ofNat?, dif_neg (toNat_not_half c), if_pos (toNat_lt c), Char.ofNat_toNat]

/-- Reading goes on behind one code point. -/
def continueWith (point : CodePoint) (read : Option (Points × Text)) : Option (Points × Text) :=
  read.map fun (more, rest) => (point :: more, rest)

theorem readQuoted?_escaped {n : Nat} {s rest : Text} {point : CodePoint}
    (h : readEscaped? s = some (point, rest)) :
    readQuoted? (n + 1) ('\\' :: 'u' :: s) = continueWith point (readQuoted? n rest) := by
  simp only [readQuoted?, h, Option.bind_eq_bind, Option.bind_some, continueWith]
  cases readQuoted? n rest <;> rfl

theorem readQuoted?_plain {n : Nat} {c : Char} (hq : c ≠ '"') (hb : c ≠ '\\') (hc : 0x20 ≤ c.toNat)
    (rest : Text) :
    readQuoted? (n + 1) (c :: rest) = continueWith (.char c) (readQuoted? n rest) := by
  have hplain : ¬ (c = '\\' ∨ c.toNat < 0x20) := by
    rintro (h | h)
    · exact hb h
    · omega
  rw [readQuoted?]
  · rw [if_neg hplain]
    simp only [Option.bind_eq_bind, continueWith]
    cases readQuoted? n rest <;> rfl
  · exact hq
  · intro _ h
    exact absurd h hb
  · intro _ _ h
    exact absurd h hb

/-- The written form of a character reads as the character. -/
theorem readQuoted?_quotedChar (n : Nat) (c : Char) (rest : Text) :
    readQuoted? (n + 1) (quotedChar c ++ rest)
      = continueWith (.char c) (readQuoted? n rest) := by
  have hshort (letter c : Char) (hl : letter ≠ 'u') (h : shortEscape? letter = some c) :
      readQuoted? (n + 1) ('\\' :: letter :: rest)
        = continueWith (.char c) (readQuoted? n rest) := by
    rw [readQuoted?]
    · rw [h]
      simp only [Option.bind_eq_bind, Option.bind_some, continueWith]
      cases readQuoted? n rest <;> rfl
    · intro he
      exact hl he
  unfold quotedChar
  split
  · exact hshort '"' '"' (by decide) rfl
  · exact hshort '\\' '\\' (by decide) rfl
  · exact hshort 'n' '\n' (by decide) rfl
  · exact hshort 'r' '\r' (by decide) rfl
  · exact hshort 't' '\t' (by decide) rfl
  · exact hshort 'b' '\x08' (by decide) rfl
  · exact hshort 'f' '\x0c' (by decide) rfl
  · rename_i hq hb _ _ _ _ _
    simp only
    split
    · next h => exact readQuoted?_plain hq hb h.1 rest
    · next h =>
        have hnot := toNat_not_half c
        split
        · next hlt =>
            have hread := readEscaped?_single hlt (by omega) rest
            rw [ofNat?_toNat] at hread
            exact readQuoted?_escaped hread
        · next hge =>
            have hlt := toNat_lt c
            have hread := readEscaped?_pair (0xD800 + (c.toNat - 0x10000) / 0x400)
              (0xDC00 + (c.toNat - 0x10000) % 0x400) (by omega) (by omega) rest
            have hvalue : 0x10000 + (0xD800 + (c.toNat - 0x10000) / 0x400 - 0xD800) * 0x400
                + (0xDC00 + (c.toNat - 0x10000) % 0x400 - 0xDC00) = c.toNat := by omega
            rw [hvalue, Char.ofNat_toNat] at hread
            rw [List.append_assoc]
            exact readQuoted?_escaped hread

/-! ## Quoted texts -/

/-- The written form of a code point that is no low half does not start like one. -/
theorem readLow?_quotedPoint {point : CodePoint} (h : ∀ index, point = .half index → index.val < 0x400)
    (rest : Text) : readLow? (quotedPoint point ++ rest) = none := by
  cases point with
  | half index =>
      have hindex := h index rfl
      rw [quotedPoint, readLow?_unitEscape (by omega), if_neg (by omega)]
  | char c =>
      have hnot := toNat_not_half c
      have hlt := toNat_lt c
      show readLow? (quotedChar c ++ rest) = none
      unfold quotedChar
      split
      all_goals try rfl
      rename_i hq hb _ _ _ _ _
      simp only
      split
      · show readLow? (c :: rest) = none
        unfold readLow?
        split
        · next he => exact absurd (List.cons.inj he).1 hb
        · rfl
      · split
        · next hsmall => rw [readLow?_unitEscape hsmall, if_neg (by omega)]
        · rw [List.append_assoc, readLow?_unitEscape (by omega), if_neg (by omega)]

theorem readQuoted?_half {n : Nat} {index : Fin 2048} {rest : Text}
    (h : index.val < 0x400 → readLow? rest = none) :
    readQuoted? (n + 1) (quotedPoint (.half index) ++ rest)
      = continueWith (.half index) (readQuoted? n rest) := by
  have hindex := index.isLt
  rw [quotedPoint, unitEscape, List.cons_append, List.cons_append]
  by_cases hhigh : index.val < 0x400
  · have hread := readEscaped?_alone (by omega : 0xD800 ≤ 0xD800 + index.val) (by omega) (h hhigh)
    simp only [Nat.add_sub_cancel_left] at hread
    exact readQuoted?_escaped hread
  · have hread := readEscaped?_single (by omega : 0xD800 + index.val < 0x10000) (by omega) rest
    rw [CodePoint.ofNat?, dif_pos ⟨by omega, by omega⟩] at hread
    simp only [Nat.add_sub_cancel_left] at hread
    exact readQuoted?_escaped hread

theorem readQuoted?_pair {n : Nat} {high low : Fin 2048} (hhigh : high.val < 0x400)
    (hlow : 0x400 ≤ low.val) (rest : Text) :
    readQuoted? (n + 1) (quotedPoint (.half high) ++ (quotedPoint (.half low) ++ rest))
      = continueWith (.pair high low) (readQuoted? n rest) := by
  have hindex := low.isLt
  rw [quotedPoint, quotedPoint, unitEscape, List.cons_append, List.cons_append]
  have hread := readEscaped?_pair (0xD800 + high) (0xD800 + low) (by omega) (by omega) rest
  have hvalue : 0x10000 + (0xD800 + high.val - 0xD800) * 0x400 + (0xD800 + low.val - 0xDC00)
      = 0x10000 + high.val * 0x400 + (low.val - 0x400) := by omega
  rw [hvalue] at hread
  exact readQuoted?_escaped hread

/-- **A quoted text reads as the text with its halves joined.** -/
theorem readQuoted?_flatMap {n : Nat} {s : Points} (hn : s.length < n) (rest : Text) :
    readQuoted? n (s.flatMap quotedPoint ++ '"' :: rest) = some (Points.joined s, rest) := by
  induction s using Points.joined.induct generalizing n with
  | case1 high low more hpair ih =>
      obtain ⟨n, rfl⟩ := Nat.exists_eq_succ_of_ne_zero (Nat.ne_zero_of_lt hn)
      have hmore := ih (n := n) (by simp only [List.length_cons] at hn; omega)
      rw [List.flatMap_cons, List.flatMap_cons, List.append_assoc, List.append_assoc,
        readQuoted?_pair hpair.1 hpair.2, hmore, Points.joined, if_pos hpair]
      rfl
  | case2 high low more hpair ih =>
      obtain ⟨n, rfl⟩ := Nat.exists_eq_succ_of_ne_zero (Nat.ne_zero_of_lt hn)
      have hmore := ih (n := n) (Nat.lt_of_succ_lt_succ hn)
      rw [List.flatMap_cons, List.append_assoc, readQuoted?_half, hmore, Points.joined,
        if_neg hpair]
      · rfl
      · intro hhigh
        rw [List.flatMap_cons, List.append_assoc]
        refine readLow?_quotedPoint (fun index he => ?_) _
        obtain rfl := CodePoint.half.inj he
        omega
  | case3 point more hnot ih =>
      obtain ⟨n, rfl⟩ := Nat.exists_eq_succ_of_ne_zero (Nat.ne_zero_of_lt hn)
      have hmore := ih (n := n) (Nat.lt_of_succ_lt_succ hn)
      rw [List.flatMap_cons, List.append_assoc]
      cases point with
      | char c =>
          rw [quotedPoint, readQuoted?_quotedChar, hmore, Points.joined]
          · rfl
          · exact hnot
      | half index =>
          rw [readQuoted?_half, hmore, Points.joined]
          · rfl
          · exact hnot
          · intro _
            cases more with
            | nil => rfl
            | cons next more =>
                rw [List.flatMap_cons, List.append_assoc]
                refine readLow?_quotedPoint (fun low he => ?_) _
                subst he
                exact absurd rfl (hnot index low more rfl)
  | case4 =>
      obtain ⟨n, rfl⟩ := Nat.exists_eq_succ_of_ne_zero (Nat.ne_zero_of_lt hn)
      rfl

end Json

end ApiScan
