import ApiScan.Json.Printer
import ApiScan.Json.Reader
import ApiScan.Proofs.Number.Shortest
import ApiScan.Proofs.Text.Digits
import ApiScan.Proofs.Text.Words

set_option autoImplicit false

/-! # Numbers of a document read back

Whatever number a document holds, its written form in front of a comma or a line break reads as the
number. A whole number is read from its digits. A floating-point number is written with digits of a
decimal that rounds to it, placed in one of three forms; each form reads as a decimal of the same
value, so it rounds to the number again. -/

namespace ApiScan.Json

open Text (isDigit)

/-- What stands behind a value in a written document: a comma or a line break. -/
def Follows (rest : Text) : Prop := rest.head? = some ',' ∨ rest.head? = some '\n'

/-! ## Parts of a number -/

section
variable {digits rest : Text}

theorem Follows.head?_isDigit (h : Follows rest) : rest.head?.any isDigit = false := by
  rcases h with h | h <;> rw [h] <;> rfl

theorem digitRun_append (hd : ∀ c ∈ digits, isDigit c = true)
    (hr : rest.head?.any isDigit = false) : digitRun (digits ++ rest) = (digits, rest) := by
  have hstop : rest.takeWhile isDigit = [] ∧ rest.dropWhile isDigit = rest := by
    cases rest with
    | nil => exact ⟨rfl, rfl⟩
    | cons c more =>
        have hc : isDigit c = false := hr
        simp [hc]
  rw [digitRun, List.takeWhile_append_of_pos hd, List.dropWhile_append_of_pos hd, hstop.1, hstop.2,
    List.append_nil]

/-- Digits that do not start with a zero are the magnitude of a number; so is a zero alone. -/
theorem wholeDigits_append (rest : Text) (hd : ∀ c ∈ digits, isDigit c = true) (hne : digits ≠ [])
    (hzero : digits.head? = some '0' → digits = ['0']) (hr : rest.head?.any isDigit = false) :
    wholeDigits (digits ++ rest) = (digits, rest) := by
  obtain ⟨c, more, rfl⟩ := List.exists_cons_of_ne_nil hne
  by_cases hc : c = '0'
  · subst hc
    obtain rfl : more = [] := (List.cons.inj (hzero rfl)).2
    rfl
  · have hrun := digitRun_append hd hr
    rw [List.cons_append] at hrun ⊢
    unfold wholeDigits
    split
    · next he => exact absurd (List.cons.inj he).1 hc
    · exact hrun

theorem readFraction_append (hd : ∀ c ∈ digits, isDigit c = true) (hne : digits ≠ [])
    (hr : rest.head?.any isDigit = false) :
    readFraction ('.' :: (digits ++ rest)) = (digits, rest) := by
  simp [readFraction, digitRun_append hd hr, hne]

theorem readFraction_eq_nil (h : rest.head? ≠ some '.') : readFraction rest = ([], rest) := by
  unfold readFraction
  split
  · exact absurd rfl h
  · rfl

theorem readPower?_append (negative : Bool) (hd : ∀ c ∈ digits, isDigit c = true)
    (hne : digits ≠ []) (hr : rest.head?.any isDigit = false) :
    readPower? ('e' :: (if negative then '-' else '+') :: (digits ++ rest))
      = some (if negative then -(Text.toNat 10 digits : Int) else (Text.toNat 10 digits : Int),
          rest) := by
  cases negative <;> simp [readPower?, digitRun_append hd hr, hne]

theorem readPower?_eq_none (h : rest.head? ≠ some 'e') (h' : rest.head? ≠ some 'E') :
    readPower? rest = none := by
  cases rest with
  | nil => rfl
  | cons c more =>
      have hc : ¬ (c = 'e' ∨ c = 'E') := by
        rintro (rfl | rfl)
        · exact h rfl
        · exact h' rfl
      simp [readPower?, hc]

end

/-! ## Magnitudes -/

theorem isDigit_of_mem_zero : ∀ c ∈ ['0'], isDigit c = true := List.forall_mem_singleton.2 rfl

section
variable (negative : Bool) {whole part power rest : Text}

/-- A magnitude with a fraction and no exponent. -/
theorem readMagnitude_fraction (whole part : Text) (hw : ∀ c ∈ whole, isDigit c = true)
    (hwne : whole ≠ []) (hzero : whole.head? = some '0' → whole = ['0'])
    (hp : ∀ c ∈ part, isDigit c = true) (hpne : part ≠ []) (hr : Follows rest) :
    readMagnitude negative (whole ++ '.' :: (part ++ rest))
      = .ok (.float (Binary64.ofDecimal negative (Text.toNat 10 (whole ++ part)) (-part.length)),
          rest) := by
  have hpower : readPower? rest = none := by
    rcases hr with hr | hr <;> exact readPower?_eq_none (by rw [hr]; decide) (by rw [hr]; decide)
  simp only [readMagnitude, wholeDigits_append ('.' :: (part ++ rest)) hw hwne hzero rfl,
    readFraction_append hp hpne hr.head?_isDigit, hpower, List.isEmpty_iff, hwne, hpne, if_false]

/-- A magnitude with an exponent, and with a fraction unless it is empty. -/
theorem readMagnitude_power (below : Bool) (hw : ∀ c ∈ whole, isDigit c = true)
    (hwne : whole ≠ []) (hzero : whole.head? = some '0' → whole = ['0'])
    (hp : ∀ c ∈ part, isDigit c = true) (hd : ∀ c ∈ power, isDigit c = true) (hdne : power ≠ [])
    (hr : Follows rest) :
    readMagnitude negative (whole ++ ((if part = [] then [] else '.' :: part)
        ++ 'e' :: (if below then '-' else '+') :: (power ++ rest)))
      = .ok (.float (Binary64.ofDecimal negative (Text.toNat 10 (whole ++ part))
          ((if below then -(Text.toNat 10 power : Int) else Text.toNat 10 power) - part.length)),
          rest) := by
  have hpower := readPower?_append below hd hdne hr.head?_isDigit
  have hhead : ('e' :: (if below then '-' else '+') :: (power ++ rest)).head? = some 'e' := rfl
  generalize 'e' :: (if below then '-' else '+') :: (power ++ rest) = tail at *
  by_cases hpne : part = []
  · subst hpne
    have hstop : tail.head?.any isDigit = false := by
      rw [hhead]
      rfl
    have hfraction : readFraction tail = ([], tail) := readFraction_eq_nil (by rw [hhead]; decide)
    simp only [if_true, List.nil_append, readMagnitude, wholeDigits_append tail hw hwne hzero hstop,
      hfraction, hpower, List.isEmpty_iff, hwne, if_false]
  · have hstop : tail.head?.any isDigit = false := by
      rw [hhead]
      rfl
    simp only [if_neg hpne, List.cons_append, readMagnitude,
      wholeDigits_append ('.' :: (part ++ tail)) hw hwne hzero rfl,
      readFraction_append hp hpne hstop, hpower, List.isEmpty_iff, hwne, if_false]

/-- A magnitude of digits only. -/
theorem readMagnitude_whole (hw : ∀ c ∈ whole, isDigit c = true) (hwne : whole ≠ [])
    (hzero : whole.head? = some '0' → whole = ['0']) (hlength : whole.length ≤ Text.maxDigits)
    (hr : Follows rest) :
    readMagnitude negative (whole ++ rest)
      = .ok (.int (if negative then -(Text.toNat 10 whole : Int) else Text.toNat 10 whole),
          rest) := by
  have hfraction : readFraction rest = ([], rest) := by
    rcases hr with hr | hr <;> exact readFraction_eq_nil (by rw [hr]; decide)
  have hpower : readPower? rest = none := by
    rcases hr with hr | hr <;> exact readPower?_eq_none (by rw [hr]; decide) (by rw [hr]; decide)
  simp only [readMagnitude, wholeDigits_append rest hw hwne hzero hr.head?_isDigit, hfraction,
    hpower, List.isEmpty_iff, hwne, if_false, if_true, if_neg (Nat.not_lt.2 hlength)]

end

theorem readNumber_minus (rest : Text) : readNumber ('-' :: rest) = readMagnitude true rest := rfl

theorem readNumber_of_isDigit {s : Text} (h : s.head?.any isDigit = true) :
    readNumber s = readMagnitude false s := by
  unfold readNumber
  split
  · have hminus : isDigit '-' = true := h
    exact absurd hminus (by decide)
  · rfl

/-- A sign in front of a magnitude. -/
theorem readNumber_sign (negative : Bool) {s : Text} (h : s.head?.any isDigit = true) :
    readNumber ((if negative then ['-'] else []) ++ s) = readMagnitude negative s := by
  cases negative with
  | false => exact readNumber_of_isDigit h
  | true => exact readNumber_minus s

/-! ## Whole numbers -/

theorem ofNat_head?_isDigit (n : Nat) (rest : Text) :
    (Text.ofNat n ++ rest).head?.any isDigit = true := by
  obtain ⟨c, more, hc⟩ := List.exists_cons_of_ne_nil (Text.ofNat_ne_nil n)
  have hdigit : isDigit c = true := Text.isDigit_of_mem_ofNat (hc ▸ List.mem_cons_self)
  rw [hc]
  exact hdigit

theorem ofNat_eq_zero_of_head? {n : Nat} (h : (Text.ofNat n).head? = some '0') :
    Text.ofNat n = ['0'] := by
  rcases Nat.eq_zero_or_pos n with rfl | hn
  · rfl
  · exact absurd h (Text.head?_ofNat_ne_zero hn)

/-- Whether the decimal form of a whole number is short enough to be read. -/
def IsShort (n : Int) : Prop := (Text.ofNat n.natAbs).length ≤ Text.maxDigits

/-- **A whole number of at most as many digits as are read reads back.** -/
theorem readNumber_ofInt {n : Int} (hn : IsShort n) {rest : Text} (hr : Follows rest) :
    readNumber (Text.ofInt n ++ rest) = .ok (.int n, rest) := by
  cases n with
  | ofNat n =>
      rw [Text.ofInt, readNumber_of_isDigit (ofNat_head?_isDigit n rest),
        readMagnitude_whole _ (fun c hc => Text.isDigit_of_mem_ofNat hc) (Text.ofNat_ne_nil n)
          ofNat_eq_zero_of_head? hn hr, Text.toNat_ofNat]
      rfl
  | negSucc n =>
      have hlength : (Text.ofNat (n + 1)).length ≤ Text.maxDigits := hn
      rw [Text.ofInt, List.cons_append, readNumber_minus,
        readMagnitude_whole _ (fun c hc => Text.isDigit_of_mem_ofNat hc) (Text.ofNat_ne_nil _)
          ofNat_eq_zero_of_head? hlength hr, Text.toNat_ofNat]
      rfl

/-! ## Floating-point numbers -/

section
variable {mantissa : Nat} {exponent : Int}

/-- The shortest digits of a positive number: digits without a zero in front, few enough to be read
    exactly, whose value at the place of the point rounds to the number. -/
structure Shortest (mantissa : Nat) (exponent : Int) (digits : Text) (point : Int) : Prop where
  isDigit : ∀ c ∈ digits, Text.isDigit c = true
  ne_nil : digits ≠ []
  head?_ne_zero : digits.head? ≠ some '0'
  length_le : digits.length ≤ 18
  rounds : Binary64.Rounds mantissa exponent
    (Text.toNat 10 digits * 10 ^ (point - digits.length))

theorem shortestDigits_spec (canonical : Canonical mantissa exponent) (hm : 0 < mantissa) :
    Shortest mantissa exponent (Binary64.shortestDigits mantissa exponent).1
      (Binary64.shortestDigits mantissa exponent).2 := by
  obtain ⟨hround, hle⟩ := Binary64.shortestFrom_spec canonical hm Nat.one_pos rfl
  unfold Binary64.shortestDigits
  simp only
  generalize (Binary64.shortestFrom mantissa exponent 16 1).1 = number at *
  generalize (Binary64.shortestFrom mantissa exponent 16 1).2 = power at *
  obtain ⟨zeros, hsplit, hzeros⟩ := Text.exists_dropEndWhile_append (· = '0') (Text.ofNat number)
  generalize Text.dropEndWhile (· = '0') (Text.ofNat number) = digits at *
  have hzeros' : zeros = List.replicate zeros.length '0' :=
    List.eq_replicate_iff.2 ⟨rfl, fun c hc => by simpa using hzeros c hc⟩
  have hnumber : 0 < number := by
    by_contra hzero
    obtain rfl : number = 0 := by omega
    have hpos := (hround.bounds canonical hm).1
    rw [Nat.cast_zero, zero_mul] at hpos
    exact absurd hpos (not_le.2 (by positivity))
  have hhead : digits.head? ≠ some '0' := by
    intro h
    apply Text.head?_ofNat_ne_zero hnumber
    rw [hsplit, List.head?_append, h]
    rfl
  have hne : digits ≠ [] := by
    rintro rfl
    apply Text.head?_ofNat_ne_zero hnumber
    have hzne : zeros.length ≠ 0 := fun h => Text.ofNat_ne_nil number (by
      rw [hsplit, List.length_eq_zero_iff.1 h]
      rfl)
    rw [hsplit, List.nil_append, hzeros']
    obtain ⟨k, hk⟩ := Nat.exists_eq_succ_of_ne_zero hzne
    rw [hk]
    rfl
  have hvalue : number = Text.toNat 10 digits * 10 ^ zeros.length := by
    have h := Text.toNat_ofNat number
    rw [hsplit, Text.toNat_append, hzeros', Text.toNat_replicate_zero] at h
    simpa using h.symm
  have hlength : (Text.ofNat number).length = digits.length + zeros.length := by
    rw [hsplit, List.length_append]
  refine ⟨fun c hc => Text.isDigit_of_mem_ofNat (hsplit ▸ List.mem_append_left _ hc), hne, hhead,
    ?_, ?_⟩
  · have h18 : (Text.ofNat number).length ≤ 18 :=
      (Text.length_ofNat_le_iff (by decide)).2 (by omega)
    omega
  · have hpower : (10 : ℚ) ^ ((Text.ofNat number).length + power - digits.length)
        = 10 ^ zeros.length * 10 ^ power := by
      rw [hlength, ← zpow_natCast, ← zpow_add₀ (by norm_num)]
      congr 1
      push_cast
      ring
    rw [hpower, ← mul_assoc]
    rw [hvalue] at hround
    push_cast at hround
    exact hround

/-- A decimal of the value of the shortest digits rounds to the number. -/
theorem Shortest.ofDecimal_eq {digits : Text} {point : Int} (h : Shortest mantissa exponent digits point)
    (canonical : Canonical mantissa exponent) (hm : 0 < mantissa) (negative : Bool) {number : Nat}
    {power : Int} (hlt : number < 2 ^ 64)
    (hvalue : (number : ℚ) * 10 ^ power
      = Text.toNat 10 digits * 10 ^ (point - digits.length)) :
    Binary64.ofDecimal negative number power
      = .finite negative mantissa exponent canonical := by
  have hround := h.rounds
  rw [← hvalue] at hround
  refine Binary64.ofDecimal_of_rounds canonical hm ?_ hlt hround
  by_contra hzero
  obtain rfl : number = 0 := by omega
  have hpos := (hround.bounds canonical hm).1
  rw [Nat.cast_zero, zero_mul] at hpos
  exact absurd hpos (not_le.2 (by positivity))

section
variable {digits : Text} {point : Int} (h : Shortest mantissa exponent digits point)
include h

theorem Shortest.toNat_lt : Text.toNat 10 digits < 2 ^ 64 :=
  calc Text.toNat 10 digits < 10 ^ digits.length := Text.toNat_lt_pow h.isDigit
    _ ≤ 10 ^ 18 := Nat.pow_le_pow_right (by decide) h.length_le
    _ < 2 ^ 64 := by decide

variable (canonical : Canonical mantissa exponent) (hm : 0 < mantissa) (negative : Bool)
  {rest : Text} (hr : Follows rest)
include canonical hm hr

/-- The form with the point in front of the digits. -/
theorem Shortest.readMagnitude_small (hpoint : point ≤ 0) :
    readMagnitude negative ('0' :: '.' :: (List.replicate (-point).toNat '0' ++ digits ++ rest))
      = .ok (.float (.finite negative mantissa exponent canonical), rest) := by
  have hpart : ∀ c ∈ List.replicate (-point).toNat '0' ++ digits, Text.isDigit c = true := by
    intro c hc
    rcases List.mem_append.1 hc with hc | hc
    · rw [List.eq_of_mem_replicate hc]
      rfl
    · exact h.isDigit c hc
  have hnumber : Text.toNat 10 (['0'] ++ (List.replicate (-point).toNat '0' ++ digits))
      = Text.toNat 10 digits := by
    rw [Text.toNat_append, Text.toNat_append, Text.toNat_replicate_zero]
    simp [Text.toNat, Text.digitValue?]
  have hread := readMagnitude_fraction negative ['0'] _ isDigit_of_mem_zero (by simp)
    (fun _ => rfl) hpart (by simp [h.ne_nil]) hr
  rw [hnumber] at hread
  rw [← List.singleton_append, hread,
    h.ofDecimal_eq canonical hm negative h.toNat_lt ?_]
  congr 2
  rw [List.length_append, List.length_replicate]
  push_cast
  omega

/-- The form with the point among the digits. -/
theorem Shortest.readMagnitude_within (hlow : 0 < point) (hlt : point < digits.length) :
    readMagnitude negative
        (digits.take point.toNat ++ '.' :: (digits.drop point.toNat ++ rest))
      = .ok (.float (.finite negative mantissa exponent canonical), rest) := by
  have htake : digits.take point.toNat ≠ [] := by
    rw [ne_eq, List.take_eq_nil_iff]
    rintro (h' | h')
    · omega
    · exact h.ne_nil h'
  have hdrop : digits.drop point.toNat ≠ [] := by
    rw [ne_eq, List.drop_eq_nil_iff]
    omega
  have hhead : (digits.take point.toNat).head? = some '0' → digits.take point.toNat = ['0'] := by
    intro h'
    rw [List.head?_take, if_neg (by omega)] at h'
    exact absurd h' h.head?_ne_zero
  rw [readMagnitude_fraction negative _ _ (fun c hc => h.isDigit c (List.mem_of_mem_take hc)) htake
    hhead (fun c hc => h.isDigit c (List.mem_of_mem_drop hc)) hdrop hr, List.take_append_drop,
    h.ofDecimal_eq canonical hm negative h.toNat_lt ?_]
  congr 2
  rw [List.length_drop]
  omega

/-- The form with zeros between the digits and the point. -/
theorem Shortest.readMagnitude_whole (hge : digits.length ≤ point) (hle : point ≤ 16) :
    readMagnitude negative
        (digits ++ List.replicate (point.toNat - digits.length) '0' ++ '.' :: '0' :: rest)
      = .ok (.float (.finite negative mantissa exponent canonical), rest) := by
  have hdigits : ∀ c ∈ digits ++ List.replicate (point.toNat - digits.length) '0',
      Text.isDigit c = true := by
    intro c hc
    rcases List.mem_append.1 hc with hc | hc
    · exact h.isDigit c hc
    · rw [List.eq_of_mem_replicate hc]
      rfl
  have hhead : (digits ++ List.replicate (point.toNat - digits.length) '0').head? = some '0' →
      digits ++ List.replicate (point.toNat - digits.length) '0' = ['0'] := by
    intro h'
    rw [List.head?_append_of_ne_nil _ h.ne_nil] at h'
    exact absurd h' h.head?_ne_zero
  have hnumber : Text.toNat 10
        (digits ++ List.replicate (point.toNat - digits.length) '0' ++ ['0'])
      = Text.toNat 10 digits * 10 ^ (point.toNat - digits.length + 1) := by
    rw [List.append_assoc, ← List.replicate_succ', Text.toNat_append, Text.toNat_replicate_zero,
      List.length_replicate, Nat.add_zero]
  have hlt : Text.toNat 10 digits * 10 ^ (point.toNat - digits.length + 1) < 2 ^ 64 := by
    calc Text.toNat 10 digits * 10 ^ (point.toNat - digits.length + 1)
        < 10 ^ digits.length * 10 ^ (point.toNat - digits.length + 1) :=
          Nat.mul_lt_mul_of_pos_right (Text.toNat_lt_pow h.isDigit) (Nat.pow_pos (by decide))
      _ = 10 ^ (digits.length + (point.toNat - digits.length + 1)) := (Nat.pow_add ..).symm
      _ ≤ 10 ^ 17 := Nat.pow_le_pow_right (by decide) (by omega)
      _ < 2 ^ 64 := by decide
  have hread := readMagnitude_fraction negative _ ['0'] hdigits (by simp [h.ne_nil]) hhead
    isDigit_of_mem_zero (by simp) hr
  rw [hnumber] at hread
  refine hread.trans ?_
  rw [h.ofDecimal_eq canonical hm negative hlt ?_]
  push_cast
  rw [mul_assoc, ← zpow_natCast, ← zpow_add₀ (by norm_num), List.length_singleton]
  congr 2
  push_cast
  omega

/-- The form with an exponent. -/
theorem Shortest.readMagnitude_power (size : Text)
    (hsize : ∀ c ∈ size, Text.isDigit c = true) (hne : size ≠ [])
    (hvalue : Text.toNat 10 size = (point - 1).natAbs) :
    readMagnitude negative (digits.take 1 ++ ((if digits.drop 1 = [] then [] else '.' :: digits.drop 1)
        ++ 'e' :: (if decide (point - 1 < 0) then '-' else '+') :: (size ++ rest)))
      = .ok (.float (.finite negative mantissa exponent canonical), rest) := by
  have htake : digits.take 1 ≠ [] := by
    rw [ne_eq, List.take_eq_nil_iff]
    rintro (h' | h')
    · omega
    · exact h.ne_nil h'
  have hhead : (digits.take 1).head? = some '0' → digits.take 1 = ['0'] := by
    intro h'
    rw [List.head?_take, if_neg (by omega)] at h'
    exact absurd h' h.head?_ne_zero
  have hlength := List.length_pos_iff.2 h.ne_nil
  rw [Json.readMagnitude_power negative _ (fun c hc => h.isDigit c (List.mem_of_mem_take hc)) htake
    hhead (fun c hc => h.isDigit c (List.mem_of_mem_drop hc)) hsize hne hr, List.take_append_drop,
    h.ofDecimal_eq canonical hm negative h.toNat_lt ?_]
  congr 2
  rw [hvalue, List.length_drop]
  simp only [decide_eq_true_eq]
  split <;> omega

end

/-- The written exponent: at least two digits. -/
theorem powerDigits_spec (n : Nat) :
    let size := if (Text.ofNat n).length < 2 then '0' :: Text.ofNat n else Text.ofNat n
    (∀ c ∈ size, Text.isDigit c = true) ∧ size ≠ [] ∧ Text.toNat 10 size = n := by
  intro size
  have hdigits : ∀ c ∈ Text.ofNat n, Text.isDigit c = true := fun c hc =>
    Text.isDigit_of_mem_ofNat hc
  by_cases h : (Text.ofNat n).length < 2
  · have hsize : size = '0' :: Text.ofNat n := if_pos h
    rw [hsize]
    refine ⟨fun c hc => ?_, by simp, ?_⟩
    · rcases List.mem_cons.1 hc with rfl | hc
      · rfl
      · exact hdigits c hc
    · rw [← List.singleton_append, Text.toNat_append, Text.toNat_ofNat]
      simp [Text.toNat, Text.digitValue?]
  · have hsize : size = Text.ofNat n := if_neg h
    rw [hsize]
    exact ⟨hdigits, Text.ofNat_ne_nil n, Text.toNat_ofNat n⟩

/-- **A finite number is written as its sign and a magnitude that reads back.** -/
theorem finiteText_spec (negative : Bool) (canonical : Canonical mantissa exponent) :
    ∃ body, Binary64.finiteText negative mantissa exponent
        = (if negative then ['-'] else []) ++ body ∧
      body.head?.any isDigit = true ∧
      ∀ rest, Follows rest → readMagnitude negative (body ++ rest)
        = .ok (.float (.finite negative mantissa exponent canonical), rest) := by
  unfold Binary64.finiteText
  simp only
  by_cases hm : mantissa = 0
  · subst hm
    obtain rfl : exponent = -1074 := by
      rcases canonical.normal_or_least with h | h
      · exact absurd h (by decide)
      · exact h
    rw [if_pos rfl]
    refine ⟨_, rfl, rfl, fun rest hr => ?_⟩
    exact readMagnitude_fraction negative ['0'] ['0'] isDigit_of_mem_zero (by simp)
      (fun _ => rfl) isDigit_of_mem_zero (by simp) hr
  · have hpos : 0 < mantissa := Nat.pos_of_ne_zero hm
    have h := shortestDigits_spec canonical hpos
    rw [if_neg hm]
    generalize Binary64.shortestDigits mantissa exponent = shortest at *
    obtain ⟨digits, point⟩ := shortest
    simp only at h ⊢
    obtain ⟨c, more, hdigits⟩ := List.exists_cons_of_ne_nil h.ne_nil
    have hc : isDigit c = true := h.isDigit c (hdigits ▸ List.mem_cons_self)
    have hlength := List.length_pos_iff.2 h.ne_nil
    by_cases hrange : -4 < point ∧ point ≤ 16
    · rw [if_pos hrange]
      by_cases hpoint : point ≤ 0
      · rw [if_pos hpoint]
        refine ⟨'0' :: '.' :: (List.replicate (-point).toNat '0' ++ digits), by simp, rfl, ?_⟩
        exact fun rest hr => h.readMagnitude_small canonical hpos negative hr hpoint
      · rw [if_neg hpoint]
        by_cases hlt : point < digits.length
        · have hzeros : point.toNat - digits.length = 0 := by omega
          have hdrop : digits.drop point.toNat ≠ [] := by
            rw [ne_eq, List.drop_eq_nil_iff]
            omega
          have hfirst : (digits.take point.toNat).head? = some c := by
            rw [List.head?_take, if_neg (by omega), hdigits]
            rfl
          simp only [hzeros, List.replicate_zero, List.append_nil, List.isEmpty_iff, hdrop, if_false,
            List.append_assoc]
          refine ⟨_, rfl, ?_, fun rest hr => ?_⟩
          · rw [List.head?_append, hfirst]
            exact hc
          · rw [← h.readMagnitude_within canonical hpos negative hr (by omega) hlt,
              List.append_assoc]
            rfl
        · have htake : digits.take point.toNat = digits := List.take_of_length_le (by omega)
          have hdrop : digits.drop point.toNat = [] := List.drop_eq_nil_iff.2 (by omega)
          simp only [htake, hdrop, List.isEmpty_nil, if_true, List.append_assoc]
          refine ⟨_, rfl, ?_, fun rest hr => ?_⟩
          · rw [hdigits]
            exact hc
          · rw [← h.readMagnitude_whole canonical hpos negative hr (by omega) hrange.2]
            simp only [List.append_assoc]
            rfl
    · rw [if_neg hrange]
      obtain ⟨hsize, hne, hvalue⟩ := powerDigits_spec (point - 1).natAbs
      have hpart : (if digits.length = 1 then [] else '.' :: digits.drop 1)
          = if digits.drop 1 = [] then [] else '.' :: digits.drop 1 := by
        by_cases hone : digits.length = 1
        · rw [if_pos hone, if_pos (List.drop_eq_nil_iff.2 hone.le)]
        · rw [if_neg hone, if_neg]
          rw [List.drop_eq_nil_iff]
          omega
      have hfirst : (digits.take 1).head? = some c := by
        rw [hdigits]
        rfl
      rw [hpart]
      simp only [List.append_assoc]
      refine ⟨_, rfl, ?_, fun rest hr => ?_⟩
      · rw [List.head?_append, hfirst]
        exact hc
      · rw [← h.readMagnitude_power canonical hpos negative hr _ hsize hne hvalue]
        simp only [List.append_assoc, decide_eq_true_eq]
        rfl

end

end ApiScan.Json
