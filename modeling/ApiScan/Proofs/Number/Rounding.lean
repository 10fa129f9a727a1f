import ApiScan.Number.Binary64
import Mathlib.Algebra.Order.Field.Power
import Mathlib.Data.Rat.Cast.Order
import Mathlib.Tactic.FieldSimp
import Mathlib.Tactic.Linarith
import Mathlib.Tactic.Positivity
import Mathlib.Tactic.Ring

set_option autoImplicit false

/-! # Rounding to binary64

The rationals that round to a positive binary64 number form an interval around it: half a unit in
the last place to each side, a quarter below a power of two, with the ends exactly when the mantissa
is even. `ofFraction` gives the number for every fraction in its interval. -/

namespace ApiScan.Binary64

/-! ## Powers with integer exponents -/

/-- A power with an integer exponent, as the scaling of a fraction by natural powers. -/
theorem pow_toNat_div_pow_toNat_neg (b : ℚ) (k : ℤ) :
    b ^ k.toNat / b ^ (-k).toNat = b ^ k := by
  rcases le_total 0 k with h | h
  · rw [Int.toNat_of_nonpos (by omega : -k ≤ 0), pow_zero, div_one, ← zpow_natCast,
      Int.toNat_of_nonneg h]
  · rw [Int.toNat_of_nonpos h, pow_zero, one_div, ← zpow_natCast, ← zpow_neg,
      Int.toNat_of_nonneg (by omega), neg_neg]

theorem cast_shiftLeft (n k : Nat) : ((n <<< k : Nat) : ℚ) = n * 2 ^ k := by
  rw [Nat.shiftLeft_eq]
  push_cast
  rfl

/-- A fraction scaled by a power of two, as `ofFraction` scales it. -/
theorem shiftLeft_div_shiftLeft {num den : Nat} (k : ℤ) :
    ((num <<< (-k).toNat : Nat) : ℚ) / ((den <<< k.toNat : Nat) : ℚ) = num / den * 2 ^ (-k) := by
  rw [cast_shiftLeft, cast_shiftLeft, mul_div_mul_comm]
  have h := pow_toNat_div_pow_toNat_neg 2 (-k)
  rw [neg_neg] at h
  rw [h]

/-! ## The interval of a number -/

/-- How far below a number the rationals that round to it reach, in units of its last place. -/
def gapBelow (mantissa : Nat) (exponent : Int) : ℚ :=
  if mantissa = 0x10000000000000 ∧ -1074 < exponent then 1 / 4 else 1 / 2

/-- Whether a rational rounds to the positive number with a mantissa and an exponent. -/
structure Rounds (mantissa : Nat) (exponent : Int) (q : ℚ) : Prop where
  ge : (mantissa - gapBelow mantissa exponent) * 2 ^ exponent ≤ q
  le : q ≤ (mantissa + 1 / 2) * 2 ^ exponent
  even_of_eq_low : q = (mantissa - gapBelow mantissa exponent) * 2 ^ exponent → mantissa % 2 = 0
  even_of_eq_high : q = (mantissa + 1 / 2) * 2 ^ exponent → mantissa % 2 = 0

theorem gapBelow_le (mantissa : Nat) (exponent : Int) : gapBelow mantissa exponent ≤ 1 / 2 := by
  unfold gapBelow
  split <;> norm_num

theorem gapBelow_ge (mantissa : Nat) (exponent : Int) : 1 / 4 ≤ gapBelow mantissa exponent := by
  unfold gapBelow
  split <;> norm_num

/-! ## The nearest natural number -/

/-- A fraction at most a half away from a natural number, with an even number at exactly a half, has
    it as the nearest one. -/
theorem nearest_eq {num den n : Nat} (hden : 0 < den) (hlow : 2 * n * den ≤ 2 * num + den)
    (hhigh : 2 * num ≤ 2 * n * den + den) (htieLow : 2 * n * den = 2 * num + den → n % 2 = 0)
    (htieHigh : 2 * num = 2 * n * den + den → n % 2 = 0) : nearest num den = n := by
  have hsplit : den * (num / den) + num % den = num := Nat.div_add_mod num den
  have hmod : num % den < den := Nat.mod_lt num hden
  unfold nearest
  simp only
  generalize num / den = q at *
  generalize num % den = r at *
  subst hsplit
  rcases Nat.lt_trichotomy n (q + 1) with hn | rfl | hn
  · rcases Nat.lt_or_ge n q with hlt | hge
    · -- `n < q`: the fraction is more than a half above `n`
      have hmul : den * n + den ≤ den * q := by
        rw [← Nat.mul_succ]
        exact Nat.mul_le_mul_left den hlt
      have h₁ : 2 * n * den = 2 * (den * n) := by ring
      omega
    · obtain rfl : n = q := by omega
      have h₁ : 2 * n * den = 2 * (den * n) := by ring
      rw [if_neg]
      rintro (h | ⟨h, hodd⟩)
      · omega
      · have := htieHigh (by omega)
        omega
  · have h₁ : 2 * (q + 1) * den = 2 * (den * q) + 2 * den := by ring
    rw [if_pos]
    rcases Nat.lt_or_ge den (2 * r) with h | h
    · exact Or.inl h
    · have := htieLow (by omega)
      exact Or.inr ⟨by omega, by omega⟩
  · have hmul : den * (q + 1) + den ≤ den * n := by
      rw [← Nat.mul_succ]
      exact Nat.mul_le_mul_left den hn
    have h₁ : 2 * n * den = 2 * (den * n) := by ring
    have h₂ : den * (q + 1) = den * q + den := Nat.mul_succ den q
    omega

/-- The same on rationals. -/
theorem nearest_eq_of_rat {num den n : Nat} {x : ℚ} (hden : 0 < den) (hx : (num : ℚ) / den = x)
    (hlow : n - 1 / 2 ≤ x) (hhigh : x ≤ n + 1 / 2) (htieLow : x = n - 1 / 2 → n % 2 = 0)
    (htieHigh : x = n + 1 / 2 → n % 2 = 0) : nearest num den = n := by
  have hd : (0 : ℚ) < den := by exact_mod_cast hden
  have hnum : (num : ℚ) = x * den := by rw [← hx, div_mul_cancel₀ _ hd.ne']
  apply nearest_eq hden
  · have h : (2 * n * den : ℚ) ≤ 2 * num + den := by rw [hnum]; nlinarith
    exact_mod_cast h
  · have h : (2 * num : ℚ) ≤ 2 * n * den + den := by rw [hnum]; nlinarith
    exact_mod_cast h
  · intro h
    have h' : (2 * n * den : ℚ) = 2 * num + den := by exact_mod_cast h
    rw [hnum] at h'
    exact htieLow (mul_right_cancel₀ hd.ne' (by linarith))
  · intro h
    have h' : (2 * num : ℚ) = 2 * n * den + den := by exact_mod_cast h
    rw [hnum] at h'
    exact htieHigh (mul_right_cancel₀ hd.ne' (by linarith))

/-! ## The exponent -/

theorem log2_bounds {n : Nat} (h : 0 < n) :
    (2 : ℚ) ^ (n.log2 : ℤ) ≤ n ∧ (n : ℚ) < 2 ^ ((n.log2 : ℤ) + 1) := by
  constructor
  · rw [zpow_natCast]
    exact_mod_cast Nat.log2_self_le h.ne'
  · have hlt := Nat.lt_log2_self (n := n)
    have hcast : ((n.log2 : ℤ) + 1) = ((n.log2 + 1 : Nat) : ℤ) := by push_cast; rfl
    rw [hcast, zpow_natCast]
    exact_mod_cast hlt

/-- A fraction lies within a factor of two of the power of two that its sizes tell. -/
theorem div_bounds {num den : Nat} (hnum : 0 < num) (hden : 0 < den) :
    (2 : ℚ) ^ ((num.log2 : ℤ) - den.log2 - 1) < num / den ∧
      (num : ℚ) / den < 2 ^ ((num.log2 : ℤ) - den.log2 + 1) := by
  have hd : (0 : ℚ) < den := by exact_mod_cast hden
  obtain ⟨hnlow, hnhigh⟩ := log2_bounds hnum
  obtain ⟨hdlow, hdhigh⟩ := log2_bounds hden
  constructor
  · rw [lt_div_iff₀ hd]
    calc (2 : ℚ) ^ ((num.log2 : ℤ) - den.log2 - 1) * den
        < 2 ^ ((num.log2 : ℤ) - den.log2 - 1) * 2 ^ ((den.log2 : ℤ) + 1) := by gcongr
      _ = 2 ^ (num.log2 : ℤ) := by
          rw [← zpow_add₀ two_ne_zero]
          congr 1
          omega
      _ ≤ num := hnlow
  · rw [div_lt_iff₀ hd]
    calc (num : ℚ) < 2 ^ ((num.log2 : ℤ) + 1) := hnhigh
      _ = 2 ^ ((num.log2 : ℤ) - den.log2 + 1) * 2 ^ (den.log2 : ℤ) := by
          rw [← zpow_add₀ two_ne_zero]
          congr 1
          omega
      _ ≤ 2 ^ ((num.log2 : ℤ) - den.log2 + 1) * den := by gcongr

/-- At its binary exponent a fraction has a mantissa of 53 bits. -/
theorem binaryExponent_bounds {num den : Nat} (hnum : 0 < num) (hden : 0 < den) :
    (2 : ℚ) ^ (binaryExponent num den + 52) ≤ num / den ∧
      (num : ℚ) / den < 2 ^ (binaryExponent num den + 53) := by
  obtain ⟨hlow, hhigh⟩ := div_bounds hnum hden
  have hd : (0 : ℚ) < den := by exact_mod_cast hden
  unfold binaryExponent
  simp only
  generalize hg : (num.log2 : ℤ) - den.log2 - 52 = guess
  have hlog : (num.log2 : ℤ) - den.log2 = guess + 52 := by omega
  rw [hlog] at hlow hhigh
  have hfits : num <<< (-guess).toNat < den <<< (guess.toNat + 52) ↔
      (num : ℚ) / den < 2 ^ (guess + 52) := by
    have hscale := pow_toNat_div_pow_toNat_neg 2 guess
    have hpos : (0 : ℚ) < 2 ^ (-guess).toNat := by positivity
    rw [← Nat.cast_lt (α := ℚ), cast_shiftLeft, cast_shiftLeft, div_lt_iff₀ hd,
      zpow_add₀ two_ne_zero, ← hscale, pow_add, div_mul_eq_mul_div, div_mul_eq_mul_div,
      lt_div_iff₀ hpos]
    rw [show (2 : ℚ) ^ (52 : ℤ) = 2 ^ 52 by norm_num]
    constructor <;> intro h <;> linarith
  split
  · next h =>
      refine ⟨?_, ?_⟩
      · rw [show guess - 1 + 52 = guess + 52 - 1 by ring]
        exact hlow.le
      · rw [show guess - 1 + 53 = guess + 52 by ring]
        exact hfits.1 h
  · next h =>
      refine ⟨le_of_not_gt fun hlt => h (hfits.2 hlt), ?_⟩
      rw [show guess + 53 = guess + 52 + 1 by ring]
      exact hhigh

/-! ## Rounding into the interval -/

section
variable {num den mantissa : Nat} {exponent : Int}

/-- The result of `ofFraction`, from the exponent and the rounded mantissa. -/
theorem ofFraction_eq {negative : Bool} (hnum : 0 < num) (canonical : Canonical mantissa exponent)
    (hround :
      (max (binaryExponent num den) (-1074) = exponent ∧
        nearest (num <<< (-exponent).toNat) (den <<< exponent.toNat) = mantissa) ∨
      (max (binaryExponent num den) (-1074) = exponent - 1 ∧ mantissa = 0x10000000000000 ∧
        nearest (num <<< (-(exponent - 1)).toNat) (den <<< (exponent - 1).toNat)
          = 0x20000000000000)) :
    ofFraction negative num den = .finite negative mantissa exponent canonical := by
  unfold ofFraction
  rw [if_neg hnum.ne']
  rcases hround with ⟨he, hm⟩ | ⟨he, rfl, hm⟩
  · simp only [he, hm, if_neg canonical.mantissa_lt.ne]
    rw [dif_pos canonical]
  · simp only [he, hm, if_true, sub_add_cancel]
    rw [dif_pos canonical]

/-- The exponent of a fraction that rounds to a number is not above that of the number. -/
theorem binaryExponent_le (hnum : 0 < num) (hden : 0 < den)
    (canonical : Canonical mantissa exponent) (h : Rounds mantissa exponent (num / den)) :
    binaryExponent num den ≤ exponent := by
  have hlow := (binaryExponent_bounds hnum hden).1
  have hm : (mantissa : ℚ) + 1 ≤ 2 ^ 53 := by
    have := canonical.mantissa_lt
    have hle : mantissa + 1 ≤ 2 ^ 53 := by omega
    exact_mod_cast hle
  have hlt : (2 : ℚ) ^ (binaryExponent num den + 52) < 2 ^ (exponent + 53) := by
    calc (2 : ℚ) ^ (binaryExponent num den + 52) ≤ num / den := hlow
      _ ≤ (mantissa + 1 / 2) * 2 ^ exponent := h.le
      _ < 2 ^ 53 * 2 ^ exponent := by
          apply mul_lt_mul_of_pos_right _ (by positivity)
          linarith
      _ = 2 ^ (exponent + 53) := by
          rw [zpow_add₀ two_ne_zero, mul_comm]
          norm_num
  have := (zpow_lt_zpow_iff_right₀ (one_lt_two : (1 : ℚ) < 2)).1 hlt
  omega

/-- Where the exponents agree, the mantissa is the nearest natural number. -/
theorem nearest_of_rounds (hden : 0 < den) (h : Rounds mantissa exponent (num / den)) :
    nearest (num <<< (-exponent).toNat) (den <<< exponent.toNat) = mantissa := by
  have hpos : (0 : ℚ) < 2 ^ exponent := by positivity
  have hgap := gapBelow_le mantissa exponent
  have hden' : 0 < den <<< exponent.toNat := by
    rw [Nat.shiftLeft_eq]
    positivity
  refine nearest_eq_of_rat hden' (shiftLeft_div_shiftLeft exponent) ?_ ?_ ?_ ?_
  · rw [zpow_neg, ← div_eq_mul_inv, le_div_iff₀ hpos]
    have := h.ge
    nlinarith
  · rw [zpow_neg, ← div_eq_mul_inv, div_le_iff₀ hpos]
    exact h.le
  · intro he
    rw [zpow_neg, ← div_eq_mul_inv, div_eq_iff hpos.ne'] at he
    have hge := h.ge
    rw [he, mul_le_mul_iff_left₀ hpos] at hge
    exact h.even_of_eq_low (by rw [he, show gapBelow mantissa exponent = 1 / 2 by linarith])
  · intro he
    rw [zpow_neg, ← div_eq_mul_inv, div_eq_iff hpos.ne'] at he
    exact h.even_of_eq_high he

/-- Where they do not, the number is a power of two and the fraction lies just below it. -/
theorem just_below_of_rounds (hnum : 0 < num) (hden : 0 < den)
    (canonical : Canonical mantissa exponent) (h : Rounds mantissa exponent (num / den))
    (hlt : max (binaryExponent num den) (-1074) < exponent) :
    mantissa = 0x10000000000000 ∧ max (binaryExponent num den) (-1074) = exponent - 1 ∧
      nearest (num <<< (-(exponent - 1)).toNat) (den <<< (exponent - 1).toNat)
        = 0x20000000000000 := by
  obtain ⟨hk, hleast⟩ := max_lt_iff.1 hlt
  have hpos : (0 : ℚ) < 2 ^ exponent := by positivity
  have hm : 2 ^ 52 ≤ mantissa := by
    rcases canonical.normal_or_least with h' | h' <;> omega
  have hq : (num : ℚ) / den < 2 ^ 52 * 2 ^ exponent := by
    calc (num : ℚ) / den < 2 ^ (binaryExponent num den + 53) := (binaryExponent_bounds hnum hden).2
      _ ≤ 2 ^ (exponent + 52) := zpow_le_zpow_right₀ one_le_two (by omega)
      _ = 2 ^ 52 * 2 ^ exponent := by
          rw [zpow_add₀ two_ne_zero, mul_comm]
          norm_num
  have hpower : mantissa = 2 ^ 52 := by
    have hle := h.ge.trans_lt hq
    rw [mul_lt_mul_iff_left₀ hpos] at hle
    have hgap := gapBelow_le mantissa exponent
    have hlt' : (mantissa : ℚ) < (2 ^ 52 + 1 : Nat) := by
      push_cast
      linarith
    have := Nat.cast_lt.1 hlt'
    omega
  subst hpower
  have hge : ((2 : ℚ) ^ 53 - 1 / 2) * 2 ^ (exponent - 1) ≤ num / den := by
    have hge := h.ge
    rw [show gapBelow (2 ^ 52) exponent = 1 / 4 from if_pos ⟨rfl, hleast⟩] at hge
    rw [zpow_sub_one₀ two_ne_zero]
    push_cast at hge
    linarith
  have hk' : exponent - 2 < binaryExponent num den := by
    have hlt' : (2 : ℚ) ^ (exponent + 51) < 2 ^ (binaryExponent num den + 53) := by
      calc (2 : ℚ) ^ (exponent + 51) = 2 ^ 52 * 2 ^ (exponent - 1) := by
            rw [zpow_add₀ two_ne_zero, zpow_sub_one₀ two_ne_zero]
            norm_num
            ring
        _ < (2 ^ 53 - 1 / 2) * 2 ^ (exponent - 1) := by
            apply mul_lt_mul_of_pos_right _ (by positivity)
            norm_num
        _ ≤ num / den := hge
        _ < 2 ^ (binaryExponent num den + 53) := (binaryExponent_bounds hnum hden).2
    have := (zpow_lt_zpow_iff_right₀ (one_lt_two : (1 : ℚ) < 2)).1 hlt'
    omega
  refine ⟨rfl, by omega, ?_⟩
  have hpos' : (0 : ℚ) < 2 ^ (exponent - 1) := by positivity
  have hhigh : (num : ℚ) / den < 2 ^ 53 * 2 ^ (exponent - 1) := by
    rw [zpow_sub_one₀ two_ne_zero]
    linarith
  have hden' : 0 < den <<< (exponent - 1).toNat := by
    rw [Nat.shiftLeft_eq]
    positivity
  refine nearest_eq_of_rat hden' (shiftLeft_div_shiftLeft (exponent - 1)) ?_ ?_ ?_ ?_
  · rw [zpow_neg, ← div_eq_mul_inv, le_div_iff₀ hpos']
    push_cast
    linarith
  · rw [zpow_neg, ← div_eq_mul_inv, div_le_iff₀ hpos']
    push_cast
    nlinarith
  · intro _
    rfl
  · intro _
    rfl

/-- **A fraction in the interval of a number rounds to it.** -/
theorem ofFraction_of_rounds {negative : Bool} (hnum : 0 < num) (hden : 0 < den)
    (canonical : Canonical mantissa exponent) (h : Rounds mantissa exponent (num / den)) :
    ofFraction negative num den = .finite negative mantissa exponent canonical := by
  have hle : max (binaryExponent num den) (-1074) ≤ exponent :=
    max_le (binaryExponent_le hnum hden canonical h) canonical.exponent_ge
  refine ofFraction_eq hnum canonical ?_
  rcases hle.eq_or_lt with he | hlt
  · exact Or.inl ⟨he, nearest_of_rounds hden h⟩
  · obtain ⟨hm, he, hn⟩ := just_below_of_rounds hnum hden canonical h hlt
    exact Or.inr ⟨he, hm, hn⟩

end

end ApiScan.Binary64
