import ApiScan.Number.Binary64
import ApiScan.Proofs.Number.Rounding

set_option autoImplicit false

/-! # The shortest decimal is one that reads back

Seventeen significant digits are enough: on the grid of that many digits the point nearest to a
number is closer to it than the ends of its interval. So the search for the shortest decimal ends
with one in the interval, and whatever its digits are padded with, reading it gives the number
back. -/

namespace ApiScan.Binary64

/-! ## Powers of ten -/

theorem cast_tenTo (n : Nat) : ((tenTo n : Nat) : ℚ) = 10 ^ n := by
  show ((10 ^ n : Nat) : ℚ) = 10 ^ n
  push_cast
  rfl

theorem tenTo_pos (n : Nat) : 0 < tenTo n := Nat.pow_pos (by decide)

/-- Powers of ten under powers of two: three binary orders and a third are one decimal order, here
    from above by `196 / 59` and from below by `93 / 28`. -/
theorem tenPow_le_twoPow {k j : ℤ} (hpos : 0 ≤ k → 196 * k ≤ 59 * j)
    (hneg : k < 0 → 93 * k ≤ 28 * j) : (10 : ℚ) ^ k ≤ 2 ^ j := by
  rcases le_or_gt 0 k with h | h
  · have hroot : ((10 : ℚ) ^ k) ^ 59 ≤ (2 ^ j) ^ 59 := by
      calc ((10 : ℚ) ^ k) ^ 59 = (10 ^ 59) ^ k := by
            rw [← zpow_natCast, ← zpow_natCast, ← zpow_mul, ← zpow_mul, mul_comm]
        _ ≤ (2 ^ 196) ^ k := zpow_le_zpow_left₀ h (by norm_num) (by norm_num)
        _ = 2 ^ (196 * k) := by rw [← zpow_natCast, ← zpow_mul]; rfl
        _ ≤ 2 ^ (59 * j) := zpow_le_zpow_right₀ one_le_two (hpos h)
        _ = (2 ^ j) ^ 59 := by rw [← zpow_natCast, ← zpow_mul, mul_comm]; rfl
    exact (pow_le_pow_iff_left₀ (by positivity) (by positivity) (by decide)).1 hroot
  · have hroot : ((10 : ℚ) ^ k) ^ 28 ≤ (2 ^ j) ^ 28 := by
      calc ((10 : ℚ) ^ k) ^ 28 = ((10 ^ 28) ^ (-k))⁻¹ := by
            rw [← zpow_neg, neg_neg, ← zpow_natCast, ← zpow_natCast, ← zpow_mul, ← zpow_mul,
              mul_comm]
        _ ≤ ((2 ^ 93) ^ (-k))⁻¹ := by
            apply inv_anti₀ (by positivity)
            exact zpow_le_zpow_left₀ (by omega) (by norm_num) (by norm_num)
        _ = 2 ^ (93 * k) := by
            rw [← zpow_neg, neg_neg, ← zpow_natCast, ← zpow_mul]
            rfl
        _ ≤ 2 ^ (28 * j) := zpow_le_zpow_right₀ one_le_two (hneg h)
        _ = (2 ^ j) ^ 28 := by rw [← zpow_natCast, ← zpow_mul, mul_comm]; rfl
    exact (pow_le_pow_iff_left₀ (by positivity) (by positivity) (by decide)).1 hroot

theorem twoPow_le_tenPow {k j : ℤ} (hpos : 0 < k → 28 * j ≤ 93 * k)
    (hneg : k ≤ 0 → 59 * j ≤ 196 * k) : (2 : ℚ) ^ j ≤ 10 ^ k := by
  have h : (10 : ℚ) ^ (-k) ≤ 2 ^ (-j) :=
    tenPow_le_twoPow (fun h => by have := hneg (by omega); omega)
      (fun h => by have := hpos (by omega); omega)
  rw [zpow_neg, zpow_neg] at h
  exact (inv_le_inv₀ (by positivity) (by positivity)).1 h

/-! ## The decimal exponent -/

theorem reaches_iff {num den : Nat} (hden : 0 < den) (k : ℤ) :
    reaches num den k = true ↔ (10 : ℚ) ^ k ≤ num / den := by
  have hd : (0 : ℚ) < den := by exact_mod_cast hden
  have hpos : (0 : ℚ) < 10 ^ (-k).toNat := by positivity
  rw [reaches, decide_eq_true_iff, ← Nat.cast_le (α := ℚ), le_div_iff₀ hd,
    ← pow_toNat_div_pow_toNat_neg 10 k, div_mul_eq_mul_div, div_le_iff₀ hpos]
  push_cast
  rw [cast_tenTo, cast_tenTo, mul_comm]

/-- A fraction of moderate size lies between its decimal exponent and the next one. -/
theorem decimalExponent_bounds {num den : Nat} (hnum : 0 < num) (hden : 0 < den)
    (hsize : |(num.log2 : ℤ) - den.log2| ≤ 15000) :
    (10 : ℚ) ^ decimalExponent num den ≤ num / den ∧
      (num : ℚ) / den < 10 ^ (decimalExponent num den + 1) := by
  obtain ⟨hlow, hhigh⟩ := div_bounds hnum hden
  unfold decimalExponent
  simp only
  generalize (num.log2 : ℤ) - den.log2 = size at *
  obtain ⟨hmin, hmax⟩ := abs_le.1 hsize
  have hfloor : 100000 * (size * 30103 / 100000) ≤ size * 30103 ∧
      size * 30103 < 100000 * (size * 30103 / 100000) + 100000 := by omega
  generalize size * 30103 / 100000 = guess at *
  have hbelow : (10 : ℚ) ^ (guess - 1) ≤ num / den :=
    (tenPow_le_twoPow (fun _ => by omega) (fun _ => by omega)).trans hlow.le
  have habove : (num : ℚ) / den < 10 ^ (guess + 2) :=
    hhigh.trans_le (twoPow_le_tenPow (fun _ => by omega) (fun _ => by omega))
  simp only [reaches_iff hden]
  split
  · next h => exact ⟨h, by rwa [add_assoc]⟩
  · next h₁ =>
      split
      · next h => exact ⟨h, lt_of_not_ge h₁⟩
      · next h₂ =>
          refine ⟨hbelow, ?_⟩
          rw [sub_add_cancel]
          exact lt_of_not_ge h₂

section
variable {mantissa : Nat} {exponent : Int}

theorem fraction_den_pos : 0 < (fraction mantissa exponent).2 := by
  simp only [fraction, Nat.shiftLeft_eq]
  positivity

theorem fraction_num_pos (hm : 0 < mantissa) : 0 < (fraction mantissa exponent).1 := by
  simp only [fraction, Nat.shiftLeft_eq]
  positivity

theorem fraction_value :
    ((fraction mantissa exponent).1 : ℚ) / (fraction mantissa exponent).2
      = mantissa * 2 ^ exponent := by
  simp only [fraction]
  rw [cast_shiftLeft, cast_shiftLeft, Nat.cast_one, one_mul, mul_div_assoc,
    pow_toNat_div_pow_toNat_neg]

/-- The decimal exponent of a number. -/
theorem decimalExponent_fraction_bounds (canonical : Canonical mantissa exponent)
    (hm : 0 < mantissa) :
    let k := decimalExponent (fraction mantissa exponent).1 (fraction mantissa exponent).2
    (10 : ℚ) ^ k ≤ mantissa * 2 ^ exponent ∧ (mantissa : ℚ) * 2 ^ exponent < 10 ^ (k + 1) := by
  intro k
  have hnum : 0 < (fraction mantissa exponent).1 := fraction_num_pos hm
  have hnum' : (fraction mantissa exponent).1.log2 < 53 + exponent.toNat := by
    have hmant : mantissa < 2 ^ 53 := canonical.mantissa_lt
    rw [Nat.log2_lt hnum.ne']
    simp only [fraction, Nat.shiftLeft_eq]
    rw [Nat.pow_add]
    exact Nat.mul_lt_mul_of_pos_right hmant (Nat.two_pow_pos _)
  have hden' : (fraction mantissa exponent).2.log2 < (-exponent).toNat + 1 := by
    rw [Nat.log2_lt fraction_den_pos.ne']
    simp only [fraction, Nat.shiftLeft_eq, one_mul]
    exact Nat.pow_lt_pow_right (by decide) (Nat.lt_succ_self _)
  have hge := canonical.exponent_ge
  have hle := canonical.exponent_le
  rw [← fraction_value]
  exact decimalExponent_bounds hnum fraction_den_pos (abs_le.2 ⟨by omega, by omega⟩)

/-! ## The search for digits -/

/-- The bounds of an interval, compared on the scale of quarters of the last place. -/
theorem scaled_le_iff (digits : Nat) (power : Int) {bound : Nat} {scale : Int} {end_ : ℚ}
    (hend : end_ = bound * 2 ^ scale) :
    (bound * (tenTo (-power).toNat <<< scale.toNat)
        ≤ (digits * tenTo power.toNat) <<< (-scale).toNat ↔ end_ ≤ digits * 10 ^ power) ∧
      ((digits * tenTo power.toNat) <<< (-scale).toNat
        ≤ bound * (tenTo (-power).toNat <<< scale.toNat) ↔ digits * 10 ^ power ≤ end_) := by
  have hten := pow_toNat_div_pow_toNat_neg 10 power
  have htwo := pow_toNat_div_pow_toNat_neg 2 scale
  have hpos₁ : (0 : ℚ) < 10 ^ (-power).toNat := by positivity
  have hpos₂ : (0 : ℚ) < 2 ^ (-scale).toNat := by positivity
  subst hend
  rw [← hten, ← htwo, mul_div_assoc', mul_div_assoc', div_le_div_iff₀ hpos₂ hpos₁,
    div_le_div_iff₀ hpos₁ hpos₂]
  simp only [← Nat.cast_le (α := ℚ), cast_shiftLeft, Nat.cast_mul, cast_tenTo]
  constructor <;> constructor <;> intro h <;> linarith

theorem roundsTo_iff (hm : 0 < mantissa) {digits : Nat} {power : Int} :
    roundsTo mantissa exponent digits power = true ↔
      Rounds mantissa exponent (digits * 10 ^ power) := by
  have hscale : (2 : ℚ) ^ exponent = 4 * 2 ^ (exponent - 2) := by
    rw [zpow_sub₀ two_ne_zero]
    norm_num
    ring
  have hlowEnd : (mantissa - gapBelow mantissa exponent) * (2 : ℚ) ^ exponent
      = ((4 * mantissa - if mantissa = 0x10000000000000 ∧ -1074 < exponent then 1 else 2 : Nat) : ℚ)
        * 2 ^ (exponent - 2) := by
    rw [hscale, gapBelow]
    split
    · rw [Nat.cast_sub (by omega)]
      push_cast
      ring
    · rw [Nat.cast_sub (by omega)]
      push_cast
      ring
  have hhighEnd : (mantissa + 1 / 2) * (2 : ℚ) ^ exponent
      = ((4 * mantissa + 2 : Nat) : ℚ) * 2 ^ (exponent - 2) := by
    rw [hscale]
    push_cast
    ring
  obtain ⟨hlow, hlow'⟩ := scaled_le_iff digits power hlowEnd
  obtain ⟨hhigh', hhigh⟩ := scaled_le_iff digits power hhighEnd
  unfold roundsTo
  simp only
  split
  · next heven =>
      rw [decide_eq_true_iff, hlow, hhigh]
      exact ⟨fun ⟨h₁, h₂⟩ => ⟨h₁, h₂, fun _ => heven, fun _ => heven⟩, fun h => ⟨h.ge, h.le⟩⟩
  · next hodd =>
      have hlow'' := not_congr hlow'
      have hhigh'' := not_congr hhigh'
      rw [not_le, not_le] at hlow'' hhigh''
      rw [decide_eq_true_iff, hlow'', hhigh'']
      refine ⟨fun ⟨h₁, h₂⟩ => ⟨h₁.le, h₂.le, fun he => absurd he h₁.ne', fun he => absurd he h₂.ne⟩,
        fun h => ⟨?_, ?_⟩⟩
      · exact h.ge.lt_of_ne fun he => hodd (h.even_of_eq_low he.symm)
      · exact h.le.lt_of_ne fun he => hodd (h.even_of_eq_high he)

/-- The nearest natural number is at most a half away. -/
theorem nearest_bounds (num : Nat) {den : Nat} (hden : 0 < den) :
    (num : ℚ) / den - 1 / 2 ≤ nearest num den ∧ (nearest num den : ℚ) ≤ num / den + 1 / 2 := by
  have hd : (0 : ℚ) < den := by exact_mod_cast hden
  have hsplit : den * (num / den) + num % den = num := Nat.div_add_mod num den
  have hmod : num % den < den := Nat.mod_lt num hden
  have hbounds : 2 * num ≤ 2 * nearest num den * den + den ∧
      2 * nearest num den * den ≤ 2 * num + den := by
    unfold nearest
    simp only
    generalize num / den = q at *
    generalize num % den = r at *
    subst hsplit
    split
    · next h =>
        have h₁ : 2 * (q + 1) * den = 2 * (den * q) + 2 * den := by ring
        omega
    · next h =>
        have h₁ : 2 * q * den = 2 * (den * q) := by ring
        omega
  have h₁ : (2 * num : ℚ) ≤ 2 * nearest num den * den + den := by exact_mod_cast hbounds.1
  have h₂ : (2 * nearest num den * den : ℚ) ≤ 2 * num + den := by exact_mod_cast hbounds.2
  constructor
  · rw [sub_le_iff_le_add, div_le_iff₀ hd]
    linarith
  · rw [← sub_le_iff_le_add, le_div_iff₀ hd]
    linarith

/-- On a grid sixteen orders below a number, the point nearest to the number lies in its interval. -/
theorem rounds_of_near (canonical : Canonical mantissa exponent) {step x : ℚ}
    (hstep : step * 10 ^ 16 ≤ mantissa * 2 ^ exponent)
    (hlow : mantissa * 2 ^ exponent - step / 2 ≤ x)
    (hhigh : x ≤ mantissa * 2 ^ exponent + step / 2) : Rounds mantissa exponent x := by
  have hpos : (0 : ℚ) < 2 ^ exponent := by positivity
  have hmant : (mantissa : ℚ) < 2 ^ 53 := by
    have : mantissa < 2 ^ 53 := canonical.mantissa_lt
    exact_mod_cast this
  have hgap : step / 2 < gapBelow mantissa exponent * 2 ^ exponent := by
    by_cases hpower : mantissa = 0x10000000000000
    · have hge := gapBelow_ge mantissa exponent
      rw [hpower] at hstep
      push_cast at hstep
      nlinarith
    · have hhalf : gapBelow mantissa exponent = 1 / 2 := if_neg fun h => hpower h.1
      rw [hhalf]
      nlinarith
  have hhalf : step / 2 < 1 / 2 * 2 ^ exponent :=
    hgap.trans_le (mul_le_mul_of_nonneg_right (gapBelow_le mantissa exponent) hpos.le)
  have hlt : (mantissa - gapBelow mantissa exponent) * 2 ^ exponent < x := by
    rw [sub_mul]
    linarith
  have hgt : x < (mantissa + 1 / 2) * 2 ^ exponent := by
    rw [add_mul]
    linarith
  exact ⟨hlt.le, hgt.le, fun he => absurd he hlt.ne', fun he => absurd he hgt.ne⟩

/-- A number on a decimal grid, as the fraction that `atLength?` rounds. -/
theorem grid_value (mantissa : Nat) (exponent power : Int) :
    (((fraction mantissa exponent).1 * tenTo (-power).toNat : Nat) : ℚ)
        / ((fraction mantissa exponent).2 * tenTo power.toNat : Nat)
      = mantissa * 2 ^ exponent * 10 ^ (-power) := by
  have hten := pow_toNat_div_pow_toNat_neg 10 (-power)
  rw [neg_neg] at hten
  push_cast
  rw [cast_tenTo, cast_tenTo, mul_div_mul_comm, fraction_value, hten]

theorem grid_den_pos (mantissa : Nat) (exponent power : Int) :
    0 < (fraction mantissa exponent).2 * tenTo power.toNat :=
  Nat.mul_pos fraction_den_pos (tenTo_pos _)

/-- What `atLength?` gives lies in the interval and has at most one digit more than asked for. -/
theorem atLength?_eq_some (canonical : Canonical mantissa exponent) (hm : 0 < mantissa)
    {count digits : Nat} {power : Int} (hcount : 0 < count)
    (h : atLength? mantissa exponent count = some (digits, power)) :
    Rounds mantissa exponent (digits * 10 ^ power) ∧ digits ≤ 10 ^ count := by
  obtain ⟨-, hhigh⟩ := decimalExponent_fraction_bounds canonical hm
  have hgrid := grid_value mantissa exponent
    (decimalExponent (fraction mantissa exponent).1 (fraction mantissa exponent).2
      - (count - 1 : Nat))
  have hden := grid_den_pos mantissa exponent
    (decimalExponent (fraction mantissa exponent).1 (fraction mantissa exponent).2
      - (count - 1 : Nat))
  unfold atLength? at h
  simp only at h
  generalize decimalExponent (fraction mantissa exponent).1 (fraction mantissa exponent).2 = k at *
  generalize hp : k - ((count - 1 : Nat) : ℤ) = p at *
  generalize (fraction mantissa exponent).1 * tenTo (-p).toNat = num at *
  generalize (fraction mantissa exponent).2 * tenTo p.toNat = den at *
  have hd : (0 : ℚ) < den := by exact_mod_cast hden
  have hquot : num / den < 10 ^ count := by
    rw [Nat.div_lt_iff_lt_mul hden]
    have hlt : (num : ℚ) / den < 10 ^ count := by
      rw [hgrid]
      calc (mantissa : ℚ) * 2 ^ exponent * 10 ^ (-p) < 10 ^ (k + 1) * 10 ^ (-p) := by gcongr
        _ = 10 ^ count := by
            rw [← zpow_add₀ (by norm_num), ← zpow_natCast]
            congr 1
            omega
    rw [div_lt_iff₀ hd] at hlt
    exact_mod_cast hlt
  have hnearest : nearest num den ≤ num / den + 1 := by
    unfold nearest
    simp only
    split <;> omega
  have hfarther : (if nearest num den = num / den then num / den + 1 else num / den)
      ≤ num / den + 1 := by
    split <;> omega
  generalize (if nearest num den = num / den then num / den + 1 else num / den) = farther at *
  split at h
  · next hround =>
      obtain ⟨rfl, rfl⟩ := Prod.mk.inj (Option.some.inj h)
      exact ⟨(roundsTo_iff hm).1 hround, by omega⟩
  · split at h
    · next hround =>
        obtain ⟨rfl, rfl⟩ := Prod.mk.inj (Option.some.inj h)
        exact ⟨(roundsTo_iff hm).1 hround, by omega⟩
    · exact absurd h (by simp)

/-- Seventeen digits are enough. -/
theorem atLength?_seventeen (canonical : Canonical mantissa exponent) (hm : 0 < mantissa) :
    (atLength? mantissa exponent 17).isSome = true := by
  obtain ⟨hlow, -⟩ := decimalExponent_fraction_bounds canonical hm
  have hgrid := grid_value mantissa exponent
    (decimalExponent (fraction mantissa exponent).1 (fraction mantissa exponent).2 - 16)
  have hden := grid_den_pos mantissa exponent
    (decimalExponent (fraction mantissa exponent).1 (fraction mantissa exponent).2 - 16)
  have hsixteen : ((17 - 1 : Nat) : ℤ) = 16 := rfl
  unfold atLength?
  simp only [hsixteen]
  generalize decimalExponent (fraction mantissa exponent).1 (fraction mantissa exponent).2 = k at *
  generalize (fraction mantissa exponent).1 * tenTo (-(k - 16)).toNat = num at *
  generalize (fraction mantissa exponent).2 * tenTo (k - 16).toNat = den at *
  obtain ⟨hnear, hnear'⟩ := nearest_bounds num hden
  have hpos : (0 : ℚ) < 10 ^ (k - 16) := by positivity
  have hstep : (10 : ℚ) ^ (k - 16) * 10 ^ 16 ≤ mantissa * 2 ^ exponent := by
    calc (10 : ℚ) ^ (k - 16) * 10 ^ 16 = 10 ^ k := by
          rw [← zpow_natCast, ← zpow_add₀ (by norm_num)]
          congr 1
          omega
      _ ≤ mantissa * 2 ^ exponent := hlow
  have hvalue : (num : ℚ) / den * 10 ^ (k - 16) = mantissa * 2 ^ exponent := by
    rw [hgrid, mul_assoc, ← zpow_add₀ (by norm_num), neg_add_cancel, zpow_zero, mul_one]
  have hround : roundsTo mantissa exponent (nearest num den) (k - 16) = true := by
    rw [roundsTo_iff hm]
    refine rounds_of_near canonical hstep ?_ ?_
    · rw [← hvalue]
      nlinarith
    · rw [← hvalue]
      nlinarith
  rw [if_pos hround]
  rfl

/-- The search ends with a decimal that rounds to the number. -/
theorem shortestFrom_spec (canonical : Canonical mantissa exponent) (hm : 0 < mantissa)
    {more count : Nat} (hcount : 0 < count) (hsum : more + count = 17) :
    Rounds mantissa exponent ((shortestFrom mantissa exponent more count).1
        * 10 ^ (shortestFrom mantissa exponent more count).2) ∧
      (shortestFrom mantissa exponent more count).1 ≤ 10 ^ 17 := by
  induction more generalizing count with
  | zero =>
      obtain rfl : count = 17 := by omega
      obtain ⟨⟨digits, power⟩, hfound⟩ := Option.isSome_iff_exists.1
        (atLength?_seventeen canonical hm)
      rw [shortestFrom, hfound]
      exact atLength?_eq_some canonical hm hcount hfound
  | succ more ih =>
      rw [shortestFrom]
      cases hfound : atLength? mantissa exponent count with
      | none => exact ih (Nat.succ_pos _) (by omega)
      | some found =>
          obtain ⟨digits, power⟩ := found
          obtain ⟨hround, hle⟩ := atLength?_eq_some canonical hm hcount hfound
          exact ⟨hround, hle.trans (Nat.pow_le_pow_right (by decide) (by omega))⟩

/-! ## Reading a decimal -/

/-- The size of a rational that rounds to a number. -/
theorem Rounds.bounds {q : ℚ} (canonical : Canonical mantissa exponent) (hm : 0 < mantissa)
    (h : Rounds mantissa exponent q) : (2 : ℚ) ^ (-1075 : ℤ) ≤ q ∧ q < 2 ^ (1024 : ℤ) := by
  have hpos : (0 : ℚ) < 2 ^ exponent := by positivity
  have hone : (1 : ℚ) ≤ mantissa := by exact_mod_cast hm
  have hgap := gapBelow_le mantissa exponent
  have hmant : (mantissa : ℚ) + 1 ≤ 2 ^ 53 := by
    have : mantissa + 1 ≤ 2 ^ 53 := canonical.mantissa_lt
    exact_mod_cast this
  constructor
  · calc (2 : ℚ) ^ (-1075 : ℤ) ≤ 2 ^ (exponent - 1) :=
          zpow_le_zpow_right₀ one_le_two (by have := canonical.exponent_ge; omega)
      _ = 1 / 2 * 2 ^ exponent := by
          rw [zpow_sub_one₀ two_ne_zero]
          ring
      _ ≤ (mantissa - gapBelow mantissa exponent) * 2 ^ exponent := by
          apply mul_le_mul_of_nonneg_right _ hpos.le
          linarith
      _ ≤ q := h.ge
  · calc q ≤ (mantissa + 1 / 2) * 2 ^ exponent := h.le
      _ < 2 ^ 53 * 2 ^ exponent := by
          apply mul_lt_mul_of_pos_right _ hpos
          linarith
      _ = 2 ^ (exponent + 53) := by
          rw [zpow_add₀ two_ne_zero, mul_comm]
          norm_num
      _ ≤ 2 ^ (1024 : ℤ) :=
          zpow_le_zpow_right₀ one_le_two (by have := canonical.exponent_le; omega)

/-- **A decimal of moderate length in the interval of a number reads as the number.** -/
theorem ofDecimal_of_rounds {negative : Bool} {digits : Nat} {power : Int}
    (canonical : Canonical mantissa exponent) (hm : 0 < mantissa) (hdigits : 0 < digits)
    (hlt : digits < 2 ^ 64) (h : Rounds mantissa exponent (digits * 10 ^ power)) :
    ofDecimal negative digits power = .finite negative mantissa exponent canonical := by
  obtain ⟨hlow, hhigh⟩ := h.bounds canonical hm
  have hpos : (0 : ℚ) < 10 ^ power := by positivity
  have hlog : digits.log2 < 64 := (Nat.log2_lt hdigits.ne').2 hlt
  have hpowerHigh : power < 309 := by
    have hone : (1 : ℚ) ≤ digits := by exact_mod_cast hdigits
    have hlt' : (10 : ℚ) ^ power < 10 ^ (309 : ℤ) := by
      calc (10 : ℚ) ^ power ≤ digits * 10 ^ power := le_mul_of_one_le_left hpos.le hone
        _ < 2 ^ (1024 : ℤ) := hhigh
        _ ≤ 10 ^ (309 : ℤ) := twoPow_le_tenPow (fun _ => by norm_num) (fun h => by omega)
    exact (zpow_lt_zpow_iff_right₀ (by norm_num)).1 hlt'
  have hpowerLow : -344 < power := by
    have hsize : (digits : ℚ) < 2 ^ (64 : ℤ) := by exact_mod_cast hlt
    have hlt' : (10 : ℚ) ^ (-344 : ℤ) < 10 ^ power := by
      calc (10 : ℚ) ^ (-344 : ℤ) ≤ 2 ^ (-1139 : ℤ) :=
            tenPow_le_twoPow (fun h => by omega) (fun _ => by norm_num)
        _ = 2 ^ (-1075 : ℤ) / 2 ^ (64 : ℤ) := by
            rw [← zpow_sub₀ two_ne_zero]
            norm_num
        _ ≤ digits * 10 ^ power / 2 ^ (64 : ℤ) := by gcongr
        _ < 10 ^ power := by
            rw [div_lt_iff₀ (by positivity), mul_comm]
            exact mul_lt_mul_of_pos_left hsize hpos
    exact (zpow_lt_zpow_iff_right₀ (by norm_num)).1 hlt'
  unfold ofDecimal
  simp only
  rw [if_neg hdigits.ne', if_neg (by omega), if_neg (by omega)]
  refine ofFraction_of_rounds (Nat.mul_pos hdigits (tenTo_pos _)) (tenTo_pos _) canonical ?_
  push_cast
  rw [cast_tenTo, cast_tenTo, mul_div_assoc, pow_toNat_div_pow_toNat_neg]
  exact h

end

end ApiScan.Binary64
