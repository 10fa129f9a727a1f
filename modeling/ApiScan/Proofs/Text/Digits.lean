import ApiScan.Text.Digits
import Mathlib.Data.List.TakeWhile
import Mathlib.Tactic.Linarith
import Mathlib.Tactic.Ring

set_option autoImplicit false

/-! # Numerals read back

The decimal form of a number holds digits only, does not start with a zero unless it is one, and
reads as the number. -/

namespace ApiScan.Text

/-! ## Values of digits -/

theorem toNat_append (base : Nat) (s t : Text) :
    toNat base (s ++ t) = toNat base s * base ^ t.length + toNat base t := by
  have hfold : ∀ (start : Nat) (t : Text),
      t.foldl (fun n c => n * base + (digitValue? c).getD 0) start
        = start * base ^ t.length + toNat base t := by
    intro start t
    induction t generalizing start with
    | nil => simp [toNat]
    | cons c t ih =>
        have hc := ih (0 * base + (digitValue? c).getD 0)
        rw [toNat, List.foldl_cons, List.foldl_cons, ih, hc, List.length_cons, pow_succ]
        ring
  rw [toNat, List.foldl_append, hfold]
  rfl

theorem toNat_singleton (base : Nat) (c : Char) : toNat base [c] = (digitValue? c).getD 0 := by
  simp [toNat]

theorem toNat_replicate_zero (base k : Nat) : toNat base (List.replicate k '0') = 0 := by
  induction k with
  | zero => rfl
  | succ k ih =>
      have hzero : (digitValue? '0').getD 0 = 0 := rfl
      rw [List.replicate_succ, ← List.singleton_append, toNat_append, toNat_singleton, ih, hzero,
        zero_mul]

theorem digitValue?_digitChar {n : Nat} (h : n < 16) : digitValue? (Nat.digitChar n) = some n := by
  revert n
  decide

theorem digitValue?_lt_ten {c : Char} (h : isDigit c = true) : (digitValue? c).getD 0 < 10 := by
  simp only [isDigit, Bool.and_eq_true, decide_eq_true_eq] at h
  simp only [digitValue?, h.1, h.2, decide_true, Bool.and_self, if_true, Option.getD_some]
  omega

theorem toNat_lt_pow {digits : Text} (h : ∀ c ∈ digits, isDigit c = true) :
    toNat 10 digits < 10 ^ digits.length := by
  induction digits with
  | nil => decide
  | cons c digits ih =>
      have hc := digitValue?_lt_ten (h c List.mem_cons_self)
      have hmore := ih fun d hd => h d (List.mem_cons_of_mem _ hd)
      rw [← List.singleton_append, toNat_append, toNat_singleton, List.length_append,
        List.length_singleton, pow_add]
      nlinarith

/-! ## Decimal forms -/

theorem isDigit_eq (c : Char) : isDigit c = c.isDigit := by
  simp only [isDigit, Char.isDigit, Char.toNat, ge_iff_le, UInt32.le_iff_toNat_le]
  rfl

theorem isDigit_of_mem_ofNat {n : Nat} {c : Char} (h : c ∈ ofNat n) : isDigit c = true := by
  rw [isDigit_eq]
  exact Nat.isDigit_of_mem_toDigits (by decide) (by decide) h

theorem ofNat_ne_nil (n : Nat) : ofNat n ≠ [] := Nat.toDigits_ne_nil

theorem toNat_ofNat (n : Nat) : toNat 10 (ofNat n) = n := by
  induction n using Nat.strong_induction_on with
  | _ n ih =>
      rw [ofNat, Nat.toDigits_eq_if (by decide)]
      split
      · next h => rw [toNat_singleton, digitValue?_digitChar (by omega)]; rfl
      · next h =>
          have hdiv := ih (n / 10) (by omega)
          rw [ofNat] at hdiv
          rw [toNat_append, toNat_singleton, hdiv, digitValue?_digitChar (by omega)]
          simp only [List.length_singleton, pow_one, Option.getD_some]
          omega

/-- The decimal form of a positive number does not start with a zero. -/
theorem head?_ofNat_ne_zero {n : Nat} (h : 0 < n) : (ofNat n).head? ≠ some '0' := by
  induction n using Nat.strong_induction_on with
  | _ n ih =>
      rw [ofNat, Nat.toDigits_eq_if (by decide)]
      split
      · next hlt =>
          rw [List.head?_cons, ne_eq, Option.some_inj, Nat.digitChar_eq_zero]
          omega
      · next hge =>
          have hdiv := ih (n / 10) (by omega) (by omega)
          obtain ⟨c, more, hc⟩ := List.exists_cons_of_ne_nil (ofNat_ne_nil (n / 10))
          rw [hc] at hdiv
          rw [ofNat] at hc
          rw [hc]
          exact hdiv

theorem length_ofNat_le_iff {n k : Nat} (hk : 0 < k) : (ofNat n).length ≤ k ↔ n < 10 ^ k :=
  Nat.length_toDigits_le_iff (by decide) hk

end ApiScan.Text
