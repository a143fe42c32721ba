/-
  Floats, by the numbers that they stand for.

  A float is a number rounded to 53 significant bits, ties to even, of an exponent that is not
  too small; an infinity; or no number.
-/
import LocalMoe.Foundation.Rounding
import Mathlib.Algebra.Order.Field.Power

namespace LocalMoe.Foundation

/-- A float.  The sign of a zero is left out. -/
inductive PyFloat where
  | finite (value : ℚ)
  | infinite (negative : Bool)
  | nan
  deriving DecidableEq

/-- The exponent of the last bit that a float near the number has. -/
def lastBit (x : ℚ) : ℤ := max (Int.log 2 |x| - 52) (-1074)

/-- The float nearest to a number, before the largest exponent is looked at. -/
def nearestFloat (x : ℚ) : ℚ :=
  if x = 0 then 0 else halfEven (x / 2 ^ lastBit x) * 2 ^ lastBit x

theorem nearestFloat_natCast {n : Nat} (h : n < 2 ^ 53) : nearestFloat n = n := by
  unfold nearestFloat
  split
  · next hzero => exact hzero.symm
  · next hne =>
    have hn : n ≠ 0 := fun h0 => hne (by simp [h0])
    have hlog : Nat.log 2 n < 53 := Nat.log_lt_of_lt_pow hn h
    obtain ⟨k, hk⟩ : ∃ k : Nat, lastBit (n : ℚ) = -(k : ℤ) := by
      rw [lastBit, abs_of_nonneg (Nat.cast_nonneg n), Int.log_natCast]
      exact ⟨(52 - Nat.log 2 n : Nat), by omega⟩
    have hunits : (n : ℚ) / 2 ^ (-(k : ℤ)) = ((n * 2 ^ k : ℤ) : ℚ) := by
      rw [zpow_neg, div_inv_eq_mul, zpow_natCast]
      push_cast
      ring
    rw [hk, hunits, halfEven_intCast, ← hunits, div_mul_cancel₀ _ (zpow_ne_zero _ (by norm_num))]

end LocalMoe.Foundation
