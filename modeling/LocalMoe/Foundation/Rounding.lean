/-
  Rounding to a number of significant digits, ties to even, and the numbers that it keeps.
-/
import Mathlib.Data.Int.Log
import Mathlib.Data.Rat.Floor
import Mathlib.Tactic.Positivity

namespace LocalMoe.Foundation

/-- The nearest integer; of two the even one. -/
def halfEven (x : ℚ) : ℤ :=
  if Int.fract x < 1 / 2 ∨ Int.fract x = 1 / 2 ∧ ⌊x⌋ % 2 = 0 then ⌊x⌋ else ⌊x⌋ + 1

variable {x : ℚ}

theorem halfEven_of_near {n : ℤ} (hle : n ≤ x) (hlt : x < n + 1 / 2) : halfEven x = n := by
  have hfloor : ⌊x⌋ = n := Int.floor_eq_iff.mpr ⟨hle, by linarith⟩
  have hfract : Int.fract x < 1 / 2 := by
    rw [Int.fract, hfloor]
    linarith
  rw [halfEven, if_pos (.inl hfract), hfloor]

@[simp] theorem halfEven_intCast (n : ℤ) : halfEven n = n := halfEven_of_near le_rfl (by linarith)

theorem floor_le_halfEven (x : ℚ) : ⌊x⌋ ≤ halfEven x := by
  unfold halfEven
  split <;> omega

theorem halfEven_le_floor (x : ℚ) : halfEven x ≤ ⌊x⌋ + 1 := by
  unfold halfEven
  split <;> omega

theorem halfEven_mono {y : ℚ} (h : x ≤ y) : halfEven x ≤ halfEven y := by
  rcases (Int.floor_le_floor h).lt_or_eq with hlt | heq
  · have hx := halfEven_le_floor x
    have hy := floor_le_halfEven y
    omega
  · by_cases hup : Int.fract y < 1 / 2 ∨ Int.fract y = 1 / 2 ∧ ⌊y⌋ % 2 = 0
    · -- the greater number is rounded down, and so is the other
      have hfract : Int.fract x ≤ Int.fract y := by
        rw [Int.fract, Int.fract, heq]
        linarith
      have hdown : Int.fract x < 1 / 2 ∨ Int.fract x = 1 / 2 ∧ ⌊x⌋ % 2 = 0 := by
        rcases hup with hup | ⟨hup, heven⟩
        · exact .inl (lt_of_le_of_lt hfract hup)
        · rcases (hup ▸ hfract).lt_or_eq with hlt | hhalf
          · exact .inl hlt
          · exact .inr ⟨hhalf, heq ▸ heven⟩
      rw [halfEven, if_pos hdown, heq]
      exact floor_le_halfEven y
    · have hx := halfEven_le_floor x
      rw [halfEven.eq_1 y, if_neg hup]
      omega

/-- `round(x, places)`, of an exact number. -/
def roundPlaces (places : Nat) (x : ℚ) : ℚ := halfEven (x * 10 ^ places) / 10 ^ places

theorem roundPlaces_mono {places : Nat} {y : ℚ} (h : x ≤ y) :
    roundPlaces places x ≤ roundPlaces places y := by
  have hpow : (0 : ℚ) < 10 ^ places := by positivity
  have hle : ((halfEven (x * 10 ^ places) : ℤ) : ℚ) ≤ halfEven (y * 10 ^ places) := by
    exact_mod_cast halfEven_mono (mul_le_mul_of_nonneg_right h hpow.le)
  unfold roundPlaces
  exact div_le_div_of_nonneg_right hle hpow.le
/-- The number rounded to so many significant decimal digits. -/
def roundDigits (digits : Nat) (x : ℚ) : ℚ :=
  if x = 0 then 0
  else
    let unit : ℚ := 10 ^ (Int.log 10 |x| + 1 - digits)
    halfEven (x / unit) * unit

/-- The number has a notation with so many digits. -/
def Fits (digits : Nat) (x : ℚ) : Prop :=
  ∃ coefficient exponent : ℤ, |coefficient| < 10 ^ digits ∧ x = coefficient * 10 ^ exponent

theorem roundDigits_of_fits {digits : Nat} (h : Fits digits x) : roundDigits digits x = x := by
  obtain ⟨c, e, hc, hx⟩ := h
  unfold roundDigits
  split
  · next hzero => exact hzero.symm
  · next hne =>
    have hpos : 0 < |x| := abs_pos.mpr hne
    have hbase : (0 : ℚ) < 10 ^ e := zpow_pos (by norm_num) _
    have hcast : ((|c| : ℤ) : ℚ) < 10 ^ digits := by exact_mod_cast hc
    have hupper : |x| < (10 : ℕ) ^ ((digits : ℤ) + e) := by
      rw [Nat.cast_ofNat, zpow_add₀ (by norm_num), zpow_natCast, hx, abs_mul, abs_of_pos hbase,
        ← Int.cast_abs]
      exact mul_lt_mul_of_pos_right hcast hbase
    have hlog : Int.log 10 |x| < digits + e := (Int.lt_zpow_iff_log_lt (by decide) hpos).mp hupper
    obtain ⟨k, hk⟩ : ∃ k : Nat, e = Int.log 10 |x| + 1 - digits + k :=
      ⟨(e - (Int.log 10 |x| + 1 - digits)).toNat, by omega⟩
    have hunit : (10 : ℚ) ^ (Int.log 10 |x| + 1 - digits) ≠ 0 := zpow_ne_zero _ (by norm_num)
    -- In units of the last kept digit the number is an integer.
    have hinteger : x / 10 ^ (Int.log 10 |x| + 1 - digits) = ((c * 10 ^ k : ℤ) : ℚ) := by
      rw [div_eq_iff hunit]
      conv_lhs => rw [hx, hk, zpow_add₀ (by norm_num), zpow_natCast]
      push_cast
      ring
    dsimp only
    rw [hinteger, halfEven_intCast, ← hinteger, div_mul_cancel₀ _ hunit]

theorem roundDigits_of_near {digits : Nat} {n e : ℤ} (hpos : 0 < n)
    (hlower : (10 : ℤ) ^ digits ≤ n * 10) (hupper : n < 10 ^ digits) (hle : n * (10 : ℚ) ^ e ≤ x)
    (hlt : x < (n + 1 / 2) * 10 ^ e) : roundDigits digits x = n * 10 ^ e := by
  have hbase : (0 : ℚ) < 10 ^ e := zpow_pos (by norm_num) _
  have hn : (0 : ℚ) < n := by exact_mod_cast hpos
  have hx : 0 < x := lt_of_lt_of_le (mul_pos hn hbase) hle
  have hlog : Int.log 10 |x| = digits + e - 1 := by
    rw [abs_of_pos hx]
    have hlow : (10 : ℕ) ^ ((digits : ℤ) + e - 1) ≤ x := by
      have hl : (10 : ℚ) ^ digits ≤ n * 10 := by exact_mod_cast hlower
      rw [Nat.cast_ofNat, zpow_sub_one₀ (by norm_num), zpow_add₀ (by norm_num), zpow_natCast]
      calc (10 : ℚ) ^ digits * 10 ^ e * 10⁻¹ ≤ n * 10 * 10 ^ e * 10⁻¹ := by gcongr
        _ = n * 10 ^ e := by ring
        _ ≤ x := hle
    have hhigh : x < (10 : ℕ) ^ ((digits : ℤ) + e) := by
      have hu : (n : ℚ) + 1 ≤ 10 ^ digits := by exact_mod_cast hupper
      rw [Nat.cast_ofNat, zpow_add₀ (by norm_num), zpow_natCast]
      calc x < (n + 1 / 2) * 10 ^ e := hlt
        _ ≤ 10 ^ digits * 10 ^ e := by gcongr; linarith
    have h1 := (Int.zpow_le_iff_le_log (by decide) hx).mp hlow
    have h2 := (Int.lt_zpow_iff_log_lt (by decide) hx).mp hhigh
    omega
  have hunit : Int.log 10 |x| + 1 - digits = e := by omega
  have hround : halfEven (x / 10 ^ e) = n := by
    refine halfEven_of_near ?_ ?_
    · rw [le_div_iff₀ hbase]
      exact hle
    · rw [div_lt_iff₀ hbase]
      exact hlt
  rw [roundDigits, if_neg hx.ne', hunit]
  dsimp only
  rw [hround]

end LocalMoe.Foundation
