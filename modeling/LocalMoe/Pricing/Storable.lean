/-
  Which amounts survive being written and read again, and that the sums are exact.
-/
import LocalMoe.Pricing.Amounts

namespace LocalMoe.Pricing

open Foundation Contracts

/-- The number has a plain notation of at most 64 digits, counted from the first that is not
zero, and at most 126 places, and is zero or at least `10 ^ -72`. -/
def Storable (q : ℚ) : Prop :=
  ∃ units places : Nat, q = units / 10 ^ places ∧ units < 10 ^ 64 ∧ places ≤ 126 ∧
    (units ≠ 0 → 10 ^ places ≤ units * 10 ^ 72)

theorem length_plain (units places : Nat) : (Decimal.plain units places).length =
    if places = 0 then (Nat.toDigits 10 units).length
    else (Nat.toDigits 10 (units / 10 ^ places)).length + (places + 1) := by
  unfold Decimal.plain
  split
  · rfl
  · rw [List.length_append, List.length_cons, Decimal.length_fixedDigits]

theorem storable_iff {units places : Nat} (h : Decimal.Reduced (units, places)) :
    Storable (units / 10 ^ places) ↔ (Decimal.plain units places).length ≤ maxDecimalInputChars ∧
        (units = 0 ∨ (Nat.toDigits 10 units).length ≤ maxDecimalSignificantDigits ∧
          ((-places : Int) + (Nat.toDigits 10 units).length - 1).natAbs ≤
            maxDecimalAdjustedExponent) := by
  have hdigits : ∀ n k : Nat, 0 < k → ((Nat.toDigits 10 n).length ≤ k ↔ n < 10 ^ k) :=
    fun n k hk => Nat.length_toDigits_le_iff (by decide) hk
  have hpositive : ∀ n : Nat, 0 < (Nat.toDigits 10 n).length := fun n => Nat.length_toDigits_pos
  have hcount := hpositive units
  have hbelow : units < 10 ^ (Nat.toDigits 10 units).length := (hdigits _ _ hcount).mp le_rfl
  rw [length_plain]
  simp only [maxDecimalInputChars, maxDecimalSignificantDigits, maxDecimalAdjustedExponent]
  constructor
  · rintro ⟨c, m, hvalue, hc, hm, hsmall⟩
    have hsame : (units, places) = Decimal.reduce c m := by
      refine Decimal.eq_of_reduced h (Decimal.reduced_reduce c m) ?_
      rw [Decimal.value_reduce]
      exact hvalue
    obtain ⟨hunits, hplaces⟩ := Decimal.reduce_le c m
    rw [← hsame] at hunits hplaces
    have hunits64 : units < 10 ^ 64 := hunits.trans_lt hc
    have hcount64 : (Nat.toDigits 10 units).length ≤ 64 := (hdigits _ _ (by decide)).mpr hunits64
    constructor
    · split
      · exact hcount64.trans (by decide)
      · by_cases hwhole : units < 10 ^ places
        · rw [Nat.div_eq_of_lt hwhole, Nat.toDigits_zero, List.length_singleton]
          omega
        · have hplaces64 : places < 64 := by
            by_contra hge
            exact hwhole (hunits64.trans_le (Nat.pow_le_pow_right (by decide) (not_lt.mp hge)))
          have hfew : (Nat.toDigits 10 (units / 10 ^ places)).length ≤ 64 - places := by
            rw [hdigits _ _ (by omega), Nat.div_lt_iff_lt_mul (by positivity), ← pow_add,
              Nat.sub_add_cancel hplaces64.le]
            exact hunits64
          omega
    · by_cases hzero : units = 0
      · exact .inl hzero
      · have hcne : c ≠ 0 := by omega
        have hratio : (units : ℚ) * 10 ^ m = c * 10 ^ places := by
          have hp : (10 : ℚ) ^ places ≠ 0 := pow_ne_zero _ (by norm_num)
          have hp' : (10 : ℚ) ^ m ≠ 0 := pow_ne_zero _ (by norm_num)
          field_simp at hvalue
          exact hvalue.trans (mul_comm _ _)
        have hratio' : units * 10 ^ m = c * 10 ^ places := by exact_mod_cast hratio
        have hleast : 10 ^ places ≤ units * 10 ^ 72 := by
          have hmul : 10 ^ places * 10 ^ m ≤ units * 10 ^ 72 * 10 ^ m := by
            calc 10 ^ places * 10 ^ m ≤ 10 ^ places * (c * 10 ^ 72) :=
                  Nat.mul_le_mul_left _ (hsmall hcne)
              _ = c * 10 ^ places * 10 ^ 72 := by ring
              _ = units * 10 ^ 72 * 10 ^ m := by rw [← hratio']; ring
          exact Nat.le_of_mul_le_mul_right hmul (by positivity)
        have hexponent : places < (Nat.toDigits 10 units).length + 72 := by
          rw [← Nat.pow_lt_pow_iff_right (by decide : 1 < 10), pow_add]
          exact hleast.trans_lt (Nat.mul_lt_mul_of_pos_right hbelow (by positivity))
        exact .inr ⟨hcount64, by omega⟩
  · rintro ⟨hlength, hbounds⟩
    refine ⟨units, places, rfl, ?_, ?_, fun hne => ?_⟩
    · rcases hbounds with hzero | ⟨hcount64, -⟩
      · rw [hzero]
        positivity
      · exact (hdigits _ _ (by decide)).mp hcount64
    · split at hlength
      · omega
      · have := hpositive (units / 10 ^ places)
        omega
    · obtain ⟨-, hadjusted⟩ := hbounds.resolve_left hne
      have hleast : 10 ^ ((Nat.toDigits 10 units).length - 1) ≤ units := by
        by_cases hone : (Nat.toDigits 10 units).length = 1
        · rw [hone]
          exact Nat.one_le_iff_ne_zero.mpr hne
        · by_contra hlt
          have := (hdigits units ((Nat.toDigits 10 units).length - 1) (by omega)).mpr
            (not_le.mp hlt)
          omega
      calc 10 ^ places ≤ 10 ^ ((Nat.toDigits 10 units).length - 1 + 72) :=
            Nat.pow_le_pow_right (by decide) (by omega)
        _ = 10 ^ ((Nat.toDigits 10 units).length - 1) * 10 ^ 72 := pow_add _ _ _
        _ ≤ units * 10 ^ 72 := Nat.mul_le_mul_right _ hleast

theorem canonicalNonNegativeDecimal_canonical (U : Digits) (d : Decimal) (label result : String) :
    canonicalNonNegativeDecimal U (.text (canonicalDecimal d)) label = .ok result ↔
      Storable d.value ∧ result = canonicalDecimal d := by
  have hreduced : Decimal.Reduced (d.normal.1, d.normal.2) := Decimal.reduced_normal d
  have hagain : canonicalDecimal ⟨d.normal.1, -d.normal.2⟩ = canonicalDecimal d := by
    rw [canonicalDecimal_eq, canonicalDecimal_eq d, Decimal.normal_of_reduced hreduced]
  have hnumber : numberOf U (.text (canonicalDecimal d)) =
      some (.finite false ⟨d.normal.1, -d.normal.2⟩) := by
    simp only [numberOf]
    rw [canonicalDecimal_eq, decimalOfText_plain]
  have hsize : oversized (.text (canonicalDecimal d)) = false ↔
      (Decimal.plain d.normal.1 d.normal.2).length ≤ maxDecimalInputChars := by
    rw [canonicalDecimal_eq, oversized, decide_eq_false_iff_not, not_lt, String.length_ofList]
  rw [← Decimal.value_normal, storable_iff hreduced]
  simp only [canonicalNonNegativeDecimal, check_bind_eq_ok, hnumber, hagain, pure_eq_ok_iff,
    true_or, true_and, isBool, hsize]
  simp only [digitCount, adjusted]
  rw [and_assoc, @eq_comm _ result]

/-- A decimal within the bounds on digits and exponent. -/
def Accepted (d : Decimal) : Prop :=
  d.coefficient = 0 ∨ digitCount d ≤ maxDecimalSignificantDigits ∧
    (adjusted d).natAbs ≤ maxDecimalAdjustedExponent

instance (d : Decimal) : Decidable (Accepted d) := inferInstanceAs (Decidable (_ ∨ _ ∧ _))

theorem canonicalNonNegativeDecimal_eq_ok {U : Digits} {value : Amount} {label text : String}
    (h : canonicalNonNegativeDecimal U value label = .ok text) :
    ∃ d, Accepted d ∧ text = canonicalDecimal d := by
  simp only [canonicalNonNegativeDecimal, check_bind_eq_ok] at h
  obtain ⟨-, -, h⟩ := h
  split at h
  · cases h
  · cases h
  · simp only [check_bind_eq_ok, pure_eq_ok_iff] at h
    obtain ⟨-, hbounds, htext⟩ := h
    exact ⟨_, hbounds, htext.symm⟩

/-! ## Sums -/

theorem value_decimalFromComponents (coefficient : Nat) (exponent : Int) :
    (decimalFromComponents coefficient exponent).value = coefficient * (10 : ℚ) ^ exponent := by
  unfold decimalFromComponents
  split
  · next h => simp [Decimal.value, h]
  · rfl

theorem value_tokenCost (rate : Decimal) (tokens : Nat) :
    (tokenCost rate tokens).value = rate.value * tokens / 10 ^ 6 := by
  rw [tokenCost, value_decimalFromComponents, Decimal.value, zpow_sub₀ (by norm_num), Nat.cast_mul]
  norm_num
  ring

theorem foldl_min_le (exponents : List Int) (first : Int) :
    exponents.foldl min first ≤ first ∧ ∀ e ∈ exponents, exponents.foldl min first ≤ e := by
  induction exponents generalizing first with
  | nil => exact ⟨le_rfl, fun _ h => absurd h List.not_mem_nil⟩
  | cons e rest ih =>
    obtain ⟨hfirst, hrest⟩ := ih (min first e)
    refine ⟨hfirst.trans (min_le_left _ _), fun other hmem => ?_⟩
    rcases List.mem_cons.mp hmem with rfl | hmem
    · exact hfirst.trans (min_le_right _ _)
    · exact hrest other hmem

theorem value_sumExact (values : List Decimal) :
    (sumExact values).value = (values.map Decimal.value).sum := by
  have hsum : ∀ (common : Int) (values : List Decimal), (∀ d ∈ values, common ≤ d.exponent) →
      (((values.map fun d => d.coefficient * 10 ^ (d.exponent - common).toNat).sum : Nat) : ℚ) *
        (10 : ℚ) ^ common = (values.map Decimal.value).sum := by
    intro common values hcommon
    induction values with
    | nil => simp
    | cons d rest ih =>
      have hd := hcommon d List.mem_cons_self
      have hrest := ih fun e he => hcommon e (List.mem_cons_of_mem _ he)
      simp only [List.map_cons, List.sum_cons, Nat.cast_add, add_mul, hrest]
      congr 1
      have hnat : (10 : ℚ) ^ (d.exponent - common).toNat = (10 : ℚ) ^ (d.exponent - common) := by
        rw [← zpow_natCast, Int.toNat_of_nonneg (by omega)]
      rw [Decimal.value, Nat.cast_mul, Nat.cast_pow, Nat.cast_ofNat, hnat, mul_assoc,
        ← zpow_add₀ (by norm_num), Int.sub_add_cancel]
  unfold sumExact
  split
  · next h =>
    rw [List.map_eq_nil_iff.mp h]
    simp [Decimal.value]
  · next first rest h =>
    rw [value_decimalFromComponents]
    refine hsum _ values fun d hd => ?_
    have hmem : d.exponent ∈ first :: rest := h ▸ List.mem_map_of_mem hd
    rcases List.mem_cons.mp hmem with heq | hmem
    · rw [heq]
      exact (foldl_min_le rest first).1
    · exact (foldl_min_le rest first).2 _ hmem

end LocalMoe.Pricing
