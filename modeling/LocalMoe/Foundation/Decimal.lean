/-
  Finite decimals and their plain notation.

  A decimal is a coefficient and an exponent, as `as_tuple` shows it; several pairs denote one
  number.
-/
import Mathlib.Data.List.DropRight
import Mathlib.Algebra.Order.Field.Basic
import Mathlib.Tactic.FieldSimp
import Mathlib.Tactic.Ring

namespace LocalMoe.Foundation

/-- A finite decimal that is not negative. -/
structure Decimal where
  coefficient : Nat
  exponent : Int
  deriving DecidableEq, Repr

namespace Decimal

/-- The number that a decimal denotes. -/
def value (d : Decimal) : ℚ := d.coefficient * (10 : ℚ) ^ d.exponent

/-! ## Plain notation -/

/-- So many digits of a number, from the last. -/
def fixedDigits : Nat → Nat → List Char
  | 0, _ => []
  | places + 1, n => fixedDigits places (n / 10) ++ [Nat.digitChar (n % 10)]

/-- A number of so many units of `10 ^ -places`. -/
def plain (units places : Nat) : List Char :=
  if places = 0 then Nat.toDigits 10 units
  else Nat.toDigits 10 (units / 10 ^ places) ++ '.' :: fixedDigits places (units % 10 ^ places)

def format (d : Decimal) : List Char :=
  match d.exponent with
  | .ofNat zeros => plain (d.coefficient * 10 ^ zeros) 0
  | .negSucc places => plain d.coefficient (places + 1)

/-- The fewest places that hold the number. -/
def reduce : Nat → Nat → Nat × Nat
  | units, 0 => (units, 0)
  | units, places + 1 => if units % 10 = 0 then reduce (units / 10) places else (units, places + 1)

/-- The units and the places of a decimal in plain notation. -/
def normal (d : Decimal) : Nat × Nat :=
  match d.exponent with
  | .ofNat zeros => (d.coefficient * 10 ^ zeros, 0)
  | .negSucc places => reduce d.coefficient (places + 1)

/-- No zero ends the fraction. -/
def Reduced (n : Nat × Nat) : Prop := n.2 = 0 ∨ n.1 % 10 ≠ 0

variable (units places : Nat)

theorem reduced_reduce : Reduced (reduce units places) := by
  induction places generalizing units with
  | zero => exact .inl rfl
  | succ places ih =>
    unfold reduce
    split
    · exact ih _
    · next h => exact .inr h

theorem reduced_normal (d : Decimal) : Reduced d.normal := by
  unfold normal
  split
  · exact .inl rfl
  · exact reduced_reduce _ _

theorem reduce_of_reduced {units places : Nat} (h : Reduced (units, places)) :
    reduce units places = (units, places) := by
  cases places with
  | zero => rfl
  | succ places =>
    have hlast : units % 10 ≠ 0 := h.resolve_left (by simp)
    rw [reduce, if_neg hlast]

theorem reduce_le : (reduce units places).1 ≤ units ∧ (reduce units places).2 ≤ places := by
  induction places generalizing units with
  | zero => exact ⟨Nat.le_refl _, Nat.le_refl _⟩
  | succ places ih =>
    unfold reduce
    split
    · obtain ⟨hunits, hplaces⟩ := ih (units / 10)
      exact ⟨hunits.trans (Nat.div_le_self _ _), hplaces.trans (Nat.le_succ _)⟩
    · exact ⟨Nat.le_refl _, Nat.le_refl _⟩

theorem normal_of_reduced {units places : Nat} (h : Reduced (units, places)) :
    normal ⟨units, -places⟩ = (units, places) := by
  cases places with
  | zero => simp only [normal, Nat.cast_zero, neg_zero, pow_zero, mul_one]
  | succ places => exact reduce_of_reduced h

/-! ## Values -/

theorem value_reduce :
    ((reduce units places).1 : ℚ) / 10 ^ (reduce units places).2 = units / 10 ^ places := by
  induction places generalizing units with
  | zero => rfl
  | succ places ih =>
    unfold reduce
    split
    · next h =>
      have hunits : units = units / 10 * 10 := by omega
      rw [ih]
      conv_rhs => rw [hunits, Nat.cast_mul, pow_succ]
      rw [Nat.cast_ofNat, mul_div_mul_right _ _ (by norm_num)]
    · rfl

theorem value_normal (d : Decimal) : (d.normal.1 : ℚ) / 10 ^ d.normal.2 = d.value := by
  obtain ⟨coefficient, exponent⟩ := d
  cases exponent with
  | ofNat zeros =>
    simp only [normal, value, pow_zero, div_one, Nat.cast_mul, Nat.cast_pow, Nat.cast_ofNat,
      Int.ofNat_eq_natCast, zpow_natCast]
  | negSucc places =>
    simp only [normal, value, value_reduce, zpow_negSucc]
    rw [div_eq_mul_inv]

theorem eq_of_reduced {m n : Nat × Nat} (hm : Reduced m) (hn : Reduced n)
    (h : (m.1 : ℚ) / 10 ^ m.2 = n.1 / 10 ^ n.2) : m = n := by
  have hle : ∀ {m n : Nat × Nat}, Reduced m → Reduced n →
      (m.1 : ℚ) / 10 ^ m.2 = n.1 / 10 ^ n.2 → m.2 ≤ n.2 → m = n := by
    intro m n hm hn h hplaces
    obtain ⟨more, hmore⟩ := Nat.exists_eq_add_of_le hplaces
    have hpos : (10 : ℚ) ^ m.2 ≠ 0 := pow_ne_zero _ (by norm_num)
    have hpos' : (10 : ℚ) ^ more ≠ 0 := pow_ne_zero _ (by norm_num)
    have hunits : m.1 * 10 ^ more = n.1 := by
      rw [hmore, pow_add] at h
      field_simp at h
      exact_mod_cast h
    cases more with
    | zero =>
      rw [pow_zero, mul_one] at hunits
      exact Prod.ext hunits hmore.symm
    | succ more =>
      have hlast : n.1 % 10 ≠ 0 := hn.resolve_left (by omega)
      rw [← hunits, pow_succ, ← mul_assoc, Nat.mul_mod_left] at hlast
      exact absurd rfl hlast
  rcases Nat.le_total m.2 n.2 with hplaces | hplaces
  · exact hle hm hn h hplaces
  · exact (hle hn hm h.symm hplaces).symm

/-! ## Digits -/

theorem length_fixedDigits (n : Nat) : (fixedDigits places n).length = places := by
  induction places generalizing n with
  | zero => rfl
  | succ places ih => rw [fixedDigits, List.length_append, ih, List.length_singleton]

theorem isDigit_of_mem_fixedDigits {places n : Nat} {c : Char} (h : c ∈ fixedDigits places n) :
    c.isDigit = true := by
  induction places generalizing n with
  | zero => cases h
  | succ places ih =>
    rcases List.mem_append.mp h with h | h
    · exact ih h
    · rw [List.mem_singleton.mp h, Nat.isDigit_digitChar, decide_eq_true_eq]
      exact Nat.mod_lt _ (by decide)

theorem isDigit_of_mem_toDigits {n : Nat} {c : Char} (h : c ∈ Nat.toDigits 10 n) :
    c.isDigit = true := Nat.isDigit_of_mem_toDigits (by decide) (by decide) h

theorem ofDigitChars_fixedDigits (n init : Nat) :
    Nat.ofDigitChars 10 (fixedDigits places n) init = 10 ^ places * init + n % 10 ^ places := by
  induction places generalizing n with
  | zero => simp [fixedDigits, Nat.mod_one]
  | succ places ih =>
    have hlast : n % 10 < 10 := Nat.mod_lt _ (by decide)
    rw [fixedDigits, Nat.ofDigitChars_append, ih,
      Nat.ofDigitChars_cons_digitChar_of_lt_ten hlast, Nat.ofDigitChars_nil, pow_succ,
      Nat.mul_comm (10 ^ places) 10, Nat.mod_mul]
    ring

theorem digitChar_ne {n : Nat} (hn : n < 10) (hpos : n ≠ 0) :
    (Nat.digitChar n == '0') = false ∧ (Nat.digitChar n == '.') = false := by
  have hall : ∀ m < 10, m ≠ 0 →
      (Nat.digitChar m == '0') = false ∧ (Nat.digitChar m == '.') = false := by decide
  exact hall n hn hpos

theorem point_not_digit {c : Char} (h : c.isDigit = true) : (c == '.') = false := by
  rw [beq_eq_false_iff_ne]
  rintro rfl
  exact absurd h (by decide)

theorem strip_fraction : ((Nat.toDigits 10 (units / 10 ^ places) ++
      '.' :: fixedDigits places (units % 10 ^ places)).rdropWhile (· == '0')).rdropWhile
        (· == '.') = plain (reduce units places).1 (reduce units places).2 := by
  induction places generalizing units with
  | zero =>
    have hself : (Nat.toDigits 10 units).rdropWhile (· == '.') = Nat.toDigits 10 units := by
      rw [List.rdropWhile_eq_self_iff]
      intro hne
      rw [point_not_digit (isDigit_of_mem_toDigits (List.getLast_mem hne))]
      exact Bool.false_ne_true
    rw [pow_zero, Nat.div_one, fixedDigits, List.rdropWhile_concat_neg _ _ _ (by decide),
      List.rdropWhile_concat_pos _ _ _ (by decide), hself]
    rfl
  | succ places ih =>
    have hwhole : units / 10 ^ (places + 1) = units / 10 / 10 ^ places := by
      rw [pow_succ', Nat.div_div_eq_div_mul]
    have hlast : units % 10 ^ (places + 1) % 10 = units % 10 :=
      Nat.mod_mod_of_dvd _ (Dvd.intro_left (10 ^ places) rfl)
    have hfirst : units % 10 ^ (places + 1) / 10 = units / 10 % 10 ^ places := by
      rw [pow_succ', Nat.mod_mul_right_div_self]
    have hsplit : Nat.toDigits 10 (units / 10 ^ (places + 1)) ++
        '.' :: fixedDigits (places + 1) (units % 10 ^ (places + 1)) =
        (Nat.toDigits 10 (units / 10 / 10 ^ places) ++
          '.' :: fixedDigits places (units / 10 % 10 ^ places)) ++
            [Nat.digitChar (units % 10)] := by
      rw [fixedDigits, hwhole, hlast, hfirst, List.append_assoc, List.cons_append]
    by_cases hzero : units % 10 = 0
    · have hdigit : Nat.digitChar (units % 10) = '0' := by rw [hzero]; rfl
      rw [hsplit, List.rdropWhile_concat_pos _ _ _ (by rw [hdigit]; rfl), ih, reduce, if_pos hzero]
    · obtain ⟨hnotZero, hnotPoint⟩ := digitChar_ne (Nat.mod_lt units (by decide)) hzero
      rw [hsplit, List.rdropWhile_concat_neg _ _ _ (by rw [hnotZero]; decide),
        List.rdropWhile_concat_neg _ _ _ (by rw [hnotPoint]; decide), ← hsplit, reduce,
        if_neg hzero]
      rfl

/-! ## Reading -/

/-- A sign, if there is one. -/
def splitSign : List Char → Bool × List Char
  | '-' :: rest => (true, rest)
  | '+' :: rest => (false, rest)
  | rest => (false, rest)

/-- An exponent, if there is one. -/
def readExponent : List Char → Option Int
  | [] => some 0
  | c :: rest =>
    if c = 'e' ∨ c = 'E' then
      let signed := splitSign rest
      if signed.2 ≠ [] ∧ signed.2.all Char.isDigit = true then
        let size : Int := Nat.ofDigitChars 10 signed.2 0
        some (if signed.1 then -size else size)
      else none
    else none

/-- Digits, a point with further digits, and an exponent. -/
def readNumber (chars : List Char) : Option Decimal :=
  let whole := chars.takeWhile Char.isDigit
  match chars.dropWhile Char.isDigit with
  | '.' :: rest =>
    let fraction := rest.takeWhile Char.isDigit
    if whole ++ fraction = [] then none
    else (readExponent (rest.dropWhile Char.isDigit)).map fun exponent =>
      ⟨Nat.ofDigitChars 10 (whole ++ fraction) 0, exponent - fraction.length⟩
  | rest =>
    if whole = [] then none
    else (readExponent rest).map fun exponent => ⟨Nat.ofDigitChars 10 whole 0, exponent⟩

theorem takeWhile_digits {digits rest : List Char} (h : ∀ c ∈ digits, c.isDigit = true)
    (hrest : ∀ c ∈ rest.head?, c.isDigit = false) :
    (digits ++ rest).takeWhile Char.isDigit = digits ∧
      (digits ++ rest).dropWhile Char.isDigit = rest := by
  induction digits with
  | nil =>
    cases rest with
    | nil => exact ⟨rfl, rfl⟩
    | cons c rest =>
      have hc := hrest c rfl
      simp [hc]
  | cons c digits ih =>
    obtain ⟨htake, hdrop⟩ := ih fun d hd => h d (List.mem_cons_of_mem _ hd)
    have hc := h c List.mem_cons_self
    simp [hc, htake, hdrop]

theorem readNumber_plain : readNumber (plain units places) = some ⟨units, -places⟩ := by
  unfold plain
  by_cases hplaces : places = 0
  · obtain ⟨htake, hdrop⟩ := @takeWhile_digits (Nat.toDigits 10 units) []
      (fun c hc => isDigit_of_mem_toDigits hc) (by simp)
    rw [List.append_nil] at htake hdrop
    have hne : Nat.toDigits 10 units ≠ [] := Nat.toDigits_ne_nil
    rw [if_pos hplaces, hplaces]
    simp only [readNumber, htake, hdrop, if_neg hne, readExponent, Option.map_some,
      Nat.ofDigitChars_ten_toDigits]
    rfl
  · have hfraction : ∀ c ∈ fixedDigits places (units % 10 ^ places), c.isDigit = true :=
      fun c hc => isDigit_of_mem_fixedDigits hc
    obtain ⟨htake, hdrop⟩ := @takeWhile_digits (Nat.toDigits 10 (units / 10 ^ places))
      ('.' :: fixedDigits places (units % 10 ^ places)) (fun c hc => isDigit_of_mem_toDigits hc)
      (by simp)
    obtain ⟨htake', hdrop'⟩ := @takeWhile_digits (fixedDigits places (units % 10 ^ places)) []
      hfraction (by simp)
    rw [List.append_nil] at htake' hdrop'
    have hne : Nat.toDigits 10 (units / 10 ^ places) ++
        fixedDigits places (units % 10 ^ places) ≠ [] := by simp
    have hvalue : Nat.ofDigitChars 10 (Nat.toDigits 10 (units / 10 ^ places) ++
        fixedDigits places (units % 10 ^ places)) 0 = units := by
      rw [Nat.ofDigitChars_append, Nat.ofDigitChars_ten_toDigits, ofDigitChars_fixedDigits,
        Nat.mod_mod, Nat.div_add_mod]
    simp only [readNumber, if_neg hplaces, htake, hdrop, htake', hdrop', if_neg hne, readExponent,
      Option.map_some, hvalue, length_fixedDigits, zero_sub]

theorem head_plain : ∃ c rest, plain units places = c :: rest ∧ c.isDigit = true := by
  have hdigits : ∀ n tail, ∃ c rest, Nat.toDigits 10 n ++ tail = c :: rest ∧ c.isDigit = true := by
    intro n tail
    cases hn : Nat.toDigits 10 n with
    | nil => exact absurd hn Nat.toDigits_ne_nil
    | cons c rest =>
      refine ⟨c, rest ++ tail, rfl, isDigit_of_mem_toDigits (n := n) ?_⟩
      rw [hn]
      exact List.mem_cons_self
  unfold plain
  split
  · simpa using hdigits units []
  · exact hdigits _ _

theorem mem_plain {units places : Nat} {c : Char} (h : c ∈ plain units places) :
    c.isDigit = true ∨ c = '.' := by
  unfold plain at h
  split at h
  · exact .inl (isDigit_of_mem_toDigits h)
  · rcases List.mem_append.mp h with h | h
    · exact .inl (isDigit_of_mem_toDigits h)
    · rcases List.mem_cons.mp h with h | h
      · exact .inr h
      · exact .inl (isDigit_of_mem_fixedDigits h)

end Decimal

end LocalMoe.Foundation
