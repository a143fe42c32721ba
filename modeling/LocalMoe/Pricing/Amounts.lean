/-
  `paired_execution_pricing.py`: decimal amounts of money, as they are read, checked, written
  and added.
-/
import LocalMoe.Contracts.VerifiedRouting
import LocalMoe.Foundation.Checked
import LocalMoe.Foundation.Decimal

namespace LocalMoe.Pricing

open Foundation Contracts

/-! ## Numbers of the interpreter -/

/-- The decimal digits of the interpreter's character tables. -/
structure Digits where
  /-- The value of a decimal digit of any script. -/
  decimal : Char → Option Nat
  ascii : ∀ c, c.toNat < 128 → decimal c = if c.isDigit then some (c.toNat - 48) else none

/-- A `Decimal`. -/
inductive Number where
  | finite (negative : Bool) (magnitude : Decimal)
  /-- An infinity, or no number. -/
  | special
  deriving DecidableEq, Repr

def toAscii (U : Digits) (c : Char) : Char :=
  match U.decimal c with
  | some n => Nat.digitChar n
  | none => c

/-- The digits of a `NaN` are its payload. -/
def isNan : List Char → Bool
  | 's' :: 'n' :: 'a' :: 'n' :: payload => payload.all Char.isDigit
  | 'n' :: 'a' :: 'n' :: payload => payload.all Char.isDigit
  | _ => false

/-- The names of the numbers that are not finite. -/
def isSpecial (chars : List Char) : Bool :=
  let lower := chars.map Char.toLower
  lower = "inf".toList || lower = "infinity".toList || isNan lower

def decimalOfText (U : Digits) (text : String) : Option Number :=
  let chars := ((strip text).toList.filter (· ≠ '_')).map (toAscii U)
  let signed := Decimal.splitSign chars
  if isSpecial signed.2 then some .special
  else (Decimal.readNumber signed.2).map (.finite signed.1)

/-- A value that is offered as an amount. -/
inductive Amount where
  | bool (value : Bool)
  | text (value : String)
  | int (value : Int)
  /-- A float, as the number that its text denotes. -/
  | float (value : Number)
  | decimal (value : Number)
  /-- A value of another type. -/
  | other

/-! ## Amounts as texts -/

def maxDecimalInputChars : Nat := 128

def maxDecimalSignificantDigits : Nat := 64

def maxDecimalAdjustedExponent : Nat := 72

def canonicalDecimal (value : Decimal) : String :=
  if value.coefficient = 0 then "0"
  else
    let rendered := value.format
    if rendered.contains '.' then
      String.ofList ((rendered.rdropWhile (· == '0')).rdropWhile (· == '.'))
    else String.ofList rendered

def digitCount (d : Decimal) : Nat := (Nat.toDigits 10 d.coefficient).length

def adjusted (d : Decimal) : Int := d.exponent + digitCount d - 1

/-- The value as a `Decimal`. -/
def numberOf (U : Digits) : Amount → Option Number
  | .text value => decimalOfText U value
  | .int value => some (.finite (value < 0) ⟨value.natAbs, 0⟩)
  | .float value => some value
  | .decimal value => some value
  | .bool _ => none
  | .other => none

/-- `isinstance(value, bool)`. -/
def isBool : Amount → Bool
  | .bool _ => true
  | _ => false

/-- The value is longer than any amount. -/
def oversized : Amount → Bool
  | .text value => maxDecimalInputChars < value.length
  | .int value => 2 ^ 384 ≤ value.natAbs
  | _ => false

def canonicalNonNegativeDecimal (U : Digits) (value : Amount) (label : String) :
    Except ContractError String := do
  check (isBool value = false) (⟨label ++ " must be numeric, not boolean."⟩ : ContractError)
  check (oversized value = false) (⟨label ++ " exceeds the supported precision."⟩ : ContractError)
  match numberOf U value with
  | none => .error ⟨label ++ " must be a decimal number."⟩
  | some .special => .error ⟨label ++ " must be finite."⟩
  | some (.finite negative magnitude) => do
    check (negative = false ∨ magnitude.coefficient = 0)
      (⟨label ++ " must be non-negative."⟩ : ContractError)
    check (magnitude.coefficient = 0 ∨ digitCount magnitude ≤ maxDecimalSignificantDigits ∧
      (adjusted magnitude).natAbs ≤ maxDecimalAdjustedExponent)
      (⟨label ++ " exceeds the supported magnitude or precision."⟩ : ContractError)
    return canonicalDecimal magnitude

/-! ## Exact sums -/

def decimalFromComponents (coefficient : Nat) (exponent : Int) : Decimal :=
  if coefficient = 0 then ⟨0, 0⟩ else ⟨coefficient, exponent⟩

def tokenCost (rate : Decimal) (tokens : Nat) : Decimal :=
  decimalFromComponents (rate.coefficient * tokens) (rate.exponent - 6)

def sumExact (values : List Decimal) : Decimal :=
  match values.map Decimal.exponent with
  | [] => ⟨0, 0⟩
  | first :: rest =>
    let common := rest.foldl min first
    decimalFromComponents
      (values.map fun d => d.coefficient * 10 ^ (d.exponent - common).toNat).sum common

/-! ## Canonical texts -/

theorem canonicalDecimal_eq (d : Decimal) :
    canonicalDecimal d = String.ofList (Decimal.plain d.normal.1 d.normal.2) := by
  obtain ⟨coefficient, exponent⟩ := d
  unfold canonicalDecimal
  by_cases hzero : coefficient = 0
  · have hreduce : ∀ places, Decimal.reduce 0 places = (0, 0) := by
      intro places
      induction places with
      | zero => rfl
      | succ places ih => exact ih
    have hnormal : Decimal.normal ⟨coefficient, exponent⟩ = (0, 0) := by
      subst hzero
      cases exponent with
      | ofNat zeros => simp only [Decimal.normal, Nat.zero_mul]
      | negSucc places => exact hreduce _
    rw [if_pos hzero, hnormal]
    rfl
  · rw [if_neg hzero]
    cases exponent with
    | ofNat zeros =>
      have hpoint : (Decimal.plain (coefficient * 10 ^ zeros) 0).contains '.' = false := by
        rw [List.contains_eq_mem, decide_eq_false_iff_not]
        intro hmem
        exact absurd (Decimal.isDigit_of_mem_toDigits hmem) (by decide)
      simp only [Decimal.format, Decimal.normal, hpoint, Bool.false_eq_true, if_false]
    | negSucc places =>
      have hpoint : (Decimal.plain coefficient (places + 1)).contains '.' = true := by
        rw [List.contains_eq_mem, decide_eq_true_eq]
        exact List.mem_append_right _ List.mem_cons_self
      simp only [Decimal.format, Decimal.normal, hpoint, if_true]
      exact congrArg String.ofList (Decimal.strip_fraction coefficient (places + 1))

theorem canonicalDecimal_congr {d e : Decimal} (h : d.value = e.value) :
    canonicalDecimal d = canonicalDecimal e := by
  rw [← Decimal.value_normal, ← Decimal.value_normal] at h
  rw [canonicalDecimal_eq, canonicalDecimal_eq,
    Decimal.eq_of_reduced (Decimal.reduced_normal d) (Decimal.reduced_normal e) h]

theorem toAscii_of_ascii (U : Digits) {c : Char} (h : c.isDigit = true ∨ c = '.') :
    toAscii U c = c := by
  rcases h with h | rfl
  · have hrange : 48 ≤ c.toNat ∧ c.toNat ≤ 57 := by
      simpa [Char.isDigit, UInt32.le_iff_toNat_le] using h
    have hdecimal : U.decimal c = some (c.toNat - 48) := by rw [U.ascii c (by omega), if_pos h]
    rw [toAscii, hdecimal]
    apply Char.toNat_inj.mp
    rw [Nat.toNat_digitChar_of_lt_ten (by omega)]
    omega
  · have hpoint : U.decimal '.' = none := by rw [U.ascii '.' (by decide), if_neg (by decide)]
    rw [toAscii, hpoint]

theorem isSpecial_of_digit {c : Char} (rest : List Char) (h : c.isDigit = true) :
    isSpecial (c :: rest) = false := by
  have hrange : 48 ≤ c.toNat ∧ c.toNat ≤ 57 := by
    simpa [Char.isDigit, UInt32.le_iff_toNat_le] using h
  have hlower : c.toLower = c := by
    have hcase : ¬('A'.toNat ≤ c.toNat ∧ c.toNat ≤ 'Z'.toNat) := by
      intro hc
      have hA : 65 ≤ c.toNat := hc.1
      omega
    unfold Char.toLower
    split
    · next hc => exact absurd ⟨hc.1, hc.2⟩ hcase
    · rfl
  have hletter : ∀ d : Char, 57 < d.toNat → c ≠ d := by
    rintro d hd rfl
    omega
  have hnan : isNan (c :: rest.map Char.toLower) = false := by
    unfold isNan
    split
    · next heq => exact absurd (List.cons.inj heq).1 (hletter 's' (by decide))
    · next heq => exact absurd (List.cons.inj heq).1 (hletter 'n' (by decide))
    · rfl
  have hname : ∀ name : List Char, c :: rest.map Char.toLower ≠ 'i' :: name :=
    fun name heq => hletter 'i' (by decide) (List.cons.inj heq).1
  simp only [isSpecial, List.map_cons, hlower, hnan, Bool.or_false, Bool.or_eq_false_iff,
    decide_eq_false_iff_not]
  exact ⟨hname _, hname _⟩

theorem decimalOfText_plain (U : Digits) (units places : Nat) :
    decimalOfText U (String.ofList (Decimal.plain units places)) =
      some (.finite false ⟨units, -places⟩) := by
  have hchar : ∀ c ∈ Decimal.plain units places, c.isDigit = true ∨ c = '.' :=
    fun c hc => Decimal.mem_plain hc
  have hrange : ∀ c : Char, c.isDigit = true ∨ c = '.' → c.toNat = 46 ∨ 48 ≤ c.toNat ∧ c.toNat ≤ 57 := by
    rintro c (h | rfl)
    · exact .inr (by simpa [Char.isDigit, UInt32.le_iff_toNat_le] using h)
    · exact .inl rfl
  have hstrip : strip (String.ofList (Decimal.plain units places)) =
      String.ofList (Decimal.plain units places) := by
    refine strip_eq_self fun c hc => ?_
    rw [String.toList_ofList] at hc
    have := hrange c (hchar c hc)
    simp only [isSpace, Bool.or_eq_false_iff, Bool.and_eq_false_iff, decide_eq_false_iff_not,
      beq_eq_false_iff_ne]
    omega
  have hunderscore : (Decimal.plain units places).filter (· ≠ '_') = Decimal.plain units places := by
    rw [List.filter_eq_self]
    intro c hc
    rw [decide_eq_true_eq]
    rintro rfl
    exact absurd (hrange _ (hchar _ hc)) (by decide)
  have hascii : (Decimal.plain units places).map (toAscii U) = Decimal.plain units places := by
    conv_rhs => rw [← List.map_id (Decimal.plain units places)]
    exact List.map_congr_left fun c hc => toAscii_of_ascii U (hchar c hc)
  have hread := Decimal.readNumber_plain units places
  obtain ⟨c, rest, hplain, hdigit⟩ := Decimal.head_plain units places
  have hcode := hrange c (.inl hdigit)
  have hsign : Decimal.splitSign (Decimal.plain units places) =
      (false, Decimal.plain units places) := by
    rw [hplain]
    unfold Decimal.splitSign
    split
    · next heq =>
      cases heq
      exact absurd hdigit (by decide)
    · next heq =>
      cases heq
      exact absurd hdigit (by decide)
    · rfl
  have hspecial : isSpecial (Decimal.plain units places) = false := by
    rw [hplain]
    exact isSpecial_of_digit rest hdigit
  simp only [decimalOfText, hstrip, String.toList_ofList, hunderscore, hascii, hsign, hspecial,
    hread, Bool.false_eq_true, if_false, Option.map_some]

end LocalMoe.Pricing
