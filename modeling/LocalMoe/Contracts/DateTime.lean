/-
  UTC datetimes in whole seconds.

  A datetime is its civil fields, as in the source; the order compares them from the year down.
-/
import LocalMoe.Contracts.CanonicalJson
import Mathlib.Tactic.IntervalCases

namespace LocalMoe.Contracts

/-- A leap year of the Gregorian calendar. -/
def isLeap (year : Nat) : Bool := year % 4 == 0 && (year % 100 != 0 || year % 400 == 0)

def daysInMonth (year month : Nat) : Nat :=
  if month = 2 then if isLeap year then 29 else 28
  else if month = 4 ∨ month = 6 ∨ month = 9 ∨ month = 11 then 30
  else 31

structure CivilFields where
  year : Nat
  month : Nat
  day : Nat
  hour : Nat
  minute : Nat
  second : Nat
  deriving DecidableEq, Repr

/-- The ranges `datetime` enforces. -/
def CivilFields.Valid (f : CivilFields) : Prop :=
  (1 ≤ f.year ∧ f.year ≤ 9999) ∧ (1 ≤ f.month ∧ f.month ≤ 12) ∧
    (1 ≤ f.day ∧ f.day ≤ daysInMonth f.year f.month) ∧ f.hour < 24 ∧ f.minute < 60 ∧
    f.second < 60

instance (f : CivilFields) : Decidable f.Valid := inferInstanceAs (Decidable (_ ∧ _))

/-- A UTC `datetime` without microseconds. -/
structure DateTime extends CivilFields where
  valid : toCivilFields.Valid
  deriving DecidableEq, Repr

theorem daysInMonth_le (year month : Nat) : daysInMonth year month ≤ 31 := by
  unfold daysInMonth
  split
  · split <;> decide
  · split <;> decide

namespace DateTime

/-- The position of a datetime in the order of its fields. -/
def ordinal (d : DateTime) : Nat :=
  ((((d.year * 13 + d.month) * 32 + d.day) * 24 + d.hour) * 60 + d.minute) * 60 + d.second

/-! ## Rendering -/

/-- Two decimal digits. -/
def digits2 (n : Nat) : List Char := [hexDigit (n / 10 % 10), hexDigit (n % 10)]

/-- Four decimal digits. -/
def digits4 (n : Nat) : List Char := digits2 (n / 100) ++ digits2 (n % 100)

/-- The characters of `isoformat`. -/
def isoChars (f : CivilFields) : List Char :=
  digits4 f.year ++ '-' :: (digits2 f.month ++ '-' :: (digits2 f.day ++ 'T' ::
    (digits2 f.hour ++ ':' :: (digits2 f.minute ++ ':' :: (digits2 f.second ++
      ['+', '0', '0', ':', '0', '0'])))))

def isoformat (d : DateTime) : String := String.ofList (isoChars d.toCivilFields)

/-! ## Reading -/

def digitValue (c : Char) : Option Nat :=
  if '0' ≤ c ∧ c ≤ '9' then some (c.toNat - 48) else none

/-- Two decimal digits. -/
def value2 (a b : Char) : Option Nat := do
  let high ← digitValue a
  let low ← digitValue b
  pure (high * 10 + low)

/-- Four decimal digits. -/
def value4 (a b c d : Char) : Option Nat := do
  let high ← value2 a b
  let low ← value2 c d
  pure (high * 100 + low)

/-- The civil fields in nineteen characters. -/
def readFields : List Char → Option CivilFields
  | [y1, y2, y3, y4, '-', m1, m2, '-', d1, d2, 'T', h1, h2, ':', n1, n2, ':', s1, s2] => do
    let year ← value4 y1 y2 y3 y4
    let month ← value2 m1 m2
    let day ← value2 d1 d2
    let hour ← value2 h1 h2
    let minute ← value2 n1 n2
    let second ← value2 s1 s2
    pure ⟨year, month, day, hour, minute, second⟩
  | _ => none

/-- A datetime in the form `isoformat` writes, or with `Z` for the offset. -/
def readUtc (text : String) : Option DateTime :=
  let chars := text.toList
  let offset := chars.drop 19
  if offset = ['+', '0', '0', ':', '0', '0'] ∨ offset = ['Z'] then
    match readFields (chars.take 19) with
    | some f => if h : f.Valid then some ⟨f, h⟩ else none
    | none => none
  else none

theorem digitValue_hexDigit {n : Nat} (h : n < 10) : digitValue (hexDigit n) = some n := by
  interval_cases n <;> decide

theorem value2_digits2 {n : Nat} (h : n < 100) :
    value2 (hexDigit (n / 10 % 10)) (hexDigit (n % 10)) = some n := by
  unfold value2
  rw [digitValue_hexDigit (Nat.mod_lt _ (by decide)),
    digitValue_hexDigit (Nat.mod_lt _ (by decide))]
  simp only [Option.bind_eq_bind, Option.bind_some, Option.pure_def, Option.some.injEq]
  omega

theorem readFields_isoChars {f : CivilFields} (h : f.Valid) :
    readFields ((isoChars f).take 19) = some f := by
  obtain ⟨⟨-, hy⟩, ⟨-, hm⟩, ⟨-, hd⟩, hh, hn, hs⟩ := h
  have hd' := daysInMonth_le f.year f.month
  simp only [isoChars, digits4, digits2, List.cons_append, List.nil_append, List.take_succ_cons,
    List.take_zero, readFields, value4]
  rw [value2_digits2 (by omega), value2_digits2 (by omega), value2_digits2 (by omega),
    value2_digits2 (by omega), value2_digits2 (by omega), value2_digits2 (by omega),
    value2_digits2 (by omega)]
  simp only [Option.bind_eq_bind, Option.bind_some, Option.pure_def, Option.some.injEq]
  rw [Nat.div_add_mod']

theorem readUtc_isoformat (d : DateTime) : readUtc d.isoformat = some d := by
  have hoffset : (isoChars d.toCivilFields).drop 19 = ['+', '0', '0', ':', '0', '0'] := rfl
  unfold readUtc isoformat
  rw [String.toList_ofList, if_pos (.inl hoffset), readFields_isoChars d.valid]
  exact dif_pos d.valid

end DateTime

end LocalMoe.Contracts
