/-
  The values of a stored JSON document, up to Python's `==`.

  A truth value and a float are the number they equal; the entries of an object stand in the
  order of their keys, as in a canonical document.
-/
import Mathlib.Algebra.Order.Ring.Unbundled.Rat
import Mathlib.Data.List.Sort
import Mathlib.Data.String.Basic

namespace LocalMoe.Workspace

/-- A value. -/
inductive Datum where
  | none
  | num (value : ℚ)
  | text (value : String)
  | list (items : List Datum)
  | dict (entries : List (String × Datum))
  deriving Inhabited

namespace Datum

mutual

/-- `==`. -/
def same : Datum → Datum → Bool
  | .none, .none => true
  | .num a, .num b => a == b
  | .text a, .text b => a == b
  | .list as, .list bs => sameItems as bs
  | .dict as, .dict bs => sameEntries as bs
  | _, _ => false

def sameItems : List Datum → List Datum → Bool
  | [], [] => true
  | a :: as, b :: bs => same a b && sameItems as bs
  | _, _ => false

def sameEntries : List (String × Datum) → List (String × Datum) → Bool
  | [], [] => true
  | (k, a) :: as, (l, b) :: bs => k == l && same a b && sameEntries as bs
  | _, _ => false

end

mutual

theorem same_iff : ∀ a b : Datum, a.same b = true ↔ a = b
  | .none, b | .num _, b | .text _, b => by cases b <;> simp [same]
  | .list as, b => by cases b <;> simp [same, sameItems_iff as]
  | .dict as, b => by cases b <;> simp [same, sameEntries_iff as]

theorem sameItems_iff : ∀ as bs : List Datum, sameItems as bs = true ↔ as = bs
  | [], bs => by cases bs <;> simp [sameItems]
  | a :: as, bs => by cases bs <;> simp [sameItems, same_iff a, sameItems_iff as]

theorem sameEntries_iff : ∀ as bs : List (String × Datum), sameEntries as bs = true ↔ as = bs
  | [], bs => by cases bs <;> simp [sameEntries]
  | (k, a) :: as, bs => by
    cases bs with
    | nil => simp [sameEntries]
    | cons b bs => simp [sameEntries, same_iff a, sameEntries_iff as, Prod.ext_iff, and_assoc]

end

instance : DecidableEq Datum := fun a b => decidable_of_iff _ (same_iff a b)

/-- The value can be the key of a dictionary. -/
def hashable : Datum → Bool
  | .list _ | .dict _ => false
  | _ => true

/-- `isinstance(value, str)`. -/
def isText : Datum → Bool
  | .text _ => true
  | _ => false

/-! ## Sorting -/

/-- The kinds of values that `<` compares with each other. -/
def rank : Datum → Nat
  | .none => 0
  | .num _ => 1
  | .text _ => 2
  | .list _ => 3
  | .dict _ => 4

/-- The order within a kind. -/
def le (a b : Datum) : Bool :=
  match a, b with
  | .num a, .num b => a ≤ b
  | .text a, .text b => a ≤ b
  | a, b => rank a ≤ rank b

theorem le_or_le (a b : Datum) : a.le b = true ∨ b.le a = true := by
  cases a <;> cases b <;> simp [le, rank, le_total]

theorem le_chain {a b c : Datum} (h : a.le b = true) (h' : b.le c = true) : a.le c = true := by
  cases a <;> cases b <;> cases c <;> simp_all [le, rank] <;> exact h.trans h'

/-- `<` is defined between any two of the values, if there are two: they are all numbers or
all texts. -/
def sortable (values : List Datum) : Bool :=
  values.length ≤ 1 || values.all (·.rank = 1) || values.all (·.rank = 2)

end Datum

end LocalMoe.Workspace
