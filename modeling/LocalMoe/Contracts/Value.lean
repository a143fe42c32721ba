/-
  The values that `json.loads` makes.

  A float is its number; what is no number stays apart.
-/
import Mathlib.Algebra.Group.Nat.Defs
import Mathlib.Data.Rat.Defs

namespace LocalMoe.Contracts

/-- A Python value read from JSON. -/
inductive Value where
  | none
  | bool (value : Bool)
  | int (value : Int)
  | float (value : ℚ)
  /-- An infinite float, or no number. -/
  | nonFinite
  | str (value : String)
  | list (items : List Value)
  | dict (entries : List (String × Value))
  deriving Inhabited

def Value.field (key : String) : List (String × Value) → Option Value
  | [] => Option.none
  | (name, value) :: rest => if name = key then some value else Value.field key rest

/-- An integer that no float can hold. -/
def overflows (n : Int) : Bool := 2 ^ 1024 - 2 ^ 970 ≤ n.natAbs

end LocalMoe.Contracts
