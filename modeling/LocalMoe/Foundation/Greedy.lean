/-
  Filling a budget from the front of a list.
-/
import Mathlib.Algebra.BigOperators.Group.List.Basic
import Mathlib.Algebra.GroupWithZero.Nat
import Mathlib.Algebra.Order.Group.Nat

namespace LocalMoe.Foundation

variable {α : Type} (cost : α → Nat)

def totalCost (items : List α) : Nat := (items.map cost).sum

/-- The items in front, as long as the budget pays for the next one. -/
def takeFitting : Nat → List α → List α
  | _, [] => []
  | budget, item :: rest =>
    if cost item ≤ budget then item :: takeFitting (budget - cost item) rest else []

@[simp] theorem totalCost_nil : totalCost cost [] = 0 := rfl

@[simp] theorem totalCost_cons (item : α) (rest : List α) :
    totalCost cost (item :: rest) = cost item + totalCost cost rest := by
  simp [totalCost]

@[simp] theorem totalCost_reverse (items : List α) :
    totalCost cost items.reverse = totalCost cost items := by
  simp [totalCost, List.sum_reverse]

theorem takeFitting_isPrefix (budget : Nat) (items : List α) :
    takeFitting cost budget items <+: items := by
  induction items generalizing budget with
  | nil => exact List.nil_prefix
  | cons item rest ih =>
    rw [takeFitting]
    split
    · exact (List.prefix_cons_inj item).mpr (ih _)
    · exact List.nil_prefix

theorem totalCost_takeFitting_le (budget : Nat) (items : List α) :
    totalCost cost (takeFitting cost budget items) ≤ budget := by
  induction items generalizing budget with
  | nil => exact Nat.zero_le _
  | cons item rest ih =>
    rw [takeFitting]
    split
    · next hle =>
      have hrest := ih (budget - cost item)
      rw [totalCost_cons]
      omega
    · exact Nat.zero_le _

theorem length_le_takeFitting {budget : Nat} {front items : List α} (h : front <+: items)
    (hcost : totalCost cost front ≤ budget) :
    front.length ≤ (takeFitting cost budget items).length := by
  induction items generalizing budget front with
  | nil => rw [List.prefix_nil.mp h]; exact Nat.zero_le _
  | cons item rest ih =>
    cases front with
    | nil => exact Nat.zero_le _
    | cons first more =>
      obtain ⟨rfl, hmore⟩ := List.cons_prefix_cons.mp h
      rw [totalCost_cons] at hcost
      rw [takeFitting, if_pos (by omega)]
      exact Nat.succ_le_succ (ih hmore (by omega))

theorem takeFitting_eq_self_iff {budget : Nat} {items : List α} :
    takeFitting cost budget items = items ↔ totalCost cost items ≤ budget := by
  refine ⟨fun h => h ▸ totalCost_takeFitting_le cost budget items, fun hle => ?_⟩
  exact (takeFitting_isPrefix cost budget items).eq_of_length_le
    (length_le_takeFitting cost (List.prefix_refl _) hle)

end LocalMoe.Foundation
