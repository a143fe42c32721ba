/-
  Grids laid out row by row, alternation, and percentiles.
-/
import Mathlib.Algebra.BigOperators.Ring.List
import Mathlib.Algebra.Order.Ring.Int
import Mathlib.Data.List.Sort
import Mathlib.Tactic.Ring

namespace LocalMoe.Foundation

universe u v

variable {α : Type u} {β : Type v}

/-! ## Numbering a grid -/

theorem range_grid (rows columns : Nat) :
    ((List.range rows).flatMap fun i => (List.range columns).map fun j => i * columns + j) =
      List.range (rows * columns) := by
  induction rows with
  | zero => simp
  | succ n ih =>
    rw [List.range_succ, List.flatMap_append, ih, Nat.succ_mul, List.range_add]
    simp

variable {l : List α}

theorem map_idxOf_self [BEq α] [LawfulBEq α] (h : l.Nodup) :
    l.map (fun a => l.idxOf a) = List.range l.length := by
  apply List.ext_getElem
  · simp
  · intro i hi _
    rw [List.getElem_map, List.getElem_range]
    exact h.idxOf_getElem i _

theorem eq_of_map_eq {f : α → β} {l' pool : List α} (hpool : (pool.map f).Nodup)
    (hl : ∀ a ∈ l, a ∈ pool) (hl' : ∀ a ∈ l', a ∈ pool) (h : l.map f = l'.map f) : l = l' := by
  induction l generalizing l' with
  | nil => exact (List.map_eq_nil_iff.mp h.symm).symm
  | cons a rest ih =>
    cases l' with
    | nil => cases h
    | cons b rest' =>
      obtain ⟨hab, hrest⟩ := List.cons.inj h
      have heq : a = b := List.inj_on_of_nodup_map hpool
        (hl a List.mem_cons_self) (hl' b List.mem_cons_self) hab
      rw [heq, ih (fun x hx => hl x (List.mem_cons_of_mem _ hx))
        (fun x hx => hl' x (List.mem_cons_of_mem _ hx)) hrest]

/-! ## Alternation -/

/-- `1` on even numbers and `-1` on odd ones. -/
def sign (n : Nat) : Int := if n % 2 = 0 then 1 else -1

theorem sign_add (m n : Nat) : sign (m + n) = sign m * sign n := by
  unfold sign
  rcases Nat.mod_two_eq_zero_or_one m with hm | hm <;>
    rcases Nat.mod_two_eq_zero_or_one n with hn | hn <;>
    simp [Nat.add_mod, hm, hn]

theorem sum_sign_range (n : Nat) : ((List.range n).map sign).sum = if n % 2 = 0 then 0 else 1 := by
  induction n with
  | zero => rfl
  | succ n ih =>
    rw [List.range_succ, List.map_append, List.sum_append, ih, List.map_singleton,
      List.sum_singleton]
    unfold sign
    rcases Nat.mod_two_eq_zero_or_one n with hn | hn <;> simp [Nat.add_mod, hn]

theorem count_sub_count_eq_sum (l : List Nat) :
    (l.countP (fun n => n % 2 = 0) : Int) - l.countP (fun n => ¬ n % 2 = 0) = (l.map sign).sum := by
  induction l with
  | nil => rfl
  | cons n rest ih =>
    rw [List.map_cons, List.sum_cons, ← ih, List.countP_cons, List.countP_cons]
    unfold sign
    by_cases h : n % 2 = 0 <;> simp [h] <;> ring

theorem sum_sign_grid (start rows columns : Nat) :
    |(((List.range rows).flatMap fun i =>
      (List.range columns).map fun j => start + i + j).map sign).sum| ≤ 1 := by
  have hrow (i : Nat) : (((List.range columns).map fun j => start + i + j).map sign).sum =
      sign start * (sign i * ((List.range columns).map sign).sum) := by
    rw [List.map_map, ← List.sum_map_mul_left, ← List.sum_map_mul_left]
    congr 1
    refine List.map_congr_left fun j _ => ?_
    rw [Function.comp_apply, sign_add, sign_add, mul_assoc]
  have hall : (((List.range rows).flatMap fun i =>
      (List.range columns).map fun j => start + i + j).map sign).sum =
      sign start * (((List.range rows).map sign).sum * ((List.range columns).map sign).sum) := by
    rw [List.map_flatMap]
    induction rows with
    | zero => simp
    | succ n ih =>
      rw [List.range_succ, List.flatMap_append, List.sum_append, ih, List.map_append,
        List.sum_append, List.flatMap_singleton, hrow, List.map_singleton, List.sum_singleton]
      ring
  rw [hall, sum_sign_range, sum_sign_range]
  unfold sign
  split <;> split <;> split <;> decide

/-! ## Percentiles -/

section Percentile

variable [LinearOrder α]

/-- A nearest-rank percentile: an entry that the share `part / whole` of the entries does
not exceed, with a smaller share below it. -/
structure NearestRank (part whole : Nat) (values : List α) (x : α) : Prop where
  mem : x ∈ values
  covers : part * values.length ≤ whole * values.countP (· ≤ x)
  least : whole * values.countP (· < x) < part * values.length

theorem NearestRank.perm {part whole : Nat} {l' : List α} {x : α} (hperm : l.Perm l')
    (h : NearestRank part whole l x) : NearestRank part whole l' x where
  mem := hperm.mem_iff.mp h.mem
  covers := by rw [← hperm.length_eq, ← hperm.countP_eq]; exact h.covers
  least := by rw [← hperm.length_eq, ← hperm.countP_eq]; exact h.least

theorem le_countP_le (h : l.Pairwise (· ≤ ·)) {r : Nat} (hr : r < l.length) :
    r + 1 ≤ l.countP (· ≤ l[r]) := by
  have htake : (l.take (r + 1)).countP (· ≤ l[r]) = (l.take (r + 1)).length := by
    refine List.countP_eq_length.mpr fun a ha => decide_eq_true ?_
    obtain ⟨i, hi, rfl⟩ := List.mem_iff_getElem.mp ha
    rw [List.getElem_take]
    rw [List.length_take] at hi
    rcases Nat.lt_or_ge i r with hlt | hge
    · exact List.pairwise_iff_getElem.mp h i r (by omega) hr hlt
    · have heq : i = r := by omega
      subst heq
      exact le_rfl
  have hsplit := congrArg (List.countP (fun a => decide (a ≤ l[r])))
    (List.take_append_drop (r + 1) l)
  rw [List.countP_append, htake, List.length_take] at hsplit
  omega

theorem countP_lt_le (h : l.Pairwise (· ≤ ·)) {r : Nat} (hr : r < l.length) :
    l.countP (· < l[r]) ≤ r := by
  have hdrop : (l.drop r).countP (· < l[r]) = 0 := by
    refine List.countP_eq_zero.mpr fun a ha => ?_
    obtain ⟨i, hi, rfl⟩ := List.mem_iff_getElem.mp ha
    rw [List.getElem_drop, decide_eq_true_eq, not_lt]
    rcases Nat.eq_zero_or_pos i with rfl | hpos
    · exact le_rfl
    · exact List.pairwise_iff_getElem.mp h r (r + i) hr _ (by omega)
  have hsplit := congrArg (List.countP (fun a => decide (a < l[r]))) (List.take_append_drop r l)
  have htake : (l.take r).countP (· < l[r]) ≤ (l.take r).length := List.countP_le_length
  rw [List.countP_append, hdrop] at hsplit
  rw [List.length_take] at htake
  omega

theorem nearestRank_of_sorted {part whole : Nat} (h : l.Pairwise (· ≤ ·)) {r : Nat}
    (hr : r < l.length) (hcovers : part * l.length ≤ whole * (r + 1))
    (hleast : whole * r < part * l.length) : NearestRank part whole l l[r] where
  mem := List.getElem_mem hr
  covers := hcovers.trans (Nat.mul_le_mul_left _ (le_countP_le h hr))
  least := (Nat.mul_le_mul_left _ (countP_lt_le h hr)).trans_lt hleast

end Percentile

end LocalMoe.Foundation
