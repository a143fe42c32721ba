/-
  Replacing every occurrence of a word in a list, from left to right and without overlaps.
-/
import Mathlib.Data.List.Infix

namespace LocalMoe.Foundation.Substitute

variable {α : Type*} [DecidableEq α]

/-- The list with every occurrence of `old` replaced, once `skip` elements of an occurrence
that has been replaced are passed over. -/
def replaceFrom (old new : List α) : Nat → List α → List α
  | _, [] => []
  | skip + 1, _ :: rest => replaceFrom old new skip rest
  | 0, c :: rest =>
    if old <+: c :: rest then new ++ replaceFrom old new (old.length - 1) rest
    else c :: replaceFrom old new 0 rest

/-- The list with every occurrence of the word `old`, which is not empty, replaced. -/
def replaceAll (old new s : List α) : List α := replaceFrom old new 0 s

variable {old new s t : List α} {c : α}

@[simp] theorem replaceAll_nil : replaceAll old new [] = [] := rfl

theorem replaceFrom_eq_drop (skip : Nat) :
    replaceFrom old new skip s = replaceAll old new (s.drop skip) := by
  induction s generalizing skip with
  | nil =>
    rw [List.drop_nil]
    cases skip <;> rfl
  | cons c rest ih =>
    cases skip with
    | zero => rfl
    | succ skip => exact ih skip

theorem replaceAll_append (hold : old ≠ []) :
    replaceAll old new (old ++ s) = new ++ replaceAll old new s := by
  obtain ⟨c, rest, rfl⟩ := List.exists_cons_of_ne_nil hold
  have hhead : c :: rest <+: c :: (rest ++ s) := ⟨s, rfl⟩
  rw [List.cons_append, replaceAll, replaceFrom, if_pos hhead, replaceFrom_eq_drop]
  rw [List.length_cons, Nat.add_sub_cancel, List.drop_left]

theorem replaceAll_cons (h : ¬ old <+: c :: s) :
    replaceAll old new (c :: s) = c :: replaceAll old new s := by
  rw [replaceAll, replaceFrom, if_neg h]
  rfl

theorem replaceAll_keep (h : ∀ u v, s = u ++ v → v ≠ [] → ¬ old <+: v ++ t) :
    replaceAll old new (s ++ t) = s ++ replaceAll old new t := by
  induction s with
  | nil => rfl
  | cons c rest ih =>
    rw [List.cons_append, List.cons_append, replaceAll_cons, ih]
    · intro u v heq hv
      exact h (c :: u) v (by rw [heq]; rfl) hv
    · exact h [] (c :: rest) rfl (List.cons_ne_nil _ _)

theorem replaceAll_eq_self (h : ¬ old <:+: s) : replaceAll old new s = s := by
  have hkeep : replaceAll old new (s ++ []) = s ++ replaceAll old new [] := by
    apply replaceAll_keep
    intro u v heq _ hstarts
    rw [List.append_nil] at hstarts
    exact h (heq ▸ hstarts.isInfix.trans (List.suffix_append u v).isInfix)
  rwa [List.append_nil, replaceAll_nil, List.append_nil] at hkeep

omit [DecidableEq α] in
theorem prefix_before (hc : c ∉ old) (h : old <+: s ++ c :: t) : old <+: s := by
  have hmarked : s ++ [c] <+: s ++ c :: t := ⟨t, by rw [List.append_assoc]; rfl⟩
  rcases List.prefix_or_prefix_of_prefix h hmarked with hold | hlong
  · rcases List.prefix_concat_iff.mp hold with heq | hold
    · exact absurd (heq ▸ List.mem_append_right s List.mem_cons_self) hc
    · exact hold
  · exact absurd (hlong.subset (List.mem_append_right s List.mem_cons_self)) hc

theorem replaceAll_boundary (hold : old ≠ []) (hc : c ∉ old) :
    replaceAll old new (s ++ c :: t) = replaceAll old new s ++ c :: replaceAll old new t := by
  induction hlength : s.length using Nat.strong_induction_on generalizing s with
  | _ n ih =>
    cases s with
    | nil =>
      refine replaceAll_cons fun h => ?_
      exact hold (List.prefix_nil.mp (prefix_before hc h))
    | cons d rest =>
      by_cases hhead : old <+: d :: rest
      · obtain ⟨u, hu⟩ := hhead
        have hshort : u.length < n := by
          have hpos := List.length_pos_iff.mpr hold
          have := congrArg List.length hu
          rw [List.length_append] at this
          omega
        rw [← hu, List.append_assoc, replaceAll_append hold, replaceAll_append hold,
          ih u.length hshort rfl, List.append_assoc]
      · have hlater : ¬ old <+: d :: (rest ++ c :: t) := fun h => hhead (prefix_before hc h)
        rw [List.cons_append, replaceAll_cons hlater, replaceAll_cons hhead,
          ih rest.length (by rw [← hlength]; exact Nat.lt_succ_self _) rfl]
        rfl

end LocalMoe.Foundation.Substitute
