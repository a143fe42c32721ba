/-
  Dominance of vectors, the elements of a list that no other dominates, and the first of a list
  in the order of a key.
-/
import Mathlib.Data.List.Sort
import Mathlib.Data.Prod.Lex

namespace LocalMoe.Foundation.Pareto

/-! ## Vectors -/

section Vectors

variable {β : Type*} [LinearOrder β]

/-- The left vector is nowhere less than the right one, and somewhere greater. -/
def dominates (left right : List β) : Bool :=
  (left.zip right).all (fun p => decide (p.2 ≤ p.1)) &&
    (left.zip right).any fun p => decide (p.2 < p.1)

variable {left middle right : List β}

theorem dominates_iff : dominates left right = true ↔
    (∀ p ∈ left.zip right, p.2 ≤ p.1) ∧ ∃ p ∈ left.zip right, p.2 < p.1 := by
  unfold dominates
  rw [Bool.and_eq_true, List.all_eq_true, List.any_eq_true]
  simp only [decide_eq_true_eq]

theorem not_dominates_self : dominates left left = false := by
  rw [Bool.eq_false_iff]
  intro h
  obtain ⟨_, p, hp, hlt⟩ := dominates_iff.mp h
  have heq : p.1 = p.2 := by
    have hmap : ∀ l : List β, ∀ p ∈ l.zip l, p.1 = p.2 := by
      intro l
      induction l with
      | nil => exact fun p hp => by cases hp
      | cons x l ih => exact List.forall_mem_cons.mpr ⟨rfl, ih⟩
    exact hmap left p hp
  exact absurd heq.symm (ne_of_lt hlt)

theorem zip_le_trans (hlm : left.length = middle.length)
    (h₁ : ∀ p ∈ left.zip middle, p.2 ≤ p.1) (h₂ : ∀ p ∈ middle.zip right, p.2 ≤ p.1) :
    ∀ p ∈ left.zip right, p.2 ≤ p.1 := by
  induction left generalizing middle right with
  | nil => exact fun p hp => by cases hp
  | cons x left ih =>
    cases middle with
    | nil => cases hlm
    | cons y middle =>
      cases right with
      | nil => exact fun p hp => by cases hp
      | cons z right =>
        rw [List.zip_cons_cons, List.forall_mem_cons] at h₁ h₂ ⊢
        exact ⟨h₂.1.trans h₁.1, ih (Nat.succ.inj hlm) h₁.2 h₂.2⟩

theorem dominates_trans (hlm : left.length = middle.length) (hmr : middle.length = right.length)
    (h₁ : dominates left middle = true) (h₂ : dominates middle right = true) :
    dominates left right = true := by
  obtain ⟨hle₁, hlt₁⟩ := dominates_iff.mp h₁
  have hle₂ := (dominates_iff.mp h₂).1
  refine dominates_iff.mpr ⟨zip_le_trans hlm hle₁ hle₂, ?_⟩
  -- where the first vector is greater it stays greater
  clear h₁ h₂
  induction left generalizing middle right with
  | nil =>
    obtain ⟨p, hp, _⟩ := hlt₁
    cases hp
  | cons x left ih =>
    cases middle with
    | nil => cases hlm
    | cons y middle =>
      cases right with
      | nil => cases hmr
      | cons z right =>
        rw [List.zip_cons_cons] at hle₁ hle₂ hlt₁ ⊢
        rw [List.forall_mem_cons] at hle₁ hle₂
        rw [List.exists_mem_cons_iff] at hlt₁ ⊢
        rcases hlt₁ with hlt | hlt
        · exact .inl (lt_of_le_of_lt hle₂.1 hlt)
        · exact .inr (ih (Nat.succ.inj hlm) (Nat.succ.inj hmr) hle₁.2 hlt hle₂.2)

end Vectors

/-! ## Undominated elements -/

section Undominated

variable {α : Type*} {l : List α} {dom : α → α → Prop}

theorem countP_lt {p q : α → Bool} {a : α} (h : ∀ b ∈ l, p b = true → q b = true) (ha : a ∈ l)
    (hq : q a = true) (hp : ¬ p a = true) : l.countP p < l.countP q := by
  induction l with
  | nil => cases ha
  | cons b l ih =>
    obtain ⟨hb, hl⟩ := List.forall_mem_cons.mp h
    rcases List.mem_cons.mp ha with rfl | ha
    · rw [List.countP_cons_of_neg hp, List.countP_cons_of_pos hq]
      exact Nat.lt_succ_of_le (List.countP_mono_left hl)
    · have hlt := ih hl ha
      rw [List.countP_cons, List.countP_cons]
      by_cases hpb : p b = true
      · rw [if_pos hpb, if_pos (hb hpb)]
        omega
      · rw [if_neg hpb]
        split <;> omega

theorem exists_undominated (hirrefl : ∀ a ∈ l, ¬ dom a a)
    (htrans : ∀ a ∈ l, ∀ b ∈ l, ∀ c ∈ l, dom a b → dom b c → dom a c) {a b : α}
    (ha : a ∈ l) (hb : b ∈ l) (hab : dom b a) : ∃ c ∈ l, dom c a ∧ ∀ d ∈ l, ¬ dom d c := by
  classical
  -- on the number of elements that dominate the dominating one
  induction hn : l.countP (fun c => decide (dom c b)) using Nat.strong_induction_on
    generalizing b with
  | _ n ih =>
    by_cases hnone : ∀ d ∈ l, ¬ dom d b
    · exact ⟨b, hb, hab, hnone⟩
    · push Not at hnone
      obtain ⟨d, hd, hdb⟩ := hnone
      refine ih _ ?_ hd (htrans d hd b hb a ha hdb hab) rfl
      rw [← hn]
      refine countP_lt (fun c hc hcd => ?_) hd (decide_eq_true hdb) fun h => ?_
      · exact decide_eq_true (htrans c hc d hd b hb (of_decide_eq_true hcd) hdb)
      · exact hirrefl d hd (of_decide_eq_true h)

theorem undominated_max {β : Type*} [LinearOrder β] {s : α → β} (hirrefl : ∀ a ∈ l, ¬ dom a a)
    (htrans : ∀ a ∈ l, ∀ b ∈ l, ∀ c ∈ l, dom a b → dom b c → dom a c)
    (hscore : ∀ a ∈ l, ∀ b ∈ l, dom a b → s b ≤ s a) {b : α}
    (hbest : ∀ c ∈ l, (∀ d ∈ l, ¬ dom d c) → s c ≤ s b) {a : α} (ha : a ∈ l) : s a ≤ s b := by
  by_cases hfree : ∀ d ∈ l, ¬ dom d a
  · exact hbest a ha hfree
  · push Not at hfree
    obtain ⟨d, hd, hda⟩ := hfree
    obtain ⟨c, hc, hca, hundominated⟩ := exists_undominated hirrefl htrans ha hd hda
    exact (hscore c hc a ha hca).trans (hbest c hc hundominated)

end Undominated

/-! ## The first by a key -/

section First

variable {α κ : Type*} [LinearOrder κ]

/-- `sorted(items, key=key)[0]`. -/
def firstBy (key : α → κ) (items : List α) : Option α :=
  (items.insertionSort fun a b => key a ≤ key b).head?

theorem firstBy_spec {key : α → κ} {items : List α} {first : α}
    (h : firstBy key items = some first) : first ∈ items ∧ ∀ a ∈ items, key first ≤ key a := by
  have hperm := List.perm_insertionSort (fun a b => key a ≤ key b) items
  have hsorted : (items.insertionSort fun a b => key a ≤ key b).Pairwise
      fun a b => key a ≤ key b := by
    have : Std.Total fun a b : α => key a ≤ key b := ⟨fun a b => le_total (key a) (key b)⟩
    have : IsTrans α fun a b => key a ≤ key b := ⟨fun a b c hab hbc => le_trans hab hbc⟩
    exact List.pairwise_insertionSort _ items
  unfold firstBy at h
  obtain ⟨rest, hcons⟩ := List.head?_eq_some_iff.mp h
  rw [hcons] at hperm hsorted
  refine ⟨hperm.subset List.mem_cons_self, fun a ha => ?_⟩
  rcases List.mem_cons.mp (hperm.symm.subset ha) with rfl | hrest
  · exact le_rfl
  · exact (List.pairwise_cons.mp hsorted).1 a hrest

theorem firstBy_isSome (key : α → κ) {items : List α} (h : items ≠ []) :
    ∃ first, firstBy key items = some first := by
  unfold firstBy
  have hne : items.insertionSort (fun a b => key a ≤ key b) ≠ [] := by
    intro hnil
    have hlength := List.length_insertionSort (r := fun a b => key a ≤ key b) items
    rw [hnil] at hlength
    exact h (List.length_eq_zero_iff.mp hlength.symm)
  exact ⟨_, List.head?_eq_some_head hne⟩

end First

end LocalMoe.Foundation.Pareto
