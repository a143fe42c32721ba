/-
  Deterministic machines with inputs and outputs.

  A store that serialises its callers is a function from a state and one call to an outcome and
  a next state. Everything a scheduler, a crash or a collaborator may choose is part of the
  call, so "every interleaving" is "every list of inputs".
-/
import Mathlib.Data.List.Basic

namespace LocalMoe.Foundation

/-- A machine: what one input does to a state, and what the caller sees. -/
structure Machine (σ ι ο : Type*) where
  /-- The state before the first input. -/
  init : σ
  /-- One atomic step. -/
  step : σ → ι → ο × σ

namespace Machine

variable {σ ι ο : Type*} (M : Machine σ ι ο)

/-- The state after one input. -/
def next (s : σ) (i : ι) : σ := (M.step s i).2

/-- What the caller of one input sees. -/
def output (s : σ) (i : ι) : ο := (M.step s i).1

/-- The state after a list of inputs. -/
def exec : σ → List ι → σ := List.foldl M.next

@[simp] theorem exec_nil (s : σ) : M.exec s [] = s := rfl

@[simp] theorem exec_cons (s : σ) (i : ι) (is : List ι) :
    M.exec s (i :: is) = M.exec (M.next s i) is := rfl

theorem exec_append (s : σ) (is js : List ι) :
    M.exec s (is ++ js) = M.exec (M.exec s is) js := by
  simp [exec]

theorem exec_concat (s : σ) (is : List ι) (i : ι) :
    M.exec s (is ++ [i]) = M.next (M.exec s is) i := by
  simp [exec_append]

/-- A state some list of inputs leads to. -/
def Reachable (s : σ) : Prop := ∃ is : List ι, M.exec M.init is = s

theorem reachable_init : M.Reachable M.init := ⟨[], rfl⟩

theorem Reachable.exec {M : Machine σ ι ο} {s : σ} (h : M.Reachable s) (is : List ι) :
    M.Reachable (M.exec s is) := by
  obtain ⟨js, rfl⟩ := h
  exact ⟨js ++ is, M.exec_append _ _ _⟩

theorem Reachable.next {M : Machine σ ι ο} {s : σ} (h : M.Reachable s) (i : ι) :
    M.Reachable (M.next s i) := h.exec [i]

/-! ## Invariants and stable properties -/

/-- `P` survives every step. -/
def Stable (P : σ → Prop) : Prop := ∀ s i, P s → P (M.next s i)

variable {M}

variable {P : σ → Prop}

/-- Once a stable property holds, it holds after any further inputs. -/
theorem Stable.exec (hP : M.Stable P) {s : σ} (hs : P s) (is : List ι) : P (M.exec s is) := by
  induction is generalizing s with
  | nil => exact hs
  | cons i is ih => exact ih (hP s i hs)

/-- A stable property of the initial state holds in every reachable state. -/
theorem Stable.reachable (hP : M.Stable P) (h0 : P M.init) {s : σ} (hs : M.Reachable s) : P s := by
  obtain ⟨is, rfl⟩ := hs
  exact hP.exec h0 is

/-- A property preserved by every step taken from a reachable state may be proved
with the reachability of that state at hand. -/
theorem stable_and_reachable (hP : ∀ s i, M.Reachable s → P s → P (M.next s i)) :
    M.Stable fun s => M.Reachable s ∧ P s :=
  fun s i h => ⟨h.1.next i, hP s i h.1 h.2⟩

/-- A property that every step keeps unless the step is an exception `Q` holds until the
first exception of a run. -/
theorem exec_until {I : σ → Prop} {Q : σ → ι → Prop} (hI : M.Stable I)
    (hstep : ∀ s i, I s → P s → P (M.next s i) ∨ Q s i) {s : σ} (hs : I s) (hP : P s)
    (is : List ι) : P (M.exec s is) ∨ ∃ before i after, is = before ++ i :: after ∧
      P (M.exec s before) ∧ Q (M.exec s before) i := by
  induction is generalizing s with
  | nil => exact .inl hP
  | cons i rest ih =>
    rcases hstep s i hs hP with hnext | hexception
    · rcases ih (hI s i hs) hnext with hend | ⟨before, j, after, rfl, hbefore, hj⟩
      · exact .inl hend
      · exact .inr ⟨i :: before, j, after, rfl, hbefore, hj⟩
    · exact .inr ⟨[], i, rest, rfl, hP, hexception⟩

/-! ## Runs whose inputs are restricted -/

/-- Every input of the run satisfies `C` in the state it is taken from. -/
def Admits (M : Machine σ ι ο) (C : σ → ι → Prop) : σ → List ι → Prop
  | _, [] => True
  | s, i :: is => C s i ∧ M.Admits C (M.next s i) is

instance decidableAdmits (C : σ → ι → Prop) [∀ s i, Decidable (C s i)] :
    (s : σ) → (is : List ι) → Decidable (M.Admits C s is)
  | _, [] => isTrue trivial
  | s, i :: is =>
    have := decidableAdmits C (M.next s i) is
    inferInstanceAs (Decidable (C s i ∧ M.Admits C (M.next s i) is))

variable (C : σ → ι → Prop)

@[simp] theorem admits_nil (s : σ) : M.Admits C s [] := trivial

@[simp] theorem admits_cons (s : σ) (i : ι) (is : List ι) :
    M.Admits C s (i :: is) ↔ C s i ∧ M.Admits C (M.next s i) is := Iff.rfl

theorem admits_append (s : σ) (is js : List ι) :
    M.Admits C s (is ++ js) ↔ M.Admits C s is ∧ M.Admits C (M.exec s is) js := by
  induction is generalizing s with
  | nil => simp
  | cons i is ih => simp [ih, and_assoc]

/-- A property preserved by the admitted steps holds at the end of an admitted run. -/
theorem Admits.exec {C : σ → ι → Prop} (hP : ∀ s i, C s i → P s → P (M.next s i)) {s : σ}
    {is : List ι} (h : M.Admits C s is) (hs : P s) : P (M.exec s is) := by
  induction is generalizing s with
  | nil => exact hs
  | cons i is ih => exact ih h.2 (hP s i h.1 hs)

end Machine

end LocalMoe.Foundation
