/-
  Sequences of checks that stop at the first failure.

  A constructor that validates its arguments is a chain of guards in `Except`.
-/
import Mathlib.Logic.Basic

namespace LocalMoe.Foundation

universe u v

variable {ε : Type u} {α β : Type v}

/-- A guard: nothing when the condition holds, the given failure when it does not. -/
def check (ok : Prop) [Decidable ok] (failure : ε) : Except ε Unit :=
  if ok then .ok () else .error failure

variable {ok : Prop}

@[simp] theorem check_eq_ok {_ : Decidable ok} {failure : ε} {u : Unit} :
    check ok failure = .ok u ↔ ok := by
  unfold check
  by_cases h : ok <;> simp [h]

theorem check_eq_error [Decidable ok] {failure e : ε} :
    check ok failure = .error e ↔ ¬ ok ∧ failure = e := by
  unfold check
  by_cases h : ok <;> simp [h]

theorem check_of [Decidable ok] {failure : ε} (h : ok) : check ok failure = .ok () := if_pos h

variable {x : Except ε α}

/-- A chain returns exactly when its head returns and the rest does. -/
theorem bind_eq_ok {f : α → Except ε β} {b : β} :
    (x >>= f) = .ok b ↔ ∃ a, x = .ok a ∧ f a = .ok b := by
  cases x with
  | error e => exact ⟨fun h => (by cases h), fun ⟨_, h, _⟩ => (by cases h)⟩
  | ok a => exact ⟨fun h => ⟨a, rfl, h⟩, fun ⟨_, h, hb⟩ => (by cases h; exact hb)⟩

/-- A chain fails when its head fails or the rest does. -/
theorem bind_eq_error {f : α → Except ε β} {e : ε} :
    (x >>= f) = .error e ↔ x = .error e ∨ ∃ a, x = .ok a ∧ f a = .error e := by
  cases x with
  | error e' =>
    exact ⟨fun h => .inl (congrArg Except.error (Except.error.inj h)),
      fun h => h.elim (fun h => congrArg Except.error (Except.error.inj h))
        fun ⟨_, h, _⟩ => (by cases h)⟩
  | ok a =>
    exact ⟨fun h => .inr ⟨a, rfl, h⟩,
      fun h => h.elim (fun h => (by cases h)) fun ⟨_, h, hf⟩ => (by cases h; exact hf)⟩

/-- A chain that starts with a guard returns exactly when the guard holds and the rest
returns. -/
theorem check_bind_eq_ok {γ : Type} {_ : Decidable ok} {failure : ε} {f : Unit → Except ε γ}
    {b : γ} : (check ok failure >>= f) = .ok b ↔ ok ∧ f () = .ok b := by
  unfold check
  by_cases h : ok
  · rw [if_pos h, show (Except.ok () >>= f : Except ε γ) = f () from rfl]
    exact ⟨fun hf => ⟨h, hf⟩, fun hf => hf.2⟩
  · rw [if_neg h]
    exact ⟨fun hf => (by cases hf), fun hf => absurd hf.1 h⟩

theorem isOk_eq_true : x.isOk = true ↔ ∃ a, x = .ok a := by
  cases x with
  | error e => exact ⟨fun h => (by cases h), fun ⟨_, h⟩ => (by cases h)⟩
  | ok a => exact ⟨fun _ => ⟨a, rfl⟩, fun _ => rfl⟩

/-- Mapping keeps the failure and transports the value. -/
theorem map_eq_ok {f : α → β} {b : β} : (f <$> x) = .ok b ↔ ∃ a, x = .ok a ∧ f a = b := by
  cases x with
  | error e => exact ⟨fun h => (by cases h), fun ⟨_, h, _⟩ => (by cases h)⟩
  | ok a =>
    exact ⟨fun h => ⟨a, rfl, Except.ok.inj h⟩,
      fun ⟨_, h, hb⟩ => (by cases h; exact congrArg Except.ok hb)⟩

@[simp] theorem ok_bind (a : α) (f : α → Except ε β) : (Except.ok a >>= f) = f a := rfl

@[simp] theorem error_bind (e : ε) (f : α → Except ε β) :
    (Except.error e >>= f) = Except.error e := rfl

@[simp] theorem pure_eq_ok_iff {a b : α} : (pure a : Except ε α) = .ok b ↔ a = b := by
  simp [pure, Except.pure]

theorem mapError_ok {δ : Type u} (f : ε → δ) (a : α) : (Except.ok a).mapError f = .ok a := rfl

/-- Renaming failures keeps the values. -/
@[simp] theorem mapError_eq_ok {δ : Type u} {f : ε → δ} {a : α} :
    x.mapError f = .ok a ↔ x = .ok a := by
  cases x <;> constructor <;> intro h <;> cases h <;> rfl

theorem mapError_eq_error {δ : Type u} {f : ε → δ} {e : δ} :
    x.mapError f = .error e ↔ ∃ failure, x = .error failure ∧ f failure = e := by
  constructor
  · cases x <;> intro h <;> cases h
    exact ⟨_, rfl, rfl⟩
  · rintro ⟨failure, rfl, rfl⟩
    rfl

/-- A loop of guards returns when every round does. -/
theorem forM_eq_ok {ι : Type v} {l : List ι} {f : ι → Except ε PUnit}
    (h : ∀ i ∈ l, f i = .ok ⟨⟩) : l.forM f = .ok ⟨⟩ := by
  induction l with
  | nil => rfl
  | cons i rest ih =>
    change (f i >>= fun _ => rest.forM f) = .ok ⟨⟩
    rw [h i List.mem_cons_self, ok_bind]
    exact ih fun j hj => h j (List.mem_cons_of_mem _ hj)

/-! ## Calls to code outside the model -/

/-- How a call to code outside the model ends: it returns, it raises an
`Exception`, or it raises a `BaseException` that ordinary handlers let through. -/
inductive Foreign (ε : Type u) (α : Type v) where
  | returned (value : α)
  | raised (exception : ε)
  | interrupted (exception : ε)
  deriving DecidableEq, Repr

end LocalMoe.Foundation
