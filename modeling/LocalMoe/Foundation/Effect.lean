/-
  Computations that read and write a state and may fail, with triples about both ends.
-/
import Mathlib.Logic.Basic

namespace LocalMoe.Foundation

universe u

/-- A computation on a state that returns a value or fails. -/
def Effect (σ ε α : Type u) : Type u := σ → σ × Except ε α

namespace Effect

variable {σ ε α β : Type u}

def value (a : α) : Effect σ ε α := fun s => (s, .ok a)

/-- Run one computation after another. -/
def andThen (x : Effect σ ε α) (f : α → Effect σ ε β) : Effect σ ε β := fun s =>
  match x s with
  | (t, .ok a) => f a t
  | (t, .error e) => (t, .error e)

instance : Monad (Effect σ ε) where
  pure := value
  bind := andThen

def fail (e : ε) : Effect σ ε α := fun s => (s, .error e)

/-- A computation that leaves the state alone. -/
def ofExcept (x : Except ε α) : Effect σ ε α := fun s => (s, x)

/-- The state. -/
def get : Effect σ ε σ := fun s => (s, .ok s)

/-- Change the state. -/
def modify (f : σ → σ) : Effect σ ε PUnit := fun s => (f s, .ok ⟨⟩)

def handle (x : Effect σ ε α) (h : ε → Effect σ ε α) : Effect σ ε α := fun s =>
  match x s with
  | (t, .ok a) => (t, .ok a)
  | (t, .error e) => h e t

theorem bind_run (x : Effect σ ε α) (f : α → Effect σ ε β) (s : σ) : (x >>= f) s = match x s with
      | (t, .ok a) => f a t
      | (t, .error e) => (t, .error e) := rfl

theorem pure_run (a : α) (s : σ) : (pure a : Effect σ ε α) s = (s, .ok a) := rfl

/-! ## Triples -/

/-- From a state with `P`, a value comes with `Q` and a failure with `E`. -/
def Triple (P : σ → Prop) (x : Effect σ ε α) (Q : α → σ → Prop) (E : ε → σ → Prop) : Prop :=
  ∀ s, P s → (∀ a t, x s = (t, .ok a) → Q a t) ∧ (∀ e t, x s = (t, .error e) → E e t)

variable {P P' : σ → Prop} {Q Q' : α → σ → Prop} {E E' : ε → σ → Prop}

variable {x : Effect σ ε α}

theorem Triple.weaken (h : Triple P x Q E) (hP : ∀ s, P' s → P s) (hQ : ∀ a s, Q a s → Q' a s)
    (hE : ∀ e s, E e s → E' e s) : Triple P' x Q' E' :=
  fun s hs => ⟨fun a t hx => hQ a t ((h s (hP s hs)).1 a t hx),
    fun e t hx => hE e t ((h s (hP s hs)).2 e t hx)⟩

theorem Triple.pure {a : α} (h : ∀ s, P s → Q a s) : Triple P (Pure.pure a : Effect σ ε α) Q E := by
  refine fun s hs => ⟨fun b t hx => ?_, fun e t hx => ?_⟩
  · cases hx
    exact h s hs
  · cases hx

theorem Triple.fail {e : ε} (h : ∀ s, P s → E e s) : Triple P (Effect.fail e : Effect σ ε α) Q E := by
  refine fun s hs => ⟨fun b t hx => ?_, fun e' t hx => ?_⟩
  · cases hx
  · cases hx
    exact h s hs

theorem Triple.ofExcept {x : Except ε α} (hQ : ∀ a, x = .ok a → ∀ s, P s → Q a s)
    (hE : ∀ e, x = .error e → ∀ s, P s → E e s) : Triple P (Effect.ofExcept x) Q E := by
  refine fun s hs => ⟨fun b t hx => ?_, fun e t hx => ?_⟩
  · obtain ⟨rfl, hout⟩ : s = t ∧ x = .ok b := Prod.mk.inj hx
    exact hQ b hout s hs
  · obtain ⟨rfl, hout⟩ : s = t ∧ x = .error e := Prod.mk.inj hx
    exact hE e hout s hs

variable {I : σ → Prop}

/-- An answer that does not look at the state keeps what holds of it. -/
theorem Triple.ofExcept_kept {x : Except ε α} :
    Triple I (Effect.ofExcept x) (fun _ => I) fun _ => I :=
  .ofExcept (fun _ _ _ h => h) fun _ _ _ h => h

theorem Triple.get {Q : σ → σ → Prop} (h : ∀ s, P s → Q s s) :
    Triple P (Effect.get : Effect σ ε σ) Q E := by
  refine fun s hs => ⟨fun b t hx => ?_, fun e t hx => ?_⟩
  · cases hx
    exact h s hs
  · cases hx

theorem Triple.get_kept : Triple I (Effect.get : Effect σ ε σ) (fun _ => I) fun _ => I :=
  .get fun _ h => h

theorem Triple.modify {f : σ → σ} {Q : PUnit → σ → Prop} (h : ∀ s, P s → Q ⟨⟩ (f s)) :
    Triple P (Effect.modify f : Effect σ ε PUnit) Q E := by
  refine fun s hs => ⟨fun b t hx => ?_, fun e t hx => ?_⟩
  · cases hx
    exact h s hs
  · cases hx

theorem Triple.bind {R : α → σ → Prop} {Q : β → σ → Prop} {f : α → Effect σ ε β}
    (hx : Triple P x R E) (hf : ∀ a, Triple (R a) (f a) Q E) : Triple P (x >>= f) Q E := by
  intro s hs
  obtain ⟨hok, herror⟩ := hx s hs
  have hstep : (x >>= f) s = match x s with
      | (t, .ok a) => f a t
      | (t, .error e) => (t, .error e) := rfl
  rcases hxs : x s with ⟨t, e | a⟩
  · rw [hxs] at hstep
    rw [hstep]
    refine ⟨fun b u h => (by cases h), fun e' u h => ?_⟩
    cases h
    exact herror e t hxs
  · rw [hxs] at hstep
    rw [hstep]
    exact hf a t (hok a t hxs)

theorem Triple.handle {x : Effect σ ε α} {h : ε → Effect σ ε α} {F : ε → σ → Prop}
    (hx : Triple P x Q F) (hh : ∀ e, Triple (F e) (h e) Q E) : Triple P (x.handle h) Q E := by
  intro s hs
  obtain ⟨hok, herror⟩ := hx s hs
  unfold Effect.handle
  rcases hxs : x s with ⟨t, e | a⟩
  · exact hh e t (herror e t hxs)
  · refine ⟨fun b u h => ?_, fun e u h => (by cases h)⟩
    cases h
    exact hok a t hxs

theorem Triple.and (h : Triple P x Q E) (h' : Triple P' x Q' E') :
    Triple (fun s => P s ∧ P' s) x (fun a s => Q a s ∧ Q' a s) (fun e s => E e s ∧ E' e s) :=
  fun s hs => ⟨fun a t hx => ⟨(h s hs.1).1 a t hx, (h' s hs.2).1 a t hx⟩,
    fun e t hx => ⟨(h s hs.1).2 e t hx, (h' s hs.2).2 e t hx⟩⟩

theorem Triple.ite {c : Prop} [Decidable c] {y : Effect σ ε α} (hx : c → Triple P x Q E)
    (hy : ¬ c → Triple P y Q E) : Triple P (if c then x else y) Q E := by
  split
  · exact hx ‹_›
  · exact hy ‹_›

/-- The two ends of a run from a state. -/
theorem Triple.outcome (h : Triple P x Q E) {s : σ} (hs : P s) :
    (∃ a, (x s).2 = .ok a ∧ Q a (x s).1) ∨ ∃ e, (x s).2 = .error e ∧ E e (x s).1 := by
  obtain ⟨hok, herror⟩ := h s hs
  rcases hxs : x s with ⟨t, e | a⟩
  · exact .inr ⟨e, rfl, herror e t hxs⟩
  · exact .inl ⟨a, rfl, hok a t hxs⟩

/-- What both ends of a run have. -/
theorem Triple.after (h : Triple P x (fun _ => I) fun _ => I) {s : σ} (hs : P s) : I (x s).1 := by
  rcases h.outcome hs with ⟨_, _, hI⟩ | ⟨_, _, hI⟩
  · exact hI
  · exact hI

end Effect

end LocalMoe.Foundation
