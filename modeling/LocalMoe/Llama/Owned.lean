/-
  A launched server is owned until it is proven gone.
-/
import LocalMoe.Foundation.Machine
import LocalMoe.Llama.Supervisor

namespace LocalMoe.Llama

open Foundation Contracts

variable {E : Environment} {α β : Type}

/-! ## Runs of actions -/

variable {x : Action α} {f : α → Action β} {w w' : World}

theorem bind_ok {b : β} :
    (x >>= f) w = (w', .ok b) ↔ ∃ a v, x w = (v, .ok a) ∧ f a v = (w', .ok b) := by
  rw [Effect.bind_run]
  rcases hx : x w with ⟨v, e | a⟩
  · exact ⟨fun h => (by cases h), fun ⟨_, _, h, _⟩ => (by cases h)⟩
  · exact ⟨fun h => ⟨a, v, rfl, h⟩, fun ⟨_, _, h, hf⟩ => (by cases h; exact hf)⟩

theorem bind_error {e : Raised} : (x >>= f) w = (w', .error e) ↔
      x w = (w', .error e) ∨ ∃ a v, x w = (v, .ok a) ∧ f a v = (w', .error e) := by
  rw [Effect.bind_run]
  rcases hx : x w with ⟨v, e' | a⟩
  · exact ⟨fun h => .inl (by cases h; rfl),
      fun h => h.elim (fun h => (by cases h; rfl)) fun ⟨_, _, h, _⟩ => (by cases h)⟩
  · exact ⟨fun h => .inr ⟨a, v, rfl, h⟩,
      fun h => h.elim (fun h => (by cases h)) fun ⟨_, _, h, hf⟩ => (by cases h; exact hf)⟩

theorem catching_run (catches : Raised → Bool) (x : Action α) (handler : Raised → Action α)
    (w : World) : catching catches x handler w = match x w with
      | (v, .ok a) => (v, .ok a)
      | (v, .error e) => if catches e then handler e v else (v, .error e) := by
  unfold catching Effect.handle
  rcases x w with ⟨v, e | a⟩
  · by_cases h : catches e = true
    · simp only [if_pos h]
    · simp only [if_neg h, Effect.fail]
  · rfl

theorem catching_ok {catches : Raised → Bool} {handler : Raised → Action α} {a : α}
    (h : catching catches x handler w = (w', .ok a)) :
    x w = (w', .ok a) ∨ ∃ e v, x w = (v, .error e) ∧ handler e v = (w', .ok a) := by
  rw [catching_run] at h
  rcases hx : x w with ⟨v, e | b⟩
  · rw [hx] at h
    dsimp only at h
    split at h
    · exact .inr ⟨e, v, rfl, h⟩
    · cases h
  · rw [hx] at h
    exact .inl h

/-! ## Observing -/

/-- Nothing happened but that something was seen, and no launch. -/
structure Observes (w w' : World) : Prop where
  process : w'.process = w.process
  cleanupUnknown : w'.cleanupUnknown = w.cleanupUnknown
  launches : w'.launches = w.launches
  trace : ∃ seen, w'.trace = w.trace ++ seen ∧ ∀ l, Event.launched l ∉ seen

theorem Observes.refl (w : World) : Observes w w :=
  ⟨rfl, rfl, rfl, [], (List.append_nil _).symm, fun _ => List.not_mem_nil⟩

theorem Observes.trans {u v w : World} (h : Observes u v) (h' : Observes v w) : Observes u w := by
  obtain ⟨seen, htrace, hnone⟩ := h.trace
  obtain ⟨seen', htrace', hnone'⟩ := h'.trace
  refine ⟨h'.process.trans h.process, h'.cleanupUnknown.trans h.cleanupUnknown,
    h'.launches.trans h.launches, seen ++ seen', ?_, fun l =>
    List.not_mem_append (hnone l) (hnone' l)⟩
  rw [htrace', htrace, List.append_assoc]

def Quiet (x : Action α) : Prop := ∀ w, Observes w (x w).1

theorem Quiet.observes (hx : Quiet x) {result : Except Raised α} (h : x w = (w', result)) :
    Observes w w' := by
  have hw := hx w
  rw [h] at hw
  exact hw

theorem Quiet.pure (a : α) : Quiet (pure a : Action α) := fun w => .refl w

theorem Quiet.fail (e : Raised) : Quiet (Effect.fail e : Action α) := fun w => .refl w

theorem Quiet.ofExcept (x : Except Raised α) : Quiet (Effect.ofExcept x : Action α) :=
  fun w => .refl w

theorem Quiet.get : Quiet (Effect.get : Action World) := fun w => .refl w

theorem Quiet.ask (answer : Replies E.clock → Except Raised α) : Quiet (ask E answer) :=
  fun _ => ⟨rfl, rfl, rfl, [], (List.append_nil _).symm, fun _ => List.not_mem_nil⟩

theorem Quiet.note {event : Event} (h : ∀ l, event ≠ .launched l) : Quiet (note event) := by
  refine fun _ => ⟨rfl, rfl, rfl, [event], rfl, fun l hl => ?_⟩
  exact h l (List.mem_singleton.mp hl).symm

theorem Quiet.bind (hx : Quiet x) (hf : ∀ a, Quiet (f a)) : Quiet (x >>= f) := by
  intro w
  have h := hx w
  rw [Effect.bind_run]
  rcases hrun : x w with ⟨v, e | a⟩
  · rw [hrun] at h
    exact h
  · rw [hrun] at h
    exact h.trans (hf a v)

theorem Quiet.handle {x : Action α} {h : Raised → Action α} (hx : Quiet x)
    (hh : ∀ e, Quiet (h e)) : Quiet (x.handle h) := by
  intro w
  have hw := hx w
  unfold Effect.handle
  rcases hrun : x w with ⟨v, e | a⟩
  · rw [hrun] at hw
    exact hw.trans (hh e v)
  · rw [hrun] at hw
    exact hw

theorem Quiet.ite {c : Prop} [Decidable c] {y : Action α} (hx : Quiet x) (hy : Quiet y) :
    Quiet (if c then x else y) := by
  split
  · exact hx
  · exact hy

theorem Quiet.catching {catches : Raised → Bool} {handler : Raised → Action α} (hx : Quiet x)
    (hh : ∀ e, Quiet (handler e)) : Quiet (catching catches x handler) :=
  hx.handle fun e => .ite (hh e) (.fail e)

theorem quiet_observeEndpoint : Quiet (observeEndpoint E) :=
  .bind (.catching (.ask _) fun _ => .fail _) fun _ => .bind (.note fun _ => nofun) fun _ => .pure _

theorem quiet_observeProcess (pid : Int) : Quiet (observeProcess E pid) := by
  refine .bind (.catching (.ask _) fun _ => .fail _) fun evidence => ?_
  refine .ite (.fail _) (.ite (.fail _) (.bind .get fun w => ?_))
  split
  · refine .bind (fun _ => ?_) fun _ => .bind (.note fun _ => nofun) fun _ => .pure _
    exact ⟨rfl, rfl, rfl, [], (List.append_nil _).symm, fun _ => List.not_mem_nil⟩
  · exact .ite (.fail _) (.bind (.note fun _ => nofun) fun _ => .pure _)

theorem quiet_getJson (probe : Probe) : Quiet (getJson E probe) :=
  .bind (.catching (.bind (.ask _) fun _ => .pure _) fun _ => .pure _) fun _ =>
    .bind (.note fun _ => nofun) fun _ => .pure _

theorem quiet_probeApplication : Quiet (probeApplication E) :=
  .bind (quiet_getJson _) fun _ => .bind (quiet_getJson _) fun _ =>
    .bind (quiet_getJson _) fun _ => .ofExcept _

theorem quiet_processGroupExists : Quiet (processGroupExists E) := by
  refine .handle (.bind (.ask _) fun _ => .pure _) fun e => ?_
  split
  · exact .pure _
  · exact .fail _
  · exact .fail _

theorem quiet_awaitEmptyGroup (deadline : E.clock.Time) (rounds : Nat) :
    Quiet (awaitEmptyGroup E deadline rounds) := by
  induction rounds with
  | zero => exact .fail _
  | succ rounds ih =>
    refine .bind quiet_processGroupExists fun _ => .ite ?_ (.pure _)
    exact .bind (.ask _) fun _ => .ite (.fail _) (.bind (.ask _) fun _ => ih)

theorem quiet_signalGroup (group : Int) (rootRunning : Bool) :
    Quiet (signalGroup E group rootRunning) := by
  refine .ite ?_ ?_
  · exact .bind (.ask _) fun _ => .bind (.ask _) fun _ => .ite (.fail _) (.ask _)
  · exact .bind quiet_processGroupExists fun _ => .ite (.ask _) (.pure _)

theorem quiet_awaitRoot (rootRunning : Bool) : Quiet (awaitRoot E rootRunning) :=
  .ite (.catching (.ask _) fun _ => .bind (.ask _) fun _ => .ask _) (.pure _)

theorem quiet_emptyGroup (present : Bool) (rounds : Nat) : Quiet (emptyGroup E present rounds) :=
  .ite (.bind (.ask _) fun _ => .bind (.ask _) fun _ => quiet_awaitEmptyGroup _ _) (.pure _)

theorem quiet_terminateGroup (process : SpawnedProcess) (rounds : Nat) :
    Quiet (terminateGroup E process rounds) :=
  .bind (.ask _) fun _ => .bind (.ask _) fun _ => .bind (quiet_signalGroup _ _) fun _ =>
    .bind (quiet_awaitRoot _) fun _ => .bind quiet_processGroupExists fun _ =>
      .bind (quiet_emptyGroup _ _) fun _ => .note fun _ => nofun

theorem quiet_terminateRoot : Quiet (terminateRoot E) :=
  .catching (.bind (.ask _) fun _ => .bind (.ask _) fun _ => .pure _) fun _ =>
    .ite (.pure _) (.fail _)

theorem quiet_killRoot : Quiet (killRoot E) :=
  .catching (.bind (.ask _) fun _ => .ask _) fun _ => .fail _

theorem quiet_terminateProcess (process : SpawnedProcess) (rounds : Nat) :
    Quiet (terminateProcess E process rounds) := by
  refine .ite (.ite ?_ (.fail _)) ?_
  · exact .catching (quiet_terminateGroup _ _) fun _ => .fail _
  · refine .bind (.ask _) fun _ => .ite (.note fun _ => nofun) ?_
    refine .bind quiet_terminateRoot fun _ => .ite (.note fun _ => nofun) ?_
    exact .bind quiet_killRoot fun _ => .note fun _ => nofun

theorem quiet_announce (onLaunched : Bool) : Quiet (announce E onLaunched) :=
  .bind (.ite (.ask _) (.pure _)) fun _ => .bind (.ask _) fun _ => .bind (.ask _) fun _ => .ask _

theorem quiet_observeAgain (pid : Int) : Quiet (observeAgain E pid) :=
  .bind (quiet_observeProcess _) fun _ => .bind (.ask _) fun _ =>
    .bind quiet_observeEndpoint fun _ => .pure _

theorem quiet_awaitReady (onObserved : Bool) (deadline : E.clock.Time) (rounds : Nat)
    (notified : Bool) (reasons : List String) :
    Quiet (awaitReady E onObserved deadline rounds notified reasons) := by
  induction rounds generalizing notified reasons with
  | zero => exact .fail _
  | succ rounds ih =>
    have hlater : ∀ reasons : List String, Quiet (do
        let now ← Llama.ask E Replies.clock
        if E.clock.reached now deadline then
          Effect.fail (.supervisor "startup_timeout" reasons)
        else do
          Llama.ask E Replies.sleep
          awaitReady E onObserved deadline rounds (notified || onObserved) reasons) :=
      fun _ => .bind (.ask _) fun _ => .ite (.fail _) (.bind (.ask _) fun _ => ih _ _)
    refine .bind (.ask _) fun _ => .ite (.fail _) (.bind (.ask _) fun _ => ?_)
    refine .bind (quiet_observeProcess _) fun _ => .bind (.ite (.ask _) (.pure _)) fun _ => ?_
    refine .bind (.ask _) fun _ => .bind quiet_observeEndpoint fun _ => ?_
    refine .ite (.fail _) (.ite (.fail _) (.ite ?_ (hlater _)))
    refine .bind quiet_probeApplication fun _ => .ite ?_ (.ite (.fail _) (hlater _))
    refine .bind (.ask _) fun _ => .bind (quiet_observeAgain _) fun _ => ?_
    exact .ite (.fail _) (.ite (.fail _) (.ofExcept _))

theorem quiet_inspect : Quiet (inspect E) := by
  refine .bind .get fun w => ?_
  split
  · exact .fail _
  · refine .bind (.ask _) fun _ => .ite (.fail _) (.bind (.ask _) fun _ => ?_)
    refine .bind (quiet_observeProcess _) fun _ => .bind (.ask _) fun _ => ?_
    refine .bind quiet_observeEndpoint fun _ => .ite (.fail _) (.ite (.fail _) ?_)
    refine .bind quiet_probeApplication fun _ => .ite ?_ (.ite (.fail _) (.fail _))
    exact .bind (.ask _) fun _ => .bind (quiet_observeAgain _) fun _ =>
      .ite (.fail _) (.ofExcept _)

end LocalMoe.Llama
