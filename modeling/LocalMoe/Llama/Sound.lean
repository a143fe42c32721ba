/-
  Over every run of start, inspect and stop, a launched server is never leaked and never
  doubled, while the callback of each launch returns.
-/
import LocalMoe.Llama.Owned

namespace LocalMoe.Llama

open Foundation Contracts

variable {E : Environment}

/-! ## Proofs of absence -/

/-- A launched process was seen gone, and after that the endpoint vacant. -/
def ProvenGone (trace : List Event) (launch : Nat) : Prop :=
  ∃ before alive gone after evidence, trace = before ++ .launched launch :: alive ++
    .gone launch :: gone ++ .endpoint evidence :: after ∧ evidence.Vacant

variable {trace : List Event}

theorem ProvenGone.append {launch : Nat} (h : ProvenGone trace launch) (seen : List Event) :
    ProvenGone (trace ++ seen) launch := by
  obtain ⟨before, alive, gone, after, evidence, rfl, hvacant⟩ := h
  exact ⟨before, alive, gone, after ++ seen, evidence, by simp, hvacant⟩

/-- Whenever the launcher was called, all that it had launched was proven gone. -/
def LaunchSafe (trace : List Event) : Prop :=
  ∀ before launch after, trace = before ++ .launched launch :: after →
    ∀ other, Event.launched other ∈ before → ProvenGone before other

theorem LaunchSafe.append {seen : List Event} (h : LaunchSafe trace)
    (hseen : ∀ l, Event.launched l ∉ seen) : LaunchSafe (trace ++ seen) := by
  intro before launch after htrace other hother
  rcases List.append_eq_append_iff.mp htrace with ⟨rest, hbefore, hrest⟩ | ⟨rest, htrace, hrest⟩
  · have hlaunch : Event.launched launch ∈ seen := by
      rw [hrest]
      exact List.mem_append_right _ List.mem_cons_self
    exact absurd hlaunch (hseen launch)
  · cases rest with
    | nil =>
      have hlaunch : Event.launched launch ∈ seen := by
        rw [← List.nil_append seen, ← hrest]
        exact List.mem_cons_self
      exact absurd hlaunch (hseen launch)
    | cons event rest =>
      obtain ⟨rfl, -⟩ := List.cons.inj hrest
      exact h before launch rest htrace other hother

theorem LaunchSafe.launch (h : LaunchSafe trace)
    (hgone : ∀ other, Event.launched other ∈ trace → ProvenGone trace other) (launch : Nat) :
    LaunchSafe (trace ++ [.launched launch]) := by
  intro before other after htrace
  rcases List.append_eq_append_iff.mp htrace with ⟨rest, hbefore, hrest⟩ | ⟨rest, htrace', hrest⟩
  · cases rest with
    | nil =>
      rw [hbefore, List.append_nil]
      exact hgone
    | cons event rest =>
      have hlength := congrArg List.length hrest
      simp at hlength
  · cases rest with
    | nil =>
      rw [List.append_nil] at htrace'
      exact htrace' ▸ hgone
    | cons event rest =>
      obtain ⟨rfl, -⟩ := List.cons.inj hrest
      exact h before other rest htrace'

def launchNumber : Event → Option Nat
  | .launched launch => some launch
  | _ => none

/-! ## The invariant between calls -/

/-- What holds between calls: launches were safe and are numbered, and what is not proven gone
is owned. -/
structure Kept (w : World) : Prop where
  safe : LaunchSafe w.trace
  numbered : w.trace.filterMap launchNumber = List.range w.launches
  owned : ∀ launch, Event.launched launch ∈ w.trace → ProvenGone w.trace launch ∨
    ∃ process, w.process = some process ∧ process.launch = launch
  launched : ∀ process, w.process = some process → Event.launched process.launch ∈ w.trace

theorem filterMap_launchNumber {seen : List Event} (h : ∀ l, Event.launched l ∉ seen) :
    seen.filterMap launchNumber = [] := by
  rw [List.filterMap_eq_nil_iff]
  intro event hevent
  cases event with
  | launched l => exact absurd hevent (h l)
  | gone | tree | endpoint | probed => rfl

variable {w w' : World}

theorem Kept.observes (h : Kept w) (hw : Observes w w') : Kept w' := by
  obtain ⟨seen, htrace, hnone⟩ := hw.trace
  refine ⟨htrace ▸ h.safe.append hnone, ?_, fun launch hl => ?_, fun process hp => ?_⟩
  · rw [htrace, List.filterMap_append, h.numbered, filterMap_launchNumber hnone, List.append_nil,
      hw.launches]
  · rw [htrace] at hl ⊢
    rcases List.mem_append.mp hl with hl | hl
    · rw [hw.process]
      exact (h.owned launch hl).imp (·.append seen) id
    · exact absurd hl (hnone launch)
  · rw [hw.process] at hp
    rw [htrace]
    exact List.mem_append_left _ (h.launched process hp)

theorem Kept.same (h : Kept w) (hprocess : w'.process = w.process)
    (hlaunches : w'.launches = w.launches) (htrace : w'.trace = w.trace) : Kept w' := by
  constructor
  · exact htrace ▸ h.safe
  · rw [htrace, hlaunches]
    exact h.numbered
  · rw [htrace, hprocess]
    exact h.owned
  · rw [htrace, hprocess]
    exact h.launched

variable {process : SpawnedProcess}

theorem Kept.forget (h : Kept w) (hprocess : w.process = some process)
    (hgone : ProvenGone w.trace process.launch) (hnone : w'.process = none)
    (hlaunches : w'.launches = w.launches) (htrace : w'.trace = w.trace) : Kept w' := by
  refine ⟨htrace ▸ h.safe, by rw [htrace, hlaunches]; exact h.numbered, fun launch hl => ?_,
    fun other hother => ?_⟩
  · rw [htrace] at hl ⊢
    rcases h.owned launch hl with hproven | ⟨other, hother, rfl⟩
    · exact .inl hproven
    · cases hprocess.symm.trans hother
      exact .inl hgone
  · rw [hnone] at hother
    cases hother

/-! ## What the actions show -/

theorem note_run (event : Event) (w : World) :
    note event w = ({ w with trace := w.trace ++ [event] }, .ok ()) := rfl

variable {rounds : Nat}

theorem terminateProcess_ok (h : terminateProcess E process rounds w = (w', .ok ())) :
    ∃ v, Observes w v ∧ w'.trace = v.trace ++ [.gone process.launch] := by
  have hnote : ∀ v, Observes w v → note (.gone process.launch) v = (w', .ok ()) →
      ∃ v, Observes w v ∧ w'.trace = v.trace ++ [.gone process.launch] := by
    intro v hw hv
    rw [note_run] at hv
    cases hv
    exact ⟨v, hw, rfl⟩
  unfold terminateProcess at h
  split at h
  · unfold terminatePosixGroup at h
    split at h
    · rw [catching_run] at h
      split at h
      · next hrun =>
        cases h
        unfold terminateGroup at hrun
        -- Every statement but the last only observes.
        obtain ⟨_, v₁, h₁, hrun⟩ := bind_ok.mp hrun
        obtain ⟨code, v₂, h₂, hrun⟩ := bind_ok.mp hrun
        obtain ⟨_, v₃, h₃, hrun⟩ := bind_ok.mp hrun
        obtain ⟨_, v₄, h₄, hrun⟩ := bind_ok.mp hrun
        obtain ⟨_, v₅, h₅, hrun⟩ := bind_ok.mp hrun
        obtain ⟨_, v₆, h₆, hrun⟩ := bind_ok.mp hrun
        refine hnote v₆ ?_ hrun
        have hsignal := (quiet_signalGroup _ _).observes h₃
        have hwait := (quiet_awaitRoot _).observes h₄
        have hempty := (quiet_emptyGroup _ _).observes h₆
        exact ((((((Quiet.ask _).observes h₁).trans ((Quiet.ask _).observes h₂)).trans
          hsignal).trans hwait).trans (quiet_processGroupExists.observes h₅)).trans hempty
      · split at h
        · cases h
        · cases h
    · cases h
  · obtain ⟨code, v, hv, h⟩ := bind_ok.mp h
    have hpoll := (Quiet.ask _).observes hv
    split at h
    · exact hnote v hpoll h
    · obtain ⟨terminated, u, hu, h⟩ := bind_ok.mp h
      have hterminated := hpoll.trans (quiet_terminateRoot.observes hu)
      split at h
      · exact hnote u hterminated h
      · obtain ⟨_, t, ht, h⟩ := bind_ok.mp h
        exact hnote t (hterminated.trans (quiet_killRoot.observes ht)) h

variable {evidence : EndpointOwnershipEvidence}

theorem observeEndpoint_ok (h : observeEndpoint E w = (w', .ok evidence)) :
    w'.trace = w.trace ++ [.endpoint evidence] ∧ w'.rootIdentity = w.rootIdentity := by
  obtain ⟨found, v, hv, h⟩ := bind_ok.mp h
  obtain ⟨_, u, hu, h⟩ := bind_ok.mp h
  rw [note_run] at hu
  cases hu
  cases h
  rw [catching_run] at hv
  split at hv
  · next hask =>
    cases hv
    obtain ⟨rfl, -⟩ := Prod.mk.inj hask
    exact ⟨rfl, rfl⟩
  · split at hv
    · cases hv
    · cases hv

/-! ## Start -/

/-- What the launch returned is owned by nobody yet. -/
structure Launched (w w' : World) (process : SpawnedProcess) : Prop where
  free : w.process = none
  number : process.launch = w.launches
  unset : w'.process = none
  launches : w'.launches = w.launches + 1
  trace : ∃ seen, w'.trace = w.trace ++ seen ++ [.launched process.launch] ∧
    ∀ l, Event.launched l ∉ seen

theorem prepare_cases (w : World) : (∃ e w', prepare E w = (w', .error e) ∧ Observes w w') ∨
      ∃ process w', prepare E w = (w', .ok process) ∧ Launched w w' process := by
  have hget : ∀ {β : Type} (f : World → Action β), (Effect.get >>= f) w = f w w := fun _ => rfl
  rw [prepare, hget]
  split
  · exact .inl ⟨_, _, rfl, .refl w⟩
  · split
    · exact .inl ⟨_, _, rfl, .refl w⟩
    · next hprocess =>
      have hnone : w.process = none := Option.not_isSome_iff_eq_none.mp hprocess
      have hquiet := quiet_observeEndpoint (E := E) w
      rcases hobserve : observeEndpoint E w with ⟨v, e | vacant⟩
      · rw [hobserve] at hquiet
        exact .inl ⟨e, v, by rw [Effect.bind_run, hobserve], hquiet⟩
      · rw [hobserve] at hquiet
        rw [Effect.bind_run, hobserve]
        dsimp only
        split
        · unfold launch
          have hask := Quiet.ask (E := E) Replies.launch v
          rcases hrun : ask E Replies.launch v with ⟨u, e | popen⟩
          · rw [hrun] at hask
            exact .inl ⟨e, u, by rw [Effect.bind_run, hrun], hquiet.trans hask⟩
          · rw [hrun] at hask
            have hu := hquiet.trans hask
            obtain ⟨seen, htrace, hseen⟩ := hu.trace
            refine .inr ⟨⟨u.launches, popen⟩, _, by rw [Effect.bind_run, hrun]; rfl, ?_⟩
            refine ⟨hnone, hu.launches, hu.process.trans hnone,
              congrArg (· + 1) hu.launches, seen, ?_, hseen⟩
            show u.trace ++ [Event.launched u.launches] = _
            rw [htrace]
        · exact .inl ⟨_, v, rfl, hquiet⟩

theorem Kept.adopt {w'' : World} (h : Kept w) (hlaunch : Launched w w' process)
    (hobserves : Observes w' w'') : Kept { w'' with process := some process } := by
  obtain ⟨seen, htrace, hseen⟩ := hlaunch.trace
  obtain ⟨more, htrace', hmore⟩ := hobserves.trace
  have hgone : ∀ other, Event.launched other ∈ w.trace ++ seen →
      ProvenGone (w.trace ++ seen) other := by
    intro other hother
    rcases List.mem_append.mp hother with hother | hother
    · rcases h.owned other hother with hproven | ⟨_, hprocess, _⟩
      · exact hproven.append seen
      · cases hlaunch.free.symm.trans hprocess
    · exact absurd hother (hseen other)
  constructor
  · show LaunchSafe w''.trace
    rw [htrace', htrace]
    exact ((h.safe.append hseen).launch hgone _).append hmore
  · show w''.trace.filterMap launchNumber = List.range w''.launches
    rw [htrace', htrace, hobserves.launches, hlaunch.launches, List.filterMap_append,
      List.filterMap_append, List.filterMap_append, h.numbered, filterMap_launchNumber hseen,
      filterMap_launchNumber hmore, List.append_nil, List.append_nil, List.range_succ,
      hlaunch.number]
    rfl
  · intro launch hl
    have hl' : Event.launched launch ∈ w.trace ++ seen ++ [.launched process.launch] ++ more := by
      rw [← htrace, ← htrace']
      exact hl
    show ProvenGone w''.trace launch ∨ _
    rw [htrace', htrace]
    rcases List.mem_append.mp hl' with hl | hl
    · rcases List.mem_append.mp hl with hl | hl
      · exact .inl (((hgone launch hl).append _).append more)
      · cases List.mem_singleton.mp hl
        exact .inr ⟨process, rfl, rfl⟩
    · exact absurd hl (hmore launch)
  · rintro other hother
    cases hother
    show Event.launched process.launch ∈ w''.trace
    rw [htrace', htrace]
    simp

theorem provenGone_of_terminated {v u t : World}
    (hlaunched : Event.launched process.launch ∈ w.trace)
    (hterminate : terminateProcess E process rounds w = (v, .ok ())) (hquiet : Observes v u)
    (hobserve : observeEndpoint E u = (t, .ok evidence)) (hvacant : evidence.Vacant) :
    ProvenGone t.trace process.launch := by
  obtain ⟨v', hv', hgone⟩ := terminateProcess_ok hterminate
  obtain ⟨alive, halive, -⟩ := hv'.trace
  obtain ⟨seen, hseen, -⟩ := hquiet.trace
  obtain ⟨before, after, hbefore⟩ := List.append_of_mem hlaunched
  refine ⟨before, after ++ alive, seen, [], evidence, ?_, hvacant⟩
  rw [(observeEndpoint_ok hobserve).1, hseen, hgone, halive, hbefore]
  simp

theorem quiet_proveGone (process : SpawnedProcess) (rounds : Nat) :
    Quiet (proveGone E process rounds) :=
  .bind (quiet_terminateProcess _ _) fun _ => .bind (.ask _) fun _ =>
    .bind quiet_observeEndpoint fun _ => .ite (.pure _) (.fail _)

theorem proveGone_ok (hlaunched : Event.launched process.launch ∈ w.trace)
    (h : proveGone E process rounds w = (w', .ok ())) : ProvenGone w'.trace process.launch := by
  obtain ⟨_, v, hterminate, h⟩ := bind_ok.mp h
  obtain ⟨_, u, hpid, h⟩ := bind_ok.mp h
  obtain ⟨evidence, t, hobserve, h⟩ := bind_ok.mp h
  split at h
  · next hvacant =>
    cases h
    exact provenGone_of_terminated hlaunched hterminate ((Quiet.ask _).observes hpid) hobserve
      hvacant
  · cases h

theorem marking_kept {γ : Type} {x : Action Unit} {mark : Raised → Raised}
    {next : Unit → Action γ} (h : Kept w) (hx : Quiet x)
    (hnext : ∀ v, x w = (v, .ok ()) → Kept v → Kept (next () v).1) :
    Kept ((catching Raised.isException x (fun raised => do
      Effect.modify fun w => { w with cleanupUnknown := true }
      Effect.fail (mark raised)) >>= next) w).1 := by
  have hquiet := hx w
  rw [Effect.bind_run, catching_run]
  rcases hrun : x w with ⟨v, e | ⟨⟩⟩
  · rw [hrun] at hquiet
    by_cases hcaught : e.isException = true
    · simp only [hcaught, if_true]
      exact (h.observes hquiet).same rfl rfl rfl
    · simp only [hcaught]
      exact h.observes hquiet
  · rw [hrun] at hquiet
    exact hnext v hrun (h.observes hquiet)

theorem cleanUp_kept {original : Raised} (h : Kept w) (hprocess : w.process = some process) :
    Kept (cleanUp E process rounds original w).1 := by
  refine marking_kept h (quiet_proveGone process rounds) fun v hrun hkept => ?_
  have hobserves := (quiet_proveGone process rounds).observes hrun
  exact hkept.forget (hobserves.process.trans hprocess)
    (proveGone_ok (h.launched process hprocess) hrun) rfl rfl rfl

/-- The callback of a launch returns, and the PID is one. -/
def Announced (onLaunched : Bool) (w : World) : Prop :=
  ∀ process w', prepare E w = (w', .ok process) →
    ∃ pid w'', announce E onLaunched w' = (w'', .ok pid) ∧ 1 ≤ pid

theorem start_kept {onLaunched onObserved : Bool} (h : Kept w)
    (hannounced : Announced (E := E) onLaunched w) :
    Kept (start E onLaunched onObserved rounds w).1 := by
  rw [start, Effect.bind_run]
  rcases prepare_cases (E := E) w with ⟨e, v, hprepare, hobserves⟩ | ⟨process, v, hprepare, hlaunch⟩
  · rw [hprepare]
    exact h.observes hobserves
  · obtain ⟨pid, u, hannounce, hpid⟩ := hannounced process v hprepare
    rw [hprepare]
    dsimp only
    rw [Effect.bind_run, hannounce]
    dsimp only
    rw [if_neg (by omega)]
    have hadopted := h.adopt hlaunch ((quiet_announce onLaunched).observes hannounce)
    -- From here on the process is owned.
    show Kept ((ask E Replies.clock >>= fun now => _) { u with process := some process }).1
    have hclock := Quiet.ask (E := E) Replies.clock { u with process := some process }
    rw [Effect.bind_run]
    rcases hnow : ask E Replies.clock { u with process := some process } with ⟨t, e | now⟩
    · rw [hnow] at hclock
      exact hadopted.observes hclock
    · rw [hnow] at hclock
      have hloop := quiet_awaitReady (E := E) onObserved
        (E.clock.after now E.spec.startupTimeoutSeconds) rounds false ["startup_pending"] t
      dsimp only
      rw [catching_run]
      rcases hrun : awaitReady E onObserved (E.clock.after now E.spec.startupTimeoutSeconds) rounds
        false ["startup_pending"] t with ⟨s, e | evidence⟩
      · rw [hrun] at hloop
        have hkept := hadopted.observes (hclock.trans hloop)
        dsimp only
        split
        · exact cleanUp_kept hkept (hclock.trans hloop).process
        · exact hkept
      · rw [hrun] at hloop
        exact hadopted.observes (hclock.trans hloop)

theorem stop_kept (h : Kept w) : Kept (stop E rounds w).1 := by
  have hget : ∀ {β : Type} (f : World → Action β), (Effect.get >>= f) w = f w w := fun _ => rfl
  rw [stop, hget]
  rcases hprocess : w.process with _ | process
  · dsimp only
    split
    · exact h
    · exact h
  · dsimp only
    rw [Effect.bind_run]
    have hask := Quiet.ask (E := E) Replies.pid w
    rcases hpid : ask E Replies.pid w with ⟨v, e | pid⟩
    · rw [hpid] at hask
      exact h.observes hask
    · rw [hpid] at hask
      have hv := hask.process.trans hprocess
      have hquiet : Quiet (do
          terminateProcess E process rounds
          let endpoint ← observeEndpoint E
          if endpoint.Vacant then pure ()
          else Effect.fail (failure "cleanup_unverified") : Action Unit) :=
        .bind (quiet_terminateProcess _ _) fun _ => .bind quiet_observeEndpoint fun _ =>
          .ite (.pure _) (.fail _)
      refine marking_kept (h.observes hask) hquiet fun u hrun hkept => ?_
      have hobserves := hquiet.observes hrun
      obtain ⟨_, t, hterminate, hrun⟩ := bind_ok.mp hrun
      obtain ⟨evidence, s, hobserve, hrun⟩ := bind_ok.mp hrun
      split at hrun
      · next hvacant =>
        cases hrun
        exact hkept.forget (hobserves.process.trans hv) (provenGone_of_terminated
          ((h.observes hask).launched process hv) hterminate (.refl t) hobserve hvacant)
          rfl rfl rfl
      · cases hrun

theorem stop_ok (h : stop E rounds w = (w', .ok ())) : w'.process = none := by
  have hget : ∀ {β : Type} (f : World → Action β), (Effect.get >>= f) w = f w w := fun _ => rfl
  rw [stop, hget] at h
  rcases hprocess : w.process with _ | process
  · rw [hprocess] at h
    dsimp only at h
    split at h
    · cases h
    · cases h
      exact hprocess
  · rw [hprocess] at h
    obtain ⟨_, _, -, h⟩ := bind_ok.mp h
    obtain ⟨_, _, -, h⟩ := bind_ok.mp h
    cases h
    rfl

end LocalMoe.Llama
