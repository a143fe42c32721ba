/-
  What the calls of `run_paired_case` ask of the executor.
-/
import LocalMoe.Paired.Journal

namespace LocalMoe.Paired

open Foundation Contracts Canary

/-! ## Pending calls -/

/-- The claim whose arm is still to be run. -/
def Phase.pending : Phase → Option PairedRunClaim
  | .claimed claim => some claim
  | .bound binding | .planned binding => some binding.claim
  | .preparing | .looking | .ready _ | .ran _ | .ended => none

/-- The next thing the call does is to ask the executor. -/
def Phase.Armed (phase : Phase) (binding : PairedOutcomeBinding) : Prop :=
  phase = .bound binding ∨ phase = .planned binding

variable {phase : Phase} {binding : PairedOutcomeBinding}

theorem Phase.Armed.pending (h : phase.Armed binding) : phase.pending = some binding.claim := by
  rcases h with rfl | rfl <;> rfl

/-- Whether the next thing the call does is to ask the executor. -/
def Phase.asks : Phase → Bool
  | .bound _ | .planned _ => true
  | .preparing | .looking | .ready _ | .claimed _ | .ran _ | .ended => false

theorem not_armed_of_asks (h : phase.asks = false) (binding : PairedOutcomeBinding) :
    ¬ phase.Armed binding := by
  rintro (rfl | rfl) <;> cases h

/-- The store object appended the claim. -/
def World.Authored (w : World) (k : Nat) (claim : PairedRunClaim) : Prop :=
  ∃ nonce, w.Wrote k nonce claim

/-- The call is to run the arm of the claim, on the store object that wrote it. -/
def World.Holds (w : World) (runner : Runner) (claim : PairedRunClaim) : Prop :=
  runner.phase.pending = some claim ∧ w.Authored runner.store claim

/-- What the calls of `run_paired_case` have asked of the executor. -/
structure Calls (w : World) : Prop where
  once : w.invocations.Nodup
  recorded : ∀ i ∈ w.invocations, Event.claim i.2 ∈ w.events
  numbered : ∀ r runner, w.runners r = some runner → r < w.runnerCount
  known : ∀ r runner claim, w.runners r = some runner →
    runner.phase.pending = some claim → Event.claim claim ∈ w.events
  armed : ∀ r runner binding, w.runners r = some runner → runner.phase.Armed binding →
    w.Authored runner.store binding.claim
  alone : ∀ r r' runner runner' claim, w.runners r = some runner →
    w.runners r' = some runner' → w.Holds runner claim → w.Holds runner' claim → r = r'
  unrun : ∀ r runner claim, w.runners r = some runner → w.Holds runner claim →
    (ExecutorCall.runArm, claim) ∉ w.invocations
  unplanned : ∀ r runner claim, w.runners r = some runner → w.Holds runner claim →
    (∀ binding, runner.phase ≠ .planned binding) →
    (ExecutorCall.planArm, claim) ∉ w.invocations

theorem Calls.init : Calls World.init where
  once := List.nodup_nil
  recorded i h := by cases h
  numbered r runner h := by cases h
  known r runner claim h := by cases h
  armed r runner binding h := by cases h
  alone r r' runner runner' claim h := by cases h
  unrun r runner claim h := by cases h
  unplanned r runner claim h := by cases h

/-! ## The operations of the store -/

/-- An operation leaves the calls alone and appends at most a checkpoint or a new claim. -/
structure Grows (w w' : World) : Prop where
  runners : w'.runners = w.runners
  runnerCount : w'.runnerCount = w.runnerCount
  invocations : w'.invocations = w.invocations
  entries : w'.entries = w.entries ∨ ∃ e, w'.entries = w.entries ++ [e] ∧
    ∀ claim, e.event = .claim claim → Event.claim claim ∉ w.events

theorem Grows.refl (w : World) : Grows w w := ⟨rfl, rfl, rfl, .inl rfl⟩

section Growth

variable {w w' : World}

theorem Grows.abandon (h : Grows w w') (k : Nat) (claim : PairedRunClaim) :
    Grows w (w'.abandon k claim) := by
  unfold World.abandon
  cases w'.stores k with
  | none => exact h
  | some m => exact ⟨h.runners, h.runnerCount, h.invocations, h.entries⟩

theorem Grows.prepare (w : World) (root : PairedRunRoot) (storage : Storage) :
    Grows w (w.prepare root storage).2 := by
  have hinstall : ∀ new, w.prepareAnswer root = .ok new →
      Grows w (if new then { w with root := some root } else w) := by
    intro new _
    cases new <;> exact ⟨rfl, rfl, rfl, .inl (rfl)⟩
  exact Storage.commit_induct (P := Grows w) (.refl w) hinstall hinstall

theorem claimAnswer_new (hw : Journal w) {m : Memory} {slot : SlotArgument}
    {claim : PairedRunClaim} (h : w.claimAnswer m slot = .ok claim) :
    Event.claim claim ∉ w.events := by
  obtain ⟨root, s, expected, hroot, hread, hopen, hexpected, rfl⟩ := claimAnswer_eq_ok h
  exact ((hw.prepared hroot hread).claim_next hopen hexpected).1

theorem Journal.refresh (hw : Journal w) {k : Nat} {m : Memory} (hm : w.stores k = some m) :
    Journal (w.refresh k m) :=
  (hw.keep (hw.stores k m hm) (honest_refresh (hw.authority k m hm))).of_eq rfl rfl rfl rfl

theorem Grows.claim (hw : Journal w) {k : Nat} {m : Memory} (hm : w.stores k = some m)
    (slot : SlotArgument) (storage : Storage) : Grows w (w.claim k m slot storage).2 := by
  have hnew : ∀ claim,
      (w.refresh k m).claimAnswer (m.refresh w.nonceCount) slot = .ok claim →
      Event.claim claim ∉ w.events :=
    fun _ h => claimAnswer_new (hw.refresh hm) h
  refine Storage.commit_induct (P := Grows w)
    ⟨rfl, rfl, rfl, .inl (rfl)⟩ ?_ ?_
  all_goals
    intro claim h
    refine ⟨rfl, rfl, rfl, .inr ⟨_, rfl, ?_⟩⟩
    intro claim' heq
    rw [← Event.claim.inj heq]
    exact hnew claim h

theorem Grows.bindingFor (w : World) (m : Memory) (claim : PairedRunClaim)
    (storage : Storage) : Grows w (w.bindingFor m claim storage).2 :=
  Storage.commit_induct (P := Grows w) (.refl w) (fun _ _ => .refl w) fun _ _ =>
    ⟨rfl, rfl, rfl, .inl (rfl)⟩

theorem Grows.complete (w : World) (k : Nat) (m : Memory) (binding : PairedOutcomeBinding)
    (evidence : Evidence) (storage : Storage) :
    Grows w (w.complete k m binding evidence storage).2 := by
  refine Storage.commit_induct (P := Grows w) (.refl w) ?_ ?_
  all_goals
    rintro ⟨checkpoint, new⟩ h
    cases new with
    | false => exact .refl w
    | true =>
      refine ⟨rfl, rfl, rfl, .inr ⟨_, rfl, ?_⟩⟩
      intro claim heq
      cases heq

theorem Grows.authored (h : Grows w w') {k : Nat} {claim : PairedRunClaim}
    (hmem : Event.claim claim ∈ w.events) (hauthored : w'.Authored k claim) :
    w.Authored k claim := by
  obtain ⟨nonce, hwrote⟩ := hauthored
  rcases h.entries with heq | ⟨e, heq, hnew⟩
  · exact ⟨nonce, by rwa [World.Wrote, heq] at hwrote⟩
  · rw [World.Wrote, heq] at hwrote
    rcases List.mem_append.mp hwrote with hold | hlast
    · exact ⟨nonce, hold⟩
    · rw [← List.mem_singleton.mp hlast] at hnew
      exact absurd hmem (hnew claim rfl)

theorem Grows.events (h : Grows w w') {event : Event} (hmem : event ∈ w.events) :
    event ∈ w'.events := by
  rcases h.entries with heq | ⟨e, heq, _⟩
  · rwa [World.events, heq]
  · rw [World.events, heq, List.map_append]
    exact List.mem_append_left _ hmem

theorem Grows.authored_of (h : Grows w w') {k : Nat} {claim : PairedRunClaim}
    (hauthored : w.Authored k claim) : w'.Authored k claim := by
  obtain ⟨nonce, hwrote⟩ := hauthored
  rcases h.entries with heq | ⟨e, heq, _⟩
  · exact ⟨nonce, by rwa [World.Wrote, heq]⟩
  · exact ⟨nonce, by rw [World.Wrote, heq]; exact List.mem_append_left _ hwrote⟩

theorem Calls.grow (hc : Calls w) (h : Grows w w') : Calls w' := by
  have hholds : ∀ {r runner claim}, w.runners r = some runner → w'.Holds runner claim →
      w.Holds runner claim := by
    intro r runner claim hr hholds
    exact ⟨hholds.1, h.authored (hc.known r runner claim hr hholds.1) hholds.2⟩
  refine ⟨?_, ?_, ?_, ?_, ?_, ?_, ?_, ?_⟩
  · rw [h.invocations]
    exact hc.once
  · rw [h.invocations]
    exact fun i hi => h.events (hc.recorded i hi)
  · rw [h.runners, h.runnerCount]
    exact hc.numbered
  · rw [h.runners]
    exact fun r runner claim hr hpending => h.events (hc.known r runner claim hr hpending)
  · rw [h.runners]
    exact fun r runner binding hr harmed => h.authored_of (hc.armed r runner binding hr harmed)
  · rw [h.runners]
    exact fun r r' runner runner' claim hr hr' hh hh' =>
      hc.alone r r' runner runner' claim hr hr' (hholds hr hh) (hholds hr' hh')
  · rw [h.runners, h.invocations]
    exact fun r runner claim hr hh => hc.unrun r runner claim hr (hholds hr hh)
  · rw [h.runners, h.invocations]
    exact fun r runner claim hr hh => hc.unplanned r runner claim hr (hholds hr hh)

end Growth

/-! ## The calls go on -/

section Moves

variable {w : World} {r : Nat} {runner : Runner}

theorem goTo_runners {j : Nat} {runner' : Runner} (h : (w.goTo r phase).runners j = some runner') :
    (j = r ∧ ∃ runner, w.runners r = some runner ∧
        runner' = { runner with phase := phase }) ∨
      j ≠ r ∧ w.runners j = some runner' := by
  change Function.update w.runners r _ j = some runner' at h
  by_cases hj : j = r
  · subst hj
    rw [Function.update_self] at h
    obtain ⟨runner, hrunner, rfl⟩ := Option.map_eq_some_iff.mp h
    exact .inl ⟨rfl, runner, hrunner, rfl⟩
  · rw [Function.update_of_ne hj] at h
    exact .inr ⟨hj, h⟩

theorem Calls.move (hc : Calls w) (hr : w.runners r = some runner)
    {asked : List (ExecutorCall × PairedRunClaim)}
    (hpending : ∀ claim, phase.pending = some claim → runner.phase.pending = some claim)
    (harmed : ∀ binding, phase.Armed binding → w.Authored runner.store binding.claim)
    (hholds : ∀ i ∈ asked, w.Holds runner i.2) (hnodup : (w.invocations ++ asked).Nodup)
    (hunrun : ∀ claim, phase.pending = some claim → (.runArm, claim) ∉ asked)
    (hunplanned : ∀ claim, phase.pending = some claim → (∀ b, phase ≠ .planned b) →
      (.planArm, claim) ∉ asked ∧ ∀ b, runner.phase ≠ .planned b) :
    Calls (World.goTo { w with invocations := w.invocations ++ asked } r phase) := by
  -- another call holds no claim that is asked for, so what it waits for is still unasked
  have hother : ∀ {j runner' claim call}, j ≠ r → w.runners j = some runner' →
      w.Holds runner' claim → (call, claim) ∉ asked := by
    intro j runner' claim call hne hj hh hmem
    exact hne (hc.alone j r runner' runner claim hj hr hh (hholds _ hmem))
  have hself : ∀ {moved : Runner}, w.runners r = some moved → moved = runner :=
    fun h => Option.some.inj (h.symm.trans hr)
  refine ⟨hnodup, ?_, ?_, ?_, ?_, ?_, ?_, ?_⟩
  · intro i hi
    rcases List.mem_append.mp hi with hi | hi
    · exact hc.recorded i hi
    · obtain ⟨nonce, hwrote⟩ := (hholds i hi).2
      exact List.mem_map_of_mem (f := Entry.event) hwrote
  · intro j runner' hj
    rcases goTo_runners hj with ⟨rfl, moved, hmoved, rfl⟩ | ⟨_, hj⟩
    · exact hc.numbered j moved hmoved
    · exact hc.numbered j runner' hj
  · intro j runner' claim hj hp
    rcases goTo_runners hj with ⟨rfl, moved, hmoved, rfl⟩ | ⟨_, hj⟩
    · exact hc.known j runner claim hr (hpending claim hp)
    · exact hc.known j runner' claim hj hp
  · intro j runner' binding hj ha
    rcases goTo_runners hj with ⟨rfl, moved, hmoved, rfl⟩ | ⟨_, hj⟩
    · cases hself hmoved
      exact harmed binding ha
    · exact hc.armed j runner' binding hj ha
  · have hback : ∀ {j runner' claim}, (w.goTo r phase).runners j = some runner' →
        w.Holds runner' claim → ∃ before, w.runners j = some before ∧ w.Holds before claim := by
      intro j runner' claim hj hh
      rcases goTo_runners hj with ⟨rfl, moved, hmoved, rfl⟩ | ⟨_, hj⟩
      · cases hself hmoved
        exact ⟨runner, hr, hpending claim hh.1, hh.2⟩
      · exact ⟨runner', hj, hh⟩
    intro j j' runner' runner'' claim hj hj' hh hh'
    obtain ⟨before, hbefore, hheld⟩ := hback hj hh
    obtain ⟨before', hbefore', hheld'⟩ := hback hj' hh'
    exact hc.alone j j' before before' claim hbefore hbefore' hheld hheld'
  · intro j runner' claim hj hh hmem
    rcases goTo_runners hj with ⟨rfl, moved, hmoved, rfl⟩ | ⟨hne, hj⟩
    · cases hself hmoved
      rcases List.mem_append.mp hmem with hmem | hmem
      · exact hc.unrun j runner claim hr ⟨hpending claim hh.1, hh.2⟩ hmem
      · exact hunrun claim hh.1 hmem
    · rcases List.mem_append.mp hmem with hmem | hmem
      · exact hc.unrun j runner' claim hj hh hmem
      · exact hother hne hj hh hmem
  · intro j runner' claim hj hh hplanned hmem
    rcases goTo_runners hj with ⟨rfl, moved, hmoved, rfl⟩ | ⟨hne, hj⟩
    · cases hself hmoved
      obtain ⟨hasked, hbefore⟩ := hunplanned claim hh.1 hplanned
      rcases List.mem_append.mp hmem with hmem | hmem
      · exact hc.unplanned j runner claim hr ⟨hpending claim hh.1, hh.2⟩ hbefore hmem
      · exact hasked hmem
    · rcases List.mem_append.mp hmem with hmem | hmem
      · exact hc.unplanned j runner' claim hj hh hplanned hmem
      · exact hother hne hj hh hmem

theorem Calls.release (hc : Calls w) (h : phase.pending = none) : Calls (w.goTo r phase) := by
  cases hr : w.runners r with
  | none =>
    have hsame : w.goTo r phase = w := by
      unfold World.goTo
      rw [hr, Option.map_none, ← hr, Function.update_eq_self]
    rw [hsame]
    exact hc
  | some runner =>
    have hnone : ∀ claim, phase.pending ≠ some claim := by
      rw [h]
      exact fun claim => nofun
    have honce : (w.invocations ++ []).Nodup := by
      rw [List.append_nil]
      exact hc.once
    have hmove := hc.move hr (fun claim hp => absurd hp (hnone claim))
      (fun binding ha => absurd ha.pending (hnone _)) (fun i hi => by cases hi) honce
      (fun claim hp => absurd hp (hnone claim)) (fun claim hp => absurd hp (hnone claim))
    rwa [List.append_nil] at hmove

theorem Calls.take (hc : Calls w) {claim : PairedRunClaim}
    (hmem : Event.claim claim ∈ w.events)
    (hnew : ∀ j runner, w.runners j = some runner → runner.phase.pending ≠ some claim)
    (hunasked : ∀ call, (call, claim) ∉ w.invocations) :
    Calls (w.goTo r (.claimed claim)) := by
  -- whoever holds the claim afterwards is the call that took it
  have hheld : ∀ {j runner' claim'}, (w.goTo r (.claimed claim)).runners j = some runner' →
      runner'.phase.pending = some claim' →
      (j = r ∧ claim' = claim) ∨ (j ≠ r ∧ w.runners j = some runner' ∧ claim' ≠ claim) := by
    intro j runner' claim' hj hp
    rcases goTo_runners hj with ⟨rfl, moved, _, rfl⟩ | ⟨hne, hold⟩
    · exact .inl ⟨rfl, (Option.some.inj hp).symm⟩
    · refine .inr ⟨hne, hold, ?_⟩
      rintro rfl
      exact hnew j runner' hold hp
  refine ⟨hc.once, hc.recorded, ?_, ?_, ?_, ?_, ?_, ?_⟩
  · intro j runner' hj
    rcases goTo_runners hj with ⟨rfl, moved, hmoved, rfl⟩ | ⟨_, hj⟩
    · exact hc.numbered j moved hmoved
    · exact hc.numbered j runner' hj
  · intro j runner' claim' hj hp
    rcases hheld hj hp with ⟨_, rfl⟩ | ⟨_, hj, _⟩
    · exact hmem
    · exact hc.known j runner' claim' hj hp
  · intro j runner' binding hj ha
    rcases goTo_runners hj with ⟨rfl, moved, _, rfl⟩ | ⟨_, hj⟩
    · rcases ha with ha | ha <;> cases ha
    · exact hc.armed j runner' binding hj ha
  · intro j j' runner' runner'' claim' hj hj' hh hh'
    rcases hheld hj hh.1 with ⟨rfl, rfl⟩ | ⟨_, hold, hne⟩
    · rcases hheld hj' hh'.1 with ⟨rfl, _⟩ | ⟨_, _, hne'⟩
      · rfl
      · exact absurd rfl hne'
    · rcases hheld hj' hh'.1 with ⟨_, rfl⟩ | ⟨_, hold', _⟩
      · exact absurd rfl hne
      · exact hc.alone j j' runner' runner'' claim' hold hold' hh hh'
  · intro j runner' claim' hj hh
    rcases hheld hj hh.1 with ⟨_, rfl⟩ | ⟨_, hold, _⟩
    · exact hunasked _
    · exact hc.unrun j runner' claim' hold hh
  · intro j runner' claim' hj hh hplanned
    rcases hheld hj hh.1 with ⟨_, rfl⟩ | ⟨_, hold, _⟩
    · exact hunasked _
    · exact hc.unplanned j runner' claim' hold hh hplanned

theorem Calls.addRunner (hc : Calls w) {runner : Runner}
    (hknown : ∀ claim, runner.phase.pending = some claim → Event.claim claim ∈ w.events)
    (harmed : ∀ binding, ¬ runner.phase.Armed binding)
    (hholds : ∀ claim, ¬ w.Holds runner claim) : Calls (w.addRunner runner) := by
  have hcases : ∀ {j runner'}, (w.addRunner runner).runners j = some runner' →
      (j = w.runnerCount ∧ runner' = runner) ∨ w.runners j = some runner' := by
    intro j runner' hj
    exact some_of_update hj
  refine ⟨hc.once, hc.recorded, ?_, ?_, ?_, ?_, ?_, ?_⟩
  · intro j runner' hj
    rcases hcases hj with ⟨rfl, _⟩ | hj
    · exact Nat.lt_succ_self _
    · exact Nat.lt_succ_of_lt (hc.numbered j runner' hj)
  · intro j runner' claim hj hp
    rcases hcases hj with ⟨_, rfl⟩ | hj
    · exact hknown claim hp
    · exact hc.known j runner' claim hj hp
  · intro j runner' binding hj ha
    rcases hcases hj with ⟨_, rfl⟩ | hj
    · exact absurd ha (harmed binding)
    · exact hc.armed j runner' binding hj ha
  · intro j j' runner' runner'' claim hj hj' hh hh'
    rcases hcases hj with ⟨_, rfl⟩ | hj
    · exact absurd hh (hholds claim)
    · rcases hcases hj' with ⟨_, rfl⟩ | hj'
      · exact absurd hh' (hholds claim)
      · exact hc.alone j j' runner' runner'' claim hj hj' hh hh'
  · intro j runner' claim hj hh
    rcases hcases hj with ⟨_, rfl⟩ | hj
    · exact absurd hh (hholds claim)
    · exact hc.unrun j runner' claim hj hh
  · intro j runner' claim hj hh hplanned
    rcases hcases hj with ⟨_, rfl⟩ | hj
    · exact absurd hh (hholds claim)
    · exact hc.unplanned j runner' claim hj hh hplanned

theorem Calls.settle {α : Type} {cleanup : World → World} {next : α → Phase}
    {result : Except PairedError α × World} (hresult : Calls result.2)
    (hcleanup : Calls (cleanup result.2)) (hnext : ∀ a, (next a).pending = none) :
    Calls (World.settle r cleanup next result).2 := by
  unfold World.settle
  cases result.1 with
  | error e => exact hcleanup.release rfl
  | ok a => exact hresult.release (hnext a)

/-! ## One stretch of a call -/

theorem Calls.ready (hc : Calls w) (hw : Journal w) {k : Nat} {m : Memory}
    (hm : w.stores k = some m) (slot : SlotArgument) (storage : Storage) :
    Calls (World.settle r id .claimed (w.claim k m slot storage)).2 := by
  have hgrows := Grows.claim hw hm slot storage
  have hresult := hc.grow hgrows
  unfold World.settle
  split
  · exact hresult.release rfl
  · next claim hok =>
    obtain ⟨hanswer, hkept⟩ := Storage.commit_ok hok
    have hnew : Event.claim claim ∉ w.events := claimAnswer_new (hw.refresh hm) hanswer
    refine hresult.take ?_ ?_ ?_
    · rw [show (w.claim k m slot storage).2 = _ from hkept]
      exact List.mem_map_of_mem (f := Entry.event)
        (List.mem_append_right _ (List.mem_singleton.mpr rfl))
    · intro j runner' hj hp
      rw [hgrows.runners] at hj
      exact hnew (hc.known j runner' claim hj hp)
    · intro call hmem
      rw [hgrows.invocations] at hmem
      exact hnew (hc.recorded _ hmem)

theorem Calls.claimed (hc : Calls w) (hw : Journal w) {m : Memory}
    (hr : w.runners r = some runner) (hm : w.stores runner.store = some m)
    {claim : PairedRunClaim} (hphase : runner.phase = .claimed claim) (storage : Storage) :
    Calls (World.settle r (World.abandon runner.store claim) .bound
      (w.bindingFor m claim storage)).2 := by
  have hgrows := Grows.bindingFor w m claim storage
  unfold World.settle
  split
  · exact (hc.grow (hgrows.abandon _ _)).release rfl
  · next binding hok =>
    obtain ⟨hanswer, hkept⟩ := Storage.commit_ok hok
    obtain ⟨rfl, howns, _⟩ := bindingAnswer_eq_ok hanswer
    have hauthored : w.Authored runner.store binding.claim := ⟨_, hw.owner_wrote hm howns⟩
    have hresult := hc.grow hgrows
    have hrunner : (w.bindingFor m binding.claim storage).2.runners r = some runner := by
      rw [hgrows.runners]
      exact hr
    have hpending : ∀ claim, (Phase.bound binding).pending = some claim →
        runner.phase.pending = some claim := by
      intro claim hp
      rw [hphase]
      exact hp
    have honce : ((w.bindingFor m binding.claim storage).2.invocations ++ []).Nodup := by
      rw [List.append_nil]
      exact hresult.once
    have harmed : ∀ binding', (Phase.bound binding).Armed binding' →
        (w.bindingFor m binding.claim storage).2.Authored runner.store binding'.claim := by
      intro binding' ha
      rcases ha with ha | ha <;> cases ha
      exact hgrows.authored_of hauthored
    have hplanned : ∀ b, runner.phase ≠ .planned b := by
      rw [hphase]
      exact fun _ => nofun
    have hmove := hresult.move hrunner hpending harmed (fun i hi => by cases hi) honce
      (fun _ _ hmem => by cases hmem) (fun _ _ _ => ⟨List.not_mem_nil, hplanned⟩)
    rwa [List.append_nil] at hmove

theorem Calls.bound (hc : Calls w) (hr : w.runners r = some runner)
    (hphase : runner.phase = .bound binding) :
    Calls ((w.invoke .planArm binding.claim).goTo r (.planned binding)) := by
  have harmed : runner.phase.Armed binding := .inl hphase
  have hholds : w.Holds runner binding.claim :=
    ⟨harmed.pending, hc.armed r runner binding hr harmed⟩
  have hunplanned := hc.unplanned r runner _ hr hholds (by rw [hphase]; exact fun _ => nofun)
  refine hc.move hr ?_ ?_ ?_ (List.nodup_append.mpr ⟨hc.once, List.nodup_singleton _, ?_⟩) ?_ ?_
  · intro claim hp
    rw [hphase]
    exact hp
  · intro binding' ha
    rcases ha with ha | ha <;> cases ha
    exact hholds.2
  · intro i hi
    rw [List.mem_singleton.mp hi]
    exact hholds
  · rintro i hi j hj rfl
    rw [List.mem_singleton.mp hj] at hi
    exact hunplanned hi
  · intro claim _ hmem
    exact absurd (List.mem_singleton.mp hmem) (by simp)
  · intro claim _ hne
    exact absurd rfl (hne binding)

theorem Calls.planned (hc : Calls w) (hr : w.runners r = some runner)
    (hphase : runner.phase = .planned binding) :
    Calls ((w.invoke .runArm binding.claim).goTo r (.ran binding)) := by
  have harmed : runner.phase.Armed binding := .inr hphase
  have hholds : w.Holds runner binding.claim :=
    ⟨harmed.pending, hc.armed r runner binding hr harmed⟩
  have hunrun := hc.unrun r runner _ hr hholds
  refine hc.move hr ?_ ?_ ?_ (List.nodup_append.mpr ⟨hc.once, List.nodup_singleton _, ?_⟩) ?_ ?_
  · intro claim hp
    cases hp
  · intro binding' ha
    rcases ha with ha | ha <;> cases ha
  · intro i hi
    rw [List.mem_singleton.mp hi]
    exact hholds
  · rintro i hi j hj rfl
    rw [List.mem_singleton.mp hj] at hi
    exact hunrun hi
  · intro claim hp
    cases hp
  · intro claim hp
    cases hp

theorem Calls.advance (hc : Calls w) (hw : Journal w) {m : Memory}
    (hr : w.runners r = some runner) (hm : w.stores runner.store = some m)
    (storage : Storage) (raises : Option PairedError) (evidence : Evidence) :
    Calls (w.advance r runner m storage raises evidence).2 := by
  have habandon : ∀ claim, Calls (w.abandon runner.store claim) := fun claim =>
    hc.grow ((Grows.refl w).abandon _ _)
  unfold World.advance
  cases hphase : runner.phase with
  | preparing =>
    have h := hc.grow (Grows.prepare w runner.root storage)
    exact Calls.settle h h fun _ => rfl
  | looking =>
    have h : Calls (storage.commit (w.resumable m runner.root) w (fun _ => w)
        fun _ => w).2 := Storage.commit_induct (P := Calls) hc (fun _ _ => hc) fun _ _ => hc
    refine Calls.settle h h ?_
    intro slot
    cases slot <;> rfl
  | ready slot =>
    cases raises with
    | some e => exact hc.release rfl
    | none => exact hc.ready hw hm (.slot slot) storage
  | claimed claim => exact hc.claimed hw hr hm hphase storage
  | bound binding => exact hc.bound hr hphase
  | planned binding =>
    cases raises with
    | some e => exact (habandon _).release rfl
    | none => exact hc.planned hr hphase
  | ran binding =>
    cases raises with
    | some e => exact (habandon _).release rfl
    | none =>
      have hgrows := Grows.complete w runner.store m binding evidence storage
      exact Calls.settle (hc.grow hgrows) (hc.grow (hgrows.abandon _ _)) fun _ => rfl
  | ended => exact hc

end Moves

end LocalMoe.Paired
