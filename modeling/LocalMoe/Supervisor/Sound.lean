/-
  An endpoint is given back only after a verified cleanup.
-/
import LocalMoe.Supervisor.Session

namespace LocalMoe.Supervisor

open Foundation Foundation.Effect

variable {digest : LeaseReceipt → String} {bindingSha256 : String}

/-! ## States -/

/-- The states in the order in which a lease takes them. -/
def LeaseState.rank : LeaseState → Nat
  | .prepared => 0
  | .starting => 1
  | .ready => 2
  | .revoked => 3
  | .stopping => 4
  | .unknownBlocking => 5
  | .stopped => 6

variable {target : LeaseState}

theorem rank_le_of_allowed {current : LeaseState} (h : transitionAllowed current target = true) :
    current.rank ≤ target.rank := by
  cases current <;> cases target <;> first | decide | exact absurd h (by decide)

/-- The adapter's `stop` returned, and after it no unknown cleanup was reported. -/
def CleanedUp (log : List Touch) : Prop :=
  ∃ before after, log = before ++ [.adapterStop true, .cleanupUnknown false] ++ after

theorem CleanedUp.append {log : List Touch} (h : CleanedUp log) (more : List Touch) :
    CleanedUp (log ++ more) := by
  obtain ⟨before, after, rfl⟩ := h
  exact ⟨before, after ++ more, by simp only [List.append_assoc]⟩

/-- The session agrees with its ledger. -/
structure Inv (s : System) : Prop where
  chain : s.session.leaseChain = s.ledger.committed
  last : ∃ earlier r, s.ledger.committed = earlier ++ [r] ∧ s.session.state = r.state ∧
    r.wellFormed = true ∧ (s.ledger.row = if r.state = .stopped then none else some r) ∧
    (s.ledger.released = true → r.state = .stopped ∨ r.state = .unknownBlocking)

/-- What a call has done so far. -/
structure Reached (s₀ s : System) : Prop where
  inv : Inv s
  rank : s₀.session.state.rank ≤ s.session.state.rank
  final : s.session.finalReceipt = s₀.session.finalReceipt
  gone : s₀.ledger.row ≠ none → s.ledger.row = none → CleanedUp s.log

variable {s : System}

theorem Inv.row_eq_some (h : Inv s) {current : LeaseReceipt} (hrow : s.ledger.row = some current) :
    s.session.state = current.state ∧ current.wellFormed = true := by
  obtain ⟨_, r, _, hstate, hwell, hr, _⟩ := h.last
  rw [hr] at hrow
  split at hrow
  · cases hrow
  · cases hrow
    exact ⟨hstate, hwell⟩

/-! ## Pieces that leave the ledger alone -/

variable {s₀ : System}

theorem Reached.update (h : Reached s₀ s) {f : Session → Session}
    (hstate : (f s.session).state = s.session.state)
    (hchain : (f s.session).leaseChain = s.session.leaseChain)
    (hfinal : (f s.session).finalReceipt = s.session.finalReceipt) :
    Reached s₀ { s with session := f s.session } where
  inv := ⟨hchain.trans h.inv.chain, by
    obtain ⟨earlier, r, hcommitted, hsame, hrest⟩ := h.inv.last
    exact ⟨earlier, r, hcommitted, hstate.trans hsame, hrest⟩⟩
  rank := by
    rw [show ({ s with session := f s.session } : System).session.state = s.session.state from
      hstate]
    exact h.rank
  final := hfinal.trans h.final
  gone := h.gone

theorem Reached.note (h : Reached s₀ s) (touch : Touch) :
    Reached s₀ { s with log := s.log ++ [touch] } where
  inv := ⟨h.inv.chain, h.inv.last⟩
  rank := h.rank
  final := h.final
  gone := fun hsome hnone => (h.gone hsome hnone).append _

theorem note_reached {touch : Touch} :
    Triple (Reached s₀) (note touch) (fun _ => Reached s₀) (fun _ => Reached s₀) :=
  .modify fun _ h => h.note touch

theorem update_reached {f : Session → Session}
    (hf : ∀ session, (f session).state = session.state ∧
      (f session).leaseChain = session.leaseChain ∧
      (f session).finalReceipt = session.finalReceipt) :
    Triple (Reached s₀) (update f) (fun _ => Reached s₀) (fun _ => Reached s₀) :=
  .modify fun s h => h.update (hf s.session).1 (hf s.session).2.1 (hf s.session).2.2

theorem addReason_reached {reason : Reason} :
    Triple (Reached s₀) (addReason reason) (fun _ => Reached s₀) (fun _ => Reached s₀) :=
  update_reached fun _ => ⟨rfl, rfl, rfl⟩

theorem setLedgerFailed_reached :
    Triple (Reached s₀) setLedgerFailed (fun _ => Reached s₀) (fun _ => Reached s₀) :=
  update_reached fun _ => ⟨rfl, rfl, rfl⟩

/-! ## Transitions -/

variable {reasons : Finset Reason} {runtime : Option RuntimeIdentity}
  {processTree endpoint : Option String} {answer : LedgerAnswer}

theorem attempt_eq_ok {ledger : Ledger} {receipt : LeaseReceipt}
    (h : attempt digest ledger target reasons runtime processTree endpoint answer = .ok receipt) :
    ledger.released = false ∧ (∃ current, ledger.row = some current ∧
      transitionAllowed current.state target = true) ∧ receipt.state = target ∧
      receipt.wellFormed = true := by
  obtain ⟨hreleased, h⟩ := check_bind_eq_ok.mp h
  refine ⟨hreleased, ?_⟩
  split at h
  · cases h
  · rename_i current hrow
    obtain ⟨hallowed, h⟩ := check_bind_eq_ok.mp h
    obtain ⟨_, h⟩ := check_bind_eq_ok.mp h
    obtain ⟨hwell, h⟩ := check_bind_eq_ok.mp h
    cases h
    exact ⟨⟨current, hrow, hallowed⟩, rfl, hwell⟩

variable {touch : Bool → Touch}

theorem transition_reached :
    Triple (fun s => Reached s₀ s ∧ (target = .stopped → CleanedUp s.log))
      (transition digest touch target reasons runtime processTree endpoint answer)
      (fun receipt s => Reached s₀ s ∧ s.session.state = target ∧ receipt.state = target ∧
        (target = .stopped → s.ledger.row = none))
      (fun _ => Reached s₀) := by
  rintro s ⟨hreached, hclean⟩
  unfold transition
  split
  · rename_i receipt hattempt
    obtain ⟨hreleased, ⟨current, hrow, hallowed⟩, hstate, hwell⟩ := attempt_eq_ok hattempt
    refine ⟨fun a t h => ?_, fun e t h => by cases h⟩
    cases h
    refine ⟨⟨⟨congrArg (· ++ [receipt]) hreached.inv.chain, s.ledger.committed, receipt, rfl, rfl,
      hwell, rfl, fun h => ?_⟩, ?_, hreached.final, fun _ hnone => ?_⟩, hstate, hstate, fun h => ?_⟩
    · have hflags : (false || decide (receipt.state = .stopped) ||
          decide (receipt.state = .unknownBlocking)) = true := hreleased ▸ h
      simpa using hflags
    · change s₀.session.state.rank ≤ receipt.state.rank
      rw [hstate]
      exact hreached.rank.trans ((hreached.inv.row_eq_some hrow).1 ▸ rank_le_of_allowed hallowed)
    · refine (hclean ?_).append _
      by_contra hne
      have hsome : (if receipt.state = .stopped then none else some receipt) = none := hnone
      rw [if_neg (hstate ▸ hne)] at hsome
      cases hsome
    · exact if_pos (hstate.trans h)
  · refine ⟨fun a t h => (by cases h), fun e t h => ?_⟩
    cases h
    exact hreached.note _

theorem transition_reached_of_ne (hne : target ≠ .stopped) :
    Triple (Reached s₀)
      (transition digest touch target reasons runtime processTree endpoint answer)
      (fun receipt s => Reached s₀ s ∧ s.session.state = target ∧ receipt.state = target)
      (fun _ => Reached s₀) :=
  transition_reached.weaken (fun _ h => ⟨h, fun hs => absurd hs hne⟩)
    (fun _ _ h => ⟨h.1, h.2.1, h.2.2.1⟩) fun _ _ h => h

/-- What the pieces of `start` and `inspect` keep. -/
structure Kept (digest : LeaseReceipt → String) (I : System → Prop) : Prop where
  update : ∀ {f : Session → Session}, (∀ session, (f session).state = session.state ∧
    (f session).leaseChain = session.leaseChain ∧
    (f session).finalReceipt = session.finalReceipt) →
    Triple I (update f) (fun _ => I) (fun _ => I)
  note : ∀ {touch : Touch}, Triple I (note touch) (fun _ => I) (fun _ => I)
  starting : ∀ {process : RuntimeIdentity} {answer : LedgerAnswer},
    Triple I (transition digest .observed .starting ∅ (some process) none none answer)
      (fun _ => I) (fun _ => I)
  ready : ∀ {processTree endpoint : Option String} {answer : LedgerAnswer},
    Triple I (transition digest (.transition .ready) .ready ∅ none processTree endpoint answer)
      (fun _ => I) (fun _ => I)

theorem kept_reached (s₀ : System) : Kept digest (Reached s₀) where
  update := update_reached
  note := note_reached
  starting := (transition_reached_of_ne (by decide)).weaken (fun _ h => h) (fun _ _ h => h.1)
    fun _ _ h => h
  ready := (transition_reached_of_ne (by decide)).weaken (fun _ h => h) (fun _ _ h => h.1)
    fun _ _ h => h

/-- A state that is not past "ready". -/
def Low (s : System) : Prop := s.session.state.rank ≤ 2

theorem transition_low (hlow : target.rank ≤ 2) :
    Triple Low (transition digest touch target reasons runtime processTree endpoint answer)
      (fun _ => Low) (fun _ => Low) := by
  intro s hs
  unfold transition
  split
  · rename_i receipt hattempt
    refine ⟨fun a t h => ?_, fun e t h => by cases h⟩
    cases h
    change receipt.state.rank ≤ 2
    rwa [(attempt_eq_ok hattempt).2.2.1]
  · refine ⟨fun a t h => (by cases h), fun e t h => ?_⟩
    cases h
    exact hs

theorem kept_low : Kept digest Low where
  update := fun {f} hf => .modify fun s h => by
    change (f s.session).state.rank ≤ 2
    rwa [(hf s.session).1]
  note := .modify fun _ h => h
  starting := transition_low (by decide)
  ready := transition_low (by decide)

theorem Kept.and {I J : System → Prop} (hI : Kept digest I) (hJ : Kept digest J) :
    Kept digest fun s => I s ∧ J s where
  update := fun hf => (hI.update hf).and (hJ.update hf)
  note := hI.note.and hJ.note
  starting := hI.starting.and hJ.starting
  ready := hI.ready.and hJ.ready

section Keeping

variable {I : System → Prop}

theorem runCallbacks_kept (hI : Kept digest I) (callbacks : List Callback) :
    Triple I (runCallbacks digest callbacks) (fun _ => I) (fun _ => I) := by
  induction callbacks with
  | nil => exact .pure fun _ h => h
  | cons callback rest ih =>
    cases callback with
    | launched => exact .bind (hI.update fun _ => ⟨rfl, rfl, rfl⟩) fun _ => ih
    | observed process answer =>
      refine .bind (.handle (F := fun _ => I) ?_ fun _ => .pure fun _ h => h) fun _ => ih
      exact .bind hI.starting fun _ => .pure fun _ h => h

theorem callAdapter_kept (hI : Kept digest I) {α : Type} {touch : Touch} {call : AdapterCall α} :
    Triple I (callAdapter digest touch call) (fun _ => I) (fun _ => I) :=
  .bind hI.note fun _ => .bind (runCallbacks_kept hI _) fun _ => .ofExcept_kept

theorem startBody_kept (hI : Kept digest I) {script : StartScript} :
    Triple I (startBody digest script) (fun _ => I) (fun _ => I) := by
  unfold startBody
  exact .bind .ofExcept_kept fun _ => .bind (callAdapter_kept hI) fun evidence =>
    .bind .get_kept fun _ => .bind .ofExcept_kept fun _ =>
    .bind (hI.update fun _ => ⟨rfl, rfl, rfl⟩) fun _ => .bind .ofExcept_kept fun _ =>
    .bind (callAdapter_kept hI) fun observed => .bind .get_kept fun _ =>
    .bind .ofExcept_kept fun _ => .bind (hI.update fun _ => ⟨rfl, rfl, rfl⟩) fun _ =>
    .bind hI.ready fun _ => .bind .ofExcept_kept fun _ => .pure fun _ h => h

theorem inspectBody_kept (hI : Kept digest I) {script : InspectScript} :
    Triple I (inspectBody digest script) (fun _ => I) (fun _ => I) := by
  unfold inspectBody
  refine .bind (callAdapter_kept hI) fun evidence => .bind .get_kept fun _ =>
    .bind .ofExcept_kept fun _ => .bind .ofExcept_kept fun rehash => .ite (fun _ => ?_) fun _ =>
    .bind (hI.update fun _ => ⟨rfl, rfl, rfl⟩) fun _ => .pure fun _ h => h
  exact .bind .ofExcept_kept fun _ => .bind (callAdapter_kept hI) fun observed =>
    .bind .get_kept fun _ => .bind .ofExcept_kept fun _ =>
    .bind (hI.update fun _ => ⟨rfl, rfl, rfl⟩) fun _ => .pure fun _ h => h

end Keeping

/-! ## Failures -/

/-- What the recording of a failure keeps as well. -/
structure KeptAll (digest : LeaseReceipt → String) (I : System → Prop) : Prop extends
    Kept digest I where
  failing : ∀ {target : LeaseState} {reasons : Finset Reason} {answer : LedgerAnswer},
    target = .revoked ∨ target = .unknownBlocking →
    Triple I (transition digest (.transition target) target reasons none none none answer)
      (fun _ => I) (fun _ => I)

theorem keptAll_reached (s₀ : System) : KeptAll digest (Reached s₀) where
  toKept := kept_reached s₀
  failing := fun htarget => (transition_reached_of_ne (by rcases htarget with rfl | rfl <;> decide)).weaken
    (fun _ h => h) (fun _ _ h => h.1) fun _ _ h => h

/-- The endpoint has not been given back. -/
def Held (s : System) : Prop := s.ledger.row ≠ none

theorem transition_held (hne : target ≠ .stopped) :
    Triple Held (transition digest touch target reasons runtime processTree endpoint answer)
      (fun _ => Held) (fun _ => Held) := by
  intro s hs
  unfold transition
  split
  · rename_i receipt hattempt
    refine ⟨fun a t h => ?_, fun e t h => by cases h⟩
    cases h
    intro hnone
    have hsome : (if receipt.state = .stopped then none else some receipt) = none := hnone
    rw [if_neg ((attempt_eq_ok hattempt).2.2.1 ▸ hne)] at hsome
    cases hsome
  · refine ⟨fun a t h => (by cases h), fun e t h => ?_⟩
    cases h
    exact hs

theorem keptAll_held : KeptAll digest Held where
  update := fun _ => .modify fun _ h => h
  note := .modify fun _ h => h
  starting := transition_held (by decide)
  ready := transition_held (by decide)
  failing := fun htarget => transition_held (by rcases htarget with rfl | rfl <;> decide)

section KeepingAll

variable {I : System → Prop}

theorem ensureUnknown_kept (hI : KeptAll digest I) :
    Triple I (ensureUnknown digest answer) (fun _ => I) (fun _ => I) := by
  unfold ensureUnknown
  refine .bind (hI.update fun _ => ⟨rfl, rfl, rfl⟩) fun _ => .bind .get_kept fun s =>
    .ite (fun _ => .pure fun _ h => h) fun _ =>
    .ite (fun _ => hI.update fun _ => ⟨rfl, rfl, rfl⟩) fun _ =>
    .handle (F := fun _ => I) ?_ fun _ => hI.update fun _ => ⟨rfl, rfl, rfl⟩
  exact .bind (hI.failing (.inr rfl)) fun _ => .pure fun _ h => h

theorem recordFailure_kept (hI : KeptAll digest I) {code : String} {script : FailureScript} :
    Triple I (recordFailure digest code script) (fun _ => I) (fun _ => I) := by
  unfold recordFailure
  refine .bind (hI.update fun _ => ⟨rfl, rfl, rfl⟩) fun _ => .bind (R := fun _ => I)
    (.bind hI.note fun _ => .pure fun _ h => h) fun unknown => .bind .get_kept fun s =>
    .ite (fun _ => ensureUnknown_kept hI) fun _ => .ite (fun _ => ?_) fun _ => .pure fun _ h => h
  refine .handle (F := fun _ => I) ?_ fun _ => hI.update fun _ => ⟨rfl, rfl, rfl⟩
  exact .bind (hI.failing (.inl rfl)) fun _ => .pure fun _ h => h

theorem start_kept (hI : KeptAll digest I) {script : StartScript} :
    Triple I (start digest script) (fun _ => I) (fun _ => I) := by
  unfold start
  refine .bind .get_kept fun s => .ite (fun _ => .fail fun _ h => h) fun _ =>
    .handle (startBody_kept hI.toKept) fun _ => ?_
  exact .bind (recordFailure_kept hI) fun _ => .fail fun _ h => h

theorem inspect_kept (hI : KeptAll digest I) {script : InspectScript} :
    Triple I (inspect digest script) (fun _ => I) (fun _ => I) := by
  unfold inspect
  refine .bind .get_kept fun s => .ite (fun _ => .fail fun _ h => h) fun _ =>
    .handle (inspectBody_kept hI.toKept) fun _ => ?_
  exact .bind (recordFailure_kept hI) fun _ => .fail fun _ h => h

end KeepingAll

theorem nextReceipt_wellFormed {current : LeaseReceipt} (h : current.wellFormed = true)
    (htarget : target = .revoked ∨ target = .unknownBlocking) (hreasons : reasons ≠ ∅) {now : Nat} :
    (nextReceipt digest current target reasons none none none now).wellFormed = true := by
  unfold LeaseReceipt.wellFormed at h ⊢
  rcases htarget with rfl | rfl <;> simp_all [nextReceipt]

theorem attempt_of_low (hinv : Inv s) (hlow : Low s)
    (htarget : target = .revoked ∨ target = .unknownBlocking) (hreasons : reasons ≠ ∅)
    (hanswer : answer.fails = false) :
    ∃ receipt, attempt digest s.ledger target reasons none none none answer = .ok receipt := by
  obtain ⟨_, current, _, hstate, hwell, hrow, hreleased⟩ := hinv.last
  have hlow' : current.state.rank ≤ 2 := hstate ▸ hlow
  have hopen : s.ledger.released = false := by
    rw [← Bool.not_eq_true]
    intro h
    rcases hreleased h with h | h <;> rw [h] at hlow' <;> exact absurd hlow' (by decide)
  have hlive : current.state ≠ .stopped := by
    intro h
    rw [h] at hlow'
    exact absurd hlow' (by decide)
  have hallowed : transitionAllowed current.state target = true := by
    revert hlow'
    rcases htarget with rfl | rfl <;> cases current.state <;> decide
  rw [if_neg hlive] at hrow
  refine ⟨nextReceipt digest current target reasons none none none answer.now,
    check_bind_eq_ok.mpr ⟨hopen, ?_⟩⟩
  rw [hrow]
  exact check_bind_eq_ok.mpr ⟨hallowed, check_bind_eq_ok.mpr ⟨hanswer, check_bind_eq_ok.mpr
    ⟨nextReceipt_wellFormed hwell htarget hreasons, rfl⟩⟩⟩

theorem transition_past (htarget : target = .revoked ∨ target = .unknownBlocking)
    (hreasons : reasons ≠ ∅) (hanswer : answer.fails = false) :
    Triple (fun s => Reached s₀ s ∧ Low s)
      (transition digest (.transition target) target reasons none none none answer)
      (fun _ s => 3 ≤ s.session.state.rank) (fun _ _ => False) := by
  rintro s ⟨hreached, hlow⟩
  have hcommits : ∃ receipt, attempt digest s.ledger target reasons none none none answer =
      .ok receipt := attempt_of_low hreached.inv hlow htarget hreasons hanswer
  obtain ⟨receipt, hattempt⟩ := hcommits
  unfold transition
  rw [hattempt]
  refine ⟨fun a t h => ?_, fun e t h => by cases h⟩
  cases h
  change 3 ≤ receipt.state.rank
  rw [(attempt_eq_ok hattempt).2.2.1]
  rcases htarget with rfl | rfl <;> decide


theorem addReason_fresh {reason : Reason} :
    Triple (fun s => Reached s₀ s ∧ Low s) (addReason reason)
      (fun _ s => (Reached s₀ s ∧ Low s) ∧ reason ∈ s.session.reasons) (fun _ _ => False) :=
  .modify fun _ h => ⟨⟨Reached.update h.1
    (f := fun session => { session with reasons := insert reason session.reasons }) rfl rfl rfl,
    h.2⟩, Finset.mem_insert_self _ _⟩

theorem ensureUnknown_past (hanswer : answer.fails = false) :
    Triple (fun s => Reached s₀ s ∧ Low s) (ensureUnknown digest answer)
      (fun _ s => 3 ≤ s.session.state.rank) (fun _ _ => False) := by
  unfold ensureUnknown
  refine .bind addReason_fresh fun _ => .bind (R := fun now s => now = s ∧
    (Reached s₀ s ∧ Low s) ∧ .cleanupUnverified ∈ s.session.reasons)
    (.get fun s h => ⟨rfl, h⟩) fun now => .ite (fun hstate => .pure fun s h => ?_) fun _ =>
    .ite (fun hstate => .modify fun s h => ?_) fun _ => ?_
  · rw [← h.1, hstate]
    decide
  · change 3 ≤ s.session.state.rank
    rw [← h.1, hstate]
    decide
  · rintro s ⟨rfl, hfresh, hmem⟩
    have hreasons : now.session.reasons ≠ ∅ := Finset.ne_empty_of_mem hmem
    exact Triple.handle (P := fun s => Reached s₀ s ∧ Low s) (F := fun _ _ => False)
      (.bind (transition_past (.inr rfl) hreasons hanswer) fun _ => .pure fun _ h => h)
      (fun _ => .weaken (P := fun _ => False) (Q := fun _ _ => False) (E := fun _ _ => False)
        (fun _ h => h.elim) (fun _ h => h) (fun _ _ h => h.elim) fun _ _ h => h) now hfresh

theorem recordFailure_past {code : String} {script : FailureScript}
    (hanswer : script.answer.fails = false) :
    Triple (fun s => Reached s₀ s ∧ Low s) (recordFailure digest code script)
      (fun _ s => 3 ≤ s.session.state.rank) (fun _ _ => False) := by
  unfold recordFailure
  refine .bind (addReason_fresh.weaken (fun _ h => h) (fun _ _ h => h.1) fun _ _ h => h) fun _ =>
    .bind (R := fun _ s => Reached s₀ s ∧ Low s) (.bind (R := fun _ s => Reached s₀ s ∧ Low s)
      (.modify fun _ h => ⟨h.1.note _, h.2⟩) fun _ => .pure fun _ h => h) fun unknown =>
    .bind (R := fun now s => now = s ∧ Reached s₀ s ∧ Low s) (.get fun s h => ⟨rfl, h⟩) fun now =>
    .ite (fun _ => (ensureUnknown_past hanswer).weaken (fun _ h => h.2) (fun _ _ h => h)
      fun _ _ h => h) fun _ => .ite (fun _ => ?_) fun hstate => .pure fun s h => ?_
  · refine .handle (F := fun _ _ => False) ?_ fun _ =>
      .weaken (P := fun _ => False) (Q := fun _ _ => False) (E := fun _ _ => False)
        (fun _ h => h.elim) (fun _ h => h) (fun _ _ h => h.elim) fun _ _ h => h
    exact .bind ((transition_past (.inl rfl) (Finset.singleton_ne_empty _) hanswer).weaken
      (fun _ h => h.2) (fun _ _ h => h) fun _ _ h => h) fun _ => .pure fun _ h => h
  · -- a state that is not past "ready" is one of the three
    obtain ⟨rfl, _, hlow⟩ := h
    unfold Low at hlow
    exfalso
    revert hlow hstate
    cases now.session.state <;> decide

/-! ## Start and inspect -/

theorem start_failed {script : StartScript} (hanswer : script.failure.answer.fails = false) :
    Triple (fun s => (Reached s₀ s ∧ Low s) ∧ s.session.state = .prepared) (start digest script)
      (fun _ _ => True) (fun _ s => 3 ≤ s.session.state.rank) := by
  unfold start
  refine .bind (R := fun now s => now.session.state = .prepared ∧ Reached s₀ s ∧ Low s)
    (.get fun s h => ⟨h.2, h.1⟩) fun now => .ite (fun hne => ?_) fun _ => ?_
  · exact .fail fun s h => absurd h.1 hne
  · refine .handle (((startBody_kept ((kept_reached s₀).and kept_low))).weaken (fun _ h => h.2)
      (fun _ _ _ => trivial) fun _ _ h => h) fun code => ?_
    exact .bind ((recordFailure_past hanswer).weaken (fun _ h => h) (fun _ _ h => h)
      fun _ _ h => h.elim) fun _ => .fail fun _ h => h

theorem inspect_failed {script : InspectScript} (hanswer : script.failure.answer.fails = false) :
    Triple (fun s => (Reached s₀ s ∧ Low s) ∧ s.session.state = .ready) (inspect digest script)
      (fun _ _ => True) (fun _ s => 3 ≤ s.session.state.rank) := by
  unfold inspect
  refine .bind (R := fun now s => now.session.state = .ready ∧ Reached s₀ s ∧ Low s)
    (.get fun s h => ⟨h.2, h.1⟩) fun now => .ite (fun hne => ?_) fun _ => ?_
  · exact .fail fun s h => absurd h.1 hne
  · refine .handle (((inspectBody_kept ((kept_reached s₀).and kept_low))).weaken (fun _ h => h.2)
      (fun _ _ _ => trivial) fun _ _ h => h) fun code => ?_
    exact .bind ((recordFailure_past hanswer).weaken (fun _ h => h) (fun _ _ h => h)
      fun _ _ h => h.elim) fun _ => .fail fun _ h => h

/-! ## Stop -/

/-- No transition of the session itself has failed in the call. -/
def Unfailed (log : List Touch) : Prop := ∀ target, Touch.transition target false ∉ log

theorem Unfailed.append {log : List Touch} {touch : Touch} (h : Unfailed log)
    (htouch : ∀ target, touch ≠ .transition target false) : Unfailed (log ++ [touch]) := by
  intro target hmem
  rcases List.mem_append.mp hmem with hmem | hmem
  · exact h target hmem
  · exact htouch target (List.mem_singleton.mp hmem).symm

theorem transition_log {K : List Touch → Prop} :
    Triple (fun s => K s.log)
      (transition digest touch target reasons runtime processTree endpoint answer)
      (fun _ s => ∃ log, K log ∧ s.log = log ++ [touch true])
      (fun _ s => ∃ log, K log ∧ s.log = log ++ [touch false]) := by
  intro s hs
  unfold transition
  split
  · refine ⟨fun a t h => ?_, fun e t h => by cases h⟩
    cases h
    exact ⟨s.log, hs, rfl⟩
  · refine ⟨fun a t h => (by cases h), fun e t h => ?_⟩
    cases h
    exact ⟨s.log, hs, rfl⟩

theorem runCallbacks_log {K : List Touch → Prop}
    (hK : ∀ log committed, K log → K (log ++ [.observed committed])) (callbacks : List Callback) :
    Triple (fun s => K s.log) (runCallbacks digest callbacks) (fun _ s => K s.log)
      (fun _ s => K s.log) := by
  induction callbacks with
  | nil => exact .pure fun _ h => h
  | cons callback rest ih =>
    cases callback with
    | launched => exact .bind (.modify fun _ h => h) fun _ => ih
    | observed process answer =>
      refine .bind (.handle (F := fun _ s => K s.log) ?_ fun _ => .pure fun _ h => h)
        fun _ => ih
      refine .bind (R := fun _ s => K s.log) (transition_log.weaken (fun _ h => h) ?_ ?_)
        fun _ => .pure fun _ h => h
      · rintro _ s ⟨log, hlog, hs⟩
        exact hs ▸ hK log true hlog
      · rintro _ s ⟨log, hlog, hs⟩
        exact hs ▸ hK log false hlog

/-- A final receipt that was made: it is valid, and its chain is everything committed. -/
structure Made (digest : LeaseReceipt → String) (s₀ : System) (receipt : SessionReceipt)
    (s : System) : Prop where
  inv : Inv s
  rank : s₀.session.state.rank ≤ s.session.state.rank
  gone : s₀.ledger.row ≠ none → s.ledger.row = none → CleanedUp s.log
  final : s.session.finalReceipt = some receipt
  wellFormed : receipt.wellFormed = true
  chain : receipt.leaseReceiptSha256Chain = s.ledger.committed.map digest

theorem finish_made {state : LeaseState} {K : Ledger → List Touch → Prop} :
    Triple (fun s => Reached s₀ s ∧ K s.ledger s.log) (finish digest bindingSha256 state)
      (fun receipt s => Made digest s₀ receipt s ∧ receipt.state = state ∧ K s.ledger s.log)
      (fun _ => Reached s₀) := by
  unfold finish
  refine .bind (R := fun now s => now = s ∧ Reached s₀ s ∧ K s.ledger s.log)
    (.get fun s h => ⟨rfl, h⟩) fun now => ?_
  refine .bind (R := fun _ s => (now = s ∧ Reached s₀ s ∧ K s.ledger s.log) ∧
      (now.session.finalOf digest bindingSha256 state).wellFormed = true)
    (.ofExcept (fun u hu s h => ⟨h, check_eq_ok.mp hu⟩) fun _ _ s h => h.2.1) fun _ => ?_
  refine .bind (R := fun _ s => Made digest s₀ (now.session.finalOf digest bindingSha256 state) s ∧
      K s.ledger s.log) (.modify ?_) fun _ => .pure fun s h => ⟨h.1, rfl, h.2⟩
  rintro s ⟨⟨rfl, hreached, hK⟩, hwell⟩
  exact ⟨⟨⟨hreached.inv.chain, hreached.inv.last⟩, hreached.rank, hreached.gone, rfl, hwell,
    congrArg (List.map digest) hreached.inv.chain⟩, hK⟩

/-- What a stop that returns has done. -/
def Stopped (digest : LeaseReceipt → String) (s₀ : System) (receipt : SessionReceipt)
    (s : System) : Prop :=
  Made digest s₀ receipt s ∧
    (receipt.state = .stopped → s.ledger.row = none ∧ Unfailed s.log)

theorem finish_unknown :
    Triple (Reached s₀) (finish digest bindingSha256 .unknownBlocking) (Stopped digest s₀)
      (fun _ => Reached s₀) :=
  (finish_made (K := fun _ _ => True)).weaken (fun _ h => ⟨h, trivial⟩)
    (fun _ _ h => ⟨h.1, fun hs => absurd (h.2.1.symm.trans hs) (by decide)⟩) fun _ _ h => h

theorem enterStopping_spec :
    Triple (fun s => Reached s₀ s ∧ Unfailed s.log) (enterStopping digest answer)
      (fun failed s => Reached s₀ s ∧ (failed = false → Unfailed s.log)) (fun _ => Reached s₀) := by
  unfold enterStopping
  refine .bind (R := fun _ s => Reached s₀ s ∧ Unfailed s.log) (.get fun _ h => h) fun now =>
    .ite (fun _ => .pure fun s h => ⟨h.1, fun _ => h.2⟩) fun _ =>
    .handle (F := fun _ => Reached s₀) ?_ fun _ =>
      .bind setLedgerFailed_reached fun _ => .pure fun s h => ⟨h, fun hf => by cases hf⟩
  refine .bind (R := fun _ s => Reached s₀ s ∧ Unfailed s.log) ?_ fun _ =>
    .pure fun s h => ⟨h.1, fun _ => h.2⟩
  refine ((transition_reached_of_ne (by decide)).and (transition_log (K := Unfailed))).weaken
    (fun _ h => h) ?_ fun _ _ h => h.1
  rintro _ s ⟨hreached, log, hlog, hs⟩
  exact ⟨hreached.1, hs ▸ hlog.append fun _ h => by cases h⟩

theorem callStop_spec {call : AdapterCall Unit} {failed : Bool} :
    Triple (fun s => Reached s₀ s ∧ (failed = false → Unfailed s.log)) (callStop digest call)
      (fun _ s => (Reached s₀ s ∧ (failed = false → Unfailed s.log)) ∧
        ∃ before, s.log = before ++ [.adapterStop true]) (fun _ => Reached s₀) := by
  unfold callStop
  refine .bind (R := fun _ s => Reached s₀ s ∧ (failed = false → Unfailed s.log))
    (((runCallbacks_kept (kept_reached s₀) _).and (runCallbacks_log (K := fun log =>
      failed = false → Unfailed log) (fun log _ h hf => (h hf).append fun _ h => by cases h)
      _)).weaken (fun _ h => h) (fun _ _ h => h) fun _ _ h => h.1) fun _ => ?_
  refine .bind (R := fun _ s => (Reached s₀ s ∧ (failed = false → Unfailed s.log)) ∧
      ∃ before, s.log = before ++ [.adapterStop call.outcome.isOk])
    (.modify fun s h => ⟨⟨h.1.note _, fun hf => (h.2 hf).append fun _ h => by cases h⟩, s.log, rfl⟩)
    fun _ => .ofExcept (fun u hu s h => ?_) fun _ _ s h => h.1.1
  rw [hu] at h
  exact h

theorem readCleanupUnknown_spec {answer failed : Bool} :
    Triple (fun s => (Reached s₀ s ∧ (failed = false → Unfailed s.log)) ∧
        ∃ before, s.log = before ++ [.adapterStop true]) (readCleanupUnknown answer)
      (fun unknown s => (Reached s₀ s ∧ (failed = false → Unfailed s.log)) ∧
        (unknown = false → CleanedUp s.log)) (fun _ => Reached s₀) := by
  unfold readCleanupUnknown
  refine .bind (R := fun _ s => (Reached s₀ s ∧ (failed = false → Unfailed s.log)) ∧
      (answer = false → CleanedUp s.log)) (.modify ?_) fun _ => .pure fun _ h => h
  rintro s ⟨⟨hreached, hlog⟩, before, hbefore⟩
  refine ⟨⟨hreached.note _, fun hf => (hlog hf).append fun _ h => by cases h⟩, ?_⟩
  rintro rfl
  refine ⟨before, [], ?_⟩
  change s.log ++ _ = _
  rw [hbefore]
  simp only [List.append_assoc, List.cons_append, List.nil_append, List.append_nil]

theorem stopBody_spec {script : StopScript} :
    Triple (fun s => Reached s₀ s ∧ Unfailed s.log) (stopBody digest bindingSha256 script)
      (Stopped digest s₀) (fun _ => Reached s₀) := by
  unfold stopBody
  refine .bind enterStopping_spec fun failed => .bind callStop_spec fun _ =>
    .bind readCleanupUnknown_spec fun unknown => .ite (fun _ => .fail fun _ h => h.1.1)
    fun hunknown => ?_
  have hclean : unknown = false := by cases unknown <;> simp_all
  refine .bind (R := fun _ s => (Reached s₀ s ∧ (failed = false → Unfailed s.log)) ∧
      CleanedUp s.log) ?_ fun _ => ?_
  · exact .modify fun _ h => ⟨⟨Reached.update h.1.1 (f := fun session => { session with
      processStopped := session.processStopped || session.processStarted }) rfl rfl rfl, h.1.2⟩,
      h.2 hclean⟩
  refine .bind (R := fun _ s => (Reached s₀ s ∧ (failed = false → Unfailed s.log)) ∧
      CleanedUp s.log) (.handle (F := fun _ s => (Reached s₀ s ∧
      (failed = false → Unfailed s.log)) ∧ CleanedUp s.log)
    (.ofExcept (fun _ _ _ h => h) fun _ _ _ h => h) fun _ => .modify fun _ h =>
      ⟨⟨Reached.update h.1.1 (f := fun session => { session with
        reasons := insert .bindingChanged session.reasons }) rfl rfl rfl, h.1.2⟩, h.2⟩)
    fun _ => .ite (fun _ => ?_) fun hfailed => ?_
  · refine Triple.weaken (P := Reached s₀) (Q := Stopped digest s₀) (E := fun _ => Reached s₀) ?_
      (fun _ h => h.1.1) (fun _ _ h => h) fun _ _ h => h
    exact .bind addReason_reached fun _ => .bind (ensureUnknown_kept (keptAll_reached s₀)) fun _ => finish_unknown
  · have hok : failed = false := by cases failed <;> simp_all
    refine .bind (R := fun _ s => (Reached s₀ s ∧ Unfailed s.log) ∧ CleanedUp s.log)
      (.get fun s h => ⟨⟨h.1.1, h.1.2 hok⟩, h.2⟩) fun now => ?_
    refine .bind (R := fun _ s => Reached s₀ s ∧ s.ledger.row = none ∧ Unfailed s.log) ?_
      fun _ => ?_
    · refine (transition_reached.and (transition_log (K := Unfailed))).weaken
        (fun _ h => ⟨⟨h.1.1, fun _ => h.2⟩, h.1.2⟩) ?_ fun _ _ h => h.1
      rintro _ s ⟨hreached, log, hlog, hs⟩
      exact ⟨hreached.1, hreached.2.2.2 rfl, hs ▸ hlog.append fun _ h => by cases h⟩
    · exact (finish_made (K := fun ledger log => ledger.row = none ∧ Unfailed log)).weaken
        (fun _ h => h) (fun _ _ h => ⟨h.1, fun _ => h.2.2⟩) fun _ _ h => h

theorem stop_spec {script : StopScript} (hfinal : s₀.session.finalReceipt = none) :
    Triple (fun s => Reached s₀ s ∧ Unfailed s.log) (stop digest bindingSha256 script)
      (Stopped digest s₀) (fun _ => Reached s₀) := by
  unfold stop
  refine .bind (R := fun now s => now = s ∧ Reached s₀ s ∧ Unfailed s.log)
    (.get fun s h => ⟨rfl, h⟩) fun now => ?_
  split
  · rename_i receipt hsome
    rintro s ⟨rfl, hreached, _⟩
    rw [hreached.final, hfinal] at hsome
    cases hsome
  · refine .bind (R := fun _ s => Reached s₀ s ∧ Unfailed s.log)
      (.bind (R := fun _ s => Reached s₀ s ∧ Unfailed s.log) (.modify fun s h =>
        ⟨h.2.1.note _, h.2.2.append fun _ h => by cases h⟩) fun _ => .pure fun _ h => h)
      fun unknown => .ite (fun _ => ?_) fun _ => .handle stopBody_spec fun _ => ?_
    · refine Triple.weaken (P := Reached s₀) (Q := Stopped digest s₀) (E := fun _ => Reached s₀) ?_
        (fun _ h => h.1) (fun _ _ h => h) fun _ _ h => h
      exact .bind (ensureUnknown_kept (keptAll_reached s₀)) fun _ => finish_unknown
    · exact .bind addReason_reached fun _ => .bind (ensureUnknown_kept (keptAll_reached s₀)) fun _ =>
        .bind .get_kept fun now => .ite (fun _ => .fail fun _ h => h) fun _ => finish_unknown

end LocalMoe.Supervisor
