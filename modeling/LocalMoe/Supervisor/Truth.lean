/-
  Every run of a session, from the acquisition of its lease on.
-/
import LocalMoe.Supervisor.Sound

namespace LocalMoe.Supervisor

open Foundation Foundation.Effect

variable {digest : LeaseReceipt → String} {bindingSha256 : String}

def acquiredReceipt (now : Nat) : LeaseReceipt := ⟨.prepared, ∅, 0, none, none, none, none, now⟩

/-- What is true of one call of a session. -/
structure Truthful (digest : LeaseReceipt → String) (s : System) (call : Call)
    (out : Except String Output) (s' : System) : Prop where
  /-- The row is removed only in a stop in which the adapter's `stop` returned and then
  reported no unknown cleanup. -/
  given_back : s.ledger.row ≠ none → s'.ledger.row = none →
    (∃ script, call = .stop script) ∧ CleanedUp s'.log
  /-- A new receipt "stopped" means that the removal committed and that no transition of the
  stop failed. -/
  stopped : ∀ receipt, out = .ok (.stopped receipt) → s.session.finalReceipt = none →
    receipt.state = .stopped → s'.ledger.row = none ∧ Unfailed s'.log
  /-- A new receipt is valid and lists what was committed. -/
  listed : ∀ receipt, out = .ok (.stopped receipt) → s.session.finalReceipt = none →
    receipt.wellFormed = true ∧
      receipt.leaseReceiptSha256Chain = s'.ledger.committed.map digest
  /-- The lease receipt of a start is valid. -/
  started : ∀ receipt evidence, out = .ok (.started receipt evidence) → receipt.wellFormed = true
  /-- The receipt of a stop stays the final one. -/
  kept : ∀ receipt, out = .ok (.stopped receipt) → s'.session.finalReceipt = some receipt
  /-- A final receipt stays, and every further stop returns it and touches nothing. -/
  repeated : ∀ receipt, s.session.finalReceipt = some receipt →
    s'.session.finalReceipt = some receipt ∧ ∀ script, call = .stop script →
      out = .ok (.stopped receipt) ∧ s'.ledger = s.ledger ∧ s'.log = []

/-- The script of the failure of a call that the session admits: the start of a prepared
session or the inspection of a ready one. -/
def admitted (s : System) : Call → Option FailureScript
  | .start script => if s.session.state = .prepared then some script.failure else none
  | .inspect script => if s.session.state = .ready then some script.failure else none
  | .stop _ => none

variable {s : System} {script : StartScript} {failure : FailureScript}

theorem admitted_start (h : admitted s (.start script) = some failure) :
    s.session.state = .prepared ∧ script.failure = failure := by
  change (if s.session.state = .prepared then some script.failure else none) = _ at h
  split at h
  · exact ⟨‹_›, Option.some.inj h⟩
  · cases h

theorem admitted_inspect {script : InspectScript}
    (h : admitted s (.inspect script) = some failure) :
    s.session.state = .ready ∧ script.failure = failure := by
  change (if s.session.state = .ready then some script.failure else none) = _ at h
  split at h
  · exact ⟨‹_›, Option.some.inj h⟩
  · cases h

/-- The invariant of a run. -/
structure Good (s : System) : Prop where
  inv : Inv s
  final : ∀ receipt, s.session.finalReceipt = some receipt → receipt.wellFormed = true

theorem good_init (now : Nat) :
    Good (sessionOf digest bindingSha256 (acquiredReceipt now)).init where
  inv := ⟨rfl, [], acquiredReceipt now, rfl, rfl, rfl, rfl, fun h => by cases h⟩
  final := fun _ h => by cases h

theorem Good.reached (h : Good s) : Reached { s with log := [] } { s with log := [] } where
  inv := ⟨h.inv.chain, h.inv.last⟩
  rank := le_rfl
  final := rfl
  gone := fun hsome hnone => absurd hnone hsome

theorem unfailed_nil : Unfailed [] := fun _ h => by cases h

/-- What one call keeps and shows. -/
structure Performed (digest : LeaseReceipt → String) (s : System) (call : Call)
    (out : Except String Output) (s' : System) : Prop where
  good : Good s'
  rank : s.session.state.rank ≤ s'.session.state.rank
  truthful : Truthful digest s call out s'
  ready : ∀ o, out = .ok o → o.state = .ready → s.session.state.rank ≤ 2

/-- What start and inspect return is no final receipt, and a lease receipt is valid. -/
def Output.Valid (o : Output) : Prop :=
  (∀ receipt, o ≠ .stopped receipt) ∧
    ∀ receipt evidence, o = .started receipt evidence → receipt.wellFormed = true

theorem Reached.performed {s' : System} {call : Call} {out : Except String Output}
    (hgood : Good s) (h : Reached { s with log := [] } s')
    (hheld : s.ledger.row ≠ none → s'.ledger.row ≠ none) (hstop : ∀ script, call ≠ .stop script)
    (hout : ∀ o, out = .ok o → s.session.state.rank ≤ 2 ∧ o.Valid) :
    Performed digest s call out s' where
  good := ⟨h.inv, fun receipt hr => hgood.final receipt (h.final.symm.trans hr)⟩
  rank := h.rank
  truthful := {
    given_back := fun hsome hnone => absurd hnone (hheld hsome)
    stopped := fun receipt hr => absurd rfl ((hout _ hr).2.1 receipt)
    listed := fun receipt hr => absurd rfl ((hout _ hr).2.1 receipt)
    started := fun receipt evidence hr => (hout _ hr).2.2 receipt evidence rfl
    kept := fun receipt hr => absurd rfl ((hout _ hr).2.1 receipt)
    repeated := fun _ hr => ⟨h.final.trans hr, fun script hs => absurd hs (hstop script)⟩ }
  ready := fun o ho _ => (hout o ho).1

theorem triple_true {P : System → Prop} {α : Type} {x : Act α} :
    Triple P x (fun _ _ => True) (fun _ _ => True) :=
  fun _ _ => ⟨fun _ _ _ => trivial, fun _ _ _ => trivial⟩

theorem transition_wellFormed {touch : Bool → Touch} {target : LeaseState}
    {reasons : Finset Reason} {runtime : Option RuntimeIdentity}
    {processTree endpoint : Option String} {answer : LedgerAnswer} :
    Triple (fun _ => True)
      (transition digest touch target reasons runtime processTree endpoint answer)
      (fun receipt _ => receipt.wellFormed = true) (fun _ _ => True) := by
  refine fun s _ => ⟨fun receipt t h => ?_, fun _ _ _ => trivial⟩
  unfold transition at h
  split at h
  · rename_i made hmade
    cases h
    exact (attempt_eq_ok hmade).2.2.2
  · cases h

theorem startBody_output :
    Triple (fun _ => True) (startBody digest script) (fun o _ => o.Valid) (fun _ _ => True) := by
  unfold startBody
  refine .bind triple_true fun _ => .bind triple_true fun _ => .bind triple_true fun _ =>
    .bind triple_true fun _ => .bind triple_true fun _ => .bind triple_true fun _ =>
    .bind triple_true fun _ => .bind triple_true fun _ => .bind triple_true fun _ =>
    .bind triple_true fun _ =>
    .bind (transition_wellFormed.weaken (fun _ _ => trivial) (fun _ _ h => h) fun _ _ h => h)
      fun made => .bind (R := fun _ _ => made.wellFormed = true)
        (.ofExcept (fun _ _ _ h => h) fun _ _ _ _ => trivial) fun _ => .pure fun _ hmade => ?_
  refine ⟨fun receipt h => (by cases h), fun receipt evidence h => ?_⟩
  cases h
  exact hmade

theorem inspectBody_output {script : InspectScript} :
    Triple (fun _ => True) (inspectBody digest script) (fun o _ => o.Valid) (fun _ _ => True) := by
  have hvalid (evidence : Evidence) : (Output.inspected evidence).Valid :=
    ⟨fun _ h => (by cases h), fun _ _ h => by cases h⟩
  unfold inspectBody
  refine .bind triple_true fun _ => .bind triple_true fun _ => .bind triple_true fun _ =>
    .bind triple_true fun _ => .ite (fun _ => ?_) fun _ => .bind triple_true fun _ =>
    .pure fun _ _ => hvalid _
  exact .bind triple_true fun _ => .bind triple_true fun _ => .bind triple_true fun _ =>
    .bind triple_true fun _ => .bind triple_true fun _ => .pure fun _ _ => hvalid _

theorem failed_returns_nothing {x : Act Output} {h : String → Act PUnit}
    {Q : Output → System → Prop} (hx : Triple (fun _ => True) x Q (fun _ _ => True)) :
    Triple (fun _ => True) (x.handle fun code => do
      h code
      Effect.fail code) Q (fun _ _ => True) :=
  .handle hx fun _ => .bind (R := fun _ _ => True) triple_true fun _ => .fail fun _ _ => trivial

theorem start_ok {s' : System} {o : Output} (h : start digest script s = (s', .ok o)) :
    s.session.state = .prepared ∧ o.Valid := by
  have htriple : Triple (fun t => t = s) (start digest script)
      (fun o _ => s.session.state = .prepared ∧ o.Valid)
      (fun _ _ => True) := by
    unfold start
    refine .bind (R := fun now _ => now = s) (.get fun t h => h) fun now =>
      .ite (fun _ => .fail fun _ _ => trivial) fun hstate => ?_
    rintro t rfl
    refine ⟨fun o u hu => ⟨not_not.mp hstate, ?_⟩, fun _ _ _ => trivial⟩
    exact (failed_returns_nothing startBody_output t trivial).1 o u hu
  exact (htriple s rfl).1 o s' h

theorem inspect_ok {s' : System} {script : InspectScript} {o : Output}
    (h : inspect digest script s = (s', .ok o)) :
    s.session.state = .ready ∧ o.Valid := by
  have htriple : Triple (fun t => t = s) (inspect digest script)
      (fun o _ => s.session.state = .ready ∧ o.Valid)
      (fun _ _ => True) := by
    unfold inspect
    refine .bind (R := fun now _ => now = s) (.get fun t h => h) fun now =>
      .ite (fun _ => .fail fun _ _ => trivial) fun hstate => ?_
    rintro t rfl
    refine ⟨fun o u hu => ⟨not_not.mp hstate, ?_⟩, fun _ _ _ => trivial⟩
    exact (failed_returns_nothing inspectBody_output t trivial).1 o u hu
  exact (htriple s rfl).1 o s' h

theorem stop_of_final {receipt : SessionReceipt} {script : StopScript}
    (h : s.session.finalReceipt = some receipt) :
    stop digest bindingSha256 script s = (s, .ok receipt) := by
  unfold stop
  rw [bind_run]
  simp only [Effect.get, h]
  rfl

theorem not_ready_of_wellFormed {receipt : SessionReceipt} (h : receipt.wellFormed = true) :
    receipt.state ≠ .ready := by
  intro hready
  unfold SessionReceipt.wellFormed at h
  rw [hready] at h
  exact absurd h (by simp)

theorem perform_stop {script : StopScript} :
    perform digest bindingSha256 (.stop script) s =
      match stop digest bindingSha256 script s with
      | (t, .ok receipt) => (t, .ok (.stopped receipt))
      | (t, .error e) => (t, .error e) := by
  unfold perform
  change Effect.andThen _ _ _ = _
  unfold Effect.andThen
  rcases stop digest bindingSha256 script s with ⟨t, e | receipt⟩
  · rfl
  · rfl

theorem perform_performed (hgood : Good s) (call : Call) :
    Performed digest s call (perform digest bindingSha256 call { s with log := [] }).2
      (perform digest bindingSha256 call { s with log := [] }).1 := by
  cases call with
  | start script =>
    have hkept : Reached { s with log := [] } (start digest script { s with log := [] }).1 :=
      (start_kept (keptAll_reached _)).after hgood.reached
    have hheld : s.ledger.row ≠ none →
        (start digest script { s with log := [] }).1.ledger.row ≠ none := fun hsome =>
      (start_kept keptAll_held).after (s := { s with log := [] }) hsome
    have hok (o : Output) (ho : (start digest script { s with log := [] }).2 = .ok o) :=
      start_ok (Prod.ext rfl ho : start digest script { s with log := [] } = (_, .ok o))
    refine Reached.performed hgood hkept hheld
      (fun _ h => by cases h) fun o ho => ⟨?_, (hok o ho).2⟩
    rw [show s.session.state = .prepared from (hok o ho).1]
    decide
  | inspect script =>
    have hkept : Reached { s with log := [] } (inspect digest script { s with log := [] }).1 :=
      (inspect_kept (keptAll_reached _)).after hgood.reached
    have hheld : s.ledger.row ≠ none →
        (inspect digest script { s with log := [] }).1.ledger.row ≠ none := fun hsome =>
      (inspect_kept keptAll_held).after (s := { s with log := [] }) hsome
    have hok (o : Output) (ho : (inspect digest script { s with log := [] }).2 = .ok o) :=
      inspect_ok (Prod.ext rfl ho : inspect digest script { s with log := [] } = (_, .ok o))
    refine Reached.performed hgood hkept hheld
      (fun _ h => by cases h) fun o ho => ⟨?_, (hok o ho).2⟩
    rw [show s.session.state = .ready from (hok o ho).1]
    decide
  | stop script =>
    rw [perform_stop]
    cases hfinal : s.session.finalReceipt with
    | some receipt =>
      rw [stop_of_final (s := { s with log := [] }) hfinal]
      refine ⟨⟨⟨hgood.inv.chain, hgood.inv.last⟩, hgood.final⟩, le_rfl, ?_, fun o ho hr => ?_⟩
      · refine ⟨fun hsome hnone => absurd hnone hsome, fun _ _ hnone => ?_,
          fun _ _ hnone => ?_, fun _ _ hr => (by cases hr), fun r hr => ?_, fun r hr => ?_⟩
        · rw [hfinal] at hnone
          cases hnone
        · rw [hfinal] at hnone
          cases hnone
        · cases hr
          exact hfinal
        · rw [hfinal] at hr
          cases hr
          exact ⟨hfinal, fun _ _ => ⟨rfl, rfl, rfl⟩⟩
      · cases ho
        exact absurd hr (not_ready_of_wellFormed (hgood.final receipt hfinal))
    | none =>
      have hspec : Triple (fun t => Reached { s with log := [] } t ∧ Unfailed t.log)
          (stop digest bindingSha256 script) (Stopped digest { s with log := [] })
          (fun _ => Reached { s with log := [] }) := stop_spec hfinal
      obtain ⟨hok, herror⟩ := hspec _ ⟨hgood.reached, unfailed_nil⟩
      rcases hrun : stop digest bindingSha256 script { s with log := [] } with ⟨t, e | receipt⟩
      · have h := herror e t hrun
        exact ⟨⟨h.inv, fun r hr => hgood.final r (h.final.symm.trans hr)⟩, h.rank,
          ⟨fun hsome hnone => ⟨⟨script, rfl⟩, h.gone hsome hnone⟩, fun _ hr => (by cases hr),
            fun _ hr => (by cases hr), fun _ _ hr => (by cases hr), fun _ hr => (by cases hr),
            fun r hr => by
              rw [hfinal] at hr
              cases hr⟩, fun _ ho => by cases ho⟩
      · obtain ⟨hmade, hstopped⟩ := hok receipt t hrun
        refine ⟨⟨hmade.inv, fun r hr => ?_⟩, hmade.rank,
          ⟨fun hsome hnone => ⟨⟨script, rfl⟩, hmade.gone hsome hnone⟩, fun r hr _ => ?_,
            fun r hr _ => ?_, fun _ _ hr => (by cases hr), fun r hr => ?_, fun r hr => ?_⟩,
          fun o ho hr => ?_⟩
        · rw [hmade.final] at hr
          cases hr
          exact hmade.wellFormed
        · cases hr
          exact hstopped
        · cases hr
          exact ⟨hmade.wellFormed, hmade.chain⟩
        · cases hr
          exact hmade.final
        · rw [hfinal] at hr
          cases hr
        · cases ho
          exact absurd hr (not_ready_of_wellFormed hmade.wellFormed)

/-! ## Runs -/

section Runs

variable (digest : LeaseReceipt → String) (bindingSha256 : String) (now : Nat)

/-- The machine of a session whose lease is acquired at `now`. -/
def acquiredSession : Machine System Call (Except String Output) :=
  sessionOf digest bindingSha256 (acquiredReceipt now)

theorem good_stable : (acquiredSession digest bindingSha256 now).Stable Good :=
  fun _ call h => (perform_performed h call).good

theorem good_exec (calls : List Call) :
    Good ((acquiredSession digest bindingSha256 now).exec
      (acquiredSession digest bindingSha256 now).init calls) :=
  (good_stable digest bindingSha256 now).exec (good_init now) calls

theorem past_stable :
    (acquiredSession digest bindingSha256 now).Stable
      fun s => Good s ∧ 3 ≤ s.session.state.rank :=
  fun _ call h => ⟨(perform_performed h.1 call).good,
    h.2.trans (perform_performed h.1 call).rank⟩

theorem admitted_failed (hgood : Good s) {call : Call}
    (hadmitted : admitted s call = some failure) (hanswer : failure.answer.fails = false)
    {code : String}
    (hfailed : (acquiredSession digest bindingSha256 now).output s call = .error code) :
    3 ≤ ((acquiredSession digest bindingSha256 now).next s call).session.state.rank := by
  cases call with
  | start script =>
    obtain ⟨hstate, rfl⟩ := admitted_start hadmitted
    have hlow : Low { s with log := [] } := by
      change s.session.state.rank ≤ 2
      rw [hstate]
      decide
    exact (start_failed hanswer _ ⟨⟨hgood.reached, hlow⟩, hstate⟩).2 code _
      (Prod.ext rfl hfailed)
  | inspect script =>
    obtain ⟨hstate, rfl⟩ := admitted_inspect hadmitted
    have hlow : Low { s with log := [] } := by
      change s.session.state.rank ≤ 2
      rw [hstate]
      decide
    exact (inspect_failed hanswer _ ⟨⟨hgood.reached, hlow⟩, hstate⟩).2 code _
      (Prod.ext rfl hfailed)
  | stop script => cases hadmitted

end Runs

/-! ## A failure the ledger does not record -/

section Unrecorded

/-- The tree that the supervisor launched. -/
def launchedProcess : RuntimeIdentity := ⟨41, 7, "exe"⟩

def readyEvidence : Evidence :=
  ⟨launchedProcess, "tree", "127.0.0.1", 8080, [41], "endpoint", ["model"], "application"⟩

def committing : LedgerAnswer := ⟨false, 1⟩

/-- A start in which nothing fails. -/
def healthyStart : StartScript where
  firstRecheck := .ok ()
  start := ⟨[.launched, .observed launchedProcess committing], .ok readyEvidence⟩
  secondRecheck := .ok ()
  inspect := ⟨[], .ok readyEvidence⟩
  ready := committing
  result := .ok ()
  failure := ⟨false, committing⟩

def inspection (outcome : Except String Evidence) (answer : LedgerAnswer) : InspectScript where
  first := ⟨[], outcome⟩
  rehash := .ok false
  recheck := .ok ()
  second := ⟨[], outcome⟩
  failure := ⟨false, answer⟩

/-- A stop with the given end of the adapter's `stop` and answer of the ledger to a failure. -/
def shutdown (outcome : Except String Unit) (answer : LedgerAnswer) : StopScript where
  unknownBefore := false
  stopping := committing
  stop := ⟨[], outcome⟩
  unknownAfter := false
  recheck := .ok ()
  stopped := committing
  firstUnknown := answer
  secondUnknown := answer

end Unrecorded

end LocalMoe.Supervisor
