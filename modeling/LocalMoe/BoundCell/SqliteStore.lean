/-
  The lease ledger as the store of one run.
-/
import LocalMoe.BoundCell.Run
import LocalMoe.Lease.Fence

namespace LocalMoe.BoundCell

open Foundation Contracts Lease

/-! ## Exceptions -/

/-- A collaborator's exception as the store sees it. -/
def ofForeign {α : Type} : Foreign ForeignException α → Foreign EvaluatorException α
  | .returned value => .returned value
  | .raised e => .raised (.foreign e)
  | .interrupted e => .interrupted (.foreign e)

/-- A failure of foreign code inside the store. -/
def foreignFailure : Failure ForeignException → Failure EvaluatorException
  | .store error => .store error
  | .contract error => .contract error
  | .typeError => .typeError
  | .raised e => .raised (.foreign e)

def foreignFault : Fault ForeignException → Fault EvaluatorException
  | .none => .none
  | .refused failure => .refused (foreignFailure failure)
  | .unanswered failure => .unanswered (foreignFailure failure)

/-- What `evaluate_and_acquire` raises in the run. -/
def raisedByAcquire : Failure EvaluatorException → EvaluatorException
  | .store error => .foreign (.store error)
  | .contract _ => .foreign .other
  | .typeError => .foreign .other
  | .raised e => e

/-- An exception of the evaluator that meets a handler for any exception. -/
def EvaluatorException.toForeign : EvaluatorException → ForeignException
  | .foreign e => e
  | .previewBlocked _ => .other

/-- What `arm_delivery` and `release` raise in the run. -/
def raisedByStore (failure : Failure EvaluatorException) : ForeignException :=
  (raisedByAcquire failure).toForeign

/-- The evaluator of a run as the store calls it. -/
def evaluatorOf : Except EvaluatorException (Evaluation PreviewEvaluation) →
    Foreign EvaluatorException (Option (Evaluation PreviewEvaluation))
  | .ok evaluation => .returned (some evaluation)
  | .error e => .raised e

variable {evaluation : PreviewEvaluation}

theorem foreignFailure_ne_blocked {failure : Failure ForeignException} :
    raisedByAcquire (foreignFailure failure) ≠ .previewBlocked evaluation := by
  cases failure <;> exact nofun

/-! ## The environment of a run -/

/-- A step of a participant of the run's coordination domain. -/
abbrev DomainCall := Call EvaluatorException PreviewEvaluation

/-- The step neither draws the lease identifier nor releases with the token. -/
def Unrelated (S : Stdlib) (leaseId : TokenHex) (token : TokenBytes) : DomainCall → Prop
  | .acquire call => call.leaseId.text ≠ leaseId.text
  | .release call => S.sha256 call.handle.token ≠ S.sha256 token.bytes
  | _ => True

/-- What the environment decides about the store calls of one run.  The other
participants never get to see the token of the run, and identifiers are drawn at
random. -/
structure Environment (S : Stdlib) where
  policy : CooperativeResourceLeasePolicy
  leaseId : TokenHex
  token : TokenBytes
  files : String → SentinelFile
  acquireClock : Foreign ForeignException String
  acquireTick : Foreign ForeignException Int
  acquireFault : Fault ForeignException
  /-- A transaction that is refused got as far as its evaluator. -/
  begun : Bool
  armClock : Foreign ForeignException String
  armFault : Fault ForeignException
  releaseClock : Foreign ForeignException String
  releaseFault : Fault ForeignException
  cleanupFails : Bool
  beforeAcquire : List DomainCall
  beforeArm : List DomainCall
  beforeRelease : List DomainCall
  unrelatedArm : ∀ call ∈ beforeArm, Unrelated S leaseId token call
  unrelatedRelease : ∀ call ∈ beforeRelease, Unrelated S leaseId token call

namespace Environment

variable {S : Stdlib} (env : Environment S)

/-- The admission of the run. -/
def acquireCall (evaluator : Except EvaluatorException (Evaluation PreviewEvaluation)) :
    AcquireCall EvaluatorException PreviewEvaluation where
  policy := env.policy
  leaseId := env.leaseId
  token := env.token
  evaluator := evaluatorOf evaluator
  clock := ofForeign env.acquireClock
  monotonicClock := ofForeign env.acquireTick
  files := env.files
  fault := foreignFault env.acquireFault

/-- The arming of the run. -/
def armCall (handle : LeaseHandle) : ArmCall EvaluatorException where
  policy := env.policy
  handle := handle
  clock := ofForeign env.armClock
  fault := foreignFault env.armFault

/-- The settlement of the run. -/
def releaseCall (handle : LeaseHandle) (delivery : DeliveryStatus) :
    ReleaseCall EvaluatorException where
  policy := env.policy
  handle := handle
  deliveryStatus := delivery
  clock := ofForeign env.releaseClock
  cleanupFails := env.cleanupFails
  fault := foreignFault env.releaseFault

/-- The store calls its evaluator once its transaction has begun. -/
def evaluates (call : AcquireCall EvaluatorException PreviewEvaluation) (d : Domain) : Bool :=
  (takeOwnerLock call d).toBool &&
    match env.acquireFault with
    | .refused _ => env.begun
    | _ => true

end Environment

/-! ## Receipts of the ledger -/

section Receipts

variable {S : Stdlib} {coordinationDomainSha256 : String} {ε τ : Type}

theorem admitClaim_receipt {call : AcquireCall ε τ} {d d' : Domain}
    {receipt : AdmissionReceipt} {context : τ}
    (h : admitClaim S coordinationDomainSha256 call d = .ok ((receipt, context), d')) :
    ∃ evaluation scan a evaluatedAt, evaluate call.evaluator = .ok evaluation ∧
      context = evaluation.context ∧
      validateEvidence evaluation.claim evaluation.snapshot = .ok () ∧
      (admissionReceipt S coordinationDomainSha256 call evaluation.claim evaluation.snapshot
        scan a evaluatedAt).construct S = .ok receipt := by
  simp only [admitClaim, bind_eq_ok, mapError_eq_ok] at h
  obtain ⟨evaluation, hevaluation, _, hevidence, scan, -, a, -, evaluatedAt, -, receipt',
    hreceipt, h⟩ := h
  refine ⟨evaluation, scan, a, evaluatedAt, hevaluation, ?_⟩
  by_cases hacquired : a.status = .acquired
  · simp only [if_pos hacquired, bind_eq_ok, pure_eq_ok_iff, Prod.mk.injEq] at h
    obtain ⟨_, -, _, -, ⟨rfl, rfl⟩, -⟩ := h
    exact ⟨rfl, hevidence, hreceipt⟩
  · simp only [if_neg hacquired, pure_eq_ok_iff, Prod.mk.injEq] at h
    obtain ⟨⟨rfl, rfl⟩, -⟩ := h
    exact ⟨rfl, hevidence, hreceipt⟩

theorem AdmissionReceipt.construct_leaseId {r r' : AdmissionReceipt}
    (h : r.construct S = .ok r') : r'.leaseId = r.leaseId.map strip := by
  simp only [AdmissionReceipt.construct, bind_eq_ok, pure_eq_ok_iff] at h
  obtain ⟨_, _, _, _, _, _, _, _, _, _, leaseId, hleaseId, h⟩ := h
  obtain ⟨_, _, _, _, _, _, evaluatedAt, _, h⟩ := h
  obtain ⟨_, _, _, _, _, _, _, _, _, _, _, _, _, _, _, _, _, _, _, _, h⟩ := h
  obtain ⟨_, _, _, _, _, _, _, _, rfl⟩ := h
  change leaseId = _
  cases hid : r.leaseId with
  | none =>
    rw [hid] at hleaseId
    exact (Except.ok.inj hleaseId).symm
  | some text =>
    simp only [hid, optionalIdentifier, identifier, map_eq_ok, requireSafeId_eq_ok]
      at hleaseId
    obtain ⟨_, ⟨-, rfl⟩, rfl⟩ := hleaseId
    rfl

theorem TransitionReceipt.construct_eq_ok {r r' : TransitionReceipt}
    (h : r.construct S = .ok r') :
    ∃ transitionedAt, r' =
      { r with leaseId := strip r.leaseId, transitionedAt := transitionedAt } := by
  simp only [TransitionReceipt.construct, identifier, bind_eq_ok, pure_eq_ok_iff,
    requireSafeId_eq_ok] at h
  obtain ⟨_, _, _, _, _, _, _, _, leaseId, ⟨-, rfl⟩, _, _, _, _, _, _, transitionedAt, _, h⟩ := h
  exact ⟨transitionedAt, h.symm⟩

theorem ReleaseReceipt.construct_eq_ok {r r' : ReleaseReceipt}
    (h : r.construct S = .ok r') :
    ∃ releasedAt, r' = { r with leaseId := strip r.leaseId, releasedAt := releasedAt } := by
  simp only [ReleaseReceipt.construct, identifier, bind_eq_ok, pure_eq_ok_iff,
    requireSafeId_eq_ok] at h
  obtain ⟨_, _, _, _, _, _, _, _, leaseId, ⟨-, rfl⟩, _, _, _, _, _, _, releasedAt, _, _, _, h⟩ := h
  exact ⟨releasedAt, h.symm⟩

theorem armDelivery_eq_ok {call : ArmCall ε} {d : Domain} {receipt : TransitionReceipt}
    (h : (armDelivery S coordinationDomainSha256 call d).1 = .ok receipt) :
    ∃ reasons transitionedAt,
      arm (ε := ε) S call.handle d = .ok ((receipt.transitionApplied, reasons),
        (armDelivery S coordinationDomainSha256 call d).2) ∧
      receipt =
        { policySha256 := call.policy.digest S
          admissionReceiptSha256 := call.handle.admissionReceiptSha256
          claimSha256 := call.handle.claimSha256
          coordinationDomainSha256 := coordinationDomainSha256
          leaseId := strip call.handle.leaseId
          transitionApplied := receipt.transitionApplied
          reasonCodes := reasons
          transitionedAt := transitionedAt } := by
  unfold armDelivery at h ⊢
  generalize (do validateHandle call.handle; validatedClock call.clock :
    Except (Failure ε) String) = head at h ⊢
  cases head with
  | error failure => cases h
  | ok instant =>
    cases htx : transaction call.fault d (arm S call.handle d) with
    | mk answer d' =>
      cases answer with
      | error failure =>
        rw [htx] at h
        cases h
      | ok value =>
        obtain ⟨applied, reasons⟩ := value
        have hbody := transaction_eq_ok (congrArg Prod.fst htx)
        rw [htx] at hbody
        simp only [htx, mapError_eq_ok] at h ⊢
        obtain ⟨transitionedAt, rfl⟩ := TransitionReceipt.construct_eq_ok h
        exact ⟨reasons, transitionedAt, hbody, rfl⟩

theorem release_eq_ok {call : ReleaseCall ε} {d : Domain} {receipt : ReleaseReceipt}
    (h : (release S coordinationDomainSha256 call d).1 = .ok receipt) :
    ∃ s d' releasedAt, settle (ε := ε) S call.handle call.deliveryStatus d = .ok (s, d') ∧
      (release S coordinationDomainSha256 call d).2 = (cleanup call s d').2 ∧
      receipt =
        { policySha256 := call.policy.digest S
          admissionReceiptSha256 := call.handle.admissionReceiptSha256
          claimSha256 := call.handle.claimSha256
          coordinationDomainSha256 := coordinationDomainSha256
          leaseId := strip call.handle.leaseId
          status := (cleanup call s d').1.status
          reasonCodes := (cleanup call s d').1.reasons
          deliveryStatus := call.deliveryStatus
          releasedAt := releasedAt
          activeLeasesAfter := d'.rows.length } := by
  unfold release at h ⊢
  generalize (do validateHandle call.handle; validatedClock call.clock :
    Except (Failure ε) String) = head at h ⊢
  cases head with
  | error failure => cases h
  | ok instant =>
    cases htx : transaction call.fault d (settle S call.handle call.deliveryStatus d) with
    | mk answer d' =>
      cases answer with
      | error failure =>
        rw [htx] at h
        cases h
      | ok s =>
        have hbody := transaction_eq_ok (congrArg Prod.fst htx)
        rw [htx] at hbody
        simp only [htx, mapError_eq_ok] at h ⊢
        obtain ⟨releasedAt, rfl⟩ := ReleaseReceipt.construct_eq_ok h
        exact ⟨s, d', releasedAt, hbody, rfl, rfl⟩

end Receipts

/-! ## The laws -/

section Laws

variable {S : Stdlib} {coordinationDomainSha256 : String} (env : Environment S)

variable {evaluator : Except EvaluatorException (Evaluation PreviewEvaluation)}

theorem evaluate_evaluatorOf {evaluation : Evaluation PreviewEvaluation}
    (h : evaluate (evaluatorOf evaluator) = .ok evaluation) : evaluator = .ok evaluation := by
  cases evaluator with
  | error e => cases h
  | ok value => rw [Except.ok.inj h]

variable {acquisition : Acquisition PreviewEvaluation}

theorem admissionOf_acquired {d : Domain}
    (h : (evaluateAndAcquire S coordinationDomainSha256 (env.acquireCall evaluator) d).1 =
      .ok acquisition) :
    ∃ evaluation, evaluator = .ok evaluation ∧
      AdmissionOf S (env.policy.digest S) coordinationDomainSha256 evaluation acquisition := by
  obtain ⟨sentinel, d', -, -, hadmit, -, hhandle⟩ := evaluateAndAcquire_eq_ok h
  obtain ⟨evaluation, scan, a, evaluatedAt, hevaluation, hcontext, hevidence, hreceipt⟩ :=
    admitClaim_receipt hadmit
  have hid := AdmissionReceipt.construct_leaseId hreceipt
  obtain ⟨leaseId, instant, hfields⟩ := AdmissionReceipt.construct_eq_ok hreceipt
  simp only [validateEvidence, check_bind_eq_ok] at hevidence
  refine ⟨evaluation, evaluate_evaluatorOf hevaluation, hcontext, ?_, ?_, ?_, ?_, ?_⟩
  · rw [hfields]
    simp only [validateClaimAdmission, admissionReceipt, check_bind_eq_ok, hevidence.1.1,
      true_and]
    rfl
  · rw [hfields]
    rfl
  · rw [hfields]
    rfl
  · intro hacquired
    rw [if_pos hacquired] at hhandle
    refine ⟨_, hhandle, rfl, ?_, ?_⟩
    · rw [hfields]
      rfl
    · rw [hid]
      have hstatus : a.status = .acquired := by
        rw [hfields] at hacquired
        exact hacquired
      simp only [admissionReceipt, if_pos hstatus, Option.map_some]
  · intro hdenied
    rw [hhandle, if_neg hdenied]

theorem evaluates_of_acquired {d : Domain}
    (h : (evaluateAndAcquire S coordinationDomainSha256 (env.acquireCall evaluator) d).1 =
      .ok acquisition) :
    env.evaluates (env.acquireCall evaluator) d = true := by
  unfold evaluateAndAcquire at h
  unfold Environment.evaluates
  cases hlock : takeOwnerLock (env.acquireCall evaluator) d with
  | error e =>
    rw [hlock] at h
    cases h
  | ok sentinel =>
    rw [hlock] at h
    cases hfault : env.acquireFault with
    | refused failure =>
      have hrefused : (env.acquireCall evaluator).fault =
          .refused (foreignFailure failure) := by
        change foreignFault env.acquireFault = _
        rw [hfault]
        rfl
      simp only [hrefused, transaction] at h
      cases h
    | none => rfl
    | unanswered failure => rfl

variable {failure : Failure EvaluatorException}

theorem blocked_of_admitClaim {d : Domain}
    (h : admitClaim S coordinationDomainSha256 (env.acquireCall evaluator) d = .error failure)
    (hblocked : raisedByAcquire failure = .previewBlocked evaluation) :
    evaluator = .error (.previewBlocked evaluation) := by
  have hclock : ∀ {failure'}, validatedClock (ofForeign env.acquireClock) = .error failure' →
      raisedByAcquire failure' ≠ .previewBlocked evaluation := by
    intro failure' hclock
    cases hread : env.acquireClock with
    | returned value => rw [hread] at hclock; cases hclock
    | raised e | interrupted e => rw [hread] at hclock; cases hclock; exact fun h => by cases h
  have htick : ∀ {failure'},
      validatedMonotonicClock (ofForeign env.acquireTick) = .error failure' →
        raisedByAcquire failure' ≠ .previewBlocked evaluation := by
    intro failure' htick
    cases hread : env.acquireTick with
    | returned value =>
      rw [hread] at htick
      simp only [validatedMonotonicClock, ofForeign, readClock, ok_bind] at htick
      split at htick
      · cases htick
      · cases htick
        exact fun h => by cases h
    | raised e | interrupted e => rw [hread] at htick; cases htick; exact fun h => by cases h
  have hstore : ∀ {error : StoreError} {failure' : Failure EvaluatorException},
      Failure.store error = failure' → raisedByAcquire failure' ≠ .previewBlocked evaluation := by
    rintro error failure' rfl
    exact fun h => by cases h
  unfold admitClaim at h
  rcases bind_eq_error.mp h with hevaluator | ⟨value, -, h⟩
  · cases evaluator with
    | error e =>
      cases hevaluator
      exact congrArg Except.error hblocked
    | ok value => cases hevaluator
  rcases bind_eq_error.mp h with hevidence | ⟨_, -, h⟩
  · obtain ⟨_, -, hfailure⟩ := mapError_eq_error.mp hevidence
    exact absurd hblocked (hstore hfailure)
  rcases bind_eq_error.mp h with hscan | ⟨scan, -, h⟩
  · obtain ⟨_, -, hfailure⟩ := mapError_eq_error.mp hscan
    exact absurd hblocked (hstore hfailure)
  rcases bind_eq_error.mp h with hassess | ⟨a, -, h⟩
  · obtain ⟨_, -, hfailure⟩ := mapError_eq_error.mp hassess
    exact absurd hblocked (hstore hfailure)
  rcases bind_eq_error.mp h with hfailed | ⟨evaluatedAt, -, h⟩
  · exact absurd hblocked (hclock hfailed)
  rcases bind_eq_error.mp h with hreceipt | ⟨receipt, -, h⟩
  · obtain ⟨_, -, rfl⟩ := mapError_eq_error.mp hreceipt
    cases hblocked
  by_cases hacquired : a.status = .acquired
  · rw [if_pos hacquired] at h
    rcases bind_eq_error.mp h with hfailed | ⟨tick, -, h⟩
    · exact absurd hblocked (htick hfailed)
    rcases bind_eq_error.mp h with hinsert | ⟨_, -, h⟩
    · obtain ⟨_, -, hfailure⟩ := mapError_eq_error.mp hinsert
      exact absurd hblocked (hstore hfailure)
    · cases h
  · rw [if_neg hacquired] at h
    cases h

theorem blocked_of_acquire {d : Domain}
    (h : (evaluateAndAcquire S coordinationDomainSha256 (env.acquireCall evaluator) d).1 =
      .error failure)
    (hblocked : raisedByAcquire failure = .previewBlocked evaluation) :
    evaluator = .error (.previewBlocked evaluation) := by
  unfold evaluateAndAcquire at h
  cases hlock : takeOwnerLock (env.acquireCall evaluator) d with
  | error e =>
    rw [hlock] at h
    cases h
    cases hblocked
  | ok sentinel =>
    rw [hlock] at h
    have hfault : ∀ {body : Except (Failure EvaluatorException)
          ((AdmissionReceipt × PreviewEvaluation) × Domain)} {answer d'},
        transaction (env.acquireCall evaluator).fault (d.hold sentinel) body =
          (.error answer, d') → raisedByAcquire answer = .previewBlocked evaluation →
          body = .error answer := by
      intro body answer d' htx hraised
      change transaction (foreignFault env.acquireFault) _ _ = _ at htx
      cases hfault : env.acquireFault <;> rcases body with e | ⟨value, d''⟩ <;>
        rw [hfault] at htx <;> cases htx
      · rfl
      · exact absurd hraised foreignFailure_ne_blocked
      · exact absurd hraised foreignFailure_ne_blocked
      · rfl
      · exact absurd hraised foreignFailure_ne_blocked
    cases htx : transaction (env.acquireCall evaluator).fault (d.hold sentinel)
        (admitClaim S coordinationDomainSha256 (env.acquireCall evaluator)
          (d.hold sentinel)) with
    | mk answer d' =>
      simp only [htx] at h
      cases answer with
      | error e =>
        cases h
        exact blocked_of_admitClaim env (hfault htx hblocked) hblocked
      | ok value =>
        simp only at h
        split at h <;> cases h

theorem lineage_of_armDelivery (call : ArmCall EvaluatorException) {d : Domain}
    {transition : TransitionReceipt}
    (h : (armDelivery S coordinationDomainSha256 call d).1 = .ok transition) :
    Lineage.ofTransition transition =
      handleLineage (call.policy.digest S) coordinationDomainSha256 call.handle := by
  obtain ⟨reasons, transitionedAt, -, hreceipt⟩ := armDelivery_eq_ok h
  generalize transition.transitionApplied = applied at hreceipt
  subst hreceipt
  rfl

theorem lineage_of_release (call : ReleaseCall EvaluatorException) {d : Domain}
    {receipt : ReleaseReceipt}
    (h : (release S coordinationDomainSha256 call d).1 = .ok receipt) :
    Lineage.ofRelease receipt =
        handleLineage (call.policy.digest S) coordinationDomainSha256 call.handle ∧
      receipt.deliveryStatus = call.deliveryStatus := by
  obtain ⟨s, d', releasedAt, -, -, rfl⟩ := release_eq_ok h
  exact ⟨rfl, rfl⟩

/-- The admission of a run, as the run sees it. -/
def acquireIn (S : Stdlib) (coordinationDomainSha256 : String) (env : Environment S)
    (evaluator : Except EvaluatorException (Evaluation PreviewEvaluation)) (d : Domain) :
    LeaseAnswer × Domain :=
  let outcome := evaluateAndAcquire S coordinationDomainSha256 (env.acquireCall evaluator) d
  (⟨env.evaluates (env.acquireCall evaluator) d, outcome.1.mapError raisedByAcquire⟩, outcome.2)

/-- The arming of a run, as the run sees it. -/
def armIn (S : Stdlib) (coordinationDomainSha256 : String) (env : Environment S)
    (handle : LeaseHandle) (d : Domain) :
    Except ForeignException TransitionReceipt × Domain :=
  let outcome := armDelivery S coordinationDomainSha256 (env.armCall handle) d
  (outcome.1.mapError raisedByStore, outcome.2)

/-- The settlement of a run, as the run sees it. -/
def releaseIn (S : Stdlib) (coordinationDomainSha256 : String) (env : Environment S)
    (handle : LeaseHandle) (delivery : DeliveryStatus) (d : Domain) :
    Except ForeignException ReleaseReceipt × Domain :=
  let outcome := release S coordinationDomainSha256 (env.releaseCall handle delivery) d
  (outcome.1.mapError raisedByStore, outcome.2)

theorem acquireIn_eq_ok {d : Domain} :
    (acquireIn S coordinationDomainSha256 env evaluator d).1.answer = .ok acquisition ↔
      (evaluateAndAcquire S coordinationDomainSha256 (env.acquireCall evaluator) d).1 =
        .ok acquisition := by
  rw [acquireIn, mapError_eq_ok]

theorem armIn_eq_ok {d : Domain} {handle : LeaseHandle} {transition : TransitionReceipt} :
    (armIn S coordinationDomainSha256 env handle d).1 = .ok transition ↔
      (armDelivery S coordinationDomainSha256 (env.armCall handle) d).1 = .ok transition :=
  mapError_eq_ok

theorem releaseIn_eq_ok {d : Domain} {handle : LeaseHandle} {delivery : DeliveryStatus}
    {receipt : ReleaseReceipt} :
    (releaseIn S coordinationDomainSha256 env handle delivery d).1 = .ok receipt ↔
      (release S coordinationDomainSha256 (env.releaseCall handle delivery) d).1 =
        .ok receipt := mapError_eq_ok

theorem acquireIn_admits {d : Domain}
    (h : (acquireIn S coordinationDomainSha256 env evaluator d).1.answer = .ok acquisition) :
    (acquireIn S coordinationDomainSha256 env evaluator d).1.evaluated = true ∧
      ∃ evaluation, evaluator = .ok evaluation ∧ AdmissionOf S (env.policy.digest S)
        coordinationDomainSha256 evaluation acquisition := by
  rw [acquireIn_eq_ok] at h
  have hevaluated : (acquireIn S coordinationDomainSha256 env evaluator d).1.evaluated =
      env.evaluates (env.acquireCall evaluator) d := by rw [acquireIn]
  rw [hevaluated]
  exact ⟨evaluates_of_acquired env h, admissionOf_acquired env h⟩

theorem acquireIn_passesBlock {d : Domain}
    (h : (acquireIn S coordinationDomainSha256 env evaluator d).1.answer =
      .error (.previewBlocked evaluation)) :
    evaluator = .error (.previewBlocked evaluation) := by
  rw [acquireIn, mapError_eq_error] at h
  obtain ⟨failure, hfailure, hraised⟩ := h
  exact blocked_of_acquire env hfailure hraised

end Laws

/-- `SQLiteCooperativeResourceLeaseStore` in the hands of one run; before each of its
calls the other participants take their steps. -/
def sqliteStore (S : Stdlib) (coordinationDomainSha256 : String) (env : Environment S) :
    LeaseStore S Domain where
  policySha256 := env.policy.digest S
  coordinationDomainSha256 := coordinationDomainSha256
  evaluateAndAcquire evaluator w := acquireIn S coordinationDomainSha256 env evaluator
    ((ledger S coordinationDomainSha256 _ _).exec w env.beforeAcquire)
  armDelivery handle w := armIn S coordinationDomainSha256 env handle
    ((ledger S coordinationDomainSha256 _ _).exec w env.beforeArm)
  release handle delivery w := releaseIn S coordinationDomainSha256 env handle delivery
    ((ledger S coordinationDomainSha256 _ _).exec w env.beforeRelease)
  admits _ _ _ h := acquireIn_admits env h
  passesBlock _ _ _ h := acquireIn_passesBlock env h
  arms handle _ _ h := lineage_of_armDelivery (env.armCall handle) ((armIn_eq_ok env).mp h)
  releases handle delivery _ _ h :=
    lineage_of_release (env.releaseCall handle delivery) ((releaseIn_eq_ok env).mp h)

end LocalMoe.BoundCell
