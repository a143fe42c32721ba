/-
  The runner and the constructors of its report agree.
-/
import LocalMoe.BoundCell.Delivery
import LocalMoe.Lease.Capacity

namespace LocalMoe.BoundCell

open Foundation Contracts Lease

variable {S : Stdlib} {σ : Type}

/-! ## Runs -/

structure BindingValidated (rt : Runtime) (inputs : RunInputs) (script : Script)
    (target : ResolvedTarget) (pre : InspectionBundle) : Prop where
  started : ∃ started, wallTime script.startClock = .ok started
  ticked : ∃ tick, monotonicSeconds script.startTick = .ok tick
  confirmed : inputs.confirmed = true
  task : inputs.task ≠ [] ∧ (encodeUtf8 inputs.task).getD [] ≠ [] ∧
    ((encodeUtf8 inputs.task).getD []).length ≤ inputs.policy.maxTaskBytes
  resolved : script.resolve = .ok target
  clocked : ∃ clock, script.preClock = .ok clock
  inspected : script.preInspect = .ok pre
  validated : validateBinding rt target pre = .ok ()

theorem BindingValidated.gatePhase {rt : Runtime} {inputs : RunInputs} {script : Script}
    {target : ResolvedTarget} {pre : InspectionBundle}
    (h : BindingValidated rt inputs script target pre) (p : Progress) :
    gatePhase inputs p = .ok () := by
  rw [LocalMoe.BoundCell.gatePhase, check_bind_eq_ok, check_eq_ok]
  exact ⟨h.confirmed, h.task⟩

theorem BindingValidated.bindingPhase {rt : Runtime} {inputs : RunInputs} {script : Script}
    {target : ResolvedTarget} {pre : InspectionBundle}
    (h : BindingValidated rt inputs script target pre) (p : Progress) :
    bindingPhase rt script p = .ok (.ok ({ p with
      publicationRoots := pre.publicationProtectedRoots
      state := boundState p.state target pre }, target, pre)) := by
  obtain ⟨clock, hclock⟩ := h.clocked
  unfold LocalMoe.BoundCell.bindingPhase inspectBinding
  simp only [h.resolved, hclock, h.inspected, h.validated, Except.mapError, ok_bind]
  rfl

/-- A delivery in doubt whose settlement the store answers with `released`. -/
def DoubtReleased (inputs : RunInputs) (script : Script) (store : LeaseStore S σ)
    (target : ResolvedTarget) (pre : InspectionBundle) (w : σ) : Prop :=
  ∃ handle w', Delivers inputs script store target pre w handle w' ∧
    ¬ Responded script.invoke ∧
    ∃ receipt, (store.release handle .attemptedUnknown w').1 = .ok receipt ∧
      receipt.status = .released

theorem Delivers.unique {inputs : RunInputs} {script : Script} {store : LeaseStore S σ}
    {target : ResolvedTarget} {pre : InspectionBundle} {w w₁ w₂ : σ} {handle₁ handle₂ : LeaseHandle}
    (h₁ : Delivers inputs script store target pre w handle₁ w₁)
    (h₂ : Delivers inputs script store target pre w handle₂ w₂) : handle₁ = handle₂ ∧ w₁ = w₂ := by
  obtain ⟨evaluation, acquisition, _, hevaluation, hanswer, -, hhandle, -, -, hworld⟩ := h₁.fenced
  obtain ⟨evaluation', acquisition', _, hevaluation', hanswer', -, hhandle', -, -, hworld'⟩ :=
    h₂.fenced
  obtain rfl := Except.ok.inj (hevaluation.symm.trans hevaluation')
  obtain rfl := Except.ok.inj (hanswer.symm.trans hanswer')
  obtain rfl := Option.some.inj (hhandle.symm.trans hhandle')
  exact ⟨rfl, hworld.symm.trans hworld'⟩

section Runs

variable {rt : Runtime} {inputs : RunInputs} {script : Script} {store : LeaseStore S σ}
  {started : Instant} {tick : ℚ} {target : ResolvedTarget} {pre : InspectionBundle}

/-- The variables of a run once its binding is validated. -/
def boundProgress (S : Stdlib) (inputs : RunInputs) (started : Instant)
    (target : ResolvedTarget) (pre : InspectionBundle) : Progress where
  state := boundState (initialState S inputs started) target pre
  publicationRoots := pre.publicationProtectedRoots

theorem runBoundCell_of_bound (hbound : BindingValidated rt inputs script target pre)
    (hstarted : wallTime script.startClock = .ok started)
    (htick : monotonicSeconds script.startTick = .ok tick) (store : LeaseStore S σ) (w : σ) :
    runBoundCell rt inputs script store w =
      ((finish S rt started tick script (boundRun rt inputs script store
        (boundProgress S inputs started target pre) target pre ⟨w, []⟩).1).mapError
          RunFailure.finish,
        (boundRun rt inputs script store (boundProgress S inputs started target pre) target pre
          ⟨w, []⟩).2) := by
  unfold runBoundCell exitOfRun
  simp only [hstarted, htick, ok_bind, hbound.gatePhase, hbound.bindingPhase]
  rfl

theorem finish_boundRun_iff (hbound : BindingValidated rt inputs script target pre)
    (store : LeaseStore S σ) (w : σ) :
    (∃ result, finish S rt started tick script (boundRun rt inputs script store
        (boundProgress S inputs started target pre) target pre ⟨w, []⟩).1 = .ok result) ↔
      ¬ DoubtReleased inputs script store target pre w := by
  have hready : (boundProgress S inputs started target pre).Ready started :=
    ready_of_bound (ready_initial (hbound.gatePhase _)) (hbound.bindingPhase _)
  rcases boundRun_cases rt inputs script store hready hbound.validated _ rfl ⟨w, []⟩ with
    ⟨hsettles, hnever⟩ | ⟨handle, w', s', q, claim, admission, preview, probe, hdelivers, rfl,
      hexit, harmed⟩
  · rw [finish_returns_iff rt started tick script hsettles.reportable hsettles.traced]
    refine iff_of_true hsettles.agrees ?_
    rintro ⟨handle, w', hdelivers, -⟩
    exact hnever handle w' hdelivers
  · obtain ⟨hreportable, htraced, hconflicts⟩ :=
      deliverPhase_settles rt inputs script s' harmed preview rfl
    rw [hexit, finish_returns_iff rt started tick script hreportable htraced, hconflicts,
      ← Bool.not_eq_true, responseReceived_iff]
    refine not_congr ⟨fun h => ⟨handle, _, hdelivers, h⟩, ?_⟩
    rintro ⟨handle', w', hdelivers', h⟩
    obtain ⟨rfl, rfl⟩ := hdelivers.unique hdelivers'
    exact h

theorem returns_of_not_doubtReleased (hbound : BindingValidated rt inputs script target pre)
    {w : σ} (hnever : ¬ DoubtReleased inputs script store target pre w) :
    ∃ result, (runBoundCell rt inputs script store w).1 = .ok result := by
  obtain ⟨started, hstarted⟩ := hbound.started
  obtain ⟨tick, htick⟩ := hbound.ticked
  rw [runBoundCell_of_bound hbound hstarted htick]
  simp only [mapError_eq_ok]
  exact (finish_boundRun_iff hbound store w).mpr hnever

theorem not_returns_of_doubtReleased (hbound : BindingValidated rt inputs script target pre)
    {w : σ} (hdoubt : DoubtReleased inputs script store target pre w) :
    ¬ ∃ result, (runBoundCell rt inputs script store w).1 = .ok result := by
  obtain ⟨started, hstarted⟩ := hbound.started
  obtain ⟨tick, htick⟩ := hbound.ticked
  rw [runBoundCell_of_bound hbound hstarted htick]
  simp only [mapError_eq_ok]
  rw [finish_boundRun_iff hbound]
  exact not_not_intro hdoubt

/-- Once its binding is validated a run returns its result, for every behaviour of its
collaborators and of its store, unless its delivery is in doubt and the store answers the
settlement with `released`. -/
theorem bound_run_returns_iff (rt : Runtime) (inputs : RunInputs) (script : Script)
    (store : LeaseStore S σ) (w : σ) (target : ResolvedTarget) (pre : InspectionBundle)
    (hbound : BindingValidated rt inputs script target pre) :
    (∃ result, (runBoundCell rt inputs script store w).1 = .ok result) ↔
      ¬ DoubtReleased inputs script store target pre w := by
  constructor
  · intro hreturns hdoubt
    exact not_returns_of_doubtReleased hbound hdoubt hreturns
  · intro hnever
    exact returns_of_not_doubtReleased hbound hnever

end Runs

/-! ## A run whose delivery is in doubt -/

/-- The admission of a store that grants whatever it is asked for. -/
def grantedAdmission (S : Stdlib) (evaluation : Evaluation PreviewEvaluation) :
    AdmissionReceipt where
  policySha256 := sampleDigest
  claimSha256 := evaluation.claim.digest S
  resourceSnapshotSha256 := evaluation.claim.resourceSnapshotSha256
  coordinationDomainSha256 := sampleDigest
  status := .acquired
  reasonCodes := ∅
  evaluatedAt := sampleTime.isoformat
  leaseId := some (strip "lease")
  leaseTokenSha256 := some sampleDigest
  activeLeasesBefore := 0
  activeLeasesAfter := 1
  reapedLeases := 0
  systemAvailableBytes := none
  acceleratorAvailableBytes := none
  activeSystemClaimBytes := 0
  activeAcceleratorClaimBytes := 0
  requestedSystemClaimBytes := evaluation.claim.systemClaimBytes
  requestedAcceleratorClaimBytes := evaluation.claim.acceleratorClaimBytes
  safetyReserveBytes := evaluation.claim.safetyReserveBytes
  appliedSystemReserveBytes := 0
  appliedAcceleratorReserveBytes := 0

def grantedHandle (S : Stdlib) (evaluation : Evaluation PreviewEvaluation) : LeaseHandle where
  leaseId := "lease"
  admissionReceiptSha256 := (grantedAdmission S evaluation).digest S
  claimSha256 := evaluation.claim.digest S
  token := []
  ownerLock := "lease"

/-- A store that grants every lease, arms every delivery and answers every settlement with
one status. -/
def obligingStore (S : Stdlib) (status : ReleaseStatus) : LeaseStore S Unit where
  policySha256 := sampleDigest
  coordinationDomainSha256 := sampleDigest
  evaluateAndAcquire evaluator _ :=
    (⟨true, evaluator.map fun evaluation =>
      ⟨grantedAdmission S evaluation, some (grantedHandle S evaluation), evaluation.context⟩⟩, ())
  armDelivery handle _ :=
    (.ok
      { policySha256 := sampleDigest
        admissionReceiptSha256 := handle.admissionReceiptSha256
        claimSha256 := handle.claimSha256
        coordinationDomainSha256 := sampleDigest
        leaseId := strip handle.leaseId
        transitionApplied := true
        reasonCodes := ∅
        transitionedAt := sampleTime.isoformat }, ())
  release handle delivery _ :=
    (.ok
      { policySha256 := sampleDigest
        admissionReceiptSha256 := handle.admissionReceiptSha256
        claimSha256 := handle.claimSha256
        coordinationDomainSha256 := sampleDigest
        leaseId := strip handle.leaseId
        status := status
        reasonCodes := if status = .released then ∅ else {"delivery_outcome_unknown"}
        deliveryStatus := delivery
        releasedAt := sampleTime.isoformat
        activeLeasesAfter := 0 }, ())
  admits evaluator w acquisition h := by
    rcases evaluator with e | evaluation
    · cases h
    · cases h
      refine ⟨rfl, evaluation, rfl, ?_⟩
      exact
        { context := rfl
          claim := by
            simp only [validateClaimAdmission, grantedAdmission, check_bind_eq_ok, check_eq_ok,
              and_self]
          policy := rfl
          domain := rfl
          acquired := fun _ => ⟨grantedHandle S evaluation, rfl, rfl, rfl, rfl⟩
          denied := fun hdenied => absurd rfl hdenied }
  passesBlock evaluator w evaluation h := by
    rcases evaluator with e | evaluation
    · cases h
      rfl
    · cases h
  arms handle w transition h := by
    cases h
    rfl
  releases handle delivery w receipt h := by
    cases h
    exact ⟨rfl, rfl⟩

def sampleSha : Digest := ⟨sampleDigest, isSha256_sampleDigest⟩

def sampleId : SafeId := ⟨"cell", by decide⟩

def samplePassport : CellPassport where
  cellId := sampleId
  digest := sampleSha
  declaration := ⟨sampleSha, ["compute_only"], []⟩
  estimated := ⟨some .accelerator, some .discreteAccelerator, some 4, none, some 8⟩
  measured := ⟨none, none, none, none, none⟩

def sampleCandidate : CandidateAssessment where
  cellId := sampleId
  passportSha256 := sampleSha
  digest := sampleSha
  hardEligible := true
  paretoEligible := true
  memoryPool := some .accelerator
  placement := some .discreteAccelerator
  effectivePeakHostMemoryBytes := some 4
  effectivePeakUnifiedMemoryBytes := none
  effectivePeakAcceleratorMemoryBytes := some 8

def sampleCatalog : AdaptiveCellCatalog where
  digest := sampleSha
  profiles := fun _ => some ⟨sampleSha, 1⟩
  cells := [samplePassport]

def sampleAdvice : AdaptiveAdvisorReceipt where
  digest := sampleSha
  taskChars := 1
  requestProfile := "profile"
  requestDigest := sampleSha
  requestEvaluatedAt := "now"
  adviceStatus := "recommended"
  adviceProfile := "profile"
  adviceCatalogSha256 := sampleSha
  adviceResourceSnapshotSha256 := sampleSha
  selectedCellId := some sampleId
  candidates := [sampleCandidate]

def samplePreview : PreviewEvaluation where
  receipt :=
    { digest := sampleSha
      status := .admissionPassed
      taskChars := 1
      evaluatedAt := "now"
      freshAdvisorReceiptSha256 := sampleSha
      freshRequestSha256 := sampleSha
      freshResourceSnapshotSha256 := sampleSha
      freshSelectedCellId := some sampleId
      freshPassportSha256 := some sampleSha }
  freshAdvisorReceipt := sampleAdvice
  resourceSnapshot := sampleSnapshot
  catalog := sampleCatalog
  linked := ⟨rfl, rfl, rfl, rfl⟩

def sampleTarget : ResolvedTarget where
  request := ⟨sampleSha, sampleId, sampleId⟩
  passport := samplePassport
  expert := ⟨"cell", "openai_compatible", "model", some "http://127.0.0.1:1", some .deviceOnly,
    some .directLocal, ""⟩
  configSourceSha256 := sampleSha
  runtimeConfigSha256 := sampleSha

def sampleBundle : InspectionBundle where
  digest := sampleSha
  requestSha256 := sampleSha
  manifest := ⟨sampleSha, sampleId, sampleSha, sampleId, sampleSha, sampleSha,
    "managed_direct_local_openai_v1"⟩
  receipt := ⟨sampleSha, .verified⟩
  publicationProtectedRoots := []

def sampleScript : Script where
  startClock := .ok (.utc sampleTime 0)
  startTick := .ok (.seconds 0)
  resolve := .ok sampleTarget
  preClock := .ok (.utc sampleTime 0)
  preInspect := .ok sampleBundle
  openStore := .ok ()
  resolveAgain := .ok sampleTarget
  snapshot := .ok sampleSnapshot
  preview := .ok samplePreview
  preProbe := .ok ⟨["model"], sampleSha⟩
  invoke := .error .other
  postProbe := .ok ⟨["model"], sampleSha⟩
  postClock := .ok (.utc sampleTime 0)
  postInspect := .ok sampleBundle
  resolveAfter := .ok sampleTarget
  finishClock := .ok (.utc sampleTime 0)
  finishTick := .ok (.seconds 0)

def sampleRuntime : Runtime where
  isExplicitLoopbackHttpUrl := fun _ => true
  elapsedMs := fun _ _ => some 0
  elapsedMs_exact := by
    intro completed started n h
    cases h
    exact isBinary64_of_lt (by decide)

local instance neZero_codes : NeZero 1114112 := ⟨by decide⟩

def sampleInputs : RunInputs where
  policy := ⟨sampleSha, 16, 16, by decide⟩
  task := [65]
  confirmed := true

theorem sample_validated :
    BindingValidated sampleRuntime sampleInputs sampleScript sampleTarget sampleBundle where
  started := ⟨_, rfl⟩
  ticked := ⟨_, rfl⟩
  confirmed := rfl
  task := by decide
  resolved := rfl
  clocked := ⟨_, rfl⟩
  inspected := rfl
  validated := by decide

theorem sample_evaluates : evaluateForLease sampleInputs sampleScript sampleTarget sampleBundle =
      .ok ⟨sampleClaim, sampleSnapshot, samplePreview⟩ := by
  have hclaim : cooperativeResourceClaimFromPreview samplePreview.receipt sampleAdvice
      samplePassport sampleCatalog sampleSnapshot = .ok sampleClaim := by
    refine check_bind_eq_ok.mpr ⟨by decide +kernel, bind_eq_ok.mpr ⟨_, rfl, ?_⟩⟩
    refine bind_eq_ok.mpr ⟨_, rfl, check_bind_eq_ok.mpr ⟨by decide +kernel, ?_⟩⟩
    refine check_bind_eq_ok.mpr ⟨by decide +kernel, bind_eq_ok.mpr ⟨_, rfl, ?_⟩⟩
    refine check_bind_eq_ok.mpr ⟨by decide, ?_⟩
    exact congrArg (Except.mapError _)
      (@CooperativeResourceClaim.construct_toClaimFields sampleClaim)
  have hbinding : validatePreviewBinding samplePreview.receipt sampleTarget sampleBundle =
      .ok () := by decide +kernel
  have hpreview : freshPreview sampleScript = .ok samplePreview := rfl
  unfold evaluateForLease admitPreview
  simp only [↓check_bind_eq_ok, bind_eq_ok, mapError_eq_ok]
  exact ⟨samplePreview, hpreview, by decide +kernel, (), hbinding, rfl, sampleClaim, hclaim, rfl⟩

theorem sample_delivers (S : Stdlib) (status : ReleaseStatus) :
    Delivers sampleInputs sampleScript (obligingStore S status) sampleTarget sampleBundle ()
      (grantedHandle S ⟨sampleClaim, sampleSnapshot, samplePreview⟩) () where
  opened := rfl
  resolved := ⟨sampleTarget, rfl, rfl, rfl, rfl, rfl, rfl⟩
  fenced := ⟨_, _, _, sample_evaluates, rfl, rfl, rfl, rfl, rfl, rfl⟩
  probed := ⟨_, rfl, List.mem_cons_self⟩

theorem sample_returns : ∃ result, (runBoundCell sampleRuntime sampleInputs sampleScript
    (obligingStore Stdlib.cpython .unknownBlocking) ()).1 = .ok result := by
  generalize Stdlib.cpython = S
  refine (bound_run_returns_iff sampleRuntime sampleInputs sampleScript
    (obligingStore S .unknownBlocking) () sampleTarget sampleBundle sample_validated).mpr ?_
  rintro ⟨handle, w', -, -, receipt, hreceipt, hreleased⟩
  cases hreceipt
  cases hreleased

theorem sample_raises :
    BindingValidated sampleRuntime sampleInputs sampleScript sampleTarget sampleBundle ∧
      ¬ ∃ result, (runBoundCell sampleRuntime sampleInputs sampleScript
        (obligingStore Stdlib.cpython .released) ()).1 = .ok result := by
  generalize Stdlib.cpython = S
  refine ⟨sample_validated, not_returns_of_doubtReleased sample_validated ?_⟩
  exact ⟨_, _, sample_delivers S .released, fun h => h, _, rfl, rfl⟩

end LocalMoe.BoundCell
