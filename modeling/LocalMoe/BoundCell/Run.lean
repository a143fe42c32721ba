/-
  `run_bound_cell`: one confirmed inference of one bound cell.

  Everything the run calls may return or raise, so what each call does is a field of a `Script`;
  the lease store is a `LeaseStore` over a state of its own.

  The exits inside a `try` whose handler would catch a failure of `finish` build reports of
  blocked runs, which the contracts accept; no handler is modelled around them.
-/
import LocalMoe.BoundCell.Contracts
import LocalMoe.Lease.PreviewClaim
import Mathlib.Data.Finset.Option

namespace LocalMoe.BoundCell

open Foundation Contracts Lease

/-! ## Text -/

/-- A Python `str`: code points, lone surrogates included. -/
abbrev PyText := List (Fin 0x110000)

/-- The bytes of one code point; a surrogate has none. -/
def utf8Bytes (point : Fin 0x110000) : Option (List UInt8) :=
  if point.val.isValidChar then some (String.utf8EncodeChar (Char.ofNat point.val)) else none

/-- `str.encode("utf-8")`. -/
def encodeUtf8 (text : PyText) : Option (List UInt8) := (text.mapM utf8Bytes).map List.flatten

/-! ## Exceptions -/

/-- The two exceptions a run keeps for its caller. -/
inductive Interruption where
  | keyboardInterrupt
  | systemExit
  deriving DecidableEq, Repr

/-- What foreign code may raise. -/
inductive ForeignException where
  /-- `BoundCellRunTransportError`. -/
  | transport (code : String) (responseReceived : Bool)
  /-- `CooperativeResourceLeaseStoreError`. -/
  | store (error : StoreError)
  /-- Any other `Exception`. -/
  | other
  | interrupt (interruption : Interruption)
  deriving DecidableEq, Repr

def ForeignException.interruption : ForeignException → Option Interruption
  | .interrupt i => some i
  | _ => none

/-- `BoundCellRunTransportError(code, ...)` of the run itself. -/
def transportError (code : String) : ForeignException := .transport code false

/-- What the evaluator of a lease may raise: also `_AdaptivePreviewBlocked`. -/
inductive EvaluatorException where
  | foreign (exception : ForeignException)
  | previewBlocked (evaluation : PreviewEvaluation)

/-- The codes `_stable_reason` lets through. -/
def stableReasons : Finset String :=
  {"binding_changed", "binding_inspection_failed", "binding_not_verified", "config_changed",
    "declaration_mismatch", "endpoint_not_loopback", "expert_mismatch",
    "expected_model_missing", "model_identity_changed", "execution_interrupted",
    "model_probe_failed", "passport_mismatch", "post_binding_inspection_failed",
    "response_invalid", "response_too_large", "risk_class_blocked",
    "runtime_config_mismatch", "selected_cell_mismatch", "tool_surface_blocked",
    "transport_blocked", "transport_failed"}

def stableReason (code fallback : String) : String :=
  if code ∈ stableReasons then code else fallback

/-- The reason a handler reports for an exception that is no interruption. -/
def ForeignException.reason (fallback : String) : ForeignException → String
  | .transport code _ => stableReason code fallback
  | _ => fallback

/-- The reasons of the handlers around a probe or an inspection: an interruption adds
its own code. -/
def ForeignException.reasons (fallback : String) (e : ForeignException) : Finset String :=
  match e with
  | .interrupt _ => {"execution_interrupted", fallback}
  | _ => {e.reason fallback}

/-! ## Evidence of the binding -/

/-- `CellBindingInspectRequest`, with the fields a run reads. -/
structure BindingRequest where
  digest : Digest
  cellId : SafeId
  expertId : SafeId
  deriving DecidableEq

inductive ExecutionScope where
  | deviceOnly
  | privateMesh
  | publicMesh
  | paidRemote
  deriving DecidableEq, Repr

inductive ExecutionTransport where
  | directLocal
  | meshLlm
  | gateway
  deriving DecidableEq, Repr

/-- `ExpertConfig`.  The role, the weight, the timeout and the parameters are only
compared; `settings` renders them. -/
structure ExpertConfig where
  id : String
  provider : String
  model : String
  baseUrl : Option String
  scope : Option ExecutionScope
  transport : Option ExecutionTransport
  settings : String
  deriving DecidableEq

structure ResolvedTarget where
  request : BindingRequest
  passport : CellPassport
  expert : ExpertConfig
  configSourceSha256 : Digest
  runtimeConfigSha256 : Digest
  deriving DecidableEq

/-- `CellRuntimeBindingManifest`, with the fields a run reads. -/
structure BindingManifest where
  digest : Digest
  cellId : SafeId
  declarationSha256 : Digest
  expertId : SafeId
  configSourceSha256 : Digest
  runtimeConfigSha256 : Digest
  adapterId : String
  deriving DecidableEq

inductive InspectionStatus where
  | abstained
  | verified
  deriving DecidableEq, Repr

/-- `CellRuntimeInspectionReceipt`, with the fields a run reads. -/
structure InspectionReceipt where
  digest : Digest
  status : InspectionStatus
  deriving DecidableEq

/-- `ProtectedRootIdentity`; the second part of the key is a number or bytes. -/
structure ProtectedRootIdentity where
  path : String
  platform : String
  key : Int × (Int ⊕ List UInt8)
  deriving DecidableEq

structure InspectionBundle where
  digest : Digest
  requestSha256 : Digest
  manifest : BindingManifest
  receipt : InspectionReceipt
  publicationProtectedRoots : List ProtectedRootIdentity
  deriving DecidableEq

structure ModelIdentityProbe where
  modelIds : List String
  identitySetSha256 : Digest
  deriving DecidableEq

/-- `_is_explicit_loopback_http_url` and the arithmetic of floats, which the run only
passes on. -/
structure Runtime where
  isExplicitLoopbackHttpUrl : String → Bool
  /-- `int((completed - started) * 1000)`; nothing when the product overflows. -/
  elapsedMs : ℚ → ℚ → Option Nat
  /-- An `int` of a float is that float. -/
  elapsedMs_exact : ∀ completed started n, elapsedMs completed started = some n →
    isBinary64 n = true

def baseUrl (rt : Runtime) (expert : ExpertConfig) : Except ForeignException String :=
  match expert.baseUrl with
  | some url =>
    if rt.isExplicitLoopbackHttpUrl url then .ok url
    else .error (transportError "endpoint_not_loopback")
  | none => .error (transportError "endpoint_not_loopback")

def validateBinding (rt : Runtime) (target : ResolvedTarget) (bundle : InspectionBundle) :
    Except ForeignException Unit := do
  let manifest := bundle.manifest
  let declaration := target.passport.declaration
  check (bundle.requestSha256 = target.request.digest) (transportError "binding_changed")
  check (bundle.receipt.status = .verified) (transportError "binding_not_verified")
  check (manifest.cellId = target.request.cellId) (transportError "selected_cell_mismatch")
  check (manifest.declarationSha256 = declaration.digest)
    (transportError "declaration_mismatch")
  check (manifest.expertId = target.request.expertId ∧
      target.expert.id = target.request.expertId.val)
    (transportError "expert_mismatch")
  check (manifest.configSourceSha256 = target.configSourceSha256)
    (transportError "config_changed")
  check (manifest.runtimeConfigSha256 = target.runtimeConfigSha256)
    (transportError "runtime_config_mismatch")
  check (declaration.riskClasses = ["compute_only"]) (transportError "risk_class_blocked")
  check (declaration.toolSurfaces = []) (transportError "tool_surface_blocked")
  check (manifest.adapterId = "managed_direct_local_openai_v1")
    (transportError "transport_blocked")
  check (target.expert.provider = "openai_compatible" ∧
      target.expert.scope = some .deviceOnly ∧ target.expert.transport = some .directLocal)
    (transportError "transport_blocked")
  let _ ← baseUrl rt target.expert

def validatePreviewBinding (preview : PreviewReceipt) (target : ResolvedTarget)
    (bundle : InspectionBundle) : Except ForeignException Unit := do
  check (preview.freshSelectedCellId = some target.request.cellId)
    (transportError "selected_cell_mismatch")
  check (preview.freshPassportSha256 = some target.passport.digest)
    (transportError "passport_mismatch")
  check (bundle.manifest.declarationSha256 = target.passport.declaration.digest)
    (transportError "declaration_mismatch")

/-! ## Clocks -/

/-- What the wall clock shows: a UTC instant, or something `_utc` refuses. -/
inductive WallClock where
  | utc (time : DateTime) (microsecond : Fin 1000000)
  | notUtc
  deriving DecidableEq

/-- What the monotonic clock shows, as `_monotonic_seconds` takes it. -/
inductive MonotonicClock where
  | seconds (value : ℚ)
  | invalid
  deriving DecidableEq

/-- An instant of the wall clock. -/
structure Instant where
  time : DateTime
  microsecond : Fin 1000000

/-- `completed_time < started_time`. -/
def Instant.before (a b : Instant) : Prop :=
  a.time.ordinal < b.time.ordinal ∨
    a.time.ordinal = b.time.ordinal ∧ a.microsecond < b.microsecond

instance (a b : Instant) : Decidable (a.before b) := inferInstanceAs (Decidable (_ ∨ _))

/-- A clock that was read and passed `_utc`. -/
def wallTime (clock : Except ForeignException WallClock) : Except ForeignException Instant :=
  match clock with
  | .error e => .error e
  | .ok .notUtc => .error (transportError "transport_failed")
  | .ok (.utc time microsecond) => .ok ⟨time, microsecond⟩

/-- A tick that was read and passed `_monotonic_seconds`. -/
def monotonicSeconds (clock : Except ForeignException MonotonicClock) :
    Except ForeignException ℚ :=
  match clock with
  | .error e => .error e
  | .ok .invalid => .error (transportError "clock_invalid")
  | .ok (.seconds value) => .ok value

/-! ## Collaborators -/

/-- The answer of `evaluate_and_acquire`, and whether it called its evaluator. -/
structure LeaseAnswer where
  evaluated : Bool
  answer : Except EvaluatorException (Acquisition PreviewEvaluation)

/-- What an admission owes to the evaluation it admitted. -/
structure AdmissionOf (S : Stdlib) (policySha256 coordinationDomainSha256 : String)
    (evaluation : Evaluation PreviewEvaluation)
    (acquisition : Acquisition PreviewEvaluation) : Prop where
  context : acquisition.context = evaluation.context
  claim : validateClaimAdmission S evaluation.claim acquisition.receipt = .ok ()
  policy : acquisition.receipt.policySha256 = policySha256
  domain : acquisition.receipt.coordinationDomainSha256 = coordinationDomainSha256
  acquired : acquisition.receipt.status = .acquired →
    ∃ handle, acquisition.handle = some handle ∧
      handle.admissionReceiptSha256 = acquisition.receipt.digest S ∧
      handle.claimSha256 = evaluation.claim.digest S ∧
      acquisition.receipt.leaseId = some (strip handle.leaseId)
  denied : acquisition.receipt.status ≠ .acquired → acquisition.handle = none

/-- The lineage of a receipt a store issues for a handle. -/
def handleLineage (policySha256 coordinationDomainSha256 : String) (handle : LeaseHandle) :
    Lineage where
  policySha256 := policySha256
  admissionReceiptSha256 := handle.admissionReceiptSha256
  claimSha256 := handle.claimSha256
  coordinationDomainSha256 := coordinationDomainSha256
  leaseId := some (strip handle.leaseId)

/-- A lease store as a run uses it.  Its answers are free except that a receipt names the
claim, the handle and the outcome it is about. -/
structure LeaseStore (S : Stdlib) (σ : Type) where
  policySha256 : String
  coordinationDomainSha256 : String
  evaluateAndAcquire : Except EvaluatorException (Evaluation PreviewEvaluation) → σ →
    LeaseAnswer × σ
  armDelivery : LeaseHandle → σ → Except ForeignException TransitionReceipt × σ
  release : LeaseHandle → DeliveryStatus → σ → Except ForeignException ReleaseReceipt × σ
  admits : ∀ evaluator w acquisition,
    (evaluateAndAcquire evaluator w).1.answer = .ok acquisition →
      (evaluateAndAcquire evaluator w).1.evaluated = true ∧
        ∃ evaluation, evaluator = .ok evaluation ∧
          AdmissionOf S policySha256 coordinationDomainSha256 evaluation acquisition
  passesBlock : ∀ evaluator w evaluation,
    (evaluateAndAcquire evaluator w).1.answer = .error (.previewBlocked evaluation) →
      evaluator = .error (.previewBlocked evaluation)
  arms : ∀ handle w transition, (armDelivery handle w).1 = .ok transition →
    Lineage.ofTransition transition =
      handleLineage policySha256 coordinationDomainSha256 handle
  releases : ∀ handle delivery w receipt, (release handle delivery w).1 = .ok receipt →
    Lineage.ofRelease receipt =
      handleLineage policySha256 coordinationDomainSha256 handle ∧
      receipt.deliveryStatus = delivery

/-- What each call of a collaborator does, in the order of the calls. -/
structure Script where
  startClock : Except ForeignException WallClock
  startTick : Except ForeignException MonotonicClock
  resolve : Except ForeignException ResolvedTarget
  preClock : Except ForeignException WallClock
  preInspect : Except ForeignException InspectionBundle
  /-- Constructing the default lease store. -/
  openStore : Except ForeignException Unit
  resolveAgain : Except ForeignException ResolvedTarget
  snapshot : Except ForeignException ResourceSnapshot
  preview : Except ForeignException PreviewEvaluation
  preProbe : Except ForeignException ModelIdentityProbe
  invoke : Except ForeignException PyText
  postProbe : Except ForeignException ModelIdentityProbe
  postClock : Except ForeignException WallClock
  postInspect : Except ForeignException InspectionBundle
  resolveAfter : Except ForeignException ResolvedTarget
  finishClock : Except ForeignException WallClock
  finishTick : Except ForeignException MonotonicClock

/-- `BoundCellRunPolicy`, with the bounds a run reads. -/
structure RunPolicy where
  digest : Digest
  maxTaskBytes : Nat
  maxResponseBytes : Nat
  bounds : (1 ≤ maxTaskBytes ∧ maxTaskBytes ≤ 1024 * 1024) ∧
    (1 ≤ maxResponseBytes ∧ maxResponseBytes ≤ 16 * 1024 * 1024)

structure RunInputs where
  policy : RunPolicy
  task : PyText
  confirmed : Bool

/-! ## Variables of a run -/

/-- The variables of a run that `finish` reads. -/
structure Progress where
  state : RunState
  publicationRoots : List ProtectedRootIdentity := []
  pendingInterruption : Option Interruption := none
  leaseClaim : Option CooperativeResourceClaim := none
  leaseAdmission : Option AdmissionReceipt := none
  leaseTransition : Option TransitionReceipt := none
  leaseRelease : Option ReleaseReceipt := none
  leaseErrorCode : Option LeaseErrorCode := none

/-- The arguments of `finish`, with the variables it reads. -/
structure Exit where
  progress : Progress
  status : RunStatus
  reasons : Finset String
  response : Option PyText := none

/-- `finish("blocked", reasons)`. -/
def blocked (p : Progress) (reasons : Finset String) : Exit := ⟨p, .blocked, reasons, none⟩

/-- `pending_interruption = exc`. -/
def Progress.interrupt (p : Progress) (e : ForeignException) : Progress :=
  { p with pendingInterruption := e.interruption <|> p.pendingInterruption }

/-- `if pending_interruption is None: pending_interruption = exc`. -/
def Progress.interruptOnce (p : Progress) (e : ForeignException) : Progress :=
  { p with pendingInterruption := p.pendingInterruption <|> e.interruption }

/-- `lease_error_code = code`. -/
def Progress.fail (p : Progress) (code : LeaseErrorCode) : Progress :=
  { p with leaseErrorCode := some code }

/-- The digests `_record_binding` stores. -/
def recordBinding (bundle : InspectionBundle) : BindingEvidence where
  bindingBundleSha256 := some bundle.digest.val
  bindingRequestSha256 := some bundle.requestSha256.val
  bindingManifestSha256 := some bundle.manifest.digest.val
  inspectionReceiptSha256 := some bundle.receipt.digest.val

/-- What a run did to its lease and to its transport, in order. -/
inductive Event (σ : Type) where
  | acquired (answer : Except EvaluatorException (Acquisition PreviewEvaluation)) (world : σ)
  | armed (answer : Except ForeignException TransitionReceipt) (world : σ)
  | invoked
  | settled (delivery : DeliveryStatus) (answer : Except ForeignException ReleaseReceipt)
      (world : σ)

/-- The store and the events so far. -/
structure Session (σ : Type) where
  world : σ
  trace : List (Event σ)

def mergeProtectedRoots (first second : List ProtectedRootIdentity) :
    List ProtectedRootIdentity :=
  (first ++ second).foldl (fun result identity =>
    if identity ∈ result then result else result ++ [identity]) []

section Phases

variable {S : Stdlib} {σ : Type} (rt : Runtime) (inputs : RunInputs) (script : Script)
  (store : LeaseStore S σ)

/-! ## Before the lease -/

/-- The `state` of a run that starts now. -/
def initialState (S : Stdlib) (inputs : RunInputs) (started : Instant) : RunState where
  policySha256 := inputs.policy.digest.val
  startedAt := started.time.isoformat
  confirmed := inputs.confirmed
  taskSha256 := S.sha256 ((encodeUtf8 inputs.task).getD [])
  taskBytes := ((encodeUtf8 inputs.task).getD []).length

/-- The gates before any collaborator is asked. -/
def gatePhase (p : Progress) : Except Exit Unit := do
  check (inputs.confirmed = true) (blocked p {"confirmation_required"})
  check (inputs.task ≠ [] ∧ (encodeUtf8 inputs.task).getD [] ≠ [] ∧
      ((encodeUtf8 inputs.task).getD []).length ≤ inputs.policy.maxTaskBytes)
    (blocked p {"task_invalid"})

/-- The body of the first `try`; an exception carries the variables it leaves behind. -/
def inspectBinding (p : Progress) :
    Except (Progress × ForeignException) (Progress × ResolvedTarget × InspectionBundle) := do
  let target ← script.resolve.mapError (p, ·)
  let _ ← script.preClock.mapError (p, ·)
  let pre ← script.preInspect.mapError (p, ·)
  let p := { p with
    publicationRoots := pre.publicationProtectedRoots
    state := { p.state with pre := recordBinding pre } }
  (validateBinding rt target pre).mapError (p, ·)
  let state := { p.state with
    declarationSha256 := some target.passport.declaration.digest.val
    expertId := some target.expert.id
    preConfigSourceSha256 := some target.configSourceSha256.val }
  pure ({ p with state := state }, target, pre)

/-- Resolving and validating the binding; an interruption leaves the run. -/
def bindingPhase (p : Progress) :
    Except ForeignException (Except Exit (Progress × ResolvedTarget × InspectionBundle)) :=
  match inspectBinding rt script p with
  | .ok bound => .ok (.ok bound)
  | .error (_, .interrupt i) => .error (.interrupt i)
  | .error (p, e) => .ok (.error (blocked p {e.reason "binding_inspection_failed"}))

/-- The endpoint and the lease store. -/
def storePhase (p : Progress) (target : ResolvedTarget) : Except Exit Unit :=
  match (do let _ ← baseUrl rt target.expert; script.openStore) with
  | .ok () => .ok ()
  | .error (.interrupt i) =>
    .error (blocked ((p.interrupt (.interrupt i)).fail .leaseStoreFailed)
      {"adaptive_admission_blocked", "execution_interrupted"})
  | .error _ => .error (blocked (p.fail .leaseStoreFailed) {"adaptive_admission_blocked"})

/-- Resolving once more, right before the lease. -/
def recheckPhase (p : Progress) (target : ResolvedTarget) : Except Exit Unit :=
  match script.resolveAgain with
  | .ok current =>
    check (current.request.digest = target.request.digest ∧
        current.configSourceSha256 = target.configSourceSha256 ∧
        current.runtimeConfigSha256 = target.runtimeConfigSha256 ∧
        current.passport.digest = target.passport.digest ∧
        current.expert = target.expert)
      (blocked p {"config_changed"})
  | .error e => .error (blocked (p.interrupt e) (e.reasons "binding_inspection_failed"))

/-! ## The lease -/

/-- What `evaluate_for_lease` returns or raises once it has an evaluation. -/
def admitPreview (target : ResolvedTarget) (pre : InspectionBundle)
    (evaluation : PreviewEvaluation) :
    Except EvaluatorException (Evaluation PreviewEvaluation) := do
  check (evaluation.receipt.taskChars = inputs.task.length)
    (.foreign (transportError "adaptive_preview_invalid") : EvaluatorException)
  (validatePreviewBinding evaluation.receipt target pre).mapError EvaluatorException.foreign
  check (evaluation.receipt.status = .admissionPassed)
    (EvaluatorException.previewBlocked evaluation)
  let claim ← (cooperativeResourceClaimFromPreview evaluation.receipt
    evaluation.freshAdvisorReceipt target.passport evaluation.catalog
    evaluation.resourceSnapshot).mapError fun e => EvaluatorException.foreign (.store e)
  pure ⟨claim, evaluation.resourceSnapshot, evaluation⟩

def freshPreview : Except ForeignException PreviewEvaluation := do
  let _ ← script.snapshot
  script.preview

def evaluateForLease (target : ResolvedTarget) (pre : InspectionBundle) :
    Except EvaluatorException (Evaluation PreviewEvaluation) := do
  let evaluation ← (freshPreview script).mapError EvaluatorException.foreign
  admitPreview inputs target pre evaluation

/-- `lease_claim` after the evaluator. -/
def claimOf : Except EvaluatorException (Evaluation PreviewEvaluation) →
    Option CooperativeResourceClaim
  | .ok evaluation => some evaluation.claim
  | .error _ => none

/-- The variables an adopted preview sets. -/
def Progress.recordPreview (p : Progress) (preview : PreviewReceipt) : Progress :=
  { p with state := { p.state with
      previewSha256 := some preview.digest.val
      selectedCellId := preview.freshSelectedCellId.map Subtype.val
      passportSha256 := preview.freshPassportSha256.map Subtype.val } }

/-- The handlers of `evaluate_and_acquire`; `previewed` says that the evaluator got as far
as an evaluation. -/
def acquireFailure (p : Progress) (previewed : Bool) : ForeignException → Exit
  | .interrupt i =>
    blocked ((p.interrupt (.interrupt i)).fail .leaseStoreFailed)
      {"adaptive_admission_blocked", "execution_interrupted"}
  | .transport code _ =>
    blocked (p.fail .adaptivePreviewInvalid) {stableReason code "adaptive_preview_invalid"}
  | .store error =>
    if error.code = "lease_claim_invalid" then
      blocked (p.fail .adaptivePreviewInvalid) {"adaptive_preview_invalid"}
    else blocked (p.fail .leaseStoreFailed) {"adaptive_admission_blocked"}
  | .other =>
    if previewed then
      blocked (p.fail .adaptivePreviewInvalid) {"adaptive_preview_invalid"}
    else blocked (p.fail .leaseStoreFailed) {"adaptive_admission_blocked"}

/-- What the run does with an acquisition it was given. -/
def adoptAcquisition (p : Progress) (previewed : Bool)
    (claim : Option CooperativeResourceClaim) (acquisition : Acquisition PreviewEvaluation) :
    Except Exit (Progress × LeaseHandle × PreviewEvaluation) :=
  if acquisition.receipt.status = .acquired ∧ acquisition.handle = none then
    .error (acquireFailure p previewed .other)
  else
    let p := ({ p with
      leaseClaim := claim
      leaseAdmission := some acquisition.receipt } : Progress).recordPreview
        acquisition.context.receipt
    if claim.isNone then
      .error (blocked (p.fail .leaseStoreFailed) {"adaptive_admission_blocked"})
    else match acquisition.handle with
      | some handle =>
        if acquisition.receipt.status = .acquired then .ok (p, handle, acquisition.context)
        else .error (blocked p {"adaptive_admission_blocked"})
      | none => .error (blocked p {"adaptive_admission_blocked"})

/-- The transaction that repeats the admission and records the claim. -/
def acquirePhase (p : Progress) (target : ResolvedTarget) (pre : InspectionBundle)
    (s : Session σ) :
    Except Exit (Progress × LeaseHandle × PreviewEvaluation) × Session σ :=
  let evaluator := evaluateForLease inputs script target pre
  let outcome := store.evaluateAndAcquire evaluator s.world
  let previewed := outcome.1.evaluated && (freshPreview script).toBool
  let claim := if outcome.1.evaluated then claimOf evaluator else none
  (match outcome.1.answer with
    | .ok acquisition => adoptAcquisition p previewed claim acquisition
    | .error (.previewBlocked evaluation) =>
      .error (blocked
        (({ p with leaseClaim := claim }).recordPreview evaluation.receipt |>.fail
          .adaptivePreviewBlocked)
        {"adaptive_admission_blocked"})
    | .error (.foreign e) => .error (acquireFailure p previewed e),
    ⟨outcome.2, s.trace ++ [.acquired outcome.1.answer outcome.2]⟩)

def expectedStatuses : DeliveryStatus → List ReleaseStatus
  | .notAttempted => [.released, .releasedCleanupDeferred]
  | .responseReceived => [.released, .releasedCleanupDeferred]
  | .attemptedUnknown => [.unknownBlocking]

def settleLease (handle : LeaseHandle) (delivery : DeliveryStatus) (p : Progress)
    (s : Session σ) : (Bool × Progress) × Session σ :=
  let outcome := store.release handle delivery s.world
  (match outcome.1 with
    | .ok receipt =>
      let p := { p with leaseRelease := some receipt }
      if receipt.status ∈ expectedStatuses delivery then (true, p)
      else (false, p.fail .leaseReleaseFailed)
    | .error e => (false, (p.interruptOnce e).fail .leaseReleaseFailed),
    ⟨outcome.2, s.trace ++ [.settled delivery outcome.1 outcome.2]⟩)

/-- What a settlement that went wrong adds to the reasons. -/
def unsettled (ok : Bool) : Finset String := if ok then ∅ else {"adaptive_admission_blocked"}

/-- Giving the lease back before any delivery. -/
def abandon (handle : LeaseHandle) (reasons : Finset String) (p : Progress)
    (s : Session σ) : Exit × Session σ :=
  let settled := settleLease store handle .notAttempted p s
  (blocked settled.1.2 (reasons ∪ unsettled settled.1.1), settled.2)

/-- The probe before the delivery. -/
def probePhase (p : Progress) (target : ResolvedTarget) (handle : LeaseHandle)
    (s : Session σ) : Except Exit (Progress × ModelIdentityProbe) × Session σ :=
  let p := { p with state := { p.state with endpointProbeRequests := 1 } }
  match script.preProbe with
  | .error e =>
    let left := abandon store handle (e.reasons "model_probe_failed") (p.interrupt e) s
    (.error left.1, left.2)
  | .ok probe =>
    let p := { p with state := { p.state with
      preModelIdentitySetSha256 := some probe.identitySetSha256.val } }
    if target.expert.model ∈ probe.modelIds then (.ok (p, probe), s)
    else
      let left := abandon store handle {"expected_model_missing"} p s
      (.error left.1, left.2)

/-- The handlers of `arm_delivery`: the lease is given back, and what became of that shows
in the error code only. -/
def armFailure (p : Progress) (reasons : Finset String) (handle : LeaseHandle)
    (s : Session σ) : Except Exit Progress × Session σ :=
  let settled := settleLease store handle .notAttempted (p.fail .leaseTransitionFailed) s
  (.error (blocked settled.1.2 reasons), settled.2)

/-- Arming the delivery. -/
def armPhase (p : Progress) (handle : LeaseHandle) (s : Session σ) :
    Except Exit Progress × Session σ :=
  let outcome := store.armDelivery handle s.world
  let s : Session σ := ⟨outcome.2, s.trace ++ [.armed outcome.1 outcome.2]⟩
  match outcome.1 with
  | .error (.interrupt i) =>
    armFailure store (p.interrupt (.interrupt i))
      {"adaptive_admission_blocked", "execution_interrupted"} handle s
  | .error _ => armFailure store p {"adaptive_admission_blocked"} handle s
  | .ok transition =>
    let p := { p with leaseTransition := some transition }
    if transition.transitionApplied then (.ok p, s)
    else armFailure store p {"adaptive_admission_blocked"} handle s

/-! ## The delivery -/

/-- What came back from `invoke`. -/
structure Delivery where
  response : Option PyText
  transportReason : Option String
  responseReceived : Bool
  interruption : Option Interruption := none

/-- `invoke` and its handlers. -/
def deliver : Except ForeignException PyText → Delivery
  | .ok response => ⟨some response, none, true, none⟩
  | .error (.transport code received) =>
    ⟨none, some (stableReason code "transport_failed"), received, none⟩
  | .error (.interrupt i) => ⟨none, some "execution_interrupted", false, some i⟩
  | .error _ => ⟨none, some "transport_failed", false, none⟩

/-- `invoke` returned, or raised an error that says a response was received. -/
def Responded : Except ForeignException PyText → Prop
  | .ok _ => True
  | .error (.transport _ received) => received = true
  | .error _ => False

def screenResponse (policy : RunPolicy) (d : Delivery) : Option PyText × Option String :=
  match d.response with
  | none => (none, d.transportReason)
  | some response =>
    if response = [] then (none, some "response_invalid")
    else match encodeUtf8 response with
      | none => (none, some "response_invalid")
      | some bytes =>
        if policy.maxResponseBytes < bytes.length then (none, some "response_too_large")
        else (some response, d.transportReason)

/-- The probe after the delivery: the variables and what it invalidates. -/
def postProbe (target : ResolvedTarget) (probePre : ModelIdentityProbe) (p : Progress) :
    Progress × Finset String :=
  let p := { p with state := { p.state with endpointProbeRequests := 2 } }
  match script.postProbe with
  | .error (.interrupt i) =>
    (p.interruptOnce (.interrupt i), {"execution_interrupted", "model_probe_failed"})
  | .error _ => (p, {"model_probe_failed"})
  | .ok probe =>
    ({ p with state := { p.state with
        postModelIdentitySetSha256 := some probe.identitySetSha256.val } },
      reasonIf (target.expert.model ∉ probe.modelIds) "expected_model_missing" ∪
        reasonIf (probe.identitySetSha256 ≠ probePre.identitySetSha256)
          "model_identity_changed")

/-- The body of the last `try`: the binding once more. -/
def rebind (target : ResolvedTarget) (pre : InspectionBundle) (preview : PreviewReceipt)
    (p : Progress) : Except (Progress × ForeignException) (Progress × Finset String) := do
  let _ ← script.postClock.mapError (p, ·)
  let post ← script.postInspect.mapError (p, ·)
  let p := { p with
    publicationRoots := mergeProtectedRoots p.publicationRoots post.publicationProtectedRoots
    state := { p.state with post := recordBinding post } }
  let after ← script.resolveAfter.mapError (p, ·)
  let p := { p with state := { p.state with
    postConfigSourceSha256 := some after.configSourceSha256.val } }
  (validateBinding rt after post).mapError (p, ·)
  (validatePreviewBinding preview after post).mapError (p, ·)
  pure (p,
    reasonIf (after.configSourceSha256 ≠ target.configSourceSha256) "config_changed" ∪
      reasonIf (post.manifest.digest ≠ pre.manifest.digest ∨
        post.requestSha256 ≠ pre.requestSha256) "binding_changed" ∪
      reasonIf (post.publicationProtectedRoots ≠ pre.publicationProtectedRoots)
        "binding_changed")

/-- The inspection after the delivery: the variables and what it invalidates. -/
def postBinding (target : ResolvedTarget) (pre : InspectionBundle) (preview : PreviewReceipt)
    (p : Progress) : Progress × Finset String :=
  match rebind rt script target pre preview p with
  | .ok rebound => rebound
  | .error (p, e) => (p.interruptOnce e, e.reasons "post_binding_inspection_failed")

/-- The exit of a run that delivered. -/
def conclude (p : Progress) (invalidation : Finset String) (response : Option PyText)
    (transportReason : Option String) : Exit :=
  if invalidation ≠ ∅ then
    ⟨p, .invalidated, invalidation ∪ transportReason.toFinset, response⟩
  else match transportReason with
    | some reason => ⟨p, .failed, {reason}, none⟩
    | none => ⟨p, .completed, ∅, response⟩

def Delivery.status (d : Delivery) : DeliveryStatus :=
  if d.responseReceived then .responseReceived else .attemptedUnknown

/-- The run at the moment `invoke` has returned or raised. -/
def Progress.delivering (p : Progress) (d : Delivery) : Progress :=
  { p with
    state := { p.state with invocationAttempts := 1, deliveryStatus := d.status }
    pendingInterruption := d.interruption <|> p.pendingInterruption }

/-- The delivery, its settlement and the inspection after it. -/
def deliverPhase (p : Progress) (target : ResolvedTarget) (pre : InspectionBundle)
    (preview : PreviewReceipt) (probePre : ModelIdentityProbe) (handle : LeaseHandle)
    (s : Session σ) : Exit × Session σ :=
  let d := deliver script.invoke
  let settled :=
    settleLease store handle d.status (p.delivering d) ⟨s.world, s.trace ++ [.invoked]⟩
  let screened := screenResponse inputs.policy d
  let probed := postProbe script target probePre settled.1.2
  let rebound := postBinding rt script target pre preview probed.1
  (conclude rebound.1 (unsettled settled.1.1 ∪ probed.2 ∪ rebound.2) screened.1 screened.2,
    settled.2)

/-- The run once its binding is validated. -/
def boundRun (p : Progress) (target : ResolvedTarget) (pre : InspectionBundle)
    (s : Session σ) : Exit × Session σ :=
  match storePhase rt script p target with
  | .error x => (x, s)
  | .ok () =>
  match recheckPhase script p target with
  | .error x => (x, s)
  | .ok () =>
  match acquirePhase inputs script store p target pre s with
  | (.error x, s) => (x, s)
  | (.ok (p, handle, preview), s) =>
  match probePhase script store p target handle s with
  | (.error x, s) => (x, s)
  | (.ok (p, probePre), s) =>
  match armPhase store p handle s with
  | (.error x, s) => (x, s)
  | (.ok p, s) =>
    deliverPhase rt inputs script store p target pre preview.receipt probePre handle s

end Phases

/-! ## Finishing -/

/-- What `finish` raises. -/
inductive FinishError where
  | unicode
  | receipt (error : RunContractError)
  | envelope (error : RunContractError)
  deriving DecidableEq, Repr

structure RunResult where
  receipt : RunReceipt
  envelope : RunEnvelope
  responseText : Option PyText
  publicationProtectedRoots : List ProtectedRootIdentity
  interruption : Option Interruption

/-- The reasons of a clock that failed in `finish`. -/
def clockReasons (e : ForeignException) : Finset String :=
  match e with
  | .interrupt _ => {"clock_invalid", "execution_interrupted"}
  | _ => {"clock_invalid"}

/-- The completion time, the reasons it adds and the interruption it brings. -/
def completedTime (started : Instant) (clock : Except ForeignException WallClock) :
    Instant × Finset String × Option Interruption :=
  match wallTime clock with
  | .error e => (started, clockReasons e, e.interruption)
  | .ok completed =>
    if completed.before started then (started, {"clock_invalid"}, none)
    else (completed, ∅, none)

/-- The elapsed time, the reasons it adds and the interruption it brings. -/
def elapsedTime (rt : Runtime) (startedTick : ℚ)
    (clock : Except ForeignException MonotonicClock) :
    Nat × Finset String × Option Interruption :=
  match monotonicSeconds clock with
  | .error e => (0, clockReasons e, e.interruption)
  | .ok completed =>
    if completed < startedTick then (0, {"clock_invalid"}, none)
    else match rt.elapsedMs completed startedTick with
      | some n => (n, ∅, none)
      | none => (0, {"clock_invalid"}, none)

/-- A completed run with reasons is invalidated. -/
def finalStatus (status : RunStatus) (reasons : Finset String) : RunStatus :=
  if reasons ≠ ∅ ∧ status = .completed then .invalidated else status

def responseBytes : Option PyText → Except FinishError (Option (List UInt8))
  | none => .ok none
  | some text =>
    match encodeUtf8 text with
    | some bytes => .ok (some bytes)
    | none => .error .unicode

/-- The receipt of an exit; `added` are the reasons of failing clocks. -/
def Exit.receipt (S : Stdlib) (x : Exit) (completed : Instant) (elapsed : Nat)
    (added : Finset String) (bytes : Option (List UInt8)) : RunReceipt where
  toRunState := x.progress.state
  status := finalStatus x.status (x.reasons ∪ added)
  reasonCodes := x.reasons ∪ added
  completedAt := completed.time.isoformat
  responseSha256 := bytes.map S.sha256
  responseBytes := bytes.map List.length
  responseChars := x.response.map List.length
  elapsedMs := elapsed

def Exit.envelope (S : Stdlib) (x : Exit) (receipt : RunReceipt) : RunEnvelope where
  runReceipt := receipt
  runReceiptSha256 := receipt.digest S
  leaseClaim := x.progress.leaseClaim
  leaseAdmissionReceipt := x.progress.leaseAdmission
  leaseTransitionReceipt := x.progress.leaseTransition
  leaseReleaseReceipt := x.progress.leaseRelease
  leaseErrorCode := x.progress.leaseErrorCode

def finish (S : Stdlib) (rt : Runtime) (started : Instant) (startedTick : ℚ) (script : Script)
    (x : Exit) : Except FinishError RunResult := do
  let bytes ← responseBytes x.response
  let completed := completedTime started script.finishClock
  let elapsed := elapsedTime rt startedTick script.finishTick
  let added := completed.2.1 ∪ elapsed.2.1
  let receipt ← ((x.receipt S completed.1 elapsed.1 added bytes).construct S).mapError
    FinishError.receipt
  let envelope ← ((x.envelope S receipt).construct S).mapError FinishError.envelope
  let status := finalStatus x.status (x.reasons ∪ added)
  pure
    { receipt := receipt
      envelope := envelope
      responseText :=
        if status = .completed ∨ status = .invalidated then x.response else none
      publicationProtectedRoots := x.progress.publicationRoots
      interruption :=
        x.progress.pendingInterruption <|> completed.2.2 <|> elapsed.2.2 }

/-- What `run_bound_cell` raises. -/
inductive RunFailure where
  | foreign (exception : ForeignException)
  | finish (error : FinishError)
  deriving DecidableEq, Repr

/-- The run up to the arguments of `finish`. -/
def exitOfRun {S : Stdlib} {σ : Type} (rt : Runtime) (inputs : RunInputs) (script : Script)
    (store : LeaseStore S σ) (started : Instant) (world : σ) :
    Except ForeignException Exit × Session σ :=
  let s : Session σ := ⟨world, []⟩
  let p : Progress := { state := initialState S inputs started }
  match gatePhase inputs p with
  | .error x => (.ok x, s)
  | .ok () =>
  match bindingPhase rt script p with
  | .error e => (.error e, s)
  | .ok (.error x) => (.ok x, s)
  | .ok (.ok (p, target, pre)) =>
    let run := boundRun rt inputs script store p target pre s
    (.ok run.1, run.2)

def runBoundCell {S : Stdlib} {σ : Type} (rt : Runtime) (inputs : RunInputs) (script : Script)
    (store : LeaseStore S σ) (world : σ) : Except RunFailure RunResult × Session σ :=
  match (do
    let started ← wallTime script.startClock
    let tick ← monotonicSeconds script.startTick
    pure (started, tick)) with
  | .error e => (.error (.foreign e), ⟨world, []⟩)
  | .ok (started, tick) =>
    let run := exitOfRun rt inputs script store started world
    ((do
      let x ← run.1.mapError RunFailure.foreign
      (finish S rt started tick script x).mapError RunFailure.finish), run.2)

end LocalMoe.BoundCell
