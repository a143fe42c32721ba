/-
  `bound_cell_run_contracts.py` and `bound_cell_run_envelope.py`: what a run reports, and the
  two constructors that decide whether a report is consistent.

  The receipt judges a run by itself, the envelope judges it against the lease it was made
  under.
-/
import LocalMoe.Lease.Contracts
import Mathlib.Data.Nat.Log

namespace LocalMoe.BoundCell

open Foundation Contracts Lease

/-- `BoundCellRunContractError` and `BoundCellRunEnvelopeContractError`. -/
structure RunContractError where
  code : String
  detail : String
  deriving DecidableEq, Repr

/-! ## Vocabulary -/

inductive RunStatus where
  | completed
  | blocked
  | failed
  | invalidated
  deriving DecidableEq, Repr

/-- The run status as the payload spells it. -/
def RunStatus.text : RunStatus → String
  | .completed => "completed"
  | .blocked => "blocked"
  | .failed => "failed"
  | .invalidated => "invalidated"

def runReasonCodes : Finset String :=
  {"adaptive_admission_blocked", "adaptive_preview_invalid", "binding_changed",
    "binding_inspection_failed", "binding_not_verified", "clock_invalid", "config_changed",
    "confirmation_required", "declaration_mismatch", "endpoint_not_loopback",
    "expert_mismatch", "expected_model_missing", "execution_interrupted",
    "model_identity_changed", "model_probe_failed", "passport_mismatch",
    "post_binding_inspection_failed", "response_invalid", "response_too_large",
    "risk_class_blocked", "runtime_config_mismatch", "selected_cell_mismatch",
    "task_invalid", "tool_surface_blocked", "transport_blocked", "transport_failed"}

inductive LeaseErrorCode where
  | adaptivePreviewBlocked
  | adaptivePreviewInvalid
  | leaseStoreFailed
  | leaseTransitionFailed
  | leaseReleaseFailed
  deriving DecidableEq, Repr

/-! ## The run receipt -/

/-- What one inspection leaves in the receipt. -/
structure BindingEvidence where
  bindingBundleSha256 : Option String := none
  bindingRequestSha256 : Option String := none
  bindingManifestSha256 : Option String := none
  inspectionReceiptSha256 : Option String := none
  deriving DecidableEq, Repr

def BindingEvidence.digests (b : BindingEvidence) : List (Option String) :=
  [b.bindingBundleSha256, b.bindingRequestSha256, b.bindingManifestSha256,
    b.inspectionReceiptSha256]

/-- The `state` of a run: the fields of the receipt that fill up on the way. -/
structure RunState where
  policySha256 : String
  startedAt : String
  confirmed : Bool
  taskSha256 : String
  taskBytes : Nat
  previewSha256 : Option String := none
  selectedCellId : Option String := none
  passportSha256 : Option String := none
  declarationSha256 : Option String := none
  expertId : Option String := none
  pre : BindingEvidence := {}
  post : BindingEvidence := {}
  preConfigSourceSha256 : Option String := none
  postConfigSourceSha256 : Option String := none
  preModelIdentitySetSha256 : Option String := none
  postModelIdentitySetSha256 : Option String := none
  invocationAttempts : Nat := 0
  endpointProbeRequests : Nat := 0
  deliveryStatus : DeliveryStatus := .notAttempted
  deriving DecidableEq

/-- The fields every run leaves at their defaults: what it was never allowed to do. -/
structure RunAuthority where
  lifecycleOperations : Nat := 0
  retries : Nat := 0
  toolsInvoked : Nat := 0
  riskClass : String := "compute_only"
  toolSurfaces : List String := []
  executionScope : String := "device_only"
  executionTransport : String := "direct_local"
  processMutations : Bool := false
  remoteEgress : Bool := false
  bindingContinuity : String := "sampled_pre_post"
  endpointProcessIdentityVerified : Bool := false
  semanticOutcomeVerified : Bool := false
  authorizesFutureExecution : Bool := false
  deriving DecidableEq

structure RunReceipt extends RunState where
  status : RunStatus
  reasonCodes : Finset String
  completedAt : String
  responseSha256 : Option String
  responseBytes : Option Nat
  responseChars : Option Nat
  elapsedMs : Nat
  authority : RunAuthority := {}
  deriving DecidableEq

/-- A natural number that a binary64 holds exactly. -/
def isBinary64 (n : Nat) : Bool := n < 2 ^ 1024 && n % 2 ^ (n.log2 - 52) == 0

theorem isBinary64_of_lt {n : Nat} (h : n < 2 ^ 53) : isBinary64 n = true := by
  have hlog : n.log2 - 52 = 0 := by
    rcases Nat.eq_zero_or_pos n with rfl | hpos
    · simp
    · have := (Nat.log2_lt (by omega : n ≠ 0)).mpr h
      omega
  have hbound : (2 : Nat) ^ 53 ≤ 2 ^ 1024 := Nat.pow_le_pow_right (by decide) (by decide)
  simp only [isBinary64, hlog, pow_zero, Nat.mod_one, BEq.rfl, Bool.and_true, decide_eq_true_eq]
  omega

/-- `_call` around a check of `verified_routing_contracts`. -/
def call {α : Type} (x : Except ContractError α) : Except RunContractError α :=
  x.mapError fun e => ⟨"contract_invalid", e.message⟩

/-- `_integer`; the value is compared with its conversion to `float`. -/
def runInteger (value : Nat) (label : String) : Except RunContractError Nat :=
  if isBinary64 value then .ok value
  else .error ⟨"contract_invalid", label ++ " must be a non-negative integer."⟩

/-- `_integer` on a value that may be missing, which is no integer. -/
def requiredInteger (value : Option Nat) (label : String) : Except RunContractError Nat :=
  match value with
  | some n => runInteger n label
  | none => .error ⟨"contract_invalid", label ++ " must be an integer."⟩

/-- `_optional_sha` of one field, under its name. -/
def optionalField (field : String × Option String) : Except ContractError Unit := do
  let _ ← optionalSha field.2 field.1

def receiptInvalid (detail : String) : RunContractError := ⟨"receipt_invalid", detail⟩

/-- `datetime.fromisoformat` of a timestamp the constructor has normalised. -/
def instant (S : Stdlib) (text : String) : Nat :=
  match S.parseTimestamp text with
  | .utc d => d.ordinal
  | _ => 0

namespace RunState

/-- The evidence an attempted run must have. -/
def attemptedRequired (s : RunState) : List (Option String) :=
  [s.previewSha256, s.selectedCellId, s.passportSha256, s.declarationSha256, s.expertId,
    s.pre.bindingBundleSha256, s.pre.bindingRequestSha256, s.pre.bindingManifestSha256,
    s.pre.inspectionReceiptSha256, s.preConfigSourceSha256, s.preModelIdentitySetSha256]

def optionalDigests (s : RunState) : List (String × Option String) :=
  [("preview_sha256", s.previewSha256), ("passport_sha256", s.passportSha256),
    ("declaration_sha256", s.declarationSha256),
    ("pre_binding_bundle_sha256", s.pre.bindingBundleSha256),
    ("pre_binding_request_sha256", s.pre.bindingRequestSha256),
    ("pre_binding_manifest_sha256", s.pre.bindingManifestSha256),
    ("pre_inspection_receipt_sha256", s.pre.inspectionReceiptSha256),
    ("post_binding_bundle_sha256", s.post.bindingBundleSha256),
    ("post_binding_request_sha256", s.post.bindingRequestSha256),
    ("post_binding_manifest_sha256", s.post.bindingManifestSha256),
    ("post_inspection_receipt_sha256", s.post.inspectionReceiptSha256),
    ("pre_config_source_sha256", s.preConfigSourceSha256),
    ("post_config_source_sha256", s.postConfigSourceSha256),
    ("pre_model_identity_set_sha256", s.preModelIdentitySetSha256),
    ("post_model_identity_set_sha256", s.postModelIdentitySetSha256)]

end RunState

namespace RunReceipt

/-- The evidence a completed run must have. -/
def completedRequired (r : RunReceipt) : List (Option String) :=
  [r.previewSha256, r.selectedCellId, r.passportSha256, r.declarationSha256, r.expertId,
    r.pre.bindingBundleSha256, r.post.bindingBundleSha256,
    r.pre.bindingRequestSha256, r.post.bindingRequestSha256,
    r.pre.bindingManifestSha256, r.post.bindingManifestSha256,
    r.pre.inspectionReceiptSha256, r.post.inspectionReceiptSha256,
    r.preConfigSourceSha256, r.postConfigSourceSha256,
    r.preModelIdentitySetSha256, r.postModelIdentitySetSha256, r.responseSha256]

/-- The rules on attempts, delivery and the evidence of an attempt. -/
def checkAttempt (r : RunReceipt) : Except RunContractError Unit := do
  check (r.invocationAttempts ≤ 1 ∧ r.endpointProbeRequests ≤ 2 ∧
      r.authority.lifecycleOperations = 0 ∧ r.authority.retries = 0 ∧
      r.authority.toolsInvoked = 0)
    (receiptInvalid "Run counters exceed the v1 boundary.")
  check (r.status ≠ .blocked ∨ r.invocationAttempts = 0)
    (receiptInvalid "Blocked runs cannot attempt inference.")
  check (r.status = .blocked ∨ r.invocationAttempts = 1)
    (receiptInvalid "Attempted runs require exactly one attempt.")
  check (r.invocationAttempts ≠ 0 ∨ r.deliveryStatus = .notAttempted)
    (receiptInvalid "Unattempted runs cannot report delivery.")
  check (r.invocationAttempts ≠ 1 ∨ r.deliveryStatus ≠ .notAttempted)
    (receiptInvalid "Attempted runs require delivery state.")
  check (r.invocationAttempts ≠ 1 ∨ r.confirmed = true)
    (receiptInvalid "An inference attempt requires confirmation.")
  check (r.invocationAttempts ≠ 1 ∨
      1 ≤ r.taskBytes ∧ r.endpointProbeRequests = 2 ∧ none ∉ r.attemptedRequired)
    (receiptInvalid "Attempted run evidence is incomplete.")
  check (r.invocationAttempts ≠ 0 ∨ r.endpointProbeRequests ≤ 1)
    (receiptInvalid "Unattempted runs cannot contain a post probe.")
  check (r.confirmed = true ∨ "confirmation_required" ∈ r.reasonCodes)
    (receiptInvalid "Unconfirmed runs require confirmation_required.")

/-- The rules on the evidence of a completed run. -/
def checkCompleted (r : RunReceipt) : Except RunContractError Unit := do
  check (r.status ≠ .completed ∨
      r.confirmed = true ∧ r.endpointProbeRequests = 2 ∧ none ∉ r.completedRequired)
    (receiptInvalid "Completed run evidence is incomplete.")
  check (r.status ≠ .completed ∨
      1 ≤ r.taskBytes ∧ r.pre.bindingManifestSha256 = r.post.bindingManifestSha256 ∧
        r.pre.bindingRequestSha256 = r.post.bindingRequestSha256 ∧
        r.preConfigSourceSha256 = r.postConfigSourceSha256 ∧
        r.preModelIdentitySetSha256 = r.postModelIdentitySetSha256)
    (receiptInvalid "Completed run evidence changed.")

/-- The rules on the evidence of a response. -/
def checkResponse (r : RunReceipt) : Except RunContractError Unit :=
  match r.responseSha256 with
  | none =>
    check (r.responseBytes = none ∧ r.responseChars = none)
      (receiptInvalid "response size requires its digest.")
  | some _ => do
    let responseBytes ← requiredInteger r.responseBytes "response_bytes"
    let _ ← requiredInteger r.responseChars "response_chars"
    check (1 ≤ responseBytes) (receiptInvalid "response_bytes must be positive.")
    check (r.deliveryStatus = .responseReceived)
      (receiptInvalid "Response evidence requires response_received.")

/-- `__post_init__`: the checks in order, and the normalised receipt. -/
def construct (S : Stdlib) (r : RunReceipt) : Except RunContractError RunReceipt := do
  let _ ← call (sha r.policySha256 "policy_sha256")
  let _ ← call (sha r.taskSha256 "task_sha256")
  let _ ← call (r.optionalDigests.forM optionalField)
  let _ ← call (optionalSha r.responseSha256 "response_sha256")
  let selectedCellId ← call (optionalIdentifier r.selectedCellId "selected_cell_id")
  let expertId ← call (optionalIdentifier r.expertId "expert_id")
  let startedAt ← call (S.requireUtcTimestamp r.startedAt "started_at")
  let completedAt ← call (S.requireUtcTimestamp r.completedAt "completed_at")
  check (instant S startedAt ≤ instant S completedAt)
    (receiptInvalid "completed_at precedes started_at.")
  let reasons ← call (requireIdentifiers r.reasonCodes "reason_codes")
  check (reasons ⊆ runReasonCodes) (receiptInvalid "Unsupported run reason code.")
  check (r.status ≠ .completed ∨ reasons = ∅)
    (receiptInvalid "Completed runs cannot contain blockers.")
  check (r.status = .completed ∨ reasons ≠ ∅)
    (receiptInvalid "Non-completed runs require a reason.")
  let _ ← runInteger r.taskBytes "task_bytes"
  let _ ← runInteger r.elapsedMs "elapsed_ms"
  r.checkAttempt
  r.checkCompleted
  r.checkResponse
  check (r.authority = {}) (receiptInvalid "Run authority exceeds the v1 contract.")
  pure { r with
    selectedCellId := selectedCellId
    expertId := expertId
    startedAt := startedAt
    completedAt := completedAt }

def contentPayload (r : RunReceipt) : Json :=
  .obj ([("schema_version", .str contractVersion),
    ("contract", .str "BoundCellRunReceipt"),
    ("policy_sha256", .str r.policySha256),
    ("status", .str r.status.text),
    ("reason_codes", .codes r.reasonCodes),
    ("started_at", .str r.startedAt),
    ("completed_at", .str r.completedAt),
    ("confirmed", .bool r.confirmed),
    ("task_sha256", .str r.taskSha256),
    ("task_bytes", .int r.taskBytes),
    ("selected_cell_id", .optional .str r.selectedCellId),
    ("expert_id", .optional .str r.expertId),
    ("response_sha256", .optional .str r.responseSha256),
    ("response_bytes", .optional (fun n => .int n) r.responseBytes),
    ("response_chars", .optional (fun n => .int n) r.responseChars),
    ("invocation_attempts", .int r.invocationAttempts),
    ("endpoint_probe_requests", .int r.endpointProbeRequests),
    ("delivery_status", .str r.deliveryStatus.text),
    ("elapsed_ms", .int r.elapsedMs),
    ("retries", .int r.authority.retries),
    ("tools_invoked", .int r.authority.toolsInvoked),
    ("risk_class", .str r.authority.riskClass),
    ("tool_surfaces", .arr (r.authority.toolSurfaces.map Json.str)),
    ("execution_scope", .str r.authority.executionScope),
    ("execution_transport", .str r.authority.executionTransport),
    ("process_mutations", .bool r.authority.processMutations),
    ("lifecycle_operations", .int r.authority.lifecycleOperations),
    ("remote_egress", .bool r.authority.remoteEgress),
    ("binding_continuity", .str r.authority.bindingContinuity),
    ("endpoint_process_identity_verified", .bool r.authority.endpointProcessIdentityVerified),
    ("semantic_outcome_verified", .bool r.authority.semanticOutcomeVerified),
    ("authorizes_future_execution", .bool r.authority.authorizesFutureExecution)] ++
    r.optionalDigests.map fun field => (field.1, .optional .str field.2))

def digest (S : Stdlib) (r : RunReceipt) : String := S.sha256Json r.contentPayload

end RunReceipt

/-! ## The run envelope -/

structure RunEnvelope where
  runReceipt : RunReceipt
  runReceiptSha256 : String
  leaseClaim : Option CooperativeResourceClaim
  leaseAdmissionReceipt : Option AdmissionReceipt
  leaseTransitionReceipt : Option TransitionReceipt
  leaseReleaseReceipt : Option ReleaseReceipt
  leaseErrorCode : Option LeaseErrorCode

def lineageInvalid (detail : String) : RunContractError := ⟨"lineage_invalid", detail⟩

def evidenceMismatch (detail : String) : RunContractError := ⟨"evidence_mismatch", detail⟩

def validateClaimAdmission (S : Stdlib) (claim : CooperativeResourceClaim)
    (admission : AdmissionReceipt) : Except RunContractError Unit := do
  let differs := fun label =>
    evidenceMismatch ("Admission " ++ label ++ " differs from the claim.")
  check (admission.claimSha256 = claim.digest S) (differs "claim digest")
  check (admission.resourceSnapshotSha256 = claim.resourceSnapshotSha256)
    (differs "resource snapshot digest")
  check (admission.requestedSystemClaimBytes = claim.systemClaimBytes)
    (differs "system claim")
  check (admission.requestedAcceleratorClaimBytes = claim.acceleratorClaimBytes)
    (differs "accelerator claim")
  check (admission.safetyReserveBytes = claim.safetyReserveBytes)
    (differs "safety reserve")

/-- What names the lease in a receipt about it. -/
structure Lineage where
  policySha256 : String
  admissionReceiptSha256 : String
  claimSha256 : String
  coordinationDomainSha256 : String
  leaseId : Option String
  deriving DecidableEq

def Lineage.ofAdmission (S : Stdlib) (admission : AdmissionReceipt)
    (claim : CooperativeResourceClaim) : Lineage where
  policySha256 := admission.policySha256
  admissionReceiptSha256 := admission.digest S
  claimSha256 := claim.digest S
  coordinationDomainSha256 := admission.coordinationDomainSha256
  leaseId := admission.leaseId

def Lineage.ofTransition (t : TransitionReceipt) : Lineage where
  policySha256 := t.policySha256
  admissionReceiptSha256 := t.admissionReceiptSha256
  claimSha256 := t.claimSha256
  coordinationDomainSha256 := t.coordinationDomainSha256
  leaseId := some t.leaseId

def Lineage.ofRelease (r : ReleaseReceipt) : Lineage where
  policySha256 := r.policySha256
  admissionReceiptSha256 := r.admissionReceiptSha256
  claimSha256 := r.claimSha256
  coordinationDomainSha256 := r.coordinationDomainSha256
  leaseId := some r.leaseId

/-- The comparisons of `_validate_transition` and `_validate_release`. -/
def validateLineage (what : String) (actual expected : Lineage) :
    Except RunContractError Unit := do
  let breaks := fun label => evidenceMismatch (what ++ " " ++ label ++ " breaks lease lineage.")
  check (actual.policySha256 = expected.policySha256) (breaks "policy digest")
  check (actual.admissionReceiptSha256 = expected.admissionReceiptSha256)
    (breaks "admission digest")
  check (actual.claimSha256 = expected.claimSha256) (breaks "claim digest")
  check (actual.coordinationDomainSha256 = expected.coordinationDomainSha256)
    (breaks "coordination domain")
  check (actual.leaseId = expected.leaseId) (breaks "lease id")

def validateTransition (S : Stdlib) (admission : AdmissionReceipt)
    (claim : CooperativeResourceClaim) (transition : Option TransitionReceipt) :
    Except RunContractError Unit :=
  match transition with
  | none => .ok ()
  | some t => validateLineage "Transition" (.ofTransition t) (.ofAdmission S admission claim)

def validateRelease (S : Stdlib) (admission : AdmissionReceipt)
    (claim : CooperativeResourceClaim) (release : Option ReleaseReceipt) :
    Except RunContractError Unit :=
  match release with
  | none => .ok ()
  | some r => validateLineage "Release" (.ofRelease r) (.ofAdmission S admission claim)

namespace RunEnvelope

/-- No evidence of a lease at all. -/
def WithoutLease (e : RunEnvelope) : Prop :=
  e.leaseClaim.isNone = true ∧ e.leaseAdmissionReceipt = none ∧
    e.leaseTransitionReceipt = none ∧ e.leaseReleaseReceipt = none

instance (e : RunEnvelope) : Decidable e.WithoutLease :=
  inferInstanceAs (Decidable (_ ∧ _))

/-- A run that never attempted an inference. -/
def Unattempted (r : RunReceipt) : Prop :=
  r.invocationAttempts = 0 ∧ r.deliveryStatus = .notAttempted

instance (r : RunReceipt) : Decidable (Unattempted r) := inferInstanceAs (Decidable (_ ∧ _))

/-- The rules of a run without lease evidence. -/
def validatePreLease (e : RunEnvelope) : Except RunContractError Unit := do
  check (e.runReceipt.status = .blocked ∧ Unattempted e.runReceipt)
    (lineageInvalid "A run without lease evidence must be a pre-lease block.")
  check (e.leaseErrorCode ∈ [none, some .adaptivePreviewBlocked,
      some .adaptivePreviewInvalid, some .leaseStoreFailed])
    (lineageInvalid "The lease error is incompatible with absent lease evidence.")

/-- The rules of a claim without an admission. -/
def validateUnadmitted (e : RunEnvelope) : Except RunContractError Unit := do
  check (e.leaseTransitionReceipt = none ∧ e.leaseReleaseReceipt = none)
    (lineageInvalid "Transition and release evidence require an admission receipt.")
  check (e.leaseErrorCode = some .leaseStoreFailed)
    (lineageInvalid "A claim without admission is valid only after a lease-store failure.")
  check (Unattempted e.runReceipt)
    (lineageInvalid "Lease-store failure cannot attempt inference.")

/-- The rules of an admission that acquired nothing. -/
def validateDenied (e : RunEnvelope) : Except RunContractError Unit := do
  check (e.leaseTransitionReceipt = none ∧ e.leaseReleaseReceipt = none)
    (lineageInvalid "A denied admission cannot transition or release a lease.")
  check (e.runReceipt.status = .blocked ∧ Unattempted e.runReceipt)
    (lineageInvalid "A non-acquired admission requires an unattempted blocked run.")
  check ("adaptive_admission_blocked" ∈ e.runReceipt.reasonCodes)
    (lineageInvalid "A non-acquired admission must surface adaptive_admission_blocked.")
  check (e.leaseErrorCode = none)
    (lineageInvalid "A normal non-acquired admission cannot report a lease error.")

/-- An applied transition, as `transition is not None and transition.transition_applied`. -/
def applied (transition : Option TransitionReceipt) : Bool :=
  transition.any TransitionReceipt.transitionApplied

/-- The rules of an acquired lease. -/
def validateAcquired (S : Stdlib) (e : RunEnvelope) (admission : AdmissionReceipt)
    (claim : CooperativeResourceClaim) : Except RunContractError Unit := do
  let run := e.runReceipt
  let error := e.leaseErrorCode
  check (error ∉ [some .adaptivePreviewBlocked, some .adaptivePreviewInvalid,
      some .leaseStoreFailed])
    (lineageInvalid "The lease error conflicts with acquired admission.")
  validateTransition S admission claim e.leaseTransitionReceipt
  validateRelease S admission claim e.leaseReleaseReceipt
  check (run.invocationAttempts ≠ 1 ∨ applied e.leaseTransitionReceipt = true)
    (lineageInvalid "An inference attempt requires an applied delivery transition.")
  check (run.invocationAttempts = 1 ∨ applied e.leaseTransitionReceipt = false)
    (lineageInvalid "An applied delivery transition requires one invocation attempt.")
  check (∀ release ∈ e.leaseReleaseReceipt, release.deliveryStatus = run.deliveryStatus)
    (evidenceMismatch "Run and release delivery statuses differ.")
  check (¬ (run.invocationAttempts = 0 ∧ error = none) ∨
      ∃ release ∈ e.leaseReleaseReceipt, release.deliveryStatus = .notAttempted)
    (lineageInvalid "An acquired unattempted run requires a not-attempted release.")
  check (¬ (run.invocationAttempts = 1 ∧ error = none ∧ e.leaseReleaseReceipt = none))
    (lineageInvalid "A completed lease lineage requires release evidence.")
  check (error ≠ some .leaseTransitionFailed ∨ run.invocationAttempts = 0)
    (lineageInvalid "A transition failure cannot attempt inference.")
  check (error ≠ some .leaseTransitionFailed ∨ applied e.leaseTransitionReceipt = false)
    (lineageInvalid "A failed transition cannot be applied.")
  check (error ≠ some .leaseReleaseFailed ∨
      ∀ release ∈ e.leaseReleaseReceipt, release.status ≠ .released)
    (lineageInvalid "A successful release conflicts with its error.")
  check (error = some .leaseReleaseFailed ∨
      ∀ release ∈ e.leaseReleaseReceipt,
        (release.status = .released ∨ release.status = .releasedCleanupDeferred) ∨
          release.status = .unknownBlocking ∧ release.deliveryStatus = .attemptedUnknown)
    (lineageInvalid "A non-successful release requires lease_release_failed.")

def validateLeaseLineage (S : Stdlib) (e : RunEnvelope) : Except RunContractError Unit :=
  if e.WithoutLease then e.validatePreLease
  else match e.leaseClaim with
    | none => .error (lineageInvalid "Lease evidence requires a resource claim.")
    | some claim => do
      check (e.runReceipt.previewSha256 = some claim.previewSha256)
        (evidenceMismatch "Run and claim preview digests differ.")
      check (e.runReceipt.passportSha256 = some claim.passportSha256)
        (evidenceMismatch "Run and claim passport digests differ.")
      match e.leaseAdmissionReceipt with
      | none => e.validateUnadmitted
      | some admission => do
        validateClaimAdmission S claim admission
        if admission.status ≠ .acquired then e.validateDenied
        else e.validateAcquired S admission claim

/-- `__post_init__`. -/
def construct (S : Stdlib) (e : RunEnvelope) : Except RunContractError RunEnvelope := do
  let _ ← call (sha e.runReceiptSha256 "run_receipt_sha256")
  check (e.runReceiptSha256 = e.runReceipt.digest S)
    (evidenceMismatch "run_receipt_sha256 does not match the nested v1 receipt digest.")
  e.validateLeaseLineage S
  pure e

end RunEnvelope

end LocalMoe.BoundCell
