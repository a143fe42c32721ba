/-
  `cooperative_resource_lease_contracts.py`: claims, policies and the three receipts, each with
  the checks of its constructor.

  A claim carries the proof that its constructor accepted it, so that no later argument has to
  ask whether a discrete claim names an accelerator.
-/
import LocalMoe.Foundation.Checked
import LocalMoe.Contracts.VerifiedRouting

namespace LocalMoe.Lease

open Foundation Contracts

def maxSqliteInteger : Nat := 2 ^ 63 - 1

def claimBasis : String := "conservative_peak"

/-! ## Enumerations -/

inductive Pool where
  | system
  | unified
  | discrete
  deriving DecidableEq, Repr

/-- The pool as the payload spells it. -/
def Pool.text : Pool → String
  | .system => "system"
  | .unified => "unified"
  | .discrete => "discrete"

inductive AdmissionStatus where
  | acquired
  | denied
  | unknownBlocking
  deriving DecidableEq, Repr

/-- The admission status as the payload spells it. -/
def AdmissionStatus.text : AdmissionStatus → String
  | .acquired => "acquired"
  | .denied => "denied"
  | .unknownBlocking => "unknown_blocking"

inductive ReleaseStatus where
  | released
  | releasedCleanupDeferred
  | alreadyAbsent
  | denied
  | unknownBlocking
  deriving DecidableEq, Repr

/-- The release status as the payload spells it. -/
def ReleaseStatus.text : ReleaseStatus → String
  | .released => "released"
  | .releasedCleanupDeferred => "released_cleanup_deferred"
  | .alreadyAbsent => "already_absent"
  | .denied => "denied"
  | .unknownBlocking => "unknown_blocking"

inductive DeliveryStatus where
  | notAttempted
  | attemptedUnknown
  | responseReceived
  deriving DecidableEq, Repr

/-- The delivery status as the payload spells it. -/
def DeliveryStatus.text : DeliveryStatus → String
  | .notAttempted => "not_attempted"
  | .attemptedUnknown => "attempted_unknown"
  | .responseReceived => "response_received"

/-- `MEMORY_TOPOLOGIES` of a resource snapshot. -/
inductive MemoryTopology where
  | unified
  | system
  | dedicated
  | unknown
  deriving DecidableEq, Repr

/-- `ACCELERATOR_KINDS` of a resource snapshot. -/
inductive AcceleratorKind where
  | integrated
  | discrete
  | none
  | unknown
  deriving DecidableEq, Repr

/-! ## Field checks -/

def sha (value label : String) : Except ContractError String := requireSha256 value label

def optionalSha (value : Option String) (label : String) :
    Except ContractError (Option String) :=
  match value with
  | none => .ok none
  | some d => some <$> sha d label

def identifier (value label : String) : Except ContractError String :=
  requireSafeId value label

/-- `_identifier` unless the value is missing. -/
def optionalIdentifier (value : Option String) (label : String) :
    Except ContractError (Option String) :=
  match value with
  | none => .ok none
  | some text => some <$> identifier text label

/-- `_integer`; values arrive here as naturals, so only the two bounds remain. -/
def integer (value : Nat) (label : String) (minimum : Nat) : Except ContractError Nat :=
  if value < minimum ∨ maxSqliteInteger < value then
    .error ⟨label ++ " must be an integer between " ++ toString minimum ++ " and " ++
      toString maxSqliteInteger ++ "."⟩
  else .ok value

def optionalInteger (value : Option Nat) (label : String) :
    Except ContractError (Option Nat) :=
  match value with
  | none => .ok none
  | some n => some <$> integer n label 0

@[simp] theorem integer_eq_ok {value minimum n : Nat} {label : String} :
    integer value label minimum = .ok n ↔
      (minimum ≤ value ∧ value ≤ maxSqliteInteger) ∧ n = value := by
  unfold integer
  split
  · rename_i h
    constructor
    · intro e; cases e
    · intro e; omega
  · rename_i h
    constructor
    · intro e; cases e; exact ⟨by omega, rfl⟩
    · rintro ⟨_, rfl⟩; rfl

@[simp] theorem optionalSha_eq_ok {value d : Option String} {label : String} :
    optionalSha value label = .ok d ↔ (∀ v ∈ value, isSha256 v = true) ∧ d = value := by
  cases value with
  | none => exact ⟨fun h => ⟨by simp, (Except.ok.inj h).symm⟩, fun h => by rw [h.2]; rfl⟩
  | some v =>
    simp only [optionalSha, sha, map_eq_ok, requireSha256_eq_ok, Option.mem_some_iff, forall_eq']
    constructor
    · rintro ⟨_, ⟨hv, ha⟩, hd⟩
      exact ⟨hv, ha ▸ hd.symm⟩
    · rintro ⟨hv, hd⟩
      exact ⟨v, ⟨hv, rfl⟩, hd.symm⟩

/-! ## Policy -/

structure CooperativeResourceLeasePolicy where
  busyTimeoutMs : Nat := 5000
  maxActiveLeases : Nat := 256
  /-- The bounds `__post_init__` enforces. -/
  bounds : (1 ≤ busyTimeoutMs ∧ busyTimeoutMs ≤ maxSqliteInteger) ∧
    (1 ≤ maxActiveLeases ∧ maxActiveLeases ≤ maxSqliteInteger) := by decide

namespace CooperativeResourceLeasePolicy

def contentPayload (p : CooperativeResourceLeasePolicy) : Json :=
  .obj [("schema_version", .str contractVersion),
    ("contract", .str "CooperativeResourceLeasePolicy"),
    ("busy_timeout_ms", .int p.busyTimeoutMs),
    ("max_active_leases", .int p.maxActiveLeases),
    ("claim_basis", .str claimBasis),
    ("cooperative_only", .bool true),
    ("os_memory_reserved", .bool false),
    ("runtime_managed", .bool false)]

def digest (S : Stdlib) (p : CooperativeResourceLeasePolicy) : String :=
  S.sha256Json p.contentPayload

end CooperativeResourceLeasePolicy

/-! ## Claims -/

/-- The arguments of `CooperativeResourceClaim`. -/
structure ClaimFields where
  previewSha256 : String
  candidateSha256 : String
  passportSha256 : String
  resourceSnapshotSha256 : String
  resourceClassSha256 : String
  catalogSha256 : String
  profileSha256 : String
  pool : Pool
  systemClaimBytes : Nat
  acceleratorClaimBytes : Nat
  acceleratorIdentitySha256 : Option String
  safetyReserveBytes : Nat
  deriving DecidableEq, Repr

/-- The checks of `CooperativeResourceClaim.__post_init__`, in order. -/
def ClaimFields.postInit (c : ClaimFields) : Except ContractError Unit := do
  let _ ← sha c.previewSha256 "preview_sha256"
  let _ ← sha c.candidateSha256 "candidate_sha256"
  let _ ← sha c.passportSha256 "passport_sha256"
  let _ ← sha c.resourceSnapshotSha256 "resource_snapshot_sha256"
  let _ ← sha c.resourceClassSha256 "resource_class_sha256"
  let _ ← sha c.catalogSha256 "catalog_sha256"
  let _ ← sha c.profileSha256 "profile_sha256"
  let _ ← integer c.systemClaimBytes "system_claim_bytes" 1
  let _ ← integer c.acceleratorClaimBytes "accelerator_claim_bytes" 0
  let _ ← optionalSha c.acceleratorIdentitySha256 "accelerator_identity_sha256"
  let _ ← integer c.safetyReserveBytes "safety_reserve_bytes" 0
  check (c.pool = .discrete ∨
      c.acceleratorClaimBytes = 0 ∧ c.acceleratorIdentitySha256 = none)
    (⟨"System and unified claims cannot claim a discrete accelerator pool."⟩ : ContractError)
  check (c.pool ≠ .discrete ∨
      c.acceleratorClaimBytes ≠ 0 ∧ c.acceleratorIdentitySha256 ≠ none)
    (⟨"Discrete claims require accelerator bytes and identity."⟩ : ContractError)

/-- `CooperativeResourceClaim`: arguments its constructor accepted. -/
structure CooperativeResourceClaim extends ClaimFields where
  accepted : toClaimFields.postInit = .ok ()

namespace CooperativeResourceClaim

def contentPayload (c : CooperativeResourceClaim) : Json :=
  .obj [("schema_version", .str contractVersion),
    ("contract", .str "CooperativeResourceLeaseClaim"),
    ("preview_sha256", .str c.previewSha256),
    ("candidate_sha256", .str c.candidateSha256),
    ("passport_sha256", .str c.passportSha256),
    ("resource_snapshot_sha256", .str c.resourceSnapshotSha256),
    ("resource_class_sha256", .str c.resourceClassSha256),
    ("catalog_sha256", .str c.catalogSha256),
    ("profile_sha256", .str c.profileSha256),
    ("pool", .str c.pool.text),
    ("system_claim_bytes", .int c.systemClaimBytes),
    ("accelerator_claim_bytes", .int c.acceleratorClaimBytes),
    ("accelerator_identity_sha256", .optional .str c.acceleratorIdentitySha256),
    ("safety_reserve_bytes", .int c.safetyReserveBytes),
    ("claim_basis", .str claimBasis)]

def digest (S : Stdlib) (c : CooperativeResourceClaim) : String :=
  S.sha256Json c.contentPayload

variable (c : CooperativeResourceClaim)

theorem digests : ∀ d ∈ [c.resourceSnapshotSha256, c.resourceClassSha256, c.catalogSha256,
      c.profileSha256], isSha256 d = true := by
  have h := c.accepted
  simp only [ClaimFields.postInit, sha, bind_eq_ok, requireSha256_eq_ok] at h
  obtain ⟨_, _, _, _, _, _, _, hsnapshot, _, hclass, _, hcatalog, _, hprofile, _⟩ := h
  simp [hsnapshot.1, hclass.1, hcatalog.1, hprofile.1]

theorem integers : c.systemClaimBytes ≠ 0 ∧
      ∀ n ∈ [c.systemClaimBytes, c.acceleratorClaimBytes, c.safetyReserveBytes],
        n ≤ maxSqliteInteger := by
  have h := c.accepted
  simp only [ClaimFields.postInit, bind_eq_ok, integer_eq_ok] at h
  obtain ⟨_, _, _, _, _, _, _, _, _, _, _, _, _, _, _, hsystem, _, haccelerator, _, _, _,
    hreserve, _⟩ := h
  refine ⟨by omega, ?_⟩
  simp [hsystem.1.2, haccelerator.1.2, hreserve.1.2]

theorem pools : (∀ d ∈ c.acceleratorIdentitySha256, isSha256 d = true) ∧
      (c.pool = .discrete → c.acceleratorClaimBytes ≠ 0 ∧ c.acceleratorIdentitySha256 ≠ none) ∧
      (c.pool ≠ .discrete → c.acceleratorClaimBytes = 0 ∧ c.acceleratorIdentitySha256 = none) := by
  have h := c.accepted
  simp only [ClaimFields.postInit, bind_eq_ok, optionalSha_eq_ok, check_eq_ok] at h
  obtain ⟨_, _, _, _, _, _, _, _, _, _, _, _, _, _, _, _, _, _, _, hidentity, _, _, _,
    hshared, hdiscrete⟩ := h
  exact ⟨hidentity.1, fun hp => hdiscrete.resolve_left (not_not_intro hp),
    fun hp => hshared.resolve_left hp⟩

end CooperativeResourceClaim

/-! ## Snapshots -/

/-- `ResourceSnapshot`, with the fields a lease admission reads. -/
structure ResourceSnapshot where
  memoryTopology : MemoryTopology
  availableMemoryBytes : Option Nat
  effectiveMemoryLimitBytes : Option Nat
  acceleratorKind : AcceleratorKind
  acceleratorIdentitySha256 : Option String
  acceleratorMemoryAvailableBytes : Option Nat
  resourceClassSha256 : String
  digest : String
  deriving DecidableEq, Repr

/-! ## Receipts -/

structure AdmissionReceipt where
  policySha256 : String
  claimSha256 : String
  resourceSnapshotSha256 : String
  coordinationDomainSha256 : String
  status : AdmissionStatus
  reasonCodes : Finset String
  evaluatedAt : String
  leaseId : Option String
  leaseTokenSha256 : Option String
  activeLeasesBefore : Nat
  activeLeasesAfter : Nat
  reapedLeases : Nat
  systemAvailableBytes : Option Nat
  acceleratorAvailableBytes : Option Nat
  activeSystemClaimBytes : Nat
  activeAcceleratorClaimBytes : Nat
  requestedSystemClaimBytes : Nat
  requestedAcceleratorClaimBytes : Nat
  safetyReserveBytes : Nat
  appliedSystemReserveBytes : Nat
  appliedAcceleratorReserveBytes : Nat
  deriving DecidableEq

namespace AdmissionReceipt

/-- The constructor: its checks in order, and the normalised receipt. -/
def construct (S : Stdlib) (r : AdmissionReceipt) : Except ContractError AdmissionReceipt := do
  let _ ← sha r.policySha256 "policy_sha256"
  let _ ← sha r.claimSha256 "claim_sha256"
  let _ ← sha r.resourceSnapshotSha256 "resource_snapshot_sha256"
  let _ ← sha r.coordinationDomainSha256 "coordination_domain_sha256"
  let reasons ← requireIdentifiers r.reasonCodes "reason_codes"
  let leaseId ← optionalIdentifier r.leaseId "lease_id"
  let tokenSha ← optionalSha r.leaseTokenSha256 "lease_token_sha256"
  check (r.status ≠ .acquired ∨ reasons = ∅ ∧ leaseId ≠ none ∧ tokenSha ≠ none)
    (⟨"An acquired lease requires identifiers and no blockers."⟩ : ContractError)
  check (r.status = .acquired ∨ reasons ≠ ∅ ∧ leaseId = none ∧ tokenSha = none)
    (⟨"A non-acquired lease requires blockers and no lease identifiers."⟩ : ContractError)
  let evaluatedAt ← S.requireUtcTimestamp r.evaluatedAt "evaluated_at"
  let _ ← integer r.activeLeasesBefore "active_leases_before" 0
  let _ ← integer r.activeLeasesAfter "active_leases_after" 0
  let _ ← integer r.reapedLeases "reaped_leases" 0
  let _ ← integer r.activeSystemClaimBytes "active_system_claim_bytes" 0
  let _ ← integer r.activeAcceleratorClaimBytes "active_accelerator_claim_bytes" 0
  let _ ← integer r.requestedSystemClaimBytes "requested_system_claim_bytes" 0
  let _ ← integer r.requestedAcceleratorClaimBytes "requested_accelerator_claim_bytes" 0
  let _ ← integer r.safetyReserveBytes "safety_reserve_bytes" 0
  let _ ← integer r.appliedSystemReserveBytes "applied_system_reserve_bytes" 0
  let _ ← integer r.appliedAcceleratorReserveBytes "applied_accelerator_reserve_bytes" 0
  let _ ← optionalInteger r.systemAvailableBytes "system_available_bytes"
  let _ ← optionalInteger r.acceleratorAvailableBytes "accelerator_available_bytes"
  check (r.status ≠ .acquired ∨ r.activeLeasesAfter = r.activeLeasesBefore + 1)
    (⟨"An acquired receipt must add exactly one active lease."⟩ : ContractError)
  check (r.status = .acquired ∨ r.activeLeasesAfter = r.activeLeasesBefore)
    (⟨"A blocked receipt cannot add an active lease."⟩ : ContractError)
  pure { r with leaseId := leaseId, evaluatedAt := evaluatedAt }

def contentPayload (r : AdmissionReceipt) : Json :=
  .obj [("schema_version", .str contractVersion),
    ("contract", .str "CooperativeResourceLeaseAdmissionReceipt"),
    ("policy_sha256", .str r.policySha256),
    ("claim_sha256", .str r.claimSha256),
    ("resource_snapshot_sha256", .str r.resourceSnapshotSha256),
    ("coordination_domain_sha256", .str r.coordinationDomainSha256),
    ("status", .str r.status.text),
    ("evaluated_at", .str r.evaluatedAt),
    ("lease_id", .optional .str r.leaseId),
    ("lease_token_sha256", .optional .str r.leaseTokenSha256),
    ("active_leases_before", .int r.activeLeasesBefore),
    ("active_leases_after", .int r.activeLeasesAfter),
    ("reaped_leases", .int r.reapedLeases),
    ("system_available_bytes", .optional (fun n => .int n) r.systemAvailableBytes),
    ("accelerator_available_bytes", .optional (fun n => .int n) r.acceleratorAvailableBytes),
    ("active_system_claim_bytes", .int r.activeSystemClaimBytes),
    ("active_accelerator_claim_bytes", .int r.activeAcceleratorClaimBytes),
    ("requested_system_claim_bytes", .int r.requestedSystemClaimBytes),
    ("requested_accelerator_claim_bytes", .int r.requestedAcceleratorClaimBytes),
    ("safety_reserve_bytes", .int r.safetyReserveBytes),
    ("applied_system_reserve_bytes", .int r.appliedSystemReserveBytes),
    ("applied_accelerator_reserve_bytes", .int r.appliedAcceleratorReserveBytes),
    ("claim_basis", .str claimBasis),
    ("cooperative_only", .bool true),
    ("os_memory_reserved", .bool false),
    ("runtime_managed", .bool false),
    ("reason_codes", .codes r.reasonCodes)]

def digest (S : Stdlib) (r : AdmissionReceipt) : String := S.sha256Json r.contentPayload

end AdmissionReceipt

/-- `CooperativeResourceLeaseTransitionReceipt`; its `state` is always
`delivery_armed`. -/
structure TransitionReceipt where
  policySha256 : String
  admissionReceiptSha256 : String
  claimSha256 : String
  coordinationDomainSha256 : String
  leaseId : String
  transitionApplied : Bool
  reasonCodes : Finset String
  transitionedAt : String
  deriving DecidableEq

def TransitionReceipt.construct (S : Stdlib) (r : TransitionReceipt) :
    Except ContractError TransitionReceipt := do
  let _ ← sha r.policySha256 "policy_sha256"
  let _ ← sha r.admissionReceiptSha256 "admission_receipt_sha256"
  let _ ← sha r.claimSha256 "claim_sha256"
  let _ ← sha r.coordinationDomainSha256 "coordination_domain_sha256"
  let leaseId ← identifier r.leaseId "lease_id"
  let reasons ← requireIdentifiers r.reasonCodes "reason_codes"
  check (r.transitionApplied = false ∨ reasons = ∅)
    (⟨"An applied transition cannot contain blockers."⟩ : ContractError)
  check (r.transitionApplied = true ∨ reasons ≠ ∅)
    (⟨"A non-applied transition requires a reason."⟩ : ContractError)
  let transitionedAt ← S.requireUtcTimestamp r.transitionedAt "transitioned_at"
  pure { r with leaseId := leaseId, transitionedAt := transitionedAt }

structure ReleaseReceipt where
  policySha256 : String
  admissionReceiptSha256 : String
  claimSha256 : String
  coordinationDomainSha256 : String
  leaseId : String
  status : ReleaseStatus
  reasonCodes : Finset String
  deliveryStatus : DeliveryStatus
  releasedAt : String
  activeLeasesAfter : Nat
  deriving DecidableEq

def ReleaseReceipt.construct (S : Stdlib) (r : ReleaseReceipt) :
    Except ContractError ReleaseReceipt := do
  let _ ← sha r.policySha256 "policy_sha256"
  let _ ← sha r.admissionReceiptSha256 "admission_receipt_sha256"
  let _ ← sha r.claimSha256 "claim_sha256"
  let _ ← sha r.coordinationDomainSha256 "coordination_domain_sha256"
  let leaseId ← identifier r.leaseId "lease_id"
  let reasons ← requireIdentifiers r.reasonCodes "reason_codes"
  check (r.status ≠ .released ∨ reasons = ∅)
    (⟨"A released lease cannot contain blockers."⟩ : ContractError)
  check (r.status = .released ∨ reasons ≠ ∅)
    (⟨"A non-released lease requires a reason."⟩ : ContractError)
  let releasedAt ← S.requireUtcTimestamp r.releasedAt "released_at"
  let _ ← integer r.activeLeasesAfter "active_leases_after" 0
  pure { r with leaseId := leaseId, releasedAt := releasedAt }

end LocalMoe.Lease
