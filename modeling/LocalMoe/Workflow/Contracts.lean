/-
  What the workflow store keeps: bindings and their policies, attestations, confirmations,
  recoveries and events.

  A digest is a value of a type `δ`; what is hashed is a structure, and the functions of
  `Digests` hash it.
-/
import LocalMoe.Foundation.Checked
import LocalMoe.Foundation.Table
import Mathlib.Data.List.Sort
import Mathlib.Algebra.Order.Ring.Rat

namespace LocalMoe.Workflow

open Foundation

/-- Seconds since the epoch. -/
abbrev Time := ℚ

/-! ## Errors -/

inductive ErrorKind where
  | store | notFound | clockConflict | artifact | operationConflict | confirmationNotReady
  deriving DecidableEq, Repr

/-- `WorkflowStoreError` and its subclasses. -/
structure StoreError where
  kind : ErrorKind
  message : String
  deriving DecidableEq, Repr

/-- A `WorkflowStoreError` itself. -/
def storeError (message : String) : StoreError := ⟨.store, message⟩

def clockConflict : StoreError := ⟨.clockConflict, "Clock rollback detected for workflow."⟩

/-! ## Bindings -/

inductive Status where
  | staged | attested | ready | applying | applied | conflicted | expired | failed
  deriving DecidableEq, Repr

/-- The states whose status follows the attestations. -/
def Status.Live : Status → Prop
  | .staged | .attested | .ready => True
  | .applying | .applied | .conflicted | .expired | .failed => False

instance (s : Status) : Decidable s.Live := by
  cases s <;> unfold Status.Live <;> infer_instance

/-- `VerifierRequirement`, the fields that the store compares. -/
structure VerifierRequirement where
  verifierId : String
  adapterId : String
  keyId : String
  deriving DecidableEq, Repr

structure VerificationPolicy where
  quorum : Nat
  verifiers : List VerifierRequirement
  distinct : (verifiers.map VerifierRequirement.verifierId).Nodup
  positive : 1 ≤ quorum
  within : quorum ≤ verifiers.length
  deriving DecidableEq

def VerificationPolicy.requirement (p : VerificationPolicy) (verifierId : String) :
    Option VerifierRequirement :=
  p.verifiers.find? fun r => decide (r.verifierId = verifierId)

structure CandidateBinding (δ : Type) where
  workflowId : String
  stageIdempotencySha256 : δ
  taskFingerprint : δ
  configSha256 : δ
  sourceFingerprint : δ
  challengeSha256 : δ
  candidateContentSha256 : δ
  verificationPolicy : VerificationPolicy
  createdAt : Time
  expiresAt : Time
  lifetime : createdAt < expiresAt
  deriving DecidableEq

/-- `IndependentAttestation`, verified by the service. -/
structure IndependentAttestation (δ : Type) where
  adapterId : String
  verifierId : String
  keyId : String
  attestationId : String
  evidenceSha256 : δ
  statementSha256 : δ
  envelopeSize : Nat
  statementSize : Nat
  issuedAt : Time
  expiresAt : Time
  lifetime : issuedAt < expiresAt
  deriving DecidableEq

/-! ## Tables -/

/-- A row of `workflows`.  The other columns are copies of the binding's fields. -/
structure WorkflowRow (δ : Type) where
  binding : CandidateBinding δ
  status : Status
  workspaceRootSha256 : δ
  applyTransactionId : Option δ
  resultSha256 : Option δ
  updatedAt : Time
  lastWallTime : Time
  deriving DecidableEq

def WorkflowRow.workflowId {δ : Type} (r : WorkflowRow δ) : String := r.binding.workflowId

/-- A row of `workflow_attestations`. -/
structure AttestationRow (δ : Type) where
  evidenceSha256 : δ
  workflowId : String
  verifierId : String
  adapterId : String
  keyId : String
  attestationId : String
  statementSha256 : δ
  envelopeSize : Nat
  statementSize : Nat
  issuedAt : Time
  expiresAt : Time
  recordedAt : Time
  supersededAt : Option Time
  deriving DecidableEq

/-- `issued_at <= now <= expires_at`. -/
def AttestationRow.ActiveAt {δ : Type} (r : AttestationRow δ) (now : Time) : Prop :=
  r.issuedAt ≤ now ∧ now ≤ r.expiresAt

instance {δ : Type} (r : AttestationRow δ) (now : Time) : Decidable (r.ActiveAt now) :=
  inferInstanceAs (Decidable (_ ∧ _))

/-- A row of `resume_confirmations`. -/
structure ConfirmationRow (δ : Type) where
  tokenSha256 : δ
  workflowId : String
  idempotencySha256 : δ
  planId : δ
  bindingSha256 : δ
  issuedAt : Time
  expiresAt : Time
  consumedAt : Option Time
  revokedAt : Option Time
  deriving DecidableEq

/-- A row of `apply_recoveries`. -/
structure RecoveryRow (δ : Type) where
  transactionId : δ
  workflowId : String
  recoveredAt : Time
  deriving DecidableEq

/-- The event keys, by what stands before the colon. -/
inductive EventKey (δ : Type) where
  | stage (idempotencySha256 : δ)
  | quorum (stateSha256 : δ)
  | expiry
  | attestation (evidenceSha256 : δ)
  | attestationExpired (evidenceSha256 : δ)
  | resumePlan (planId : δ)
  | resume (planId : δ)
  | applied (transactionId : δ)
  | recovered (transactionId : δ)
  | conflict (reasonSha256 : δ)
  deriving DecidableEq

inductive EventPayload (δ : Type) where
  | candidateStaged (bindingSha256 candidateContentSha256 : δ)
  | attestationQuorumChanged (status : Status) (activeEvidence : List δ) (quorum : Nat)
  | workflowExpired (expiresAt : Time)
  | attestationSuperseded (evidenceSha256 : δ) (verifierId : String)
  | attestationVerified (attestation : IndependentAttestation δ) (verified quorum : Nat)
  | resumeConfirmationIssued (planId idempotencySha256 : δ) (expiresAt : Time)
  | resumeAuthorized (planId transactionId : δ)
  | candidateApplied (transactionId resultSha256 : δ)
  | applyRecovered (transactionId : δ) (status : Status)
  | sourceDriftDetected (reasonSha256 : δ)

inductive EventType where
  | candidateStaged | attestationQuorumChanged | workflowExpired | attestationSuperseded
  | attestationVerified | resumeConfirmationIssued | resumeAuthorized | candidateApplied
  | applyRecovered | sourceDriftDetected
  deriving DecidableEq, Repr

def EventPayload.type {δ : Type} : EventPayload δ → EventType
  | .candidateStaged .. => .candidateStaged
  | .attestationQuorumChanged .. => .attestationQuorumChanged
  | .workflowExpired .. => .workflowExpired
  | .attestationSuperseded .. => .attestationSuperseded
  | .attestationVerified .. => .attestationVerified
  | .resumeConfirmationIssued .. => .resumeConfirmationIssued
  | .resumeAuthorized .. => .resumeAuthorized
  | .candidateApplied .. => .candidateApplied
  | .applyRecovered .. => .applyRecovered
  | .sourceDriftDetected .. => .sourceDriftDetected

/-- A row of `workflow_events`, in the order of its sequence. -/
structure EventRow (δ : Type) where
  workflowId : String
  eventType : EventType
  eventKey : EventKey δ
  payloadSha256 : δ
  occurredAt : Time
  deriving DecidableEq

/-- The tables of the store. -/
structure Database (δ : Type) where
  workflows : List (WorkflowRow δ)
  attestations : List (AttestationRow δ)
  confirmations : List (ConfirmationRow δ)
  recoveries : List (RecoveryRow δ)
  events : List (EventRow δ)

/-- The tables as `_initialize` creates them. -/
def Database.empty (δ : Type) : Database δ := ⟨[], [], [], [], []⟩

/-! ## Digests -/

/-- What a plan id is the digest of. -/
structure PlanContent (δ : Type) where
  workflowId : String
  bindingSha256 : δ
  attestationEvidence : List δ
  idempotencySha256 : δ
  issuedAt : Time
  expiresAt : Time
  deriving DecidableEq

/-- SHA-256 and the HMAC of the store's secret, of what the store hashes, and how it
compares. -/
structure Digests (δ : Type) where
  /-- `sha256_bytes` of a text. -/
  ofText : String → δ
  /-- `binding_sha256`. -/
  ofBinding : CandidateBinding δ → δ
  /-- `plan_id`. -/
  ofPlan : PlanContent δ → δ
  /-- `_resume_transaction_id`. -/
  ofTransaction : String → δ → δ → δ
  /-- `canonical_sha256` of an event payload. -/
  ofPayload : EventPayload δ → δ
  /-- `_confirmation_token`. -/
  token : String → δ → δ → String
  /-- The workflow id and the challenge of `stage_identity`. -/
  stageWorkflowId : String → String
  stageChallenge : String → String
  /-- `sorted`, and the order of the texts of two digests. -/
  sorted : List δ → List δ
  before : δ → δ → Bool
  /-- `lifetime_matches`, both ways, at the precision of the floats. -/
  lifetimesMatch : CandidateBinding δ → CandidateBinding δ → Bool

/-- SHA-256 treated as injective. -/
structure Digests.Injective {δ : Type} (D : Digests δ) : Prop where
  ofPlan : Function.Injective D.ofPlan
  ofTransaction : ∀ w p b w' p' b', D.ofTransaction w p b = D.ofTransaction w' p' b' →
    w = w' ∧ p = p' ∧ b = b'

/-! ## Records -/

structure WorkflowRecord (δ : Type) where
  status : Status
  binding : CandidateBinding δ
  workspaceRootSha256 : δ
  attestations : List (AttestationRow δ)
  activeAttestationCount : Nat
  applyTransactionId : Option δ
  recoveredTransactionId : Option δ
  resultSha256 : Option δ
  updatedAt : Time
  lastWallTime : Time

namespace WorkflowRecord

variable {δ : Type} (r : WorkflowRecord δ)

def workflowId : String := r.binding.workflowId

def quorum : Nat := r.binding.verificationPolicy.quorum

def active (now : Time) : List (AttestationRow δ) :=
  r.attestations.filter fun a => decide (a.ActiveAt now)

def QuorumSatisfiedAt (now : Time) : Prop := r.quorum ≤ (r.active now).length

instance (now : Time) : Decidable (r.QuorumSatisfiedAt now) :=
  inferInstanceAs (Decidable (_ ≤ _))

/-- `quorum_expires_at`: the expiries from the latest on, the one that ends the quorum. -/
def quorumExpiresAt (now : Time) : Except StoreError Time :=
  let expiries := ((r.active now).map AttestationRow.expiresAt).insertionSort (· ≥ ·)
  match expiries[r.quorum - 1]? with
  | none => .error (storeError "Workflow has no currently valid quorum.")
  | some expiry => .ok expiry

/-- The checks of the constructor on a status and its transaction. -/
def Coherent (status : Status) (transaction result : Option δ) : Prop :=
  match status with
  | .applying => transaction.isSome = true ∧ result = none
  | .applied => transaction.isSome = true ∧ result.isSome = true
  | .staged | .attested | .ready | .conflicted | .expired | .failed =>
    transaction = none ∧ result = none

instance (status : Status) (transaction result : Option δ) [DecidableEq δ] :
    Decidable (Coherent status transaction result) := by
  cases status <;> unfold Coherent <;> infer_instance

/-- `__post_init__`. -/
def construct [DecidableEq δ] (r : WorkflowRecord δ) : Except StoreError (WorkflowRecord δ) := do
  check (Coherent r.status r.applyTransactionId r.resultSha256)
    (storeError "Non-apply workflow carries active apply state.")
  check (r.attestations.map AttestationRow.verifierId).Nodup
    (storeError "Workflow repeats an attestation verifier.")
  check (r.activeAttestationCount ≤ r.attestations.length)
    (storeError "Active attestation count is invalid.")
  check (r.binding.createdAt ≤ r.updatedAt ∧ r.updatedAt ≤ r.lastWallTime)
    (storeError "Workflow timestamps are out of order.")
  pure r

end WorkflowRecord

structure ResumePlan (δ : Type) where
  workflowId : String
  planId : δ
  confirmationId : String
  confirmationExpiresAt : Time
  bindingSha256 : δ
  idempotentReplay : Bool

end LocalMoe.Workflow
