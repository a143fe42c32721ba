/-
  `SQLiteWorkflowStore`: every operation as one transaction.

  An operation takes the tables to new tables and an answer, or raises; a transaction that
  raises is rolled back.
-/
import LocalMoe.Foundation.Machine
import LocalMoe.Workflow.Contracts

namespace LocalMoe.Workflow

open Foundation

variable {δ : Type} [DecidableEq δ]

/-! ## Reading a record -/

def maxAttestationArtifactBytes : Nat := 8 * 1024 * 1024

/-- `SELECT ... FROM workflows WHERE workflow_id = ?`. -/
def Database.workflow (db : Database δ) (workflowId : String) : Option (WorkflowRow δ) :=
  Table.lookup WorkflowRow.workflowId db.workflows workflowId

/-- `_attestation`: the checks of a persisted attestation.  The artifact store judges its
artifacts, unless only metadata is read. -/
def validateAttestation (artifacts : Option (AttestationRow δ → Bool))
    (binding : CandidateBinding δ) (a : AttestationRow δ) : Except StoreError Unit := do
  check (a.envelopeSize ≤ maxAttestationArtifactBytes ∧
      a.statementSize ≤ maxAttestationArtifactBytes)
    (⟨.artifact, "Persisted attestation artifact exceeds its read bound."⟩ : StoreError)
  check (∀ accepts ∈ artifacts, accepts a = true)
    (⟨.artifact, "Persisted attestation storage is unavailable."⟩ : StoreError)
  check (a.issuedAt < a.expiresAt ∧ a.issuedAt ≤ a.recordedAt ∧ a.recordedAt ≤ a.expiresAt)
    (storeError "Recorded attestation timeline is invalid.")
  check (binding.createdAt ≤ a.issuedAt ∧ a.expiresAt ≤ binding.expiresAt)
    (storeError "Recorded attestation lifetime is outside the workflow.")

/-- The attestations of a workflow that are not superseded, by their verifiers. -/
def Database.attestationsOf (db : Database δ) (workflowId : String) : List (AttestationRow δ) :=
  (db.attestations.filter fun a => decide (a.workflowId = workflowId ∧ a.supersededAt = none))
    |>.insertionSort fun a b => a.verifierId ≤ b.verifierId

def laterRecovery (D : Digests δ) (r s : RecoveryRow δ) : RecoveryRow δ :=
  if r.recoveredAt < s.recoveredAt ∨
    (r.recoveredAt = s.recoveredAt ∧ D.before r.transactionId s.transactionId = true) then s else r

/-- `ORDER BY recovered_at DESC, transaction_id DESC LIMIT 1`. -/
def lastRecovery (D : Digests δ) : List (RecoveryRow δ) → Option (RecoveryRow δ)
  | [] => none
  | r :: rest =>
    match lastRecovery D rest with
    | none => some r
    | some s => some (laterRecovery D r s)

def Database.recoveryOf (D : Digests δ) (db : Database δ) (workflowId : String) :
    Option (RecoveryRow δ) :=
  lastRecovery D (db.recoveries.filter fun r => decide (r.workflowId = workflowId))

/-- The record of a row, before it is checked. -/
def recordOf (D : Digests δ) (db : Database δ) (row : WorkflowRow δ) (activeAt : Time) :
    WorkflowRecord δ where
  status := row.status
  binding := row.binding
  workspaceRootSha256 := row.workspaceRootSha256
  attestations := db.attestationsOf row.workflowId
  activeAttestationCount :=
    (db.attestationsOf row.workflowId).countP fun a => decide (a.ActiveAt activeAt)
  applyTransactionId := row.applyTransactionId
  recoveredTransactionId := (db.recoveryOf D row.workflowId).map RecoveryRow.transactionId
  resultSha256 := row.resultSha256
  updatedAt := row.updatedAt
  lastWallTime := row.lastWallTime

def readRecord (D : Digests δ) (artifacts : Option (AttestationRow δ → Bool)) (db : Database δ)
    (row : WorkflowRow δ) (activeAt : Time) : Except StoreError (WorkflowRecord δ) := do
  (db.attestationsOf row.workflowId).forM (validateAttestation artifacts row.binding)
  (recordOf D db row activeAt).construct

def selectedRecord (D : Digests δ) (artifacts : Option (AttestationRow δ → Bool))
    (db : Database δ) (workflowId : String) (activeAt : Time) :
    Except StoreError (WorkflowRecord δ) :=
  match db.workflow workflowId with
  | none => .error ⟨.notFound, "Workflow was not found."⟩
  | some row => readRecord D artifacts db row activeAt

def checkClock (record : WorkflowRecord δ) (now : Time) : Except StoreError Unit :=
  check (¬ now < record.lastWallTime) clockConflict

def checkLive (record : WorkflowRecord δ) (now : Time) : Except StoreError Unit := do
  checkClock record now
  check (record.status ≠ .expired ∧ ¬ record.binding.expiresAt < now)
    (storeError "Workflow expired.")

/-! ## Writing -/

def appendEvent (D : Digests δ) (db : Database δ) (workflowId : String) (key : EventKey δ)
    (payload : EventPayload δ) (now : Time) : Except StoreError (Database δ) :=
  match db.events.find? fun e => decide (e.workflowId = workflowId ∧ e.eventKey = key) with
  | some existing => do
    check (existing.payloadSha256 = D.ofPayload payload)
      (storeError "Workflow event replay changed its payload.")
    pure db
  | none => pure { db with
      events := db.events ++ [⟨workflowId, payload.type, key, D.ofPayload payload, now⟩] }

/-- `UPDATE workflows SET ... WHERE workflow_id = ?`. -/
def Database.setWorkflow (db : Database δ) (workflowId : String)
    (f : WorkflowRow δ → WorkflowRow δ) : Database δ :=
  { db with workflows := Table.update WorkflowRow.workflowId db.workflows workflowId f }

/-- `SET status = ?, updated_at = ?, last_wall_time = ?`. -/
def WorkflowRow.withStatus (r : WorkflowRow δ) (status : Status) (now : Time) : WorkflowRow δ :=
  { r with status, updatedAt := now, lastWallTime := now }

/-- `SET updated_at = ?, last_wall_time = ?`. -/
def WorkflowRow.touched (r : WorkflowRow δ) (now : Time) : WorkflowRow δ :=
  { r with updatedAt := now, lastWallTime := now }

def transition (D : Digests δ) (db : Database δ) (workflowId : String) (status : Status)
    (key : EventKey δ) (payload : EventPayload δ) (now : Time) :
    Except StoreError (Database δ) :=
  appendEvent D (db.setWorkflow workflowId (·.withStatus status now)) workflowId key payload now

/-- The status that the attestations give at a time. -/
def desiredStatus (record : WorkflowRecord δ) (now : Time) : Status :=
  if record.QuorumSatisfiedAt now then .ready
  else if record.active now ≠ [] then .attested
  else .staged

/-- What `_refresh_attestation_status` writes of a change. -/
def quorumPayload (D : Digests δ) (record : WorkflowRecord δ) (now : Time) : EventPayload δ :=
  .attestationQuorumChanged (desiredStatus record now)
    (D.sorted ((record.active now).map AttestationRow.evidenceSha256)) record.quorum

def refreshAttestationStatus (D : Digests δ) (artifacts : Option (AttestationRow δ → Bool))
    (db : Database δ) (record : WorkflowRecord δ) (now : Time) :
    Except StoreError (Database δ × WorkflowRecord δ) :=
  if ¬ record.status.Live then pure (db, record)
  else if desiredStatus record now = record.status then do
    let selected ← selectedRecord D artifacts db record.workflowId now
    pure (db, selected)
  else do
    let payload := quorumPayload D record now
    let db ← transition D db record.workflowId (desiredStatus record now)
      (.quorum (D.ofPayload payload)) payload now
    let selected ← selectedRecord D artifacts db record.workflowId now
    pure (db, selected)

/-! ## Calls -/

/-- The operations and their arguments. -/
inductive Request (δ : Type) where
  | createWorkflow (binding : CandidateBinding δ) (challenge stageIdempotencyKey : String)
      (workspaceRootSha256 : δ)
  | findWorkflow (workflowId : String)
  | getWorkflow (workflowId : String)
  | listWorkflows (limit : Nat)
  | recordVerifiedAttestation (workflowId : String) (attestation : IndependentAttestation δ)
      (bindingSha256 : δ)
  | issueResumePlan (workflowId idempotencyKey : String) (ttlSeconds : Time)
  | consumeResumeConfirmation (workflowId : String) (planId : δ) (confirmationId : String)
      (bindingSha256 : δ)
  | markApplied (workflowId : String) (transactionId resultSha256 : δ)
  | markAppliedAfterCommittedRecovery (workflowId : String) (transactionId resultSha256 : δ)
  | resetAfterRecovery (workflowId : String) (transactionId : δ)
  | resetApplyingAfterRecovery (workflowId : String) (transactionId : δ)
  | markConflicted (workflowId reason : String)
  | readApplyingRecovery (workflowId : String)
  | readRecoveredCleanup (workflowId : String)
  | readAppliedCleanup (workflowId : String)

/-- A request at an observation time, and what the artifact store holds then. -/
structure Call (δ : Type) where
  request : Request δ
  now : Time
  artifacts : AttestationRow δ → Bool

/-- What a call returns. -/
inductive Answer (δ : Type) where
  | record (record : WorkflowRecord δ) (replay : Bool)
  | records (records : List (WorkflowRecord δ))
  | plan (plan : ResumePlan δ)
  | cleanup (record : WorkflowRecord δ) (transactionId : δ)
  | nothing

/-! ## Operations -/

def wallTime (now : Time) : Except StoreError Unit :=
  check (0 ≤ now) (storeError "Workflow timestamp is invalid.")

def SameStageOperation (D : Digests δ) (left right : CandidateBinding δ) : Prop :=
  left.workflowId = right.workflowId ∧
    left.stageIdempotencySha256 = right.stageIdempotencySha256 ∧
    left.taskFingerprint = right.taskFingerprint ∧ left.configSha256 = right.configSha256 ∧
    left.sourceFingerprint = right.sourceFingerprint ∧
    left.challengeSha256 = right.challengeSha256 ∧
    left.verificationPolicy = right.verificationPolicy ∧
    D.lifetimesMatch left right = true

instance (D : Digests δ) (left right : CandidateBinding δ) :
    Decidable (SameStageOperation D left right) :=
  inferInstanceAs (Decidable (_ ∧ _))

def createWorkflow (D : Digests δ) (artifacts : AttestationRow δ → Bool) (db : Database δ)
    (binding : CandidateBinding δ) (challenge key : String) (workspaceRootSha256 : δ)
    (now : Time) : Except StoreError (Database δ × Answer δ) := do
  check (16 ≤ key.utf8ByteSize ∧ key.utf8ByteSize ≤ 1024)
    (storeError "Idempotency key length is outside safe bounds.")
  check (binding.workflowId = D.stageWorkflowId key ∧ challenge = D.stageChallenge key ∧
      binding.stageIdempotencySha256 = D.ofText key ∧
      D.ofText challenge = binding.challengeSha256)
    (storeError "Stage identity or challenge binding is invalid.")
  check (binding.createdAt ≤ now ∧ now ≤ binding.expiresAt)
    (storeError "Candidate binding is not currently valid.")
  match db.workflows.find? fun r => decide (r.workflowId = binding.workflowId ∨
      r.binding.stageIdempotencySha256 = D.ofText key) with
  | some row => do
    let record ← readRecord D (some artifacts) db row now
    check (record.workflowId = binding.workflowId ∧ SameStageOperation D record.binding binding ∧
        record.workspaceRootSha256 = workspaceRootSha256)
      (storeError "Stage idempotency key is already bound to another candidate.")
    pure (db, .record record true)
  | none => do
    let row : WorkflowRow δ := ⟨binding, .staged, workspaceRootSha256, none, none, now, now⟩
    let db ← appendEvent D { db with workflows := db.workflows ++ [row] } binding.workflowId
      (.stage (D.ofText key))
      (.candidateStaged (D.ofBinding binding) binding.candidateContentSha256) now
    let record ← selectedRecord D (some artifacts) db binding.workflowId now
    pure (db, .record record false)

/-- One workflow brought up to date: expired, or refreshed. -/
def upToDate (D : Digests δ) (artifacts : AttestationRow δ → Bool) (db : Database δ)
    (row : WorkflowRow δ) (now : Time) :
    Except StoreError (Database δ × WorkflowRecord δ) := do
  let record ← readRecord D (some artifacts) db row now
  checkClock record now
  if ¬ record.status.Live then pure (db, record)
  else if record.binding.expiresAt < now then do
    let db ← transition D db record.workflowId .expired .expiry
      (.workflowExpired record.binding.expiresAt) now
    let selected ← selectedRecord D (some artifacts) db record.workflowId now
    pure (db, selected)
  else refreshAttestationStatus D (some artifacts) db record now

def findWorkflow (D : Digests δ) (artifacts : AttestationRow δ → Bool) (db : Database δ)
    (workflowId : String) (now : Time) : Except StoreError (Database δ × Answer δ) :=
  match db.workflow workflowId with
  | none => pure (db, .nothing)
  | some row => do
    let (db, record) ← upToDate D artifacts db row now
    pure (db, .record record false)

def getWorkflow (D : Digests δ) (artifacts : AttestationRow δ → Bool) (db : Database δ)
    (workflowId : String) (now : Time) : Except StoreError (Database δ × Answer δ) :=
  match db.workflow workflowId with
  | none => .error (storeError "Workflow was not found.")
  | some _ => findWorkflow D artifacts db workflowId now

/-- The loop of `list_workflows`. -/
def listRows (D : Digests δ) (artifacts : AttestationRow δ → Bool) (now : Time) :
    Database δ → List (WorkflowRow δ) →
      Except StoreError (Database δ × List (WorkflowRecord δ))
  | db, [] => pure (db, [])
  | db, row :: rest => do
    let (db, record) ← upToDate D artifacts db row now
    let (db, records) ← listRows D artifacts now db rest
    pure (db, record :: records)

/-- `ORDER BY updated_at DESC, workflow_id LIMIT ?`. -/
def Database.listed (db : Database δ) (limit : Nat) : List (WorkflowRow δ) :=
  (db.workflows.insertionSort fun r s => r.updatedAt > s.updatedAt ∨
    (r.updatedAt = s.updatedAt ∧ r.workflowId ≤ s.workflowId)).take limit

def listWorkflows (D : Digests δ) (artifacts : AttestationRow δ → Bool) (db : Database δ)
    (limit : Nat) (now : Time) : Except StoreError (Database δ × Answer δ) := do
  check (1 ≤ limit ∧ limit ≤ 1000) (storeError "Workflow list limit is outside safe bounds.")
  let (db, records) ← listRows D artifacts now db (db.listed limit)
  pure (db, .records records)

/-- The row that `record_verified_attestation` inserts. -/
def IndependentAttestation.row (a : IndependentAttestation δ) (workflowId : String)
    (now : Time) : AttestationRow δ :=
  ⟨a.evidenceSha256, workflowId, a.verifierId, a.adapterId, a.keyId, a.attestationId,
    a.statementSha256, a.envelopeSize, a.statementSize, a.issuedAt, a.expiresAt, now, none⟩

/-- `UPDATE workflow_attestations SET superseded_at = ?` of the verifier's attestation. -/
def AttestationRow.superseded (a : AttestationRow δ) (evidenceSha256 : δ) (now : Time) :
    AttestationRow δ :=
  if a.evidenceSha256 = evidenceSha256 ∧ a.supersededAt = none then
    { a with supersededAt := some now } else a

/-- The attestation of the verifier, if it has expired, makes room for another. -/
def supersede (D : Digests δ) (db : Database δ) (workflowId verifierId : String) (now : Time) :
    Except StoreError (Database δ) :=
  match db.attestations.find? fun a => decide (a.workflowId = workflowId ∧
      a.verifierId = verifierId ∧ a.supersededAt = none) with
  | none => pure db
  | some existing => do
    check (¬ now ≤ existing.expiresAt)
      (storeError "Workflow verifier is already bound to a live attestation.")
    appendEvent D
      { db with attestations := db.attestations.map (·.superseded existing.evidenceSha256 now) }
      workflowId (.attestationExpired existing.evidenceSha256)
      (.attestationSuperseded existing.evidenceSha256 verifierId) now

/-- The insertion of `record_verified_attestation`, once the evidence is new. -/
def insertAttestation (D : Digests δ) (artifacts : AttestationRow δ → Bool) (db : Database δ)
    (record : WorkflowRecord δ) (attestation : IndependentAttestation δ) (now : Time) :
    Except StoreError (Database δ × Answer δ) := do
  let workflowId := record.workflowId
  let db ← supersede D db workflowId attestation.verifierId now
  check (∀ a ∈ db.attestations, ¬ (a.verifierId = attestation.verifierId ∧
      a.attestationId = attestation.attestationId))
    (storeError "Signed attestation id was replayed.")
  -- The primary key and `active_attestations_verifier_idx`.
  check (∀ a ∈ db.attestations, a.evidenceSha256 ≠ attestation.evidenceSha256 ∧
      ¬ (a.workflowId = workflowId ∧ a.verifierId = attestation.verifierId ∧
        a.supersededAt = none))
    (storeError "Workflow database operation failed.")
  let db := { db with attestations := db.attestations ++ [attestation.row workflowId now] }
  let verified := db.attestations.countP fun a => decide (a.workflowId = workflowId ∧
    a.supersededAt = none ∧ a.ActiveAt now)
  let status := if record.quorum ≤ verified then Status.ready else .attested
  let db := db.setWorkflow workflowId (·.withStatus status now)
  let db ← appendEvent D db workflowId (.attestation attestation.evidenceSha256)
    (.attestationVerified attestation verified record.quorum) now
  let selected ← selectedRecord D (some artifacts) db workflowId now
  pure (db, .record selected false)

def recordVerifiedAttestation (D : Digests δ) (artifacts : AttestationRow δ → Bool)
    (db : Database δ) (workflowId : String) (attestation : IndependentAttestation δ)
    (bindingSha256 : δ) (now : Time) : Except StoreError (Database δ × Answer δ) := do
  let record ← selectedRecord D (some artifacts) db workflowId now
  let (db, record) ← refreshAttestationStatus D (some artifacts) db record now
  checkLive record now
  check record.status.Live
    (storeError "Independent attestation cannot be recorded in this state.")
  match record.binding.verificationPolicy.requirement attestation.verifierId with
  | none => .error (storeError "Verifier is not trusted by this workflow.")
  | some requirement => do
    check (bindingSha256 = D.ofBinding record.binding)
      (storeError "Verified attestation targets another workflow binding.")
    check (attestation.adapterId = requirement.adapterId ∧
        attestation.keyId = requirement.keyId ∧ attestation.issuedAt ≤ now ∧
        now ≤ attestation.expiresAt)
      (storeError "Verified attestation metadata does not match workflow policy.")
    match Table.lookup AttestationRow.evidenceSha256 db.attestations
        attestation.evidenceSha256 with
    | some existing => do
      check (existing.workflowId = workflowId ∧
          existing.verifierId = attestation.verifierId ∧ existing.supersededAt = none ∧
          now ≤ existing.expiresAt)
        (storeError "Independent attestation was replayed.")
      let selected ← selectedRecord D (some artifacts) db workflowId now
      pure (db, .record selected true)
    | none => insertAttestation D artifacts db record attestation now

def resumePlan (D : Digests δ) (record : WorkflowRecord δ) (row : ConfirmationRow δ)
    (idempotentReplay : Bool) : Except StoreError (ResumePlan δ) := do
  let token := D.token record.workflowId row.planId row.idempotencySha256
  check (D.ofText token = row.tokenSha256)
    (storeError "Persisted resume confirmation was tampered with.")
  pure ⟨record.workflowId, row.planId, token, row.expiresAt, D.ofBinding record.binding,
    idempotentReplay⟩

/-- `UPDATE resume_confirmations SET revoked_at = ?` of the open confirmations. -/
def ConfirmationRow.revoked (c : ConfirmationRow δ) (workflowId : String) (now : Time) :
    ConfirmationRow δ :=
  if c.workflowId = workflowId ∧ c.consumedAt = none ∧ c.revokedAt = none then
    { c with revokedAt := some now } else c

def planContent (D : Digests δ) (record : WorkflowRecord δ) (idempotencySha256 : δ)
    (now expiresAt : Time) : PlanContent δ :=
  ⟨record.workflowId, D.ofBinding record.binding,
    (record.active now).map AttestationRow.evidenceSha256, idempotencySha256, now, expiresAt⟩

def confirmationOf (D : Digests δ) (content : PlanContent δ) : ConfirmationRow δ :=
  ⟨D.ofText (D.token content.workflowId (D.ofPlan content) content.idempotencySha256),
    content.workflowId, content.idempotencySha256, D.ofPlan content, content.bindingSha256,
    content.issuedAt, content.expiresAt, none, none⟩

def issueResumePlan (D : Digests δ) (artifacts : AttestationRow δ → Bool) (db : Database δ)
    (workflowId key : String) (ttlSeconds now : Time) :
    Except StoreError (Database δ × Answer δ) := do
  check (1 ≤ ttlSeconds ∧ ttlSeconds ≤ 3600)
    (storeError "Resume confirmation TTL is outside safe bounds.")
  check (16 ≤ key.utf8ByteSize ∧ key.utf8ByteSize ≤ 1024)
    (storeError "Idempotency key length is outside safe bounds.")
  let idempotencySha256 := D.ofText key
  let record ← selectedRecord D (some artifacts) db workflowId now
  let (db, record) ← refreshAttestationStatus D (some artifacts) db record now
  checkLive record now
  check (record.status = .ready ∧ record.QuorumSatisfiedAt now)
    (storeError "A resume plan requires a verified ready workflow.")
  match Table.lookup ConfirmationRow.idempotencySha256 db.confirmations idempotencySha256 with
  | some existing => do
    check (existing.workflowId = workflowId ∧
        existing.bindingSha256 = D.ofBinding record.binding)
      (⟨.operationConflict, "Resume idempotency key is bound to another operation."⟩ :
        StoreError)
    let plan ← resumePlan D record existing true
    pure (db, .plan plan)
  | none => do
    let quorumExpiry ← record.quorumExpiresAt now
    let expiresAt := min (min (now + ttlSeconds) record.binding.expiresAt) quorumExpiry
    let content := planContent D record idempotencySha256 now expiresAt
    let row := confirmationOf D content
    check (Table.lookup ConfirmationRow.tokenSha256 db.confirmations row.tokenSha256 = none)
      (storeError "Workflow database operation failed.")
    let kept : List (ConfirmationRow δ) := db.confirmations.map (·.revoked workflowId now)
    let db := { db with confirmations := kept ++ [row] }
    let db := db.setWorkflow workflowId (·.touched now)
    let db ← appendEvent D db workflowId (.resumePlan row.planId)
      (.resumeConfirmationIssued row.planId idempotencySha256 expiresAt) now
    let plan ← resumePlan D record row false
    pure (db, .plan plan)

/-- `UPDATE resume_confirmations SET consumed_at = ?`. -/
def ConfirmationRow.consumed (c : ConfirmationRow δ) (now : Time) : ConfirmationRow δ :=
  { c with consumedAt := some now }

/-- `SET status = 'applying', apply_transaction_id = ?, ...`. -/
def WorkflowRow.applyingWith (r : WorkflowRow δ) (transactionId : δ) (now : Time) :
    WorkflowRow δ :=
  { r with
    status := .applying, applyTransactionId := some transactionId, updatedAt := now,
    lastWallTime := now }

/-- The last checks of `consume_resume_confirmation`, and its writes. -/
def consumeConfirmation (D : Digests δ) (artifacts : AttestationRow δ → Bool) (db : Database δ)
    (record : WorkflowRecord δ) (confirmation : ConfirmationRow δ) (transactionId : δ)
    (now : Time) : Except StoreError (Database δ × Answer δ) := do
  checkClock record now
  check (record.status ≠ .expired ∧ ¬ record.binding.expiresAt < now)
    (⟨.confirmationNotReady, "Workflow expired."⟩ : StoreError)
  check (record.status = .ready ∧ record.QuorumSatisfiedAt now)
    (⟨.confirmationNotReady, "Workflow is not ready to resume."⟩ : StoreError)
  check (confirmation.revokedAt = none)
    (⟨.confirmationNotReady, "Resume confirmation was revoked."⟩ : StoreError)
  check (confirmation.consumedAt = none)
    (⟨.confirmationNotReady, "Resume confirmation was already consumed."⟩ : StoreError)
  check (¬ now < confirmation.issuedAt)
    (storeError "Clock rollback detected for confirmation.")
  check (¬ confirmation.expiresAt < now)
    (⟨.confirmationNotReady, "Resume confirmation expired."⟩ : StoreError)
  let db := { db with
    confirmations := Table.update ConfirmationRow.tokenSha256 db.confirmations
      confirmation.tokenSha256 (·.consumed now) }
  let db := db.setWorkflow record.workflowId (·.applyingWith transactionId now)
  let db ← appendEvent D db record.workflowId (.resume confirmation.planId)
    (.resumeAuthorized confirmation.planId transactionId) now
  let selected ← selectedRecord D (some artifacts) db record.workflowId now
  pure (db, .record selected false)

def consumeResumeConfirmation (D : Digests δ) (artifacts : AttestationRow δ → Bool)
    (db : Database δ) (workflowId : String) (planId : δ) (confirmationId : String)
    (bindingSha256 : δ) (now : Time) : Except StoreError (Database δ × Answer δ) := do
  check (confirmationId ≠ "")
    (⟨.confirmationNotReady, "Resume confirmation is invalid."⟩ : StoreError)
  let record ← selectedRecord D (some artifacts) db workflowId now
  -- The refresh leaves an applying or an applied workflow alone.
  let (db, record) ← refreshAttestationStatus D (some artifacts) db record now
  checkClock record now
  match Table.lookup ConfirmationRow.tokenSha256 db.confirmations (D.ofText confirmationId) with
  | none => .error ⟨.confirmationNotReady, "Resume confirmation is invalid."⟩
  | some confirmation => do
    check (D.token workflowId confirmation.planId confirmation.idempotencySha256 =
        confirmationId)
      (storeError "Resume confirmation integrity is invalid.")
    check (confirmation.workflowId = workflowId ∧ confirmation.planId = planId ∧
        confirmation.bindingSha256 = bindingSha256 ∧
        bindingSha256 = D.ofBinding record.binding)
      (storeError "Resume confirmation binding is invalid.")
    let transactionId := D.ofTransaction workflowId planId bindingSha256
    if confirmation.consumedAt ≠ none ∧ (record.status = .applying ∨ record.status = .applied)
    then do
      check (record.applyTransactionId = some transactionId)
        (storeError "Consumed confirmation lost its apply transaction binding.")
      pure (db, .record record true)
    else
      match if confirmation.consumedAt ≠ none then
          Table.lookup RecoveryRow.transactionId db.recoveries transactionId else none with
      | some recovery => do
        check (recovery.workflowId = workflowId)
          (storeError "Recovered confirmation binding is invalid.")
        pure (db, .record record true)
      | none => consumeConfirmation D artifacts db record confirmation transactionId now

/-! ## The checks of the recovery -/

/-- One confirmation, of the transaction that is validated: whether it counts. -/
def recoveryMatch (D : Digests δ) (record : WorkflowRecord δ) (transactionId : δ)
    (c : ConfirmationRow δ) : Except StoreError Bool :=
  if D.ofTransaction record.workflowId c.planId c.bindingSha256 ≠ transactionId then pure false
  else do
    check (c.bindingSha256 = D.ofBinding record.binding ∧
        c.tokenSha256 = D.ofText (D.token record.workflowId c.planId c.idempotencySha256) ∧
        (∀ consumed ∈ c.consumedAt, c.issuedAt ≤ consumed ∧ consumed ≤ c.expiresAt) ∧
        c.revokedAt = none)
      (storeError "Applying recovery confirmation binding is invalid.")
    pure true

def validateRecoveryTransactionBinding (D : Digests δ) (db : Database δ)
    (record : WorkflowRecord δ) (transactionId : δ) : Except StoreError Unit := do
  let rows := db.confirmations.filter fun c =>
    decide (c.workflowId = record.workflowId ∧ c.consumedAt ≠ none)
  let counted ← rows.mapM (recoveryMatch D record transactionId)
  check (counted.count true = 1)
    (storeError "Applying recovery transaction binding is invalid.")

def validateApplyingRecoveryBinding (D : Digests δ) (db : Database δ)
    (record : WorkflowRecord δ) : Except StoreError Unit :=
  match record.status, record.applyTransactionId with
  | .applying, some transactionId =>
    validateRecoveryTransactionBinding D db record transactionId
  | _, _ => .error (storeError "Applying recovery requires an in-flight transaction.")

def validateAppliedEventBinding (D : Digests δ) (db : Database δ) (record : WorkflowRecord δ)
    (transactionId resultSha256 : δ) : Except StoreError Unit :=
  match db.events.find? fun e => decide (e.workflowId = record.workflowId ∧
      e.eventKey = .applied transactionId) with
  | none => .error (storeError "Applied workflow event binding is invalid.")
  | some event =>
    check (event.eventType = .candidateApplied ∧
        event.payloadSha256 = D.ofPayload (.candidateApplied transactionId resultSha256) ∧
        record.resultSha256 = some resultSha256)
      (storeError "Applied workflow event binding is invalid.")

/-- `SET status = 'applied', result_sha256 = ?, ...`. -/
def WorkflowRow.appliedWith (r : WorkflowRow δ) (resultSha256 : δ) (now : Time) :
    WorkflowRow δ :=
  { r with
    status := .applied, resultSha256 := some resultSha256, updatedAt := now,
    lastWallTime := now }

/-- What `_mark_applied` checks first when it recovers, and reads no artifacts. -/
def validateMarkBinding (D : Digests δ) (artifacts : Option (AttestationRow δ → Bool))
    (db : Database δ) (record : WorkflowRecord δ) (transactionId resultSha256 : δ) :
    Except StoreError Unit :=
  if artifacts.isSome then pure ()
  else
    match record.status with
    | .applying => validateApplyingRecoveryBinding D db record
    | .applied => do
      validateRecoveryTransactionBinding D db record transactionId
      validateAppliedEventBinding D db record transactionId resultSha256
    | .staged | .attested | .ready | .conflicted | .expired | .failed =>
      .error (storeError "Committed apply recovery state is invalid.")

def markApplied (D : Digests δ) (artifacts : Option (AttestationRow δ → Bool))
    (db : Database δ) (workflowId : String) (transactionId resultSha256 : δ) (now : Time) :
    Except StoreError (Database δ × Answer δ) := do
  let record ← selectedRecord D artifacts db workflowId now
  checkClock record now
  validateMarkBinding D artifacts db record transactionId resultSha256
  if record.status = .applied then do
    check (record.applyTransactionId = some transactionId ∧
        record.resultSha256 = some resultSha256)
      (storeError "Applied workflow result binding changed.")
    pure (db, .record record true)
  else do
    check (record.status = .applying ∧ record.applyTransactionId = some transactionId)
      (storeError "Workflow apply transaction is invalid.")
    let db := db.setWorkflow workflowId (·.appliedWith resultSha256 now)
    let db ← appendEvent D db workflowId (.applied transactionId)
      (.candidateApplied transactionId resultSha256) now
    let selected ← selectedRecord D artifacts db workflowId now
    pure (db, .record selected false)

def recoveredStatus (record : WorkflowRecord δ) (now : Time) : Status :=
  if record.binding.expiresAt < now then .expired else desiredStatus record now

/-- `SET status = ?, apply_transaction_id = NULL, ...`. -/
def WorkflowRow.recoveredWith (r : WorkflowRow δ) (status : Status) (now : Time) :
    WorkflowRow δ :=
  { r with status, applyTransactionId := none, updatedAt := now, lastWallTime := now }

/-- What `_reset_after_recovery` checks first when it reads no artifacts. -/
def validateResetBinding (D : Digests δ) (artifacts : Option (AttestationRow δ → Bool))
    (db : Database δ) (record : WorkflowRecord δ) : Except StoreError Unit :=
  if artifacts.isSome then pure () else validateApplyingRecoveryBinding D db record

def resetAfterRecovery (D : Digests δ) (artifacts : Option (AttestationRow δ → Bool))
    (db : Database δ) (workflowId : String) (transactionId : δ) (now : Time) :
    Except StoreError (Database δ × Answer δ) := do
  let record ← selectedRecord D artifacts db workflowId now
  checkClock record now
  validateResetBinding D artifacts db record
  match Table.lookup RecoveryRow.transactionId db.recoveries transactionId with
  | some existing => do
    check (existing.workflowId = workflowId)
      (storeError "Workflow recovery transaction binding is invalid.")
    -- The refresh leaves an applying or an applied workflow alone.
    let (db, record) ← refreshAttestationStatus D artifacts db record now
    pure (db, .record record true)
  | none => do
    check (record.status = .applying ∧ record.applyTransactionId = some transactionId)
      (storeError "Workflow recovery transaction is invalid.")
    let status := recoveredStatus record now
    let recovery : RecoveryRow δ := ⟨transactionId, workflowId, now⟩
    let db := { db with recoveries := db.recoveries ++ [recovery] }
    let db := db.setWorkflow workflowId (·.recoveredWith status now)
    let db ← appendEvent D db workflowId (.recovered transactionId)
      (.applyRecovered transactionId status) now
    let selected ← selectedRecord D artifacts db workflowId now
    pure (db, .record selected false)

/-- `UPDATE workflows SET apply_transaction_id = NULL`. -/
def WorkflowRow.released (r : WorkflowRow δ) : WorkflowRow δ :=
  { r with applyTransactionId := none }

def markConflicted (D : Digests δ) (artifacts : AttestationRow δ → Bool) (db : Database δ)
    (workflowId reason : String) (now : Time) : Except StoreError (Database δ × Answer δ) := do
  check (reason ≠ "") (storeError "Conflict reason is invalid.")
  let record ← selectedRecord D (some artifacts) db workflowId now
  checkClock record now
  check (record.status ≠ .applied) (storeError "Applied workflow cannot become conflicted.")
  if record.status = .conflicted then do
    let selected ← selectedRecord D (some artifacts) db workflowId now
    pure (db, .record selected false)
  else do
    -- A workflow without a transaction is released too, to the same effect.
    let db ← transition D (db.setWorkflow workflowId WorkflowRow.released) workflowId .conflicted
      (.conflict (D.ofText reason)) (.sourceDriftDetected (D.ofText reason)) now
    let selected ← selectedRecord D (some artifacts) db workflowId now
    pure (db, .record selected false)

def readApplyingRecovery (D : Digests δ) (db : Database δ) (workflowId : String) (now : Time) :
    Except StoreError (Answer δ) := do
  let record ← selectedRecord D none db workflowId now
  checkClock record now
  if record.status ≠ .applying then pure .nothing
  else do
    validateApplyingRecoveryBinding D db record
    pure (.record record false)

def validateRecoveryRow (db : Database δ) (workflowId : String) (transactionId : δ) :
    Except StoreError Unit :=
  check (∃ recovery ∈ Table.lookup RecoveryRow.transactionId db.recoveries transactionId,
      recovery.workflowId = workflowId)
    (storeError "Workflow recovery transaction binding is invalid.")

def readRecoveredCleanup (D : Digests δ) (db : Database δ) (workflowId : String) (now : Time) :
    Except StoreError (Answer δ) := do
  let record ← selectedRecord D none db workflowId now
  checkClock record now
  match record.recoveredTransactionId with
  | none => pure .nothing
  | some transactionId =>
    if record.status = .applying then pure .nothing
    else do
      validateRecoveryRow db workflowId transactionId
      validateRecoveryTransactionBinding D db record transactionId
      if record.binding.expiresAt < now ∧ record.status ≠ .expired then do
        let expired ← WorkflowRecord.construct { record with status := .expired }
        pure (.cleanup expired transactionId)
      else pure (.cleanup record transactionId)

def readAppliedCleanup (D : Digests δ) (db : Database δ) (workflowId : String) (now : Time) :
    Except StoreError (Answer δ) := do
  let record ← selectedRecord D none db workflowId now
  checkClock record now
  match record.status, record.applyTransactionId, record.resultSha256 with
  | .applied, some transactionId, some resultSha256 => do
    validateRecoveryTransactionBinding D db record transactionId
    validateAppliedEventBinding D db record transactionId resultSha256
    pure (.record record false)
  | _, _, _ => pure .nothing

/-! ## The machine -/

def perform (D : Digests δ) (db : Database δ) (c : Call δ) :
    Except StoreError (Database δ × Answer δ) := do
  wallTime c.now
  match c.request with
  | .createWorkflow binding challenge key root =>
    createWorkflow D c.artifacts db binding challenge key root c.now
  | .findWorkflow workflowId => findWorkflow D c.artifacts db workflowId c.now
  | .getWorkflow workflowId => getWorkflow D c.artifacts db workflowId c.now
  | .listWorkflows limit => listWorkflows D c.artifacts db limit c.now
  | .recordVerifiedAttestation workflowId attestation bindingSha256 =>
    recordVerifiedAttestation D c.artifacts db workflowId attestation bindingSha256 c.now
  | .issueResumePlan workflowId key ttl =>
    issueResumePlan D c.artifacts db workflowId key ttl c.now
  | .consumeResumeConfirmation workflowId planId confirmationId bindingSha256 =>
    consumeResumeConfirmation D c.artifacts db workflowId planId confirmationId bindingSha256
      c.now
  | .markApplied workflowId transactionId result =>
    markApplied D (some c.artifacts) db workflowId transactionId result c.now
  | .markAppliedAfterCommittedRecovery workflowId transactionId result =>
    markApplied D none db workflowId transactionId result c.now
  | .resetAfterRecovery workflowId transactionId =>
    resetAfterRecovery D (some c.artifacts) db workflowId transactionId c.now
  | .resetApplyingAfterRecovery workflowId transactionId =>
    resetAfterRecovery D none db workflowId transactionId c.now
  | .markConflicted workflowId reason => markConflicted D c.artifacts db workflowId reason c.now
  | .readApplyingRecovery workflowId => do
    let answer ← readApplyingRecovery D db workflowId c.now
    pure (db, answer)
  | .readRecoveredCleanup workflowId => do
    let answer ← readRecoveredCleanup D db workflowId c.now
    pure (db, answer)
  | .readAppliedCleanup workflowId => do
    let answer ← readAppliedCleanup D db workflowId c.now
    pure (db, answer)

/-- The store: a call that raises leaves the tables as they were. -/
def store (D : Digests δ) : Machine (Database δ) (Call δ) (Except StoreError (Answer δ)) where
  init := Database.empty δ
  step db c :=
    match perform D db c with
    | .ok (db', answer) => (.ok answer, db')
    | .error e => (.error e, db)

end LocalMoe.Workflow
