/-
  `assistant_bridge_attestation.py`: from the bytes of an envelope to an attestation.
-/
import LocalMoe.Attestation.Contracts

namespace LocalMoe.Attestation

open Foundation

variable {β κ : Type} (L : Library β κ)

def ed25519DsseAdapterId : String := "dsse-ed25519-v1"

def maxEnvelopeBytes : Nat := 8 * 1024 * 1024

def refuse (message : String) : Failure := .verification message

/-- `raise AttestationVerificationError(str(exc)) from exc`, on a `TwoPhaseContractError`. -/
def Failure.rewrap : Failure → Failure
  | .contract message => .verification message
  | other => other

/-! ## Envelopes -/

def dssePae (payloadType : String) (payload : β) : β :=
  L.append (L.ascii ("DSSEv1 " ++ toString payloadType.length ++ " " ++ payloadType ++ " " ++
    toString (L.length payload) ++ " ")) payload

def timestamp (value : Option Document) : Except Failure ℚ :=
  match value with
  | some (.num q) =>
    if q < 0 then .error (refuse "Attestation timestamp is invalid.") else .ok q
  | _ => .error (refuse "Attestation timestamp is invalid.")

def decodeBase64 (value : Document) (label : String) : Except Failure β :=
  match value with
  | .text t =>
    match L.b64decode t with
    | some bytes => .ok bytes
    | none => .error (refuse ("Attestation " ++ label ++ " is not strict base64."))
  | _ => .error (refuse ("Attestation " ++ label ++ " is invalid."))

/-- An object, or the given refusal. -/
def entriesOf (value : Option Document) (message : String) :
    Except Failure (List (String × Document)) :=
  match value with
  | some (.dict entries) => .ok entries
  | _ => .error (refuse message)

/-- A document that can be read, or the given refusal. -/
def loadsOr (bytes : β) (message : String) : Except Failure Document :=
  match L.loads bytes with
  | some document => .ok document
  | none => .error (refuse message)

def canonicalJsonBytes (document : Document) : Except Failure β :=
  match L.canonical document with
  | some bytes => .ok bytes
  | none => .error .integrity

/-- The only signature of an envelope. -/
def signatureOf (value : Option Document) : Except Failure Document :=
  match value with
  | some (.list [signature]) => .ok signature
  | _ => .error (refuse "Attestation must contain exactly one verifier signature.")

/-- The text under `sig` in a signature descriptor. -/
def descriptorOf (signature : Document) (expectedKeyId : String) : Except Failure String :=
  match signature with
  | .dict [("keyid", .text keyId), ("sig", .text sig)] =>
    if keyId = expectedKeyId then .ok sig
    else .error (refuse "Attestation signature descriptor is invalid.")
  | _ => .error (refuse "Attestation signature descriptor is invalid.")

/-- `_decode_envelope`: the canonical envelope, the statement's bytes and the statement. -/
def decodeEnvelope [DecidableEq β] (envelope : β) (expectedKeyId : String) :
    Except Failure (β × β × List (String × Document)) := do
  check (0 < L.length envelope ∧ L.length envelope ≤ maxEnvelopeBytes)
    (refuse "Attestation envelope size is invalid.")
  let decoded ← loadsOr L envelope "Attestation envelope is not JSON."
  let entries ← entriesOf (some decoded) "Attestation envelope shape is invalid."
  check (entries.map Prod.fst = ["payload", "payloadType", "signatures"])
    (refuse "Attestation envelope shape is invalid.")
  check (Document.same (Document.field "payloadType" entries) (.text dssePayloadType) = true)
    (refuse "Attestation payload type is invalid.")
  let signature ← signatureOf (Document.field "signatures" entries)
  let _ ← descriptorOf signature expectedKeyId
  let payload ← decodeBase64 L ((Document.field "payload" entries).getD .null) "payload"
  let statement ← loadsOr L payload "Attestation statement is not JSON."
  let fields ← entriesOf (some statement)
    "Attestation statement must use RFC 8785 canonical JSON."
  let canonical ← canonicalJsonBytes L statement
  check (canonical = payload) (refuse "Attestation statement must use RFC 8785 canonical JSON.")
  let canonicalEnvelope ← canonicalJsonBytes L decoded
  return (canonicalEnvelope, payload, fields)

def envelopeSignature (canonicalEnvelope : β) : Except Failure β := do
  let decoded ← loadsOr L canonicalEnvelope "Attestation envelope is not JSON."
  let signature ← signatureOf (decoded.item "signatures")
  decodeBase64 L ((signature.item "sig").getD .null) "signature"

def peekSignedVerifierId (envelope : β) : Except Failure String := do
  check (L.length envelope ≤ maxEnvelopeBytes) (refuse "Attestation envelope size is invalid.")
  let unavailable := "Attestation verifier identity is unavailable."
  let decoded ← loadsOr L envelope unavailable
  match decoded.item "payload" with
  | none => .error (refuse unavailable)
  | some payloadText => do
    let payload ← decodeBase64 L payloadText "payload"
    let statement ← loadsOr L payload unavailable
    match (statement.item "predicate").bind fun predicate =>
        (predicate.item "attestation").bind (·.item "verifierId") with
    | none => .error (refuse unavailable)
    | some verifierId =>
      (requireSafeId (some verifierId) "attestation verifier_id").mapError Failure.rewrap

/-! ## Statements -/

def readCheck (raw : Document) : Except Failure AttestationCheck := do
  let fields ← entriesOf (some raw) "Attestation check shape is invalid."
  check (fields.map Prod.fst = ["evidenceSha256", "id", "passed"])
    (refuse "Attestation check shape is invalid.")
  match hid : requireSafeId (Document.field "id" fields) "attestation check_id" with
  | .error e => .error e.rewrap
  | .ok checkId =>
    match hdigest : requireSha256 (Document.field "evidenceSha256" fields)
        "attestation check evidence_sha256" with
    | .error e => .error e.rewrap
    | .ok evidenceSha256 =>
      match Document.field "passed" fields with
      | some (.bool true) =>
        .ok ⟨checkId, true, evidenceSha256, (requireSafeId_eq_ok.mp hid).2,
          (requireSha256_eq_ok.mp hdigest).2⟩
      | _ => .error (refuse "Attestation contains a failed check.")

def checksOf (outcome : List (String × Document)) : Except Failure (List Document) :=
  match Document.field "passed" outcome, Document.field "checks" outcome with
  | some (.bool true), some (.list (first :: rest)) => .ok (first :: rest)
  | _, _ => .error (refuse "Attestation outcome did not pass.")

def validateStatement (statement : List (String × Document)) (binding : CandidateBinding)
    (requirement : VerifierRequirement) (now : ℚ) : Except Failure (String × ℚ × ℚ) := do
  check (statement.map Prod.fst = ["_type", "predicate", "predicateType", "subject"])
    (refuse "Attestation statement shape is invalid.")
  let fingerprint ← binding.candidateFingerprint L
  check (Document.same (Document.field "_type" statement) (.text inTotoStatementV1) = true ∧
      Document.same (Document.field "predicateType" statement) (.text independentPredicateV1) =
        true ∧
      Document.same (Document.field "subject" statement) (subjectOf binding fingerprint) = true)
    (refuse "Attestation subject binding is invalid.")
  let predicate ← entriesOf (Document.field "predicate" statement)
    "Attestation predicate shape is invalid."
  check (predicate.map Prod.fst =
      ["attestation", "binding", "bindingSha256", "outcome", "schemaVersion"])
    (refuse "Attestation predicate shape is invalid.")
  check (Document.same (Document.field "schemaVersion" predicate) (.text twoPhaseSchemaVersion) =
    true) (refuse "Attestation workflow binding is invalid.")
  let payload ← binding.payload L
  check (Document.same (Document.field "binding" predicate) payload = true)
    (refuse "Attestation workflow binding is invalid.")
  let bindingSha256 ← binding.bindingSha256 L
  check (Document.same (Document.field "bindingSha256" predicate) (.text bindingSha256) = true)
    (refuse "Attestation workflow binding is invalid.")
  let metadata ← entriesOf (Document.field "attestation" predicate)
    "Signed attestation metadata is invalid."
  check (metadata.map Prod.fst = ["adapterId", "attestationId", "expiresAt", "issuedAt", "keyId",
      "publicKeySha256", "specSha256", "trustPolicySha256", "verifierId"])
    (refuse "Signed attestation metadata is invalid.")
  let policy ← binding.verificationPolicy.policySha256 L
  check (∀ p ∈ [("verifierId", requirement.verifierId), ("adapterId", requirement.adapterId),
      ("keyId", requirement.keyId), ("publicKeySha256", requirement.publicKeySha256),
      ("specSha256", requirement.specSha256), ("trustPolicySha256", policy)],
      Document.same (Document.field p.1 metadata) (.text p.2) = true)
    (refuse "Signed verifier identity or trust policy is invalid.")
  let attestationId ← (requireSafeId (Document.field "attestationId" metadata)
    "attestation_id").mapError Failure.rewrap
  let issuedAt ← timestamp (Document.field "issuedAt" metadata)
  let expiresAt ← timestamp (Document.field "expiresAt" metadata)
  check (issuedAt < expiresAt ∧ binding.createdAt ≤ issuedAt ∧ expiresAt ≤ binding.expiresAt ∧
    issuedAt ≤ now ∧ now ≤ expiresAt) (refuse "Independent attestation is not currently valid.")
  let outcome ← entriesOf (Document.field "outcome" predicate)
    "Attestation outcome shape is invalid."
  check (outcome.map Prod.fst = ["checks", "passed"])
    (refuse "Attestation outcome shape is invalid.")
  let raw ← checksOf outcome
  let checks ← raw.mapM readCheck
  let ids := checks.map AttestationCheck.checkId
  check (ids = ids.mergeSort (fun a b => a ≤ b) ∧ ids.Nodup)
    (refuse "Attestation checks must be ordered and unique.")
  let expected ← buildAttestationStatement L binding requirement attestationId issuedAt expiresAt
    checks
  check ((Document.dict statement).datum = (Document.dict expected).datum)
    (refuse "Attestation statement is not canonical.")
  return (attestationId, issuedAt, expiresAt)

/-! ## Verifiers -/

structure IndependentAttestation (β : Type) where
  adapterId : String
  verifierId : String
  keyId : String
  attestationId : String
  statementBytes : β
  envelopeBytes : β
  evidenceSha256 : String
  issuedAt : ℚ
  expiresAt : ℚ

/-- `IndependentAttestation(...)`, of an envelope and its own digest. -/
def IndependentAttestation.make (requirement : VerifierRequirement) (attestationId : String)
    (statementBytes envelopeBytes : β) (issuedAt expiresAt : ℚ) :
    Except Failure (IndependentAttestation β) := do
  let adapterId ← requireSafeId (some (.text requirement.adapterId)) "attestation adapter_id"
  let verifierId ← requireSafeId (some (.text requirement.verifierId)) "attestation verifier_id"
  let keyId ← requireSafeId (some (.text requirement.keyId)) "attestation key_id"
  let attestationId ← requireSafeId (some (.text attestationId)) "attestation_id"
  let evidenceSha256 ← requireSha256 (some (.text (L.sha256 envelopeBytes)))
    "attestation evidence_sha256"
  check (0 ≤ issuedAt) (.contract "attestation issued_at must be a finite timestamp.")
  check (0 ≤ expiresAt) (.contract "attestation expires_at must be a finite timestamp.")
  check (issuedAt < expiresAt) (.contract "Attestation lifetime is invalid.")
  return ⟨adapterId, verifierId, keyId, attestationId, statementBytes, envelopeBytes,
    evidenceSha256, issuedAt, expiresAt⟩

structure TrustedEd25519Verifier where
  requirement : VerifierRequirement
  publicKey : κ
  supported : requirement.adapterId = ed25519DsseAdapterId
  matching : L.ed25519PublicKeySha256 publicKey = requirement.publicKeySha256

def TrustedEd25519Verifier.verify [DecidableEq β] (verifier : TrustedEd25519Verifier L)
    (binding : CandidateBinding) (envelope : β) (now : ℚ) :
    Except Failure (IndependentAttestation β) := do
  let current ← timestamp (some (.num now))
  let (canonicalEnvelope, statementBytes, statement) ←
    decodeEnvelope L envelope verifier.requirement.keyId
  let signature ← envelopeSignature L canonicalEnvelope
  check (L.signed verifier.publicKey (dssePae L dssePayloadType statementBytes) signature = true)
    (refuse "Independent attestation signature is invalid.")
  let (attestationId, issuedAt, expiresAt) ←
    validateStatement L statement binding verifier.requirement current
  IndependentAttestation.make L verifier.requirement attestationId statementBytes
    canonicalEnvelope issuedAt expiresAt

structure AttestationTrustStore where
  verifiers : List (TrustedEd25519Verifier L)
  apart : (verifiers.map fun v => v.requirement.verifierId).Nodup
  nonempty : verifiers ≠ []

def AttestationTrustStore.verify [DecidableEq β] (store : AttestationTrustStore L)
    (binding : CandidateBinding) (envelope : β) (now : ℚ) :
    Except Failure (IndependentAttestation β) := do
  let verifierId ← peekSignedVerifierId L envelope
  match binding.verificationPolicy.requirement verifierId,
      store.verifiers.find? fun v => v.requirement.verifierId = verifierId with
  | .ok requirement, some verifier => do
    check (verifier.requirement = requirement)
      (refuse "Trust-store verifier does not match the signed workflow policy.")
    verifier.verify L binding envelope now
  | _, _ => .error (refuse "Attestation verifier is not trusted by this workflow.")

end LocalMoe.Attestation
