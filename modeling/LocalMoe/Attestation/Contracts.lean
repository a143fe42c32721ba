/-
  `assistant_bridge_two_phase_contracts.py`: the candidate binding with its policy, and
  `build_attestation_statement`.
-/
import LocalMoe.Foundation.Checked
import LocalMoe.Attestation.Document

namespace LocalMoe.Attestation

open Foundation
open Contracts (isSha256 isAlnum)

/-- The errors that leave the module, with their messages. -/
inductive Failure where
  /-- `AttestationVerificationError`. -/
  | verification (message : String)
  /-- `TwoPhaseContractError`. -/
  | contract (message : String)
  /-- `IntegrityContractError`. -/
  | integrity
  deriving DecidableEq, Repr

/-! ## Fields -/

def isSafeId (s : String) : Bool :=
  match s.toList with
  | [] => false
  | c :: rest =>
    isAlnum c && rest.length ≤ 127 &&
      rest.all fun d => isAlnum d || ['.', '_', '-'].contains d

/-- A text that has a form, or the error that names the field. -/
def requireText (form : String → Bool) (complaint : String) (value : Option Document)
    (label : String) : Except Failure String :=
  match value with
  | some (.text s) => if form s then .ok s else .error (.contract (label ++ complaint))
  | _ => .error (.contract (label ++ complaint))

def requireSafeId : Option Document → String → Except Failure String :=
  requireText isSafeId " must be a safe identifier."

def requireSha256 : Option Document → String → Except Failure String :=
  requireText isSha256 " must be a lowercase SHA-256 digest."

variable {value : Option Document}

theorem requireText_eq_ok {form : String → Bool} {complaint : String} {label s : String} :
    requireText form complaint value label = .ok s ↔ value = some (.text s) ∧ form s = true := by
  unfold requireText
  split
  · next t =>
    by_cases ht : form t = true
    · rw [if_pos ht]
      constructor
      · rintro ⟨⟩
        exact ⟨rfl, ht⟩
      · rintro ⟨⟨⟩, -⟩
        rfl
    · rw [if_neg ht]
      constructor
      · rintro ⟨⟩
      · rintro ⟨⟨⟩, hs⟩
        exact absurd hs ht
  · next hvalue =>
    constructor
    · rintro ⟨⟩
    · rintro ⟨rfl, -⟩
      exact absurd rfl (hvalue s)

theorem requireSafeId_eq_ok {label s : String} :
    requireSafeId value label = .ok s ↔ value = some (.text s) ∧ isSafeId s = true :=
  requireText_eq_ok

theorem requireSha256_eq_ok {label s : String} :
    requireSha256 value label = .ok s ↔ value = some (.text s) ∧ isSha256 s = true :=
  requireText_eq_ok

/-! ## Records -/

/-- `ArtifactDescriptor`; the syntax of a media type is not read here. -/
structure ArtifactDescriptor where
  mediaType : String
  sha256 : String
  sizeBytes : Nat
  digest : isSha256 sha256 = true
  bounded : sizeBytes ≤ 2 ^ 63 - 1
  deriving DecidableEq

def ArtifactDescriptor.payload (d : ArtifactDescriptor) : Document :=
  .dict [("digest", .dict [("sha256", .text d.sha256)]), ("mediaType", .text d.mediaType),
    ("sizeBytes", .num d.sizeBytes)]

structure VerifierRequirement where
  verifierId : String
  adapterId : String
  keyId : String
  publicKeySha256 : String
  specSha256 : String
  safeVerifier : isSafeId verifierId = true
  safeAdapter : isSafeId adapterId = true
  safeKey : isSafeId keyId = true
  publicKeyDigest : isSha256 publicKeySha256 = true
  specDigest : isSha256 specSha256 = true
  deriving DecidableEq

def VerifierRequirement.payload (r : VerifierRequirement) : Document :=
  .dict [("adapterId", .text r.adapterId), ("keyId", .text r.keyId),
    ("publicKeySha256", .text r.publicKeySha256), ("specSha256", .text r.specSha256),
    ("verifierId", .text r.verifierId)]

structure VerificationPolicy where
  policyId : String
  quorum : Nat
  verifiers : List VerifierRequirement
  safe : isSafeId policyId = true
  ordered : (verifiers.map VerifierRequirement.verifierId).Pairwise (· < ·)
  keysApart : (verifiers.map fun r => (r.adapterId, r.keyId)).Nodup
  publicKeysApart : (verifiers.map VerifierRequirement.publicKeySha256).Nodup
  positive : 1 ≤ quorum
  within : quorum ≤ verifiers.length

def VerificationPolicy.payload (p : VerificationPolicy) : Document :=
  .dict [("policyId", .text p.policyId), ("quorum", .num p.quorum),
    ("verifiers", .list (p.verifiers.map VerifierRequirement.payload))]

def VerificationPolicy.requirement (p : VerificationPolicy) (verifierId : String) :
    Except Failure VerifierRequirement :=
  match p.verifiers.find? fun r => r.verifierId = verifierId with
  | some r => .ok r
  | none => .error (.contract "Verifier is not trusted by this workflow.")

structure CandidateBinding where
  workflowId : String
  stageIdempotencySha256 : String
  taskFingerprint : String
  configSha256 : String
  sourceFingerprint : String
  challengeSha256 : String
  manifest : ArtifactDescriptor
  changeset : ArtifactDescriptor
  verificationPolicy : VerificationPolicy
  createdAt : ℚ
  expiresAt : ℚ
  safe : isSafeId workflowId = true
  digests : ∀ s ∈ [stageIdempotencySha256, taskFingerprint, configSha256, sourceFingerprint,
    challengeSha256], isSha256 s = true
  nonneg : 0 ≤ createdAt
  lifetime : createdAt < expiresAt

structure AttestationCheck where
  checkId : String
  passed : Bool
  evidenceSha256 : String
  safe : isSafeId checkId = true
  digest : isSha256 evidenceSha256 = true
  deriving DecidableEq

def AttestationCheck.payload (c : AttestationCheck) : Document :=
  .dict [("evidenceSha256", .text c.evidenceSha256), ("id", .text c.checkId),
    ("passed", .bool c.passed)]

/-! ## Statements -/

def twoPhaseSchemaVersion : String := "1.0"

def dssePayloadType : String := "application/vnd.in-toto+json"

def inTotoStatementV1 : String := "https://in-toto.io/Statement/v1"

def independentPredicateV1 : String :=
  "https://github.com/aantenore/myMoE/tree/main/docs/spec/independent-candidate-attestation/v1"

section Derived

variable {β κ : Type} (L : Library β κ)

def canonicalSha256 (document : Document) : Except Failure String :=
  match L.canonical document with
  | some bytes => .ok (L.sha256 bytes)
  | none => .error .integrity

def VerificationPolicy.policySha256 (p : VerificationPolicy) : Except Failure String :=
  canonicalSha256 L p.payload

def CandidateBinding.candidateContentSha256 (b : CandidateBinding) : Except Failure String :=
  canonicalSha256 L (.dict [("changeset", b.changeset.payload),
    ("derivation", .text "mymoe-candidate-content/v1"), ("manifest", b.manifest.payload)])

def CandidateBinding.candidateFingerprint (b : CandidateBinding) : Except Failure String := do
  let content ← b.candidateContentSha256 L
  let policy ← b.verificationPolicy.policySha256 L
  canonicalSha256 L (.dict [("candidateContentSha256", .text content),
    ("configSha256", .text b.configSha256),
    ("derivation", .text "mymoe-candidate-binding/v1"),
    ("sourceFingerprint", .text b.sourceFingerprint),
    ("taskFingerprint", .text b.taskFingerprint),
    ("verificationPolicy", b.verificationPolicy.payload),
    ("verificationPolicySha256", .text policy)])

/-- The object of `CandidateBinding.payload`, from the three digests it derives. -/
def CandidateBinding.document (b : CandidateBinding) (content fingerprint policy : String) :
    Document :=
  .dict [("candidateContentSha256", .text content), ("candidateFingerprint", .text fingerprint),
    ("challengeSha256", .text b.challengeSha256), ("changeset", b.changeset.payload),
    ("configSha256", .text b.configSha256), ("createdAt", .num b.createdAt),
    ("expiresAt", .num b.expiresAt), ("manifest", b.manifest.payload),
    ("schemaVersion", .text twoPhaseSchemaVersion),
    ("sourceFingerprint", .text b.sourceFingerprint),
    ("stageIdempotencySha256", .text b.stageIdempotencySha256),
    ("taskFingerprint", .text b.taskFingerprint),
    ("verificationPolicy", b.verificationPolicy.payload),
    ("verificationPolicySha256", .text policy), ("workflowId", .text b.workflowId)]

def CandidateBinding.payload (b : CandidateBinding) : Except Failure Document := do
  let content ← b.candidateContentSha256 L
  let fingerprint ← b.candidateFingerprint L
  let policy ← b.verificationPolicy.policySha256 L
  return b.document content fingerprint policy

def CandidateBinding.bindingSha256 (b : CandidateBinding) : Except Failure String := do
  canonicalSha256 L (← b.payload L)

def subjectOf (b : CandidateBinding) (fingerprint : String) : Document :=
  .list [.dict [("digest", .dict [("sha256", .text fingerprint)]),
    ("name", .text ("urn:mymoe:candidate:" ++ b.workflowId))]]

/-- The object under `attestation`. -/
def metadataOf (r : VerifierRequirement) (policy attestationId : String) (issued expires : ℚ) :
    List (String × Document) :=
  [("adapterId", .text r.adapterId), ("attestationId", .text attestationId),
    ("expiresAt", .num expires), ("issuedAt", .num issued), ("keyId", .text r.keyId),
    ("publicKeySha256", .text r.publicKeySha256), ("specSha256", .text r.specSha256),
    ("trustPolicySha256", .text policy), ("verifierId", .text r.verifierId)]

/-- The object under `outcome`. -/
def outcomeOf (checks : List AttestationCheck) : List (String × Document) :=
  [("checks", .list (checks.map AttestationCheck.payload)),
    ("passed", .bool (checks.all (·.passed)))]

def statementOf (subject binding : Document) (bindingSha256 : String)
    (metadata outcome : List (String × Document)) : List (String × Document) :=
  [("_type", .text inTotoStatementV1),
    ("predicate", .dict [("attestation", .dict metadata), ("binding", binding),
      ("bindingSha256", .text bindingSha256), ("outcome", .dict outcome),
      ("schemaVersion", .text twoPhaseSchemaVersion)]),
    ("predicateType", .text independentPredicateV1), ("subject", subject)]

def buildAttestationStatement (b : CandidateBinding) (r : VerifierRequirement)
    (attestationId : String) (issuedAt expiresAt : ℚ) (checks : List AttestationCheck) :
    Except Failure (List (String × Document)) := do
  let _ ← requireSafeId (some (.text attestationId)) "attestation_id"
  check (0 ≤ issuedAt) (.contract "attestation issued_at must be a finite timestamp.")
  check (0 ≤ expiresAt) (.contract "attestation expires_at must be a finite timestamp.")
  check (issuedAt < expiresAt ∧ b.createdAt ≤ issuedAt ∧ expiresAt ≤ b.expiresAt)
    (.contract "Attestation lifetime is outside the workflow.")
  let ordered := checks.mergeSort fun c d => c.checkId ≤ d.checkId
  check (ordered ≠ [] ∧ (ordered.map AttestationCheck.checkId).Nodup)
    (.contract "Attestation checks must be non-empty and unique.")
  let fingerprint ← b.candidateFingerprint L
  let payload ← b.payload L
  let bindingSha256 ← b.bindingSha256 L
  let policy ← b.verificationPolicy.policySha256 L
  return statementOf (subjectOf b fingerprint) payload bindingSha256
    (metadataOf r policy attestationId issuedAt expiresAt) (outcomeOf ordered)

end Derived

end LocalMoe.Attestation
