/-
  The manifest as a document, and how the runtime reads it.
-/
import LocalMoe.Promotion.Guarantee
import LocalMoe.Canary.Decision

namespace LocalMoe.Promotion

open Foundation Contracts Canary Paired

variable {F : Floats}

/-! ## Payloads -/

/-- The values of a payload.  A timestamp is the instant that its text stands for. -/
inductive Value (F : Floats) where
  | null
  | bool (value : Bool)
  | int (value : Int)
  | float (value : F.Float)
  | text (value : String)
  | time (value : Instant)
  | list (items : List (Value F))
  | object (fields : List (String × Value F))

namespace Value

def optional : Option String → Value F
  | none => .null
  | some value => .text value

def IsText (expected : String) : Value F → Prop
  | .text value => value = expected
  | _ => False

/-- A value is `True`, and is `False`. -/
def IsTrue : Value F → Prop
  | .bool true => True
  | _ => False

def IsFalse : Value F → Prop
  | .bool false => True
  | _ => False

instance (expected : String) (v : Value F) : Decidable (v.IsText expected) := by
  cases v <;> unfold IsText <;> infer_instance

instance (v : Value F) : Decidable v.IsTrue := by
  rcases v with _ | (_ | _) | _ | _ | _ | _ | _ | _ <;> unfold IsTrue <;> infer_instance

instance (v : Value F) : Decidable v.IsFalse := by
  rcases v with _ | (_ | _) | _ | _ | _ | _ | _ | _ <;> unfold IsFalse <;> infer_instance

/-- `str(value or "")`, of the values that are texts. -/
def asText : Value F → String
  | .text value => value
  | _ => ""

/-- `float(value)` of a finite float. -/
def asNumber : Value F → Option (F.Float × ℚ)
  | .float x =>
    match F.value x with
    | ⊤ => none
    | (q : ℚ) => some (x, q)
  | _ => none

/-- `int(value)` of an integer that is not negative. -/
def asNat : Value F → Option Nat
  | .int (.ofNat n) => some n
  | _ => none

def asTime : Value F → Option Instant
  | .time t => some (wholeSeconds t)
  | _ => none

def asTexts : Value F → Option (List String)
  | .list items => some (items.map asText)
  | _ => none

def fields : Value F → Option (List (String × Value F))
  | .object fields => some fields
  | _ => none

def get (fields : List (String × Value F)) (key : String) : Value F :=
  (fields.lookup key).getD .null

end Value

/-- `sha256_json` of payloads and of reports. -/
structure Documents (F : Floats) where
  sha256Json : Value F → String
  reportSha256 : Report F → String
  isSha256_sha256Json : ∀ v, isSha256 (sha256Json v) = true
  isSha256_reportSha256 : ∀ r, isSha256 (reportSha256 r) = true

/-! ## The producer

The fields are written in the order of their keys, as `sha256_json` sorts them. -/

def CellReport.payload (c : CellReport F) : Value F :=
  .object [("baseline_route", .text c.key.baselineRoute.name),
    ("candidate_route", .text c.key.candidateRoute.name),
    ("candidate_success_ci_lower", .float c.candidateSuccessCiLower),
    ("candidate_success_rate", .float c.candidateSuccessRate),
    ("capabilities", .list (c.key.capabilities.map .text)),
    ("config_sha256", .text c.key.configSha256), ("difficulty", .text c.key.difficulty.name),
    ("paired_tasks", .int c.pairedTasks), ("profile", .text c.key.profile),
    ("runtime_plan_sha256", .text c.key.runtimePlanSha256),
    ("signal_provider_config_sha256", .text c.key.signalProviderConfigSha256)]

def Manifest.lineageFields (m : Manifest F) (d : Documents F) : List (String × Value F) :=
  [("attestation_policy_sha256", .optional m.attestationPolicySha256),
    ("evaluator_sha256", .text m.evaluatorSha256),
    ("execution_harness_sha256", .optional m.executionHarnessSha256),
    ("gate_policy_digest", .text m.gatePolicyDigest),
    ("paired_attestation_verifier_sha256", .optional m.pairedAttestationVerifierSha256),
    ("paired_proof_set_sha256", .text m.pairedProofSetSha256),
    ("plan_sha256", .text m.planSha256), ("pricing_sha256", .optional m.pricingSha256),
    ("report_sha256", .text (d.reportSha256 m.report)),
    ("route_policy_digest", .text m.routePolicyDigest),
    ("runner_source_sha256", .optional m.runnerSourceSha256),
    ("scorecard_digest", .text m.scorecardDigest),
    ("training_source_digest", .text m.trainingSourceDigest)]

def invariantFields : List String :=
  ["monotone_less_premium_only", "privacy_budget_and_capability_guards_preserved",
    "runtime_integration_required_before_application",
    "trusted_signature_required_before_runtime_consumption"]

/-- The fields around the ones that a manifest sets. -/
def contentFields (notBefore expiresAt evidenceValidUntil : Instant) (canaryBasisPoints : Nat)
    (assignmentSaltSha256 : String) (lineage : List (String × Value F)) (cells : List (Value F)) :
    List (String × Value F) :=
  [("applied", .bool false), ("assignment_salt_sha256", .text assignmentSaltSha256),
    ("authority", .text "structural_eligibility_only"),
    ("canary_basis_points", .int canaryBasisPoints),
    ("contract", .text "VerifiedRoutingCanaryManifest"), ("current_mode", .text "shadow"),
    ("enabled_cells", .list cells), ("evidence_valid_until", .time evidenceValidUntil),
    ("expires_at", .time expiresAt),
    ("invariants", .object (invariantFields.map fun name => (name, .bool true))),
    ("lineage", .object lineage), ("not_before", .time notBefore),
    ("producer_authenticity", .text "not_attested"), ("schema_version", .text contractVersion),
    ("target_mode", .text "canary")]

def Manifest.contentFields (m : Manifest F) (d : Documents F) : List (String × Value F) :=
  Promotion.contentFields m.notBefore m.expiresAt m.evidenceValidUntil m.canaryBasisPoints
    m.assignmentSaltSha256 (m.lineageFields d) (m.enabledCells.map CellReport.payload)

def Manifest.payload (m : Manifest F) (d : Documents F) : Value F :=
  .object (m.contentFields d ++
    [("manifest_sha256", .text (d.sha256Json (.object (m.contentFields d))))])

/-! ## The reader -/

/-- `CanaryCell`, as the reader keeps it. -/
structure ReadCell (F : Floats) where
  key : CellKey
  pairedTasks : Nat
  candidateSuccessRate : F.Float
  candidateSuccessCiLower : F.Float

def ReadCell.payload (c : ReadCell F) : Value F :=
  CellReport.payload ⟨c.key, c.pairedTasks, c.candidateSuccessRate, c.candidateSuccessCiLower,
    true, 0, [], true⟩

/-- `VerifiedRoutingCanaryManifest`, as the reader keeps it. -/
structure ReadManifest (F : Floats) where
  notBefore : Instant
  expiresAt : Instant
  evidenceValidUntil : Instant
  canaryBasisPoints : Nat
  assignmentSaltSha256 : String
  lineage : List (String × Value F)
  enabledCells : List (ReadCell F)
  manifestSha256 : String

def ReadManifest.contentFields (m : ReadManifest F) : List (String × Value F) :=
  Promotion.contentFields m.notBefore m.expiresAt m.evidenceValidUntil m.canaryBasisPoints
    m.assignmentSaltSha256 m.lineage (m.enabledCells.map ReadCell.payload)

def ReadManifest.payload (m : ReadManifest F) : Value F :=
  .object (m.contentFields ++ [("manifest_sha256", .text m.manifestSha256)])

def cellFields : List String :=
  ["profile", "capabilities", "difficulty", "baseline_route", "candidate_route", "config_sha256",
    "signal_provider_config_sha256", "runtime_plan_sha256", "paired_tasks",
    "candidate_success_rate", "candidate_success_ci_lower"]

def lineageRequiredFields : List String :=
  ["plan_sha256", "report_sha256", "gate_policy_digest", "route_policy_digest",
    "scorecard_digest", "training_source_digest", "evaluator_sha256"]

def lineageAllowedFields : List String :=
  lineageRequiredFields ++ ["pricing_sha256", "attestation_policy_sha256",
    "execution_harness_sha256", "runner_source_sha256", "paired_attestation_verifier_sha256",
    "paired_proof_set_sha256"]

def manifestFields : List String :=
  ["schema_version", "contract", "current_mode", "target_mode", "authority",
    "producer_authenticity", "applied", "not_before", "expires_at", "evidence_valid_until",
    "canary_basis_points", "assignment_salt_sha256", "lineage", "enabled_cells", "invariants",
    "manifest_sha256"]

/-- `_reject_unknown`, and that no field is missing. -/
def requireExactFields (fields : List (String × Value F)) (allowed : List String)
    (label missing : String) : Except ContractError Unit := do
  check (∀ f ∈ fields, f.1 ∈ allowed) (⟨"Unknown " ++ label ++ " fields."⟩ : ContractError)
  check (∀ key ∈ allowed, key ∈ fields.map Prod.fst) (⟨missing⟩ : ContractError)

/-- `require_finite_number`, between 0 and 1. -/
def requireRate (value : Value F) (label : String) : Except ContractError (F.Float × ℚ) := do
  let number ← require value.asNumber (label ++ " must be numeric.")
  check (0 ≤ number.2) (⟨label ++ " must be >= 0.0."⟩ : ContractError)
  check (number.2 ≤ 1) (⟨label ++ " must be <= 1.0."⟩ : ContractError)
  pure number

/-- `CanaryCell(**cell)`. -/
def readCell (value : Value F) : Except ContractError (ReadCell F) := do
  let fields ← require value.fields "canary cell must be an object with string keys."
  requireExactFields fields cellFields "canary cell" "Canary cell is incomplete."
  let profile ← requireSafeId (Value.get fields "profile").asText "profile"
  let texts ← require (Value.get fields "capabilities").asTexts "capabilities must be a list."
  let capabilities ← requireSafeIds "capabilities" texts
  check capabilities.Nodup (⟨"capabilities must not contain duplicates."⟩ : ContractError)
  let difficulty ← require (Difficulty.ofName (Value.get fields "difficulty").asText)
    "Canary cell difficulty is unsupported."
  let baseline ← require (RoutePlan.ofName (Value.get fields "baseline_route").asText)
    "Canary cell route is unsupported."
  let candidate ← require (RoutePlan.ofName (Value.get fields "candidate_route").asText)
    "Canary cell route is unsupported."
  check (candidate.rank < baseline.rank)
    (⟨"Canary cells must move monotonically toward less premium use."⟩ : ContractError)
  let config ← requireSha256 (Value.get fields "config_sha256").asText "config_sha256"
  let signals ← requireSha256 (Value.get fields "signal_provider_config_sha256").asText
    "signal_provider_config_sha256"
  let runtime ← requireSha256 (Value.get fields "runtime_plan_sha256").asText
    "runtime_plan_sha256"
  let paired ← require (Value.get fields "paired_tasks").asNat
    "paired_tasks must be an integer."
  check (0 < paired) (⟨"Canary cells require paired evidence."⟩ : ContractError)
  let success ← requireRate (Value.get fields "candidate_success_rate") "candidate_success_rate"
  let lower ← requireRate (Value.get fields "candidate_success_ci_lower")
    "candidate_success_ci_lower"
  check (lower.2 ≤ success.2)
    (⟨"Canary confidence lower bound exceeds the observed rate."⟩ : ContractError)
  pure ⟨⟨profile, capabilities.insertionSort (· ≤ ·), difficulty, baseline, candidate, config,
    signals, runtime⟩, paired, success.1, lower.1⟩

/-- The constructor of `VerifiedRoutingCanaryManifest`. -/
def ReadManifest.make (fields lineage : List (String × Value F)) (cells : List (ReadCell F)) :
    Except ContractError (ReadManifest F) := do
  let notBefore ← require (Value.get fields "not_before").asTime
    "not_before must be an ISO-8601 timestamp."
  let expiresAt ← require (Value.get fields "expires_at").asTime
    "expires_at must be an ISO-8601 timestamp."
  let evidenceValidUntil ← require (Value.get fields "evidence_valid_until").asTime
    "evidence_valid_until must be an ISO-8601 timestamp."
  check (notBefore < expiresAt)
    (⟨"Canary manifest time window is invalid."⟩ : ContractError)
  check (expiresAt ≤ evidenceValidUntil)
    (⟨"Canary manifest outlives its evidence."⟩ : ContractError)
  let basisPoints ← require (Value.get fields "canary_basis_points").asNat
    "canary_basis_points must be an integer."
  check (0 < basisPoints ∧ basisPoints ≤ maxCanaryBasisPoints)
    (⟨"Canary size is outside the runtime safety cap."⟩ : ContractError)
  let salt ← requireSha256 (Value.get fields "assignment_salt_sha256").asText
    "assignment_salt_sha256"
  check (∀ f ∈ lineage, f.1 ∈ lineageAllowedFields)
    (⟨"Unknown canary lineage fields."⟩ : ContractError)
  check (∀ key ∈ lineageRequiredFields, key ∈ lineage.map Prod.fst)
    (⟨"Canary lineage is incomplete."⟩ : ContractError)
  check (∀ f ∈ lineage, isSha256 f.2.asText = true)
    (⟨"lineage must be lowercase SHA-256 digests."⟩ : ContractError)
  check (cells ≠ []) (⟨"Canary manifest enabled_cells are invalid."⟩ : ContractError)
  check (cells.map ReadCell.key).Nodup
    (⟨"Canary manifest repeats an enabled cell."⟩ : ContractError)
  let digest ← requireSha256 (Value.get fields "manifest_sha256").asText "manifest_sha256"
  pure ⟨notBefore, expiresAt, evidenceValidUntil, basisPoints, salt, lineage, cells, digest⟩

def ReadManifest.fromPayload (d : Documents F) (raw : Value F) :
    Except ContractError (ReadManifest F) := do
  let fields ← require raw.fields "canary manifest must be an object with string keys."
  requireExactFields fields manifestFields "canary manifest" "Canary manifest is incomplete."
  check ((Value.get fields "schema_version").IsText contractVersion ∧
      (Value.get fields "contract").IsText "VerifiedRoutingCanaryManifest" ∧
      (Value.get fields "current_mode").IsText "shadow" ∧
      (Value.get fields "target_mode").IsText "canary" ∧
      (Value.get fields "authority").IsText "structural_eligibility_only" ∧
      (Value.get fields "producer_authenticity").IsText "not_attested" ∧
      (Value.get fields "applied").IsFalse)
    (⟨"Canary manifest authority contract is invalid."⟩ : ContractError)
  let invariants ← require (Value.get fields "invariants").fields
    "canary invariants must be an object with string keys."
  requireExactFields invariants invariantFields "canary invariants"
    "Canary manifest invariants are not preserved."
  check (∀ name ∈ invariantFields, (Value.get invariants name).IsTrue)
    (⟨"Canary manifest invariants are not preserved."⟩ : ContractError)
  let items ←
    match Value.get fields "enabled_cells" with
    | .list items => pure items
    | _ => .error ⟨"Canary enabled_cells must be a list."⟩
  let cells ← items.mapM readCell
  let lineage ← require (Value.get fields "lineage").fields
    "canary lineage must be an object with string keys."
  let manifest ← ReadManifest.make fields lineage cells
  check (d.sha256Json (.object manifest.contentFields) = manifest.manifestSha256)
    (⟨"Canary manifest digest is invalid."⟩ : ContractError)
  pure manifest

end LocalMoe.Promotion
