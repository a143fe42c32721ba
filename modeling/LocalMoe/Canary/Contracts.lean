/-
  The contracts of `route_canary.py`: cells, manifests and the authorizations an operator signs.

  A value of these types has passed its constructor, so each check of `__post_init__` is a
  field. Timestamps are kept as the UTC second their text stands for: the constructors write
  them with `isoformat`, and `_timestamp` reads the same second back.
-/
import LocalMoe.Contracts.Jcs
import LocalMoe.Foundation.Checked

namespace LocalMoe.Canary

open Foundation Contracts

/-! ## Routes and difficulties -/

inductive RoutePlan where
  | localOnly | localThenVerify | premium
  deriving DecidableEq, Repr

def RoutePlan.name : RoutePlan → String
  | .localOnly => "local"
  | .localThenVerify => "local_then_verify"
  | .premium => "premium"

def RoutePlan.rank : RoutePlan → Nat
  | .localOnly => 0
  | .localThenVerify => 1
  | .premium => 2

def RoutePlan.ofName (name : String) : Option RoutePlan :=
  [RoutePlan.localOnly, .localThenVerify, .premium].find? fun route => route.name = name

@[simp] theorem RoutePlan.ofName_name (route : RoutePlan) :
    RoutePlan.ofName route.name = some route := by
  cases route <;> decide

inductive Difficulty where
  | simple | medium | complex | veryComplex
  deriving DecidableEq, Repr

def Difficulty.name : Difficulty → String
  | .simple => "simple"
  | .medium => "medium"
  | .complex => "complex"
  | .veryComplex => "very_complex"

def Difficulty.ofName (name : String) : Option Difficulty :=
  [Difficulty.simple, .medium, .complex, .veryComplex].find? fun d => d.name = name

@[simp] theorem Difficulty.ofName_name (d : Difficulty) : Difficulty.ofName d.name = some d := by
  cases d <;> decide

/-! ## Values of a payload -/

/-- `str(value or "")`.  Of a list or an object only the first character is kept, as no
text that is accepted starts with it. -/
def Json.text : Json → String
  | .null | .bool false | .arr [] | .obj [] => ""
  | .bool true => "True"
  | .int value => if value = 0 then "" else toString value
  | .str value => value
  | .arr _ => "["
  | .obj _ => "\x7b"

/-- `require_non_negative_int`.  Numbers too large for a float are not told apart from
others: every caller bounds the value by ten thousand next. -/
def requireNonNegativeInt (value : Json) (label : String) : Except ContractError Nat :=
  let integer? : Option Int :=
    match value with
    | .int n => some n
    | .str s => (strip s).toInt?
    | _ => none
  match integer? with
  | none => .error ⟨label ++ " must be an integer."⟩
  | some n =>
    if 0 ≤ n then .ok n.toNat
    else .error ⟨label ++ " must be a non-negative integer."⟩

/-- The value under a key of an object. -/
def field (fields : List (String × Json)) (key : String) : Json :=
  (fields.lookup key).getD .null

/-- `_reject_unknown` and the check that no field is missing. -/
def requireFields (fields : List (String × Json)) (allowed : List String)
    (label missing : String) : Except ContractError Unit := do
  check (∀ f ∈ fields, f.1 ∈ allowed) (⟨"Unknown " ++ label ++ " fields."⟩ : ContractError)
  check (∀ key ∈ allowed, key ∈ fields.map Prod.fst) (⟨missing⟩ : ContractError)

theorem strip_of_isSafeId {s : String} (h : isSafeId s = true) : strip s = s := by
  apply strip_eq_self
  have halnum : ∀ c, isAlnum c = true → isSpace c = false := by
    intro c hc
    simp only [isAlnum, Bool.or_eq_true, Bool.and_eq_true, decide_eq_true_eq, Char.le_def,
      UInt32.le_iff_toNat_le] at hc
    simp only [isSpace, Bool.or_eq_false_iff, Bool.and_eq_false_iff, decide_eq_false_iff_not,
      beq_eq_false_iff_ne]
    have hn : c.toNat = c.val.toNat := rfl
    rw [hn]
    simp at hc
    omega
  unfold isSafeId at h
  split at h
  · cases h
  · rename_i c rest hs
    simp only [Bool.and_eq_true, List.all_eq_true, Bool.or_eq_true] at h
    obtain ⟨⟨hc, -⟩, hrest⟩ := h
    intro d hd
    rw [hs] at hd
    rcases List.mem_cons.mp hd with rfl | hd
    · exact halnum _ hc
    · rcases hrest d hd with hd | hd
      · exact halnum _ hd
      · simp only [List.contains_eq_mem, List.mem_cons, List.not_mem_nil, or_false,
          decide_eq_true_eq] at hd
        rcases hd with rfl | rfl | rfl | rfl | rfl | rfl <;> decide

/-! ## Cells -/

structure MatchKey where
  profile : String
  capabilities : Finset String
  difficulty : Difficulty
  baselineRoute : RoutePlan
  candidateRoute : RoutePlan
  configSha256 : String
  signalProviderConfigSha256 : String
  runtimePlanSha256 : String
  deriving DecidableEq

structure CanaryCell where
  profile : SafeId
  capabilities : Finset String
  difficulty : Difficulty
  baselineRoute : RoutePlan
  candidateRoute : RoutePlan
  configSha256 : Digest
  signalProviderConfigSha256 : Digest
  runtimePlanSha256 : Digest
  pairedTasks : Nat
  candidateSuccessRate : ℚ
  candidateSuccessCiLower : ℚ
  identifiers : ∀ c ∈ capabilities, isSafeId c = true
  lessPremium : candidateRoute.rank < baselineRoute.rank
  paired : 0 < pairedTasks
  rates : 0 ≤ candidateSuccessCiLower ∧ candidateSuccessCiLower ≤ candidateSuccessRate ∧
    candidateSuccessRate ≤ 1

def CanaryCell.matchKey (cell : CanaryCell) : MatchKey where
  profile := cell.profile.val
  capabilities := cell.capabilities
  difficulty := cell.difficulty
  baselineRoute := cell.baselineRoute
  candidateRoute := cell.candidateRoute
  configSha256 := cell.configSha256.val
  signalProviderConfigSha256 := cell.signalProviderConfigSha256.val
  runtimePlanSha256 := cell.runtimePlanSha256.val

/-! ## Manifests -/

/-- The lineage of a manifest, required fields first. -/
structure Lineage where
  planSha256 : Digest
  reportSha256 : Digest
  gatePolicyDigest : Digest
  routePolicyDigest : Digest
  scorecardDigest : Digest
  trainingSourceDigest : Digest
  evaluatorSha256 : Digest
  pricingSha256 : Option Digest
  attestationPolicySha256 : Option Digest
  executionHarnessSha256 : Option Digest
  runnerSourceSha256 : Option Digest
  pairedAttestationVerifierSha256 : Option Digest
  pairedProofSetSha256 : Option Digest
  deriving DecidableEq

def maxCanaryBasisPoints : Nat := 500

structure VerifiedRoutingCanaryManifest where
  notBefore : DateTime
  expiresAt : DateTime
  evidenceValidUntil : DateTime
  canaryBasisPoints : Nat
  assignmentSaltSha256 : Digest
  lineage : Lineage
  enabledCells : List CanaryCell
  manifestSha256 : Digest
  window : notBefore.ordinal < expiresAt.ordinal
  evidence : expiresAt.ordinal ≤ evidenceValidUntil.ordinal
  basisPoints : 0 < canaryBasisPoints ∧ canaryBasisPoints ≤ maxCanaryBasisPoints
  cells : enabledCells ≠ [] ∧ (enabledCells.map CanaryCell.matchKey).Nodup

/-! ## Authorizations -/

/-- `VerifiedRoutingCanaryAuthorization`, but for the equation between its digest and its
content, which `fromPayload` checks. -/
structure VerifiedRoutingCanaryAuthorization where
  activationId : String
  operatorKeyId : String
  manifestSha256 : String
  bridgeConfigSha256 : String
  routePolicyDigest : String
  scorecardDigest : String
  issuedAt : DateTime
  notBefore : DateTime
  expiresAt : DateTime
  maximumCanaryBasisPoints : Nat
  authorizationSha256 : String
  identifiers : isSafeId activationId = true ∧ isSafeId operatorKeyId = true
  digests : isSha256 manifestSha256 = true ∧ isSha256 bridgeConfigSha256 = true ∧
    isSha256 routePolicyDigest = true ∧ isSha256 scorecardDigest = true ∧
    isSha256 authorizationSha256 = true
  window : issuedAt.ordinal ≤ notBefore.ordinal ∧ notBefore.ordinal < expiresAt.ordinal
  cap : 0 < maximumCanaryBasisPoints ∧ maximumCanaryBasisPoints ≤ maxCanaryBasisPoints
  deriving DecidableEq

def authorizationFields : List String :=
  ["schema_version", "contract", "activation_id", "operator_key_id", "manifest_sha256",
    "bridge_config_sha256", "route_policy_digest", "scorecard_digest", "issued_at",
    "not_before", "expires_at", "maximum_canary_basis_points", "authorization_sha256"]

/-- The fields of `content_payload`. -/
def VerifiedRoutingCanaryAuthorization.contentFields
    (a : VerifiedRoutingCanaryAuthorization) : List (String × Json) :=
  [("schema_version", .str contractVersion),
    ("contract", .str "VerifiedRoutingCanaryAuthorization"),
    ("activation_id", .str a.activationId),
    ("operator_key_id", .str a.operatorKeyId),
    ("manifest_sha256", .str a.manifestSha256),
    ("bridge_config_sha256", .str a.bridgeConfigSha256),
    ("route_policy_digest", .str a.routePolicyDigest),
    ("scorecard_digest", .str a.scorecardDigest),
    ("issued_at", .str a.issuedAt.isoformat),
    ("not_before", .str a.notBefore.isoformat),
    ("expires_at", .str a.expiresAt.isoformat),
    ("maximum_canary_basis_points", .int a.maximumCanaryBasisPoints)]

def VerifiedRoutingCanaryAuthorization.contentPayload
    (a : VerifiedRoutingCanaryAuthorization) : Json := .obj a.contentFields

def VerifiedRoutingCanaryAuthorization.payload
    (a : VerifiedRoutingCanaryAuthorization) : Json :=
  .obj (a.contentFields ++ [("authorization_sha256", .str a.authorizationSha256)])

section Reading

variable (S : Stdlib)

/-- `_timestamp` of a text. -/
def timestamp (value label : String) : Except ContractError DateTime :=
  match S.parseTimestamp (strip value) with
  | .utc d => .ok d
  | .otherZone => .error ⟨label ++ " must use UTC."⟩
  | .malformed => .error ⟨label ++ " must be an ISO-8601 timestamp."⟩

@[simp] theorem timestamp_isoformat (d : DateTime) (label : String) :
    timestamp S d.isoformat label = .ok d := by
  unfold timestamp
  rw [Stdlib.strip_isoformat, S.parseTimestamp_isoformat]

/-- The constructor of `VerifiedRoutingCanaryAuthorization`. -/
def VerifiedRoutingCanaryAuthorization.make (activationId operatorKeyId manifestSha256
    bridgeConfigSha256 routePolicyDigest scorecardDigest issuedAt notBefore expiresAt
    maximumCanaryBasisPoints authorizationSha256 : Json) :
    Except ContractError VerifiedRoutingCanaryAuthorization := do
  let activationId ← requireSafeId (Json.text activationId) "activation_id"
  let operatorKeyId ← requireSafeId (Json.text operatorKeyId) "operator_key_id"
  let manifestSha256 ← requireSha256 (Json.text manifestSha256) "manifest_sha256"
  let bridgeConfigSha256 ← requireSha256 (Json.text bridgeConfigSha256) "bridge_config_sha256"
  let routePolicyDigest ← requireSha256 (Json.text routePolicyDigest) "route_policy_digest"
  let scorecardDigest ← requireSha256 (Json.text scorecardDigest) "scorecard_digest"
  let authorizationSha256 ←
    requireSha256 (Json.text authorizationSha256) "authorization_sha256"
  let issuedAt ← timestamp S (Json.text issuedAt) "issued_at"
  let notBefore ← timestamp S (Json.text notBefore) "not_before"
  let expiresAt ← timestamp S (Json.text expiresAt) "expires_at"
  if window : issuedAt.ordinal ≤ notBefore.ordinal ∧ notBefore.ordinal < expiresAt.ordinal then
    let maximum ←
      requireNonNegativeInt maximumCanaryBasisPoints "maximum_canary_basis_points"
    if cap : 0 < maximum ∧ maximum ≤ maxCanaryBasisPoints then
      -- The first two checks always hold here: they only carry what was required above.
      if identifiers : isSafeId activationId = true ∧ isSafeId operatorKeyId = true then
        if digests : isSha256 manifestSha256 = true ∧ isSha256 bridgeConfigSha256 = true ∧
            isSha256 routePolicyDigest = true ∧ isSha256 scorecardDigest = true ∧
            isSha256 authorizationSha256 = true then
          let authorization : VerifiedRoutingCanaryAuthorization :=
            ⟨activationId, operatorKeyId, manifestSha256, bridgeConfigSha256,
              routePolicyDigest, scorecardDigest, issuedAt, notBefore, expiresAt, maximum,
              authorizationSha256, identifiers, digests, window, cap⟩
          let digest ← S.canonicalSha256 authorization.contentPayload
          check (digest = authorizationSha256)
            (⟨"Canary authorization digest is invalid."⟩ : ContractError)
          pure authorization
        else .error ⟨"Canary authorization digest is invalid."⟩
      else .error ⟨"activation_id must be a safe identifier."⟩
    else .error ⟨"Canary authorization cap is unsafe."⟩
  else .error ⟨"Canary authorization time window is invalid."⟩

def VerifiedRoutingCanaryAuthorization.fromPayload (raw : Json) :
    Except ContractError VerifiedRoutingCanaryAuthorization :=
  match raw with
  | .obj fields => do
    requireFields fields authorizationFields "canary authorization"
      "Canary authorization is incomplete."
    check (Json.text (field fields "schema_version") = contractVersion ∧
        Json.text (field fields "contract") = "VerifiedRoutingCanaryAuthorization")
      (⟨"Canary authorization contract is invalid."⟩ : ContractError)
    VerifiedRoutingCanaryAuthorization.make S (field fields "activation_id")
      (field fields "operator_key_id") (field fields "manifest_sha256")
      (field fields "bridge_config_sha256") (field fields "route_policy_digest")
      (field fields "scorecard_digest") (field fields "issued_at")
      (field fields "not_before") (field fields "expires_at")
      (field fields "maximum_canary_basis_points") (field fields "authorization_sha256")
  | _ => .error ⟨"canary authorization must be an object with string keys."⟩

theorem requireSafeId_of_isSafeId {value label : String} (h : isSafeId value = true) :
    requireSafeId value label = .ok value := by
  have hstrip := strip_of_isSafeId h
  exact requireSafeId_eq_ok.mpr ⟨by rw [hstrip]; exact h, hstrip.symm⟩

theorem requireSha256_of_isSha256 {value label : String} (h : isSha256 value = true) :
    requireSha256 value label = .ok value := requireSha256_eq_ok.mpr ⟨h, rfl⟩

theorem requireNonNegativeInt_natCast (n : Nat) (label : String) :
    requireNonNegativeInt (.int n) label = .ok n := by
  simp [requireNonNegativeInt]

theorem VerifiedRoutingCanaryAuthorization.make_fields (a : VerifiedRoutingCanaryAuthorization)
    (h : S.canonicalSha256 a.contentPayload = .ok a.authorizationSha256) :
    VerifiedRoutingCanaryAuthorization.make S (.str a.activationId) (.str a.operatorKeyId)
      (.str a.manifestSha256) (.str a.bridgeConfigSha256) (.str a.routePolicyDigest)
      (.str a.scorecardDigest) (.str a.issuedAt.isoformat) (.str a.notBefore.isoformat)
      (.str a.expiresAt.isoformat) (.int a.maximumCanaryBasisPoints)
      (.str a.authorizationSha256) = .ok a := by
  obtain ⟨hmanifest, hbridge, hpolicy, hscorecard, hdigest⟩ := a.digests
  simp only [make, Json.text, requireSafeId_of_isSafeId a.identifiers.1,
    requireSafeId_of_isSafeId a.identifiers.2, requireSha256_of_isSha256 hmanifest,
    requireSha256_of_isSha256 hbridge, requireSha256_of_isSha256 hpolicy,
    requireSha256_of_isSha256 hscorecard, requireSha256_of_isSha256 hdigest,
    timestamp_isoformat, requireNonNegativeInt_natCast, ok_bind, dif_pos a.window,
    dif_pos a.cap, dif_pos a.identifiers, dif_pos a.digests, h]
  rfl

theorem VerifiedRoutingCanaryAuthorization.fromPayload_payload
    {a : VerifiedRoutingCanaryAuthorization}
    (h : S.canonicalSha256 a.contentPayload = .ok a.authorizationSha256) :
    VerifiedRoutingCanaryAuthorization.fromPayload S a.payload = .ok a := by
  have hfields : requireFields (a.contentFields ++
      [("authorization_sha256", .str a.authorizationSha256)]) authorizationFields
      "canary authorization" "Canary authorization is incomplete." = .ok () := by
    simp [requireFields, bind_eq_ok, contentFields, authorizationFields]
  have hcontract : Json.text (field (a.contentFields ++
      [("authorization_sha256", .str a.authorizationSha256)]) "schema_version") = contractVersion ∧
      Json.text (field (a.contentFields ++
        [("authorization_sha256", .str a.authorizationSha256)]) "contract") =
        "VerifiedRoutingCanaryAuthorization" := ⟨rfl, rfl⟩
  simp only [fromPayload, payload, hfields, check_of hcontract, ok_bind]
  exact a.make_fields S h

end Reading

end LocalMoe.Canary
