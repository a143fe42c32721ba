/-
  `decide_route_canary`: a canary is applied exactly where it is permitted, and only where the
  baseline can be executed is there a decision at all.
-/
import LocalMoe.Canary.Authority

namespace LocalMoe.Canary

open Foundation Contracts

/-! ## Shadow decisions -/

inductive DecisionRoute where
  | plan (route : RoutePlan)
  | blocked
  deriving DecidableEq, Repr

def DecisionRoute.name : DecisionRoute → String
  | .plan route => route.name
  | .blocked => "blocked"

def DecisionRoute.executable : DecisionRoute → Option RoutePlan
  | .plan route => some route
  | .blocked => none

def profileNames : List String := ["economy", "balanced", "quality", "privacy", "offline"]

/-- What the decisions use of `CandidateRouteScore`. -/
structure CandidateRouteScore where
  route : RoutePlan
  hardEligible : Bool
  paretoEligible : Bool
  utility : Option ℚ
  rejectionCodes : List String
  pareto : paretoEligible = true →
    hardEligible = true ∧ utility.isSome = true ∧ rejectionCodes = []
  ineligible : hardEligible = false →
    paretoEligible = false ∧ utility = none ∧ rejectionCodes ≠ []

/-- What the decisions use of `TaskSignals`. -/
structure TaskSignals where
  requestFingerprint : Digest
  capabilities : Finset String
  difficulty : Difficulty
  providerConfigSha256 : Digest
  identifiers : ∀ c ∈ capabilities, isSafeId c = true

/-- `ShadowRouteDecision`; its own digest is not tied to its content here. -/
structure ShadowRouteDecision where
  profile : String
  routeReceiptId : String
  routeReceiptSha256 : Digest
  runtimePlanSha256 : Digest
  taskFingerprint : Digest
  taskSignals : TaskSignals
  baselineRoute : DecisionRoute
  recommendedRoute : DecisionRoute
  abstained : Bool
  candidates : List CandidateRouteScore
  policyDigest : Digest
  scorecardDigest : Digest
  decisionSha256 : Digest
  knownProfile : profile ∈ profileNames
  receiptId : isSafeId (strip routeReceiptId) = true
  taskBound : taskSignals.requestFingerprint = taskFingerprint
  blocked : baselineRoute = .blocked →
    recommendedRoute = .blocked ∧ abstained = true ∧ candidates = []
  executable : baselineRoute ≠ .blocked → recommendedRoute ≠ .blocked ∧
    candidates.map CandidateRouteScore.route = [.localOnly, .localThenVerify, .premium] ∧
    (abstained = true → recommendedRoute = baselineRoute) ∧
    (abstained = false → ∃ c ∈ candidates, .plan c.route = recommendedRoute ∧
      c.hardEligible = true ∧ c.paretoEligible = true ∧ c.utility.isSome = true ∧
      c.rejectionCodes = [])

/-! ## Canary decisions -/

structure CanaryRouteDecision where
  taskFingerprint : String
  profile : String
  capabilities : Finset String
  difficulty : Difficulty
  baselineRoute : RoutePlan
  effectiveRoute : RoutePlan
  shadowRecommendedRoute : RoutePlan
  applied : Bool
  abstained : Bool
  reasonCodes : List String
  routeReceiptId : String
  routeReceiptSha256 : String
  runtimePlanSha256 : String
  signalProviderConfigSha256 : String
  shadowDecisionSha256 : String
  policyDigest : String
  scorecardDigest : String
  bridgeConfigSha256 : String
  manifestSha256 : String
  authorizationSha256 : String
  operatorKeyId : String
  assignmentBucket : Nat
  canaryBasisPoints : Nat
  decisionSha256 : String
  deriving DecidableEq

/-- The arguments of the constructor. -/
structure DecisionArgs where
  taskFingerprint : String
  profile : String
  capabilities : List String
  difficulty : String
  baselineRoute : String
  effectiveRoute : String
  shadowRecommendedRoute : String
  applied : Bool
  abstained : Bool
  reasonCodes : List String
  routeReceiptId : String
  routeReceiptSha256 : String
  runtimePlanSha256 : String
  signalProviderConfigSha256 : String
  shadowDecisionSha256 : String
  policyDigest : String
  scorecardDigest : String
  bridgeConfigSha256 : String
  manifestSha256 : String
  authorizationSha256 : String
  operatorKeyId : String
  assignmentBucket : Nat
  canaryBasisPoints : Nat

/-- The digests, with their labels. -/
def DecisionArgs.digests (a : DecisionArgs) : List (String × String) :=
  [("task_fingerprint", a.taskFingerprint), ("route_receipt_sha256", a.routeReceiptSha256),
    ("runtime_plan_sha256", a.runtimePlanSha256),
    ("signal_provider_config_sha256", a.signalProviderConfigSha256),
    ("shadow_decision_sha256", a.shadowDecisionSha256), ("policy_digest", a.policyDigest),
    ("scorecard_digest", a.scorecardDigest), ("bridge_config_sha256", a.bridgeConfigSha256),
    ("manifest_sha256", a.manifestSha256), ("authorization_sha256", a.authorizationSha256)]

/-- The fields of `content_payload`. -/
def CanaryRouteDecision.contentFields (d : CanaryRouteDecision) : List (String × Json) :=
  [("schema_version", .str contractVersion), ("contract", .str "CanaryRouteDecision"),
    ("mode", .str "canary"), ("task_fingerprint", .str d.taskFingerprint),
    ("profile", .str d.profile), ("capabilities", Json.codes d.capabilities),
    ("difficulty", .str d.difficulty.name), ("baseline_route", .str d.baselineRoute.name),
    ("effective_route", .str d.effectiveRoute.name),
    ("shadow_recommended_route", .str d.shadowRecommendedRoute.name),
    ("applied", .bool d.applied), ("abstained", .bool d.abstained),
    ("reason_codes", .arr (d.reasonCodes.map Json.str)),
    ("route_receipt_id", .str d.routeReceiptId),
    ("route_receipt_sha256", .str d.routeReceiptSha256),
    ("runtime_plan_sha256", .str d.runtimePlanSha256),
    ("signal_provider_config_sha256", .str d.signalProviderConfigSha256),
    ("shadow_decision_sha256", .str d.shadowDecisionSha256),
    ("policy_digest", .str d.policyDigest), ("scorecard_digest", .str d.scorecardDigest),
    ("bridge_config_sha256", .str d.bridgeConfigSha256),
    ("manifest_sha256", .str d.manifestSha256),
    ("authorization_sha256", .str d.authorizationSha256),
    ("operator_key_id", .str d.operatorKeyId), ("assignment_bucket", .int d.assignmentBucket),
    ("canary_basis_points", .int d.canaryBasisPoints)]

def CanaryRouteDecision.contentPayload (d : CanaryRouteDecision) : Json := .obj d.contentFields

def CanaryRouteDecision.payload (d : CanaryRouteDecision) : Json :=
  .obj (d.contentFields ++ [("decision_sha256", .str d.decisionSha256)])

/-- `require_safe_id` on every item. -/
def requireSafeIds (label : String) : List String → Except ContractError (List String)
  | [] => .ok []
  | item :: rest => do
    let item ← requireSafeId item label
    let rest ← requireSafeIds label rest
    pure (item :: rest)

/-- `require_identifier_tuple`, as the set the sorted tuple stands for. -/
def requireIdentifierTuple (items : List String) (label : String) :
    Except ContractError (Finset String) := do
  let items ← requireSafeIds label items
  check items.Nodup (⟨label ++ " must not contain duplicates."⟩ : ContractError)
  pure items.toFinset

/-- A value that must be there. -/
def require {α : Type} (value : Option α) (message : String) : Except ContractError α :=
  match value with
  | some a => .ok a
  | none => .error ⟨message⟩

/-- The rules on the flags and the routes. -/
def checkApplication (applied abstained : Bool) (baseline effective recommended : RoutePlan)
    (bucket basisPoints : Nat) : Except ContractError Unit :=
  if applied = true then do
    check (abstained = false ∧ effective = recommended)
      (⟨"Applied canary decision is inconsistent."⟩ : ContractError)
    check (effective.rank < baseline.rank)
      (⟨"Applied canary decision widens provider use."⟩ : ContractError)
    check (bucket < basisPoints)
      (⟨"Applied canary decision is outside its cohort."⟩ : ContractError)
  else
    check (effective = baseline ∧ abstained = true)
      ⟨"Abstained canary decision must retain baseline."⟩

local instance codes_trans : IsTrans String (· ≤ ·) := inferInstance

local instance codes_antisymm : Std.Antisymm fun a b : String => a ≤ b := inferInstance

section Decisions

variable (S : Stdlib)

/-- The constructor of `CanaryRouteDecision`. -/
def CanaryRouteDecision.make (a : DecisionArgs) : Except ContractError CanaryRouteDecision := do
  a.digests.forM fun digest =>
    check (isSha256 digest.2 = true)
      (⟨digest.1 ++ " must be a lowercase SHA-256 digest."⟩ : ContractError)
  let profile ← requireSafeId a.profile "profile"
  let capabilities ← requireIdentifierTuple a.capabilities "capabilities"
  let difficulty ← require (Difficulty.ofName a.difficulty)
    "Canary decision difficulty is unsupported."
  let baselineRoute ← require (RoutePlan.ofName a.baselineRoute)
    "Canary decision route is unsupported."
  let effectiveRoute ← require (RoutePlan.ofName a.effectiveRoute)
    "Canary decision route is unsupported."
  let shadowRecommendedRoute ← require (RoutePlan.ofName a.shadowRecommendedRoute)
    "Canary shadow recommendation is unsupported."
  let reasonCodes ← requireSafeIds "reason_codes" a.reasonCodes
  check (reasonCodes ≠ [] ∧ reasonCodes.Nodup)
    (⟨"Canary decision reason codes are invalid."⟩ : ContractError)
  check (isSafeId (strip a.routeReceiptId) = true)
    (⟨"route_receipt_id must be a safe identifier."⟩ : ContractError)
  check (isSafeId (strip a.operatorKeyId) = true)
    (⟨"operator_key_id must be a safe identifier."⟩ : ContractError)
  check (a.assignmentBucket < 10000 ∧ 0 < a.canaryBasisPoints ∧
      a.canaryBasisPoints ≤ maxCanaryBasisPoints)
    (⟨"Canary assignment is invalid."⟩ : ContractError)
  checkApplication a.applied a.abstained baselineRoute effectiveRoute shadowRecommendedRoute
    a.assignmentBucket a.canaryBasisPoints
  let decision : CanaryRouteDecision := ⟨a.taskFingerprint, profile, capabilities, difficulty,
    baselineRoute, effectiveRoute, shadowRecommendedRoute, a.applied, a.abstained, reasonCodes,
    a.routeReceiptId, a.routeReceiptSha256, a.runtimePlanSha256, a.signalProviderConfigSha256,
    a.shadowDecisionSha256, a.policyDigest, a.scorecardDigest, a.bridgeConfigSha256,
    a.manifestSha256, a.authorizationSha256, a.operatorKeyId, a.assignmentBucket,
    a.canaryBasisPoints, ""⟩
  let decisionSha256 ← S.canonicalSha256 decision.contentPayload
  pure { decision with decisionSha256 := decisionSha256 }

def decisionFields : List String :=
  ["schema_version", "contract", "mode", "task_fingerprint", "profile", "capabilities",
    "difficulty", "baseline_route", "effective_route", "shadow_recommended_route", "applied",
    "abstained", "reason_codes", "route_receipt_id", "route_receipt_sha256",
    "runtime_plan_sha256", "signal_provider_config_sha256", "shadow_decision_sha256",
    "policy_digest", "scorecard_digest", "bridge_config_sha256", "manifest_sha256",
    "authorization_sha256", "operator_key_id", "assignment_bucket", "canary_basis_points",
    "decision_sha256"]

def requireFlag : Json → Except ContractError Bool
  | .bool value => .ok value
  | _ => .error ⟨"Canary decision flags must be boolean."⟩

def requireTexts (label : String) : Json → Except ContractError (List String)
  | .arr items => .ok (items.map Json.text)
  | _ => .error ⟨label ++ " must be a list."⟩

/-- The arguments in the fields of a payload. -/
def DecisionArgs.ofFields (fields : List (String × Json)) : Except ContractError DecisionArgs := do
  let text (key : String) : String := Json.text (field fields key)
  let capabilities ← requireTexts "capabilities" (field fields "capabilities")
  let applied ← requireFlag (field fields "applied")
  let abstained ← requireFlag (field fields "abstained")
  let reasonCodes ← requireTexts "reason_codes" (field fields "reason_codes")
  let assignmentBucket ←
    requireNonNegativeInt (field fields "assignment_bucket") "assignment_bucket"
  let canaryBasisPoints ←
    requireNonNegativeInt (field fields "canary_basis_points") "canary_basis_points"
  pure ⟨text "task_fingerprint", text "profile", capabilities, text "difficulty",
    text "baseline_route", text "effective_route", text "shadow_recommended_route", applied,
    abstained, reasonCodes, text "route_receipt_id", text "route_receipt_sha256",
    text "runtime_plan_sha256", text "signal_provider_config_sha256",
    text "shadow_decision_sha256", text "policy_digest", text "scorecard_digest",
    text "bridge_config_sha256", text "manifest_sha256", text "authorization_sha256",
    text "operator_key_id", assignmentBucket, canaryBasisPoints⟩

/-- `CanaryRouteDecision.from_payload`; the types of the arguments are checked before their
values. -/
def CanaryRouteDecision.fromPayload (raw : Json) : Except ContractError CanaryRouteDecision := do
  let fields ← objectFields raw "canary decision must be an object with string keys."
  requireFields fields decisionFields "canary decision" "Canary decision is incomplete."
  check (isText (field fields "schema_version") contractVersion = true ∧
      isText (field fields "contract") "CanaryRouteDecision" = true ∧
      isText (field fields "mode") "canary" = true)
    (⟨"Canary decision contract is invalid."⟩ : ContractError)
  let claimed ← requireSha256 (Json.text (field fields "decision_sha256")) "decision_sha256"
  let args ← DecisionArgs.ofFields fields
  let decision ← CanaryRouteDecision.make S args
  check (decision.decisionSha256 = claimed)
    (⟨"Canary decision digest is invalid."⟩ : ContractError)
  pure decision

/-! ## The decision function -/

def hexValue (digits : List Char) : Nat :=
  digits.foldl (fun n c => 16 * n + (if c.toNat < 58 then c.toNat - 48 else c.toNat - 87)) 0

/-- The bytes of a hexadecimal digest. -/
def unhex : List Char → List UInt8
  | a :: b :: rest => UInt8.ofNat (hexValue [a, b]) :: unhex rest
  | _ => []

/-- `hmac.new(key, message, hashlib.sha256)`, as its hexadecimal digest. -/
def hmacSha256 (key message : List UInt8) : String :=
  let key := if 64 < key.length then unhex (S.sha256 key).toList else key
  let block := key ++ List.replicate (64 - key.length) 0
  let inner := S.sha256 (block.map (· ^^^ 0x36) ++ message)
  S.sha256 (block.map (· ^^^ 0x5c) ++ unhex inner.toList)

def canaryAssignmentBucket (secret : List UInt8) (taskFingerprint : String) :
    Except ContractError Nat := do
  check (32 ≤ secret.length ∧ secret.length ≤ 1024)
    (⟨"Canary assignment secret size is invalid."⟩ : ContractError)
  let fingerprint ← requireSha256 taskFingerprint "task_fingerprint"
  pure (hexValue ((hmacSha256 S secret (utf8 fingerprint)).toList.take 16) % 10000)

/-- The arguments of `decide_route_canary` besides the shadow decision. -/
structure Evaluation where
  manifest : VerifiedRoutingCanaryManifest
  authority : VerifiedCanaryAuthority
  bridgeConfigSha256 : String
  assignmentSecret : List UInt8
  evaluatedAt : Except ContractError DateTime

/-- The checks of authority, window, secret and lineage. -/
def Evaluation.checks (e : Evaluation) (shadow : ShadowRouteDecision) :
    Except ContractError String := do
  let current ← e.evaluatedAt
  check (current.ordinal = e.authority.verifiedAt.ordinal)
    (⟨"Canary authority must be consumed at its verified evaluation time."⟩ : ContractError)
  let signed := e.authority.authorization
  check ((signed.notBefore.ordinal ≤ current.ordinal ∧
      current.ordinal < signed.expiresAt.ordinal) ∧
      e.manifest.notBefore.ordinal ≤ current.ordinal ∧
      current.ordinal < e.manifest.expiresAt.ordinal)
    (⟨"Canary authority is no longer active."⟩ : ContractError)
  check (e.manifest.canaryBasisPoints ≤ signed.maximumCanaryBasisPoints)
    (⟨"Canary authority cap does not permit this manifest."⟩ : ContractError)
  let configSha256 ← requireSha256 e.bridgeConfigSha256 "bridge_config_sha256"
  check (S.sha256 e.assignmentSecret = e.manifest.assignmentSaltSha256.val)
    (⟨"Canary assignment secret does not match the manifest."⟩ : ContractError)
  check (shadow.policyDigest = e.manifest.lineage.routePolicyDigest ∧
      shadow.scorecardDigest = e.manifest.lineage.scorecardDigest ∧
      signed.manifestSha256 = e.manifest.manifestSha256.val ∧
      signed.bridgeConfigSha256 = configSha256)
    (⟨"Canary decision lineage is invalid."⟩ : ContractError)
  pure configSha256

/-- `desired_key`; no cell has the route "blocked". -/
def ShadowRouteDecision.desiredKey (shadow : ShadowRouteDecision) (configSha256 : String) :
    Option MatchKey := do
  let baseline ← shadow.baselineRoute.executable
  let recommended ← shadow.recommendedRoute.executable
  pure ⟨shadow.profile, shadow.taskSignals.capabilities, shadow.taskSignals.difficulty,
    baseline, recommended, configSha256, shadow.taskSignals.providerConfigSha256.val,
    shadow.runtimePlanSha256.val⟩

def ShadowRouteDecision.candidate (shadow : ShadowRouteDecision) : Option CandidateRouteScore :=
  shadow.candidates.find? fun c => .plan c.route = shadow.recommendedRoute

/-- The recommendation is not strictly less premium than the baseline. -/
def ShadowRouteDecision.notMonotone (shadow : ShadowRouteDecision) : Bool :=
  match shadow.recommendedRoute, shadow.baselineRoute with
  | .blocked, _ => true
  | .plan recommended, .plan baseline => baseline.rank ≤ recommended.rank
  | .plan _, .blocked => false

def reasons (shadow : ShadowRouteDecision) (manifest : VerifiedRoutingCanaryManifest)
    (configSha256 : String) (bucket : Nat) : List String :=
  let cell := manifest.enabledCells.find? fun cell =>
    some cell.matchKey = shadow.desiredKey configSha256
  (if shadow.abstained = true then ["shadow_abstained"] else []) ++
    (if shadow.baselineRoute = .blocked then ["baseline_not_executable"] else []) ++
    (if shadow.notMonotone = true then ["not_monotone_less_premium"] else []) ++
    (if ∀ c ∈ shadow.candidate, c.hardEligible = false ∨ c.paretoEligible = false then
      ["shadow_candidate_ineligible"] else []) ++
    (if cell.isNone = true then ["cell_not_enabled"] else []) ++
    (if manifest.canaryBasisPoints ≤ bucket then ["outside_canary_cohort"] else []) ++
    (if shadow.profile = "offline" ∧ shadow.recommendedRoute ≠ .plan .localOnly then
      ["offline_remote_forbidden"] else [])

def decisionArgs (shadow : ShadowRouteDecision) (e : Evaluation) (configSha256 : String)
    (bucket : Nat) : DecisionArgs :=
  let reasons := reasons shadow e.manifest configSha256 bucket
  let applied : Bool := reasons = []
  { taskFingerprint := shadow.taskFingerprint.val
    profile := shadow.profile
    capabilities := shadow.taskSignals.capabilities.sort (· ≤ ·)
    difficulty := shadow.taskSignals.difficulty.name
    baselineRoute := shadow.baselineRoute.name
    effectiveRoute := if applied then shadow.recommendedRoute.name else shadow.baselineRoute.name
    shadowRecommendedRoute := shadow.recommendedRoute.name
    applied := applied
    abstained := !applied
    reasonCodes := if applied then ["authorized_canary_applied"] else reasons
    routeReceiptId := shadow.routeReceiptId
    routeReceiptSha256 := shadow.routeReceiptSha256.val
    runtimePlanSha256 := shadow.runtimePlanSha256.val
    signalProviderConfigSha256 := shadow.taskSignals.providerConfigSha256.val
    shadowDecisionSha256 := shadow.decisionSha256.val
    policyDigest := shadow.policyDigest.val
    scorecardDigest := shadow.scorecardDigest.val
    bridgeConfigSha256 := configSha256
    manifestSha256 := e.manifest.manifestSha256.val
    authorizationSha256 := e.authority.authorization.authorizationSha256
    operatorKeyId := e.authority.authorization.operatorKeyId
    assignmentBucket := bucket
    canaryBasisPoints := e.manifest.canaryBasisPoints }

def decideRouteCanary (shadow : ShadowRouteDecision) (e : Evaluation) :
    Except ContractError CanaryRouteDecision := do
  let configSha256 ← e.checks S shadow
  let bucket ← canaryAssignmentBucket S e.assignmentSecret shadow.taskFingerprint.val
  CanaryRouteDecision.make S (decisionArgs shadow e configSha256 bucket)

end Decisions

/-! ## Round trip -/

/-- The arguments a decision is rebuilt from. -/
def CanaryRouteDecision.args (d : CanaryRouteDecision) : DecisionArgs where
  taskFingerprint := d.taskFingerprint
  profile := d.profile
  capabilities := d.capabilities.sort (· ≤ ·)
  difficulty := d.difficulty.name
  baselineRoute := d.baselineRoute.name
  effectiveRoute := d.effectiveRoute.name
  shadowRecommendedRoute := d.shadowRecommendedRoute.name
  applied := d.applied
  abstained := d.abstained
  reasonCodes := d.reasonCodes
  routeReceiptId := d.routeReceiptId
  routeReceiptSha256 := d.routeReceiptSha256
  runtimePlanSha256 := d.runtimePlanSha256
  signalProviderConfigSha256 := d.signalProviderConfigSha256
  shadowDecisionSha256 := d.shadowDecisionSha256
  policyDigest := d.policyDigest
  scorecardDigest := d.scorecardDigest
  bridgeConfigSha256 := d.bridgeConfigSha256
  manifestSha256 := d.manifestSha256
  authorizationSha256 := d.authorizationSha256
  operatorKeyId := d.operatorKeyId
  assignmentBucket := d.assignmentBucket
  canaryBasisPoints := d.canaryBasisPoints

/-- What the constructor establishes. -/
structure CanaryRouteDecision.Valid (S : Stdlib) (d : CanaryRouteDecision) : Prop where
  digests : ∀ digest ∈ d.args.digests, isSha256 digest.2 = true
  profile : isSafeId d.profile = true
  capabilities : ∀ c ∈ d.capabilities, isSafeId c = true
  reasonCodes : (∀ r ∈ d.reasonCodes, isSafeId r = true) ∧ d.reasonCodes ≠ [] ∧
    d.reasonCodes.Nodup
  receiptId : isSafeId (strip d.routeReceiptId) = true
  operatorKeyId : isSafeId (strip d.operatorKeyId) = true
  assignment : d.assignmentBucket < 10000 ∧ 0 < d.canaryBasisPoints ∧
    d.canaryBasisPoints ≤ maxCanaryBasisPoints
  application : checkApplication d.applied d.abstained d.baselineRoute d.effectiveRoute
    d.shadowRecommendedRoute d.assignmentBucket d.canaryBasisPoints = .ok ()
  digest : S.canonicalSha256 d.contentPayload = .ok d.decisionSha256

section RoundTrip

variable {S : Stdlib}

theorem requireSafeIds_of_isSafeId {label : String} {items : List String}
    (h : ∀ item ∈ items, isSafeId item = true) : requireSafeIds label items = .ok items := by
  induction items with
  | nil => rfl
  | cons item rest ih =>
    have hitem : requireSafeId item label = .ok item :=
      requireSafeId_of_isSafeId (h item (List.mem_cons_self ..))
    have hrest := ih fun r hr => h r (List.mem_cons_of_mem _ hr)
    simp only [requireSafeIds, hitem, hrest, ok_bind]
    rfl

theorem requireIdentifierTuple_sort {label : String} {items : Finset String}
    (h : ∀ item ∈ items, isSafeId item = true) :
    requireIdentifierTuple (items.sort (· ≤ ·)) label = .ok items := by
  have hitems : requireSafeIds label (items.sort (· ≤ ·)) = .ok (items.sort (· ≤ ·)) :=
    requireSafeIds_of_isSafeId fun item hitem => h item ((Finset.mem_sort _).mp hitem)
  simp only [requireIdentifierTuple, hitems, check_of (Finset.sort_nodup items (· ≤ ·)),
    ok_bind, Finset.sort_toFinset]
  rfl

variable {d : CanaryRouteDecision}

theorem CanaryRouteDecision.make_args (h : d.Valid S) :
    CanaryRouteDecision.make S d.args = .ok d := by
  have hdigests : (d.args.digests.forM fun digest => check (isSha256 digest.2 = true)
      (⟨digest.1 ++ " must be a lowercase SHA-256 digest."⟩ : ContractError)) = .ok () :=
    forM_eq_ok fun digest hdigest => check_of (h.digests digest hdigest)
  have hdigest : S.canonicalSha256 (CanaryRouteDecision.contentPayload
      { d with decisionSha256 := "" }) = .ok d.decisionSha256 := h.digest
  unfold CanaryRouteDecision.make
  rw [hdigests]
  simp only [ok_bind, CanaryRouteDecision.args, requireSafeId_of_isSafeId h.profile,
    requireIdentifierTuple_sort h.capabilities, Difficulty.ofName_name, RoutePlan.ofName_name,
    require, requireSafeIds_of_isSafeId h.reasonCodes.1, check_of h.reasonCodes.2,
    h.application, hdigest]
  exact check_bind_eq_ok.mpr ⟨h.receiptId, check_bind_eq_ok.mpr ⟨h.operatorKeyId,
    check_bind_eq_ok.mpr ⟨h.assignment, rfl⟩⟩⟩

theorem CanaryRouteDecision.fromPayload_payload (h : d.Valid S) :
    CanaryRouteDecision.fromPayload S d.payload = .ok d := by
  have hsha : isSha256 d.decisionSha256 = true := by
    have hd := h.digest
    unfold Stdlib.canonicalSha256 at hd
    cases hbytes : canonicalJsonBytes d.contentPayload with
    | error e =>
      rw [hbytes] at hd
      cases hd
    | ok bytes =>
      rw [hbytes] at hd
      rw [← Except.ok.inj hd]
      exact S.sha256_hex _
  have hargs : DecisionArgs.ofFields (d.contentFields ++
      [("decision_sha256", .str d.decisionSha256)]) = .ok d.args := by
    have htexts : ∀ texts : List String, (texts.map Json.str).map Json.text = texts := by
      intro texts
      rw [List.map_map]
      exact List.map_id _
    have hcapabilities : requireTexts "capabilities" (Json.codes d.capabilities) =
        .ok (d.capabilities.sort (· ≤ ·)) := congrArg Except.ok (htexts _)
    have hreasons : requireTexts "reason_codes" (.arr (d.reasonCodes.map Json.str)) =
        .ok d.reasonCodes := congrArg Except.ok (htexts _)
    unfold DecisionArgs.ofFields
    refine bind_eq_ok.mpr ⟨_, hcapabilities, bind_eq_ok.mpr ⟨_, rfl, bind_eq_ok.mpr ⟨_, rfl,
      bind_eq_ok.mpr ⟨_, hreasons, bind_eq_ok.mpr ⟨_, requireNonNegativeInt_natCast _ _,
      bind_eq_ok.mpr ⟨_, requireNonNegativeInt_natCast _ _, rfl⟩⟩⟩⟩⟩⟩
  have hfields : requireFields (d.contentFields ++
      [("decision_sha256", .str d.decisionSha256)]) decisionFields "canary decision"
      "Canary decision is incomplete." = .ok () := by
    simp [requireFields, bind_eq_ok, CanaryRouteDecision.contentFields, decisionFields]
  unfold CanaryRouteDecision.fromPayload
  refine bind_eq_ok.mpr ⟨_, rfl, bind_eq_ok.mpr ⟨_, hfields, check_bind_eq_ok.mpr ⟨?_,
    bind_eq_ok.mpr ⟨_, requireSha256_of_isSha256 hsha, bind_eq_ok.mpr ⟨_, hargs,
    bind_eq_ok.mpr ⟨_, make_args h, check_bind_eq_ok.mpr ⟨rfl, rfl⟩⟩⟩⟩⟩⟩⟩
  exact ⟨isText_str.mpr rfl, isText_str.mpr rfl, isText_str.mpr rfl⟩

end RoundTrip

/-! ## When a canary is applied -/

/-- The shadow decision may be applied to its task. -/
structure Permitted (shadow : ShadowRouteDecision) (manifest : VerifiedRoutingCanaryManifest)
    (configSha256 : String) (bucket : Nat) : Prop where
  decided : shadow.abstained = false
  eligible : ∃ c ∈ shadow.candidates, .plan c.route = shadow.recommendedRoute ∧
    c.hardEligible = true ∧ c.paretoEligible = true
  lessPremium : ∃ recommended baseline, shadow.recommendedRoute = .plan recommended ∧
    shadow.baselineRoute = .plan baseline ∧ recommended.rank < baseline.rank
  enabled : ∃ cell ∈ manifest.enabledCells, some cell.matchKey = shadow.desiredKey configSha256
  cohort : bucket < manifest.canaryBasisPoints
  offline : shadow.profile = "offline" → shadow.recommendedRoute = .plan .localOnly

theorem ite_singleton_eq_nil {p : Prop} [Decidable p] {text : String} :
    (if p then [text] else []) = [] ↔ ¬ p := by
  by_cases h : p <;> simp [h]

variable {shadow : ShadowRouteDecision}

theorem ShadowRouteDecision.candidate_eq (hexecutable : shadow.baselineRoute ≠ .blocked)
    {c : CandidateRouteScore} (hc : c ∈ shadow.candidates)
    (hroute : .plan c.route = shadow.recommendedRoute) : shadow.candidate = some c := by
  have hroutes := (shadow.executable hexecutable).2.1
  cases hfound : shadow.candidate with
  | none =>
    have hnone := List.find?_eq_none.mp hfound c hc
    exact absurd (decide_eq_true hroute) hnone
  | some other =>
    have hsome := List.find?_some hfound
    have hother : .plan other.route = shadow.recommendedRoute := of_decide_eq_true hsome
    have hsame : other.route = c.route := DecisionRoute.plan.inj (hother.trans hroute.symm)
    have hnodup : (shadow.candidates.map CandidateRouteScore.route).Nodup := by
      rw [hroutes]
      decide
    exact congrArg some (List.inj_on_of_nodup_map hnodup
      (List.mem_of_find?_eq_some hfound) hc hsame)

theorem reasons_eq_nil_iff (hexecutable : shadow.baselineRoute ≠ .blocked)
    (manifest : VerifiedRoutingCanaryManifest) (configSha256 : String) (bucket : Nat) :
    reasons shadow manifest configSha256 bucket = [] ↔
      Permitted shadow manifest configSha256 bucket := by
  obtain ⟨hrecommended, -, -⟩ := shadow.executable hexecutable
  simp only [reasons, List.append_eq_nil_iff, ite_singleton_eq_nil]
  constructor
  · rintro ⟨⟨⟨⟨⟨⟨habstained, -⟩, hmonotone⟩, heligible⟩, hcell⟩, hcohort⟩, hoffline⟩
    refine ⟨Bool.eq_false_iff.mpr habstained, ?_, ?_, ?_, not_le.mp hcohort, ?_⟩
    · push Not at heligible
      obtain ⟨c, hc, hhard, hpareto⟩ := heligible
      have hfound := List.find?_some hc
      exact ⟨c, List.mem_of_find?_eq_some hc, of_decide_eq_true hfound,
        Bool.eq_true_of_not_eq_false hhard, Bool.eq_true_of_not_eq_false hpareto⟩
    · cases hr : shadow.recommendedRoute with
      | blocked => exact absurd hr hrecommended
      | plan recommended =>
        cases hb : shadow.baselineRoute with
        | blocked => exact absurd hb hexecutable
        | plan baseline =>
          refine ⟨recommended, baseline, rfl, rfl, ?_⟩
          simp only [ShadowRouteDecision.notMonotone, hr, hb, decide_eq_true_eq] at hmonotone
          exact not_le.mp hmonotone
    · rw [Option.isNone_iff_eq_none] at hcell
      obtain ⟨cell, hfound⟩ := Option.ne_none_iff_exists'.mp hcell
      have hkey := List.find?_some hfound
      exact ⟨cell, List.mem_of_find?_eq_some hfound, of_decide_eq_true hkey⟩
    · intro hprofile
      by_contra hremote
      exact hoffline ⟨hprofile, hremote⟩
  · intro h
    obtain ⟨recommended, baseline, hr, hb, hrank⟩ := h.lessPremium
    refine ⟨⟨⟨⟨⟨⟨?_, hexecutable⟩, ?_⟩, ?_⟩, ?_⟩, not_le.mpr h.cohort⟩, ?_⟩
    · rw [h.decided]
      decide
    · simp only [ShadowRouteDecision.notMonotone, hr, hb, decide_eq_true_eq]
      exact not_le.mpr hrank
    · obtain ⟨c, hc, hroute, hhard, hpareto⟩ := h.eligible
      intro hall
      rcases hall c (shadow.candidate_eq hexecutable hc hroute) with hno | hno
      · rw [hhard] at hno
        cases hno
      · rw [hpareto] at hno
        cases hno
    · obtain ⟨cell, hcell, hkey⟩ := h.enabled
      rw [Option.isNone_iff_eq_none, List.find?_eq_none]
      intro hnone
      exact hnone cell hcell (decide_eq_true hkey)
    · rintro ⟨hprofile, hremote⟩
      exact hremote (h.offline hprofile)

variable {configSha256 : String} {bucket : Nat}

theorem Permitted.mono {manifest manifest' : VerifiedRoutingCanaryManifest}
    (h : Permitted shadow manifest configSha256 bucket)
    (hcells : manifest'.enabledCells = manifest.enabledCells)
    (hcohort : manifest.canaryBasisPoints ≤ manifest'.canaryBasisPoints) :
    Permitted shadow manifest' configSha256 bucket := { h with
    enabled := hcells ▸ h.enabled
    cohort := h.cohort.trans_le hcohort }

/-! ## The decision -/

section Theorems

variable {S : Stdlib}

theorem isSafeId_of_mem_reasons (shadow : ShadowRouteDecision)
    (manifest : VerifiedRoutingCanaryManifest) (configSha256 : String) (bucket : Nat) :
    (∀ r ∈ reasons shadow manifest configSha256 bucket, isSafeId r = true) ∧
      (reasons shadow manifest configSha256 bucket).Nodup := by
  have hsub : (reasons shadow manifest configSha256 bucket).Sublist
      ["shadow_abstained", "baseline_not_executable", "not_monotone_less_premium",
        "shadow_candidate_ineligible", "cell_not_enabled", "outside_canary_cohort",
        "offline_remote_forbidden"] := by
    have hone : ∀ {p : Prop} [Decidable p] (text : String),
        (if p then [text] else []).Sublist [text] := by
      intro p _ text
      by_cases h : p <;> simp [h]
    exact ((((((hone _).append (hone _)).append (hone _)).append (hone _)).append
      (hone _)).append (hone _)).append (hone _)
  refine ⟨fun r hr => ?_, hsub.nodup (by decide +kernel)⟩
  have hall : ∀ text ∈ ["shadow_abstained", "baseline_not_executable",
      "not_monotone_less_premium", "shadow_candidate_ineligible", "cell_not_enabled",
      "outside_canary_cohort", "offline_remote_forbidden"], isSafeId text = true := by decide +kernel
  exact hall r (hsub.subset hr)

/-- The decision over an executable baseline. -/
def decisionOf (S : Stdlib) (shadow : ShadowRouteDecision) (e : Evaluation)
    (configSha256 : String) (bucket : Nat) (baseline recommended : RoutePlan) :
    CanaryRouteDecision :=
  let a := decisionArgs shadow e configSha256 bucket
  let d : CanaryRouteDecision :=
    { taskFingerprint := a.taskFingerprint
      profile := a.profile
      capabilities := shadow.taskSignals.capabilities
      difficulty := shadow.taskSignals.difficulty
      baselineRoute := baseline
      effectiveRoute := if a.applied then recommended else baseline
      shadowRecommendedRoute := recommended
      applied := a.applied
      abstained := a.abstained
      reasonCodes := a.reasonCodes
      routeReceiptId := a.routeReceiptId
      routeReceiptSha256 := a.routeReceiptSha256
      runtimePlanSha256 := a.runtimePlanSha256
      signalProviderConfigSha256 := a.signalProviderConfigSha256
      shadowDecisionSha256 := a.shadowDecisionSha256
      policyDigest := a.policyDigest
      scorecardDigest := a.scorecardDigest
      bridgeConfigSha256 := a.bridgeConfigSha256
      manifestSha256 := a.manifestSha256
      authorizationSha256 := a.authorizationSha256
      operatorKeyId := a.operatorKeyId
      assignmentBucket := a.assignmentBucket
      canaryBasisPoints := a.canaryBasisPoints
      decisionSha256 := "" }
  { d with
    decisionSha256 := S.sha256 ((jcs d.contentPayload).flatMap String.utf8EncodeChar) }

variable {e : Evaluation} {baseline recommended : RoutePlan}

theorem decisionOf_args (hb : shadow.baselineRoute = .plan baseline)
    (hr : shadow.recommendedRoute = .plan recommended) :
    (decisionOf S shadow e configSha256 bucket baseline recommended).args =
      decisionArgs shadow e configSha256 bucket := by
  unfold decisionOf CanaryRouteDecision.args decisionArgs
  rw [hb, hr]
  by_cases hreasons : reasons shadow e.manifest configSha256 bucket = []
  · simp [hreasons, DecisionRoute.name]
  · simp [hreasons, DecisionRoute.name]

theorem CanaryRouteDecision.representable {d : CanaryRouteDecision}
    (hbucket : d.assignmentBucket < 10000) (hbasis : d.canaryBasisPoints ≤ 500) :
    d.contentPayload.representable = true := by
  have hbucket' : (d.assignmentBucket : Int) ≤ 9007199254740991 := by omega
  have hbasis' : (d.canaryBasisPoints : Int) ≤ 9007199254740991 := by omega
  have hpos : ∀ n : Nat, (-9007199254740991 : Int) ≤ n := by omega
  simp [CanaryRouteDecision.contentPayload, CanaryRouteDecision.contentFields,
    Json.representable, Json.representableFields, Json.codes, Json.representableItems_map_str,
    hbucket', hbasis', hpos]

theorem decisionOf_valid (hb : shadow.baselineRoute = .plan baseline)
    (hr : shadow.recommendedRoute = .plan recommended) (hconfig : isSha256 configSha256 = true)
    (hbucket : bucket < 10000) :
    (decisionOf S shadow e configSha256 bucket baseline recommended).Valid S := by
  have hexecutable : shadow.baselineRoute ≠ .blocked := by
    rw [hb]
    exact DecisionRoute.noConfusion
  have hiff := reasons_eq_nil_iff hexecutable e.manifest configSha256 bucket
  obtain ⟨hidentifiers, hnodup⟩ := isSafeId_of_mem_reasons shadow e.manifest configSha256 bucket
  have hsigned := e.authority.authorization.identifiers
  have hreceipt := e.authority.authorization.digests
  have hprofile : isSafeId shadow.profile = true := by
    have hall : ∀ name ∈ profileNames, isSafeId name = true := by decide
    exact hall _ shadow.knownProfile
  refine ⟨?_, hprofile, shadow.taskSignals.identifiers, ?_, shadow.receiptId, ?_,
    ⟨hbucket, e.manifest.basisPoints⟩, ?_, ?_⟩
  · intro digest hdigest
    rw [decisionOf_args hb hr] at hdigest
    simp only [DecisionArgs.digests, decisionArgs, List.mem_cons, List.not_mem_nil,
      or_false] at hdigest
    rcases hdigest with rfl | rfl | rfl | rfl | rfl | rfl | rfl | rfl | rfl | rfl
    · exact shadow.taskFingerprint.2
    · exact shadow.routeReceiptSha256.2
    · exact shadow.runtimePlanSha256.2
    · exact shadow.taskSignals.providerConfigSha256.2
    · exact shadow.decisionSha256.2
    · exact shadow.policyDigest.2
    · exact shadow.scorecardDigest.2
    · exact hconfig
    · exact e.manifest.manifestSha256.2
    · exact hreceipt.2.2.2.2
  · change (∀ r ∈ (decisionArgs shadow e configSha256 bucket).reasonCodes, _) ∧
      (decisionArgs shadow e configSha256 bucket).reasonCodes ≠ [] ∧
      (decisionArgs shadow e configSha256 bucket).reasonCodes.Nodup
    unfold decisionArgs
    by_cases hempty : reasons shadow e.manifest configSha256 bucket = []
    · simp only [hempty, decide_true, if_true]
      decide
    · simp only [hempty, decide_false]
      exact ⟨hidentifiers, hempty, hnodup⟩
  · change isSafeId (strip e.authority.authorization.operatorKeyId) = true
    rw [strip_of_isSafeId hsigned.2]
    exact hsigned.2
  · change checkApplication (decisionArgs shadow e configSha256 bucket).applied
      (decisionArgs shadow e configSha256 bucket).abstained baseline
      (if (decisionArgs shadow e configSha256 bucket).applied then recommended else baseline)
      recommended bucket e.manifest.canaryBasisPoints = .ok ()
    unfold decisionArgs checkApplication
    by_cases hempty : reasons shadow e.manifest configSha256 bucket = []
    · have hpermitted := hiff.mp hempty
      obtain ⟨r, b, hr', hb', hrank⟩ := hpermitted.lessPremium
      rw [hr] at hr'
      rw [hb] at hb'
      cases hr'
      cases hb'
      simp only [hempty, decide_true, if_true]
      exact check_bind_eq_ok.mpr ⟨⟨rfl, trivial⟩, check_bind_eq_ok.mpr ⟨hrank,
        check_of hpermitted.cohort⟩⟩
    · simp only [hempty, decide_false, Bool.false_eq_true, if_false]
      exact check_of ⟨trivial, rfl⟩
  · exact S.canonicalSha256_of_representable
      (CanaryRouteDecision.representable hbucket e.manifest.basisPoints.2)

theorem canaryAssignmentBucket_lt {secret : List UInt8} {fingerprint : String}
    (h : canaryAssignmentBucket S secret fingerprint = .ok bucket) : bucket < 10000 := by
  simp only [canaryAssignmentBucket, bind_eq_ok, pure_eq_ok_iff] at h
  obtain ⟨_, -, _, -, rfl⟩ := h
  exact Nat.mod_lt _ (by decide)

theorem isSha256_of_checks (h : e.checks S shadow = .ok configSha256) :
    isSha256 configSha256 = true := by
  simp only [Evaluation.checks, bind_eq_ok, pure_eq_ok_iff, requireSha256_eq_ok] at h
  obtain ⟨_, -, _, -, _, -, _, -, _, ⟨hsha, rfl⟩, _, -, _, -, rfl⟩ := h
  exact hsha

theorem decideRouteCanary_eq_ok (hb : shadow.baselineRoute = .plan baseline)
    (hr : shadow.recommendedRoute = .plan recommended)
    (hchecks : e.checks S shadow = .ok configSha256)
    (hbucket : canaryAssignmentBucket S e.assignmentSecret shadow.taskFingerprint.val =
      .ok bucket) : decideRouteCanary S shadow e =
      .ok (decisionOf S shadow e configSha256 bucket baseline recommended) := by
  have hvalid := decisionOf_valid (S := S) (e := e) hb hr (isSha256_of_checks hchecks)
    (canaryAssignmentBucket_lt hbucket)
  have hmake := CanaryRouteDecision.make_args hvalid
  rw [decisionOf_args hb hr] at hmake
  simp only [decideRouteCanary, hchecks, hbucket, ok_bind]
  exact hmake

theorem decideRouteCanary_blocked (hblocked : shadow.baselineRoute = .blocked)
    (d : CanaryRouteDecision) : decideRouteCanary S shadow e ≠ .ok d := by
  intro h
  simp only [decideRouteCanary, CanaryRouteDecision.make, bind_eq_ok] at h
  obtain ⟨_, -, _, -, _, -, _, -, _, -, _, -, _, hbaseline, -⟩ := h
  have hnone : RoutePlan.ofName "blocked" = none := by decide
  unfold decisionArgs at hbaseline
  rw [hblocked] at hbaseline
  change require (RoutePlan.ofName "blocked") _ = _ at hbaseline
  rw [hnone] at hbaseline
  cases hbaseline

/-- What the call promises of one evaluation. -/
def Faithful (S : Stdlib) (shadow : ShadowRouteDecision) (e : Evaluation)
    (configSha256 : String) (bucket : Nat) : Prop :=
  ∃ d, decideRouteCanary S shadow e = .ok d ∧
    CanaryRouteDecision.fromPayload S d.payload = .ok d ∧
    (d.applied = true ↔ Permitted shadow e.manifest configSha256 bucket) ∧
    (d.applied = true → .plan d.effectiveRoute = shadow.recommendedRoute) ∧
    (d.applied = false → .plan d.effectiveRoute = shadow.baselineRoute) ∧
    ∀ e', e'.checks S shadow = .ok configSha256 → e'.assignmentSecret = e.assignmentSecret →
      e'.manifest.enabledCells = e.manifest.enabledCells →
      e.manifest.canaryBasisPoints ≤ e'.manifest.canaryBasisPoints → d.applied = true →
      ∃ d', decideRouteCanary S shadow e' = .ok d' ∧ d'.applied = true

/-- Past the checks of authority, window, secret and lineage, the call keeps its promise
exactly when the baseline of the shadow decision can be executed. -/
theorem faithful_iff_executable (S : Stdlib) (shadow : ShadowRouteDecision) (e : Evaluation)
    (configSha256 : String) (bucket : Nat) (hchecks : e.checks S shadow = .ok configSha256)
    (hbucket : canaryAssignmentBucket S e.assignmentSecret shadow.taskFingerprint.val =
      .ok bucket) : Faithful S shadow e configSha256 bucket ↔ shadow.baselineRoute ≠ .blocked := by
  constructor
  · rintro ⟨d, hd, -⟩ hblocked
    exact decideRouteCanary_blocked hblocked d hd
  · intro hexecutable
    obtain ⟨baseline, hb⟩ : ∃ baseline, shadow.baselineRoute = .plan baseline := by
      cases hb : shadow.baselineRoute with
      | blocked => exact absurd hb hexecutable
      | plan baseline => exact ⟨baseline, rfl⟩
    obtain ⟨recommended, hr⟩ : ∃ recommended, shadow.recommendedRoute = .plan recommended := by
      cases hr : shadow.recommendedRoute with
      | blocked => exact absurd hr (shadow.executable hexecutable).1
      | plan recommended => exact ⟨recommended, rfl⟩
    have happlied : ∀ e : Evaluation, (decisionOf S shadow e configSha256 bucket baseline
        recommended).applied = true ↔ Permitted shadow e.manifest configSha256 bucket := by
      intro e
      rw [← reasons_eq_nil_iff hexecutable]
      exact decide_eq_true_iff
    refine ⟨_, decideRouteCanary_eq_ok hb hr hchecks hbucket,
      CanaryRouteDecision.fromPayload_payload (decisionOf_valid hb hr
        (isSha256_of_checks hchecks) (canaryAssignmentBucket_lt hbucket)),
      happlied e, fun h => ?_, fun h => ?_, ?_⟩
    · rw [hr]
      exact congrArg DecisionRoute.plan (if_pos h)
    · rw [hb]
      refine congrArg DecisionRoute.plan (if_neg ?_)
      rw [Bool.not_eq_true]
      exact h
    · intro e' hchecks' hsecret hcells hcohort h
      refine ⟨_, decideRouteCanary_eq_ok hb hr hchecks' (hsecret ▸ hbucket), ?_⟩
      exact (happlied e').mpr (((happlied e).mp h).mono hcells hcohort)

end Theorems

/-! ### A blocked and an executable baseline -/

section Sample

variable (S : Stdlib)

def sampleSecret : List UInt8 := List.replicate 32 7

local instance neZero_days : NeZero 31 := ⟨by decide⟩

def sampleEvaluation : Evaluation where
  manifest := { sampleManifest with
    assignmentSaltSha256 := ⟨S.sha256 sampleSecret, S.sha256_hex _⟩ }
  authority := ⟨sampleAuthorization S, sampleTime 2, sampleDigest⟩
  bridgeConfigSha256 := sampleDigest.val
  assignmentSecret := sampleSecret
  evaluatedAt := .ok (sampleTime 2)

def sampleSignals : TaskSignals where
  requestFingerprint := sampleDigest
  capabilities := {"code"}
  difficulty := .simple
  providerConfigSha256 := sampleDigest
  identifiers := sampleCell.identifiers

def sampleBlocked : ShadowRouteDecision where
  profile := "balanced"
  routeReceiptId := "route"
  routeReceiptSha256 := sampleDigest
  runtimePlanSha256 := sampleDigest
  taskFingerprint := sampleDigest
  taskSignals := sampleSignals
  baselineRoute := .blocked
  recommendedRoute := .blocked
  abstained := true
  candidates := []
  policyDigest := sampleDigest
  scorecardDigest := sampleDigest
  decisionSha256 := sampleDigest
  knownProfile := by decide
  receiptId := by decide
  taskBound := rfl
  blocked _ := ⟨rfl, rfl, rfl⟩
  executable h := absurd rfl h

def sampleCandidate (route : RoutePlan) : CandidateRouteScore where
  route := route
  hardEligible := true
  paretoEligible := false
  utility := none
  rejectionCodes := []
  pareto := nofun
  ineligible := nofun

def sampleShadow : ShadowRouteDecision :=
  { sampleBlocked with
    baselineRoute := .plan .premium
    recommendedRoute := .plan .premium
    candidates := [RoutePlan.localOnly, .localThenVerify, .premium].map sampleCandidate
    blocked := nofun
    executable := fun _ => ⟨nofun, rfl, fun _ => rfl, nofun⟩ }

theorem sampleEvaluation_checks (hpolicy : shadow.policyDigest = sampleDigest)
    (hscorecard : shadow.scorecardDigest = sampleDigest) :
    (sampleEvaluation S).checks S shadow = .ok sampleDigest.val := by
  have hwindow : ((sampleTime 1).ordinal ≤ (sampleTime 2).ordinal ∧
      (sampleTime 2).ordinal < (sampleTime 29).ordinal) ∧
      (sampleTime 0).ordinal ≤ (sampleTime 2).ordinal ∧
      (sampleTime 2).ordinal < (sampleTime 30).ordinal := by decide
  have hcap : (100 : Nat) ≤ 500 := by decide
  unfold Evaluation.checks
  exact bind_eq_ok.mpr ⟨_, rfl, check_bind_eq_ok.mpr ⟨rfl, check_bind_eq_ok.mpr ⟨hwindow,
    check_bind_eq_ok.mpr ⟨hcap, bind_eq_ok.mpr ⟨_, requireSha256_of_isSha256 sampleDigest.2,
    check_bind_eq_ok.mpr ⟨rfl, check_bind_eq_ok.mpr ⟨⟨hpolicy, hscorecard, rfl, rfl⟩,
    rfl⟩⟩⟩⟩⟩⟩⟩

theorem sampleBucket : ∃ bucket,
    canaryAssignmentBucket S sampleSecret sampleDigest.val = .ok bucket := by
  refine ⟨_, check_bind_eq_ok.mpr ⟨by decide, bind_eq_ok.mpr ⟨_,
    requireSha256_of_isSha256 sampleDigest.2, rfl⟩⟩⟩

end Sample

theorem sampleBlocked_raises :
    (sampleEvaluation Stdlib.cpython).checks Stdlib.cpython sampleBlocked = .ok sampleDigest.val ∧
      (∃ bucket, canaryAssignmentBucket Stdlib.cpython sampleSecret sampleDigest.val = .ok bucket) ∧
      ¬ ∃ d, decideRouteCanary Stdlib.cpython sampleBlocked
        (sampleEvaluation Stdlib.cpython) = .ok d := by
  generalize Stdlib.cpython = S
  refine ⟨sampleEvaluation_checks S rfl rfl, sampleBucket S, ?_⟩
  rintro ⟨d, hd⟩
  exact decideRouteCanary_blocked rfl d hd

theorem sampleShadow_faithful :
    ∃ bucket, Faithful Stdlib.cpython sampleShadow (sampleEvaluation Stdlib.cpython)
      sampleDigest.val bucket := by
  generalize Stdlib.cpython = S
  obtain ⟨bucket, hbucket⟩ := sampleBucket S
  exact ⟨bucket, (faithful_iff_executable S sampleShadow (sampleEvaluation S) _ bucket
    (sampleEvaluation_checks S rfl rfl) hbucket).mpr nofun⟩

end LocalMoe.Canary
