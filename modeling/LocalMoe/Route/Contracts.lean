/-
  `route_policy.py` and what it is told: policies, scorecards, task signals, and the shadow
  decision with its candidates.

  Numbers are exact.
-/
import LocalMoe.Canary.Decision
import LocalMoe.Foundation.Pareto
import LocalMoe.Foundation.Rounding
import LocalMoe.Speculative.Document

namespace LocalMoe.Route

open Foundation Contracts
open Canary (RoutePlan Difficulty DecisionRoute profileNames)
open Speculative (Conversions)

abbrev Document := Speculative.Value

/-! ## Policies -/

structure RoutePolicyWeights where
  quality : ℚ
  cost : ℚ
  latency : ℚ
  egress : ℚ
  premium : ℚ
  quality_nonneg : 0 ≤ quality
  cost_nonneg : 0 ≤ cost
  latency_nonneg : 0 ≤ latency
  egress_nonneg : 0 ≤ egress
  premium_nonneg : 0 ≤ premium
  total_pos : 0 < quality + cost + latency + egress + premium

def RoutePolicyWeights.total (w : RoutePolicyWeights) : ℚ :=
  w.quality + w.cost + w.latency + w.egress + w.premium

structure RouteProfilePolicy where
  weights : RoutePolicyWeights
  minSuccessRate : ℚ
  minSamples : Nat
  minConfidence : ℚ
  success_range : 0 ≤ minSuccessRate ∧ minSuccessRate ≤ 1
  samples_pos : 0 < minSamples
  confidence_range : 0 ≤ minConfidence ∧ minConfidence ≤ 1

structure RoutePolicyNormalization where
  costUsd : ℚ
  latencyMs : ℚ
  egressChars : ℚ
  premiumCalls : ℚ
  cost_pos : 0 < costUsd
  latency_pos : 0 < latencyMs
  egress_pos : 0 < egressChars
  premium_pos : 0 < premiumCalls

structure VerifiedRoutePolicy where
  profiles : String → Option RouteProfilePolicy
  normalization : RoutePolicyNormalization
  digest : Digest
  profile_names : ∀ name, (profiles name).isSome = true ↔ name ∈ profileNames

/-! ## Scorecards -/

structure ScoreKey where
  configSha256 : String
  signalProviderConfigSha256 : String
  runtimePlanSha256 : String
  route : RoutePlan
  capabilities : List String
  difficulty : Difficulty
  deriving DecidableEq

structure RouteScorecardEntry where
  key : ScoreKey
  verifiedSamples : Nat
  successRate : ℚ
  p95LatencyMs : ℚ
  meanTokens : ℚ
  costSampleCount : Nat
  meanCostUsd : Option ℚ
  meanPremiumCalls : ℚ
  meanEgressChars : ℚ
  samples_pos : 0 < verifiedSamples
  success_range : 0 ≤ successRate ∧ successRate ≤ 1
  latency_nonneg : 0 ≤ p95LatencyMs
  tokens_nonneg : 0 ≤ meanTokens
  premium_nonneg : 0 ≤ meanPremiumCalls
  egress_nonneg : 0 ≤ meanEgressChars
  cost_samples : costSampleCount ≤ verifiedSamples
  cost_nonneg : ∀ cost ∈ meanCostUsd, 0 ≤ cost
  cost_present : costSampleCount = 0 ↔ meanCostUsd = none

/-- What a shadow decision reads of `RouteScorecard`; its times are instants. -/
structure RouteScorecard where
  generatedAt : Int
  expiresAt : Int
  entries : List RouteScorecardEntry
  digest : Digest
  unique : (entries.map RouteScorecardEntry.key).Nodup

def RouteScorecard.conservativeEntry (scorecard : RouteScorecard) (key : ScoreKey) :
    Option RouteScorecardEntry :=
  scorecard.entries.find? fun entry => entry.key = key

/-! ## Identifiers -/

/-- A list of identifiers as `require_identifier_tuple` returns it. -/
def Identifiers (items : List String) : Prop :=
  (∀ item ∈ items, isSafeId item = true) ∧ items.Nodup

instance (items : List String) : Decidable (Identifiers items) := by
  unfold Identifiers
  infer_instance

/-- `require_identifier_tuple` on texts. -/
def requireIdentifierTuple (items : List String) (label : String) :
    Except ContractError {items : List String // Identifiers items} :=
  if h : Identifiers (items.map strip) then .ok ⟨items.map strip, h⟩
  else if ∀ item ∈ items.map strip, isSafeId item = true then
    .error ⟨label ++ " must not contain duplicates."⟩
  else .error ⟨label ++ " must be a safe identifier."⟩

theorem requireIdentifierTuple_of {items : List String} (h : Identifiers items)
    (label : String) : requireIdentifierTuple items label = .ok ⟨items, h⟩ := by
  have hstrip : items.map strip = items := by
    refine (List.map_congr_left fun item hitem => ?_).trans (List.map_id items)
    exact Canary.strip_of_isSafeId (h.1 item hitem)
  unfold requireIdentifierTuple
  have hsafe : Identifiers (items.map strip) := hstrip.symm ▸ h
  rw [dif_pos hsafe]
  exact congrArg Except.ok (Subtype.ext hstrip)

/-! ## Task signals -/

@[ext]
structure TaskSignals where
  requestFingerprint : Digest
  capabilities : List String
  difficulty : Difficulty
  confidence : ℚ
  abstained : Bool
  source : SafeId
  providerConfigSha256 : Digest
  objectiveChars : Nat
  contextTokens : Nat
  constraintCount : Nat
  toolCount : Nat
  identifiers : Identifiers capabilities
  sorted : capabilities.Pairwise (· ≤ ·)
  confidence_range : 0 ≤ confidence ∧ confidence ≤ 1
  deriving DecidableEq

def TaskSignals.contentFields (s : TaskSignals) : List (String × Document) :=
  [("schema_version", .text contractVersion), ("contract", .text "TaskSignals"),
    ("request_fingerprint", .text s.requestFingerprint.val),
    ("capabilities", .list (s.capabilities.map .text)),
    ("difficulty", .text s.difficulty.name), ("confidence", .number s.confidence),
    ("abstained", .bool s.abstained), ("source", .text s.source.val),
    ("provider_config_sha256", .text s.providerConfigSha256.val),
    ("objective_chars", .int s.objectiveChars), ("context_tokens", .int s.contextTokens),
    ("constraint_count", .int s.constraintCount), ("tool_count", .int s.toolCount)]

def TaskSignals.fields (L : Conversions) (s : TaskSignals) : List (String × Document) :=
  s.contentFields ++ [("signals_sha256", .text (L.sha256Json s.contentFields))]

/-! ## Candidates -/

structure CandidateRouteScore where
  route : RoutePlan
  hardEligible : Bool
  paretoEligible : Bool
  utility : Option ℚ
  verifiedSamples : Option Nat
  successRate : Option ℚ
  p95LatencyMs : Option ℚ
  meanTokens : Option ℚ
  costSampleCount : Option Nat
  meanCostUsd : Option ℚ
  meanPremiumCalls : Option ℚ
  meanEgressChars : Option ℚ
  rejectionCodes : List String
  deriving DecidableEq

/-- `_optional_metric` with the least value zero. -/
def checkNonNegative (value : Option ℚ) (label : String) : Except ContractError Unit :=
  check (∀ q ∈ value, 0 ≤ q) (⟨label ++ " must be >= 0.0."⟩ : ContractError)

namespace CandidateRouteScore

/-- The metrics of a candidate, but for its number of samples. -/
def Unmeasured (c : CandidateRouteScore) : Prop :=
  c.successRate = none ∧ c.p95LatencyMs = none ∧ c.meanTokens = none ∧
    c.costSampleCount = none ∧ c.meanCostUsd = none ∧ c.meanPremiumCalls = none ∧
    c.meanEgressChars = none

instance (c : CandidateRouteScore) : Decidable c.Unmeasured := by
  unfold Unmeasured
  infer_instance

/-- The part of `__post_init__` on the evidence. -/
def checkEvidence (c : CandidateRouteScore) : Except ContractError Unit :=
  match c.verifiedSamples with
  | none =>
    check c.Unmeasured
      (⟨"Candidate metrics require verified sample evidence."⟩ : ContractError)
  | some samples => do
    check (samples ≠ 0)
      (⟨"Candidate verified_samples must be positive when present."⟩ : ContractError)
    let incomplete : ContractError :=
      ⟨"Candidate sample evidence requires complete metrics."⟩
    check (c.successRate.isSome ∧ c.p95LatencyMs.isSome ∧ c.meanTokens.isSome ∧
      c.meanPremiumCalls.isSome ∧ c.meanEgressChars.isSome) incomplete
    match c.costSampleCount with
    | none => .error incomplete
    | some count => do
      check (count ≤ samples)
        (⟨"Candidate cost samples cannot exceed verified samples."⟩ : ContractError)
      check (count = 0 ↔ c.meanCostUsd = none)
        (⟨"Candidate mean cost must be present exactly when cost samples exist."⟩ :
          ContractError)

/-- `CandidateRouteScore(...)`. -/
def construct (c : CandidateRouteScore) : Except ContractError CandidateRouteScore := do
  checkNonNegative c.successRate "candidate success_rate"
  check (∀ q ∈ c.successRate, q ≤ 1)
    (⟨"candidate success_rate must be <= 1.0."⟩ : ContractError)
  checkNonNegative c.p95LatencyMs "candidate p95_latency_ms"
  checkNonNegative c.meanTokens "candidate mean_tokens"
  checkNonNegative c.meanCostUsd "candidate mean_cost_usd"
  checkNonNegative c.meanPremiumCalls "candidate mean_premium_calls"
  checkNonNegative c.meanEgressChars "candidate mean_egress_chars"
  let rejections ← requireIdentifierTuple c.rejectionCodes "candidate rejection_codes"
  c.checkEvidence
  check (c.paretoEligible = true →
      c.hardEligible = true ∧ c.utility ≠ none ∧ rejections.val = [])
    (⟨"Pareto candidates must be hard-eligible, scored, and unrejected."⟩ : ContractError)
  check (c.hardEligible = false →
      c.paretoEligible = false ∧ c.utility = none ∧ rejections.val ≠ [])
    (⟨"Hard-ineligible candidates must be rejected and unscored."⟩ : ContractError)
  return { c with rejectionCodes := rejections.val }

def fields (c : CandidateRouteScore) : List (String × Document) :=
  [("route", .text c.route.name), ("hard_eligible", .bool c.hardEligible),
    ("pareto_eligible", .bool c.paretoEligible), ("utility", .ofNumber c.utility),
    ("verified_samples", c.verifiedSamples.elim .null fun n => .int n),
    ("success_rate", .ofNumber c.successRate), ("p95_latency_ms", .ofNumber c.p95LatencyMs),
    ("mean_tokens", .ofNumber c.meanTokens),
    ("cost_sample_count", c.costSampleCount.elim .null fun n => .int n),
    ("mean_cost_usd", .ofNumber c.meanCostUsd),
    ("mean_premium_calls", .ofNumber c.meanPremiumCalls),
    ("mean_egress_chars", .ofNumber c.meanEgressChars),
    ("rejection_codes", .list (c.rejectionCodes.map .text))]

end CandidateRouteScore

/-! ## Decisions -/

/-- What a shadow decision is constructed from. -/
structure ShadowRouteContent where
  profile : String
  routeReceiptId : String
  routeReceiptSha256 : String
  runtimePlanSha256 : String
  taskFingerprint : String
  taskSignals : TaskSignals
  baselineRoute : DecisionRoute
  recommendedRoute : DecisionRoute
  applied : Bool
  abstained : Bool
  reasonCodes : List String
  candidates : List CandidateRouteScore
  policyDigest : String
  scorecardDigest : String

structure ShadowRouteDecision extends ShadowRouteContent where
  decisionSha256 : String

def ShadowRouteContent.contentFields (L : Conversions) (d : ShadowRouteContent) :
    List (String × Document) :=
  [("schema_version", .text contractVersion), ("contract", .text "ShadowRouteDecision"),
    ("mode", .text "shadow"), ("profile", .text d.profile),
    ("route_receipt_id", .text d.routeReceiptId),
    ("route_receipt_sha256", .text d.routeReceiptSha256),
    ("runtime_plan_sha256", .text d.runtimePlanSha256),
    ("task_fingerprint", .text d.taskFingerprint),
    ("task_signals", .object (d.taskSignals.fields L)),
    ("baseline_route", .text d.baselineRoute.name),
    ("recommended_route", .text d.recommendedRoute.name), ("applied", .bool d.applied),
    ("abstained", .bool d.abstained), ("reason_codes", .list (d.reasonCodes.map .text)),
    ("candidates", .list (d.candidates.map fun c => .object c.fields)),
    ("policy_digest", .text d.policyDigest), ("scorecard_digest", .text d.scorecardDigest)]

def ShadowRouteDecision.payload (L : Conversions) (d : ShadowRouteDecision) : Document :=
  .object (d.contentFields L ++ [("decision_sha256", .text d.decisionSha256)])

def routePlans : List RoutePlan := [.localOnly, .localThenVerify, .premium]

/-- The part of `__post_init__` on the routes. -/
def ShadowRouteContent.checkRoutes (d : ShadowRouteContent) : Except ContractError Unit := do
  let routes := d.candidates.map CandidateRouteScore.route
  check routes.Nodup
    (⟨"Shadow decision candidate routes must be unique."⟩ : ContractError)
  check (routes.Pairwise fun a b => a.rank ≤ b.rank)
    (⟨"Shadow decision candidates must be canonical."⟩ : ContractError)
  if d.baselineRoute = .blocked then
    check (d.recommendedRoute = .blocked ∧ d.abstained = true ∧ d.candidates = [])
      (⟨"Blocked decisions must abstain, remain blocked, and contain no candidates."⟩ :
        ContractError)
  else do
    check (d.recommendedRoute ≠ .blocked)
      (⟨"Executable receipt decisions cannot recommend blocked."⟩ : ContractError)
    check (routes = routePlans)
      (⟨"Executable receipt decisions must contain every route candidate."⟩ : ContractError)
    check (d.abstained = true → d.recommendedRoute = d.baselineRoute)
      (⟨"Abstained decisions must retain the baseline route."⟩ : ContractError)
    check (d.abstained = false → ∃ c ∈ d.candidates, .plan c.route = d.recommendedRoute ∧
        c.hardEligible = true ∧ c.paretoEligible = true ∧ c.utility ≠ none ∧
        c.rejectionCodes = [])
      (⟨"A non-abstained recommendation must select an eligible Pareto candidate."⟩ :
        ContractError)

/-- `ShadowRouteDecision(...)`. -/
def ShadowRouteContent.construct (L : Conversions) (d : ShadowRouteContent) :
    Except ContractError ShadowRouteDecision := do
  check (d.profile ∈ profileNames)
    (⟨"Shadow decision profile is unsupported."⟩ : ContractError)
  let _ ← requireSafeId d.routeReceiptId "route_receipt_id"
  let _ ← requireSha256 d.routeReceiptSha256 "route_receipt_sha256"
  let _ ← requireSha256 d.runtimePlanSha256 "runtime_plan_sha256"
  let _ ← requireSha256 d.taskFingerprint "task_fingerprint"
  let _ ← requireSha256 d.policyDigest "policy_digest"
  let _ ← requireSha256 d.scorecardDigest "scorecard_digest"
  check (d.taskSignals.requestFingerprint.val = d.taskFingerprint)
    (⟨"Shadow decision task signals are not task-bound."⟩ : ContractError)
  check (d.applied = false) (⟨"Shadow decisions can never apply a route."⟩ : ContractError)
  let reasons ← requireIdentifierTuple d.reasonCodes "reason_codes"
  d.checkRoutes
  let content := { d with reasonCodes := reasons.val }
  return { content with decisionSha256 := L.sha256Json (content.contentFields L) }

end LocalMoe.Route
