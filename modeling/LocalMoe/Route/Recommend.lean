/-
  `recommend_shadow_route`: what a route is rejected for, its utility, the routes that no other
  dominates, and the recommendation.

  The receipt is one whose payload and view have passed `_route_receipt_payload` and
  `_validate_receipt_view`; the signal provider is taken from outside.
-/
import LocalMoe.Route.Document

namespace LocalMoe.Route

open Foundation Contracts
open Canary (RoutePlan Difficulty DecisionRoute profileNames)
open Speculative (Conversions)

/-- What a recommendation reads of a route receipt. -/
structure RouteReceipt where
  receiptId : SafeId
  route : String
  configSha256 : Digest
  localGaps : List String
  premiumGaps : List String
  remoteAllowed : Bool
  premiumCallBudget : Nat
  taskFingerprint : Digest
  profile : String
  requiredCapabilities : List String
  /-- `sha256_json(receipt_payload)`. -/
  payloadSha256 : Digest
  /-- `runtime_plan_sha256(receipt_payload)`. -/
  runtimePlanSha256 : Digest

/-- `TaskSignalProvider.signals_from_metadata` on the task of a receipt. -/
abbrev TaskSignalProvider := RouteReceipt → Except ContractError TaskSignals

/-- The policy of the profile, once receipt, signals and profile belong together. Two payloads
are equal when the signals are. -/
def checkBinding (provider : TaskSignalProvider) (receipt : RouteReceipt) (signals : TaskSignals)
    (policy : VerifiedRoutePolicy) (profile : String) :
    Except ContractError RouteProfilePolicy := do
  match policy.profiles profile with
  | none => .error ⟨"Unknown route policy profile."⟩
  | some profilePolicy => do
    check (receipt.requiredCapabilities.insertionSort (· ≤ ·) = signals.capabilities)
      (⟨"Task signal capabilities do not exactly match the route receipt."⟩ : ContractError)
    let expected ← provider receipt
    check (expected = signals)
      (⟨"Task signals do not match the configured signal provider."⟩ : ContractError)
    check (receipt.profile = profile)
      (⟨"Route policy profile does not match the receipt."⟩ : ContractError)
    check (receipt.taskFingerprint = signals.requestFingerprint)
      (⟨"Task signals do not match the receipt."⟩ : ContractError)
    return profilePolicy

def isStale (scorecard : RouteScorecard) (now : Int) : Bool :=
  decide (now < scorecard.generatedAt) || decide (scorecard.expiresAt ≤ now)

/-- The texts of the flags that are set. -/
def flagged (flags : List (Bool × String)) : List String := (flags.filter Prod.fst).map Prod.snd

/-- `route in {"local", "local_then_verify"}`. -/
def usesLocal (route : RoutePlan) : Bool := route ≠ .premium

/-- `route in {"local_then_verify", "premium"}`. -/
def usesRemote (route : RoutePlan) : Bool := route ≠ .localOnly

/-- `_hard_rejections` of a route. -/
def hardRejections (receipt : RouteReceipt) (profile : String) (route : RoutePlan) :
    List String :=
  flagged
    [(profile = "offline" && usesRemote route, "offline_remote_forbidden"),
      (usesLocal route && receipt.localGaps ≠ [], "local_capability_gap"),
      (usesRemote route && receipt.premiumGaps ≠ [], "premium_capability_gap"),
      (usesRemote route && !receipt.remoteAllowed, "remote_not_allowed"),
      (usesRemote route && receipt.premiumCallBudget = 0, "premium_budget_unavailable")]

def unit (value : ℚ) : ℚ := min 1 (max 0 value)

def utility (entry : RouteScorecardEntry) (profile : RouteProfilePolicy)
    (normalization : RoutePolicyNormalization) : Except ContractError ℚ := do
  let weights := profile.weights
  check (¬ (0 < weights.cost ∧ entry.meanCostUsd = none))
    (⟨"Cost-weighted utility requires complete cost evidence."⟩ : ContractError)
  let costUsd := entry.meanCostUsd.getD 0
  let reward := weights.quality * entry.successRate
  let penalties := weights.cost * unit (costUsd / normalization.costUsd) +
    weights.latency * unit (entry.p95LatencyMs / normalization.latencyMs) +
    weights.egress * unit (entry.meanEgressChars / normalization.egressChars) +
    weights.premium * unit (entry.meanPremiumCalls / normalization.premiumCalls)
  return roundPlaces 12 ((reward - penalties) / weights.total)

def candidateScore (route : RoutePlan) (entry : Option RouteScorecardEntry) (hardEligible : Bool)
    (rejections : List String) (profile : RouteProfilePolicy)
    (normalization : RoutePolicyNormalization) : Except ContractError CandidateRouteScore := do
  let utility ← match entry with
    | some entry =>
      if rejections = [] then some <$> utility entry profile normalization else .ok none
    | none => .ok none
  CandidateRouteScore.construct {
    route, hardEligible, utility
    paretoEligible := false
    verifiedSamples := entry.map RouteScorecardEntry.verifiedSamples
    successRate := entry.map RouteScorecardEntry.successRate
    p95LatencyMs := entry.map RouteScorecardEntry.p95LatencyMs
    meanTokens := entry.map RouteScorecardEntry.meanTokens
    costSampleCount := entry.map RouteScorecardEntry.costSampleCount
    meanCostUsd := entry.bind RouteScorecardEntry.meanCostUsd
    meanPremiumCalls := entry.map RouteScorecardEntry.meanPremiumCalls
    meanEgressChars := entry.map RouteScorecardEntry.meanEgressChars
    rejectionCodes := rejections }

/-- What the scorecard's entry is rejected for, and whether the decision abstains for it. -/
def evidenceRejection (profile : RouteProfilePolicy) :
    Option RouteScorecardEntry → Option (String × Bool)
  | none => some ("scorecard_out_of_distribution", true)
  | some entry =>
    if entry.verifiedSamples < profile.minSamples then
      some ("insufficient_verified_samples", true)
    else if 0 < profile.weights.cost ∧
        (entry.meanCostUsd = none ∨ entry.costSampleCount < entry.verifiedSamples) then
      some ("incomplete_cost_evidence", true)
    else if entry.successRate < profile.minSuccessRate then
      some ("success_below_profile_minimum", false)
    else none

/-- The key under which the evidence of a route is looked up. -/
def scoreKey (receipt : RouteReceipt) (signals : TaskSignals) (route : RoutePlan) : ScoreKey where
  configSha256 := receipt.configSha256.val
  signalProviderConfigSha256 := signals.providerConfigSha256.val
  runtimePlanSha256 := receipt.runtimePlanSha256.val
  route := route
  capabilities := signals.capabilities
  difficulty := signals.difficulty

/-- One round of the loop over the routes: the candidate, and whether the decision abstains for
lack of evidence. -/
def scoreRoute (receipt : RouteReceipt) (signals : TaskSignals) (scorecard : RouteScorecard)
    (profile : String) (profilePolicy : RouteProfilePolicy)
    (normalization : RoutePolicyNormalization) (stale : Bool) (route : RoutePlan) :
    Except ContractError (CandidateRouteScore × Bool) := do
  let hard := hardRejections receipt profile route
  if hard ≠ [] ∨ stale = true then
    let candidate ← candidateScore route none (hard = []) hard profilePolicy normalization
    return (candidate, false)
  else
    let entry := scorecard.conservativeEntry (scoreKey receipt signals route)
    match evidenceRejection profilePolicy entry with
    | some (code, abstain) => do
      let candidate ← candidateScore route entry true [code] profilePolicy normalization
      return (candidate, abstain)
    | none => do
      let candidate ← candidateScore route entry true [] profilePolicy normalization
      return (candidate, false)

/-! ## Dominance -/

def requiredMetric (value : Option ℚ) (label : String) : Except ContractError ℚ :=
  match value with
  | none => .error ⟨"Pareto filtering requires " ++ label ++ " evidence."⟩
  | some q => .ok q

/-- The metrics of the positive weights, the greater the better. -/
def metricVector (candidate : CandidateRouteScore) (weights : RoutePolicyWeights) :
    Except ContractError (List ℚ) :=
  let metrics : List (ℚ × Except ContractError ℚ) :=
    [(weights.quality, requiredMetric candidate.successRate "success_rate"),
      (weights.cost, Neg.neg <$> requiredMetric candidate.meanCostUsd "mean_cost_usd"),
      (weights.latency, Neg.neg <$> requiredMetric candidate.p95LatencyMs "p95_latency_ms"),
      (weights.egress, Neg.neg <$> requiredMetric candidate.meanEgressChars "mean_egress_chars"),
      (weights.premium,
        Neg.neg <$> requiredMetric candidate.meanPremiumCalls "mean_premium_calls")]
  (metrics.filter fun metric => 0 < metric.1).mapM Prod.snd

def dominates (left right : CandidateRouteScore) (weights : RoutePolicyWeights) :
    Except ContractError Bool := do
  let leftValues ← metricVector left weights
  let rightValues ← metricVector right weights
  return Pareto.dominates leftValues rightValues

/-- `other.route != candidate.route and _dominates(other, candidate, weights)`. -/
def beats (weights : RoutePolicyWeights) (other candidate : CandidateRouteScore) :
    Except ContractError Bool :=
  if other.route = candidate.route then .ok false else dominates other candidate weights

/-- Whether any of the candidates beats the one. -/
def isDominated (weights : RoutePolicyWeights) (candidate : CandidateRouteScore) :
    List CandidateRouteScore → Except ContractError Bool
  | [] => .ok false
  | other :: rest => do
    let beaten ← beats weights other candidate
    if beaten then return true else isDominated weights candidate rest

/-- The routes of the candidates that are left, where none of all dominates them. -/
def undominatedRoutes (weights : RoutePolicyWeights) (all : List CandidateRouteScore) :
    List CandidateRouteScore → Except ContractError (List RoutePlan)
  | [] => .ok []
  | candidate :: rest => do
    let dominated ← isDominated weights candidate all
    let routes ← undominatedRoutes weights all rest
    return if dominated then routes else candidate.route :: routes

def paretoRoutes (candidates : List CandidateRouteScore) (weights : RoutePolicyWeights) :
    Except ContractError (List RoutePlan) :=
  undominatedRoutes weights candidates candidates

def withPareto (candidate : CandidateRouteScore) (paretoEligible : Bool) :
    Except ContractError CandidateRouteScore :=
  let rejections :=
    if paretoEligible = false ∧ candidate.rejectionCodes = [] ∧ candidate.utility ≠ none then
      ["pareto_dominated"]
    else candidate.rejectionCodes
  CandidateRouteScore.construct { candidate with
    paretoEligible := paretoEligible
    rejectionCodes := rejections }

/-- The order of the finalists: by utility, then the baseline, then the routes. -/
def winnerKey (baseline : RoutePlan) (candidate : CandidateRouteScore) : ℚ ×ₗ ℕ ×ₗ ℕ :=
  toLex (-(candidate.utility.getD 0),
    toLex (if candidate.route = baseline then 0 else 1, candidate.route.rank))

/-! ## The recommendation -/

def decision (L : Conversions) (receipt : RouteReceipt) (signals : TaskSignals)
    (scorecard : RouteScorecard) (policy : VerifiedRoutePolicy) (profile : String)
    (baseline recommended : DecisionRoute) (abstained : Bool) (reasons : List String)
    (candidates : List CandidateRouteScore) : Except ContractError ShadowRouteDecision :=
  ShadowRouteContent.construct L {
    profile
    routeReceiptId := receipt.receiptId.val
    routeReceiptSha256 := receipt.payloadSha256.val
    runtimePlanSha256 := receipt.runtimePlanSha256.val
    taskFingerprint := receipt.taskFingerprint.val
    taskSignals := signals
    baselineRoute := baseline
    recommendedRoute := recommended
    applied := false
    abstained
    reasonCodes := reasons.eraseDups
    candidates := candidates.insertionSort fun a b => a.route.rank ≤ b.route.rank
    policyDigest := policy.digest.val
    scorecardDigest := scorecard.digest.val }

def anyRejected (candidates : List CandidateRouteScore) (code : String) : Bool :=
  candidates.any fun candidate => code ∈ candidate.rejectionCodes

section Recommend

variable (L : Conversions) (provider : TaskSignalProvider) (receipt : RouteReceipt)
  (signals : TaskSignals) (scorecard : RouteScorecard) (policy : VerifiedRoutePolicy)
  (profile : String) (now : Int)

/-- The reasons that the signals and the age of the scorecard give. -/
def evidenceFlags (profilePolicy : RouteProfilePolicy) : List (Bool × String) :=
  [(true, "shadow_mode"), (signals.abstained, "signal_abstained"),
    (decide (signals.confidence < profilePolicy.minConfidence), "signal_confidence_below_profile"),
    (isStale scorecard now, "scorecard_stale")]

/-- The reasons of a decision that abstains for lack of evidence. -/
def abstentionFlags (profilePolicy : RouteProfilePolicy)
    (candidates : List CandidateRouteScore) : List (Bool × String) :=
  evidenceFlags signals scorecard now profilePolicy ++
    [(anyRejected candidates "scorecard_out_of_distribution", "scorecard_out_of_distribution"),
      (anyRejected candidates "insufficient_verified_samples", "insufficient_verified_samples"),
      (anyRejected candidates "incomplete_cost_evidence", "incomplete_cost_evidence"),
      (true, "baseline_retained")]

/-- The part of `recommend_shadow_route` behind the loop over the routes. -/
def choose (profilePolicy : RouteProfilePolicy) (baseline : RoutePlan)
    (scored : List (CandidateRouteScore × Bool)) : Except ContractError ShadowRouteDecision := do
  let candidates := scored.map Prod.fst
  let decide' := decision L receipt signals scorecard policy profile (.plan baseline)
  let reasons := flagged (evidenceFlags signals scorecard now profilePolicy)
  if signals.abstained = true ∨ signals.confidence < profilePolicy.minConfidence ∨
      isStale scorecard now = true ∨ scored.any Prod.snd = true then
    decide' (.plan baseline) true
      (flagged (abstentionFlags signals scorecard now profilePolicy candidates)) candidates
  else
    let acceptable := candidates.filter fun candidate => candidate.rejectionCodes = []
    if acceptable = [] then
      decide' (.plan baseline) true
        (reasons ++ ["no_candidate_meets_success_floor", "baseline_retained"]) candidates
    else do
      let routes ← paretoRoutes acceptable profilePolicy.weights
      let rescored ← candidates.mapM fun candidate =>
        withPareto candidate (decide (candidate.route ∈ routes))
      let finalists := rescored.filter fun candidate =>
        candidate.route ∈ routes ∧ candidate.utility ≠ none
      match Pareto.firstBy (winnerKey baseline) finalists with
      | none => .error ⟨"list index out of range"⟩
      | some winner =>
        decide' (.plan winner.route) false
          (reasons ++ [if winner.route = baseline then "baseline_retained"
            else "shadow_recommendation_available"]) rescored

def recommendShadowRoute : Except ContractError ShadowRouteDecision := do
  let profilePolicy ← checkBinding provider receipt signals policy profile
  if receipt.route = "blocked" then
    decision L receipt signals scorecard policy profile .blocked .blocked true
      ["shadow_mode", "receipt_blocked", "baseline_retained"] []
  else
    match RoutePlan.ofName receipt.route with
    | none => .error ⟨"Receipt route is not supported."⟩
    | some baseline => do
      check (¬ (profile = "offline" ∧ usesRemote baseline = true))
        (⟨"Offline receipts cannot contain a remote route."⟩ : ContractError)
      let scored ← routePlans.mapM
        (scoreRoute receipt signals scorecard profile profilePolicy policy.normalization
          (isStale scorecard now))
      choose L receipt signals scorecard policy profile now profilePolicy baseline scored

end Recommend

end LocalMoe.Route
