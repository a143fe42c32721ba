/-
  The route receipt: the planner, the guards that take authority away, and the rewrite by a
  canary decision.

  The digests are taken from outside, and so are the descriptors of the adapters.
-/
import LocalMoe.Runner.Contracts

namespace LocalMoe.Runner

open Foundation

/-! ## Receipts -/

/-- The descriptor of a provider adapter, as far as a receipt names it. -/
structure ProviderRuntime where
  providerId : String
  workspaceAccess : String
  descriptorSha256 : String
  deriving DecidableEq, Repr

/-- The payload of a receipt without its id and without a canary decision. -/
structure RoutePayload where
  task : AssistantTaskEnvelope
  route : Route
  localProvider : String
  premiumProvider : Option String
  localGaps : List String
  premiumGaps : List String
  remoteAllowed : Bool
  premiumCallBudget : Nat
  rationaleCodes : List String
  expectedFlow : List String
  configSha256 : String
  workspaceFingerprint : String
  localRuntime : ProviderRuntime
  premiumRuntime : ProviderRuntime

/-- What a canary decision says about a receipt. -/
structure CanaryDecision where
  baselineRoute : Route
  effectiveRoute : Route
  applied : Bool
  routeReceiptId : String
  routeReceiptSha256 : String
  /-- The digest of the decision, over all its fields. -/
  decisionSha256 : String
  deriving DecidableEq, Repr

structure RouteDecisionReceipt extends RoutePayload where
  receiptId : String
  routeCanary : Option CanaryDecision

/-- `sha256` of the canonical JSON: for an id without the id, for a lineage with it. -/
structure ReceiptDigests where
  content : RoutePayload → Option CanaryDecision → String
  full : RouteDecisionReceipt → String

def expectedFlow : Route → List String
  | .blocked => ["stop"]
  | .local => ["local", "verify", "stop"]
  | .localThenVerify => ["local", "verify", "stop_or_capsule", "premium", "verify"]
  | .premium => ["capsule", "premium", "verify"]

/-- Whether a route names the premium provider. -/
def Route.usesPremium : Route → Bool
  | .localThenVerify => true
  | .premium => true
  | _ => false

/-- Whether a route starts with the local provider. -/
def Route.usesLocal : Route → Bool
  | .local => true
  | .localThenVerify => true
  | _ => false

section Receipts

variable (D : ReceiptDigests)

/-- A receipt under the id of its content: `"route-"` and 32 digits of the digest. -/
def receiptOf (payload : RoutePayload) (canary : Option CanaryDecision) : RouteDecisionReceipt where
  toRoutePayload := payload
  receiptId := "route-" ++ String.ofList ((D.content payload canary).toList.take 32)
  routeCanary := canary

/-! ## Gaps -/

def providerGaps (provider : ProviderSpec) (task : AssistantTaskEnvelope) : List String :=
  let demand := task.capabilityDemand
  let missing := (demand.required.filter fun item => !provider.capabilities.contains item).map
    ("capability:" ++ ·)
  let tools := (demand.tools.filter fun item => !provider.tools.contains item).map ("tool:" ++ ·)
  let risk := if provider.maxRisk.level < demand.riskClass.level then
    ["risk:" ++ demand.riskClass.name] else []
  let authority := if RiskClass.writeLocal.level < demand.riskClass.level then
    ["authority:" ++ demand.riskClass.name] else []
  let sandbox := if demand.riskClass = .writeLocal ∧ provider.sandbox ≠ "workspace-write" then
    ["authority:workspace_write"] else []
  let localAccess := if provider.mode = .local ∧ demand.riskClass = .writeLocal ∧
    provider.workspaceAccess ≠ "read_write" then ["workspace:read_write"] else []
  let web := if (demand.required.contains "web" ∨ demand.tools.contains "web") ∧
    provider.networkAccess = false then ["network:web"] else []
  let optIn := if provider.mode = .premium ∧ demand.riskClass = .writeLocal ∧
    task.allowRemoteWorkspace = false then ["authority:remote_workspace_opt_in"] else []
  let premiumAccess := if provider.mode = .premium ∧ demand.riskClass = .writeLocal ∧
    provider.workspaceAccess ≠ "read_write" then ["workspace:read_write"] else []
  (missing ++ tools ++ risk ++ authority ++ sandbox ++ localAccess ++ web ++ optIn ++
    premiumAccess).dedup.insertionSort (· ≤ ·)

/-! ## The planner -/

/-- Whether the remote side is allowed, and why. -/
def remoteDecision (profile : ProfilePolicy) (task : AssistantTaskEnvelope) :
    Bool × List String :=
  if profile.name = .offline then (false, ["offline_remote_forbidden"])
  else if profile.explicitRemoteOptIn then
    if task.allowRemote = some true then (true, ["explicit_remote_opt_in_present"])
    else (false, ["explicit_remote_opt_in_missing"])
  else match task.allowRemote with
    | some false => (false, ["task_remote_denied"])
    | some true => (true, ["task_remote_allowed"])
    | none => (profile.remoteAllowed, [])

def chooseRoute (initial : Route) (localGaps : List String) (premiumAvailable : Bool) :
    Route × List String :=
  match initial with
  | .local =>
    if localGaps = [] then (.local, [])
    else if premiumAvailable then (.premium, ["known_gap_escalation"])
    else (.blocked, [])
  | .premium =>
    if premiumAvailable then (.premium, [])
    else if localGaps = [] then (.local, ["premium_unavailable_local_fallback"])
    else (.blocked, [])
  | _ =>
    if localGaps = [] then (if premiumAvailable then .localThenVerify else .local, [])
    else if premiumAvailable then (.premium, [])
    else (.blocked, [])

/-- The last rationale of a planned route. -/
def routeRationale : Route → String
  | .blocked => "no_policy_compliant_provider"
  | .local => "local_only"
  | .localThenVerify => "failure_driven_escalation"
  | .premium => "premium_selected"

/-- `_plan_assistant_route`, on the attested workspace and the descriptors of the adapters. -/
def planAssistantRoute (task : AssistantTaskEnvelope) (config : AssistantBridgeConfig)
    (workspaceFingerprint : String) (localRuntime premiumRuntime : Except BridgeError ProviderRuntime) :
    Except BridgeError RouteDecisionReceipt := do
  let profile := config.profiles task.profile
  let localGaps := providerGaps config.localProvider task
  let premiumGaps := providerGaps config.premium task
  let budget := match task.maxPremiumCalls with
    | some limit => min profile.maxPremiumCalls limit
    | none => profile.maxPremiumCalls
  let remote := remoteDecision profile task
  let premiumAvailable := remote.1 && decide (0 < budget) && premiumGaps.isEmpty
  let chosen := chooseRoute profile.initialRoute localGaps premiumAvailable
  let localRuntime ← localRuntime
  let premiumRuntime ← premiumRuntime
  return receiptOf D {
    task := task
    route := chosen.1
    localProvider := config.localProvider.id
    premiumProvider := if chosen.1.usesPremium then some config.premium.id else none
    localGaps := localGaps
    premiumGaps := premiumGaps
    remoteAllowed := remote.1
    premiumCallBudget := budget
    rationaleCodes := ["profile_" ++ profile.name.name] ++ remote.2 ++
      (if budget = 0 then ["premium_budget_zero"] else []) ++
      (if premiumGaps = [] then [] else ["premium_capability_or_authority_gap"]) ++
      (if localGaps = [] then [] else ["local_capability_or_authority_gap"]) ++
      chosen.2 ++ [routeRationale chosen.1]
    expectedFlow := expectedFlow chosen.1
    configSha256 := config.sourceSha256
    workspaceFingerprint := workspaceFingerprint
    localRuntime := localRuntime
    premiumRuntime := premiumRuntime } none

/-! ## Guards -/

/-- `_receipt_with_route`, for the routes "blocked" and "local". -/
def receiptWithRoute (receipt : RouteDecisionReceipt) (route : Route) (rationaleCode : String) :
    RouteDecisionReceipt :=
  receiptOf D { receipt.toRoutePayload with
    route := route
    premiumProvider := none
    rationaleCodes := receipt.rationaleCodes ++ [rationaleCode]
    expectedFlow := expectedFlow route } receipt.routeCanary

def receiptWithCanaryStatus (receipt : RouteDecisionReceipt) (status : String) :
    RouteDecisionReceipt :=
  receiptOf D { receipt.toRoutePayload with
    rationaleCodes := receipt.rationaleCodes ++ ["verified_route_canary_" ++ status] }
    receipt.routeCanary

/-- The rewrite in `_receipt_with_canary_decision`. -/
def canaryRewrite (receipt : RouteDecisionReceipt) (decision : CanaryDecision) :
    RouteDecisionReceipt :=
  receiptOf D { receipt.toRoutePayload with
    route := decision.effectiveRoute
    premiumProvider := if decision.effectiveRoute.usesPremium then receipt.premiumProvider else none
    rationaleCodes := receipt.rationaleCodes ++
      [if decision.applied then "verified_route_canary_applied"
        else "verified_route_canary_baseline_retained"]
    expectedFlow := expectedFlow decision.effectiveRoute } (some decision)

/-- `_receipt_with_canary_decision`: the check of the baseline, the rewrite, and the
validation in the constructor of the new receipt. -/
def receiptWithCanaryDecision (validate : CanaryDecision → RouteDecisionReceipt → Bool)
    (receipt : RouteDecisionReceipt) (decision : CanaryDecision) :
    Except BridgeError RouteDecisionReceipt := do
  check (decision.baselineRoute = receipt.route ∧ decision.routeReceiptId = receipt.receiptId ∧
      decision.routeReceiptSha256 = D.full receipt)
    (⟨"Verified route canary does not match the guarded baseline route."⟩ : BridgeError)
  check (decision.effectiveRoute ≠ .blocked) (⟨"KeyError"⟩ : BridgeError)
  check (validate decision (canaryRewrite D receipt decision) = true)
    (⟨"RouteDecisionReceipt route_canary metadata is invalid."⟩ : BridgeError)
  return canaryRewrite D receipt decision

/-- `_apply_verified_route_canary`; what loads the authority and decides is taken from
outside, and returns a decision or fails. -/
def applyVerifiedRouteCanary (validate : CanaryDecision → RouteDecisionReceipt → Bool)
    (config : AssistantBridgeConfig) (decide : RouteDecisionReceipt → Option CanaryDecision)
    (receipt : RouteDecisionReceipt) : RouteDecisionReceipt :=
  if config.verifiedRouting = false then receipt
  else if receipt.routeCanary.isSome then receipt
  else if receipt.route = .blocked then receiptWithCanaryStatus D receipt "baseline_blocked"
  else match decide receipt with
    | none => receiptWithCanaryStatus D receipt "authority_unavailable"
    | some decision =>
      match receiptWithCanaryDecision D validate receipt decision with
      | .ok receipt => receipt
      | .error _ => receiptWithCanaryStatus D receipt "authority_unavailable"

def receiptWithPairedEvidenceRoute (receipt : RouteDecisionReceipt) (route : Route) :
    Except BridgeError RouteDecisionReceipt := do
  check receipt.route.rank.isSome
    (⟨"The guarded baseline route is not executable for paired evidence."⟩ : BridgeError)
  check route.rank.isSome (⟨"Paired evidence route is unsupported."⟩ : BridgeError)
  check (route.rank.getD 0 ≤ receipt.route.rank.getD 0)
    (⟨"Paired evidence cannot request a more-premium route than the guarded baseline."⟩ :
      BridgeError)
  check (route.usesLocal = true → receipt.localGaps = [])
    (⟨"Paired evidence local route is not hard-eligible."⟩ : BridgeError)
  check (route.usesPremium = true → receipt.remoteAllowed = true ∧
      0 < receipt.premiumCallBudget ∧ receipt.premiumGaps = [] ∧
      receipt.premiumProvider.isSome = true)
    (⟨"Paired evidence premium route is not hard-eligible."⟩ : BridgeError)
  return receiptOf D { receipt.toRoutePayload with
    route := route
    premiumProvider := if route.usesPremium then receipt.premiumProvider else none
    rationaleCodes := receipt.rationaleCodes ++
      ["paired_evidence_guarded_baseline_" ++ receipt.route.name,
        "paired_evidence_exact_route_" ++ route.name]
    expectedFlow := expectedFlow route } none

end Receipts

end LocalMoe.Runner
