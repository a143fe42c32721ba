/-
  Route receipts under a canary decision: the validator of `route_canary.py` and the receipts of
  `assistant_bridge.py` it is to accept.
-/
import LocalMoe.Canary.Decision
import LocalMoe.Contracts.Plain
import LocalMoe.Runner.Run

namespace LocalMoe.Canary

open Foundation Contracts Runner

/-! ## Payloads -/

def RoutePlan.route : RoutePlan → Route
  | .localOnly => .local
  | .localThenVerify => .localThenVerify
  | .premium => .premium

def shadowRoute : Route → DecisionRoute
  | .blocked => .blocked
  | .local => .plan .localOnly
  | .localThenVerify => .plan .localThenVerify
  | .premium => .plan .premium

/-- What a receipt of the bridge says of a decision. -/
def entryOf (d : CanaryRouteDecision) : CanaryDecision where
  baselineRoute := d.baselineRoute.route
  effectiveRoute := d.effectiveRoute.route
  applied := d.applied
  routeReceiptId := d.routeReceiptId
  routeReceiptSha256 := d.routeReceiptSha256
  decisionSha256 := d.decisionSha256

/-- The payloads of the parts of a receipt, and what is read of a task and of two
descriptors: `signals_from_metadata` and `runtime_plan_sha256`. -/
structure Parts where
  task : AssistantTaskEnvelope → Json
  workspace : String → Json
  runtime : ProviderRuntime → Json
  canary : CanaryDecision → Json
  signals : AssistantTaskEnvelope → Except ContractError TaskSignals
  runtimePlanSha256 : ProviderRuntime → ProviderRuntime → Except ContractError Digest

def texts (items : List String) : Json := .arr (items.map Json.str)

namespace Parts

variable (P : Parts)

/-- The fields of `payload` but for the id and the decision. -/
def routeFields (payload : RoutePayload) : List (String × Json) :=
  [("schema_version", .str "2.0"), ("contract", .str "RouteDecisionReceipt"),
    ("task", P.task payload.task), ("route", .str payload.route.name),
    ("local_provider", .str payload.localProvider),
    ("premium_provider", Json.optional Json.str payload.premiumProvider),
    ("local_gaps", texts payload.localGaps), ("premium_gaps", texts payload.premiumGaps),
    ("remote_allowed", .bool payload.remoteAllowed),
    ("premium_call_budget", .int payload.premiumCallBudget),
    ("rationale_codes", texts payload.rationaleCodes),
    ("expected_flow", texts payload.expectedFlow), ("config_sha256", .str payload.configSha256),
    ("workspace", P.workspace payload.workspaceFingerprint),
    ("local_runtime", P.runtime payload.localRuntime),
    ("premium_runtime", P.runtime payload.premiumRuntime)]

/-- The decision of a receipt, when there is one. -/
def canaryFields : Option CanaryDecision → List (String × Json)
  | none => []
  | some decision => [("route_canary", P.canary decision)]

/-- `payload` without its id. -/
def content (payload : RoutePayload) (canary : Option CanaryDecision) : Json :=
  .obj (P.routeFields payload ++ P.canaryFields canary)

def payload (receipt : RouteDecisionReceipt) : Json :=
  .obj (("receipt_id", .str receipt.receiptId) ::
    (P.routeFields receipt.toRoutePayload ++ P.canaryFields receipt.routeCanary))

/-- The digests of the bridge: `_sha256_text(_canonical_json(...))`. -/
def digests (S : Stdlib) : ReceiptDigests where
  content payload canary := S.sha256Json (P.content payload canary)
  full receipt := S.sha256Json (P.payload receipt)

end Parts

def receiptIdOf (digest : String) : String := "route-" ++ String.ofList (digest.toList.take 32)

/-! ## The validator -/

section Validator

variable (S : Stdlib) (P : Parts)

/-- The last rationale of a rewritten receipt. -/
def marker (d : CanaryRouteDecision) : String :=
  if d.applied then "verified_route_canary_applied" else "verified_route_canary_baseline_retained"

/-- The premium provider of the baseline, from the descriptor. -/
def baselineProvider (d : CanaryRouteDecision) (receipt : RouteDecisionReceipt) :
    Except ContractError (Option String) :=
  if d.baselineRoute.route.usesPremium then
    (requireSafeId receipt.premiumRuntime.providerId "premium provider").map some
  else .ok none

/-- The baseline receipt the validator rebuilds. -/
def undoCanary (d : CanaryRouteDecision) (receipt : RouteDecisionReceipt) :
    Except ContractError RouteDecisionReceipt := do
  let premiumProvider ← baselineProvider d receipt
  return { receipt with
    route := d.baselineRoute.route
    premiumProvider := premiumProvider
    rationaleCodes := receipt.rationaleCodes.dropLast
    expectedFlow := expectedFlow d.baselineRoute.route
    receiptId := d.routeReceiptId
    routeCanary := none }

def validateCanaryReceiptBinding (d : CanaryRouteDecision) (receipt : RouteDecisionReceipt) :
    Except ContractError Unit := do
  let embedded ← require receipt.routeCanary "Route receipt is missing its canary decision."
  check (embedded = entryOf d)
    (⟨"Route receipt carries a different canary decision."⟩ : ContractError)
  check (receipt.route = d.effectiveRoute.route ∧ receipt.configSha256 = d.bridgeConfigSha256)
    (⟨"Route canary receipt binding is invalid."⟩ : ContractError)
  let taskFingerprint ← requireSha256 receipt.task.taskFingerprint "task_fingerprint"
  let profile ← requireSafeId receipt.task.profile.name "profile"
  let capabilities ←
    requireIdentifierTuple receipt.task.capabilityDemand.required "required capabilities"
  let signals ← P.signals receipt.task
  let runtimeDigest ← P.runtimePlanSha256 receipt.localRuntime receipt.premiumRuntime
  check (d.taskFingerprint = taskFingerprint ∧ d.profile = profile ∧
      d.capabilities = capabilities ∧ d.difficulty = signals.difficulty ∧
      d.signalProviderConfigSha256 = signals.providerConfigSha256.val ∧
      d.runtimePlanSha256 = runtimeDigest.val)
    (⟨"Route canary task or runtime lineage is invalid."⟩ : ContractError)
  let currentId ← requireSafeId receipt.receiptId "route receipt_id"
  let current ← S.canonicalSha256 (P.content receipt.toRoutePayload receipt.routeCanary)
  check (currentId = receiptIdOf current)
    (⟨"Route receipt content digest is invalid."⟩ : ContractError)
  check (receipt.rationaleCodes.getLast? = some (marker d))
    (⟨"Route canary rationale binding is invalid."⟩ : ContractError)
  check (receipt.expectedFlow = expectedFlow d.effectiveRoute.route)
    (⟨"Route canary effective flow is invalid."⟩ : ContractError)
  let baseline ← undoCanary d receipt
  let unsigned ← S.canonicalSha256 (P.content baseline.toRoutePayload none)
  let full ← S.canonicalSha256 (P.payload baseline)
  check (d.routeReceiptId = receiptIdOf unsigned ∧ d.routeReceiptSha256 = full)
    (⟨"Route canary baseline receipt lineage is invalid."⟩ : ContractError)

/-- `_receipt_with_canary_decision`, with the validation in the constructor. -/
def rewriteReceipt (receipt : RouteDecisionReceipt) (d : CanaryRouteDecision) :
    Except BridgeError RouteDecisionReceipt :=
  receiptWithCanaryDecision (P.digests S)
    (fun _ rewritten => (validateCanaryReceiptBinding S P d rewritten).isOk) receipt (entryOf d)

end Validator

/-! ## Guarded receipts -/

/-- `_SAFE_ID.fullmatch` of `assistant_bridge.py`. -/
def isProviderId (s : String) : Bool :=
  match s.toList with
  | [] => false
  | c :: rest =>
    isAlnum c && rest.length ≤ 95 && rest.all fun d => isAlnum d || ['.', '_', '-'].contains d

/-- What the constructors and `_parse_profile` check of a configuration. -/
structure Loaded (config : AssistantBridgeConfig) : Prop where
  premiumId : isProviderId config.premium.id = true
  profiles : ∀ profile, (config.profiles profile).name = profile

/-- `_attested_provider_runtime_descriptor`, as far as the id: `raw` is what the adapter
answers. -/
def attestedProviderRuntimeDescriptor (provider : ProviderSpec)
    (raw : Except BridgeError ProviderRuntime) : Except BridgeError ProviderRuntime := do
  let runtime ← raw
  check (runtime.providerId = provider.id)
    (⟨"Provider adapter runtime descriptor identity is invalid."⟩ : BridgeError)
  return runtime

/-- The receipts of the planner and of any sequence of the guards of `_prepare_execution`. -/
inductive Guarded (D : ReceiptDigests) (config : AssistantBridgeConfig)
    (task : AssistantTaskEnvelope) : RouteDecisionReceipt → Prop
  | planned {workspaceFingerprint : String} {localRaw premiumRaw : Except BridgeError ProviderRuntime}
      {receipt : RouteDecisionReceipt}
      (h : planAssistantRoute D task config workspaceFingerprint
        (attestedProviderRuntimeDescriptor config.localProvider localRaw)
        (attestedProviderRuntimeDescriptor config.premium premiumRaw) = .ok receipt) :
      Guarded D config task receipt
  | blocked {receipt : RouteDecisionReceipt} (condition : Bool) (rationaleCode : String)
      (h : Guarded D config task receipt) :
      Guarded D config task (blockWhen D condition rationaleCode receipt)
  | remote {receipt : RouteDecisionReceipt} (W : World) (executable : Bool)
      (h : Guarded D config task receipt) :
      Guarded D config task (bindRemote D W executable receipt).1
  | paired {receipt constrained : RouteDecisionReceipt} {route : Route}
      (h : Guarded D config task receipt)
      (hroute : receiptWithPairedEvidenceRoute D receipt route = .ok constrained) :
      Guarded D config task constrained
  | status {receipt : RouteDecisionReceipt} (status : String)
      (h : Guarded D config task receipt) :
      Guarded D config task (receiptWithCanaryStatus D receipt status)

/-- What a receipt allows a route to use. -/
def Permits (receipt : RouteDecisionReceipt) (route : Route) : Prop :=
  (route.usesLocal = true → receipt.localGaps = []) ∧
    (route.usesPremium = true → receipt.remoteAllowed = true ∧ 0 < receipt.premiumCallBudget ∧
      receipt.premiumGaps = [])

/-- The three rules of authority. -/
def AuthoritySafe (receipt : RouteDecisionReceipt) : Prop :=
  Permits receipt receipt.route ∧
    (receipt.task.profile = .offline → receipt.remoteAllowed = false)

/-- What holds of a guarded receipt. -/
structure Baseline (D : ReceiptDigests) (config : AssistantBridgeConfig)
    (receipt : RouteDecisionReceipt) : Prop where
  authority : AuthoritySafe receipt
  premiumProvider : receipt.premiumProvider =
    if receipt.route.usesPremium then some receipt.premiumRuntime.providerId else none
  flow : receipt.expectedFlow = expectedFlow receipt.route
  content : receipt = receiptOf D receipt.toRoutePayload none
  configured : receipt.configSha256 = config.sourceSha256
  provider : receipt.premiumRuntime.providerId = config.premium.id

section Guards

variable {D : ReceiptDigests} {config : AssistantBridgeConfig} {task : AssistantTaskEnvelope}

theorem chooseRoute_permitted (initial : Route) (localGaps : List String) (available : Bool) :
    ((chooseRoute initial localGaps available).1.usesLocal = true → localGaps = []) ∧
      ((chooseRoute initial localGaps available).1.usesPremium = true → available = true) := by
  unfold chooseRoute
  by_cases hgaps : localGaps = [] <;> cases available <;> cases initial <;>
    simp [hgaps, Route.usesLocal, Route.usesPremium]

variable {receipt : RouteDecisionReceipt}

theorem planAssistantRoute_baseline (hloaded : Loaded config) {workspaceFingerprint : String}
    {localRuntime premiumRuntime : Except BridgeError ProviderRuntime}
    (h : planAssistantRoute D task config workspaceFingerprint
      (attestedProviderRuntimeDescriptor config.localProvider localRuntime)
      (attestedProviderRuntimeDescriptor config.premium premiumRuntime) = .ok receipt) :
    Baseline D config receipt := by
  obtain ⟨descriptor, _, h⟩ := bind_eq_ok.mp h
  obtain ⟨premium, hpremium, h⟩ := bind_eq_ok.mp h
  obtain ⟨raw, _, hraw⟩ := bind_eq_ok.mp hpremium
  obtain ⟨hid, hraw⟩ := check_bind_eq_ok.mp hraw
  cases hraw
  obtain ⟨providerId, workspaceAccess, descriptorSha256⟩ := premium
  change providerId = config.premium.id at hid
  subst hid
  cases h
  refine ⟨⟨⟨(chooseRoute_permitted _ _ _).1, fun hroute => ?_⟩, fun hoffline => ?_⟩, rfl, rfl, rfl, rfl, rfl⟩
  · have h := (chooseRoute_permitted _ _ _).2 hroute
    rw [Bool.and_eq_true, Bool.and_eq_true, decide_eq_true_eq, List.isEmpty_iff] at h
    exact ⟨h.1.1, h.1.2, h.2⟩
  · have hname : (config.profiles task.profile).name = .offline :=
      (hloaded.profiles task.profile).trans hoffline
    change (remoteDecision (config.profiles task.profile) task).1 = false
    unfold remoteDecision
    rw [if_pos hname]

theorem Baseline.canary (h : Baseline D config receipt) : receipt.routeCanary = none := by
  rw [h.content]
  rfl

theorem Baseline.withRoute (h : Baseline D config receipt) {route : Route} {code : String}
    (hpremium : route.usesPremium = false)
    (hlocal : route.usesLocal = true → receipt.localGaps = []) :
    Baseline D config (receiptWithRoute D receipt route code) := by
  have hp : ¬ route.usesPremium = true := by
    rw [hpremium]
    exact Bool.false_ne_true
  refine ⟨⟨⟨hlocal, fun hroute => absurd hroute hp⟩, h.authority.2⟩, (if_neg hp).symm, rfl, ?_,
    h.configured, h.provider⟩
  unfold receiptWithRoute
  rw [h.canary]
  rfl

theorem Guarded.baseline (hloaded : Loaded config) (h : Guarded D config task receipt) :
    Baseline D config receipt := by
  induction h with
  | planned h => exact planAssistantRoute_baseline hloaded h
  | blocked condition code _ ih =>
    unfold blockWhen
    split
    · exact ih.withRoute rfl fun h => (by cases h)
    · exact ih
  | @remote receipt W executable _ ih =>
    unfold bindRemote
    split
    · cases W.attestRemoteBinding with
      | ok _ => exact ih
      | error _ =>
        by_cases hroute : receipt.route = .localThenVerify ∧ receipt.localGaps = []
        · rw [if_pos hroute]
          exact ih.withRoute rfl fun _ => hroute.2
        · rw [if_neg hroute]
          exact ih.withRoute rfl fun h => (by cases h)
    · exact ih
  | @paired receipt constrained route _ hroute ih =>
    obtain ⟨_, hroute⟩ := check_bind_eq_ok.mp hroute
    obtain ⟨_, hroute⟩ := check_bind_eq_ok.mp hroute
    obtain ⟨_, hroute⟩ := check_bind_eq_ok.mp hroute
    obtain ⟨hlocal, hroute⟩ := check_bind_eq_ok.mp hroute
    obtain ⟨hpremium, hroute⟩ := check_bind_eq_ok.mp hroute
    cases hroute
    refine ⟨⟨⟨hlocal, fun h => ⟨(hpremium h).1, (hpremium h).2.1, (hpremium h).2.2.1⟩⟩,
      ih.authority.2⟩, ?_, rfl, rfl, ih.configured, ih.provider⟩
    change (if route.usesPremium = true then receipt.premiumProvider else none) =
      if route.usesPremium = true then some receipt.premiumRuntime.providerId else none
    by_cases huses : route.usesPremium = true
    · rw [if_pos huses, if_pos huses]
      have hsome := (hpremium huses).2.2.2
      rw [ih.premiumProvider] at hsome ⊢
      by_cases hbase : receipt.route.usesPremium = true
      · rw [if_pos hbase]
      · rw [if_neg hbase] at hsome
        cases hsome
    · rw [if_neg huses, if_neg huses]
  | @status receipt status _ ih =>
    refine ⟨ih.authority, ih.premiumProvider, ih.flow, ?_, ih.configured, ih.provider⟩
    unfold receiptWithCanaryStatus
    rw [ih.canary]
    rfl

end Guards

end LocalMoe.Canary
