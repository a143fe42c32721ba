/-
  The shadow decision as a document, and how it is read back.

  The fields are read before the constructor compares them, so a document with several faults
  may be refused for another one than the source names.
-/
import LocalMoe.Route.Contracts

namespace LocalMoe.Route

open Foundation Contracts
open Canary (RoutePlan Difficulty DecisionRoute profileNames)
open Speculative (Conversions)

variable (L : Conversions)

/-! ## Mappings -/

def strictMapping (raw : Document) (label : String) :
    Except ContractError (List (String × Document)) :=
  match raw with
  | .object fields => .ok fields
  | _ => .error ⟨label ++ " must be an object."⟩

/-- `reject_unknown`, and the check for missing fields. -/
def checkFields (fields : List (String × Document)) (names : List String) (label : String) :
    Except ContractError Unit := do
  let unknown := (fields.map Prod.fst).filter (· ∉ names)
  check (unknown = [])
    (⟨"Unknown " ++ label ++ " fields: " ++ Speculative.joined unknown ++ "."⟩ : ContractError)
  let missing := names.filter (· ∉ fields.map Prod.fst)
  check (missing = [])
    (⟨"Missing " ++ label ++ " fields: " ++ Speculative.joined missing ++ "."⟩ : ContractError)

def readText (value : Document) (message : String) : Except ContractError String :=
  match value with
  | .text text => .ok text
  | _ => .error ⟨message⟩

def checkText (value : Document) (expected message : String) : Except ContractError Unit :=
  check (value.isText expected = true) (⟨message⟩ : ContractError)

def readDigest (value : Document) (label : String) : Except ContractError Digest := do
  let text ← readText value (label ++ " must be a string.")
  if h : isSha256 text = true then return ⟨text, h⟩
  else .error ⟨label ++ " must be a lowercase SHA-256 digest."⟩

def readSafeId (value : Document) (label : String) : Except ContractError SafeId := do
  let text ← readText value (label ++ " must be a string.")
  if h : isSafeId (strip text) = true then
    return ⟨strip text, h, Canary.strip_of_isSafeId h⟩
  else .error ⟨label ++ " must be a safe identifier."⟩

def readList (value : Document) (message : String) : Except ContractError (List Document) :=
  match value with
  | .list items => .ok items
  | _ => .error ⟨message⟩

def readTexts (value : Document) (message notText : String) :
    Except ContractError (List String) := do
  let items ← readList value message
  items.mapM fun item => readText item notText

def readBool (value : Document) (message : String) : Except ContractError Bool :=
  match value with
  | .bool b => .ok b
  | _ => .error ⟨message⟩

def readNat (value : Document) (label : String) : Except ContractError Nat :=
  match value.asInt L with
  | none => .error ⟨label ++ " must be an integer."⟩
  | some n => do
    check (0 ≤ n) (⟨label ++ " must be a non-negative integer."⟩ : ContractError)
    return n.toNat

/-- A number, or nothing. -/
def readOptional {α : Type} (read : Document → String → Except ContractError α)
    (value : Document) (label : String) : Except ContractError (Option α) :=
  match value with
  | .null => .ok none
  | value => some <$> read value label

/-- `require_finite_number`, without its bounds. -/
def readNumber (value : Document) (label : String) : Except ContractError ℚ :=
  match value.asFloat L with
  | none => .error ⟨label ++ " must be numeric."⟩
  | some q => .ok q

/-! ## Signals -/

def signalFields : List String :=
  ["schema_version", "contract", "request_fingerprint", "capabilities", "difficulty", "confidence",
    "abstained", "source", "provider_config_sha256", "objective_chars", "context_tokens",
    "constraint_count", "tool_count", "signals_sha256"]

def readDifficulty (value : Document) : Except ContractError Difficulty := do
  let message := "difficulty must be one of: simple, medium, complex, very_complex."
  let text ← readText value message
  match Difficulty.ofName text with
  | none => .error ⟨message⟩
  | some difficulty => .ok difficulty

def readProviderConfig (value : Document) (source : SafeId) : Except ContractError Digest :=
  if value.truthy then readDigest value "provider_config_sha256"
  else
    let reference : List (String × Document) :=
      [("schema_version", .text contractVersion),
        ("contract", .text "TaskSignalProviderReference"), ("source", .text source.val)]
    .ok ⟨L.sha256Json reference, L.isSha256_sha256Json reference⟩

/-- `TaskSignals(**fields)`. -/
def taskSignalsOfFields (fields : List (String × Document)) :
    Except ContractError TaskSignals := do
  let get := Speculative.Value.get fields
  let requestFingerprint ← readDigest (get "request_fingerprint") "request_fingerprint"
  let notTexts := "capabilities must contain only strings."
  let texts ← readTexts (get "capabilities") notTexts notTexts
  let capabilities ← requireIdentifierTuple texts "capabilities"
  let difficulty ← readDifficulty (get "difficulty")
  let confidence ← readNumber L (get "confidence") "confidence"
  let abstained ← readBool (get "abstained") "abstained must be boolean."
  let source ← readSafeId (get "source") "source"
  let providerConfigSha256 ← readProviderConfig L (get "provider_config_sha256") source
  let objectiveChars ← readNat L (get "objective_chars") "objective_chars"
  let contextTokens ← readNat L (get "context_tokens") "context_tokens"
  let constraintCount ← readNat L (get "constraint_count") "constraint_count"
  let toolCount ← readNat L (get "tool_count") "tool_count"
  if hconfidence : 0 ≤ confidence ∧ confidence ≤ 1 then
    return {
      requestFingerprint, difficulty, confidence, abstained, source, providerConfigSha256
      objectiveChars, contextTokens, constraintCount, toolCount
      capabilities := capabilities.val.insertionSort (· ≤ ·)
      identifiers := ⟨fun item hitem => capabilities.property.1 item
          ((List.perm_insertionSort _ _).subset hitem),
        ((List.perm_insertionSort _ _).nodup_iff).mpr capabilities.property.2⟩
      sorted := List.pairwise_insertionSort _ _
      confidence_range := hconfidence }
  else if 0 ≤ confidence then .error ⟨"confidence must be <= 1.0."⟩
  else .error ⟨"confidence must be >= 0.0."⟩

def TaskSignals.fromPayload (raw : Document) : Except ContractError TaskSignals := do
  let fields ← strictMapping raw "TaskSignals"
  checkFields fields signalFields "TaskSignals"
  let get := Speculative.Value.get fields
  checkText (get "contract") "TaskSignals" "TaskSignals contract is invalid."
  checkText (get "schema_version") contractVersion "TaskSignals schema_version is unsupported."
  let signals ← taskSignalsOfFields L fields
  let claimed ← readDigest (get "signals_sha256") "signals_sha256"
  check (L.sha256Json signals.contentFields = claimed.val)
    (⟨"TaskSignals digest does not match its content."⟩ : ContractError)
  return signals

/-! ## Candidates -/

def candidateFields : List String :=
  ["route", "hard_eligible", "pareto_eligible", "utility", "verified_samples", "success_rate",
    "p95_latency_ms", "mean_tokens", "cost_sample_count", "mean_cost_usd", "mean_premium_calls",
    "mean_egress_chars", "rejection_codes"]

def readRoute (value : Document) (message : String) : Except ContractError RoutePlan := do
  let text ← readText value message
  match RoutePlan.ofName text with
  | none => .error ⟨message⟩
  | some route => .ok route

/-- `CandidateRouteScore(**fields)`. -/
def candidateOfFields (fields : List (String × Document)) :
    Except ContractError CandidateRouteScore := do
  let get := Speculative.Value.get fields
  let rejectionCodes ← readTexts (get "rejection_codes")
    "Candidate rejection_codes must be a list."
    "candidate rejection_codes must be a safe identifier."
  let route ← readRoute (get "route") "Candidate route is not supported."
  let hardEligible ← readBool (get "hard_eligible") "Candidate hard_eligible must be boolean."
  let paretoEligible ← readBool (get "pareto_eligible")
    "Candidate pareto_eligible must be boolean."
  let utility ← readOptional (readNumber L) (get "utility") "candidate utility"
  let verifiedSamples ← readOptional (readNat L) (get "verified_samples")
    "candidate verified_samples"
  let costSampleCount ← readOptional (readNat L) (get "cost_sample_count")
    "candidate cost_sample_count"
  let successRate ← readOptional (readNumber L) (get "success_rate") "candidate success_rate"
  let p95LatencyMs ← readOptional (readNumber L) (get "p95_latency_ms")
    "candidate p95_latency_ms"
  let meanTokens ← readOptional (readNumber L) (get "mean_tokens") "candidate mean_tokens"
  let meanCostUsd ← readOptional (readNumber L) (get "mean_cost_usd") "candidate mean_cost_usd"
  let meanPremiumCalls ← readOptional (readNumber L) (get "mean_premium_calls")
    "candidate mean_premium_calls"
  let meanEgressChars ← readOptional (readNumber L) (get "mean_egress_chars")
    "candidate mean_egress_chars"
  CandidateRouteScore.construct {
    route, hardEligible, paretoEligible, utility, verifiedSamples, successRate, p95LatencyMs
    meanTokens, costSampleCount, meanCostUsd, meanPremiumCalls, meanEgressChars
    rejectionCodes }

def candidateFromPayload (raw : Document) : Except ContractError CandidateRouteScore := do
  let fields ← strictMapping raw "ShadowRouteDecision candidate"
  checkFields fields candidateFields "ShadowRouteDecision candidate"
  candidateOfFields L fields

/-! ## Decisions -/

def decisionFields : List String :=
  ["schema_version", "contract", "mode", "profile", "route_receipt_id", "route_receipt_sha256",
    "runtime_plan_sha256", "task_fingerprint", "task_signals", "baseline_route",
    "recommended_route", "applied", "abstained", "reason_codes", "candidates", "policy_digest",
    "scorecard_digest", "decision_sha256"]

def decisionRouteOfName (name : String) : Option DecisionRoute :=
  if name = "blocked" then some .blocked else (RoutePlan.ofName name).map .plan

def readDecisionRoute (value : Document) (message : String) :
    Except ContractError DecisionRoute := do
  let text ← readText value message
  match decisionRouteOfName text with
  | none => .error ⟨message⟩
  | some route => .ok route

/-- `ShadowRouteDecision(**fields)`. -/
def decisionOfFields (fields : List (String × Document)) :
    Except ContractError ShadowRouteDecision := do
  let get := Speculative.Value.get fields
  let taskSignals ← TaskSignals.fromPayload L (get "task_signals")
  let items ← readList (get "candidates") "ShadowRouteDecision candidates must be a list."
  let reasonCodes ← readTexts (get "reason_codes")
    "ShadowRouteDecision reason_codes must be a list." "reason_codes must be a safe identifier."
  let candidates ← items.mapM (candidateFromPayload L)
  let profile ← readText (get "profile") "Shadow decision profile is unsupported."
  let routeReceiptId ← readText (get "route_receipt_id")
    "route_receipt_id must be a safe identifier."
  let notDigest (label : String) := label ++ " must be a lowercase SHA-256 digest."
  let routeReceiptSha256 ← readText (get "route_receipt_sha256")
    (notDigest "route_receipt_sha256")
  let runtimePlanSha256 ← readText (get "runtime_plan_sha256") (notDigest "runtime_plan_sha256")
  let taskFingerprint ← readText (get "task_fingerprint") (notDigest "task_fingerprint")
  let policyDigest ← readText (get "policy_digest") (notDigest "policy_digest")
  let scorecardDigest ← readText (get "scorecard_digest") (notDigest "scorecard_digest")
  let baselineRoute ← readDecisionRoute (get "baseline_route")
    "Shadow decision baseline route is unsupported."
  let recommendedRoute ← readDecisionRoute (get "recommended_route")
    "Shadow decision recommendation is unsupported."
  let applied ← readBool (get "applied") "Shadow decisions can never apply a route."
  let abstained ← readBool (get "abstained") "Shadow decision abstained must be boolean."
  ShadowRouteContent.construct L {
    profile, routeReceiptId, routeReceiptSha256, runtimePlanSha256, taskFingerprint, taskSignals
    baselineRoute, recommendedRoute, applied, abstained, reasonCodes, candidates, policyDigest
    scorecardDigest }

def ShadowRouteDecision.fromPayload (raw : Document) :
    Except ContractError ShadowRouteDecision := do
  let fields ← strictMapping raw "ShadowRouteDecision"
  checkFields fields decisionFields "ShadowRouteDecision"
  let get := Speculative.Value.get fields
  checkText (get "schema_version") contractVersion
    "ShadowRouteDecision schema_version is unsupported."
  let invalid := "ShadowRouteDecision contract is invalid."
  checkText (get "contract") "ShadowRouteDecision" invalid
  checkText (get "mode") "shadow" invalid
  let decision ← decisionOfFields L fields
  let claimed ← readText (get "decision_sha256")
    "decision_sha256 must be a lowercase SHA-256 digest."
  let claimed ← requireSha256 claimed "decision_sha256"
  check (decision.decisionSha256 = claimed)
    (⟨"ShadowRouteDecision digest does not match its content."⟩ : ContractError)
  return decision

/-! ## Reading back -/

variable {fields : List (String × Document)}

theorem checkFields_of {names : List String} {label : String} (h : fields.map Prod.fst = names) :
    checkFields fields names label = .ok () := by
  have hself : names.filter (· ∉ names) = [] := by
    refine List.filter_eq_nil_iff.mpr fun name hname => ?_
    simpa using hname
  unfold checkFields
  rw [h]
  dsimp only
  rw [check_of hself, ok_bind, check_of hself]

theorem checkText_of (expected message : String) :
    checkText (.text expected) expected message = .ok () := check_of (beq_self_eq_true expected)

theorem readDigest_text (d : Digest) (label : String) : readDigest (.text d.val) label = .ok d := by
  change (if h : isSha256 d.val = true then _ else _) = _
  rw [dif_pos d.property]
  rfl

theorem readSafeId_text (id : SafeId) (label : String) :
    readSafeId (.text id.val) label = .ok id := by
  have hsafe : isSafeId (strip id.val) = true := id.property.2.symm ▸ id.property.1
  rw [readSafeId, readText, ok_bind, dif_pos hsafe]
  exact congrArg Except.ok (Subtype.ext id.property.2)

theorem readTexts_texts (items : List String) (message notText : String) :
    readTexts (.list (items.map .text)) message notText = .ok items := by
  change (items.map Speculative.Value.text).mapM _ = _
  induction items with
  | nil => rfl
  | cons item items ih =>
    rw [List.map_cons, List.mapM_cons, ih]
    rfl

theorem readNat_int (n : Nat) (label : String) : readNat L (.int n) label = .ok n := by
  change (do check (0 ≤ (n : Int)) _; pure (n : Int).toNat) = Except.ok n
  rw [check_of (Int.natCast_nonneg n)]
  rfl

theorem readOptional_number (q : Option ℚ) (label : String) :
    readOptional (readNumber L) (.ofNumber q) label = .ok q := by
  cases q <;> rfl

theorem readOptional_nat (n : Option Nat) (label : String) :
    readOptional (readNat L) (n.elim .null fun n => .int n) label = .ok n := by
  cases n with
  | none => rfl
  | some n =>
    change some <$> readNat L (.int n) label = _
    rw [readNat_int]
    rfl

theorem readDifficulty_name (d : Difficulty) : readDifficulty (.text d.name) = .ok d := by
  cases d <;> rfl

theorem readRoute_name (route : RoutePlan) (message : String) :
    readRoute (.text route.name) message = .ok route := by
  cases route <;> rfl

theorem readDecisionRoute_name (route : DecisionRoute) (message : String) :
    readDecisionRoute (.text route.name) message = .ok route := by
  cases route with
  | blocked => rfl
  | plan route => cases route <;> rfl

theorem readProviderConfig_digest (d : Digest) (source : SafeId) :
    readProviderConfig L (.text d.val) source = .ok d := by
  unfold readProviderConfig
  rw [if_pos (Speculative.truthy_sha d.property), readDigest_text]

theorem get_fields {names : List String} (hnames : fields.map Prod.fst = names)
    (hnodup : names.Nodup) : ∀ f ∈ fields, Speculative.Value.get fields f.1 = f.2 :=
  fun _ hf => Speculative.get_of_mem (hnames ▸ hnodup) hf

theorem TaskSignals.fromPayload_fields (s : TaskSignals) :
    TaskSignals.fromPayload L (.object (s.fields L)) = .ok s := by
  obtain ⟨fields, hfields⟩ : ∃ fields, fields = s.fields L := ⟨_, rfl⟩
  have hnames : fields.map Prod.fst = signalFields := hfields ▸ rfl
  have hget : ∀ f ∈ s.fields L, Speculative.Value.get fields f.1 = f.2 :=
    hfields ▸ get_fields hnames (by decide)
  rw [← hfields]
  simp only [TaskSignals.fields, TaskSignals.contentFields, List.mem_append, List.mem_cons,
    List.not_mem_nil, or_false, or_imp, forall_and, forall_eq] at hget
  have hsorted : s.capabilities.insertionSort (· ≤ ·) = s.capabilities := s.sorted.insertionSort_eq
  have hsignals : taskSignalsOfFields L fields = .ok s := by
    unfold taskSignalsOfFields
    simp only [hget, readDigest_text, readTexts_texts, readDifficulty_name, readSafeId_text,
      readProviderConfig_digest, readNat_int, ok_bind, requireIdentifierTuple_of s.identifiers]
    change (if h : 0 ≤ s.confidence ∧ s.confidence ≤ 1 then _ else _) = _
    rw [dif_pos s.confidence_range]
    exact congrArg Except.ok (TaskSignals.ext rfl hsorted rfl rfl rfl rfl rfl rfl rfl rfl rfl)
  unfold TaskSignals.fromPayload strictMapping
  rw [ok_bind, checkFields_of hnames]
  simp only [ok_bind, hget, checkText_of, hsignals]
  have hdigest := readDigest_text ⟨L.sha256Json s.contentFields,
    L.isSha256_sha256Json s.contentFields⟩ "signals_sha256"
  unfold TaskSignals.contentFields at hdigest
  rw [hdigest, ok_bind]
  exact check_bind_eq_ok.mpr ⟨rfl, rfl⟩

theorem candidateFromPayload_fields {c : CandidateRouteScore} (h : c.construct = .ok c) :
    candidateFromPayload L (.object c.fields) = .ok c := by
  obtain ⟨fields, hfields⟩ : ∃ fields, fields = c.fields := ⟨_, rfl⟩
  have hnames : fields.map Prod.fst = candidateFields := hfields ▸ rfl
  have hget : ∀ f ∈ c.fields, Speculative.Value.get fields f.1 = f.2 :=
    hfields ▸ get_fields hnames (by decide)
  rw [← hfields]
  simp only [CandidateRouteScore.fields, List.mem_cons, List.not_mem_nil, or_false, or_imp,
    forall_and, forall_eq] at hget
  unfold candidateFromPayload strictMapping
  rw [ok_bind, checkFields_of hnames, ok_bind]
  unfold candidateOfFields
  simp only [hget, readTexts_texts, readRoute_name, readOptional_number, readOptional_nat,
    readBool, ok_bind]
  exact h

theorem mapM_candidates {candidates : List CandidateRouteScore}
    (h : ∀ c ∈ candidates, c.construct = .ok c) :
    (candidates.map fun c => (.object c.fields : Document)).mapM (candidateFromPayload L) =
      .ok candidates := by
  induction candidates with
  | nil => rfl
  | cons c candidates ih =>
    obtain ⟨hc, hrest⟩ := List.forall_mem_cons.mp h
    rw [List.map_cons, List.mapM_cons, candidateFromPayload_fields L hc, ok_bind, ih hrest]
    rfl

theorem ShadowRouteDecision.fromPayload_payload {d : ShadowRouteDecision}
    (hsha : isSha256 d.decisionSha256 = true)
    (hcandidates : ∀ c ∈ d.candidates, c.construct = .ok c)
    (h : d.toShadowRouteContent.construct L = .ok d) :
    ShadowRouteDecision.fromPayload L (d.payload L) = .ok d := by
  obtain ⟨fields, hfields⟩ : ∃ fields, fields = d.contentFields L ++
    [("decision_sha256", Speculative.Value.text d.decisionSha256)] := ⟨_, rfl⟩
  have hnames : fields.map Prod.fst = decisionFields := hfields ▸ rfl
  have hget : ∀ f ∈ d.contentFields L ++ [("decision_sha256",
      Speculative.Value.text d.decisionSha256)], Speculative.Value.get fields f.1 = f.2 :=
    hfields ▸ get_fields hnames (by decide)
  unfold ShadowRouteDecision.payload
  rw [← hfields]
  simp only [ShadowRouteContent.contentFields, List.mem_append, List.mem_cons, List.not_mem_nil,
    or_false, or_imp, forall_and, forall_eq] at hget
  have hdecision : decisionOfFields L fields = .ok d := by
    unfold decisionOfFields
    simp only [hget, TaskSignals.fromPayload_fields, readList, readTexts_texts,
      mapM_candidates L hcandidates, readText, readDecisionRoute_name, readBool, ok_bind]
    exact h
  unfold ShadowRouteDecision.fromPayload strictMapping
  rw [ok_bind, checkFields_of hnames]
  simp only [ok_bind, hget, checkText_of, hdecision, readText]
  rw [requireSha256_eq_ok.mpr ⟨hsha, rfl⟩, ok_bind]
  exact check_bind_eq_ok.mpr ⟨rfl, rfl⟩

end LocalMoe.Route
