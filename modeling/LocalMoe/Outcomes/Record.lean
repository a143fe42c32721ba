/-
  `VerifiedOutcomeRecord`: its constructor and its text.
-/
import LocalMoe.Canary.Decision

namespace LocalMoe.Outcomes

open Foundation Contracts Canary

/-! ## Values -/

/-- A value of a field, as `json.dumps` takes it. -/
inductive Scalar (F : Type) where
  | none
  | bool (value : Bool)
  | int (value : Int)
  | float (value : F)
  | str (value : String)
  deriving DecidableEq

/-- The numbers of the library: what `float()` and `int()` make of a value, and how a float
is written. -/
structure Numbers where
  /-- The finite floats. -/
  Float : Type
  decidableEq : DecidableEq Float
  value : Float → ℚ
  /-- `float.__repr__`. -/
  repr : Float → List Char
  /-- `float(value)`, where it is finite. -/
  float : Scalar Float → Option Float
  /-- `int(value)`. -/
  int : Scalar Float → Option Int
  float_float : ∀ x, float (.float x) = some x
  int_int : ∀ n, int (.int n) = some n
  /-- A whole number that a float has is that float. -/
  float_int : ∀ (n : Int) x, value x = n → ∃ y, float (.int n) = some y ∧ value y = n

attribute [instance] Numbers.decidableEq

variable {N : Numbers}

/-- `str(value or "")`. -/
def Scalar.text : Scalar N.Float → String
  | .none | .bool false => ""
  | .bool true => "True"
  | .int n => if n = 0 then "" else toString n
  | .float x => if N.value x = 0 then "" else String.ofList (N.repr x)
  | .str s => s

/-- `json.dumps` of a value. -/
def Scalar.dump : Scalar N.Float → List Char
  | .none => "null".toList
  | .bool true => "true".toList
  | .bool false => "false".toList
  | .int n => (toString n).toList
  | .float x => N.repr x
  | .str s => dumpString s

/-- Whether a value is a boolean, which is a number to the library only. -/
def Scalar.isBool {F : Type} : Scalar F → Bool
  | .bool _ => true
  | .none | .int _ | .float _ | .str _ => false

def requireFiniteNumber (value : Scalar N.Float) (label : String) (maximum : Option ℚ) :
    Except ContractError N.Float := do
  check (value.isBool = false) (⟨label ++ " must be numeric."⟩ : ContractError)
  match N.float value with
  | none => .error ⟨label ++ " must be numeric."⟩
  | some x => do
    check (0 ≤ N.value x) (⟨label ++ " must be >= 0.0."⟩ : ContractError)
    check (∀ m ∈ maximum, N.value x ≤ m) (⟨label ++ " must be <= 1.0."⟩ : ContractError)
    pure x

def requireNonNegativeInt (value : Scalar N.Float) (label : String) :
    Except ContractError Int := do
  check (value.isBool = false) (⟨label ++ " must be an integer."⟩ : ContractError)
  match N.int value, N.float value with
  | some n, some x => do
    check (0 ≤ n ∧ N.value x = n)
      (⟨label ++ " must be a non-negative integer."⟩ : ContractError)
    pure n
  | _, _ => .error ⟨label ++ " must be an integer."⟩

/-! ## Sections -/

/-- An accepted `PairedOutcomeBinding`. -/
structure PairedRunSection where
  payload : Json
  taskFingerprint : String
  bridgeConfigSha256 : String
  route : String
  pricingSha256 : String

/-- An accepted `PairedCostEvidence`; `total` is `float(Decimal(total_cost_usd))`. -/
structure PairedCostSection (F : Type) where
  payload : Json
  pricingSha256 : String
  total : F

/-- An accepted `ArtifactDescriptor`. -/
structure ArtifactDescriptor where
  payload : Json
  mediaType : String
  sizeBytes : Nat

/-- The contracts of the optional sections.  Each stores what it normalises, and accepts
its own payload again as the same value. -/
structure Sections (N : Numbers) where
  /-- `PairedOutcomeBinding.from_payload`. -/
  pairedRun : Json → Except ContractError PairedRunSection
  /-- `PairedCostEvidence.from_payload`. -/
  pairedCost : Json → Except ContractError (PairedCostSection N.Float)
  /-- `ArtifactDescriptor.from_payload`. -/
  pairedEvidence : Json → Except ContractError ArtifactDescriptor
  pairedRun_payload : ∀ raw a, pairedRun raw = .ok a → pairedRun a.payload = .ok a
  pairedCost_payload : ∀ raw a, pairedCost raw = .ok a → pairedCost a.payload = .ok a
  pairedEvidence_payload : ∀ raw a, pairedEvidence raw = .ok a →
    pairedEvidence a.payload = .ok a

/-! ## Records -/

/-- The fields that are stored as they are given. -/
structure TextFields (F : Type) where
  schemaVersion : String
  createdAt : String
  routeReceiptId : Scalar F
  routeReceiptSha256 : Scalar F
  taskFingerprint : Scalar F
  configSha256 : Scalar F
  signalProviderConfigSha256 : Scalar F
  runtimePlanSha256 : Scalar F
  profile : Scalar F
  plannedRoute : String
  finalProvider : Scalar F
  difficulty : String
  source : Scalar F
  abstained : Scalar F
  outcome : String
  evidenceStrength : String
  evidenceSha256 : Scalar F
  failureClass : Scalar F
  providerRuntimeSha256 : Scalar F
  model : Scalar F

/-- The counters, each as given or as an integer. -/
structure Counters (F : Type) where
  latencyMs : Scalar F
  promptTokens : Scalar F
  completionTokens : Scalar F
  premiumCalls : Scalar F
  remotePayloadChars : Scalar F

/-- The arguments of `VerifiedOutcomeRecord`, and what it stores of them. -/
structure RecordArgs (N : Numbers) where
  recordId : String
  texts : TextFields N.Float
  capabilities : List (Scalar N.Float)
  confidence : Scalar N.Float
  counters : Counters N.Float
  estimatedCostUsd : Scalar N.Float
  routeCanary : Option Json
  pairedRun : Option Json
  pairedCost : Option Json
  pairedEvidence : Option Json

/-! ### Its text -/

/-- A field of an object, after the comma of the field before it. -/
def fieldText (key : String) (value : List Char) : List Char :=
  ',' :: dumpString key ++ ':' :: value

/-- A field that is left out when there is nothing in it. -/
def sectionText (key : String) : Option Json → List Char
  | none => []
  | some value => fieldText key (dumps value)

/-- `canonical_json` of the payload, the keys in order; without the record id it is what
the id is the digest of. -/
def RecordArgs.text (a : RecordArgs N) (recordId : List Char) : List Char :=
  '{' :: dumpString "abstained" ++ ':' :: a.texts.abstained.dump ++
    fieldText "capabilities" ('[' :: joinWith ',' (a.capabilities.map Scalar.dump) ++ [']']) ++
    fieldText "completion_tokens" a.counters.completionTokens.dump ++
    fieldText "confidence" a.confidence.dump ++
    fieldText "config_sha256" a.texts.configSha256.dump ++
    fieldText "created_at" (dumpString a.texts.createdAt) ++
    fieldText "difficulty" (dumpString a.texts.difficulty) ++
    fieldText "estimated_cost_usd" a.estimatedCostUsd.dump ++
    fieldText "evidence_sha256" a.texts.evidenceSha256.dump ++
    fieldText "evidence_strength" (dumpString a.texts.evidenceStrength) ++
    fieldText "failure_class" a.texts.failureClass.dump ++
    fieldText "final_provider" a.texts.finalProvider.dump ++
    fieldText "latency_ms" a.counters.latencyMs.dump ++
    fieldText "model" a.texts.model.dump ++
    fieldText "outcome" (dumpString a.texts.outcome) ++
    sectionText "paired_cost" a.pairedCost ++
    sectionText "paired_evidence" a.pairedEvidence ++
    sectionText "paired_run" a.pairedRun ++
    fieldText "planned_route" (dumpString a.texts.plannedRoute) ++
    fieldText "premium_calls" a.counters.premiumCalls.dump ++
    fieldText "profile" a.texts.profile.dump ++
    fieldText "prompt_tokens" a.counters.promptTokens.dump ++
    fieldText "provider_runtime_sha256" a.texts.providerRuntimeSha256.dump ++
    recordId ++
    fieldText "remote_payload_chars" a.counters.remotePayloadChars.dump ++
    sectionText "route_canary" a.routeCanary ++
    fieldText "route_receipt_id" a.texts.routeReceiptId.dump ++
    fieldText "route_receipt_sha256" a.texts.routeReceiptSha256.dump ++
    fieldText "runtime_plan_sha256" a.texts.runtimePlanSha256.dump ++
    fieldText "schema_version" (dumpString a.texts.schemaVersion) ++
    fieldText "signal_provider_config_sha256" a.texts.signalProviderConfigSha256.dump ++
    fieldText "source" a.texts.source.dump ++
    fieldText "task_fingerprint" a.texts.taskFingerprint.dump ++ ['}']

/-- `canonical_json(record.payload())`. -/
def RecordArgs.line (a : RecordArgs N) : List Char :=
  a.text (fieldText "record_id" (dumpString a.recordId))

/-! ### Its constructor -/

section Construct

variable (S : Stdlib) (C : Sections N)

/-- `sha256_json(self._unsigned_payload())`, as the id of the record. -/
def RecordArgs.expectedId (a : RecordArgs N) : String :=
  "outcome-" ++ S.sha256 ((a.text []).map fun c => UInt8.ofNat c.toNat)

/-- The checks before the capabilities. -/
def TextFields.checkHead (t : TextFields N.Float) : Except ContractError Unit := do
  check (t.schemaVersion = contractVersion)
    (⟨"Unsupported outcome schema_version."⟩ : ContractError)
  let time ← S.requireUtcTimestamp t.createdAt "created_at"
  check (time = t.createdAt) (⟨"created_at must use canonical UTC form."⟩ : ContractError)
  let _ ← requireSafeId t.routeReceiptId.text "route_receipt_id"
  let _ ← requireSha256 t.routeReceiptSha256.text "route_receipt_sha256"
  let _ ← requireSha256 t.taskFingerprint.text "task_fingerprint"
  let _ ← requireSha256 t.configSha256.text "config_sha256"
  let _ ← requireSha256 t.signalProviderConfigSha256.text "signal_provider_config_sha256"
  let _ ← requireSha256 t.runtimePlanSha256.text "runtime_plan_sha256"
  let _ ← requireSafeId t.profile.text "profile"
  check (t.plannedRoute ∈ ["local", "local_then_verify", "premium"])
    (⟨"planned_route is unsupported."⟩ : ContractError)
  check (t.finalProvider = .none ∨ isSafeId (strip t.finalProvider.text) = true)
    (⟨"final_provider must be a safe identifier."⟩ : ContractError)

/-- `require_identifier_tuple`, in the order given. -/
def requireCapabilities (items : List (Scalar N.Float)) :
    Except ContractError (List String) := do
  let items ← requireSafeIds "capabilities" (items.map Scalar.text)
  check items.Nodup (⟨"capabilities must not contain duplicates."⟩ : ContractError)
  pure items

/-- The check between the capabilities and the confidence. -/
def TextFields.checkDifficulty (t : TextFields N.Float) : Except ContractError Unit :=
  check (t.difficulty ∈ ["simple", "medium", "complex", "very_complex"])
    (⟨"difficulty is unsupported."⟩ : ContractError)

/-- The checks between the confidence and the counters. -/
def TextFields.checkBody (t : TextFields N.Float) : Except ContractError Unit := do
  let _ ← requireSafeId t.source.text "source"
  check (t.abstained.isBool = true) (⟨"abstained must be boolean."⟩ : ContractError)
  check (t.outcome ∈ ["failed", "inconclusive", "passed"])
    (⟨"outcome is unsupported."⟩ : ContractError)
  check (t.evidenceStrength ∈ ["implicit", "judge", "user", "independent", "deterministic"])
    (⟨"evidence_strength is unsupported."⟩ : ContractError)
  let _ ← requireSha256 t.evidenceSha256.text "evidence_sha256"
  let _ ← requireSafeId t.failureClass.text "failure_class"

def Counters.normalise (c : Counters N.Float) : Except ContractError (Counters N.Float) := do
  let latencyMs ← requireNonNegativeInt c.latencyMs "latency_ms"
  let promptTokens ← requireNonNegativeInt c.promptTokens "prompt_tokens"
  let completionTokens ← requireNonNegativeInt c.completionTokens "completion_tokens"
  let premiumCalls ← requireNonNegativeInt c.premiumCalls "premium_calls"
  let remotePayloadChars ← requireNonNegativeInt c.remotePayloadChars "remote_payload_chars"
  pure ⟨.int latencyMs, .int promptTokens, .int completionTokens, .int premiumCalls,
    .int remotePayloadChars⟩

/-- A cost that may be missing. -/
def requireCost : Scalar N.Float → Except ContractError (Scalar N.Float)
  | .none => pure .none
  | value => do
    let x ← requireFiniteNumber value "estimated_cost_usd" none
    pure (.float x)

/-- The checks between the cost and the sections. -/
def TextFields.checkRuntime (t : TextFields N.Float) : Except ContractError Unit := do
  check (t.providerRuntimeSha256 = .none ∨ isSha256 t.providerRuntimeSha256.text = true)
    (⟨"provider_runtime_sha256 must be a lowercase SHA-256 digest."⟩ : ContractError)
  check (t.model = .none ∨ isSafeId (strip t.model.text) = true)
    (⟨"model must be a safe identifier."⟩ : ContractError)

/-- A section that may be missing. -/
def optionalSection {α : Type} (parse : Json → Except ContractError α) :
    Option Json → Except ContractError (Option α)
  | none => pure none
  | some raw => do
    let a ← parse raw
    pure (some a)

/-- The canary decision is about the record's own route and task. -/
def TextFields.checkCanary (t : TextFields N.Float) (capabilities : List String)
    (canary : Option CanaryRouteDecision) : Except ContractError Unit :=
  check (∀ d ∈ canary, d.effectiveRoute.name = t.plannedRoute ∧
      .str d.bridgeConfigSha256 = t.configSha256 ∧ .str d.taskFingerprint = t.taskFingerprint ∧
      .str d.profile = t.profile ∧ d.capabilities = capabilities.toFinset ∧
      d.difficulty.name = t.difficulty ∧
      .str d.signalProviderConfigSha256 = t.signalProviderConfigSha256 ∧
      .str d.runtimePlanSha256 = t.runtimePlanSha256)
    (⟨"Outcome route canary binding is invalid."⟩ : ContractError)

/-- The binding is about the record's own task, configuration and route. -/
def TextFields.checkPairedRun (t : TextFields N.Float) (run : Option PairedRunSection) :
    Except ContractError Unit :=
  check (∀ b ∈ run, .str b.taskFingerprint = t.taskFingerprint ∧
      .str b.bridgeConfigSha256 = t.configSha256 ∧ b.route = t.plannedRoute)
    (⟨"Outcome paired-run binding is invalid."⟩ : ContractError)

/-- The exact cost is of the run's own pricing and is the cost of the record. -/
def checkPairedCost (run : Option PairedRunSection) (cost : Scalar N.Float)
    (paired : Option (PairedCostSection N.Float)) : Except ContractError Unit := do
  check (paired.isSome → run.isSome)
    (⟨"Paired cost evidence requires paired-run lineage."⟩ : ContractError)
  check (∀ c ∈ paired, (∀ b ∈ run, c.pricingSha256 = b.pricingSha256) ∧ cost = .float c.total)
    (⟨"Outcome paired cost evidence is invalid."⟩ : ContractError)

def receiptMediaType : String :=
  "application/vnd.mymoe.paired-attestation-receipt+json"

/-- The descriptor of the attestation receipt. -/
def checkPairedEvidence (evidence : Option ArtifactDescriptor) : Except ContractError Unit :=
  check (∀ d ∈ evidence, d.mediaType = receiptMediaType ∧ 0 < d.sizeBytes)
    (⟨"Paired attestation receipt descriptor is invalid."⟩ : ContractError)

/-- The checks after the sections. -/
def TextFields.checkTail (t : TextFields N.Float) : Except ContractError Unit := do
  check (t.finalProvider = .none → t.providerRuntimeSha256 = .none ∧ t.model = .none)
    (⟨"Provider runtime metadata requires final_provider."⟩ : ContractError)
  check (t.outcome = "passed" → t.failureClass = .str "none")
    (⟨"Passed outcomes cannot carry a failure class."⟩ : ContractError)
  check (t.outcome = "failed" → t.failureClass ≠ .str "none")
    (⟨"Failed outcomes require a failure class."⟩ : ContractError)

def construct (a : RecordArgs N) : Except ContractError (RecordArgs N) := do
  a.texts.checkHead S
  let capabilities ← requireCapabilities a.capabilities
  a.texts.checkDifficulty
  let confidence ← requireFiniteNumber a.confidence "confidence" (some 1)
  a.texts.checkBody
  let counters ← a.counters.normalise
  let cost ← requireCost a.estimatedCostUsd
  a.texts.checkRuntime
  let canary ← optionalSection (CanaryRouteDecision.fromPayload S) a.routeCanary
  a.texts.checkCanary capabilities canary
  let run ← optionalSection C.pairedRun a.pairedRun
  a.texts.checkPairedRun run
  let paired ← optionalSection C.pairedCost a.pairedCost
  checkPairedCost run cost paired
  check (a.pairedEvidence.isSome → run.isSome)
    (⟨"Paired attestation evidence requires paired-run lineage."⟩ : ContractError)
  let evidence ← optionalSection C.pairedEvidence a.pairedEvidence
  checkPairedEvidence evidence
  a.texts.checkTail
  let record : RecordArgs N := ⟨a.recordId, a.texts, capabilities.map .str, .float confidence,
    counters, cost, canary.map CanaryRouteDecision.payload, run.map PairedRunSection.payload,
    paired.map PairedCostSection.payload, evidence.map ArtifactDescriptor.payload⟩
  check (record.recordId = record.expectedId S)
    (⟨"record_id does not match record content."⟩ : ContractError)
  pure record

end Construct

/-! ## A record is constructed again from its payload -/

section Again

variable {S : Stdlib} {C : Sections N}

theorem isSafeId_of_requireSafeIds {label : String} {items ids : List String}
    (h : requireSafeIds label items = .ok ids) : ∀ id ∈ ids, isSafeId id = true := by
  induction items generalizing ids with
  | nil =>
    cases h
    exact fun _ hid => by cases hid
  | cons item rest ih =>
    obtain ⟨first, hfirst, h⟩ := bind_eq_ok.mp h
    obtain ⟨others, hothers, h⟩ := bind_eq_ok.mp h
    cases h
    intro id hid
    rcases List.mem_cons.mp hid with rfl | hid
    · obtain ⟨hsafe, rfl⟩ := requireSafeId_eq_ok.mp hfirst
      exact hsafe
    · exact ih hothers id hid

theorem requireCapabilities_again {items : List (Scalar N.Float)} {ids : List String}
    (h : requireCapabilities items = .ok ids) :
    requireCapabilities (ids.map (Scalar.str : String → Scalar N.Float)) = .ok ids := by
  obtain ⟨ids', hids, h⟩ := bind_eq_ok.mp h
  obtain ⟨hnodup, h⟩ := check_bind_eq_ok.mp h
  cases h
  have htexts : (ids.map (Scalar.str : String → Scalar N.Float)).map Scalar.text = ids := by
    rw [List.map_map]
    exact List.map_id _
  refine bind_eq_ok.mpr ⟨ids, ?_, check_bind_eq_ok.mpr ⟨hnodup, rfl⟩⟩
  rw [htexts]
  exact requireSafeIds_of_isSafeId (isSafeId_of_requireSafeIds hids)

theorem requireFiniteNumber_again {value : Scalar N.Float} {label : String}
    {maximum : Option ℚ} {x : N.Float} (h : requireFiniteNumber value label maximum = .ok x) :
    requireFiniteNumber (.float x : Scalar N.Float) label maximum = .ok x := by
  obtain ⟨_, h⟩ := check_bind_eq_ok.mp h
  refine check_bind_eq_ok.mpr ⟨rfl, ?_⟩
  rw [N.float_float]
  split at h
  · cases h
  · next y _ =>
    obtain ⟨hminimum, h⟩ := check_bind_eq_ok.mp h
    obtain ⟨hmaximum, h⟩ := check_bind_eq_ok.mp h
    cases h
    exact check_bind_eq_ok.mpr ⟨hminimum, check_bind_eq_ok.mpr ⟨hmaximum, rfl⟩⟩

theorem requireNonNegativeInt_again {value : Scalar N.Float} {label : String} {n : Int}
    (h : requireNonNegativeInt value label = .ok n) :
    requireNonNegativeInt (.int n : Scalar N.Float) label = .ok n := by
  obtain ⟨_, h⟩ := check_bind_eq_ok.mp h
  split at h
  · next m x _ _ =>
    obtain ⟨⟨hpos, hvalue⟩, h⟩ := check_bind_eq_ok.mp h
    cases h
    obtain ⟨y, hy, hyvalue⟩ := N.float_int n x hvalue
    refine check_bind_eq_ok.mpr ⟨rfl, ?_⟩
    rw [N.int_int, hy]
    exact check_bind_eq_ok.mpr ⟨⟨hpos, hyvalue⟩, rfl⟩
  · cases h

theorem Counters.normalise_again {c c' : Counters N.Float} (h : c.normalise = .ok c') :
    c'.normalise = .ok c' := by
  obtain ⟨_, hlatency, h⟩ := bind_eq_ok.mp h
  obtain ⟨_, hprompt, h⟩ := bind_eq_ok.mp h
  obtain ⟨_, hcompletion, h⟩ := bind_eq_ok.mp h
  obtain ⟨_, hpremium, h⟩ := bind_eq_ok.mp h
  obtain ⟨_, hremote, h⟩ := bind_eq_ok.mp h
  cases h
  refine bind_eq_ok.mpr ⟨_, requireNonNegativeInt_again hlatency, ?_⟩
  refine bind_eq_ok.mpr ⟨_, requireNonNegativeInt_again hprompt, ?_⟩
  refine bind_eq_ok.mpr ⟨_, requireNonNegativeInt_again hcompletion, ?_⟩
  refine bind_eq_ok.mpr ⟨_, requireNonNegativeInt_again hpremium, ?_⟩
  exact bind_eq_ok.mpr ⟨_, requireNonNegativeInt_again hremote, rfl⟩

theorem requireCost_again {cost cost' : Scalar N.Float} (h : requireCost cost = .ok cost') :
    requireCost cost' = .ok cost' := by
  unfold requireCost at h
  split at h
  · cases h
    rfl
  · obtain ⟨x, hx, h⟩ := bind_eq_ok.mp h
    cases h
    exact bind_eq_ok.mpr ⟨x, requireFiniteNumber_again hx, rfl⟩

theorem optionalSection_again {α : Type} {parse : Json → Except ContractError α}
    {payload : α → Json} (hparse : ∀ raw a, parse raw = .ok a → parse (payload a) = .ok a)
    {raw : Option Json} {a : Option α} (h : optionalSection parse raw = .ok a) :
    optionalSection parse (a.map payload) = .ok a := by
  unfold optionalSection at h
  split at h
  · cases h
    rfl
  · obtain ⟨b, hb, h⟩ := bind_eq_ok.mp h
    cases h
    exact bind_eq_ok.mpr ⟨b, hparse _ _ hb, rfl⟩

theorem optionalSection_isSome {α : Type} {parse : Json → Except ContractError α}
    {raw : Option Json} {a : Option α} (h : optionalSection parse raw = .ok a) :
    a.isSome = raw.isSome := by
  unfold optionalSection at h
  split at h
  · cases h
    rfl
  · obtain ⟨b, _, h⟩ := bind_eq_ok.mp h
    cases h
    rfl

theorem of_forM_check {ι : Type} {l : List ι} {P : ι → Prop} [DecidablePred P]
    {failure : ι → ContractError} {u : PUnit}
    (h : (l.forM fun i => check (P i) (failure i)) = .ok u) : ∀ i ∈ l, P i := by
  induction l with
  | nil => exact fun _ hi => by cases hi
  | cons first rest ih =>
    obtain ⟨hfirst, h⟩ := check_bind_eq_ok.mp h
    intro i hi
    rcases List.mem_cons.mp hi with rfl | hi
    · exact hfirst
    · exact ih h i hi

variable {d : CanaryRouteDecision}

theorem valid_of_make {args : DecisionArgs} (h : CanaryRouteDecision.make S args = .ok d) :
    d.Valid S := by
  obtain ⟨_, hdigests, h⟩ := bind_eq_ok.mp h
  obtain ⟨profile, hprofile, h⟩ := bind_eq_ok.mp h
  obtain ⟨capabilities, hcapabilities, h⟩ := bind_eq_ok.mp h
  obtain ⟨difficulty, _, h⟩ := bind_eq_ok.mp h
  obtain ⟨baseline, _, h⟩ := bind_eq_ok.mp h
  obtain ⟨effective, _, h⟩ := bind_eq_ok.mp h
  obtain ⟨recommended, _, h⟩ := bind_eq_ok.mp h
  obtain ⟨reasons, hreasons, h⟩ := bind_eq_ok.mp h
  obtain ⟨hnodup, h⟩ := check_bind_eq_ok.mp h
  obtain ⟨hreceipt, h⟩ := check_bind_eq_ok.mp h
  obtain ⟨hoperator, h⟩ := check_bind_eq_ok.mp h
  obtain ⟨hassignment, h⟩ := check_bind_eq_ok.mp h
  obtain ⟨_, happlication, h⟩ := bind_eq_ok.mp h
  obtain ⟨digest, hdigest, h⟩ := bind_eq_ok.mp h
  cases h
  obtain ⟨ids, hids, hset⟩ := bind_eq_ok.mp hcapabilities
  obtain ⟨_, hset⟩ := check_bind_eq_ok.mp hset
  cases hset
  refine ⟨of_forM_check hdigests, ?_, ?_, ?_, hreceipt, hoperator, hassignment, happlication,
    hdigest⟩
  · obtain ⟨hsafe, rfl⟩ := requireSafeId_eq_ok.mp hprofile
    exact hsafe
  · intro c hc
    exact isSafeId_of_requireSafeIds hids c (List.mem_toFinset.mp hc)
  · exact ⟨isSafeId_of_requireSafeIds hreasons, hnodup⟩

theorem valid_of_fromPayload {raw : Json} (h : CanaryRouteDecision.fromPayload S raw = .ok d) :
    d.Valid S := by
  obtain ⟨fields, _, h⟩ := bind_eq_ok.mp h
  obtain ⟨_, _, h⟩ := bind_eq_ok.mp h
  obtain ⟨_, h⟩ := check_bind_eq_ok.mp h
  obtain ⟨_, _, h⟩ := bind_eq_ok.mp h
  obtain ⟨args, _, h⟩ := bind_eq_ok.mp h
  obtain ⟨decision, hmake, h⟩ := bind_eq_ok.mp h
  obtain ⟨_, h⟩ := check_bind_eq_ok.mp h
  cases h
  exact valid_of_make hmake

theorem construct_again {a r : RecordArgs N} (h : construct S C a = .ok r) :
    construct S C r = .ok r := by
  obtain ⟨_, hhead, h⟩ := bind_eq_ok.mp h
  obtain ⟨capabilities, hcapabilities, h⟩ := bind_eq_ok.mp h
  obtain ⟨_, hdifficulty, h⟩ := bind_eq_ok.mp h
  obtain ⟨confidence, hconfidence, h⟩ := bind_eq_ok.mp h
  obtain ⟨_, hbody, h⟩ := bind_eq_ok.mp h
  obtain ⟨counters, hcounters, h⟩ := bind_eq_ok.mp h
  obtain ⟨cost, hcost, h⟩ := bind_eq_ok.mp h
  obtain ⟨_, hruntime, h⟩ := bind_eq_ok.mp h
  obtain ⟨canary, hcanary, h⟩ := bind_eq_ok.mp h
  obtain ⟨_, hcheckCanary, h⟩ := bind_eq_ok.mp h
  obtain ⟨run, hrun, h⟩ := bind_eq_ok.mp h
  obtain ⟨_, hcheckRun, h⟩ := bind_eq_ok.mp h
  obtain ⟨paired, hpaired, h⟩ := bind_eq_ok.mp h
  obtain ⟨_, hcheckCost, h⟩ := bind_eq_ok.mp h
  obtain ⟨hlineage, h⟩ := check_bind_eq_ok.mp h
  obtain ⟨evidence, hevidence, h⟩ := bind_eq_ok.mp h
  obtain ⟨_, hcheckEvidence, h⟩ := bind_eq_ok.mp h
  obtain ⟨_, htail, h⟩ := bind_eq_ok.mp h
  obtain ⟨hid, h⟩ := check_bind_eq_ok.mp h
  cases h
  refine bind_eq_ok.mpr ⟨_, hhead, ?_⟩
  refine bind_eq_ok.mpr ⟨_, requireCapabilities_again hcapabilities, ?_⟩
  refine bind_eq_ok.mpr ⟨_, hdifficulty, ?_⟩
  refine bind_eq_ok.mpr ⟨_, requireFiniteNumber_again hconfidence, ?_⟩
  refine bind_eq_ok.mpr ⟨_, hbody, ?_⟩
  refine bind_eq_ok.mpr ⟨_, Counters.normalise_again hcounters, ?_⟩
  refine bind_eq_ok.mpr ⟨_, requireCost_again hcost, ?_⟩
  refine bind_eq_ok.mpr ⟨_, hruntime, ?_⟩
  refine bind_eq_ok.mpr ⟨_, optionalSection_again (fun raw d hd =>
    CanaryRouteDecision.fromPayload_payload (valid_of_fromPayload hd)) hcanary, ?_⟩
  refine bind_eq_ok.mpr ⟨_, hcheckCanary, ?_⟩
  refine bind_eq_ok.mpr ⟨_, optionalSection_again C.pairedRun_payload hrun, ?_⟩
  refine bind_eq_ok.mpr ⟨_, hcheckRun, ?_⟩
  refine bind_eq_ok.mpr ⟨_, optionalSection_again C.pairedCost_payload hpaired, ?_⟩
  refine bind_eq_ok.mpr ⟨_, hcheckCost, ?_⟩
  refine check_bind_eq_ok.mpr ⟨?_, ?_⟩
  · intro hsome
    rw [Option.isSome_map, optionalSection_isSome hevidence] at hsome
    exact hlineage hsome
  refine bind_eq_ok.mpr ⟨_, optionalSection_again C.pairedEvidence_payload hevidence, ?_⟩
  refine bind_eq_ok.mpr ⟨_, hcheckEvidence, ?_⟩
  refine bind_eq_ok.mpr ⟨_, htail, ?_⟩
  exact check_bind_eq_ok.mpr ⟨hid, rfl⟩

end Again

end LocalMoe.Outcomes
