/-
  What the evaluation of a promotion reads: plans and their cases, policies, scorecards, outcome
  records and the proofs of the paired verifier.

  A value of these types has passed its constructor, so a check of `__post_init__` that the
  evaluation relies on is a field. A timestamp is the instant its text stands for.
-/
import LocalMoe.Paired.Contracts

namespace LocalMoe.Promotion

open Foundation Contracts Canary Paired

/-! ## Numbers and times -/

/-- Microseconds since the epoch. -/
abbrev Instant := Int

/-- A `timedelta` of whole seconds. -/
def seconds (n : Nat) : Int := n * 1000000

/-- `replace(microsecond=0)`. -/
def wholeSeconds (t : Instant) : Instant := t - t % 1000000

/-- The floats of the interpreter and their operations.  No law is asked of an operation;
a comparison compares the values, and `math.inf` is above all others. -/
structure Floats where
  Float : Type
  value : Float → WithTop ℚ
  /-- `float(n)`. -/
  ofNat : Nat → Float
  /-- A literal, and `float` of a decimal. -/
  ofDecimal : ℚ → Float
  /-- `Decimal(str(x))`. -/
  toDecimal : Float → ℚ
  /-- `math.inf`. -/
  infinity : Float
  add : Float → Float → Float
  sub : Float → Float → Float
  mul : Float → Float → Float
  div : Float → Float → Float
  /-- `math.sqrt`. -/
  sqrt : Float → Float
  /-- `math.ceil`. -/
  ceil : Float → Int
  /-- `NormalDist().inv_cdf`. -/
  invCdf : Float → Float
  /-- `round(x, 6)`. -/
  round6 : Float → Float
  /-- `datetime.fromtimestamp`. -/
  fromTimestamp : Float → Instant
  /-- `datetime.timestamp`. -/
  timestamp : Instant → Float
  /-- `timedelta.total_seconds`. -/
  totalSeconds : Int → Float

variable {F : Floats}

namespace Floats

/-- `a <= b`. -/
def Le (F : Floats) (a b : F.Float) : Prop := F.value a ≤ F.value b

/-- `a < b`. -/
def Lt (F : Floats) (a b : F.Float) : Prop := F.value a < F.value b

instance (a b : F.Float) : Decidable (F.Le a b) := inferInstanceAs (Decidable (_ ≤ _))

instance (a b : F.Float) : Decidable (F.Lt a b) := inferInstanceAs (Decidable (_ < _))

def max (F : Floats) (a b : F.Float) : F.Float := if F.Lt a b then b else a

def min (F : Floats) (a b : F.Float) : F.Float := if F.Lt b a then b else a

/-- `sum` of floats. -/
def sum (F : Floats) (values : List F.Float) : F.Float := values.foldl F.add (F.ofNat 0)

end Floats

/-! ## Evidence -/

inductive EvidenceStrength where
  | implicit | judge | user | independent | deterministic
  deriving DecidableEq, Repr

def EvidenceStrength.index : EvidenceStrength → Nat
  | .implicit => 0
  | .judge => 1
  | .user => 2
  | .independent => 3
  | .deterministic => 4

inductive Outcome where
  | failed | inconclusive | passed
  deriving DecidableEq, Repr

/-- The arms of a paired run. -/
inductive Arm where
  | baseline | candidate
  deriving DecidableEq, Repr

/-- `PairedOutcomeBinding`, as an outcome embeds it. -/
structure OutcomeBinding where
  bindingSha256 : String
  runId : String
  planSha256 : String
  caseSha256 : String
  taskFingerprint : String
  normalizedItemSha256 : String
  sourceSnapshotSha256 : String
  bridgeConfigSha256 : String
  executorConfigSha256 : String
  executionHarnessSha256 : String
  lifecycleConfigSha256 : String
  signalsSha256 : String
  runnerSha256 : String
  runnerSourceSha256 : String
  pricingSha256 : String
  runInstanceNonce : String
  order : Order
  baselineRoute : RoutePlan
  candidateRoute : RoutePlan
  slot : SlotId
  arm : Arm
  ordinal : Fin 2
  route : RoutePlan
  claimSha256 : String
  previousRecordId : Option String
  deriving DecidableEq

structure CommandCostEvidence where
  promptTokens : Nat
  completionTokens : Nat
  providerId : String
  model : String
  providerRuntimeSha256 : Option String
  deriving DecidableEq

/-- `PairedCostEvidence`; its last command is kept apart, as there is one. -/
structure PairedCostEvidence where
  pricingSha256 : String
  earlier : List CommandCostEvidence
  last : CommandCostEvidence
  totalCostUsd : ℚ
  /-- `from_payload` accepts its payload once more. -/
  readable : Bool
  deriving DecidableEq

def PairedCostEvidence.commands (e : PairedCostEvidence) : List CommandCostEvidence :=
  e.earlier ++ [e.last]

/-- `PricingContract`, and which evidence `validate_against` accepts. -/
structure PricingContract where
  pricingSha256 : String
  prices : PairedCostEvidence → Bool

/-- `VerifiedOutcomeRecord`, the fields that the evaluation reads. -/
structure OutcomeRecord (F : Floats) where
  recordId : String
  createdAt : Instant
  routeReceiptId : String
  routeReceiptSha256 : String
  taskFingerprint : String
  configSha256 : String
  signalProviderConfigSha256 : String
  runtimePlanSha256 : String
  profile : String
  plannedRoute : RoutePlan
  finalProvider : Option String
  capabilities : List String
  difficulty : Difficulty
  confidence : F.Float
  source : String
  abstained : Bool
  outcome : Outcome
  evidenceStrength : EvidenceStrength
  evidenceSha256 : String
  failureClass : String
  latencyMs : Nat
  promptTokens : Nat
  completionTokens : Nat
  premiumCalls : Nat
  remotePayloadChars : Nat
  providerRuntimeSha256 : Option String
  model : Option String
  pairedRun : Option OutcomeBinding
  pairedCost : Option PairedCostEvidence

/-- `VerifiedPairedEvidence`.  Its record is the one that was verified: `verify_record`
raises unless the payloads are equal. -/
structure PairedProof (F : Floats) where
  binding : OutcomeBinding
  verifierIds : List String
  candidateCreatedAt : F.Float
  latestAttestationIssuedAt : F.Float

/-- `PairedAttestationVerifier`: any function from records to proofs. -/
structure PairedVerifier (F : Floats) where
  policySha256 : String
  runnerSourceSha256 : String
  configurationSha256 : String
  /-- `verify_record`. -/
  verifyRecord : OutcomeRecord F → PricingContract → Except ContractError (PairedProof F)

/-! ## Policies and scorecards -/

structure PromotionGatePolicy (F : Floats) where
  minimumPairedTasks : Nat
  minimumPairedTasksPerCell : Nat
  minimumEvidenceStrength : EvidenceStrength
  minimumConfidence : F.Float
  confidenceLevel : F.Float
  maximumCandidateLatencyRatio : F.Float
  maximumCandidateP95LatencyMs : F.Float
  minimumRelativeImprovement : F.Float
  maximumHoldoutAgeSeconds : Nat
  maximumPairTimeSkewSeconds : Nat
  maximumCanaryBasisPoints : Nat
  maximumManifestTtlSeconds : Nat
  requireCompleteCostEvidence : Bool
  blockingFailureClasses : List String
  nonBlockingFailureClasses : List String
  digest : String
  canaryCap : maximumCanaryBasisPoints ≤ maxCanaryBasisPoints

/-- `RouteProfilePolicy`, with the weight of the cost. -/
structure RouteProfilePolicy (F : Floats) where
  minSuccessRate : F.Float
  minSamples : Nat
  minConfidence : F.Float
  costWeight : F.Float

structure VerifiedRoutePolicy (F : Floats) where
  profiles : String → Option (RouteProfilePolicy F)
  digest : String

structure ScorecardEntry (F : Floats) where
  configSha256 : String
  signalProviderConfigSha256 : String
  runtimePlanSha256 : String
  route : RoutePlan
  capabilities : List String
  difficulty : Difficulty
  verifiedSamples : Nat
  successRate : F.Float

structure RouteScorecard (F : Floats) where
  generatedAt : Instant
  expiresAt : Instant
  minimumEvidenceStrength : EvidenceStrength
  minimumConfidence : F.Float
  sourceDigest : String
  entries : List (ScorecardEntry F)
  digest : String

/-! ## Plans -/

structure PromotionCase where
  taskFingerprint : String
  normalizedItemSha256 : String
  profile : String
  capabilities : List String
  difficulty : Difficulty
  baselineRoute : RoutePlan
  candidateRoute : RoutePlan
  order : Order
  configSha256 : String
  signalProviderConfigSha256 : String
  runtimePlanSha256 : String
  lessPremium : candidateRoute.rank < baselineRoute.rank

structure CellKey where
  profile : String
  capabilities : List String
  difficulty : Difficulty
  baselineRoute : RoutePlan
  candidateRoute : RoutePlan
  configSha256 : String
  signalProviderConfigSha256 : String
  runtimePlanSha256 : String
  deriving DecidableEq

def PromotionCase.cellKey (c : PromotionCase) : CellKey where
  profile := c.profile
  capabilities := c.capabilities
  difficulty := c.difficulty
  baselineRoute := c.baselineRoute
  candidateRoute := c.candidateRoute
  configSha256 := c.configSha256
  signalProviderConfigSha256 := c.signalProviderConfigSha256
  runtimePlanSha256 := c.runtimePlanSha256

def orderName : Order → String
  | .ab => "AB"
  | .ba => "BA"

def PromotionCase.payload (c : PromotionCase) : Json :=
  .obj [("task_fingerprint", .str c.taskFingerprint),
    ("normalized_item_sha256", .str c.normalizedItemSha256), ("profile", .str c.profile),
    ("capabilities", .arr (c.capabilities.map .str)), ("difficulty", .str c.difficulty.name),
    ("baseline_route", .str c.baselineRoute.name), ("candidate_route", .str c.candidateRoute.name),
    ("order", .str (orderName c.order)), ("config_sha256", .str c.configSha256),
    ("signal_provider_config_sha256", .str c.signalProviderConfigSha256),
    ("runtime_plan_sha256", .str c.runtimePlanSha256)]

theorem PromotionCase.baseline_ne_candidate (c : PromotionCase) :
    c.baselineRoute ≠ c.candidateRoute := by
  intro h
  have hrank := c.lessPremium
  rw [h] at hrank
  exact lt_irrefl _ hrank

/-- `VerifiedRoutingEvidencePlan`.  Its cases are in the order of their tasks, which is the
order the evaluation goes through them. -/
structure EvidencePlan where
  createdAt : Instant
  routePolicyDigest : String
  scorecardDigest : String
  trainingSourceDigest : String
  gatePolicyDigest : String
  evaluatorSha256 : String
  canaryBasisPoints : Nat
  manifestTtlSeconds : Nat
  assignmentSaltSha256 : String
  attestationPolicySha256 : Option String
  executionHarnessSha256 : Option String
  runnerSourceSha256 : Option String
  pricingContract : Option PricingContract
  pricingSha256 : Option String
  planSha256 : String
  profile : String
  cases : List PromotionCase
  nonempty : cases ≠ []
  uniqueTasks : (cases.map PromotionCase.taskFingerprint).Nodup
  uniqueItems : (cases.map PromotionCase.normalizedItemSha256).Nodup
  oneProfile : ∀ c ∈ cases, c.profile = profile
  positive : 0 < canaryBasisPoints ∧ 0 < manifestTtlSeconds

end LocalMoe.Promotion
