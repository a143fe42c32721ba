/-
  `cell_contracts.py` and what the selector is told: passports of cells, profiles, catalogs,
  snapshots and requests; candidates and advice.

  Numbers are exact.
-/
import LocalMoe.Route.Contracts

namespace LocalMoe.Advisor

open Foundation Contracts
open Speculative (Conversions)
open Route (Document Identifiers requireIdentifierTuple)

/-- A timestamp, and the instant that `_time` reads. -/
structure Timestamp where
  text : String
  instant : Int
  deriving DecidableEq

/-! ## Memory -/

inductive MemoryPool where
  | host | unified | accelerator
  deriving DecidableEq, Repr

def MemoryPool.name : MemoryPool → String
  | .host => "host"
  | .unified => "unified"
  | .accelerator => "accelerator"

inductive Placement where
  | cpu | integratedAccelerator | discreteAccelerator
  deriving DecidableEq, Repr

def Placement.name : Placement → String
  | .cpu => "cpu"
  | .integratedAccelerator => "integrated_accelerator"
  | .discreteAccelerator => "discrete_accelerator"

/-- A memory pool, a placement and the peaks of memory. -/
structure Resources where
  memoryPool : Option MemoryPool
  placement : Option Placement
  host : Option Nat
  unified : Option Nat
  accelerator : Option Nat
  deriving DecidableEq

def validateResourceShape (r : Resources) (label : String) : Except ContractError Unit :=
  match r.memoryPool with
  | none =>
    check (r.placement = none ∧ r.host = none ∧ r.unified = none ∧ r.accelerator = none)
      (⟨"Unknown " ++ label ++ " must not claim resource values."⟩ : ContractError)
  | some pool => do
    check (r.placement ≠ none)
      (⟨"Known " ++ label ++ " requires placement."⟩ : ContractError)
    let valid : Bool :=
      match pool with
      | .host => r.placement = some .cpu && r.host.isSome && r.unified.isNone &&
          r.accelerator.isNone
      | .unified => r.placement = some .integratedAccelerator && r.unified.isSome &&
          r.host.isNone && r.accelerator.isNone
      | .accelerator => r.placement = some .discreteAccelerator && r.host.isSome &&
          r.accelerator.isSome && r.unified.isNone
    check (valid = true)
      (⟨label ++ " resource values do not match memory_pool and placement."⟩ : ContractError)

/-- Resources of positive peaks that a contract has accepted under its label. -/
structure Resources.Accepted (r : Resources) (label : String) : Prop where
  host_pos : ∀ n ∈ r.host, 0 < n
  unified_pos : ∀ n ∈ r.unified, 0 < n
  accelerator_pos : ∀ n ∈ r.accelerator, 0 < n
  shape : validateResourceShape r label = .ok ()

/-! ## Cells -/

structure WorkloadDemand where
  capabilities : List String
  toolSurfaces : List String
  riskClass : String
  contextTokens : Nat
  digest : Digest
  capabilities_nonempty : capabilities ≠ []
  context_pos : 0 < contextTokens

inductive Availability where
  | available | missing | unknown
  deriving DecidableEq, Repr

inductive Residency where
  | resident | notResident | unknown
  deriving DecidableEq, Repr

/-- The parts of a cell whose identity is observed. -/
inductive Component where
  | model | runtime | harness | toolContract
  deriving DecidableEq, Repr

def Component.name : Component → String
  | .model => "model"
  | .runtime => "runtime"
  | .harness => "harness"
  | .toolContract => "tool_contract"

/-- The components, in their order. -/
def components : List Component := [.model, .runtime, .harness, .toolContract]

structure CellDeclaration where
  cellId : SafeId
  capabilities : List String
  toolSurfaces : List String
  riskClasses : List String
  supportedSystems : List String
  supportedMachines : List String
  maxContextTokens : Nat
  offlineCapable : Bool
  /-- `expected_model_sha256` and its like. -/
  expectedSha256 : Component → Option Digest

structure CellObservation where
  /-- `model_status` and its like. -/
  status : Component → Availability
  /-- `observed_model_sha256` and its like. -/
  observedSha256 : Component → Option Digest
  residencyStatus : Residency
  capturedAt : Option Timestamp
  expiresAt : Option Timestamp
  identity : ∀ component, status component = .available ↔ observedSha256 component ≠ none
  unknown : (∀ component, status component = .unknown) → residencyStatus = .unknown →
    capturedAt = none ∧ expiresAt = none
  known : ¬ ((∀ component, status component = .unknown) ∧ residencyStatus = .unknown) →
    capturedAt ≠ none ∧ expiresAt ≠ none

structure CellEstimate where
  resources : Resources
  accepted : resources.Accepted "estimate"

structure CellMeasurement where
  sampleCount : Nat
  successRate : Option ℚ
  p95LatencyMs : Option ℚ
  resources : Resources
  resourceClassSha256 : Option Digest
  demandSha256 : Option Digest
  evaluationContractSha256 : Option Digest
  measuredAt : Option Timestamp
  expiresAt : Option Timestamp
  success_range : ∀ q ∈ successRate, 0 ≤ q ∧ q ≤ 1
  latency_nonneg : ∀ q ∈ p95LatencyMs, 0 ≤ q
  accepted : resources.Accepted "measurement"
  unknown : sampleCount = 0 → successRate = none ∧ p95LatencyMs = none ∧
    resources = ⟨none, none, none, none, none⟩ ∧ resourceClassSha256 = none ∧
    demandSha256 = none ∧ evaluationContractSha256 = none ∧ measuredAt = none ∧ expiresAt = none
  known : 0 < sampleCount → successRate ≠ none ∧ p95LatencyMs ≠ none ∧
    resources.memoryPool ≠ none ∧ resources.placement ≠ none ∧ resourceClassSha256 ≠ none ∧
    demandSha256 ≠ none ∧ evaluationContractSha256 ≠ none ∧ measuredAt ≠ none ∧ expiresAt ≠ none

structure CellPassport where
  declaration : CellDeclaration
  observed : CellObservation
  estimated : CellEstimate
  measured : CellMeasurement
  digest : Digest

def CellPassport.cellId (cell : CellPassport) : SafeId := cell.declaration.cellId

/-! ## Catalogs, snapshots and requests -/

structure AdvisorProfile where
  qualityWeight : ℚ
  latencyWeight : ℚ
  memoryWeight : ℚ
  minSuccessRate : ℚ
  minSamples : Nat
  reserveMemoryBytes : Nat
  latencyReferenceMs : ℚ
  memoryReferenceBytes : Nat
  maxSnapshotAgeSeconds : Nat
  maxSwapUsedBytes : Nat
  quality_nonneg : 0 ≤ qualityWeight
  latency_nonneg : 0 ≤ latencyWeight
  memory_nonneg : 0 ≤ memoryWeight
  total_pos : 0 < qualityWeight + latencyWeight + memoryWeight
  success_range : 0 ≤ minSuccessRate ∧ minSuccessRate ≤ 1
  samples_pos : 0 < minSamples
  latency_pos : 0 < latencyReferenceMs
  memory_pos : 0 < memoryReferenceBytes
  age_pos : 0 < maxSnapshotAgeSeconds

def AdvisorProfile.totalWeight (p : AdvisorProfile) : ℚ :=
  p.qualityWeight + p.latencyWeight + p.memoryWeight

structure AdaptiveCellCatalog where
  cells : List CellPassport
  profiles : String → Option AdvisorProfile
  digest : Digest
  nonempty : cells ≠ []
  few : cells.length ≤ 256
  sorted : (cells.map fun cell => cell.cellId.val).Pairwise (· < ·)

inductive MemoryTopology where
  | unified | system | dedicated | unknown
  deriving DecidableEq, Repr

inductive AcceleratorKind where
  | integrated | discrete | none | unknown
  deriving DecidableEq, Repr

/-- What the selector reads of `ResourceSnapshot`. -/
structure ResourceSnapshot where
  system : String
  osRelease : String
  machine : String
  cpuCount : Option Nat
  cpuIdentitySha256 : Option Digest
  memoryTopology : MemoryTopology
  totalMemoryBytes : Option Nat
  availableMemoryBytes : Option Nat
  effectiveMemoryLimitBytes : Option Nat
  swapUsedBytes : Option Nat
  acceleratorKind : AcceleratorKind
  acceleratorIdentitySha256 : Option Digest
  acceleratorMemoryAvailableBytes : Option Nat
  runtimeEnvironmentSha256 : Option Digest
  capturedAt : Timestamp
  resourceClassSha256 : Digest
  digest : Digest

structure AdaptiveRequest where
  demand : WorkloadDemand
  evaluationContractSha256 : Digest
  profile : SafeId
  evaluatedAt : Timestamp
  digest : Digest

/-! ## Candidates -/

def ids (items : List String) (label : String) (nonEmpty : Bool) :
    Except ContractError (List String) := do
  let items ← requireIdentifierTuple items label
  check (¬ (nonEmpty = true ∧ items.val = []))
    (⟨label ++ " must be non-empty."⟩ : ContractError)
  return items.val.insertionSort (· ≤ ·)

/-- `_number` with the least value zero. -/
def checkNonNegative (value : Option ℚ) (label : String) : Except ContractError Unit :=
  check (∀ q ∈ value, 0 ≤ q) (⟨label ++ " must be >= 0."⟩ : ContractError)

/-- `_number` with the greatest value one. -/
def checkAtMostOne (value : Option ℚ) (label : String) : Except ContractError Unit :=
  check (∀ q ∈ value, q ≤ 1) (⟨label ++ " must be <= 1."⟩ : ContractError)

/-- `_positive` on an optional number. -/
def checkPositive (value : Option Nat) (label : String) : Except ContractError Unit :=
  check (∀ n ∈ value, 0 < n) (⟨label ++ " must be positive."⟩ : ContractError)

/-- What a candidate is constructed from. -/
structure CandidateContent where
  cellId : SafeId
  passportSha256 : Digest
  hardEligible : Bool
  paretoEligible : Bool
  rejectionCodes : List String
  successRate : Option ℚ
  p95LatencyMs : Option ℚ
  resources : Resources
  utility : Option ℚ

structure CandidateAssessment extends CandidateContent where
  digest : String

/-- A number or nothing, as a document. -/
def ofNat (value : Option Nat) : Document := value.elim .null fun n => .int n

def CandidateContent.contentFields (c : CandidateContent) : List (String × Document) :=
  [("schema_version", .text contractVersion), ("cell_id", .text c.cellId.val),
    ("passport_sha256", .text c.passportSha256.val), ("hard_eligible", .bool c.hardEligible),
    ("pareto_eligible", .bool c.paretoEligible), ("success_rate", .ofNumber c.successRate),
    ("p95_latency_ms", .ofNumber c.p95LatencyMs),
    ("memory_pool", c.resources.memoryPool.elim .null fun pool => .text pool.name),
    ("placement", c.resources.placement.elim .null fun placement => .text placement.name),
    ("effective_peak_host_memory_bytes", ofNat c.resources.host),
    ("effective_peak_unified_memory_bytes", ofNat c.resources.unified),
    ("effective_peak_accelerator_memory_bytes", ofNat c.resources.accelerator),
    ("utility", .ofNumber c.utility), ("rejection_codes", .list (c.rejectionCodes.map .text))]

/-- `CandidateAssessment(...)`. -/
def CandidateContent.construct (L : Conversions) (c : CandidateContent) :
    Except ContractError CandidateAssessment := do
  let reasons ← ids c.rejectionCodes "rejection_codes" false
  checkNonNegative c.successRate "success_rate"
  checkAtMostOne c.successRate "success_rate"
  checkNonNegative c.p95LatencyMs "p95_latency_ms"
  checkPositive c.resources.host "effective_peak_host_memory_bytes"
  checkPositive c.resources.unified "effective_peak_unified_memory_bytes"
  checkPositive c.resources.accelerator "effective_peak_accelerator_memory_bytes"
  validateResourceShape c.resources "candidate"
  checkNonNegative c.utility "utility"
  checkAtMostOne c.utility "utility"
  check (c.hardEligible = true → reasons = [] ∧ c.successRate ≠ none ∧ c.p95LatencyMs ≠ none ∧
      c.resources.memoryPool ≠ none ∧ c.resources.placement ≠ none)
    (⟨"Hard-eligible candidate requires complete metrics and no rejection."⟩ : ContractError)
  check (c.hardEligible = false → c.paretoEligible = false ∧ c.utility = none)
    (⟨"Hard-ineligible candidate cannot enter Pareto ranking."⟩ : ContractError)
  check (c.paretoEligible = true ↔ c.utility ≠ none)
    (⟨"Only Pareto candidates may receive utility."⟩ : ContractError)
  let content := { c with rejectionCodes := reasons }
  return { content with digest := L.sha256Json content.contentFields }

def CandidateAssessment.fields (c : CandidateAssessment) : List (String × Document) :=
  c.contentFields ++ [("digest", .text c.digest)]

def Resources.totalMemoryBytes (r : Resources) : Option Nat :=
  match [r.host, r.unified, r.accelerator].filterMap id with
  | [] => none
  | present => some present.sum

/-! ## Advice -/

inductive AdviceStatus where
  | recommended | abstained
  deriving DecidableEq, Repr

def AdviceStatus.name : AdviceStatus → String
  | .recommended => "recommended"
  | .abstained => "abstained"

structure AdviceContent where
  catalogSha256 : Digest
  requestSha256 : Digest
  resourceSnapshotSha256 : Digest
  evaluatedAt : Timestamp
  profile : SafeId
  status : AdviceStatus
  selectedCellId : Option SafeId
  candidates : List CandidateAssessment
  reasonCodes : List String

/-- `AdaptiveAdvice`. It applies nothing, authorizes nothing, uses no network and calls no
model. -/
structure AdaptiveAdvice extends AdviceContent where
  digest : String

def AdviceContent.contentFields (a : AdviceContent) : List (String × Document) :=
  [("schema_version", .text contractVersion), ("contract", .text "AdaptiveCellAdvisor"),
    ("catalog_sha256", .text a.catalogSha256.val), ("request_sha256", .text a.requestSha256.val),
    ("resource_snapshot_sha256", .text a.resourceSnapshotSha256.val),
    ("evaluated_at", .text a.evaluatedAt.text), ("profile", .text a.profile.val),
    ("status", .text a.status.name),
    ("selected_cell_id", a.selectedCellId.elim .null fun id => .text id.val),
    ("candidates", .list (a.candidates.map fun c => .object c.fields)),
    ("reason_codes", .list (a.reasonCodes.map .text)), ("applied", .bool false),
    ("authorizes_execution", .bool false), ("network_used", .bool false),
    ("model_invocations", .int 0)]

/-- `AdaptiveAdvice(...)`. -/
def AdviceContent.construct (L : Conversions) (a : AdviceContent) :
    Except ContractError AdaptiveAdvice := do
  let cellIds := a.candidates.map fun c => c.cellId.val
  check (cellIds = cellIds.insertionSort (· ≤ ·) ∧ cellIds.Nodup)
    (⟨"Candidates must be assessments, unique, and sorted."⟩ : ContractError)
  check (a.status = .recommended → (a.candidates.filter fun c =>
      some c.cellId = a.selectedCellId ∧ c.paretoEligible = true).length = 1)
    (⟨"Recommended advice must select one Pareto candidate."⟩ : ContractError)
  check (a.status = .abstained → a.selectedCellId = none)
    (⟨"Abstained advice cannot select a cell."⟩ : ContractError)
  let reasons ← ids a.reasonCodes "reason_codes" true
  let content := { a with reasonCodes := reasons }
  return { content with digest := L.sha256Json content.contentFields }

end LocalMoe.Advisor
