/-
  `advise_cell`: what a snapshot and a cell are rejected for, the frontier of the cells that are
  left, and the advice.

  A set of codes is a list, as no code is added twice.
-/
import LocalMoe.Advisor.Contracts
import LocalMoe.Route.Recommend

namespace LocalMoe.Advisor

open Foundation Contracts
open Speculative (Conversions)
open Route (flagged)

/-! ## Rejections -/

/-- `_global_snapshot_rejections`, in the order of the codes. -/
def globalSnapshotRejections (snapshot : ResourceSnapshot) (request : AdaptiveRequest)
    (profile : AdvisorProfile) : List String :=
  let evaluated := request.evaluatedAt.instant
  let captured := snapshot.capturedAt.instant
  flagged
    [(captured > evaluated, "snapshot_from_future"),
      (captured ≤ evaluated && evaluated - captured > profile.maxSnapshotAgeSeconds,
        "snapshot_stale"),
      (snapshot.swapUsedBytes.any fun used => used > profile.maxSwapUsedBytes,
        "swap_limit_exceeded"),
      (snapshot.swapUsedBytes = none, "swap_usage_unknown")]

/-- The codes of `_freshness` for a label. -/
def freshnessFlags (start expires : Option Timestamp) (evaluated : Int) (label : String) :
    List (Bool × String) :=
  let known : Bool := start.isSome && expires.isSome
  [(known && start.any fun t => t.instant > evaluated, label ++ "_from_future"),
    (known && expires.any fun t => evaluated ≥ t.instant, label ++ "_expired")]

def componentFlags (cell : CellPassport) (component : Component) : List (Bool × String) :=
  let status := cell.observed.status component
  let expected := cell.declaration.expectedSha256 component
  let actual := cell.observed.observedSha256 component
  [(expected = none, component.name ++ "_expected_identity_unknown"),
    (status = .unknown, component.name ++ "_availability_unknown"),
    (status = .missing, component.name ++ "_unavailable"),
    (status = .available && expected ≠ none && actual ≠ expected,
      component.name ++ "_identity_mismatch")]

def maximum : Option Nat → Option Nat → Option Nat
  | none, right => right
  | left, none => left
  | some left, some right => some (max left right)

/-- Whether the pool and the placement of the measurement are those of the estimate. -/
def measurementApplies (cell : CellPassport) : Bool :=
  cell.measured.resources.memoryPool = cell.estimated.resources.memoryPool &&
    cell.measured.resources.placement = cell.estimated.resources.placement

/-- `_effective_resources`, with the pool and the placement of the estimate. -/
def effectiveResources (cell : CellPassport) : Resources :=
  let estimated := cell.estimated.resources
  let measured := cell.measured.resources
  if estimated.memoryPool = none ∨ estimated.placement = none then
    ⟨estimated.memoryPool, estimated.placement, none, none, none⟩
  else
    let peak (peakOf : Resources → Option Nat) : Option Nat :=
      maximum (peakOf estimated) (if measurementApplies cell then peakOf measured else none)
    ⟨estimated.memoryPool, estimated.placement, peak Resources.host, peak Resources.unified,
      peak Resources.accelerator⟩

/-- What the host and the accelerators it shares memory with may use. -/
def systemAvailable (snapshot : ResourceSnapshot) : Option Nat :=
  match snapshot.availableMemoryBytes, snapshot.effectiveMemoryLimitBytes with
  | some available, some limit => some (min available limit)
  | _, _ => none

/-- A peak that is unknown, or that does not fit with the reserve. -/
def exceeds (peak : Option Nat) (reserve available : Nat) : Bool :=
  match peak with
  | none => true
  | some peak => peak + reserve > available

/-- The two codes of a pool: what is available is unknown, or is not enough. -/
def headroomFlags (peak : Option Nat) (reserve : Nat) (available : Option Nat) (pool : String) :
    List (Bool × String) :=
  [(available = none, pool ++ "_memory_unknown"),
    (available.any (exceeds peak reserve), pool ++ "_memory_headroom_insufficient")]

def resourceFlags (r : Resources) (snapshot : ResourceSnapshot) (profile : AdvisorProfile) :
    List (Bool × String) :=
  let reserve := profile.reserveMemoryBytes
  match r.memoryPool, r.placement with
  | some .host, some .cpu => headroomFlags r.host reserve (systemAvailable snapshot) "host"
  | some .unified, some .integratedAccelerator =>
    (snapshot.memoryTopology ≠ .unified || snapshot.acceleratorKind ≠ .integrated,
      "unified_memory_unavailable") ::
      headroomFlags r.unified reserve (systemAvailable snapshot) "unified"
  | some .accelerator, some .discreteAccelerator =>
    headroomFlags r.accelerator reserve
      (if snapshot.memoryTopology = .dedicated ∧ snapshot.acceleratorKind = .discrete then
        snapshot.acceleratorMemoryAvailableBytes else none) "accelerator" ++
      headroomFlags r.host reserve (systemAvailable snapshot) "host"
  | _, _ => []

/-- The codes of a measurement, where there are samples. -/
def measurementFlags (cell : CellPassport) (snapshot : ResourceSnapshot)
    (request : AdaptiveRequest) (profile : AdvisorProfile) : List (Bool × String) :=
  let measured := cell.measured
  let known : Bool := measured.sampleCount ≠ 0
  [(!known, "measurement_unknown"),
    (known && measured.demandSha256 ≠ some request.demand.digest, "measurement_demand_mismatch"),
    (known && measured.evaluationContractSha256 ≠ some request.evaluationContractSha256,
      "measurement_evaluation_contract_mismatch"),
    (known && measured.resourceClassSha256 ≠ some snapshot.resourceClassSha256,
      "measurement_not_applicable"),
    (known && !measurementApplies cell, "measurement_placement_mismatch"),
    (known && measured.sampleCount < profile.minSamples, "insufficient_samples"),
    (known && measured.successRate.any fun q => q < profile.minSuccessRate,
      "quality_floor_not_met")] ++
  (freshnessFlags measured.measuredAt measured.expiresAt request.evaluatedAt.instant
    "measurement").map fun flag => (known && flag.1, flag.2)

/-- The codes of `_hard_filter`, but for its last. -/
def hardFlags (cell : CellPassport) (snapshot : ResourceSnapshot) (request : AdaptiveRequest)
    (profile : AdvisorProfile) : List (Bool × String) :=
  let declared := cell.declaration
  let estimated := cell.estimated.resources
  let demand := request.demand
  [(!declared.offlineCapable, "offline_not_supported"),
    (snapshot.system ∉ declared.supportedSystems, "system_not_supported"),
    (snapshot.machine ∉ declared.supportedMachines, "machine_not_supported"),
    (¬ demand.capabilities ⊆ declared.capabilities, "capability_gap"),
    (¬ demand.toolSurfaces ⊆ declared.toolSurfaces, "tool_surface_gap"),
    (demand.riskClass ∉ declared.riskClasses, "risk_class_not_supported"),
    (demand.contextTokens > declared.maxContextTokens, "context_window_exceeded")] ++
  components.flatMap (componentFlags cell) ++
  freshnessFlags cell.observed.capturedAt cell.observed.expiresAt request.evaluatedAt.instant
    "observation" ++
  [(estimated.memoryPool = none || estimated.placement = none, "resource_estimate_unknown")] ++
  measurementFlags cell snapshot request profile ++
  resourceFlags (effectiveResources cell) snapshot profile ++
  [(snapshot.system = "unknown" || snapshot.osRelease = "unknown" || snapshot.cpuCount = none ||
      snapshot.cpuIdentitySha256 = none || snapshot.totalMemoryBytes = none ||
      snapshot.runtimeEnvironmentSha256 = none || snapshot.effectiveMemoryLimitBytes = none,
      "resource_class_unknown"),
    ((estimated.placement = some .integratedAccelerator ||
      estimated.placement = some .discreteAccelerator) &&
      snapshot.acceleratorIdentitySha256 = none, "accelerator_identity_unknown")]

/-- The codes of `_hard_filter`. -/
def hardRejections (cell : CellPassport) (snapshot : ResourceSnapshot)
    (request : AdaptiveRequest) (profile : AdvisorProfile) : List String :=
  let rejected := flagged (hardFlags cell snapshot request profile)
  if rejected = [] ∧ (cell.measured.successRate = none ∨ cell.measured.p95LatencyMs = none ∨
      cell.estimated.resources.memoryPool = none ∨ cell.estimated.resources.placement = none) then
    ["ranking_metric_unknown"]
  else rejected

def candidateOf (cell : CellPassport) (hardEligible : Bool) (rejections : List String) :
    CandidateContent where
  cellId := cell.cellId
  passportSha256 := cell.digest
  hardEligible := hardEligible
  paretoEligible := false
  rejectionCodes := rejections
  successRate := cell.measured.successRate
  p95LatencyMs := cell.measured.p95LatencyMs
  resources := effectiveResources cell
  utility := none

def blocked (L : Conversions) (reasons : List String) (cell : CellPassport) :
    Except ContractError CandidateAssessment :=
  (candidateOf cell false reasons).construct L

def hardFilter (L : Conversions) (snapshot : ResourceSnapshot) (request : AdaptiveRequest)
    (profile : AdvisorProfile) (cell : CellPassport) : Except ContractError CandidateAssessment :=
  let rejected := hardRejections cell snapshot request profile
  (candidateOf cell (rejected = []) rejected).construct L

/-! ## Ranking -/

/-- `float(value)`. -/
def requiredNumber (value : Option ℚ) : Except ContractError ℚ :=
  match value with
  | none => .error ⟨"float() argument must be a string or a real number, not 'NoneType'"⟩
  | some q => .ok q

/-- The three metrics of a candidate: quality, latency and memory. -/
structure Metrics where
  quality : ℚ
  latency : ℚ
  memory : ℚ

def metricsOf (c : CandidateContent) : Except ContractError Metrics := do
  let quality ← requiredNumber c.successRate
  let latency ← requiredNumber c.p95LatencyMs
  let memory ← requiredNumber (c.resources.totalMemoryBytes.map fun n => (n : ℚ))
  return ⟨quality, latency, memory⟩

/-- The comparisons of the positively weighted metrics: left, right, and whether the greater
is the better. -/
def comparisons (left right : Metrics) (profile : AdvisorProfile) : List (ℚ × ℚ × Bool) :=
  (if 0 < profile.qualityWeight then [(left.quality, right.quality, true)] else []) ++
    (if 0 < profile.latencyWeight then [(left.latency, right.latency, false)] else []) ++
    if 0 < profile.memoryWeight then [(left.memory, right.memory, false)] else []

def dominates (profile : AdvisorProfile) (left right : CandidateContent) :
    Except ContractError Bool := do
  let leftMetrics ← metricsOf left
  let rightMetrics ← metricsOf right
  let pairs := comparisons leftMetrics rightMetrics profile
  let noWorse := pairs.all fun p => if p.2.2 then decide (p.2.1 ≤ p.1) else decide (p.1 ≤ p.2.1)
  let better := pairs.any fun p => if p.2.2 then decide (p.2.1 < p.1) else decide (p.1 < p.2.1)
  return noWorse && better

def utilityOf (profile : AdvisorProfile) (m : Metrics) : ℚ :=
  let latencyScore := max 0 (1 - m.latency / profile.latencyReferenceMs)
  let memoryScore := max 0 (1 - m.memory / profile.memoryReferenceBytes)
  roundPlaces 12 ((profile.qualityWeight * m.quality + profile.latencyWeight * latencyScore +
    profile.memoryWeight * memoryScore) / profile.totalWeight)

def rank (L : Conversions) (profile : AdvisorProfile) (candidate : CandidateContent) :
    Except ContractError CandidateAssessment := do
  let m ← metricsOf candidate
  CandidateContent.construct L { candidate with
    hardEligible := true
    paretoEligible := true
    rejectionCodes := []
    successRate := some m.quality
    p95LatencyMs := some m.latency
    utility := some (utilityOf profile m) }

/-- `_ranking_key`, of a candidate that has been ranked. -/
def rankingKey (profile : AdvisorProfile) (c : CandidateAssessment) : ℚ ×ₗ List ℚ ×ₗ String :=
  let active :=
    (if 0 < profile.qualityWeight then [-(c.successRate.getD 0)] else []) ++
      (if 0 < profile.latencyWeight then [c.p95LatencyMs.getD 0] else []) ++
      if 0 < profile.memoryWeight then [((c.resources.totalMemoryBytes.getD 0 : ℕ) : ℚ)] else []
  toLex (-(c.utility.getD 0), toLex (active, c.cellId.val))

/-- `_dominates(other, candidate, profile)`, for another candidate. -/
def beats (profile : AdvisorProfile) (other candidate : CandidateAssessment) :
    Except ContractError Bool :=
  if other.cellId = candidate.cellId then .ok false
  else dominates profile other.toCandidateContent candidate.toCandidateContent

/-- Whether one of the candidates, but for itself, dominates the candidate. -/
def isDominated (profile : AdvisorProfile) (candidate : CandidateAssessment) :
    List CandidateAssessment → Except ContractError Bool
  | [] => .ok false
  | other :: rest => do
    let beaten ← beats profile other candidate
    if beaten then return true else isDominated profile candidate rest

/-- The loop over the eligible candidates: those that no other dominates, ranked. -/
def frontierOf (L : Conversions) (profile : AdvisorProfile) (eligible : List CandidateAssessment) :
    List CandidateAssessment → Except ContractError (List CandidateAssessment)
  | [] => .ok []
  | candidate :: rest => do
    let dominated ← isDominated profile candidate eligible
    if dominated then frontierOf L profile eligible rest
    else do
      let ranked ← rank L profile candidate.toCandidateContent
      let tail ← frontierOf L profile eligible rest
      return ranked :: tail

/-! ## Advice -/

def advice (L : Conversions) (catalog : AdaptiveCellCatalog) (snapshot : ResourceSnapshot)
    (request : AdaptiveRequest) (candidates : List CandidateAssessment)
    (selected : Option SafeId) (reasons : List String) : Except ContractError AdaptiveAdvice :=
  AdviceContent.construct L {
    catalogSha256 := catalog.digest
    requestSha256 := request.digest
    resourceSnapshotSha256 := snapshot.digest
    evaluatedAt := request.evaluatedAt
    profile := request.profile
    status := if selected.isSome then .recommended else .abstained
    selectedCellId := selected
    candidates
    reasonCodes := (if "advisory_only" ∈ reasons then reasons else "advisory_only" :: reasons)
      |>.insertionSort (· ≤ ·) }

def adviseCell (L : Conversions) (catalog : AdaptiveCellCatalog) (snapshot : ResourceSnapshot)
    (request : AdaptiveRequest) : Except ContractError AdaptiveAdvice := do
  check (¬ (request.demand.capabilities = [] ∨ "*" ∈ request.demand.capabilities))
    (⟨"Adaptive requests require at least one explicit non-wildcard capability."⟩ :
      ContractError)
  match catalog.profiles request.profile.val with
  | none => .error ⟨"Unknown advisor profile: " ++ request.profile.val ++ "."⟩
  | some profile =>
    let globalRejections := globalSnapshotRejections snapshot request profile
    if globalRejections ≠ [] then do
      let assessments ← catalog.cells.mapM (blocked L globalRejections)
      advice L catalog snapshot request assessments none globalRejections
    else do
      let hard ← catalog.cells.mapM (hardFilter L snapshot request profile)
      let eligible := hard.filter fun item => item.hardEligible
      let frontier ← frontierOf L profile eligible eligible
      let byId := hard.map fun item =>
        (frontier.find? fun ranked => ranked.cellId = item.cellId).getD item
      let selected := (Pareto.firstBy (rankingKey profile) frontier).map fun c => c.cellId
      let assessments := byId.insertionSort fun a b => a.cellId.val ≤ b.cellId.val
      advice L catalog snapshot request assessments selected
        ["advisory_only",
          if selected.isSome then "pareto_frontier_selected" else "no_eligible_cell"]

end LocalMoe.Advisor
