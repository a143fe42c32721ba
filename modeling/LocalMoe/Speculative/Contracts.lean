/-
  Plans, trials and receipts of the qualification of a speculative cell.

  Plans and trials have passed their constructors: what `__post_init__` guarantees is a field. A
  receipt is built by the qualifier, so its constructor is a chain of checks. A finite float is
  the rational number it stands for.
-/
import LocalMoe.Contracts.VerifiedRouting
import LocalMoe.Foundation.Checked

namespace LocalMoe.Speculative

open Foundation Contracts

/-- How the qualifier fails. -/
inductive QualifierError where
  /-- `SpeculativeCellContractError`. -/
  | contract (message : String)
  /-- `TypeError`: arithmetic on the `None` of a failed arm. -/
  | type
  deriving DecidableEq, Repr

/-! ## Plans -/

inductive Regime where
  | cold | warm
  deriving DecidableEq, Repr

/-- The tuple `REGIMES`. -/
def regimes : List Regime := [.cold, .warm]

inductive TrialOrder where
  | ab | ba
  deriving DecidableEq, Repr

def maxCases : Nat := 256

def maxTrialsPerCase : Nat := 64

/-- `SpeculativeExecutionBinding`: the adapter the plan targets. -/
structure SpeculativeExecutionBinding where
  adapterContractSha256 : Digest

/-- `SpeculativeCellBinding`: the digest of a bound cell. -/
structure SpeculativeCellBinding where
  digest : Digest
  deriving DecidableEq

structure SpeculativeQualificationPolicy where
  trialsPerCase : Nat
  minimumMedianSpeedupRatio : ℚ
  maximumP95LatencyRatio : ℚ
  maximumP95TtftRatio : ℚ
  minimumAcceptanceRate : ℚ
  maximumCandidatePeakMemoryBytes : Nat
  trials_pos : 1 ≤ trialsPerCase
  trials_le : trialsPerCase ≤ maxTrialsPerCase
  speedup_range : 1 ≤ minimumMedianSpeedupRatio ∧ minimumMedianSpeedupRatio ≤ 10
  latency_range : 1 / 10 ≤ maximumP95LatencyRatio ∧ maximumP95LatencyRatio ≤ 10
  ttft_range : 1 / 10 ≤ maximumP95TtftRatio ∧ maximumP95TtftRatio ≤ 10
  acceptance_range : 0 ≤ minimumAcceptanceRate ∧ minimumAcceptanceRate ≤ 1
  memory_pos : 1 ≤ maximumCandidatePeakMemoryBytes

/-- `SpeculativeQualificationPlan`.  `required_regimes` is always `REGIMES`. -/
structure SpeculativeQualificationPlan where
  execution : SpeculativeExecutionBinding
  baseline : SpeculativeCellBinding
  candidate : SpeculativeCellBinding
  caseSha256s : List Digest
  orderSeedSha256 : Digest
  policy : SpeculativeQualificationPolicy
  digest : Digest
  cells_differ : baseline.digest ≠ candidate.digest
  cases_nonempty : caseSha256s ≠ []
  cases_bounded : caseSha256s.length ≤ maxCases
  cases_nodup : caseSha256s.Nodup
  cases_sorted : (caseSha256s.map Subtype.val).Pairwise (· ≤ ·)

def SpeculativeQualificationPlan.requiredRegimes (_ : SpeculativeQualificationPlan) :
    List Regime := regimes

def SpeculativeQualificationPlan.expectedTrialCount (plan : SpeculativeQualificationPlan) : Nat :=
  plan.caseSha256s.length * plan.requiredRegimes.length * plan.policy.trialsPerCase

/-! ## Trials -/

/-- What a successful arm measured. -/
structure ArmEvidence where
  outputSha256 : Digest
  ttftMs : ℚ
  totalLatencyMs : ℚ
  predictedTokens : Nat
  predictedMs : ℚ
  peakMemoryBytes : Nat
  /-- The draft counters, generated and accepted; they are supplied together. -/
  draftTokens : Option (Nat × Nat)
  ttft_nonneg : 0 ≤ ttftMs
  ttft_le : ttftMs ≤ totalLatencyMs
  tokens_pos : 1 ≤ predictedTokens
  predicted_pos : 1 / 1000000 ≤ predictedMs
  memory_pos : 1 ≤ peakMemoryBytes
  draft_le : ∀ draft ∈ draftTokens, draft.2 ≤ draft.1

/-- `SpeculativeArmMeasurement`: a failed arm carries an error code and no evidence. -/
inductive ArmOutcome where
  | failed (errorCode : SafeId)
  | succeeded (evidence : ArmEvidence)

structure SpeculativeArmMeasurement where
  cellSha256 : Digest
  outcome : ArmOutcome

def SpeculativeArmMeasurement.evidence (arm : SpeculativeArmMeasurement) : Option ArmEvidence :=
  match arm.outcome with
  | .failed _ => none
  | .succeeded evidence => some evidence

def SpeculativeArmMeasurement.success (arm : SpeculativeArmMeasurement) : Bool :=
  arm.evidence.isSome

structure SpeculativeTrial where
  planSha256 : Digest
  sequenceIndex : Nat
  caseSha256 : Digest
  repetition : Nat
  regime : Regime
  order : TrialOrder
  baseline : SpeculativeArmMeasurement
  candidate : SpeculativeArmMeasurement
  digest : Digest
  index_lt : sequenceIndex < maxCases * regimes.length * maxTrialsPerCase
  repetition_lt : repetition < maxTrialsPerCase

/-- What a plan schedules: a case, a regime and a repetition. -/
abbrev TrialKey := Digest × Regime × Nat

def SpeculativeTrial.key (trial : SpeculativeTrial) : TrialKey :=
  (trial.caseSha256, trial.regime, trial.repetition)

def SpeculativeTrial.arms (trial : SpeculativeTrial) : Option (ArmEvidence × ArmEvidence) :=
  match trial.baseline.evidence, trial.candidate.evidence with
  | some baseline, some candidate => some (baseline, candidate)
  | _, _ => none

/-! ## Receipts -/

inductive Decision where
  | qualified | rejected | abstained
  deriving DecidableEq, Repr

inductive ReasonCode where
  | candidateAcceptanceBelowThreshold
  | candidateAcceptanceMissing
  | candidateMemoryBudgetExceeded
  | evidenceExecutionFailed
  | evidenceIncomplete
  | evidenceNotCounterbalanced
  | evidenceScheduleMismatch
  | exactOutputMismatch
  | medianSpeedupBelowThreshold
  | p95LatencyRegression
  | p95TtftRegression
  deriving DecidableEq, Repr

/-- `REASON_CODES` in the order of their texts. -/
def reasonCodes : List ReasonCode :=
  [.candidateAcceptanceBelowThreshold, .candidateAcceptanceMissing,
    .candidateMemoryBudgetExceeded, .evidenceExecutionFailed, .evidenceIncomplete,
    .evidenceNotCounterbalanced, .evidenceScheduleMismatch, .exactOutputMismatch,
    .medianSpeedupBelowThreshold, .p95LatencyRegression, .p95TtftRegression]

def abstentionReasonCodes : List ReasonCode :=
  [.candidateAcceptanceMissing, .evidenceExecutionFailed, .evidenceIncomplete,
    .evidenceNotCounterbalanced, .evidenceScheduleMismatch]

def rejectionReasonCodes : List ReasonCode :=
  reasonCodes.filter fun code => code ∉ abstentionReasonCodes

/-- `tuple(sorted(codes))` of a set of codes. -/
def sortedCodes (codes : List ReasonCode) : List ReasonCode :=
  reasonCodes.filter fun code => code ∈ codes

/-- What `_regime_metrics` returns. -/
structure RegimeMetrics where
  medianSpeedupRatio : ℚ
  p95LatencyRatio : ℚ
  p95TtftRatio : ℚ
  acceptanceRate : Option ℚ
  deriving DecidableEq

/-- `SpeculativeQualificationReceipt`.  The performance of a regime is absent or whole. -/
structure SpeculativeQualificationReceipt where
  planSha256 : Digest
  evidenceSha256 : Digest
  decision : Decision
  reasonCodes : List ReasonCode
  expectedTrials : Nat
  expectedCases : Nat
  trialsPerCase : Nat
  observedTrials : Nat
  uniqueCases : Nat
  coldTrials : Nat
  warmTrials : Nat
  failedArms : Nat
  outputMismatches : Nat
  cold : Option RegimeMetrics
  warm : Option RegimeMetrics
  candidatePeakMemoryBytes : Option Nat

namespace SpeculativeQualificationReceipt

variable (r : SpeculativeQualificationReceipt)

/-- Both regimes report their performance. -/
def hasPerformance : Bool := r.cold.isSome && r.warm.isSome

def acceptance (metrics : Option RegimeMetrics) : Option ℚ :=
  metrics.bind RegimeMetrics.acceptanceRate

/-- Both regimes report their acceptance. -/
def completeAcceptance : Bool :=
  (acceptance r.cold).isSome && (acceptance r.warm).isSome

/-- A reported performance is positive. -/
def checkPositive (name : String) (value : Option ℚ) : Except QualifierError Unit := do
  check (∀ v ∈ value, 0 ≤ v) (.contract s!"{name} must be >= 0.0.")
  check (∀ v ∈ value, 0 < v) (.contract "Receipt regime performance metrics must be positive.")

/-- A reported acceptance is a rate. -/
def checkRate (name : String) (value : Option ℚ) : Except QualifierError Unit := do
  check (∀ v ∈ value, 0 ≤ v) (.contract s!"{name} must be >= 0.0.")
  check (∀ v ∈ value, v ≤ 1) (.contract s!"{name} must be <= 1.0.")

/-- The numbers of both regimes. -/
def checkMetrics : Except QualifierError Unit := do
  checkPositive "cold_median_speedup_ratio" (r.cold.map (·.medianSpeedupRatio))
  checkPositive "cold_p95_latency_ratio" (r.cold.map (·.p95LatencyRatio))
  checkPositive "cold_p95_ttft_ratio" (r.cold.map (·.p95TtftRatio))
  checkPositive "warm_median_speedup_ratio" (r.warm.map (·.medianSpeedupRatio))
  checkPositive "warm_p95_latency_ratio" (r.warm.map (·.p95LatencyRatio))
  checkPositive "warm_p95_ttft_ratio" (r.warm.map (·.p95TtftRatio))
  checkRate "cold_candidate_acceptance_rate" (acceptance r.cold)
  checkRate "warm_candidate_acceptance_rate" (acceptance r.warm)

/-- The counts agree with each other. -/
def checkCounts : Except QualifierError Unit := do
  check (1 ≤ r.expectedTrials) (.contract "expected_trials must be positive.")
  check (1 ≤ r.expectedCases) (.contract "expected_cases must be positive.")
  check (1 ≤ r.trialsPerCase) (.contract "trials_per_case must be positive.")
  check (r.trialsPerCase ≤ maxTrialsPerCase) (.contract "trials_per_case exceeds its bound.")
  check (r.expectedTrials = r.expectedCases * regimes.length * r.trialsPerCase)
    (.contract "Receipt expected counts are inconsistent.")
  check (r.observedTrials ≤ r.expectedTrials)
    (.contract "Observed trials cannot exceed expected trials.")
  check (r.coldTrials + r.warmTrials = r.observedTrials)
    (.contract "Cold and warm counts must equal observed trials.")
  check (r.observedTrials = r.expectedTrials → r.expectedTrials % regimes.length = 0 ∧
      r.coldTrials = r.expectedTrials / regimes.length ∧
      r.warmTrials = r.expectedTrials / regimes.length)
    (.contract "Complete receipt regime counts are inconsistent.")
  check (r.uniqueCases ≤ r.expectedCases ∧ r.uniqueCases ≤ r.observedTrials ∧
      (r.observedTrials = 0 ↔ r.uniqueCases = 0))
    (.contract "Receipt case counts are inconsistent.")
  check (r.observedTrials = r.expectedTrials → r.uniqueCases = r.expectedCases)
    (.contract "Complete receipt case counts are inconsistent.")
  check (r.failedArms ≤ 2 * r.observedTrials) (.contract "Receipt failed-arm count is invalid.")
  check (r.outputMismatches ≤ r.observedTrials) (.contract "Receipt mismatch count is invalid.")

/-- The performance is present where the evidence supports it. -/
def checkPerformance : Except QualifierError Unit := do
  r.checkMetrics
  check (r.cold.isSome = r.warm.isSome)
    (.contract "Receipt regime performance metrics must be complete.")
  check (r.hasPerformance = true → r.candidatePeakMemoryBytes ≠ none ∧
      r.observedTrials = r.expectedTrials ∧ r.failedArms = 0 ∧ r.coldTrials ≠ 0 ∧
      r.warmTrials ≠ 0)
    (.contract "Receipt performance metrics require complete successful evidence.")
  check (r.hasPerformance = false → r.candidatePeakMemoryBytes = none ∧
      acceptance r.cold = none ∧ acceptance r.warm = none)
    (.contract "Receipt cannot claim partial performance evidence.")

/-- The decision agrees with the reasons and the evidence. -/
def checkDecision : Except QualifierError Unit := do
  check (r.decision = .qualified → r.hasPerformance = true ∧ r.completeAcceptance = true ∧
      r.outputMismatches = 0)
    (.contract "Qualified receipt evidence is internally inconsistent.")
  check (r.decision = .rejected → r.hasPerformance = true ∧ r.completeAcceptance = true ∧
      (∀ code ∈ r.reasonCodes, code ∈ rejectionReasonCodes) ∧
      (0 < r.outputMismatches ↔ .exactOutputMismatch ∈ r.reasonCodes))
    (.contract "Rejected receipt evidence is internally inconsistent.")
  check (r.decision = .abstained → ∀ code ∈ r.reasonCodes, code ∈ abstentionReasonCodes)
    (.contract "Abstained receipt reason codes are invalid.")
  check (r.observedTrials < r.expectedTrials ↔ .evidenceIncomplete ∈ r.reasonCodes)
    (.contract "Receipt completeness reason is inconsistent.")
  check (0 < r.failedArms ↔ .evidenceExecutionFailed ∈ r.reasonCodes)
    (.contract "Receipt execution-failure reason is inconsistent.")
  check (.candidateAcceptanceMissing ∈ r.reasonCodes →
      r.hasPerformance = true ∧ r.completeAcceptance = false)
    (.contract "Receipt acceptance reason is inconsistent.")
  check (.candidateAcceptanceMissing ∉ r.reasonCodes → r.decision = .abstained →
      r.hasPerformance = false)
    (.contract "Abstained performance evidence requires a missing-acceptance reason.")

def construct : Except QualifierError SpeculativeQualificationReceipt := do
  check (r.reasonCodes = sortedCodes r.reasonCodes ∧
      (r.decision = .qualified ↔ r.reasonCodes = []))
    (.contract "Receipt reason codes are invalid.")
  r.checkCounts
  r.checkPerformance
  r.checkDecision
  return r

theorem construct_eq_ok {r r' : SpeculativeQualificationReceipt} (h : r.construct = .ok r') :
    r' = r := by
  obtain ⟨_, h⟩ := check_bind_eq_ok.mp h
  obtain ⟨_, _, h⟩ := bind_eq_ok.mp h
  obtain ⟨_, _, h⟩ := bind_eq_ok.mp h
  obtain ⟨_, _, h⟩ := bind_eq_ok.mp h
  exact (pure_eq_ok_iff.mp h).symm

end SpeculativeQualificationReceipt

end LocalMoe.Speculative
