/-
  The qualification of a speculative cell.
-/
import LocalMoe.Speculative.Contracts
import LocalMoe.Foundation.Schedule

namespace LocalMoe.Speculative

open Foundation Contracts

/-! ## The schedule -/

/-- `int(digit, 16)` of a lowercase hexadecimal digit. -/
def hexValue (c : Char) : Nat :=
  if c.toNat < 97 then c.toNat - 48 else c.toNat - 87

/-- `int(plan.order_seed_sha256[-1], 16) % 2`. -/
def SpeculativeQualificationPlan.seedParity (plan : SpeculativeQualificationPlan) : Nat :=
  (plan.orderSeedSha256.val.toList.getLast?.elim 0 hexValue) % 2

/-- The position of a key in the grid of cases, regimes and repetitions. -/
def SpeculativeQualificationPlan.position (plan : SpeculativeQualificationPlan)
    (key : TrialKey) : Nat :=
  (plan.caseSha256s.idxOf key.1 * plan.requiredRegimes.length +
    plan.requiredRegimes.idxOf key.2.1) * plan.policy.trialsPerCase + key.2.2

/-- The checks that the two functions of the schedule share. -/
def checkPlanned (plan : SpeculativeQualificationPlan) (key : TrialKey) :
    Except QualifierError Unit := do
  check (key.1 ∈ plan.caseSha256s ∧ key.2.1 ∈ plan.requiredRegimes)
    (.contract "Trial case or regime is outside the frozen plan.")
  check (key.2.2 < plan.policy.trialsPerCase) (.contract "Trial repetition is outside the plan.")

def expectedTrialOrder (plan : SpeculativeQualificationPlan) (key : TrialKey) :
    Except QualifierError TrialOrder := do
  checkPlanned plan key
  let parity := (plan.seedParity + plan.caseSha256s.idxOf key.1 +
    plan.requiredRegimes.idxOf key.2.1 + key.2.2) % 2
  return if parity = 0 then .ab else .ba

def expectedTrialSequenceIndex (plan : SpeculativeQualificationPlan) (key : TrialKey) :
    Except QualifierError Nat := do
  checkPlanned plan key
  return plan.position key

/-- `expected_keys`, case by case and regime by regime. -/
def SpeculativeQualificationPlan.schedule (plan : SpeculativeQualificationPlan) :
    List TrialKey :=
  plan.caseSha256s.flatMap fun caseSha256 =>
    plan.requiredRegimes.flatMap fun regime =>
      (List.range plan.policy.trialsPerCase).map fun repetition =>
        (caseSha256, regime, repetition)

/-! ## Reading the trials -/

/-- What the loop over the trials keeps. -/
structure Observed where
  byKey : List TrialKey
  orderMismatches : Nat
  scheduleMismatches : Nat

/-- A trial belongs to the plan and to its cells. -/
def checkTrial (plan : SpeculativeQualificationPlan) (trial : SpeculativeTrial) :
    Except QualifierError Unit := do
  check (trial.planSha256 = plan.digest) (.contract "Trial is bound to a different plan.")
  check (trial.caseSha256 ∈ plan.caseSha256s) (.contract "Trial case is outside the plan.")
  check (trial.regime ∈ plan.requiredRegimes) (.contract "Trial regime is outside the plan.")
  check (trial.repetition < plan.policy.trialsPerCase)
    (.contract "Trial repetition is outside the plan.")
  check (trial.baseline.cellSha256 = plan.baseline.digest)
    (.contract "Baseline measurement changed cells.")
  check (trial.candidate.cellSha256 = plan.candidate.digest)
    (.contract "Candidate measurement changed cells.")

/-- One round of the loop. -/
def observe (plan : SpeculativeQualificationPlan) (seen : Observed) (observedIndex : Nat)
    (trial : SpeculativeTrial) : Except QualifierError Observed := do
  checkTrial plan trial
  check (trial.key ∉ seen.byKey) (.contract "Trial evidence contains duplicates.")
  let order ← expectedTrialOrder plan trial.key
  let index ← expectedTrialSequenceIndex plan trial.key
  return {
    byKey := seen.byKey ++ [trial.key]
    orderMismatches := seen.orderMismatches + if trial.order ≠ order then 1 else 0
    scheduleMismatches := seen.scheduleMismatches +
      if trial.sequenceIndex ≠ index ∨ trial.sequenceIndex ≠ observedIndex then 1 else 0 }

/-- The loop over the trials from a position on. -/
def observeFrom (plan : SpeculativeQualificationPlan) :
    Nat → Observed → List SpeculativeTrial → Except QualifierError Observed
  | _, seen, [] => .ok seen
  | observedIndex, seen, trial :: rest => do
    let seen ← observe plan seen observedIndex trial
    observeFrom plan (observedIndex + 1) seen rest

def inRegime (observations : List SpeculativeTrial) (regime : Regime) : List SpeculativeTrial :=
  observations.filter fun trial => trial.regime = regime

def isCounterbalanced (observations : List SpeculativeTrial) : Bool :=
  regimes.all fun regime =>
    let orders := (inRegime observations regime).map SpeculativeTrial.order
    decide (|(orders.count .ab : Int) - orders.count .ba| ≤ 1)

def SpeculativeTrial.failedArms (trial : SpeculativeTrial) : Nat :=
  (if trial.baseline.success then 0 else 1) + if trial.candidate.success then 0 else 1

/-- Both arms succeeded with different outputs. -/
def SpeculativeTrial.mismatch (trial : SpeculativeTrial) : Bool :=
  match trial.arms with
  | none => false
  | some (baseline, candidate) => decide (baseline.outputSha256 ≠ candidate.outputSha256 ∨
      baseline.predictedTokens ≠ candidate.predictedTokens)

/-! ## The metrics of a regime -/

def throughput (arm : ArmEvidence) : ℚ := arm.predictedTokens * 1000 / arm.predictedMs

/-- `statistics.median` of values that are not empty. -/
def median (values : List ℚ) : ℚ :=
  let data := values.insertionSort (· ≤ ·)
  let n := data.length
  if n % 2 = 1 then data.getD (n / 2) 0
  else (data.getD (n / 2 - 1) 0 + data.getD (n / 2) 0) / 2

def p95 (values : List ℚ) : Except QualifierError ℚ :=
  let ordered := values.insertionSort (· ≤ ·)
  match ordered with
  | [] => .error (.contract "Latency evidence is invalid.")
  | first :: _ =>
    if first ≤ 0 then .error (.contract "Latency evidence is invalid.")
    else .ok (ordered.getD ((95 * ordered.length + 99) / 100 - 1) 0)

/-- The draft tokens that the candidates generated and those they accepted. -/
def draftTotals (arms : List (ArmEvidence × ArmEvidence)) : Nat × Nat :=
  ((arms.map fun pair => (pair.2.draftTokens.getD (0, 0)).1).sum,
    (arms.map fun pair => (pair.2.draftTokens.getD (0, 0)).2).sum)

def speedups (arms : List (ArmEvidence × ArmEvidence)) : List ℚ :=
  arms.map fun pair => throughput pair.2 / throughput pair.1

/-- The acceptance rate of a regime: absent without draft counters or draft tokens. -/
def acceptanceRate (arms : List (ArmEvidence × ArmEvidence)) : Option ℚ :=
  if (∃ pair ∈ arms, pair.2.draftTokens = none) ∨ (draftTotals arms).1 = 0 then none
  else some ((draftTotals arms).2 / (draftTotals arms).1)

/-- The evidence of all trials; a failed arm has no numbers to read. -/
def armsOf (observations : List SpeculativeTrial) :
    Except QualifierError (List (ArmEvidence × ArmEvidence)) :=
  match observations.mapM SpeculativeTrial.arms with
  | none => .error .type
  | some arms => .ok arms

def regimeMetrics (observations : List SpeculativeTrial) : Except QualifierError RegimeMetrics := do
  check (observations ≠ []) (.contract "Regime evidence is incomplete.")
  let arms ← armsOf observations
  let baselineP95 ← p95 (arms.map (·.1.totalLatencyMs))
  let candidateP95 ← p95 (arms.map (·.2.totalLatencyMs))
  let baselineTtftP95 ← p95 (arms.map (·.1.ttftMs))
  let candidateTtftP95 ← p95 (arms.map (·.2.ttftMs))
  return {
    medianSpeedupRatio := median (speedups arms)
    p95LatencyRatio := candidateP95 / baselineP95
    p95TtftRatio := candidateTtftP95 / baselineTtftP95
    acceptanceRate := acceptanceRate arms }

/-! ## The decision -/

variable (S : Stdlib) (adapterSha256 : Digest)

def codesOf (conditions : List (Bool × ReasonCode)) : List ReasonCode :=
  (conditions.filter Prod.fst).map Prod.snd

def evidenceSha256 (plan : SpeculativeQualificationPlan) (observations : List SpeculativeTrial) :
    Digest :=
  ⟨S.sha256Json (.obj [
    ("schema_version", .str "1.0"),
    ("plan_sha256", .str plan.digest.val),
    ("trial_sha256s", .arr (observations.map fun trial => .str trial.digest.val))]),
    S.isSha256_sha256Json _⟩

def receipt (plan : SpeculativeQualificationPlan) (decision : Decision)
    (reasons : List ReasonCode) (observations : List SpeculativeTrial) (failedArms : Nat)
    (cold warm : Option RegimeMetrics) (candidatePeakMemoryBytes : Option Nat) :
    Except QualifierError SpeculativeQualificationReceipt :=
  SpeculativeQualificationReceipt.construct {
    planSha256 := plan.digest
    evidenceSha256 := evidenceSha256 S plan observations
    decision := decision
    reasonCodes := sortedCodes reasons
    expectedTrials := plan.expectedTrialCount
    expectedCases := plan.caseSha256s.length
    trialsPerCase := plan.policy.trialsPerCase
    observedTrials := observations.length
    uniqueCases := (observations.map SpeculativeTrial.caseSha256).dedup.length
    coldTrials := (inRegime observations .cold).length
    warmTrials := (inRegime observations .warm).length
    failedArms := failedArms
    outputMismatches := observations.countP SpeculativeTrial.mismatch
    cold := cold
    warm := warm
    candidatePeakMemoryBytes := candidatePeakMemoryBytes }

def abstentionReasons (plan : SpeculativeQualificationPlan)
    (observations : List SpeculativeTrial) (seen : Observed) : List ReasonCode :=
  codesOf [
    (decide (plan.schedule.filter (fun key => key ∉ seen.byKey) ≠ []), .evidenceIncomplete),
    (decide (seen.orderMismatches ≠ 0) || !isCounterbalanced observations,
      .evidenceNotCounterbalanced),
    (decide (seen.scheduleMismatches ≠ 0), .evidenceScheduleMismatch),
    (decide ((observations.map SpeculativeTrial.failedArms).sum ≠ 0), .evidenceExecutionFailed)]

/-- A regime's acceptance below the policy; `float(None)` is a `TypeError`, but the caller
has excluded it. -/
def acceptanceBelow (policy : SpeculativeQualificationPolicy) (metrics : RegimeMetrics) : Bool :=
  metrics.acceptanceRate.elim false fun rate => decide (rate < policy.minimumAcceptanceRate)

def rejectionReasons (policy : SpeculativeQualificationPolicy)
    (observations : List SpeculativeTrial) (metrics : List RegimeMetrics)
    (candidatePeak : Nat) : List ReasonCode :=
  codesOf [
    (decide (observations.countP SpeculativeTrial.mismatch ≠ 0), .exactOutputMismatch),
    (metrics.any fun m => decide (m.medianSpeedupRatio < policy.minimumMedianSpeedupRatio),
      .medianSpeedupBelowThreshold),
    (metrics.any fun m => decide (policy.maximumP95LatencyRatio < m.p95LatencyRatio),
      .p95LatencyRegression),
    (metrics.any fun m => decide (policy.maximumP95TtftRatio < m.p95TtftRatio),
      .p95TtftRegression),
    (decide (policy.maximumCandidatePeakMemoryBytes < candidatePeak),
      .candidateMemoryBudgetExceeded),
    (metrics.any (acceptanceBelow policy), .candidateAcceptanceBelowThreshold)]

/-- The judgement of complete, successful evidence. -/
def judge (plan : SpeculativeQualificationPlan) (observations : List SpeculativeTrial) :
    Except QualifierError SpeculativeQualificationReceipt := do
  let cold ← regimeMetrics (inRegime observations .cold)
  let warm ← regimeMetrics (inRegime observations .warm)
  let arms ← armsOf observations
  let candidatePeak := (arms.map (·.2.peakMemoryBytes)).foldr max 0
  if cold.acceptanceRate = none ∨ warm.acceptanceRate = none then
    receipt S plan .abstained [.candidateAcceptanceMissing] observations 0 (some cold) (some warm)
      (some candidatePeak)
  else
    let reasons := rejectionReasons plan.policy observations [cold, warm] candidatePeak
    receipt S plan (if reasons ≠ [] then .rejected else .qualified) reasons observations 0
      (some cold) (some warm) (some candidatePeak)

def validateSpeculativePlanImplementation (plan : SpeculativeQualificationPlan) :
    Except QualifierError Unit :=
  check (plan.execution.adapterContractSha256 = adapterSha256)
    (.contract "Plan adapter does not match this qualifier implementation.")

def qualifySpeculativeCell (plan : SpeculativeQualificationPlan)
    (observations : List SpeculativeTrial) :
    Except QualifierError SpeculativeQualificationReceipt := do
  validateSpeculativePlanImplementation adapterSha256 plan
  check (observations.length ≤ plan.expectedTrialCount)
    (.contract "Evidence exceeds the frozen trial plan.")
  let seen ← observeFrom plan 0 ⟨[], 0, 0⟩ observations
  let reasons := abstentionReasons plan observations seen
  if reasons ≠ [] then
    receipt S plan .abstained reasons observations
      (observations.map SpeculativeTrial.failedArms).sum none none none
  else judge S plan observations

end LocalMoe.Speculative
