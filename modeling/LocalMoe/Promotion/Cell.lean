/-
  `_evaluate_cell`: the paired statistics of one cell.

  The floats are those of the interpreter, in the order in which the source combines them; costs
  are decimals, combined at 160 digits.
-/
import LocalMoe.Foundation.Rounding
import LocalMoe.Promotion.Contracts

namespace LocalMoe.Promotion

open Foundation Contracts Canary Paired

variable {F : Floats}

/-! ## Records -/

def OutcomeRecord.passed (r : OutcomeRecord F) : Bool :=
  r.outcome == .passed && !r.abstained

def OutcomeRecord.failureIsBlocking (r : OutcomeRecord F) (gate : PromotionGatePolicy F) : Bool :=
  if r.failureClass = "none" then false
  else if r.failureClass ∈ gate.blockingFailureClasses then true
  else decide (r.failureClass ∉ gate.nonBlockingFailureClasses)

/-- A complete pair: the case and the records of its arms. -/
structure Pair (F : Floats) where
  case : PromotionCase
  baseline : OutcomeRecord F
  candidate : OutcomeRecord F

/-! ## Statistics -/

def mean (values : List Nat) : F.Float :=
  if values = [] then F.ofNat 0
  else F.div (F.sum (values.map F.ofNat)) (F.ofNat values.length)

def p95 (values : List Nat) : F.Float :=
  let ordered := values.insertionSort (· ≤ ·)
  let index := (F.ceil (F.mul (F.ofDecimal (95 / 100)) (F.ofNat ordered.length)) - 1).toNat
  F.ofNat (ordered.getD index 0)

def wilsonInterval (F : Floats) (successes total : Nat) (confidenceLevel : F.Float) :
    F.Float × F.Float :=
  if total = 0 then (F.ofNat 0, F.ofNat 0)
  else
    let n := F.ofNat total
    let probability := F.div (F.ofNat successes) n
    let z := F.invCdf (F.div (F.add (F.ofNat 1) confidenceLevel) (F.ofNat 2))
    let square := F.mul z z
    let denominator := F.add (F.ofNat 1) (F.div square n)
    let center := F.div
      (F.add probability (F.div square (F.mul (F.ofNat 2) n))) denominator
    let variance := F.div (F.mul probability (F.sub (F.ofNat 1) probability)) n
    let correction := F.div square (F.mul (F.mul (F.ofNat 4) n) n)
    let margin := F.div (F.mul z (F.sqrt (F.add variance correction))) denominator
    (F.max (F.ofNat 0) (F.sub center margin), F.min (F.ofNat 1) (F.add center margin))

def relativeImprovement (baseline candidate : F.Float) : F.Float :=
  if F.Le baseline (F.ofNat 0) then F.ofNat 0
  else F.div (F.sub baseline candidate) baseline

def precision : Nat := 160

def decimalImprovementAtLeast (baseline candidate : ℚ) (threshold : F.Float) : Bool :=
  decide (0 < baseline ∧ roundDigits precision (baseline * F.toDecimal threshold) ≤
    roundDigits precision (baseline - candidate))

def OutcomeRecord.exactCost (r : OutcomeRecord F) : Option ℚ :=
  match r.pairedCost with
  | some evidence => if evidence.readable then some evidence.totalCostUsd else none
  | none => none

def decimalSum (values : List ℚ) : ℚ :=
  values.foldl (fun total value => roundDigits precision (total + value)) 0

def costComplete (pairs : List (Pair F)) : Bool :=
  (pairs.map Pair.baseline ++ pairs.map Pair.candidate).all fun r => r.exactCost.isSome

def costTotal (pairs : List (Pair F)) (arm : Pair F → OutcomeRecord F) : Option ℚ :=
  if costComplete pairs then some (decimalSum (pairs.filterMap fun p => (arm p).exactCost))
  else none

def costEvidenceComplete (pairs : List (Pair F)) (gate : PromotionGatePolicy F)
    (costWeight : F.Float) : Bool :=
  costComplete pairs ||
    !(gate.requireCompleteCostEvidence || decide (F.Lt (F.ofNat 0) costWeight))

def monotoneCost (pairs : List (Pair F)) (gate : PromotionGatePolicy F)
    (costWeight : F.Float) : Bool :=
  costEvidenceComplete pairs gate costWeight &&
    decide (∀ b ∈ costTotal pairs Pair.baseline, ∀ c ∈ costTotal pairs Pair.candidate, c ≤ b)

/-! ## The report of a cell -/

/-- The fields of the report of a cell that the evaluation and the manifest read. -/
structure CellReport (F : Floats) where
  key : CellKey
  pairedTasks : Nat
  candidateSuccessRate : F.Float
  candidateSuccessCiLower : F.Float
  costEvidenceComplete : Bool
  blockingFailureCount : Nat
  improvedDimensions : List String
  passed : Bool

/-- `_evaluate_cell`, of a group with at least one pair. -/
def evaluateCell (key : CellKey) (pairs : List (Pair F)) (gate : PromotionGatePolicy F)
    (minimumSuccessRate costWeight : F.Float) : CellReport F :=
  let baselines := pairs.map Pair.baseline
  let candidates := pairs.map Pair.candidate
  let baselineSuccesses := baselines.countP OutcomeRecord.passed
  let candidateSuccesses := candidates.countP OutcomeRecord.passed
  let samples := pairs.length
  let candidateSuccessRate := F.div (F.ofNat candidateSuccesses) (F.ofNat samples)
  let ciLower := (wilsonInterval F candidateSuccesses samples gate.confidenceLevel).1
  let candidateOnlyFailures := pairs.countP fun p => p.baseline.passed && !p.candidate.passed
  let blocking := (baselines ++ candidates).countP (·.failureIsBlocking gate)
  let latencies (records : List (OutcomeRecord F)) := records.map OutcomeRecord.latencyMs
  let tokens (records : List (OutcomeRecord F)) :=
    records.map fun r => r.promptTokens + r.completionTokens
  let premium (records : List (OutcomeRecord F)) := records.map OutcomeRecord.premiumCalls
  let egress (records : List (OutcomeRecord F)) := records.map OutcomeRecord.remotePayloadChars
  let baselineP95 : F.Float := p95 (latencies baselines)
  let candidateP95 : F.Float := p95 (latencies candidates)
  let costEvidenceComplete := costEvidenceComplete pairs gate costWeight
  let latencyRatio :=
    if F.Lt (F.ofNat 0) baselineP95 then F.div candidateP95 baselineP95
    else if F.value candidateP95 = F.value (F.ofNat 0) then F.ofNat 1
    else F.infinity
  let premiumIncreases := pairs.countP fun p =>
    decide (p.baseline.premiumCalls < p.candidate.premiumCalls)
  let egressIncreases := pairs.countP fun p =>
    decide (p.baseline.remotePayloadChars < p.candidate.remotePayloadChars)
  let costIncreases := pairs.countP fun p =>
    decide (∃ b ∈ p.baseline.exactCost, ∃ c ∈ p.candidate.exactCost, b < c)
  let improves (select : List (OutcomeRecord F) → List Nat) : Bool :=
    decide (F.Le gate.minimumRelativeImprovement
      (relativeImprovement (mean (select baselines)) (mean (select candidates))))
  let improvedDimensions :=
    (if baselineSuccesses < candidateSuccesses then ["success"] else []) ++
    (if improves latencies then ["latency"] else []) ++
    (if improves tokens then ["tokens"] else []) ++
    (if improves premium then ["premium_calls"] else []) ++
    (if improves egress then ["egress"] else []) ++
    (if ∃ b ∈ costTotal pairs Pair.baseline, ∃ c ∈ costTotal pairs Pair.candidate,
        decimalImprovementAtLeast b c gate.minimumRelativeImprovement = true then ["cost"] else [])
  let passed := decide (candidateOnlyFailures = 0 ∧
    F.Le minimumSuccessRate candidateSuccessRate ∧ F.Le minimumSuccessRate ciLower ∧
    blocking = 0 ∧ costEvidenceComplete = true ∧
    F.Le latencyRatio gate.maximumCandidateLatencyRatio ∧
    F.Le candidateP95 gate.maximumCandidateP95LatencyMs ∧
    F.Le (mean (premium candidates)) (mean (premium baselines)) ∧
    F.Le (mean (egress candidates)) (mean (egress baselines)) ∧
    monotoneCost pairs gate costWeight = true ∧
    premiumIncreases = 0 ∧ egressIncreases = 0 ∧ costIncreases = 0 ∧ improvedDimensions ≠ [])
  { key
    pairedTasks := samples
    candidateSuccessRate := F.round6 candidateSuccessRate
    candidateSuccessCiLower := F.round6 ciLower
    costEvidenceComplete
    blockingFailureCount := blocking
    improvedDimensions
    passed }

end LocalMoe.Promotion
