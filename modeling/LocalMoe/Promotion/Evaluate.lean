/-
  `evaluate_route_promotion`.
-/
import LocalMoe.Promotion.Cell

namespace LocalMoe.Promotion

open Foundation Contracts Canary Paired

variable {F : Floats}

/-! ## Inputs -/

/-- What the evaluation computes with code that only the manifest's texts depend on: the
digests of source files, of record sets, proof sets and reports, and the rebuilding of a
scorecard. -/
structure Environment (F : Floats) where
  stdlib : Stdlib
  /-- `promotion_evaluator_sha256()`. -/
  evaluatorSha256 : String
  /-- `_record_set_digest`. -/
  recordSetDigest : List (OutcomeRecord F) → String
  /-- `build_route_scorecard(...).digest` for the floors and the window of a scorecard. -/
  rebuiltDigest : List (OutcomeRecord F) → RouteScorecard F → Except ContractError String
  /-- The digest of the proofs of the records. -/
  proofSetSha256 : List (OutcomeRecord F × PairedProof F) → String

/-- The arguments of `evaluate_route_promotion`. -/
structure Arguments (F : Floats) where
  plan : EvidencePlan
  gatePolicy : PromotionGatePolicy F
  routePolicy : VerifiedRoutePolicy F
  scorecard : RouteScorecard F
  training : List (OutcomeRecord F)
  holdout : List (OutcomeRecord F)
  /-- `require_utc_timestamp(evaluated_at)`, so a whole second. -/
  evaluatedAt : Instant
  verifier : Option (PairedVerifier F)
  wholeSecond : wholeSeconds evaluatedAt = evaluatedAt

def normalizeRecords (records : List (OutcomeRecord F)) (label : String) :
    Except ContractError (List (OutcomeRecord F)) := do
  check (records.map OutcomeRecord.recordId).Nodup
    (⟨label ++ " outcome record_ids must be unique."⟩ : ContractError)
  pure (records.insertionSort fun a b => a.recordId ≤ b.recordId)

/-- `_validate_static_bindings`, with the policy of the plan's profile. -/
def validateStaticBindings (a : Arguments F) : Except ContractError (RouteProfilePolicy F) := do
  check (a.plan.routePolicyDigest = a.routePolicy.digest ∧
      a.plan.scorecardDigest = a.scorecard.digest ∧
      a.plan.trainingSourceDigest = a.scorecard.sourceDigest ∧
      a.plan.gatePolicyDigest = a.gatePolicy.digest)
    (⟨"Evidence plan binding mismatch."⟩ : ContractError)
  match a.routePolicy.profiles a.plan.profile with
  | none => .error ⟨"Evidence plan profile is not in the route policy."⟩
  | some profilePolicy => do
    check (a.plan.canaryBasisPoints ≤ a.gatePolicy.maximumCanaryBasisPoints)
      (⟨"Evidence plan canary size exceeds the gate policy."⟩ : ContractError)
    check (a.plan.manifestTtlSeconds ≤ a.gatePolicy.maximumManifestTtlSeconds)
      (⟨"Evidence plan TTL exceeds the gate policy."⟩ : ContractError)
    pure profilePolicy

/-! ## Proofs -/

/-- What `_verify_paired_record_sets` makes of one record. -/
def verifyPairedRecord (a : Arguments F) (verifier : PairedVerifier F)
    (pricing : PricingContract) (record : OutcomeRecord F) :
    Except ContractError (PairedProof F) := do
  let proof ← verifier.verifyRecord record pricing
  check (¬ F.Lt proof.latestAttestationIssuedAt proof.candidateCreatedAt)
    (⟨"Paired attestation predates its signed candidate binding."⟩ : ContractError)
  check (¬ F.Lt (F.timestamp a.evaluatedAt) proof.latestAttestationIssuedAt)
    (⟨"Paired attestation was issued after evaluation time."⟩ : ContractError)
  check (some proof.binding.executionHarnessSha256 = a.plan.executionHarnessSha256 ∧
      some proof.binding.runnerSourceSha256 = a.plan.runnerSourceSha256)
    (⟨"Paired proof does not match the preregistered execution harness."⟩ : ContractError)
  pure proof

/-- The proofs of the records that have one, how many records have none, and whether the
verifier is the preregistered one. -/
structure ProofSet (F : Floats) where
  proofs : List (OutcomeRecord F × PairedProof F)
  errors : Nat
  policyMatches : Bool

def provenRecord (a : Arguments F) (verifier : PairedVerifier F) (pricing : PricingContract)
    (record : OutcomeRecord F) : Option (OutcomeRecord F × PairedProof F) :=
  match verifyPairedRecord a verifier pricing record with
  | .ok proof => some (record, proof)
  | .error _ => none

def verifyPairedRecordSets (a : Arguments F) (records : List (OutcomeRecord F)) : ProofSet F :=
  match a.verifier, a.plan.pricingContract with
  | some verifier, some pricing =>
    { proofs := records.filterMap (provenRecord a verifier pricing)
      errors := records.countP fun r => (provenRecord a verifier pricing r).isNone
      policyMatches := decide (a.plan.attestationPolicySha256 = some verifier.policySha256 ∧
        a.plan.executionHarnessSha256.isSome = true ∧
        a.plan.runnerSourceSha256 = some verifier.runnerSourceSha256) }
  | _, _ => { proofs := [], errors := 1, policyMatches := false }

/-- `proofs.get(record_id)`: a later proof under an id replaces an earlier one. -/
def ProofSet.get (p : ProofSet F) (recordId : String) : Option (PairedProof F) :=
  (p.proofs.reverse.find? fun entry => decide (entry.1.recordId = recordId)).map Prod.snd

/-- `len(proofs)`. -/
def ProofSet.size (p : ProofSet F) : Nat :=
  (p.proofs.map fun entry => entry.1.recordId).dedup.length

def ProofSet.candidateTime (p : ProofSet F) (record : OutcomeRecord F) : Instant :=
  match p.get record.recordId with
  | none => record.createdAt
  | some proof => F.fromTimestamp proof.candidateCreatedAt

def ProofSet.items (p : ProofSet F) (records : List (OutcomeRecord F)) : List String :=
  records.filterMap fun r => (p.get r.recordId).map fun proof => proof.binding.normalizedItemSha256

/-! ## Uniqueness -/

/-- `len(values) - len(set(values))`. -/
def repeats {α : Type} [DecidableEq α] (values : List α) : Nat :=
  values.length - values.dedup.length

/-- `len(set(left) & set(right))`. -/
def overlap (left right : List String) : Nat :=
  (left.dedup.filter fun value => decide (value ∈ right)).length

def oneValue {α β : Type} [DecidableEq β] (group : List α) (field : α → β) : Bool :=
  decide ((group.map field).dedup.length = 1)

def twoValues {α β : Type} [DecidableEq β] (group : List α) (field : α → β) : Bool :=
  decide ((group.map field).dedup.length = 2)

/-- `_holdout_evidence_replay_errors`, of the records with one evidence digest. -/
def evidenceGroupErrors (group : List (OutcomeRecord F)) : Nat :=
  if group.length = 1 then 0
  else
    let bindings := group.filterMap OutcomeRecord.pairedRun
    if group.length = 2 ∧ bindings.length = 2 ∧ oneValue bindings OutcomeBinding.runId = true ∧
        twoValues bindings OutcomeBinding.claimSha256 = true ∧
        twoValues bindings OutcomeBinding.bindingSha256 = true ∧
        twoValues group OutcomeRecord.routeReceiptSha256 = true then 0
    else group.length - 1

def holdoutEvidenceReplayErrors (records : List (OutcomeRecord F)) : Nat :=
  ((records.map OutcomeRecord.evidenceSha256).dedup.map fun digest =>
    evidenceGroupErrors (records.filter fun r => decide (r.evidenceSha256 = digest))).sum

/-- The values of a field of the bindings that share a key. -/
def manyValues {α : Type} [DecidableEq α] (bindings : List OutcomeBinding)
    (key : OutcomeBinding → String) (field : OutcomeBinding → α) : Nat :=
  (bindings.map key).dedup.countP fun k =>
    !oneValue (bindings.filter fun b => decide (key b = k)) field

def OutcomeRecord.cell (r : OutcomeRecord F) :
    String × String × String × String × List String × Difficulty :=
  (r.profile, r.configSha256, r.signalProviderConfigSha256, r.runtimePlanSha256, r.capabilities,
    r.difficulty)

local instance neZero_two : NeZero 2 := ⟨by decide⟩

/-- Whether the records with one item are the two arms of one run. -/
def trainingGroupComplete (group : List (OutcomeRecord F × OutcomeBinding)) : Bool :=
  match group with
  | [first, second] =>
    let (lower, upper) := if second.2.ordinal < first.2.ordinal then (second, first)
      else (first, second)
    let slotA := if first.2.slot = .a then first else second
    let slotB := if first.2.slot = .a then second else first
    decide (slotA.2.slot = .a ∧ slotB.2.slot = .b ∧
      first.2.taskFingerprint = second.2.taskFingerprint ∧ first.2.runId = second.2.runId ∧
      first.2.runInstanceNonce = second.2.runInstanceNonce ∧ first.1.cell = second.1.cell ∧
      first.2.claimSha256 ≠ second.2.claimSha256 ∧
      first.2.bindingSha256 ≠ second.2.bindingSha256 ∧
      first.1.recordId ≠ second.1.recordId ∧
      (∀ entry ∈ group, entry.2.taskFingerprint = entry.1.taskFingerprint ∧
        entry.2.route = entry.1.plannedRoute) ∧
      slotA.2.arm = .baseline ∧ slotA.2.route = slotA.2.baselineRoute ∧
      slotB.2.arm = .candidate ∧ slotB.2.route = slotB.2.candidateRoute ∧
      slotA.2.baselineRoute = slotB.2.baselineRoute ∧
      slotA.2.candidateRoute = slotB.2.candidateRoute ∧ slotA.2.order = slotB.2.order ∧
      lower.2.ordinal = 0 ∧ upper.2.ordinal = 1 ∧ lower.2.previousRecordId = none ∧
      upper.2.previousRecordId = some lower.1.recordId)
  | _ => false

/-- `_training_pair_uniqueness_errors`, all its counts together. -/
def trainingPairErrors (records : List (OutcomeRecord F)) (p : ProofSet F) : Nat :=
  let proven := records.filterMap fun r => (p.get r.recordId).map fun proof => (r, proof.binding)
  let bindings := proven.map Prod.snd
  let missing := records.countP fun r => (p.get r.recordId).isNone
  let invalid := (bindings.map OutcomeBinding.normalizedItemSha256).dedup.countP fun item =>
    !trainingGroupComplete
      (proven.filter fun entry => decide (entry.2.normalizedItemSha256 = item))
  missing + invalid +
    manyValues bindings OutcomeBinding.taskFingerprint OutcomeBinding.normalizedItemSha256 +
    manyValues bindings OutcomeBinding.taskFingerprint OutcomeBinding.runId +
    manyValues bindings OutcomeBinding.runId OutcomeBinding.normalizedItemSha256 +
    manyValues bindings OutcomeBinding.runInstanceNonce OutcomeBinding.normalizedItemSha256

/-! ## Pairs -/

def pairStaticMatchesPlan (c : PromotionCase) (baseline candidate : OutcomeRecord F) : Bool :=
  let matchesCase (r : OutcomeRecord F) : Prop :=
    r.taskFingerprint = c.taskFingerprint ∧ r.profile = c.profile ∧
      r.capabilities = c.capabilities ∧ r.difficulty = c.difficulty ∧
      r.configSha256 = c.configSha256 ∧
      r.signalProviderConfigSha256 = c.signalProviderConfigSha256 ∧
      r.runtimePlanSha256 = c.runtimePlanSha256
  decide (matchesCase baseline ∧ matchesCase candidate ∧ baseline.source = candidate.source ∧
    F.value baseline.confidence = F.value candidate.confidence ∧
    baseline.routeReceiptSha256 ≠ candidate.routeReceiptSha256)

def pairedCostMatchesOutcome (cost : PairedCostEvidence) (r : OutcomeRecord F) : Bool :=
  decide ((cost.commands.map CommandCostEvidence.promptTokens).sum = r.promptTokens ∧
    (cost.commands.map CommandCostEvidence.completionTokens).sum = r.completionTokens ∧
    some cost.last.providerId = r.finalProvider ∧ some cost.last.model = r.model ∧
    cost.last.providerRuntimeSha256 = r.providerRuntimeSha256)

def OutcomeBinding.Expected (b : OutcomeBinding) (c : PromotionCase) (caseSha256 planSha256 : String) :
    Prop :=
  b.planSha256 = planSha256 ∧ b.caseSha256 = caseSha256 ∧ b.taskFingerprint = c.taskFingerprint ∧
    b.normalizedItemSha256 = c.normalizedItemSha256 ∧ b.bridgeConfigSha256 = c.configSha256 ∧
    b.order = c.order ∧ b.baselineRoute = c.baselineRoute ∧ b.candidateRoute = c.candidateRoute

instance (b : OutcomeBinding) (c : PromotionCase) (caseSha256 planSha256 : String) :
    Decidable (b.Expected c caseSha256 planSha256) := inferInstanceAs (Decidable (_ ∧ _))

def OutcomeBinding.SameRun (b d : OutcomeBinding) : Prop :=
  b.runId = d.runId ∧ b.sourceSnapshotSha256 = d.sourceSnapshotSha256 ∧
    b.executorConfigSha256 = d.executorConfigSha256 ∧
    b.lifecycleConfigSha256 = d.lifecycleConfigSha256 ∧ b.signalsSha256 = d.signalsSha256 ∧
    b.runnerSha256 = d.runnerSha256 ∧ b.pricingSha256 = d.pricingSha256 ∧
    b.runInstanceNonce = d.runInstanceNonce

instance (b d : OutcomeBinding) : Decidable (b.SameRun d) := inferInstanceAs (Decidable (_ ∧ _))

/-- The first arm of an order, and the second. -/
def inOrder {α : Type} (order : Order) (baseline candidate : α) : α × α :=
  match order with
  | .ab => (baseline, candidate)
  | .ba => (candidate, baseline)

def pairedLineageMatchesPlan (S : Stdlib) (plan : EvidencePlan) (c : PromotionCase)
    (baseline candidate : OutcomeRecord F) : Bool :=
  match plan.pricingContract, baseline.pairedRun, candidate.pairedRun, baseline.pairedCost,
    candidate.pairedCost with
  | some pricing, some baselineBinding, some candidateBinding, some baselineCost,
    some candidateCost =>
      let caseSha256 := S.sha256Json c.payload
      let bindings := inOrder c.order baselineBinding candidateBinding
      let records := inOrder c.order baseline candidate
      decide (pricing.prices baselineCost = true ∧ pricing.prices candidateCost = true ∧
        baselineCost.pricingSha256 = pricing.pricingSha256 ∧
        candidateCost.pricingSha256 = pricing.pricingSha256 ∧
        pairedCostMatchesOutcome baselineCost baseline = true ∧
        pairedCostMatchesOutcome candidateCost candidate = true ∧
        baselineBinding.Expected c caseSha256 plan.planSha256 ∧
        candidateBinding.Expected c caseSha256 plan.planSha256 ∧
        baselineBinding.pricingSha256 = pricing.pricingSha256 ∧
        baselineBinding.SameRun candidateBinding ∧
        baselineBinding.arm = .baseline ∧ baselineBinding.slot = .a ∧
        baselineBinding.route = c.baselineRoute ∧ candidateBinding.arm = .candidate ∧
        candidateBinding.slot = .b ∧ candidateBinding.route = c.candidateRoute ∧
        baselineBinding.claimSha256 ≠ candidateBinding.claimSha256 ∧
        bindings.1.ordinal = 0 ∧ bindings.2.ordinal = 1 ∧ bindings.1.previousRecordId = none ∧
        bindings.2.previousRecordId = some records.1.recordId ∧
        records.2.recordId ≠ records.1.recordId ∧ records.1.createdAt ≤ records.2.createdAt)
  | _, _, _, _, _ => false

/-- What the loop over the tasks makes of a case. -/
inductive CaseVerdict (F : Floats) where
  /-- `pair_errors`, by so many. -/
  | invalid (errors : Nat)
  /-- `paired_lineage_errors`. -/
  | unbound
  | paired (pair : Pair F)

/-- The records of a case, by the routes they took. -/
def pairOfRecords (S : Stdlib) (plan : EvidencePlan) (c : PromotionCase)
    (baseline candidate : OutcomeRecord F) : CaseVerdict F :=
  if pairStaticMatchesPlan c baseline candidate = false then .invalid 1
  else if pairedLineageMatchesPlan S plan c baseline candidate = false then .unbound
  else .paired ⟨c, baseline, candidate⟩

/-- One round of the loop over the tasks of the plan. -/
def judgeCase (S : Stdlib) (plan : EvidencePlan) (holdout : List (OutcomeRecord F))
    (c : PromotionCase) : CaseVerdict F :=
  match holdout.filter fun r => decide (r.taskFingerprint = c.taskFingerprint) with
  | [first, second] =>
    -- Two records of one route are counted by the loop and by the check of the routes.
    if first.plannedRoute = second.plannedRoute then .invalid 2
    else if first.plannedRoute = c.baselineRoute ∧ second.plannedRoute = c.candidateRoute then
      pairOfRecords S plan c first second
    else if first.plannedRoute = c.candidateRoute ∧ second.plannedRoute = c.baselineRoute then
      pairOfRecords S plan c second first
    else .invalid 1
  | _ => .invalid 1

/-- The complete pairs of the plan, in the order of its cases. -/
def pairsOf (verdicts : List (CaseVerdict F)) : List (Pair F) :=
  verdicts.filterMap fun
    | .paired pair => some pair
    | .invalid _ | .unbound => none

def pairErrors (verdicts : List (CaseVerdict F)) : Nat :=
  (verdicts.map fun
    | .invalid errors => errors
    | .unbound | .paired _ => 0).sum

def lineageErrors (verdicts : List (CaseVerdict F)) : Nat :=
  verdicts.countP fun
    | .unbound => true
    | .invalid _ | .paired _ => false

/-! ## The checks -/

/-- `_add_check`, but for its details. -/
structure Check where
  id : String
  passed : Bool
  failureKind : String
  deriving DecidableEq, Repr

/-- What the checks are about, once the proofs are there. -/
structure Subject (F : Floats) extends Arguments F where
  environment : Environment F
  profilePolicy : RouteProfilePolicy F
  /-- The normalised records. -/
  trainingSet : List (OutcomeRecord F)
  holdoutSet : List (OutcomeRecord F)

namespace Subject

variable (s : Subject F)

def proofs : ProofSet F := verifyPairedRecordSets s.toArguments (s.trainingSet ++ s.holdoutSet)

def candidateTime (r : OutcomeRecord F) : Instant := s.proofs.candidateTime r

def verdicts : List (CaseVerdict F) :=
  s.plan.cases.map (judgeCase s.environment.stdlib s.plan s.holdoutSet)

def pairs : List (Pair F) := pairsOf s.verdicts

def proofComplete : Bool :=
  decide (s.verifier.isSome = true ∧ s.plan.attestationPolicySha256.isSome = true ∧
    s.plan.executionHarnessSha256.isSome = true ∧ s.plan.runnerSourceSha256.isSome = true ∧
    s.proofs.policyMatches = true ∧ s.proofs.errors = 0 ∧
    s.proofs.size = (s.trainingSet ++ s.holdoutSet).length)

def minimumConfidence : F.Float :=
  F.max s.gatePolicy.minimumConfidence s.profilePolicy.minConfidence

def evidenceFloorOk : Bool :=
  decide (s.gatePolicy.minimumEvidenceStrength.index ≤ s.scorecard.minimumEvidenceStrength.index ∧
    F.Le s.minimumConfidence s.scorecard.minimumConfidence)

def timingOk : Bool :=
  decide (s.scorecard.generatedAt ≤ s.plan.createdAt ∧ s.evaluatedAt < s.scorecard.expiresAt)

def trainingTimingErrors : Nat :=
  s.trainingSet.countP fun r => decide (s.scorecard.generatedAt < s.candidateTime r)

def trainingAttestationErrors : Nat :=
  s.trainingSet.countP fun (r : OutcomeRecord F) => decide (∃ proof ∈ s.proofs.get r.recordId,
    F.Lt (F.timestamp s.scorecard.generatedAt) proof.latestAttestationIssuedAt)

def trainingProfileErrors : Nat :=
  s.trainingSet.countP fun r => decide (r.profile ≠ s.plan.profile)

def trainingReplayErrors : Nat :=
  repeats (s.trainingSet.map OutcomeRecord.routeReceiptId) +
    repeats (s.trainingSet.map OutcomeRecord.routeReceiptSha256) +
    repeats (s.trainingSet.map OutcomeRecord.evidenceSha256)

/-- The sum of `overlap_counts`. -/
def overlapCount : Nat :=
  let both (field : OutcomeRecord F → String) : Nat :=
    overlap (s.trainingSet.map field) (s.holdoutSet.map field)
  both OutcomeRecord.taskFingerprint + both OutcomeRecord.recordId +
    both OutcomeRecord.routeReceiptId + both OutcomeRecord.routeReceiptSha256 +
    both OutcomeRecord.evidenceSha256 +
    overlap (s.proofs.items s.trainingSet) (s.proofs.items s.holdoutSet)

def holdoutReplayErrors : Nat :=
  repeats (s.holdoutSet.map OutcomeRecord.routeReceiptId) +
    repeats (s.holdoutSet.map OutcomeRecord.routeReceiptSha256) +
    holdoutEvidenceReplayErrors s.holdoutSet

/-- The bindings of the holdout records that have a proof. -/
def pairedBindings : List OutcomeBinding :=
  s.holdoutSet.filterMap fun r => (s.proofs.get r.recordId).map PairedProof.binding

def pairedReplayErrors : Nat :=
  (s.holdoutSet.length - s.pairedBindings.length) +
    repeats (s.pairedBindings.map OutcomeBinding.claimSha256) +
    repeats (s.pairedBindings.map OutcomeBinding.bindingSha256) +
    (s.pairedBindings.map OutcomeBinding.runId).dedup.countP fun run =>
      decide ((s.pairedBindings.map OutcomeBinding.runId).count run ≠ 2)

/-- `holdout_tasks == planned_tasks`. -/
def exactTaskSet : Bool :=
  decide ((∀ r ∈ s.holdoutSet, r.taskFingerprint ∈ s.plan.cases.map PromotionCase.taskFingerprint) ∧
    ∀ c ∈ s.plan.cases, c.taskFingerprint ∈ s.holdoutSet.map OutcomeRecord.taskFingerprint)

def belowFloor (r : OutcomeRecord F) : Bool :=
  decide (r.evidenceStrength.index < s.gatePolicy.minimumEvidenceStrength.index ∨
    F.Lt r.confidence s.minimumConfidence ∨ r.abstained = true ∨ r.outcome = .inconclusive)

def outsideWindow (r : OutcomeRecord F) : Bool :=
  decide (s.candidateTime r < s.plan.createdAt ∨ s.evaluatedAt < s.candidateTime r ∨
    F.Le (F.ofNat s.gatePolicy.maximumHoldoutAgeSeconds)
      (F.totalSeconds (s.evaluatedAt - s.candidateTime r)))

/-- The arms of a pair are out of order, or too far apart. -/
def skewed (p : Pair F) : Bool :=
  let times := inOrder p.case.order (s.candidateTime p.baseline) (s.candidateTime p.candidate)
  decide (times.2 ≤ times.1 ∨ F.Lt (F.ofNat s.gatePolicy.maximumPairTimeSkewSeconds)
    (F.totalSeconds |s.candidateTime p.candidate - s.candidateTime p.baseline|))

def evidenceErrors : Nat :=
  (s.pairs.flatMap fun p => [p.baseline, p.candidate]).countP s.belowFloor

def freshnessErrors : Nat :=
  (s.pairs.flatMap fun p => [p.baseline, p.candidate]).countP s.outsideWindow

def skewErrors : Nat := s.pairs.countP s.skewed

def cellSortKey (key : CellKey) : String :=
  String.ofList (dumps (.arr [.str key.profile, .arr (key.capabilities.map .str),
    .str key.difficulty.name, .str key.baselineRoute.name, .str key.candidateRoute.name,
    .str key.configSha256, .str key.signalProviderConfigSha256, .str key.runtimePlanSha256]))

/-- The keys of `cell_pairs`, sorted. -/
def cellKeys : List CellKey :=
  (s.pairs.map fun p => p.case.cellKey).dedup.insertionSort fun a b => cellSortKey a ≤ cellSortKey b

/-- `cell_pairs[cell_key]`. -/
def cellPairs (key : CellKey) : List (Pair F) :=
  s.pairs.filter fun p => decide (p.case.cellKey = key)

def coverageOk : Bool :=
  decide (s.gatePolicy.minimumPairedTasks ≤ s.pairs.length ∧
    s.cellKeys.length = (s.plan.cases.map PromotionCase.cellKey).dedup.length ∧
    s.cellKeys ≠ [] ∧
    ∀ key ∈ s.cellKeys, s.gatePolicy.minimumPairedTasksPerCell ≤ (s.cellPairs key).length)

/-- `scorecard.conservative_entry`; the keys of the entries are unique. -/
def conservativeEntry (key : CellKey) (route : RoutePlan) : Option (ScorecardEntry F) :=
  s.scorecard.entries.find? fun e =>
    decide (e.configSha256 = key.configSha256 ∧
      e.signalProviderConfigSha256 = key.signalProviderConfigSha256 ∧
      e.runtimePlanSha256 = key.runtimePlanSha256 ∧ e.route = route ∧
      e.capabilities = key.capabilities ∧ e.difficulty = key.difficulty)

def trainingRecordMatchesCell (key : CellKey) (route : RoutePlan) (r : OutcomeRecord F) : Bool :=
  decide (r.profile = key.profile ∧ r.configSha256 = key.configSha256 ∧
    r.signalProviderConfigSha256 = key.signalProviderConfigSha256 ∧
    r.runtimePlanSha256 = key.runtimePlanSha256 ∧ r.plannedRoute = route ∧
    r.capabilities = key.capabilities ∧ r.difficulty = key.difficulty ∧
    s.scorecard.minimumEvidenceStrength.index ≤ r.evidenceStrength.index ∧
    F.Le s.scorecard.minimumConfidence r.confidence ∧ r.abstained = false ∧
    r.outcome ≠ .inconclusive)

def routeCells : List (CellKey × RoutePlan) :=
  s.cellKeys.flatMap fun key => [(key, key.baselineRoute), (key, key.candidateRoute)]

def scorecardCoverageErrors : Nat :=
  s.routeCells.countP fun (cell : CellKey × RoutePlan) => decide (∀ e ∈ s.conservativeEntry cell.1 cell.2,
    e.verifiedSamples < s.profilePolicy.minSamples)

def scorecardQualityErrors : Nat :=
  s.routeCells.countP fun (cell : CellKey × RoutePlan) => decide (∃ e ∈ s.conservativeEntry cell.1 cell.2,
    s.profilePolicy.minSamples ≤ e.verifiedSamples ∧
      F.Lt e.successRate s.profilePolicy.minSuccessRate)

def trainingSampleErrors : Nat :=
  s.routeCells.countP fun (cell : CellKey × RoutePlan) =>
    let qualifying := s.trainingSet.filter (s.trainingRecordMatchesCell cell.1 cell.2)
    let tasks := (qualifying.map OutcomeRecord.taskFingerprint).dedup.length
    let items := (s.proofs.items qualifying).dedup.length
    decide (tasks ≠ qualifying.length ∨ items ≠ qualifying.length ∨
      tasks < s.profilePolicy.minSamples)

def cellReports : List (CellReport F) :=
  s.cellKeys.map fun key => evaluateCell key (s.cellPairs key) s.gatePolicy
    s.profilePolicy.minSuccessRate s.profilePolicy.costWeight

/-- The checks in the order in which they are made. -/
def checks : List Check :=
  [⟨"paired_attestation_provenance", s.proofComplete, "inconclusive"⟩,
   ⟨"evaluator_binding", decide (s.plan.evaluatorSha256 = s.environment.evaluatorSha256),
     "inconclusive"⟩,
   ⟨"scorecard_evidence_floor", s.evidenceFloorOk, "inconclusive"⟩,
   ⟨"plan_and_scorecard_freshness", s.timingOk, "inconclusive"⟩,
   ⟨"training_chronology_and_profile", decide (s.trainingTimingErrors = 0 ∧
     s.trainingAttestationErrors = 0 ∧ s.trainingProfileErrors = 0), "inconclusive"⟩,
   ⟨"training_execution_uniqueness", decide (s.trainingReplayErrors = 0), "inconclusive"⟩,
   ⟨"training_semantic_pair_uniqueness", decide (trainingPairErrors s.trainingSet s.proofs = 0),
     "inconclusive"⟩,
   ⟨"training_holdout_disjoint", decide (s.overlapCount = 0), "inconclusive"⟩,
   ⟨"holdout_execution_uniqueness", decide (s.holdoutReplayErrors = 0), "inconclusive"⟩,
   ⟨"paired_execution_uniqueness", decide (s.pairedReplayErrors = 0), "inconclusive"⟩,
   ⟨"intention_to_treat_task_set", s.exactTaskSet, "inconclusive"⟩,
   ⟨"paired_arm_completeness", decide (pairErrors s.verdicts = 0 ∧
     lineageErrors s.verdicts = 0 ∧ s.pairs.length = s.plan.cases.length), "inconclusive"⟩,
   ⟨"paired_execution_lineage", decide (lineageErrors s.verdicts = 0), "inconclusive"⟩,
   ⟨"holdout_evidence_floor", decide (s.evidenceErrors = 0), "inconclusive"⟩,
   ⟨"holdout_freshness", decide (s.freshnessErrors = 0 ∧ s.skewErrors = 0), "inconclusive"⟩,
   ⟨"paired_sample_coverage", s.coverageOk, "inconclusive"⟩,
   ⟨"scorecard_cell_coverage", decide (s.scorecardCoverageErrors = 0), "inconclusive"⟩,
   ⟨"scorecard_cell_quality", decide (s.scorecardQualityErrors = 0), "ineligible"⟩,
   ⟨"training_effective_sample_uniqueness", decide (s.trainingSampleErrors = 0),
     "inconclusive"⟩,
   ⟨"cost_evidence_completeness", s.cellReports.all CellReport.costEvidenceComplete,
     "inconclusive"⟩,
   ⟨"hard_invariant_failures",
     decide ((s.cellReports.map CellReport.blockingFailureCount).sum = 0), "ineligible"⟩,
   ⟨"paired_quality_and_efficiency", s.cellReports.all CellReport.passed &&
     !s.cellReports.isEmpty, "ineligible"⟩]

def statusOf (checks : List Check) : String :=
  let failedKinds := (checks.filter fun c => !c.passed).map Check.failureKind
  if "inconclusive" ∈ failedKinds then "inconclusive"
  else if "ineligible" ∈ failedKinds then "ineligible"
  else "eligible"

end Subject

/-! ## The report and the manifest -/

structure Report (F : Floats) where
  evaluatedAt : Instant
  status : String
  reasonCodes : List String
  checks : List Check
  cells : List (CellReport F)

/-- The manifest, before it is rendered. -/
structure Manifest (F : Floats) where
  notBefore : Instant
  expiresAt : Instant
  evidenceValidUntil : Instant
  canaryBasisPoints : Nat
  assignmentSaltSha256 : String
  planSha256 : String
  report : Report F
  gatePolicyDigest : String
  routePolicyDigest : String
  scorecardDigest : String
  trainingSourceDigest : String
  evaluatorSha256 : String
  pricingSha256 : Option String
  attestationPolicySha256 : Option String
  executionHarnessSha256 : Option String
  runnerSourceSha256 : Option String
  pairedAttestationVerifierSha256 : Option String
  pairedProofSetSha256 : String
  enabledCells : List (CellReport F)

namespace Subject

variable (s : Subject F)

def report : Report F where
  evaluatedAt := s.evaluatedAt
  status := statusOf s.checks
  reasonCodes :=
    ((s.checks.filter fun c => !c.passed).map Check.id).insertionSort (· ≤ ·)
  checks := s.checks
  cells := s.cellReports

/-- `holdout_valid_until`, of a first record and others. -/
def holdoutValidUntil : List (OutcomeRecord F) → Option Instant
  | [] => none
  | r :: rest =>
    let expiry := s.candidateTime r + seconds s.gatePolicy.maximumHoldoutAgeSeconds
    match holdoutValidUntil rest with
    | none => some expiry
    | some earliest => some (min expiry earliest)

def manifest (validUntil : Instant) : Manifest F where
  notBefore := s.evaluatedAt
  expiresAt := wholeSeconds (min (min (s.evaluatedAt + seconds s.plan.manifestTtlSeconds)
    s.scorecard.expiresAt) validUntil)
  evidenceValidUntil := wholeSeconds validUntil
  canaryBasisPoints := s.plan.canaryBasisPoints
  assignmentSaltSha256 := s.plan.assignmentSaltSha256
  planSha256 := s.plan.planSha256
  report := s.report
  gatePolicyDigest := s.gatePolicy.digest
  routePolicyDigest := s.routePolicy.digest
  scorecardDigest := s.scorecard.digest
  trainingSourceDigest := s.scorecard.sourceDigest
  evaluatorSha256 := s.environment.evaluatorSha256
  pricingSha256 := s.plan.pricingSha256
  attestationPolicySha256 := s.plan.attestationPolicySha256
  executionHarnessSha256 := s.plan.executionHarnessSha256
  runnerSourceSha256 := s.plan.runnerSourceSha256
  pairedAttestationVerifierSha256 := s.verifier.map PairedVerifier.configurationSha256
  pairedProofSetSha256 := s.environment.proofSetSha256 s.proofs.proofs
  enabledCells := s.cellReports

end Subject

def evaluateRoutePromotion (environment : Environment F) (a : Arguments F) :
    Except ContractError (Report F × Option (Manifest F)) := do
  let trainingSet ← normalizeRecords a.training "training"
  let holdoutSet ← normalizeRecords a.holdout "holdout"
  check (trainingSet ≠ []) (⟨"Training outcomes must be non-empty."⟩ : ContractError)
  let profilePolicy ← validateStaticBindings a
  -- `_validate_scorecard_lineage`.
  check (environment.recordSetDigest trainingSet = a.scorecard.sourceDigest)
    (⟨"Scorecard source digest does not match supplied training outcomes."⟩ : ContractError)
  let rebuilt ← environment.rebuiltDigest trainingSet a.scorecard
  check (rebuilt = a.scorecard.digest)
    (⟨"Scorecard aggregates do not match supplied training outcomes."⟩ : ContractError)
  let s : Subject F := ⟨a, environment, profilePolicy, trainingSet, holdoutSet⟩
  if s.report.status = "eligible" then
    match s.holdoutValidUntil holdoutSet with
    | none => .error ⟨"min() iterable argument is empty"⟩
    | some validUntil => pure (s.report, some (s.manifest validUntil))
  else
    pure (s.report, none)

end LocalMoe.Promotion
