/-
  The costs that decide a cell are the exact sums while 160 digits hold them, and only then
  surely.
-/
import LocalMoe.Pricing.Exact
import LocalMoe.Promotion.Guarantee

namespace LocalMoe.Promotion

open Foundation Contracts Canary Paired

/-! ## Sums at 160 digits -/

theorem decimalSum_exact {values : List ℚ}
    (h : ∀ n ≤ values.length, Fits precision (values.take n).sum) :
    decimalSum values = values.sum := by
  have hfold : ∀ (rest : List ℚ) (total : ℚ),
      (∀ n ≤ rest.length, Fits precision (total + (rest.take n).sum)) →
      rest.foldl (fun total value => roundDigits precision (total + value)) total =
        total + rest.sum := by
    intro rest
    induction rest with
    | nil => exact fun total _ => by rw [List.foldl_nil, List.sum_nil, add_zero]
    | cons value rest ih =>
      intro total hfits
      have hfirst : Fits precision (total + value) := by
        have := hfits 1 (by rw [List.length_cons]; omega)
        rwa [List.take_succ_cons, List.take_zero, List.sum_singleton] at this
      rw [List.foldl_cons, roundDigits_of_fits hfirst, ih (total + value) fun n hn => ?_,
        List.sum_cons, add_assoc]
      have := hfits (n + 1) (by rw [List.length_cons]; omega)
      rwa [List.take_succ_cons, List.sum_cons, ← add_assoc] at this
  have := hfold values 0 fun n hn => by rw [zero_add]; exact h n hn
  rwa [zero_add] at this

section Evidence

variable {F : Floats} (S : Stdlib) (U : Pricing.Digits)

/-! ## The evidence of a record -/

/-- A command of the evidence, as the promotion reads it. -/
def recordedCommand (c : Pricing.CommandCostEvidence) : CommandCostEvidence where
  promptTokens := c.metadata.promptTokens.1
  completionTokens := c.metadata.completionTokens.1
  providerId := c.metadata.providerId.1
  model := c.metadata.model.1
  providerRuntimeSha256 := some c.metadata.providerRuntimeSha256.1

/-- The evidence that a record carries in its payload. -/
def recordedCost (e : Pricing.PairedCostEvidence) : Option PairedCostEvidence :=
  e.commands.getLast?.map fun last =>
    { pricingSha256 := e.pricingSha256.1
      earlier := e.commands.dropLast.map recordedCommand
      last := recordedCommand last
      totalCostUsd := Pricing.amount U e.totalCostUsd.1
      readable := (Pricing.PairedCostEvidence.fromPayload S U (e.payload S) none).isOk }

theorem exactCost_recorded {r : OutcomeRecord F} {e : Pricing.PairedCostEvidence}
    (haccepted : e.Accepted U) (hrecord : r.pairedCost = recordedCost S U e)
    (hkeeps : e.Keeps U) : r.exactCost = some (Pricing.amount U e.totalCostUsd.1) := by
  have hread := (Pricing.PairedCostEvidence.fromPayload_payload U S haccepted).mpr ⟨hkeeps, rfl⟩
  rw [OutcomeRecord.exactCost, hrecord, recordedCost,
    List.getLast?_eq_some_getLast haccepted.nonempty]
  simp only [Option.map_some, hread, Except.isOk, Except.toBool, if_true]

/-! ## The verdict on costs -/

/-- The evidence of the records of a pair. -/
structure Costs where
  baseline : Pricing.PairedCostEvidence
  candidate : Pricing.PairedCostEvidence

def totals (costs : List Costs) (arm : Costs → Pricing.PairedCostEvidence) : List ℚ :=
  costs.map fun c => Pricing.amount U (arm c).totalCostUsd.1

/-- A pair whose records carry this evidence, as its constructor accepted it. -/
structure Carries (p : Pair F) (c : Costs) : Prop where
  baselineAccepted : c.baseline.Accepted U
  candidateAccepted : c.candidate.Accepted U
  baseline : p.baseline.pairedCost = recordedCost S U c.baseline
  candidate : p.candidate.pairedCost = recordedCost S U c.candidate

/-- The context holds every number that the verdict on costs computes. -/
structure CostsFit (costs : List Costs) (threshold : ℚ) : Prop where
  keeps : ∀ c ∈ costs, c.baseline.Keeps U ∧ c.candidate.Keeps U
  baseline : ∀ n ≤ costs.length, Fits precision ((totals U costs Costs.baseline).take n).sum
  candidate : ∀ n ≤ costs.length, Fits precision ((totals U costs Costs.candidate).take n).sum
  difference : Fits precision
    ((totals U costs Costs.baseline).sum - (totals U costs Costs.candidate).sum)
  product : Fits precision ((totals U costs Costs.baseline).sum * threshold)

theorem costs_carried {pairs : List (Pair F)} {costs : List Costs}
    (h : List.Forall₂ (Carries S U) pairs costs)
    (hkeeps : ∀ c ∈ costs, c.baseline.Keeps U ∧ c.candidate.Keeps U) : costComplete pairs = true ∧
      (pairs.filterMap fun p => p.baseline.exactCost) = totals U costs Costs.baseline ∧
      (pairs.filterMap fun p => p.candidate.exactCost) = totals U costs Costs.candidate := by
  induction h with
  | nil => exact ⟨rfl, rfl, rfl⟩
  | @cons p c pairs costs hcarries _ ih =>
    obtain ⟨⟨hb, hc⟩, hrest⟩ := List.forall_mem_cons.mp hkeeps
    obtain ⟨hcomplete, hbaselines, hcandidates⟩ := ih hrest
    have hbaseline := exactCost_recorded S U hcarries.baselineAccepted hcarries.baseline hb
    have hcandidate := exactCost_recorded S U hcarries.candidateAccepted hcarries.candidate hc
    refine ⟨?_, ?_, ?_⟩
    · simp only [costComplete, List.all_append, List.all_map, Bool.and_eq_true] at hcomplete
      simp only [costComplete, List.map_cons, List.all_append, List.all_cons, hbaseline,
        hcandidate, Option.isSome_some, Bool.true_and, Bool.and_eq_true, List.all_map]
      exact hcomplete
    · simp only [List.filterMap_cons, hbaseline, hbaselines, totals, List.map_cons]
    · simp only [List.filterMap_cons, hcandidate, hcandidates, totals, List.map_cons]

/-- The costs that decide a cell are the exact sums where the context holds them. -/
theorem exact_costs_decide (key : CellKey) (pairs : List (Pair F)) (costs : List Costs)
    (gate : PromotionGatePolicy F) (minimumSuccessRate costWeight : F.Float)
    (hcarries : List.Forall₂ (Carries S U) pairs costs)
    (hfit : CostsFit U costs (F.toDecimal gate.minimumRelativeImprovement)) :
    costTotal pairs Pair.baseline = some (totals U costs Costs.baseline).sum ∧
    costTotal pairs Pair.candidate = some (totals U costs Costs.candidate).sum ∧
    ("cost" ∈ (evaluateCell key pairs gate minimumSuccessRate costWeight).improvedDimensions ↔
      0 < (totals U costs Costs.baseline).sum ∧
        (totals U costs Costs.baseline).sum * F.toDecimal gate.minimumRelativeImprovement ≤
          (totals U costs Costs.baseline).sum - (totals U costs Costs.candidate).sum) ∧
    (monotoneCost pairs gate costWeight = true ↔
      (totals U costs Costs.candidate).sum ≤ (totals U costs Costs.baseline).sum) := by
  obtain ⟨hcomplete, hbaselines, hcandidates⟩ := costs_carried S U hcarries hfit.keeps
  have hlength : ∀ arm, (totals U costs arm).length = costs.length := fun _ => List.length_map _
  have hbaseline : costTotal pairs Pair.baseline = some (totals U costs Costs.baseline).sum := by
    rw [costTotal, if_pos hcomplete, hbaselines, decimalSum_exact]
    rw [hlength]
    exact hfit.baseline
  have hcandidate : costTotal pairs Pair.candidate = some (totals U costs Costs.candidate).sum := by
    rw [costTotal, if_pos hcomplete, hcandidates, decimalSum_exact]
    rw [hlength]
    exact hfit.candidate
  refine ⟨hbaseline, hcandidate, ?_, ?_⟩
  · have hcost : "cost" ∈
        (evaluateCell key pairs gate minimumSuccessRate costWeight).improvedDimensions ↔
        ∃ b ∈ costTotal pairs Pair.baseline, ∃ c ∈ costTotal pairs Pair.candidate,
          decimalImprovementAtLeast b c gate.minimumRelativeImprovement = true := by
      simp only [evaluateCell, List.mem_append, List.mem_ite_nil_right, List.mem_singleton,
        String.reduceEq, and_false, false_or, and_true]
    rw [hcost]
    simp only [hbaseline, hcandidate, Option.mem_some_iff, exists_eq_left', decimalImprovementAtLeast,
      decide_eq_true_eq, roundDigits_of_fits hfit.difference, roundDigits_of_fits hfit.product]
  · simp only [monotoneCost, costEvidenceComplete, hcomplete, Bool.true_or, Bool.true_and,
      hbaseline, hcandidate, Option.mem_some_iff, forall_eq', decide_eq_true_eq]

end Evidence

/-! ## Costs of very different sizes -/

open Pricing (asciiDigits)

def sampleEvidence (d : Decimal) (h : Pricing.Accepted d) : Pricing.PairedCostEvidence :=
  ⟨Pricing.sampleCommand.providerRuntimeSha256,
    [⟨Pricing.sampleCommand, (Pricing.samplePrice d h).promptUsdPerMillion⟩],
    (Pricing.samplePrice d h).promptUsdPerMillion⟩

theorem amount_sampleEvidence (d : Decimal) (h : Pricing.Accepted d) :
    Pricing.amount asciiDigits (sampleEvidence d h).totalCostUsd.1 = d.value :=
  Pricing.amount_canonicalDecimal asciiDigits d

theorem accepted_sampleEvidence (d : Decimal) (h : Pricing.Accepted d) :
    (sampleEvidence d h).Accepted asciiDigits :=
  ⟨List.cons_ne_nil _ _, show 1 ≤ Pricing.maxCommands by decide, List.sum_singleton.symm⟩

theorem keeps_sampleEvidence {d : Decimal} {h : Pricing.Accepted d}
    (hstorable : Pricing.Storable d.value) : (sampleEvidence d h).Keeps asciiDigits := by
  have hamount : Pricing.Storable (Pricing.amount asciiDigits (Pricing.canonicalDecimal d)) := by
    rwa [Pricing.amount_canonicalDecimal]
  exact ⟨List.forall_mem_singleton.mpr hamount, hamount⟩

def samplePair (c : Costs) : Pair sampleFloats where
  case := sampleCase
  baseline := { sampleRecord "task" "item" "case" .baseline 1 with
    pairedCost := recordedCost Stdlib.cpython asciiDigits c.baseline }
  candidate := { sampleRecord "task" "item" "case" .candidate 2 with
    pairedCost := recordedCost Stdlib.cpython asciiDigits c.candidate }

def largeCost : Pricing.PairedCostEvidence := sampleEvidence ⟨1, 63⟩ (by decide +kernel)

def smallCost : Pricing.PairedCostEvidence := sampleEvidence ⟨1, -72⟩ (by decide +kernel)

/-- A little more than the small cost. -/
def moreCost : Pricing.PairedCostEvidence :=
  sampleEvidence ⟨10 ^ 54 + 1, -126⟩ (by decide +kernel)

theorem largeCost_accepted : largeCost.Accepted asciiDigits := accepted_sampleEvidence ⟨1, 63⟩ _

theorem smallCost_accepted : smallCost.Accepted asciiDigits := accepted_sampleEvidence ⟨1, -72⟩ _

theorem moreCost_accepted : moreCost.Accepted asciiDigits :=
  accepted_sampleEvidence ⟨10 ^ 54 + 1, -126⟩ _

theorem largeCost_keeps : largeCost.Keeps asciiDigits := by
  refine keeps_sampleEvidence ⟨10 ^ 63, 0, ?_, by decide, by decide, fun _ => by decide⟩
  norm_num [Decimal.value]

theorem smallCost_keeps : smallCost.Keeps asciiDigits := by
  refine keeps_sampleEvidence ⟨1, 72, ?_, by decide, by decide, fun _ => by decide⟩
  norm_num [Decimal.value]

theorem moreCost_keeps : moreCost.Keeps asciiDigits := by
  refine keeps_sampleEvidence ⟨10 ^ 54 + 1, 126, ?_, by decide, by decide, fun _ => by decide⟩
  norm_num [Decimal.value]

theorem exact_costs_decide_improved :
    "cost" ∈ (evaluateCell sampleCase.cellKey [samplePair ⟨largeCost, smallCost⟩]
      sampleArguments.gatePolicy (0 : ℚ) (0 : ℚ)).improvedDimensions := by
  have hbaseline : totals asciiDigits [⟨largeCost, smallCost⟩] Costs.baseline = [(10 : ℚ) ^ 63] := by
    simp only [totals, List.map_cons, List.map_nil, largeCost, amount_sampleEvidence]
    norm_num [Decimal.value]
  have hcandidate : totals asciiDigits [⟨largeCost, smallCost⟩] Costs.candidate =
      [(10 : ℚ) ^ (-72 : ℤ)] := by
    simp only [totals, List.map_cons, List.map_nil, smallCost, amount_sampleEvidence]
    norm_num [Decimal.value]
  have hthreshold : sampleFloats.toDecimal sampleArguments.gatePolicy.minimumRelativeImprovement =
      1 / 2 := rfl
  have hzero : Fits precision 0 := ⟨0, 0, by decide, by norm_num⟩
  have hfit : CostsFit asciiDigits [⟨largeCost, smallCost⟩]
      (sampleFloats.toDecimal sampleArguments.gatePolicy.minimumRelativeImprovement) := by
    refine ⟨List.forall_mem_singleton.mpr ⟨largeCost_keeps, smallCost_keeps⟩, ?_, ?_, ?_, ?_⟩
    · rw [hbaseline]
      rintro (_ | _ | n) hn
      · exact hzero
      · exact ⟨1, 63, by decide, by norm_num⟩
      · exact absurd hn (by simp)
    · rw [hcandidate]
      rintro (_ | _ | n) hn
      · exact hzero
      · exact ⟨1, -72, by decide, by norm_num⟩
      · exact absurd hn (by simp)
    · rw [hbaseline, hcandidate, List.sum_singleton, List.sum_singleton]
      exact ⟨10 ^ 135 - 1, -72, by decide, by norm_num⟩
    · rw [hbaseline, hthreshold, List.sum_singleton]
      exact ⟨5, 62, by decide, by norm_num⟩
  refine (exact_costs_decide Stdlib.cpython asciiDigits _ _ _ _ _ _
    (.cons ⟨largeCost_accepted, smallCost_accepted, rfl, rfl⟩ .nil) hfit).2.2.1.mpr ?_
  rw [hbaseline, hcandidate, hthreshold, List.sum_singleton, List.sum_singleton]
  norm_num

theorem decimalSum_pair {x y : ℚ} (hx : Fits precision x) :
    decimalSum [x, y] = roundDigits precision (x + y) := by
  rw [decimalSum, List.foldl_cons, List.foldl_cons, List.foldl_nil, zero_add,
    roundDigits_of_fits hx]

/-- The candidate costs more, and costs are found not to have risen. -/
theorem costlier_candidate_monotone : ∃ (pairs : List (Pair sampleFloats)) (costs : List Costs),
      List.Forall₂ (Carries Stdlib.cpython asciiDigits) pairs costs ∧
      (totals asciiDigits costs Costs.baseline).sum <
        (totals asciiDigits costs Costs.candidate).sum ∧
      ∀ gate costWeight, monotoneCost pairs gate costWeight = true := by
  have hall : List.Forall₂ (Carries Stdlib.cpython asciiDigits)
      [samplePair ⟨largeCost, largeCost⟩, samplePair ⟨smallCost, moreCost⟩]
      [⟨largeCost, largeCost⟩, ⟨smallCost, moreCost⟩] :=
    .cons ⟨largeCost_accepted, largeCost_accepted, rfl, rfl⟩
      (.cons ⟨smallCost_accepted, moreCost_accepted, rfl, rfl⟩ .nil)
  have hkeeps : ∀ c ∈ [Costs.mk largeCost largeCost, ⟨smallCost, moreCost⟩],
      c.baseline.Keeps asciiDigits ∧ c.candidate.Keeps asciiDigits :=
    List.forall_mem_cons.mpr ⟨⟨largeCost_keeps, largeCost_keeps⟩,
      List.forall_mem_singleton.mpr ⟨smallCost_keeps, moreCost_keeps⟩⟩
  have hbaselines : totals asciiDigits [⟨largeCost, largeCost⟩, ⟨smallCost, moreCost⟩]
      Costs.baseline = [(10 : ℚ) ^ (63 : ℤ), 10 ^ (-72 : ℤ)] := by
    simp only [totals, List.map_cons, List.map_nil, largeCost, smallCost, amount_sampleEvidence,
      Decimal.value, Nat.cast_one, one_mul]
  have hcandidates : totals asciiDigits [⟨largeCost, largeCost⟩, ⟨smallCost, moreCost⟩]
      Costs.candidate = [(10 : ℚ) ^ (63 : ℤ), ((10 ^ 54 + 1 : ℕ) : ℚ) * 10 ^ (-126 : ℤ)] := by
    simp only [totals, List.map_cons, List.map_nil, largeCost, moreCost, amount_sampleEvidence,
      Decimal.value, Nat.cast_one, one_mul]
  refine ⟨_, _, hall, ?_, fun gate costWeight => ?_⟩
  · rw [hbaselines, hcandidates]
    norm_num
  · obtain ⟨hcomplete, hb, hc⟩ := costs_carried Stdlib.cpython asciiDigits hall hkeeps
    have hfirst : Fits precision ((10 : ℚ) ^ (63 : ℤ)) :=
      ⟨1, 63, by decide, by rw [Int.cast_one, one_mul]⟩
    have hunits : (10 : ℚ) ^ (63 : ℤ) + 10 ^ (-72 : ℤ) = (10 ^ 159 + 10 ^ 24 : ℤ) * 10 ^ (-96 : ℤ) := by
      norm_num
    have hbaseline : decimalSum [(10 : ℚ) ^ (63 : ℤ), 10 ^ (-72 : ℤ)] =
        (10 ^ 159 + 10 ^ 24 : ℤ) * 10 ^ (-96 : ℤ) := by
      rw [decimalSum_pair hfirst, hunits]
      exact roundDigits_of_fits ⟨10 ^ 159 + 10 ^ 24, -96, by decide, rfl⟩
    have hcandidate : decimalSum [(10 : ℚ) ^ (63 : ℤ), ((10 ^ 54 + 1 : ℕ) : ℚ) * 10 ^ (-126 : ℤ)] =
        (10 ^ 159 + 10 ^ 24 : ℤ) * 10 ^ (-96 : ℤ) := by
      rw [decimalSum_pair hfirst]
      refine roundDigits_of_near (by decide) (by decide) (by decide) ?_ ?_
      · norm_num
      · norm_num
    simp only [monotoneCost, costEvidenceComplete, costTotal, hcomplete, if_true, hb, hc,
      hbaselines, hcandidates, hbaseline, hcandidate, Option.mem_some_iff, forall_eq', le_refl,
      decide_true, Bool.true_or, Bool.and_self]

end LocalMoe.Promotion
