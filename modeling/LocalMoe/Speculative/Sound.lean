/-
  What a decision of the qualifier says about the evidence.
-/
import LocalMoe.Contracts.Sha256
import LocalMoe.Speculative.Schedule
import Mathlib.Data.List.GetD

namespace LocalMoe.Speculative

open Foundation Contracts

variable {plan : SpeculativeQualificationPlan} {observations : List SpeculativeTrial}

/-! ## The loop over the trials -/

/-- What one round of the loop establishes. -/
structure Round (plan : SpeculativeQualificationPlan) (seen : Observed) (observedIndex : Nat)
    (trial : SpeculativeTrial) (seen' : Observed) : Prop where
  planned : plan.Planned trial.key
  fresh : trial.key ∉ seen.byKey
  keys : seen'.byKey = seen.byKey ++ [trial.key]
  orders_le : seen.orderMismatches ≤ seen'.orderMismatches
  schedule_le : seen.scheduleMismatches ≤ seen'.scheduleMismatches
  order : seen'.orderMismatches = 0 → expectedTrialOrder plan trial.key = .ok trial.order
  position : seen'.scheduleMismatches = 0 →
    trial.sequenceIndex = plan.position trial.key ∧ trial.sequenceIndex = observedIndex

variable {seen : Observed} {trial : SpeculativeTrial}

theorem observe_eq_ok {seen' : Observed} {observedIndex : Nat}
    (h : observe plan seen observedIndex trial = .ok seen') :
    Round plan seen observedIndex trial seen' := by
  unfold observe at h
  obtain ⟨_, _, h⟩ := bind_eq_ok.mp h
  obtain ⟨hfresh, h⟩ := check_bind_eq_ok.mp h
  obtain ⟨order, horder, h⟩ := bind_eq_ok.mp h
  obtain ⟨index, hindex, h⟩ := bind_eq_ok.mp h
  cases h
  obtain ⟨hplanned, hposition⟩ := expectedTrialSequenceIndex_eq_ok.mp hindex
  refine ⟨hplanned, hfresh, rfl, Nat.le_add_right _ _, Nat.le_add_right _ _, fun hzero => ?_,
    fun hzero => ?_⟩
  · have heq : trial.order = order := by
      by_contra hne
      simp [hne] at hzero
    rw [heq]
    exact horder
  · have hnot : ¬ (trial.sequenceIndex ≠ index ∨ trial.sequenceIndex ≠ observedIndex) := by
      intro hne
      simp [hne] at hzero
    rw [not_or, not_not, not_not] at hnot
    exact ⟨hnot.1.trans hposition.symm, hnot.2⟩

/-- What the loop establishes from a position on. -/
structure Rounds (plan : SpeculativeQualificationPlan) (seen : Observed) (start : Nat)
    (observations : List SpeculativeTrial) (seen' : Observed) : Prop where
  planned : ∀ trial ∈ observations, plan.Planned trial.key
  keys : seen'.byKey = seen.byKey ++ observations.map SpeculativeTrial.key
  nodup : seen.byKey.Nodup → seen'.byKey.Nodup
  orders_le : seen.orderMismatches ≤ seen'.orderMismatches
  schedule_le : seen.scheduleMismatches ≤ seen'.scheduleMismatches
  orders : seen'.orderMismatches = 0 →
    ∀ trial ∈ observations, expectedTrialOrder plan trial.key = .ok trial.order
  positions : seen'.scheduleMismatches = 0 →
    observations.map SpeculativeTrial.sequenceIndex =
        (observations.map SpeculativeTrial.key).map plan.position ∧
      observations.map SpeculativeTrial.sequenceIndex = List.range' start observations.length

theorem observeFrom_eq_ok {seen' : Observed} {start : Nat}
    (h : observeFrom plan start seen observations = .ok seen') :
    Rounds plan seen start observations seen' := by
  induction observations generalizing seen start with
  | nil =>
    cases h
    exact ⟨fun _ ht => (by cases ht), (List.append_nil _).symm, id, le_rfl, le_rfl,
      fun _ _ ht => (by cases ht), fun _ => ⟨rfl, rfl⟩⟩
  | cons trial rest ih =>
    obtain ⟨next, hround, h⟩ := bind_eq_ok.mp h
    have hone := observe_eq_ok hround
    have hrest := ih h
    refine ⟨?_, ?_, fun hnodup => hrest.nodup ?_, hone.orders_le.trans hrest.orders_le,
      hone.schedule_le.trans hrest.schedule_le, fun hzero => ?_, fun hzero => ?_⟩
    · exact List.forall_mem_cons.mpr ⟨hone.planned, hrest.planned⟩
    · rw [hrest.keys, hone.keys, List.append_assoc]
      rfl
    · rw [hone.keys]
      exact List.nodup_append.mpr ⟨hnodup, List.nodup_singleton _, fun a ha b hb hab =>
        hone.fresh (List.mem_singleton.mp hb ▸ hab ▸ ha)⟩
    · exact List.forall_mem_cons.mpr
        ⟨hone.order (Nat.le_zero.mp (hzero ▸ hrest.orders_le)), hrest.orders hzero⟩
    · obtain ⟨hposition, hindex⟩ := hone.position (Nat.le_zero.mp (hzero ▸ hrest.schedule_le))
      obtain ⟨hpositions, hindices⟩ := hrest.positions hzero
      rw [List.map_cons, List.map_cons, List.map_cons, List.length_cons, List.range'_succ]
      exact ⟨by rw [hpositions, hposition], by rw [hindices, hindex]⟩

/-! ## Complete evidence -/

theorem codesOf_eq_nil {conditions : List (Bool × ReasonCode)} :
    codesOf conditions = [] ↔ ∀ c ∈ conditions, c.1 = false := by
  unfold codesOf
  rw [List.map_eq_nil_iff, List.filter_eq_nil_iff]
  exact forall₂_congr fun c _ => by rw [Bool.not_eq_true]

/-- The evidence covers the schedule and every arm succeeded. -/
structure Complete (plan : SpeculativeQualificationPlan)
    (observations : List SpeculativeTrial) : Prop where
  schedule : InSchedule plan observations
  succeeded : ∀ trial ∈ observations, trial.arms.isSome = true

theorem arms_isSome_of_failedArms (h : trial.failedArms = 0) : trial.arms.isSome = true := by
  unfold SpeculativeTrial.failedArms SpeculativeArmMeasurement.success at h
  unfold SpeculativeTrial.arms
  cases hb : trial.baseline.evidence with
  | none => simp [hb] at h
  | some baseline =>
    cases hc : trial.candidate.evidence with
    | none => simp [hc] at h
    | some candidate => rfl

theorem complete_of_no_reasons (hcount : observations.length ≤ plan.expectedTrialCount)
    (hread : observeFrom plan 0 ⟨[], 0, 0⟩ observations = .ok seen)
    (hnone : abstentionReasons plan observations seen = []) : Complete plan observations := by
  have hloop := observeFrom_eq_ok hread
  obtain ⟨hmissing, horders, hschedule, hfailed⟩ :
      plan.schedule.filter (fun key => key ∉ seen.byKey) = [] ∧ seen.orderMismatches = 0 ∧
        seen.scheduleMismatches = 0 ∧
        (observations.map SpeculativeTrial.failedArms).sum = 0 := by
    have h := codesOf_eq_nil.mp hnone
    simp only [List.mem_cons, List.not_mem_nil, or_false, forall_eq_or_imp, forall_eq,
      decide_eq_false_iff_not, not_not, Bool.or_eq_false_iff] at h
    exact ⟨h.1, h.2.1.1, h.2.2.1, h.2.2.2⟩
  have hkeys : seen.byKey = observations.map SpeculativeTrial.key := by
    rw [hloop.keys, List.nil_append]
  -- no key is missing, so the trials are as many as the schedule
  have hcovered : ∀ key ∈ plan.schedule, key ∈ observations.map SpeculativeTrial.key := by
    intro key hkey
    rw [← hkeys]
    by_contra hnot
    exact List.filter_eq_nil_iff.mp hmissing key hkey (decide_eq_true hnot)
  have hlength : observations.length = plan.expectedTrialCount := by
    refine le_antisymm hcount ?_
    have h := (List.Nodup.of_map _ nodup_positions).subperm hcovered |>.length_le
    rwa [length_schedule, List.length_map] at h
  obtain ⟨hpositions, hindices⟩ := hloop.positions hschedule
  have hrange : observations.map SpeculativeTrial.sequenceIndex =
      List.range plan.expectedTrialCount := by
    rw [hindices, hlength, List.range_eq_range']
  refine ⟨⟨?_, hrange, hloop.orders horders⟩, fun trial ht => ?_⟩
  · refine eq_of_map_eq nodup_positions (fun key hkey => ?_) (fun _ h => h) ?_
    · obtain ⟨trial, ht, rfl⟩ := List.mem_map.mp hkey
      exact mem_schedule.mpr (hloop.planned trial ht)
    · rw [← hpositions, hrange, schedule_positions]
  · exact arms_isSome_of_failedArms
      (List.sum_eq_zero_iff_forall_eq_nat.mp hfailed _ (List.mem_map_of_mem ht))

/-! ## The metrics of a regime -/

/-- What the metrics of a regime must be for a policy. -/
structure RegimeMeets (policy : SpeculativeQualificationPolicy)
    (arms : List (ArmEvidence × ArmEvidence)) : Prop where
  speedup : policy.minimumMedianSpeedupRatio ≤ median (speedups arms)
  latency : ∃ baseline candidate,
    NearestRank 95 100 (arms.map (·.1.totalLatencyMs)) baseline ∧
      NearestRank 95 100 (arms.map (·.2.totalLatencyMs)) candidate ∧
      candidate / baseline ≤ policy.maximumP95LatencyRatio
  ttft : ∃ baseline candidate,
    NearestRank 95 100 (arms.map (·.1.ttftMs)) baseline ∧
      NearestRank 95 100 (arms.map (·.2.ttftMs)) candidate ∧
      candidate / baseline ≤ policy.maximumP95TtftRatio
  counted : ∀ pair ∈ arms, pair.2.draftTokens ≠ none
  drafted : 0 < (draftTotals arms).1
  acceptance : policy.minimumAcceptanceRate ≤ (draftTotals arms).2 / (draftTotals arms).1

theorem p95_eq_ok {values : List ℚ} {x : ℚ} (h : p95 values = .ok x) :
    NearestRank 95 100 values x := by
  have hperm := List.perm_insertionSort (· ≤ ·) values
  have hsorted := List.pairwise_insertionSort (· ≤ ·) values
  unfold p95 at h
  generalize List.insertionSort (· ≤ ·) values = ordered at h hperm hsorted
  refine NearestRank.perm hperm ?_
  cases ordered with
  | nil => cases h
  | cons first rest =>
    have hlt : (95 * (first :: rest).length + 99) / 100 - 1 < (first :: rest).length := by
      rw [List.length_cons]
      omega
    simp only at h
    split at h
    · cases h
    · rw [List.getD_eq_getElem _ _ hlt] at h
      cases h
      refine nearestRank_of_sorted hsorted hlt ?_ ?_ <;> rw [List.length_cons] <;> omega

variable {arms : List (ArmEvidence × ArmEvidence)}

theorem armsOf_eq_ok (h : armsOf observations = .ok arms) :
    arms = observations.filterMap SpeculativeTrial.arms := by
  unfold armsOf at h
  cases hmap : observations.mapM SpeculativeTrial.arms with
  | none => rw [hmap] at h; cases h
  | some arms' =>
    rw [hmap] at h
    cases h
    induction observations generalizing arms with
    | nil =>
      rw [List.mapM_nil] at hmap
      exact (Option.some.inj hmap).symm
    | cons trial rest ih =>
      rw [List.mapM_cons] at hmap
      obtain ⟨pair, hpair, hmap⟩ := Option.bind_eq_some_iff.mp hmap
      obtain ⟨others, hothers, hmap⟩ := Option.bind_eq_some_iff.mp hmap
      cases hmap
      rw [List.filterMap_cons_some hpair, ← ih hothers]

def regimeArms (observations : List SpeculativeTrial) (regime : Regime) :
    List (ArmEvidence × ArmEvidence) :=
  (inRegime observations regime).filterMap SpeculativeTrial.arms

/-- The metrics are those of the regime's own trials. -/
structure MetricsOf (arms : List (ArmEvidence × ArmEvidence)) (metrics : RegimeMetrics) :
    Prop where
  speedup : metrics.medianSpeedupRatio = median (speedups arms)
  latency : ∃ baseline candidate,
    NearestRank 95 100 (arms.map (·.1.totalLatencyMs)) baseline ∧
      NearestRank 95 100 (arms.map (·.2.totalLatencyMs)) candidate ∧
      metrics.p95LatencyRatio = candidate / baseline
  ttft : ∃ baseline candidate,
    NearestRank 95 100 (arms.map (·.1.ttftMs)) baseline ∧
      NearestRank 95 100 (arms.map (·.2.ttftMs)) candidate ∧
      metrics.p95TtftRatio = candidate / baseline
  acceptance : metrics.acceptanceRate = acceptanceRate arms

theorem regimeMetrics_eq_ok {regime : Regime} {metrics : RegimeMetrics}
    (h : regimeMetrics (inRegime observations regime) = .ok metrics) :
    MetricsOf (regimeArms observations regime) metrics := by
  unfold regimeMetrics at h
  obtain ⟨_, h⟩ := check_bind_eq_ok.mp h
  obtain ⟨arms, harms, h⟩ := bind_eq_ok.mp h
  obtain ⟨b, hb, h⟩ := bind_eq_ok.mp h
  obtain ⟨c, hc, h⟩ := bind_eq_ok.mp h
  obtain ⟨bt, hbt, h⟩ := bind_eq_ok.mp h
  obtain ⟨ct, hct, h⟩ := bind_eq_ok.mp h
  have heq : arms = regimeArms observations regime := armsOf_eq_ok harms
  subst heq
  cases h
  exact ⟨rfl, ⟨b, c, p95_eq_ok hb, p95_eq_ok hc, rfl⟩,
    ⟨bt, ct, p95_eq_ok hbt, p95_eq_ok hct, rfl⟩, rfl⟩

theorem acceptanceRate_eq_some {rate : ℚ} (h : acceptanceRate arms = some rate) :
    (∀ pair ∈ arms, pair.2.draftTokens ≠ none) ∧ 0 < (draftTotals arms).1 ∧
      rate = (draftTotals arms).2 / (draftTotals arms).1 := by
  unfold acceptanceRate at h
  split at h
  · cases h
  · rename_i hnot
    rw [not_or, not_exists] at hnot
    exact ⟨fun pair hpair hnone => hnot.1 pair ⟨hpair, hnone⟩, Nat.pos_of_ne_zero hnot.2,
      (Option.some.inj h).symm⟩

theorem MetricsOf.meets {policy : SpeculativeQualificationPolicy} {metrics : RegimeMetrics}
    (h : MetricsOf arms metrics) (hrate : metrics.acceptanceRate ≠ none)
    (hspeedup : ¬ metrics.medianSpeedupRatio < policy.minimumMedianSpeedupRatio)
    (hlatency : ¬ policy.maximumP95LatencyRatio < metrics.p95LatencyRatio)
    (httft : ¬ policy.maximumP95TtftRatio < metrics.p95TtftRatio)
    (haccepted : acceptanceBelow policy metrics = false) : RegimeMeets policy arms := by
  obtain ⟨rate, hsome⟩ := Option.ne_none_iff_exists'.mp hrate
  obtain ⟨hcounted, hdrafted, heq⟩ := acceptanceRate_eq_some (h.acceptance ▸ hsome)
  obtain ⟨b, c, hb, hc, hratio⟩ := h.latency
  obtain ⟨bt, ct, hbt, hct, htratio⟩ := h.ttft
  refine ⟨h.speedup ▸ not_lt.mp hspeedup, ⟨b, c, hb, hc, hratio ▸ not_lt.mp hlatency⟩,
    ⟨bt, ct, hbt, hct, htratio ▸ not_lt.mp httft⟩, hcounted, hdrafted, ?_⟩
  unfold acceptanceBelow at haccepted
  rw [hsome] at haccepted
  rw [← heq]
  exact not_lt.mp (of_decide_eq_false haccepted)

/-! ## The decision -/

/-- What the evidence of a qualified cell is. -/
structure Qualifying (plan : SpeculativeQualificationPlan)
    (observations : List SpeculativeTrial) : Prop where
  schedule : InSchedule plan observations
  outputs : ∀ trial ∈ observations, ∃ baseline candidate,
    trial.arms = some (baseline, candidate) ∧
      baseline.outputSha256 = candidate.outputSha256 ∧
      baseline.predictedTokens = candidate.predictedTokens
  regimes : ∀ regime, RegimeMeets plan.policy (regimeArms observations regime)
  memory : ∀ trial ∈ observations, ∀ pair ∈ trial.arms,
    pair.2.peakMemoryBytes ≤ plan.policy.maximumCandidatePeakMemoryBytes

variable {S : Stdlib} {adapterSha256 : Digest}

variable {r : SpeculativeQualificationReceipt}

theorem receipt_decision {decision : Decision} {reasons : List ReasonCode} {failedArms : Nat}
    {cold warm : Option RegimeMetrics} {peak : Option Nat}
    (h : receipt S plan decision reasons observations failedArms cold warm peak = .ok r) :
    r.decision = decision := by
  rw [SpeculativeQualificationReceipt.construct_eq_ok h]

theorem outputs_equal (harms : trial.arms.isSome = true) (h : trial.mismatch = false) :
    ∃ baseline candidate, trial.arms = some (baseline, candidate) ∧
      baseline.outputSha256 = candidate.outputSha256 ∧
      baseline.predictedTokens = candidate.predictedTokens := by
  obtain ⟨⟨baseline, candidate⟩, hsome⟩ := Option.isSome_iff_exists.mp harms
  unfold SpeculativeTrial.mismatch at h
  rw [hsome] at h
  have hnot := of_decide_eq_false h
  rw [not_or, not_not, not_not] at hnot
  exact ⟨baseline, candidate, hsome, hnot⟩

theorem le_foldr_max {l : List Nat} {n : Nat} (h : n ∈ l) : n ≤ l.foldr max 0 := by
  induction l with
  | nil => cases h
  | cons first rest ih =>
    rcases List.mem_cons.mp h with rfl | hrest
    · exact Nat.le_max_left _ _
    · exact (ih hrest).trans (Nat.le_max_right _ _)

theorem judge_qualified (hcomplete : Complete plan observations)
    (h : judge S plan observations = .ok r) (hqualified : r.decision = .qualified) :
    Qualifying plan observations := by
  unfold judge at h
  obtain ⟨cold, hcold, h⟩ := bind_eq_ok.mp h
  obtain ⟨warm, hwarm, h⟩ := bind_eq_ok.mp h
  obtain ⟨arms, harms, h⟩ := bind_eq_ok.mp h
  split at h
  · rw [receipt_decision h] at hqualified
    cases hqualified
  · rename_i hrates
    rw [not_or] at hrates
    have hnone : rejectionReasons plan.policy observations [cold, warm]
        ((arms.map (·.2.peakMemoryBytes)).foldr max 0) = [] := by
      by_contra hne
      rw [receipt_decision h, if_pos hne] at hqualified
      cases hqualified
    have hreasons := codesOf_eq_nil.mp hnone
    simp only [List.mem_cons, List.not_mem_nil, or_false, forall_eq_or_imp, forall_eq,
      decide_eq_false_iff_not, not_not, List.any_cons, List.any_nil, Bool.or_false,
      Bool.or_eq_false_iff] at hreasons
    obtain ⟨houtputs, hspeedup, hlatency, httft, hmemory, haccepted⟩ := hreasons
    refine ⟨hcomplete.schedule, fun trial ht => ?_, fun regime => ?_, fun trial ht pair hp => ?_⟩
    · exact outputs_equal (hcomplete.succeeded trial ht)
        (Bool.eq_false_iff.mpr (List.countP_eq_zero.mp houtputs trial ht))
    · cases regime with
      | cold =>
        exact (regimeMetrics_eq_ok hcold).meets hrates.1 hspeedup.1 hlatency.1 httft.1 haccepted.1
      | warm =>
        exact (regimeMetrics_eq_ok hwarm).meets hrates.2 hspeedup.2 hlatency.2 httft.2 haccepted.2
    · have hpair : pair ∈ arms := by
        rw [armsOf_eq_ok harms]
        exact List.mem_filterMap.mpr ⟨trial, ht, hp⟩
      exact (le_foldr_max (List.mem_map_of_mem hpair)).trans (not_lt.mp hmemory)

theorem qualifySpeculativeCell_eq_ok
    (h : qualifySpeculativeCell S adapterSha256 plan observations = .ok r) :
    r.decision = .abstained ∨
      (Complete plan observations ∧ judge S plan observations = .ok r) := by
  unfold qualifySpeculativeCell at h
  obtain ⟨_, _, h⟩ := bind_eq_ok.mp h
  obtain ⟨hcount, h⟩ := check_bind_eq_ok.mp h
  obtain ⟨seen, hread, h⟩ := bind_eq_ok.mp h
  dsimp only at h
  split at h
  · exact .inl (receipt_decision h)
  · rename_i hnone
    exact .inr ⟨complete_of_no_reasons hcount hread (not_not.mp hnone), h⟩

/-! ## A cell that qualifies -/

def sampleDigest (c : Char) (h : isSha256 (String.ofList (List.replicate 64 c)) = true) : Digest :=
  ⟨String.ofList (List.replicate 64 c), h⟩

def samplePolicy : SpeculativeQualificationPolicy where
  trialsPerCase := 1
  minimumMedianSpeedupRatio := 11 / 10
  maximumP95LatencyRatio := 1
  maximumP95TtftRatio := 21 / 20
  minimumAcceptanceRate := 1 / 20
  maximumCandidatePeakMemoryBytes := 1000
  trials_pos := Nat.one_pos
  trials_le := by decide
  speedup_range := by decide +kernel
  latency_range := by decide +kernel
  ttft_range := by decide +kernel
  acceptance_range := by decide +kernel
  memory_pos := by decide

def samplePlan : SpeculativeQualificationPlan where
  execution := ⟨sampleDigest 'a' (Eq.refl true)⟩
  baseline := ⟨sampleDigest 'b' (by decide +kernel)⟩
  candidate := ⟨sampleDigest 'c' (by decide +kernel)⟩
  caseSha256s := [sampleDigest 'd' (by decide +kernel)]
  orderSeedSha256 := sampleDigest '0' (by decide +kernel)
  policy := samplePolicy
  digest := sampleDigest 'e' (by decide +kernel)
  cells_differ := by decide +kernel
  cases_nonempty := by decide
  cases_bounded := by decide
  cases_nodup := List.nodup_singleton _
  cases_sorted := List.pairwise_singleton _ _

def sampleEvidence (predictedMs : ℚ) (h : 1 / 1000000 ≤ predictedMs)
    (draftTokens : Option (Nat × Nat)) (hdraft : ∀ draft ∈ draftTokens, draft.2 ≤ draft.1) :
    ArmEvidence where
  outputSha256 := sampleDigest 'f' (by decide +kernel)
  ttftMs := 1
  totalLatencyMs := 2
  predictedTokens := 10
  predictedMs := predictedMs
  peakMemoryBytes := 1000
  draftTokens := draftTokens
  ttft_nonneg := by decide +kernel
  ttft_le := by decide +kernel
  tokens_pos := Nat.succ_pos 9
  predicted_pos := h
  memory_pos := by decide
  draft_le := hdraft

def sampleTrial (regime : Regime) (order : TrialOrder) (sequenceIndex : Nat)
    (h : sequenceIndex < maxCases * regimes.length * maxTrialsPerCase) : SpeculativeTrial where
  planSha256 := samplePlan.digest
  sequenceIndex := sequenceIndex
  caseSha256 := sampleDigest 'd' (by decide +kernel)
  repetition := 0
  regime := regime
  order := order
  baseline := ⟨samplePlan.baseline.digest,
    .succeeded (sampleEvidence 2 (by decide +kernel) none (fun _ h => by cases h))⟩
  candidate := ⟨samplePlan.candidate.digest,
    .succeeded (sampleEvidence 1 (by decide +kernel) (some (4, 3))
      (fun _ h => by cases h; decide))⟩
  digest := sampleDigest '1' (by decide +kernel)
  index_lt := h
  repetition_lt := by decide

def sampleTrials : List SpeculativeTrial :=
  [sampleTrial .cold .ab 0 (by decide), sampleTrial .warm .ba 1 (by decide)]

theorem sampleTrials_qualified : ∃ r, qualifySpeculativeCell Stdlib.cpython
    samplePlan.execution.adapterContractSha256 samplePlan sampleTrials = .ok r ∧
      r.decision = .qualified := by
  have h : (qualifySpeculativeCell Stdlib.cpython samplePlan.execution.adapterContractSha256
      samplePlan sampleTrials).map SpeculativeQualificationReceipt.decision =
        .ok .qualified := by decide +kernel
  obtain ⟨r, hr, hdecision⟩ := map_eq_ok.mp h
  exact ⟨r, hr, hdecision⟩

/-- The schedule numbers the planned keys without gaps and balances every regime; a cell is
qualified only on complete evidence in schedule that meets the policy in each regime, and
rejected only on complete evidence in schedule. -/
theorem qualification_sound (S : Stdlib) (adapterSha256 : Digest)
    (plan : SpeculativeQualificationPlan) :
    ((∀ key, plan.Planned key → ∃ index < plan.expectedTrialCount,
        expectedTrialSequenceIndex plan key = .ok index) ∧
      ∀ index < plan.expectedTrialCount, ∃! key, plan.Planned key ∧
        expectedTrialSequenceIndex plan key = .ok index) ∧
    (∀ observations, InSchedule plan observations → ∀ regime, Balanced observations regime) ∧
    ∀ observations r, qualifySpeculativeCell S adapterSha256 plan observations = .ok r →
      (r.decision = .qualified → Qualifying plan observations) ∧
      (r.decision = .rejected → Complete plan observations) := by
  refine ⟨⟨fun key hkey => ?_, fun index hindex => ?_⟩, fun _ h => h.balanced, ?_⟩
  · exact ⟨plan.position key, position_lt hkey, expectedTrialSequenceIndex_eq_ok.mpr ⟨hkey, rfl⟩⟩
  · obtain ⟨key, hkey, hposition⟩ := exists_position hindex
    refine ⟨key, ⟨hkey, expectedTrialSequenceIndex_eq_ok.mpr ⟨hkey, hposition⟩⟩, ?_⟩
    rintro other ⟨hother, heq⟩
    exact position_injective hother hkey
      ((expectedTrialSequenceIndex_eq_ok.mp heq).2.trans hposition.symm)
  · intro observations r h
    refine ⟨fun hqualified => ?_, fun hrejected => ?_⟩
    · rcases qualifySpeculativeCell_eq_ok h with habstained | ⟨hcomplete, hjudge⟩
      · rw [habstained] at hqualified
        cases hqualified
      · exact judge_qualified hcomplete hjudge hqualified
    · rcases qualifySpeculativeCell_eq_ok h with habstained | ⟨hcomplete, _⟩
      · rw [habstained] at hrejected
        cases hrejected
      · exact hcomplete

theorem sampleTrials_sound : Qualifying samplePlan sampleTrials := by
  obtain ⟨r, hr, hdecision⟩ := sampleTrials_qualified
  exact ((qualification_sound Stdlib.cpython samplePlan.execution.adapterContractSha256
    samplePlan).2.2 sampleTrials r hr).1 hdecision

end LocalMoe.Speculative
