/-
  On which evidence the qualifier returns a receipt.
-/
import LocalMoe.Speculative.Document
import LocalMoe.Speculative.Sound
import Mathlib.Tactic.Linarith
import Mathlib.Tactic.Positivity

namespace LocalMoe.Speculative

open Foundation Contracts

variable {plan : SpeculativeQualificationPlan} {observations : List SpeculativeTrial}

/-- Trials that the plan admits: not more than it expects, each planned once, and bound to
its cells. -/
structure Admitted (plan : SpeculativeQualificationPlan)
    (observations : List SpeculativeTrial) : Prop where
  count : observations.length ≤ plan.expectedTrialCount
  distinct : (observations.map SpeculativeTrial.key).Nodup
  planSha256 : ∀ trial ∈ observations, trial.planSha256 = plan.digest
  planned : ∀ trial ∈ observations, plan.Planned trial.key
  baseline : ∀ trial ∈ observations, trial.baseline.cellSha256 = plan.baseline.digest
  candidate : ∀ trial ∈ observations, trial.candidate.cellSha256 = plan.candidate.digest

/-! ## The loop over the trials -/

def SpeculativeQualificationPlan.orderOf (plan : SpeculativeQualificationPlan)
    (key : TrialKey) : TrialOrder :=
  if plan.parity key % 2 = 0 then .ab else .ba

/-- What a round adds. -/
def Observed.next (plan : SpeculativeQualificationPlan) (seen : Observed) (observedIndex : Nat)
    (trial : SpeculativeTrial) : Observed where
  byKey := seen.byKey ++ [trial.key]
  orderMismatches := seen.orderMismatches +
    if trial.order ≠ plan.orderOf trial.key then 1 else 0
  scheduleMismatches := seen.scheduleMismatches +
    if trial.sequenceIndex ≠ plan.position trial.key ∨ trial.sequenceIndex ≠ observedIndex then 1
    else 0

variable {trial : SpeculativeTrial}

theorem observe_of {seen : Observed} (observedIndex : Nat)
    (htrial : checkTrial plan trial = .ok ()) (hplanned : plan.Planned trial.key)
    (hfresh : trial.key ∉ seen.byKey) :
    observe plan seen observedIndex trial = .ok (seen.next plan observedIndex trial) := by
  unfold observe
  rw [htrial, ok_bind, check_of hfresh, ok_bind,
    expectedTrialOrder_eq_ok.mpr ⟨hplanned, rfl⟩, ok_bind,
    expectedTrialSequenceIndex_eq_ok.mpr ⟨hplanned, rfl⟩, ok_bind]
  rfl

theorem observeFrom_of (seen : Observed) (start : Nat)
    (htrials : ∀ trial ∈ observations, checkTrial plan trial = .ok ())
    (hplanned : ∀ trial ∈ observations, plan.Planned trial.key)
    (hdistinct : (seen.byKey ++ observations.map SpeculativeTrial.key).Nodup) :
    ∃ seen', observeFrom plan start seen observations = .ok seen' ∧
      ((∀ trial ∈ observations, trial.order = plan.orderOf trial.key) →
        seen'.orderMismatches = seen.orderMismatches) ∧
      ((∀ trial ∈ observations, trial.sequenceIndex = plan.position trial.key) →
        observations.map SpeculativeTrial.sequenceIndex = List.range' start observations.length →
        seen'.scheduleMismatches = seen.scheduleMismatches) := by
  induction observations generalizing seen start with
  | nil => exact ⟨seen, rfl, fun _ => rfl, fun _ _ => rfl⟩
  | cons trial rest ih =>
    rw [List.map_cons] at hdistinct
    have hfresh : trial.key ∉ seen.byKey := fun hmem =>
      List.disjoint_of_nodup_append hdistinct hmem List.mem_cons_self
    have hround := observe_of start (htrials trial List.mem_cons_self)
      (hplanned trial List.mem_cons_self) hfresh
    rw [List.append_cons] at hdistinct
    obtain ⟨seen', hrest, horders, hpositions⟩ := ih (seen.next plan start trial) (start + 1)
      (fun t ht => htrials t (List.mem_cons_of_mem _ ht))
      (fun t ht => hplanned t (List.mem_cons_of_mem _ ht)) hdistinct
    refine ⟨seen', bind_eq_ok.mpr ⟨_, hround, hrest⟩, fun h => ?_, fun h hindices => ?_⟩
    · have heq := h trial List.mem_cons_self
      rw [horders fun t ht => h t (List.mem_cons_of_mem _ ht)]
      simp [Observed.next, heq]
    · rw [List.map_cons, List.length_cons, List.range'_succ, List.cons.injEq] at hindices
      have heq := h trial List.mem_cons_self
      rw [hpositions (fun t ht => h t (List.mem_cons_of_mem _ ht)) hindices.2]
      simp [Observed.next, ← heq, hindices.1]

theorem Admitted.checkTrial (h : Admitted plan observations) {trial : SpeculativeTrial}
    (ht : trial ∈ observations) : checkTrial plan trial = .ok () := by
  have hcase : trial.caseSha256 ∈ plan.caseSha256s := (h.planned trial ht).1
  have hregime : trial.regime ∈ plan.requiredRegimes := mem_regimes _
  have hrepetition : trial.repetition < plan.policy.trialsPerCase := (h.planned trial ht).2
  unfold Speculative.checkTrial
  rw [check_of (h.planSha256 trial ht), ok_bind, check_of hcase, ok_bind,
    check_of hregime, ok_bind, check_of hrepetition, ok_bind,
    check_of (h.baseline trial ht), ok_bind, check_of (h.candidate trial ht)]

theorem failedArms_of_arms (h : trial.arms.isSome = true) : trial.failedArms = 0 := by
  unfold SpeculativeTrial.arms at h
  unfold SpeculativeTrial.failedArms SpeculativeArmMeasurement.success
  cases hb : trial.baseline.evidence with
  | none => simp [hb] at h
  | some baseline =>
    cases hc : trial.candidate.evidence with
    | none => simp [hb, hc] at h
    | some candidate => rfl

theorem Admitted.reasons (h : Admitted plan observations) :
    ∃ seen, observeFrom plan 0 ⟨[], 0, 0⟩ observations = .ok seen ∧
      (abstentionReasons plan observations seen = [] ↔ Complete plan observations) := by
  obtain ⟨seen, hread, horders, hpositions⟩ := observeFrom_of
    ⟨[], 0, 0⟩ 0 (fun _ => h.checkTrial) h.planned h.distinct
  refine ⟨seen, hread, complete_of_no_reasons h.count hread, fun hcomplete => ?_⟩
  have hkeys : seen.byKey = plan.schedule := by
    rw [(observeFrom_eq_ok hread).keys, List.nil_append]
    exact hcomplete.schedule.keys
  have horder : seen.orderMismatches = 0 := horders fun trial ht =>
    ((expectedTrialOrder_eq_ok.mp (hcomplete.schedule.orders trial ht)).2).symm
  have hschedule : seen.scheduleMismatches = 0 := by
    refine hpositions (fun trial ht => ?_) ?_
    · have heq : observations.map SpeculativeTrial.sequenceIndex =
          observations.map fun t => plan.position t.key := by
        rw [hcomplete.schedule.positions, ← schedule_positions, ← hcomplete.schedule.keys,
          List.map_map]
        rfl
      exact List.map_inj_left.mp heq trial ht
    · have hlength : observations.length = plan.expectedTrialCount := by
        have hlen := congrArg List.length hcomplete.schedule.keys
        rwa [List.length_map, length_schedule] at hlen
      rw [hcomplete.schedule.positions, hlength, List.range_eq_range']
  have hbalanced : isCounterbalanced observations = true := by
    refine List.all_eq_true.mpr fun regime _ => decide_eq_true ?_
    have hbalance := hcomplete.schedule.balanced regime
    unfold Balanced at hbalance
    simp only [List.count, List.countP_map]
    exact hbalance
  have hfailed : (observations.map SpeculativeTrial.failedArms).sum = 0 := by
    refine List.sum_eq_zero_iff_forall_eq_nat.mpr fun n hn => ?_
    obtain ⟨trial, ht, rfl⟩ := List.mem_map.mp hn
    exact failedArms_of_arms (hcomplete.succeeded trial ht)
  refine codesOf_eq_nil.mpr ?_
  simp only [List.mem_cons, List.not_mem_nil, or_false, forall_eq_or_imp, forall_eq,
    decide_eq_false_iff_not, not_not, Bool.or_eq_false_iff, hkeys, horder, hschedule, hbalanced,
    hfailed, Bool.not_true, and_self, and_true]
  exact List.filter_eq_nil_iff.mpr fun key hkey => by simpa using hkey

/-! ## The counts -/

theorem length_filter_regime (regime : Regime) :
    (plan.schedule.filter fun key => key.2.1 = regime).length =
      plan.caseSha256s.length * plan.policy.trialsPerCase := by
  rw [schedule_filter, List.length_flatMap]
  simp only [List.length_map, List.length_range, List.map_const', List.sum_replicate]
  rfl

variable (plan) in
theorem expectedTrialCount_eq : plan.expectedTrialCount =
    2 * (plan.caseSha256s.length * plan.policy.trialsPerCase) := by
  unfold SpeculativeQualificationPlan.expectedTrialCount
  rw [show plan.requiredRegimes.length = 2 from rfl]
  ring

variable (plan) in
theorem cases_length_pos : 0 < plan.caseSha256s.length :=
  List.length_pos_iff.mpr plan.cases_nonempty

theorem Admitted.perm (h : Admitted plan observations)
    (hall : observations.length = plan.expectedTrialCount) :
    (observations.map SpeculativeTrial.key).Perm plan.schedule := by
  refine (h.distinct.subperm fun key hkey => ?_).perm_of_length_le ?_
  · obtain ⟨trial, ht, rfl⟩ := List.mem_map.mp hkey
    exact mem_schedule.mpr (h.planned trial ht)
  · rw [length_schedule, List.length_map, hall]

theorem Admitted.regime_count (h : Admitted plan observations)
    (hall : observations.length = plan.expectedTrialCount) (regime : Regime) :
    (inRegime observations regime).length = plan.expectedTrialCount / 2 := by
  have hperm := ((h.perm hall).filter fun key => key.2.1 = regime).length_eq
  have hlength : (inRegime observations regime).length =
      ((observations.map SpeculativeTrial.key).filter fun key => key.2.1 = regime).length := by
    rw [List.filter_map, List.length_map]
    rfl
  have hexpected := expectedTrialCount_eq plan
  rw [length_filter_regime] at hperm
  omega

theorem length_regimes (observations : List SpeculativeTrial) :
    (inRegime observations .cold).length + (inRegime observations .warm).length =
      observations.length := by
  unfold inRegime
  induction observations with
  | nil => rfl
  | cons trial rest ih =>
    rw [List.filter_cons, List.filter_cons, List.length_cons]
    cases hregime : trial.regime with
    | cold | warm =>
      simp only [decide_true, if_true, decide_eq_true_eq, reduceCtorEq, if_false, List.length_cons]
      omega

theorem failedArms_le (observations : List SpeculativeTrial) :
    (observations.map SpeculativeTrial.failedArms).sum ≤ 2 * observations.length := by
  induction observations with
  | nil => exact le_rfl
  | cons trial rest ih =>
    have hone : trial.failedArms ≤ 2 := by
      unfold SpeculativeTrial.failedArms
      split <;> split <;> omega
    rw [List.map_cons, List.sum_cons, List.length_cons]
    omega

def triedCases (observations : List SpeculativeTrial) : List Digest :=
  (observations.map SpeculativeTrial.caseSha256).dedup

theorem Admitted.tried_le (h : Admitted plan observations) :
    (triedCases observations).length ≤ plan.caseSha256s.length := by
  refine ((List.nodup_dedup _).subperm fun c hc => ?_).length_le
  obtain ⟨trial, ht, rfl⟩ := List.mem_map.mp (List.mem_dedup.mp hc)
  exact (h.planned trial ht).1

theorem tried_le_length (observations : List SpeculativeTrial) :
    (triedCases observations).length ≤ observations.length := by
  have h := (List.dedup_sublist (observations.map SpeculativeTrial.caseSha256)).length_le
  rwa [List.length_map] at h

theorem tried_eq_zero (observations : List SpeculativeTrial) :
    observations.length = 0 ↔ (triedCases observations).length = 0 := by
  rw [List.length_eq_zero_iff, List.length_eq_zero_iff]
  unfold triedCases
  rw [List.dedup_eq_nil, List.map_eq_nil_iff]

theorem Admitted.tried_all (h : Admitted plan observations)
    (hall : observations.length = plan.expectedTrialCount) :
    (triedCases observations).length = plan.caseSha256s.length := by
  refine le_antisymm h.tried_le (plan.cases_nodup.subperm fun c hc => ?_).length_le
  -- a case of the plan is tried in the first repetition of its cold regime
  have hkey : (c, Regime.cold, 0) ∈ plan.schedule := mem_schedule.mpr ⟨hc, plan.policy.trials_pos⟩
  obtain ⟨trial, ht, heq⟩ := List.mem_map.mp ((h.perm hall).mem_iff.mpr hkey)
  exact List.mem_dedup.mpr (List.mem_map.mpr ⟨trial, ht, congrArg Prod.fst heq⟩)

/-! ## The receipt -/

theorem mem_sortedCodes {codes : List ReasonCode} {code : ReasonCode} :
    code ∈ sortedCodes codes ↔ code ∈ codes := by
  unfold sortedCodes
  rw [List.mem_filter, decide_eq_true_eq]
  exact and_iff_right (by cases code <;> decide)

theorem sortedCodes_sortedCodes (codes : List ReasonCode) :
    sortedCodes (sortedCodes codes) = sortedCodes codes := by
  refine List.filter_congr fun code _ => ?_
  rw [decide_eq_decide]
  exact mem_sortedCodes

theorem sortedCodes_eq_nil {codes : List ReasonCode} : sortedCodes codes = [] ↔ codes = [] := by
  rw [List.eq_nil_iff_forall_not_mem, List.eq_nil_iff_forall_not_mem]
  exact forall_congr' fun code => not_congr mem_sortedCodes

section Receipt

variable (S : Stdlib) (plan : SpeculativeQualificationPlan) (decision : Decision)
  (reasons : List ReasonCode) (observations : List SpeculativeTrial) (failedArms : Nat)
  (cold warm : Option RegimeMetrics) (candidatePeakMemoryBytes : Option Nat)

/-- The receipt before its constructor has checked it. -/
def draftReceipt : SpeculativeQualificationReceipt where
  planSha256 := plan.digest
  evidenceSha256 := evidenceSha256 S plan observations
  decision := decision
  reasonCodes := sortedCodes reasons
  expectedTrials := plan.expectedTrialCount
  expectedCases := plan.caseSha256s.length
  trialsPerCase := plan.policy.trialsPerCase
  observedTrials := observations.length
  uniqueCases := (triedCases observations).length
  coldTrials := (inRegime observations .cold).length
  warmTrials := (inRegime observations .warm).length
  failedArms := failedArms
  outputMismatches := observations.countP SpeculativeTrial.mismatch
  cold := cold
  warm := warm
  candidatePeakMemoryBytes := candidatePeakMemoryBytes

theorem receipt_eq_construct :
    receipt S plan decision reasons observations failedArms cold warm candidatePeakMemoryBytes =
      (draftReceipt S plan decision reasons observations failedArms cold warm
        candidatePeakMemoryBytes).construct := rfl

end Receipt

variable {S : Stdlib} {decision : Decision} {reasons : List ReasonCode} {failedArms : Nat}
  {cold warm : Option RegimeMetrics} {peak : Option Nat}

theorem Admitted.checkCounts (h : Admitted plan observations)
    (hfailed : failedArms ≤ 2 * observations.length) :
    (draftReceipt S plan decision reasons observations failedArms cold warm peak).checkCounts =
      .ok () := by
  have hexpected := expectedTrialCount_eq plan
  have hcases := cases_length_pos plan
  have htrials := plan.policy.trials_pos
  have hpos : 0 < plan.caseSha256s.length * plan.policy.trialsPerCase := Nat.mul_pos hcases htrials
  have htried := tried_eq_zero observations
  unfold SpeculativeQualificationReceipt.checkCounts draftReceipt
  refine check_bind_eq_ok.mpr ⟨by dsimp only; omega, check_bind_eq_ok.mpr ⟨hcases, ?_⟩⟩
  refine check_bind_eq_ok.mpr ⟨htrials, check_bind_eq_ok.mpr ⟨plan.policy.trials_le, ?_⟩⟩
  refine check_bind_eq_ok.mpr ⟨rfl, check_bind_eq_ok.mpr ⟨h.count, ?_⟩⟩
  refine check_bind_eq_ok.mpr ⟨length_regimes observations, ?_⟩
  refine check_bind_eq_ok.mpr ⟨fun hall => ⟨?_, h.regime_count hall .cold,
    h.regime_count hall .warm⟩, ?_⟩
  · rw [show regimes.length = 2 from rfl]
    dsimp only
    omega
  refine check_bind_eq_ok.mpr ⟨⟨h.tried_le, tried_le_length observations, htried⟩, ?_⟩
  refine check_bind_eq_ok.mpr ⟨h.tried_all, check_bind_eq_ok.mpr ⟨hfailed, ?_⟩⟩
  exact check_of List.countP_le_length

theorem Admitted.abstains (h : Admitted plan observations) (hne : reasons ≠ [])
    (hcodes : ∀ code ∈ reasons, code ∈ abstentionReasonCodes)
    (hincomplete : observations.length < plan.expectedTrialCount ↔ .evidenceIncomplete ∈ reasons)
    (hfailed : 0 < (observations.map SpeculativeTrial.failedArms).sum ↔
      .evidenceExecutionFailed ∈ reasons) (hmissing : .candidateAcceptanceMissing ∉ reasons) :
    (draftReceipt S plan .abstained reasons observations
        (observations.map SpeculativeTrial.failedArms).sum none none none).construct =
      .ok (draftReceipt S plan .abstained reasons observations
        (observations.map SpeculativeTrial.failedArms).sum none none none) := by
  unfold SpeculativeQualificationReceipt.construct
  refine check_bind_eq_ok.mpr ⟨⟨(sortedCodes_sortedCodes reasons).symm, ?_⟩, ?_⟩
  · exact iff_of_false (by simp [draftReceipt]) (mt sortedCodes_eq_nil.mp hne)
  rw [h.checkCounts (failedArms_le observations), ok_bind]
  have hperformance : (draftReceipt S plan .abstained reasons observations
      (observations.map SpeculativeTrial.failedArms).sum none none none).checkPerformance =
        .ok () := rfl
  rw [hperformance, ok_bind]
  refine bind_eq_ok.mpr ⟨(), ?_, rfl⟩
  unfold SpeculativeQualificationReceipt.checkDecision
  refine check_bind_eq_ok.mpr ⟨fun heq => (by cases heq), ?_⟩
  refine check_bind_eq_ok.mpr ⟨fun heq => (by cases heq), ?_⟩
  refine check_bind_eq_ok.mpr ⟨fun _ code hcode => hcodes code (mem_sortedCodes.mp hcode), ?_⟩
  refine check_bind_eq_ok.mpr ⟨hincomplete.trans mem_sortedCodes.symm, ?_⟩
  refine check_bind_eq_ok.mpr ⟨hfailed.trans mem_sortedCodes.symm, ?_⟩
  refine check_bind_eq_ok.mpr ⟨fun hmem => absurd (mem_sortedCodes.mp hmem) hmissing, ?_⟩
  exact check_of fun _ _ => rfl

/-! ## Measured evidence -/

/-- Metrics that the receipt accepts. -/
structure RegimeMetrics.Sound (metrics : RegimeMetrics) : Prop where
  speedup : 0 < metrics.medianSpeedupRatio
  latency : 0 < metrics.p95LatencyRatio
  ttft : 0 < metrics.p95TtftRatio
  rate : ∀ rate ∈ metrics.acceptanceRate, 0 ≤ rate ∧ rate ≤ 1

theorem checkPositive_of {name : String} {value : ℚ} (h : 0 < value) :
    SpeculativeQualificationReceipt.checkPositive name (some value) = .ok () := by
  refine check_bind_eq_ok.mpr ⟨fun v hv => ?_, check_of fun v hv => ?_⟩
  · cases hv
    exact h.le
  · cases hv
    exact h

theorem checkRate_of {name : String} {value : Option ℚ} (h : ∀ rate ∈ value, 0 ≤ rate ∧ rate ≤ 1) :
    SpeculativeQualificationReceipt.checkRate name value = .ok () :=
  check_bind_eq_ok.mpr ⟨fun v hv => (h v hv).1, check_of fun v hv => (h v hv).2⟩

theorem Complete.length (h : Complete plan observations) :
    observations.length = plan.expectedTrialCount := by
  have hlength := congrArg List.length h.schedule.keys
  rwa [List.length_map, length_schedule] at hlength

theorem Admitted.regime_pos (h : Admitted plan observations)
    (hcomplete : Complete plan observations) (regime : Regime) :
    (inRegime observations regime).length ≠ 0 := by
  have hpos : 0 < plan.caseSha256s.length * plan.policy.trialsPerCase :=
    Nat.mul_pos (cases_length_pos plan) plan.policy.trials_pos
  rw [h.regime_count hcomplete.length, expectedTrialCount_eq]
  omega

theorem Admitted.checkPerformance (h : Admitted plan observations)
    (hcomplete : Complete plan observations) {cold warm : RegimeMetrics} {peak : Nat}
    (hcold : cold.Sound) (hwarm : warm.Sound) :
    (draftReceipt S plan decision reasons observations 0 (some cold) (some warm)
      (some peak)).checkPerformance = .ok () := by
  have hmetrics : (draftReceipt S plan decision reasons observations 0 (some cold) (some warm)
      (some peak)).checkMetrics = .ok () := by
    refine bind_eq_ok.mpr ⟨(), checkPositive_of hcold.speedup, ?_⟩
    refine bind_eq_ok.mpr ⟨(), checkPositive_of hcold.latency, ?_⟩
    refine bind_eq_ok.mpr ⟨(), checkPositive_of hcold.ttft, ?_⟩
    refine bind_eq_ok.mpr ⟨(), checkPositive_of hwarm.speedup, ?_⟩
    refine bind_eq_ok.mpr ⟨(), checkPositive_of hwarm.latency, ?_⟩
    refine bind_eq_ok.mpr ⟨(), checkPositive_of hwarm.ttft, ?_⟩
    exact bind_eq_ok.mpr ⟨(), checkRate_of hcold.rate, checkRate_of hwarm.rate⟩
  unfold SpeculativeQualificationReceipt.checkPerformance
  rw [hmetrics, ok_bind]
  refine check_bind_eq_ok.mpr ⟨rfl, check_bind_eq_ok.mpr ⟨fun _ => ?_, ?_⟩⟩
  · exact ⟨Option.some_ne_none _, hcomplete.length, rfl, h.regime_pos hcomplete .cold,
      h.regime_pos hcomplete .warm⟩
  · exact check_of fun hnone => (by cases hnone)

theorem Admitted.measured (h : Admitted plan observations)
    (hcomplete : Complete plan observations) {cold warm : RegimeMetrics} {peak : Nat}
    (hcold : cold.Sound) (hwarm : warm.Sound) (hreasons : decision = .qualified ↔ reasons = [])
    (hknown : .evidenceIncomplete ∉ reasons ∧ .evidenceExecutionFailed ∉ reasons)
    (hdecided : decision ≠ .abstained →
      (draftReceipt S plan decision reasons observations 0 (some cold) (some warm)
        (some peak)).completeAcceptance = true ∧
      (∀ code ∈ reasons, code ∈ rejectionReasonCodes) ∧
      (0 < observations.countP SpeculativeTrial.mismatch ↔ .exactOutputMismatch ∈ reasons))
    (habstained : decision = .abstained →
      (draftReceipt S plan decision reasons observations 0 (some cold) (some warm)
        (some peak)).completeAcceptance = false ∧ reasons = [.candidateAcceptanceMissing]) :
    (draftReceipt S plan decision reasons observations 0 (some cold) (some warm)
        (some peak)).construct =
      .ok (draftReceipt S plan decision reasons observations 0 (some cold) (some warm)
        (some peak)) := by
  unfold SpeculativeQualificationReceipt.construct
  refine check_bind_eq_ok.mpr ⟨⟨(sortedCodes_sortedCodes reasons).symm,
    hreasons.trans sortedCodes_eq_nil.symm⟩, ?_⟩
  rw [h.checkCounts (Nat.zero_le _), ok_bind, h.checkPerformance hcomplete hcold hwarm, ok_bind]
  refine bind_eq_ok.mpr ⟨(), ?_, rfl⟩
  unfold SpeculativeQualificationReceipt.checkDecision
  refine check_bind_eq_ok.mpr ⟨fun hqualified => ?_, ?_⟩
  · obtain ⟨hrates, -, hmismatch⟩ :=
      hdecided (fun heq => by rw [heq] at hqualified; cases hqualified)
    refine ⟨rfl, hrates, ?_⟩
    rw [hreasons.mp hqualified] at hmismatch
    exact Nat.eq_zero_of_not_pos fun hpos => List.not_mem_nil (hmismatch.mp hpos)
  refine check_bind_eq_ok.mpr ⟨fun hrejected => ?_, ?_⟩
  · obtain ⟨hrates, hcodes, hmismatch⟩ :=
      hdecided (fun heq => by rw [heq] at hrejected; cases hrejected)
    exact ⟨rfl, hrates, fun code hcode => hcodes code (mem_sortedCodes.mp hcode),
      hmismatch.trans mem_sortedCodes.symm⟩
  refine check_bind_eq_ok.mpr ⟨fun heq code hcode => ?_, ?_⟩
  · have hmem := mem_sortedCodes.mp hcode
    rw [(habstained heq).2, List.mem_singleton] at hmem
    rw [hmem]
    decide
  refine check_bind_eq_ok.mpr ⟨iff_of_false
    (fun hlt => absurd hcomplete.length (Nat.ne_of_lt hlt)) (mt mem_sortedCodes.mp hknown.1), ?_⟩
  refine check_bind_eq_ok.mpr ⟨iff_of_false (lt_irrefl 0) (mt mem_sortedCodes.mp hknown.2), ?_⟩
  refine check_bind_eq_ok.mpr ⟨fun hmissing => ⟨rfl, ?_⟩, check_of fun hmissing heq => ?_⟩
  · by_contra hrates
    have hneither : decision ≠ .abstained := fun heq => hrates (habstained heq).1
    have hcode := (hdecided hneither).2.1 _ (mem_sortedCodes.mp hmissing)
    exact absurd hcode (by decide)
  · refine absurd (mem_sortedCodes.mpr ?_) hmissing
    rw [(habstained heq).2]
    exact List.mem_singleton_self _

/-! ## The metrics of a regime -/

theorem p95_returns {values : List ℚ} :
    (∃ x, p95 values = .ok x) ↔ values ≠ [] ∧ ∀ v ∈ values, 0 < v := by
  have hperm := List.perm_insertionSort (· ≤ ·) values
  have hsorted := List.pairwise_insertionSort (· ≤ ·) values
  have hmem : ∀ v, v ∈ List.insertionSort (· ≤ ·) values ↔ v ∈ values := fun v => hperm.mem_iff
  have hnil : List.insertionSort (· ≤ ·) values = [] ↔ values = [] := by
    rw [← List.length_eq_zero_iff, hperm.length_eq, List.length_eq_zero_iff]
  unfold p95
  generalize List.insertionSort (· ≤ ·) values = ordered at hsorted hmem hnil
  cases ordered with
  | nil =>
    refine iff_of_false (fun ⟨x, hx⟩ => (by cases hx)) fun h => h.1 (hnil.mp rfl)
  | cons first rest =>
    have hne : values ≠ [] := fun h => (by cases hnil.mpr h)
    have hfirst : first ∈ values := (hmem first).mp List.mem_cons_self
    dsimp only
    split
    · rename_i hle
      refine iff_of_false (fun ⟨x, hx⟩ => (by cases hx)) fun h => ?_
      exact absurd (h.2 first hfirst) (not_lt.mpr hle)
    · rename_i hpos
      refine iff_of_true ⟨_, rfl⟩ ⟨hne, fun v hv => ?_⟩
      rcases List.mem_cons.mp ((hmem v).mpr hv) with rfl | hrest
      · exact not_le.mp hpos
      · exact (not_le.mp hpos).trans_le (List.rel_of_pairwise_cons hsorted hrest)

theorem p95_pos {values : List ℚ} {x : ℚ} (h : p95 values = .ok x) : 0 < x :=
  (p95_returns.mp ⟨x, h⟩).2 x (p95_eq_ok h).mem

theorem median_pos {values : List ℚ} (hne : values ≠ []) (hpos : ∀ v ∈ values, 0 < v) :
    0 < median values := by
  have hperm := List.perm_insertionSort (· ≤ ·) values
  have hlength : 0 < (List.insertionSort (· ≤ ·) values).length := by
    rw [hperm.length_eq]
    exact List.length_pos_iff.mpr hne
  have hall : ∀ v ∈ List.insertionSort (· ≤ ·) values, 0 < v := fun v hv =>
    hpos v (hperm.mem_iff.mp hv)
  unfold median
  generalize List.insertionSort (· ≤ ·) values = data at hlength hall
  have hget {i : Nat} (hi : i < data.length) : 0 < data.getD i 0 := by
    rw [List.getD_eq_getElem _ _ hi]
    exact hall _ (List.getElem_mem hi)
  dsimp only
  split
  · exact hget (Nat.div_lt_self hlength (by decide))
  · have h1 := hget (i := data.length / 2 - 1) (by omega)
    have h2 := hget (i := data.length / 2) (Nat.div_lt_self hlength (by decide))
    linarith

theorem throughput_pos (arm : ArmEvidence) : 0 < throughput arm := by
  have htokens : (0 : ℚ) < arm.predictedTokens := by
    exact_mod_cast arm.tokens_pos
  have hms : 0 < arm.predictedMs := lt_of_lt_of_le (by norm_num) arm.predicted_pos
  unfold throughput
  positivity

variable (arms : List (ArmEvidence × ArmEvidence))

theorem speedups_pos : ∀ v ∈ speedups arms, 0 < v := by
  intro v hv
  obtain ⟨pair, -, rfl⟩ := List.mem_map.mp hv
  exact div_pos (throughput_pos _) (throughput_pos _)

theorem draftTotals_le : (draftTotals arms).2 ≤ (draftTotals arms).1 := by
  unfold draftTotals
  refine List.sum_le_sum fun pair _ => ?_
  cases hdraft : pair.2.draftTokens with
  | none => exact le_rfl
  | some draft => exact pair.2.draft_le draft hdraft

theorem acceptanceRate_range {arms : List (ArmEvidence × ArmEvidence)} :
    ∀ rate ∈ acceptanceRate arms, 0 ≤ rate ∧ rate ≤ 1 := by
  intro rate hrate
  obtain ⟨-, hpos, rfl⟩ := acceptanceRate_eq_some hrate
  have hle : ((draftTotals arms).2 : ℚ) ≤ (draftTotals arms).1 := by
    exact_mod_cast draftTotals_le arms
  have hgenerated : (0 : ℚ) < (draftTotals arms).1 := by exact_mod_cast hpos
  exact ⟨div_nonneg (Nat.cast_nonneg _) hgenerated.le, (div_le_one hgenerated).mpr hle⟩

/-- Both arms of a trial took some time until their first token. -/
def Timed (pair : ArmEvidence × ArmEvidence) : Prop := 0 < pair.1.ttftMs ∧ 0 < pair.2.ttftMs

variable {trials : List SpeculativeTrial}

theorem armsOf_of (h : ∀ trial ∈ trials, trial.arms.isSome) :
    armsOf trials = .ok (trials.filterMap SpeculativeTrial.arms) := by
  have hmap : trials.mapM SpeculativeTrial.arms =
      some (trials.filterMap SpeculativeTrial.arms) := by
    induction trials with
    | nil => rfl
    | cons trial rest ih =>
      obtain ⟨pair, hpair⟩ := Option.isSome_iff_exists.mp (h trial List.mem_cons_self)
      rw [List.mapM_cons, hpair, ih fun t ht => h t (List.mem_cons_of_mem _ ht),
        List.filterMap_cons_some hpair]
      rfl
  unfold armsOf
  rw [hmap]

theorem regimeMetrics_returns (hne : trials ≠ []) (h : ∀ trial ∈ trials, trial.arms.isSome) :
    (∃ metrics, regimeMetrics trials = .ok metrics) ↔
      ∀ pair ∈ trials.filterMap SpeculativeTrial.arms, Timed pair := by
  have harms := armsOf_of h
  have hnonempty : trials.filterMap SpeculativeTrial.arms ≠ [] := by
    obtain ⟨trial, ht⟩ := List.exists_mem_of_ne_nil _ hne
    obtain ⟨pair, hpair⟩ := Option.isSome_iff_exists.mp (h trial ht)
    exact List.ne_nil_of_mem (List.mem_filterMap.mpr ⟨trial, ht, hpair⟩)
  unfold regimeMetrics
  rw [check_of hne, ok_bind, harms, ok_bind]
  generalize trials.filterMap SpeculativeTrial.arms = arms at hnonempty
  have hmeasured (time : ArmEvidence × ArmEvidence → ℚ) :
      (∃ x, p95 (arms.map time) = .ok x) ↔ ∀ pair ∈ arms, 0 < time pair := by
    rw [p95_returns, List.forall_mem_map]
    exact and_iff_right (mt List.map_eq_nil_iff.mp hnonempty)
  constructor
  · rintro ⟨metrics, hm⟩ pair hpair
    obtain ⟨b, hb, hm⟩ := bind_eq_ok.mp hm
    obtain ⟨c, hc, hm⟩ := bind_eq_ok.mp hm
    obtain ⟨bt, hbt, hm⟩ := bind_eq_ok.mp hm
    obtain ⟨ct, hct, hm⟩ := bind_eq_ok.mp hm
    exact ⟨(hmeasured _).mp ⟨bt, hbt⟩ pair hpair, (hmeasured _).mp ⟨ct, hct⟩ pair hpair⟩
  · intro htimed
    obtain ⟨bt, hbt⟩ := (hmeasured (·.1.ttftMs)).mpr fun pair hp => (htimed pair hp).1
    obtain ⟨ct, hct⟩ := (hmeasured (·.2.ttftMs)).mpr fun pair hp => (htimed pair hp).2
    obtain ⟨b, hb⟩ := (hmeasured (·.1.totalLatencyMs)).mpr fun pair hp =>
      (htimed pair hp).1.trans_le pair.1.ttft_le
    obtain ⟨c, hc⟩ := (hmeasured (·.2.totalLatencyMs)).mpr fun pair hp =>
      (htimed pair hp).2.trans_le pair.2.ttft_le
    exact ⟨_, bind_eq_ok.mpr ⟨b, hb, bind_eq_ok.mpr ⟨c, hc, bind_eq_ok.mpr ⟨bt, hbt,
      bind_eq_ok.mpr ⟨ct, hct, rfl⟩⟩⟩⟩⟩

theorem regimeMetrics_sound {metrics : RegimeMetrics}
    (hne : trials.filterMap SpeculativeTrial.arms ≠ []) (h : regimeMetrics trials = .ok metrics) :
    metrics.Sound := by
  unfold regimeMetrics at h
  obtain ⟨_, h⟩ := check_bind_eq_ok.mp h
  obtain ⟨arms, harms, h⟩ := bind_eq_ok.mp h
  obtain ⟨b, hb, h⟩ := bind_eq_ok.mp h
  obtain ⟨c, hc, h⟩ := bind_eq_ok.mp h
  obtain ⟨bt, hbt, h⟩ := bind_eq_ok.mp h
  obtain ⟨ct, hct, h⟩ := bind_eq_ok.mp h
  have hspeedups : speedups arms ≠ [] := by
    rw [armsOf_eq_ok harms]
    exact mt List.map_eq_nil_iff.mp hne
  cases h
  exact ⟨median_pos hspeedups (speedups_pos arms), div_pos (p95_pos hc) (p95_pos hb),
    div_pos (p95_pos hct) (p95_pos hbt), acceptanceRate_range⟩

/-! ## The judgement -/

/-- Every arm that succeeded took some time until its first token. -/
def AllTimed (observations : List SpeculativeTrial) : Prop :=
  ∀ trial ∈ observations, ∀ pair ∈ trial.arms, Timed pair

theorem mem_inRegime {regime : Regime} :
    trial ∈ inRegime observations regime ↔ trial ∈ observations ∧ trial.regime = regime := by
  unfold inRegime
  rw [List.mem_filter, decide_eq_true_eq]

theorem Admitted.regime_returns (h : Admitted plan observations)
    (hcomplete : Complete plan observations) (regime : Regime) :
    (∃ metrics, regimeMetrics (inRegime observations regime) = .ok metrics) ↔
      ∀ trial ∈ observations, trial.regime = regime → ∀ pair ∈ trial.arms, Timed pair := by
  rw [regimeMetrics_returns (mt List.length_eq_zero_iff.mpr (h.regime_pos hcomplete regime))
    fun trial ht => hcomplete.succeeded trial (mem_inRegime.mp ht).1]
  constructor
  · intro htimed trial ht hregime pair hpair
    exact htimed pair (List.mem_filterMap.mpr ⟨trial, mem_inRegime.mpr ⟨ht, hregime⟩, hpair⟩)
  · intro htimed pair hpair
    obtain ⟨trial, ht, harms⟩ := List.mem_filterMap.mp hpair
    exact htimed trial (mem_inRegime.mp ht).1 (mem_inRegime.mp ht).2 pair harms

theorem Admitted.regime_sound (h : Admitted plan observations)
    (hcomplete : Complete plan observations) {regime : Regime} {metrics : RegimeMetrics}
    (hmetrics : regimeMetrics (inRegime observations regime) = .ok metrics) : metrics.Sound := by
  refine regimeMetrics_sound ?_ hmetrics
  obtain ⟨trial, ht⟩ := List.exists_mem_of_ne_nil _
    (mt List.length_eq_zero_iff.mpr (h.regime_pos hcomplete regime))
  obtain ⟨pair, hpair⟩ :=
    Option.isSome_iff_exists.mp (hcomplete.succeeded trial (mem_inRegime.mp ht).1)
  exact List.ne_nil_of_mem (List.mem_filterMap.mpr ⟨trial, ht, hpair⟩)

theorem mem_codesOf {conditions : List (Bool × ReasonCode)} {code : ReasonCode} :
    code ∈ codesOf conditions ↔ (true, code) ∈ conditions := by
  unfold codesOf
  rw [List.mem_map]
  constructor
  · rintro ⟨⟨holds, c⟩, hc, rfl⟩
    obtain ⟨hmem, hholds⟩ := List.mem_filter.mp hc
    cases (hholds : holds = true)
    exact hmem
  · exact fun hmem => ⟨(true, code), List.mem_filter.mpr ⟨hmem, rfl⟩, rfl⟩

variable (observations) in
theorem rejectionReasons_codes (policy : SpeculativeQualificationPolicy)
    (metrics : List RegimeMetrics) (peak : Nat) :
    (∀ code ∈ rejectionReasons policy observations metrics peak, code ∈ rejectionReasonCodes) ∧
      (0 < observations.countP SpeculativeTrial.mismatch ↔
        .exactOutputMismatch ∈ rejectionReasons policy observations metrics peak) := by
  unfold rejectionReasons
  constructor
  · intro code hcode
    have hmem := mem_codesOf.mp hcode
    simp only [List.mem_cons, List.not_mem_nil, or_false, Prod.mk.injEq] at hmem
    rcases hmem with ⟨-, rfl⟩ | ⟨-, rfl⟩ | ⟨-, rfl⟩ | ⟨-, rfl⟩ | ⟨-, rfl⟩ | ⟨-, rfl⟩ <;> decide
  · rw [mem_codesOf, Nat.pos_iff_ne_zero]
    simp only [List.mem_cons, Prod.mk.injEq, reduceCtorEq, and_false, and_true, or_false,
      List.not_mem_nil]
    exact ⟨fun h => (decide_eq_true h).symm, fun h => of_decide_eq_true h.symm⟩

variable {r : SpeculativeQualificationReceipt}

theorem receipt_constructs
    (h : receipt S plan decision reasons observations failedArms cold warm peak = .ok r) :
    r.construct = .ok r := by
  rw [receipt_eq_construct] at h
  rw [SpeculativeQualificationReceipt.construct_eq_ok h]
  rwa [SpeculativeQualificationReceipt.construct_eq_ok h] at h

theorem Admitted.judged (h : Admitted plan observations) (hcomplete : Complete plan observations) :
    (∃ r, judge S plan observations = .ok r) ↔ AllTimed observations := by
  constructor
  · rintro ⟨r, hr⟩ trial ht
    obtain ⟨cold, hcold, hr⟩ := bind_eq_ok.mp hr
    obtain ⟨warm, hwarm, _⟩ := bind_eq_ok.mp hr
    cases hregime : trial.regime with
    | cold => exact (h.regime_returns hcomplete .cold).mp ⟨cold, hcold⟩ trial ht hregime
    | warm => exact (h.regime_returns hcomplete .warm).mp ⟨warm, hwarm⟩ trial ht hregime
  · intro htimed
    obtain ⟨cold, hcold⟩ := (h.regime_returns hcomplete .cold).mpr fun t ht _ => htimed t ht
    obtain ⟨warm, hwarm⟩ := (h.regime_returns hcomplete .warm).mpr fun t ht _ => htimed t ht
    have hcoldSound := h.regime_sound hcomplete hcold
    have hwarmSound := h.regime_sound hcomplete hwarm
    unfold judge
    rw [hcold, ok_bind, hwarm, ok_bind, armsOf_of hcomplete.succeeded, ok_bind]
    generalize ((observations.filterMap SpeculativeTrial.arms).map
      (·.2.peakMemoryBytes)).foldr max 0 = peak
    split
    · rename_i hmissing
      rw [receipt_eq_construct]
      refine ⟨_, h.measured hcomplete hcoldSound hwarmSound (by simp) (by simp) (by simp)
        fun _ => ⟨?_, rfl⟩⟩
      unfold SpeculativeQualificationReceipt.completeAcceptance
      rcases hmissing with hnone | hnone <;>
        simp [draftReceipt, SpeculativeQualificationReceipt.acceptance, hnone]
    · rename_i hrates
      rw [not_or] at hrates
      have hcodes := rejectionReasons_codes observations plan.policy [cold, warm] peak
      dsimp only
      generalize rejectionReasons plan.policy observations [cold, warm] peak = reasons at hcodes
      rw [receipt_eq_construct]
      refine ⟨_, h.measured hcomplete hcoldSound hwarmSound ?_ ⟨?_, ?_⟩ (fun _ => ⟨?_, hcodes⟩)
        fun heq => ?_⟩
      · by_cases hnil : reasons = [] <;> simp [hnil]
      · exact fun hmem => absurd (hcodes.1 _ hmem) (by decide)
      · exact fun hmem => absurd (hcodes.1 _ hmem) (by decide)
      · unfold SpeculativeQualificationReceipt.completeAcceptance
        simp [draftReceipt, SpeculativeQualificationReceipt.acceptance,
          Option.isSome_iff_ne_none, hrates.1, hrates.2]
      · by_cases hnil : reasons = [] <;> simp [hnil] at heq

/-! ## The qualifier -/

variable (plan observations) in
theorem abstentionReasons_codes (seen : Observed) :
    (∀ code ∈ abstentionReasons plan observations seen, code ∈ abstentionReasonCodes) ∧
      .candidateAcceptanceMissing ∉ abstentionReasons plan observations seen ∧
      (0 < (observations.map SpeculativeTrial.failedArms).sum ↔
        .evidenceExecutionFailed ∈ abstentionReasons plan observations seen) ∧
      (plan.schedule.filter (fun key => key ∉ seen.byKey) ≠ [] ↔
        .evidenceIncomplete ∈ abstentionReasons plan observations seen) := by
  unfold abstentionReasons
  refine ⟨fun code hcode => ?_, fun hcode => ?_, ?_, ?_⟩
  · have hmem := mem_codesOf.mp hcode
    simp only [List.mem_cons, List.not_mem_nil, or_false, Prod.mk.injEq] at hmem
    rcases hmem with ⟨-, rfl⟩ | ⟨-, rfl⟩ | ⟨-, rfl⟩ | ⟨-, rfl⟩ <;> decide
  · have hmem := mem_codesOf.mp hcode
    simp only [List.mem_cons, Prod.mk.injEq, reduceCtorEq, and_false, or_false,
      List.not_mem_nil] at hmem
  · rw [mem_codesOf, Nat.pos_iff_ne_zero]
    simp only [List.mem_cons, Prod.mk.injEq, reduceCtorEq, and_false, and_true, or_false,
      false_or, List.not_mem_nil]
    exact ⟨fun h => (decide_eq_true h).symm, fun h => of_decide_eq_true h.symm⟩
  · rw [mem_codesOf]
    simp only [List.mem_cons, Prod.mk.injEq, reduceCtorEq, and_false, and_true, or_false,
      List.not_mem_nil]
    exact ⟨fun h => (decide_eq_true h).symm, fun h => of_decide_eq_true h.symm⟩

theorem Admitted.missing (h : Admitted plan observations) {seen : Observed}
    (hread : observeFrom plan 0 ⟨[], 0, 0⟩ observations = .ok seen) :
    observations.length < plan.expectedTrialCount ↔
      plan.schedule.filter (fun key => key ∉ seen.byKey) ≠ [] := by
  have hkeys : seen.byKey = observations.map SpeculativeTrial.key := by
    rw [(observeFrom_eq_ok hread).keys, List.nil_append]
  rw [ne_eq, List.filter_eq_nil_iff, hkeys]
  constructor
  · intro hlt hall
    have hcovered : ∀ key ∈ plan.schedule, key ∈ observations.map SpeculativeTrial.key := by
      intro key hkey
      by_contra hnot
      exact hall key hkey (decide_eq_true hnot)
    have hle := ((List.Nodup.of_map _ nodup_positions).subperm hcovered).length_le
    rw [length_schedule, List.length_map] at hle
    omega
  · intro hsome
    refine lt_of_le_of_ne h.count fun hall => hsome fun key hkey => ?_
    have hmem := (h.perm hall).mem_iff.mpr hkey
    simpa using hmem

theorem Admitted.qualified (h : Admitted plan observations) :
    (∃ r, qualifySpeculativeCell S plan.execution.adapterContractSha256 plan observations =
      .ok r) ↔ (Complete plan observations → AllTimed observations) := by
  obtain ⟨seen, hread, hreasons⟩ := h.reasons
  unfold qualifySpeculativeCell validateSpeculativePlanImplementation
  rw [check_of rfl, ok_bind, check_of h.count, ok_bind, hread, ok_bind]
  dsimp only
  split
  · rename_i hne
    obtain ⟨hcodes, hmissing, hfailed, hincomplete⟩ :=
      abstentionReasons_codes plan observations seen
    rw [receipt_eq_construct]
    exact iff_of_true ⟨_, h.abstains hne hcodes ((h.missing hread).trans hincomplete) hfailed
      hmissing⟩ fun hcomplete => absurd (hreasons.mpr hcomplete) hne
  · rename_i hnone
    have hcomplete := hreasons.mp (not_not.mp hnone)
    rw [h.judged hcomplete]
    exact ⟨fun htimed _ => htimed, fun himp => himp hcomplete⟩

theorem qualifySpeculativeCell_constructs {adapterSha256 : Digest}
    (h : qualifySpeculativeCell S adapterSha256 plan observations = .ok r) :
    r.construct = .ok r := by
  unfold qualifySpeculativeCell at h
  obtain ⟨_, _, h⟩ := bind_eq_ok.mp h
  obtain ⟨_, h⟩ := check_bind_eq_ok.mp h
  obtain ⟨seen, _, h⟩ := bind_eq_ok.mp h
  dsimp only at h
  split at h
  · exact receipt_constructs h
  · unfold judge at h
    obtain ⟨cold, _, h⟩ := bind_eq_ok.mp h
    obtain ⟨warm, _, h⟩ := bind_eq_ok.mp h
    obtain ⟨arms, _, h⟩ := bind_eq_ok.mp h
    split at h
    · exact receipt_constructs h
    · exact receipt_constructs h

/-- On trials that the plan admits, the qualifier returns a receipt that is read back from its
payload exactly when complete evidence has no arm without a first-token time. -/
theorem qualification_returns (S : Stdlib) (L : Conversions) (adapterSha256 : Digest)
    (plan : SpeculativeQualificationPlan)
    (hadapter : plan.execution.adapterContractSha256 = adapterSha256)
    (observations : List SpeculativeTrial) (h : Admitted plan observations) :
    (∃ r, qualifySpeculativeCell S adapterSha256 plan observations = .ok r ∧
      speculativeReceiptFromPayload L (r.payload L) = .ok r) ↔
        (Complete plan observations → AllTimed observations) := by
  subst hadapter
  rw [← h.qualified (S := S)]
  constructor
  · rintro ⟨r, hr, _⟩
    exact ⟨r, hr⟩
  · rintro ⟨r, hr⟩
    exact ⟨r, hr, speculativeReceiptFromPayload_payload L (qualifySpeculativeCell_constructs hr)⟩

/-! ## Runs -/

instance (key : TrialKey) : Decidable (plan.Planned key) :=
  inferInstanceAs (Decidable (_ ∧ _))

theorem instant_predicted : (1 : ℚ) / 1000000 ≤ 1 := by decide +kernel

theorem instant_draft : ∀ draft ∈ (none : Option (Nat × Nat)), draft.2 ≤ draft.1 :=
  fun _ h => by cases h

theorem instant_ttft : (0 : ℚ) ≤ 0 := le_rfl

/-- A trial whose candidate shows its first token at once. -/
def instantTrial (regime : Regime) (order : TrialOrder) (sequenceIndex : Nat)
    (h : sequenceIndex < maxCases * regimes.length * maxTrialsPerCase) : SpeculativeTrial :=
  { sampleTrial regime order sequenceIndex h with
    candidate := ⟨samplePlan.candidate.digest, .succeeded
      { sampleEvidence 1 instant_predicted none instant_draft with
        ttftMs := 0
        ttft_nonneg := instant_ttft
        ttft_le := by decide +kernel }⟩ }

/-- Both trials of the plan, in schedule. -/
def instantTrials : List SpeculativeTrial :=
  [instantTrial .cold .ab 0 (Nat.succ_pos _),
    instantTrial .warm .ba 1 (Nat.succ_lt_succ (Nat.succ_pos _))]

/-- Complete evidence that every contract accepts is refused. -/
theorem instantTrials_refused : Admitted samplePlan instantTrials ∧
    ∀ r, qualifySpeculativeCell Stdlib.cpython samplePlan.execution.adapterContractSha256
      samplePlan instantTrials ≠ .ok r := by
  refine ⟨⟨by decide, by decide, by decide, by decide, by decide, by decide⟩, fun r hr => ?_⟩
  have hnone : (qualifySpeculativeCell Stdlib.cpython
      samplePlan.execution.adapterContractSha256 samplePlan instantTrials).isOk = false := by
    decide +kernel
  rw [hr] at hnone
  cases hnone

mutual

/-- A value without floats, as `json.dumps` receives it. -/
def Value.json : Value → Json
  | .null | .number _ => .null
  | .bool value => .bool value
  | .int value => .int value
  | .text value => .str value
  | .list items => .arr (Value.jsonItems items)
  | .object fields => .obj (Value.jsonFields fields)

def Value.jsonItems : List Value → List Json
  | [] => []
  | item :: rest => item.json :: Value.jsonItems rest

def Value.jsonFields : List (String × Value) → List (String × Json)
  | [] => []
  | (key, value) :: rest => (key, value.json) :: Value.jsonFields rest

end

/-- The digests of documents without floats, whose texts are no numbers. -/
def Conversions.cpython : Conversions where
  str := fun _ => ""
  int := fun _ => none
  float := fun _ => none
  sha256Json := fun fields => Stdlib.cpython.sha256Json (.obj (Value.jsonFields fields))
  isSha256_sha256Json := fun _ => Stdlib.cpython.isSha256_sha256Json _

theorem qualification_returns_incomplete :
    ∃ r, qualifySpeculativeCell Stdlib.cpython samplePlan.execution.adapterContractSha256
        samplePlan (instantTrials.take 1) = .ok r ∧
      speculativeReceiptFromPayload Conversions.cpython (r.payload Conversions.cpython) =
        .ok r := by
  have hadmitted : Admitted samplePlan (instantTrials.take 1) :=
    ⟨by decide, by decide, by decide, by decide, by decide, by decide⟩
  refine (qualification_returns Stdlib.cpython Conversions.cpython _ samplePlan rfl _
    hadmitted).mpr fun hcomplete => ?_
  exact absurd hcomplete.length (by decide)

end LocalMoe.Speculative
