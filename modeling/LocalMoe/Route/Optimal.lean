/-
  A recommendation is permitted, meets the floors of its profile, and has the greatest utility
  of all routes that do.
-/
import LocalMoe.Route.Recommend
import LocalMoe.Speculative.Total

namespace LocalMoe.Route

open Foundation Contracts
open Canary (RoutePlan Difficulty DecisionRoute profileNames)
open Speculative (Conversions)

/-! ## Constructors -/

namespace CandidateRouteScore

/-- A candidate that its constructor accepts as it is. -/
structure Valid (c : CandidateRouteScore) : Prop where
  success : ∀ q ∈ c.successRate, 0 ≤ q ∧ q ≤ 1
  latency : ∀ q ∈ c.p95LatencyMs, 0 ≤ q
  tokens : ∀ q ∈ c.meanTokens, 0 ≤ q
  cost : ∀ q ∈ c.meanCostUsd, 0 ≤ q
  premium : ∀ q ∈ c.meanPremiumCalls, 0 ≤ q
  egress : ∀ q ∈ c.meanEgressChars, 0 ≤ q
  identifiers : Identifiers c.rejectionCodes
  evidence : c.checkEvidence = .ok ()
  pareto : c.paretoEligible = true →
    c.hardEligible = true ∧ c.utility ≠ none ∧ c.rejectionCodes = []
  ineligible : c.hardEligible = false →
    c.paretoEligible = false ∧ c.utility = none ∧ c.rejectionCodes ≠ []

theorem Valid.construct {c : CandidateRouteScore} (h : c.Valid) : c.construct = .ok c := by
  unfold CandidateRouteScore.construct checkNonNegative
  rw [check_of fun q hq => (h.success q hq).1, ok_bind,
    check_of fun q hq => (h.success q hq).2, ok_bind, check_of h.latency, ok_bind,
    check_of h.tokens, ok_bind, check_of h.cost, ok_bind, check_of h.premium, ok_bind,
    check_of h.egress, ok_bind, requireIdentifierTuple_of h.identifiers, ok_bind, h.evidence,
    ok_bind, check_of h.pareto, ok_bind, check_of h.ineligible]
  rfl

end CandidateRouteScore

def candidateOf (route : RoutePlan) (entry : Option RouteScorecardEntry) (hardEligible : Bool)
    (utility : Option ℚ) (paretoEligible : Bool) (rejections : List String) :
    CandidateRouteScore where
  route := route
  hardEligible := hardEligible
  paretoEligible := paretoEligible
  utility := utility
  verifiedSamples := entry.map RouteScorecardEntry.verifiedSamples
  successRate := entry.map RouteScorecardEntry.successRate
  p95LatencyMs := entry.map RouteScorecardEntry.p95LatencyMs
  meanTokens := entry.map RouteScorecardEntry.meanTokens
  costSampleCount := entry.map RouteScorecardEntry.costSampleCount
  meanCostUsd := entry.bind RouteScorecardEntry.meanCostUsd
  meanPremiumCalls := entry.map RouteScorecardEntry.meanPremiumCalls
  meanEgressChars := entry.map RouteScorecardEntry.meanEgressChars
  rejectionCodes := rejections

variable {route : RoutePlan}

theorem candidateOf_valid {entry : Option RouteScorecardEntry} {hardEligible : Bool}
    {utility : Option ℚ} {paretoEligible : Bool} {rejections : List String}
    (hids : Identifiers rejections)
    (hpareto : paretoEligible = true → hardEligible = true ∧ utility ≠ none ∧ rejections = [])
    (hhard : hardEligible = false → paretoEligible = false ∧ utility = none ∧ rejections ≠ []) :
    (candidateOf route entry hardEligible utility paretoEligible rejections).Valid := by
  cases entry with
  | none =>
    refine ⟨?_, ?_, ?_, ?_, ?_, ?_, hids, rfl, hpareto, hhard⟩ <;> exact fun q hq => by cases hq
  | some entry =>
    refine ⟨?_, ?_, ?_, entry.cost_nonneg, ?_, ?_, hids, ?_, hpareto, hhard⟩
    · rintro q ⟨⟩
      exact entry.success_range
    · rintro q ⟨⟩
      exact entry.latency_nonneg
    · rintro q ⟨⟩
      exact entry.tokens_nonneg
    · rintro q ⟨⟩
      exact entry.premium_nonneg
    · rintro q ⟨⟩
      exact entry.egress_nonneg
    · change (do
        check (entry.verifiedSamples ≠ 0) _
        check _ _
        check (entry.costSampleCount ≤ entry.verifiedSamples) _
        check (entry.costSampleCount = 0 ↔ entry.meanCostUsd = none) _) = Except.ok ()
      rw [check_of entry.samples_pos.ne', ok_bind, check_of, ok_bind,
        check_of entry.cost_samples, ok_bind, check_of entry.cost_present]
      exact ⟨rfl, rfl, rfl, rfl, rfl⟩

/-! ## Flags -/

variable {flags : List (Bool × String)}

theorem flagged_identifiers (h : Identifiers (flags.map Prod.snd)) :
    Identifiers (flagged flags) := by
  have hsub : (flagged flags).Sublist (flags.map Prod.snd) := List.filter_sublist.map Prod.snd
  exact ⟨fun item hitem => h.1 item (hsub.subset hitem), h.2.sublist hsub⟩

theorem eraseDups_of_nodup {items : List String} (h : items.Nodup) : items.eraseDups = items := by
  induction items with
  | nil => rfl
  | cons item items ih =>
    obtain ⟨hitem, hitems⟩ := List.nodup_cons.mp h
    have hkeep : items.filter (fun other => !other == item) = items :=
      List.filter_eq_self.mpr fun other hother => by
        have hne : other ≠ item := fun heq => hitem (heq ▸ hother)
        simp [hne]
    rw [List.eraseDups_cons, hkeep, ih hitems]

theorem flagged_eq_nil : flagged flags = [] ↔ ∀ flag ∈ flags, flag.1 = false := by
  unfold flagged
  rw [List.map_eq_nil_iff, List.filter_eq_nil_iff]
  exact forall₂_congr fun flag _ => Bool.not_eq_true flag.1 |>.to_iff

/-! ## Routes that are permitted and meet the floors -/

/-- Nothing of the receipt or the profile rules the route out. -/
structure Permitted (receipt : RouteReceipt) (profile : String) (route : RoutePlan) : Prop where
  gaps : usesLocal route = true → receipt.localGaps = []
  remote : usesRemote route = true → profile ≠ "offline" ∧ receipt.premiumGaps = [] ∧
    receipt.remoteAllowed = true ∧ 0 < receipt.premiumCallBudget

structure Meets (profile : RouteProfilePolicy) (entry : RouteScorecardEntry) : Prop where
  samples : profile.minSamples ≤ entry.verifiedSamples
  cost : 0 < profile.weights.cost →
    entry.meanCostUsd ≠ none ∧ entry.verifiedSamples ≤ entry.costSampleCount
  success : profile.minSuccessRate ≤ entry.successRate

/-- The metrics of the positive weights, the greater the better. -/
def metrics (weights : RoutePolicyWeights) : List (RouteScorecardEntry → ℚ) :=
  ([(weights.quality, fun entry => entry.successRate),
    (weights.cost, fun entry => -(entry.meanCostUsd.getD 0)),
    (weights.latency, fun entry => -entry.p95LatencyMs),
    (weights.egress, fun entry => -entry.meanEgressChars),
    (weights.premium, fun entry => -entry.meanPremiumCalls)].filter
      fun metric => 0 < metric.1).map Prod.snd

/-- An entry is nowhere worse than another on the metrics that have a weight, and somewhere
better. -/
def Dominates (weights : RoutePolicyWeights) (left right : RouteScorecardEntry) : Prop :=
  (∀ metric ∈ metrics weights, metric right ≤ metric left) ∧
    ∃ metric ∈ metrics weights, metric right < metric left

def utilityOf (profile : RouteProfilePolicy) (normalization : RoutePolicyNormalization)
    (entry : RouteScorecardEntry) : ℚ :=
  roundPlaces 12 ((profile.weights.quality * entry.successRate -
    (profile.weights.cost * unit (entry.meanCostUsd.getD 0 / normalization.costUsd) +
      profile.weights.latency * unit (entry.p95LatencyMs / normalization.latencyMs) +
      profile.weights.egress * unit (entry.meanEgressChars / normalization.egressChars) +
      profile.weights.premium * unit (entry.meanPremiumCalls / normalization.premiumCalls))) /
    profile.weights.total)

/-- A route that is permitted, with its entry, which meets the floors. -/
structure Acceptable (receipt : RouteReceipt) (signals : TaskSignals)
    (scorecard : RouteScorecard) (profile : String) (profilePolicy : RouteProfilePolicy)
    (route : RoutePlan) (entry : RouteScorecardEntry) : Prop where
  permitted : Permitted receipt profile route
  found : scorecard.conservativeEntry (scoreKey receipt signals route) = some entry
  meets : Meets profilePolicy entry

theorem hardRejections_eq_nil {receipt : RouteReceipt} {profile : String} :
    hardRejections receipt profile route = [] ↔ Permitted receipt profile route := by
  unfold hardRejections
  rw [flagged_eq_nil]
  simp only [List.mem_cons, List.not_mem_nil, or_false, forall_eq_or_imp, forall_eq,
    Bool.and_eq_false_iff, decide_eq_false_iff_not, not_not, Bool.not_eq_false', ne_eq]
  constructor
  · rintro ⟨hoffline, hlocal, hpremium, hallowed, hbudget⟩
    refine ⟨fun huses => ?_, fun huses => ⟨?_, ?_, ?_, ?_⟩⟩
    · simpa [huses] using hlocal
    · simpa [huses] using hoffline
    · simpa [huses] using hpremium
    · simpa [huses] using hallowed
    · have h : receipt.premiumCallBudget ≠ 0 := by simpa [huses] using hbudget
      omega
  · rintro ⟨hgaps, hremote⟩
    refine ⟨?_, ?_, ?_, ?_, ?_⟩
    · cases huses : usesRemote route with
      | false => exact .inr rfl
      | true => exact .inl (hremote huses).1
    · cases huses : usesLocal route with
      | false => exact .inl rfl
      | true => exact .inr (by simpa using hgaps huses)
    · cases huses : usesRemote route with
      | false => exact .inl rfl
      | true => exact .inr (by simpa using (hremote huses).2.1)
    · cases huses : usesRemote route with
      | false => exact .inl rfl
      | true => exact .inr (hremote huses).2.2.1
    · cases huses : usesRemote route with
      | false => exact .inl rfl
      | true => exact .inr (hremote huses).2.2.2.ne'

theorem evidenceRejection_eq_none {profile : RouteProfilePolicy}
    {entry : Option RouteScorecardEntry} :
    evidenceRejection profile entry = none ↔ ∃ e, entry = some e ∧ Meets profile e := by
  cases entry with
  | none => exact iff_of_false (by simp [evidenceRejection]) fun ⟨e, h, _⟩ => by cases h
  | some entry =>
    unfold evidenceRejection
    dsimp only
    constructor
    · intro h
      split at h
      · cases h
      · rename_i hsamples
        split at h
        · cases h
        · rename_i hcost
          split at h
          · cases h
          · rename_i hsuccess
            refine ⟨entry, rfl, Nat.not_lt.mp hsamples, fun hpos => ?_, not_lt.mp hsuccess⟩
            have hnone := not_and.mp hcost hpos
            exact ⟨fun hn => hnone (.inl hn), Nat.not_lt.mp fun hlt => hnone (.inr hlt)⟩
    · rintro ⟨e, heq, hmeets⟩
      cases heq
      have hcost : ¬ (0 < profile.weights.cost ∧
          (entry.meanCostUsd = none ∨ entry.costSampleCount < entry.verifiedSamples)) := by
        rintro ⟨hpos, hnone | hlt⟩
        · exact (hmeets.cost hpos).1 hnone
        · exact absurd (hmeets.cost hpos).2 (Nat.not_le.mpr hlt)
      rw [if_neg (Nat.not_lt.mpr hmeets.samples), if_neg hcost, if_neg (not_lt.mpr hmeets.success)]

/-! ## Dominance respects utility -/

theorem unit_mono {x y : ℚ} (h : x ≤ y) : unit x ≤ unit y := min_le_min_left 1 (max_le_max_left 0 h)

theorem penalty_le {weight x y scale : ℚ} (hweight : 0 ≤ weight) (hscale : 0 < scale)
    (h : 0 < weight → x ≤ y) : weight * unit (x / scale) ≤ weight * unit (y / scale) := by
  rcases hweight.eq_or_lt with rfl | hpos
  · rw [zero_mul, zero_mul]
  · exact mul_le_mul_of_nonneg_left
      (unit_mono (div_le_div_of_nonneg_right (h hpos) hscale.le)) hweight

variable {left right : RouteScorecardEntry}

theorem utilityOf_le {profile : RouteProfilePolicy} {normalization : RoutePolicyNormalization}
    (h : ∀ metric ∈ metrics profile.weights, metric right ≤ metric left) :
    utilityOf profile normalization right ≤ utilityOf profile normalization left := by
  have hmetric (weight : ℚ) (metric : RouteScorecardEntry → ℚ)
      (hmem : (weight, metric) ∈ ([(profile.weights.quality, fun entry => entry.successRate),
        (profile.weights.cost, fun entry => -(entry.meanCostUsd.getD 0)),
        (profile.weights.latency, fun entry => -entry.p95LatencyMs),
        (profile.weights.egress, fun entry => -entry.meanEgressChars),
        (profile.weights.premium, fun entry => -entry.meanPremiumCalls)] :
          List (ℚ × (RouteScorecardEntry → ℚ)))) (hpos : 0 < weight) :
      metric right ≤ metric left :=
    h metric (List.mem_map.mpr ⟨_, List.mem_filter.mpr ⟨hmem, decide_eq_true hpos⟩, rfl⟩)
  have hquality : profile.weights.quality * right.successRate ≤
      profile.weights.quality * left.successRate := by
    rcases profile.weights.quality_nonneg.eq_or_lt with hzero | hpos
    · rw [← hzero, zero_mul, zero_mul]
    · exact mul_le_mul_of_nonneg_left (hmetric _ _ (by simp) hpos) hpos.le
  have hcost := penalty_le profile.weights.cost_nonneg normalization.cost_pos
    fun hpos => neg_le_neg_iff.mp (hmetric profile.weights.cost
      (fun entry => -(entry.meanCostUsd.getD 0)) (by simp) hpos)
  have hlatency := penalty_le profile.weights.latency_nonneg normalization.latency_pos
    fun hpos => neg_le_neg_iff.mp (hmetric profile.weights.latency
      (fun entry => -entry.p95LatencyMs) (by simp) hpos)
  have hegress := penalty_le profile.weights.egress_nonneg normalization.egress_pos
    fun hpos => neg_le_neg_iff.mp (hmetric profile.weights.egress
      (fun entry => -entry.meanEgressChars) (by simp) hpos)
  have hpremium := penalty_le profile.weights.premium_nonneg normalization.premium_pos
    fun hpos => neg_le_neg_iff.mp (hmetric profile.weights.premium
      (fun entry => -entry.meanPremiumCalls) (by simp) hpos)
  refine roundPlaces_mono (div_le_div_of_nonneg_right ?_ profile.weights.total_pos.le)
  linarith

/-! ## The loop over the routes -/

section Scored

variable (receipt : RouteReceipt) (signals : TaskSignals) (scorecard : RouteScorecard)
  (profile : String) (profilePolicy : RouteProfilePolicy)
  (normalization : RoutePolicyNormalization) (stale : Bool)

/-- What a round of the loop returns. -/
def scored (route : RoutePlan) : CandidateRouteScore × Bool :=
  let hard := hardRejections receipt profile route
  if hard ≠ [] ∨ stale = true then
    (candidateOf route none (hard = []) none false hard, false)
  else
    let entry := scorecard.conservativeEntry (scoreKey receipt signals route)
    match evidenceRejection profilePolicy entry with
    | some (code, abstain) => (candidateOf route entry true none false [code], abstain)
    | none =>
      (candidateOf route entry true (entry.map (utilityOf profilePolicy normalization)) false [],
        false)

variable {receipt signals scorecard profile profilePolicy normalization stale}

@[simp] theorem scored_route (route : RoutePlan) :
    (scored receipt signals scorecard profile profilePolicy normalization stale route).1.route =
      route := by
  unfold scored
  dsimp only
  split
  · rfl
  · split <;> rfl

theorem hardRejections_identifiers (route : RoutePlan) :
    Identifiers (hardRejections receipt profile route) :=
  flagged_identifiers (show Identifiers ["offline_remote_forbidden", "local_capability_gap",
    "premium_capability_gap", "remote_not_allowed", "premium_budget_unavailable"] by decide +kernel)

theorem evidence_identifiers {entry : Option RouteScorecardEntry} {code : String} {abstain : Bool}
    (h : evidenceRejection profilePolicy entry = some (code, abstain)) : Identifiers [code] := by
  cases entry with
  | none =>
    cases h
    decide +kernel
  | some entry =>
    unfold evidenceRejection at h
    dsimp only at h
    split at h
    · cases h
      decide +kernel
    · split at h
      · cases h
        decide +kernel
      · split at h
        · cases h
          decide +kernel
        · cases h

theorem scored_valid (route : RoutePlan) :
    (scored receipt signals scorecard profile profilePolicy normalization stale route).1.Valid := by
  unfold scored
  dsimp only
  split
  · refine candidateOf_valid (hardRejections_identifiers route) (fun h => by cases h) fun h => ?_
    exact ⟨rfl, rfl, of_decide_eq_false h⟩
  · split
    · rename_i code abstain hcode
      exact candidateOf_valid (evidence_identifiers hcode) (fun h => by cases h) fun h => by cases h
    · exact candidateOf_valid ⟨fun _ h => (by cases h), List.nodup_nil⟩ (fun h => (by cases h))
        fun h => (by cases h)

variable {entry : RouteScorecardEntry}

theorem utility_of_meets (h : Meets profilePolicy entry) :
    utility entry profilePolicy normalization =
      .ok (utilityOf profilePolicy normalization entry) := by
  have hcost : ¬ (0 < profilePolicy.weights.cost ∧ entry.meanCostUsd = none) :=
    fun hnone => (h.cost hnone.1).1 hnone.2
  unfold utility
  dsimp only
  rw [check_of hcost]
  rfl

theorem candidateScore_unscored {entry : Option RouteScorecardEntry} {hardEligible : Bool}
    {rejections : List String} (h : rejections ≠ []) :
    candidateScore route entry hardEligible rejections profilePolicy normalization =
      (candidateOf route entry hardEligible none false rejections).construct := by
  unfold candidateScore candidateOf
  cases entry with
  | none => exact ok_bind _ _
  | some entry =>
    dsimp only
    rw [if_neg h]
    exact ok_bind _ _

theorem candidateScore_scored {hardEligible : Bool} {q : ℚ}
    (h : utility entry profilePolicy normalization = .ok q) :
    candidateScore route (some entry) hardEligible [] profilePolicy normalization =
      (candidateOf route (some entry) hardEligible (some q) false []).construct := by
  unfold candidateScore candidateOf
  dsimp only
  rw [if_pos rfl, h]
  exact ok_bind _ _

theorem scoreRoute_eq (route : RoutePlan) :
    scoreRoute receipt signals scorecard profile profilePolicy normalization stale route =
      .ok (scored receipt signals scorecard profile profilePolicy normalization stale route) := by
  have hvalid := (@scored_valid receipt signals scorecard profile profilePolicy normalization stale
    route).construct
  unfold scoreRoute
  unfold scored at hvalid ⊢
  dsimp only at hvalid ⊢
  split
  · rename_i hhard
    rw [if_pos hhard] at hvalid
    change (do
      let candidate ← CandidateRouteScore.construct (candidateOf route none _ none false _)
      pure (candidate, false)) = _
    rw [hvalid]
    rfl
  · rename_i hhard
    rw [if_neg hhard] at hvalid
    cases hevidence : evidenceRejection profilePolicy
        (scorecard.conservativeEntry (scoreKey receipt signals route)) with
    | some rejection =>
      obtain ⟨code, abstain⟩ := rejection
      rw [hevidence] at hvalid
      have hscore : candidateScore route (scorecard.conservativeEntry
          (scoreKey receipt signals route)) true [code] profilePolicy normalization =
          .ok (candidateOf route (scorecard.conservativeEntry (scoreKey receipt signals route))
            true none false [code]) := by
        rw [candidateScore_unscored (List.cons_ne_nil code [])]
        exact hvalid
      dsimp only
      rw [hscore]
      rfl
    | none =>
      rw [hevidence] at hvalid
      obtain ⟨entry, hentry, hmeets⟩ := evidenceRejection_eq_none.mp hevidence
      rw [hentry] at hvalid ⊢
      have hscore : candidateScore route (some entry) true [] profilePolicy normalization =
          .ok (candidateOf route (some entry) true
            (some (utilityOf profilePolicy normalization entry)) false []) := by
        rw [candidateScore_scored (utility_of_meets hmeets)]
        exact hvalid
      dsimp only
      rw [hscore]
      rfl

theorem scored_acceptable (hfresh : stale = false) (route : RoutePlan) :
    (scored receipt signals scorecard profile profilePolicy normalization stale
      route).1.rejectionCodes = [] ↔
      ∃ entry, Acceptable receipt signals scorecard profile profilePolicy route entry := by
  unfold scored
  dsimp only
  by_cases hhard : hardRejections receipt profile route = []
  · have hopen : ¬ (hardRejections receipt profile route ≠ [] ∨ stale = true) := by
      rw [hfresh]
      simp [hhard]
    rw [if_neg hopen]
    cases hevidence : evidenceRejection profilePolicy
        (scorecard.conservativeEntry (scoreKey receipt signals route)) with
    | none =>
      obtain ⟨entry, hentry, hmeets⟩ := evidenceRejection_eq_none.mp hevidence
      exact iff_of_true rfl ⟨entry, hardRejections_eq_nil.mp hhard, hentry, hmeets⟩
    | some code =>
      refine iff_of_false (List.cons_ne_nil _ _) fun ⟨entry, h⟩ => ?_
      rw [evidenceRejection_eq_none.mpr ⟨entry, h.found, h.meets⟩] at hevidence
      cases hevidence
  · rw [if_pos (.inl hhard)]
    exact iff_of_false hhard fun ⟨entry, h⟩ => hhard (hardRejections_eq_nil.mpr h.permitted)

theorem scored_of_acceptable (hfresh : stale = false)
    (h : Acceptable receipt signals scorecard profile profilePolicy route entry) :
    (scored receipt signals scorecard profile profilePolicy normalization stale route).1 =
      candidateOf route (some entry) true
        (some (utilityOf profilePolicy normalization entry)) false [] := by
  have hopen : ¬ (hardRejections receipt profile route ≠ [] ∨ stale = true) := by
    rw [hfresh]
    simp [hardRejections_eq_nil.mpr h.permitted]
  unfold scored
  dsimp only
  rw [if_neg hopen, evidenceRejection_eq_none.mpr ⟨entry, h.found, h.meets⟩, h.found]
  rfl

end Scored

/-! ## Dominance -/

def valuesOf (weights : RoutePolicyWeights) (entry : RouteScorecardEntry) : List ℚ :=
  (metrics weights).map fun metric => metric entry

theorem dominates_values {weights : RoutePolicyWeights} :
    Pareto.dominates (valuesOf weights left) (valuesOf weights right) = true ↔
      Dominates weights left right := by
  unfold valuesOf Dominates
  rw [Pareto.dominates_iff, List.zip_map', List.forall_mem_map]
  refine and_congr Iff.rfl ⟨?_, ?_⟩
  · rintro ⟨p, hp, hlt⟩
    obtain ⟨metric, hmetric, rfl⟩ := List.mem_map.mp hp
    exact ⟨metric, hmetric, hlt⟩
  · rintro ⟨metric, hmetric, hlt⟩
    exact ⟨_, List.mem_map_of_mem hmetric, hlt⟩

theorem mapM_weighted {entry : RouteScorecardEntry} {ps : List (ℚ × Except ContractError ℚ)}
    {ms : List (ℚ × (RouteScorecardEntry → ℚ))}
    (h : List.Forall₂ (fun p m => p.1 = m.1 ∧ (0 < m.1 → p.2 = .ok (m.2 entry))) ps ms) :
    (ps.filter fun p => 0 < p.1).mapM Prod.snd =
      .ok (((ms.filter fun m => 0 < m.1).map Prod.snd).map fun metric => metric entry) := by
  induction h with
  | nil => rfl
  | cons hpm _ ih =>
    obtain ⟨hweight, hvalue⟩ := hpm
    rename_i p m ps ms _
    by_cases hpos : 0 < m.1
    · have hp : (decide (0 < p.1)) = true := decide_eq_true (hweight ▸ hpos)
      rw [List.filter_cons, if_pos hp, List.filter_cons, if_pos (decide_eq_true hpos),
        List.mapM_cons, hvalue hpos, ok_bind, ih]
      rfl
    · have hp : ¬ (decide (0 < p.1)) = true := by rw [hweight, decide_eq_true_eq]; exact hpos
      have hm : ¬ (decide (0 < m.1)) = true := by rwa [decide_eq_true_eq]
      rw [List.filter_cons, if_neg hp, List.filter_cons, if_neg hm, ih]

theorem metricVector_candidateOf {weights : RoutePolicyWeights} {entry : RouteScorecardEntry}
    {u : Option ℚ} (hcost : 0 < weights.cost → entry.meanCostUsd ≠ none) :
    metricVector (candidateOf route (some entry) true u false []) weights =
      .ok (valuesOf weights entry) := by
  unfold metricVector valuesOf metrics
  dsimp only
  apply mapM_weighted
  refine .cons ⟨rfl, fun _ => rfl⟩ (.cons ⟨rfl, fun hpos => ?_⟩ (.cons ⟨rfl, fun _ => rfl⟩
    (.cons ⟨rfl, fun _ => rfl⟩ (.cons ⟨rfl, fun _ => rfl⟩ .nil))))
  obtain ⟨cost, hsome⟩ := Option.ne_none_iff_exists'.mp (hcost hpos)
  change Neg.neg <$> requiredMetric entry.meanCostUsd _ = .ok (-(entry.meanCostUsd.getD 0))
  rw [hsome]
  rfl

section Filter

variable {weights : RoutePolicyWeights} {cand : RoutePlan → CandidateRouteScore}
  {values : RoutePlan → List ℚ} {all : List RoutePlan}

theorem isDominated_eq (hroute : ∀ r, (cand r).route = r)
    (hvalues : ∀ r ∈ all, metricVector (cand r) weights = .ok (values r)) {c : RoutePlan}
    (hc : c ∈ all) {rest : List RoutePlan} (hrest : ∀ r ∈ rest, r ∈ all) :
    isDominated weights (cand c) (rest.map cand) =
      .ok (rest.any fun other => Pareto.dominates (values other) (values c)) := by
  induction rest with
  | nil => rfl
  | cons other rest ih =>
    obtain ⟨hother, hrest⟩ := List.forall_mem_cons.mp hrest
    have hbeaten : beats weights (cand other) (cand c) =
        .ok (Pareto.dominates (values other) (values c)) := by
      unfold beats
      split
      · rename_i heq
        rw [hroute, hroute] at heq
        rw [heq, Pareto.not_dominates_self]
      · unfold dominates
        rw [hvalues other hother, ok_bind, hvalues c hc]
        rfl
    rw [List.map_cons, isDominated, hbeaten, ok_bind, List.any_cons, ih hrest]
    cases Pareto.dominates (values other) (values c) <;> rfl

theorem paretoRoutes_eq (hroute : ∀ r, (cand r).route = r)
    (hvalues : ∀ r ∈ all, metricVector (cand r) weights = .ok (values r)) :
    paretoRoutes (all.map cand) weights = .ok (all.filter fun c =>
      !all.any fun other => Pareto.dominates (values other) (values c)) := by
  have hpart : ∀ rest : List RoutePlan, (∀ r ∈ rest, r ∈ all) →
      undominatedRoutes weights (all.map cand) (rest.map cand) = .ok (rest.filter fun c =>
        !all.any fun other => Pareto.dominates (values other) (values c)) := by
    intro rest hrest
    induction rest with
    | nil => rfl
    | cons c rest ih =>
      obtain ⟨hc, hrest⟩ := List.forall_mem_cons.mp hrest
      rw [List.map_cons, undominatedRoutes,
        isDominated_eq hroute hvalues hc (fun r hr => hr), ok_bind, ih hrest, ok_bind,
        List.filter_cons, hroute]
      cases all.any fun other => Pareto.dominates (values other) (values c) <;> rfl
  exact hpart all fun r hr => hr

end Filter

/-! ## Candidates after the filter -/

/-- What `_with_pareto` constructs. -/
def CandidateRouteScore.filtered (c : CandidateRouteScore) (paretoEligible : Bool) :
    CandidateRouteScore :=
  { c with
    paretoEligible := paretoEligible
    rejectionCodes :=
      if paretoEligible = false ∧ c.rejectionCodes = [] ∧ c.utility ≠ none then
        ["pareto_dominated"]
      else c.rejectionCodes }

theorem CandidateRouteScore.Valid.filtered {c : CandidateRouteScore} (h : c.Valid)
    {paretoEligible : Bool} (hpareto : paretoEligible = true →
      c.hardEligible = true ∧ c.utility ≠ none ∧ c.rejectionCodes = []) :
    (c.filtered paretoEligible).Valid := by
  refine ⟨h.success, h.latency, h.tokens, h.cost, h.premium, h.egress, ?_, h.evidence,
    fun heligible => ?_, fun hhard => ?_⟩
  · unfold CandidateRouteScore.filtered
    dsimp only
    split
    · exact (by decide : Identifiers ["pareto_dominated"])
    · exact h.identifiers
  · change paretoEligible = true at heligible
    obtain ⟨hhard, hutility, hcodes⟩ := hpareto heligible
    refine ⟨hhard, hutility, ?_⟩
    change (if paretoEligible = false ∧ _ then _ else _) = _
    rw [if_neg fun hnot => by rw [heligible] at hnot; cases hnot.1]
    exact hcodes
  · change c.hardEligible = false at hhard
    obtain ⟨_, hutility, hcodes⟩ := h.ineligible hhard
    have hnot : paretoEligible = false := by
      cases hp : paretoEligible with
      | false => rfl
      | true => rw [(hpareto hp).1] at hhard; cases hhard
    refine ⟨hnot, hutility, ?_⟩
    change (if _ ∧ _ ∧ c.utility ≠ none then _ else _) ≠ _
    rw [if_neg fun hscored => hscored.2.2 hutility]
    exact hcodes

theorem mapM_withPareto {cand : RoutePlan → CandidateRouteScore} (hvalid : ∀ r, (cand r).Valid)
    (hroute : ∀ r, (cand r).route = r) {routes : List RoutePlan}
    (hpareto : ∀ r ∈ routes, (cand r).hardEligible = true ∧ (cand r).utility ≠ none ∧
      (cand r).rejectionCodes = []) (rest : List RoutePlan) :
    (rest.map cand).mapM (fun c => withPareto c (decide (c.route ∈ routes))) =
      .ok (rest.map fun r => (cand r).filtered (decide (r ∈ routes))) := by
  induction rest with
  | nil => rfl
  | cons r rest ih =>
    have hone : withPareto (cand r) (decide ((cand r).route ∈ routes)) =
        .ok ((cand r).filtered (decide (r ∈ routes))) := by
      rw [hroute]
      exact ((hvalid r).filtered fun h => hpareto r (of_decide_eq_true h)).construct
    rw [List.map_cons, List.mapM_cons, hone, ok_bind, ih]
    rfl

/-! ## Decisions -/

section Decision

variable {L : Conversions} {receipt : RouteReceipt} {signals : TaskSignals}
  {scorecard : RouteScorecard} {policy : VerifiedRoutePolicy} {profile : String}
  {cand : RoutePlan → CandidateRouteScore}

theorem decision_returns (hprofile : profile ∈ profileNames)
    (hbound : receipt.taskFingerprint = signals.requestFingerprint)
    (hvalid : ∀ r, (cand r).Valid) (hroute : ∀ r, (cand r).route = r) {reasons : List String}
    (hreasons : Identifiers reasons) {baseline recommended : RoutePlan} {abstained : Bool}
    (habstained : abstained = true → recommended = baseline)
    (hchosen : abstained = false → (cand recommended).hardEligible = true ∧
      (cand recommended).paretoEligible = true ∧ (cand recommended).utility ≠ none ∧
      (cand recommended).rejectionCodes = []) :
    ∃ d, decision L receipt signals scorecard policy profile (.plan baseline) (.plan recommended)
        abstained reasons (routePlans.map cand) = .ok d ∧
      ShadowRouteDecision.fromPayload L (d.payload L) = .ok d ∧
      d.baselineRoute = .plan baseline ∧ d.recommendedRoute = .plan recommended ∧
      d.abstained = abstained := by
  have hsorted : (routePlans.map cand).insertionSort (fun a b => a.route.rank ≤ b.route.rank) =
      routePlans.map cand := by
    refine List.Pairwise.insertionSort_eq ?_
    rw [List.pairwise_map]
    simp only [hroute]
    decide
  have hroutes : (routePlans.map cand).map CandidateRouteScore.route = routePlans := by
    rw [List.map_map]
    exact (List.map_congr_left fun r _ => hroute r).trans (List.map_id routePlans)
  have hmem : ∀ r : RoutePlan, r ∈ routePlans := fun r => by cases r <;> decide
  let content : ShadowRouteContent := {
    profile
    routeReceiptId := receipt.receiptId.val
    routeReceiptSha256 := receipt.payloadSha256.val
    runtimePlanSha256 := receipt.runtimePlanSha256.val
    taskFingerprint := receipt.taskFingerprint.val
    taskSignals := signals
    baselineRoute := .plan baseline
    recommendedRoute := .plan recommended
    applied := false
    abstained
    reasonCodes := reasons
    candidates := routePlans.map cand
    policyDigest := policy.digest.val
    scorecardDigest := scorecard.digest.val }
  have hchecked : content.checkRoutes = .ok () := by
    unfold ShadowRouteContent.checkRoutes
    dsimp only
    change (do
      check (((routePlans.map cand).map CandidateRouteScore.route).Nodup) _
      check (((routePlans.map cand).map CandidateRouteScore.route).Pairwise _) _
      if DecisionRoute.plan baseline = DecisionRoute.blocked then _ else do
        check (DecisionRoute.plan recommended ≠ DecisionRoute.blocked) _
        check ((routePlans.map cand).map CandidateRouteScore.route = routePlans) _
        check (abstained = true → DecisionRoute.plan recommended = DecisionRoute.plan baseline) _
        check (abstained = false → ∃ c ∈ routePlans.map cand, _) _) = _
    have hplan : ¬ DecisionRoute.plan baseline = DecisionRoute.blocked := nofun
    have hexecutable : DecisionRoute.plan recommended ≠ DecisionRoute.blocked := nofun
    rw [if_neg hplan, hroutes, check_of (by decide), ok_bind, check_of (by decide), ok_bind,
      check_of hexecutable, ok_bind, check_of rfl, ok_bind,
      check_of fun h => congrArg DecisionRoute.plan (habstained h), ok_bind]
    refine check_of fun h => ⟨cand recommended, List.mem_map_of_mem (hmem recommended), ?_⟩
    exact ⟨congrArg DecisionRoute.plan (hroute recommended), hchosen h⟩
  have hconstruct : content.construct L =
      .ok { content with decisionSha256 := L.sha256Json (content.contentFields L) } := by
    have hid : requireSafeId content.routeReceiptId "route_receipt_id" =
        .ok receipt.receiptId.val := by
      refine requireSafeId_eq_ok.mpr ?_
      change isSafeId (strip receipt.receiptId.val) = true ∧ _ = strip receipt.receiptId.val
      rw [receipt.receiptId.property.2]
      exact ⟨receipt.receiptId.property.1, rfl⟩
    have hdigest (digest : Digest) (label : String) :
        requireSha256 digest.val label = .ok digest.val :=
      requireSha256_eq_ok.mpr ⟨digest.property, rfl⟩
    unfold ShadowRouteContent.construct
    rw [check_of hprofile, ok_bind, hid, ok_bind, hdigest receipt.payloadSha256, ok_bind,
      hdigest receipt.runtimePlanSha256, ok_bind, hdigest receipt.taskFingerprint, ok_bind,
      hdigest policy.digest, ok_bind, hdigest scorecard.digest, ok_bind,
      check_of (congrArg Subtype.val hbound.symm), ok_bind, check_of rfl, ok_bind,
      requireIdentifierTuple_of hreasons, ok_bind, hchecked]
    rfl
  refine ⟨{ content with decisionSha256 := L.sha256Json (content.contentFields L) }, ?_, ?_, rfl,
    rfl, rfl⟩
  · unfold decision
    rw [hsorted, eraseDups_of_nodup hreasons.2]
    exact hconstruct
  · refine ShadowRouteDecision.fromPayload_payload L (L.isSha256_sha256Json _) ?_ hconstruct
    intro c hc
    obtain ⟨r, _, rfl⟩ := List.mem_map.mp hc
    exact (hvalid r).construct

end Decision

/-! ## The recommendation -/

section Chosen

variable {L : Conversions} {provider : TaskSignalProvider} {receipt : RouteReceipt}
  {signals : TaskSignals} {scorecard : RouteScorecard} {policy : VerifiedRoutePolicy}
  {profile : String} {now : Int} {profilePolicy : RouteProfilePolicy} {baseline : RoutePlan}

/-- What is claimed of a recommended route: it is acceptable, no acceptable route dominates it or
has a greater utility, and it does not replace an undominated baseline of the same utility. -/
structure Optimal (receipt : RouteReceipt) (signals : TaskSignals) (scorecard : RouteScorecard)
    (profile : String) (profilePolicy : RouteProfilePolicy)
    (normalization : RoutePolicyNormalization) (baseline route : RoutePlan)
    (entry : RouteScorecardEntry) : Prop where
  acceptable : Acceptable receipt signals scorecard profile profilePolicy route entry
  undominated : ∀ other e, Acceptable receipt signals scorecard profile profilePolicy other e →
    ¬ Dominates profilePolicy.weights e entry
  maximal : ∀ other e, Acceptable receipt signals scorecard profile profilePolicy other e →
    utilityOf profilePolicy normalization e ≤ utilityOf profilePolicy normalization entry
  baseline_kept : ∀ e, Acceptable receipt signals scorecard profile profilePolicy baseline e →
    (∀ other e', Acceptable receipt signals scorecard profile profilePolicy other e' →
      ¬ Dominates profilePolicy.weights e' e) →
    utilityOf profilePolicy normalization e = utilityOf profilePolicy normalization entry →
    route = baseline

/-- What a decision on an executable baseline is to be. -/
def SoundDecision (L : Conversions) (receipt : RouteReceipt) (signals : TaskSignals)
    (scorecard : RouteScorecard) (profile : String) (profilePolicy : RouteProfilePolicy)
    (normalization : RoutePolicyNormalization) (baseline : RoutePlan)
    (d : ShadowRouteDecision) : Prop :=
  ShadowRouteDecision.fromPayload L (d.payload L) = .ok d ∧
    d.baselineRoute = .plan baseline ∧
    (d.abstained = true → d.recommendedRoute = .plan baseline) ∧
    (d.abstained = false → ∃ route entry, d.recommendedRoute = .plan route ∧
      Optimal receipt signals scorecard profile profilePolicy normalization baseline route entry)

theorem reasons_identifiers (candidates : List CandidateRouteScore) :
    Identifiers (flagged (abstentionFlags signals scorecard now profilePolicy candidates)) ∧
      Identifiers (flagged (evidenceFlags signals scorecard now profilePolicy) ++
        ["no_candidate_meets_success_floor", "baseline_retained"]) ∧
      ∀ kept : Bool, Identifiers (flagged (evidenceFlags signals scorecard now profilePolicy) ++
        [if kept then "baseline_retained" else "shadow_recommendation_available"]) := by
  have hmore (more : List (Bool × String)) (hall : ∀ flag ∈ more, flag.1 = true)
      (h : Identifiers (((evidenceFlags signals scorecard now profilePolicy) ++ more).map
        Prod.snd)) :
      Identifiers (flagged (evidenceFlags signals scorecard now profilePolicy) ++
        more.map Prod.snd) := by
    have hflags := flagged_identifiers h
    unfold flagged at hflags ⊢
    rw [List.filter_append, List.map_append, List.filter_eq_self.mpr hall] at hflags
    exact hflags
  refine ⟨flagged_identifiers ?_, ?_, fun kept => ?_⟩
  · exact (by decide : Identifiers ["shadow_mode", "signal_abstained",
      "signal_confidence_below_profile", "scorecard_stale", "scorecard_out_of_distribution",
      "insufficient_verified_samples", "incomplete_cost_evidence", "baseline_retained"])
  · refine hmore [(true, "no_candidate_meets_success_floor"), (true, "baseline_retained")]
      (by decide +kernel) ?_
    exact (by decide : Identifiers ["shadow_mode", "signal_abstained",
      "signal_confidence_below_profile", "scorecard_stale", "no_candidate_meets_success_floor",
      "baseline_retained"])
  · cases kept with
    | true =>
      refine hmore [(true, "baseline_retained")] (by decide +kernel) ?_
      exact (by decide : Identifiers ["shadow_mode", "signal_abstained",
        "signal_confidence_below_profile", "scorecard_stale", "baseline_retained"])
    | false =>
      refine hmore [(true, "shadow_recommendation_available")] (by decide +kernel) ?_
      exact (by decide : Identifiers ["shadow_mode", "signal_abstained",
        "signal_confidence_below_profile", "scorecard_stale",
        "shadow_recommendation_available"])

theorem choose_returns (hprofile : profile ∈ profileNames)
    (hbound : receipt.taskFingerprint = signals.requestFingerprint) :
    ∃ d, choose L receipt signals scorecard policy profile now profilePolicy baseline
        (routePlans.map (scored receipt signals scorecard profile profilePolicy
          policy.normalization (isStale scorecard now))) = .ok d ∧
      SoundDecision L receipt signals scorecard profile profilePolicy policy.normalization
        baseline d := by
  obtain ⟨cand, hcand⟩ : ∃ cand : RoutePlan → CandidateRouteScore, cand = fun r =>
      (scored receipt signals scorecard profile profilePolicy policy.normalization
        (isStale scorecard now) r).1 := ⟨_, rfl⟩
  have hroute : ∀ r, (cand r).route = r := fun r => hcand ▸ scored_route r
  have hvalid : ∀ r, (cand r).Valid := fun r => hcand ▸ scored_valid r
  have hfirst : (routePlans.map (scored receipt signals scorecard profile profilePolicy
      policy.normalization (isStale scorecard now))).map Prod.fst = routePlans.map cand := by
    rw [List.map_map, hcand]
    rfl
  have hmem : ∀ r : RoutePlan, r ∈ routePlans := fun r => by cases r <;> decide
  obtain ⟨habstention, hfloor, hkept⟩ := @reasons_identifiers signals scorecard now profilePolicy
    (routePlans.map cand)
  -- a decision that abstains is sound
  have habstains (reasons : List String) (hreasons : Identifiers reasons) :
      ∃ d, decision L receipt signals scorecard policy profile (.plan baseline) (.plan baseline)
          true reasons (routePlans.map cand) = .ok d ∧
        SoundDecision L receipt signals scorecard profile profilePolicy policy.normalization
          baseline d := by
    obtain ⟨d, hd, hback, hbaseline, hrecommended, habstained⟩ := @decision_returns L receipt signals
      scorecard policy profile cand hprofile hbound hvalid hroute reasons hreasons baseline baseline
      true (fun _ => rfl) (fun h => by cases h)
    refine ⟨d, hd, hback, hbaseline, fun _ => hrecommended, fun hnot => ?_⟩
    rw [habstained] at hnot
    cases hnot
  unfold choose
  dsimp only
  rw [hfirst]
  split
  · exact habstains _ habstention
  · rename_i hevidence
    have hfresh : isStale scorecard now = false := by
      rw [not_or, not_or, not_or, Bool.not_eq_true (isStale scorecard now)] at hevidence
      exact hevidence.2.2.1
    have hrejected : ∀ r, (cand r).rejectionCodes = [] ↔ ∃ entry,
        Acceptable receipt signals scorecard profile profilePolicy r entry := fun r =>
      hcand ▸ scored_acceptable hfresh r
    have hscored : ∀ r entry, Acceptable receipt signals scorecard profile profilePolicy r entry →
        cand r = candidateOf r (some entry) true
          (some (utilityOf profilePolicy policy.normalization entry)) false [] :=
      fun r entry h => hcand ▸ scored_of_acceptable hfresh h
    obtain ⟨accepted, haccepted⟩ : ∃ accepted, accepted =
      routePlans.filter (fun r => decide ((cand r).rejectionCodes = [])) := ⟨_, rfl⟩
    have hmemAccepted : ∀ r, r ∈ accepted ↔ ∃ entry,
        Acceptable receipt signals scorecard profile profilePolicy r entry := by
      intro r
      rw [haccepted, List.mem_filter, and_iff_right (hmem r), decide_eq_true_eq]
      exact hrejected r
    have hfilter : (routePlans.map cand).filter (fun c => decide (c.rejectionCodes = [])) =
        accepted.map cand := by
      rw [haccepted, List.filter_map]
      rfl
    rw [hfilter]
    split
    · exact habstains _ hfloor
    · rename_i hsome
      obtain ⟨values, hvaluesEq⟩ : ∃ values : RoutePlan → List ℚ, values = fun r =>
          ((scorecard.conservativeEntry (scoreKey receipt signals r)).map
            (valuesOf profilePolicy.weights)).getD [] := ⟨_, rfl⟩
      have hvalueOf : ∀ r entry, Acceptable receipt signals scorecard profile profilePolicy r
          entry → values r = valuesOf profilePolicy.weights entry := by
        intro r entry h
        rw [hvaluesEq]
        dsimp only
        rw [h.found]
        rfl
      have hvalues : ∀ r ∈ accepted,
          metricVector (cand r) profilePolicy.weights = .ok (values r) := by
        intro r hr
        obtain ⟨entry, hentry⟩ := (hmemAccepted r).mp hr
        rw [hscored r entry hentry, hvalueOf r entry hentry]
        exact metricVector_candidateOf fun hpos => (hentry.meets.cost hpos).1
      rw [paretoRoutes_eq hroute hvalues, ok_bind]
      obtain ⟨routes, hroutes⟩ : ∃ routes, routes = accepted.filter (fun c =>
        !accepted.any fun other => Pareto.dominates (values other) (values c)) := ⟨_, rfl⟩
      rw [← hroutes]
      have hmemRoutes : ∀ r, r ∈ routes ↔ r ∈ accepted ∧
          ∀ other ∈ accepted, ¬ Pareto.dominates (values other) (values r) = true := by
        intro r
        rw [hroutes, List.mem_filter, Bool.not_eq_true', ← Bool.not_eq_true, List.any_eq_true]
        simp only [not_exists, not_and]
      have heligible : ∀ r ∈ routes, (cand r).hardEligible = true ∧ (cand r).utility ≠ none ∧
          (cand r).rejectionCodes = [] := by
        intro r hr
        obtain ⟨entry, hentry⟩ := (hmemAccepted r).mp ((hmemRoutes r).mp hr).1
        rw [hscored r entry hentry]
        exact ⟨rfl, Option.some_ne_none _, rfl⟩
      rw [mapM_withPareto hvalid hroute heligible, ok_bind]
      obtain ⟨final, hfinal⟩ : ∃ final : RoutePlan → CandidateRouteScore, final = fun r =>
        (cand r).filtered (decide (r ∈ routes)) := ⟨_, rfl⟩
      rw [← hfinal]
      have hfinalRoute : ∀ r, (final r).route = r := fun r => hfinal ▸ hroute r
      have hfinalValid : ∀ r, (final r).Valid := by
        intro r
        rw [hfinal]
        exact (hvalid r).filtered fun h => heligible r (of_decide_eq_true h)
      have hfinalUtility : ∀ r, (final r).utility = (cand r).utility := fun r => hfinal ▸ rfl
      -- the finalists are the routes that no other dominates
      have hfinalists : (routePlans.map final).filter (fun c =>
          decide (c.route ∈ routes ∧ c.utility ≠ none)) =
          (routePlans.filter fun r => decide (r ∈ routes)).map final := by
        rw [List.filter_map]
        refine congrArg (List.map final) (List.filter_congr fun r _ => ?_)
        refine decide_eq_decide.mpr ?_
        rw [hfinalRoute, hfinalUtility]
        exact ⟨And.left, fun h => ⟨h, (heligible r h).2.1⟩⟩
      rw [hfinalists]
      have hirrefl : ∀ r ∈ accepted, ¬ Pareto.dominates (values r) (values r) = true := by
        intro r _
        rw [Pareto.not_dominates_self]
        exact Bool.false_ne_true
      have hlength : ∀ r ∈ accepted, (values r).length = (metrics profilePolicy.weights).length := by
        intro r hr
        obtain ⟨entry, hentry⟩ := (hmemAccepted r).mp hr
        rw [hvalueOf r entry hentry]
        exact List.length_map _
      have htrans : ∀ a ∈ accepted, ∀ b ∈ accepted, ∀ c ∈ accepted,
          Pareto.dominates (values a) (values b) = true →
          Pareto.dominates (values b) (values c) = true →
          Pareto.dominates (values a) (values c) = true := fun a ha b hb c hc =>
        Pareto.dominates_trans ((hlength a ha).trans (hlength b hb).symm)
          ((hlength b hb).trans (hlength c hc).symm)
      -- some accepted route is not dominated
      have hnonempty : (routePlans.filter fun r => decide (r ∈ routes)).map final ≠ [] := by
        obtain ⟨r, hr⟩ := List.exists_mem_of_ne_nil accepted fun hnil => hsome (by rw [hnil]; rfl)
        have hexists : ∃ s, s ∈ routes := by
          by_cases hfree : ∀ other ∈ accepted, ¬ Pareto.dominates (values other) (values r) = true
          · exact ⟨r, (hmemRoutes r).mpr ⟨hr, hfree⟩⟩
          · push Not at hfree
            obtain ⟨other, hother, hdom⟩ := hfree
            obtain ⟨s, hs, _, hundominated⟩ :=
              Pareto.exists_undominated hirrefl htrans hr hother hdom
            exact ⟨s, (hmemRoutes s).mpr ⟨hs, hundominated⟩⟩
        obtain ⟨s, hs⟩ := hexists
        exact List.ne_nil_of_mem (List.mem_map_of_mem
          (List.mem_filter.mpr ⟨hmem s, decide_eq_true hs⟩))
      obtain ⟨winner, hwinner⟩ := Pareto.firstBy_isSome (winnerKey baseline) hnonempty
      rw [hwinner]
      dsimp only
      obtain ⟨hwinnerMem, hleast⟩ := Pareto.firstBy_spec hwinner
      obtain ⟨r, hr, rfl⟩ := List.mem_map.mp hwinnerMem
      have hrRoutes : r ∈ routes := of_decide_eq_true (List.mem_filter.mp hr).2
      obtain ⟨hrAccepted, hrFree⟩ := (hmemRoutes r).mp hrRoutes
      obtain ⟨entry, hentry⟩ := (hmemAccepted r).mp hrAccepted
      have hkey : ∀ s ∈ routes, winnerKey baseline (final r) ≤ winnerKey baseline (final s) :=
        fun s hs => hleast _ (List.mem_map_of_mem (List.mem_filter.mpr ⟨hmem s, decide_eq_true hs⟩))
      have hutility : ∀ s e, Acceptable receipt signals scorecard profile profilePolicy s e →
          (final s).utility = some (utilityOf profilePolicy policy.normalization e) := by
        intro s e he
        rw [hfinalUtility, hscored s e he]
        rfl
      have hbest : ∀ s ∈ routes, ∀ e,
          Acceptable receipt signals scorecard profile profilePolicy s e →
          utilityOf profilePolicy policy.normalization e ≤
            utilityOf profilePolicy policy.normalization entry := by
        intro s hs e he
        have hle := hkey s hs
        unfold winnerKey at hle
        rw [hutility r entry hentry, hutility s e he, Prod.Lex.toLex_le_toLex] at hle
        rcases hle with hlt | ⟨heq, _⟩
        · exact (neg_lt_neg_iff.mp hlt).le
        · exact (neg_inj.mp heq).ge
      obtain ⟨d, hd, hback, hbaseline, hrecommended, habstained⟩ := @decision_returns L receipt
        signals scorecard policy profile final hprofile hbound hfinalValid hfinalRoute
        (flagged (evidenceFlags signals scorecard now profilePolicy) ++
          [if (decide ((final r).route = baseline)) then "baseline_retained"
            else "shadow_recommendation_available"])
        (hkept _) baseline r false (by simp) (fun _ => by
          obtain ⟨hhard, hscore, hcodes⟩ := heligible r hrRoutes
          rw [hfinal]
          refine ⟨hhard, decide_eq_true hrRoutes, hscore, ?_⟩
          change (if decide (r ∈ routes) = false ∧ _ then _ else _) = _
          rw [if_neg fun hnot => of_decide_eq_false hnot.1 hrRoutes]
          exact hcodes)
      refine ⟨d, ?_, hback, hbaseline, fun h => ?_, fun _ => ⟨r, entry, hrecommended, hentry, ?_,
        ?_, ?_⟩⟩
      · rw [← hd, hfinalRoute]
        simp only [decide_eq_true_eq]
      · rw [habstained] at h
        cases h
      · intro other e he hdom
        refine hrFree other ((hmemAccepted other).mpr ⟨e, he⟩) ?_
        rw [hvalueOf other e he, hvalueOf r entry hentry]
        exact dominates_values.mpr hdom
      · -- dominance never discards the greatest utility
        intro other e he
        have hmax := Pareto.undominated_max (l := accepted)
          (s := fun s => ((final s).utility).getD 0) (b := r) hirrefl htrans ?_ ?_
          ((hmemAccepted other).mpr ⟨e, he⟩)
        · rwa [hutility other e he, hutility r entry hentry] at hmax
        · intro a ha b hb hdom
          obtain ⟨ea, hea⟩ := (hmemAccepted a).mp ha
          obtain ⟨eb, heb⟩ := (hmemAccepted b).mp hb
          rw [hvalueOf a ea hea, hvalueOf b eb heb] at hdom
          rw [hutility a ea hea, hutility b eb heb]
          exact utilityOf_le (dominates_values.mp hdom).1
        · intro c hc hfree
          obtain ⟨ec, hec⟩ := (hmemAccepted c).mp hc
          rw [hutility c ec hec, hutility r entry hentry]
          exact hbest c ((hmemRoutes c).mpr ⟨hc, hfree⟩) ec hec
      · -- an undominated baseline is a finalist, and goes first among equals
        intro e he hfree heq
        have hbaselineRoutes : baseline ∈ routes := by
          refine (hmemRoutes baseline).mpr ⟨(hmemAccepted baseline).mpr ⟨e, he⟩, ?_⟩
          intro other hother hdom
          obtain ⟨e', he'⟩ := (hmemAccepted other).mp hother
          rw [hvalueOf other e' he', hvalueOf baseline e he] at hdom
          exact hfree other e' he' (dominates_values.mp hdom)
        have hle := hkey baseline hbaselineRoutes
        unfold winnerKey at hle
        rw [hutility r entry hentry, hutility baseline e he, Prod.Lex.toLex_le_toLex,
          hfinalRoute, hfinalRoute, if_pos rfl, heq] at hle
        rcases hle with hlt | ⟨_, hle⟩
        · exact absurd hlt (lt_irrefl _)
        · rw [Prod.Lex.toLex_le_toLex] at hle
          by_contra hne
          rw [if_neg hne] at hle
          rcases hle with hlt | ⟨heq, _⟩
          · exact absurd (show (1 : ℕ) < 0 from hlt) (by decide)
          · exact absurd (show (1 : ℕ) = 0 from heq) (by decide)

/-- A recommendation on an executable receipt that passes the binding checks returns a sound
decision. -/
theorem recommendation_sound (hbinding : checkBinding provider receipt signals policy profile =
      .ok profilePolicy) (hroute : RoutePlan.ofName receipt.route = some baseline)
    (hoffline : ¬ (profile = "offline" ∧ usesRemote baseline = true)) :
    ∃ d, recommendShadowRoute L provider receipt signals scorecard policy profile now = .ok d ∧
      SoundDecision L receipt signals scorecard profile profilePolicy policy.normalization
        baseline d := by
  have hblocked : receipt.route ≠ "blocked" := by
    intro h
    have hnone : RoutePlan.ofName "blocked" = none := by decide
    rw [h, hnone] at hroute
    cases hroute
  have hbound : receipt.taskFingerprint = signals.requestFingerprint ∧ profile ∈ profileNames := by
    unfold checkBinding at hbinding
    cases hprofile : policy.profiles profile with
    | none =>
      rw [hprofile] at hbinding
      cases hbinding
    | some found =>
      rw [hprofile] at hbinding
      refine ⟨?_, (policy.profile_names profile).mp (by rw [hprofile]; rfl)⟩
      obtain ⟨_, hbinding⟩ := check_bind_eq_ok.mp hbinding
      obtain ⟨expected, _, hbinding⟩ := bind_eq_ok.mp hbinding
      obtain ⟨_, hbinding⟩ := check_bind_eq_ok.mp hbinding
      obtain ⟨_, hbinding⟩ := check_bind_eq_ok.mp hbinding
      exact (check_bind_eq_ok.mp hbinding).1
  have hscored : routePlans.mapM (scoreRoute receipt signals scorecard profile profilePolicy
      policy.normalization (isStale scorecard now)) = .ok (routePlans.map
        (scored receipt signals scorecard profile profilePolicy policy.normalization
          (isStale scorecard now))) := by
    simp only [routePlans, List.mapM_cons, List.mapM_nil, scoreRoute_eq, ok_bind]
    rfl
  obtain ⟨d, hd, hsound⟩ := @choose_returns L receipt signals scorecard policy profile now
    profilePolicy baseline hbound.2 hbound.1
  refine ⟨d, ?_, hsound⟩
  unfold recommendShadowRoute
  rw [hbinding, ok_bind, if_neg hblocked, hroute]
  dsimp only
  rw [check_of hoffline, ok_bind, hscored, ok_bind]
  exact hd

end Chosen

/-! ## A baseline that is dominated -/

def sampleDigest : Digest := ⟨String.ofList (List.replicate 64 'a'), Eq.refl true⟩

def sampleReceiptId : SafeId := ⟨"receipt", by decide⟩

def sampleSource : SafeId := ⟨"heuristic", by decide⟩

def sampleReceipt : RouteReceipt where
  receiptId := sampleReceiptId
  route := "local"
  configSha256 := sampleDigest
  localGaps := []
  premiumGaps := []
  remoteAllowed := true
  premiumCallBudget := 1
  taskFingerprint := sampleDigest
  profile := "balanced"
  requiredCapabilities := []
  payloadSha256 := sampleDigest
  runtimePlanSha256 := sampleDigest

def sampleSignals : TaskSignals where
  requestFingerprint := sampleDigest
  capabilities := []
  difficulty := .simple
  confidence := 1
  abstained := false
  source := sampleSource
  providerConfigSha256 := sampleDigest
  objectiveChars := 0
  contextTokens := 0
  constraintCount := 0
  toolCount := 0
  identifiers := by decide
  sorted := .nil
  confidence_range := by norm_num

def sampleProfile : RouteProfilePolicy where
  weights := ⟨1, 0, 1, 0, 0, by norm_num, by norm_num, by norm_num, by norm_num, by norm_num,
    by norm_num⟩
  minSuccessRate := 0
  minSamples := 1
  minConfidence := 0
  success_range := by norm_num
  samples_pos := by norm_num
  confidence_range := by norm_num

def samplePolicy : VerifiedRoutePolicy where
  profiles := fun name => if name ∈ profileNames then some sampleProfile else none
  normalization := ⟨1, 1, 1, 1, by norm_num, by norm_num, by norm_num, by norm_num⟩
  digest := sampleDigest
  profile_names := fun name => by
    split
    · rename_i h
      exact iff_of_true rfl h
    · rename_i h
      exact iff_of_false nofun h

def sampleEntry (route : RoutePlan) (latencyMs : ℕ) : RouteScorecardEntry where
  key := scoreKey sampleReceipt sampleSignals route
  verifiedSamples := 1
  successRate := 1
  p95LatencyMs := latencyMs
  meanTokens := 0
  costSampleCount := 0
  meanCostUsd := none
  meanPremiumCalls := 0
  meanEgressChars := 0
  samples_pos := by norm_num
  success_range := by norm_num
  latency_nonneg := Nat.cast_nonneg latencyMs
  tokens_nonneg := le_rfl
  premium_nonneg := le_rfl
  egress_nonneg := le_rfl
  cost_samples := by norm_num
  cost_nonneg := nofun
  cost_present := by simp

def sampleScorecard : RouteScorecard where
  generatedAt := 0
  expiresAt := 1
  entries := [sampleEntry .localOnly 3, sampleEntry .localThenVerify 2, sampleEntry .premium 2]
  digest := sampleDigest
  unique := by decide

theorem sample_acceptable {latencyMs : ℕ} (hpermitted : Permitted sampleReceipt "balanced" route)
    (hfound : sampleScorecard.conservativeEntry (scoreKey sampleReceipt sampleSignals route) =
      some (sampleEntry route latencyMs)) :
    Acceptable sampleReceipt sampleSignals sampleScorecard "balanced" sampleProfile route
      (sampleEntry route latencyMs) :=
  ⟨hpermitted, hfound, le_rfl, fun h => absurd h (lt_irrefl _), zero_le_one⟩

/-- The two latencies are clamped to one utility, and the baseline is not kept. -/
theorem tied_baseline_replaced :
    ∃ d, recommendShadowRoute Conversions.cpython (fun _ => .ok sampleSignals) sampleReceipt
        sampleSignals sampleScorecard samplePolicy "balanced" 0 = .ok d ∧
      d.abstained = false ∧ d.baselineRoute = .plan .localOnly ∧
      d.recommendedRoute = .plan .localThenVerify ∧
      ∃ kept chosen, Acceptable sampleReceipt sampleSignals sampleScorecard "balanced" sampleProfile
          .localOnly kept ∧
        Acceptable sampleReceipt sampleSignals sampleScorecard "balanced" sampleProfile
          .localThenVerify chosen ∧
        utilityOf sampleProfile samplePolicy.normalization kept =
          utilityOf sampleProfile samplePolicy.normalization chosen := by
  have hrun : ((recommendShadowRoute Conversions.cpython (fun _ => .ok sampleSignals)
      sampleReceipt sampleSignals sampleScorecard samplePolicy "balanced" 0).toOption.map fun d =>
        (d.abstained, d.baselineRoute, d.recommendedRoute)) =
      some (false, .plan .localOnly, .plan .localThenVerify) := by decide +kernel
  cases hd : recommendShadowRoute Conversions.cpython (fun _ => .ok sampleSignals) sampleReceipt
      sampleSignals sampleScorecard samplePolicy "balanced" 0 with
  | error e =>
    rw [hd] at hrun
    cases hrun
  | ok d =>
    rw [hd] at hrun
    obtain ⟨habstained, hroutes⟩ := Prod.mk.inj (Option.some.inj hrun)
    obtain ⟨hbaseline, hrecommended⟩ := Prod.mk.inj hroutes
    refine ⟨d, rfl, habstained, hbaseline, hrecommended, sampleEntry .localOnly 3,
      sampleEntry .localThenVerify 2, sample_acceptable ?_ rfl, sample_acceptable ?_ rfl,
      by decide +kernel⟩
    · exact hardRejections_eq_nil.mp (by decide)
    · exact hardRejections_eq_nil.mp (by decide)

theorem recommendation_sound_sample :
    ∃ d, recommendShadowRoute Conversions.cpython (fun _ => .ok sampleSignals) sampleReceipt
        sampleSignals sampleScorecard samplePolicy "balanced" 0 = .ok d ∧
      SoundDecision Conversions.cpython sampleReceipt sampleSignals sampleScorecard "balanced"
        sampleProfile samplePolicy.normalization .localOnly d := by
  have hbinding : checkBinding (fun _ => .ok sampleSignals) sampleReceipt sampleSignals
      samplePolicy "balanced" = .ok sampleProfile := by
    unfold checkBinding
    rw [show samplePolicy.profiles "balanced" = some sampleProfile from rfl]
    dsimp only
    rw [check_of (by decide), ok_bind, ok_bind, check_of rfl, ok_bind,
      check_of (show sampleReceipt.profile = "balanced" from rfl), ok_bind,
      check_of (show sampleReceipt.taskFingerprint = sampleSignals.requestFingerprint from rfl)]
    rfl
  exact recommendation_sound hbinding rfl (by decide)

end LocalMoe.Route
