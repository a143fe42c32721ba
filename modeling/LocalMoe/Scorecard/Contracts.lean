/-
  `route_scorecard.py`: the records that a scorecard is built from, its entries, and the
  scorecard itself.

  Numbers are exact.
-/
import LocalMoe.Promotion.Contracts
import LocalMoe.Route.Document

namespace LocalMoe.Scorecard

open Foundation Contracts
open Canary (RoutePlan Difficulty)
open Promotion (EvidenceStrength Outcome)
open Route (Document ScoreKey RouteScorecardEntry Identifiers requireIdentifierTuple)
open Speculative (Conversions)

/-! ## Timestamps -/

/-- What `datetime.fromisoformat` makes of a text whose `Z` reads `+00:00`. -/
inductive ParsedInstant where
  /-- A time in UTC, in whole seconds since the epoch. -/
  | utc (seconds : Int)
  /-- A time without an offset, or with another one. -/
  | otherZone
  /-- `ValueError`. -/
  | malformed

structure Calendar where
  fromisoformat : String → ParsedInstant
  /-- `isoformat` of a time in UTC, unless it is out of range. -/
  isoformat : Int → Option String
  fromisoformat_isoformat : ∀ seconds text, isoformat seconds = some text →
    fromisoformat text = .utc seconds ∧ strip text = text ∧ text ≠ ""

/-- A time with its text. -/
structure Timestamp (C : Calendar) where
  instant : Int
  text : String
  rendered : C.isoformat instant = some text

variable (C : Calendar)

/-- `isoformat`, which fails with an `OverflowError` when the time is out of range. -/
def render (seconds : Int) : Except ContractError (Timestamp C) :=
  match h : C.isoformat seconds with
  | some text => .ok ⟨seconds, text, h⟩
  | none => .error ⟨"date value out of range"⟩

def requireUtcTimestamp (value label : String) : Except ContractError (Timestamp C) :=
  match C.fromisoformat (strip value) with
  | .utc seconds => render C seconds
  | .otherZone => .error ⟨label ++ " must use UTC."⟩
  | .malformed => .error ⟨label ++ " must be an ISO-8601 timestamp."⟩

variable {C}

theorem Timestamp.eq_of_instant {s t : Timestamp C} (h : s.instant = t.instant) : s = t := by
  obtain ⟨a, x, hx⟩ := s
  obtain ⟨b, y, hy⟩ := t
  obtain rfl : a = b := h
  obtain rfl : x = y := Option.some.inj (hx.symm.trans hy)
  rfl

theorem render_instant (t : Timestamp C) : render C t.instant = .ok t := by
  unfold render
  split
  · exact congrArg Except.ok (Timestamp.eq_of_instant rfl)
  · next h => rw [t.rendered] at h; cases h

theorem render_eq_ok {seconds : Int} {t : Timestamp C} (h : render C seconds = .ok t) :
    t.instant = seconds := by
  unfold render at h
  split at h
  · cases h
    rfl
  · cases h

theorem requireUtcTimestamp_text (t : Timestamp C) (label : String) :
    requireUtcTimestamp C t.text label = .ok t := by
  obtain ⟨hread, hstrip, _⟩ := C.fromisoformat_isoformat _ _ t.rendered
  unfold requireUtcTimestamp
  rw [hstrip, hread]
  exact render_instant t

/-! ## Records -/

def strengthName : EvidenceStrength → String
  | .implicit => "implicit"
  | .judge => "judge"
  | .user => "user"
  | .independent => "independent"
  | .deterministic => "deterministic"

def evidenceStrengths : List EvidenceStrength :=
  [.implicit, .judge, .user, .independent, .deterministic]

def requireEvidenceStrength (value label : String) : Except ContractError EvidenceStrength :=
  match evidenceStrengths.find? fun strength => strengthName strength = value with
  | some strength => .ok strength
  | none => .error ⟨label ++ " is not supported."⟩

theorem requireEvidenceStrength_name (strength : EvidenceStrength) (label : String) :
    requireEvidenceStrength (strengthName strength) label = .ok strength := by
  cases strength <;> rfl

def outcomeName : Outcome → String
  | .failed => "failed"
  | .inconclusive => "inconclusive"
  | .passed => "passed"

/-- A valid `VerifiedOutcomeRecord`; `others` are the fields of its payload that a scorecard
does not read. -/
structure OutcomeRecord where
  recordId : String
  configSha256 : Digest
  signalProviderConfigSha256 : Digest
  runtimePlanSha256 : Digest
  plannedRoute : RoutePlan
  capabilities : {items : List String // Identifiers items}
  difficulty : Difficulty
  confidence : ℚ
  abstained : Bool
  outcome : Outcome
  evidenceStrength : EvidenceStrength
  latencyMs : Nat
  promptTokens : Nat
  completionTokens : Nat
  premiumCalls : Nat
  remotePayloadChars : Nat
  estimatedCostUsd : Option ℚ
  others : List (String × Document)
  confidence_range : 0 ≤ confidence ∧ confidence ≤ 1
  cost_nonneg : ∀ cost ∈ estimatedCostUsd, 0 ≤ cost

def OutcomeRecord.payload (r : OutcomeRecord) : Document :=
  .object ([("record_id", .text r.recordId), ("config_sha256", .text r.configSha256.val),
    ("signal_provider_config_sha256", .text r.signalProviderConfigSha256.val),
    ("runtime_plan_sha256", .text r.runtimePlanSha256.val),
    ("planned_route", .text r.plannedRoute.name),
    ("capabilities", .list (r.capabilities.val.map .text)),
    ("difficulty", .text r.difficulty.name), ("confidence", .number r.confidence),
    ("abstained", .bool r.abstained), ("outcome", .text (outcomeName r.outcome)),
    ("evidence_strength", .text (strengthName r.evidenceStrength)),
    ("latency_ms", .int r.latencyMs), ("prompt_tokens", .int r.promptTokens),
    ("completion_tokens", .int r.completionTokens), ("premium_calls", .int r.premiumCalls),
    ("remote_payload_chars", .int r.remotePayloadChars),
    ("estimated_cost_usd", .ofNumber r.estimatedCostUsd)] ++ r.others)

/-! ## Entries -/

/-- `_canonical_capability_set` of texts. -/
def canonicalCapabilitySet (items : List String) (label : String) :
    Except ContractError (List String) := do
  let ids ← requireIdentifierTuple items label
  return ids.val.insertionSort (· ≤ ·)

/-- `require_finite_number` with the least value zero. -/
def requireNonNegative (value : ℚ) (label : String) : Except ContractError {q : ℚ // 0 ≤ q} :=
  if h : 0 ≤ value then .ok ⟨value, h⟩ else .error ⟨label ++ " must be >= 0.0."⟩

/-- `require_finite_number` between zero and one. -/
def requireRate (value : ℚ) (label : String) :
    Except ContractError {q : ℚ // 0 ≤ q ∧ q ≤ 1} :=
  if h : 0 ≤ value ∧ value ≤ 1 then .ok ⟨value, h⟩
  else if 0 ≤ value then .error ⟨label ++ " must be <= 1.0."⟩
  else .error ⟨label ++ " must be >= 0.0."⟩

def requireOptional (value : Option ℚ) (label : String) :
    Except ContractError {q : Option ℚ // ∀ cost ∈ q, 0 ≤ cost} :=
  if h : ∀ cost ∈ value, 0 ≤ cost then .ok ⟨value, h⟩
  else .error ⟨label ++ " must be >= 0.0."⟩

structure EntryContent where
  key : ScoreKey
  verifiedSamples : Nat
  successRate : ℚ
  p95LatencyMs : ℚ
  meanTokens : ℚ
  costSampleCount : Nat
  meanCostUsd : Option ℚ
  meanPremiumCalls : ℚ
  meanEgressChars : ℚ

/-- `RouteScorecardEntry(...)`. -/
def EntryContent.construct (c : EntryContent) : Except ContractError RouteScorecardEntry := do
  let _ ← requireSha256 c.key.configSha256 "config_sha256"
  let _ ← requireSha256 c.key.signalProviderConfigSha256 "signal_provider_config_sha256"
  let _ ← requireSha256 c.key.runtimePlanSha256 "runtime_plan_sha256"
  let capabilities ← canonicalCapabilitySet c.key.capabilities "scorecard entry capabilities"
  if samples_pos : 0 < c.verifiedSamples then
    let successRate ← requireRate c.successRate "success_rate"
    let p95LatencyMs ← requireNonNegative c.p95LatencyMs "p95_latency_ms"
    let meanTokens ← requireNonNegative c.meanTokens "mean_tokens"
    let meanPremiumCalls ← requireNonNegative c.meanPremiumCalls "mean_premium_calls"
    let meanEgressChars ← requireNonNegative c.meanEgressChars "mean_egress_chars"
    if cost_samples : c.costSampleCount ≤ c.verifiedSamples then
      let meanCostUsd ← requireOptional c.meanCostUsd "mean_cost_usd"
      if cost_present : c.costSampleCount = 0 ↔ meanCostUsd.val = none then
        return {
          key := { c.key with capabilities }
          verifiedSamples := c.verifiedSamples, successRate := successRate.val
          p95LatencyMs := p95LatencyMs.val, meanTokens := meanTokens.val
          costSampleCount := c.costSampleCount, meanCostUsd := meanCostUsd.val
          meanPremiumCalls := meanPremiumCalls.val, meanEgressChars := meanEgressChars.val
          samples_pos, success_range := successRate.property
          latency_nonneg := p95LatencyMs.property, tokens_nonneg := meanTokens.property
          premium_nonneg := meanPremiumCalls.property
          egress_nonneg := meanEgressChars.property, cost_samples
          cost_nonneg := meanCostUsd.property, cost_present }
      else .error ⟨"mean_cost_usd must be present exactly when cost samples exist."⟩
    else .error ⟨"cost_sample_count cannot exceed verified_samples."⟩
  else .error ⟨"verified_samples must be positive."⟩

def contentOf (e : RouteScorecardEntry) : EntryContent where
  key := e.key
  verifiedSamples := e.verifiedSamples
  successRate := e.successRate
  p95LatencyMs := e.p95LatencyMs
  meanTokens := e.meanTokens
  costSampleCount := e.costSampleCount
  meanCostUsd := e.meanCostUsd
  meanPremiumCalls := e.meanPremiumCalls
  meanEgressChars := e.meanEgressChars

/-- A key in the form that entries have it. -/
structure Canonical (key : ScoreKey) : Prop where
  digests : isSha256 key.configSha256 = true ∧ isSha256 key.signalProviderConfigSha256 = true ∧
    isSha256 key.runtimePlanSha256 = true
  identifiers : Identifiers key.capabilities
  sorted : key.capabilities.Pairwise (· ≤ ·)

theorem canonicalCapabilitySet_of {items : List String} (h : Identifiers items)
    (label : String) : canonicalCapabilitySet items label = .ok (items.insertionSort (· ≤ ·)) := by
  unfold canonicalCapabilitySet
  rw [Route.requireIdentifierTuple_of h]
  rfl

theorem identifiers_insertionSort {items : List String} (h : Identifiers items) :
    Identifiers (items.insertionSort (· ≤ ·)) :=
  ⟨fun item hitem => h.1 item ((List.perm_insertionSort _ _).subset hitem),
    (List.perm_insertionSort _ _).nodup_iff.mpr h.2⟩

theorem requireRate_of {q : ℚ} (h : 0 ≤ q ∧ q ≤ 1) (label : String) :
    requireRate q label = .ok ⟨q, h⟩ := dif_pos h

theorem requireNonNegative_of {q : ℚ} (h : 0 ≤ q) (label : String) :
    requireNonNegative q label = .ok ⟨q, h⟩ := dif_pos h

theorem requireOptional_of {q : Option ℚ} (h : ∀ cost ∈ q, 0 ≤ cost) (label : String) :
    requireOptional q label = .ok ⟨q, h⟩ := dif_pos h

variable {e : RouteScorecardEntry}

theorem construct_contentOf (h : Canonical e.key) : (contentOf e).construct = .ok e := by
  obtain ⟨hconfig, hsignal, hplan⟩ := h.digests
  have hkey : (⟨e.key.configSha256, e.key.signalProviderConfigSha256, e.key.runtimePlanSha256,
      e.key.route, e.key.capabilities.insertionSort (· ≤ ·), e.key.difficulty⟩ : ScoreKey) =
      e.key := by
    rw [h.sorted.insertionSort_eq]
  unfold EntryContent.construct contentOf
  dsimp only
  rw [requireSha256_eq_ok.mpr ⟨hconfig, rfl⟩, ok_bind,
    requireSha256_eq_ok.mpr ⟨hsignal, rfl⟩, ok_bind,
    requireSha256_eq_ok.mpr ⟨hplan, rfl⟩, ok_bind,
    canonicalCapabilitySet_of h.identifiers, ok_bind, dif_pos e.samples_pos,
    requireRate_of e.success_range, ok_bind, requireNonNegative_of e.latency_nonneg, ok_bind,
    requireNonNegative_of e.tokens_nonneg, ok_bind, requireNonNegative_of e.premium_nonneg,
    ok_bind, requireNonNegative_of e.egress_nonneg, ok_bind, dif_pos e.cost_samples,
    requireOptional_of e.cost_nonneg, ok_bind, dif_pos e.cost_present]
  obtain ⟨key, _, _, _, _, _, _, _, _, _, _, _, _, _, _, _, _, _⟩ := e
  dsimp only at hkey ⊢
  simp only [hkey]
  rfl

theorem EntryContent.construct_eq_ok {c : EntryContent} (h : c.construct = .ok e) :
    Canonical e.key ∧ e.verifiedSamples = c.verifiedSamples ∧ e.successRate = c.successRate ∧
      (c.key.capabilities.Pairwise (· ≤ ·) → Identifiers c.key.capabilities → e.key = c.key) := by
  unfold EntryContent.construct at h
  obtain ⟨_, hconfig, h⟩ := bind_eq_ok.mp h
  obtain ⟨_, hsignal, h⟩ := bind_eq_ok.mp h
  obtain ⟨_, hplan, h⟩ := bind_eq_ok.mp h
  obtain ⟨capabilities, hcapabilities, h⟩ := bind_eq_ok.mp h
  obtain ⟨ids, hids, hsorted⟩ := bind_eq_ok.mp hcapabilities
  cases hsorted
  split at h
  · obtain ⟨success, hsuccess, h⟩ := bind_eq_ok.mp h
    obtain ⟨_, _, h⟩ := bind_eq_ok.mp h
    obtain ⟨_, _, h⟩ := bind_eq_ok.mp h
    obtain ⟨_, _, h⟩ := bind_eq_ok.mp h
    obtain ⟨_, _, h⟩ := bind_eq_ok.mp h
    split at h
    · obtain ⟨_, _, h⟩ := bind_eq_ok.mp h
      split at h
      · cases h
        refine ⟨⟨⟨(requireSha256_eq_ok.mp hconfig).1, (requireSha256_eq_ok.mp hsignal).1,
          (requireSha256_eq_ok.mp hplan).1⟩, identifiers_insertionSort ids.property,
          List.pairwise_insertionSort _ _⟩, rfl, ?_, fun hpairwise hidentifiers => ?_⟩
        · unfold requireRate at hsuccess
          split_ifs at hsuccess
          cases hsuccess
          rfl
        · rw [Route.requireIdentifierTuple_of hidentifiers] at hids
          cases hids
          dsimp only
          rw [hpairwise.insertionSort_eq]
      · cases h
    · cases h
  · cases h

end LocalMoe.Scorecard
