/-
  `build_route_scorecard`: records are sorted, filtered and grouped, and each group makes one
  entry.
-/
import LocalMoe.Scorecard.Contracts

namespace LocalMoe.Scorecard

open Foundation Contracts
open Promotion (EvidenceStrength Outcome)
open Route (Document ScoreKey RouteScorecardEntry Identifiers)
open Speculative (Conversions)

/-! ## Scorecards -/

def tuple (key : ScoreKey) :
    String ×ₗ String ×ₗ String ×ₗ String ×ₗ List String ×ₗ String :=
  toLex (key.configSha256, toLex (key.signalProviderConfigSha256,
    toLex (key.runtimePlanSha256, toLex (key.route.name, toLex (key.capabilities,
      key.difficulty.name)))))

def entryFields (e : RouteScorecardEntry) : List (String × Document) :=
  [("config_sha256", .text e.key.configSha256),
    ("signal_provider_config_sha256", .text e.key.signalProviderConfigSha256),
    ("runtime_plan_sha256", .text e.key.runtimePlanSha256), ("route", .text e.key.route.name),
    ("capabilities", .list (e.key.capabilities.map .text)),
    ("difficulty", .text e.key.difficulty.name), ("verified_samples", .int e.verifiedSamples),
    ("success_rate", .number e.successRate), ("p95_latency_ms", .number e.p95LatencyMs),
    ("mean_tokens", .number e.meanTokens), ("cost_sample_count", .int e.costSampleCount),
    ("mean_cost_usd", .ofNumber e.meanCostUsd),
    ("mean_premium_calls", .number e.meanPremiumCalls),
    ("mean_egress_chars", .number e.meanEgressChars)]

/-- What a scorecard is constructed from, but for its digest. -/
structure ScorecardContent (C : Calendar) where
  generatedAt : Timestamp C
  expiresAt : Timestamp C
  minimumEvidenceStrength : EvidenceStrength
  minimumConfidence : {q : ℚ // 0 ≤ q ∧ q ≤ 1}
  sourceDigest : Digest
  entries : List RouteScorecardEntry

variable {C : Calendar} (L : Conversions)

def ScorecardContent.contentFields (c : ScorecardContent C) : List (String × Document) :=
  [("schema_version", .text contractVersion), ("generated_at", .text c.generatedAt.text),
    ("expires_at", .text c.expiresAt.text),
    ("minimum_evidence_strength", .text (strengthName c.minimumEvidenceStrength)),
    ("minimum_confidence", .number c.minimumConfidence.val),
    ("source_digest", .text c.sourceDigest.val),
    ("entries", .list (c.entries.map fun e => .object (entryFields e)))]

structure RouteScorecard (C : Calendar) (L : Conversions) extends ScorecardContent C where
  digest : Digest
  lasts : generatedAt.instant < expiresAt.instant
  nonempty : entries ≠ []
  sorted : (entries.map fun e => tuple e.key).Pairwise (· ≤ ·)
  unique : (entries.map RouteScorecardEntry.key).Nodup
  digest_eq : L.sha256Json toScorecardContent.contentFields = digest.val

def RouteScorecard.payload {L : Conversions} (s : RouteScorecard C L) : Document :=
  .object (s.contentFields ++ [("digest", .text s.digest.val)])

/-- `RouteScorecard(...)`. -/
def ScorecardContent.construct (c : ScorecardContent C) (digest : String) :
    Except ContractError (RouteScorecard C L) :=
  if lasts : c.generatedAt.instant < c.expiresAt.instant then
    if nonempty : c.entries ≠ [] then
      if sorted : (c.entries.map fun e => tuple e.key).Pairwise (· ≤ ·) then
        if unique : (c.entries.map RouteScorecardEntry.key).Nodup then
          if hdigest : isSha256 digest = true then
            if digest_eq : L.sha256Json c.contentFields = digest then
              .ok { c with
                digest := ⟨digest, hdigest⟩, lasts, nonempty, sorted, unique, digest_eq }
            else .error ⟨"Route scorecard digest does not match its content."⟩
          else .error ⟨"digest must be a lowercase SHA-256 digest."⟩
        else .error ⟨"entries must have unique compound keys."⟩
      else .error ⟨"entries must be sorted by their compound key."⟩
    else .error ⟨"entries must be non-empty."⟩
  else .error ⟨"expires_at must be after generated_at."⟩

theorem construct_scorecard (s : RouteScorecard C L) :
    s.toScorecardContent.construct L s.digest.val = .ok s := by
  unfold ScorecardContent.construct
  rw [dif_pos s.lasts, dif_pos s.nonempty, dif_pos s.sorted, dif_pos s.unique,
    dif_pos s.digest.property, dif_pos s.digest_eq]

theorem ScorecardContent.construct_eq_ok {c : ScorecardContent C} {digest : String}
    {s : RouteScorecard C L} (h : c.construct L digest = .ok s) : s.toScorecardContent = c := by
  unfold ScorecardContent.construct at h
  split_ifs at h
  cases h
  rfl

/-! ## Aggregates -/

def mean (values : List ℚ) : ℚ := roundPlaces 12 (values.sum / values.length)

def optionalMean (values : List ℚ) : Option ℚ := if values = [] then none else some (mean values)

/-- `_nearest_rank_percentile` of a list that is not empty. -/
def nearestRankPercentile (values : List ℚ) (fraction : ℚ) : ℚ :=
  let ordered := values.insertionSort (· ≤ ·)
  let index := ⌈fraction * ordered.length⌉.toNat - 1
  roundPlaces 12 (ordered.getD index 0)

def OutcomeRecord.passes (r : OutcomeRecord) : Bool := decide (r.outcome = .passed)

def aggregateEntry (key : ScoreKey) (records : List OutcomeRecord) : EntryContent :=
  let costs := records.filterMap OutcomeRecord.estimatedCostUsd
  { key
    verifiedSamples := records.length
    successRate := mean (records.map fun r => if r.passes then 1 else 0)
    p95LatencyMs := nearestRankPercentile (records.map fun r => r.latencyMs) (95 / 100)
    meanTokens := mean (records.map fun r => (r.promptTokens : ℚ) + r.completionTokens)
    costSampleCount := costs.length
    meanCostUsd := optionalMean costs
    meanPremiumCalls := mean (records.map fun r => r.premiumCalls)
    meanEgressChars := mean (records.map fun r => r.remotePayloadChars) }

/-! ## Building -/

/-- The records in the order of their ids. -/
def byRecordId (records : List OutcomeRecord) : List OutcomeRecord :=
  records.insertionSort fun a b => a.recordId ≤ b.recordId

def recordSet (records : List OutcomeRecord) : List (String × Document) :=
  [("records", .list ((byRecordId records).map OutcomeRecord.payload))]

def recordSetDigest (records : List OutcomeRecord) : Digest :=
  ⟨L.sha256Json (recordSet records), L.isSha256_sha256Json _⟩

/-- Whether a record meets the floors. -/
def qualifies (strength : EvidenceStrength) (confidence : ℚ) (r : OutcomeRecord) : Bool :=
  if r.evidenceStrength.index < strength.index then false
  else if r.abstained then false
  else if r.confidence < confidence then false
  else decide (r.outcome ≠ .inconclusive)

/-- The key of a record's group; the capabilities of a record are identifiers, so that
`_canonical_capability_set` sorts them. -/
def keyOf (r : OutcomeRecord) : ScoreKey where
  configSha256 := r.configSha256.val
  signalProviderConfigSha256 := r.signalProviderConfigSha256.val
  runtimePlanSha256 := r.runtimePlanSha256.val
  route := r.plannedRoute
  capabilities := r.capabilities.val.insertionSort (· ≤ ·)
  difficulty := r.difficulty

/-- `sorted(grouped)`. -/
def groupKeys (records : List OutcomeRecord) : List ScoreKey :=
  (records.map keyOf).dedup.insertionSort fun a b => tuple a ≤ tuple b

/-- `grouped[key]`. -/
def groupOf (records : List OutcomeRecord) (key : ScoreKey) : List OutcomeRecord :=
  records.filter fun r => decide (keyOf r = key)

/-- `build_route_scorecard` on checked arguments. -/
def assemble (records : List OutcomeRecord) (strength : EvidenceStrength)
    (confidence : {q : ℚ // 0 ≤ q ∧ q ≤ 1}) (generated : Timestamp C) (ttlSeconds : Int) :
    Except ContractError (RouteScorecard C L) := do
  let expires ← render C (generated.instant + ttlSeconds)
  check (records ≠ []) (⟨"At least one outcome record is required."⟩ : ContractError)
  check (records.map OutcomeRecord.recordId).Nodup
    (⟨"Outcome record_id values must be unique."⟩ : ContractError)
  let normalized := byRecordId records
  let qualifying := normalized.filter (qualifies strength confidence.val)
  check (qualifying ≠ [])
    (⟨"No non-abstained binary outcomes satisfy the evidence and confidence floors."⟩ :
      ContractError)
  let entries ← (groupKeys qualifying).mapM fun key =>
    (aggregateEntry key (groupOf qualifying key)).construct
  let content : ScorecardContent C := {
    generatedAt := generated, expiresAt := expires, minimumEvidenceStrength := strength
    minimumConfidence := confidence
    sourceDigest := recordSetDigest L records, entries }
  content.construct L (L.sha256Json content.contentFields)

variable (C)

/-- `build_route_scorecard`; `generatedAt` is the time that is given, or now. -/
def buildRouteScorecard (records : List OutcomeRecord) (minimumEvidenceStrength : String)
    (minimumConfidence : ℚ) (generatedAt : String) (ttlSeconds : Int) :
    Except ContractError (RouteScorecard C L) := do
  let strength ← requireEvidenceStrength minimumEvidenceStrength "minimum_evidence_strength"
  let confidence ← requireRate minimumConfidence "minimum_confidence"
  check (0 ≤ ttlSeconds)
    (⟨"ttl_seconds must be a non-negative integer."⟩ : ContractError)
  check (ttlSeconds ≠ 0) (⟨"ttl_seconds must be positive."⟩ : ContractError)
  let generated ← requireUtcTimestamp C generatedAt "generated_at"
  assemble L records strength confidence generated ttlSeconds

variable {C}

def validateScorecardLineage (s : RouteScorecard C L) (training : List OutcomeRecord) :
    Except ContractError Unit := do
  check (recordSetDigest L training = s.sourceDigest)
    (⟨"Scorecard source digest does not match supplied training outcomes."⟩ : ContractError)
  let ttlSeconds := s.expiresAt.instant - s.generatedAt.instant
  let rebuilt ← buildRouteScorecard C L training (strengthName s.minimumEvidenceStrength)
    s.minimumConfidence.val s.generatedAt.text ttlSeconds
  check (rebuilt.digest = s.digest)
    (⟨"Scorecard aggregates do not match supplied training outcomes."⟩ : ContractError)

/-! ## Orders of the records -/

theorem byRecordId_perm (records : List OutcomeRecord) : (byRecordId records).Perm records :=
  List.perm_insertionSort _ _

variable {records records' : List OutcomeRecord}

theorem byRecordId_congr (h : records'.Perm records)
    (hids : (records.map OutcomeRecord.recordId).Nodup) :
    byRecordId records' = byRecordId records := by
  have hsorted (l : List OutcomeRecord) :
      (byRecordId l).Pairwise fun a b => a.recordId ≤ b.recordId :=
    List.pairwise_insertionSort _ _
  refine List.Perm.eq_of_pairwise (fun a b ha hb hab hba => ?_) (hsorted records') (hsorted records)
    ((byRecordId_perm records').trans (h.trans (byRecordId_perm records).symm))
  exact List.inj_on_of_nodup_map hids (h.subset ((byRecordId_perm _).subset ha))
    ((byRecordId_perm _).subset hb) (le_antisymm hab hba)

theorem recordSetDigest_congr (h : records'.Perm records)
    (hids : (records.map OutcomeRecord.recordId).Nodup) :
    recordSetDigest L records' = recordSetDigest L records := by
  refine Subtype.ext (congrArg L.sha256Json ?_)
  unfold recordSet
  rw [byRecordId_congr h hids]

variable {confidence : {q : ℚ // 0 ≤ q ∧ q ≤ 1}}

theorem assemble_eq_ok {strength : EvidenceStrength} {generated : Timestamp C} {ttlSeconds : Int}
    {s : RouteScorecard C L}
    (h : assemble L records strength confidence generated ttlSeconds = .ok s) :
    (records.map OutcomeRecord.recordId).Nodup ∧
      s.generatedAt = generated ∧ s.expiresAt.instant = generated.instant + ttlSeconds ∧
      s.minimumEvidenceStrength = strength ∧ s.minimumConfidence = confidence ∧
      s.sourceDigest = recordSetDigest L records ∧
      (groupKeys ((byRecordId records).filter (qualifies strength confidence.val))).mapM
        (fun key => (aggregateEntry key (groupOf ((byRecordId records).filter
          (qualifies strength confidence.val)) key)).construct) = .ok s.entries := by
  unfold assemble at h
  obtain ⟨expires, hexpires, h⟩ := bind_eq_ok.mp h
  obtain ⟨_, h⟩ := check_bind_eq_ok.mp h
  obtain ⟨hids, h⟩ := check_bind_eq_ok.mp h
  obtain ⟨_, h⟩ := check_bind_eq_ok.mp h
  obtain ⟨entries, hentries, h⟩ := bind_eq_ok.mp h
  have hcontent := ScorecardContent.construct_eq_ok L h
  rw [hcontent]
  exact ⟨hids, rfl, render_eq_ok hexpires, rfl, rfl, rfl, hentries⟩

theorem assemble_congr {strength : EvidenceStrength} {generated : Timestamp C} {ttlSeconds : Int}
    (h : records'.Perm records) (hids : (records.map OutcomeRecord.recordId).Nodup) :
    assemble L records' strength confidence generated ttlSeconds =
      assemble L records strength confidence generated ttlSeconds := by
  have hempty : records' ≠ [] ↔ records ≠ [] := by
    rw [ne_eq, ne_eq, ← List.length_eq_zero_iff, ← List.length_eq_zero_iff, h.length_eq]
  have hnodup : (records'.map OutcomeRecord.recordId).Nodup :=
    (h.map OutcomeRecord.recordId).nodup_iff.mpr hids
  unfold assemble
  rw [byRecordId_congr h hids, recordSetDigest_congr L h hids, check_of hnodup, check_of hids]
  simp only [hempty]

end LocalMoe.Scorecard
