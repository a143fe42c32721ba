/-
  A scorecard counts every qualifying record once, is read back from its payload, and is built
  again from its records.
-/
import LocalMoe.Foundation.Loops
import LocalMoe.Scorecard.Document
import LocalMoe.Speculative.Total

namespace LocalMoe.Scorecard

open Foundation Contracts
open Promotion (EvidenceStrength Outcome)
open Route (Document ScoreKey RouteScorecardEntry Identifiers)
open Speculative (Conversions)

/-! ## Groups -/

theorem keyOf_canonical (r : OutcomeRecord) : Canonical (keyOf r) :=
  ⟨⟨r.configSha256.property, r.signalProviderConfigSha256.property, r.runtimePlanSha256.property⟩,
    identifiers_insertionSort r.capabilities.property, List.pairwise_insertionSort _ _⟩

theorem mem_groupKeys {records : List OutcomeRecord} {key : ScoreKey} :
    key ∈ groupKeys records ↔ ∃ r ∈ records, keyOf r = key := by
  unfold groupKeys
  rw [List.mem_insertionSort, List.mem_dedup, List.mem_map]

theorem sum_groups (records : List OutcomeRecord) :
    ((groupKeys records).map fun key => (groupOf records key).length).sum = records.length := by
  have hcount (key : ScoreKey) : (groupOf records key).length = (records.map keyOf).count key := by
    unfold groupOf List.count
    rw [← List.countP_eq_length_filter, List.countP_map]
    refine List.countP_congr fun r _ => ?_
    simp
  simp only [hcount]
  have hperm : (groupKeys records).Perm (records.map keyOf).dedup := List.perm_insertionSort _ _
  rw [(hperm.map _).sum_eq, List.sum_map_count_dedup_eq_length, List.length_map]

theorem sum_passes (records : List OutcomeRecord) :
    (records.map fun r => if r.passes then (1 : ℚ) else 0).sum =
      (records.countP OutcomeRecord.passes : ℕ) := by
  induction records with
  | nil => rfl
  | cons r records ih =>
    rw [List.map_cons, List.sum_cons, List.countP_cons, ih]
    by_cases h : r.passes = true
    · rw [if_pos h, if_pos h]
      push_cast
      ring
    · rw [if_neg h, if_neg h]
      push_cast
      ring

/-! ## Conservation -/

variable {C : Calendar} {L : Conversions}

/-- The records of a collection that meet the floors of a scorecard. -/
def qualifying (s : RouteScorecard C L) (records : List OutcomeRecord) : List OutcomeRecord :=
  records.filter (qualifies s.minimumEvidenceStrength s.minimumConfidence.val)

/-- An entry counts the records of its group; its rate is the rounded share of the passes. -/
structure CountsGroup (records : List OutcomeRecord) (e : RouteScorecardEntry) : Prop where
  samples : e.verifiedSamples = (groupOf records e.key).length
  rate : e.successRate = roundPlaces 12
    (((groupOf records e.key).countP OutcomeRecord.passes : ℕ) / (e.verifiedSamples : ℚ))

variable {records' : List OutcomeRecord}

variable {e : RouteScorecardEntry}

theorem CountsGroup.congr {records : List OutcomeRecord} (h : records'.Perm records)
    (hcounts : CountsGroup records e) : CountsGroup records' e := by
  have hgroup : (groupOf records' e.key).Perm (groupOf records e.key) := h.filter _
  exact ⟨hcounts.samples.trans hgroup.length_eq.symm, by rw [hgroup.countP_eq]; exact hcounts.rate⟩

theorem construct_group {records : List OutcomeRecord} {key : ScoreKey}
    (hkey : key ∈ groupKeys records)
    (h : (aggregateEntry key (groupOf records key)).construct = .ok e) :
    Canonical e.key ∧ e.key = key ∧ CountsGroup records e := by
  obtain ⟨r, _, hr⟩ := mem_groupKeys.mp hkey
  obtain ⟨hcanonical, hsamples, hrate, hsame⟩ := EntryContent.construct_eq_ok h
  have hkeyCanonical : Canonical key := hr ▸ keyOf_canonical r
  have heq : e.key = key := hsame hkeyCanonical.sorted hkeyCanonical.identifiers
  refine ⟨hcanonical, heq, ?_, ?_⟩
  · rw [heq]
    exact hsamples
  · rw [heq, hsamples, hrate]
    unfold aggregateEntry mean
    dsimp only
    rw [sum_passes, List.length_map]

theorem forall₂_map {α β : Type*} {P : α → β → Prop} {Q : β → Prop} {key : β → α}
    {keys : List α} {entries : List β} (h : List.Forall₂ P keys entries)
    (hone : ∀ k ∈ keys, ∀ e, P k e → key e = k ∧ Q e) :
    entries.map key = keys ∧ ∀ e ∈ entries, Q e := by
  induction h with
  | nil => exact ⟨rfl, nofun⟩
  | cons hP _ ih =>
    obtain ⟨hkey, hQ⟩ := hone _ List.mem_cons_self _ hP
    obtain ⟨hmap, hall⟩ := ih fun k hk => hone k (List.mem_cons_of_mem _ hk)
    exact ⟨by rw [List.map_cons, hkey, hmap], List.forall_mem_cons.mpr ⟨hQ, hall⟩⟩

section Built

variable {records : List OutcomeRecord} {strength : EvidenceStrength}
  {confidence : {q : ℚ // 0 ≤ q ∧ q ≤ 1}} {generated : Timestamp C} {ttlSeconds : Int}
  {s : RouteScorecard C L}

theorem built_entries (h : assemble L records strength confidence generated ttlSeconds = .ok s) :
    s.entries.map RouteScorecardEntry.key = groupKeys (qualifying s (byRecordId records)) ∧
      ∀ e ∈ s.entries, Canonical e.key ∧ CountsGroup (qualifying s (byRecordId records)) e := by
  obtain ⟨_, _, _, hstrength, hconfidence, _, hentries⟩ := assemble_eq_ok L h
  rw [← hstrength, ← hconfidence] at hentries
  refine forall₂_map (mapM_ok_iff.mp hentries) fun key hkey e he => ?_
  obtain ⟨hcanonical, heq, hcounts⟩ := construct_group hkey he
  exact ⟨heq, hcanonical, hcounts⟩

theorem qualifying_perm (records : List OutcomeRecord) :
    (qualifying s (byRecordId records)).Perm (qualifying s records) :=
  (byRecordId_perm records).filter _

theorem built_once (h : assemble L records strength confidence generated ttlSeconds = .ok s)
    {r : OutcomeRecord} (hr : r ∈ qualifying s records) :
    ∃! e, e ∈ s.entries ∧ e.key = keyOf r := by
  have hmem : keyOf r ∈ s.entries.map RouteScorecardEntry.key := by
    rw [(built_entries h).1]
    exact mem_groupKeys.mpr ⟨r, (qualifying_perm records).symm.subset hr, rfl⟩
  obtain ⟨e, he, hkey⟩ := List.mem_map.mp hmem
  refine ⟨e, ⟨he, hkey⟩, ?_⟩
  rintro e' ⟨he', hkey'⟩
  exact List.inj_on_of_nodup_map s.unique he' he (hkey'.trans hkey.symm)

theorem built_total (h : assemble L records strength confidence generated ttlSeconds = .ok s) :
    (s.entries.map RouteScorecardEntry.verifiedSamples).sum = (qualifying s records).length := by
  obtain ⟨hkeys, hall⟩ := built_entries h
  have hsamples : s.entries.map RouteScorecardEntry.verifiedSamples =
      (s.entries.map RouteScorecardEntry.key).map
        fun key => (groupOf (qualifying s (byRecordId records)) key).length := by
    rw [List.map_map]
    exact List.map_congr_left fun e he => (hall e he).2.samples
  rw [hsamples, hkeys, sum_groups, (qualifying_perm records).length_eq]

theorem built_again (h : assemble L records strength confidence generated ttlSeconds = .ok s)
    (hperm : records'.Perm records) :
    buildRouteScorecard C L records' (strengthName s.minimumEvidenceStrength)
      s.minimumConfidence.val s.generatedAt.text
      (s.expiresAt.instant - s.generatedAt.instant) = .ok s := by
  obtain ⟨hids, hgenerated, hexpires, hstrength, hconfidence, _, _⟩ := assemble_eq_ok L h
  have hlasts := s.lasts
  unfold buildRouteScorecard
  rw [requireEvidenceStrength_name, ok_bind, requireRate_of s.minimumConfidence.property, ok_bind,
    check_of (by omega), ok_bind, check_of (by omega), ok_bind, requireUtcTimestamp_text, ok_bind,
    assemble_congr L hperm hids, hstrength, hgenerated]
  rw [show s.expiresAt.instant - generated.instant = ttlSeconds by omega]
  rw [← hconfidence] at h
  exact h

theorem build_eq_ok {minimumEvidenceStrength : String} {minimumConfidence : ℚ}
    {generatedAt : String} (h : buildRouteScorecard C L records minimumEvidenceStrength
      minimumConfidence generatedAt ttlSeconds = .ok s) : ∃ strength confidence generated,
      requireEvidenceStrength minimumEvidenceStrength "minimum_evidence_strength" = .ok strength ∧
      requireRate minimumConfidence "minimum_confidence" = .ok confidence ∧
      (0 ≤ ttlSeconds ∧ ttlSeconds ≠ 0) ∧
      requireUtcTimestamp C generatedAt "generated_at" = .ok generated ∧
      assemble L records strength confidence generated ttlSeconds = .ok s := by
  unfold buildRouteScorecard at h
  obtain ⟨strength, hstrength, h⟩ := bind_eq_ok.mp h
  obtain ⟨confidence, hconfidence, h⟩ := bind_eq_ok.mp h
  obtain ⟨hnonneg, h⟩ := check_bind_eq_ok.mp h
  obtain ⟨hpositive, h⟩ := check_bind_eq_ok.mp h
  obtain ⟨generated, hgenerated, h⟩ := bind_eq_ok.mp h
  exact ⟨strength, confidence, generated, hstrength, hconfidence, ⟨hnonneg, hpositive⟩,
    hgenerated, h⟩

theorem groupKeys_sorted (records : List OutcomeRecord) :
    ((groupKeys records).map tuple).Pairwise (· ≤ ·) :=
  List.pairwise_map.mpr (List.pairwise_insertionSort _ _)

theorem groupKeys_nodup (records : List OutcomeRecord) : (groupKeys records).Nodup :=
  (List.perm_insertionSort _ _).nodup_iff.mpr (List.nodup_dedup _)

theorem assemble_returns {expires : Timestamp C} {entries : List RouteScorecardEntry}
    (hexpires : render C (generated.instant + ttlSeconds) = .ok expires)
    (hpositive : 0 < ttlSeconds) (hids : (records.map OutcomeRecord.recordId).Nodup)
    (hqualifying : (byRecordId records).filter (qualifies strength confidence.val) ≠ [])
    (hentries : (groupKeys ((byRecordId records).filter
      (qualifies strength confidence.val))).mapM (fun key => (aggregateEntry key
        (groupOf ((byRecordId records).filter (qualifies strength confidence.val))
          key)).construct) = .ok entries) :
    ∃ s, assemble L records strength confidence generated ttlSeconds = .ok s := by
  have hrecords : records ≠ [] := by
    rintro rfl
    exact hqualifying rfl
  have hinstant := render_eq_ok hexpires
  obtain ⟨hkeys, _⟩ := forall₂_map (Q := fun _ => True) (mapM_ok_iff.mp hentries)
    fun key hkey e he => ⟨(construct_group hkey he).2.1, trivial⟩
  have hsorted : (entries.map fun e => tuple e.key).Pairwise (· ≤ ·) := by
    have hkeysSorted := groupKeys_sorted
      ((byRecordId records).filter (qualifies strength confidence.val))
    rw [← hkeys, List.map_map] at hkeysSorted
    exact hkeysSorted
  have hunique : (entries.map RouteScorecardEntry.key).Nodup := hkeys ▸ groupKeys_nodup _
  have hnonempty : entries ≠ [] := by
    rintro rfl
    obtain ⟨r, hr⟩ := List.exists_mem_of_ne_nil _ hqualifying
    have hmem := mem_groupKeys.mpr ⟨r, hr, rfl⟩
    rw [← hkeys] at hmem
    cases hmem
  unfold assemble
  rw [hexpires, ok_bind, check_of hrecords, ok_bind, check_of hids, ok_bind]
  dsimp only
  rw [check_of hqualifying, ok_bind, hentries, ok_bind]
  unfold ScorecardContent.construct
  rw [dif_pos (by dsimp only; omega), dif_pos hnonempty, dif_pos hsorted, dif_pos hunique,
    dif_pos (L.isSha256_sha256Json _), dif_pos rfl]
  exact ⟨_, rfl⟩

theorem lineage_accepts (h : assemble L records strength confidence generated ttlSeconds = .ok s)
    (hperm : records'.Perm records) : validateScorecardLineage L s records' = .ok () := by
  obtain ⟨hids, _, _, _, _, hsource, _⟩ := assemble_eq_ok L h
  unfold validateScorecardLineage
  rw [check_of ((recordSetDigest_congr L hperm hids).trans hsource.symm), ok_bind]
  dsimp only
  rw [built_again h hperm, ok_bind]
  exact check_of rfl

theorem lineage_rejects (h : assemble L records strength confidence generated ttlSeconds = .ok s)
    {others : List OutcomeRecord}
    (hfree : L.sha256Json (recordSet others) = L.sha256Json (recordSet records) →
      recordSet others = recordSet records)
    {payload : Document} (hpayload : ¬ (payload ∈ others.map OutcomeRecord.payload ↔
      payload ∈ records.map OutcomeRecord.payload)) : validateScorecardLineage L s others = .error
      ⟨"Scorecard source digest does not match supplied training outcomes."⟩ := by
  obtain ⟨_, _, _, _, _, hsource, _⟩ := assemble_eq_ok L h
  have hne : recordSetDigest L others ≠ s.sourceDigest := by
    intro heq
    have hset := hfree (congrArg Subtype.val (heq.trans hsource))
    unfold recordSet at hset
    have hlist : (byRecordId others).map OutcomeRecord.payload =
        (byRecordId records).map OutcomeRecord.payload := by
      injection hset with hhead _
      injection hhead with _ hvalue
      injection hvalue
    refine hpayload ?_
    rw [← ((byRecordId_perm others).map OutcomeRecord.payload).mem_iff, hlist,
      ((byRecordId_perm records).map OutcomeRecord.payload).mem_iff]
  unfold validateScorecardLineage check
  rw [if_neg hne]
  rfl

end Built

structure Conserves (s : RouteScorecard C L) (records : List OutcomeRecord) : Prop where
  once : ∀ r ∈ qualifying s records, ∃! e, e ∈ s.entries ∧ e.key = keyOf r
  counts : ∀ e ∈ s.entries, CountsGroup (qualifying s records) e
  total : (s.entries.map RouteScorecardEntry.verifiedSamples).sum = (qualifying s records).length
  readBack : ∀ now, s.generatedAt.instant ≤ now → now < s.expiresAt.instant →
    routeScorecardFromPayload C L s.payload now none true = .ok s
  accepts : ∀ records', records'.Perm records → validateScorecardLineage L s records' = .ok ()
  rejects : ∀ others,
    (L.sha256Json (recordSet others) = L.sha256Json (recordSet records) →
      recordSet others = recordSet records) →
    (∃ payload, ¬ (payload ∈ others.map OutcomeRecord.payload ↔
      payload ∈ records.map OutcomeRecord.payload)) →
    ∃ failure, validateScorecardLineage L s others = .error failure

/-- Scorecards conserve evidence, whatever the order of the records is. -/
theorem scorecard_conserves {records : List OutcomeRecord} {minimumEvidenceStrength : String}
    {minimumConfidence : ℚ} {generatedAt : String} {ttlSeconds : Int} {s : RouteScorecard C L}
    (h : buildRouteScorecard C L records minimumEvidenceStrength minimumConfidence generatedAt
      ttlSeconds = .ok s) : (∀ records', records'.Perm records →
      buildRouteScorecard C L records' minimumEvidenceStrength minimumConfidence generatedAt
        ttlSeconds = .ok s) ∧ Conserves s records := by
  obtain ⟨strength, confidence, generated, hstrength, hconfidence, ⟨hnonneg, hpositive⟩,
    hgenerated, h⟩ := build_eq_ok h
  obtain ⟨_, hentries⟩ := built_entries h
  refine ⟨fun records' hperm => ?_, fun r hr => built_once h hr, fun e he => ?_, built_total h,
    fun now hstart hend => ?_, fun records' hperm => lineage_accepts h hperm,
    fun others hfree hpayload => ?_⟩
  · unfold buildRouteScorecard
    rw [hstrength, ok_bind, hconfidence, ok_bind, check_of hnonneg, ok_bind, check_of hpositive,
      ok_bind, hgenerated, ok_bind, assemble_congr L hperm (assemble_eq_ok L h).1, h]
  · exact (hentries e he).2.congr (qualifying_perm records).symm
  · exact routeScorecardFromPayload_payload L (fun e he => (hentries e he).1) hstart hend
  · obtain ⟨payload, hpayload⟩ := hpayload
    exact ⟨_, lineage_rejects h hfree hpayload⟩

/-! ## A pass in three -/

theorem sampleStart_valid : CivilFields.Valid ⟨2026, 1, 1, 0, 0, 0⟩ := by decide

def sampleStart : DateTime := ⟨_, sampleStart_valid⟩

def sampleEnd : DateTime := ⟨⟨2026, 1, 1, 0, 1, 0⟩, by decide⟩

theorem isoformat_ne (d : DateTime) : d.isoformat ≠ "" := by
  intro h
  have hchars := congrArg String.toList h
  unfold DateTime.isoformat at hchars
  rw [String.toList_ofList] at hchars
  cases hchars

def Calendar.sample : Calendar where
  fromisoformat := fun text =>
    if text = sampleStart.isoformat then .utc 1767225600
    else if text = sampleEnd.isoformat then .utc 1767225660
    else .malformed
  isoformat := fun seconds =>
    if seconds = 1767225600 then some sampleStart.isoformat
    else if seconds = 1767225660 then some sampleEnd.isoformat
    else none
  fromisoformat_isoformat := by
    intro seconds text h
    have hne : sampleEnd.isoformat ≠ sampleStart.isoformat :=
      fun heq => absurd (String.ofList_injective heq) (by decide)
    split_ifs at h with hfirst hsecond
    · cases h
      exact ⟨by rw [if_pos rfl, hfirst], Stdlib.strip_isoformat _, isoformat_ne _⟩
    · cases h
      exact ⟨by rw [if_neg hne, if_pos rfl, hsecond], Stdlib.strip_isoformat _, isoformat_ne _⟩

theorem sample_isoformat : Calendar.sample.isoformat 1767225600 = some sampleStart.isoformat ∧
      Calendar.sample.isoformat 1767225660 = some sampleEnd.isoformat := by
  unfold Calendar.sample
  dsimp only
  refine ⟨if_pos rfl, ?_⟩
  rw [if_neg (by decide), if_pos rfl]

def sampleTime : Timestamp Calendar.sample :=
  ⟨1767225600, sampleStart.isoformat, sample_isoformat.1⟩

def sampleDigest : Digest := ⟨String.ofList (List.replicate 64 'a'), Eq.refl true⟩

theorem sampleRange : (0 : ℚ) ≤ 1 ∧ (1 : ℚ) ≤ 1 := by norm_num

theorem sampleCost : ∀ cost ∈ (none : Option ℚ), 0 ≤ cost := fun _ h => by cases h

def sampleRecord (recordId : String) (outcome : Outcome) : OutcomeRecord where
  recordId := recordId
  configSha256 := sampleDigest
  signalProviderConfigSha256 := sampleDigest
  runtimePlanSha256 := sampleDigest
  plannedRoute := .localOnly
  capabilities := ⟨["general"], by decide⟩
  difficulty := .simple
  confidence := 1
  abstained := false
  outcome := outcome
  evidenceStrength := .independent
  latencyMs := 10
  promptTokens := 1
  completionTokens := 1
  premiumCalls := 0
  remotePayloadChars := 0
  estimatedCostUsd := none
  others := []
  confidence_range := sampleRange
  cost_nonneg := sampleCost

def sampleRecords : List OutcomeRecord :=
  [sampleRecord "a" .passed, sampleRecord "b" .failed, sampleRecord "c" .failed]

def sampleKey : ScoreKey := keyOf (sampleRecord "a" .passed)

theorem sample_keys : ∀ r ∈ sampleRecords, keyOf r = sampleKey := by
  intro r hr
  simp only [sampleRecords, List.mem_cons, List.not_mem_nil, or_false] at hr
  rcases hr with rfl | rfl | rfl <;> rfl

theorem sample_group : groupOf sampleRecords sampleKey = sampleRecords :=
  List.filter_eq_self.mpr fun r hr => decide_eq_true (sample_keys r hr)

theorem sample_qualifying :
    (byRecordId sampleRecords).filter (qualifies .independent 0) = sampleRecords := by
  have hsorted : sampleRecords.Pairwise fun a b => a.recordId ≤ b.recordId := by decide
  have horder : byRecordId sampleRecords = sampleRecords := hsorted.insertionSort_eq
  rw [horder]
  rfl

theorem sample_groupKeys : groupKeys sampleRecords = [sampleKey] := by
  have hkeys : sampleRecords.map keyOf = List.replicate 3 sampleKey :=
    List.map_eq_replicate_iff.mpr sample_keys
  unfold groupKeys
  rw [hkeys, List.replicate_dedup (by decide)]
  rfl

theorem sampleCosts : 0 = 0 ↔ (none : Option ℚ) = none := by decide

def sampleEntry : RouteScorecardEntry where
  key := sampleKey
  verifiedSamples := 3
  successRate := (aggregateEntry sampleKey sampleRecords).successRate
  p95LatencyMs := (aggregateEntry sampleKey sampleRecords).p95LatencyMs
  meanTokens := (aggregateEntry sampleKey sampleRecords).meanTokens
  costSampleCount := 0
  meanCostUsd := none
  meanPremiumCalls := (aggregateEntry sampleKey sampleRecords).meanPremiumCalls
  meanEgressChars := (aggregateEntry sampleKey sampleRecords).meanEgressChars
  samples_pos := by decide
  success_range := by decide +kernel
  latency_nonneg := by decide +kernel
  tokens_nonneg := by decide +kernel
  premium_nonneg := by decide +kernel
  egress_nonneg := by decide +kernel
  cost_samples := by decide
  cost_nonneg := sampleCost
  cost_present := sampleCosts

theorem sample_built : ∃ s, buildRouteScorecard Calendar.sample Conversions.cpython sampleRecords
    "independent" 0 sampleStart.isoformat 60 = .ok s := by
  have hzero : (0 : ℚ) ≤ 0 ∧ (0 : ℚ) ≤ 1 := by norm_num
  have hsome : (byRecordId sampleRecords).filter (qualifies .independent 0) ≠ [] := by
    rw [sample_qualifying]
    exact List.cons_ne_nil _ _
  have hentry : (aggregateEntry sampleKey sampleRecords).construct = .ok sampleEntry :=
    construct_contentOf (e := sampleEntry) (keyOf_canonical (sampleRecord "a" .passed))
  have hentries : (groupKeys ((byRecordId sampleRecords).filter
      (qualifies .independent 0))).mapM (fun key => (aggregateEntry key
        (groupOf ((byRecordId sampleRecords).filter (qualifies .independent 0))
          key)).construct) = .ok [sampleEntry] := by
    rw [sample_qualifying, sample_groupKeys, List.mapM_cons, sample_group, hentry]
    rfl
  have hrendered := sample_isoformat.2
  have hexpires : render Calendar.sample (sampleTime.instant + 60) =
      .ok ⟨1767225660, sampleEnd.isoformat, hrendered⟩ := render_instant ⟨_, _, hrendered⟩
  have hids : (sampleRecords.map OutcomeRecord.recordId).Nodup := by decide
  obtain ⟨s, hs⟩ : ∃ s, assemble Conversions.cpython sampleRecords .independent ⟨0, hzero⟩
      sampleTime 60 = .ok s :=
    assemble_returns hexpires (by decide) hids hsome hentries
  have hstrength : requireEvidenceStrength "independent" "minimum_evidence_strength" =
      .ok .independent := requireEvidenceStrength_name .independent _
  have htime : requireUtcTimestamp Calendar.sample sampleStart.isoformat "generated_at" =
      .ok sampleTime := requireUtcTimestamp_text sampleTime _
  refine ⟨s, ?_⟩
  unfold buildRouteScorecard
  rw [hstrength, ok_bind, requireRate_of hzero, ok_bind, check_of (by decide), ok_bind,
    check_of (by decide), ok_bind, htime, ok_bind]
  exact hs

theorem scorecard_conserves_sample : ∃ s, buildRouteScorecard Calendar.sample
    Conversions.cpython sampleRecords "independent" 0 sampleStart.isoformat 60 = .ok s ∧
      Conserves s sampleRecords := by
  obtain ⟨s, hs⟩ := sample_built
  exact ⟨s, hs, (scorecard_conserves hs).2⟩

/-- A rate of one pass in three is rounded, and three times the rate is no pass. -/
theorem pass_lost : ∃ s, buildRouteScorecard Calendar.sample Conversions.cpython sampleRecords
    "independent" 0 sampleStart.isoformat 60 = .ok s ∧
      ∃ e ∈ s.entries, e.successRate * e.verifiedSamples ≠
        ((groupOf (qualifying s sampleRecords) e.key).countP OutcomeRecord.passes : ℕ) := by
  obtain ⟨s, hs⟩ := sample_built
  obtain ⟨strength, confidence, generated, hstrength, hconfidence, _, _, hassemble⟩ :=
    build_eq_ok hs
  obtain ⟨_, _, _, hstrengthEq, hconfidenceEq, _, _⟩ := assemble_eq_ok _ hassemble
  have hqualifying : qualifying s sampleRecords = sampleRecords := by
    have hconf : s.minimumConfidence.val = 0 := by
      rw [requireRate_of (by norm_num)] at hconfidence
      cases hconfidence
      rw [hconfidenceEq]
    unfold qualifying
    rw [hstrengthEq, hconf]
    cases hstrength
    rfl
  have hmem : sampleRecord "a" .passed ∈ qualifying s sampleRecords := by
    rw [hqualifying]
    exact List.mem_cons_self
  obtain ⟨e, ⟨he, hkey⟩, _⟩ := built_once hassemble hmem
  have hcounts := ((built_entries hassemble).2 e he).2.congr (qualifying_perm sampleRecords).symm
  have hgroup : groupOf (qualifying s sampleRecords) e.key = sampleRecords := by
    rw [hqualifying, hkey]
    exact sample_group
  have hrate := hcounts.rate
  rw [hcounts.samples, hgroup] at hrate
  refine ⟨s, hs, e, he, ?_⟩
  rw [hcounts.samples, hgroup, hrate]
  decide +kernel

end LocalMoe.Scorecard
