/-
  How a scorecard is read back from its document.

  The fields are read before the constructor compares them, so a document with several faults
  may be refused for another one than the source names.
-/
import LocalMoe.Scorecard.Build

namespace LocalMoe.Scorecard

open Foundation Contracts
open Canary (Difficulty)
open Route
open Speculative (Conversions)

variable (C : Calendar) (L : Conversions)

/-! ## Reading -/

def entryNames : List String :=
  ["config_sha256", "signal_provider_config_sha256", "runtime_plan_sha256", "route",
    "capabilities", "difficulty", "verified_samples", "success_rate", "p95_latency_ms",
    "mean_tokens", "cost_sample_count", "mean_cost_usd", "mean_premium_calls",
    "mean_egress_chars"]

def rootNames : List String :=
  ["schema_version", "generated_at", "expires_at", "minimum_evidence_strength",
    "minimum_confidence", "source_digest", "entries", "digest"]

def readEntryDifficulty (value : Document) : Except ContractError Difficulty := do
  let message := "Scorecard entry difficulty is not supported."
  let text ← readText value message
  match Difficulty.ofName text with
  | none => .error ⟨message⟩
  | some difficulty => .ok difficulty

def entryFromPayload (raw : Document) : Except ContractError Route.RouteScorecardEntry := do
  let fields ← strictMapping raw "Each scorecard entry"
  checkFields fields entryNames "route scorecard entry"
  let get := Speculative.Value.get fields
  let capabilities ← readTexts (get "capabilities")
    "Scorecard entry capabilities must be a list."
    "scorecard entry capabilities must contain only strings."
  let route ← readRoute (get "route") "Scorecard entry route is not supported."
  let difficulty ← readEntryDifficulty (get "difficulty")
  let verifiedSamples ← readNat L (get "verified_samples") "verified_samples"
  let successRate ← readNumber L (get "success_rate") "success_rate"
  let p95LatencyMs ← readNumber L (get "p95_latency_ms") "p95_latency_ms"
  let meanTokens ← readNumber L (get "mean_tokens") "mean_tokens"
  let meanPremiumCalls ← readNumber L (get "mean_premium_calls") "mean_premium_calls"
  let meanEgressChars ← readNumber L (get "mean_egress_chars") "mean_egress_chars"
  let costSampleCount ← readNat L (get "cost_sample_count") "cost_sample_count"
  let meanCostUsd ← readOptional (readNumber L) (get "mean_cost_usd") "mean_cost_usd"
  let key : ScoreKey := {
    configSha256 := (get "config_sha256").asText L
    signalProviderConfigSha256 := (get "signal_provider_config_sha256").asText L
    runtimePlanSha256 := (get "runtime_plan_sha256").asText L
    route, capabilities, difficulty }
  let entry ← EntryContent.construct {
    key, verifiedSamples, successRate, p95LatencyMs, meanTokens, costSampleCount, meanCostUsd
    meanPremiumCalls, meanEgressChars }
  check (entry.key.capabilities = capabilities)
    (⟨"Scorecard entry capabilities must be sorted canonically."⟩ : ContractError)
  return entry

/-- `_validate_freshness`, at the time `now`. -/
def validateFreshness {C : Calendar} {L : Conversions} (s : RouteScorecard C L) (now : Int)
    (maxAgeSeconds : Option Int) (requireFresh : Bool) : Except ContractError Unit :=
  if requireFresh = false then .ok ()
  else do
    check (s.generatedAt.instant ≤ now)
      (⟨"Route scorecard was generated in the future."⟩ : ContractError)
    check (now < s.expiresAt.instant) (⟨"Route scorecard has expired."⟩ : ContractError)
    match maxAgeSeconds with
    | none => .ok ()
    | some maximum => do
      check (0 ≤ maximum)
        (⟨"max_age_seconds must be a non-negative integer."⟩ : ContractError)
      check (now - s.generatedAt.instant ≤ maximum)
        (⟨"Route scorecard exceeds the configured maximum age."⟩ : ContractError)

/-- `RouteScorecard(**fields)`. -/
def scorecardOfFields (fields : List (String × Document)) :
    Except ContractError (RouteScorecard C L) := do
  let get := Speculative.Value.get fields
  let items ← readList (get "entries") "entries must be a non-empty list."
  check (items.isEmpty = false) (⟨"entries must be a non-empty list."⟩ : ContractError)
  let entries ← items.mapM (entryFromPayload L)
  checkText (get "schema_version") contractVersion
    "Unsupported route scorecard schema_version."
  let generatedAt ← requireUtcTimestamp C ((get "generated_at").asText L) "generated_at"
  let expiresAt ← requireUtcTimestamp C ((get "expires_at").asText L) "expires_at"
  let minimumEvidenceStrength ← requireEvidenceStrength
    ((get "minimum_evidence_strength").asText L) "minimum_evidence_strength"
  let confidence ← readNumber L (get "minimum_confidence") "minimum_confidence"
  let minimumConfidence ← requireRate confidence "minimum_confidence"
  let sourceDigest ← readDigest (get "source_digest") "source_digest"
  let content : ScorecardContent C := {
    generatedAt, expiresAt, minimumEvidenceStrength, minimumConfidence, sourceDigest, entries }
  content.construct L ((get "digest").asText L)

def routeScorecardFromPayload (raw : Document) (now : Int) (maxAgeSeconds : Option Int)
    (requireFresh : Bool) : Except ContractError (RouteScorecard C L) := do
  let fields ← strictMapping raw "Route scorecard"
  let unknown := (fields.map Prod.fst).filter (· ∉ rootNames)
  check (unknown = [])
    (⟨"Unknown route scorecard fields: " ++ Speculative.joined unknown ++ "."⟩ : ContractError)
  let scorecard ← scorecardOfFields C L fields
  validateFreshness scorecard now maxAgeSeconds requireFresh
  return scorecard

/-! ## Reading back -/

variable {C}

theorem readEntryDifficulty_name (d : Difficulty) : readEntryDifficulty (.text d.name) = .ok d := by
  cases d <;> rfl

theorem readNumber_number (q : ℚ) (label : String) : readNumber L (.number q) label = .ok q := rfl

theorem asText_sha {text : String} (h : isSha256 text = true) :
    (Speculative.Value.text text).asText L = text :=
  Speculative.asText_text L (of_decide_eq_true (Speculative.truthy_sha h))

theorem entryFromPayload_fields {e : Route.RouteScorecardEntry} (h : Canonical e.key) :
    entryFromPayload L (.object (entryFields e)) = .ok e := by
  obtain ⟨fields, hfields⟩ : ∃ fields, fields = entryFields e := ⟨_, rfl⟩
  have hnames : fields.map Prod.fst = entryNames := hfields ▸ rfl
  have hget : ∀ f ∈ entryFields e, Speculative.Value.get fields f.1 = f.2 :=
    hfields ▸ get_fields hnames (by decide)
  rw [← hfields]
  simp only [entryFields, List.mem_cons, List.not_mem_nil, or_false, or_imp, forall_and,
    forall_eq] at hget
  obtain ⟨hconfig, hsignal, hplan⟩ := h.digests
  unfold entryFromPayload strictMapping
  rw [ok_bind, checkFields_of hnames, ok_bind]
  simp only [hget, readTexts_texts, readRoute_name, readEntryDifficulty_name, readNat_int,
    readNumber_number, readOptional_number, ok_bind, asText_sha L hconfig,
    asText_sha L hsignal, asText_sha L hplan]
  have hconstruct := construct_contentOf h
  unfold contentOf at hconstruct
  rw [hconstruct, ok_bind]
  exact check_bind_eq_ok.mpr ⟨rfl, rfl⟩

theorem mapM_entries {entries : List Route.RouteScorecardEntry}
    (h : ∀ e ∈ entries, Canonical e.key) :
    (entries.map fun e => (.object (entryFields e) : Document)).mapM (entryFromPayload L) =
      .ok entries := by
  induction entries with
  | nil => rfl
  | cons e entries ih =>
    obtain ⟨he, hrest⟩ := List.forall_mem_cons.mp h
    rw [List.map_cons, List.mapM_cons, entryFromPayload_fields L he, ok_bind, ih hrest]
    rfl

theorem routeScorecardFromPayload_payload {s : RouteScorecard C L}
    (hentries : ∀ e ∈ s.entries, Canonical e.key) {now : Int}
    (hstart : s.generatedAt.instant ≤ now) (hend : now < s.expiresAt.instant) :
    routeScorecardFromPayload C L s.payload now none true = .ok s := by
  obtain ⟨fields, hfields⟩ : ∃ fields, fields = s.contentFields ++
    [("digest", Speculative.Value.text s.digest.val)] := ⟨_, rfl⟩
  have hnames : fields.map Prod.fst = rootNames := hfields ▸ rfl
  have hget : ∀ f ∈ s.contentFields ++ [("digest", Speculative.Value.text s.digest.val)],
      Speculative.Value.get fields f.1 = f.2 := hfields ▸ get_fields hnames (by decide)
  unfold RouteScorecard.payload
  rw [← hfields]
  simp only [ScorecardContent.contentFields, List.mem_append, List.mem_cons, List.not_mem_nil,
    or_false, or_imp, forall_and, forall_eq] at hget
  have htext (t : Timestamp C) : (Speculative.Value.text t.text).asText L = t.text :=
    Speculative.asText_text L (C.fromisoformat_isoformat _ _ t.rendered).2.2
  have hstrength : (Speculative.Value.text (strengthName s.minimumEvidenceStrength)).asText L =
      strengthName s.minimumEvidenceStrength := by
    refine Speculative.asText_text L ?_
    cases s.minimumEvidenceStrength <;> decide
  have hsome : (s.entries.map fun e => (.object (entryFields e) : Document)).isEmpty = false := by
    rw [List.isEmpty_eq_false_iff]
    exact fun hnil => s.nonempty (List.map_eq_nil_iff.mp hnil)
  have hscorecard : scorecardOfFields C L fields = .ok s := by
    unfold scorecardOfFields
    simp only [hget, readList, ok_bind]
    rw [check_of hsome, ok_bind, mapM_entries L hentries, ok_bind]
    simp only [checkText_of, ok_bind, htext, hstrength, requireUtcTimestamp_text,
      requireEvidenceStrength_name, readNumber_number, readDigest_text,
      requireRate_of s.minimumConfidence.property, asText_sha L s.digest.property]
    exact construct_scorecard L s
  have hunknown : (fields.map Prod.fst).filter (· ∉ rootNames) = [] := by
    rw [hnames]
    decide
  unfold routeScorecardFromPayload strictMapping
  rw [ok_bind]
  dsimp only
  rw [check_of hunknown, ok_bind, hscorecard, ok_bind]
  unfold validateFreshness
  rw [if_neg (by decide), check_of hstart, ok_bind, check_of hend]
  rfl

end LocalMoe.Scorecard
