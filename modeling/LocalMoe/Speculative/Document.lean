/-
  The receipt as a document, and how it is read back.
-/
import LocalMoe.Speculative.Contracts

namespace LocalMoe.Speculative

open Foundation Contracts

/-! ## Values -/

inductive Value where
  | null
  | bool (value : Bool)
  | int (value : Int)
  | number (value : ℚ)
  | text (value : String)
  | list (items : List Value)
  | object (fields : List (String × Value))

/-- What the reader uses of the language: `str`, `int` and `float` of the values that they
convert, and `sha256_json`. -/
structure Conversions where
  /-- `str(value)` of a value that is no text. -/
  str : Value → String
  /-- `int(text)`. -/
  int : String → Option Int
  /-- `float(text)`, when it is finite. -/
  float : String → Option ℚ
  sha256Json : List (String × Value) → String
  isSha256_sha256Json : ∀ fields, isSha256 (sha256Json fields) = true

namespace Value

variable (L : Conversions)

/-- `str(value)`. -/
def rendered : Value → String
  | .text value => value
  | value => L.str value

/-- `bool(value)`. -/
def truthy : Value → Bool
  | .null => false
  | .bool value => value
  | .int value => decide (value ≠ 0)
  | .number value => decide (value ≠ 0)
  | .text value => value ≠ ""
  | .list items => !items.isEmpty
  | .object fields => !fields.isEmpty

/-- `str(value or "")`. -/
def asText (value : Value) : String :=
  if value.truthy then value.rendered L else ""

/-- The number a value converts to, when it is the value of an integer: `int(value)` and
`float(value)` agree. -/
def asInt : Value → Option Int
  | .int value => some value
  | .number value => if value.den = 1 then some value.num else none
  | .text value =>
    match L.int value, L.float value with
    | some n, some q => if q = n then some n else none
    | _, _ => none
  | _ => none

/-- `float(value)`, when it is finite. -/
def asFloat : Value → Option ℚ
  | .int value => some value
  | .number value => some value
  | .text value => L.float value
  | _ => none

def get (fields : List (String × Value)) (key : String) : Value :=
  (fields.lookup key).getD .null

/-- `None` or a number. -/
def ofNumber : Option ℚ → Value
  | none => .null
  | some value => .number value

end Value

/-! ## Names -/

def Decision.name : Decision → String
  | .qualified => "qualified"
  | .rejected => "rejected"
  | .abstained => "abstained"

def Decision.ofName (name : String) : Option Decision :=
  [Decision.qualified, .rejected, .abstained].find? fun decision => decision.name = name

theorem Decision.ofName_name (decision : Decision) :
    Decision.ofName decision.name = some decision := by
  cases decision <;> rfl

def ReasonCode.name : ReasonCode → String
  | .candidateAcceptanceBelowThreshold => "candidate_acceptance_below_threshold"
  | .candidateAcceptanceMissing => "candidate_acceptance_missing"
  | .candidateMemoryBudgetExceeded => "candidate_memory_budget_exceeded"
  | .evidenceExecutionFailed => "evidence_execution_failed"
  | .evidenceIncomplete => "evidence_incomplete"
  | .evidenceNotCounterbalanced => "evidence_not_counterbalanced"
  | .evidenceScheduleMismatch => "evidence_schedule_mismatch"
  | .exactOutputMismatch => "exact_output_mismatch"
  | .medianSpeedupBelowThreshold => "median_speedup_below_threshold"
  | .p95LatencyRegression => "p95_latency_regression"
  | .p95TtftRegression => "p95_ttft_regression"

def ReasonCode.ofName (name : String) : Option ReasonCode :=
  Speculative.reasonCodes.find? fun code => code.name = name

theorem ReasonCode.ofName_name (code : ReasonCode) : ReasonCode.ofName code.name = some code := by
  cases code <;> rfl

/-! ## The writer -/

/-- The three ratios and the acceptance rate of a regime, as the document shows them. -/
def metricsFields (regime : String) (metrics : Option RegimeMetrics) : List (String × Value) :=
  [(regime ++ "_median_speedup_ratio", .ofNumber (metrics.map (·.medianSpeedupRatio))),
    (regime ++ "_p95_latency_ratio", .ofNumber (metrics.map (·.p95LatencyRatio))),
    (regime ++ "_p95_ttft_ratio", .ofNumber (metrics.map (·.p95TtftRatio))),
    (regime ++ "_candidate_acceptance_rate",
      .ofNumber (SpeculativeQualificationReceipt.acceptance metrics))]

def SpeculativeQualificationReceipt.contentFields (r : SpeculativeQualificationReceipt) :
    List (String × Value) :=
  [("schema_version", .text contractVersion), ("plan_sha256", .text r.planSha256.val),
    ("evidence_sha256", .text r.evidenceSha256.val), ("decision", .text r.decision.name),
    ("reason_codes", .list (r.reasonCodes.map fun code => .text code.name)),
    ("expected_trials", .int r.expectedTrials), ("expected_cases", .int r.expectedCases),
    ("trials_per_case", .int r.trialsPerCase), ("observed_trials", .int r.observedTrials),
    ("unique_cases", .int r.uniqueCases), ("cold_trials", .int r.coldTrials),
    ("warm_trials", .int r.warmTrials), ("failed_arms", .int r.failedArms),
    ("output_mismatches", .int r.outputMismatches)] ++
  metricsFields "cold" r.cold ++ metricsFields "warm" r.warm ++
  [("candidate_peak_memory_bytes", r.candidatePeakMemoryBytes.elim .null fun n => .int n),
    ("activation_authorized", .bool false),
    ("authority", .text "host_attested_unsigned_advisory")]

def SpeculativeQualificationReceipt.payload (L : Conversions)
    (r : SpeculativeQualificationReceipt) : Value :=
  .object (r.contentFields ++ [("digest", .text (L.sha256Json r.contentFields))])

/-! ## The reader

The fields are read before the constructor compares them, so a document with several faults
may be refused for another one than the source names. -/

variable (L : Conversions)

def receiptFields : List String :=
  ["schema_version", "plan_sha256", "evidence_sha256", "decision", "reason_codes",
    "expected_trials", "expected_cases", "trials_per_case", "observed_trials", "unique_cases",
    "cold_trials", "warm_trials", "failed_arms", "output_mismatches",
    "cold_median_speedup_ratio", "cold_p95_latency_ratio", "cold_p95_ttft_ratio",
    "cold_candidate_acceptance_rate", "warm_median_speedup_ratio", "warm_p95_latency_ratio",
    "warm_p95_ttft_ratio", "warm_candidate_acceptance_rate", "candidate_peak_memory_bytes",
    "activation_authorized", "authority", "digest"]

/-- `", ".join(sorted(names))`. -/
def joined (names : List String) : String :=
  ", ".intercalate (names.insertionSort (· ≤ ·))

def strictRecord (value : Value) (expected : List String) (label : String) :
    Except QualifierError (List (String × Value)) :=
  match value with
  | .object fields =>
    let actual := fields.map Prod.fst
    let missing := expected.filter (· ∉ actual)
    let unknown := actual.filter (· ∉ expected)
    if missing = [] ∧ unknown = [] then .ok fields
    else
      let details := (if missing = [] then [] else ["missing " ++ joined missing]) ++
        if unknown = [] then [] else ["unknown " ++ joined unknown]
      .error (.contract ("Invalid " ++ label ++ " fields: " ++ "; ".intercalate details ++ "."))
  | _ => .error (.contract (label ++ " must be an object."))

/-- A value that is there, or a failure. -/
def required {α : Type} (value : Option α) (message : String) : Except QualifierError α :=
  match value with
  | some a => .ok a
  | none => .error (.contract message)

def readSha (value : Value) (label : String) : Except QualifierError Digest :=
  if h : isSha256 (value.asText L) = true then .ok ⟨value.asText L, h⟩
  else .error (.contract (label ++ " must be a lowercase SHA-256 digest."))

def readNat (value : Value) (label : String) : Except QualifierError Nat := do
  let n ← required (value.asInt L) (label ++ " must be an integer.")
  check (0 ≤ n) (.contract (label ++ " must be a non-negative integer."))
  return n.toNat

/-- `_optional_number`, without its bounds, which the constructor checks. -/
def readNumber (value : Value) (label : String) : Except QualifierError (Option ℚ) :=
  match value with
  | .null => .ok none
  | value => some <$> required (value.asFloat L) (label ++ " must be numeric.")

def readOptionalNat (value : Value) (label : String) : Except QualifierError (Option Nat) :=
  match value with
  | .null => .ok none
  | value => some <$> readNat L value label

def readReasons (value : Value) : Except QualifierError (List ReasonCode) :=
  match value with
  | .list items => items.mapM fun item =>
    required (ReasonCode.ofName (item.rendered L)) "Receipt reason codes are invalid."
  | _ => .error (.contract "reason_codes must be a list.")

/-- The metrics of a regime, which are reported together. -/
def readMetrics (fields : List (String × Value)) (regime : String) :
    Except QualifierError (Option RegimeMetrics) := do
  let speedup ← readNumber L (Value.get fields (regime ++ "_median_speedup_ratio"))
    (regime ++ "_median_speedup_ratio")
  let latency ← readNumber L (Value.get fields (regime ++ "_p95_latency_ratio"))
    (regime ++ "_p95_latency_ratio")
  let ttft ← readNumber L (Value.get fields (regime ++ "_p95_ttft_ratio"))
    (regime ++ "_p95_ttft_ratio")
  let rate ← readNumber L (Value.get fields (regime ++ "_candidate_acceptance_rate"))
    (regime ++ "_candidate_acceptance_rate")
  match speedup, latency, ttft with
  | some speedup, some latency, some ttft => return some ⟨speedup, latency, ttft, rate⟩
  | none, none, none => do
    check (rate = none) (.contract "Receipt cannot claim partial performance evidence.")
    return none
  | _, _, _ => .error (.contract "Receipt regime performance metrics must be complete.")

/-- `_digest`: a digest that is given must be the one of the content. -/
def checkDigest (value : Value) (r : SpeculativeQualificationReceipt) :
    Except QualifierError Unit :=
  match value with
  | .null | .text "" => .ok ()
  | value => do
    let digest ← readSha L value "receipt digest"
    check (digest.val = L.sha256Json r.contentFields)
      (.contract "receipt digest does not match its content.")

def Value.isFalse : Value → Bool
  | .bool false => true
  | _ => false

def Value.isText (expected : String) : Value → Bool
  | .text value => value == expected
  | _ => false

/-- `SpeculativeQualificationReceipt(**raw)`. -/
def receiptOfFields (fields : List (String × Value)) :
    Except QualifierError SpeculativeQualificationReceipt := do
  let get := Value.get fields
  check ((get "schema_version").isText contractVersion = true)
    (.contract "Unsupported qualification receipt schema version.")
  let planSha256 ← readSha L (get "plan_sha256") "plan_sha256"
  let evidenceSha256 ← readSha L (get "evidence_sha256") "evidence_sha256"
  let decision ← required (Decision.ofName ((get "decision").asText L))
    "decision is not supported."
  let reasonCodes ← readReasons L (get "reason_codes")
  let expectedTrials ← readNat L (get "expected_trials") "expected_trials"
  let expectedCases ← readNat L (get "expected_cases") "expected_cases"
  let trialsPerCase ← readNat L (get "trials_per_case") "trials_per_case"
  let observedTrials ← readNat L (get "observed_trials") "observed_trials"
  let uniqueCases ← readNat L (get "unique_cases") "unique_cases"
  let coldTrials ← readNat L (get "cold_trials") "cold_trials"
  let warmTrials ← readNat L (get "warm_trials") "warm_trials"
  let failedArms ← readNat L (get "failed_arms") "failed_arms"
  let outputMismatches ← readNat L (get "output_mismatches") "output_mismatches"
  let cold ← readMetrics L fields "cold"
  let warm ← readMetrics L fields "warm"
  let candidatePeakMemoryBytes ← readOptionalNat L (get "candidate_peak_memory_bytes")
    "candidate_peak_memory_bytes"
  let r ← SpeculativeQualificationReceipt.construct {
    planSha256, evidenceSha256, decision, reasonCodes, expectedTrials, expectedCases,
    trialsPerCase, observedTrials, uniqueCases, coldTrials, warmTrials, failedArms,
    outputMismatches, cold, warm, candidatePeakMemoryBytes }
  check ((get "activation_authorized").isFalse = true)
    (.contract "Receipt cannot authorize activation.")
  check ((get "authority").isText "host_attested_unsigned_advisory" = true)
    (.contract "Receipt authority is invalid.")
  checkDigest L (get "digest") r
  return r

def speculativeReceiptFromPayload (value : Value) :
    Except QualifierError SpeculativeQualificationReceipt := do
  let fields ← strictRecord value receiptFields "qualification receipt"
  receiptOfFields L fields

/-! ## Reading back -/

theorem truthy_sha {s : String} (h : isSha256 s = true) : (Value.text s).truthy = true := by
  have hne : s ≠ "" := by
    rintro rfl
    exact absurd h (by decide)
  exact decide_eq_true hne

theorem asText_text {s : String} (h : s ≠ "") : (Value.text s).asText L = s := by
  unfold Value.asText Value.truthy
  rw [if_pos (decide_eq_true h)]
  rfl

theorem readSha_digest (d : Digest) (label : String) : readSha L (.text d.val) label = .ok d := by
  have hne : d.val ≠ "" := of_decide_eq_true (truthy_sha d.property)
  unfold readSha
  have hsha : isSha256 ((Value.text d.val).asText L) = true := by
    rw [asText_text L hne]
    exact d.property
  rw [dif_pos hsha]
  exact congrArg Except.ok (Subtype.ext (asText_text L hne))

theorem readNat_int (n : Nat) (label : String) : readNat L (.int n) label = .ok n := by
  unfold readNat Value.asInt required
  rw [ok_bind]
  exact check_bind_eq_ok.mpr ⟨Int.natCast_nonneg n, rfl⟩

theorem readNumber_ofNumber (q : Option ℚ) (label : String) :
    readNumber L (.ofNumber q) label = .ok q := by
  cases q <;> rfl

theorem readOptionalNat_elim (n : Option Nat) (label : String) :
    readOptionalNat L (n.elim .null fun n => .int n) label = .ok n := by
  cases n with
  | none => rfl
  | some n =>
    change some <$> readNat L (.int n) label = _
    rw [readNat_int]
    rfl

theorem readReasons_names (codes : List ReasonCode) :
    readReasons L (.list (codes.map fun code => .text code.name)) = .ok codes := by
  change (codes.map fun code => Value.text code.name).mapM _ = _
  induction codes with
  | nil => rfl
  | cons code rest ih =>
    rw [List.map_cons, List.mapM_cons]
    refine bind_eq_ok.mpr ⟨code, ?_, bind_eq_ok.mpr ⟨rest, ih, rfl⟩⟩
    unfold Value.rendered required
    rw [ReasonCode.ofName_name]

theorem readDecision_name (decision : Decision) (message : String) :
    required (Decision.ofName ((Value.text decision.name).asText L)) message = .ok decision := by
  have hne : decision.name ≠ "" := by cases decision <;> decide
  rw [asText_text L hne, Decision.ofName_name]
  rfl

variable {fields : List (String × Value)}

theorem readMetrics_fields {regime : String} {metrics : Option RegimeMetrics}
    (h : ∀ f ∈ metricsFields regime metrics, Value.get fields f.1 = f.2) :
    readMetrics L fields regime = .ok metrics := by
  unfold metricsFields at h
  simp only [List.mem_cons, List.not_mem_nil, or_false, forall_eq_or_imp, forall_eq] at h
  obtain ⟨hspeedup, hlatency, httft, hrate⟩ := h
  unfold readMetrics
  rw [hspeedup, hlatency, httft, hrate]
  simp only [readNumber_ofNumber, ok_bind]
  cases metrics with
  | none => rfl
  | some m => rfl

variable (r : SpeculativeQualificationReceipt)

theorem checkDigest_text : checkDigest L (.text (L.sha256Json r.contentFields)) r = .ok () := by
  have hsha := L.isSha256_sha256Json r.contentFields
  have hread := readSha_digest L ⟨_, hsha⟩ "receipt digest"
  unfold checkDigest
  split
  · rfl
  · rfl
  · refine bind_eq_ok.mpr ⟨_, hread, check_of rfl⟩

theorem strictRecord_object {names : List String} {label : String}
    (h : fields.map Prod.fst = names) : strictRecord (.object fields) names label = .ok fields := by
  have hself : names.filter (· ∉ names) = [] := by
    refine List.filter_eq_nil_iff.mpr fun name hname => ?_
    simpa using hname
  unfold strictRecord
  simp only [h, hself, and_self, if_true]

theorem get_of_mem (hnodup : (fields.map Prod.fst).Nodup) {f : String × Value} (h : f ∈ fields) :
    Value.get fields f.1 = f.2 := by
  unfold Value.get
  induction fields with
  | nil => cases h
  | cons first rest ih =>
    rw [List.map_cons, List.nodup_cons] at hnodup
    rcases List.mem_cons.mp h with rfl | hrest
    · rw [List.lookup_cons, beq_self_eq_true]
      rfl
    · have hne : f.1 ≠ first.1 := fun heq =>
        hnodup.1 (heq ▸ List.mem_map_of_mem hrest)
      rw [List.lookup_cons, beq_false_of_ne hne]
      exact ih hnodup.2 hrest

theorem payloadFields_names :
    (r.contentFields ++ [("digest", Value.text (L.sha256Json r.contentFields))]).map Prod.fst =
      receiptFields := by
  unfold SpeculativeQualificationReceipt.contentFields metricsFields
  rfl

theorem receiptFields_nodup : receiptFields.Nodup := by decide

theorem speculativeReceiptFromPayload_payload {r : SpeculativeQualificationReceipt}
    (h : r.construct = .ok r) : speculativeReceiptFromPayload L (r.payload L) = .ok r := by
  unfold speculativeReceiptFromPayload SpeculativeQualificationReceipt.payload
  rw [strictRecord_object (payloadFields_names L r), ok_bind]
  obtain ⟨fields, hfields⟩ : ∃ fields, fields = r.contentFields ++
    [("digest", Value.text (L.sha256Json r.contentFields))] := ⟨_, rfl⟩
  have hget : ∀ f ∈ r.contentFields ++ [("digest", Value.text (L.sha256Json r.contentFields))],
      Value.get fields f.1 = f.2 := by
    rw [hfields]
    exact fun f hf => get_of_mem (by rw [payloadFields_names]; exact receiptFields_nodup) hf
  rw [← hfields]
  have hdigest : Value.get fields "digest" = .text (L.sha256Json r.contentFields) :=
    hget _ (List.mem_append_right _ List.mem_cons_self)
  have hcontent : ∀ f ∈ r.contentFields, Value.get fields f.1 = f.2 := fun f hf =>
    hget f (List.mem_append_left _ hf)
  have hcold : readMetrics L fields "cold" = .ok r.cold :=
    readMetrics_fields L fun f hf => hcontent f (by
      simp only [SpeculativeQualificationReceipt.contentFields, List.mem_append, hf, true_or,
        or_true])
  have hwarm : readMetrics L fields "warm" = .ok r.warm :=
    readMetrics_fields L fun f hf => hcontent f (by
      simp only [SpeculativeQualificationReceipt.contentFields, List.mem_append, hf, true_or,
        or_true])
  simp only [SpeculativeQualificationReceipt.contentFields, List.mem_append, List.mem_cons,
    List.not_mem_nil, or_false, or_imp, forall_and, forall_eq] at hcontent
  unfold receiptOfFields
  simp only [hcontent, hdigest, hcold, hwarm, readSha_digest, readDecision_name, readReasons_names,
    readNat_int, readOptionalNat_elim, Value.isText, Value.isFalse, beq_self_eq_true, check_of,
    ok_bind, h, checkDigest_text]
  rfl

end LocalMoe.Speculative
