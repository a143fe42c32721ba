/-
  The receipts of a cascade, their constructors and their payloads.
-/
import LocalMoe.Cascade.Verifier

namespace LocalMoe.Cascade

open Foundation Contracts Canary

variable (R : Runtime)

/-! ## Token counts -/

def TokenCount.payload (usage : TokenCount) : Value :=
  .dict [("schema_version", .str schemaVersion), ("contract", .str "LocalCascadeTokenCountV1"),
    ("source", .str usage.source.name),
    ("count", usage.count.elim .none fun n => .int n)]

def TokenCount.construct (version contract source count : Value) :
    Except CascadeError TokenCount := do
  schemaContract version contract "LocalCascadeTokenCountV1"
  match ← member [.actual, .estimated, .unknown] TokenSource.name source
      "token source must be one of: actual, estimated, unknown." with
  | .unknown =>
    match count with
    | .none => return .unknown
    | _ => .error (.contract "unknown token counts must use a null count.")
  | source =>
    let n ← integer count "token count" 0 maxTokenCount
    if h : source ≠ .unknown ∧ n ≤ maxTokenCount then
      return ⟨source, some n, by simp [h.1], by simpa using h.2⟩
    else .error (.contract "token count must be an integer.")

def TokenCount.fromPayload (value : Value) : Except CascadeError TokenCount := do
  let raw ← exactFields value ["schema_version", "contract", "source", "count"]
    "LocalCascadeTokenCountV1"
  construct (raw "schema_version") (raw "contract") (raw "source") (raw "count")

/-! ## Attempt receipts -/

inductive AttemptStatus where
  | abstained | completed | error
  deriving DecidableEq, Repr

def AttemptStatus.name : AttemptStatus → String
  | .abstained => "abstained"
  | .completed => "completed"
  | .error => "error"

inductive VerificationStatus where
  | escalate | passed
  deriving DecidableEq, Repr

def VerificationStatus.name : VerificationStatus → String
  | .escalate => "escalate"
  | .passed => "passed"

structure AttemptReceipt where
  attemptNumber : Nat
  tierId : String
  costRank : Nat
  requestSha256 : String
  outputSha256 : Option String
  attemptStatus : AttemptStatus
  verificationStatus : VerificationStatus
  verifierReasonCodes : List String
  durationMs : ℚ
  inputTokens : TokenCount
  outputTokens : TokenCount
  deriving DecidableEq

/-- The arguments of `LocalCascadeAttemptReceiptV1`. -/
structure AttemptArgs where
  version : Value
  contract : Value
  attemptNumber : Value
  tierId : Value
  costRank : Value
  requestSha256 : Value
  outputSha256 : Value
  attemptStatus : Value
  verificationStatus : Value
  verifierReasonCodes : Value
  durationMs : Value
  inputTokens : TokenCount
  outputTokens : TokenCount

namespace AttemptReceipt

/-- The rules that relate the status to the digest and the codes. -/
def checkOutcome (attempt : AttemptStatus) (verification : VerificationStatus)
    (output : Option String) (codes : List String) : Except CascadeError Unit := do
  check (verification = .passed → codes = [])
    (.contract "a passed verification cannot contain reason codes.")
  check (verification = .escalate → codes ≠ [])
    (.contract "an escalation requires verifier reason codes.")
  check (attempt = .completed → output ≠ none)
    (.contract "a completed attempt requires an output_sha256.")
  check (attempt = .completed → verification = .escalate →
      ∀ code ∈ codes, code ∈ contentVerifierReasonCodes ++ tokenLimitCodes)
    (.contract "a completed escalation contains unsupported verifier reasons.")
  check (attempt ≠ .completed → output = none)
    (.contract "an abstained or errored attempt cannot contain output_sha256.")
  check (attempt ≠ .completed → verification = .escalate)
    (.contract "only a completed attempt can pass verification.")
  check (attempt = .abstained → "attempt_abstained" ∈ codes ∧
      ∀ code ∈ codes, code ∈ "attempt_abstained" :: tokenLimitCodes)
    (.contract "an abstained attempt requires consistent reason codes.")
  check (attempt = .error → codes.length = 1 ∧ ∀ code ∈ codes, code ∈ attemptErrorReasonCodes)
    (.contract "an errored attempt requires one supported error reason.")

def construct (args : AttemptArgs) : Except CascadeError AttemptReceipt := do
  schemaContract args.version args.contract "LocalCascadeAttemptReceiptV1"
  let attemptNumber ← integer args.attemptNumber "attempt_number" 1 maxTiers
  let tierId ← safeId args.tierId "tier_id"
  let costRank ← integer args.costRank "cost_rank" 0 1000000
  let requestSha256 ← digest args.requestSha256
    "request_sha256 must be a lowercase SHA-256 digest."
  let outputSha256 ← optionalSha256 args.outputSha256 "output_sha256"
  let attempt ← member [.abstained, .completed, .error] AttemptStatus.name args.attemptStatus
    "attempt_status is unsupported."
  let verification ← member [.escalate, .passed] VerificationStatus.name args.verificationStatus
    "verification_status is unsupported."
  let codes ← identifiers args.verifierReasonCodes "verifier_reason_codes" maxReasonCodes
  checkOutcome attempt verification outputSha256 codes
  let durationMs ← finiteFloat R args.durationMs "duration_ms"
  check (attempt = .error →
      args.inputTokens.source = .unknown ∧ args.outputTokens.source = .unknown)
    (.contract "errored attempts must keep token counts unknown.")
  return {
    attemptNumber := attemptNumber
    tierId := tierId
    costRank := costRank
    requestSha256 := requestSha256
    outputSha256 := outputSha256
    attemptStatus := attempt
    verificationStatus := verification
    verifierReasonCodes := codes
    durationMs := durationMs
    inputTokens := args.inputTokens
    outputTokens := args.outputTokens }

variable (r : AttemptReceipt)

/-- The arguments that a receipt shows. -/
def args : AttemptArgs where
  version := .str schemaVersion
  contract := .str "LocalCascadeAttemptReceiptV1"
  attemptNumber := .int r.attemptNumber
  tierId := .str r.tierId
  costRank := .int r.costRank
  requestSha256 := .str r.requestSha256
  outputSha256 := r.outputSha256.elim .none .str
  attemptStatus := .str r.attemptStatus.name
  verificationStatus := .str r.verificationStatus.name
  verifierReasonCodes := .list (r.verifierReasonCodes.map .str)
  durationMs := .float (some r.durationMs)
  inputTokens := r.inputTokens
  outputTokens := r.outputTokens

/-- The fields of the payload but the duration. -/
def stableFields : List (String × Value) :=
  [("schema_version", r.args.version), ("contract", r.args.contract),
    ("attempt_number", r.args.attemptNumber), ("tier_id", r.args.tierId),
    ("cost_rank", r.args.costRank), ("request_sha256", r.args.requestSha256),
    ("output_sha256", r.args.outputSha256), ("attempt_status", r.args.attemptStatus),
    ("verification_status", r.args.verificationStatus),
    ("verifier_reason_codes", r.args.verifierReasonCodes),
    ("input_tokens", r.inputTokens.payload), ("output_tokens", r.outputTokens.payload)]

def payload : Value := .dict (("duration_ms", r.args.durationMs) :: r.stableFields)

def fromPayload (value : Value) : Except CascadeError AttemptReceipt := do
  let raw ← exactFields value ["schema_version", "contract", "attempt_number", "tier_id",
    "cost_rank", "request_sha256", "output_sha256", "attempt_status", "verification_status",
    "verifier_reason_codes", "duration_ms", "input_tokens", "output_tokens"]
    "LocalCascadeAttemptReceiptV1"
  let inputTokens ← TokenCount.fromPayload (raw "input_tokens")
  let outputTokens ← TokenCount.fromPayload (raw "output_tokens")
  construct R {
    version := raw "schema_version"
    contract := raw "contract"
    attemptNumber := raw "attempt_number"
    tierId := raw "tier_id"
    costRank := raw "cost_rank"
    requestSha256 := raw "request_sha256"
    outputSha256 := raw "output_sha256"
    attemptStatus := raw "attempt_status"
    verificationStatus := raw "verification_status"
    verifierReasonCodes := raw "verifier_reason_codes"
    durationMs := raw "duration_ms"
    inputTokens := inputTokens
    outputTokens := outputTokens }

end AttemptReceipt

/-! ## Token totals -/

structure TokenTotals where
  actualInputTokens : Nat
  actualOutputTokens : Nat
  estimatedInputTokens : Nat
  estimatedOutputTokens : Nat
  unknownInputAttempts : Nat
  unknownOutputAttempts : Nat
  deriving DecidableEq

namespace TokenTotals

def construct (version contract actualInput actualOutput estimatedInput estimatedOutput
    unknownInput unknownOutput : Value) : Except CascadeError TokenTotals := do
  schemaContract version contract "LocalCascadeTokenTotalsV1"
  let actualInputTokens ← integer actualInput "actual_input_tokens" 0 maxTokenCount
  let actualOutputTokens ← integer actualOutput "actual_output_tokens" 0 maxTokenCount
  let estimatedInputTokens ← integer estimatedInput "estimated_input_tokens" 0 maxTokenCount
  let estimatedOutputTokens ← integer estimatedOutput "estimated_output_tokens" 0 maxTokenCount
  let unknownInputAttempts ← integer unknownInput "unknown_input_attempts" 0 maxTokenCount
  let unknownOutputAttempts ← integer unknownOutput "unknown_output_attempts" 0 maxTokenCount
  return {
    actualInputTokens := actualInputTokens
    actualOutputTokens := actualOutputTokens
    estimatedInputTokens := estimatedInputTokens
    estimatedOutputTokens := estimatedOutputTokens
    unknownInputAttempts := unknownInputAttempts
    unknownOutputAttempts := unknownOutputAttempts }

variable (t : TokenTotals)

def payload : Value :=
  .dict [("schema_version", .str schemaVersion), ("contract", .str "LocalCascadeTokenTotalsV1"),
    ("actual_input_tokens", .int t.actualInputTokens),
    ("actual_output_tokens", .int t.actualOutputTokens),
    ("estimated_input_tokens", .int t.estimatedInputTokens),
    ("estimated_output_tokens", .int t.estimatedOutputTokens),
    ("unknown_input_attempts", .int t.unknownInputAttempts),
    ("unknown_output_attempts", .int t.unknownOutputAttempts)]

def fromPayload (value : Value) : Except CascadeError TokenTotals := do
  let raw ← exactFields value ["schema_version", "contract", "actual_input_tokens",
    "actual_output_tokens", "estimated_input_tokens", "estimated_output_tokens",
    "unknown_input_attempts", "unknown_output_attempts"] "LocalCascadeTokenTotalsV1"
  construct (raw "schema_version") (raw "contract") (raw "actual_input_tokens")
    (raw "actual_output_tokens") (raw "estimated_input_tokens") (raw "estimated_output_tokens")
    (raw "unknown_input_attempts") (raw "unknown_output_attempts")

/-- What the attempts add up to. -/
def sums (attempts : List AttemptReceipt) : TokenTotals :=
  let total (tokens : AttemptReceipt → TokenCount) (source : TokenSource) : Nat :=
    (attempts.map fun a =>
      if (tokens a).source = source then (tokens a).count.getD 0 else 0).sum
  let unknown (tokens : AttemptReceipt → TokenCount) : Nat :=
    attempts.countP fun a => (tokens a).source = .unknown
  { actualInputTokens := total AttemptReceipt.inputTokens .actual
    actualOutputTokens := total AttemptReceipt.outputTokens .actual
    estimatedInputTokens := total AttemptReceipt.inputTokens .estimated
    estimatedOutputTokens := total AttemptReceipt.outputTokens .estimated
    unknownInputAttempts := unknown AttemptReceipt.inputTokens
    unknownOutputAttempts := unknown AttemptReceipt.outputTokens }

/-- The bound that the constructor puts on each total. -/
structure Bounded : Prop where
  actualInput : t.actualInputTokens ≤ maxTokenCount
  actualOutput : t.actualOutputTokens ≤ maxTokenCount
  estimatedInput : t.estimatedInputTokens ≤ maxTokenCount
  estimatedOutput : t.estimatedOutputTokens ≤ maxTokenCount
  unknownInput : t.unknownInputAttempts ≤ maxTokenCount
  unknownOutput : t.unknownOutputAttempts ≤ maxTokenCount

end TokenTotals

def buildTokenTotals (attempts : List AttemptReceipt) : Except CascadeError TokenTotals :=
  let totals := TokenTotals.sums attempts
  TokenTotals.construct (.str schemaVersion) (.str "LocalCascadeTokenTotalsV1")
    (.int totals.actualInputTokens) (.int totals.actualOutputTokens)
    (.int totals.estimatedInputTokens) (.int totals.estimatedOutputTokens)
    (.int totals.unknownInputAttempts) (.int totals.unknownOutputAttempts)

/-! ## Receipts -/

inductive RunStatus where
  | allAbstained | exhausted | passed
  deriving DecidableEq, Repr

def RunStatus.name : RunStatus → String
  | .allAbstained => "all_abstained"
  | .exhausted => "exhausted"
  | .passed => "passed"

def isRunId (text : String) : Bool :=
  let digits := text.toList.drop 12
  decide (text.toList.take 12 = "cascade-run-".toList) && digits.length == 32 &&
    digits.all isLowerHex

/-- `LocalCascadeReceiptV1`.  The scope, its attestation and `parallel_attempts` have one
value each. -/
structure CascadeReceipt where
  runId : String
  taskSha256 : String
  configSha256 : String
  status : RunStatus
  selectedTierId : Option String
  attemptCount : Nat
  totalDurationMs : ℚ
  attempts : List AttemptReceipt
  tokenTotals : TokenTotals
  evidenceSha256 : String
  deriving DecidableEq

/-- The arguments of `LocalCascadeReceiptV1`; an attempt is a receipt or a payload. -/
structure ReceiptArgs where
  version : Value
  contract : Value
  runId : Value
  taskSha256 : Value
  configSha256 : Value
  status : Value
  selectedTierId : Value
  attemptCount : Value
  totalDurationMs : Value
  attempts : Option (List (AttemptReceipt ⊕ Value))
  tokenTotals : TokenTotals
  evidenceSha256 : Value
  requestedExecutionScope : Value
  executionScopeAttestation : Value
  parallelAttempts : Value

def buildEvidenceSha256 (taskSha256 configSha256 : String) (status : RunStatus)
    (selectedTierId : Option String) (attempts : List AttemptReceipt)
    (tokenTotals : TokenTotals) : Digest :=
  R.sha256Json (.dict [
    ("schema_version", .str schemaVersion), ("contract", .str "LocalCascadeEvidenceV1"),
    ("task_sha256", .str taskSha256), ("config_sha256", .str configSha256),
    ("status", .str status.name), ("selected_tier_id", selectedTierId.elim .none .str),
    ("attempt_count", .int attempts.length),
    ("attempts", .list (attempts.map fun a => .dict a.stableFields)),
    ("token_totals", tokenTotals.payload),
    ("requested_execution_scope", .str "offline_local"),
    ("execution_scope_attestation", .str "adapter_declared_unverified")])

namespace CascadeReceipt

/-- A tier that is named or none. -/
def optionalSafeId (value : Value) (label : String) : Except CascadeError (Option String) :=
  match value with
  | .none => .ok none
  | value => do
    let rendered ← safeId value label
    return some rendered

/-- An attempt, read when it is given as a payload. -/
def readAttempt : AttemptReceipt ⊕ Value → Except CascadeError AttemptReceipt
  | .inl receipt => .ok receipt
  | .inr value => AttemptReceipt.fromPayload R value

/-- The attempts, those given as payloads read. -/
def readAttempts (attempts : Option (List (AttemptReceipt ⊕ Value))) :
    Except CascadeError (List AttemptReceipt) :=
  match attempts with
  | none => .error (.contract "attempts must be a list.")
  | some items => items.mapM (readAttempt R)

/-- The attempts are numbered from one, cheapest first. -/
def checkSequence (attempts : List AttemptReceipt) (count : Nat) : Except CascadeError Unit := do
  check (attempts.map AttemptReceipt.attemptNumber = List.range' 1 count)
    (.contract "attempt receipt numbers must be contiguous and ordered.")
  check (attempts.map AttemptReceipt.tierId).Nodup
    (.contract "attempt receipt tier_id values must be unique.")
  check ((attempts.map AttemptReceipt.costRank).Nodup ∧
      (attempts.map AttemptReceipt.costRank).Pairwise (· ≤ ·))
    (.contract "attempt receipt cost ranks must be unique and increasing.")

/-- The status agrees with the attempts.  The numbers of the attempts are apart, so two of
them are the same object when they are equal. -/
def checkStatus (status : RunStatus) (selectedTierId : Option String)
    (attempts : List AttemptReceipt) : Except CascadeError Unit := do
  let passed := attempts.filter fun a => a.verificationStatus = .passed
  check (status = .passed → passed.length = 1 ∧ passed.head? = attempts.getLast? ∧
      selectedTierId = passed.head?.map AttemptReceipt.tierId)
    (.contract "a passed run requires one final matching passed attempt.")
  check (status ≠ .passed → passed = [])
    (.contract "a non-passed run cannot contain a passed attempt.")
  check (status = .allAbstained → ∀ a ∈ attempts, a.attemptStatus = .abstained)
    (.contract "all_abstained requires every attempt to abstain.")
  check (status = .exhausted → ¬ ∀ a ∈ attempts, a.attemptStatus = .abstained)
    (.contract "an all-abstained run cannot use exhausted status.")

def construct (args : ReceiptArgs) : Except CascadeError CascadeReceipt := do
  schemaContract args.version args.contract "LocalCascadeReceiptV1"
  let runId ← match args.runId with
    | .str text => if isRunId text then .ok text else .error (.contract
        "run_id must be cascade-run- followed by 32 lowercase hex characters.")
    | _ => .error (.contract
        "run_id must be cascade-run- followed by 32 lowercase hex characters.")
  let taskSha256 ← digest args.taskSha256 "task_sha256 must be a lowercase SHA-256 digest."
  let configSha256 ← digest args.configSha256 "config_sha256 must be a lowercase SHA-256 digest."
  let status ← member [.allAbstained, .exhausted, .passed] RunStatus.name args.status
    "LocalCascade status is unsupported."
  let selectedTierId ← optionalSafeId args.selectedTierId "selected_tier_id"
  check (status = .passed ↔ selectedTierId ≠ none)
    (.contract "selected_tier_id must be present exactly when status is passed.")
  let attempts ← readAttempts R args.attempts
  check (attempts ≠ [] ∧ attempts.length ≤ maxTiers)
    (.contract "attempts must contain between 1 and 16 items.")
  let count ← integer args.attemptCount "attempt_count" 1 maxTiers
  check (count = attempts.length)
    (.contract "attempt_count must equal the number of attempt receipts.")
  checkSequence attempts count
  let totalDurationMs ← finiteFloat R args.totalDurationMs "total_duration_ms"
  let expectedTotals ← buildTokenTotals attempts
  check (args.tokenTotals = expectedTotals)
    (.contract "token_totals must exactly match the attempt receipts.")
  checkStatus status selectedTierId attempts
  check (args.requestedExecutionScope.isText "offline_local" = true)
    (.contract "receipt requested_execution_scope must be offline_local.")
  check (args.executionScopeAttestation.isText "adapter_declared_unverified" = true)
    (.contract "receipt execution_scope_attestation must remain explicitly unverified.")
  let _ ← integer args.parallelAttempts "parallel_attempts" 1 1
  let evidence ← digest args.evidenceSha256 "evidence_sha256 must be a lowercase SHA-256 digest."
  check (evidence =
      buildEvidenceSha256 R taskSha256 configSha256 status selectedTierId attempts args.tokenTotals)
    (.contract "evidence_sha256 does not match the semantic receipt evidence.")
  return {
    runId := runId
    taskSha256 := taskSha256
    configSha256 := configSha256
    status := status
    selectedTierId := selectedTierId
    attemptCount := count
    totalDurationMs := totalDurationMs
    attempts := attempts
    tokenTotals := args.tokenTotals
    evidenceSha256 := evidence }

variable (r : CascadeReceipt)

/-- The arguments that a receipt shows, with its attempts as they are given. -/
def args (attempts : List (AttemptReceipt ⊕ Value)) : ReceiptArgs where
  version := .str schemaVersion
  contract := .str "LocalCascadeReceiptV1"
  runId := .str r.runId
  taskSha256 := .str r.taskSha256
  configSha256 := .str r.configSha256
  status := .str r.status.name
  selectedTierId := r.selectedTierId.elim .none .str
  attemptCount := .int r.attemptCount
  totalDurationMs := .float (some r.totalDurationMs)
  attempts := some attempts
  tokenTotals := r.tokenTotals
  evidenceSha256 := .str r.evidenceSha256
  requestedExecutionScope := .str "offline_local"
  executionScopeAttestation := .str "adapter_declared_unverified"
  parallelAttempts := .int 1

def payload : Value :=
  let shown := r.args []
  .dict [("schema_version", shown.version), ("contract", shown.contract),
    ("run_id", shown.runId), ("task_sha256", shown.taskSha256),
    ("config_sha256", shown.configSha256), ("status", shown.status),
    ("selected_tier_id", shown.selectedTierId), ("attempt_count", shown.attemptCount),
    ("total_duration_ms", shown.totalDurationMs),
    ("attempts", .list (r.attempts.map AttemptReceipt.payload)),
    ("token_totals", r.tokenTotals.payload), ("evidence_sha256", shown.evidenceSha256),
    ("requested_execution_scope", shown.requestedExecutionScope),
    ("execution_scope_attestation", shown.executionScopeAttestation),
    ("parallel_attempts", shown.parallelAttempts)]

def items (value : Value) : Option (List (AttemptReceipt ⊕ Value)) :=
  match value with
  | .list items => some (items.map .inr)
  | _ => none

def fromPayload (value : Value) : Except CascadeError CascadeReceipt := do
  let raw ← exactFields value ["schema_version", "contract", "run_id", "task_sha256",
    "config_sha256", "status", "selected_tier_id", "attempt_count", "total_duration_ms",
    "attempts", "token_totals", "evidence_sha256", "requested_execution_scope",
    "execution_scope_attestation", "parallel_attempts"] "LocalCascadeReceiptV1"
  let tokenTotals ← TokenTotals.fromPayload (raw "token_totals")
  construct R {
    version := raw "schema_version"
    contract := raw "contract"
    runId := raw "run_id"
    taskSha256 := raw "task_sha256"
    configSha256 := raw "config_sha256"
    status := raw "status"
    selectedTierId := raw "selected_tier_id"
    attemptCount := raw "attempt_count"
    totalDurationMs := raw "total_duration_ms"
    attempts := items (raw "attempts")
    tokenTotals := tokenTotals
    evidenceSha256 := raw "evidence_sha256"
    requestedExecutionScope := raw "requested_execution_scope"
    executionScopeAttestation := raw "execution_scope_attestation"
    parallelAttempts := raw "parallel_attempts" }

end CascadeReceipt

end LocalMoe.Cascade
