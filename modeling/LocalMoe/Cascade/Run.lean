/-
  `run_local_cascade`: the tiers asked one after the other, cheapest first, until one passes.
-/
import LocalMoe.Cascade.Receipts

namespace LocalMoe.Cascade

open Foundation Contracts Canary

/-- What surrounds a run: the replies of the attempt port, by attempt, the readings of the
clock, by call, and the fresh run id. -/
structure Surroundings (R : Runtime) where
  reply : Nat → Reply
  clock : Nat → R.Reading
  runId : {text : String // isRunId text = true}

variable (R : Runtime)

/-- What the run makes of a reply. -/
structure Verdict where
  attemptStatus : AttemptStatus
  verificationStatus : VerificationStatus
  reasonCodes : List String
  /-- The content of a completed attempt. -/
  content : Option Text
  inputTokens : TokenCount
  outputTokens : TokenCount

/-- The verdict on an attempt without a result. -/
def Verdict.failed (code : String) : Verdict where
  attemptStatus := .error
  verificationStatus := .escalate
  reasonCodes := [code]
  content := none
  inputTokens := .unknown
  outputTokens := .unknown

def verdict (config : LocalCascadeConfig) (tier : LocalCascadeTier) : Reply → Verdict
  | .raised => .failed "attempt_port_error"
  | .notResult => .failed "attempt_result_contract_error"
  | .result candidate =>
    match candidate.content with
    | none => {
        attemptStatus := .abstained
        verificationStatus := .escalate
        reasonCodes := "attempt_abstained" :: tokenLimitReasonCodes candidate tier
        content := none
        inputTokens := candidate.inputTokens
        outputTokens := candidate.outputTokens }
    | some content =>
      let reasonCodes := verifyLocalCascadeContent R content config.verifier ++
        tokenLimitReasonCodes candidate tier
      { attemptStatus := .completed
        verificationStatus := if reasonCodes = [] then .passed else .escalate
        reasonCodes := reasonCodes
        content := some content
        inputTokens := candidate.inputTokens
        outputTokens := candidate.outputTokens }

/-- `sha256_text(candidate.content)` of a completed attempt. -/
def Verdict.contentDigest (v : Verdict) : Except CascadeError (Option Digest) :=
  match v.content with
  | none => .ok none
  | some content => do
    let digest ← sha256Text R content
    return some digest

def LocalCascadeAttemptRequest.construct (task : LocalCascadeTask) (tier : LocalCascadeTier)
    (attemptNumber : Nat) (codes : List String) :
    Except CascadeError LocalCascadeAttemptRequest := do
  let number ← integer (.int attemptNumber) "attempt_number" 1 maxTiers
  let codes ← identifiers (.list (codes.map .str)) "verifier_reason_codes" maxReasonCodes
  return ⟨task, tier, number, codes⟩

/-- One round of the loop. -/
structure Attempt where
  request : LocalCascadeAttemptRequest
  verdict : Verdict
  receipt : AttemptReceipt

/-- The content that a round selects. -/
def Attempt.selected (a : Attempt) : Option Text :=
  if a.verdict.verificationStatus = .passed then a.verdict.content else none

variable (task : LocalCascadeTask) (config : LocalCascadeConfig) (env : Surroundings R)

/-- The round of a tier: the request, the reply, the receipt. -/
def attemptTier (tier : LocalCascadeTier) (attemptNumber : Nat) (priorReasons : List String) :
    Except CascadeError Attempt := do
  let request ← LocalCascadeAttemptRequest.construct task tier attemptNumber priorReasons
  let v := verdict R config tier (env.reply attemptNumber)
  let contentDigest ← v.contentDigest R
  let receipt ← AttemptReceipt.construct R {
    version := .str schemaVersion
    contract := .str "LocalCascadeAttemptReceiptV1"
    attemptNumber := .int attemptNumber
    tierId := .str tier.tierId.val
    costRank := .int tier.costRank
    requestSha256 := .str (R.requestSha256 request).val
    outputSha256 := (contentDigest.map Subtype.val).elim .none .str
    attemptStatus := .str v.attemptStatus.name
    verificationStatus := .str v.verificationStatus.name
    verifierReasonCodes := .list (v.reasonCodes.map .str)
    durationMs := .float
      (R.elapsedMs (env.clock (2 * attemptNumber - 1)) (env.clock (2 * attemptNumber)))
    inputTokens := v.inputTokens
    outputTokens := v.outputTokens }
  return ⟨request, v, receipt⟩

/-- The loop over the tiers. -/
def runTiers : List LocalCascadeTier → Nat → List String → Except CascadeError (List Attempt)
  | [], _, _ => .ok []
  | tier :: rest, attemptNumber, priorReasons => do
    let attempt ← attemptTier R task config env tier attemptNumber priorReasons
    if attempt.selected.isSome then return [attempt]
    else
      let later ← runTiers rest (attemptNumber + 1) attempt.verdict.reasonCodes
      return attempt :: later

/-- `LocalCascadeRun`, and the requests that the port was asked. -/
structure CascadeRun where
  asked : List LocalCascadeAttemptRequest
  content : Option Text
  receipt : CascadeReceipt

def runStatus (selected : Option Attempt) (receipts : List AttemptReceipt) : RunStatus :=
  if selected.isSome then .passed
  else if ∀ r ∈ receipts, r.attemptStatus = .abstained then .allAbstained
  else .exhausted

/-- The part of the run after the loop. -/
def finishRun (attempts : List Attempt) : Except CascadeError CascadeRun := do
  let receipts := attempts.map Attempt.receipt
  let selected := attempts.find? fun a => a.selected.isSome
  let status := runStatus selected receipts
  let selectedTierId := selected.map fun a => a.receipt.tierId
  let tokenTotals ← buildTokenTotals receipts
  let taskSha256 := (R.taskSha256 task).val
  let configSha256 := (R.configSha256 config).val
  let receipt ← CascadeReceipt.construct R {
    version := .str schemaVersion
    contract := .str "LocalCascadeReceiptV1"
    runId := .str env.runId.val
    taskSha256 := .str taskSha256
    configSha256 := .str configSha256
    status := .str status.name
    selectedTierId := selectedTierId.elim .none .str
    attemptCount := .int receipts.length
    totalDurationMs := .float
      (R.elapsedMs (env.clock 0) (env.clock (2 * receipts.length + 1)))
    attempts := some (receipts.map .inl)
    tokenTotals := tokenTotals
    evidenceSha256 := .str (buildEvidenceSha256 R taskSha256 configSha256 status selectedTierId
      receipts tokenTotals).val
    requestedExecutionScope := .str "offline_local"
    executionScopeAttestation := .str "adapter_declared_unverified"
    parallelAttempts := .int 1 }
  return ⟨attempts.map Attempt.request, selected.bind Attempt.selected, receipt⟩

def runLocalCascade : Except CascadeError CascadeRun := do
  check (task.outputFormat = config.verifier.outputFormat)
    (.contract "task and verifier output_format values must match.")
  let attempts ← runTiers R task config env config.orderedTiers 1 []
  finishRun R task config env attempts

end LocalMoe.Cascade
