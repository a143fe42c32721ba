/-
  The direct run of a task: the local leg, the premium leg, and the verification that decides
  both.

  What a run meets outside (adapters, verifiers, the ledger, the filesystem) is a record of
  answers, so a theorem about every record is a theorem about every behaviour.
-/
import LocalMoe.Foundation.Effect
import LocalMoe.Runner.Route

namespace LocalMoe.Runner

open Foundation

/-- The two legs of a run. -/
inductive Leg where
  | local | premium
  deriving DecidableEq, Repr

/-- What the runs use of `CommandPlan`. -/
structure CommandPlan where
  commandSha256 : String
  /-- `_command_authority_sha256`. -/
  authoritySha256 : String
  deriving DecidableEq, Repr

/-- The plan of a verifier: whether its sandbox and its resources are there. -/
structure BoundVerifierPlan where
  isolationSupported : Bool
  resourcesRunnable : Bool
  deriving DecidableEq, Repr

/-- What a run meets outside. -/
structure World where
  /-- The fingerprint of a snapshot of the source. -/
  snapshotWorkspace : Tree → Except BridgeError String
  localRuntime : Except BridgeError ProviderRuntime
  premiumRuntime : Except BridgeError ProviderRuntime
  writeSupported : Bool
  buildVerifierPlan : CommandVerifierSpec → Except BridgeError BoundVerifierPlan
  attestRemoteBinding : Except BridgeError Unit
  decideCanary : RouteDecisionReceipt → Option CanaryDecision
  validateCanary : CanaryDecision → RouteDecisionReceipt → Bool
  previewLocal : RouteDecisionReceipt → Except BridgeError CommandPlan
  previewPremium : RouteDecisionReceipt → Except BridgeError CommandPlan
  consumeConfirmation : RouteDecisionReceipt → Except BridgeError Unit
  /-- The files of the disposable candidate made of the source. -/
  materialize : Tree → Except BridgeError Tree
  buildLocal : Tree → Except BridgeError CommandPlan
  executeLocal : Tree → Except BridgeError (CommandResult × Tree)
  buildCapsule : Tree → Except BridgeError Unit
  writeCapsule : Except BridgeError Unit
  buildPremium : Tree → Except BridgeError CommandPlan
  /-- The result, whether a launch is accounted, and the candidate after it. -/
  executePremium : Tree → Except BridgeError (CommandResult × Bool × Tree)
  /-- The fingerprint of the final snapshot, its verifier workspace being a faithful copy. -/
  attest : Leg → Tree → Except BridgeError String
  runVerifier : Leg → CommandVerifierSpec → Tree → Except BridgeError (Bool × String)
  applyChangeset : Tree → List WorkspaceChange → Tree × Except BridgeError Unit
  /-- The digest of what the completion policy depends on. -/
  policySpecSha256 : AssistantTaskEnvelope → String
  /-- The digest of the lists that ask for independent evidence. -/
  independencePolicySha256 : String

/-! ## Preparation -/

/-- `_validate_verifier_selection`; the catalogue keeps the last verifier of an id. -/
def validateVerifierSelection (config : AssistantBridgeConfig) (task : AssistantTaskEnvelope) :
    Except BridgeError Unit :=
  task.requiredVerifierIds.forM fun verifierId =>
    match config.commandVerifiers.reverse.find? (·.id = verifierId) with
    | none => check (config.externalVerifiers verifierId).isSome
        ⟨"Unknown required task verifier " ++ verifierId ++ "."⟩
    | some spec => check (spec.purpose = .task)
        ⟨"Required verifier " ++ verifierId ++ " is not a task verifier."⟩

def selectedVerifiers (config : AssistantBridgeConfig) (task : AssistantTaskEnvelope) :
    List CommandVerifierSpec :=
  config.commandVerifiers.filter fun item =>
    (item.purpose = .task && task.requiredVerifierIds.contains item.id) ||
      (item.purpose = .hygiene && item.appliesTo task.capabilityDemand)

def validateExternalEvidence (evidence : VerificationEvidence) (config : AssistantBridgeConfig)
    (task : AssistantTaskEnvelope) (workspaceFingerprint : String) : Except BridgeError Unit := do
  check (evidence.kind = .external)
    (⟨"Only external evidence may cross the bridge boundary."⟩ : BridgeError)
  match config.externalVerifiers evidence.id with
  | none => .error ⟨"External verification source is not trusted by configuration."⟩
  | some spec => do
    check (spec.verifier = evidence.verifier)
      (⟨"External verification source is not trusted by configuration."⟩ : BridgeError)
    check (evidence.verifierSpecSha256 = spec.specSha256)
      (⟨"External verification spec binding does not match configuration."⟩ : BridgeError)
    check (evidence.taskFingerprint = task.taskFingerprint)
      (⟨"External verification is bound to a different task."⟩ : BridgeError)
    check (evidence.workspaceFingerprint = workspaceFingerprint)
      (⟨"External verification is bound to a different workspace state."⟩ : BridgeError)

structure PreparedExecution where
  receipt : RouteDecisionReceipt
  priorEvidence : List VerificationEvidence
  commands : List CommandPlan
  verifierPlans : List CommandVerifierSpec
  remoteBound : Bool

section Runs

variable (D : ReceiptDigests) (W : World) (config : AssistantBridgeConfig)
  (task : AssistantTaskEnvelope)

def blockWhen (condition : Bool) (rationaleCode : String) (receipt : RouteDecisionReceipt) :
    RouteDecisionReceipt :=
  if condition then receiptWithRoute D receipt .blocked rationaleCode else receipt

/-- The binding of the remote provider, or the route without it. -/
def bindRemote (executable : Bool) (receipt : RouteDecisionReceipt) :
    RouteDecisionReceipt × Bool :=
  if executable && receipt.route.usesPremium then
    match W.attestRemoteBinding with
    | .ok _ => (receipt, true)
    | .error _ =>
      if receipt.route = .localThenVerify ∧ receipt.localGaps = [] then
        (receiptWithRoute D receipt .local "premium_auth_unavailable", false)
      else (receiptWithRoute D receipt .blocked "premium_auth_unavailable", false)
  else (receipt, false)

def previewCommands (executable : Bool) (receipt : RouteDecisionReceipt) :
    Except BridgeError (List CommandPlan) :=
  if executable then
    match receipt.route with
    | .blocked => .ok []
    | .local => do
      let first ← W.previewLocal receipt
      return [first]
    | .localThenVerify => do
      let first ← W.previewLocal receipt
      let second ← W.previewPremium receipt
      return [first, second]
    | .premium => do
      let first ← W.previewPremium receipt
      return [first]
  else .ok []

/-- `_prepare_execution` of a direct run. -/
def prepareExecution (external : List VerificationEvidence) (source : Tree) :
    Except BridgeError PreparedExecution := do
  validateVerifierSelection config task
  let fingerprint ← W.snapshotWorkspace source
  let planned ← planAssistantRoute D task config fingerprint W.localRuntime W.premiumRuntime
  let twoPhaseRequired := requiresIndependentEvidence task.capabilityDemand config
  let receipt := blockWhen D twoPhaseRequired "two_phase_required" planned
  let receipt := blockWhen D
    (decide (task.capabilityDemand.riskClass = .writeLocal) && !W.writeSupported)
    "workspace_write_capability_unavailable" receipt
  let selected := if twoPhaseRequired then [] else selectedVerifiers config task
  let plans ← selected.mapM fun spec => do
    let plan ← W.buildVerifierPlan spec
    return (spec, plan)
  let receipt := blockWhen D (plans.any fun plan => !plan.1.trustedGit && !plan.2.isolationSupported)
    "verifier_isolation_unavailable" receipt
  let receipt := blockWhen D (plans.any fun plan => !plan.1.trustedGit && !plan.2.resourcesRunnable)
    "verifier_resource_governance_unavailable" receipt
  let bound := bindRemote D W (!twoPhaseRequired) receipt
  let receipt := applyVerifiedRouteCanary D W.validateCanary config W.decideCanary bound.1
  external.forM fun item => validateExternalEvidence item config task receipt.workspaceFingerprint
  let commands ← previewCommands W (!twoPhaseRequired) receipt
  return {
    receipt := receipt
    priorEvidence := external
    commands := commands
    verifierPlans := selected
    remoteBound := bound.2 && decide (receipt.route ≠ .local) }

/-! ## Verification -/

/-- `_safe_code`, up to the first 96 characters. -/
def safeCode (value : String) : String :=
  let rec collapse : List Char → List Char
    | [] => []
    | c :: rest =>
      if c.isAlphanum || c = '.' || c = '_' || c = '-' then c :: collapse rest
      else match rest with
        | [] => ['_']
        | d :: more =>
          if d.isAlphanum || d = '.' || d = '_' || d = '-' then '_' :: collapse (d :: more)
          else collapse (d :: more)
  let normalized := String.ofList ((collapse value.trimAscii.toString.toList).take 96)
  if normalized = "" then "unspecified_failure" else normalized

/-- A failing item of the completion policy. -/
def policyEvidence (id code workspaceFingerprint specSha256 : String) : VerificationEvidence :=
  ⟨id, "completion-policy", .policy, false, code, task.taskFingerprint, workspaceFingerprint,
    specSha256⟩

/-- The evidence of a command that did not complete. -/
def processEvidence (result : CommandResult) (workspaceFingerprint : String) :
    VerificationEvidence :=
  ⟨"launch-" ++ result.providerId, "process", .process, false, safeCode result.code,
    task.taskFingerprint, workspaceFingerprint, result.commandSha256⟩

def outputEvidence (result : CommandResult) (workspaceFingerprint : String) (item : OutputCheck) :
    Except BridgeError VerificationEvidence := do
  let passed ← item.evaluate result.output
  return ⟨item.id, "output-" ++ item.type, .output, passed,
    if passed then "check_passed" else "check_failed", task.taskFingerprint, workspaceFingerprint,
    item.specSha256⟩

/-- `_run_bound_verifier`, with the evidence of `_verifier_evidence`. -/
def runBoundVerifier (leg : Leg) (candidate : Tree) (workspaceFingerprint : String)
    (spec : CommandVerifierSpec) : Except BridgeError VerificationEvidence := do
  let outcome ← W.runVerifier leg spec candidate
  let kind := if spec.trustedGit then EvidenceKind.builtin else .command
  let scheme := if spec.trustedGit then "builtin" else "command"
  let purpose := match spec.purpose with
    | .hygiene => "hygiene"
    | .task => "task"
  return ⟨spec.id, scheme ++ "-" ++ purpose, kind, outcome.1, outcome.2, task.taskFingerprint,
    workspaceFingerprint, spec.specSha256⟩

def verifyCommandResult (leg : Leg) (result : CommandResult) (candidate : Tree)
    (workspaceFingerprint : String) (external : List VerificationEvidence)
    (plans : List CommandVerifierSpec) : Except BridgeError (List VerificationEvidence) :=
  if result.status ≠ .completed then .ok [processEvidence task result workspaceFingerprint]
  else do
    let outputs ← config.verificationChecks.mapM (outputEvidence task result workspaceFingerprint)
    let verified ← plans.mapM (runBoundVerifier W task leg candidate workspaceFingerprint)
    external.forM fun item => validateExternalEvidence item config task workspaceFingerprint
    let evidence := outputs ++ verified ++ external
    return if requiresIndependentEvidence task.capabilityDemand config &&
        !(evidence.any fun item => item.kind = .external && item.passed) then
      evidence ++ [policyEvidence task "independent-evidence" "independent_evidence_missing"
        workspaceFingerprint W.independencePolicySha256]
    else evidence

def enforceCompletionContract (evidence : List VerificationEvidence)
    (workspaceFingerprint : String) (changeCount : Nat) (includeIndependentGate : Bool) :
    List VerificationEvidence :=
  let item (code : String) := policyEvidence task code code workspaceFingerprint
    (W.policySpecSha256 task)
  if task.capabilityDemand.riskClass ≠ .writeLocal ∧ changeCount ≠ 0 then
    evidence ++ [item "workspace_mutation_forbidden"]
  else if task.capabilityDemand.riskClass = .writeLocal then
    evidence ++ (if includeIndependentGate then [item "two_phase_required"] else []) ++
      (if changeCount = 0 ∧ task.noChangeExpected = false then [item "workspace_delta_required"]
        else [])
  else evidence

def verifyCandidate (leg : Leg) (baseline candidate : Tree) (result : CommandResult)
    (plans : List CommandVerifierSpec) (includeIndependentGate : Bool) :
    Except BridgeError (List VerificationEvidence × List WorkspaceChange) := do
  let fingerprint ← W.attest leg candidate
  let changes ← buildChangeset baseline candidate
  let evidence ← verifyCommandResult W config task leg result candidate fingerprint [] plans
  let evidence := if includeIndependentGate then evidence
    else evidence.filter fun item => item.code ≠ "independent_evidence_missing"
  return (enforceCompletionContract W task evidence fingerprint changes.length
    includeIndependentGate, changes)

/-! ## The legs -/

inductive RunStatus where
  | completed | failed | blocked
  deriving DecidableEq, Repr

/-- `BridgeRunResult`, without its capsule. -/
structure BridgeRunResult where
  status : RunStatus
  code : String
  receipt : RouteDecisionReceipt
  priorVerification : List VerificationEvidence := []
  verification : List VerificationEvidence := []
  commands : List CommandResult := []
  finalProvider : Option String := none
  finalOutput : String := ""
  premiumCallsUsed : Nat := 0

/-- Where the caller asks for the capsule. -/
inductive CapsuleTarget where
  | outside
  /-- A file of the source workspace. -/
  | inside (file : WorkspaceFile)
  deriving DecidableEq, Repr

def writeCapsule (capsuleOut : Option CapsuleTarget) : Effect Tree BridgeError Unit :=
  match capsuleOut with
  | none => pure ()
  | some .outside => Effect.ofExcept W.writeCapsule
  | some (.inside file) => do
    Effect.ofExcept W.writeCapsule
    Effect.modify fun source => source.filter (·.path ≠ file.path) ++ [file]

def applyVerifiedCandidate (changes : List WorkspaceChange) : Effect Tree BridgeError Unit :=
  if changes = [] then pure ()
  else if task.capabilityDemand.riskClass ≠ .writeLocal then
    Effect.fail ⟨"A non-write task cannot apply candidate workspace changes."⟩
  else if requiresIndependentEvidence task.capabilityDemand config then
    Effect.fail ⟨"Independent tasks must use the two-phase resume path."⟩
  else fun source => W.applyChangeset source changes

def executeLocalCandidate (prepared : PreparedExecution) (candidate : Tree) :
    Except BridgeError (CommandResult × Tree) := do
  let plan ← W.buildLocal candidate
  check (prepared.commands.head?.map CommandPlan.commandSha256 = some plan.commandSha256)
    (⟨"Local command no longer matches the confirmed plan."⟩ : BridgeError)
  W.executeLocal candidate

def executePremiumCommand (prepared : PreparedExecution) (candidate : Tree)
    (expectedPlan : Option CommandPlan) : Except BridgeError (CommandResult × Bool × Tree) := do
  check (prepared.remoteBound = true)
    (⟨"Premium provider authority was not bound to the plan."⟩ : BridgeError)
  let plan ← W.buildPremium candidate
  check (∀ expected ∈ expectedPlan,
      if prepared.receipt.route = .premium then plan.commandSha256 = expected.commandSha256
      else plan.authoritySha256 = expected.authoritySha256)
    (⟨"Premium command no longer matches the confirmed plan."⟩ : BridgeError)
  let outcome ← W.executePremium candidate
  return if outcome.1.code = "launch_not_authorized" then
    ({ outcome.1 with code := "durable_premium_budget_exhausted" }, outcome.2)
  else outcome

/-- `_execute_premium_candidate` of a direct run. -/
def executePremiumCandidate (prepared : PreparedExecution) (baseline candidate : Tree)
    (capsuleOut : Option CapsuleTarget) (priorCommands : List CommandResult)
    (priorEvidence : List VerificationEvidence) (expectedPlan : Option CommandPlan) :
    Effect Tree BridgeError BridgeRunResult := do
  let capsuleEvidence := priorEvidence ++ prepared.priorEvidence.filter fun item =>
    !(priorEvidence.any fun known => known.kind = item.kind && known.id = item.id)
  Effect.ofExcept (W.buildCapsule candidate)
  writeCapsule W capsuleOut
  let outcome ← Effect.ofExcept (executePremiumCommand W prepared candidate expectedPlan)
  if outcome.1.code = "durable_premium_budget_exhausted" then
    return {
      status := .blocked
      code := "durable_premium_budget_exhausted"
      receipt := prepared.receipt
      priorVerification := capsuleEvidence
      commands := priorCommands
      finalProvider := priorCommands.getLast?.map CommandResult.providerId }
  else
    let verified ← Effect.ofExcept (verifyCandidate W config task .premium baseline outcome.2.2
      outcome.1 prepared.verifierPlans true)
    let result (status : RunStatus) (code : String) : BridgeRunResult := {
      status := status
      code := code
      receipt := prepared.receipt
      priorVerification := capsuleEvidence
      verification := verified.1
      commands := priorCommands ++ [outcome.1]
      finalProvider := some config.premium.id
      finalOutput := outcome.1.output
      premiumCallsUsed := if outcome.2.1 then 1 else 0 }
    if outcome.1.status = .blocked then return result .blocked "premium_runtime_unavailable"
    else if outcome.1.status = .completed ∧ allPassed verified.1 = true then do
      applyVerifiedCandidate W config task verified.2
      return result .completed "premium_verification_passed"
    else return result .failed "premium_verification_failed"

/-- What follows the local leg of a run. -/
def afterLocal (prepared : PreparedExecution) (baseline candidate : Tree)
    (capsuleOut : Option CapsuleTarget) (localResult : CommandResult)
    (localEvidence : List VerificationEvidence) (changes : List WorkspaceChange) :
    Effect Tree BridgeError BridgeRunResult :=
  let result (status : RunStatus) (code output : String) : BridgeRunResult := {
    status := status
    code := code
    receipt := prepared.receipt
    priorVerification := prepared.priorEvidence
    verification := localEvidence
    commands := [localResult]
    finalProvider := some config.localProvider.id
    finalOutput := output }
  if localResult.status = .blocked then
    return result .blocked "local_runtime_unavailable" ""
  else if allPassed localEvidence = true ∧ prepared.priorEvidence.all VerificationEvidence.passed then do
    applyVerifiedCandidate W config task changes
    return result .completed "local_verification_passed" localResult.output
  else if localEvidence.any fun item => item.code = "workspace_mutation_forbidden" then
    return result .failed "workspace_authority_violated" ""
  else if prepared.receipt.route = .local then
    return result .failed "local_verification_failed_remote_forbidden" localResult.output
  else executePremiumCandidate W config task prepared baseline candidate capsuleOut [localResult]
    (prepared.priorEvidence ++ localEvidence) (prepared.commands.drop 1).head?

def runPrepared (prepared : PreparedExecution) (baseline : Tree)
    (capsuleOut : Option CapsuleTarget) : Effect Tree BridgeError BridgeRunResult :=
  if prepared.receipt.route = .premium then
    executePremiumCandidate W config task prepared baseline baseline capsuleOut []
      prepared.priorEvidence prepared.commands.head?
  else do
    let executed ← Effect.ofExcept (executeLocalCandidate W prepared baseline)
    let verified ← Effect.ofExcept (verifyCandidate W config task .local baseline executed.2
      executed.1 prepared.verifierPlans true)
    afterLocal W config task prepared baseline executed.2 capsuleOut executed.1 verified.1 verified.2

/-- `AssistantBridgeRunner.run`, on the source workspace. -/
def run (external : List VerificationEvidence) (capsuleOut : Option CapsuleTarget) :
    Effect Tree BridgeError BridgeRunResult := do
  let source ← Effect.get
  let prepared ← Effect.ofExcept (prepareExecution D W config task external source)
  Effect.ofExcept (W.consumeConfirmation prepared.receipt)
  if prepared.receipt.route = .blocked then
    return {
      status := .blocked
      code := "route_blocked"
      receipt := prepared.receipt
      priorVerification := prepared.priorEvidence }
  else do
    let baseline ← Effect.ofExcept (W.materialize source)
    runPrepared W config task prepared baseline capsuleOut

end Runs

end LocalMoe.Runner
