/-
  `LlamaCppRuntimeSupervisor`: start, inspect and stop.

  A loop is cut off after a number of rounds as an interrupt of its sleep would end it, so the
  runs with any number of rounds are runs that can happen.
-/
import LocalMoe.Llama.Contracts

namespace LocalMoe.Llama

open Foundation Contracts

variable (E : Environment)

/-- A computation of the supervisor. -/
abbrev Action (α : Type) : Type := Effect World Raised α

/-- Call a collaborator. -/
def ask {α : Type} (answer : Replies E.clock → Except Raised α) : Action α := fun w =>
  ({ w with calls := w.calls + 1 }, answer (E.replies w.calls))

/-- Note what was seen. -/
def note (event : Event) : Action Unit :=
  Effect.modify fun w => { w with trace := w.trace ++ [event] }

/-- `except` with a set of exceptions. -/
def catching {α : Type} (catches : Raised → Bool) (x : Action α) (handler : Raised → Action α) :
    Action α :=
  x.handle fun raised => if catches raised then handler raised else Effect.fail raised

/-! ## Observations -/

def observeEndpoint : Action EndpointOwnershipEvidence := do
  let evidence ← catching Raised.isException (ask E Replies.endpoint) fun _ =>
    Effect.fail (failure "endpoint_observation_failed")
  note (.endpoint evidence)
  return evidence

def observeProcess (rootPid : Int) : Action ProcessTreeEvidence := do
  let evidence ← catching Raised.isException (ask E Replies.tree) fun _ =>
    Effect.fail (failure "process_observation_failed")
  if evidence.rootPid ≠ rootPid ∨ evidence.rootOnly = false ∨ evidence.processCount ≠ 1 then
    Effect.fail (failure "process_contract_mismatch")
  else if evidence.rootExecutableSha256 ≠ E.spec.executableSha256 then
    Effect.fail (failure "executable_identity_mismatch")
  else do
    let w ← Effect.get
    match w.rootIdentity with
    | none =>
      Effect.modify fun w => { w with rootIdentity := some evidence.identity }
      note (.tree evidence)
      return evidence
    | some identity =>
      if identity ≠ evidence.identity then Effect.fail (failure "process_identity_changed")
      else do
        note (.tree evidence)
        return evidence

/-! ## Probes -/

def healthReasons : Option JsonHttpResponse → List String × Bool
  | none => (["health_unreachable"], false)
  | some response =>
    match response.statusCode, response.payload with
    | 200, .dict entries =>
      match Value.field "status" entries with
      | some (.str "ok") => ([], true)
      | _ => (["health_not_ready"], false)
    | _, _ => (["health_not_ready"], false)

/-- The reasons of the properties, when the health response was ready. -/
def propsReasons : Option JsonHttpResponse → Bool → List String
  | none, _ => ["props_unreachable"]
  | some _, false => []
  | some response, true =>
    (match response.statusCode, response.payload with
    | 200, .dict entries =>
      match Value.field "model_path" entries, Value.field "build_info" entries,
        Value.field "is_sleeping" entries with
      | some (.str path), some (.str build), some (.bool sleeping) =>
        if build = "" then ["props_invalid"]
        else
          (if E.realpath path ≠ E.realpath E.spec.modelPath then ["props_model_mismatch"]
            else []) ++
          (if sleeping then ["runtime_sleeping"] else [])
      | _, _, _ => ["props_invalid"]
    | _, _ => ["props_invalid"]) ++
    (if E.digestible response.payload then [] else ["props_invalid"])

def entryId : Value → Option String
  | .dict entries =>
    match Value.field "id" entries with
    | some (.str id) => if id = "" then none else some id
    | _ => none
  | _ => none

/-- The reasons of the models, when the health response was ready, and their identifiers. -/
def modelsReasons : Option JsonHttpResponse → Bool → List String × List String
  | none, _ => (["models_unreachable"], [])
  | some _, false => ([], [])
  | some response, true =>
    match response.statusCode, response.payload with
    | 200, .dict entries =>
      match Value.field "data" entries with
      | some (.list items) =>
        match items.mapM entryId with
        | none => (["models_invalid"], [])
        | some [] => (["model_count_invalid"], [])
        | some ids =>
          let modelIds := ids.dedup.mergeSort (· ≤ ·)
          if ids.length ≠ 1 ∨ modelIds.length ≠ 1 then (["model_count_invalid"], modelIds)
          else if modelIds ≠ [E.spec.modelId] then (["model_id_mismatch"], modelIds)
          else ([], modelIds)
      | _ => (["models_invalid"], [])
    | _, _ => (["models_invalid"], [])

/-- `_model_id(item) == item`. -/
def validModelId (id : String) : Bool :=
  id ≠ "" && id = strip id && id.toList.all fun c => 32 ≤ c.toNat

/-- One request of `_probe_application`. -/
def getJson (probe : Probe) : Action (Option JsonHttpResponse) := do
  let response ← catching (fun raised => raised = .transport || raised.isOSError || raised = .valueError)
    (do
      let response ← ask E Replies.response
      return some response)
    fun _ => pure none
  note (.probed probe response)
  return response

def applicationEvidence (health props models : Option JsonHttpResponse) :
    Except Raised ApplicationEvidence :=
  let (healthCodes, healthReady) := healthReasons health
  let (modelCodes, modelIds) := modelsReasons E models healthReady
  let reasons := healthCodes ++ propsReasons E props healthReady ++ modelCodes
  if modelIds.all validModelId then
    .ok ⟨reasons.isEmpty, modelIds, reasons.dedup.mergeSort (· ≤ ·), by
      constructor
      · intro h
        rw [List.isEmpty_iff.mp h, List.dedup_nil, List.mergeSort_nil]
      · intro h
        have hlength := congrArg List.length h
        rw [List.length_mergeSort, List.length_nil, List.length_eq_zero_iff,
          List.dedup_eq_nil] at hlength
        rw [hlength]
        rfl⟩
  else .error .valueError

def probeApplication : Action ApplicationEvidence := do
  let health ← getJson E .health
  let props ← getJson E .props
  let models ← getJson E .models
  Effect.ofExcept (applicationEvidence E health props models)

def terminalApplicationReasons : List String :=
  ["model_count_invalid", "model_id_mismatch", "models_invalid", "props_invalid",
    "props_model_mismatch"]

/-- The reasons show another application. -/
def isTerminal (reasons : List String) : Bool :=
  reasons.any fun reason => terminalApplicationReasons.contains reason

/-- The constructor of `LlamaCppRuntimeEvidence`. -/
def runtimeEvidence (process : ProcessTreeEvidence) (endpoint : EndpointOwnershipEvidence)
    (application : ApplicationEvidence) : Except Raised RuntimeEvidence :=
  if ready : application.ready = true then
    if owned : endpoint.ownedByRoot = true ∧ endpoint.ambiguous = false then
      if listener : endpoint.listenerPids = [process.rootPid] then
        .ok ⟨process, endpoint, application, ready, owned, listener⟩
      else .error .valueError
    else .error .valueError
  else .error .valueError

/-! ## Termination -/

def processGroupExists : Action Bool :=
  (do
    ask E Replies.signal
    return true : Action Bool).handle fun raised =>
      match raised with
      | .processLookupError => pure false
      | .permissionError => Effect.fail (failure "cleanup_failed")
      | _ => Effect.fail raised

def awaitEmptyGroup (deadline : E.clock.Time) : Nat → Action Unit
  | 0 => Effect.fail .interrupt
  | rounds + 1 => do
    let present ← processGroupExists E
    if present then do
      let now ← ask E Replies.clock
      if E.clock.reached now deadline then Effect.fail (failure "cleanup_failed")
      else do
        ask E Replies.sleep
        awaitEmptyGroup deadline rounds
    else pure ()

def signalGroup (group : Int) (rootRunning : Bool) : Action Unit :=
  if rootRunning then do
    let _ ← ask E Replies.pid
    let observed ← ask E Replies.getpgid
    if observed ≠ group then Effect.fail (failure "cleanup_failed") else ask E Replies.signal
  else do
    let present ← processGroupExists E
    if present then ask E Replies.signal else pure ()

/-- The wait for a running root, which is killed after a while. -/
def awaitRoot (rootRunning : Bool) : Action Unit :=
  if rootRunning then
    catching (· = .timeoutExpired) (ask E Replies.wait) fun _ => do
      ask E Replies.signal
      ask E Replies.wait
  else pure ()

/-- What is left of the group is killed. -/
def emptyGroup (present : Bool) (rounds : Nat) : Action Unit :=
  if present then do
    ask E Replies.signal
    let now ← ask E Replies.clock
    awaitEmptyGroup E (E.clock.after now E.spec.shutdownTimeoutSeconds) rounds
  else pure ()

/-- The body of `_terminate_posix_group`. -/
def terminateGroup (process : SpawnedProcess) (rounds : Nat) : Action Unit := do
  let group ← ask E Replies.pid
  let code ← ask E Replies.poll
  signalGroup E group code.isNone
  awaitRoot E code.isNone
  let present ← processGroupExists E
  emptyGroup E present rounds
  note (.gone process.launch)

def terminatePosixGroup (process : SpawnedProcess) (rounds : Nat) : Action Unit :=
  if E.posix then
    catching (fun raised => raised.isOSError || raised = .timeoutExpired)
      (terminateGroup E process rounds) fun _ => Effect.fail (failure "cleanup_failed")
  else Effect.fail (failure "cleanup_failed")

/-- `terminate` and the wait for the exit; whether it came in time. -/
def terminateRoot : Action Bool :=
  catching (fun raised => raised = .timeoutExpired || raised.isOSError)
    (do
      ask E Replies.signal
      ask E Replies.wait
      return true)
    fun raised =>
      if raised = .timeoutExpired ∨ raised = .timeoutError then pure false
      else Effect.fail (failure "cleanup_failed")

/-- `kill` and the wait for the exit. -/
def killRoot : Action Unit :=
  catching (fun raised => raised = .timeoutExpired || raised.isOSError)
    (do
      ask E Replies.signal
      ask E Replies.wait)
    fun _ => Effect.fail (failure "cleanup_failed")

def terminateProcess (process : SpawnedProcess) (rounds : Nat) : Action Unit :=
  if process.popen then terminatePosixGroup E process rounds
  else do
    let code ← ask E Replies.poll
    if code.isSome then note (.gone process.launch)
    else do
      let terminated ← terminateRoot E
      if terminated then note (.gone process.launch)
      else do
        killRoot E
        note (.gone process.launch)

/-! ## Start -/

def launch : Action SpawnedProcess := do
  let popen ← ask E Replies.launch
  let w ← Effect.get
  Effect.modify fun w => { w with launches := w.launches + 1 }
  note (.launched w.launches)
  return ⟨w.launches, popen⟩

/-- The checks before a launch, and the launch. -/
def prepare : Action SpawnedProcess := do
  let w ← Effect.get
  if w.cleanupUnknown then Effect.fail (failure "cleanup_unverified")
  else if w.process.isSome then Effect.fail (failure "already_started")
  else do
    let vacant ← observeEndpoint E
    if vacant.Vacant then launch E else Effect.fail (failure "endpoint_in_use")

/-- The callback after a launch, and the PID, which is read for each of its three checks. -/
def announce (onLaunched : Bool) : Action Int := do
  (if onLaunched then ask E Replies.callback else pure () : Action Unit)
  let _ ← ask E Replies.pid
  let _ ← ask E Replies.pid
  ask E Replies.pid

/-- The observations after the probes. -/
def observeAgain (pid : Int) : Action (ProcessTreeEvidence × EndpointOwnershipEvidence) := do
  let tree ← observeProcess E pid
  let _ ← ask E Replies.pid
  let endpoint ← observeEndpoint E
  return (tree, endpoint)

/-- The loop of `start`. -/
def awaitReady (onObserved : Bool) (deadline : E.clock.Time) :
    Nat → Bool → List String → Action RuntimeEvidence
  | 0, _, _ => Effect.fail .interrupt
  | rounds + 1, notified, lastReasons => do
    let code ← ask E Replies.poll
    if code.isSome then Effect.fail (failure "process_exited")
    else do
      let pid ← ask E Replies.pid
      let _ ← observeProcess E pid
      (if notified = false ∧ onObserved = true then ask E Replies.callback
        else pure () : Action Unit)
      let _ ← ask E Replies.pid
      let endpoint ← observeEndpoint E
      if endpoint.ambiguous then Effect.fail (failure "endpoint_ambiguous")
      else if endpoint.listenerPids ≠ [] ∧ endpoint.ownedByRoot = false then
        Effect.fail (failure "endpoint_owner_mismatch")
      else do
        let later (reasons : List String) : Action RuntimeEvidence := do
          let now ← ask E Replies.clock
          if E.clock.reached now deadline then
            Effect.fail (.supervisor "startup_timeout" reasons)
          else do
            ask E Replies.sleep
            awaitReady onObserved deadline rounds (notified || onObserved) reasons
        if endpoint.ownedByRoot then do
          let application ← probeApplication E
          if application.ready then do
            let pid ← ask E Replies.pid
            let again ← observeAgain E pid
            if again.2.ambiguous then Effect.fail (failure "endpoint_ambiguous")
            else if again.2.ownedByRoot = false then
              Effect.fail (failure "endpoint_owner_mismatch")
            else Effect.ofExcept (runtimeEvidence again.1 again.2 application)
          else if isTerminal application.reasonCodes then
            Effect.fail (.supervisor "application_identity_mismatch" application.reasonCodes)
          else later application.reasonCodes
        else later lastReasons

/-- The process is terminated and the endpoint is vacant after it. -/
def proveGone (process : SpawnedProcess) (rounds : Nat) : Action Unit := do
  terminateProcess E process rounds
  let _ ← ask E Replies.pid
  let endpoint ← observeEndpoint E
  if endpoint.Vacant then pure () else Effect.fail (failure "cleanup_unverified")

/-- The handler of `start`. -/
def cleanUp (process : SpawnedProcess) (rounds : Nat) (original : Raised) :
    Action RuntimeEvidence := do
  catching Raised.isException (proveGone E process rounds) fun _ => do
    Effect.modify fun w => { w with cleanupUnknown := true }
    Effect.fail (failure "cleanup_unverified")
  Effect.modify fun w => { w with process := none, rootIdentity := none }
  Effect.fail original

/-- `start`, with at most so many rounds of each loop. -/
def start (onLaunched onObserved : Bool) (rounds : Nat) : Action RuntimeEvidence := do
  let process ← prepare E
  let pid ← announce E onLaunched
  if pid < 1 then do
    terminateProcess E process rounds
    Effect.fail (failure "launch_invalid")
  else do
    Effect.modify fun w => { w with process := some process }
    let now ← ask E Replies.clock
    catching Raised.isException
      (awaitReady E onObserved (E.clock.after now E.spec.startupTimeoutSeconds) rounds false
        ["startup_pending"])
      (cleanUp E process rounds)

/-! ## Inspect and stop -/

def inspect : Action RuntimeEvidence := do
  let w ← Effect.get
  match w.process with
  | none => Effect.fail (failure "process_not_owned")
  | some _ => do
    let code ← ask E Replies.poll
    if code.isSome then Effect.fail (failure "process_exited")
    else do
      let pid ← ask E Replies.pid
      let _ ← observeProcess E pid
      let _ ← ask E Replies.pid
      let endpoint ← observeEndpoint E
      if endpoint.ambiguous then Effect.fail (failure "endpoint_ambiguous")
      else if endpoint.ownedByRoot = false then
        Effect.fail (failure "endpoint_ownership_lost")
      else do
        let application ← probeApplication E
        if application.ready then do
          let pid ← ask E Replies.pid
          let again ← observeAgain E pid
          if again.2.ambiguous = true ∨ again.2.ownedByRoot = false then
            Effect.fail (failure "endpoint_ownership_lost")
          else Effect.ofExcept (runtimeEvidence again.1 again.2 application)
        else if isTerminal application.reasonCodes then
          Effect.fail (.supervisor "application_identity_mismatch" application.reasonCodes)
        else Effect.fail (.supervisor "application_not_ready" application.reasonCodes)

def stop (rounds : Nat) : Action Unit := do
  let w ← Effect.get
  match w.process with
  | none =>
    if w.cleanupUnknown then Effect.fail (failure "cleanup_unverified") else pure ()
  | some process => do
    let _ ← ask E Replies.pid
    catching Raised.isException
      (do
        terminateProcess E process rounds
        let endpoint ← observeEndpoint E
        -- The handler marks the cleanup as unknown, which the source also does here.
        if endpoint.Vacant then pure () else Effect.fail (failure "cleanup_unverified"))
      fun raised => do
        Effect.modify fun w => { w with cleanupUnknown := true }
        Effect.fail raised
    Effect.modify fun w => { w with process := none, rootIdentity := none, cleanupUnknown := false }

end LocalMoe.Llama
