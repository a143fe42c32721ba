/-
  The session that owns one endpoint lease: start, inspect, stop.

  What the collaborators do is scripted: each call of the adapter lists the callbacks it makes
  and how it ends, each ledger transition may fail, each reading of `cleanup_unknown` has its
  answer.
-/
import LocalMoe.Foundation.Checked
import LocalMoe.Foundation.Effect
import LocalMoe.Foundation.Machine
import Mathlib.Data.Finset.Basic

namespace LocalMoe.Supervisor

open Foundation

/-! ## Lease receipts -/

inductive LeaseState where
  | prepared | starting | ready | stopping | stopped | revoked | unknownBlocking
  deriving DecidableEq, Repr

def transitionAllowed : LeaseState → LeaseState → Bool
  | .prepared, target => [.starting, .stopping, .stopped, .revoked, .unknownBlocking].contains target
  | .starting, target => [.ready, .stopping, .revoked, .unknownBlocking].contains target
  | .ready, target => [.stopping, .revoked, .unknownBlocking].contains target
  | .revoked, target => [.stopping, .unknownBlocking].contains target
  | .stopping, target => [.stopped, .unknownBlocking].contains target
  | .unknownBlocking, target => target = .unknownBlocking
  | .stopped, _ => false

/-- `RUNTIME_SUPERVISOR_REASON_CODES`, which are also `_ALLOWED_FINAL_REASONS`. -/
inductive Reason where
  | bindingChanged | cleanupUnverified | endpointAlreadyOccupied | healthProbeFailed
  | listenerMissing | modelAdvertisementChanged | ownershipUnknown | pidReused
  | portSubstituted | processTreeChanged | runtimeExecutableChanged | runtimeExited
  | runtimeRestarted
  deriving DecidableEq, Repr

/-- `_reason_for_error`, by the code of the error. -/
def reasonForError (code : String) : Reason :=
  match code with
  | "application_identity_mismatch" => .modelAdvertisementChanged
  | "application_not_ready" => .healthProbeFailed
  | "binding_changed" => .bindingChanged
  | "binding_not_verified" => .bindingChanged
  | "cleanup_failed" => .cleanupUnverified
  | "cleanup_unverified" => .cleanupUnverified
  | "endpoint_in_use" => .endpointAlreadyOccupied
  | "endpoint_owner_mismatch" => .portSubstituted
  | "endpoint_ownership_lost" => .portSubstituted
  | "executable_identity_mismatch" => .runtimeExecutableChanged
  | "launch_failed" => .runtimeExited
  | "launch_invalid" => .runtimeExited
  | "process_contract_mismatch" => .processTreeChanged
  | "process_exited" => .runtimeExited
  | "process_identity_changed" => .pidReused
  | "runtime_config_invalid" => .bindingChanged
  | "runtime_executable_mismatch" => .runtimeExecutableChanged
  | "runtime_plan_invalid" => .bindingChanged
  | "startup_timeout" => .healthProbeFailed
  | _ => .ownershipUnknown

/-- The identity of the root process. -/
structure RuntimeIdentity where
  runtimePid : Nat
  runtimeCreateTimeNs : Nat
  runtimeExecutableSha256 : String
  deriving DecidableEq, Repr

/-- What the session uses of `RuntimeSupervisorLeaseReceipt`. -/
structure LeaseReceipt where
  state : LeaseState
  reasonCodes : Finset Reason
  transitionIndex : Nat
  previousReceiptSha256 : Option String
  runtime : Option RuntimeIdentity
  processTreeSha256 : Option String
  endpointEvidenceSha256 : Option String
  updatedAt : Nat
  deriving DecidableEq

/-- The rules of the receipt's constructor. -/
def LeaseReceipt.wellFormed (r : LeaseReceipt) : Bool :=
  (!(r.state = .revoked || r.state = .unknownBlocking) || decide (r.reasonCodes ≠ ∅)) &&
    (!(r.state = .ready) || decide (r.reasonCodes = ∅)) &&
    ((r.transitionIndex = 0) == r.previousReceiptSha256.isNone) &&
    (!(r.transitionIndex = 0) || r.state = .prepared) &&
    (!(r.state = .prepared) || (r.runtime.isNone && r.processTreeSha256.isNone &&
      r.endpointEvidenceSha256.isNone)) &&
    (!(r.state = .starting) || r.runtime.isSome) &&
    (!r.processTreeSha256.isSome || r.runtime.isSome) &&
    (!r.endpointEvidenceSha256.isSome || r.processTreeSha256.isSome) &&
    (!(r.state = .ready) || (r.runtime.isSome && r.processTreeSha256.isSome &&
      r.endpointEvidenceSha256.isSome))

/-! ## The session -/

/-- What the session uses of `LlamaCppRuntimeEvidence`. -/
structure Evidence where
  process : RuntimeIdentity
  processDigest : String
  host : String
  port : Nat
  listenerPids : List Nat
  endpointDigest : String
  modelIds : List String
  applicationDigest : String
  deriving DecidableEq, Repr

/-- `RuntimeSupervisorSessionReceipt`, without its constant fields. -/
structure SessionReceipt where
  state : LeaseState
  bindingSha256 : String
  leaseReceiptSha256Chain : List String
  processTreeSha256 : Option String
  endpointEvidenceSha256 : Option String
  applicationEvidenceSha256 : Option String
  reasonCodes : Finset Reason
  lifecycleOperations : Nat
  processMutations : Bool
  deriving DecidableEq

/-- The rules of the session receipt's constructor. -/
def SessionReceipt.wellFormed (r : SessionReceipt) : Bool :=
  (r.state = .stopped || r.state = .unknownBlocking) && decide (r.leaseReceiptSha256Chain ≠ []) &&
    decide r.leaseReceiptSha256Chain.Nodup &&
    (!(r.state = .unknownBlocking) || decide (.cleanupUnverified ∈ r.reasonCodes)) &&
    decide (r.lifecycleOperations ≤ 2) && (r.processMutations == decide (0 < r.lifecycleOperations))

structure Session where
  state : LeaseState
  leaseChain : List LeaseReceipt
  runtimeEvidence : Option Evidence
  finalReceipt : Option SessionReceipt
  processStarted : Bool
  processStopped : Bool
  ledgerFailed : Bool
  reasons : Finset Reason

/-- The lease of the session in the ledger: its row, whether its handle is released, and
everything that was ever committed for it. -/
structure Ledger where
  row : Option LeaseReceipt
  released : Bool
  committed : List LeaseReceipt

inductive Touch where
  | adapterStart
  | adapterInspect
  /-- Whether the call returned. -/
  | adapterStop (returned : Bool)
  | cleanupUnknown (answer : Bool)
  /-- Whether the transition committed. -/
  | transition (target : LeaseState) (committed : Bool)
  /-- The same, from a callback of the adapter. -/
  | observed (committed : Bool)
  deriving DecidableEq, Repr

/-- A session and its ledger; the log is of the present call. -/
structure System where
  session : Session
  ledger : Ledger
  log : List Touch

/-- Computations of the session; a failure is the code of the exception. -/
abbrev Act (α : Type) := Effect System String α

/-! ## Scripts -/

/-- How a ledger transition goes: it may fail, and it reads the clock. -/
structure LedgerAnswer where
  fails : Bool
  now : Nat
  deriving DecidableEq, Repr

inductive Callback where
  | launched
  | observed (process : RuntimeIdentity) (answer : LedgerAnswer)
  deriving DecidableEq, Repr

/-- A call of the adapter: its callbacks, and how it ends. -/
structure AdapterCall (α : Type) where
  callbacks : List Callback
  outcome : Except String α

structure FailureScript where
  cleanupUnknown : Bool
  answer : LedgerAnswer

structure StartScript where
  firstRecheck : Except String Unit
  start : AdapterCall Evidence
  secondRecheck : Except String Unit
  inspect : AdapterCall Evidence
  ready : LedgerAnswer
  result : Except String Unit
  failure : FailureScript

structure InspectScript where
  first : AdapterCall Evidence
  /-- Whether the fingerprint changed or the interval has passed. -/
  rehash : Except String Bool
  recheck : Except String Unit
  second : AdapterCall Evidence
  failure : FailureScript

structure StopScript where
  unknownBefore : Bool
  stopping : LedgerAnswer
  stop : AdapterCall Unit
  unknownAfter : Bool
  recheck : Except String Unit
  stopped : LedgerAnswer
  firstUnknown : LedgerAnswer
  secondUnknown : LedgerAnswer

/-- The calls of a session. -/
inductive Call where
  | start (script : StartScript)
  | inspect (script : InspectScript)
  | stop (script : StopScript)

/-- What a call returns. -/
inductive Output where
  | started (receipt : LeaseReceipt) (evidence : Evidence)
  | inspected (evidence : Evidence)
  | stopped (receipt : SessionReceipt)

def Output.state : Output → LeaseState
  | .started receipt _ => receipt.state
  | .inspected _ => .ready
  | .stopped receipt => receipt.state

section Session

variable (digest : LeaseReceipt → String) (bindingSha256 : String)

/-! ## The ledger -/

/-- The receipt that a transition writes. -/
def nextReceipt (current : LeaseReceipt) (target : LeaseState) (reasons : Finset Reason)
    (runtime : Option RuntimeIdentity) (processTree endpoint : Option String) (now : Nat) :
    LeaseReceipt where
  state := target
  reasonCodes := reasons
  transitionIndex := current.transitionIndex + 1
  previousReceiptSha256 := some (digest current)
  runtime := runtime.or current.runtime
  processTreeSha256 := processTree.or current.processTreeSha256
  endpointEvidenceSha256 := endpoint.or current.endpointEvidenceSha256
  updatedAt := now

/-- The checks of `transition`. -/
def attempt (ledger : Ledger) (target : LeaseState) (reasons : Finset Reason)
    (runtime : Option RuntimeIdentity) (processTree endpoint : Option String)
    (answer : LedgerAnswer) : Except String LeaseReceipt := do
  check (ledger.released = false) "runtime_lease_handle_invalid"
  match ledger.row with
  | none => .error "runtime_lease_not_found"
  | some current => do
    check (transitionAllowed current.state target = true) "runtime_lease_transition_invalid"
    check (answer.fails = false) "runtime_lease_store_unavailable"
    let receipt := nextReceipt digest current target reasons runtime processTree endpoint answer.now
    check (receipt.wellFormed = true) "runtime_lease_receipt_invalid"
    return receipt

/-- The ledger after a committed transition. -/
def Ledger.commit (ledger : Ledger) (receipt : LeaseReceipt) : Ledger where
  row := if receipt.state = .stopped then none else some receipt
  released := ledger.released || receipt.state = .stopped || receipt.state = .unknownBlocking
  committed := ledger.committed ++ [receipt]

/-- `transition` and `_append_transition`, which follows every one that returns. -/
def transition (touch : Bool → Touch) (target : LeaseState) (reasons : Finset Reason)
    (runtime : Option RuntimeIdentity) (processTree endpoint : Option String)
    (answer : LedgerAnswer) : Act LeaseReceipt := fun s =>
  match attempt digest s.ledger target reasons runtime processTree endpoint answer with
  | .ok receipt =>
    ({ session := { s.session with
        state := receipt.state
        leaseChain := s.session.leaseChain ++ [receipt] }
       ledger := s.ledger.commit receipt
       log := s.log ++ [touch true] }, .ok receipt)
  | .error code => ({ s with log := s.log ++ [touch false] }, .error code)

/-! ## The pieces -/

def note (touch : Touch) : Act PUnit := Effect.modify fun s => { s with log := s.log ++ [touch] }

def update (f : Session → Session) : Act PUnit :=
  Effect.modify fun s => { s with session := f s.session }

def addReason (reason : Reason) : Act PUnit :=
  update fun session => { session with reasons := insert reason session.reasons }

def setLedgerFailed : Act PUnit := update fun session => { session with ledgerFailed := true }

/-- A reading of the adapter's `cleanup_unknown`. -/
def readCleanupUnknown (answer : Bool) : Act Bool := do
  note (.cleanupUnknown answer)
  return answer

/-- The callbacks; what they raise goes to the adapter. -/
def runCallbacks : List Callback → Act PUnit
  | [] => pure ⟨⟩
  | .launched :: rest => do
    update fun session => { session with processStarted := true }
    runCallbacks rest
  | .observed process answer :: rest => do
    (do let _ ← transition digest .observed .starting ∅ (some process) none none answer
        pure PUnit.unit).handle fun _ => pure PUnit.unit
    runCallbacks rest

def callAdapter {α : Type} (touch : Touch) (call : AdapterCall α) : Act α := do
  note touch
  runCallbacks digest call.callbacks
  Effect.ofExcept call.outcome

def assertRuntimeContinuity (previous : Option Evidence) (evidence : Evidence) :
    Except String Unit :=
  match previous with
  | none => .error "ownership_unknown"
  | some previous => do
    check (evidence.process = previous.process) "process_identity_changed"
    check (evidence.host = previous.host ∧ evidence.port = previous.port ∧
      evidence.listenerPids = previous.listenerPids) "endpoint_ownership_lost"
    check (evidence.modelIds = previous.modelIds) "application_identity_mismatch"

def ensureUnknown (answer : LedgerAnswer) : Act PUnit := do
  addReason .cleanupUnverified
  let s ← Effect.get
  if s.session.state = .unknownBlocking then return
  else if s.session.state = .stopped then setLedgerFailed
  else
    (do let _ ← transition digest (.transition .unknownBlocking) .unknownBlocking s.session.reasons
          none none none answer
        pure PUnit.unit).handle fun _ => setLedgerFailed

def recordFailure (code : String) (script : FailureScript) : Act PUnit := do
  let reason := reasonForError code
  addReason reason
  let unknown ← readCleanupUnknown script.cleanupUnknown
  let s ← Effect.get
  if unknown = true ∨ reason = .cleanupUnverified then ensureUnknown digest script.answer
  else if s.session.state = .prepared ∨ s.session.state = .starting ∨ s.session.state = .ready then
    (do let _ ← transition digest (.transition .revoked) .revoked {reason} none none none
          script.answer
        pure PUnit.unit).handle fun _ => setLedgerFailed
  else return

/-- The receipt of `_build_final_receipt`. -/
def Session.finalOf (session : Session) (state : LeaseState) : SessionReceipt where
  state := state
  bindingSha256 := bindingSha256
  leaseReceiptSha256Chain := session.leaseChain.map digest
  processTreeSha256 := session.runtimeEvidence.map Evidence.processDigest
  endpointEvidenceSha256 := session.runtimeEvidence.map Evidence.endpointDigest
  applicationEvidenceSha256 := session.runtimeEvidence.map Evidence.applicationDigest
  reasonCodes := session.reasons
  lifecycleOperations := session.processStarted.toNat + session.processStopped.toNat
  processMutations := decide (0 < session.processStarted.toNat + session.processStopped.toNat)

/-- `_build_final_receipt`, kept as the final receipt. -/
def finish (state : LeaseState) : Act SessionReceipt := do
  let s ← Effect.get
  let receipt := s.session.finalOf digest bindingSha256 state
  Effect.ofExcept (check (receipt.wellFormed = true) "receipt_invalid")
  update fun session => { session with finalReceipt := some receipt }
  return receipt

/-! ## The calls -/

/-- The guarded part of `start`. -/
def startBody (script : StartScript) : Act Output := do
  Effect.ofExcept script.firstRecheck
  let evidence ← callAdapter digest .adapterStart script.start
  let s ← Effect.get
  Effect.ofExcept (check (s.session.state = .starting ∧ s.session.processStarted = true)
    "ownership_unknown")
  update fun session => { session with runtimeEvidence := some evidence }
  Effect.ofExcept script.secondRecheck
  let observed ← callAdapter digest .adapterInspect script.inspect
  let s ← Effect.get
  Effect.ofExcept (assertRuntimeContinuity s.session.runtimeEvidence observed)
  update fun session => { session with runtimeEvidence := some observed }
  let receipt ← transition digest (.transition .ready) .ready ∅ none
    (some observed.processDigest) (some observed.endpointDigest) script.ready
  Effect.ofExcept script.result
  return .started receipt observed

def start (script : StartScript) : Act Output := do
  let s ← Effect.get
  if s.session.state ≠ .prepared then Effect.fail "already_started"
  else
    (startBody digest script).handle fun code => do
      recordFailure digest code script.failure
      Effect.fail code

/-- The guarded part of `inspect`. -/
def inspectBody (script : InspectScript) : Act Output := do
  let evidence ← callAdapter digest .adapterInspect script.first
  let s ← Effect.get
  Effect.ofExcept (assertRuntimeContinuity s.session.runtimeEvidence evidence)
  let rehash ← Effect.ofExcept script.rehash
  if rehash = true then do
    Effect.ofExcept script.recheck
    let observed ← callAdapter digest .adapterInspect script.second
    let s ← Effect.get
    Effect.ofExcept (assertRuntimeContinuity s.session.runtimeEvidence observed)
    update fun session => { session with runtimeEvidence := some observed }
    return .inspected observed
  else do
    update fun session => { session with runtimeEvidence := some evidence }
    return .inspected evidence

def inspect (script : InspectScript) : Act Output := do
  let s ← Effect.get
  if s.session.state ≠ .ready then Effect.fail "runtime_not_ready"
  else
    (inspectBody digest script).handle fun code => do
      recordFailure digest code script.failure
      Effect.fail code

/-- The transition to "stopping": whether it failed. -/
def enterStopping (answer : LedgerAnswer) : Act Bool := do
  let s ← Effect.get
  if s.session.state = .stopping then return false
  else
    (do let _ ← transition digest (.transition .stopping) .stopping s.session.reasons none none
          none answer
        return false).handle fun _ => do
      setLedgerFailed
      return true

/-- The call of the adapter's `stop`. -/
def callStop (call : AdapterCall Unit) : Act Unit := do
  runCallbacks digest call.callbacks
  note (.adapterStop call.outcome.isOk)
  Effect.ofExcept call.outcome

/-- The guarded part of `stop`. -/
def stopBody (script : StopScript) : Act SessionReceipt := do
  let ledgerError ← enterStopping digest script.stopping
  callStop digest script.stop
  let unknown ← readCleanupUnknown script.unknownAfter
  if unknown = true then Effect.fail "cleanup_unverified"
  else do
    update fun session => { session with
      processStopped := session.processStopped || session.processStarted }
    (Effect.ofExcept script.recheck).handle fun _ => addReason .bindingChanged
    if ledgerError = true then do
      addReason .cleanupUnverified
      ensureUnknown digest script.firstUnknown
      finish digest bindingSha256 .unknownBlocking
    else do
      let s ← Effect.get
      let _ ← transition digest (.transition .stopped) .stopped s.session.reasons none none none
        script.stopped
      finish digest bindingSha256 .stopped

def stop (script : StopScript) : Act SessionReceipt := do
  let s ← Effect.get
  match s.session.finalReceipt with
  | some receipt => return receipt
  | none => do
    let unknown ← readCleanupUnknown script.unknownBefore
    if unknown = true then do
      ensureUnknown digest script.firstUnknown
      finish digest bindingSha256 .unknownBlocking
    else
      (stopBody digest bindingSha256 script).handle fun _ => do
        addReason .cleanupUnverified
        ensureUnknown digest script.secondUnknown
        let s ← Effect.get
        if s.session.ledgerFailed = true then Effect.fail "cleanup_unverified"
        else finish digest bindingSha256 .unknownBlocking

def perform : Call → Act Output
  | .start script => start digest script
  | .inspect script => inspect digest script
  | .stop script => do
    let receipt ← stop digest bindingSha256 script
    return .stopped receipt

def sessionOf (acquired : LeaseReceipt) : Machine System Call (Except String Output) where
  init := {
    session := ⟨.prepared, [acquired], none, none, false, false, false, ∅⟩
    ledger := ⟨some acquired, false, [acquired]⟩
    log := [] }
  step s call :=
    let result := perform digest bindingSha256 call { s with log := [] }
    (result.2, result.1)

end Session

end LocalMoe.Supervisor
