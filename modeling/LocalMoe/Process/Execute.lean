/-
  `execute_process`: the launch, the supervision and the cleanup of one process.

  What the operating system, the permit's callbacks and the tracker do is a script, and so is
  the order in which the pipe workers step.
-/
import LocalMoe.Foundation.Checked
import LocalMoe.Foundation.Effect
import Mathlib.Data.List.Basic

namespace LocalMoe.Process

open Foundation

/-! ## Exceptions -/

/-- `AssistantBridgeRuntimeError` and its subclasses. -/
inductive RuntimeError where
  | executableChanged | launcherChainChanged | workingDirectoryChanged | processTreeUnavailable
  | observation | launch | launchNotAuthorized | launchLifecycle | cleanup | other
  deriving DecidableEq, Repr

/-- What may be raised. -/
inductive Exc where
  /-- `KeyboardInterrupt` and `SystemExit`. -/
  | interrupt
  /-- A `BaseException` that is no `Exception`. -/
  | otherBase
  /-- `OSError`. -/
  | os
  | runtime (error : RuntimeError)
  /-- Any other `Exception`. -/
  | other
  deriving DecidableEq, Repr

def Exc.isException : Exc → Bool
  | .interrupt | .otherBase => false
  | .os | .runtime _ | .other => true

/-- How a pending error leaves the call. -/
def surface : Exc → Exc
  | .interrupt => .interrupt
  | .runtime error => .runtime error
  | .otherBase | .os | .other => .runtime .cleanup

/-! ## Streams -/

/-- `_BoundedStream`; the digest is of `hashed`. -/
structure BoundedStream where
  limit : Nat
  count : Nat
  overflowed : Bool
  failed : Bool
  reachedEof : Bool
  retained : List UInt8
  hashed : List UInt8
  deriving DecidableEq, Repr

namespace BoundedStream

def new (limit : Nat) : BoundedStream := ⟨limit, 0, false, false, false, [], []⟩

def update (s : BoundedStream) (chunk : List UInt8) : BoundedStream := { s with
  count := s.count + chunk.length
  hashed := s.hashed ++ chunk
  retained := s.retained ++ chunk.take (s.limit - s.retained.length)
  overflowed := s.overflowed || decide (s.limit < s.count + chunk.length) }

def fail (s : BoundedStream) : BoundedStream := { s with failed := true }

def finish (s : BoundedStream) : BoundedStream := { s with reachedEof := true }

end BoundedStream

structure StdinState where
  count : Nat
  expected : Nat
  failed : Bool
  flushed : Bool
  deriving DecidableEq, Repr

def StdinState.new (expected : Nat) : StdinState := ⟨0, expected, false, decide (expected = 0)⟩

def StdinState.complete (s : StdinState) : Bool :=
  !s.failed && decide (s.count = s.expected) && s.flushed

/-! ## Workers -/

inductive Reader where
  | stdout | stderr
  deriving DecidableEq, Repr

inductive Worker where
  | reader (reader : Reader)
  | writer
  deriving DecidableEq, Repr

/-- What the callbacks and the cleanup leave in a trace. -/
inductive Touch where
  | reserve (granted : Bool)
  | popen (raised : Option Exc)
  | release
  | commit
  | report (verified : Bool)
  deriving DecidableEq, Repr

structure State where
  streams : Reader → BoundedStream
  stdin : StdinState
  alive : Worker → Bool
  returncode : Option Int
  log : List Touch

/-- One step of a worker: of `_read_pipe`, or of `_write_stdin`. -/
inductive WorkerStep where
  | chunk (reader : Reader) (bytes : List UInt8)
  | endOfFile (reader : Reader)
  | readFailed (reader : Reader)
  | wrote (count : Nat)
  | writeFailed
  | flushed
  /-- The worker ends otherwise: it has no pipe, no content, or raises what it does not
  handle. -/
  | ended (worker : Worker)
  deriving DecidableEq, Repr

namespace State

def onStream (s : State) (reader : Reader) (f : BoundedStream → BoundedStream) : State :=
  { s with streams := Function.update s.streams reader (f (s.streams reader)) }

def onStdin (s : State) (f : StdinState → StdinState) : State := { s with stdin := f s.stdin }

def setAlive (s : State) (worker : Worker) (value : Bool) : State :=
  { s with alive := Function.update s.alive worker value }

/-- A worker that has ended takes no step. -/
def step (s : State) : WorkerStep → State
  | .chunk reader bytes =>
    if s.alive (.reader reader) then s.onStream reader (·.update bytes) else s
  | .endOfFile reader =>
    if s.alive (.reader reader) then (s.onStream reader (·.finish)).setAlive (.reader reader) false
    else s
  | .readFailed reader =>
    if s.alive (.reader reader) then (s.onStream reader (·.fail)).setAlive (.reader reader) false
    else s
  | .wrote count =>
    if s.alive .writer ∧ s.stdin.count < s.stdin.expected ∧ 0 < count then
      s.onStdin fun stdin => { stdin with count := stdin.count + count }
    else s
  | .writeFailed =>
    if s.alive .writer then
      (s.onStdin fun stdin => { stdin with failed := true }).setAlive .writer false
    else s
  | .flushed =>
    if s.alive .writer ∧ ¬ s.stdin.count < s.stdin.expected then
      (s.onStdin fun stdin => { stdin with flushed := true }).setAlive .writer false
    else s
  | .ended worker => s.setAlive worker false

def steps (s : State) (steps : List WorkerStep) : State := steps.foldl step s

/-- Whether every worker has ended. -/
def joined (s : State) : Bool :=
  !s.alive (.reader .stdout) && !s.alive (.reader .stderr) && !s.alive .writer

end State

/-- Computations of a call. -/
abbrev Act (α : Type) := Effect State Exc α

/-! ## Scripts -/

/-- What `reserve_launch` returns. -/
inductive Reservation where
  | permit | denied | invalid
  deriving DecidableEq, Repr

structure LaunchScript where
  directory : Except Exc Unit
  reserve : Option (Except Exc Reservation)
  popen : Except Exc Unit
  release : Except Exc Unit

/-- One round of the polling loop; workers step between its readings. -/
structure Round where
  /-- Whether the observation of the process tree is verified. -/
  observe : Except Exc Bool
  now : Nat
  beforeStdout : List WorkerStep
  beforeStderr : List WorkerStep
  beforeFailures : List WorkerStep
  poll : Except Exc (Option Int)
  beforeAlive : List WorkerStep
  wait : Except Exc Unit
  during : List WorkerStep

structure SupervisionScript where
  tracker : Except Exc Bool
  commit : Except Exc Unit
  identity : Except Exc Unit
  created : Except Exc Unit
  started : Worker → Except Exc Unit
  meanwhile : Worker → List WorkerStep
  rounds : List Round
  /-- What interrupts the loop after its last round. -/
  interruption : Exc

/-- A call of a cleanup, up to its last readings: it raises, or returns; a poll may find the
exit status.  What is handled on the spot counts as a return. -/
structure CleanupCall where
  during : List WorkerStep
  outcome : Except Exc (Option Int)

/-- The last readings of a cleanup. -/
structure Readings where
  poll : Except Exc (Option Int)
  groupAlive : Except Exc Bool
  live : Except Exc Bool
  observed : Bool
  during : List WorkerStep
  isAlive : Except Exc Unit

structure CleanupScript where
  calls : List CleanupCall
  readings : Readings

structure Script where
  preflight : Except Exc Unit
  launch : LaunchScript
  supervision : SupervisionScript
  cleanup : CleanupScript
  emergency : CleanupScript
  afterwards : List WorkerStep

/-- The host, and `ProcessExecutionPolicy`. -/
structure Policy where
  posix : Bool
  psutil : Bool
  requirePsutil : Bool
  requireTreeIsolation : Bool
  stdoutLimit : Nat
  stderrLimit : Nat
  stdinBytes : Nat
  deadline : Nat
  pipeSettle : Nat

/-! ## Results -/

inductive Terminal where
  | completed | nonzeroExit | stdoutLimitExceeded | stderrLimitExceeded | ioFailed | timedOut
  deriving DecidableEq, Repr

/-- `CleanupReport`, what the verdict is made of. -/
structure CleanupReport where
  verified : Bool
  processGroupVerified : Option Bool
  psutilVerified : Option Bool
  rootReaped : Bool
  pipeThreadsJoined : Bool
  fallbackUsed : Bool
  deriving DecidableEq, Repr

/-- `ProcessExecutionResult`, without durations and identities. -/
structure Result where
  code : Terminal
  returncode : Option Int
  timedOut : Bool
  /-- The stream of a reader: what is retained, counted and digested, and its flags. -/
  streams : Reader → BoundedStream
  stdin : StdinState
  cleanup : CleanupReport

section Execution

variable (p : Policy)

/-- The state before the call. -/
def initial : State where
  streams
    | .stdout => .new p.stdoutLimit
    | .stderr => .new p.stderrLimit
  stdin := .new p.stdinBytes
  alive := fun _ => false
  returncode := none
  log := []

/-! ## Pieces -/

def note (touch : Touch) : Act PUnit := Effect.modify fun s => { s with log := s.log ++ [touch] }

def workers (steps : List WorkerStep) : Act PUnit := Effect.modify fun s => s.steps steps

/-- Keep the exit status: the first that is found stays. -/
def keepReturncode (code : Option Int) : Act PUnit :=
  Effect.modify fun s => { s with returncode := s.returncode.or code }

def poll (outcome : Except Exc (Option Int)) : Act (Option Int) := do
  let code ← Effect.ofExcept outcome
  keepReturncode code
  let s ← Effect.get
  return s.returncode

/-! ## Launch -/

/-- The reservation: whether there is a permit. -/
def reserveLaunch (script : LaunchScript) : Act Bool :=
  match script.reserve with
  | none => return false
  | some (.error e) => do
    note (.reserve false)
    Effect.fail (if e.isException then .runtime .launchLifecycle else e)
  | some (.ok .denied) => do
    note (.reserve false)
    Effect.fail (.runtime .launchNotAuthorized)
  | some (.ok .invalid) => do
    note (.reserve false)
    Effect.fail (.runtime .launchLifecycle)
  | some (.ok .permit) => do
    note (.reserve true)
    return true

def releasePermit (permit : Bool) (script : LaunchScript) : Act PUnit :=
  if permit then do
    note .release
    match script.release with
    | .ok _ => return ⟨⟩
    | .error e => Effect.fail (if e.isException then .runtime .launchLifecycle else e)
  else return ⟨⟩

/-- The launch, up to the return of `Popen`. -/
def launch (script : LaunchScript) : Act Bool := do
  Effect.ofExcept script.directory
  let permit ← reserveLaunch script
  note (.popen (match script.popen with
    | .ok _ => none
    | .error e => some e))
  match script.popen with
  | .ok _ => return permit
  | .error .os => do
    releasePermit permit script
    Effect.fail (.runtime .launch)
  | .error e => Effect.fail e

/-! ## Supervision -/

def commitPermit (permit : Bool) (script : SupervisionScript) : Act PUnit :=
  if permit then do
    note .commit
    match script.commit with
    | .ok _ => return ⟨⟩
    | .error e => Effect.fail (if e.isException then .runtime .launchLifecycle else e)
  else return ⟨⟩

/-- A change that the second attestation finds. -/
def identityError : Exc → Exc
  | .runtime .executableChanged | .runtime .launcherChainChanged
  | .runtime .workingDirectoryChanged => .runtime .launch
  | e => e

def startWorker (script : SupervisionScript) (worker : Worker) : Act PUnit := do
  Effect.ofExcept (script.started worker)
  Effect.modify fun s => s.setAlive worker true
  workers (script.meanwhile worker)

def pollLoop (interruption : Exc) : List Round → Option Nat → Act Terminal
  | [], _ => Effect.fail interruption
  | round :: rest, rootExitedAt => do
    let observed ← Effect.ofExcept round.observe
    if p.requirePsutil = true ∧ observed = false then Effect.fail (.runtime .observation)
    else do
      workers round.beforeStdout
      let s ← Effect.get
      if (s.streams .stdout).overflowed = true then return .stdoutLimitExceeded
      else do
        workers round.beforeStderr
        let s ← Effect.get
        if (s.streams .stderr).overflowed = true then return .stderrLimitExceeded
        else do
          workers round.beforeFailures
          let s ← Effect.get
          if (s.streams .stdout).failed = true ∨ (s.streams .stderr).failed = true ∨
              s.stdin.failed = true then return .ioFailed
          else if p.deadline ≤ round.now then return .timedOut
          else do
            let code ← poll round.poll
            workers round.beforeAlive
            let s ← Effect.get
            match code with
            | some code =>
              let ended := if code = 0 then Terminal.completed else .nonzeroExit
              if s.joined = true then return ended
              else match rootExitedAt with
                | none => do
                  Effect.ofExcept round.wait
                  workers round.during
                  pollLoop interruption rest (some round.now)
                | some exitedAt =>
                  if p.pipeSettle ≤ round.now - exitedAt then return ended
                  else do
                    Effect.ofExcept round.wait
                    workers round.during
                    pollLoop interruption rest (some exitedAt)
            | none => do
              Effect.ofExcept round.wait
              workers round.during
              pollLoop interruption rest rootExitedAt

/-- What follows the launch, up to the cleanup. -/
def supervise (permit : Bool) (script : SupervisionScript) : Act Terminal := do
  let observed ← Effect.ofExcept script.tracker
  if p.requirePsutil = true ∧ observed = false then Effect.fail (.runtime .observation)
  else do
    commitPermit permit script
    (Effect.ofExcept script.identity).handle fun e => Effect.fail (identityError e)
    Effect.ofExcept script.created
    startWorker script (.reader .stdout)
    startWorker script (.reader .stderr)
    startWorker script .writer
    pollLoop p script.interruption script.rounds none

/-! ## Cleanup -/

/-- The calls of `_cleanup_process_tree` before its last readings. -/
def cleanupCalls : List CleanupCall → Act PUnit
  | [] => return ⟨⟩
  | call :: rest => do
    workers call.during
    let code ← Effect.ofExcept call.outcome
    keepReturncode code
    cleanupCalls rest

/-- The verdict of the primary cleanup. -/
def primaryVerified (group psutil : Option Bool) (rootReaped joined : Bool) : Bool :=
  rootReaped && decide (group ≠ some false) && decide (psutil ≠ some false) && joined

def cleanupProcessTree (script : CleanupScript) : Act CleanupReport := do
  cleanupCalls script.calls
  let code ← poll script.readings.poll
  let groupAlive ← Effect.ofExcept (if p.posix then script.readings.groupAlive else .ok false)
  let live ← Effect.ofExcept (if p.psutil then script.readings.live else .ok false)
  workers script.readings.during
  Effect.ofExcept script.readings.isAlive
  let s ← Effect.get
  let group := if p.posix then some !groupAlive else none
  let psutil := if p.psutil then some (script.readings.observed && !live) else none
  let verified := primaryVerified group psutil code.isSome s.joined
  note (.report verified)
  if verified = true then return ⟨true, group, psutil, code.isSome, s.joined, false⟩
  else Effect.fail (.runtime .cleanup)

/-- The calls of the emergency cleanup: whatever they raise is dropped. -/
def emergencyCalls : List CleanupCall → Act PUnit
  | [] => return ⟨⟩
  | call :: rest => do
    workers call.during
    keepReturncode (match call.outcome with
      | .ok code => code
      | .error _ => none)
    emergencyCalls rest

/-- The verdict of the emergency cleanup. -/
def emergencyVerified (group psutil : Option Bool) (rootReaped joined : Bool) : Bool :=
  rootReaped && decide (group ≠ some false) && joined && decide (psutil ≠ some false) &&
    (p.posix || !p.requireTreeIsolation || decide (psutil = some true)) &&
    (!p.requirePsutil || decide (psutil = some true))

/-- A reading that raises counts against the verdict. -/
def Readings.holds (outcome : Except Exc Bool) : Bool :=
  match outcome with
  | .ok value => value
  | .error _ => false

def emergencyCleanup (tracker : Bool) (script : CleanupScript) : Act CleanupReport := do
  emergencyCalls script.calls
  keepReturncode (match script.readings.poll with
    | .ok code => code
    | .error _ => none)
  workers script.readings.during
  let s ← Effect.get
  let rootReaped := script.readings.poll.isOk && s.returncode.isSome
  let group := if p.posix then some (Readings.holds (script.readings.groupAlive.map (!·))) else none
  let psutil := if tracker && p.psutil then
    some (Readings.holds (script.readings.live.map fun live => script.readings.observed && !live))
    else none
  let joined := script.readings.isAlive.isOk && s.joined
  let verified := emergencyVerified p group psutil rootReaped joined
  note (.report verified)
  return ⟨verified, group, psutil, rootReaped, joined, true⟩

def cleanupOwnedProcess (primary emergency : CleanupScript) : Act CleanupReport :=
  (cleanupProcessTree p primary).handle fun _ => do
    let _ ← emergencyCleanup p true emergency
    Effect.fail (.runtime .cleanup)

/-! ## The call -/

/-- The classification after the cleanup. -/
def reclassify (terminal : Terminal) (s : State) : Terminal :=
  if terminal = .completed ∨ terminal = .nonzeroExit then
    if (s.streams .stdout).overflowed = true then .stdoutLimitExceeded
    else if (s.streams .stderr).overflowed = true then .stderrLimitExceeded
    else if (s.streams .stdout).failed = true ∨ (s.streams .stderr).failed = true ∨
        (s.streams .stdout).reachedEof = false ∨ (s.streams .stderr).reachedEof = false ∨
        s.stdin.complete = false then .ioFailed
    else terminal
  else terminal

def resultOf (terminal : Terminal) (report : CleanupReport) (s : State) : Result where
  code := reclassify terminal s
  returncode := s.returncode
  timedOut := decide (reclassify terminal s = .timedOut)
  streams := s.streams
  stdin := s.stdin
  cleanup := report

/-- What follows an error after the launch. -/
def abandon (tracker : Bool) (script : CleanupScript) (e : Exc) : Act Terminal := do
  let report ← emergencyCleanup p tracker script
  if report.verified = true then Effect.fail (surface e) else Effect.fail (.runtime .cleanup)

def executeProcess (script : Script) : Act Result := do
  Effect.ofExcept script.preflight
  let permit ← (launch script.launch).handle fun e => Effect.fail (surface e)
  let terminal ← (supervise p permit script.supervision).handle
    (abandon p script.supervision.tracker.isOk script.emergency)
  let report ← (cleanupOwnedProcess p script.cleanup script.emergency).handle fun e =>
    Effect.fail (surface e)
  workers script.afterwards
  let s ← Effect.get
  return resultOf terminal report s

end Execution

end LocalMoe.Process
