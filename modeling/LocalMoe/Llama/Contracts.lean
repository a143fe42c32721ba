/-
  The evidence that `llama_cpp_runtime_supervisor.py` collects, and the collaborators it asks.

  Each call of a collaborator has a number, and the answer to it is whatever `Replies` says for
  that number.
-/
import LocalMoe.Contracts.Value
import LocalMoe.Contracts.VerifiedRouting
import LocalMoe.Foundation.Effect

namespace LocalMoe.Llama

open Foundation Contracts

/-! ## Exceptions -/

/-- What a call can raise. -/
inductive Raised where
  /-- `LlamaCppRuntimeSupervisorError`. -/
  | supervisor (code : String) (reasonCodes : List String)
  /-- `RuntimeProcessObservationError`. -/
  | observation
  /-- `LlamaCppTransportError`. -/
  | transport
  /-- `subprocess.TimeoutExpired`. -/
  | timeoutExpired
  | timeoutError
  | processLookupError
  | permissionError
  | osError
  | valueError
  /-- Another `Exception`. -/
  | other
  /-- An exception that is no `Exception`, such as `KeyboardInterrupt`. -/
  | interrupt
  deriving DecidableEq, Repr

/-- `except Exception` catches it. -/
def Raised.isException : Raised → Bool
  | .interrupt => false
  | _ => true

/-- `except OSError` catches it. -/
def Raised.isOSError : Raised → Bool
  | .timeoutError => true
  | .processLookupError => true
  | .permissionError => true
  | .osError => true
  | _ => false

/-- `LlamaCppRuntimeSupervisorError` without reasons. -/
def failure (code : String) : Raised := .supervisor code []

/-! ## Evidence -/

structure ProcessTreeEvidence where
  rootPid : Int
  createTimeNs : Int
  processCount : Nat
  rootExecutableSha256 : String
  rootOnly : Bool
  deriving DecidableEq, Repr

structure EndpointOwnershipEvidence where
  listenerPids : List Int
  ownedByRoot : Bool
  ambiguous : Bool
  owned : ownedByRoot = true → ambiguous = false ∧ listenerPids.length = 1
  deriving DecidableEq

/-- Nobody listens, and that is certain. -/
def EndpointOwnershipEvidence.Vacant (e : EndpointOwnershipEvidence) : Prop :=
  e.ambiguous = false ∧ e.listenerPids = []

instance (e : EndpointOwnershipEvidence) : Decidable e.Vacant :=
  inferInstanceAs (Decidable (_ ∧ _))

structure JsonHttpResponse where
  statusCode : Nat
  payload : Value

/-- `LlamaCppApplicationEvidence`, but for its digests. -/
structure ApplicationEvidence where
  ready : Bool
  modelIds : List String
  reasonCodes : List String
  consistent : ready = true ↔ reasonCodes = []
  deriving DecidableEq

structure RuntimeEvidence where
  process : ProcessTreeEvidence
  endpoint : EndpointOwnershipEvidence
  application : ApplicationEvidence
  ready : application.ready = true
  owned : endpoint.ownedByRoot = true ∧ endpoint.ambiguous = false
  listener : endpoint.listenerPids = [process.rootPid]

/-- What the supervisor reads of `LlamaCppRuntimeSpec`. -/
structure RuntimeSpec where
  executableSha256 : String
  modelPath : String
  modelId : String
  startupTimeoutSeconds : ℚ
  shutdownTimeoutSeconds : ℚ

/-! ## Collaborators -/

/-- The root process that a launch returned. -/
structure SpawnedProcess where
  /-- Which launch returned it. -/
  launch : Nat
  /-- `isinstance(process, subprocess.Popen)`. -/
  popen : Bool
  deriving DecidableEq, Repr

structure Clock where
  Time : Type
  /-- `self._monotonic() + seconds`. -/
  after : Time → ℚ → Time
  /-- `now >= deadline`. -/
  reached : Time → Time → Bool

/-- The answers to one call of a collaborator, whichever it is. -/
structure Replies (C : Clock) where
  /-- `launch`: whether the process is a `Popen`. -/
  launch : Except Raised Bool
  /-- `on_process_launched` and `on_process_observed`. -/
  callback : Except Raised Unit
  /-- `process.pid`. -/
  pid : Except Raised Int
  poll : Except Raised (Option Int)
  wait : Except Raised Unit
  /-- `terminate`, `kill` and `os.killpg`. -/
  signal : Except Raised Unit
  /-- `os.getpgid`. -/
  getpgid : Except Raised Int
  tree : Except Raised ProcessTreeEvidence
  endpoint : Except Raised EndpointOwnershipEvidence
  /-- `get_json`. -/
  response : Except Raised JsonHttpResponse
  clock : Except Raised C.Time
  sleep : Except Raised Unit

/-- The configuration of a supervisor and what its collaborators answer. -/
structure Environment where
  spec : RuntimeSpec
  clock : Clock
  replies : Nat → Replies clock
  /-- `os.name == "posix"`. -/
  posix : Bool
  /-- `os.path.realpath`. -/
  realpath : String → String
  /-- `_sha256_json` of a payload does not raise. -/
  digestible : Value → Bool

/-! ## The supervisor -/

/-- The requests of `_probe_application`. -/
inductive Probe where
  | health | props | models
  deriving DecidableEq, Repr

/-- What has been seen, in order. -/
inductive Event where
  /-- The launcher returned a process. -/
  | launched (launch : Nat)
  /-- The exit of a process was observed, or its empty process group. -/
  | gone (launch : Nat)
  | tree (evidence : ProcessTreeEvidence)
  | endpoint (evidence : EndpointOwnershipEvidence)
  | probed (probe : Probe) (response : Option JsonHttpResponse)

structure RootIdentity where
  rootPid : Int
  createTimeNs : Int
  rootExecutableSha256 : String
  deriving DecidableEq, Repr

def ProcessTreeEvidence.identity (e : ProcessTreeEvidence) : RootIdentity :=
  ⟨e.rootPid, e.createTimeNs, e.rootExecutableSha256⟩

/-- The fields of a supervisor, with the calls made so far and what they showed. -/
structure World where
  process : Option SpawnedProcess
  rootIdentity : Option RootIdentity
  cleanupUnknown : Bool
  calls : Nat
  launches : Nat
  trace : List Event

/-- A new supervisor. -/
def World.init : World := ⟨none, none, false, 0, 0, []⟩

end LocalMoe.Llama
