/-
  Tasks, providers, verifiers and evidence of the assistant bridge.
-/
import LocalMoe.Foundation.Checked
import Mathlib.Data.List.Dedup
import Mathlib.Data.List.Sort
import Mathlib.Data.String.Basic

namespace LocalMoe.Runner

open Foundation

structure BridgeError where
  message : String
  deriving DecidableEq, Repr

/-! ## Tasks -/

/-- `RISK_LEVELS`, in their order. -/
inductive RiskClass where
  | readOnly | computeOnly | writeLocal | writeExternal | destructive | privileged
  deriving DecidableEq, Repr

def RiskClass.level : RiskClass → Nat
  | .readOnly => 0
  | .computeOnly => 1
  | .writeLocal => 2
  | .writeExternal => 3
  | .destructive => 4
  | .privileged => 5

def RiskClass.name : RiskClass → String
  | .readOnly => "read_only"
  | .computeOnly => "compute_only"
  | .writeLocal => "write_local"
  | .writeExternal => "write_external"
  | .destructive => "destructive"
  | .privileged => "privileged"

inductive Profile where
  | balanced | economy | offline | privacy | quality
  deriving DecidableEq, Repr

def Profile.name : Profile → String
  | .balanced => "balanced"
  | .economy => "economy"
  | .offline => "offline"
  | .privacy => "privacy"
  | .quality => "quality"

structure CapabilityDemand where
  required : List String
  tools : List String
  riskClass : RiskClass
  deriving DecidableEq, Repr

/-- `AssistantTaskEnvelope`; its fingerprint stands for the objective, the constraints and
the other fields that no decision reads. -/
structure AssistantTaskEnvelope where
  taskFingerprint : String
  profile : Profile
  capabilityDemand : CapabilityDemand
  requiredVerifierIds : List String
  noChangeExpected : Bool
  allowRemote : Option Bool
  allowRemoteWorkspace : Bool
  maxPremiumCalls : Option Nat
  /-- The budget of a task is 0 or 1. -/
  budget : ∀ n ∈ maxPremiumCalls, n ≤ 1
  remoteWorkspace : allowRemoteWorkspace = true → allowRemote = some true
  distinct : requiredVerifierIds.Nodup

/-! ## Providers and profiles -/

/-- The modes of a provider. -/
inductive Mode where
  | local | premium
  deriving DecidableEq, Repr

/-- What the decisions use of `ProviderSpec`. -/
structure ProviderSpec where
  id : String
  mode : Mode
  capabilities : List String
  tools : List String
  maxRisk : RiskClass
  sandbox : String
  workspaceAccess : String
  networkAccess : Bool
  deriving DecidableEq, Repr

inductive Route where
  | blocked | local | localThenVerify | premium
  deriving DecidableEq, Repr

def Route.name : Route → String
  | .blocked => "blocked"
  | .local => "local"
  | .localThenVerify => "local_then_verify"
  | .premium => "premium"

def Route.rank : Route → Option Nat
  | .blocked => none
  | .local => some 0
  | .localThenVerify => some 1
  | .premium => some 2

structure ProfilePolicy where
  name : Profile
  initialRoute : Route
  remoteAllowed : Bool
  explicitRemoteOptIn : Bool
  maxPremiumCalls : Nat
  executable : initialRoute ≠ .blocked
  budget : maxPremiumCalls ≤ 1
  offline : name = .offline → remoteAllowed = false ∧ maxPremiumCalls = 0

/-! ## Verifiers and evidence -/

/-- The purposes of a command verifier. -/
inductive Purpose where
  | hygiene | task
  deriving DecidableEq, Repr

/-- What the runs use of `CommandVerifierSpec`. -/
structure CommandVerifierSpec where
  id : String
  /-- `kind = "trusted_git_diff_check"`, else `"command"`. -/
  trustedGit : Bool
  purpose : Purpose
  requiredForCapabilities : List String
  requiredForTools : List String
  requiredForRisks : List RiskClass
  specSha256 : String
  deriving DecidableEq, Repr

def CommandVerifierSpec.appliesTo (spec : CommandVerifierSpec) (demand : CapabilityDemand) :
    Bool :=
  spec.purpose = .hygiene &&
    (demand.required.any spec.requiredForCapabilities.contains ||
      demand.tools.any spec.requiredForTools.contains ||
      spec.requiredForRisks.contains demand.riskClass)

structure ExternalVerifierSpec where
  id : String
  verifier : String
  specSha256 : String
  deriving DecidableEq, Repr

inductive EvidenceKind where
  | builtin | command | external | output | process | policy
  deriving DecidableEq, Repr

/-- `VerificationEvidence`, without its artifact. -/
structure VerificationEvidence where
  id : String
  verifier : String
  kind : EvidenceKind
  passed : Bool
  code : String
  taskFingerprint : String
  workspaceFingerprint : String
  verifierSpecSha256 : String
  deriving DecidableEq, Repr

def allPassed (evidence : List VerificationEvidence) : Bool :=
  !evidence.isEmpty && evidence.all VerificationEvidence.passed

inductive CommandStatus where
  | completed | failed | blocked
  deriving DecidableEq, Repr

/-- What the runs use of `CommandResult`. -/
structure CommandResult where
  providerId : String
  status : CommandStatus
  code : String
  output : String
  commandSha256 : String
  deriving DecidableEq, Repr

/-- A deterministic check of the output: its evaluation, which may raise, is taken from
outside. -/
structure OutputCheck where
  id : String
  type : String
  specSha256 : String
  evaluate : String → Except BridgeError Bool

/-- What the runs use of `AssistantBridgeConfig`. -/
structure AssistantBridgeConfig where
  localProvider : ProviderSpec
  premium : ProviderSpec
  profiles : Profile → ProfilePolicy
  verificationChecks : List OutputCheck
  commandVerifiers : List CommandVerifierSpec
  /-- The mapping from ids. -/
  externalVerifiers : String → Option ExternalVerifierSpec
  independentCapabilities : List String
  independentTools : List String
  independentRisks : List RiskClass
  /-- `verified_routing.enabled`. -/
  verifiedRouting : Bool
  sourceSha256 : String
  localMode : localProvider.mode = .local
  premiumMode : premium.mode = .premium
  checked : verificationChecks ≠ []

def requiresIndependentEvidence (demand : CapabilityDemand) (config : AssistantBridgeConfig) :
    Bool :=
  demand.required.any config.independentCapabilities.contains ||
    demand.tools.any config.independentTools.contains ||
    config.independentRisks.contains demand.riskClass

/-! ## Trees -/

/-- `WorkspaceFile`: what stands at a path. -/
structure WorkspaceFile where
  path : String
  sha256 : String
  mode : Nat
  inputOnly : Bool
  deriving DecidableEq, Repr

abbrev Tree := List WorkspaceFile

/-- The file at a path; of two, the last. -/
def Tree.at? (tree : Tree) (path : String) : Option WorkspaceFile :=
  tree.reverse.find? fun file => file.path = path

structure WorkspaceChange where
  path : String
  before : Option WorkspaceFile
  after : Option WorkspaceFile
  deriving DecidableEq, Repr

/-- The paths of two trees, sorted. -/
def changePaths (baseline candidate : Tree) : List String :=
  ((baseline.map WorkspaceFile.path ++ candidate.map WorkspaceFile.path).dedup).insertionSort
    (· ≤ ·)

def buildChangeset (baseline candidate : Tree) : Except BridgeError (List WorkspaceChange) := do
  let changes := (changePaths baseline candidate).filterMap fun path =>
    if baseline.at? path = candidate.at? path then none
    else some (⟨path, baseline.at? path, candidate.at? path⟩ : WorkspaceChange)
  check (changes.all fun change => !(change.before.any WorkspaceFile.inputOnly ||
      change.after.any WorkspaceFile.inputOnly))
    (⟨"An input_only ignored artifact was modified by the candidate."⟩ : BridgeError)
  return changes

end LocalMoe.Runner
