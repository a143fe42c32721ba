/-
  The ledger of endpoint leases that all supervisors share.

  Each transaction is one step. A raw token and its digest are one symbol: nobody presents a
  token that was drawn for another. What an owner's crash and `release_owner` leave behind is
  the same, a sentinel that nobody holds.
-/
import LocalMoe.Contracts.VerifiedRouting
import LocalMoe.Foundation.Table
import LocalMoe.Supervisor.Session

namespace LocalMoe.Supervisor.Ledger

open Foundation Contracts

/-! ## Receipts -/

/-- A token: drawn by an acquisition, or made up. -/
inductive Token where
  | drawn (n : Nat)
  | guessed (bytes : String)
  deriving DecidableEq, Repr

def maxSqliteInteger : Int := 2 ^ 63 - 1

/-- `RuntimeSupervisorLeaseReceipt`, without its constant fields. -/
structure Receipt where
  policySha256 : String
  bindingSha256 : String
  endpointAuthoritySha256 : String
  coordinationDomainSha256 : String
  leaseId : String
  leaseToken : Token
  ownerPid : Int
  state : LeaseState
  reasonCodes : Finset Reason
  transitionIndex : Nat
  previousReceiptSha256 : Option String
  runtimePid : Option Int
  runtimeCreateTimeNs : Option Int
  runtimeExecutableSha256 : Option String
  processTreeSha256 : Option String
  endpointEvidenceSha256 : Option String
  updatedAt : String
  deriving DecidableEq

/-- `_integer` with a minimum of 1. -/
def isPositiveInteger (value : Int) : Bool := 1 ≤ value && value ≤ maxSqliteInteger

/-- The checks of `__post_init__`. -/
def Receipt.wellFormed (r : Receipt) : Bool :=
  [r.policySha256, r.bindingSha256, r.endpointAuthoritySha256,
      r.coordinationDomainSha256].all isSha256 &&
    isSafeId r.leaseId && isPositiveInteger r.ownerPid &&
    (!(r.state = .revoked || r.state = .unknownBlocking) || decide (r.reasonCodes ≠ ∅)) &&
    (!(r.state = .ready) || decide (r.reasonCodes = ∅)) &&
    decide ((r.transitionIndex : Int) ≤ maxSqliteInteger) &&
    r.previousReceiptSha256.all isSha256 &&
    ((r.transitionIndex = 0) == r.previousReceiptSha256.isNone) &&
    (!(r.transitionIndex = 0) || r.state = .prepared) &&
    [r.runtimePid, r.runtimeCreateTimeNs].all (·.all isPositiveInteger) &&
    [r.runtimeExecutableSha256, r.processTreeSha256, r.endpointEvidenceSha256].all
      (·.all isSha256) &&
    (r.runtimePid.isSome == r.runtimeCreateTimeNs.isSome &&
      r.runtimeCreateTimeNs.isSome == r.runtimeExecutableSha256.isSome) &&
    (!(r.state = .prepared) || (r.runtimePid.isNone && r.processTreeSha256.isNone &&
      r.endpointEvidenceSha256.isNone)) &&
    (!(r.state = .starting) || r.runtimePid.isSome) &&
    (!r.processTreeSha256.isSome || r.runtimePid.isSome) &&
    (!r.endpointEvidenceSha256.isSome || r.processTreeSha256.isSome) &&
    (!(r.state = .ready) || (r.runtimePid.isSome && r.processTreeSha256.isSome &&
      r.endpointEvidenceSha256.isSome))

/-- Construction: the checks, in one. -/
def Receipt.make (r : Receipt) : Except String Receipt := do
  check (r.wellFormed = true) "runtime_lease_receipt_invalid"
  return r

/-! ## The store -/

/-- The policy and the identity of a store. -/
structure Config where
  maxActiveLeases : Nat
  policySha256 : String
  coordinationDomainSha256 : String

/-- `RuntimeSupervisorLeaseBinding`: its digest and its endpoint. -/
structure Binding where
  digest : String
  endpointAuthoritySha256 : String

/-- `RuntimeSupervisorLeaseHandle`, as it is presented. -/
structure Handle where
  leaseId : String
  bindingSha256 : String
  endpointAuthoritySha256 : String
  token : Token
  released : Bool
  deriving DecidableEq, Repr

/-- The rows, everything ever committed, how many tokens were drawn, and the leases whose
owner holds the sentinel. -/
structure Store where
  rows : List Receipt
  committed : List Receipt
  drawn : Nat
  sentinels : List String

/-- What `_probe_owner` meets. -/
inductive Probe where
  | active | dead | unknown
  deriving DecidableEq, Repr

/-- What an inspection of the rows meets: its probes, and its readings of the clock. -/
structure Inspection where
  probes : String → Probe
  clock : String → Except String String

/-- An acquisition: its lease id, and what it meets. -/
structure Acquisition where
  leaseId : String
  binding : Binding
  ownerPid : Int
  /-- Whether the new sentinel could be locked. -/
  lock : Bool
  inspection : Inspection
  now : Except String String

/-- The arguments of a transition, and its reading of the clock. -/
structure Evidence where
  reasonCodes : Except String (Finset Reason)
  runtimePid : Option Int
  runtimeCreateTimeNs : Option Int
  runtimeExecutableSha256 : Option String
  processTreeSha256 : Option String
  endpointEvidenceSha256 : Option String
  now : Except String String

/-- The calls of all processes, and what befalls their sentinels. -/
inductive Call where
  | acquire (acquisition : Acquisition)
  | transition (handle : Handle) (target : LeaseState) (evidence : Evidence)
  | get (leaseId : String) (inspection : Inspection)
  | listActive (inspection : Inspection)
  | markAbandonedOwners (inspection : Inspection)
  /-- The owner crashes or releases its sentinel. -/
  | dropSentinel (leaseId : String)

/-- What a call returns. -/
inductive Output where
  | acquired (receipt : Receipt) (handle : Handle)
  | transitioned (receipt : Receipt)
  | got (receipt : Option Receipt)
  | listed (receipts : List Receipt)
  | dropped

section Ledger

variable (digest : Receipt → String) (cfg : Config)

/-! ## Abandoned rows -/

/-- `_probe_owner`: a sentinel nobody holds is never found active. -/
def probeOwner (sentinels : List String) (answer : Probe) (leaseId : String) : Probe :=
  if answer = .active ∧ leaseId ∉ sentinels then .dead else answer

def abandoned (current : Receipt) (now : String) : Receipt := { current with
  state := .unknownBlocking
  reasonCodes := {.ownershipUnknown}
  transitionIndex := current.transitionIndex + 1
  previousReceiptSha256 := some (digest current)
  updatedAt := now }

def markAbandonedRow (sentinels : List String) (inspection : Inspection) (current : Receipt) :
    Except String Receipt :=
  if current.state = .unknownBlocking then return current
  else if probeOwner sentinels (inspection.probes current.leaseId) current.leaseId = .active then
    return current
  else do
    let now ← inspection.clock current.leaseId
    (abandoned digest current now).make

def Store.markAbandonedRows (s : Store) (inspection : Inspection) : Except String (List Receipt) :=
  s.rows.mapM (markAbandonedRow digest s.sentinels inspection)

def Store.changed (s : Store) (rows : List Receipt) : List Receipt :=
  ((s.rows.zip rows).filter fun pair => pair.1 ≠ pair.2).map Prod.snd

def Store.marked (s : Store) (rows : List Receipt) : Store := { s with
  rows := rows
  committed := s.committed ++ s.changed rows }

/-! ## The operations -/

/-- The first receipt of a lease. -/
def initialReceipt (acquisition : Acquisition) (token : Token) (now : String) : Receipt where
  policySha256 := cfg.policySha256
  bindingSha256 := acquisition.binding.digest
  endpointAuthoritySha256 := acquisition.binding.endpointAuthoritySha256
  coordinationDomainSha256 := cfg.coordinationDomainSha256
  leaseId := acquisition.leaseId
  leaseToken := token
  ownerPid := acquisition.ownerPid
  state := .prepared
  reasonCodes := ∅
  transitionIndex := 0
  previousReceiptSha256 := none
  runtimePid := none
  runtimeCreateTimeNs := none
  runtimeExecutableSha256 := none
  processTreeSha256 := none
  endpointEvidenceSha256 := none
  updatedAt := now

/-- The rows that count against the limit. -/
def isActive (r : Receipt) : Bool := decide (r.state ≠ .unknownBlocking)

/-- What the transaction of `acquire` decides of its marked rows: a refusal commits the
marks, a failure rolls them back. -/
def admitRows (acquisition : Acquisition) (token : Token) (rows : List Receipt) :
    Except String (Except String Receipt) :=
  if cfg.maxActiveLeases ≤ rows.countP isActive then return .error "runtime_lease_limit_reached"
  else if acquisition.binding.endpointAuthoritySha256 ∈ rows.map Receipt.endpointAuthoritySha256
  then return .error "runtime_endpoint_already_leased"
  else do
    let now ← acquisition.now
    let receipt ← (initialReceipt cfg acquisition token now).make
    -- the primary key of the table
    check (acquisition.leaseId ∉ rows.map Receipt.leaseId) "runtime_lease_store_invalid"
    return .ok receipt

/-- The handle of a new lease. -/
def handleOf (receipt : Receipt) : Handle :=
  ⟨receipt.leaseId, receipt.bindingSha256, receipt.endpointAuthoritySha256, receipt.leaseToken, false⟩

/-- The transaction of `acquire`, up to its insert. -/
def Store.examine (s : Store) (acquisition : Acquisition) :
    Except String (List Receipt × Except String Receipt) := do
  let rows ← s.markAbandonedRows digest acquisition.inspection
  let answer ← admitRows cfg acquisition (.drawn s.drawn) rows
  return (rows, answer)

def Store.drawToken (s : Store) : Store := { s with drawn := s.drawn + 1 }

/-- `_insert_receipt`, by the owner that holds the sentinel. -/
def Store.insert (s : Store) (receipt : Receipt) : Store := { s with
  rows := s.rows ++ [receipt]
  committed := s.committed ++ [receipt]
  sentinels := receipt.leaseId :: s.sentinels }

def Store.acquire (s : Store) (acquisition : Acquisition) : Except String Output × Store :=
  if acquisition.lock = false then (.error "runtime_lease_owner_unavailable", s.drawToken)
  else
    match s.examine digest cfg acquisition with
    | .error code => (.error code, s.drawToken)
    | .ok (rows, .error code) => (.error code, (s.marked rows).drawToken)
    | .ok (rows, .ok receipt) =>
      (.ok (.acquired receipt (handleOf receipt)), ((s.marked rows).drawToken).insert receipt)

def transitioned (current : Receipt) (target : LeaseState) (evidence : Evidence)
    (reasonCodes : Finset Reason) (now : String) : Receipt := { current with
  policySha256 := cfg.policySha256
  coordinationDomainSha256 := cfg.coordinationDomainSha256
  state := target
  reasonCodes := reasonCodes
  transitionIndex := current.transitionIndex + 1
  previousReceiptSha256 := some (digest current)
  runtimePid := evidence.runtimePid.or current.runtimePid
  runtimeCreateTimeNs := evidence.runtimeCreateTimeNs.or current.runtimeCreateTimeNs
  runtimeExecutableSha256 := evidence.runtimeExecutableSha256.or current.runtimeExecutableSha256
  processTreeSha256 := evidence.processTreeSha256.or current.processTreeSha256
  endpointEvidenceSha256 := evidence.endpointEvidenceSha256.or current.endpointEvidenceSha256
  updatedAt := now }

/-- The checks of `transition`: the row that the handle owns, and its next receipt. -/
def Store.authorize (s : Store) (handle : Handle) (target : LeaseState) (evidence : Evidence) :
    Except String (Receipt × Receipt) := do
  check (handle.released = false) "runtime_lease_handle_invalid"
  match Table.lookup Receipt.leaseId s.rows handle.leaseId with
  | none => .error "runtime_lease_not_found"
  | some current => do
    check (current.leaseToken = handle.token ∧ current.bindingSha256 = handle.bindingSha256 ∧
        current.endpointAuthoritySha256 = handle.endpointAuthoritySha256)
      "runtime_lease_token_mismatch"
    check (transitionAllowed current.state target = true) "runtime_lease_transition_invalid"
    let now ← evidence.now
    let reasonCodes ← evidence.reasonCodes
    let receipt ← (transitioned digest cfg current target evidence reasonCodes now).make
    return (current, receipt)

def Store.transition (s : Store) (handle : Handle) (target : LeaseState) (evidence : Evidence) :
    Except String Output × Store :=
  match s.authorize digest cfg handle target evidence with
  | .error code => (.error code, s)
  | .ok (current, receipt) =>
    (.ok (.transitioned receipt), { s with
      rows :=
        if target = .stopped then Table.delete Receipt.leaseId s.rows current.leaseId
        else Table.update Receipt.leaseId s.rows current.leaseId fun _ => receipt
      committed := s.committed ++ [receipt]
      sentinels :=
        if target = .stopped ∨ target = .unknownBlocking then
          s.sentinels.filter fun id => id ≠ current.leaseId
        else s.sentinels })

/-- The operations that only inspect. -/
def Store.inspect (s : Store) (inspection : Inspection) (answer : List Receipt → Output) :
    Except String Output × Store :=
  match s.markAbandonedRows digest inspection with
  | .error code => (.error code, s)
  | .ok rows => (.ok (answer rows), s.marked rows)

/-- Rows in the order of their lease ids. -/
def byLeaseId (rows : List Receipt) : List Receipt :=
  rows.mergeSort fun r r' => decide (r.leaseId ≤ r'.leaseId)

def Store.perform (s : Store) : Call → Except String Output × Store
  | .acquire acquisition => s.acquire digest cfg acquisition
  | .transition handle target evidence => s.transition digest cfg handle target evidence
  | .get leaseId inspection => s.inspect digest inspection fun rows =>
    .got (Table.lookup Receipt.leaseId rows leaseId)
  | .listActive inspection => s.inspect digest inspection fun rows => .listed (byLeaseId rows)
  | .markAbandonedOwners inspection => s.inspect digest inspection fun rows =>
    .listed (byLeaseId (s.changed rows))
  | .dropSentinel leaseId =>
    (.ok .dropped, { s with sentinels := s.sentinels.filter fun id => id ≠ leaseId })

def ledger : Machine Store Call (Except String Output) where
  init := ⟨[], [], 0, []⟩
  step s call := s.perform digest cfg call

end Ledger

end LocalMoe.Supervisor.Ledger
