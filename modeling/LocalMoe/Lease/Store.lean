/-
  `SQLiteCooperativeResourceLeaseStore`.

  The database, the sentinel files and the processes that hold them are one `Domain`.
-/
import LocalMoe.Foundation.Table
import LocalMoe.Foundation.Machine
import LocalMoe.Lease.Contracts
import Mathlib.Data.List.MinMax

namespace LocalMoe.Lease

open Foundation Contracts

/-! ## Failures -/

structure StoreError where
  code : String
  message : String
  deriving DecidableEq, Repr

/-- What a store operation raises. -/
inductive Failure (ε : Type) where
  | store (error : StoreError)
  | contract (error : ContractError)
  /-- `TypeError` of `hmac.compare_digest` on text that is not ASCII. -/
  | typeError
  /-- An exception of foreign code that the store lets through. -/
  | raised (exception : ε)
  deriving DecidableEq, Repr

def StoreError.invalid (message : String) : StoreError := ⟨"lease_store_invalid", message⟩

variable {ε : Type} {τ : Type}

/-- A clock as the store reads it; only an interrupt passes. -/
def readClock {α : Type} (message : String) : Foreign ε α → Except (Failure ε) α
  | .returned value => .ok value
  | .raised _ => .error (.store ⟨"lease_clock_invalid", message⟩)
  | .interrupted e => .error (.raised e)

def validatedClock (clock : Foreign ε String) : Except (Failure ε) String :=
  readClock "Lease wall clock is unavailable." clock

def validatedMonotonicClock (clock : Foreign ε Int) : Except (Failure ε) Nat := do
  let value ← readClock "Lease monotonic clock is unavailable." clock
  if 0 ≤ value ∧ value ≤ maxSqliteInteger then pure value.toNat
  else .error (.store ⟨"lease_clock_invalid", "Lease monotonic clock is invalid."⟩)

/-! ## Rows -/

inductive LeaseState where
  | reserved
  | deliveryArmed
  | unknownBlocking
  deriving DecidableEq, Repr

/-- The state as the table spells it. -/
def LeaseState.text : LeaseState → String
  | .reserved => "reserved"
  | .deliveryArmed => "delivery_armed"
  | .unknownBlocking => "unknown_blocking"

/-- A row of `active_leases`. -/
structure LeaseRow where
  leaseId : String
  tokenSha256 : String
  admissionReceiptSha256 : String
  claimSha256 : String
  resourceSnapshotSha256 : String
  resourceClassSha256 : String
  catalogSha256 : String
  profileSha256 : String
  pool : Pool
  systemClaimBytes : Nat
  acceleratorClaimBytes : Nat
  acceleratorIdentitySha256 : Option String
  safetyReserveBytes : Nat
  acquiredAt : String
  acquiredMonotonicNs : Nat
  state : LeaseState
  rowSha256 : String
  deriving DecidableEq, Repr

namespace LeaseRow

/-- The row as `_row_digest` serialises it: `_ROW_FIELDS`, without the digest. -/
def payload (row : LeaseRow) : Json :=
  .obj [("lease_id", .str row.leaseId),
    ("token_sha256", .str row.tokenSha256),
    ("admission_receipt_sha256", .str row.admissionReceiptSha256),
    ("claim_sha256", .str row.claimSha256),
    ("resource_snapshot_sha256", .str row.resourceSnapshotSha256),
    ("resource_class_sha256", .str row.resourceClassSha256),
    ("catalog_sha256", .str row.catalogSha256),
    ("profile_sha256", .str row.profileSha256),
    ("pool", .str row.pool.text),
    ("system_claim_bytes", .int row.systemClaimBytes),
    ("accelerator_claim_bytes", .int row.acceleratorClaimBytes),
    ("accelerator_identity_sha256", .optional .str row.acceleratorIdentitySha256),
    ("safety_reserve_bytes", .int row.safetyReserveBytes),
    ("acquired_at", .str row.acquiredAt),
    ("acquired_monotonic_ns", .int row.acquiredMonotonicNs),
    ("state", .str row.state.text)]

def rowDigest (S : Stdlib) (row : LeaseRow) : String := S.sha256Json row.payload

/-- The row in a new state, with its digest recomputed. -/
def withState (S : Stdlib) (row : LeaseRow) (state : LeaseState) : LeaseRow :=
  { row with state := state, rowSha256 := rowDigest S { row with state := state } }

/-- What `_validated_row` demands of a persisted row. -/
structure Valid (S : Stdlib) (row : LeaseRow) : Prop where
  leaseId : isSafeId (strip row.leaseId) = true
  digests : ∀ d ∈ [row.tokenSha256, row.admissionReceiptSha256, row.claimSha256,
    row.resourceSnapshotSha256, row.resourceClassSha256, row.catalogSha256,
    row.profileSha256, row.rowSha256], isSha256 d = true
  identity : ∀ d ∈ row.acceleratorIdentitySha256, isSha256 d = true
  integers : ∀ n ∈ [row.systemClaimBytes, row.acceleratorClaimBytes,
    row.safetyReserveBytes, row.acquiredMonotonicNs], n ≤ maxSqliteInteger
  systemClaim : row.systemClaimBytes ≠ 0
  discrete : row.pool = .discrete →
    row.acceleratorClaimBytes ≠ 0 ∧ row.acceleratorIdentitySha256 ≠ none
  shared : row.pool ≠ .discrete →
    row.acceleratorClaimBytes = 0 ∧ row.acceleratorIdentitySha256 = none
  sealed : row.rowSha256 = rowDigest S row

theorem valid_iff {S : Stdlib} {row : LeaseRow} : (isSafeId (strip row.leaseId) = true ∧
      (∀ d ∈ [row.tokenSha256, row.admissionReceiptSha256, row.claimSha256,
        row.resourceSnapshotSha256, row.resourceClassSha256, row.catalogSha256,
        row.profileSha256, row.rowSha256], isSha256 d = true) ∧
      (∀ d ∈ row.acceleratorIdentitySha256, isSha256 d = true) ∧
      (∀ n ∈ [row.systemClaimBytes, row.acceleratorClaimBytes,
        row.safetyReserveBytes, row.acquiredMonotonicNs], n ≤ maxSqliteInteger) ∧
      row.systemClaimBytes ≠ 0 ∧
      (row.pool = .discrete →
        row.acceleratorClaimBytes ≠ 0 ∧ row.acceleratorIdentitySha256 ≠ none) ∧
      (row.pool ≠ .discrete →
        row.acceleratorClaimBytes = 0 ∧ row.acceleratorIdentitySha256 = none) ∧
      row.rowSha256 = rowDigest S row) ↔ row.Valid S :=
  ⟨fun ⟨h1, h2, h3, h4, h5, h6, h7, h8⟩ => ⟨h1, h2, h3, h4, h5, h6, h7, h8⟩,
    fun ⟨h1, h2, h3, h4, h5, h6, h7, h8⟩ => ⟨h1, h2, h3, h4, h5, h6, h7, h8⟩⟩

instance (S : Stdlib) (row : LeaseRow) : Decidable (Valid S row) :=
  decidable_of_iff _ valid_iff

end LeaseRow

def validatedRow (S : Stdlib) (raw : LeaseRow) : Except StoreError LeaseRow :=
  if raw.Valid S then .ok raw
  else .error (.invalid "Persisted lease row is invalid.")

@[simp] theorem validatedRow_eq_ok {S : Stdlib} {raw row : LeaseRow} :
    validatedRow S raw = .ok row ↔ raw.Valid S ∧ row = raw := by
  unfold validatedRow
  by_cases h : raw.Valid S
  · rw [if_pos h]
    exact ⟨fun e => ⟨h, (Except.ok.inj e).symm⟩, fun e => e.2 ▸ rfl⟩
  · rw [if_neg h]
    exact ⟨fun e => (by cases e), fun e => absurd e.1 h⟩

/-! ## The coordination domain -/

inductive Quarantine where
  | clear
  | unknownBlocking
  deriving DecidableEq, Repr

/-- The database together with the sentinels some process holds. -/
structure Domain where
  /-- `active_leases`. -/
  rows : List LeaseRow
  quarantineState : Quarantine
  quarantineEvidenceSha256 : String
  /-- Names of the sentinel files that are locked. -/
  owners : List String
  deriving DecidableEq, Repr

namespace Domain

/-- The store right after `_create_schema`. -/
def empty : Domain := ⟨[], .clear, "", []⟩

def row (d : Domain) (leaseId : String) : Option LeaseRow :=
  Table.lookup LeaseRow.leaseId d.rows leaseId

def domainIsQuarantined (d : Domain) : Bool := decide (d.quarantineState = .unknownBlocking)

/-- A sentinel somebody locked. -/
def hold (d : Domain) (sentinel : String) : Domain :=
  { d with owners := sentinel :: d.owners }

/-- A sentinel nobody holds any more. -/
def free (d : Domain) (sentinel : String) : Domain :=
  { d with owners := d.owners.filter (· ≠ sentinel) }

variable (d : Domain) (s : String)

@[simp] theorem hold_rows : (d.hold s).rows = d.rows := rfl

@[simp] theorem free_rows : (d.free s).rows = d.rows := rfl

@[simp] theorem hold_quarantineState : (d.hold s).quarantineState = d.quarantineState := rfl

@[simp] theorem free_quarantineState : (d.free s).quarantineState = d.quarantineState := rfl

end Domain

/-- What the database does to one transaction. -/
inductive Fault (ε : Type) where
  | none
  /-- The transaction fails and is rolled back. -/
  | refused (failure : Failure ε)
  /-- The transaction is durable, and the caller gets an exception. -/
  | unanswered (failure : Failure ε)
  deriving DecidableEq, Repr

/-- `_transaction`: all of the body's change or none of it. -/
def transaction {α : Type} (fault : Fault ε) (d : Domain)
    (body : Except (Failure ε) (α × Domain)) : Except (Failure ε) α × Domain :=
  match fault, body with
  | .refused failure, _ => (.error failure, d)
  | .none, .error failure => (.error failure, d)
  | .unanswered _, .error failure => (.error failure, d)
  | .none, .ok (a, d') => (.ok a, d')
  | .unanswered failure, .ok (_, d') => (.error failure, d')

theorem transaction_state {α : Type} (fault : Fault ε) (d : Domain)
    (body : Except (Failure ε) (α × Domain)) : (transaction fault d body).2 = d ∨
      ∃ a d', body = .ok (a, d') ∧ (transaction fault d body).2 = d' := by
  cases fault <;> rcases body with failure | ⟨a, d'⟩ <;> simp [transaction]

theorem transaction_eq_ok {α : Type} {fault : Fault ε} {d : Domain}
    {body : Except (Failure ε) (α × Domain)} {a : α} (h : (transaction fault d body).1 = .ok a) :
    body = .ok (a, (transaction fault d body).2) := by
  cases fault <;> rcases body with failure | ⟨b, d'⟩ <;>
    simp only [transaction, reduceCtorEq, Except.ok.injEq] at h ⊢
  rw [h]

/-! ## The reaping scan -/

/-- `_sentinel_path`: the name of a lease's sentinel file. -/
def sentinelPath (leaseId : String) : Except StoreError String :=
  (requireSafeId leaseId "lease_id").mapError fun _ =>
    .invalid "Lease identifier is invalid."

/-- What the sentinel root shows when a sentinel is opened. -/
inductive SentinelFile where
  /-- A regular file, or none yet. -/
  | regular
  /-- The native lock cannot be taken for a reason other than its holder. -/
  | unreadable
  /-- A link, a directory or another special file. -/
  | irregular
  deriving DecidableEq, Repr

/-- What `_probe_owner` reports. -/
inductive OwnerState where
  | active
  | dead
  | unknown
  deriving DecidableEq, Repr

/-- `_validate_optional_regular_path` on a sentinel. -/
def validateOptionalRegularPath : SentinelFile → Except StoreError Unit
  | .irregular =>
    .error ⟨"lease_store_path_invalid", "Lease sentinel must be a regular non-link file."⟩
  | _ => .ok ()

/-- `_probe_owner`; a dead owner comes with the lock the probe took. -/
def probeOwner (d : Domain) (files : String → SentinelFile) (row : LeaseRow) :
    Except StoreError OwnerState := do
  let sentinel ← sentinelPath row.leaseId
  validateOptionalRegularPath (files sentinel)
  if sentinel ∈ d.owners then pure .active
  else if files sentinel = .unreadable then pure .unknown
  else pure .dead

/-- The accumulators of the loop in `_active_rows`.  `rows` is also what the
statements of the loop leave in the table. -/
structure Scan where
  rows : List LeaseRow
  reaped : Nat
  ownershipUnknown : Bool
  deriving DecidableEq, Repr

/-- One round of the loop in `_active_rows`. -/
def activeRow (S : Stdlib) (d : Domain) (files : String → SentinelFile) (scan : Scan)
    (raw : LeaseRow) : Except StoreError Scan := do
  let row ← validatedRow S raw
  if row.state = .unknownBlocking then
    pure { scan with ownershipUnknown := true, rows := scan.rows ++ [row] }
  else
    let ownerState ← probeOwner d files row
    if ownerState = .dead ∧ row.state = .reserved then
      pure { scan with reaped := scan.reaped + 1 }
    else if ownerState = .dead ∨ ownerState = .unknown then
      pure { scan with
        ownershipUnknown := true
        rows := scan.rows ++ [row.withState S .unknownBlocking] }
    else
      pure { scan with rows := scan.rows ++ [row] }

def activeRows (S : Stdlib) (d : Domain) (files : String → SentinelFile) :
    Except StoreError Scan :=
  d.rows.foldlM (activeRow S d files) ⟨[], 0, d.domainIsQuarantined⟩

/-! ## Accounting -/

/-- `_checked_sum`; the byte counts of rows and claims are never negative. -/
def checkedSum (values : List Nat) : Except StoreError Nat :=
  values.foldlM (fun total value =>
    if maxSqliteInteger < total + value then
      .error ⟨"lease_accounting_invalid", "Lease byte accounting overflowed."⟩
    else .ok (total + value)) 0

def systemAvailable (snapshot : ResourceSnapshot) : Option Nat :=
  match snapshot.availableMemoryBytes, snapshot.effectiveMemoryLimitBytes with
  | some available, some limit => some (min available limit)
  | _, _ => none

/-- `_accelerator_total`: the bytes on the claimed accelerator, and whether some row
uses another one. -/
def acceleratorTotal (rows : List LeaseRow) (claim : CooperativeResourceClaim) :
    Except StoreError (Nat × Bool) :=
  if claim.pool ≠ .discrete then pure (0, false)
  else do
    let users := rows.filter fun row => row.acceleratorClaimBytes ≠ 0
    let total ← checkedSum ((users.filter fun row =>
      row.acceleratorIdentitySha256 = claim.acceleratorIdentitySha256).map
        LeaseRow.acceleratorClaimBytes)
    pure (total, users.any fun row =>
      row.acceleratorIdentitySha256 ≠ claim.acceleratorIdentitySha256)

/-- `max((first,) + rest)`. -/
def maxOf (first : Nat) (rest : List Nat) : Nat := rest.foldl max first

def validateEvidence (claim : CooperativeResourceClaim) (snapshot : ResourceSnapshot) :
    Except StoreError Unit := do
  check (claim.resourceSnapshotSha256 = snapshot.digest ∧
      claim.resourceClassSha256 = snapshot.resourceClassSha256)
    (⟨"lease_evidence_invalid", "Claim and resource snapshot do not match."⟩ : StoreError)
  check (claim.pool ≠ .unified ∨
      snapshot.memoryTopology = .unified ∧ snapshot.acceleratorKind = .integrated)
    (⟨"lease_evidence_invalid", "Unified resource topology is unavailable."⟩ : StoreError)
  check (claim.pool ≠ .discrete ∨
      snapshot.memoryTopology = .dedicated ∧ snapshot.acceleratorKind = .discrete ∧
        snapshot.acceleratorIdentitySha256 = claim.acceleratorIdentitySha256)
    (⟨"lease_evidence_invalid", "Discrete resource topology is unavailable."⟩ : StoreError)

def reasonIf (condition : Prop) [Decidable condition] (code : String) : Finset String :=
  if condition then {code} else ∅

@[simp] theorem reasonIf_eq_empty {condition : Prop} [Decidable condition] {code : String} :
    reasonIf condition code = ∅ ↔ ¬ condition := by
  unfold reasonIf
  by_cases h : condition <;> simp [h]

def admissionStatus (reasons : Finset String) (unknown : Prop) [Decidable unknown] :
    AdmissionStatus :=
  if reasons = ∅ then .acquired else if unknown then .unknownBlocking else .denied

@[simp] theorem admissionStatus_eq_acquired {reasons : Finset String} {unknown : Prop}
    [Decidable unknown] : admissionStatus reasons unknown = .acquired ↔ reasons = ∅ := by
  unfold admissionStatus
  by_cases h : reasons = ∅ <;> by_cases hu : unknown <;> simp [h, hu]

/-- The numbers and the verdict of one admission. -/
structure Assessment where
  activeSystem : Nat
  acceleratorTotal : Nat
  appliedSystemReserve : Nat
  appliedAcceleratorReserve : Nat
  systemAvailable : Option Nat
  acceleratorAvailable : Option Nat
  status : AdmissionStatus
  reasons : Finset String
  deriving DecidableEq

/-- The part of `evaluate_and_acquire` between the scan and the receipt. -/
def assess (policy : CooperativeResourceLeasePolicy) (claim : CooperativeResourceClaim)
    (snapshot : ResourceSnapshot) (scan : Scan) : Except StoreError Assessment := do
  let rows := scan.rows
  let activeSystem ← checkedSum (rows.map LeaseRow.systemClaimBytes)
  let (total, identityConflict) ← acceleratorTotal rows claim
  let appliedSystemReserve :=
    maxOf claim.safetyReserveBytes (rows.map LeaseRow.safetyReserveBytes)
  let applicable := rows.filter fun row =>
    claim.pool = .discrete ∧ 0 < row.acceleratorClaimBytes ∧
      row.acceleratorIdentitySha256 = claim.acceleratorIdentitySha256
  let appliedAcceleratorReserve :=
    if claim.pool = .discrete then
      maxOf claim.safetyReserveBytes (applicable.map LeaseRow.safetyReserveBytes)
    else 0
  let available := systemAvailable snapshot
  let acceleratorAvailable :=
    if claim.pool = .discrete then snapshot.acceleratorMemoryAvailableBytes else none
  let capacityUnknown : Prop :=
    available = none ∨ claim.pool = .discrete ∧ acceleratorAvailable = none
  let requiredSystem ← checkedSum [activeSystem, claim.systemClaimBytes, appliedSystemReserve]
  let requiredAccelerator ←
    checkedSum [total, claim.acceleratorClaimBytes, appliedAcceleratorReserve]
  let reasons :=
    reasonIf (scan.ownershipUnknown = true) "lease_owner_unknown" ∪
    reasonIf (identityConflict = true) "accelerator_identity_conflict" ∪
    reasonIf capacityUnknown "resource_capacity_unknown" ∪
    reasonIf (policy.maxActiveLeases ≤ rows.length) "active_lease_limit_reached" ∪
    reasonIf (∃ a ∈ available, a < requiredSystem) "system_capacity_insufficient" ∪
    reasonIf (claim.pool = .discrete ∧ ∃ a ∈ acceleratorAvailable, a < requiredAccelerator)
      "accelerator_capacity_insufficient"
  let status := admissionStatus reasons
    (scan.ownershipUnknown = true ∨ identityConflict = true ∨ capacityUnknown)
  pure ⟨activeSystem, total, appliedSystemReserve, appliedAcceleratorReserve, available,
    acceleratorAvailable, status, reasons⟩

/-! ## Admission -/

structure TokenHex where
  text : String
  hex : text.length = 32 ∧ text.toList.all isLowerHex = true
  deriving DecidableEq, Repr

variable (t : TokenHex)

theorem TokenHex.isLowerHex_of_mem {c : Char} (h : c ∈ t.text.toList) :
    isLowerHex c = true := List.all_eq_true.mp t.hex.2 c h

theorem TokenHex.strip_text : strip t.text = t.text :=
  strip_eq_self fun _ h => isSpace_of_isLowerHex (t.isLowerHex_of_mem h)

theorem TokenHex.isSafeId_text : isSafeId t.text = true := by
  have hlen : t.text.toList.length = 32 := by rw [String.length_toList]; exact t.hex.1
  have hall := fun c => t.isLowerHex_of_mem (c := c)
  unfold isSafeId
  split
  · rename_i hnil
    rw [hnil] at hlen
    cases hlen
  · rename_i c rest hcons
    rw [hcons] at hlen hall
    rw [List.length_cons] at hlen
    simp only [List.mem_cons, forall_eq_or_imp] at hall
    simp only [Bool.and_eq_true, decide_eq_true_eq, List.all_eq_true, Bool.or_eq_true]
    exact ⟨⟨isAlnum_of_isLowerHex hall.1, by omega⟩,
      fun d hd => .inl (isAlnum_of_isLowerHex (hall.2 d hd))⟩

structure TokenBytes where
  bytes : List UInt8
  size : bytes.length = 32
  deriving DecidableEq, Repr

structure Evaluation (τ : Type) where
  claim : CooperativeResourceClaim
  snapshot : ResourceSnapshot
  context : τ

/-- `CooperativeResourceLeaseHandle`; the lock and its path are the sentinel the
handle believes it holds. -/
structure LeaseHandle where
  leaseId : String
  admissionReceiptSha256 : String
  claimSha256 : String
  token : List UInt8
  ownerLock : String
  deriving DecidableEq, Repr

structure Acquisition (τ : Type) where
  receipt : AdmissionReceipt
  handle : Option LeaseHandle
  context : τ

/-- One call of `evaluate_and_acquire` with all its environment decides. -/
structure AcquireCall (ε τ : Type) where
  policy : CooperativeResourceLeasePolicy
  leaseId : TokenHex
  token : TokenBytes
  /-- What the evaluator does; `none` is a result that is no evaluation. -/
  evaluator : Foreign ε (Option (Evaluation τ))
  clock : Foreign ε String
  monotonicClock : Foreign ε Int
  files : String → SentinelFile
  fault : Fault ε

/-- One call of `arm_delivery`. -/
structure ArmCall (ε : Type) where
  policy : CooperativeResourceLeasePolicy
  handle : LeaseHandle
  clock : Foreign ε String
  fault : Fault ε

structure ReleaseCall (ε : Type) where
  policy : CooperativeResourceLeasePolicy
  handle : LeaseHandle
  deliveryStatus : DeliveryStatus
  clock : Foreign ε String
  /-- Freeing the owner sentinel raises an `Exception`. -/
  cleanupFails : Bool
  fault : Fault ε

/-- `evaluator()` and the check of its result. -/
def evaluate : Foreign ε (Option (Evaluation τ)) → Except (Failure ε) (Evaluation τ)
  | .returned (some evaluation) => .ok evaluation
  | .returned none =>
    .error (.store ⟨"lease_evaluation_invalid", "Lease evaluator returned an invalid result."⟩)
  | .raised e => .error (.raised e)
  | .interrupted e => .error (.raised e)

/-- `_insert_row`, with its read-back. -/
def insertRow (S : Stdlib) (row : LeaseRow) (d : Domain) : Except StoreError Domain := do
  let stored := { row with rowSha256 := row.rowDigest S }
  check ((d.row stored.leaseId).isNone = true)
    (⟨"lease_store_unavailable", "Lease store operation failed."⟩ : StoreError)
  let _ ← validatedRow S stored
  pure { d with rows := d.rows ++ [stored] }

section Operations

variable (S : Stdlib) (coordinationDomainSha256 : String)

/-- The receipt of one admission, before its constructor. -/
def admissionReceipt (call : AcquireCall ε τ) (claim : CooperativeResourceClaim)
    (snapshot : ResourceSnapshot) (scan : Scan) (a : Assessment) (evaluatedAt : String) :
    AdmissionReceipt where
  policySha256 := call.policy.digest S
  claimSha256 := claim.digest S
  resourceSnapshotSha256 := snapshot.digest
  coordinationDomainSha256 := coordinationDomainSha256
  status := a.status
  reasonCodes := a.reasons
  evaluatedAt := evaluatedAt
  leaseId := if a.status = .acquired then some call.leaseId.text else none
  leaseTokenSha256 := if a.status = .acquired then some (S.sha256 call.token.bytes) else none
  activeLeasesBefore := scan.rows.length
  activeLeasesAfter :=
    if a.status = .acquired then scan.rows.length + 1 else scan.rows.length
  reapedLeases := scan.reaped
  systemAvailableBytes := a.systemAvailable
  acceleratorAvailableBytes := a.acceleratorAvailable
  activeSystemClaimBytes := a.activeSystem
  activeAcceleratorClaimBytes := a.acceleratorTotal
  requestedSystemClaimBytes := claim.systemClaimBytes
  requestedAcceleratorClaimBytes := claim.acceleratorClaimBytes
  safetyReserveBytes := claim.safetyReserveBytes
  appliedSystemReserveBytes := a.appliedSystemReserve
  appliedAcceleratorReserveBytes := a.appliedAcceleratorReserve

/-- The row of an acquired lease, before its digest. -/
def admittedRow (call : AcquireCall ε τ) (claim : CooperativeResourceClaim)
    (snapshot : ResourceSnapshot) (receipt : AdmissionReceipt) (evaluatedAt : String)
    (tick : Nat) : LeaseRow where
  leaseId := call.leaseId.text
  tokenSha256 := S.sha256 call.token.bytes
  admissionReceiptSha256 := receipt.digest S
  claimSha256 := claim.digest S
  resourceSnapshotSha256 := snapshot.digest
  resourceClassSha256 := snapshot.resourceClassSha256
  catalogSha256 := claim.catalogSha256
  profileSha256 := claim.profileSha256
  pool := claim.pool
  systemClaimBytes := claim.systemClaimBytes
  acceleratorClaimBytes := claim.acceleratorClaimBytes
  acceleratorIdentitySha256 := claim.acceleratorIdentitySha256
  safetyReserveBytes := claim.safetyReserveBytes
  acquiredAt := evaluatedAt
  acquiredMonotonicNs := tick
  state := .reserved
  rowSha256 := ""

/-- The transaction of `evaluate_and_acquire`. -/
def admitClaim (call : AcquireCall ε τ) (d : Domain) :
    Except (Failure ε) ((AdmissionReceipt × τ) × Domain) := do
  let evaluation ← evaluate call.evaluator
  let claim := evaluation.claim
  let snapshot := evaluation.snapshot
  (validateEvidence claim snapshot).mapError Failure.store
  let scan ← (activeRows S d call.files).mapError Failure.store
  let a ← (assess call.policy claim snapshot scan).mapError Failure.store
  let evaluatedAt ← validatedClock call.clock
  let receipt ← ((admissionReceipt S coordinationDomainSha256 call claim snapshot scan a
    evaluatedAt).construct S).mapError Failure.contract
  let scanned := { d with rows := scan.rows }
  if a.status = .acquired then
    let tick ← validatedMonotonicClock call.monotonicClock
    let d' ← (insertRow S (admittedRow S call claim snapshot receipt evaluatedAt tick)
      scanned).mapError Failure.store
    pure ((receipt, evaluation.context), d')
  else
    pure ((receipt, evaluation.context), scanned)

/-- Taking the owner sentinel of a new lease. -/
def takeOwnerLock (call : AcquireCall ε τ) (d : Domain) : Except StoreError String := do
  let sentinel ← sentinelPath call.leaseId.text
  validateOptionalRegularPath (call.files sentinel)
  check (sentinel ∉ d.owners ∧ call.files sentinel ≠ .unreadable)
    (⟨"lease_owner_unavailable", "Lease owner sentinel is unavailable."⟩ : StoreError)
  pure sentinel

/-- `evaluate_and_acquire`.  The owner sentinel is freed again unless a handle goes to
the caller; the locks the probes took are freed in any case. -/
def evaluateAndAcquire (call : AcquireCall ε τ) (d : Domain) :
    Except (Failure ε) (Acquisition τ) × Domain :=
  match takeOwnerLock call d with
  | .error e => (.error (.store e), d)
  | .ok sentinel =>
    match transaction call.fault (d.hold sentinel)
        (admitClaim S coordinationDomainSha256 call (d.hold sentinel)) with
    | (.error failure, d') => (.error failure, d'.free sentinel)
    | (.ok (receipt, context), d') =>
      if receipt.status = .acquired then
        (.ok ⟨receipt, some ⟨call.leaseId.text, receipt.digest S, receipt.claimSha256,
          call.token.bytes, sentinel⟩, context⟩, d')
      else (.ok ⟨receipt, none, context⟩, d'.free sentinel)

/-! ## Arming and releasing -/

def validateHandle (handle : LeaseHandle) : Except (Failure ε) Unit :=
  check (handle.token.length = 32)
    (Failure.store ⟨"lease_handle_invalid", "Lease handle token is invalid."⟩)

def isAscii (s : String) : Bool := s.toList.all fun c => c.toNat < 128

/-- `hmac.compare_digest` on text. -/
def compareDigest (a b : String) : Except (Failure ε) Bool :=
  if isAscii a = true ∧ isAscii b = true then .ok (decide (a = b)) else .error .typeError

def handleMatchesRow (handle : LeaseHandle) (tokenSha256 : String) (row : LeaseRow) :
    Except (Failure ε) Bool := do
  let token ← compareDigest row.tokenSha256 tokenSha256
  if token = false then pure false
  else do
    let claim ← compareDigest row.claimSha256 handle.claimSha256
    if claim = false then pure false
    else compareDigest row.admissionReceiptSha256 handle.admissionReceiptSha256

/-- `UPDATE active_leases SET state = ?, row_sha256 = ? WHERE lease_id = ?`. -/
def Domain.mark (d : Domain) (leaseId : String) (state : LeaseState) : Domain :=
  { d with rows := Table.update LeaseRow.leaseId d.rows leaseId (·.withState S state) }

/-- `DELETE FROM active_leases WHERE lease_id = ?`. -/
def Domain.deleteRow (d : Domain) (leaseId : String) : Domain :=
  { d with rows := Table.delete LeaseRow.leaseId d.rows leaseId }

def Domain.quarantine (d : Domain) (handle : LeaseHandle) : Domain :=
  { d with
    quarantineState := .unknownBlocking
    quarantineEvidenceSha256 := S.sha256Json (.obj [("lease_id", .str handle.leaseId),
      ("admission_receipt_sha256", .str handle.admissionReceiptSha256),
      ("claim_sha256", .str handle.claimSha256),
      ("reason", .str "missing_ambiguous_lease")]) }

/-- The transaction of `arm_delivery`: whether the lease was armed, and why not. -/
def arm (handle : LeaseHandle) (d : Domain) :
    Except (Failure ε) ((Bool × Finset String) × Domain) :=
  match d.row handle.leaseId with
  | none => .ok ((false, {"lease_not_found"}), d)
  | some raw => do
    let row ← (validatedRow S raw).mapError Failure.store
    let found ← handleMatchesRow handle (S.sha256 handle.token) row
    if found = false then pure ((false, {"lease_token_mismatch"}), d)
    else match row.state with
      | .deliveryArmed => pure ((false, {"lease_already_armed"}), d)
      | .unknownBlocking => pure ((false, {"lease_state_unknown"}), d)
      | .reserved => pure ((true, ∅), d.mark S row.leaseId .deliveryArmed)

def armDelivery (call : ArmCall ε) (d : Domain) :
    Except (Failure ε) TransitionReceipt × Domain :=
  match (do validateHandle call.handle; validatedClock call.clock) with
  | .error failure => (.error failure, d)
  | .ok transitionedAt =>
    match transaction call.fault d (arm S call.handle d) with
    | (.error failure, d') => (.error failure, d')
    | (.ok (applied, reasons), d') =>
      ((TransitionReceipt.construct S
        { policySha256 := call.policy.digest S
          admissionReceiptSha256 := call.handle.admissionReceiptSha256
          claimSha256 := call.handle.claimSha256
          coordinationDomainSha256 := coordinationDomainSha256
          leaseId := call.handle.leaseId
          transitionApplied := applied
          reasonCodes := reasons
          transitionedAt := transitionedAt }).mapError Failure.contract, d')

/-- What the transaction of `release` decides. -/
structure Settlement where
  status : ReleaseStatus
  reasons : Finset String
  releaseOwner : Bool
  deriving DecidableEq

/-- The transaction of `release`. -/
def settle (handle : LeaseHandle) (delivery : DeliveryStatus) (d : Domain) :
    Except (Failure ε) (Settlement × Domain) :=
  match d.row handle.leaseId with
  | none =>
    if delivery = .attemptedUnknown then
      .ok (⟨.unknownBlocking, {"lease_not_found"}, false⟩, d.quarantine S handle)
    else .ok (⟨.alreadyAbsent, {"lease_not_found"}, true⟩, d)
  | some raw => do
    let row ← (validatedRow S raw).mapError Failure.store
    let found ← handleMatchesRow handle (S.sha256 handle.token) row
    if found = false then pure (⟨.denied, {"lease_token_mismatch"}, false⟩, d)
    else if delivery = .attemptedUnknown then
      pure (⟨.unknownBlocking, {"delivery_outcome_unknown"}, false⟩,
        if row.state ≠ .unknownBlocking then d.mark S row.leaseId .unknownBlocking else d)
    else if row.state = .unknownBlocking then
      pure (⟨.unknownBlocking, {"lease_state_unknown"}, false⟩, d)
    else if row.state = .reserved ∧ delivery = .notAttempted ∨
        row.state = .deliveryArmed ∧ delivery = .responseReceived then
      pure (⟨.released, ∅, true⟩, d.deleteRow row.leaseId)
    else pure (⟨.denied, {"lease_state_outcome_mismatch"}, false⟩, d)

/-- Freeing the owner sentinel after the transaction of `release`. -/
def cleanup (call : ReleaseCall ε) (s : Settlement) (d : Domain) : Settlement × Domain :=
  if s.releaseOwner = false then (s, d)
  else if call.cleanupFails = false then (s, d.free call.handle.ownerLock)
  else
    ({ s with
        status := if s.status = .released then .releasedCleanupDeferred else s.status
        reasons := s.reasons ∪ {"owner_sentinel_cleanup_failed"} }, d)

def release (call : ReleaseCall ε) (d : Domain) :
    Except (Failure ε) ReleaseReceipt × Domain :=
  match (do validateHandle call.handle; validatedClock call.clock) with
  | .error failure => (.error failure, d)
  | .ok releasedAt =>
    match transaction call.fault d (settle S call.handle call.deliveryStatus d) with
    | (.error failure, d') => (.error failure, d')
    | (.ok s, d') =>
      let (s', d'') := cleanup call s d'
      ((ReleaseReceipt.construct S
        { policySha256 := call.policy.digest S
          admissionReceiptSha256 := call.handle.admissionReceiptSha256
          claimSha256 := call.handle.claimSha256
          coordinationDomainSha256 := coordinationDomainSha256
          leaseId := call.handle.leaseId
          status := s'.status
          reasonCodes := s'.reasons
          deliveryStatus := call.deliveryStatus
          releasedAt := releasedAt
          activeLeasesAfter := d'.rows.length }).mapError Failure.contract, d'')

/-! ## All participants of one domain -/

/-- One step of some participant, or the death of an owner. -/
inductive Call (ε τ : Type) where
  | acquire (call : AcquireCall ε τ)
  | arm (call : ArmCall ε)
  | release (call : ReleaseCall ε)
  /-- The process that holds this sentinel dies. -/
  | crash (sentinel : String)

/-- What the caller of a step gets. -/
inductive Answer (ε τ : Type) where
  | acquire (answer : Except (Failure ε) (Acquisition τ))
  | arm (answer : Except (Failure ε) TransitionReceipt)
  | release (answer : Except (Failure ε) ReleaseReceipt)
  | crash

/-- The ledger as one machine whose inputs are the steps of all participants. -/
def ledger (ε τ : Type) : Machine Domain (Call ε τ) (Answer ε τ) where
  init := .empty
  step d
    | .acquire call =>
      let outcome := evaluateAndAcquire S coordinationDomainSha256 call d
      (.acquire outcome.1, outcome.2)
    | .arm call =>
      let outcome := armDelivery S coordinationDomainSha256 call d
      (.arm outcome.1, outcome.2)
    | .release call =>
      let outcome := release S coordinationDomainSha256 call d
      (.release outcome.1, outcome.2)
    | .crash sentinel => (.crash, d.free sentinel)

@[simp] theorem ledger_next_acquire (d : Domain) (call : AcquireCall ε τ) :
    (ledger S coordinationDomainSha256 ε τ).next d (.acquire call) =
      (evaluateAndAcquire S coordinationDomainSha256 call d).2 := by
  dsimp only [Machine.next, ledger]

@[simp] theorem ledger_next_arm (d : Domain) (call : ArmCall ε) :
    (ledger S coordinationDomainSha256 ε τ).next d (.arm call) =
      (armDelivery S coordinationDomainSha256 call d).2 := by
  dsimp only [Machine.next, ledger]

@[simp] theorem ledger_next_release (d : Domain) (call : ReleaseCall ε) :
    (ledger S coordinationDomainSha256 ε τ).next d (.release call) =
      (release S coordinationDomainSha256 call d).2 := by
  dsimp only [Machine.next, ledger]

@[simp] theorem ledger_next_crash (d : Domain) (sentinel : String) :
    (ledger S coordinationDomainSha256 ε τ).next d (.crash sentinel) = d.free sentinel := by
  dsimp only [Machine.next, ledger]

@[simp] theorem ledger_output_acquire (d : Domain) (call : AcquireCall ε τ) :
    (ledger S coordinationDomainSha256 ε τ).output d (.acquire call) =
      .acquire (evaluateAndAcquire S coordinationDomainSha256 call d).1 := by
  dsimp only [Machine.output, ledger]

end Operations

end LocalMoe.Lease
