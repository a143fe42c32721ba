/-
  `BridgeStateLedger`: premium budgets and one-shot confirmations in one file.

  Every operation locks the file, reads the clock, reads and validates the state, runs its body
  and writes the result; an exception of the body leaves the file alone. What the clock shows,
  what the file system does and how the ledger is configured belong to the call. Times are exact
  rationals: the rounding of float arithmetic is not modelled.
-/
import LocalMoe.Foundation.Checked
import LocalMoe.Foundation.Machine
import LocalMoe.Foundation.Table
import LocalMoe.Contracts.VerifiedRouting

namespace LocalMoe.Bridge

open Foundation Contracts

/-! ## Failures -/

inductive LedgerError where
  /-- `BridgeLedgerError`. -/
  | ledger (message : String)
  /-- `BridgeConfirmationNotReadyError`. -/
  | confirmationNotReady (message : String)
  deriving DecidableEq, Repr

def requireDigest (value label : String) : Except LedgerError Unit :=
  check (isSha256 value = true) (.ledger (label ++ " must be a lowercase SHA-256 digest."))

def sha256Text (S : Stdlib) (value : String) : String :=
  S.sha256 (value.toList.flatMap String.utf8EncodeChar)

/-! ## Tokens -/

/-- `[A-Za-z0-9_-]`. -/
def isUrlsafe (c : Char) : Bool := isAlnum c || c == '_' || c == '-'

abbrev TokenUrlsafe := {s : List Char // s.length = 43 ∧ s.all isUrlsafe = true}

/-- `secrets.token_hex(16)`. -/
abbrev TransactionId := {s : String // s.toList.length = 32 ∧ s.toList.all isLowerHex = true}

/-- A full match of a fixed start and 43 url-safe characters. -/
def matchesToken (start text : String) : Bool :=
  start.toList.isPrefixOf text.toList &&
    let rest := text.toList.drop start.toList.length
    rest.length == 43 && rest.all isUrlsafe

def isConfirmationToken : String → Bool := matchesToken "confirm-v2-"

def isBudgetToken : String → Bool := matchesToken "budget-v2-"

/-- The token of a new ticket. -/
def confirmationToken (random : TokenUrlsafe) : String :=
  String.ofList ("confirm-v2-".toList ++ random.val)

/-- The token of a new lease. -/
def budgetToken (random : TokenUrlsafe) : String :=
  String.ofList ("budget-v2-".toList ++ random.val)

/-! ## The file -/

/-- A pending reservation of a budget. -/
structure Reservation where
  tokenSha256 : String
  reservedAt : ℚ
  expiresAt : ℚ
  deriving DecidableEq, Repr

structure Budget where
  keySha256 : String
  used : Nat
  updatedAt : ℚ
  pending : List Reservation
  deriving DecidableEq, Repr

structure Confirmation where
  tokenSha256 : String
  bindingSha256 : String
  transactionId : String
  issuedAt : ℚ
  expiresAt : ℚ
  consumedAt : Option ℚ
  deriving DecidableEq, Repr

/-- The persisted state, without its schema version and its namespace. -/
structure LedgerState where
  budgets : List Budget
  confirmations : List Confirmation
  deriving DecidableEq, Repr

/-- The state of a file that does not exist. -/
def LedgerState.empty : LedgerState := ⟨[], []⟩

def validatePendingReservation (r : Reservation) : Except LedgerError Unit := do
  check (0 ≤ r.reservedAt)
    (.ledger "Stored premium budget lease reserved_at is malformed." : LedgerError)
  check (0 ≤ r.expiresAt)
    (.ledger "Stored premium budget lease expires_at is malformed." : LedgerError)
  check (r.reservedAt < r.expiresAt)
    (.ledger "Stored premium budget lease expiry is malformed." : LedgerError)

def validateBudget (b : Budget) : Except LedgerError Unit := do
  check (0 ≤ b.updatedAt)
    (.ledger "Stored premium budget timestamp is malformed." : LedgerError)
  b.pending.forM fun r => do
    requireDigest r.tokenSha256 "stored premium budget lease"
    validatePendingReservation r
    check (r.reservedAt ≤ b.updatedAt)
      (.ledger "Stored premium budget lease is newer than its budget clock." : LedgerError)

def validateConfirmation (c : Confirmation) : Except LedgerError Unit := do
  requireDigest c.bindingSha256 "stored confirmation binding"
  check (c.transactionId.toList.length = 32 ∧ c.transactionId.toList.all isLowerHex = true)
    (.ledger "Stored transaction id is malformed." : LedgerError)
  check (c.issuedAt < c.expiresAt)
    (.ledger "Stored confirmation expiry is malformed." : LedgerError)
  check (∀ t ∈ c.consumedAt, c.issuedAt ≤ t ∧ t ≤ c.expiresAt)
    (.ledger "Stored confirmation consumed_at is outside its window." : LedgerError)

def validateState (s : LedgerState) : Except LedgerError Unit := do
  s.budgets.forM fun b => do
    requireDigest b.keySha256 "stored budget key"
    validateBudget b
  s.confirmations.forM fun c => do
    requireDigest c.tokenSha256 "stored confirmation key"
    validateConfirmation c

/-! ## The environment of a call -/

/-- The settings of a ledger, with the bounds its constructor enforces. -/
structure LedgerConfig where
  budgetRetentionSeconds : ℚ
  maxBudgetEntries : Nat
  confirmationRetentionSeconds : ℚ
  maxConfirmationEntries : Nat
  budgetLeaseTtlSeconds : ℚ
  budgetRetention : 1 ≤ budgetRetentionSeconds ∧ budgetRetentionSeconds ≤ 365 * 24 * 60 * 60
  budgetEntries : 1 ≤ maxBudgetEntries ∧ maxBudgetEntries ≤ 65536
  confirmationRetention :
    1 ≤ confirmationRetentionSeconds ∧ confirmationRetentionSeconds ≤ 365 * 24 * 60 * 60
  confirmationEntries : 1 ≤ maxConfirmationEntries ∧ maxConfirmationEntries ≤ 65536
  budgetLeaseTtl : 1 ≤ budgetLeaseTtlSeconds ∧ budgetLeaseTtlSeconds ≤ 3600

/-- What the clock of a call, or its `now`, shows. -/
inductive Reading where
  | unavailable
  /-- A number that is not finite. -/
  | notFinite
  | seconds (value : ℚ)
  deriving DecidableEq, Repr

/-- What the file system does to a call. -/
inductive Storage where
  | healthy
  /-- The lock is busy, or the file cannot be read. -/
  | unreadable
  /-- The new state cannot be written. -/
  | unwritable
  /-- The new state is durable, and the caller gets an exception. -/
  | unanswered
  deriving DecidableEq, Repr

/-- The environment of a call. -/
structure Surroundings where
  config : LedgerConfig
  now : Reading
  storage : Storage

def timestamp (now : Reading) (label : String) : Except LedgerError ℚ :=
  match now with
  | .unavailable => .error (.ledger (label ++ " is unavailable."))
  | .notFinite => .error (.ledger (label ++ " is invalid."))
  | .seconds value =>
    if 0 ≤ value then .ok value else .error (.ledger (label ++ " is invalid."))

/-- `_read`, on the state of the file. -/
def readState (storage : Storage) (s : LedgerState) : Except LedgerError Unit := do
  check (storage ≠ .unreadable) (.ledger "Bridge ledger cannot be read safely." : LedgerError)
  validateState s
  check (s.budgets.length ≤ 65536)
    (.ledger "Bridge budget absolute bound is exceeded." : LedgerError)
  check (s.confirmations.length ≤ 65536)
    (.ledger "Bridge confirmation absolute bound is exceeded." : LedgerError)

/-- `_write`: the answer to the caller and the state of the file. -/
def writeState {α : Type} (storage : Storage) (a : α) (s s' : LedgerState) :
    Except LedgerError α × LedgerState :=
  match validateState s', storage with
  | .error e, _ => (.error e, s)
  | .ok _, .unwritable => (.error (.ledger "Bridge ledger cannot be persisted safely."), s)
  | .ok _, .unanswered => (.error (.ledger "Bridge ledger cannot be persisted safely."), s')
  | .ok _, _ => (.ok a, s')

/-- `_locked_state` around a body. -/
def lockedState {α : Type} (env : Surroundings) (label : String) (s : LedgerState)
    (body : ℚ → Except LedgerError (α × LedgerState)) : Except LedgerError α × LedgerState :=
  match (do
    let observed ← timestamp env.now label
    readState env.storage s
    body observed) with
  | .error e => (.error e, s)
  | .ok (a, s') => writeState env.storage a s s'

theorem lockedState_cases {α : Type} (env : Surroundings) (label : String) (s : LedgerState)
    (body : ℚ → Except LedgerError (α × LedgerState)) : ((lockedState env label s body).2 = s ∧
        ∃ e, (lockedState env label s body).1 = .error e) ∨
      ∃ t a, env.now = .seconds t ∧ 0 ≤ t ∧
        body t = .ok (a, (lockedState env label s body).2) ∧
        ((lockedState env label s body).1 = .ok a ∨
          ∃ e, (lockedState env label s body).1 = .error e) := by
  unfold lockedState
  split
  · rename_i e _
    exact .inl ⟨rfl, e, rfl⟩
  · rename_i a s' h
    obtain ⟨t, htime, h⟩ := bind_eq_ok.mp h
    obtain ⟨_, -, hbody⟩ := bind_eq_ok.mp h
    have hnow : env.now = .seconds t ∧ 0 ≤ t := by
      unfold timestamp at htime
      split at htime
      · cases htime
      · cases htime
      · rename_i value hvalue
        split at htime
        · rename_i hpos
          cases htime
          exact ⟨hvalue, hpos⟩
        · cases htime
    unfold writeState
    split
    · exact .inl ⟨rfl, _, rfl⟩
    · exact .inl ⟨rfl, _, rfl⟩
    · exact .inr ⟨t, a, hnow.1, hnow.2, hbody, .inr ⟨_, rfl⟩⟩
    · exact .inr ⟨t, a, hnow.1, hnow.2, hbody, .inl rfl⟩

theorem lockedState_outcome {α : Type} (env : Surroundings) (label : String) (s : LedgerState)
    (body : ℚ → Except LedgerError (α × LedgerState)) : ((lockedState env label s body).2 = s ∧
        ∃ e, (lockedState env label s body).1 = .error e) ∨
      ∃ t a s', env.now = .seconds t ∧ body t = .ok (a, s') ∧
        (lockedState env label s body).2 = s' ∧
        ((lockedState env label s body).1 = .ok a ∨
          ∃ e, (lockedState env label s body).1 = .error e) := by
  rcases lockedState_cases env label s body with hsame | ⟨t, a, hnow, -, hbody, hanswer⟩
  · exact .inl hsame
  · exact .inr ⟨t, a, _, hnow, hbody, rfl, hanswer⟩

theorem lockedState_keeps {α β : Type} (f : LedgerState → β) {env : Surroundings}
    {label : String} {s : LedgerState} {body : ℚ → Except LedgerError (α × LedgerState)}
    (h : ∀ t a s', body t = .ok (a, s') → f s' = f s) :
    f (lockedState env label s body).2 = f s := by
  rcases lockedState_cases env label s body with ⟨hsame, -⟩ | ⟨t, a, -, -, hbody, -⟩
  · rw [hsame]
  · exact h t a _ hbody

/-! ## Confirmations -/

structure ConfirmationTicket where
  token : String
  transactionId : String
  expiresAt : ℚ
  deriving DecidableEq, Repr

def Confirmation.terminalAt (c : Confirmation) : ℚ := c.consumedAt.getD c.expiresAt

def Confirmation.Terminal (now : ℚ) (c : Confirmation) : Prop :=
  c.consumedAt ≠ none ∨ c.expiresAt < now

instance (now : ℚ) (c : Confirmation) : Decidable (c.Terminal now) :=
  inferInstanceAs (Decidable (_ ∨ _))

/-- The order of the pairs `(terminal_at, key)`. -/
def Confirmation.Earlier (a b : Confirmation) : Prop :=
  a.terminalAt < b.terminalAt ∨ a.terminalAt = b.terminalAt ∧ a.tokenSha256 ≤ b.tokenSha256

instance (a b : Confirmation) : Decidable (a.Earlier b) :=
  inferInstanceAs (Decidable (_ ∨ _))

def pruneConfirmations (confirmations : List Confirmation) (now retentionSeconds : ℚ)
    (maxEntries requiredCapacity : Nat) : Except LedgerError (List Confirmation) := do
  confirmations.forM fun c => do
    requireDigest c.tokenSha256 "stored confirmation key"
    validateConfirmation c
  let cutoff := now - retentionSeconds
  let kept := confirmations.filter fun c => ¬ (c.Terminal now ∧ c.terminalAt < cutoff)
  let retainedTerminal := (kept.filter fun c => c.Terminal now).insertionSort
    Confirmation.Earlier
  let overflow := kept.length + requiredCapacity - maxEntries
  let evicted := (retainedTerminal.take overflow).map Confirmation.tokenSha256
  let kept := kept.filter fun c => c.tokenSha256 ∉ evicted
  check (kept.length + requiredCapacity ≤ maxEntries)
    (.ledger "Bridge confirmation ledger reached its safe bound." : LedgerError)
  pure kept

/-- A call of `issue_confirmation`. -/
structure IssueCall extends Surroundings where
  bindingSha256 : String
  ttlSeconds : ℚ
  token : TokenUrlsafe
  transactionId : TransactionId

/-- A call of `consume_confirmation`. -/
structure ConsumeCall extends Surroundings where
  token : String
  bindingSha256 : String

section Operations

variable (S : Stdlib)

/-- The entry of a new ticket. -/
def IssueCall.entry (call : IssueCall) (issuedAt : ℚ) : Confirmation where
  tokenSha256 := sha256Text S (confirmationToken call.token)
  bindingSha256 := call.bindingSha256
  transactionId := call.transactionId.val
  issuedAt := issuedAt
  expiresAt := issuedAt + call.ttlSeconds
  consumedAt := none

def issueConfirmation (call : IssueCall) (s : LedgerState) :
    Except LedgerError ConfirmationTicket × LedgerState :=
  match (do
    requireDigest call.bindingSha256 "confirmation binding"
    check (1 ≤ call.ttlSeconds ∧ call.ttlSeconds ≤ 3600)
      (.ledger "Confirmation TTL must be between 1 and 3600 seconds." : LedgerError)
    check (isConfirmationToken (confirmationToken call.token) = true)
      (.ledger "Generated confirmation token is malformed." : LedgerError)) with
  | .error e => (.error e, s)
  | .ok () =>
    lockedState call.toSurroundings "Confirmation issue time" s fun issuedAt => do
      let confirmations ← pruneConfirmations s.confirmations issuedAt
        call.config.confirmationRetentionSeconds call.config.maxConfirmationEntries 1
      let entry := call.entry S issuedAt
      let ticket : ConfirmationTicket :=
        ⟨confirmationToken call.token, call.transactionId.val, entry.expiresAt⟩
      let confirmations := Table.put Confirmation.tokenSha256 confirmations entry
      pure (ticket, { s with confirmations := confirmations })

def consumeConfirmation (call : ConsumeCall) (s : LedgerState) :
    Except LedgerError String × LedgerState :=
  match (do
    check (isConfirmationToken call.token = true)
      (.confirmationNotReady "Confirmation token is malformed." : LedgerError)
    requireDigest call.bindingSha256 "confirmation binding") with
  | .error e => (.error e, s)
  | .ok () =>
    lockedState call.toSurroundings "Confirmation consume time" s fun consumedAt => do
      let tokenSha256 := sha256Text S call.token
      match Table.lookup Confirmation.tokenSha256 s.confirmations tokenSha256 with
      | none => .error (.confirmationNotReady "Confirmation token is unknown.")
      | some raw => do
        validateConfirmation raw
        check (raw.bindingSha256 = call.bindingSha256)
          (.ledger "Confirmation binding does not match the plan." : LedgerError)
        check (raw.consumedAt = none)
          (.confirmationNotReady "Confirmation token was already consumed." : LedgerError)
        check (raw.issuedAt ≤ consumedAt)
          (.ledger "Confirmation clock moved before issue time." : LedgerError)
        check (consumedAt ≤ raw.expiresAt)
          (.confirmationNotReady "Confirmation token has expired." : LedgerError)
        let confirmations := Table.update Confirmation.tokenSha256 s.confirmations
          tokenSha256 fun c => { c with consumedAt := some consumedAt }
        pure (raw.transactionId, { s with confirmations := confirmations })

/-! ## Budgets -/

structure PremiumBudgetLease where
  token : String
  keySha256 : String
  reservedAt : ℚ
  expiresAt : ℚ
  deriving DecidableEq, Repr

def requireNonRegressingClock (b : Budget) (now : ℚ) : Except LedgerError Unit :=
  check (b.updatedAt ≤ now)
    (.ledger "Premium budget clock moved before its last observation.")

def Budget.expired (b : Budget) (now : ℚ) : List Reservation :=
  b.pending.filter fun r => r.expiresAt ≤ now

/-- The budget once its expired reservations count as used. -/
def Budget.promote (b : Budget) (now : ℚ) : Budget :=
  if b.expired now = [] then b
  else { b with
    used := b.used + (b.expired now).length
    updatedAt := now
    pending := b.pending.filter fun r => ¬ r.expiresAt ≤ now }

/-- `_promote_expired_pending`: the budget and the promoted tokens. -/
def promoteExpiredPending (b : Budget) (now : ℚ) :
    Except LedgerError (Budget × List String) := do
  validateBudget b
  requireNonRegressingClock b now
  pure (b.promote now, (b.expired now).map Reservation.tokenSha256)

/-- One budget in `_maintain_budgets`; nothing when it is dropped. -/
def Budget.maintain (now retentionSeconds : ℚ) (b : Budget) : Option Budget :=
  if now < b.updatedAt then some b
  else
    let b := b.promote now
    if b.pending = [] ∧ b.updatedAt < now - retentionSeconds then none else some b

def maintainBudgets (budgets : List Budget) (now retentionSeconds : ℚ) :
    Except LedgerError (List Budget) := do
  budgets.forM validateBudget
  pure (budgets.filterMap (Budget.maintain now retentionSeconds))

def validateBudgetLimit (limit : Int) : Except LedgerError Unit :=
  check (0 ≤ limit ∧ limit ≤ 1) (.ledger "Premium call limit must be 0 or 1.")

def validateLeaseTtl (value : ℚ) : Except LedgerError Unit :=
  check (1 ≤ value ∧ value ≤ 3600)
    (.ledger "Premium budget lease TTL must be between 1 and 3600 seconds.")

def validateLease (lease : PremiumBudgetLease) : Except LedgerError (String × String) := do
  check (isBudgetToken lease.token = true)
    (.ledger "Premium budget lease token is malformed." : LedgerError)
  requireDigest lease.keySha256 "premium budget lease key"
  check (0 ≤ lease.reservedAt)
    (.ledger "Premium budget lease reserved_at is malformed." : LedgerError)
  check (0 ≤ lease.expiresAt)
    (.ledger "Premium budget lease expires_at is malformed." : LedgerError)
  check (lease.reservedAt < lease.expiresAt)
    (.ledger "Premium budget lease expiry is malformed." : LedgerError)
  pure (lease.keySha256, sha256Text S lease.token)

/-- A call of `reserve_budget`; `limit = 0` is answered without a look at the file. -/
structure ReserveCall extends Surroundings where
  keySha256 : String
  limit : Int
  ttlSeconds : Option ℚ
  token : TokenUrlsafe

/-- A call of `commit_budget` or of `release_budget_after_popen_failure`. -/
structure LeaseCall extends Surroundings where
  lease : PremiumBudgetLease

structure ConsumeBudgetCall extends Surroundings where
  keySha256 : String
  limit : Int

def ReserveCall.leaseTtl (call : ReserveCall) : ℚ :=
  call.ttlSeconds.getD call.config.budgetLeaseTtlSeconds

def ReserveCall.reservation (call : ReserveCall) (reservedAt : ℚ) : Reservation where
  tokenSha256 := sha256Text S (budgetToken call.token)
  reservedAt := reservedAt
  expiresAt := reservedAt + call.leaseTtl

def ReserveCall.lease (call : ReserveCall) (reservedAt : ℚ) : PremiumBudgetLease where
  token := budgetToken call.token
  keySha256 := call.keySha256
  reservedAt := reservedAt
  expiresAt := reservedAt + call.leaseTtl

/-- The budgets with the entry of a key, made if it was missing. -/
def openBudget (config : LedgerConfig) (budgets : List Budget) (keySha256 : String)
    (now : ℚ) : Except LedgerError (List Budget × Budget) :=
  match Table.lookup Budget.keySha256 budgets keySha256 with
  | some raw => .ok (budgets, raw)
  | none => do
    check (budgets.length < config.maxBudgetEntries)
      (.ledger "Bridge budget retention bound is exhausted; refusing unsafe eviction." :
        LedgerError)
    pure (budgets ++ [⟨keySha256, 0, now, []⟩], ⟨keySha256, 0, now, []⟩)

def reserveBudget (call : ReserveCall) (s : LedgerState) :
    Except LedgerError (Option PremiumBudgetLease) × LedgerState :=
  match (do
    requireDigest call.keySha256 "budget key"
    validateBudgetLimit call.limit) with
  | .error e => (.error e, s)
  | .ok () =>
    if call.limit = 0 then (.ok none, s)
    else match (do
      validateLeaseTtl call.leaseTtl
      check (isBudgetToken (budgetToken call.token) = true)
        (.ledger "Generated premium budget lease is malformed." : LedgerError)) with
    | .error e => (.error e, s)
    | .ok () =>
      lockedState call.toSurroundings "Premium budget reserve time" s fun reservedAt => do
        let maintained ← maintainBudgets s.budgets reservedAt
          call.config.budgetRetentionSeconds
        let (budgets, raw) ← openBudget call.config maintained call.keySha256 reservedAt
        validateBudget raw
        requireNonRegressingClock raw reservedAt
        if call.limit ≤ raw.used + raw.pending.length then
          pure (none, { s with budgets := budgets })
        else
          let reserved := { raw with
            updatedAt := reservedAt
            pending := Table.put Reservation.tokenSha256 raw.pending
              (call.reservation S reservedAt) }
          pure (some (call.lease reservedAt),
            { s with budgets := Table.put Budget.keySha256 budgets reserved })

/-- The common start of `commit_budget` and of `release_budget_after_popen_failure`: the
promoted entry and the promoted tokens. -/
def leasedBudget (budgets : List Budget) (keySha256 : String) (now : ℚ) :
    Except LedgerError (Budget × List String) :=
  match Table.lookup Budget.keySha256 budgets keySha256 with
  | none => .error (.ledger "Premium budget lease is unknown.")
  | some raw => do
    validateBudget raw
    requireNonRegressingClock raw now
    promoteExpiredPending raw now

/-- The answer once the state is written: a lease that was missing is an error. -/
def settleLease : Except LedgerError (Option Bool) → Except LedgerError Unit
  | .ok none => .ok ()
  | .ok (some expired) => .error (.ledger ("Premium budget lease is " ++
      (if expired then "expired" else "unknown") ++ "."))
  | .error e => .error e

def commitBudget (call : LeaseCall) (s : LedgerState) :
    Except LedgerError Unit × LedgerState :=
  match validateLease S call.lease with
  | .error e => (.error e, s)
  | .ok (keySha256, tokenSha256) =>
    let outcome :=
      lockedState call.toSurroundings "Premium budget commit time" s fun committedAt => do
        let (raw, promoted) ← leasedBudget s.budgets keySha256 committedAt
        if (Table.lookup Reservation.tokenSha256 raw.pending tokenSha256).isNone then
          pure (some (decide (tokenSha256 ∈ promoted)),
            { s with budgets := Table.put Budget.keySha256 s.budgets raw })
        else
          let committed := { raw with
            used := raw.used + 1
            updatedAt := committedAt
            pending := Table.delete Reservation.tokenSha256 raw.pending tokenSha256 }
          pure (none, { s with budgets := Table.put Budget.keySha256 s.budgets committed })
    (settleLease outcome.1, outcome.2)

def releaseBudgetAfterPopenFailure (call : LeaseCall) (s : LedgerState) :
    Except LedgerError Unit × LedgerState :=
  match validateLease S call.lease with
  | .error e => (.error e, s)
  | .ok (keySha256, tokenSha256) =>
    let outcome :=
      lockedState call.toSurroundings "Premium budget release time" s fun releasedAt => do
        let (raw, promoted) ← leasedBudget s.budgets keySha256 releasedAt
        if (Table.lookup Reservation.tokenSha256 raw.pending tokenSha256).isNone then
          pure (some (decide (tokenSha256 ∈ promoted)),
            { s with budgets := Table.put Budget.keySha256 s.budgets raw })
        else
          let released := { raw with
            updatedAt := releasedAt
            pending := Table.delete Reservation.tokenSha256 raw.pending tokenSha256 }
          if released.used = 0 ∧ released.pending = [] then
            let budgets := Table.delete Budget.keySha256 s.budgets keySha256
            pure (none, { s with budgets := budgets })
          else
            pure (none, { s with budgets := Table.put Budget.keySha256 s.budgets released })
    (settleLease outcome.1, outcome.2)

/-- The used count and the pending reservations `consume_budget` goes on with. -/
def consumableBudget (budgets : List Budget) (keySha256 : String) (now : ℚ) :
    Except LedgerError (List Budget × Nat × List Reservation) :=
  match Table.lookup Budget.keySha256 budgets keySha256 with
  | none => .ok (budgets, 0, [])
  | some raw => do
    validateBudget raw
    requireNonRegressingClock raw now
    let (raw, _) ← promoteExpiredPending raw now
    pure (Table.put Budget.keySha256 budgets raw, raw.used, raw.pending)

def consumeBudget (call : ConsumeBudgetCall) (s : LedgerState) :
    Except LedgerError Bool × LedgerState :=
  match (do
    requireDigest call.keySha256 "budget key"
    validateBudgetLimit call.limit) with
  | .error e => (.error e, s)
  | .ok () =>
    if call.limit = 0 then (.ok false, s)
    else
      lockedState call.toSurroundings "Premium budget consume time" s fun consumedAt => do
        let maintained ← maintainBudgets s.budgets consumedAt
          call.config.budgetRetentionSeconds
        let (budgets, used, pending) ←
          consumableBudget maintained call.keySha256 consumedAt
        if call.limit ≤ used + pending.length then
          pure (false, { s with budgets := budgets })
        else do
          check (¬ ((Table.lookup Budget.keySha256 maintained call.keySha256).isNone = true ∧
              call.config.maxBudgetEntries ≤ budgets.length))
            (.ledger "Bridge budget retention bound is exhausted; refusing unsafe eviction." :
              LedgerError)
          let consumed : Budget := ⟨call.keySha256, used + 1, consumedAt, pending⟩
          pure (true, { s with budgets := Table.put Budget.keySha256 budgets consumed })

/-! ## All callers of one ledger -/

inductive Call where
  | issueConfirmation (call : IssueCall)
  | consumeConfirmation (call : ConsumeCall)
  | reserveBudget (call : ReserveCall)
  | commitBudget (call : LeaseCall)
  | releaseBudget (call : LeaseCall)
  | consumeBudget (call : ConsumeBudgetCall)

/-- What the caller gets. -/
inductive Answer where
  | issued (answer : Except LedgerError ConfirmationTicket)
  | confirmed (answer : Except LedgerError String)
  | reserved (answer : Except LedgerError (Option PremiumBudgetLease))
  | settled (answer : Except LedgerError Unit)
  | consumed (answer : Except LedgerError Bool)

/-- The ledger as a machine whose inputs are the calls of all processes. -/
def ledger : Machine LedgerState Call Answer where
  init := .empty
  step s
    | .issueConfirmation call =>
      let outcome := issueConfirmation S call s
      (.issued outcome.1, outcome.2)
    | .consumeConfirmation call =>
      let outcome := consumeConfirmation S call s
      (.confirmed outcome.1, outcome.2)
    | .reserveBudget call =>
      let outcome := reserveBudget S call s
      (.reserved outcome.1, outcome.2)
    | .commitBudget call =>
      let outcome := commitBudget S call s
      (.settled outcome.1, outcome.2)
    | .releaseBudget call =>
      let outcome := releaseBudgetAfterPopenFailure S call s
      (.settled outcome.1, outcome.2)
    | .consumeBudget call =>
      let outcome := consumeBudget call s
      (.consumed outcome.1, outcome.2)

end Operations

end LocalMoe.Bridge
