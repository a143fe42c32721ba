/-
  The store objects over one run directory, and the paired runs.

  The directory holds the root and the events; the authority over a claim is in the memory of
  the store object that appended it.
-/
import LocalMoe.Foundation.Machine
import LocalMoe.Paired.Contracts

namespace LocalMoe.Paired

open Foundation Contracts Canary

/-! ## The memory of a store object -/

/-- `_ClaimAuthority`; a nonce is a number that no store has drawn before. -/
structure ClaimAuthority where
  pid : Nat
  nonce : Nat
  deriving DecidableEq

/-- A `PairedExecutionStore` in one process. -/
structure Memory where
  /-- What `os.getpid()` answers. -/
  pid : Nat
  ownerPid : Nat
  ownerNonce : Nat
  activeClaims : List (PairedRunClaim × ClaimAuthority)

/-- `__init__`. -/
def Memory.new (pid nonce : Nat) : Memory := ⟨pid, pid, nonce, []⟩

def Memory.refresh (m : Memory) (nonce : Nat) : Memory :=
  if m.pid = m.ownerPid then m
  else { m with ownerPid := m.pid, ownerNonce := nonce, activeClaims := [] }

def Memory.authority (m : Memory) (claim : PairedRunClaim) : Option ClaimAuthority :=
  (m.activeClaims.find? fun active => active.1 = claim).map Prod.snd

def Memory.ownsClaim (m : Memory) (claim : PairedRunClaim) : Bool :=
  match m.authority claim with
  | none => false
  | some authority =>
    m.pid = m.ownerPid && m.ownerPid = authority.pid && m.ownerNonce = authority.nonce

def Memory.abandon (m : Memory) (claim : PairedRunClaim) : Memory :=
  { m with activeClaims := m.activeClaims.filter fun active => active.1 ≠ claim }

/-- The authority over a claim just appended. -/
def Memory.activate (m : Memory) (claim : PairedRunClaim) : Memory :=
  { m with activeClaims :=
      (claim, ⟨m.ownerPid, m.ownerNonce⟩) :: (m.abandon claim).activeClaims }

/-! ## The world -/

/-- An event with the store object and the nonce that appended it; no code reads these. -/
structure Entry where
  event : Event
  writer : Nat
  nonce : Nat
  deriving DecidableEq

inductive ExecutorCall where
  | planArm | runArm
  deriving DecidableEq

/-- Where a call of `run_paired_case` is. -/
inductive Phase where
  | preparing
  /-- About to look at the status. -/
  | looking
  | ready (slot : PairedRunSlot)
  | claimed (claim : PairedRunClaim)
  | bound (binding : PairedOutcomeBinding)
  /-- `plan_arm` has been called. -/
  | planned (binding : PairedOutcomeBinding)
  /-- `run_arm` has been called. -/
  | ran (binding : PairedOutcomeBinding)
  | ended
  deriving DecidableEq

/-- A call of `run_paired_case` on a store object. -/
structure Runner where
  store : Nat
  root : PairedRunRoot
  phase : Phase

/-- The run directory and everything that works on it.  Store objects and calls are
numbered as they appear. -/
structure World where
  root : Option PairedRunRoot
  entries : List Entry
  stores : Nat → Option Memory
  storeCount : Nat
  nonceCount : Nat
  runners : Nat → Option Runner
  runnerCount : Nat
  /-- The calls of the executor, and the bindings handed out; no code reads these. -/
  invocations : List (ExecutorCall × PairedRunClaim)
  issued : List PairedOutcomeBinding

def World.init : World := ⟨none, [], fun _ => none, 0, 0, fun _ => none, 0, [], []⟩

def World.events (w : World) : List Event := w.entries.map Entry.event

/-- A store object remembers something else. -/
def World.keep (w : World) (k : Nat) (m : Memory) : World :=
  { w with stores := Function.update w.stores k (some m) }

def World.append (w : World) (k nonce : Nat) (event : Event) : World :=
  { w with entries := w.entries ++ [⟨event, k, nonce⟩] }

/-- A call of `run_paired_case` goes on. -/
def World.goTo (w : World) (r : Nat) (phase : Phase) : World :=
  { w with
    runners := Function.update w.runners r
      ((w.runners r).map fun runner => { runner with phase := phase }) }

/-! ## The operations of a store -/

/-- How the filesystem and the lock serve an operation. -/
inductive Storage where
  | works
  /-- The operation raises before anything is written. -/
  | fails (e : PairedError)
  /-- The operation raises, or its process ends, after what it writes is durable. -/
  | unanswered (e : PairedError)

/-- An operation under the lock: what it answers, what it makes durable, and what it leaves
in the end. -/
def Storage.commit {α : Type} (storage : Storage) (answer : Except PairedError α)
    (w : World) (durable kept : α → World) : Except PairedError α × World :=
  match storage, answer with
  | .fails e, _ => (.error e, w)
  | _, .error e => (.error e, w)
  | .unanswered e, .ok a => (.error e, durable a)
  | .works, .ok a => (.ok a, kept a)

def World.read (w : World) : Except PairedError (Option (PairedRunRoot × JournalState)) :=
  match w.root with
  | none => do
    check (w.entries = [])
      (.routing "Paired store is corrupt: events exist without run.json.")
    pure none
  | some root => do
    let s ← readUnlocked root w.events
    pure (some (root, s))

/-- `_require_prepared` of what is read. -/
def World.prepared (w : World) : Except PairedError (PairedRunRoot × JournalState) := do
  match ← w.read with
  | none => .error (.routing "Paired run is not prepared.")
  | some state => pure state

/-- `prepare`: whether the root is to be installed. -/
def World.prepareAnswer (w : World) (root : PairedRunRoot) : Except PairedError Bool := do
  match ← w.read with
  | none => pure true
  | some (installed, _) => do
    check (installed = root) (.routing "Paired run directory is bound to another root.")
    pure false

def World.prepare (w : World) (root : PairedRunRoot) (storage : Storage) :
    Except PairedError Bool × World :=
  let installed (new : Bool) : World := if new then { w with root := some root } else w
  storage.commit (w.prepareAnswer root) w installed installed

/-- A slot given to `claim`. -/
inductive SlotArgument where
  | slot (slot : PairedRunSlot)
  | name (name : String)

/-- The slot ids as they are written. -/
def SlotId.text : SlotId → String
  | .a => "A"
  | .b => "B"

def PairedRunRoot.resolveSlot (root : PairedRunRoot) :
    SlotArgument → Except PairedError PairedRunSlot
  | .slot value =>
    match root.slots.filter fun item => item.slot = value.slot with
    | [item] => do
      check (item = value) (.routing "Paired slot is not in the run root.")
      pure value
    | _ => .error (.routing "Paired slot is not in the run root.")
  | .name value =>
    match root.slots.filter fun item => item.slot.text = value with
    | [item] => pure item
    | _ => .error (.routing "Paired slot must be A or B.")

/-- The claim that `claim` is to append to a journal. -/
def nextClaim (m : Memory) (slot : SlotArgument) (root : PairedRunRoot) (s : JournalState) :
    Except PairedError PairedRunClaim :=
  match s.openClaim with
  | some claim =>
    if m.ownsClaim claim then
      .error (.routing "Paired run slot is already running in this owner.")
    else
      .error (.indeterminate "Paired run has an uncheckpointed claim; retry is forbidden.")
  | none =>
    match root.slots[s.checkpoints.length]? with
    | none => .error (.routing "Paired run is already complete.")
    | some expected => do
      let requested ← root.resolveSlot slot
      check (requested = expected)
        (.routing "Paired run slot claim is out of declared order.")
      pure ⟨root.runId, expected⟩

/-- `claim`, once the identity of the process is refreshed. -/
def World.claimAnswer (w : World) (m : Memory) (slot : SlotArgument) :
    Except PairedError PairedRunClaim := do
  let (root, s) ← w.prepared
  nextClaim m slot root s

/-- The identity of a store object is refreshed. -/
def World.refresh (w : World) (k : Nat) (m : Memory) : World :=
  { w.keep k (m.refresh w.nonceCount) with nonceCount := w.nonceCount + 1 }

def World.claim (w : World) (k : Nat) (m : Memory) (slot : SlotArgument) (storage : Storage) :
    Except PairedError PairedRunClaim × World :=
  let w' := w.refresh k m
  let m := m.refresh w.nonceCount
  let durable (claim : PairedRunClaim) := w'.append k m.ownerNonce (.claim claim)
  storage.commit (w'.claimAnswer m slot) w' durable
    fun claim => (durable claim).keep k (m.activate claim)

def Memory.assertProcessIdentity (m : Memory) : Except PairedError Unit :=
  check (m.pid = m.ownerPid)
    (.indeterminate "A forked process cannot inherit paired claim authority.")

/-- `binding_for`: the binding to return. -/
def World.bindingAnswer (w : World) (m : Memory) (claim : PairedRunClaim) :
    Except PairedError PairedOutcomeBinding := do
  m.assertProcessIdentity
  let (root, s) ← w.prepared
  check (s.openClaim = some claim) (.routing "Paired claim is not the open slot.")
  check (m.ownsClaim claim = true)
    (.indeterminate "Only the process that wrote a claim may bind its outcome.")
  PairedOutcomeBinding.build root claim s.previous

def World.bindingFor (w : World) (m : Memory) (claim : PairedRunClaim) (storage : Storage) :
    Except PairedError PairedOutcomeBinding × World :=
  storage.commit (w.bindingAnswer m claim) w (fun _ => w)
    fun binding => { w with issued := w.issued ++ [binding] }

/-- The checkpoint of an arm in a journal, and whether it is to be appended. -/
def nextCheckpoint (m : Memory) (binding : PairedOutcomeBinding)
    (checkpoint : PairedRunCheckpoint) (root : PairedRunRoot) (s : JournalState) :
    Except PairedError (PairedRunCheckpoint × Bool) :=
  match s.checkpoints.find? fun existing => existing.binding.claim = binding.claim with
  | some existing => do
    check (existing = checkpoint)
      (.routing "Paired claim already has a different checkpoint.")
    pure (existing, false)
  | none =>
    match s.openClaim with
    | none => .error (.routing "Paired run has no open claim.")
    | some claim => do
      check (claim = binding.claim)
        (.routing "Paired checkpoint does not belong to the open claim.")
      validateBinding root claim binding
      check (binding.previousRecordId = s.previous)
        (.routing "Paired checkpoint breaks the sequential outcome chain.")
      check (m.ownsClaim binding.claim = true)
        (.indeterminate "An unowned or recovered claim cannot be checkpointed.")
      pure (checkpoint, true)

/-- `complete`: the checkpoint, and whether it is to be appended. -/
def World.completeAnswer (w : World) (m : Memory) (binding : PairedOutcomeBinding)
    (evidence : Evidence) : Except PairedError (PairedRunCheckpoint × Bool) := do
  m.assertProcessIdentity
  let checkpoint ← PairedRunCheckpoint.build binding evidence
  let (root, s) ← w.prepared
  nextCheckpoint m binding checkpoint root s

def World.complete (w : World) (k : Nat) (m : Memory) (binding : PairedOutcomeBinding)
    (evidence : Evidence) (storage : Storage) :
    Except PairedError (PairedRunCheckpoint × Bool) × World :=
  let durable (answer : PairedRunCheckpoint × Bool) : World :=
    if answer.2 then w.append k m.ownerNonce (.checkpoint answer.1) else w
  storage.commit (w.completeAnswer m binding evidence) w durable fun answer =>
    if answer.2 then (durable answer).keep k (m.abandon binding.claim) else w

/-- `status`, then `_validate_resumable_status`: the next slot, if the run is not complete. -/
def World.resumable (w : World) (m : Memory) (root : PairedRunRoot) :
    Except PairedError (Option PairedRunSlot) := do
  match ← w.read with
  | none => .error (.routing "Paired execution store root changed.")
  | some (installed, s) => do
    check (installed = root) (.routing "Paired execution store root changed.")
    match s.openClaim with
    | some claim =>
      if m.ownsClaim claim then
        .error (.routing "Paired execution is already running.")
      else
        .error (.indeterminate
          "Paired execution has an uncheckpointed claim; retry is forbidden.")
    | none =>
      match s.checkpoints.length with
      | 2 => pure none
      | 1 => pure root.slots[1]?
      | _ => pure root.slots[0]?

/-! ## The calls of `run_paired_case` -/

/-- What a call does with an answer: an exception ends it. -/
def World.settle {α : Type} (r : Nat) (cleanup : World → World) (next : α → Phase)
    (result : Except PairedError α × World) : Except PairedError Unit × World :=
  match result.1 with
  | .error e => (.error e, (cleanup result.2).goTo r .ended)
  | .ok a => (.ok (), result.2.goTo r (next a))

def World.abandon (k : Nat) (claim : PairedRunClaim) (w : World) : World :=
  match w.stores k with
  | none => w
  | some m => w.keep k (m.abandon claim)

/-- A check or a collaborator that may raise. -/
def raised (raises : Option PairedError) : Except PairedError Unit :=
  match raises with
  | some e => .error e
  | none => .ok ()

def World.invoke (w : World) (call : ExecutorCall) (claim : PairedRunClaim) : World :=
  { w with invocations := w.invocations ++ [(call, claim)] }

/-- One stretch of `run_paired_case`, by the call `r` on the store object `k`. -/
def World.advance (w : World) (r : Nat) (runner : Runner) (m : Memory) (storage : Storage)
    (raises : Option PairedError) (evidence : Evidence) : Except PairedError Unit × World :=
  let k := runner.store
  match runner.phase with
  | .preparing =>
    World.settle r id (fun _ => .looking) (w.prepare runner.root storage)
  | .looking =>
    World.settle r id (fun slot => slot.elim .ended .ready)
      (storage.commit (w.resumable m runner.root) w (fun _ => w) fun _ => w)
  | .ready slot =>
    match raised raises with
    | .error e => (.error e, w.goTo r .ended)
    | .ok () => World.settle r id .claimed (w.claim k m (.slot slot) storage)
  | .claimed claim =>
    World.settle r (World.abandon k claim) .bound (w.bindingFor m claim storage)
  | .bound binding =>
    (.ok (), (w.invoke .planArm binding.claim).goTo r (.planned binding))
  | .planned binding =>
    match raised raises with
    | .error e => (.error e, (w.abandon k binding.claim).goTo r .ended)
    | .ok () => (.ok (), (w.invoke .runArm binding.claim).goTo r (.ran binding))
  | .ran binding =>
    match raised raises with
    | .error e => (.error e, (w.abandon k binding.claim).goTo r .ended)
    | .ok () =>
      World.settle r (World.abandon k binding.claim) (fun _ => .looking)
        (w.complete k m binding evidence storage)
  | .ended => (.ok (), w)

/-! ## The machine -/

/-- What may happen next. -/
inductive Input where
  /-- A process makes a store object. -/
  | create (pid : Nat)
  /-- The process of a store object forks: the child has a copy of the object and, when the
  fork is inside a call, goes on with that call. -/
  | fork (parent pid : Nat) (call : Option Nat)
  /-- The process of a store object ends. -/
  | crash (store : Nat)
  | prepare (store : Nat) (root : PairedRunRoot) (storage : Storage)
  | claim (store : Nat) (slot : SlotArgument) (storage : Storage)
  | bindingFor (store : Nat) (claim : PairedRunClaim) (storage : Storage)
  | complete (store : Nat) (binding : PairedOutcomeBinding) (evidence : Evidence)
      (storage : Storage)
  | abandon (store : Nat) (claim : PairedRunClaim)
  /-- `run_paired_case` is called. -/
  | start (store : Nat) (root : PairedRunRoot)
  | advance (call : Nat) (storage : Storage) (raises : Option PairedError)
      (evidence : Evidence)

/-- A store object of a process that has just been made. -/
def World.addStore (w : World) (m : Memory) : World :=
  { w with
    stores := Function.update w.stores w.storeCount (some m), storeCount := w.storeCount + 1 }

/-- A call of `run_paired_case` that is now going on. -/
def World.addRunner (w : World) (runner : Runner) : World :=
  { w with
    runners := Function.update w.runners w.runnerCount (some runner)
    runnerCount := w.runnerCount + 1 }

/-- The copy of a call in a forked process. -/
def World.resume (w : World) (parent child : Nat) (call : Option Nat) : World :=
  match call.bind w.runners with
  | none => w
  | some runner =>
    if runner.store = parent then w.addRunner { runner with store := child } else w

/-- Forgets what an operation answers. -/
def quiet {α : Type} (result : Except PairedError α × World) :
    Except PairedError Unit × World :=
  (result.1.map fun _ => (), result.2)

/-- A step on what has been found; nothing happens where nothing is. -/
def World.onFound {α : Type} (w : World) (found : Option α)
    (f : α → Except PairedError Unit × World) : Except PairedError Unit × World :=
  match found with
  | none => (.ok (), w)
  | some a => f a

theorem World.onFound_induct {α : Type} {P : World → Prop} {w : World} {found : Option α}
    {f : α → Except PairedError Unit × World} (hw : P w)
    (hf : ∀ a, found = some a → P (f a).2) : P (w.onFound found f).2 := by
  cases found with
  | none => exact hw
  | some a => exact hf a rfl

/-- One step; an input that names no store object or no call does nothing. -/
def World.step (w : World) : Input → Except PairedError Unit × World
  | .create pid =>
    (.ok (), { w.addStore (.new pid w.nonceCount) with nonceCount := w.nonceCount + 1 })
  | .fork parent pid call =>
    w.onFound (w.stores parent) fun m =>
      (.ok (), (w.addStore { m with pid := pid }).resume parent w.storeCount call)
  | .crash k => (.ok (), { w with stores := Function.update w.stores k none })
  | .prepare k root storage =>
    w.onFound (w.stores k) fun _ => quiet (w.prepare root storage)
  | .claim k slot storage =>
    w.onFound (w.stores k) fun m => quiet (w.claim k m slot storage)
  | .bindingFor k claim storage =>
    w.onFound (w.stores k) fun m => quiet (w.bindingFor m claim storage)
  | .complete k binding evidence storage =>
    w.onFound (w.stores k) fun m => quiet (w.complete k m binding evidence storage)
  | .abandon k claim => (.ok (), w.abandon k claim)
  | .start k root => (.ok (), w.addRunner ⟨k, root, .preparing⟩)
  | .advance r storage raises evidence =>
    w.onFound (w.runners r) fun runner =>
      w.onFound (w.stores runner.store) fun m =>
        w.advance r runner m storage raises evidence

/-- The run directory under any interleaving. -/
def paired : Machine World Input (Except PairedError Unit) := ⟨.init, World.step⟩

end LocalMoe.Paired
