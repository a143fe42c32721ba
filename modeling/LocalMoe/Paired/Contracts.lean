/-
  The contracts of a paired run and how its journal is read.

  A digest stands for what it is the digest of: a claim is known by its run and its slot, a
  binding by its root, its claim and the outcome before it.
-/
import LocalMoe.Canary.Contracts

namespace LocalMoe.Paired

open Foundation Contracts Canary

/-- What the store and the contracts raise. -/
inductive PairedError where
  /-- `VerifiedRoutingError`. -/
  | routing (message : String)
  /-- `PairedRunIndeterminateError`. -/
  | indeterminate (message : String)
  deriving DecidableEq, Repr

/-! ## Slots, roots and claims -/

/-- `_SLOTS`; the arm of a slot is the baseline for A and the candidate for B. -/
inductive SlotId where
  | a | b
  deriving DecidableEq, Repr

inductive Order where
  | ab | ba
  deriving DecidableEq, Repr

structure PairedRunSlot where
  slot : SlotId
  ordinal : Fin 2
  route : RoutePlan
  deriving DecidableEq, Repr

/-- `PairedRunRoot`; its digests are what its run id stands for. -/
structure PairedRunRoot where
  runId : String
  order : Order
  baselineRoute : RoutePlan
  candidateRoute : RoutePlan
  lessPremium : candidateRoute.rank < baselineRoute.rank
  deriving DecidableEq, Repr

def Order.slotAt : Order → Fin 2 → SlotId
  | .ab, 0 | .ba, 1 => .a
  | .ab, 1 | .ba, 0 => .b

def PairedRunRoot.slotAt (root : PairedRunRoot) (ordinal : Fin 2) : PairedRunSlot where
  slot := root.order.slotAt ordinal
  ordinal := ordinal
  route :=
    match root.order.slotAt ordinal with
    | .a => root.baselineRoute
    | .b => root.candidateRoute

def PairedRunRoot.slots (root : PairedRunRoot) : List PairedRunSlot :=
  [root.slotAt 0, root.slotAt 1]

structure PairedRunClaim where
  runId : String
  slot : PairedRunSlot
  deriving DecidableEq, Repr

/-- `PairedRunClaim.build`, of a slot of the root. -/
def PairedRunRoot.claim (root : PairedRunRoot) (ordinal : Fin 2) : PairedRunClaim :=
  ⟨root.runId, root.slotAt ordinal⟩

theorem PairedRunRoot.claim_injective {root : PairedRunRoot} {i j : Fin 2}
    (h : root.claim i = root.claim j) : i = j :=
  congrArg (fun c : PairedRunClaim => c.slot.ordinal) h

/-! ## Bindings and checkpoints -/

def isOutcomeId (id : String) : Bool :=
  "outcome-".toList.isPrefixOf id.toList &&
    isSha256 (String.ofList (id.toList.drop "outcome-".toList.length))

structure PairedOutcomeBinding where
  root : PairedRunRoot
  claim : PairedRunClaim
  previousRecordId : Option String
  deriving DecidableEq, Repr

/-- `PairedOutcomeBinding.build`: the claim must be of the root, and the second arm names
the outcome of the first. -/
def PairedOutcomeBinding.build (root : PairedRunRoot) (claim : PairedRunClaim)
    (previousRecordId : Option String) : Except PairedError PairedOutcomeBinding := do
  check (claim.runId = root.runId) (.routing "Paired claim belongs to another run.")
  check (claim.slot ∈ root.slots) (.routing "Paired claim does not match the run root.")
  if claim.slot.ordinal = 0 then
    check (previousRecordId = none)
      (.routing "The first paired arm cannot bind a previous outcome.")
  else
    check (∃ id ∈ previousRecordId, isOutcomeId id = true)
      (.routing "The second paired arm must bind the first outcome record.")
  pure ⟨root, claim, previousRecordId⟩

structure PairedRunCheckpoint where
  binding : PairedOutcomeBinding
  outcomeRecordId : String
  routeReceiptId : String
  routeReceiptSha256 : String
  evidenceSha256 : String
  deriving DecidableEq, Repr

/-- The evidence of a completed arm. -/
structure Evidence where
  outcomeRecordId : String
  routeReceiptId : String
  routeReceiptSha256 : String
  evidenceSha256 : String

/-- `PairedRunCheckpoint.build`; an identifier that is not normalised fails its digest. -/
def PairedRunCheckpoint.build (binding : PairedOutcomeBinding) (e : Evidence) :
    Except PairedError PairedRunCheckpoint := do
  check (isOutcomeId e.outcomeRecordId = true)
    (.routing "Paired checkpoint outcome_record_id is invalid.")
  check (isSafeId (strip e.routeReceiptId) = true)
    (.routing "route_receipt_id must be a safe identifier.")
  check (isSha256 e.routeReceiptSha256 = true)
    (.routing "route_receipt_sha256 must be a lowercase SHA-256 digest.")
  check (isSha256 e.evidenceSha256 = true)
    (.routing "evidence_sha256 must be a lowercase SHA-256 digest.")
  check (strip e.routeReceiptId = e.routeReceiptId)
    (.routing "Paired checkpoint digest is invalid.")
  pure ⟨binding, e.outcomeRecordId, e.routeReceiptId, e.routeReceiptSha256, e.evidenceSha256⟩

/-! ## Reading the journal -/

inductive Event where
  | claim (claim : PairedRunClaim)
  | checkpoint (checkpoint : PairedRunCheckpoint)
  deriving DecidableEq, Repr

/-- `_JournalState` of a prepared run. -/
structure JournalState where
  claims : List PairedRunClaim
  checkpoints : List PairedRunCheckpoint
  openClaim : Option PairedRunClaim
  deriving DecidableEq, Repr

/-- The outcome record of the last checkpoint. -/
def JournalState.previous (s : JournalState) : Option String :=
  s.checkpoints.getLast?.map PairedRunCheckpoint.outcomeRecordId

def validateBinding (root : PairedRunRoot) (claim : PairedRunClaim)
    (binding : PairedOutcomeBinding) : Except PairedError Unit := do
  let expected ← PairedOutcomeBinding.build root claim binding.previousRecordId
  check (binding = expected) (.routing "Paired outcome binding is not exact.")

/-- One event in `_read_unlocked`. -/
def readEvent (root : PairedRunRoot) (s : JournalState) :
    Event → Except PairedError JournalState
  | .claim claim => do
    check (claim ∉ s.claims) (.routing "Duplicate paired claim event.")
    check (s.openClaim = none)
      (.routing "Paired claim follows an uncheckpointed claim.")
    check (s.checkpoints.length < 2) (.routing "Paired claim follows a complete run.")
    check (∃ ordinal : Fin 2, ordinal.val = s.checkpoints.length ∧
        claim = root.claim ordinal)
      (.routing "Paired claim is out of order or has invalid lineage.")
    pure { s with claims := s.claims ++ [claim], openClaim := some claim }
  | .checkpoint checkpoint => do
    check (checkpoint ∉ s.checkpoints) (.routing "Duplicate paired checkpoint event.")
    match s.openClaim with
    | none => .error (.routing "Paired checkpoint has no preceding claim.")
    | some claim => do
      check (checkpoint.binding.claim = claim)
        (.routing "Paired checkpoint belongs to another claim.")
      validateBinding root claim checkpoint.binding
      check (checkpoint.binding.previousRecordId = s.previous)
        (.routing "Paired checkpoint breaks the outcome chain.")
      pure { s with checkpoints := s.checkpoints ++ [checkpoint], openClaim := none }

/-- `_read_unlocked` on the events of a prepared run. -/
def readUnlocked (root : PairedRunRoot) (events : List Event) :
    Except PairedError JournalState := do
  check (events.length ≤ 4) (.routing "Paired event directory contains extra files.")
  events.foldlM (readEvent root) ⟨[], [], none⟩

/-! ## The shapes of a journal -/

/-- The checkpoint closes the claim of an arm, after the outcome given. -/
def Closes (root : PairedRunRoot) (ordinal : Fin 2) (previous : Option String)
    (checkpoint : PairedRunCheckpoint) : Prop :=
  checkpoint.binding = ⟨root, root.claim ordinal, previous⟩ ∧
    isOutcomeId checkpoint.outcomeRecordId = true

/-- The journals a run goes through, in the order of its slots. -/
inductive Shape (root : PairedRunRoot) : List Event → JournalState → Prop where
  | ready : Shape root [] ⟨[], [], none⟩
  | firstOpen : Shape root [.claim (root.claim 0)]
      ⟨[root.claim 0], [], some (root.claim 0)⟩
  | half (c : PairedRunCheckpoint) (hc : Closes root 0 none c) :
      Shape root [.claim (root.claim 0), .checkpoint c] ⟨[root.claim 0], [c], none⟩
  | secondOpen (c : PairedRunCheckpoint) (hc : Closes root 0 none c) :
      Shape root [.claim (root.claim 0), .checkpoint c, .claim (root.claim 1)]
        ⟨[root.claim 0, root.claim 1], [c], some (root.claim 1)⟩
  | complete (c d : PairedRunCheckpoint) (hc : Closes root 0 none c)
      (hd : Closes root 1 (some c.outcomeRecordId) d) :
      Shape root
        [.claim (root.claim 0), .checkpoint c, .claim (root.claim 1), .checkpoint d]
        ⟨[root.claim 0, root.claim 1], [c, d], none⟩

section Shapes

variable {root : PairedRunRoot}

theorem claim_slot_mem (ordinal : Fin 2) : (root.claim ordinal).slot ∈ root.slots := by
  match ordinal with
  | 0 => exact List.mem_cons_self ..
  | 1 => exact List.mem_cons_of_mem _ (List.mem_cons_self ..)

theorem build_first :
    PairedOutcomeBinding.build root (root.claim 0) none = .ok ⟨root, root.claim 0, none⟩ := by
  have hslot : (root.claim 0).slot ∈ root.slots := claim_slot_mem 0
  exact check_bind_eq_ok.mpr ⟨rfl, check_bind_eq_ok.mpr ⟨hslot, rfl⟩⟩

theorem build_second {id : String} (h : isOutcomeId id = true) :
    PairedOutcomeBinding.build root (root.claim 1) (some id) =
      .ok ⟨root, root.claim 1, some id⟩ := by
  have hslot : (root.claim 1).slot ∈ root.slots := claim_slot_mem 1
  refine check_bind_eq_ok.mpr ⟨rfl, check_bind_eq_ok.mpr ⟨hslot, ?_⟩⟩
  exact check_bind_eq_ok.mpr ⟨⟨id, rfl, h⟩, rfl⟩

variable {c : PairedRunCheckpoint}

theorem validateBinding_first (h : Closes root 0 none c) :
    validateBinding root (root.claim 0) c.binding = .ok () := by
  rw [h.1]
  exact bind_eq_ok.mpr ⟨_, build_first, check_of rfl⟩

variable {d : PairedRunCheckpoint}

theorem validateBinding_second (hc : Closes root 0 none c)
    (h : Closes root 1 (some c.outcomeRecordId) d) :
    validateBinding root (root.claim 1) d.binding = .ok () := by
  rw [h.1]
  exact bind_eq_ok.mpr ⟨_, build_second hc.2, check_of rfl⟩

theorem claim_ne : root.claim 0 ≠ root.claim 1 := fun h =>
  absurd (PairedRunRoot.claim_injective h) (by decide)

theorem readEvent_first : readEvent root ⟨[], [], none⟩ (.claim (root.claim 0)) =
      .ok ⟨[root.claim 0], [], some (root.claim 0)⟩ := by
  refine check_bind_eq_ok.mpr ⟨List.not_mem_nil, check_bind_eq_ok.mpr ⟨rfl, ?_⟩⟩
  exact check_bind_eq_ok.mpr ⟨Nat.zero_lt_two, check_bind_eq_ok.mpr ⟨⟨0, rfl, rfl⟩, rfl⟩⟩

theorem readEvent_half (hc : Closes root 0 none c) :
    readEvent root ⟨[root.claim 0], [], some (root.claim 0)⟩ (.checkpoint c) =
      .ok ⟨[root.claim 0], [c], none⟩ := by
  have hclaim : c.binding.claim = root.claim 0 := by rw [hc.1]
  have hprevious : c.binding.previousRecordId = none := by rw [hc.1]
  refine check_bind_eq_ok.mpr ⟨List.not_mem_nil, check_bind_eq_ok.mpr ⟨hclaim, ?_⟩⟩
  exact bind_eq_ok.mpr ⟨_, validateBinding_first hc, check_bind_eq_ok.mpr ⟨hprevious, rfl⟩⟩

theorem readEvent_second : readEvent root ⟨[root.claim 0], [c], none⟩ (.claim (root.claim 1)) =
      .ok ⟨[root.claim 0, root.claim 1], [c], some (root.claim 1)⟩ := by
  have hnew : root.claim 1 ∉ [root.claim 0] := by
    rw [List.mem_singleton]
    exact claim_ne.symm
  refine check_bind_eq_ok.mpr ⟨hnew, check_bind_eq_ok.mpr ⟨rfl, ?_⟩⟩
  exact check_bind_eq_ok.mpr ⟨Nat.one_lt_two, check_bind_eq_ok.mpr ⟨⟨1, rfl, rfl⟩, rfl⟩⟩

theorem readEvent_complete (hc : Closes root 0 none c)
    (hd : Closes root 1 (some c.outcomeRecordId) d) :
    readEvent root ⟨[root.claim 0, root.claim 1], [c], some (root.claim 1)⟩ (.checkpoint d) =
      .ok ⟨[root.claim 0, root.claim 1], [c, d], none⟩ := by
  have hclaim : d.binding.claim = root.claim 1 := by rw [hd.1]
  have hprevious : d.binding.previousRecordId = some c.outcomeRecordId := by rw [hd.1]
  have hnew : d ∉ [c] := by
    rw [List.mem_singleton]
    rintro rfl
    rw [hc.1] at hclaim
    exact claim_ne hclaim
  refine check_bind_eq_ok.mpr ⟨hnew, check_bind_eq_ok.mpr ⟨hclaim, ?_⟩⟩
  exact bind_eq_ok.mpr ⟨_, validateBinding_second hc hd, check_bind_eq_ok.mpr ⟨hprevious, rfl⟩⟩

theorem Shape.read {events : List Event} {s : JournalState} (h : Shape root events s) :
    readUnlocked root events = .ok s := by
  have hread : events.length ≤ 4 ∧ events.foldlM (readEvent root) ⟨[], [], none⟩ = .ok s := by
    cases h with
    | ready => exact ⟨by decide, rfl⟩
    | firstOpen =>
      refine ⟨by simp, ?_⟩
      rw [List.foldlM_cons, readEvent_first]
      rfl
    | half c hc =>
      refine ⟨by simp, ?_⟩
      rw [List.foldlM_cons, readEvent_first, ok_bind, List.foldlM_cons, readEvent_half hc]
      rfl
    | secondOpen c hc =>
      refine ⟨by simp, ?_⟩
      rw [List.foldlM_cons, readEvent_first, ok_bind, List.foldlM_cons, readEvent_half hc,
        ok_bind, List.foldlM_cons, readEvent_second]
      rfl
    | complete c d hc hd =>
      refine ⟨by simp, ?_⟩
      rw [List.foldlM_cons, readEvent_first, ok_bind, List.foldlM_cons, readEvent_half hc,
        ok_bind, List.foldlM_cons, readEvent_second, ok_bind, List.foldlM_cons,
        readEvent_complete hc hd]
      rfl
  exact check_bind_eq_ok.mpr hread

end Shapes

end LocalMoe.Paired
