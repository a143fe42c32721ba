/-
  What one step of the ledger does to one lease.
-/
import LocalMoe.Lease.Store

namespace LocalMoe.Lease

open Foundation Contracts

variable {ε τ : Type} {S : Stdlib} {coordinationDomainSha256 : String}

/-! ## Small facts about rows -/

@[simp] theorem LeaseRow.withState_leaseId (row : LeaseRow) (state : LeaseState) :
    (row.withState S state).leaseId = row.leaseId := rfl

@[simp] theorem LeaseRow.withState_state (row : LeaseRow) (state : LeaseState) :
    (row.withState S state).state = state := rfl

variable {row : LeaseRow}

theorem LeaseRow.Valid.withState (h : row.Valid S) (state : LeaseState) :
    (row.withState S state).Valid S := by
  refine ⟨h.leaseId, ?_, h.identity, h.integers, h.systemClaim, h.discrete, h.shared, rfl⟩
  have hdigests := h.digests
  simp only [List.forall_mem_cons] at hdigests ⊢
  obtain ⟨h1, h2, h3, h4, h5, h6, h7, -⟩ := hdigests
  exact ⟨h1, h2, h3, h4, h5, h6, h7, S.isSha256_sha256Json _, by simp⟩

/-! ## The scan -/

/-- What the scan leaves of one row: nothing when it reaps the row, the row itself when
its owner lives, and the fenced row otherwise. -/
def settledRow (S : Stdlib) (d : Domain) (files : String → SentinelFile) (row : LeaseRow) :
    Option LeaseRow :=
  if row.state = .unknownBlocking then some row
  else match probeOwner d files row with
    | .ok .dead =>
      if row.state = .reserved then none else some (row.withState S .unknownBlocking)
    | .ok .unknown => some (row.withState S .unknownBlocking)
    | _ => some row

theorem keepsKeys_settledRow (d : Domain) (files : String → SentinelFile) :
    Table.KeepsKeys LeaseRow.leaseId (settledRow S d files) := by
  intro row row' h
  unfold settledRow at h
  split at h
  · cases h; rfl
  · split at h
    · split at h
      · cases h
      · cases h; rfl
    · cases h; rfl
    · cases h; rfl

/-- A row that blocks every later admission. -/
def LeaseRow.Blocks (row : LeaseRow) : Prop := row.state = .unknownBlocking

instance (row : LeaseRow) : Decidable row.Blocks :=
  inferInstanceAs (Decidable (row.state = .unknownBlocking))

variable {d : Domain} {files : String → SentinelFile}

theorem activeRow_eq_ok {scan scan' : Scan} {raw : LeaseRow}
    (h : activeRow S d files scan raw = .ok scan') :
    raw.Valid S ∧ scan'.rows = scan.rows ++ (settledRow S d files raw).toList ∧
      scan'.ownershipUnknown =
        (scan.ownershipUnknown || (settledRow S d files raw).any fun r => decide r.Blocks) := by
  simp only [activeRow, bind_eq_ok, validatedRow_eq_ok] at h
  obtain ⟨row, ⟨hvalid, rfl⟩, h⟩ := h
  refine ⟨hvalid, ?_⟩
  by_cases hstate : row.state = .unknownBlocking
  · rw [if_pos hstate, pure_eq_ok_iff] at h
    subst h
    simp [settledRow, hstate, LeaseRow.Blocks]
  · rw [if_neg hstate, bind_eq_ok] at h
    obtain ⟨owner, howner, h⟩ := h
    cases owner with
    | active =>
      simp only [reduceCtorEq, false_and, or_self, if_false, pure_eq_ok_iff] at h
      subst h
      simp [settledRow, howner, LeaseRow.Blocks, hstate]
    | unknown =>
      simp only [reduceCtorEq, false_and, false_or, if_true, if_false, pure_eq_ok_iff] at h
      subst h
      simp [settledRow, howner, LeaseRow.Blocks, hstate]
    | dead =>
      by_cases hreserved : row.state = .reserved
      · simp only [true_and, if_pos hreserved, pure_eq_ok_iff] at h
        subst h
        simp [settledRow, howner, hreserved]
      · simp only [true_and, if_neg hreserved, true_or, if_true, pure_eq_ok_iff] at h
        subst h
        simp [settledRow, howner, hstate, hreserved, LeaseRow.Blocks]

theorem foldlM_activeRow_eq_ok {rows : List LeaseRow} {scan scan' : Scan}
    (h : rows.foldlM (activeRow S d files) scan = .ok scan') : (∀ row ∈ rows, row.Valid S) ∧
      scan'.rows = scan.rows ++ rows.filterMap (settledRow S d files) ∧
      (scan'.ownershipUnknown = true ↔ scan.ownershipUnknown = true ∨
        ∃ row ∈ rows.filterMap (settledRow S d files), row.Blocks) := by
  induction rows generalizing scan with
  | nil =>
    simp only [List.foldlM_nil, pure_eq_ok_iff] at h
    subst h
    simp
  | cons raw rest ih =>
    rw [List.foldlM_cons, bind_eq_ok] at h
    obtain ⟨mid, hmid, hrest⟩ := h
    obtain ⟨hvalid, hrows, hflag⟩ := activeRow_eq_ok hmid
    obtain ⟨hvalids, hrows', hflag'⟩ := ih hrest
    refine ⟨by simpa using ⟨hvalid, hvalids⟩, ?_, ?_⟩
    · rw [hrows', hrows]
      cases hs : settledRow S d files raw <;> simp [hs]
    · rw [hflag', hflag]
      cases hs : settledRow S d files raw <;> simp [hs, or_assoc]

theorem activeRows_eq_ok {scan : Scan} (h : activeRows S d files = .ok scan) :
    (∀ row ∈ d.rows, row.Valid S) ∧
      scan.rows = d.rows.filterMap (settledRow S d files) ∧
      (scan.ownershipUnknown = true ↔ d.quarantineState = .unknownBlocking ∨
        ∃ row ∈ scan.rows, row.Blocks) := by
  obtain ⟨hvalid, hrows, hflag⟩ := foldlM_activeRow_eq_ok h
  rw [List.nil_append] at hrows
  refine ⟨hvalid, hrows, ?_⟩
  rw [hflag, hrows, Domain.domainIsQuarantined, decide_eq_true_eq]

theorem valid_settledRow {row' : LeaseRow} (hv : row.Valid S)
    (h : settledRow S d files row = some row') : row'.Valid S := by
  unfold settledRow at h
  split at h
  · cases h; exact hv
  · split at h
    · split at h
      · cases h
      · cases h; exact hv.withState _
    · cases h; exact hv.withState _
    · cases h; exact hv

/-! ## Admissions -/

theorem AdmissionReceipt.construct_eq_ok {r r' : AdmissionReceipt} (h : r.construct S = .ok r') :
    ∃ leaseId evaluatedAt, r' = { r with leaseId := leaseId, evaluatedAt := evaluatedAt } := by
  simp only [AdmissionReceipt.construct, bind_eq_ok, pure_eq_ok_iff] at h
  obtain ⟨_, _, _, _, _, _, _, _, _, _, leaseId, _, h⟩ := h
  obtain ⟨_, _, _, _, _, _, evaluatedAt, _, h⟩ := h
  obtain ⟨_, _, _, _, _, _, _, _, _, _, _, _, _, _, _, _, _, _, _, _, h⟩ := h
  obtain ⟨_, _, _, _, _, _, _, _, h⟩ := h
  exact ⟨leaseId, evaluatedAt, h.symm⟩

/-- A row as `_insert_row` stores it. -/
def LeaseRow.sealed (S : Stdlib) (row : LeaseRow) : LeaseRow :=
  { row with rowSha256 := row.rowDigest S }

variable {d' : Domain}

theorem insertRow_eq_ok :
    insertRow S row d = .ok d' ↔ d.row row.leaseId = none ∧ (row.sealed S).Valid S ∧
      d' = { d with rows := d.rows ++ [row.sealed S] } := by
  simp only [insertRow, bind_eq_ok, check_eq_ok, validatedRow_eq_ok, pure_eq_ok_iff,
    Option.isNone_iff_eq_none]
  constructor
  · rintro ⟨_, habsent, _, ⟨hvalid, _⟩, hd'⟩
    exact ⟨habsent, hvalid, hd'.symm⟩
  · rintro ⟨habsent, hvalid, hd'⟩
    exact ⟨(), habsent, _, ⟨hvalid, rfl⟩, hd'.symm⟩

theorem valid_admittedRow (call : AcquireCall ε τ) (claim : CooperativeResourceClaim)
    (snapshot : ResourceSnapshot) (receipt : AdmissionReceipt) (evaluatedAt : String)
    {tick : Nat} (htick : tick ≤ maxSqliteInteger)
    (hevidence : validateEvidence claim snapshot = .ok ()) :
    ((admittedRow S call claim snapshot receipt evaluatedAt tick).sealed S).Valid S := by
  simp only [validateEvidence, bind_eq_ok, check_eq_ok] at hevidence
  obtain ⟨-, ⟨hsnapshot, hclass⟩, -⟩ := hevidence
  obtain ⟨hidentity, hdiscrete, hshared⟩ := claim.pools
  obtain ⟨hsystem, hintegers⟩ := claim.integers
  have hdigests := claim.digests
  refine ⟨?_, ?_, hidentity, ?_, hsystem, hdiscrete, hshared, rfl⟩
  · change isSafeId (strip call.leaseId.text) = true
    rw [call.leaseId.strip_text]
    exact call.leaseId.isSafeId_text
  · simp only [List.forall_mem_cons] at hdigests ⊢
    rw [hsnapshot, hclass] at hdigests
    obtain ⟨h1, h2, h3, h4, -⟩ := hdigests
    exact ⟨S.sha256_hex _, S.isSha256_sha256Json _, S.isSha256_sha256Json _, h1, h2, h3, h4,
      S.isSha256_sha256Json _, by simp⟩
  · simp only [List.forall_mem_cons] at hintegers ⊢
    exact ⟨hintegers.1, hintegers.2.1, hintegers.2.2.1, htick, by simp⟩

/-- What a transaction of `evaluate_and_acquire` did when it returned. -/
structure Admitted (S : Stdlib) (call : AcquireCall ε τ) (d : Domain)
    (evaluation : Evaluation τ) (scan : Scan) (a : Assessment) (receipt : AdmissionReceipt)
    (d' : Domain) : Prop where
  evaluator : call.evaluator = .returned (some evaluation)
  evidence : validateEvidence evaluation.claim evaluation.snapshot = .ok ()
  scanned : activeRows S d call.files = .ok scan
  assessed : assess call.policy evaluation.claim evaluation.snapshot scan = .ok a
  status : receipt.status = a.status
  claim : receipt.claimSha256 = evaluation.claim.digest S
  blocked : a.status ≠ .acquired → d' = { d with rows := scan.rows }
  acquired : a.status = .acquired → ∃ evaluatedAt tick,
    let row := (admittedRow S call evaluation.claim evaluation.snapshot receipt
      evaluatedAt tick).sealed S
    Table.lookup LeaseRow.leaseId scan.rows call.leaseId.text = none ∧ row.Valid S ∧
      d' = { d with rows := scan.rows ++ [row] }

theorem admitClaim_eq_ok {call : AcquireCall ε τ} {receipt : AdmissionReceipt} {context : τ}
    (h : admitClaim S coordinationDomainSha256 call d = .ok ((receipt, context), d')) :
    ∃ evaluation scan a, Admitted S call d evaluation scan a receipt d' ∧
      context = evaluation.context := by
  simp only [admitClaim, bind_eq_ok, mapError_eq_ok] at h
  obtain ⟨evaluation, hevaluation, _, hevidence, scan, hscan, a, ha, evaluatedAt, _,
    receipt', hreceipt, h⟩ := h
  have hevaluator : call.evaluator = .returned (some evaluation) := by
    cases hc : call.evaluator with
    | returned value =>
      cases value with
      | none => simp [hc, evaluate] at hevaluation
      | some e =>
        simp only [hc, evaluate, Except.ok.injEq] at hevaluation
        rw [hevaluation]
    | raised e | interrupted e => simp [hc, evaluate] at hevaluation
  obtain ⟨leaseId, instant, hfields⟩ := AdmissionReceipt.construct_eq_ok hreceipt
  by_cases hacquired : a.status = .acquired
  · simp only [if_pos hacquired, bind_eq_ok, mapError_eq_ok, pure_eq_ok_iff, Prod.mk.injEq] at h
    obtain ⟨tick, _, d'', hinsert, ⟨rfl, rfl⟩, rfl⟩ := h
    obtain ⟨habsent, hvalid, hd''⟩ := insertRow_eq_ok.mp hinsert
    refine ⟨evaluation, scan, a, ⟨hevaluator, hevidence, hscan, ha, ?_, ?_, ?_, ?_⟩, rfl⟩
    · rw [hfields]; rfl
    · rw [hfields]; rfl
    · exact fun hne => absurd hacquired hne
    · exact fun _ => ⟨evaluatedAt, tick, habsent, hvalid, hd''⟩
  · simp only [if_neg hacquired, pure_eq_ok_iff, Prod.mk.injEq] at h
    obtain ⟨⟨rfl, rfl⟩, rfl⟩ := h
    refine ⟨evaluation, scan, a, ⟨hevaluator, hevidence, hscan, ha, ?_, ?_, ?_, ?_⟩, rfl⟩
    · rw [hfields]; rfl
    · rw [hfields]; rfl
    · exact fun _ => rfl
    · exact fun hacq => absurd hacq hacquired

theorem takeOwnerLock_eq_ok {call : AcquireCall ε τ} {sentinel : String}
    (h : takeOwnerLock call d = .ok sentinel) :
    sentinelPath call.leaseId.text = .ok sentinel ∧ sentinel ∉ d.owners := by
  simp only [takeOwnerLock, bind_eq_ok, check_eq_ok, pure_eq_ok_iff] at h
  obtain ⟨s, hs, _, _, _, ⟨hfree, _⟩, rfl⟩ := h
  exact ⟨hs, hfree⟩

theorem evaluateAndAcquire_state (S : Stdlib) (coordinationDomainSha256 : String)
    (call : AcquireCall ε τ) (d : Domain) :
    let d₁ := (evaluateAndAcquire S coordinationDomainSha256 call d).2
    (d₁.rows = d.rows ∧ d₁.quarantineState = d.quarantineState) ∨
      ∃ sentinel receipt context d',
        sentinelPath call.leaseId.text = .ok sentinel ∧ sentinel ∉ d.owners ∧
        admitClaim S coordinationDomainSha256 call (d.hold sentinel) =
          .ok ((receipt, context), d') ∧
        d₁.rows = d'.rows ∧ d₁.quarantineState = d'.quarantineState := by
  intro d₁
  cases hlock : takeOwnerLock call d with
  | error e => exact .inl (by simp [d₁, evaluateAndAcquire, hlock])
  | ok sentinel =>
    obtain ⟨hsentinel, hfree⟩ := takeOwnerLock_eq_ok hlock
    have hd₁ : d₁.rows = (transaction call.fault (d.hold sentinel)
          (admitClaim S coordinationDomainSha256 call (d.hold sentinel))).2.rows ∧
        d₁.quarantineState = (transaction call.fault (d.hold sentinel)
          (admitClaim S coordinationDomainSha256 call (d.hold sentinel))).2.quarantineState := by
      simp only [d₁, evaluateAndAcquire, hlock]
      split
      · rename_i heq
        simp [heq]
      · rename_i heq
        split <;> simp [heq]
    rcases transaction_state call.fault (d.hold sentinel)
      (admitClaim S coordinationDomainSha256 call (d.hold sentinel)) with
      hsame | ⟨⟨receipt, context⟩, d', hbody, hstate⟩
    · refine .inl ?_
      rw [hd₁.1, hd₁.2, hsame]
      exact ⟨rfl, rfl⟩
    · refine .inr ⟨sentinel, receipt, context, d', hsentinel, hfree, hbody, ?_⟩
      rw [hd₁.1, hd₁.2, hstate]
      exact ⟨rfl, rfl⟩

theorem evaluateAndAcquire_eq_ok {call : AcquireCall ε τ} {acquisition : Acquisition τ}
    (h : (evaluateAndAcquire S coordinationDomainSha256 call d).1 = .ok acquisition) :
    ∃ sentinel d', sentinelPath call.leaseId.text = .ok sentinel ∧ sentinel ∉ d.owners ∧
      admitClaim S coordinationDomainSha256 call (d.hold sentinel) =
        .ok ((acquisition.receipt, acquisition.context), d') ∧
      (evaluateAndAcquire S coordinationDomainSha256 call d).2 =
        (if acquisition.receipt.status = .acquired then d' else d'.free sentinel) ∧
      acquisition.handle = (if acquisition.receipt.status = .acquired then
          some ⟨call.leaseId.text, acquisition.receipt.digest S,
            acquisition.receipt.claimSha256, call.token.bytes, sentinel⟩
        else none) := by
  cases hlock : takeOwnerLock call d with
  | error e => simp [evaluateAndAcquire, hlock] at h
  | ok sentinel =>
    obtain ⟨hsentinel, hfree⟩ := takeOwnerLock_eq_ok hlock
    simp only [evaluateAndAcquire, hlock] at h ⊢
    cases htx : transaction call.fault (d.hold sentinel)
        (admitClaim S coordinationDomainSha256 call (d.hold sentinel)) with
    | mk answer d' =>
      cases answer with
      | error failure => simp [htx] at h
      | ok value =>
        obtain ⟨receipt, context⟩ := value
        have hbody := transaction_eq_ok (congrArg Prod.fst htx)
        rw [htx] at hbody
        simp only [htx] at h ⊢
        by_cases hacquired : receipt.status = .acquired
        · simp only [if_pos hacquired, Except.ok.injEq] at h ⊢
          subst h
          exact ⟨sentinel, d', hsentinel, hfree, hbody, by simp [hacquired], by simp [hacquired]⟩
        · simp only [if_neg hacquired, Except.ok.injEq] at h ⊢
          subst h
          exact ⟨sentinel, d', hsentinel, hfree, hbody, by simp [hacquired], by simp [hacquired]⟩

/-! ## Handles -/

/-- The handle carries the token, the claim and the admission of this row. -/
def LeaseHandle.Authenticates (S : Stdlib) (handle : LeaseHandle) (row : LeaseRow) : Prop :=
  row.tokenSha256 = S.sha256 handle.token ∧ row.claimSha256 = handle.claimSha256 ∧
    row.admissionReceiptSha256 = handle.admissionReceiptSha256

theorem compareDigest_eq_ok {a b : String} {found : Bool}
    (h : compareDigest (ε := ε) a b = .ok found) : found = decide (a = b) := by
  unfold compareDigest at h
  split at h
  · exact (Except.ok.inj h).symm
  · cases h

variable {handle : LeaseHandle}

theorem handleMatchesRow_eq_ok {found : Bool}
    (h : handleMatchesRow (ε := ε) handle (S.sha256 handle.token) row = .ok found) :
    found = true ↔ handle.Authenticates S row := by
  unfold handleMatchesRow at h
  obtain ⟨token, htoken, h⟩ := bind_eq_ok.mp h
  have htoken := compareDigest_eq_ok htoken
  unfold LeaseHandle.Authenticates
  cases token with
  | false =>
    rw [if_pos rfl, pure_eq_ok_iff] at h
    have hne : row.tokenSha256 ≠ S.sha256 handle.token := of_decide_eq_false htoken.symm
    simp [← h, hne]
  | true =>
    have heq : row.tokenSha256 = S.sha256 handle.token := of_decide_eq_true htoken.symm
    rw [if_neg (by decide)] at h
    obtain ⟨claim, hclaim, h⟩ := bind_eq_ok.mp h
    have hclaim := compareDigest_eq_ok hclaim
    cases claim with
    | false =>
      rw [if_pos rfl, pure_eq_ok_iff] at h
      have hne : row.claimSha256 ≠ handle.claimSha256 := of_decide_eq_false hclaim.symm
      simp [← h, hne]
    | true =>
      have hceq : row.claimSha256 = handle.claimSha256 := of_decide_eq_true hclaim.symm
      rw [if_neg (by decide)] at h
      rw [compareDigest_eq_ok h, decide_eq_true_eq]
      simp [heq, hceq]

theorem arm_eq_ok {applied : Bool} {reasons : Finset String}
    (h : arm (ε := ε) S handle d = .ok ((applied, reasons), d')) :
    (applied = true ∧ reasons = ∅ ∧ ∃ row, d.row handle.leaseId = some row ∧
        row.state = .reserved ∧ handle.Authenticates S row ∧ row.Valid S ∧
        d' = d.mark S handle.leaseId .deliveryArmed) ∨
      (applied = false ∧ d' = d) := by
  unfold arm at h
  cases hrow : d.row handle.leaseId with
  | none =>
    simp only [hrow, Except.ok.injEq, Prod.mk.injEq] at h
    exact .inr ⟨h.1.1.symm, h.2.symm⟩
  | some raw =>
    simp only [hrow, bind_eq_ok, mapError_eq_ok, validatedRow_eq_ok] at h
    obtain ⟨row, ⟨hvalid, rfl⟩, found, hfound, h⟩ := h
    have hmatch := handleMatchesRow_eq_ok hfound
    have hid : row.leaseId = handle.leaseId := (Table.mem_of_lookup hrow).2
    cases found with
    | false =>
      simp only [if_true, pure_eq_ok_iff, Prod.mk.injEq] at h
      exact .inr ⟨h.1.1.symm, h.2.symm⟩
    | true =>
      simp only [Bool.true_eq_false, if_false] at h
      cases hstate : row.state with
      | deliveryArmed | unknownBlocking =>
        simp only [hstate, pure_eq_ok_iff, Prod.mk.injEq] at h
        exact .inr ⟨h.1.1.symm, h.2.symm⟩
      | reserved =>
        simp only [hstate, pure_eq_ok_iff, Prod.mk.injEq] at h
        obtain ⟨⟨rfl, rfl⟩, rfl⟩ := h
        exact .inl ⟨rfl, rfl, row, rfl, hstate, hmatch.mp rfl, hvalid, by rw [hid]⟩

/-- The delivery outcomes that let a row go. -/
def Settles (state : LeaseState) (delivery : DeliveryStatus) : Prop :=
  state = .reserved ∧ delivery = .notAttempted ∨
    state = .deliveryArmed ∧ delivery = .responseReceived

instance (state : LeaseState) (delivery : DeliveryStatus) :
    Decidable (Settles state delivery) := inferInstanceAs (Decidable (_ ∨ _))

/-- What a transaction of `release` did when it returned. -/
inductive Settled (S : Stdlib) (handle : LeaseHandle) (delivery : DeliveryStatus)
    (d : Domain) : Settlement → Domain → Prop where
  /-- The row is gone and nothing was in doubt. -/
  | absent (row : d.row handle.leaseId = none) (known : delivery ≠ .attemptedUnknown) :
      Settled S handle delivery d ⟨.alreadyAbsent, {"lease_not_found"}, true⟩ d
  /-- The row is gone and the delivery is in doubt: the whole domain is fenced. -/
  | quarantined (row : d.row handle.leaseId = none)
      (unknown : delivery = .attemptedUnknown) :
      Settled S handle delivery d ⟨.unknownBlocking, {"lease_not_found"}, false⟩
        (d.quarantine S handle)
  /-- The handle does not belong to the row. -/
  | foreign (row : LeaseRow) (found : d.row handle.leaseId = some row)
      (other : ¬ handle.Authenticates S row) :
      Settled S handle delivery d ⟨.denied, {"lease_token_mismatch"}, false⟩ d
  /-- The delivery is in doubt: the row is fenced. -/
  | fenced (row : LeaseRow) (found : d.row handle.leaseId = some row)
      (authentic : handle.Authenticates S row) (unknown : delivery = .attemptedUnknown)
      (free : row.state ≠ .unknownBlocking) :
      Settled S handle delivery d ⟨.unknownBlocking, {"delivery_outcome_unknown"}, false⟩
        (d.mark S handle.leaseId .unknownBlocking)
  /-- The delivery is in doubt again. -/
  | fencedAgain (row : LeaseRow) (found : d.row handle.leaseId = some row)
      (authentic : handle.Authenticates S row) (unknown : delivery = .attemptedUnknown)
      (blocked : row.state = .unknownBlocking) :
      Settled S handle delivery d ⟨.unknownBlocking, {"delivery_outcome_unknown"}, false⟩ d
  /-- The row was fenced before. -/
  | sticky (row : LeaseRow) (found : d.row handle.leaseId = some row)
      (authentic : handle.Authenticates S row) (known : delivery ≠ .attemptedUnknown)
      (blocked : row.state = .unknownBlocking) :
      Settled S handle delivery d ⟨.unknownBlocking, {"lease_state_unknown"}, false⟩ d
  /-- The row is deleted. -/
  | released (row : LeaseRow) (found : d.row handle.leaseId = some row)
      (authentic : handle.Authenticates S row) (settles : Settles row.state delivery) :
      Settled S handle delivery d ⟨.released, ∅, true⟩ (d.deleteRow handle.leaseId)
  /-- The row's state and the reported delivery do not fit. -/
  | mismatch (row : LeaseRow) (found : d.row handle.leaseId = some row)
      (authentic : handle.Authenticates S row) (known : delivery ≠ .attemptedUnknown)
      (free : row.state ≠ .unknownBlocking) (unsettled : ¬ Settles row.state delivery) :
      Settled S handle delivery d
        ⟨.denied, {"lease_state_outcome_mismatch"}, false⟩ d

theorem settle_eq_ok {delivery : DeliveryStatus} {s : Settlement}
    (h : settle (ε := ε) S handle delivery d = .ok (s, d')) : Settled S handle delivery d s d' := by
  unfold settle at h
  cases hrow : d.row handle.leaseId with
  | none =>
    simp only [hrow] at h
    by_cases hdelivery : delivery = .attemptedUnknown
    · simp only [if_pos hdelivery, Except.ok.injEq, Prod.mk.injEq] at h
      obtain ⟨rfl, rfl⟩ := h
      exact .quarantined hrow hdelivery
    · simp only [if_neg hdelivery, Except.ok.injEq, Prod.mk.injEq] at h
      obtain ⟨rfl, rfl⟩ := h
      exact .absent hrow hdelivery
  | some raw =>
    simp only [hrow, bind_eq_ok, mapError_eq_ok, validatedRow_eq_ok] at h
    obtain ⟨row, ⟨-, rfl⟩, found, hfound, h⟩ := h
    have hmatch := handleMatchesRow_eq_ok hfound
    have hid : row.leaseId = handle.leaseId := (Table.mem_of_lookup hrow).2
    by_cases hauthentic : handle.Authenticates S row
    · rw [hmatch.mpr hauthentic, if_neg (by decide), hid] at h
      by_cases hdelivery : delivery = .attemptedUnknown
      · simp only [if_pos hdelivery, pure_eq_ok_iff, Prod.mk.injEq] at h
        obtain ⟨rfl, rfl⟩ := h
        by_cases hstate : row.state = .unknownBlocking
        · simpa [hstate] using Settled.fencedAgain (S := S) row hrow hauthentic hdelivery hstate
        · simpa [hstate] using Settled.fenced (S := S) row hrow hauthentic hdelivery hstate
      · rw [if_neg hdelivery] at h
        by_cases hstate : row.state = .unknownBlocking
        · simp only [if_pos hstate, pure_eq_ok_iff, Prod.mk.injEq] at h
          obtain ⟨rfl, rfl⟩ := h
          exact .sticky row hrow hauthentic hdelivery hstate
        · rw [if_neg hstate] at h
          change (if Settles row.state delivery then _ else _) = _ at h
          by_cases hsettles : Settles row.state delivery
          · rw [if_pos hsettles, pure_eq_ok_iff, Prod.mk.injEq] at h
            obtain ⟨rfl, rfl⟩ := h
            exact .released row hrow hauthentic hsettles
          · rw [if_neg hsettles, pure_eq_ok_iff, Prod.mk.injEq] at h
            obtain ⟨rfl, rfl⟩ := h
            exact .mismatch row hrow hauthentic hdelivery hstate hsettles
    · have hfalse : found = false := by
        cases found with
        | false => rfl
        | true => exact absurd (hmatch.mp rfl) hauthentic
      rw [hfalse, if_pos rfl, pure_eq_ok_iff, Prod.mk.injEq] at h
      obtain ⟨rfl, rfl⟩ := h
      exact .foreign row hrow hauthentic

/-! ## One step, one lease -/

/-- Nobody holds the sentinel of the row, and it could be locked. -/
def OwnerDead (d : Domain) (files : String → SentinelFile) (row : LeaseRow) : Prop :=
  ∃ sentinel, sentinelPath row.leaseId = .ok sentinel ∧ sentinel ∉ d.owners ∧
    files sentinel = .regular

theorem ownerDead_of_probe (h : probeOwner d files row = .ok .dead) : OwnerDead d files row := by
  simp only [probeOwner, bind_eq_ok] at h
  obtain ⟨sentinel, hsentinel, _, hregular, h⟩ := h
  by_cases howner : sentinel ∈ d.owners
  · simp [howner] at h
  · rw [if_neg howner] at h
    refine ⟨sentinel, hsentinel, howner, ?_⟩
    cases hfile : files sentinel with
    | regular => rfl
    | unreadable => simp [hfile] at h
    | irregular => simp [hfile, validateOptionalRegularPath] at hregular

theorem settledRow_cases (S : Stdlib) (d : Domain) (files : String → SentinelFile) (row : LeaseRow) :
    settledRow S d files row = some row ∨
      (settledRow S d files row = none ∧ row.state = .reserved ∧ OwnerDead d files row) ∨
      (settledRow S d files row = some (row.withState S .unknownBlocking) ∧
        row.state ≠ .unknownBlocking) := by
  unfold settledRow
  split
  · exact .inl rfl
  · rename_i hstate
    split
    · rename_i hdead
      split
      · rename_i hreserved
        exact .inr (.inl ⟨rfl, hreserved, ownerDead_of_probe hdead⟩)
      · exact .inr (.inr ⟨rfl, hstate⟩)
    · exact .inr (.inr ⟨rfl, hstate⟩)
    · exact .inl rfl

theorem settledRow_ne_none_of_held {sentinel : String}
    (hs : sentinelPath row.leaseId = .ok sentinel) (hheld : sentinel ∈ d.owners) :
    settledRow S d files row ≠ none := by
  intro hnone
  rcases settledRow_cases S d files row with h | ⟨_, _, s, hs', hfree, _⟩ | ⟨h, _⟩
  · rw [h] at hnone; cases hnone
  · rw [hs] at hs'
    cases hs'
    exact hfree hheld
  · rw [h] at hnone; cases hnone

/-- What one step of the ledger does to the row of one lease. -/
inductive Effect (S : Stdlib) (d : Domain) (leaseId : String) :
    Call ε τ → Option LeaseRow → Option LeaseRow → Prop where
  /-- Nothing. -/
  | kept (call : Call ε τ) (row : Option LeaseRow) : Effect S d leaseId call row row
  /-- An admission inserts the row. -/
  | admitted (call : AcquireCall ε τ) (row : LeaseRow) (id : call.leaseId.text = leaseId)
      (reserved : row.state = .reserved) : Effect S d leaseId (.acquire call) none (some row)
  /-- The scan of an admission deletes the row of a dead owner. -/
  | reaped (call : AcquireCall ε τ) (row : LeaseRow) (reserved : row.state = .reserved)
      (dead : OwnerDead d call.files row) :
      Effect S d leaseId (.acquire call) (some row) none
  /-- The scan of an admission fences the row of a dead or unknown owner. -/
  | lost (call : AcquireCall ε τ) (row : LeaseRow) (free : row.state ≠ .unknownBlocking) :
      Effect S d leaseId (.acquire call) (some row)
        (some (row.withState S .unknownBlocking))
  /-- The delivery fence is armed. -/
  | armed (call : ArmCall ε) (row : LeaseRow) (id : call.handle.leaseId = leaseId)
      (authentic : call.handle.Authenticates S row) (reserved : row.state = .reserved) :
      Effect S d leaseId (.arm call) (some row) (some (row.withState S .deliveryArmed))
  /-- A delivery in doubt fences the row. -/
  | fenced (call : ReleaseCall ε) (row : LeaseRow) (id : call.handle.leaseId = leaseId)
      (authentic : call.handle.Authenticates S row)
      (unknown : call.deliveryStatus = .attemptedUnknown)
      (free : row.state ≠ .unknownBlocking) :
      Effect S d leaseId (.release call) (some row)
        (some (row.withState S .unknownBlocking))
  /-- A known delivery outcome lets the row go. -/
  | released (call : ReleaseCall ε) (row : LeaseRow) (id : call.handle.leaseId = leaseId)
      (authentic : call.handle.Authenticates S row)
      (settles : Settles row.state call.deliveryStatus) :
      Effect S d leaseId (.release call) (some row) none

theorem Domain.row_congr (h : d'.rows = d.rows) (leaseId : String) :
    d'.row leaseId = d.row leaseId := by
  unfold Domain.row
  rw [h]

theorem Domain.row_mark (hu : Table.UniqueKeys LeaseRow.leaseId d.rows) (leaseId : String)
    (state : LeaseState) (j : String) : (d.mark S leaseId state).row j =
      if j = leaseId then (d.row j).map (·.withState S state) else d.row j :=
  Table.lookup_update hu leaseId (LeaseRow.withState_leaseId · state) j

theorem Domain.row_deleteRow (hu : Table.UniqueKeys LeaseRow.leaseId d.rows) (leaseId j : String) :
    (d.deleteRow leaseId).row j = if j = leaseId then none else d.row j :=
  Table.lookup_delete hu leaseId j

theorem armDelivery_state (S : Stdlib) (coordinationDomainSha256 : String)
    (call : ArmCall ε) (d : Domain) : (armDelivery S coordinationDomainSha256 call d).2 = d ∨
      ∃ row, d.row call.handle.leaseId = some row ∧ row.state = .reserved ∧
        call.handle.Authenticates S row ∧
        (armDelivery S coordinationDomainSha256 call d).2 =
          d.mark S call.handle.leaseId .deliveryArmed := by
  unfold armDelivery
  split
  · exact .inl rfl
  · have hstate : ∀ {body : Except (Failure ε) ((Bool × Finset String) × Domain)},
        body = arm S call.handle d → (transaction call.fault d body).2 = d ∨
          ∃ row, d.row call.handle.leaseId = some row ∧ row.state = .reserved ∧
            call.handle.Authenticates S row ∧ (transaction call.fault d body).2 =
              d.mark S call.handle.leaseId .deliveryArmed := by
      rintro body rfl
      rcases transaction_state call.fault d (arm S call.handle d) with
        h | ⟨⟨applied, reasons⟩, d', hbody, h⟩
      · exact .inl h
      · rcases arm_eq_ok hbody with ⟨_, _, row, hrow, hres, hauth, _, hd'⟩ | ⟨_, hd'⟩
        · exact .inr ⟨row, hrow, hres, hauth, h.trans hd'⟩
        · exact .inl (h.trans hd')
    have h := hstate rfl
    split
    · rename_i heq
      rwa [heq] at h
    · rename_i heq
      rwa [heq] at h

@[simp] theorem cleanup_rows (call : ReleaseCall ε) (s : Settlement) (d : Domain) :
    (cleanup call s d).2.rows = d.rows ∧
      (cleanup call s d).2.quarantineState = d.quarantineState := by
  unfold cleanup
  split
  · exact ⟨rfl, rfl⟩
  · split
    · exact ⟨rfl, rfl⟩
    · exact ⟨rfl, rfl⟩

theorem release_state (S : Stdlib) (coordinationDomainSha256 : String)
    (call : ReleaseCall ε) (d : Domain) : let d₁ := (release S coordinationDomainSha256 call d).2
    (d₁.rows = d.rows ∧ d₁.quarantineState = d.quarantineState) ∨
      ∃ s d', Settled S call.handle call.deliveryStatus d s d' ∧ d₁.rows = d'.rows ∧
        d₁.quarantineState = d'.quarantineState := by
  intro d₁
  have hstate := transaction_state call.fault d (settle S call.handle call.deliveryStatus d)
  have hd₁ : d₁ = d ∨ d₁.rows = (transaction call.fault d
        (settle S call.handle call.deliveryStatus d)).2.rows ∧
      d₁.quarantineState = (transaction call.fault d
        (settle S call.handle call.deliveryStatus d)).2.quarantineState := by
    simp only [d₁, release]
    split
    · exact .inl rfl
    · split
      · rename_i heq
        rw [heq]
        exact .inr ⟨rfl, rfl⟩
      · rename_i heq
        rw [heq]
        exact .inr (cleanup_rows _ _ _)
  rcases hd₁ with hsame | ⟨hrows, hquarantine⟩
  · rw [hsame]
    exact .inl ⟨rfl, rfl⟩
  · rcases hstate with h | ⟨s, d', hbody, h⟩
    · rw [hrows, hquarantine, h]
      exact .inl ⟨rfl, rfl⟩
    · refine .inr ⟨s, d', settle_eq_ok hbody, ?_, ?_⟩
      · rw [hrows, h]
      · rw [hquarantine, h]

/-! ## The whole table -/

theorem effect_scan (hu : Table.UniqueKeys LeaseRow.leaseId d.rows) (call : AcquireCall ε τ)
    (leaseId : String) (sentinel : String) : Effect S d leaseId (Call.acquire call) (d.row leaseId)
      (Table.lookup LeaseRow.leaseId
        (d.rows.filterMap (settledRow S (d.hold sentinel) call.files)) leaseId) := by
  rw [Table.lookup_filterMap hu (keepsKeys_settledRow _ _)]
  change Effect S d leaseId (Call.acquire call) (d.row leaseId)
    ((d.row leaseId).bind (settledRow S (d.hold sentinel) call.files))
  cases hrow : d.row leaseId with
  | none => exact .kept _ _
  | some row =>
    rw [Option.bind_some]
    rcases settledRow_cases S (d.hold sentinel) call.files row with
      h | ⟨h, hreserved, s, hs, hfree, hregular⟩ | ⟨h, hstate⟩
    · rw [h]
      exact .kept _ _
    · rw [h]
      exact .reaped call row hreserved
        ⟨s, hs, fun hmem => hfree (List.mem_cons_of_mem _ hmem), hregular⟩
    · rw [h]
      exact .lost call row hstate

theorem effect_acquire (hu : Table.UniqueKeys LeaseRow.leaseId d.rows) (call : AcquireCall ε τ)
    (leaseId : String) : Effect S d leaseId (Call.acquire call) (d.row leaseId)
      ((evaluateAndAcquire S coordinationDomainSha256 call d).2.row leaseId) := by
  rcases evaluateAndAcquire_state S coordinationDomainSha256 call d with
    ⟨hrows, -⟩ | ⟨sentinel, receipt, context, d', hsentinel, -, hadmit, hrows, -⟩
  · rw [Domain.row_congr hrows]
    exact .kept _ _
  · rw [Domain.row_congr hrows]
    obtain ⟨evaluation, scan, a, hadmitted, -⟩ := admitClaim_eq_ok hadmit
    obtain ⟨-, hscanned, -⟩ := activeRows_eq_ok hadmitted.scanned
    have hscan := effect_scan (S := S) hu call leaseId sentinel
    by_cases hacquired : a.status = .acquired
    · obtain ⟨evaluatedAt, tick, habsent, -, hd'⟩ := hadmitted.acquired hacquired
      rw [hd']
      change Effect S d leaseId _ _ (Table.lookup LeaseRow.leaseId (scan.rows ++ [_]) leaseId)
      rw [Table.lookup_append_single]
      by_cases hid : call.leaseId.text = leaseId
      · subst hid
        have hnone : d.row call.leaseId.text = none := by
          cases hd : d.row call.leaseId.text with
          | none => rfl
          | some old =>
            exfalso
            rw [hscanned, Domain.hold_rows, Table.lookup_filterMap hu
              (keepsKeys_settledRow _ _)] at habsent
            change (d.row call.leaseId.text).bind _ = none at habsent
            rw [hd, Option.bind_some] at habsent
            have hold : old.leaseId = call.leaseId.text := (Table.mem_of_lookup hd).2
            exact settledRow_ne_none_of_held (hold ▸ hsentinel) List.mem_cons_self habsent
        have hself : ((admittedRow S call evaluation.claim evaluation.snapshot receipt
            evaluatedAt tick).sealed S).leaseId = call.leaseId.text := rfl
        rw [habsent, Option.none_or, if_pos hself, hnone]
        exact .admitted call _ rfl rfl
      · have hne : ((admittedRow S call evaluation.claim evaluation.snapshot receipt
            evaluatedAt tick).sealed S).leaseId ≠ leaseId := hid
        rw [if_neg hne, Option.or_none, hscanned]
        exact hscan
    · rw [Domain.row, hadmitted.blocked hacquired]
      change Effect S d leaseId _ _ (Table.lookup LeaseRow.leaseId scan.rows leaseId)
      rw [hscanned]
      exact hscan

theorem effect_arm (hu : Table.UniqueKeys LeaseRow.leaseId d.rows) (call : ArmCall ε)
    (leaseId : String) : Effect S d leaseId (Call.arm call : Call ε τ) (d.row leaseId)
      ((armDelivery S coordinationDomainSha256 call d).2.row leaseId) := by
  rcases armDelivery_state S coordinationDomainSha256 call d with h | ⟨row, hrow, hreserved, hauth, h⟩
  · rw [h]
    exact .kept _ _
  · rw [h, Domain.row_mark hu]
    by_cases hid : leaseId = call.handle.leaseId
    · rw [if_pos hid, hid, hrow, Option.map_some]
      exact .armed call row rfl hauth hreserved
    · rw [if_neg hid]
      exact .kept _ _

theorem effect_release (hu : Table.UniqueKeys LeaseRow.leaseId d.rows) (call : ReleaseCall ε)
    (leaseId : String) : Effect S d leaseId (Call.release call : Call ε τ) (d.row leaseId)
      ((release S coordinationDomainSha256 call d).2.row leaseId) := by
  rcases release_state S coordinationDomainSha256 call d with ⟨hrows, -⟩ | ⟨s, d', hsettled, hrows, -⟩
  · rw [Domain.row_congr hrows]
    exact .kept _ _
  · rw [Domain.row_congr hrows]
    cases hsettled with
    | absent | quarantined | foreign | fencedAgain | sticky | mismatch => exact .kept _ _
    | fenced row hrow hauth hunknown hfree =>
      rw [Domain.row_mark hu]
      by_cases hid : leaseId = call.handle.leaseId
      · rw [if_pos hid, hid, hrow, Option.map_some]
        exact .fenced call row rfl hauth hunknown hfree
      · rw [if_neg hid]
        exact .kept _ _
    | released row hrow hauth hsettles =>
      rw [Domain.row_deleteRow hu]
      by_cases hid : leaseId = call.handle.leaseId
      · rw [if_pos hid, hid, hrow]
        exact .released call row rfl hauth hsettles
      · rw [if_neg hid]
        exact .kept _ _

theorem effect (S : Stdlib) (coordinationDomainSha256 : String)
    (hu : Table.UniqueKeys LeaseRow.leaseId d.rows) (call : Call ε τ) (leaseId : String) :
    Effect S d leaseId call (d.row leaseId)
      (((ledger S coordinationDomainSha256 ε τ).next d call).row leaseId) := by
  cases call with
  | acquire call =>
    rw [ledger_next_acquire]
    exact effect_acquire hu call leaseId
  | arm call =>
    rw [ledger_next_arm]
    exact effect_arm hu call leaseId
  | release call =>
    rw [ledger_next_release]
    exact effect_release hu call leaseId
  | crash sentinel =>
    rw [ledger_next_crash]
    exact .kept _ _

theorem uniqueKeys_stable : (ledger S coordinationDomainSha256 ε τ).Stable
      fun d => Table.UniqueKeys LeaseRow.leaseId d.rows := by
  intro d call hu
  cases call with
  | acquire call =>
    rw [ledger_next_acquire]
    rcases evaluateAndAcquire_state S coordinationDomainSha256 call d with
      ⟨hrows, -⟩ | ⟨sentinel, receipt, context, d', -, -, hadmit, hrows, -⟩
    · rw [hrows]
      exact hu
    · rw [hrows]
      obtain ⟨evaluation, scan, a, hadmitted, -⟩ := admitClaim_eq_ok hadmit
      obtain ⟨-, hscanned, -⟩ := activeRows_eq_ok hadmitted.scanned
      have hscan : Table.UniqueKeys LeaseRow.leaseId scan.rows := by
        rw [hscanned]
        exact hu.filterMap (keepsKeys_settledRow _ _)
      by_cases hacquired : a.status = .acquired
      · obtain ⟨evaluatedAt, tick, habsent, -, hd'⟩ := hadmitted.acquired hacquired
        rw [hd']
        exact hscan.append_single habsent
      · rw [hadmitted.blocked hacquired]
        exact hscan
  | arm call =>
    rw [ledger_next_arm]
    rcases armDelivery_state S coordinationDomainSha256 call d with
      h | ⟨row, -, -, -, h⟩
    · rw [h]
      exact hu
    · rw [h]
      exact hu.update _ (LeaseRow.withState_leaseId · _)
  | release call =>
    rw [ledger_next_release]
    rcases release_state S coordinationDomainSha256 call d with ⟨hrows, -⟩ | ⟨s, d', hsettled, hrows, -⟩
    · rw [hrows]
      exact hu
    · rw [hrows]
      cases hsettled with
      | fenced => exact hu.update _ (LeaseRow.withState_leaseId · _)
      | released => exact hu.delete _
      | _ => exact hu
  | crash sentinel => exact hu

theorem uniqueKeys_of_reachable (h : (ledger S coordinationDomainSha256 ε τ).Reachable d) :
    Table.UniqueKeys LeaseRow.leaseId d.rows := uniqueKeys_stable.reachable List.nodup_nil h

theorem quarantine_effect (d : Domain) (call : Call ε τ) :
    ((ledger S coordinationDomainSha256 ε τ).next d call).quarantineState = d.quarantineState ∨
      ((ledger S coordinationDomainSha256 ε τ).next d call).quarantineState = .unknownBlocking := by
  cases call with
  | acquire call =>
    rw [ledger_next_acquire]
    rcases evaluateAndAcquire_state S coordinationDomainSha256 call d with
      ⟨-, h⟩ | ⟨sentinel, receipt, context, d', -, -, hadmit, -, h⟩
    · exact .inl h
    · refine .inl (h.trans ?_)
      obtain ⟨evaluation, scan, a, hadmitted, -⟩ := admitClaim_eq_ok hadmit
      by_cases hacquired : a.status = .acquired
      · obtain ⟨evaluatedAt, tick, -, -, hd'⟩ := hadmitted.acquired hacquired
        rw [hd']
        rfl
      · rw [hadmitted.blocked hacquired]
        rfl
  | arm call =>
    rw [ledger_next_arm]
    rcases armDelivery_state S coordinationDomainSha256 call d with
      h | ⟨row, -, -, -, h⟩
    · rw [h]
      exact .inl rfl
    · rw [h]
      exact .inl rfl
  | release call =>
    rw [ledger_next_release]
    rcases release_state S coordinationDomainSha256 call d with ⟨-, h⟩ | ⟨s, d', hsettled, -, h⟩
    · exact .inl h
    · cases hsettled with
      | quarantined => exact .inr h
      | _ => exact .inl h
  | crash sentinel =>
    rw [ledger_next_crash]
    exact .inl rfl

/-! ## Rows and their ancestors -/

/-- A row descends from itself and from its states before. -/
def LeaseRow.DescendsFrom (S : Stdlib) (row ancestor : LeaseRow) : Prop :=
  row = ancestor ∨ ∃ state, row = ancestor.withState S state

theorem Effect.ancestor {d : Domain} {leaseId : String} {call : Call ε τ}
    {before after : Option LeaseRow} (h : Effect S d leaseId call before after)
    {row : LeaseRow} (hrow : after = some row) :
    (∃ ancestor, before = some ancestor ∧ row.DescendsFrom S ancestor) ∨
      ∃ acquire, call = .acquire acquire ∧ acquire.leaseId.text = leaseId ∧ before = none := by
  cases h with
  | kept => exact .inl ⟨row, hrow, .inl rfl⟩
  | admitted acquire _ hid => exact .inr ⟨acquire, rfl, hid, rfl⟩
  | reaped => cases hrow
  | lost _ ancestor | armed _ ancestor
  | fenced _ ancestor => cases hrow; exact .inl ⟨ancestor, rfl, .inr ⟨_, rfl⟩⟩
  | released => cases hrow

theorem rows_next {P : LeaseRow → Prop} (hP : ∀ row state, P row → P (row.withState S state))
    (hu : Table.UniqueKeys LeaseRow.leaseId d.rows) (call : Call ε τ)
    (hnew : ∀ acquire, call = .acquire acquire → ∀ row, d.row acquire.leaseId.text = none →
      ((ledger S coordinationDomainSha256 ε τ).next d call).row acquire.leaseId.text = some row →
      P row) (h : ∀ row ∈ d.rows, P row) :
    ∀ row ∈ ((ledger S coordinationDomainSha256 ε τ).next d call).rows, P row := by
  intro row hrow
  have hu' : Table.UniqueKeys LeaseRow.leaseId
      ((ledger S coordinationDomainSha256 ε τ).next d call).rows :=
    uniqueKeys_stable d call hu
  have hafter := Table.lookup_eq_some_of_mem hu' hrow
  rcases (effect S coordinationDomainSha256 hu call row.leaseId).ancestor hafter with
    ⟨ancestor, hbefore, hdescends⟩ | ⟨acquire, hcall, hid, hbefore⟩
  · have hancestor : P ancestor := h ancestor (Table.mem_of_lookup hbefore).1
    rcases hdescends with rfl | ⟨state, rfl⟩
    · exact hancestor
    · exact hP ancestor state hancestor
  · exact hnew acquire hcall row (hid ▸ hbefore) (hid ▸ hafter)

theorem evaluateAndAcquire_inserted {call : AcquireCall ε τ}
    (hu : Table.UniqueKeys LeaseRow.leaseId d.rows) (hbefore : d.row call.leaseId.text = none)
    (hafter : (evaluateAndAcquire S coordinationDomainSha256 call d).2.row call.leaseId.text =
      some row) : ∃ sentinel evaluation scan a receipt d' evaluatedAt tick,
      Admitted S call (d.hold sentinel) evaluation scan a receipt d' ∧
      a.status = .acquired ∧
      row = (admittedRow S call evaluation.claim evaluation.snapshot receipt evaluatedAt
        tick).sealed S ∧
      row.Valid S ∧
      (evaluateAndAcquire S coordinationDomainSha256 call d).2.rows = scan.rows ++ [row] := by
  rcases evaluateAndAcquire_state S coordinationDomainSha256 call d with
    ⟨hrows, -⟩ | ⟨sentinel, receipt, context, d', -, -, hadmit, hrows, -⟩
  · rw [Domain.row_congr hrows, hbefore] at hafter
    cases hafter
  · obtain ⟨evaluation, scan, a, hadmitted, -⟩ := admitClaim_eq_ok hadmit
    obtain ⟨-, hscanned, -⟩ := activeRows_eq_ok hadmitted.scanned
    have hscan : Table.lookup LeaseRow.leaseId scan.rows call.leaseId.text = none := by
      rw [hscanned, Domain.hold_rows, Table.lookup_filterMap hu (keepsKeys_settledRow _ _)]
      change (d.row call.leaseId.text).bind _ = none
      rw [hbefore, Option.bind_none]
    rw [Domain.row_congr hrows] at hafter
    by_cases hacquired : a.status = .acquired
    · obtain ⟨evaluatedAt, tick, -, hvalid, hd'⟩ := hadmitted.acquired hacquired
      have hlast : row = (admittedRow S call evaluation.claim evaluation.snapshot receipt
          evaluatedAt tick).sealed S := by
        rw [hd'] at hafter
        change Table.lookup LeaseRow.leaseId (scan.rows ++ [_]) _ = some row at hafter
        rw [Table.lookup_append_single, hscan, Option.none_or] at hafter
        split at hafter
        · exact (Option.some.inj hafter).symm
        · cases hafter
      refine ⟨sentinel, evaluation, scan, a, receipt, d', evaluatedAt, tick, hadmitted,
        hacquired, hlast, hlast ▸ hvalid, ?_⟩
      rw [hrows, hd', hlast]
    · rw [hadmitted.blocked hacquired] at hafter
      change Table.lookup LeaseRow.leaseId scan.rows _ = some row at hafter
      rw [hscan] at hafter
      cases hafter

theorem valid_of_reachable (h : (ledger S coordinationDomainSha256 ε τ).Reachable d) :
    ∀ row ∈ d.rows, row.Valid S := by
  have hstable : (ledger S coordinationDomainSha256 ε τ).Stable fun d =>
      (ledger S coordinationDomainSha256 ε τ).Reachable d ∧ ∀ row ∈ d.rows, row.Valid S := by
    apply Machine.stable_and_reachable
    intro d call hd hvalid
    have hu := uniqueKeys_of_reachable hd
    refine rows_next (fun row state hrow => hrow.withState state) hu call ?_ hvalid
    rintro acquire rfl row hbefore hafter
    rw [ledger_next_acquire] at hafter
    obtain ⟨_, _, _, _, _, _, _, _, -, -, -, hrow, -⟩ :=
      evaluateAndAcquire_inserted hu hbefore hafter
    exact hrow
  exact (hstable.reachable ⟨Machine.reachable_init _, by simp [ledger, Domain.empty]⟩ h).2

end LocalMoe.Lease
