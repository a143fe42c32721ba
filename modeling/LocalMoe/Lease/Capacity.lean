/-
  An acquired lease fits into the memory its snapshot saw.
-/
import LocalMoe.Lease.Effects
import LocalMoe.Contracts.Sha256

namespace LocalMoe.Lease

open Foundation Contracts

variable {ε τ : Type} {S : Stdlib} {coordinationDomainSha256 : String}

/-! ## What a domain holds -/

namespace Domain

def systemClaimed (d : Domain) : Nat := (d.rows.map LeaseRow.systemClaimBytes).sum

def largestReserve (d : Domain) : Nat := maxOf 0 (d.rows.map LeaseRow.safetyReserveBytes)

/-- Accelerator bytes claimed by all active rows. -/
def acceleratorClaimed (d : Domain) : Nat :=
  (d.rows.map LeaseRow.acceleratorClaimBytes).sum

def discreteRows (d : Domain) : List LeaseRow := d.rows.filter fun row => row.pool = .discrete

def largestDiscreteReserve (d : Domain) : Nat :=
  maxOf 0 (d.discreteRows.map LeaseRow.safetyReserveBytes)

/-- All discrete rows carry one and the same accelerator identity. -/
def SingleAccelerator (d : Domain) : Prop :=
  ∃ identity : String, ∀ row ∈ d.rows, row.pool = .discrete →
    row.acceleratorIdentitySha256 = some identity

/-- The claims and the reserve fit into what a snapshot saw. -/
structure WithinCapacity (d : Domain) (claim : CooperativeResourceClaim)
    (snapshot : ResourceSnapshot) : Prop where
  system : ∃ available limit, snapshot.availableMemoryBytes = some available ∧
    snapshot.effectiveMemoryLimitBytes = some limit ∧
    d.systemClaimed + d.largestReserve ≤ min available limit
  accelerator : claim.pool = .discrete → ∃ available,
    snapshot.acceleratorMemoryAvailableBytes = some available ∧
    d.acceleratorClaimed + d.largestDiscreteReserve ≤ available

end Domain

/-! ## Accounting -/

theorem foldlM_checkedSum_eq_ok {values : List Nat} {start total : Nat}
    (h : values.foldlM (fun total value =>
      if maxSqliteInteger < total + value then Except.error (⟨"lease_accounting_invalid",
          "Lease byte accounting overflowed."⟩ : StoreError)
      else .ok (total + value)) start = .ok total) : total = start + values.sum := by
  induction values generalizing start with
  | nil =>
    simp only [List.foldlM_nil, pure_eq_ok_iff] at h
    simp [h]
  | cons value rest ih =>
    rw [List.foldlM_cons, bind_eq_ok] at h
    obtain ⟨next, hnext, hrest⟩ := h
    split at hnext
    · cases hnext
    · cases hnext
      rw [ih hrest, List.sum_cons, Nat.add_assoc]

theorem checkedSum_eq_ok {values : List Nat} {total : Nat}
    (h : checkedSum values = .ok total) : total = values.sum := by
  have := foldlM_checkedSum_eq_ok h
  rwa [Nat.zero_add] at this

theorem maxOf_le {first bound : Nat} {rest : List Nat} :
    maxOf first rest ≤ bound ↔ first ≤ bound ∧ ∀ n ∈ rest, n ≤ bound := by
  unfold maxOf
  induction rest generalizing first with
  | nil => simp
  | cons n rest ih => simp [ih, and_assoc]

theorem sum_acceleratorBytes_filter (rows : List LeaseRow) :
    ((rows.filter fun row => row.acceleratorClaimBytes ≠ 0).map
      LeaseRow.acceleratorClaimBytes).sum = (rows.map LeaseRow.acceleratorClaimBytes).sum := by
  induction rows with
  | nil => rfl
  | cons row rest ih =>
    by_cases h : row.acceleratorClaimBytes = 0
    · rw [List.filter_cons_of_neg (by simpa using h), ih, List.map_cons, List.sum_cons, h,
        Nat.zero_add]
    · rw [List.filter_cons_of_pos (by simpa using h), List.map_cons, List.map_cons,
        List.sum_cons, List.sum_cons, ih]

variable {claim : CooperativeResourceClaim}

theorem acceleratorTotal_eq_ok {rows : List LeaseRow} {total : Nat}
    (hpool : claim.pool = .discrete) (h : acceleratorTotal rows claim = .ok (total, false)) :
    (∀ row ∈ rows, row.acceleratorClaimBytes ≠ 0 →
      row.acceleratorIdentitySha256 = claim.acceleratorIdentitySha256) ∧
      total = (rows.map LeaseRow.acceleratorClaimBytes).sum := by
  unfold acceleratorTotal at h
  rw [if_neg (not_not_intro hpool)] at h
  simp only [bind_eq_ok, pure_eq_ok_iff, Prod.mk.injEq] at h
  obtain ⟨sum, hsum, rfl, hconflict⟩ := h
  have hidentity : ∀ row ∈ rows, row.acceleratorClaimBytes ≠ 0 →
      row.acceleratorIdentitySha256 = claim.acceleratorIdentitySha256 := by
    intro row hrow hbytes
    rw [List.any_eq_false] at hconflict
    have hrow' := hconflict row (List.mem_filter.mpr ⟨hrow, by simpa using hbytes⟩)
    simpa using hrow'
  refine ⟨hidentity, ?_⟩
  have hall : (rows.filter fun row => row.acceleratorClaimBytes ≠ 0).filter
      (fun row => row.acceleratorIdentitySha256 = claim.acceleratorIdentitySha256) =
      rows.filter fun row => row.acceleratorClaimBytes ≠ 0 := by
    rw [List.filter_eq_self]
    intro row hrow
    obtain ⟨hmem, hbytes⟩ := List.mem_filter.mp hrow
    simpa using hidentity row hmem (by simpa using hbytes)
  rw [checkedSum_eq_ok hsum, hall, sum_acceleratorBytes_filter]

variable {a : Assessment}

theorem assess_acquired {policy : CooperativeResourceLeasePolicy} {snapshot : ResourceSnapshot}
    {scan : Scan} (h : assess policy claim snapshot scan = .ok a)
    (hacquired : a.status = .acquired) : scan.ownershipUnknown = false ∧
      (∃ available, systemAvailable snapshot = some available ∧
        (scan.rows.map LeaseRow.systemClaimBytes).sum + claim.systemClaimBytes +
          maxOf claim.safetyReserveBytes (scan.rows.map LeaseRow.safetyReserveBytes) ≤ available) ∧
      (claim.pool = .discrete → (∀ row ∈ scan.rows, row.acceleratorClaimBytes ≠ 0 →
          row.acceleratorIdentitySha256 = claim.acceleratorIdentitySha256) ∧
        ∃ available, snapshot.acceleratorMemoryAvailableBytes = some available ∧
          (scan.rows.map LeaseRow.acceleratorClaimBytes).sum + claim.acceleratorClaimBytes +
            maxOf claim.safetyReserveBytes ((scan.rows.filter fun row => claim.pool = .discrete ∧
                0 < row.acceleratorClaimBytes ∧
                row.acceleratorIdentitySha256 = claim.acceleratorIdentitySha256).map
                  LeaseRow.safetyReserveBytes) ≤ available) := by
  simp only [assess, bind_eq_ok, pure_eq_ok_iff] at h
  obtain ⟨activeSystem, hactive, ⟨total, conflict⟩, htotal, required, hrequired,
    requiredAccelerator, hrequiredAccelerator, rfl⟩ := h
  simp only [admissionStatus_eq_acquired, Finset.union_eq_empty, reasonIf_eq_empty,
    not_exists, not_and, not_or, Option.mem_def, Bool.not_eq_true] at hacquired
  obtain ⟨⟨⟨⟨⟨hunknown, hconflict⟩, hcapacity, hacceleratorKnown⟩, -⟩, hsystem⟩,
    haccelerator⟩ := hacquired
  subst hconflict
  refine ⟨hunknown, ?_, ?_⟩
  · obtain ⟨available, havailable⟩ := Option.ne_none_iff_exists'.mp hcapacity
    refine ⟨available, havailable, ?_⟩
    have hle := hsystem available havailable
    rw [checkedSum_eq_ok hrequired, checkedSum_eq_ok hactive] at hle
    simp only [List.sum_cons, List.sum_nil] at hle
    omega
  · intro hpool
    obtain ⟨hidentity, htotal⟩ := acceleratorTotal_eq_ok hpool htotal
    refine ⟨hidentity, ?_⟩
    have hknown := hacceleratorKnown hpool
    have hle := haccelerator hpool
    rw [if_pos hpool] at hknown
    obtain ⟨available, havailable⟩ := Option.ne_none_iff_exists'.mp hknown
    refine ⟨available, havailable, ?_⟩
    have hle := hle available (by rw [if_pos hpool, havailable])
    rw [checkedSum_eq_ok hrequiredAccelerator, htotal] at hle
    simp only [List.sum_cons, List.sum_nil, if_pos hpool] at hle
    omega

/-! ## The invariant -/

theorem singleAccelerator_of_reachable {d : Domain}
    (h : (ledger S coordinationDomainSha256 ε τ).Reachable d) : d.SingleAccelerator := by
  have hstable : (ledger S coordinationDomainSha256 ε τ).Stable fun d =>
      (ledger S coordinationDomainSha256 ε τ).Reachable d ∧ d.SingleAccelerator := by
    apply Machine.stable_and_reachable
    rintro d call hd ⟨identity, hidentity⟩
    have hu := uniqueKeys_of_reachable hd
    by_cases hnew : ∃ acquire row, call = .acquire acquire ∧
        d.row acquire.leaseId.text = none ∧
        (evaluateAndAcquire S coordinationDomainSha256 acquire d).2.row
          acquire.leaseId.text = some row ∧ row.pool = .discrete
    · obtain ⟨acquire, row, rfl, hbefore, hafter, hpool⟩ := hnew
      obtain ⟨sentinel, evaluation, scan, a, receipt, d', evaluatedAt, tick, hadmitted,
        hacquired, hrow, hvalid, hrows⟩ := evaluateAndAcquire_inserted hu hbefore hafter
      have hclaim : evaluation.claim.pool = .discrete := by
        rw [hrow] at hpool
        exact hpool
      obtain ⟨-, -, hdiscrete⟩ := assess_acquired hadmitted.assessed hacquired
      obtain ⟨hsame, -⟩ := hdiscrete hclaim
      have hsome : row.acceleratorIdentitySha256 ≠ none := (hvalid.discrete hpool).2
      obtain ⟨claimed, hclaimed⟩ := Option.ne_none_iff_exists'.mp hsome
      have hrowIdentity : row.acceleratorIdentitySha256 =
          evaluation.claim.acceleratorIdentitySha256 := by
        rw [hrow]
        rfl
      obtain ⟨hvalidRows, hscanned, -⟩ := activeRows_eq_ok hadmitted.scanned
      refine ⟨claimed, ?_⟩
      rw [ledger_next_acquire, hrows]
      intro other hother hotherPool
      rcases List.mem_append.mp hother with hscan | hlast
      · have hotherValid : other.Valid S := by
          rw [hscanned] at hscan
          obtain ⟨raw, hraw, hsettled⟩ := List.mem_filterMap.mp hscan
          exact valid_settledRow (hvalidRows raw hraw) hsettled
        have hbytes := (hotherValid.discrete hotherPool).1
        rw [hsame other hscan hbytes, ← hrowIdentity, hclaimed]
      · rw [List.mem_singleton.mp hlast, hclaimed]
    · refine ⟨identity, rows_next (P := fun row => row.pool = .discrete →
        row.acceleratorIdentitySha256 = some identity) (fun row state hrow => hrow) hu call
        ?_ hidentity⟩
      rintro acquire rfl row hbefore hafter hpool
      rw [ledger_next_acquire] at hafter
      exact absurd ⟨acquire, row, rfl, hbefore, hafter, hpool⟩ hnew
  refine (hstable.reachable ⟨Machine.reachable_init _, "", ?_⟩ h).2
  simp [ledger, Domain.empty]

/-! ## Capacity -/

theorem le_maxOf {first n : Nat} {rest : List Nat} (h : n ∈ rest) : n ≤ maxOf first rest :=
  (maxOf_le.mp le_rfl).2 n h

theorem first_le_maxOf (first : Nat) (rest : List Nat) : first ≤ maxOf first rest :=
  (maxOf_le.mp le_rfl).1

theorem systemAvailable_eq_some {snapshot : ResourceSnapshot} {available : Nat}
    (h : systemAvailable snapshot = some available) :
    ∃ free limit, snapshot.availableMemoryBytes = some free ∧
      snapshot.effectiveMemoryLimitBytes = some limit ∧ available = min free limit := by
  unfold systemAvailable at h
  split at h
  · rename_i free limit hfree hlimit
    exact ⟨free, limit, hfree, hlimit, (Option.some.inj h).symm⟩
  · cases h

theorem withinCapacity_of_admitted {call : AcquireCall ε τ} {d d' : Domain}
    {evaluation : Evaluation τ} {scan : Scan} {receipt : AdmissionReceipt}
    (h : Admitted S call d evaluation scan a receipt d') (hacquired : a.status = .acquired) :
    d'.WithinCapacity evaluation.claim evaluation.snapshot := by
  obtain ⟨-, ⟨available, havailable, hsystem⟩, hdiscrete⟩ := assess_acquired h.assessed hacquired
  obtain ⟨evaluatedAt, tick, -, -, hd'⟩ := h.acquired hacquired
  have hrows : d'.rows = scan.rows ++ [(admittedRow S call evaluation.claim
      evaluation.snapshot receipt evaluatedAt tick).sealed S] := by rw [hd']
  constructor
  · obtain ⟨free, limit, hfree, hlimit, rfl⟩ := systemAvailable_eq_some havailable
    refine ⟨free, limit, hfree, hlimit, ?_⟩
    have hclaimed : d'.systemClaimed =
        (scan.rows.map LeaseRow.systemClaimBytes).sum + evaluation.claim.systemClaimBytes := by
      rw [Domain.systemClaimed, hrows]
      simp [LeaseRow.sealed, admittedRow]
    have hreserve : d'.largestReserve ≤ maxOf evaluation.claim.safetyReserveBytes
        (scan.rows.map LeaseRow.safetyReserveBytes) := by
      rw [Domain.largestReserve, hrows, maxOf_le, List.map_append]
      refine ⟨Nat.zero_le _, fun n hn => ?_⟩
      rcases List.mem_append.mp hn with hold | hnew
      · exact le_maxOf hold
      · rw [List.map_singleton, List.mem_singleton] at hnew
        rw [hnew]
        exact first_le_maxOf _ _
    omega
  · intro hpool
    obtain ⟨hidentity, available, havailable, haccelerator⟩ := hdiscrete hpool
    refine ⟨available, havailable, ?_⟩
    have hclaimed : d'.acceleratorClaimed = (scan.rows.map LeaseRow.acceleratorClaimBytes).sum
        + evaluation.claim.acceleratorClaimBytes := by
      rw [Domain.acceleratorClaimed, hrows]
      simp [LeaseRow.sealed, admittedRow]
    have hreserve : d'.largestDiscreteReserve ≤ maxOf evaluation.claim.safetyReserveBytes
        ((scan.rows.filter fun row => evaluation.claim.pool = .discrete ∧
          0 < row.acceleratorClaimBytes ∧ row.acceleratorIdentitySha256 =
            evaluation.claim.acceleratorIdentitySha256).map LeaseRow.safetyReserveBytes) := by
      rw [Domain.largestDiscreteReserve, maxOf_le]
      refine ⟨Nat.zero_le _, fun n hn => ?_⟩
      obtain ⟨row, hrow, rfl⟩ := List.mem_map.mp hn
      rw [Domain.discreteRows, List.mem_filter, hrows, decide_eq_true_eq] at hrow
      obtain ⟨hmem, hrowPool⟩ := hrow
      rcases List.mem_append.mp hmem with hold | hnew
      · obtain ⟨hvalidRows, hscanned, -⟩ := activeRows_eq_ok h.scanned
        have hvalid : row.Valid S := by
          rw [hscanned] at hold
          obtain ⟨raw, hraw, hsettled⟩ := List.mem_filterMap.mp hold
          exact valid_settledRow (hvalidRows raw hraw) hsettled
        have hbytes := (hvalid.discrete hrowPool).1
        apply le_maxOf
        apply List.mem_map_of_mem
        rw [List.mem_filter, decide_eq_true_eq]
        exact ⟨hold, hpool, Nat.pos_of_ne_zero hbytes, hidentity row hold hbytes⟩
      · rw [List.mem_singleton.mp hnew]
        exact first_le_maxOf _ _
    omega

/-! ## Completeness of one admission -/

theorem evaluateAndAcquire_of_fits {call : AcquireCall ε τ} {d : Domain} {sentinel : String}
    {evaluation : Evaluation τ} {scan : Scan} {evaluatedAt : String} {tick : Int}
    {receipt : AdmissionReceipt} (hlock : takeOwnerLock call d = .ok sentinel)
    (hfault : call.fault = .none) (hevaluator : call.evaluator = .returned (some evaluation))
    (hevidence : validateEvidence evaluation.claim evaluation.snapshot = .ok ())
    (hscan : activeRows S (d.hold sentinel) call.files = .ok scan)
    (hassess : assess call.policy evaluation.claim evaluation.snapshot scan = .ok a)
    (hacquired : a.status = .acquired) (hclock : call.clock = .returned evaluatedAt)
    (hreceipt : (admissionReceipt S coordinationDomainSha256 call evaluation.claim
      evaluation.snapshot scan a evaluatedAt).construct S = .ok receipt)
    (htick : call.monotonicClock = .returned tick) (hrange : 0 ≤ tick ∧ tick ≤ maxSqliteInteger)
    (habsent : Table.lookup LeaseRow.leaseId scan.rows call.leaseId.text = none) :
    ∃ acquisition, (evaluateAndAcquire S coordinationDomainSha256 call d).1 =
      .ok acquisition ∧ acquisition.receipt.status = .acquired := by
  obtain ⟨leaseId, instant, hfields⟩ := AdmissionReceipt.construct_eq_ok hreceipt
  have hstatus : receipt.status = .acquired := by
    rw [hfields]
    exact hacquired
  let row := admittedRow S call evaluation.claim evaluation.snapshot receipt evaluatedAt tick.toNat
  let scanned : Domain := { d.hold sentinel with rows := scan.rows }
  have hinsert : insertRow S row scanned =
      .ok { scanned with rows := scanned.rows ++ [row.sealed S] } :=
    insertRow_eq_ok.mpr ⟨habsent, valid_admittedRow call evaluation.claim evaluation.snapshot
      receipt evaluatedAt (by omega) hevidence, rfl⟩
  have hadmit : admitClaim S coordinationDomainSha256 call (d.hold sentinel) =
      .ok ((receipt, evaluation.context),
        { scanned with rows := scanned.rows ++ [row.sealed S] }) := by
    simp only [admitClaim, hevaluator, evaluate, hevidence, hscan, hassess, hclock, validatedClock,
      readClock, hreceipt, validatedMonotonicClock, htick, hrange, hacquired,
      Except.mapError, ok_bind, if_true, and_self, pure_bind]
    rw [hinsert]
    rfl
  refine ⟨⟨receipt, some ⟨call.leaseId.text, receipt.digest S, receipt.claimSha256,
    call.token.bytes, sentinel⟩, evaluation.context⟩, ?_, hstatus⟩
  simp only [evaluateAndAcquire, hlock, hfault, hadmit, transaction, if_pos hstatus]

/-! ## A first admission -/

def sampleDigest : String :=
  "aaaaaaaaaaaaaaaaaaaaaaaaaaaaaaaaaaaaaaaaaaaaaaaaaaaaaaaaaaaaaaaa"

theorem isSha256_sampleDigest : isSha256 sampleDigest = true :=
  isSha256_ofList (by decide +kernel)

theorem sha_sampleDigest (label : String) : sha sampleDigest label = .ok sampleDigest :=
  requireSha256_eq_ok.mpr ⟨isSha256_sampleDigest, rfl⟩

def sampleClaim : CooperativeResourceClaim where
  previewSha256 := sampleDigest
  candidateSha256 := sampleDigest
  passportSha256 := sampleDigest
  resourceSnapshotSha256 := sampleDigest
  resourceClassSha256 := sampleDigest
  catalogSha256 := sampleDigest
  profileSha256 := sampleDigest
  pool := .discrete
  systemClaimBytes := 4
  acceleratorClaimBytes := 8
  acceleratorIdentitySha256 := some sampleDigest
  safetyReserveBytes := 1
  accepted := by
    simp only [ClaimFields.postInit, optionalSha, sha_sampleDigest, ok_bind]
    rfl

def sampleSnapshot : ResourceSnapshot where
  memoryTopology := .dedicated
  availableMemoryBytes := some 10
  effectiveMemoryLimitBytes := some 12
  acceleratorKind := .discrete
  acceleratorIdentitySha256 := some sampleDigest
  acceleratorMemoryAvailableBytes := some 9
  resourceClassSha256 := sampleDigest
  digest := sampleDigest

def sampleTime : DateTime := ⟨⟨2026, 1, 1, 0, 0, 0⟩, by decide⟩

def sampleAcquire : AcquireCall Empty Unit where
  policy := {}
  leaseId := ⟨"0123456789abcdef0123456789abcdef", by decide⟩
  token := ⟨List.replicate 32 7, by decide⟩
  evaluator := .returned (some ⟨sampleClaim, sampleSnapshot, ()⟩)
  clock := .returned sampleTime.isoformat
  monotonicClock := .returned 5
  files := fun _ => .regular
  fault := .none

theorem sampleAcquire_acquired (S : Stdlib) :
    ∃ acquisition, (evaluateAndAcquire S sampleDigest sampleAcquire .empty).1 =
      .ok acquisition ∧ acquisition.receipt.status = .acquired := by
  have hassess : assess sampleAcquire.policy sampleClaim sampleSnapshot ⟨[], 0, false⟩ =
      .ok ⟨0, 0, 1, 1, some 10, some 9, .acquired, ∅⟩ := by decide +kernel
  obtain ⟨receipt, hreceipt⟩ : ∃ receipt, (admissionReceipt S sampleDigest sampleAcquire
      sampleClaim sampleSnapshot ⟨[], 0, false⟩ ⟨0, 0, 1, 1, some 10, some 9, .acquired, ∅⟩
      sampleTime.isoformat).construct S = .ok receipt := by
    have hid : requireSafeId "0123456789abcdef0123456789abcdef" "lease_id" =
      .ok "0123456789abcdef0123456789abcdef" := by decide +kernel
    simp [AdmissionReceipt.construct, admissionReceipt, sha, requireSha256, optionalSha,
      optionalIdentifier, identifier, requireIdentifiers, isSha256_sampleDigest, sampleAcquire,
      sampleSnapshot, hid, S.sha256_hex, CooperativeResourceLeasePolicy.digest,
      CooperativeResourceClaim.digest]
    exact ⟨_, rfl⟩
  have hlock : takeOwnerLock sampleAcquire .empty =
      .ok "0123456789abcdef0123456789abcdef" := by decide +kernel
  exact evaluateAndAcquire_of_fits hlock rfl rfl (by decide +kernel) rfl hassess rfl rfl hreceipt
    rfl (by decide +kernel) rfl

/-- In every run of the ledger, an acquired lease is committed within the capacity its
snapshot saw, and all discrete rows name one accelerator. -/
theorem acquired_within_capacity (S : Stdlib) (coordinationDomainSha256 : String)
    (calls : List (Call ε τ)) : let M := ledger S coordinationDomainSha256 ε τ
    let d := M.exec M.init calls
    d.SingleAccelerator ∧
      ∀ call acquisition, M.output d (.acquire call) = .acquire (.ok acquisition) →
        acquisition.receipt.status = .acquired →
        ∃ evaluation, call.evaluator = .returned (some evaluation) ∧
          (M.next d (.acquire call)).WithinCapacity evaluation.claim evaluation.snapshot := by
  intro M d
  refine ⟨singleAccelerator_of_reachable ⟨calls, rfl⟩, ?_⟩
  intro call acquisition hanswer hacquired
  rw [ledger_output_acquire] at hanswer
  have hok := Answer.acquire.inj hanswer
  obtain ⟨sentinel, d', -, -, hadmit, hstate, -⟩ := evaluateAndAcquire_eq_ok hok
  obtain ⟨evaluation, scan, a, hadmitted, -⟩ := admitClaim_eq_ok hadmit
  refine ⟨evaluation, hadmitted.evaluator, ?_⟩
  have hnext : M.next d (.acquire call) = d' := by
    rw [ledger_next_acquire, hstate, if_pos hacquired]
  rw [hnext]
  exact withinCapacity_of_admitted hadmitted (hadmitted.status ▸ hacquired)

theorem sampleAcquire_within_capacity : ((ledger Stdlib.cpython sampleDigest Empty Unit).exec .empty
      [.acquire sampleAcquire]).WithinCapacity sampleClaim sampleSnapshot := by
  -- The run does not depend on the digests; a variable keeps them from being computed.
  generalize Stdlib.cpython = S
  obtain ⟨acquisition, hok, hacquired⟩ := sampleAcquire_acquired S
  have hanswer : (ledger S sampleDigest Empty Unit).output .empty (.acquire sampleAcquire) =
      .acquire (.ok acquisition) := by
    rw [ledger_output_acquire, hok]
  obtain ⟨-, h⟩ := acquired_within_capacity (ε := Empty) (τ := Unit) S sampleDigest []
  obtain ⟨evaluation, hevaluation, hwithin⟩ := h sampleAcquire acquisition hanswer hacquired
  cases hevaluation
  rw [Machine.exec_cons, Machine.exec_nil]
  exact hwithin

end LocalMoe.Lease
