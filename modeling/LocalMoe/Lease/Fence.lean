/-
  The delivery fence.
-/
import LocalMoe.Lease.Lifecycle
import LocalMoe.Lease.Capacity

namespace LocalMoe.Lease

open Foundation Contracts

variable {ε τ : Type} {S : Stdlib} {coordinationDomainSha256 : String}

/-! ## Removal -/

variable {d : Domain} {leaseId : String} {row : LeaseRow}

theorem removed_cases (hu : Table.UniqueKeys LeaseRow.leaseId d.rows) {call : Call ε τ}
    (hrow : d.row leaseId = some row)
    (hgone : ((ledger S coordinationDomainSha256 ε τ).next d call).row leaseId = none) :
    (∃ release, call = .release release ∧ release.handle.leaseId = leaseId ∧
        release.handle.Authenticates S row ∧ Settles row.state release.deliveryStatus) ∨
      ∃ acquire, call = .acquire acquire ∧ row.state = .reserved ∧
        OwnerDead d acquire.files row := by
  have h := effect S coordinationDomainSha256 hu call leaseId
  rw [hrow, hgone] at h
  cases h with
  | reaped acquire _ hreserved hdead => exact .inr ⟨acquire, rfl, hreserved, hdead⟩
  | released release _ hid hauth hsettles =>
    exact .inl ⟨release, rfl, hid, hauth, hsettles⟩

theorem armed_until_response (hu : Table.UniqueKeys LeaseRow.leaseId d.rows)
    (hrow : d.row leaseId = some row) (harmed : row.state ≠ .reserved) (calls : List (Call ε τ)) :
    let M := ledger S coordinationDomainSha256 ε τ
    (∃ row', (M.exec d calls).row leaseId = some row' ∧ row'.state ≠ .reserved) ∨
      ∃ before release after row', calls = before ++ .release release :: after ∧
        (M.exec d before).row leaseId = some row' ∧ row'.state = .deliveryArmed ∧
        release.handle.leaseId = leaseId ∧ release.handle.Authenticates S row' ∧
        release.deliveryStatus = .responseReceived := by
  intro M
  induction calls generalizing d row with
  | nil => exact .inl ⟨row, hrow, harmed⟩
  | cons call rest ih =>
    have hu' : Table.UniqueKeys LeaseRow.leaseId (M.next d call).rows :=
      uniqueKeys_stable d call hu
    cases hnext : (M.next d call).row leaseId with
    | none =>
      rcases removed_cases hu hrow hnext with
        ⟨release, rfl, hid, hauth, hsettles⟩ | ⟨_, _, hreserved, _⟩
      · rcases hsettles with ⟨hreserved, -⟩ | ⟨hstate, hresponse⟩
        · exact absurd hreserved harmed
        · exact .inr ⟨[], release, rest, row, rfl, hrow, hstate, hid, hauth, hresponse⟩
      · exact absurd hreserved harmed
    | some row' =>
      have hstate : row'.state ≠ .reserved := by
        intro hreserved
        have hmoves := moves_next S coordinationDomainSha256 hu call leaseId
        change Moves ((d.row leaseId).map LeaseRow.state)
          (((M.next d call).row leaseId).map LeaseRow.state) at hmoves
        rw [hrow, hnext, Option.map_some, Option.map_some, hreserved] at hmoves
        rcases hmoves with heq | ⟨cause, harrow⟩
        · exact harmed (Option.some.inj heq)
        · exact absurd harrow.reserved.2 (Option.some_ne_none _)
      rcases ih hu' hnext hstate with
        hstays | ⟨before, release, after, last, rfl, hlast, h⟩
      · exact .inl hstays
      · exact .inr ⟨call :: before, release, after, last, rfl, hlast, h⟩

/-! ## The fence is sticky -/

/-- Some row is in doubt, or the whole domain is. -/
def Domain.Fenced (d : Domain) : Prop :=
  d.quarantineState = .unknownBlocking ∨ ∃ row ∈ d.rows, row.Blocks

theorem blocked_next (hu : Table.UniqueKeys LeaseRow.leaseId d.rows)
    (hrow : d.row leaseId = some row) (hblocks : row.Blocks) (call : Call ε τ) :
    ((ledger S coordinationDomainSha256 ε τ).next d call).row leaseId = some row := by
  have h := effect S coordinationDomainSha256 hu call leaseId
  rw [hrow] at h
  generalize ((ledger S coordinationDomainSha256 ε τ).next d call).row leaseId = after at h
  cases h with
  | kept => rfl
  | reaped _ _ hreserved => exact absurd (hblocks.symm.trans hreserved) (by decide)
  | lost _ _ hfree => exact absurd hblocks hfree
  | armed _ _ _ _ hreserved => exact absurd (hblocks.symm.trans hreserved) (by decide)
  | fenced _ _ _ _ _ hfree => exact absurd hblocks hfree
  | released _ _ _ _ hsettles =>
    rcases hsettles with ⟨hstate, -⟩ | ⟨hstate, -⟩
    · exact absurd (hblocks.symm.trans hstate) (by decide)
    · exact absurd (hblocks.symm.trans hstate) (by decide)

theorem blocked_forever (hu : Table.UniqueKeys LeaseRow.leaseId d.rows)
    (hrow : d.row leaseId = some row) (hblocks : row.Blocks) (calls : List (Call ε τ)) :
    ((ledger S coordinationDomainSha256 ε τ).exec d calls).row leaseId = some row := by
  induction calls generalizing d with
  | nil => exact hrow
  | cons call rest ih =>
    exact ih (uniqueKeys_stable d call hu) (blocked_next hu hrow hblocks call)

theorem quarantined_stable :
    (ledger S coordinationDomainSha256 ε τ).Stable
      fun d => d.quarantineState = .unknownBlocking := by
  intro d call h
  rcases quarantine_effect d call with hsame | hset
  · exact hsame.trans h
  · exact hset

theorem fenced_stable :
    (ledger S coordinationDomainSha256 ε τ).Stable fun d =>
      Table.UniqueKeys LeaseRow.leaseId d.rows ∧ d.Fenced := by
  rintro d call ⟨hu, hfenced⟩
  refine ⟨uniqueKeys_stable d call hu, ?_⟩
  rcases hfenced with hquarantined | ⟨row, hmem, hblocks⟩
  · exact .inl (quarantined_stable d call hquarantined)
  · have hrow := Table.lookup_eq_some_of_mem hu hmem
    exact .inr ⟨row, (Table.mem_of_lookup (blocked_next hu hrow hblocks call)).1, hblocks⟩

theorem settledRow_of_blocks {files : String → SentinelFile} (h : row.Blocks) :
    settledRow S d files row = some row := if_pos h

theorem not_acquired_of_fenced {call : AcquireCall ε τ} (hfenced : d.Fenced)
    {acquisition : Acquisition τ}
    (h : (evaluateAndAcquire S coordinationDomainSha256 call d).1 = .ok acquisition) :
    acquisition.receipt.status ≠ .acquired := by
  intro hacquired
  obtain ⟨sentinel, d', -, -, hadmit, -, -⟩ := evaluateAndAcquire_eq_ok h
  obtain ⟨evaluation, scan, a, hadmitted, -⟩ := admitClaim_eq_ok hadmit
  obtain ⟨-, hscanned, hflag⟩ := activeRows_eq_ok hadmitted.scanned
  obtain ⟨hunknown, -⟩ := assess_acquired hadmitted.assessed (hadmitted.status ▸ hacquired)
  have hset : scan.ownershipUnknown = true := by
    rw [hflag]
    rcases hfenced with hquarantined | ⟨row, hmem, hblocks⟩
    · exact .inl hquarantined
    · refine .inr ⟨row, ?_, hblocks⟩
      rw [hscanned]
      exact List.mem_filterMap.mpr ⟨row, hmem, settledRow_of_blocks hblocks⟩
  rw [hunknown] at hset
  cases hset

/-! ## Genuine handles -/

/-- Whatever row the handle's lease has, the handle is the one that came with it. -/
def Domain.OwnedBy (S : Stdlib) (d : Domain) (handle : LeaseHandle) : Prop :=
  ∀ row, d.row handle.leaseId = some row → handle.Authenticates S row

/-- A handle as `evaluate_and_acquire` makes it. -/
structure LeaseHandle.Genuine (handle : LeaseHandle) : Prop where
  token : handle.token.length = 32
  admission : isSha256 handle.admissionReceiptSha256 = true
  claim : isSha256 handle.claimSha256 = true

variable {handle : LeaseHandle}

theorem handle_of_acquired {call : AcquireCall ε τ} {acquisition : Acquisition τ}
    (h : (evaluateAndAcquire S coordinationDomainSha256 call d).1 = .ok acquisition)
    (hhandle : acquisition.handle = some handle) :
    handle.Genuine ∧ handle.leaseId = call.leaseId.text ∧
      (evaluateAndAcquire S coordinationDomainSha256 call d).2.OwnedBy S handle := by
  obtain ⟨sentinel, d', -, -, hadmit, hstate, hreturned⟩ := evaluateAndAcquire_eq_ok h
  obtain ⟨evaluation, scan, a, hadmitted, -⟩ := admitClaim_eq_ok hadmit
  by_cases hacquired : acquisition.receipt.status = .acquired
  · rw [if_pos hacquired] at hreturned hstate
    rw [hreturned] at hhandle
    cases hhandle
    obtain ⟨evaluatedAt, tick, habsent, -, hd'⟩ :=
      hadmitted.acquired (hadmitted.status ▸ hacquired)
    refine ⟨⟨call.token.size, S.isSha256_sha256Json _, ?_⟩, rfl, ?_⟩
    · rw [hadmitted.claim]
      exact S.isSha256_sha256Json _
    · intro row hrow
      rw [hstate, hd'] at hrow
      change Table.lookup LeaseRow.leaseId (scan.rows ++ [_]) call.leaseId.text = some row
        at hrow
      rw [Table.lookup_append_single, habsent, Option.none_or] at hrow
      split at hrow
      · cases hrow
        exact ⟨rfl, hadmitted.claim.symm, rfl⟩
      · cases hrow
  · rw [if_neg hacquired] at hreturned
    rw [hreturned] at hhandle
    cases hhandle

theorem ownedBy_next (hu : Table.UniqueKeys LeaseRow.leaseId d.rows) (howned : d.OwnedBy S handle)
    {call : Call ε τ}
    (hfresh : ∀ acquire, call = .acquire acquire → acquire.leaseId.text ≠ handle.leaseId) :
    ((ledger S coordinationDomainSha256 ε τ).next d call).OwnedBy S handle := by
  intro row hrow
  rcases (effect S coordinationDomainSha256 hu call handle.leaseId).ancestor hrow with
    ⟨ancestor, hbefore, hdescends⟩ | ⟨acquire, hcall, hid, -⟩
  · have hauth := howned ancestor hbefore
    rcases hdescends with rfl | ⟨state, rfl⟩
    · exact hauth
    · exact hauth
  · exact absurd hid (hfresh acquire hcall)

theorem ownedBy_exec (hu : Table.UniqueKeys LeaseRow.leaseId d.rows) (howned : d.OwnedBy S handle)
    {calls : List (Call ε τ)}
    (hfresh : ∀ acquire, .acquire acquire ∈ calls → acquire.leaseId.text ≠ handle.leaseId) :
    ((ledger S coordinationDomainSha256 ε τ).exec d calls).OwnedBy S handle := by
  induction calls generalizing d with
  | nil => exact howned
  | cons call rest ih =>
    have hhead : ((ledger S coordinationDomainSha256 ε τ).next d call).OwnedBy S handle := by
      refine ownedBy_next hu howned ?_
      rintro acquire rfl
      exact hfresh acquire List.mem_cons_self
    exact ih (uniqueKeys_stable d call hu) hhead
      fun acquire hmem => hfresh acquire (List.mem_cons_of_mem _ hmem)

/-! ## A delivery in doubt -/

theorem isAscii_of_isSha256 {s : String} (h : isSha256 s = true) : isAscii s = true := by
  simp only [isSha256, Bool.and_eq_true, List.all_eq_true] at h
  simp only [isAscii, List.all_eq_true, decide_eq_true_eq]
  intro c hc
  have := isLowerHex_iff.mp (h.2 c hc)
  omega

theorem compareDigest_of_sha256 {a b : String} (ha : isSha256 a = true)
    (hb : isSha256 b = true) : compareDigest (ε := ε) a b = .ok (decide (a = b)) :=
  if_pos ⟨isAscii_of_isSha256 ha, isAscii_of_isSha256 hb⟩

theorem handleMatchesRow_of_authentic (hgenuine : handle.Genuine) (hvalid : row.Valid S)
    (hauth : handle.Authenticates S row) :
    handleMatchesRow (ε := ε) handle (S.sha256 handle.token) row = .ok true := by
  obtain ⟨htoken, hclaim, hadmission⟩ := hauth
  have htokenHex : isSha256 row.tokenSha256 = true := hvalid.digests _ (by simp)
  have hclaimHex : isSha256 row.claimSha256 = true := hvalid.digests _ (by simp)
  have hadmissionHex : isSha256 row.admissionReceiptSha256 = true :=
    hvalid.digests _ (by simp)
  rw [handleMatchesRow, compareDigest_of_sha256 htokenHex (S.sha256_hex _), ok_bind,
    decide_eq_true htoken, if_neg (by decide),
    compareDigest_of_sha256 hclaimHex hgenuine.claim, ok_bind, decide_eq_true hclaim,
    if_neg (by decide), compareDigest_of_sha256 hadmissionHex hgenuine.admission,
    decide_eq_true hadmission]

theorem settle_of_owned (hgenuine : handle.Genuine) (hvalid : ∀ row ∈ d.rows, row.Valid S)
    (howned : d.OwnedBy S handle) :
    ∃ s d', settle (ε := ε) S handle .attemptedUnknown d = .ok (s, d') := by
  unfold settle
  cases hrow : d.row handle.leaseId with
  | none => exact ⟨_, _, rfl⟩
  | some row =>
    have hv := hvalid row (Table.mem_of_lookup hrow).1
    have hmatch := handleMatchesRow_of_authentic (ε := ε) hgenuine hv (howned row hrow)
    refine ⟨⟨.unknownBlocking, {"delivery_outcome_unknown"}, false⟩,
      if row.state ≠ .unknownBlocking then d.mark S row.leaseId .unknownBlocking else d, ?_⟩
    simp only [validatedRow_eq_ok.mpr ⟨hv, rfl⟩, Except.mapError, ok_bind, hmatch]
    rfl

theorem fenced_of_settled {d' : Domain} {s : Settlement}
    (hu : Table.UniqueKeys LeaseRow.leaseId d.rows) (howned : d.OwnedBy S handle)
    (h : Settled S handle .attemptedUnknown d s d') : d'.Fenced := by
  cases h with
  | absent _ hknown => exact absurd rfl hknown
  | quarantined => exact .inl rfl
  | foreign row hrow hother => exact absurd (howned row hrow) hother
  | fenced row hrow =>
    have hmarked : (d.mark S handle.leaseId .unknownBlocking).row handle.leaseId =
        some (row.withState S .unknownBlocking) := by
      rw [Domain.row_mark hu, if_pos rfl, hrow, Option.map_some]
    exact .inr ⟨_, (Table.mem_of_lookup hmarked).1, rfl⟩
  | fencedAgain row hrow _ _ hblocks =>
    exact .inr ⟨row, (Table.mem_of_lookup hrow).1, hblocks⟩
  | sticky _ _ _ hknown => exact absurd rfl hknown
  | released _ _ _ hsettles =>
    rcases hsettles with ⟨-, hstatus⟩ | ⟨-, hstatus⟩ <;> cases hstatus
  | mismatch _ _ _ hknown => exact absurd rfl hknown

/-- A release commits unless its clock or its transaction fails. -/
structure ReleaseCall.Commits (call : ReleaseCall ε) : Prop where
  clock : ∃ releasedAt, call.clock = .returned releasedAt
  fault : ∀ failure, call.fault ≠ .refused failure

theorem release_committed (S : Stdlib) (coordinationDomainSha256 : String) {call : ReleaseCall ε}
    {d' : Domain} {s : Settlement} (htoken : call.handle.token.length = 32)
    (hcommits : call.Commits)
    (hsettle : settle (ε := ε) S call.handle call.deliveryStatus d = .ok (s, d')) :
    (release S coordinationDomainSha256 call d).2.rows = d'.rows ∧
      (release S coordinationDomainSha256 call d).2.quarantineState = d'.quarantineState := by
  obtain ⟨releasedAt, hclock⟩ := hcommits.clock
  have hguard : (do validateHandle call.handle; validatedClock call.clock :
      Except (Failure ε) String) = .ok releasedAt := by
    rw [validateHandle, check_of htoken, ok_bind, hclock]
    rfl
  unfold release
  rw [hguard, hsettle]
  cases hfault : call.fault with
  | none => exact cleanup_rows call s d'
  | refused failure => exact absurd hfault (hcommits.fault failure)
  | unanswered failure => exact ⟨rfl, rfl⟩

/-! ## The law over whole runs -/

/-- From this state on no admission is acquired, whatever happens. -/
def NeverAcquires (M : Machine Domain (Call ε τ) (Answer ε τ)) (d : Domain) : Prop :=
  ∀ later call acquisition,
    M.output (M.exec d later) (.acquire call) = .acquire (.ok acquisition) →
    acquisition.receipt.status ≠ .acquired

theorem neverAcquires_of_fenced (hu : Table.UniqueKeys LeaseRow.leaseId d.rows)
    (hfenced : d.Fenced) :
    NeverAcquires (ledger S coordinationDomainSha256 ε τ) d := by
  intro later call acquisition h
  rw [ledger_output_acquire] at h
  exact not_acquired_of_fenced (fenced_stable.exec ⟨hu, hfenced⟩ later).2
    (Answer.acquire.inj h)

theorem fenced_of_release {call : ReleaseCall ε}
    (hreach : (ledger S coordinationDomainSha256 ε τ).Reachable d)
    (hgenuine : call.handle.Genuine) (howned : d.OwnedBy S call.handle)
    (hunknown : call.deliveryStatus = .attemptedUnknown) (hcommits : call.Commits) :
    ((ledger S coordinationDomainSha256 ε τ).next d (.release call)).Fenced := by
  obtain ⟨s, d', hsettle⟩ := settle_of_owned (ε := ε) hgenuine (valid_of_reachable hreach)
    howned
  rw [← hunknown] at hsettle
  obtain ⟨hrows, hquarantine⟩ := release_committed S coordinationDomainSha256
    hgenuine.token hcommits hsettle
  have hsettled := settle_eq_ok hsettle
  rw [hunknown] at hsettled
  have hfenced := fenced_of_settled (uniqueKeys_of_reachable hreach) howned hsettled
  rw [ledger_next_release]
  unfold Domain.Fenced
  rw [hrows, hquarantine]
  exact hfenced

/-- The delivery fence, over every run: how rows leave the table, that doubt is never taken
back, and that it stops every admission. The handle of the last clause is one that an admission
returned, and none after it drew the same lease identifier. -/
theorem delivery_fence (S : Stdlib) (coordinationDomainSha256 : String)
    (calls : List (Call ε τ)) :
    let M := ledger S coordinationDomainSha256 ε τ
    let d := M.exec M.init calls
    (∀ call leaseId row, d.row leaseId = some row → (M.next d call).row leaseId = none →
      (∃ release, call = .release release ∧ release.handle.leaseId = leaseId ∧
        release.handle.Authenticates S row ∧ Settles row.state release.deliveryStatus) ∨
      ∃ acquire, call = .acquire acquire ∧ row.state = .reserved ∧
        OwnerDead d acquire.files row) ∧
    (∀ leaseId row, d.row leaseId = some row → row.state ≠ .reserved → ∀ later,
      (∃ row', (M.exec d later).row leaseId = some row' ∧ row'.state ≠ .reserved) ∨
      ∃ before release after row', later = before ++ .release release :: after ∧
        (M.exec d before).row leaseId = some row' ∧ row'.state = .deliveryArmed ∧
        release.handle.leaseId = leaseId ∧ release.handle.Authenticates S row' ∧
        release.deliveryStatus = .responseReceived) ∧
    (∀ leaseId row, d.row leaseId = some row → row.state = .unknownBlocking → ∀ later,
      (M.exec d later).row leaseId = some row) ∧
    (d.quarantineState = .unknownBlocking → ∀ later,
      (M.exec d later).quarantineState = .unknownBlocking) ∧
    (d.Fenced → NeverAcquires M d) ∧
    (∀ acquire acquisition handle, M.output d (.acquire acquire) =
        .acquire (.ok acquisition) → acquisition.handle = some handle →
      ∀ between, (∀ other, .acquire other ∈ between → other.leaseId.text ≠ handle.leaseId) →
      ∀ release : ReleaseCall ε, release.handle = handle →
        release.deliveryStatus = .attemptedUnknown → release.Commits →
        NeverAcquires M (M.exec d (.acquire acquire :: between ++ [.release release]))) := by
  intro M d
  have hreach : M.Reachable d := ⟨calls, rfl⟩
  have hu : Table.UniqueKeys LeaseRow.leaseId d.rows := uniqueKeys_of_reachable hreach
  refine ⟨?_, ?_, ?_, ?_, ?_, ?_⟩
  · intro call leaseId row hrow hgone
    exact removed_cases hu hrow hgone
  · intro leaseId row hrow harmed later
    exact armed_until_response hu hrow harmed later
  · intro leaseId row hrow hblocks later
    exact blocked_forever hu hrow hblocks later
  · intro hquarantined later
    exact quarantined_stable.exec hquarantined later
  · exact neverAcquires_of_fenced hu
  · intro acquire acquisition handle hanswer hhandle between hfresh release hrelease
      hunknown hcommits
    rw [ledger_output_acquire] at hanswer
    obtain ⟨hgenuine, hid, howned⟩ := handle_of_acquired (Answer.acquire.inj hanswer) hhandle
    subst hrelease
    have hreach' : M.Reachable (M.exec (M.next d (.acquire acquire)) between) :=
      (hreach.next _).exec between
    have howned' : (M.exec (M.next d (.acquire acquire)) between).OwnedBy S
        release.handle := by
      refine ownedBy_exec (uniqueKeys_of_reachable (hreach.next _)) ?_ hfresh
      rw [ledger_next_acquire]
      exact howned
    have hfenced := fenced_of_release hreach' hgenuine howned' hunknown hcommits
    rw [Machine.exec_concat, Machine.exec_cons]
    exact neverAcquires_of_fenced (uniqueKeys_of_reachable (hreach'.next _)) hfenced

def sampleRelease (handle : LeaseHandle) : ReleaseCall Empty where
  policy := sampleAcquire.policy
  handle := handle
  deliveryStatus := .attemptedUnknown
  clock := .returned sampleTime.isoformat
  cleanupFails := false
  fault := .none

theorem sampleRelease_fences : ∃ handle,
    NeverAcquires (ledger Stdlib.cpython sampleDigest Empty Unit)
      ((ledger Stdlib.cpython sampleDigest Empty Unit).exec .empty
        [.acquire sampleAcquire, .release (sampleRelease handle)]) := by
  generalize Stdlib.cpython = S
  obtain ⟨acquisition, hok, hacquired⟩ := sampleAcquire_acquired S
  obtain ⟨sentinel, d', -, -, -, -, hreturned⟩ := evaluateAndAcquire_eq_ok hok
  rw [if_pos hacquired] at hreturned
  obtain ⟨-, -, -, -, -, hdoubt⟩ := delivery_fence (ε := Empty) (τ := Unit) S sampleDigest []
  refine ⟨_, hdoubt sampleAcquire acquisition _ ?_ hreturned [] (by simp)
    (sampleRelease _) rfl rfl ⟨⟨_, rfl⟩, fun failure h => by cases h⟩⟩
  have hanswer : (ledger S sampleDigest Empty Unit).output .empty (.acquire sampleAcquire) =
      .acquire (.ok acquisition) := by
    rw [ledger_output_acquire, hok]
  exact hanswer

end LocalMoe.Lease
