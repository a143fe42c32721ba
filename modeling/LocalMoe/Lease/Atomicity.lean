/-
  Whether a call that raises leaves the ledger as it was.
-/
import LocalMoe.Lease.Fence

namespace LocalMoe.Lease

open Foundation Contracts

variable {ε τ : Type} {S : Stdlib} {coordinationDomainSha256 : String}

/-! ## Calls that raise -/

/-- The active rows and the quarantine metadata are as before. -/
structure Domain.Unchanged (d d' : Domain) : Prop where
  rows : d'.rows = d.rows
  quarantineState : d'.quarantineState = d.quarantineState
  quarantineEvidence : d'.quarantineEvidenceSha256 = d.quarantineEvidenceSha256

theorem Domain.Unchanged.refl (d : Domain) : d.Unchanged d := ⟨rfl, rfl, rfl⟩

/-- The caller gets an exception. -/
def Answer.Raised : Answer ε τ → Prop
  | .acquire answer => ∃ failure, answer = .error failure
  | .arm answer => ∃ failure, answer = .error failure
  | .release answer => ∃ failure, answer = .error failure
  | .crash => False

/-! ## What can be lost -/

/-- The text is a UTC timestamp, as `require_utc_timestamp` reads it. -/
def IsTimestamp (S : Stdlib) (text : String) : Prop :=
  ∃ instant, S.parseTimestamp (strip text) = .utc instant

/-- The receipts accept what the handle says. -/
structure LeaseHandle.Named (handle : LeaseHandle) : Prop where
  leaseId : isSafeId (strip handle.leaseId) = true
  admission : isSha256 handle.admissionReceiptSha256 = true
  claim : isSha256 handle.claimSha256 = true

/-- The transaction commits, but its caller gets no receipt: the database does not answer,
or the receipt is not built. -/
def Fault.Loses (fault : Fault ε) (receipt : Prop) : Prop :=
  match fault with
  | .none => ¬receipt
  | .refused _ => False
  | .unanswered _ => True

/-- `arm_delivery` arms the handle's own reserved row. -/
def ArmCall.Arms (S : Stdlib) (call : ArmCall ε) (d : Domain) : Prop :=
  ∃ row, d.row call.handle.leaseId = some row ∧ call.handle.Authenticates S row ∧
    row.state = .reserved

/-- `release` deletes or fences the handle's own row, or fences the domain. -/
def ReleaseCall.Writes (S : Stdlib) (call : ReleaseCall ε) (d : Domain) : Prop :=
  match d.row call.handle.leaseId with
  | none => call.deliveryStatus = .attemptedUnknown ∧ ¬d.Unchanged (d.quarantine S call.handle)
  | some row => call.handle.Authenticates S row ∧
      (call.deliveryStatus = .attemptedUnknown ∧ row.state ≠ .unknownBlocking ∨
        Settles row.state call.deliveryStatus)

/-- The transaction of `evaluate_and_acquire` reaps, fences or inserts a row. -/
def AcquireCall.Writes (S : Stdlib) (coordinationDomainSha256 : String)
    (call : AcquireCall ε τ) (d : Domain) : Prop :=
  ∃ sentinel answer d', takeOwnerLock call d = .ok sentinel ∧
    admitClaim S coordinationDomainSha256 call (d.hold sentinel) = .ok (answer, d') ∧
    d'.rows ≠ d.rows

/-- A call whose change is lost on its caller. -/
def Torn (S : Stdlib) (coordinationDomainSha256 : String) (d : Domain) : Call ε τ → Prop
  | .acquire call => call.fault.Loses True ∧ call.Writes S coordinationDomainSha256 d
  | .arm call => call.handle.token.length = 32 ∧ (∃ time, call.clock = .returned time ∧
      call.fault.Loses (call.handle.Named ∧ IsTimestamp S time)) ∧ call.Arms S d
  | .release call => call.handle.token.length = 32 ∧ (∃ time, call.clock = .returned time ∧
      call.fault.Loses (call.handle.Named ∧ IsTimestamp S time)) ∧ call.Writes S d
  | .crash _ => False

/-! ## Receipts -/

theorem requireUtcTimestamp_isOk {text : String} (label : String) :
    (∃ instant, S.requireUtcTimestamp text label = .ok instant) ↔ IsTimestamp S text := by
  unfold Stdlib.requireUtcTimestamp IsTimestamp
  cases S.parseTimestamp (strip text) with
  | utc instant => exact ⟨fun _ => ⟨instant, rfl⟩, fun _ => ⟨_, rfl⟩⟩
  | otherZone | malformed => exact ⟨fun ⟨_, h⟩ => (by cases h), fun ⟨_, h⟩ => (by cases h)⟩

theorem TransitionReceipt.construct_isOk {r : TransitionReceipt}
    (hpolicy : isSha256 r.policySha256 = true)
    (hdomain : isSha256 r.coordinationDomainSha256 = true)
    (happlied : r.transitionApplied = true) (hreasons : r.reasonCodes = ∅) :
    (∃ built, r.construct S = .ok built) ↔
      (isSafeId (strip r.leaseId) = true ∧ isSha256 r.admissionReceiptSha256 = true ∧
        isSha256 r.claimSha256 = true) ∧ IsTimestamp S r.transitionedAt := by
  simp only [TransitionReceipt.construct, bind_eq_ok, sha, identifier, requireSha256_eq_ok,
    requireSafeId_eq_ok, requireIdentifiers_eq_ok, check_eq_ok, pure_eq_ok_iff,
    ← requireUtcTimestamp_isOk "transitioned_at"]
  constructor
  · rintro ⟨_, _, -, _, ⟨hadmission, -⟩, _, ⟨hclaim, -⟩, _, -, _, ⟨hid, -⟩, _, -, _, -, _, -,
      instant, hinstant, -⟩
    exact ⟨⟨hid, hadmission, hclaim⟩, instant, hinstant⟩
  · rintro ⟨⟨hid, hadmission, hclaim⟩, instant, hinstant⟩
    exact ⟨_, _, ⟨hpolicy, rfl⟩, _, ⟨hadmission, rfl⟩, _, ⟨hclaim, rfl⟩, _, ⟨hdomain, rfl⟩, _,
      ⟨hid, rfl⟩, _, ⟨by simp [hreasons], rfl⟩, (), .inr hreasons, (), .inl happlied, instant,
      hinstant, rfl⟩

theorem ReleaseReceipt.construct_isOk {r : ReleaseReceipt}
    (hpolicy : isSha256 r.policySha256 = true)
    (hdomain : isSha256 r.coordinationDomainSha256 = true)
    (hreasons : ∀ c ∈ r.reasonCodes, isSafeId c = true ∧ strip c = c)
    (hreleased : r.status = .released ↔ r.reasonCodes = ∅)
    (hactive : r.activeLeasesAfter ≤ maxSqliteInteger) :
    (∃ built, r.construct S = .ok built) ↔
      (isSafeId (strip r.leaseId) = true ∧ isSha256 r.admissionReceiptSha256 = true ∧
        isSha256 r.claimSha256 = true) ∧ IsTimestamp S r.releasedAt := by
  simp only [ReleaseReceipt.construct, bind_eq_ok, sha, identifier, requireSha256_eq_ok,
    requireSafeId_eq_ok, requireIdentifiers_eq_ok, check_eq_ok, pure_eq_ok_iff, integer_eq_ok,
    ← requireUtcTimestamp_isOk "released_at"]
  constructor
  · rintro ⟨_, _, -, _, ⟨hadmission, -⟩, _, ⟨hclaim, -⟩, _, -, _, ⟨hid, -⟩, _, -, _, -, _, -,
      instant, hinstant, -⟩
    exact ⟨⟨hid, hadmission, hclaim⟩, instant, hinstant⟩
  · rintro ⟨⟨hid, hadmission, hclaim⟩, instant, hinstant⟩
    refine ⟨_, _, ⟨hpolicy, rfl⟩, _, ⟨hadmission, rfl⟩, _, ⟨hclaim, rfl⟩, _, ⟨hdomain, rfl⟩, _,
      ⟨hid, rfl⟩, _, ⟨hreasons, rfl⟩, (), ?_, (), ?_, instant, hinstant, _,
      ⟨⟨Nat.zero_le _, hactive⟩, rfl⟩, rfl⟩
    · by_cases h : r.reasonCodes = ∅
      · exact .inr h
      · exact .inl fun hstatus => h (hreleased.mp hstatus)
    · by_cases h : r.reasonCodes = ∅
      · exact .inl (hreleased.mpr h)
      · exact .inr h

/-! ## Arming -/

variable {handle : LeaseHandle} {row : LeaseRow}

theorem LeaseHandle.named_of_authenticates (hvalid : row.Valid S)
    (hid : row.leaseId = handle.leaseId) (hauth : handle.Authenticates S row) : handle.Named := by
  obtain ⟨-, hclaim, hadmission⟩ := hauth
  exact ⟨hid ▸ hvalid.leaseId, hadmission ▸ hvalid.digests _ (by simp),
    hclaim ▸ hvalid.digests _ (by simp)⟩

variable {d : Domain}

theorem Domain.mark_rows_ne (hu : Table.UniqueKeys LeaseRow.leaseId d.rows) {leaseId : String}
    (hrow : d.row leaseId = some row) {state : LeaseState} (hstate : row.state ≠ state) :
    (d.mark S leaseId state).rows ≠ d.rows := by
  intro hsame
  have hmarked := Domain.row_mark (S := S) hu leaseId state leaseId
  rw [Domain.row_congr hsame, if_pos rfl, hrow, Option.map_some, Option.some.injEq] at hmarked
  exact hstate (hmarked ▸ rfl)

theorem Domain.deleteRow_rows_ne (hu : Table.UniqueKeys LeaseRow.leaseId d.rows)
    {leaseId : String} (hrow : d.row leaseId = some row) :
    (d.deleteRow leaseId).rows ≠ d.rows := by
  intro hsame
  have hdeleted := Domain.row_deleteRow hu leaseId leaseId
  rw [Domain.row_congr hsame, if_pos rfl, hrow] at hdeleted
  cases hdeleted

theorem prelude_eq_ok {clock : Foreign ε String} {time : String} :
    (do validateHandle handle; validatedClock clock : Except (Failure ε) String) = .ok time ↔
      handle.token.length = 32 ∧ clock = .returned time := by
  simp only [bind_eq_ok, validateHandle, check_eq_ok]
  cases clock with
  | returned value =>
    simp only [validatedClock, readClock, Except.ok.injEq, Foreign.returned.injEq]
    exact ⟨fun h => h.elim fun _ h => h, fun h => ⟨(), h⟩⟩
  | raised e | interrupted e => simp [validatedClock, readClock]

theorem handleMatchesRow_of_valid (htoken : handle.token.length = 32) (hvalid : row.Valid S)
    (hid : row.leaseId = handle.leaseId) (hauth : handle.Authenticates S row) :
    handleMatchesRow (ε := ε) handle (S.sha256 handle.token) row = .ok true := by
  have hnamed := LeaseHandle.named_of_authenticates hvalid hid hauth
  exact handleMatchesRow_of_authentic ⟨htoken, hnamed.admission, hnamed.claim⟩ hvalid hauth

theorem arm_of_arms (htoken : handle.token.length = 32) (hrow : d.row handle.leaseId = some row)
    (hvalid : row.Valid S) (hauth : handle.Authenticates S row) (hstate : row.state = .reserved) :
    arm (ε := ε) S handle d = .ok ((true, ∅), d.mark S handle.leaseId .deliveryArmed) := by
  have hid : row.leaseId = handle.leaseId := (Table.mem_of_lookup hrow).2
  unfold arm
  simp only [hrow, validatedRow_eq_ok.mpr ⟨hvalid, rfl⟩, mapError_ok, ok_bind,
    handleMatchesRow_of_valid htoken hvalid hid hauth, hstate, hid]
  rfl

/-! ## Receipts after the commit -/

theorem raised_changed_iff {α ρ : Type} (fault : Fault ε) (d start : Domain)
    (body : Except (Failure ε) (α × Domain)) (outcome : Except (Failure ε) ρ × Domain)
    (finish : α → Domain → Except (Failure ε) ρ × Domain) (hstart : d.Unchanged start)
    (hfinish : ∀ a d', d.Unchanged (finish a d').2 ↔ d.Unchanged d')
    (hfailed : ∀ failure d', transaction fault start body = (.error failure, d') →
      outcome.1 = .error failure ∧ (d.Unchanged outcome.2 ↔ d.Unchanged d'))
    (hdone : ∀ a d', transaction fault start body = (.ok a, d') → outcome = finish a d') :
    ((∃ failure, outcome.1 = .error failure) ∧ ¬d.Unchanged outcome.2) ↔
      ∃ a d', body = .ok (a, d') ∧ ¬d.Unchanged d' ∧
        fault.Loses (∃ answer, (finish a d').1 = .ok answer) := by
  rcases hbody : body with failure | ⟨a, d'⟩
  · have hsame : d.Unchanged outcome.2 := by
      cases fault with
      | none => exact (hfailed failure start (by rw [hbody]; rfl)).2.mpr hstart
      | refused e => exact (hfailed e start rfl).2.mpr hstart
      | unanswered e => exact (hfailed failure start (by rw [hbody]; rfl)).2.mpr hstart
    exact ⟨fun h => absurd hsame h.2, fun ⟨_, _, h, _⟩ => (by cases h)⟩
  · simp only [Except.ok.injEq, Prod.mk.injEq]
    cases hfault : fault with
    | none =>
      rw [hfault, hbody] at hdone
      rw [hdone a d' rfl, hfinish]
      have hraised : (∃ failure, (finish a d').1 = .error failure) ↔
          ¬∃ answer, (finish a d').1 = .ok answer := by
        cases (finish a d').1 with
        | error e => exact ⟨fun _ ⟨_, h⟩ => (by cases h), fun _ => ⟨e, rfl⟩⟩
        | ok answer => exact ⟨fun ⟨_, h⟩ => (by cases h), fun h => absurd ⟨answer, rfl⟩ h⟩
      rw [hraised]
      exact ⟨fun ⟨hlost, hchanged⟩ => ⟨a, d', ⟨rfl, rfl⟩, hchanged, hlost⟩,
        fun ⟨_, _, ⟨ha, hd'⟩, hchanged, hlost⟩ => ha ▸ hd' ▸ ⟨hlost, hchanged⟩⟩
    | refused e =>
      have hsame := (hfailed e start (by rw [hfault]; rfl)).2.mpr hstart
      exact ⟨fun h => absurd hsame h.2, fun ⟨_, _, _, _, h⟩ => h.elim⟩
    | unanswered e =>
      obtain ⟨hraised, hiff⟩ := hfailed e d' (by rw [hfault, hbody]; rfl)
      rw [hiff]
      exact ⟨fun h => ⟨a, d', ⟨rfl, rfl⟩, h.2, trivial⟩,
        fun ⟨_, _, ⟨_, hd'⟩, hchanged, _⟩ => ⟨⟨e, hraised⟩, hd' ▸ hchanged⟩⟩

theorem armDelivery_torn (hdomain : isSha256 coordinationDomainSha256 = true)
    (hu : Table.UniqueKeys LeaseRow.leaseId d.rows) (hvalid : ∀ row ∈ d.rows, row.Valid S)
    (call : ArmCall ε) :
    ((∃ failure, (armDelivery S coordinationDomainSha256 call d).1 = .error failure) ∧
      ¬d.Unchanged (armDelivery S coordinationDomainSha256 call d).2) ↔
    call.handle.token.length = 32 ∧ (∃ time, call.clock = .returned time ∧
      call.fault.Loses (call.handle.Named ∧ IsTimestamp S time)) ∧ call.Arms S d := by
  rcases hprelude : (do validateHandle call.handle; validatedClock call.clock :
      Except (Failure ε) String) with failure | time
  · simp only [armDelivery, hprelude]
    refine ⟨fun h => absurd (Domain.Unchanged.refl d) h.2, fun h => ?_⟩
    obtain ⟨htoken, ⟨time, hclock, -⟩, -⟩ := h
    have hok := prelude_eq_ok.mpr ⟨htoken, hclock⟩
    rw [hprelude] at hok
    cases hok
  · obtain ⟨htoken, hclock⟩ := prelude_eq_ok.mp hprelude
    let receipt (applied : Bool) (reasons : Finset String) : TransitionReceipt :=
      { policySha256 := call.policy.digest S
        admissionReceiptSha256 := call.handle.admissionReceiptSha256
        claimSha256 := call.handle.claimSha256
        coordinationDomainSha256 := coordinationDomainSha256
        leaseId := call.handle.leaseId
        transitionApplied := applied
        reasonCodes := reasons
        transitionedAt := time }
    rw [raised_changed_iff call.fault d d (arm S call.handle d)
      (armDelivery S coordinationDomainSha256 call d)
      (fun a d' => (((receipt a.1 a.2).construct S).mapError Failure.contract, d'))
      (.refl d) (fun _ _ => Iff.rfl)
      (fun failure d' h => by simp only [armDelivery, hprelude, h, and_self])
      (fun a d' h => by simp only [armDelivery, hprelude, h, receipt])]
    have hbuilt : (∃ built, ((receipt true ∅).construct S).mapError (Failure.contract (ε := ε)) =
        .ok built) ↔ call.handle.Named ∧ IsTimestamp S time := by
      have hconstructed := @TransitionReceipt.construct_isOk S (receipt true ∅)
        (S.isSha256_sha256Json call.policy.contentPayload) hdomain rfl rfl
      simp only [mapError_eq_ok]
      rw [hconstructed]
      constructor <;> rintro ⟨⟨h1, h2, h3⟩, h⟩ <;> exact ⟨⟨h1, h2, h3⟩, h⟩
    constructor
    · rintro ⟨⟨applied, reasons⟩, d', hbody, hchanged, hlost⟩
      rcases arm_eq_ok hbody with ⟨rfl, rfl, row, hrow, hstate, hauth, -, -⟩ | ⟨-, rfl⟩
      · rw [hbuilt] at hlost
        exact ⟨htoken, ⟨time, hclock, hlost⟩, row, hrow, hauth, hstate⟩
      · exact absurd (Domain.Unchanged.refl _) hchanged
    · rintro ⟨-, ⟨time', hclock', hlost⟩, row, hrow, hauth, hstate⟩
      rw [hclock, Foreign.returned.injEq] at hclock'
      subst hclock'
      have hv := hvalid row (Table.mem_of_lookup hrow).1
      refine ⟨(true, ∅), _, arm_of_arms htoken hrow hv hauth hstate, fun hsame => ?_, ?_⟩
      · exact Domain.mark_rows_ne hu hrow (by rw [hstate]; decide) hsame.rows
      · rw [hbuilt]
        exact hlost

/-! ## Releasing -/

theorem assess_below_limit {policy : CooperativeResourceLeasePolicy}
    {claim : CooperativeResourceClaim} {snapshot : ResourceSnapshot} {scan : Scan}
    {a : Assessment} (h : assess policy claim snapshot scan = .ok a) (hacquired : a.status = .acquired) :
    scan.rows.length < policy.maxActiveLeases := by
  simp only [assess, bind_eq_ok, pure_eq_ok_iff] at h
  obtain ⟨_, -, _, -, _, -, _, -, rfl⟩ := h
  simp only [admissionStatus_eq_acquired, Finset.union_eq_empty, reasonIf_eq_empty] at hacquired
  exact not_le.mp hacquired.1.1.2

variable {s : Settlement}

theorem settled_rows_length {delivery : DeliveryStatus} {d' : Domain}
    (h : Settled S handle delivery d s d') : d'.rows.length ≤ d.rows.length := by
  cases h with
  | fenced => exact (List.length_map _).le
  | released => exact List.length_filter_le _ _
  | _ => exact Nat.le_refl _

/-- A settlement and its reasons fit each other. -/
structure Settlement.Coherent (s : Settlement) : Prop where
  reasons : ∀ c ∈ s.reasons, isSafeId c = true ∧ strip c = c
  released : s.status = .released ↔ s.reasons = ∅

theorem settled_coherent {delivery : DeliveryStatus} {d' : Domain}
    (h : Settled S handle delivery d s d') : s.Coherent := by
  cases h <;> exact ⟨by decide, by decide⟩

theorem cleanup_coherent (call : ReleaseCall ε) (d : Domain) (h : s.Coherent) :
    (cleanup call s d).1.Coherent := by
  unfold cleanup
  split
  · exact h
  · split
    · exact h
    · refine ⟨fun c hc => ?_, fun hstatus => ?_, fun hreasons => ?_⟩
      · rcases Finset.mem_union.mp hc with hc | hc
        · exact h.reasons c hc
        · rw [Finset.mem_singleton.mp hc]
          decide
      · dsimp only at hstatus
        split at hstatus
        · cases hstatus
        · contradiction
      · rw [Finset.union_eq_empty] at hreasons
        exact absurd hreasons.2 (Finset.singleton_ne_empty _)

theorem cleanup_unchanged {call : ReleaseCall ε} {d' : Domain} :
    d.Unchanged (cleanup call s d').2 ↔ d.Unchanged d' := by
  unfold cleanup
  split
  · exact Iff.rfl
  · split
    · exact ⟨fun h => ⟨h.rows, h.quarantineState, h.quarantineEvidence⟩,
        fun h => ⟨h.rows, h.quarantineState, h.quarantineEvidence⟩⟩
    · exact Iff.rfl

theorem settle_writes (hu : Table.UniqueKeys LeaseRow.leaseId d.rows)
    (hvalid : ∀ row ∈ d.rows, row.Valid S) (call : ReleaseCall ε)
    (htoken : call.handle.token.length = 32) :
    (∃ s d', settle (ε := ε) S call.handle call.deliveryStatus d = .ok (s, d') ∧
      ¬d.Unchanged d') ↔ call.Writes S d := by
  unfold ReleaseCall.Writes
  constructor
  · rintro ⟨s, d', hsettle, hchanged⟩
    cases settle_eq_ok hsettle with
    | quarantined hrow hunknown =>
      rw [hrow]
      exact ⟨hunknown, hchanged⟩
    | fenced row hrow hauth hunknown hfree =>
      rw [hrow]
      exact ⟨hauth, .inl ⟨hunknown, hfree⟩⟩
    | released row hrow hauth hsettles =>
      rw [hrow]
      exact ⟨hauth, .inr hsettles⟩
    | _ => exact absurd (Domain.Unchanged.refl d) hchanged
  · rcases hrow : d.row call.handle.leaseId with - | row
    · rintro ⟨hunknown, hchanged⟩
      refine ⟨⟨.unknownBlocking, {"lease_not_found"}, false⟩, _, ?_, hchanged⟩
      simp only [settle, hrow, if_pos hunknown]
    · rintro ⟨hauth, hwrites⟩
      have hv := hvalid row (Table.mem_of_lookup hrow).1
      have hid : row.leaseId = call.handle.leaseId := (Table.mem_of_lookup hrow).2
      have hmatch := handleMatchesRow_of_valid (ε := ε) htoken hv hid hauth
      simp only [settle, hrow, validatedRow_eq_ok.mpr ⟨hv, rfl⟩, Except.mapError, ok_bind, hmatch,
        hid]
      rcases hwrites with ⟨hunknown, hfree⟩ | hsettles
      · refine ⟨⟨.unknownBlocking, {"delivery_outcome_unknown"}, false⟩,
          d.mark S call.handle.leaseId .unknownBlocking, ?_, fun hsame => ?_⟩
        · simp only [if_pos hunknown, if_pos hfree]
          rfl
        · exact Domain.mark_rows_ne hu hrow hfree hsame.rows
      · refine ⟨⟨.released, ∅, true⟩, d.deleteRow call.handle.leaseId, ?_, fun hsame => ?_⟩
        · have hknown : call.deliveryStatus ≠ .attemptedUnknown := by
            rcases hsettles with ⟨-, h⟩ | ⟨-, h⟩ <;> rw [h] <;> decide
          have hstate : row.state ≠ .unknownBlocking := by
            rcases hsettles with ⟨h, -⟩ | ⟨h, -⟩ <;> rw [h] <;> decide
          have hsettles' : row.state = .reserved ∧ call.deliveryStatus = .notAttempted ∨
            row.state = .deliveryArmed ∧ call.deliveryStatus = .responseReceived := hsettles
          simp only [if_neg hknown, if_neg hstate, if_pos hsettles']
          rfl
        · exact Domain.deleteRow_rows_ne hu hrow hsame.rows

theorem release_torn (hdomain : isSha256 coordinationDomainSha256 = true)
    (hu : Table.UniqueKeys LeaseRow.leaseId d.rows) (hvalid : ∀ row ∈ d.rows, row.Valid S)
    (hlength : d.rows.length ≤ maxSqliteInteger) (call : ReleaseCall ε) :
    ((∃ failure, (release S coordinationDomainSha256 call d).1 = .error failure) ∧
      ¬d.Unchanged (release S coordinationDomainSha256 call d).2) ↔
    call.handle.token.length = 32 ∧ (∃ time, call.clock = .returned time ∧
      call.fault.Loses (call.handle.Named ∧ IsTimestamp S time)) ∧ call.Writes S d := by
  rcases hprelude : (do validateHandle call.handle; validatedClock call.clock :
      Except (Failure ε) String) with failure | time
  · simp only [release, hprelude]
    refine ⟨fun h => absurd (Domain.Unchanged.refl d) h.2, fun h => ?_⟩
    obtain ⟨htoken, ⟨time, hclock, -⟩, -⟩ := h
    have hok := prelude_eq_ok.mpr ⟨htoken, hclock⟩
    rw [hprelude] at hok
    cases hok
  · obtain ⟨htoken, hclock⟩ := prelude_eq_ok.mp hprelude
    let receipt (s : Settlement) (d' : Domain) : ReleaseReceipt :=
      { policySha256 := call.policy.digest S
        admissionReceiptSha256 := call.handle.admissionReceiptSha256
        claimSha256 := call.handle.claimSha256
        coordinationDomainSha256 := coordinationDomainSha256
        leaseId := call.handle.leaseId
        status := s.status
        reasonCodes := s.reasons
        deliveryStatus := call.deliveryStatus
        releasedAt := time
        activeLeasesAfter := d'.rows.length }
    rw [raised_changed_iff call.fault d d (settle S call.handle call.deliveryStatus d)
      (release S coordinationDomainSha256 call d)
      (fun s d' => (((receipt (cleanup call s d').1 d').construct S).mapError
        Failure.contract, (cleanup call s d').2))
      (.refl d) (fun _ _ => cleanup_unchanged)
      (fun failure d' h => by simp only [release, hprelude, h, and_self])
      (fun s d' h => by simp only [release, hprelude, h, receipt])]
    have hbuilt : ∀ s d', Settled S call.handle call.deliveryStatus d s d' →
        ((∃ built, ((receipt (cleanup call s d').1 d').construct S).mapError
            (Failure.contract (ε := ε)) = .ok built) ↔
          call.handle.Named ∧ IsTimestamp S time) := by
      intro s d' hsettled
      have hcoherent := cleanup_coherent call d' (settled_coherent hsettled)
      have hconstructed := @ReleaseReceipt.construct_isOk S (receipt (cleanup call s d').1 d')
        (S.isSha256_sha256Json call.policy.contentPayload) hdomain hcoherent.reasons
        hcoherent.released ((settled_rows_length hsettled).trans hlength)
      simp only [mapError_eq_ok]
      rw [hconstructed]
      exact ⟨fun ⟨⟨h1, h2, h3⟩, h⟩ => ⟨⟨h1, h2, h3⟩, h⟩, fun ⟨⟨h1, h2, h3⟩, h⟩ => ⟨⟨h1, h2, h3⟩, h⟩⟩
    rw [← settle_writes hu hvalid call htoken]
    constructor
    · rintro ⟨s, d', hbody, hchanged, hlost⟩
      rw [hbuilt s d' (settle_eq_ok hbody)] at hlost
      exact ⟨htoken, ⟨time, hclock, hlost⟩, s, d', hbody, hchanged⟩
    · rintro ⟨-, ⟨time', hclock', hlost⟩, s, d', hbody, hchanged⟩
      rw [hclock, Foreign.returned.injEq] at hclock'
      subst hclock'
      refine ⟨s, d', hbody, hchanged, ?_⟩
      rw [hbuilt s d' (settle_eq_ok hbody)]
      exact hlost

theorem rows_length_of_reachable (h : (ledger S coordinationDomainSha256 ε τ).Reachable d) :
    d.rows.length ≤ maxSqliteInteger := by
  have hstable : (ledger S coordinationDomainSha256 ε τ).Stable
      fun d => d.rows.length ≤ maxSqliteInteger := by
    intro d call hlength
    cases call with
    | acquire call =>
      rw [ledger_next_acquire]
      rcases evaluateAndAcquire_state S coordinationDomainSha256 call d with
        ⟨hrows, -⟩ | ⟨sentinel, receipt, context, d', -, -, hadmit, hrows, -⟩
      · rw [hrows]
        exact hlength
      · rw [hrows]
        obtain ⟨evaluation, scan, a, hadmitted, -⟩ := admitClaim_eq_ok hadmit
        by_cases hacquired : a.status = .acquired
        · obtain ⟨evaluatedAt, tick, -, -, hd'⟩ := hadmitted.acquired hacquired
          have hfree := assess_below_limit hadmitted.assessed hacquired
          have hlimit := call.policy.bounds.2.2
          rw [hd', List.length_append, List.length_singleton]
          omega
        · obtain ⟨-, hscanned, -⟩ := activeRows_eq_ok hadmitted.scanned
          rw [hadmitted.blocked hacquired]
          change scan.rows.length ≤ maxSqliteInteger
          rw [hscanned]
          exact (List.length_filterMap_le _ _).trans hlength
    | arm call =>
      rw [ledger_next_arm]
      rcases armDelivery_state S coordinationDomainSha256 call d with h | ⟨row, -, -, -, h⟩
      · rw [h]
        exact hlength
      · rw [h]
        exact (List.length_map _).trans_le hlength
    | release call =>
      rw [ledger_next_release]
      rcases release_state S coordinationDomainSha256 call d with
        ⟨hrows, -⟩ | ⟨s, d', hsettled, hrows, -⟩
      · rw [hrows]
        exact hlength
      · rw [hrows]
        exact (settled_rows_length hsettled).trans hlength
    | crash sentinel => exact hlength
  exact hstable.reachable (Nat.zero_le _) h

/-! ## Acquiring -/

theorem evaluateAndAcquire_torn (call : AcquireCall ε τ) (d : Domain) :
    ((∃ failure, (evaluateAndAcquire S coordinationDomainSha256 call d).1 = .error failure) ∧
      ¬d.Unchanged (evaluateAndAcquire S coordinationDomainSha256 call d).2) ↔
    call.fault.Loses True ∧ call.Writes S coordinationDomainSha256 d := by
  unfold AcquireCall.Writes
  rcases hlock : takeOwnerLock call d with e | sentinel
  · simp only [evaluateAndAcquire, hlock]
    exact ⟨fun h => absurd (Domain.Unchanged.refl d) h.2, by rintro ⟨_, _, _, _, h, _⟩; cases h⟩
  · let finish (answer : AdmissionReceipt × τ) (d' : Domain) :
        Except (Failure ε) (Acquisition τ) × Domain :=
      if answer.1.status = .acquired then
        (.ok ⟨answer.1, some ⟨call.leaseId.text, answer.1.digest S, answer.1.claimSha256,
          call.token.bytes, sentinel⟩, answer.2⟩, d')
      else (.ok ⟨answer.1, none, answer.2⟩, d'.free sentinel)
    have hanswered : ∀ answer d', ∃ acquisition, (finish answer d').1 = .ok acquisition := by
      intro answer d'
      simp only [finish]
      split <;> exact ⟨_, rfl⟩
    have hfinish : ∀ answer d', d.Unchanged (finish answer d').2 ↔ d.Unchanged d' := by
      intro answer d'
      simp only [finish]
      split
      · exact Iff.rfl
      · exact ⟨fun h => ⟨h.rows, h.quarantineState, h.quarantineEvidence⟩,
          fun h => ⟨h.rows, h.quarantineState, h.quarantineEvidence⟩⟩
    rw [raised_changed_iff call.fault d (d.hold sentinel)
      (admitClaim S coordinationDomainSha256 call (d.hold sentinel))
      (evaluateAndAcquire S coordinationDomainSha256 call d) finish
      ⟨rfl, rfl, rfl⟩ hfinish
      (fun failure d' h => by
        simp only [evaluateAndAcquire, hlock, h, true_and]
        exact ⟨fun h => ⟨h.rows, h.quarantineState, h.quarantineEvidence⟩,
          fun h => ⟨h.rows, h.quarantineState, h.quarantineEvidence⟩⟩)
      (fun answer d' h => by simp only [evaluateAndAcquire, hlock, h, finish])]
    have hquarantine : ∀ {answer d'},
        admitClaim S coordinationDomainSha256 call (d.hold sentinel) = .ok (answer, d') →
          (d.Unchanged d' ↔ d'.rows = d.rows) := by
      rintro ⟨receipt, context⟩ d' hadmit
      obtain ⟨evaluation, scan, a, hadmitted, -⟩ := admitClaim_eq_ok hadmit
      refine ⟨fun h => h.rows, fun hrows => ?_⟩
      by_cases hacquired : a.status = .acquired
      · obtain ⟨_, _, -, -, hd'⟩ := hadmitted.acquired hacquired
        exact ⟨hrows, by rw [hd']; rfl, by rw [hd']; rfl⟩
      · have hd' := hadmitted.blocked hacquired
        exact ⟨hrows, by rw [hd']; rfl, by rw [hd']; rfl⟩
    constructor
    · rintro ⟨answer, d', hadmit, hchanged, hlost⟩
      simp only [hanswered answer d'] at hlost
      exact ⟨hlost, sentinel, answer, d', rfl, hadmit, fun hrows =>
        hchanged ((hquarantine hadmit).mpr hrows)⟩
    · rintro ⟨hlost, sentinel', answer, d', hsentinel, hadmit, hrows⟩
      cases hsentinel
      refine ⟨answer, d', hadmit, fun h => hrows h.rows, ?_⟩
      simp only [hanswered answer d']
      exact hlost

/-! ## Every call in every run -/

theorem reserved_of_acquired {call : AcquireCall ε τ} {acquisition : Acquisition τ}
    (h : (evaluateAndAcquire S coordinationDomainSha256 call d).1 = .ok acquisition)
    (hacquired : acquisition.receipt.status = .acquired) :
    ∃ (handle : LeaseHandle) (row : LeaseRow), handle.token.length = 32 ∧
      handle.Authenticates S row ∧ row.state = .reserved ∧
      (evaluateAndAcquire S coordinationDomainSha256 call d).2.row handle.leaseId = some row := by
  obtain ⟨sentinel, d', -, -, hadmit, hstate, hreturned⟩ := evaluateAndAcquire_eq_ok h
  rw [if_pos hacquired] at hreturned hstate
  obtain ⟨hgenuine, -, howned⟩ := handle_of_acquired h hreturned
  obtain ⟨evaluation, scan, a, hadmitted, -⟩ := admitClaim_eq_ok hadmit
  obtain ⟨evaluatedAt, tick, habsent, -, hd'⟩ :=
    hadmitted.acquired (hadmitted.status ▸ hacquired)
  have hrow : (evaluateAndAcquire S coordinationDomainSha256 call d).2.row call.leaseId.text =
      some ((admittedRow S call evaluation.claim evaluation.snapshot acquisition.receipt
        evaluatedAt tick).sealed S) := by
    rw [hstate, hd']
    change Table.lookup LeaseRow.leaseId (scan.rows ++ [_]) call.leaseId.text = _
    rw [Table.lookup_append_single, habsent, Option.none_or]
    exact if_pos rfl
  exact ⟨_, _, hgenuine.token, howned _ hrow, rfl, hrow⟩

/-- A handle whose lease is armed while the wall clock says no time. -/
def untimedArm (handle : LeaseHandle) : ArmCall Empty where
  policy := sampleAcquire.policy
  handle := handle
  clock := .returned "soon"
  fault := .none

theorem not_isTimestamp_soon : ¬IsTimestamp Stdlib.cpython "soon" := by
  have hmalformed : Stdlib.cpython.parseTimestamp (strip "soon") = .malformed := by decide +kernel
  rintro ⟨instant, hinstant⟩
  rw [hmalformed] at hinstant
  cases hinstant

end LocalMoe.Lease
