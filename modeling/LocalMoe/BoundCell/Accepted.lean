/-
  What an exit must carry so that `finish` can report it.
-/
import LocalMoe.BoundCell.Run

namespace LocalMoe.BoundCell

open Foundation Contracts Lease

variable {S : Stdlib}

/-! ## Text -/

theorem utf8Bytes_length {point : Fin 0x110000} {bytes : List UInt8}
    (h : utf8Bytes point = some bytes) : 1 ≤ bytes.length := by
  unfold utf8Bytes at h
  split at h
  · cases h
    rw [String.length_utf8EncodeChar]
    exact Char.utf8Size_pos _
  · cases h

theorem length_le_encodeUtf8 {text : PyText} {bytes : List UInt8}
    (h : encodeUtf8 text = some bytes) : text.length ≤ bytes.length := by
  induction text generalizing bytes with
  | nil => exact Nat.zero_le _
  | cons point rest ih =>
    simp only [encodeUtf8, List.mapM_cons, Option.map_eq_some_iff,
      Option.bind_eq_bind, Option.bind_eq_some_iff, Option.pure_def,
      Option.some.injEq] at h
    obtain ⟨_, ⟨first, hfirst, others, hothers, rfl⟩, rfl⟩ := h
    have hrest : rest.length ≤ others.flatten.length := ih (by
      rw [encodeUtf8, hothers, Option.map_some])
    have := utf8Bytes_length hfirst
    rw [List.flatten_cons, List.length_append, List.length_cons]
    omega

/-! ## The receipt -/

/-- Every value a run has recorded is one its field accepts. -/
structure RunState.Typed (s : RunState) (started : Instant) : Prop where
  policy : isSha256 s.policySha256 = true
  task : isSha256 s.taskSha256 = true
  digests : ∀ field ∈ s.optionalDigests, ∀ d ∈ field.2, isSha256 d = true
  cell : ∀ c ∈ s.selectedCellId, isSafeId c = true ∧ strip c = c
  expert : ∀ c ∈ s.expertId, isSafeId c = true ∧ strip c = c
  started : s.startedAt = started.time.isoformat
  confirmed : s.confirmed = true
  taskBytes : 1 ≤ s.taskBytes ∧ s.taskBytes < 2 ^ 53

/-- A run that was stopped before its delivery. -/
structure Exit.Stopped (x : Exit) : Prop where
  status : x.status = .blocked
  reasons : x.reasons ≠ ∅
  attempts : x.progress.state.invocationAttempts = 0
  probes : x.progress.state.endpointProbeRequests ≤ 1
  delivery : x.progress.state.deliveryStatus = .notAttempted
  response : x.response = none

/-- The evidence of a run that completed. -/
structure RunState.Unchanged (s : RunState) : Prop where
  post : none ∉ s.post.digests
  request : s.pre.bindingRequestSha256 = s.post.bindingRequestSha256
  manifest : s.pre.bindingManifestSha256 = s.post.bindingManifestSha256
  config : s.preConfigSourceSha256 = s.postConfigSourceSha256
  model : s.preModelIdentitySetSha256 = s.postModelIdentitySetSha256

/-- A response a receipt can describe. -/
def Describable (s : RunState) (text : PyText) : Prop :=
  text ≠ [] ∧ s.deliveryStatus = .responseReceived ∧
    ∃ bytes, encodeUtf8 text = some bytes ∧ bytes.length < 2 ^ 53

structure Exit.Delivered (x : Exit) : Prop where
  status : x.status ≠ .blocked
  completed : x.status = .completed ↔ x.reasons = ∅
  attempts : x.progress.state.invocationAttempts = 1
  probes : x.progress.state.endpointProbeRequests = 2
  delivery : x.progress.state.deliveryStatus ≠ .notAttempted
  evidence : none ∉ x.progress.state.attemptedRequired
  response : ∀ text ∈ x.response, Describable x.progress.state text
  unchanged : x.status = .completed →
    x.progress.state.Unchanged ∧ x.response.isSome = true

/-- What the receipt's constructor asks of an exit. -/
structure Exit.Reportable (x : Exit) (started : Instant) : Prop where
  typed : x.progress.state.Typed started
  reasons : x.reasons ⊆ runReasonCodes
  shape : x.Stopped ∨ x.Delivered

theorem runReasonCodes_identifiers : ∀ c ∈ runReasonCodes, isSafeId c = true ∧ strip c = c := by
  decide +kernel

@[simp] theorem call_eq_ok {α : Type} {x : Except ContractError α} {a : α} :
    call x = .ok a ↔ x = .ok a := mapError_eq_ok

@[simp] theorem runInteger_eq_ok {value n : Nat} {label : String} :
    runInteger value label = .ok n ↔ isBinary64 value = true ∧ n = value := by
  unfold runInteger
  by_cases h : isBinary64 value = true <;> simp [h, eq_comm]

theorem optionalField_eq_ok {field : String × Option String}
    (h : ∀ d ∈ field.2, isSha256 d = true) : optionalField field = .ok () := by
  rw [optionalField, optionalSha_eq_ok.mpr ⟨h, rfl⟩]
  rfl

theorem optionalIdentifier_self {value : Option String} {label : String}
    (h : ∀ c ∈ value, isSafeId c = true ∧ strip c = c) :
    optionalIdentifier value label = .ok value := by
  cases value with
  | none => rfl
  | some c =>
    obtain ⟨hsafe, hstrip⟩ := h c rfl
    have hid : identifier c label = .ok c :=
      requireSafeId_eq_ok.mpr ⟨by rw [hstrip]; exact hsafe, hstrip.symm⟩
    rw [optionalIdentifier, hid]
    rfl

@[simp] theorem instant_isoformat (S : Stdlib) (d : DateTime) :
    instant S d.isoformat = d.ordinal := by
  rw [instant, S.parseTimestamp_isoformat]

section Receipt

variable {x : Exit} {started completed : Instant} {elapsed : Nat} {added : Finset String}
  {bytes : Option (List UInt8)}

theorem finalStatus_eq_completed {status : RunStatus} {reasons : Finset String} :
    finalStatus status reasons = .completed ↔ status = .completed ∧ reasons = ∅ := by
  unfold finalStatus
  by_cases hr : reasons = ∅
  · simp [hr]
  · cases status <;> simp [hr]

@[simp] theorem finalStatus_eq_blocked {status : RunStatus} {reasons : Finset String} :
    finalStatus status reasons = .blocked ↔ status = .blocked := by
  unfold finalStatus
  by_cases hr : reasons = ∅
  · simp [hr]
  · cases status <;> simp [hr]

theorem Exit.Reportable.finalStatus (h : x.Reportable started) (added : Finset String) :
    finalStatus x.status (x.reasons ∪ added) = .completed ↔ x.reasons ∪ added = ∅ := by
  rw [finalStatus_eq_completed]
  refine ⟨fun ⟨_, hempty⟩ => hempty, fun hempty => ⟨?_, hempty⟩⟩
  have hreasons : x.reasons = ∅ := (Finset.union_eq_empty.mp hempty).1
  rcases h.shape with hstopped | hdelivered
  · exact absurd hreasons hstopped.reasons
  · exact hdelivered.completed.mpr hreasons

theorem checkAttempt_receipt (h : x.Reportable started) :
    (x.receipt S completed elapsed added bytes).checkAttempt = .ok () := by
  have hconfirmed := h.typed.confirmed
  simp only [RunReceipt.checkAttempt, check_bind_eq_ok, check_eq_ok]
  simp only [Exit.receipt, ne_eq, finalStatus_eq_blocked, and_self, and_true]
  rcases h.shape with hs | hd
  · have hattempts := hs.attempts
    have hprobes := hs.probes
    exact ⟨⟨by omega, by omega⟩, .inr hattempts, .inl hs.status, .inr hs.delivery,
      .inl (by omega), .inr hconfirmed, .inl (by omega), .inr hprobes, .inl hconfirmed⟩
  · have hattempts := hd.attempts
    have hprobes := hd.probes
    exact ⟨⟨by omega, by omega⟩, .inl hd.status, .inr hattempts, .inl (by omega),
      .inr hd.delivery, .inr hconfirmed,
      .inr ⟨h.typed.taskBytes.1, hprobes, hd.evidence⟩, .inl (by omega), .inl hconfirmed⟩

theorem completedRequired_receipt (hd : x.Delivered)
    (hunchanged : x.progress.state.Unchanged) (hbytes : bytes ≠ none) :
    none ∉ (x.receipt S completed elapsed added bytes).completedRequired := by
  have hevidence := hd.evidence
  have hpost := hunchanged.post
  have hconfig := hunchanged.config
  have hmodel := hunchanged.model
  simp only [RunState.attemptedRequired, BindingEvidence.digests, List.mem_cons, not_or,
    List.not_mem_nil, not_false_eq_true, and_true] at hevidence hpost
  simp only [RunReceipt.completedRequired, Exit.receipt, List.mem_cons, not_or,
    List.not_mem_nil, not_false_eq_true, and_true, ← hconfig, ← hmodel]
  obtain ⟨h1, h2, h3, h4, h5, h6, h7, h8, h9, h10, h11⟩ := hevidence
  obtain ⟨p1, p2, p3, p4⟩ := hpost
  refine ⟨h1, h2, h3, h4, h5, h6, p1, h7, p2, h8, p3, h9, p4, h10, h10, h11, h11, ?_⟩
  intro hnone
  exact hbytes (Option.map_eq_none_iff.mp hnone.symm)

theorem responseBytes_eq_ok {response : Option PyText} (h : responseBytes response = .ok bytes) :
    (response = none ∧ bytes = none) ∨
      ∃ text encoded, response = some text ∧ encodeUtf8 text = some encoded ∧
        bytes = some encoded := by
  unfold responseBytes at h
  split at h
  · cases h
    exact .inl ⟨rfl, rfl⟩
  · rename_i text
    split at h
    · rename_i encoded hencoded
      cases h
      exact .inr ⟨text, encoded, rfl, hencoded, rfl⟩
    · cases h

theorem checkCompleted_receipt (h : x.Reportable started)
    (hbytes : responseBytes x.response = .ok bytes) :
    (x.receipt S completed elapsed added bytes).checkCompleted = .ok () := by
  simp only [RunReceipt.checkCompleted, check_bind_eq_ok, check_eq_ok]
  change (¬ LocalMoe.BoundCell.finalStatus x.status (x.reasons ∪ added) = .completed ∨ _) ∧
    (¬ LocalMoe.BoundCell.finalStatus x.status (x.reasons ∪ added) = .completed ∨ _)
  by_cases hcompleted : LocalMoe.BoundCell.finalStatus x.status (x.reasons ∪ added) = .completed
  · have hstatus := (finalStatus_eq_completed.mp hcompleted).1
    rcases h.shape with hs | hd
    · rw [hs.status] at hstatus
      cases hstatus
    · obtain ⟨hunchanged, hresponse⟩ := hd.unchanged hstatus
      have hsome : bytes ≠ none := by
        rcases responseBytes_eq_ok hbytes with ⟨hnone, -⟩ | ⟨_, _, _, _, rfl⟩
        · rw [hnone] at hresponse
          cases hresponse
        · exact Option.some_ne_none _
      exact ⟨.inr ⟨h.typed.confirmed, hd.probes, completedRequired_receipt hd hunchanged hsome⟩,
        .inr ⟨h.typed.taskBytes.1, hunchanged.manifest, hunchanged.request,
          hunchanged.config, hunchanged.model⟩⟩
  · exact ⟨.inl hcompleted, .inl hcompleted⟩

theorem checkResponse_receipt (h : x.Reportable started)
    (hbytes : responseBytes x.response = .ok bytes) :
    (x.receipt S completed elapsed added bytes).checkResponse = .ok () := by
  rcases responseBytes_eq_ok hbytes with ⟨hnone, rfl⟩ | ⟨text, encoded, hsome, hencoded, rfl⟩
  · unfold RunReceipt.checkResponse Exit.receipt
    simp [hnone]
  · rcases h.shape with hs | hd
    · rw [hs.response] at hsome
      cases hsome
    · obtain ⟨hnonempty, hreceived, encoded', hencoded', hbound⟩ := hd.response text hsome
      obtain rfl : encoded = encoded' := Option.some.inj (hencoded.symm.trans hencoded')
      have hlength := length_le_encodeUtf8 hencoded
      have hpos : 1 ≤ text.length := List.length_pos_of_ne_nil hnonempty
      unfold RunReceipt.checkResponse Exit.receipt
      simp only [Option.map_some, hsome, requiredInteger]
      rw [runInteger_eq_ok.mpr ⟨isBinary64_of_lt hbound, rfl⟩, ok_bind,
        runInteger_eq_ok.mpr ⟨isBinary64_of_lt (by omega), rfl⟩, ok_bind,
        check_bind_eq_ok, check_eq_ok]
      exact ⟨by omega, hreceived⟩

theorem construct_receipt (h : x.Reportable started) (hbytes : responseBytes x.response = .ok bytes)
    (htime : started.time.ordinal ≤ completed.time.ordinal)
    (hadded : added ⊆ runReasonCodes) (helapsed : isBinary64 elapsed = true) :
    (x.receipt S completed elapsed added bytes).construct S =
      .ok (x.receipt S completed elapsed added bytes) := by
  have hreasons : x.reasons ∪ added ⊆ runReasonCodes := Finset.union_subset h.reasons hadded
  have hstatus := h.finalStatus added
  have hresponse : ∀ d ∈ bytes.map S.sha256, isSha256 d = true := by
    intro d hd
    obtain ⟨_, _, rfl⟩ := Option.mem_map.mp hd
    exact S.sha256_hex _
  have hfields : (x.receipt S completed elapsed added bytes).optionalDigests.forM
      optionalField = .ok () :=
    forM_eq_ok fun field hmem => optionalField_eq_ok (h.typed.digests field hmem)
  simp only [RunReceipt.construct, bind_eq_ok, call_eq_ok]
  refine ⟨_, requireSha256_eq_ok.mpr ⟨h.typed.policy, rfl⟩, _,
    requireSha256_eq_ok.mpr ⟨h.typed.task, rfl⟩, (), hfields, _,
    optionalSha_eq_ok.mpr ⟨hresponse, rfl⟩, _, optionalIdentifier_self h.typed.cell, _,
    optionalIdentifier_self h.typed.expert, started.time.isoformat, ?_,
    completed.time.isoformat, S.requireUtcTimestamp_isoformat _ _, (), ?_, _,
    requireIdentifiers_eq_ok.mpr ⟨fun c hc => runReasonCodes_identifiers c (hreasons hc), rfl⟩, (),
    check_of hreasons, (), ?_, (), ?_, _,
    runInteger_eq_ok.mpr ⟨isBinary64_of_lt h.typed.taskBytes.2, rfl⟩, _,
    runInteger_eq_ok.mpr ⟨helapsed, rfl⟩, (), checkAttempt_receipt h, (),
    checkCompleted_receipt h hbytes, (), checkResponse_receipt h hbytes, (), check_of rfl, ?_⟩
  · rw [show (x.receipt S completed elapsed added bytes).startedAt = started.time.isoformat
      from h.typed.started]
    exact S.requireUtcTimestamp_isoformat _ _
  · rw [instant_isoformat, instant_isoformat]
    exact check_of htime
  · exact check_of (not_or_of_imp hstatus.mp)
  · refine check_of ?_
    by_cases hc : x.reasons ∪ added = ∅
    · exact .inl (hstatus.mpr hc)
    · exact .inr hc
  · rw [← h.typed.started]
    rfl

end Receipt

/-! ## The clocks of `finish` -/

/-- The reasons the clocks of `finish` may add. -/
def finishReasons : Finset String := {"clock_invalid", "execution_interrupted"}

theorem finishReasons_subset : finishReasons ⊆ runReasonCodes := by decide

theorem clockReasons_subset (e : ForeignException) : clockReasons e ⊆ finishReasons := by
  cases e with
  | interrupt i => exact Finset.Subset.refl _
  | _ => exact (by decide : ({"clock_invalid"} : Finset String) ⊆ finishReasons)

theorem completedTime_ordered (started : Instant) (clock : Except ForeignException WallClock) :
    started.time.ordinal ≤ (completedTime started clock).1.time.ordinal ∧
      (completedTime started clock).2.1 ⊆ finishReasons := by
  unfold completedTime
  cases wallTime clock with
  | error e => exact ⟨Nat.le_refl _, clockReasons_subset e⟩
  | ok completed =>
    by_cases hbefore : completed.before started
    · simp only [if_pos hbefore]
      exact ⟨Nat.le_refl _, by decide⟩
    · simp only [if_neg hbefore]
      refine ⟨?_, Finset.empty_subset _⟩
      unfold Instant.before at hbefore
      omega

theorem elapsedTime_exact (rt : Runtime) (startedTick : ℚ)
    (clock : Except ForeignException MonotonicClock) :
    isBinary64 (elapsedTime rt startedTick clock).1 = true ∧
      (elapsedTime rt startedTick clock).2.1 ⊆ finishReasons := by
  have hzero : isBinary64 0 = true := isBinary64_of_lt (by decide)
  unfold elapsedTime
  cases monotonicSeconds clock with
  | error e => exact ⟨hzero, clockReasons_subset e⟩
  | ok completed =>
    by_cases hbefore : completed < startedTick
    · simp only [if_pos hbefore]
      exact ⟨hzero, by decide⟩
    · simp only [if_neg hbefore]
      cases hms : rt.elapsedMs completed startedTick with
      | none => exact ⟨hzero, by decide⟩
      | some n => exact ⟨rt.elapsedMs_exact _ _ _ hms, Finset.empty_subset _⟩

/-! ## The envelope -/

/-- The settlement that the envelope holds against a run: the lease went back, and the
run did not expect it to. -/
def Progress.Conflicts (p : Progress) : Prop :=
  p.leaseErrorCode = some .leaseReleaseFailed ∧
    ∃ release ∈ p.leaseRelease, release.status = .released

/-- The claim of a run, as its receipt names it. -/
structure Progress.Claims (S : Stdlib) (p : Progress) (claim : CooperativeResourceClaim)
    (admission : AdmissionReceipt) : Prop where
  hasClaim : p.leaseClaim = some claim
  hasAdmission : p.leaseAdmission = some admission
  preview : p.state.previewSha256 = some claim.previewSha256
  passport : p.state.passportSha256 = some claim.passportSha256
  admitted : validateClaimAdmission S claim admission = .ok ()

def ReleaseReceipt.Expected (release : ReleaseReceipt) : Prop :=
  release.status ∈ expectedStatuses release.deliveryStatus

/-- The lease of a run that acquired one. -/
structure Progress.Leased (S : Stdlib) (p : Progress) (claim : CooperativeResourceClaim)
    (admission : AdmissionReceipt) : Prop extends p.Claims S claim admission where
  acquired : admission.status = .acquired
  error : p.leaseErrorCode ∈ [none, some .leaseTransitionFailed, some .leaseReleaseFailed]
  transition : ∀ t ∈ p.leaseTransition,
    Lineage.ofTransition t = .ofAdmission S admission claim
  release : ∀ r ∈ p.leaseRelease, Lineage.ofRelease r = .ofAdmission S admission claim
  delivery : ∀ r ∈ p.leaseRelease, r.deliveryStatus = p.state.deliveryStatus
  applied : RunEnvelope.applied p.leaseTransition = true ↔ p.state.invocationAttempts = 1
  settled : p.leaseErrorCode = none → p.leaseRelease ≠ none
  untouched : p.leaseErrorCode = some .leaseTransitionFailed → p.state.invocationAttempts = 0
  expected : p.leaseErrorCode ≠ some .leaseReleaseFailed →
    ∀ r ∈ p.leaseRelease, ReleaseReceipt.Expected r

/-- The lease of a run that was not given one. -/
structure Exit.Denied (S : Stdlib) (x : Exit) (claim : CooperativeResourceClaim)
    (admission : AdmissionReceipt) : Prop extends x.progress.Claims S claim admission where
  denied : admission.status ≠ .acquired
  stopped : x.Stopped
  transition : x.progress.leaseTransition = none
  release : x.progress.leaseRelease = none
  error : x.progress.leaseErrorCode = none
  surfaced : "adaptive_admission_blocked" ∈ x.reasons

/-- A run that never got as far as an admission. -/
structure Exit.Unleased (x : Exit) : Prop where
  stopped : x.Stopped
  claim : x.progress.leaseClaim = none
  admission : x.progress.leaseAdmission = none
  transition : x.progress.leaseTransition = none
  release : x.progress.leaseRelease = none
  error : x.progress.leaseErrorCode ∈ [none, some .adaptivePreviewBlocked,
    some .adaptivePreviewInvalid, some .leaseStoreFailed]

/-- What the envelope's constructor asks of an exit. -/
def Exit.Traced (S : Stdlib) (x : Exit) : Prop :=
  x.Unleased ∨ (∃ claim admission, x.Denied S claim admission) ∨
    ∃ claim admission, x.progress.Leased S claim admission

section Envelope

variable {x : Exit} {completed : Instant} {elapsed : Nat} {added : Finset String}
  {bytes : Option (List UInt8)} {claim : CooperativeResourceClaim}
  {admission : AdmissionReceipt}

theorem validateLineage_self (what : String) (l : Lineage) : validateLineage what l l = .ok () := by
  simp only [validateLineage, check_bind_eq_ok, check_eq_ok, and_self]

theorem validateLeaseLineage_unleased (h : x.Unleased) :
    (x.envelope S (x.receipt S completed elapsed added bytes)).validateLeaseLineage S = .ok () := by
  have hwithout : (x.envelope S (x.receipt S completed elapsed added bytes)).WithoutLease :=
    ⟨by rw [Exit.envelope, h.claim]; rfl, h.admission, h.transition, h.release⟩
  rw [RunEnvelope.validateLeaseLineage, if_pos hwithout, RunEnvelope.validatePreLease,
    check_bind_eq_ok, check_eq_ok]
  exact ⟨⟨finalStatus_eq_blocked.mpr h.stopped.status, h.stopped.attempts,
    h.stopped.delivery⟩, h.error⟩

theorem validateLeaseLineage_claims (h : x.progress.Claims S claim admission) :
    (x.envelope S (x.receipt S completed elapsed added bytes)).validateLeaseLineage S =
      if admission.status ≠ .acquired then
        (x.envelope S (x.receipt S completed elapsed added bytes)).validateDenied
      else (x.envelope S (x.receipt S completed elapsed added bytes)).validateAcquired S admission
          claim := by
  have hwith : ¬ (x.envelope S (x.receipt S completed elapsed added bytes)).WithoutLease := by
    rintro ⟨-, hnone, -, -⟩
    rw [Exit.envelope, h.hasAdmission] at hnone
    cases hnone
  rw [RunEnvelope.validateLeaseLineage, if_neg hwith]
  generalize henvelope : x.envelope S (x.receipt S completed elapsed added bytes) = e
  have hclaim : e.leaseClaim = some claim := by rw [← henvelope]; exact h.hasClaim
  have hadmission : e.leaseAdmissionReceipt = some admission := by
    rw [← henvelope]
    exact h.hasAdmission
  have hpreview : e.runReceipt.previewSha256 = some claim.previewSha256 := by
    rw [← henvelope]
    exact h.preview
  have hpassport : e.runReceipt.passportSha256 = some claim.passportSha256 := by
    rw [← henvelope]
    exact h.passport
  simp only [hclaim, hadmission, check_of hpreview, check_of hpassport, h.admitted, ok_bind]

theorem validateLeaseLineage_denied (h : x.Denied S claim admission) :
    (x.envelope S (x.receipt S completed elapsed added bytes)).validateLeaseLineage S = .ok () := by
  rw [validateLeaseLineage_claims h.toClaims, if_pos h.denied, RunEnvelope.validateDenied,
    check_bind_eq_ok, check_bind_eq_ok, check_bind_eq_ok, check_eq_ok]
  exact ⟨⟨h.transition, h.release⟩,
    ⟨finalStatus_eq_blocked.mpr h.stopped.status, h.stopped.attempts, h.stopped.delivery⟩,
    Finset.mem_union_left _ h.surfaced, h.error⟩

theorem Progress.Leased.validateTransition (h : x.progress.Leased S claim admission) :
    validateTransition S admission claim x.progress.leaseTransition = .ok () := by
  cases ht : x.progress.leaseTransition with
  | none => rfl
  | some t =>
    rw [LocalMoe.BoundCell.validateTransition, h.transition t ht]
    exact validateLineage_self _ _

theorem Progress.Leased.validateRelease (h : x.progress.Leased S claim admission) :
    validateRelease S admission claim x.progress.leaseRelease = .ok () := by
  cases hr : x.progress.leaseRelease with
  | none => rfl
  | some r =>
    rw [LocalMoe.BoundCell.validateRelease, h.release r hr]
    exact validateLineage_self _ _

theorem ReleaseReceipt.Expected.success {release : ReleaseReceipt}
    (h : ReleaseReceipt.Expected release) :
    (release.status = .released ∨ release.status = .releasedCleanupDeferred) ∨
      release.status = .unknownBlocking ∧ release.deliveryStatus = .attemptedUnknown := by
  unfold ReleaseReceipt.Expected at h
  cases hd : release.deliveryStatus <;>
    simp_all [expectedStatuses]

theorem validateLeaseLineage_leased (hshape : x.Stopped ∨ x.Delivered)
    (h : x.progress.Leased S claim admission) :
    (x.envelope S (x.receipt S completed elapsed added bytes)).validateLeaseLineage S =
      .ok () ↔ ¬ x.progress.Conflicts := by
  have hattempts : x.progress.state.invocationAttempts = 0 ∨
      x.progress.state.invocationAttempts = 1 := by
    rcases hshape with hs | hd
    · exact .inl hs.attempts
    · exact .inr hd.attempts
  have happlied := h.applied
  rw [validateLeaseLineage_claims h.toClaims, if_neg (not_not_intro h.acquired)]
  have htransition : validateTransition S admission claim (x.envelope S
      (x.receipt S completed elapsed added bytes)).leaseTransitionReceipt = .ok () :=
    h.validateTransition
  have hrelease : validateRelease S admission claim (x.envelope S
      (x.receipt S completed elapsed added bytes)).leaseReleaseReceipt = .ok () :=
    h.validateRelease
  simp only [RunEnvelope.validateAcquired, htransition, hrelease, check_bind_eq_ok,
    check_eq_ok, ok_bind]
  dsimp only [Exit.envelope, Exit.receipt]
  constructor
  · rintro ⟨-, -, -, -, -, -, -, -, hconflict, -⟩ ⟨herror, release, hrelease, hstatus⟩
    exact hconflict.elim (fun hne => hne herror) fun hall => hall release hrelease hstatus
  · intro hconflict
    have hcheck : x.progress.leaseErrorCode ∉
        [some .adaptivePreviewBlocked, some .adaptivePreviewInvalid, some .leaseStoreFailed] := by
      have herror := h.error
      intro hmem
      simp only [List.mem_cons, List.not_mem_nil, or_false] at herror hmem
      rcases herror with he | he | he <;> rw [he] at hmem <;> simp at hmem
    have hunattempted : x.progress.state.invocationAttempts = 0 →
        RunEnvelope.applied x.progress.leaseTransition = false := by
      intro hzero
      rw [← Bool.not_eq_true, happlied]
      omega
    have hsettled : x.progress.leaseErrorCode = none → ∃ release ∈ x.progress.leaseRelease,
          release.deliveryStatus = x.progress.state.deliveryStatus := by
      intro hnone
      obtain ⟨release, hrelease⟩ := Option.ne_none_iff_exists'.mp (h.settled hnone)
      exact ⟨release, hrelease, h.delivery release hrelease⟩
    refine ⟨hcheck, ?_, ?_, h.delivery, ?_, ?_, ?_, ?_, ?_, ?_⟩
    · rcases hattempts with hzero | hone
      · exact .inl (by omega)
      · exact .inr (happlied.mpr hone)
    · rcases hattempts with hzero | hone
      · exact .inr (hunattempted hzero)
      · exact .inl hone
    · rw [or_iff_not_imp_left, not_not]
      rintro ⟨hzero, hnone⟩
      obtain ⟨release, hrelease, hdelivery⟩ := hsettled hnone
      refine ⟨release, hrelease, hdelivery.trans ?_⟩
      rcases hshape with hs | hd
      · exact hs.delivery
      · exact absurd hd.attempts (by omega)
    · rintro ⟨-, hnone, hmissing⟩
      exact h.settled hnone hmissing
    · exact not_or_of_imp h.untouched
    · exact not_or_of_imp fun herror => hunattempted (h.untouched herror)
    · refine not_or_of_imp fun herror release hrelease hstatus => ?_
      exact hconflict ⟨herror, release, hrelease, hstatus⟩
    · rw [or_iff_not_imp_left]
      intro herror release hrelease
      exact (h.expected herror release hrelease).success

theorem construct_envelope (hshape : x.Stopped ∨ x.Delivered) (h : x.Traced S) :
    (∃ e, (x.envelope S (x.receipt S completed elapsed added bytes)).construct S = .ok e) ↔
      ¬ x.progress.Conflicts := by
  have hconstruct : (∃ e, (x.envelope S
      (x.receipt S completed elapsed added bytes)).construct S = .ok e) ↔
      (x.envelope S (x.receipt S completed elapsed added bytes)).validateLeaseLineage S =
        .ok () := by
    have hsha : sha (x.envelope S (x.receipt S completed elapsed added bytes)).runReceiptSha256
        "run_receipt_sha256" = .ok _ :=
      requireSha256_eq_ok.mpr ⟨S.isSha256_sha256Json _, rfl⟩
    simp only [RunEnvelope.construct, bind_eq_ok, call_eq_ok, pure_eq_ok_iff]
    constructor
    · rintro ⟨_, _, -, _, -, _, hlineage, -⟩
      exact hlineage
    · intro hlineage
      exact ⟨_, _, hsha, (), check_of rfl, (), hlineage, rfl⟩
  rw [hconstruct]
  rcases h with hunleased | ⟨claim, admission, hdenied⟩ | ⟨claim, admission, hleased⟩
  · refine iff_of_true (validateLeaseLineage_unleased hunleased) ?_
    rintro ⟨-, release, hrelease, -⟩
    rw [hunleased.release] at hrelease
    cases hrelease
  · refine iff_of_true (validateLeaseLineage_denied hdenied) ?_
    rintro ⟨-, release, hrelease, -⟩
    rw [hdenied.release] at hrelease
    cases hrelease
  · exact validateLeaseLineage_leased hshape hleased

end Envelope

/-! ## Finishing -/

theorem Exit.Reportable.responseBytes {x : Exit} {started : Instant}
    (h : x.Reportable started) : ∃ bytes, responseBytes x.response = .ok bytes := by
  rcases h.shape with hs | hd
  · rw [hs.response]
    exact ⟨none, rfl⟩
  · cases hr : x.response with
    | none => exact ⟨none, rfl⟩
    | some text =>
      obtain ⟨-, -, bytes, hbytes, -⟩ := hd.response text hr
      exact ⟨some bytes, by rw [LocalMoe.BoundCell.responseBytes, hbytes]⟩

theorem finish_returns_iff (rt : Runtime) (started : Instant) (startedTick : ℚ)
    (script : Script) {x : Exit} (hreport : x.Reportable started) (htrace : x.Traced S) :
    (∃ result, finish S rt started startedTick script x = .ok result) ↔ ¬ x.progress.Conflicts := by
  obtain ⟨bytes, hbytes⟩ := hreport.responseBytes
  obtain ⟨htime, hadded⟩ := completedTime_ordered started script.finishClock
  obtain ⟨helapsed, hadded'⟩ := elapsedTime_exact rt startedTick script.finishTick
  have hreceipt := construct_receipt (S := S) hreport hbytes htime
    (Finset.union_subset (hadded.trans finishReasons_subset)
      (hadded'.trans finishReasons_subset)) helapsed
  rw [← construct_envelope (S := S) hreport.shape htrace]
  simp only [finish, hbytes, ok_bind, hreceipt, Except.mapError]
  cases (x.envelope S _).construct S with
  | error e => exact iff_of_false (fun ⟨_, h⟩ => by cases h) (fun ⟨_, h⟩ => by cases h)
  | ok e => exact iff_of_true ⟨_, rfl⟩ ⟨e, rfl⟩

end LocalMoe.BoundCell
