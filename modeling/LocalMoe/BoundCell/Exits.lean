/-
  The exits of a run before its delivery.
-/
import LocalMoe.BoundCell.Accepted

namespace LocalMoe.BoundCell

open Foundation Contracts Lease

variable {S : Stdlib} {σ : Type}

/-! ## Reasons -/

theorem stableReasons_subset : stableReasons ⊆ runReasonCodes := by decide +kernel

theorem stableReason_mem {code fallback : String} (h : fallback ∈ runReasonCodes) :
    stableReason code fallback ∈ runReasonCodes := by
  unfold stableReason
  by_cases hcode : code ∈ stableReasons
  · rw [if_pos hcode]
    exact stableReasons_subset hcode
  · rw [if_neg hcode]
    exact h

theorem ForeignException.reason_mem {fallback : String} (h : fallback ∈ runReasonCodes)
    (e : ForeignException) : e.reason fallback ∈ runReasonCodes := by
  cases e with
  | transport code received => exact stableReason_mem h
  | _ => exact h

theorem ForeignException.reasons_subset {fallback : String} (h : fallback ∈ runReasonCodes)
    (e : ForeignException) : e.reasons fallback ⊆ runReasonCodes := by
  cases e with
  | interrupt i =>
    exact Finset.insert_subset (by decide) (Finset.singleton_subset_iff.mpr h)
  | _ => exact Finset.singleton_subset_iff.mpr (ForeignException.reason_mem h _)

theorem ForeignException.reasons_ne_empty (fallback : String) (e : ForeignException) :
    e.reasons fallback ≠ ∅ := by
  cases e with
  | interrupt i => exact Finset.insert_ne_empty _ _
  | _ => exact Finset.singleton_ne_empty _

theorem unsettled_subset (ok : Bool) : unsettled ok ⊆ runReasonCodes := by
  cases ok <;> decide

theorem reasonIf_subset {condition : Prop} [Decidable condition] {code : String}
    (h : code ∈ runReasonCodes) : reasonIf condition code ⊆ runReasonCodes := by
  unfold reasonIf
  by_cases hc : condition
  · rw [if_pos hc]
    exact Finset.singleton_subset_iff.mpr h
  · rw [if_neg hc]
    exact Finset.empty_subset _

theorem responseReceived_iff (outcome : Except ForeignException PyText) :
    (deliver outcome).responseReceived = true ↔ Responded outcome := by
  rcases outcome with (e | text)
  · cases e <;> simp [deliver, Responded]
  · simp [deliver, Responded]

/-! ## Recorded values -/

section Typed

variable {s : RunState} {started : Instant}

theorem typed_initialState {inputs : RunInputs} (hconfirmed : inputs.confirmed = true)
    (hempty : (encodeUtf8 inputs.task).getD [] ≠ [])
    (hbound : ((encodeUtf8 inputs.task).getD []).length ≤ inputs.policy.maxTaskBytes) :
    (initialState S inputs started).Typed started where
  policy := inputs.policy.digest.property
  task := S.sha256_hex _
  digests := by
    simp only [initialState, RunState.optionalDigests, List.forall_mem_cons, Option.not_mem_none,
      false_implies, implies_true, List.not_mem_nil, and_self]
  cell := by simp [initialState]
  expert := by simp [initialState]
  started := rfl
  confirmed := hconfirmed
  taskBytes := by
    have hpos := List.length_pos_of_ne_nil hempty
    have hmax := inputs.policy.bounds.1.2
    exact ⟨hpos, by change ((encodeUtf8 inputs.task).getD []).length < _; omega⟩

theorem forall_optionalDigests :
    (∀ field ∈ s.optionalDigests, ∀ d ∈ field.2, isSha256 d = true) ↔
      (∀ d ∈ s.previewSha256, isSha256 d = true) ∧
      (∀ d ∈ s.passportSha256, isSha256 d = true) ∧
      (∀ d ∈ s.declarationSha256, isSha256 d = true) ∧
      (∀ v ∈ s.pre.digests, ∀ d ∈ v, isSha256 d = true) ∧
      (∀ v ∈ s.post.digests, ∀ d ∈ v, isSha256 d = true) ∧
      (∀ d ∈ s.preConfigSourceSha256, isSha256 d = true) ∧
      (∀ d ∈ s.postConfigSourceSha256, isSha256 d = true) ∧
      (∀ d ∈ s.preModelIdentitySetSha256, isSha256 d = true) ∧
      (∀ d ∈ s.postModelIdentitySetSha256, isSha256 d = true) := by
  simp only [RunState.optionalDigests, BindingEvidence.digests, List.forall_mem_cons,
    List.not_mem_nil, false_implies, implies_true, and_true, and_assoc]

theorem isSha256_some (d : Digest) : ∀ v ∈ some d.val, isSha256 v = true := by
  rintro v hv
  cases hv
  exact d.property

theorem isSha256_map (d : Option Digest) : ∀ v ∈ d.map Subtype.val, isSha256 v = true := by
  intro v hv
  obtain ⟨d', -, rfl⟩ := Option.mem_map.mp hv
  exact d'.property

theorem isSha256_recordBinding (bundle : InspectionBundle) :
    ∀ v ∈ (recordBinding bundle).digests, ∀ d ∈ v, isSha256 d = true := by
  simp only [recordBinding, BindingEvidence.digests, List.forall_mem_cons, List.not_mem_nil,
    false_implies, implies_true, and_true]
  exact ⟨isSha256_some _, isSha256_some _, isSha256_some _, isSha256_some _⟩

theorem none_not_mem_recordBinding (bundle : InspectionBundle) :
    none ∉ (recordBinding bundle).digests := by
  simp [recordBinding, BindingEvidence.digests]

/-- The state after the first inspection and the validation of the binding. -/
def boundState (s : RunState) (target : ResolvedTarget) (pre : InspectionBundle) : RunState :=
  { s with
    pre := recordBinding pre
    declarationSha256 := some target.passport.declaration.digest.val
    expertId := some target.expert.id
    preConfigSourceSha256 := some target.configSourceSha256.val }

theorem RunState.Typed.bound (h : s.Typed started) {target : ResolvedTarget}
    {pre : InspectionBundle} (hexpert : target.expert.id = target.request.expertId.val) :
    (boundState s target pre).Typed started := by
  obtain ⟨h1, h2, -, -, h5, h6, h7, h8, h9⟩ := forall_optionalDigests.mp h.digests
  refine { h with
    digests := forall_optionalDigests.mpr ⟨h1, h2, isSha256_some _, isSha256_recordBinding pre,
      h5, isSha256_some _, h7, h8, h9⟩
    expert := ?_ }
  rintro c hc
  cases hc
  rw [hexpert]
  exact target.request.expertId.property

theorem RunState.Typed.withPost (h : s.Typed started) (post : InspectionBundle) :
    ({ s with post := recordBinding post } : RunState).Typed started := by
  obtain ⟨h1, h2, h3, h4, -, h6, h7, h8, h9⟩ := forall_optionalDigests.mp h.digests
  exact { h with
    digests := forall_optionalDigests.mpr ⟨h1, h2, h3, h4, isSha256_recordBinding post, h6, h7,
      h8, h9⟩ }

theorem RunState.Typed.withPostConfig (h : s.Typed started) (d : Digest) :
    ({ s with postConfigSourceSha256 := some d.val } : RunState).Typed started := by
  obtain ⟨h1, h2, h3, h4, h5, h6, -, h8, h9⟩ := forall_optionalDigests.mp h.digests
  exact { h with
    digests := forall_optionalDigests.mpr ⟨h1, h2, h3, h4, h5, h6, isSha256_some d, h8, h9⟩ }

theorem RunState.Typed.withPreModel (h : s.Typed started) (d : Digest) :
    ({ s with preModelIdentitySetSha256 := some d.val } : RunState).Typed started := by
  obtain ⟨h1, h2, h3, h4, h5, h6, h7, -, h9⟩ := forall_optionalDigests.mp h.digests
  exact { h with
    digests := forall_optionalDigests.mpr ⟨h1, h2, h3, h4, h5, h6, h7, isSha256_some d, h9⟩ }

theorem RunState.Typed.withPostModel (h : s.Typed started) (d : Digest) :
    ({ s with postModelIdentitySetSha256 := some d.val } : RunState).Typed started := by
  obtain ⟨h1, h2, h3, h4, h5, h6, h7, h8, -⟩ := forall_optionalDigests.mp h.digests
  exact { h with
    digests := forall_optionalDigests.mpr ⟨h1, h2, h3, h4, h5, h6, h7, h8, isSha256_some d⟩ }

theorem typed_recordPreview {p : Progress} (h : p.state.Typed started)
    (preview : PreviewReceipt) : (p.recordPreview preview).state.Typed started := by
  obtain ⟨-, -, h3, h4, h5, h6, h7, h8, h9⟩ := forall_optionalDigests.mp h.digests
  refine { h with
    digests := forall_optionalDigests.mpr ⟨isSha256_some _, isSha256_map _, h3, h4, h5, h6, h7,
      h8, h9⟩
    cell := ?_ }
  intro c hc
  obtain ⟨c', -, rfl⟩ := Option.mem_map.mp hc
  exact c'.property

end Typed

/-! ## Runs that have not delivered -/

/-- The state of a run before its delivery. -/
structure RunState.Pending (s : RunState) (started : Instant) : Prop where
  typed : s.Typed started
  attempts : s.invocationAttempts = 0
  probes : s.endpointProbeRequests ≤ 1
  delivery : s.deliveryStatus = .notAttempted

variable {reasons : Finset String}

theorem RunState.Pending.stopped {p : Progress} {started : Instant} (h : p.state.Pending started)
    (hreasons : reasons ≠ ∅) :
    (blocked p reasons).Stopped :=
  ⟨rfl, hreasons, h.attempts, h.probes, h.delivery, rfl⟩

theorem RunState.Pending.reportable {p : Progress} {started : Instant}
    (h : p.state.Pending started) (hreasons : reasons ≠ ∅) (hcodes : reasons ⊆ runReasonCodes) :
    (blocked p reasons).Reportable started :=
  ⟨h.typed, hcodes, .inl (h.stopped hreasons)⟩

/-- A run without evidence of a lease. -/
structure Progress.Fresh (p : Progress) : Prop where
  claim : p.leaseClaim = none
  admission : p.leaseAdmission = none
  transition : p.leaseTransition = none
  release : p.leaseRelease = none

theorem Progress.Fresh.unleased {p : Progress} {started : Instant} (h : p.Fresh)
    (hpending : p.state.Pending started) (hreasons : reasons ≠ ∅)
    (herror : p.leaseErrorCode ∈
      [none, some .adaptivePreviewBlocked, some .adaptivePreviewInvalid, some .leaseStoreFailed]) :
    (blocked p reasons).Unleased :=
  ⟨hpending.stopped hreasons, h.claim, h.admission, h.transition, h.release, herror⟩

/-- What `finish` needs to return on an exit, and that the settlement does not conflict. -/
structure Exit.Settles (S : Stdlib) (x : Exit) (started : Instant) : Prop where
  reportable : x.Reportable started
  traced : x.Traced S
  agrees : ¬ x.progress.Conflicts

theorem Progress.Fresh.settles {p : Progress} {started : Instant} (h : p.Fresh)
    (hpending : p.state.Pending started) (hreasons : reasons ≠ ∅)
    (hcodes : reasons ⊆ runReasonCodes)
    (herror : p.leaseErrorCode ∈
      [none, some .adaptivePreviewBlocked, some .adaptivePreviewInvalid, some .leaseStoreFailed]) :
    (blocked p reasons).Settles S started := by
  refine ⟨hpending.reportable hreasons hcodes,
    .inl (h.unleased hpending hreasons herror), ?_⟩
  rintro ⟨-, release, hrelease, -⟩
  rw [show (blocked p reasons).progress.leaseRelease = none from h.release] at hrelease
  cases hrelease

/-- A run before its lease: nothing recorded about one, and no error. -/
structure Progress.Ready (p : Progress) (started : Instant) : Prop extends p.Fresh where
  pending : p.state.Pending started
  error : p.leaseErrorCode = none

section Phases

variable {rt : Runtime} {inputs : RunInputs} {script : Script} {store : LeaseStore S σ}
  {started : Instant} {p : Progress} {target : ResolvedTarget} {pre : InspectionBundle}

/-! ## Before the lease -/

theorem validateBinding_eq_ok (h : validateBinding rt target pre = .ok ()) :
    target.expert.id = target.request.expertId.val ∧
      pre.manifest.declarationSha256 = target.passport.declaration.digest ∧
      ∃ url, baseUrl rt target.expert = .ok url := by
  unfold validateBinding at h
  simp only [↓check_bind_eq_ok, bind_eq_ok] at h
  obtain ⟨-, -, -, hdeclaration, ⟨-, hexpert⟩, -, -, -, -, -, -, url, hurl, -⟩ := h
  exact ⟨hexpert, hdeclaration, url, hurl⟩

variable {p' : Progress}

theorem bindingPhase_eq_ok (h : bindingPhase rt script p = .ok (.ok (p', target, pre))) :
    validateBinding rt target pre = .ok () ∧
      p' = { p with
        publicationRoots := pre.publicationProtectedRoots
        state := boundState p.state target pre } := by
  unfold bindingPhase at h
  split at h
  · rename_i bound hbound
    cases h
    simp only [inspectBinding, bind_eq_ok, mapError_eq_ok, pure_eq_ok_iff] at hbound
    obtain ⟨_, -, _, -, _, -, _, hvalid, hresult⟩ := hbound
    cases hresult
    exact ⟨hvalid, rfl⟩
  · cases h
  · cases h

theorem ready_of_bound (hready : p.Ready started)
    (h : bindingPhase rt script p = .ok (.ok (p', target, pre))) : p'.Ready started := by
  obtain ⟨hvalid, rfl⟩ := bindingPhase_eq_ok h
  obtain ⟨hexpert, -, -⟩ := validateBinding_eq_ok hvalid
  exact
    { claim := hready.claim
      admission := hready.admission
      transition := hready.transition
      release := hready.release
      error := hready.error
      pending := ⟨hready.pending.typed.bound hexpert, hready.pending.attempts,
        hready.pending.probes, hready.pending.delivery⟩ }

theorem ready_initial (hgate : gatePhase inputs { state := initialState S inputs started } =
    .ok ()) : Progress.Ready { state := initialState S inputs started } started := by
  simp only [gatePhase, check_bind_eq_ok, check_eq_ok] at hgate
  obtain ⟨hconfirmed, -, hempty, hbound⟩ := hgate
  exact
    { claim := rfl
      admission := rfl
      transition := rfl
      release := rfl
      error := rfl
      pending := ⟨typed_initialState hconfirmed hempty hbound, rfl, Nat.zero_le _, rfl⟩ }

theorem Progress.Ready.interrupt (h : p.Ready started) (e : ForeignException) :
    (p.interrupt e).Ready started :=
  { h with }

theorem Progress.Ready.stop (h : p.Ready started) (hreasons : reasons ≠ ∅)
    (hcodes : reasons ⊆ runReasonCodes) :
    (blocked p reasons).Settles S started :=
  h.toFresh.settles h.pending hreasons hcodes (by simp [h.error])

theorem Progress.Ready.failWith (h : p.Ready started) {code : LeaseErrorCode}
    (hcode : some code ∈ [none, some .adaptivePreviewBlocked, some .adaptivePreviewInvalid,
      some .leaseStoreFailed])
    (hreasons : reasons ≠ ∅) (hcodes : reasons ⊆ runReasonCodes) :
    (blocked (p.fail code) reasons).Settles S started :=
  Progress.Fresh.settles (p := p.fail code) ⟨h.claim, h.admission, h.transition, h.release⟩
    h.pending hreasons hcodes hcode

variable {x : Exit}

theorem storePhase_settles (h : p.Ready started) (hx : storePhase rt script p target = .error x) :
    x.Settles S started := by
  unfold storePhase at hx
  split at hx
  · cases hx
  · cases hx
    exact (h.interrupt _).failWith (by simp) (Finset.insert_ne_empty _ _) (by decide)
  · cases hx
    exact h.failWith (by simp) (Finset.singleton_ne_empty _) (by decide)

theorem recheckPhase_settles (h : p.Ready started) (hx : recheckPhase script p target = .error x) :
    x.Settles S started := by
  unfold recheckPhase at hx
  split at hx
  · obtain ⟨-, rfl⟩ := check_eq_error.mp hx
    exact h.stop (Finset.singleton_ne_empty _) (by decide)
  · rename_i e _
    cases hx
    exact (h.interrupt e).stop (e.reasons_ne_empty _) (e.reasons_subset (by decide))

/-! ## The lease -/

theorem acquireFailure_settles (h : p.Ready started) (previewed : Bool)
    (e : ForeignException) : (acquireFailure p previewed e).Settles S started := by
  have hblocked : "adaptive_admission_blocked" ∈ runReasonCodes := by decide
  have hinvalid : "adaptive_preview_invalid" ∈ runReasonCodes := by decide
  have hstore : (blocked (p.fail .leaseStoreFailed) {"adaptive_admission_blocked"}).Settles S
      started :=
    h.failWith (by simp) (Finset.singleton_ne_empty _) (Finset.singleton_subset_iff.mpr hblocked)
  have hpreview : ∀ reason ∈ runReasonCodes,
      (blocked (p.fail .adaptivePreviewInvalid) {reason}).Settles S started :=
    fun reason hreason => h.failWith (by simp) (Finset.singleton_ne_empty _)
      (Finset.singleton_subset_iff.mpr hreason)
  cases e with
  | interrupt i =>
    exact (h.interrupt _).failWith (by simp) (Finset.insert_ne_empty _ _) (by decide)
  | transport code received => exact hpreview _ (stableReason_mem hinvalid)
  | store error =>
    unfold acquireFailure
    by_cases hcode : error.code = "lease_claim_invalid"
    · simp only [if_pos hcode]
      exact hpreview _ hinvalid
    · simp only [if_neg hcode]
      exact hstore
  | other =>
    cases previewed
    · exact hstore
    · exact hpreview _ hinvalid

/-- The lease of a run that holds one and has not given it back. -/
structure Progress.Holds (p : Progress) (store : LeaseStore S σ)
    (claim : CooperativeResourceClaim) (admission : AdmissionReceipt) (handle : LeaseHandle) :
    Prop extends p.Claims S claim admission where
  acquired : admission.status = .acquired
  lineage : handleLineage store.policySha256 store.coordinationDomainSha256 handle =
    .ofAdmission S admission claim
  release : p.leaseRelease = none

variable {evaluation : Evaluation PreviewEvaluation}

theorem evaluateForLease_eq_ok (h : evaluateForLease inputs script target pre = .ok evaluation) :
    evaluation.claim.previewSha256 = evaluation.context.receipt.digest ∧
      evaluation.context.receipt.freshPassportSha256.map Subtype.val =
        some evaluation.claim.passportSha256 ∧
      evaluation.context.receipt.freshSelectedCellId = some target.request.cellId := by
  simp only [evaluateForLease, admitPreview, ↓check_bind_eq_ok, bind_eq_ok, mapError_eq_ok,
    pure_eq_ok_iff] at h
  obtain ⟨preview, -, -, _, hbinding, -, claim, hclaim, rfl⟩ := h
  obtain ⟨hpreview, hpassport⟩ := claimFromPreview_eq_ok hclaim
  simp only [validatePreviewBinding, check_bind_eq_ok] at hbinding
  exact ⟨hpreview, hpassport, hbinding.1⟩

theorem Progress.Claims.settles_denied {claim : CooperativeResourceClaim}
    {admission : AdmissionReceipt} (h : p.Claims S claim admission)
    (hpending : p.state.Pending started) (hdenied : admission.status ≠ .acquired)
    (htransition : p.leaseTransition = none) (hrelease : p.leaseRelease = none)
    (herror : p.leaseErrorCode = none) :
    (blocked p {"adaptive_admission_blocked"}).Settles S started := by
  have hreasons : ({"adaptive_admission_blocked"} : Finset String) ≠ ∅ :=
    Finset.singleton_ne_empty _
  refine ⟨hpending.reportable hreasons (by decide), .inr (.inl ⟨claim, admission, ?_⟩), ?_⟩
  · exact
      { toClaims := h
        denied := hdenied
        stopped := hpending.stopped hreasons
        transition := htransition
        release := hrelease
        error := herror
        surfaced := Finset.mem_singleton_self _ }
  · rintro ⟨hcode, -⟩
    rw [show (blocked p _).progress.leaseErrorCode = none from herror] at hcode
    cases hcode

theorem adoptAcquisition_cases (h : p.Ready started) (previewed : Bool)
    (hevaluation : evaluateForLease inputs script target pre = .ok evaluation)
    {acquisition : Acquisition PreviewEvaluation}
    (hadmission : AdmissionOf S store.policySha256 store.coordinationDomainSha256 evaluation
      acquisition) :
    (∃ x, adoptAcquisition p previewed (some evaluation.claim) acquisition = .error x ∧
        x.Settles S started) ∨
      ∃ p' handle, adoptAcquisition p previewed (some evaluation.claim) acquisition =
          .ok (p', handle, evaluation.context) ∧
        acquisition.handle = some handle ∧
        p'.Holds store evaluation.claim acquisition.receipt handle ∧
        p'.state = (p.recordPreview evaluation.context.receipt).state ∧
        p'.leaseTransition = none ∧ p'.leaseErrorCode = none := by
  obtain ⟨hpreview, hpassport, -⟩ := evaluateForLease_eq_ok hevaluation
  have hcontext := hadmission.context
  unfold adoptAcquisition
  by_cases hmissing : acquisition.receipt.status = .acquired ∧ acquisition.handle = none
  · rw [if_pos hmissing]
    exact .inl ⟨_, rfl, acquireFailure_settles h previewed .other⟩
  · rw [if_neg hmissing]
    simp only [Option.isNone_some, Bool.false_eq_true, if_false, hcontext]
    generalize hq : ({ p with
      leaseClaim := some evaluation.claim
      leaseAdmission := some acquisition.receipt } : Progress).recordPreview
        evaluation.context.receipt = q
    have hclaims : q.Claims S evaluation.claim acquisition.receipt := by
      subst hq
      exact ⟨rfl, rfl, congrArg some hpreview.symm, hpassport, hadmission.claim⟩
    have hpending : q.state.Pending started := by
      subst hq
      exact ⟨typed_recordPreview h.pending.typed _, h.pending.attempts, h.pending.probes,
        h.pending.delivery⟩
    have htransition : q.leaseTransition = none := by subst hq; exact h.transition
    have hrelease : q.leaseRelease = none := by subst hq; exact h.release
    have herror : q.leaseErrorCode = none := by subst hq; exact h.error
    have hstate : q.state = (p.recordPreview evaluation.context.receipt).state := by
      subst hq
      rfl
    by_cases hacquired : acquisition.receipt.status = .acquired
    · obtain ⟨handle, hsome, hreceipt, hclaim, hid⟩ := hadmission.acquired hacquired
      refine .inr ⟨q, handle, by rw [hsome]; exact if_pos hacquired, hsome, ?_, hstate,
        htransition, herror⟩
      exact
        { toClaims := hclaims
          acquired := hacquired
          lineage := by
            rw [handleLineage, Lineage.ofAdmission, hreceipt, hclaim, hid, hadmission.policy,
              hadmission.domain]
          release := hrelease }
    · refine .inl ⟨blocked q {"adaptive_admission_blocked"},
        by rw [hadmission.denied hacquired], ?_⟩
      exact hclaims.settles_denied hpending hacquired htransition hrelease herror

theorem acquirePhase_settles (h : p.Ready started) {s : Session σ}
    (hx : (acquirePhase inputs script store p target pre s).1 = .error x) :
    x.Settles S started := by
  unfold acquirePhase at hx
  dsimp only at hx
  split at hx
  · rename_i acquisition hanswer
    obtain ⟨hevaluated, evaluation, hevaluation, hadmission⟩ := store.admits _ _ _ hanswer
    rw [hevaluated, if_pos rfl, hevaluation, claimOf] at hx
    rcases adoptAcquisition_cases h _ hevaluation hadmission with
      ⟨y, hy, hsettles⟩ | ⟨p', handle, hok, -⟩
    · obtain rfl : y = x := Except.error.inj (hy.symm.trans hx)
      exact hsettles
    · rw [hok] at hx
      cases hx
  · rename_i evaluation hanswer
    have hevaluator := store.passesBlock _ _ _ hanswer
    cases hx
    apply Progress.Fresh.settles
    · refine ⟨?_, h.admission, h.transition, h.release⟩
      rw [hevaluator]
      exact ite_self _
    · exact ⟨typed_recordPreview (p := p) h.pending.typed _, h.pending.attempts,
        h.pending.probes, h.pending.delivery⟩
    · exact Finset.singleton_ne_empty _
    · decide
    · exact List.mem_cons_of_mem _ List.mem_cons_self
  · cases hx
    exact acquireFailure_settles h _ _

theorem acquirePhase_holds (h : p.Ready started) {s : Session σ} {handle : LeaseHandle}
    {preview : PreviewEvaluation}
    (hok : (acquirePhase inputs script store p target pre s).1 = .ok (p', handle, preview)) :
    ∃ evaluation acquisition, evaluateForLease inputs script target pre = .ok evaluation ∧
      (store.evaluateAndAcquire (.ok evaluation) s.world).1.answer = .ok acquisition ∧
      acquisition.handle = some handle ∧ acquisition.receipt.status = .acquired ∧
      preview = evaluation.context ∧
      p'.Holds store evaluation.claim acquisition.receipt handle ∧
      p'.state = (p.recordPreview preview.receipt).state ∧
      p'.leaseTransition = none ∧ p'.leaseErrorCode = none := by
  unfold acquirePhase at hok
  dsimp only at hok
  split at hok
  · rename_i acquisition hanswer
    obtain ⟨hevaluated, evaluation, hevaluation, hadmission⟩ := store.admits _ _ _ hanswer
    rw [hevaluated, if_pos rfl, hevaluation, claimOf] at hok
    rcases adoptAcquisition_cases h _ hevaluation hadmission with
      ⟨y, hy, -⟩ | ⟨q, handle', hq, hsome, hholds, hstate, htransition, herror⟩
    · rw [hy] at hok
      cases hok
    · rw [hq] at hok
      cases hok
      rw [hevaluation] at hanswer
      exact ⟨evaluation, acquisition, hevaluation, hanswer, hsome, hholds.acquired, rfl, hholds,
        hstate, htransition, herror⟩
  · cases hok
  · cases hok

/-! ## Settlements -/

/-- A run about to give its lease back. -/
structure Progress.Settling (p : Progress) (store : LeaseStore S σ)
    (claim : CooperativeResourceClaim) (admission : AdmissionReceipt) (handle : LeaseHandle) :
    Prop extends p.Holds store claim admission handle where
  error : p.leaseErrorCode = none ∨
    p.leaseErrorCode = some .leaseTransitionFailed ∧ p.state.invocationAttempts = 0
  transition : ∀ t ∈ p.leaseTransition, Lineage.ofTransition t = .ofAdmission S admission claim
  applied : RunEnvelope.applied p.leaseTransition = true ↔ p.state.invocationAttempts = 1

section Settle

variable {claim : CooperativeResourceClaim} {admission : AdmissionReceipt}
  {handle : LeaseHandle} {delivery : DeliveryStatus} {s : Session σ}

variable (store) in
theorem settleLease_state (handle : LeaseHandle) (delivery : DeliveryStatus) (p : Progress)
    (s : Session σ) : (settleLease store handle delivery p s).1.2.state = p.state := by
  unfold settleLease
  dsimp only
  split
  · split <;> rfl
  · rfl

theorem settleLease_leased (h : p.Settling store claim admission handle)
    (hdelivery : delivery = p.state.deliveryStatus) :
    (settleLease store handle delivery p s).1.2.Leased S claim admission := by
  have herror : p.leaseErrorCode ∈
      [none, some .leaseTransitionFailed, some .leaseReleaseFailed] := by
    rcases h.error with he | ⟨he, -⟩ <;> simp [he]
  have huntouched : p.leaseErrorCode = some .leaseTransitionFailed →
      p.state.invocationAttempts = 0 := by
    intro he
    rcases h.error with hnone | ⟨-, hzero⟩
    · rw [hnone] at he
      cases he
    · exact hzero
  unfold settleLease
  dsimp only
  cases hanswer : (store.release handle delivery s.world).1 with
  | error e =>
    exact
      { toClaims := ⟨h.hasClaim, h.hasAdmission, h.preview, h.passport, h.admitted⟩
        acquired := h.acquired
        error := by simp [Progress.fail]
        transition := h.transition
        release := fun r hr => by
          rw [show ((p.interruptOnce e).fail _).leaseRelease = none from h.release] at hr
          cases hr
        delivery := fun r hr => by
          rw [show ((p.interruptOnce e).fail _).leaseRelease = none from h.release] at hr
          cases hr
        applied := h.applied
        settled := fun hnone => by cases hnone
        untouched := fun hcode => by cases hcode
        expected := fun hne => absurd rfl hne }
  | ok receipt =>
    obtain ⟨hlineage, hreceipt⟩ := store.releases _ _ _ _ hanswer
    have hstatus := hreceipt.trans hdelivery
    dsimp only
    by_cases hexpected : receipt.status ∈ expectedStatuses delivery
    · rw [if_pos hexpected]
      exact
        { toClaims := ⟨h.hasClaim, h.hasAdmission, h.preview, h.passport, h.admitted⟩
          acquired := h.acquired
          error := herror
          transition := h.transition
          release := fun r hr => by cases hr; exact hlineage.trans h.lineage
          delivery := fun r hr => by cases hr; exact hstatus
          applied := h.applied
          settled := fun _ => Option.some_ne_none _
          untouched := huntouched
          expected := fun _ r hr => by
            cases hr
            rw [ReleaseReceipt.Expected, hreceipt]
            exact hexpected }
    · rw [if_neg hexpected]
      exact
        { toClaims := ⟨h.hasClaim, h.hasAdmission, h.preview, h.passport, h.admitted⟩
          acquired := h.acquired
          error := by simp [Progress.fail]
          transition := h.transition
          release := fun r hr => by cases hr; exact hlineage.trans h.lineage
          delivery := fun r hr => by cases hr; exact hstatus
          applied := h.applied
          settled := fun hnone => by cases hnone
          untouched := fun hcode => by cases hcode
          expected := fun hne => absurd rfl hne }

variable (delivery) in
theorem settleLease_conflicts (h : p.Settling store claim admission handle) :
    (settleLease store handle delivery p s).1.2.Conflicts ↔
      delivery = .attemptedUnknown ∧
        ∃ receipt, (store.release handle delivery s.world).1 = .ok receipt ∧
          receipt.status = .released := by
  have herror : p.leaseErrorCode ≠ some .leaseReleaseFailed := by
    rcases h.error with he | ⟨he, -⟩ <;> simp [he]
  unfold settleLease Progress.Conflicts
  dsimp only
  cases hanswer : (store.release handle delivery s.world).1 with
  | error e =>
    have hnone : ((p.interruptOnce e).fail .leaseReleaseFailed).leaseRelease = none :=
      h.release
    simp [hnone]
  | ok receipt =>
    dsimp only
    by_cases hexpected : receipt.status ∈ expectedStatuses delivery
    · rw [if_pos hexpected]
      refine iff_of_false (fun ⟨hcode, _⟩ => herror hcode) ?_
      rintro ⟨rfl, receipt', hreceipt', hreleased⟩
      cases hreceipt'
      rw [hreleased] at hexpected
      exact absurd hexpected (by decide)
    · rw [if_neg hexpected]
      constructor
      · rintro ⟨-, receipt', hreceipt', hreleased⟩
        cases hreceipt'
        refine ⟨?_, receipt, rfl, hreleased⟩
        rw [hreleased] at hexpected
        cases delivery
        · exact absurd hexpected (by decide)
        · rfl
        · exact absurd hexpected (by decide)
      · rintro ⟨-, receipt', hreceipt', hreleased⟩
        cases hreceipt'
        exact ⟨rfl, receipt, rfl, hreleased⟩

theorem Progress.Settling.settles (h : p.Settling store claim admission handle)
    (hpending : p.state.Pending started) (hreasons : reasons ≠ ∅)
    (hcodes : reasons ⊆ runReasonCodes) :
    (blocked (settleLease store handle .notAttempted p s).1.2 reasons).Settles S started := by
  have hstate := settleLease_state store handle .notAttempted p s
  refine ⟨RunState.Pending.reportable (hstate ▸ hpending) hreasons hcodes,
    .inr (.inr ⟨claim, admission, settleLease_leased h hpending.delivery.symm⟩), ?_⟩
  intro hconflicts
  have := (settleLease_conflicts _ h).mp hconflicts
  cases this.1

end Settle

/-! ## The probe and the fence -/

section Fence

variable {claim : CooperativeResourceClaim} {admission : AdmissionReceipt}
  {handle : LeaseHandle} {s : Session σ}

/-- A run that holds its lease and has not touched the delivery fence. -/
structure Progress.Unfenced (p : Progress) (store : LeaseStore S σ)
    (claim : CooperativeResourceClaim) (admission : AdmissionReceipt) (handle : LeaseHandle)
    (started : Instant) : Prop extends p.Holds store claim admission handle where
  pending : p.state.Pending started
  transition : p.leaseTransition = none
  error : p.leaseErrorCode = none

theorem Progress.Unfenced.settling (h : p.Unfenced store claim admission handle started) :
    p.Settling store claim admission handle :=
  { toHolds := h.toHolds
    error := .inl h.error
    transition := fun t ht => by rw [h.transition] at ht; cases ht
    applied := by
      rw [h.transition, h.pending.attempts]
      decide }

theorem Progress.Unfenced.interrupt (h : p.Unfenced store claim admission handle started)
    (e : ForeignException) : (p.interrupt e).Unfenced store claim admission handle started :=
  { h with }

theorem Progress.Unfenced.probing (h : p.Unfenced store claim admission handle started) :
    ({ p with state := { p.state with endpointProbeRequests := 1 } } : Progress).Unfenced store
      claim admission handle started :=
  { toHolds := { h.toHolds with }
    pending := ⟨{ h.pending.typed with }, h.pending.attempts, Nat.le_refl 1, h.pending.delivery⟩
    transition := h.transition
    error := h.error }

theorem Progress.Unfenced.probed (h : p.Unfenced store claim admission handle started)
    (identity : Digest) :
    ({ p with state := { p.state with
      preModelIdentitySetSha256 := some identity.val } } : Progress).Unfenced store claim
      admission handle started :=
  { toHolds := { h.toHolds with }
    pending := ⟨h.pending.typed.withPreModel identity, h.pending.attempts, h.pending.probes,
      h.pending.delivery⟩
    transition := h.transition
    error := h.error }

theorem abandon_settles (h : p.Unfenced store claim admission handle started)
    (hreasons : reasons ≠ ∅) (hcodes : reasons ⊆ runReasonCodes) :
    (abandon store handle reasons p s).1.Settles S started := by
  refine h.settling.settles h.pending ?_
    (Finset.union_subset hcodes (unsettled_subset _))
  intro hempty
  exact hreasons (Finset.union_eq_empty.mp hempty).1

theorem probePhase_settles (h : p.Unfenced store claim admission handle started)
    (hx : (probePhase script store p target handle s).1 = .error x) : x.Settles S started := by
  unfold probePhase at hx
  dsimp only at hx
  split at hx
  · rename_i e _
    cases hx
    exact abandon_settles (h.probing.interrupt e) (e.reasons_ne_empty _)
      (e.reasons_subset (by decide))
  · rename_i probe _
    split at hx
    · cases hx
    · cases hx
      exact abandon_settles (h.probing.probed _) (Finset.singleton_ne_empty _) (by decide)

theorem probePhase_eq_ok {probe : ModelIdentityProbe} {s' : Session σ}
    (hok : probePhase script store p target handle s = (.ok (p', probe), s')) :
    s' = s ∧ script.preProbe = .ok probe ∧ target.expert.model ∈ probe.modelIds ∧
      p' = { p with state := { p.state with
        endpointProbeRequests := 1
        preModelIdentitySetSha256 := some probe.identitySetSha256.val } } := by
  unfold probePhase at hok
  dsimp only at hok
  split at hok
  · cases hok
  · rename_i probe' hprobe
    split at hok
    · rename_i hmodel
      cases hok
      exact ⟨rfl, hprobe, hmodel, rfl⟩
    · cases hok

theorem armFailure_settles (h : p.Holds store claim admission handle)
    (hpending : p.state.Pending started)
    (htransition : ∀ t ∈ p.leaseTransition, Lineage.ofTransition t = .ofAdmission S admission claim)
    (happlied : RunEnvelope.applied p.leaseTransition = false) (hreasons : reasons ≠ ∅)
    (hcodes : reasons ⊆ runReasonCodes) (hx : (armFailure store p reasons handle s).1 = .error x) :
    x.Settles S started := by
  have hsettling : (p.fail .leaseTransitionFailed).Settling store claim admission handle :=
    { toHolds := { h with }
      error := .inr ⟨rfl, hpending.attempts⟩
      transition := htransition
      applied := by
        rw [show (p.fail .leaseTransitionFailed).leaseTransition = p.leaseTransition from rfl,
          happlied, show (p.fail .leaseTransitionFailed).state.invocationAttempts = 0 from
            hpending.attempts]
        decide }
  cases hx
  exact hsettling.settles hpending hreasons hcodes

theorem armPhase_settles (h : p.Unfenced store claim admission handle started)
    (hx : (armPhase store p handle s).1 = .error x) : x.Settles S started := by
  have hnone : ∀ t ∈ p.leaseTransition,
      Lineage.ofTransition t = .ofAdmission S admission claim := by
    intro t ht
    rw [h.transition] at ht
    cases ht
  have hunapplied : RunEnvelope.applied p.leaseTransition = false := by
    rw [h.transition]
    rfl
  unfold armPhase at hx
  dsimp only at hx
  split at hx
  · exact armFailure_settles (h.interrupt _).toHolds (h.interrupt _).pending hnone hunapplied
      (Finset.insert_ne_empty _ _) (by decide) hx
  · exact armFailure_settles h.toHolds h.pending hnone hunapplied
      (Finset.singleton_ne_empty _) (by decide) hx
  · rename_i transition htransition
    split at hx
    · cases hx
    · rename_i hrefused
      refine armFailure_settles (p := { p with leaseTransition := some transition })
        { h.toHolds with } h.pending ?_ ?_ (Finset.singleton_ne_empty _) (by decide) hx
      · intro t ht
        cases ht
        exact (store.arms _ _ _ htransition).trans h.lineage
      · rw [RunEnvelope.applied, Option.any_some]
        exact Bool.eq_false_iff.mpr hrefused

theorem armPhase_eq_ok {s' : Session σ} (hok : armPhase store p handle s = (.ok p', s')) :
    ∃ transition, (store.armDelivery handle s.world).1 = .ok transition ∧
      transition.transitionApplied = true ∧
      p' = { p with leaseTransition := some transition } ∧
      s' = ⟨(store.armDelivery handle s.world).2,
        s.trace ++ [.armed (.ok transition) (store.armDelivery handle s.world).2]⟩ := by
  unfold armPhase at hok
  dsimp only at hok
  split at hok
  · cases hok
  · cases hok
  · rename_i transition htransition
    split at hok
    · rename_i happlied
      cases hok
      exact ⟨transition, htransition, happlied, rfl, by rw [htransition]⟩
    · cases hok

end Fence

end Phases

end LocalMoe.BoundCell
