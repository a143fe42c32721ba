/-
  The delivery of a run and the inspections after it.
-/
import LocalMoe.BoundCell.Exits

namespace LocalMoe.BoundCell

open Foundation Contracts Lease

variable {S : Stdlib} {σ : Type}

section Phases

variable {rt : Runtime} {inputs : RunInputs} {script : Script} {store : LeaseStore S σ}
  {started : Instant} {p : Progress} {target : ResolvedTarget} {pre : InspectionBundle}

/-! ## The delivery -/

theorem transportReason_mem (outcome : Except ForeignException PyText) :
    ∀ reason ∈ (deliver outcome).transportReason, reason ∈ runReasonCodes := by
  intro reason hreason
  rcases outcome with (e | _)
  · cases e <;> cases hreason
    · exact stableReason_mem (by decide)
    all_goals decide
  · cases hreason

variable {outcome : Except ForeignException PyText}

theorem transportReason_of_no_response (h : (deliver outcome).response = none) :
    (deliver outcome).transportReason ≠ none := by
  rcases outcome with (e | _)
  · cases e <;> exact Option.some_ne_none _
  · cases h

theorem received_of_response {text : PyText} (h : (deliver outcome).response = some text) :
    (deliver outcome).responseReceived = true := by
  rcases outcome with (e | _)
  · cases e <;> cases h
  · rfl

theorem screenResponse_some {policy : RunPolicy} {d : Delivery} {text : PyText}
    (h : (screenResponse policy d).1 = some text) :
    d.response = some text ∧ text ≠ [] ∧
      ∃ bytes, encodeUtf8 text = some bytes ∧ bytes.length ≤ policy.maxResponseBytes := by
  unfold screenResponse at h
  split at h
  · cases h
  · rename_i response hresponse
    split at h
    · cases h
    · rename_i hempty
      split at h
      · cases h
      · rename_i bytes hbytes
        split at h
        · cases h
        · rename_i hsize
          cases h
          exact ⟨hresponse, hempty, bytes, hbytes, Nat.le_of_not_lt hsize⟩

theorem screenResponse_reason (policy : RunPolicy) (outcome : Except ForeignException PyText) :
    ∀ reason ∈ (screenResponse policy (deliver outcome)).2, reason ∈ runReasonCodes := by
  have hmem := transportReason_mem outcome
  intro reason hreason
  unfold screenResponse at hreason
  split at hreason
  · exact hmem reason hreason
  · split at hreason
    · cases hreason
      decide
    · split at hreason
      · cases hreason
        decide
      · split at hreason
        · cases hreason
          decide
        · exact hmem reason hreason

theorem screenResponse_complete {policy : RunPolicy}
    (h : (screenResponse policy (deliver outcome)).2 = none) :
    (screenResponse policy (deliver outcome)).1.isSome = true := by
  unfold screenResponse at h ⊢
  split at h
  · rename_i hnone
    exact absurd h (transportReason_of_no_response hnone)
  · rename_i response hresponse
    split at h
    · cases h
    · rename_i hempty
      split at h
      · cases h
      · rename_i bytes hbytes
        split at h
        · cases h
        · rename_i hsize
          simp only [if_neg hempty, if_neg hsize, Option.isSome_some]

/-- `q` differs from `p` in what the inspections after a delivery record. -/
structure Progress.Continues (p q : Progress) : Prop where
  claim : q.leaseClaim = p.leaseClaim
  admission : q.leaseAdmission = p.leaseAdmission
  transition : q.leaseTransition = p.leaseTransition
  release : q.leaseRelease = p.leaseRelease
  error : q.leaseErrorCode = p.leaseErrorCode
  state : q.state = { p.state with
    endpointProbeRequests := q.state.endpointProbeRequests
    post := q.state.post
    postConfigSourceSha256 := q.state.postConfigSourceSha256
    postModelIdentitySetSha256 := q.state.postModelIdentitySetSha256 }

theorem Progress.Continues.trans {p q r : Progress} (h : p.Continues q) (h' : q.Continues r) :
    p.Continues r where
  claim := h'.claim.trans h.claim
  admission := h'.admission.trans h.admission
  transition := h'.transition.trans h.transition
  release := h'.release.trans h.release
  error := h'.error.trans h.error
  state := by
    have hstate := h'.state
    rw [h.state] at hstate
    exact hstate

variable {q : Progress}

theorem Progress.Leased.continues {p : Progress} {claim : CooperativeResourceClaim}
    {admission : AdmissionReceipt} (h : p.Leased S claim admission) (hq : p.Continues q) :
    q.Leased S claim admission where
  hasClaim := hq.claim.trans h.hasClaim
  hasAdmission := hq.admission.trans h.hasAdmission
  preview := by rw [hq.state]; exact h.preview
  passport := by rw [hq.state]; exact h.passport
  admitted := h.admitted
  acquired := h.acquired
  error := hq.error ▸ h.error
  transition := hq.transition ▸ h.transition
  release := hq.release ▸ h.release
  delivery := by rw [hq.release, hq.state]; exact h.delivery
  applied := by rw [hq.transition, hq.state]; exact h.applied
  settled := by rw [hq.release, hq.error]; exact h.settled
  untouched := by rw [hq.error, hq.state]; exact h.untouched
  expected := by rw [hq.release, hq.error]; exact h.expected

theorem Progress.Continues.conflicts {p : Progress} (hq : p.Continues q) :
    q.Conflicts ↔ p.Conflicts := by
  rw [Progress.Conflicts, Progress.Conflicts, hq.error, hq.release]

variable (script target) in
theorem postProbe_continues (probePre : ModelIdentityProbe) (p : Progress) :
    p.Continues (postProbe script target probePre p).1 := by
  unfold postProbe
  dsimp only
  split <;> exact ⟨rfl, rfl, rfl, rfl, rfl, rfl⟩

theorem postProbe_typed (probePre : ModelIdentityProbe) (h : p.state.Typed started) :
    (postProbe script target probePre p).1.state.Typed started := by
  unfold postProbe
  dsimp only
  split
  · exact { h with }
  · exact { h with }
  · exact RunState.Typed.withPostModel (s := { p.state with endpointProbeRequests := 2 })
      { h with } _

theorem postProbe_probes (probePre : ModelIdentityProbe) (p : Progress) :
    (postProbe script target probePre p).1.state.endpointProbeRequests = 2 := by
  unfold postProbe
  dsimp only
  split <;> rfl

theorem postProbe_reasons (probePre : ModelIdentityProbe) (p : Progress) :
    (postProbe script target probePre p).2 ⊆ runReasonCodes := by
  unfold postProbe
  dsimp only
  split
  · exact (by decide :
      ({"execution_interrupted", "model_probe_failed"} : Finset String) ⊆ runReasonCodes)
  · exact (by decide : ({"model_probe_failed"} : Finset String) ⊆ runReasonCodes)
  · exact Finset.union_subset (reasonIf_subset (by decide)) (reasonIf_subset (by decide))

theorem postProbe_unchanged {probePre : ModelIdentityProbe}
    (h : (postProbe script target probePre p).2 = ∅) :
    (postProbe script target probePre p).1.state.postModelIdentitySetSha256 =
      some probePre.identitySetSha256.val := by
  unfold postProbe at h ⊢
  dsimp only at h ⊢
  split at h
  · exact absurd h (Finset.insert_ne_empty _ _)
  · exact absurd h (Finset.singleton_ne_empty _)
  · rename_i probe _
    have hsame := reasonIf_eq_empty.mp (Finset.union_eq_empty.mp h).2
    rw [not_not] at hsame
    rw [hsame]

theorem postBinding_induct {preview : PreviewReceipt} {P : Progress → Prop} (hstart : P p)
    (hinterrupt : ∀ q e, P q → P (q.interruptOnce e))
    (hpost : ∀ (q : Progress) (post : InspectionBundle) (roots : List ProtectedRootIdentity),
      P q → P { q with
        publicationRoots := roots
        state := { q.state with post := recordBinding post } })
    (hconfig : ∀ (q : Progress) (d : Digest), P q → P { q with
      state := { q.state with postConfigSourceSha256 := some d.val } }) :
    P (postBinding rt script target pre preview p).1 := by
  unfold postBinding rebind
  cases script.postClock with
  | error e => exact hinterrupt _ _ hstart
  | ok _ =>
  cases script.postInspect with
  | error e => exact hinterrupt _ _ hstart
  | ok post =>
  cases script.resolveAfter with
  | error e => exact hinterrupt _ _ (hpost _ _ _ hstart)
  | ok after =>
  have hrecorded := hconfig _ after.configSourceSha256 (hpost _ post
    (mergeProtectedRoots p.publicationRoots post.publicationProtectedRoots) hstart)
  simp only [Except.mapError, ok_bind]
  cases validateBinding rt after post with
  | error e => exact hinterrupt _ _ hrecorded
  | ok _ =>
  cases validatePreviewBinding preview after post with
  | error e => exact hinterrupt _ _ hrecorded
  | ok _ => exact hrecorded

variable (preview : PreviewReceipt)

variable (rt script target pre) in
theorem postBinding_continues (p : Progress) :
    p.Continues (postBinding rt script target pre preview p).1 := by
  refine postBinding_induct (P := fun q => p.Continues q) ⟨rfl, rfl, rfl, rfl, rfl, rfl⟩
    ?_ ?_ ?_
  · intro q e h
    exact h.trans ⟨rfl, rfl, rfl, rfl, rfl, rfl⟩
  · intro q post roots h
    exact h.trans ⟨rfl, rfl, rfl, rfl, rfl, rfl⟩
  · intro q d h
    exact h.trans ⟨rfl, rfl, rfl, rfl, rfl, rfl⟩

theorem postBinding_typed (h : p.state.Typed started) :
    (postBinding rt script target pre preview p).1.state.Typed started := by
  refine postBinding_induct (P := fun q => q.state.Typed started) h ?_ ?_ ?_
  · intro q e hq
    exact hq
  · intro q post roots hq
    exact hq.withPost post
  · intro q d hq
    exact hq.withPostConfig d

variable (rt script target pre) in
theorem postBinding_probes (p : Progress) :
    (postBinding rt script target pre preview p).1.state.endpointProbeRequests =
        p.state.endpointProbeRequests ∧
      (postBinding rt script target pre preview p).1.state.postModelIdentitySetSha256 =
        p.state.postModelIdentitySetSha256 := by
  refine postBinding_induct (P := fun q =>
    q.state.endpointProbeRequests = p.state.endpointProbeRequests ∧
      q.state.postModelIdentitySetSha256 = p.state.postModelIdentitySetSha256) ⟨rfl, rfl⟩
    ?_ ?_ ?_
  · intro q e hq
    exact hq
  · intro q post roots hq
    exact hq
  · intro q d hq
    exact hq

theorem rebind_eq_ok {preview : PreviewReceipt} {added : Finset String}
    (h : rebind rt script target pre preview p = .ok (q, added)) :
    ∃ post after, script.postInspect = .ok post ∧ script.resolveAfter = .ok after ∧
      q.state.post = recordBinding post ∧
      q.state.postConfigSourceSha256 = some after.configSourceSha256.val ∧
      added = reasonIf (after.configSourceSha256 ≠ target.configSourceSha256)
          "config_changed" ∪
        reasonIf (post.manifest.digest ≠ pre.manifest.digest ∨
          post.requestSha256 ≠ pre.requestSha256) "binding_changed" ∪
        reasonIf (post.publicationProtectedRoots ≠ pre.publicationProtectedRoots)
          "binding_changed" := by
  simp only [rebind, bind_eq_ok, mapError_eq_ok, pure_eq_ok_iff, Prod.mk.injEq] at h
  obtain ⟨_, -, post, hpost, after, hafter, _, -, _, -, rfl, rfl⟩ := h
  exact ⟨post, after, hpost, hafter, rfl, rfl, rfl⟩

theorem postBinding_reasons (p : Progress) :
    (postBinding rt script target pre preview p).2 ⊆ runReasonCodes := by
  unfold postBinding
  split
  · rename_i rebound hrebound
    obtain ⟨q, added⟩ := rebound
    obtain ⟨post, after, -, -, -, -, rfl⟩ := rebind_eq_ok hrebound
    exact Finset.union_subset (Finset.union_subset (reasonIf_subset (by decide))
      (reasonIf_subset (by decide))) (reasonIf_subset (by decide))
  · rename_i e _
    exact e.reasons_subset (by decide)

theorem postBinding_unchanged {preview : PreviewReceipt}
    (h : (postBinding rt script target pre preview p).2 = ∅) :
    ∃ post, (postBinding rt script target pre preview p).1.state.post = recordBinding post ∧
      post.manifest.digest = pre.manifest.digest ∧ post.requestSha256 = pre.requestSha256 ∧
      (postBinding rt script target pre preview p).1.state.postConfigSourceSha256 =
        some target.configSourceSha256.val := by
  unfold postBinding at h ⊢
  split at h
  · rename_i rebound hrebound
    obtain ⟨q, added⟩ := rebound
    obtain ⟨post, after, -, -, hpost, hconfig, rfl⟩ := rebind_eq_ok hrebound
    obtain ⟨hleft, -⟩ := Finset.union_eq_empty.mp h
    obtain ⟨hsource, hbinding⟩ := Finset.union_eq_empty.mp hleft
    have hsame := not_not.mp (reasonIf_eq_empty.mp hsource)
    obtain ⟨hmanifest, hrequest⟩ := not_or.mp (reasonIf_eq_empty.mp hbinding)
    exact ⟨post, hpost, not_not.mp hmanifest, not_not.mp hrequest, by rw [hconfig, hsame]⟩
  · rename_i e _
    exact absurd h (e.reasons_ne_empty _)

@[simp] theorem conclude_progress (p : Progress) (invalidation : Finset String)
    (response : Option PyText) (transportReason : Option String) :
    (conclude p invalidation response transportReason).progress = p := by
  unfold conclude
  split
  · rfl
  · cases transportReason <;> rfl

variable {invalidation : Finset String} {response : Option PyText} {transportReason : Option String}

theorem conclude_response {text : PyText}
    (h : text ∈ (conclude p invalidation response transportReason).response) :
    text ∈ response := by
  unfold conclude at h
  split at h
  · exact h
  · cases transportReason
    · exact h
    · cases h

theorem conclude_reasons (hinvalidation : invalidation ⊆ runReasonCodes)
    (hreason : ∀ reason ∈ transportReason, reason ∈ runReasonCodes) :
    (conclude p invalidation response transportReason).reasons ⊆ runReasonCodes := by
  unfold conclude
  split
  · refine Finset.union_subset hinvalidation ?_
    intro reason hmem
    exact hreason reason (Option.mem_toFinset.mp hmem)
  · cases transportReason with
    | none => exact Finset.empty_subset _
    | some reason => exact Finset.singleton_subset_iff.mpr (hreason reason rfl)

theorem conclude_status (p : Progress) (invalidation : Finset String)
    (response : Option PyText) (transportReason : Option String) :
    (conclude p invalidation response transportReason).status ≠ .blocked ∧
      ((conclude p invalidation response transportReason).status = .completed ↔
        (conclude p invalidation response transportReason).reasons = ∅) := by
  unfold conclude
  by_cases hinvalid : invalidation = ∅
  · rw [if_neg (not_not_intro hinvalid)]
    cases transportReason <;> simp
  · rw [if_pos hinvalid]
    refine ⟨by simp, iff_of_false (by simp) ?_⟩
    intro hempty
    exact hinvalid (Finset.union_eq_empty.mp hempty).1

theorem conclude_completed
    (h : (conclude p invalidation response transportReason).status = .completed) :
    invalidation = ∅ ∧ transportReason = none ∧
      (conclude p invalidation response transportReason).response = response := by
  unfold conclude at h ⊢
  by_cases hinvalid : invalidation = ∅
  · rw [if_neg (not_not_intro hinvalid)] at h ⊢
    cases transportReason with
    | none => exact ⟨hinvalid, rfl, rfl⟩
    | some reason => cases h
  · rw [if_pos hinvalid] at h
    cases h

/-- A run whose fence is up, with the evidence an attempt needs. -/
structure Progress.Armed (p : Progress) (store : LeaseStore S σ)
    (claim : CooperativeResourceClaim) (admission : AdmissionReceipt) (handle : LeaseHandle)
    (started : Instant) (target : ResolvedTarget) (pre : InspectionBundle)
    (probePre : ModelIdentityProbe) : Prop extends p.Holds store claim admission handle where
  pending : p.state.Pending started
  error : p.leaseErrorCode = none
  transition : ∀ t ∈ p.leaseTransition, Lineage.ofTransition t = .ofAdmission S admission claim
  applied : RunEnvelope.applied p.leaseTransition = true
  evidence : none ∉ p.state.attemptedRequired
  binding : p.state.pre = recordBinding pre
  config : p.state.preConfigSourceSha256 = some target.configSourceSha256.val
  model : p.state.preModelIdentitySetSha256 = some probePre.identitySetSha256.val

section Deliver

variable {claim : CooperativeResourceClaim} {admission : AdmissionReceipt}
  {handle : LeaseHandle} {s : Session σ} {probePre : ModelIdentityProbe}

theorem Progress.Armed.settling
    (h : p.Armed store claim admission handle started target pre probePre) (d : Delivery) :
    (p.delivering d).Settling store claim admission handle :=
  { toHolds := { h.toHolds with }
    error := .inl h.error
    transition := h.transition
    applied := iff_of_true h.applied rfl }

variable (rt inputs script s) in
theorem deliverPhase_shape
    (h : p.Armed store claim admission handle started target pre probePre)
    (preview : PreviewReceipt) :
    ∃ q invalidation, (settleLease store handle (deliver script.invoke).status
        (p.delivering (deliver script.invoke)) ⟨s.world, s.trace ++ [.invoked]⟩).1.2.Continues q ∧
      (deliverPhase rt inputs script store p target pre preview probePre handle s).1 =
        conclude q invalidation (screenResponse inputs.policy (deliver script.invoke)).1
          (screenResponse inputs.policy (deliver script.invoke)).2 ∧
      invalidation ⊆ runReasonCodes ∧ q.state.Typed started ∧
      q.state.endpointProbeRequests = 2 ∧
      (invalidation = ∅ → q.state.Unchanged) := by
  have hstate := settleLease_state store handle (deliver script.invoke).status
    (p.delivering (deliver script.invoke)) ⟨s.world, s.trace ++ [.invoked]⟩
  generalize hsettled : settleLease store handle (deliver script.invoke).status
    (p.delivering (deliver script.invoke)) ⟨s.world, s.trace ++ [.invoked]⟩ = settled at hstate
  have hprobe := postProbe_continues script target probePre settled.1.2
  have hrebind := postBinding_continues rt script target pre preview
    (postProbe script target probePre settled.1.2).1
  have hcontinues := hprobe.trans hrebind
  refine ⟨_, unsettled settled.1.1 ∪ (postProbe script target probePre settled.1.2).2 ∪
    (postBinding rt script target pre preview
      (postProbe script target probePre settled.1.2).1).2, hcontinues,
    by rw [← hsettled]; rfl, ?_, ?_, ?_, ?_⟩
  · exact Finset.union_subset (Finset.union_subset (unsettled_subset _)
      (postProbe_reasons _ _)) (postBinding_reasons _ _)
  · refine postBinding_typed _ (postProbe_typed _ ?_)
    rw [hstate]
    exact { h.pending.typed with }
  · exact (postBinding_probes _ _ _ _ _ _).1.trans (postProbe_probes _ _)
  · intro hempty
    obtain ⟨hleft, hrebound⟩ := Finset.union_eq_empty.mp hempty
    obtain ⟨post, hpost, hmanifest, hrequest, hconfig⟩ := postBinding_unchanged hrebound
    have hmodel := (postBinding_probes rt script target pre preview
      (postProbe script target probePre settled.1.2).1).2.trans
        (postProbe_unchanged (Finset.union_eq_empty.mp hleft).2)
    have hkept := hcontinues.state
    rw [hstate] at hkept
    generalize (postBinding rt script target pre preview
      (postProbe script target probePre settled.1.2).1).1 = q at *
    have hpre : q.state.pre = recordBinding pre := by rw [hkept]; exact h.binding
    refine ⟨hpost ▸ none_not_mem_recordBinding post, ?_, ?_, ?_, ?_⟩
    · rw [hpre, hpost, recordBinding, recordBinding, hrequest]
    · rw [hpre, hpost, recordBinding, recordBinding, hmanifest]
    · rw [hconfig, hkept]
      exact h.config
    · rw [hmodel, hkept]
      exact h.model

variable (rt inputs script s) in
theorem deliverPhase_settles
    (h : p.Armed store claim admission handle started target pre probePre)
    (preview : PreviewReceipt) {x : Exit}
    (hx : (deliverPhase rt inputs script store p target pre preview probePre handle s).1 = x) :
    x.Reportable started ∧ x.Traced S ∧
      (x.progress.Conflicts ↔ (deliver script.invoke).responseReceived = false ∧
        ∃ receipt, (store.release handle .attemptedUnknown s.world).1 = .ok receipt ∧
          receipt.status = .released) := by
  obtain ⟨q, invalidation, hq, hexit, hcodes, htyped, hprobes, hunchanged⟩ :=
    deliverPhase_shape rt inputs script s h preview
  have hreason := screenResponse_reason inputs.policy script.invoke
  have hsettling := h.settling (deliver script.invoke)
  have hleased := (settleLease_leased (s := ⟨s.world, s.trace ++ [.invoked]⟩) hsettling
    rfl).continues hq
  have hconflicts := hq.conflicts.trans (settleLease_conflicts _ hsettling)
  have hstate := hq.state
  rw [settleLease_state] at hstate
  have hattempts : q.state.invocationAttempts = 1 := by rw [hstate]; rfl
  have hdelivery : q.state.deliveryStatus = (deliver script.invoke).status := by
    rw [hstate]
    rfl
  obtain ⟨hstatus, hcompleted⟩ := conclude_status q invalidation
    (screenResponse inputs.policy (deliver script.invoke)).1
    (screenResponse inputs.policy (deliver script.invoke)).2
  rw [hexit] at hx
  subst hx
  refine ⟨⟨?_, conclude_reasons hcodes hreason, .inr ⟨hstatus, hcompleted, ?_, ?_, ?_, ?_, ?_,
    ?_⟩⟩, .inr (.inr ⟨claim, admission, ?_⟩), ?_⟩
  · rw [conclude_progress]
    exact htyped
  · rw [conclude_progress]
    exact hattempts
  · rw [conclude_progress]
    exact hprobes
  · rw [conclude_progress, hdelivery]
    unfold Delivery.status
    cases (deliver script.invoke).responseReceived <;> decide
  · rw [conclude_progress, hstate]
    exact h.evidence
  · intro text htext
    obtain ⟨hresponse, hempty, bytes, hbytes, hsize⟩ :=
      screenResponse_some (conclude_response htext)
    have hreceived := received_of_response hresponse
    have hmax := inputs.policy.bounds.2.2
    rw [conclude_progress]
    refine ⟨hempty, ?_, bytes, hbytes, by omega⟩
    rw [hdelivery, Delivery.status, hreceived, if_pos rfl]
  · intro hc
    obtain ⟨hempty, hnone, hresponse⟩ := conclude_completed hc
    rw [conclude_progress, hresponse]
    exact ⟨hunchanged hempty, screenResponse_complete hnone⟩
  · rw [conclude_progress]
    exact hleased
  · rw [conclude_progress, hconflicts]
    unfold Delivery.status
    cases (deliver script.invoke).responseReceived <;> simp

end Deliver

/-! ## The way to the delivery -/

/-- `current` is the target that was bound. -/
structure ResolvedTarget.Same (current target : ResolvedTarget) : Prop where
  request : current.request.digest = target.request.digest
  config : current.configSourceSha256 = target.configSourceSha256
  runtimeConfig : current.runtimeConfigSha256 = target.runtimeConfigSha256
  passport : current.passport.digest = target.passport.digest
  expert : current.expert = target.expert

/-- The collaborators and the store let the run get as far as its delivery: it then holds
`handle`, and `w'` is the store behind the fence. -/
structure Delivers (inputs : RunInputs) (script : Script) (store : LeaseStore S σ)
    (target : ResolvedTarget) (pre : InspectionBundle) (w : σ) (handle : LeaseHandle)
    (w' : σ) : Prop where
  opened : script.openStore = .ok ()
  resolved : ∃ current, script.resolveAgain = .ok current ∧ current.Same target
  fenced : ∃ evaluation acquisition transition,
    evaluateForLease inputs script target pre = .ok evaluation ∧
    (store.evaluateAndAcquire (.ok evaluation) w).1.answer = .ok acquisition ∧
    acquisition.receipt.status = .acquired ∧ acquisition.handle = some handle ∧
    (store.armDelivery handle (store.evaluateAndAcquire (.ok evaluation) w).2).1 =
      .ok transition ∧
    transition.transitionApplied = true ∧
    (store.armDelivery handle (store.evaluateAndAcquire (.ok evaluation) w).2).2 = w'
  probed : ∃ probe, script.preProbe = .ok probe ∧ target.expert.model ∈ probe.modelIds

theorem storePhase_eq_ok {url : String} (hurl : baseUrl rt target.expert = .ok url) :
    storePhase rt script p target = .ok () ↔ script.openStore = .ok () := by
  unfold storePhase
  rw [hurl, ok_bind]
  cases script.openStore with
  | ok u => exact iff_of_true rfl rfl
  | error e => cases e <;> exact iff_of_false (fun h => by cases h) (fun h => by cases h)

theorem recheckPhase_eq_ok : recheckPhase script p target = .ok () ↔
    ∃ current, script.resolveAgain = .ok current ∧ current.Same target := by
  unfold recheckPhase
  cases script.resolveAgain with
  | ok current =>
    simp only [check_eq_ok, Except.ok.injEq, exists_eq_left']
    constructor <;> rintro ⟨h1, h2, h3, h4, h5⟩ <;> exact ⟨h1, h2, h3, h4, h5⟩
  | error e =>
    exact iff_of_false (fun h => by cases h) (by rintro ⟨_, h, _⟩; cases h)

theorem acquirePhase_of_acquired {s : Session σ}
    {evaluation : Evaluation PreviewEvaluation} {acquisition : Acquisition PreviewEvaluation}
    {handle : LeaseHandle}
    (hevaluation : evaluateForLease inputs script target pre = .ok evaluation)
    (hanswer : (store.evaluateAndAcquire (.ok evaluation) s.world).1.answer = .ok acquisition)
    (hhandle : acquisition.handle = some handle)
    (hacquired : acquisition.receipt.status = .acquired) (p : Progress) :
    ∃ p', (acquirePhase inputs script store p target pre s).1 =
      .ok (p', handle, evaluation.context) := by
  obtain ⟨hevaluated, evaluation', hsame, hadmission⟩ := store.admits _ _ _ hanswer
  obtain rfl := Except.ok.inj hsame
  have hpresent : ¬ (acquisition.receipt.status = .acquired ∧ acquisition.handle = none) := by
    rw [hhandle]
    rintro ⟨-, hnone⟩
    cases hnone
  unfold acquirePhase
  simp only [hevaluation, hanswer, hevaluated, if_true, claimOf]
  unfold adoptAcquisition
  rw [if_neg hpresent]
  simp only [Option.isNone_some, Bool.false_eq_true, if_false, hhandle, if_pos hacquired,
    hadmission.context]
  exact ⟨_, rfl⟩

variable (inputs script store target pre) in
theorem acquirePhase_session (p : Progress) (s : Session σ) :
    (acquirePhase inputs script store p target pre s).2.world =
      (store.evaluateAndAcquire (evaluateForLease inputs script target pre) s.world).2 := rfl

theorem armed_of_phases {claim : CooperativeResourceClaim} {admission : AdmissionReceipt}
    {handle : LeaseHandle} {preview : PreviewReceipt} {probe : ModelIdentityProbe}
    {transition : TransitionReceipt} (s₀ : RunState) (hp : p.state = boundState s₀ target pre)
    (h : q.Unfenced store claim admission handle started)
    (hstate : q.state = (p.recordPreview preview).state)
    (hcell : preview.freshSelectedCellId = some target.request.cellId) {w : σ}
    (htransition : (store.armDelivery handle w).1 = .ok transition)
    (happlied : transition.transitionApplied = true) :
    ({ q with
      state := { q.state with
        endpointProbeRequests := 1
        preModelIdentitySetSha256 := some probe.identitySetSha256.val }
      leaseTransition := some transition } : Progress).Armed store claim admission handle started
        target pre probe := by
  have hprobed := h.probing.probed probe.identitySetSha256
  exact
    { toHolds := { hprobed.toHolds with }
      pending := hprobed.pending
      error := hprobed.error
      transition := fun t ht => by cases ht; exact (store.arms _ _ _ htransition).trans h.lineage
      applied := happlied
      evidence := by
        have hpassport := h.passport
        rw [hstate] at hpassport ⊢
        simp only [RunState.attemptedRequired, Progress.recordPreview, hp, boundState,
          recordBinding, hcell, Option.map_some] at hpassport ⊢
        simp [hpassport]
      binding := by
        show q.state.pre = recordBinding pre
        rw [hstate]
        exact congrArg RunState.pre hp
      config := by
        show q.state.preConfigSourceSha256 = _
        rw [hstate]
        exact congrArg RunState.preConfigSourceSha256 hp
      model := rfl }

variable (rt inputs script store) in
theorem boundRun_cases (h : p.Ready started) (hvalid : validateBinding rt target pre = .ok ())
    (s₀ : RunState) (hp : p.state = boundState s₀ target pre) (s : Session σ) :
    (((boundRun rt inputs script store p target pre s).1.Settles S started) ∧
        ∀ handle w', ¬ Delivers inputs script store target pre s.world handle w') ∨
      ∃ handle w' s' q claim admission preview probe,
        Delivers inputs script store target pre s.world handle w' ∧
        s'.world = w' ∧
        boundRun rt inputs script store p target pre s =
          deliverPhase rt inputs script store q target pre preview probe handle s' ∧
        q.Armed store claim admission handle started target pre probe := by
  obtain ⟨-, -, url, hurl⟩ := validateBinding_eq_ok hvalid
  unfold boundRun
  cases hopened : storePhase rt script p target with
  | error x =>
    refine .inl ⟨storePhase_settles h hopened, fun handle w' hd => ?_⟩
    rw [(storePhase_eq_ok hurl).mpr hd.opened] at hopened
    cases hopened
  | ok _ =>
  cases hrecheck : recheckPhase script p target with
  | error x =>
    refine .inl ⟨recheckPhase_settles h hrecheck, fun handle w' hd => ?_⟩
    rw [recheckPhase_eq_ok.mpr hd.resolved] at hrecheck
    cases hrecheck
  | ok _ =>
  have hworld := acquirePhase_session inputs script store target pre p s
  dsimp only
  rcases hacquire : acquirePhase inputs script store p target pre s with
    ⟨x | ⟨q, handle, preview⟩, s₁⟩
  · refine .inl ⟨acquirePhase_settles h (by rw [hacquire]), fun handle w' hd => ?_⟩
    obtain ⟨evaluation, acquisition, _, hevaluation, hanswer, hacquired, hhandle, -⟩ := hd.fenced
    obtain ⟨q, hq⟩ := acquirePhase_of_acquired hevaluation hanswer hhandle hacquired p
    rw [hacquire] at hq
    cases hq
  obtain ⟨evaluation, acquisition, hevaluation, hanswer, hhandle, hacquired, rfl, hholds,
    hstate, htransition, herror⟩ := acquirePhase_holds h (by rw [hacquire])
  rw [hacquire, hevaluation] at hworld
  have hunfenced : q.Unfenced store evaluation.claim acquisition.receipt handle started :=
    { toHolds := hholds
      pending := by
        rw [hstate]
        exact ⟨typed_recordPreview h.pending.typed _, h.pending.attempts, h.pending.probes,
          h.pending.delivery⟩
      transition := htransition
      error := herror }
  obtain ⟨-, -, hcell⟩ := evaluateForLease_eq_ok hevaluation
  dsimp only at hworld ⊢
  rcases hprobe : probePhase script store q target handle s₁ with ⟨x | ⟨q', probe⟩, s₂⟩
  · refine .inl ⟨probePhase_settles hunfenced (by rw [hprobe]), fun handle' w' hd => ?_⟩
    obtain ⟨probe, hpre, hmodel⟩ := hd.probed
    unfold probePhase at hprobe
    simp only [hpre, if_pos hmodel] at hprobe
    cases hprobe
  obtain ⟨rfl, hpre, hmodel, rfl⟩ := probePhase_eq_ok hprobe
  dsimp only
  generalize hq' : ({ q with state := { q.state with
      endpointProbeRequests := 1
      preModelIdentitySetSha256 := some probe.identitySetSha256.val } } : Progress) = q'
  have hunfenced' : q'.Unfenced store evaluation.claim acquisition.receipt handle started :=
    hq' ▸ hunfenced.probing.probed probe.identitySetSha256
  rcases harm : armPhase store q' handle s₂ with ⟨x | q'', s₃⟩
  · refine .inl ⟨armPhase_settles hunfenced' (by rw [harm]), fun handle' w' hd => ?_⟩
    obtain ⟨evaluation', acquisition', transition, hevaluation', hanswer', -, hhandle',
      htransition', happlied, -⟩ := hd.fenced
    obtain rfl := Except.ok.inj (hevaluation'.symm.trans hevaluation)
    obtain rfl := Except.ok.inj (hanswer'.symm.trans hanswer)
    obtain rfl := Option.some.inj (hhandle'.symm.trans hhandle)
    rw [← hworld] at htransition'
    unfold armPhase at harm
    simp only [htransition', if_pos happlied] at harm
    cases harm
  obtain ⟨transition, harmed, happlied, rfl, rfl⟩ := armPhase_eq_ok harm
  refine .inr ⟨handle, _, _, _, evaluation.claim, acquisition.receipt,
    evaluation.context.receipt, probe, ?_, rfl, rfl, ?_⟩
  · exact
      { opened := (storePhase_eq_ok hurl).mp hopened
        resolved := recheckPhase_eq_ok.mp hrecheck
        fenced := ⟨evaluation, acquisition, transition, hevaluation, hanswer, hacquired, hhandle,
          by rw [← hworld]; exact harmed, happlied, by rw [← hworld]⟩
        probed := ⟨probe, hpre, hmodel⟩ }
  · subst hq'
    exact armed_of_phases s₀ hp hunfenced hstate hcell harmed happlied

end Phases

end LocalMoe.BoundCell
