/-
  The authority to resume is single-use and backed by a quorum.
-/
import LocalMoe.Workflow.Sound
import Mathlib.Data.List.Perm.Subperm

namespace LocalMoe.Workflow

open Foundation

variable {δ : Type} [DecidableEq δ] {D : Digests δ}

/-! ## Authority -/

/-- What stands behind the consumption of a confirmation: it is open, nothing has expired, and
a quorum of the attestations of its plan, each of another trusted verifier, is valid. -/
structure Authority (D : Digests δ) (now : Time) (db : Database δ) (row : WorkflowRow δ)
    (confirmation : ConfirmationRow δ) : Prop where
  recorded : confirmation ∈ db.confirmations
  workflow : confirmation.workflowId = row.workflowId
  fresh : confirmation.Open
  time : now ≤ confirmation.expiresAt
  expires : now ≤ row.binding.expiresAt
  quorum : ∃ content, ∃ attestations : List (AttestationRow δ),
    D.ofPlan content = confirmation.planId ∧
    row.binding.verificationPolicy.quorum ≤ attestations.length ∧
    (attestations.map AttestationRow.verifierId).Nodup ∧
    ∀ a ∈ attestations, a ∈ db.attestations ∧ a.workflowId = row.workflowId ∧
      a.supersededAt = none ∧ a.ActiveAt now ∧ a.evidenceSha256 ∈ content.attestationEvidence ∧
      ∃ v ∈ row.binding.verificationPolicy.verifiers, v.verifierId = a.verifierId

theorem Authorizes.authority {now : Time} {db : Database δ} {row : WorkflowRow δ}
    {confirmation : ConfirmationRow δ} (hs : SoundAt D now db)
    (h : Authorizes D now db row confirmation) : Authority D now db row confirmation := by
  obtain ⟨content, found, evidence, hplan, hfound, hnodup, hquorum, hall⟩ :=
    hs.backed confirmation h.recorded
  rw [h.bound.1] at hfound
  cases h.found.symm.trans hfound
  let attestations := db.attestations.filter fun a => decide (a.evidenceSha256 ∈ evidence)
  have hmem : ∀ a ∈ attestations, a ∈ db.attestations ∧ Outlives now confirmation a ∧
      a.evidenceSha256 ∈ content.attestationEvidence := by
    intro a ha
    obtain ⟨ha, he⟩ := List.mem_filter.mp ha
    obtain ⟨hbound, b, hb, hbe, ho⟩ := hall _ (of_decide_eq_true he)
    have hfound := Table.lookup_eq_some_of_mem hs.evidence hb
    rw [hbe, Table.lookup_eq_some_of_mem hs.evidence ha] at hfound
    cases hfound
    exact ⟨ha, ho, hbound⟩
  -- What took the place of an attestation did so after the confirmation has expired.
  have hlive : ∀ a ∈ attestations, a.supersededAt = none := by
    intro a ha
    obtain ⟨_, ho, _⟩ := hmem a ha
    cases hsuperseded : a.supersededAt with
    | none => rfl
    | some s =>
      obtain ⟨hexpired, hs⟩ := ho.superseded s hsuperseded
      have hlate : now ≤ a.expiresAt := h.time.2.trans ho.expires
      exact absurd (hexpired.trans_le hs) (not_lt.mpr hlate)
  have hworkflow : ∀ a ∈ attestations, a.workflowId = row.workflowId :=
    fun a ha => (hmem a ha).2.1.workflow.trans h.bound.1
  refine ⟨h.recorded, h.bound.1, h.fresh, h.time.2, h.expires, content, attestations, hplan, ?_,
    ?_, ?_⟩
  · have hsub : evidence ⊆ attestations.map AttestationRow.evidenceSha256 := by
      intro e he
      obtain ⟨_, a, ha, rfl, _⟩ := hall e he
      exact List.mem_map_of_mem (List.mem_filter.mpr ⟨ha, decide_eq_true he⟩)
    have hlength := (hnodup.subperm hsub).length_le
    rw [List.length_map] at hlength
    exact hquorum.trans hlength
  · refine List.Nodup.map_on ?_ (List.Nodup.filter _ (List.Nodup.of_map _ hs.evidence))
    intro a ha b hb hverifier
    exact hs.verifiers a (hmem a ha).1 b (hmem b hb).1
      ((hworkflow a ha).trans (hworkflow b hb).symm) (hlive a ha) (hlive b hb) hverifier
  · intro a ha
    obtain ⟨hrecorded, ho, hbound⟩ := hmem a ha
    obtain ⟨found, hfound, hverifier⟩ := hs.trusted a hrecorded
    rw [hworkflow a ha] at hfound
    cases h.found.symm.trans hfound
    exact ⟨hrecorded, hworkflow a ha, hlive a ha,
      ⟨ho.issued.trans h.time.1, h.time.2.trans ho.expires⟩, hbound, hverifier⟩

/-- A call takes a workflow into the apply with a token. -/
def Resumes (D : Digests δ) (db : Database δ) (c : Call δ) (workflowId confirmationId : String) :
    Prop :=
  (∃ planId bindingSha256, c.request =
      .consumeResumeConfirmation workflowId planId confirmationId bindingSha256) ∧
    ∃ record, (store D).output db c = .ok (.record record false)

omit [DecidableEq δ] in
theorem Authority.of_refreshed {now : Time} {db refreshed : Database δ}
    {stored row : WorkflowRow δ} {confirmation : ConfirmationRow δ}
    (hattestations : refreshed.attestations = db.attestations)
    (hconfirmations : refreshed.confirmations = db.confirmations)
    (hbinding : row.binding = stored.binding)
    (h : Authority D now refreshed row confirmation) : Authority D now db stored confirmation := by
  have hid : row.workflowId = stored.workflowId := congrArg CandidateBinding.workflowId hbinding
  obtain ⟨content, attestations, hplan, hquorum, hverifiers, hall⟩ := h.quorum
  refine ⟨hconfirmations ▸ h.recorded, h.workflow.trans hid, h.fresh, h.time,
    hbinding ▸ h.expires, content, attestations, hplan, hbinding ▸ hquorum, hverifiers,
    fun a ha => ?_⟩
  obtain ⟨hrecorded, hworkflow, hlive, hactive, hbound, hverifier⟩ := hall a ha
  exact ⟨hattestations ▸ hrecorded, hworkflow.trans hid, hlive, hactive, hbound,
    hbinding ▸ hverifier⟩

theorem Resumes.authority {db : Database δ} {c : Call δ} {workflowId confirmationId : String}
    (hs : SoundAt D c.now db) (h : Resumes D db c workflowId confirmationId) :
    ∃ stored, ∃ row : WorkflowRow δ, ∃ confirmation : ConfirmationRow δ,
      db.workflow workflowId = some stored ∧
      row.binding = stored.binding ∧ row.status = .ready ∧
      confirmation.tokenSha256 = D.ofText confirmationId ∧
      Authority D c.now db stored confirmation ∧
      ((store D).next db c).workflow workflowId = some (row.applyingWith
        (D.ofTransaction workflowId confirmation.planId confirmation.bindingSha256) c.now) ∧
      confirmation.consumed c.now ∈ ((store D).next db c).confirmations := by
  obtain ⟨⟨planId, bindingSha256, hrequest⟩, record, houtput⟩ := h
  rcases store_cases D db c with ⟨_, herror, _⟩ | ⟨db', answer, hperform, hanswer, hnext⟩
  · cases herror.symm.trans houtput
  · cases hanswer.symm.trans houtput
    have htimely := hs.timely
    obtain ⟨request, now, artifacts⟩ := c
    cases hrequest
    obtain ⟨_, _, hperform⟩ := bind_eq_ok.mp hperform
    obtain ⟨_, refreshed, stored, row, rfl, hstored, hbinding, ⟨hattestations, hconfirmations⟩,
      hchanges, houtcome⟩ := consumeResumeConfirmation_eq_ok (htimely workflowId rfl) hperform
    rcases houtcome with ⟨_, _, hreplay⟩ | ⟨confirmation, hauthorizes, _, _, htoken, _,
      happlying, hconsumed⟩
    · cases hreplay
    · have hsound := (hchanges.keep (P := fun _ => True) (fun _ _ _ _ _ => trivial) hs trivial).1
      have hauthority := hauthorizes.authority hsound
      refine ⟨stored, row, confirmation, hstored, hbinding, hauthorizes.ready, htoken,
        hauthority.of_refreshed hattestations hconfirmations hbinding, hnext ▸ happlying, ?_⟩
      rw [hnext, hconsumed]
      exact List.mem_map.mpr ⟨confirmation, hauthorizes.recorded, if_pos rfl⟩

/-- The tables that a run leaves. -/
abbrev after (D : Digests δ) (calls : List (Call δ)) : Database δ :=
  (store D).exec (Database.empty δ) calls

/-- What a run guarantees of the authority to resume. -/
structure ResumeAuthority (D : Digests δ) (calls : List (Call δ)) : Prop where
  /-- A token takes a workflow into the apply once. -/
  once : ∀ before c middle c' rest workflowId workflowId' confirmationId,
    calls = before ++ c :: (middle ++ c' :: rest) →
    Resumes D (after D before) c workflowId confirmationId →
    ¬ Resumes D (after D (before ++ c :: middle)) c' workflowId' confirmationId
  /-- It does so from `ready`, with authority. -/
  authorized : ∀ before c rest workflowId confirmationId, calls = before ++ c :: rest →
    Resumes D (after D before) c workflowId confirmationId →
    ∃ stored, ∃ row : WorkflowRow δ, ∃ confirmation : ConfirmationRow δ,
      (after D before).workflow workflowId = some stored ∧
      row.binding = stored.binding ∧ row.status = .ready ∧
      confirmation.tokenSha256 = D.ofText confirmationId ∧
      Authority D c.now (after D before) stored confirmation ∧
      (after D (before ++ [c])).workflow workflowId = some (row.applyingWith
        (D.ofTransaction workflowId confirmation.planId confirmation.bindingSha256) c.now)
  /-- A workflow has one token at most that is neither consumed nor revoked. -/
  oneOpen : ∀ before rest, calls = before ++ rest →
    ∀ confirmation ∈ (after D before).confirmations,
    ∀ confirmation' ∈ (after D before).confirmations,
    confirmation.workflowId = confirmation'.workflowId → confirmation.Open →
    confirmation'.Open → confirmation = confirmation'
  /-- An applied workflow stays as it is, with its transaction and its result. -/
  applied : ∀ before middle rest, calls = before ++ (middle ++ rest) →
    ∀ workflowId, ∀ row : WorkflowRow δ, (after D before).workflow workflowId = some row →
    row.status = .applied → (after D (before ++ middle)).workflow workflowId = some row

omit [DecidableEq δ] in
theorem Forward.left {before rest : List (Call δ)} (h : Forward (before ++ rest)) :
    Forward before := (List.pairwise_append.mp h).1

theorem Forward.sound {before rest : List (Call δ)} {c : Call δ}
    (h : Forward (before ++ c :: rest)) : SoundAt D c.now (after D before) := by
  obtain ⟨hbefore, _, hcross⟩ := List.pairwise_append.mp h
  exact run_sound D hbefore fun c' hc' => hcross c' hc' c List.mem_cons_self

def sampleIssued : Call SampleDigest :=
  sampleCall (.issueResumePlan "workflow" "resume-idempotency-key" 10) 40

def sampleConsumed : Call SampleDigest :=
  sampleCall (.consumeResumeConfirmation "workflow"
    (.plan "workflow" (.text "workflow") (.more (.text "evidence") .empty)
      (.text "resume-idempotency-key") 40 50)
    "resume-idempotency-key-token" (.text "workflow")) 45

end LocalMoe.Workflow
