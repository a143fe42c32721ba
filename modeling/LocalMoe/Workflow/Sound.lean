/-
  Tables that a run without clock rollback keeps sound.
-/
import LocalMoe.Workflow.Clock
import Mathlib.Data.List.Induction

namespace LocalMoe.Workflow

open Foundation

variable {δ : Type} {D : Digests δ}

/-! ## Sound tables -/

variable {db : Database δ} {row : WorkflowRow δ}

theorem Database.setWorkflow_cases (hrow : db.workflow row.workflowId = some row)
    {f : WorkflowRow δ → WorkflowRow δ} (hf : ∀ r, (f r).workflowId = r.workflowId)
    {workflowId : String} {row' : WorkflowRow δ}
    (h : (db.setWorkflow row.workflowId f).workflow workflowId = some row') :
    workflowId = row.workflowId ∧ row' = f row ∨
      workflowId ≠ row.workflowId ∧ db.workflow workflowId = some row' := by
  by_cases hw : workflowId = row.workflowId
  · subst hw
    rw [Database.workflow_setWorkflow_self hrow f hf] at h
    exact .inl ⟨rfl, (Option.some.inj h).symm⟩
  · exact .inr ⟨hw, (db.workflow_setWorkflow_other hw f hf).symm.trans h⟩

theorem Database.append_cases {new : WorkflowRow δ} {workflowId : String}
    (h : Table.lookup WorkflowRow.workflowId (db.workflows ++ [new]) workflowId = some row) :
    db.workflow workflowId = some row ∨ row = new := by
  rw [Table.lookup_append_single] at h
  change (db.workflow workflowId).or _ = some row at h
  cases hold : db.workflow workflowId with
  | some old =>
    rw [hold] at h
    exact .inl h
  | none =>
    rw [hold, Option.none_or] at h
    split at h
    · exact .inr (Option.some.inj h).symm
    · cases h

/-- A confirmation that can still be consumed. -/
def ConfirmationRow.Open (c : ConfirmationRow δ) : Prop :=
  c.consumedAt = none ∧ c.revokedAt = none

/-- An attestation was valid when the confirmation was issued and outlives it; if another has
taken its place, it had expired by then. -/
structure Outlives (now : Time) (c : ConfirmationRow δ) (a : AttestationRow δ) : Prop where
  workflow : a.workflowId = c.workflowId
  issued : a.issuedAt ≤ c.issuedAt
  expires : c.expiresAt ≤ a.expiresAt
  superseded : ∀ s ∈ a.supersededAt, a.expiresAt < s ∧ s ≤ now

/-- The plan of a confirmation is bound to a quorum of attestations that outlive it. -/
def Backed (D : Digests δ) (now : Time) (db : Database δ) (c : ConfirmationRow δ) : Prop :=
  ∃ content row, ∃ evidence : List δ, D.ofPlan content = c.planId ∧
    db.workflow c.workflowId = some row ∧ evidence.Nodup ∧
    row.binding.verificationPolicy.quorum ≤ evidence.length ∧
    ∀ e ∈ evidence, e ∈ content.attestationEvidence ∧
      ∃ a ∈ db.attestations, a.evidenceSha256 = e ∧ Outlives now c a

/-- The verifier of an attestation is one of its workflow's policy. -/
def Trusted (db : Database δ) (a : AttestationRow δ) : Prop :=
  ∃ row, db.workflow a.workflowId = some row ∧
    ∃ v ∈ row.binding.verificationPolicy.verifiers, v.verifierId = a.verifierId

/-- What holds of the tables after observations up to a time. -/
structure SoundAt (D : Digests δ) (now : Time) (db : Database δ) : Prop where
  workflows : Table.UniqueKeys WorkflowRow.workflowId db.workflows
  clocks : ∀ workflowId row, db.workflow workflowId = some row → row.lastWallTime ≤ now
  tokens : Table.UniqueKeys ConfirmationRow.tokenSha256 db.confirmations
  oneOpen : ∀ c ∈ db.confirmations, ∀ c' ∈ db.confirmations, c.workflowId = c'.workflowId →
    c.Open → c'.Open → c = c'
  evidence : Table.UniqueKeys AttestationRow.evidenceSha256 db.attestations
  verifiers : ∀ a ∈ db.attestations, ∀ a' ∈ db.attestations, a.workflowId = a'.workflowId →
    a.supersededAt = none → a'.supersededAt = none → a.verifierId = a'.verifierId → a = a'
  trusted : ∀ a ∈ db.attestations, Trusted db a
  backed : ∀ c ∈ db.confirmations, Backed D now db c

variable {c : ConfirmationRow δ} {a : AttestationRow δ}

theorem Outlives.mono {now later : Time} (h : now ≤ later) (ho : Outlives now c a) :
    Outlives later c a :=
  { ho with superseded := fun s hs => ⟨(ho.superseded s hs).1, (ho.superseded s hs).2.trans h⟩ }

theorem SoundAt.mono {now later : Time} (h : now ≤ later) {db : Database δ}
    (hs : SoundAt D now db) : SoundAt D later db := by
  refine { hs with clocks := fun w row hrow => (hs.clocks w row hrow).trans h, backed := ?_ }
  intro c hc
  obtain ⟨content, row, evidence, hplan, hrow, hnodup, hquorum, hall⟩ := hs.backed c hc
  refine ⟨content, row, evidence, hplan, hrow, hnodup, hquorum, fun e he => ?_⟩
  obtain ⟨hbound, a, ha, hae, ho⟩ := hall e he
  exact ⟨hbound, a, ha, hae, ho.mono h⟩

theorem soundAt_empty (now : Time) : SoundAt D now (Database.empty δ) where
  workflows := List.nodup_nil
  clocks _ _ h := (Option.some_ne_none _ h.symm).elim
  tokens := List.nodup_nil
  oneOpen _ h := (List.not_mem_nil h).elim
  evidence := List.nodup_nil
  verifiers _ h := (List.not_mem_nil h).elim
  trusted _ h := (List.not_mem_nil h).elim
  backed _ h := (List.not_mem_nil h).elim

variable [DecidableEq δ]

/-! ## Changes -/

/-- What holds of a plan that is issued. -/
structure Issues (D : Digests δ) (now : Time) (db : Database δ) (row : WorkflowRow δ)
    (content : PlanContent δ) : Prop where
  found : db.workflow content.workflowId = some row
  binding : content.bindingSha256 = D.ofBinding row.binding
  issued : content.issuedAt = now
  evidence : content.attestationEvidence =
    (db.activeOf content.workflowId now).map AttestationRow.evidenceSha256
  quorum : row.binding.verificationPolicy.quorum ≤ (db.activeOf content.workflowId now).countP
    fun a => decide (content.expiresAt ≤ a.expiresAt)
  key : Table.lookup ConfirmationRow.idempotencySha256 db.confirmations
    content.idempotencySha256 = none
  token : Table.lookup ConfirmationRow.tokenSha256 db.confirmations
    (confirmationOf D content).tokenSha256 = none

variable {db' : Database δ}

theorem Change.confirmations_cases {now : Time} (h : Change D now db db') :
    db'.confirmations = db.confirmations ∨
    (∃ row content, Issues D now db row content ∧
      db'.confirmations = db.confirmations.map (·.revoked content.workflowId now) ++
        [confirmationOf D content]) ∨
    ∃ row confirmation, Authorizes D now db row confirmation ∧ db'.confirmations =
      Table.update ConfirmationRow.tokenSha256 db.confirmations confirmation.tokenSha256
        (·.consumed now) := by
  cases h with
  | issued row key expiresAt content events hrow _ _ hcontent _ hquorum hkey htoken =>
    cases hcontent
    exact .inr (.inl ⟨row, _, ⟨hrow, rfl, rfl, rfl, hquorum, hkey, htoken⟩, rfl⟩)
  | consumed row confirmation events hrow hclock hready hexpires hquorum hconfirmation hfresh
      hbound htime =>
      exact .inr (.inr ⟨row, confirmation, ⟨hrow, hclock, hready, hexpires, hquorum,
        hconfirmation, hfresh, hbound, htime⟩, rfl⟩)
  | created | refreshed | conflicted | superseded | attested | applied | recovered => exact .inl rfl

theorem Change.attestations_cases {now : Time} (h : Change D now db db') :
    db'.attestations = db.attestations ∨
    (∃ existing ∈ db.attestations, existing.expiresAt < now ∧
      db'.attestations = db.attestations.map (·.superseded existing.evidenceSha256 now)) ∨
    ∃ a : AttestationRow δ, Trusted db a ∧
      (∃ row, db.workflow a.workflowId = some row ∧
        validateAttestation none row.binding a = .ok ()) ∧
      (∀ b ∈ db.attestations, b.evidenceSha256 ≠ a.evidenceSha256) ∧
      (∀ b ∈ db.attestations, b.workflowId = a.workflowId → b.supersededAt = none →
        b.verifierId ≠ a.verifierId) ∧
      db'.attestations = db.attestations ++ [a] := by
  cases h with
  | superseded existing events hmem _ hexpired =>
    exact .inr (.inl ⟨existing, hmem, hexpired, rfl⟩)
  | attested row attestation status verified events hrow _ _ _ hverifier hevidence hfree hvalid =>
    exact .inr (.inr ⟨attestation.row row.workflowId now, ⟨row, hrow, hverifier⟩,
      ⟨row, hrow, hvalid⟩, hevidence, hfree, rfl⟩)
  | created | refreshed | conflicted | issued | consumed | applied | recovered => exact .inl rfl

theorem Change.clocks {now : Time} (h : Change D now db db')
    (hclocks : ∀ workflowId row, db.workflow workflowId = some row → row.lastWallTime ≤ now) :
    ∀ workflowId row, db'.workflow workflowId = some row → row.lastWallTime ≤ now := by
  have hset {row : WorkflowRow δ} (hrow : db.workflow row.workflowId = some row)
      (f : WorkflowRow δ → WorkflowRow δ) (hid : ∀ r, (f r).workflowId = r.workflowId)
      (htime : (f row).lastWallTime = now) : ∀ workflowId row',
        (db.setWorkflow row.workflowId f).workflow workflowId = some row' →
        row'.lastWallTime ≤ now := by
    intro workflowId row' hrow'
    rcases Database.setWorkflow_cases hrow hid hrow' with ⟨_, rfl⟩ | ⟨_, hsame⟩
    · exact htime.le
    · exact hclocks workflowId row' hsame
  cases h with
  | created binding root key events hnew =>
    intro workflowId row hrow
    rcases Database.append_cases hrow with hold | rfl
    · exact hclocks workflowId row hold
    · exact le_rfl
  | superseded => exact hclocks
  | refreshed _ status _ _ _ hrow => exact hset hrow (·.withStatus status now) (fun _ => rfl) rfl
  | conflicted _ _ _ hrow =>
    exact hset hrow (fun r => r.released.withStatus .conflicted now) (fun _ => rfl) rfl
  | attested _ _ status _ _ hrow => exact hset hrow (·.withStatus status now) (fun _ => rfl) rfl
  | issued _ _ _ _ _ hrow => exact hset hrow (·.touched now) (fun _ => rfl) rfl
  | consumed _ _ _ hrow => exact hset hrow (·.applyingWith _ now) (fun _ => rfl) rfl
  | applied _ _ result _ hrow => exact hset hrow (·.appliedWith result now) (fun _ => rfl) rfl
  | recovered _ _ status _ hrow => exact hset hrow (·.recoveredWith status now) (fun _ => rfl) rfl

section Rows

variable {now : Time} {workflowId : String}

omit [DecidableEq δ] in
@[simp] theorem ConfirmationRow.revoked_token (c : ConfirmationRow δ) :
    (c.revoked workflowId now).tokenSha256 = c.tokenSha256 := by
  unfold ConfirmationRow.revoked
  split <;> rfl

omit [DecidableEq δ] in
theorem ConfirmationRow.open_of_revoked (h : (c.revoked workflowId now).Open) :
    c.workflowId ≠ workflowId ∧ c.revoked workflowId now = c := by
  unfold ConfirmationRow.revoked at h ⊢
  split at h
  · cases h.2
  · next hother =>
    rw [if_neg hother]
    exact ⟨fun hw => hother ⟨hw, h.1, h.2⟩, rfl⟩

@[simp] theorem AttestationRow.superseded_evidence (a : AttestationRow δ) (evidenceSha256 : δ) :
    (a.superseded evidenceSha256 now).evidenceSha256 = a.evidenceSha256 := by
  unfold AttestationRow.superseded
  split <;> rfl

@[simp] theorem AttestationRow.superseded_workflowId (a : AttestationRow δ)
    (evidenceSha256 : δ) : (a.superseded evidenceSha256 now).workflowId = a.workflowId := by
  unfold AttestationRow.superseded
  split <;> rfl

@[simp] theorem AttestationRow.superseded_verifierId (a : AttestationRow δ)
    (evidenceSha256 : δ) : (a.superseded evidenceSha256 now).verifierId = a.verifierId := by
  unfold AttestationRow.superseded
  split <;> rfl

theorem AttestationRow.superseded_eq {evidenceSha256 : δ}
    (h : (a.superseded evidenceSha256 now).supersededAt = none) :
    a.superseded evidenceSha256 now = a := by
  unfold AttestationRow.superseded at h ⊢
  split at h
  · cases h
  · next hother => rw [if_neg hother]

end Rows

/-! ## A change keeps the tables sound -/

/-- What is kept of a confirmation when it is revoked or consumed. -/
structure ConfirmationRow.SamePlan (c c' : ConfirmationRow δ) : Prop where
  workflow : c'.workflowId = c.workflowId
  plan : c'.planId = c.planId
  issued : c'.issuedAt = c.issuedAt
  expires : c'.expiresAt = c.expiresAt

omit [DecidableEq δ] in
theorem ConfirmationRow.SamePlan.refl (c : ConfirmationRow δ) : c.SamePlan c := ⟨rfl, rfl, rfl, rfl⟩

omit [DecidableEq δ] in
theorem ConfirmationRow.samePlan_revoked (c : ConfirmationRow δ) (workflowId : String)
    (now : Time) : c.SamePlan (c.revoked workflowId now) := by
  unfold ConfirmationRow.revoked
  split
  · exact ⟨rfl, rfl, rfl, rfl⟩
  · exact .refl c

theorem ConfirmationRow.mem_update {rows : List (ConfirmationRow δ)} {token : δ} {now : Time}
    (h : c ∈ Table.update ConfirmationRow.tokenSha256 rows token (·.consumed now)) :
    ∃ c₀ ∈ rows, (c₀.tokenSha256 = token ∧ c = c₀.consumed now) ∨
      c₀.tokenSha256 ≠ token ∧ c = c₀ := by
  obtain ⟨c₀, hmem, rfl⟩ := List.mem_map.mp h
  refine ⟨c₀, hmem, ?_⟩
  by_cases hc : c₀.tokenSha256 = token
  · exact .inl ⟨hc, if_pos hc⟩
  · exact .inr ⟨hc, if_neg hc⟩

theorem Change.attestation_kept {now : Time} (h : Change D now db db')
    (hevidence : Table.UniqueKeys AttestationRow.evidenceSha256 db.attestations)
    (ha : a ∈ db.attestations) : ∃ a' ∈ db'.attestations, a'.evidenceSha256 = a.evidenceSha256 ∧
      ∀ c, Outlives now c a → Outlives now c a' := by
  rcases h.attestations_cases with hsame | ⟨existing, hmem, hexpired, hsame⟩ | ⟨b, _, _, _, _, hsame⟩
  · exact ⟨a, hsame ▸ ha, rfl, fun _ ho => ho⟩
  · refine ⟨_, hsame ▸ List.mem_map_of_mem ha, AttestationRow.superseded_evidence _ _, ?_⟩
    intro c ho
    unfold AttestationRow.superseded
    split
    · next hrow =>
      -- The row under an evidence is the one that has expired.
      have hfound := Table.lookup_eq_some_of_mem hevidence ha
      rw [hrow.1, Table.lookup_eq_some_of_mem hevidence hmem] at hfound
      cases hfound
      refine { ho with superseded := fun s hs => ?_ }
      cases hs
      exact ⟨hexpired, le_rfl⟩
    · exact ho
  · exact ⟨a, hsame ▸ List.mem_append_left _ ha, rfl, fun _ ho => ho⟩

theorem Backed.step {now : Time} (h : Change D now db db')
    (hevidence : Table.UniqueKeys AttestationRow.evidenceSha256 db.attestations)
    {c' : ConfirmationRow δ} (hsame : c.SamePlan c') (hb : Backed D now db c) :
    Backed D now db' c' := by
  obtain ⟨content, row, evidence, hplan, hrow, hnodup, hquorum, hall⟩ := hb
  obtain ⟨row', hrow', hbinding, _⟩ := h.advances _ row hrow
  refine ⟨content, row', evidence, hplan.trans hsame.plan.symm, hsame.workflow ▸ hrow', hnodup,
    hbinding ▸ hquorum, fun e he => ?_⟩
  obtain ⟨hbound, a, ha, hae, ho⟩ := hall e he
  obtain ⟨a', ha', hae', ho'⟩ := h.attestation_kept hevidence ha
  obtain ⟨hworkflow, hissued, hexpires, hsuperseded⟩ := ho' c ho
  exact ⟨hbound, a', ha', hae'.trans hae, hworkflow.trans hsame.workflow.symm,
    hsame.issued ▸ hissued, hsame.expires ▸ hexpires, hsuperseded⟩

theorem Trusted.step {now : Time} (h : Change D now db db') {a' : AttestationRow δ}
    (hworkflow : a'.workflowId = a.workflowId) (hverifier : a'.verifierId = a.verifierId)
    (ht : Trusted db a) : Trusted db' a' := by
  obtain ⟨row, hrow, v, hv, hid⟩ := ht
  obtain ⟨row', hrow', hbinding, _⟩ := h.advances _ row hrow
  exact ⟨row', hworkflow ▸ hrow', v, hbinding ▸ hv, hid.trans hverifier.symm⟩

omit [DecidableEq δ] in
theorem Database.nodup_activeOf
    (h : Table.UniqueKeys AttestationRow.evidenceSha256 db.attestations) (workflowId : String)
    (now : Time) : ((db.activeOf workflowId now).map AttestationRow.evidenceSha256).Nodup := by
  have hperm : (db.attestationsOf workflowId).Perm (db.attestations.filter fun a =>
      decide (a.workflowId = workflowId ∧ a.supersededAt = none)) := List.perm_insertionSort _ _
  have hsorted : ((db.attestationsOf workflowId).map AttestationRow.evidenceSha256).Nodup :=
    (hperm.map _).nodup_iff.mpr ((List.filter_sublist.map _).nodup h)
  exact (List.filter_sublist.map _).nodup hsorted

theorem Issues.backed {now : Time} {content : PlanContent δ} (h : Issues D now db row content)
    (hevidence : Table.UniqueKeys AttestationRow.evidenceSha256 db.attestations) :
    Backed D now db (confirmationOf D content) := by
  refine ⟨content, row, ((db.activeOf content.workflowId now).filter fun a =>
    decide (content.expiresAt ≤ a.expiresAt)).map AttestationRow.evidenceSha256, rfl, h.found,
    ?_, ?_, ?_⟩
  · exact (List.filter_sublist.map _).nodup (Database.nodup_activeOf hevidence _ now)
  · rw [List.length_map, ← List.countP_eq_length_filter]
    exact h.quorum
  · intro e he
    obtain ⟨a, ha, rfl⟩ := List.mem_map.mp he
    obtain ⟨ha, hexpires⟩ := List.mem_filter.mp ha
    rw [h.evidence]
    refine ⟨List.mem_map_of_mem ha, a, ?_⟩
    obtain ⟨ha, hactive⟩ := List.mem_filter.mp ha
    obtain ⟨hmem, hworkflow, hlive⟩ := Database.mem_attestationsOf.mp ha
    have hactive : a.ActiveAt now := of_decide_eq_true hactive
    refine ⟨hmem, rfl, hworkflow, ?_, of_decide_eq_true hexpires, ?_⟩
    · exact hactive.1.trans h.issued.ge
    · rw [hlive]
      exact nofun

theorem uniqueKeys_map {ρ κ : Type} {key : ρ → κ} {rows : List ρ} (h : Table.UniqueKeys key rows)
    {f : ρ → ρ} (hf : ∀ r, key (f r) = key r) : Table.UniqueKeys key (rows.map f) := by
  unfold Table.UniqueKeys
  rw [List.map_map]
  exact (List.map_congr_left fun r _ => hf r) ▸ h

theorem Change.tokens {now : Time} (h : Change D now db db')
    (htokens : Table.UniqueKeys ConfirmationRow.tokenSha256 db.confirmations) :
    Table.UniqueKeys ConfirmationRow.tokenSha256 db'.confirmations := by
  rcases h.confirmations_cases with hsame | ⟨_, content, hissues, hsame⟩ | ⟨_, _, _, hsame⟩
  · rw [hsame]
    exact htokens
  · have hkey : ∀ c : ConfirmationRow δ,
        (c.revoked content.workflowId now).tokenSha256 = c.tokenSha256 := fun c => c.revoked_token
    rw [hsame]
    refine (uniqueKeys_map htokens hkey).append_single ?_
    rw [Table.lookup_map hkey, hissues.token]
    rfl
  · rw [hsame]
    exact htokens.update _ fun _ => rfl

theorem Change.oneOpen {now : Time} (h : Change D now db db')
    (hone : ∀ c ∈ db.confirmations, ∀ c' ∈ db.confirmations, c.workflowId = c'.workflowId →
      c.Open → c'.Open → c = c') :
    ∀ c ∈ db'.confirmations, ∀ c' ∈ db'.confirmations, c.workflowId = c'.workflowId →
      c.Open → c'.Open → c = c' := by
  rcases h.confirmations_cases with hsame | ⟨_, content, _, hsame⟩ | ⟨_, _, _, hsame⟩
  · rw [hsame]
    exact hone
  · -- The open ones of the workflow were revoked: only the new one is open.
    have hrow : ∀ c ∈ db'.confirmations, c.Open → c = confirmationOf D content ∨
        c ∈ db.confirmations ∧ c.workflowId ≠ content.workflowId := by
      intro c hc ho
      rw [hsame] at hc
      rcases List.mem_append.mp hc with hc | hc
      · obtain ⟨c₀, hmem, rfl⟩ := List.mem_map.mp hc
        obtain ⟨hother, heq⟩ := ConfirmationRow.open_of_revoked ho
        rw [heq]
        exact .inr ⟨hmem, hother⟩
      · exact .inl (List.mem_singleton.mp hc)
    intro c hc c' hc' hworkflow ho ho'
    rcases hrow c hc ho with rfl | ⟨hmem, hother⟩
    · rcases hrow c' hc' ho' with rfl | ⟨_, hother'⟩
      · rfl
      · exact absurd hworkflow.symm hother'
    · rcases hrow c' hc' ho' with rfl | ⟨hmem', _⟩
      · exact absurd hworkflow hother
      · exact hone c hmem c' hmem' hworkflow ho ho'
  · have hrow : ∀ c ∈ db'.confirmations, c.Open → c ∈ db.confirmations := by
      intro c hc ho
      obtain ⟨c₀, hmem, ⟨_, rfl⟩ | ⟨_, rfl⟩⟩ := ConfirmationRow.mem_update (hsame ▸ hc)
      · cases ho.1
      · exact hmem
    intro c hc c' hc' hworkflow ho ho'
    exact hone c (hrow c hc ho) c' (hrow c' hc' ho') hworkflow ho ho'

theorem Change.backed {now : Time} {db db' : Database δ} (h : Change D now db db')
    (hevidence : Table.UniqueKeys AttestationRow.evidenceSha256 db.attestations)
    (hbacked : ∀ c ∈ db.confirmations, Backed D now db c) :
    ∀ c ∈ db'.confirmations, Backed D now db' c := by
  intro c hc
  rcases h.confirmations_cases with hsame | ⟨_, content, hissues, hsame⟩ | ⟨_, _, _, hsame⟩
  · exact (hbacked c (hsame ▸ hc)).step h hevidence (.refl c)
  · rcases List.mem_append.mp (hsame ▸ hc) with hc | hc
    · obtain ⟨c₀, hmem, rfl⟩ := List.mem_map.mp hc
      exact (hbacked c₀ hmem).step h hevidence (c₀.samePlan_revoked _ _)
    · cases List.mem_singleton.mp hc
      exact (hissues.backed hevidence).step h hevidence (.refl _)
  · obtain ⟨c₀, hmem, ⟨_, rfl⟩ | ⟨_, rfl⟩⟩ := ConfirmationRow.mem_update (hsame ▸ hc)
    · have hplan : c₀.SamePlan (c₀.consumed now) := ⟨rfl, rfl, rfl, rfl⟩
      exact (hbacked c₀ hmem).step h hevidence hplan
    · exact (hbacked _ hmem).step h hevidence (.refl _)

theorem Change.evidence {now : Time} (h : Change D now db db')
    (hevidence : Table.UniqueKeys AttestationRow.evidenceSha256 db.attestations) :
    Table.UniqueKeys AttestationRow.evidenceSha256 db'.attestations := by
  rcases h.attestations_cases with hsame | ⟨existing, _, _, hsame⟩ | ⟨a, _, _, hnew, _, hsame⟩
  · rw [hsame]
    exact hevidence
  · have hkey : ∀ a : AttestationRow δ,
        (a.superseded existing.evidenceSha256 now).evidenceSha256 = a.evidenceSha256 :=
      fun a => a.superseded_evidence _
    rw [hsame]
    exact uniqueKeys_map hevidence hkey
  · rw [hsame]
    refine hevidence.append_single (Table.lookup_eq_none_iff.mpr fun hmem => ?_)
    obtain ⟨b, hb, heq⟩ := List.mem_map.mp hmem
    exact hnew b hb heq

theorem Change.verifiers {now : Time} (h : Change D now db db')
    (hverifiers : ∀ a ∈ db.attestations, ∀ a' ∈ db.attestations, a.workflowId = a'.workflowId →
      a.supersededAt = none → a'.supersededAt = none → a.verifierId = a'.verifierId → a = a') :
    ∀ a ∈ db'.attestations, ∀ a' ∈ db'.attestations, a.workflowId = a'.workflowId →
      a.supersededAt = none → a'.supersededAt = none → a.verifierId = a'.verifierId → a = a' := by
  rcases h.attestations_cases with hsame | ⟨existing, _, _, hsame⟩ | ⟨b, _, _, _, hfree, hsame⟩
  · rw [hsame]
    exact hverifiers
  · have hrow : ∀ a ∈ db'.attestations, a.supersededAt = none → a ∈ db.attestations := by
      intro a ha hlive
      obtain ⟨a₀, hmem, rfl⟩ := List.mem_map.mp (hsame ▸ ha)
      rw [AttestationRow.superseded_eq hlive]
      exact hmem
    intro a ha a' ha' hworkflow hlive hlive' hverifier
    exact hverifiers a (hrow a ha hlive) a' (hrow a' ha' hlive') hworkflow hlive hlive' hverifier
  · intro a ha a' ha' hworkflow hlive hlive' hverifier
    rcases List.mem_append.mp (hsame ▸ ha) with ha | ha
    · rcases List.mem_append.mp (hsame ▸ ha') with ha' | ha'
      · exact hverifiers a ha a' ha' hworkflow hlive hlive' hverifier
      · cases List.mem_singleton.mp ha'
        exact absurd hverifier (hfree a ha hworkflow hlive)
    · cases List.mem_singleton.mp ha
      rcases List.mem_append.mp (hsame ▸ ha') with ha' | ha'
      · exact absurd hverifier.symm (hfree a' ha' hworkflow.symm hlive')
      · exact (List.mem_singleton.mp ha').symm

theorem Change.trusted {now : Time} (h : Change D now db db')
    (htrusted : ∀ a ∈ db.attestations, Trusted db a) : ∀ a ∈ db'.attestations, Trusted db' a := by
  intro a ha
  rcases h.attestations_cases with hsame | ⟨existing, _, _, hsame⟩ | ⟨b, hb, _, _, _, hsame⟩
  · exact (htrusted a (hsame ▸ ha)).step h rfl rfl
  · obtain ⟨a₀, hmem, rfl⟩ := List.mem_map.mp (hsame ▸ ha)
    refine (htrusted a₀ hmem).step h ?_ ?_
    · exact AttestationRow.superseded_workflowId _ _
    · exact AttestationRow.superseded_verifierId _ _
  · rcases List.mem_append.mp (hsame ▸ ha) with ha | ha
    · exact (htrusted a ha).step h rfl rfl
    · cases List.mem_singleton.mp ha
      exact hb.step h rfl rfl

theorem Change.sound {now : Time} (hs : SoundAt D now db) (h : Change D now db db') :
    SoundAt D now db' where
  workflows := h.uniqueKeys hs.workflows
  clocks := h.clocks hs.clocks
  tokens := h.tokens hs.tokens
  oneOpen := h.oneOpen hs.oneOpen
  evidence := h.evidence hs.evidence
  verifiers := h.verifiers hs.verifiers
  trusted := h.trusted hs.trusted
  backed := h.backed hs.evidence hs.backed

/-! ## What a change leaves alone -/

theorem Change.closed_kept {now : Time} (hs : SoundAt D now db) (h : Change D now db db')
    (hc : c ∈ db.confirmations) (hclosed : ¬ c.Open) : c ∈ db'.confirmations := by
  rcases h.confirmations_cases with hsame | ⟨_, content, _, hsame⟩ | ⟨_, k, hk, hsame⟩
  · exact hsame ▸ hc
  · have hrow : c.revoked content.workflowId now = c := if_neg fun hc => hclosed hc.2
    rw [hsame]
    exact List.mem_append_left _ (List.mem_map.mpr ⟨c, hc, hrow⟩)
  · have hother : c.tokenSha256 ≠ k.tokenSha256 := by
      intro htoken
      have hfound := Table.lookup_eq_some_of_mem hs.tokens hc
      rw [htoken, Table.lookup_eq_some_of_mem hs.tokens hk.recorded] at hfound
      cases hfound
      exact hclosed hk.fresh
    rw [hsame]
    exact List.mem_map.mpr ⟨c, hc, if_neg hother⟩

theorem Change.applied_kept {now : Time} (h : Change D now db db') {workflowId : String}
    (hrow : db.workflow workflowId = some row) (happlied : row.status = .applied) :
    db'.workflow workflowId = some row := by
  have hset (other : WorkflowRow δ) (hother : db.workflow other.workflowId = some other)
      (hstatus : other.status ≠ .applied) {f : WorkflowRow δ → WorkflowRow δ}
      (hf : ∀ r, (f r).workflowId = r.workflowId) :
      (db.setWorkflow other.workflowId f).workflow workflowId = some row := by
    rw [db.workflow_setWorkflow_other _ f hf, hrow]
    rintro rfl
    cases hother.symm.trans hrow
    exact hstatus happlied
  have hlive {status : Status} (hl : status.Live) : status ≠ .applied := by
    rintro rfl
    exact hl
  cases h with
  | created binding root key events hnew =>
    refine (Table.lookup_append_single db.workflows _ workflowId).trans ?_
    change (db.workflow workflowId).or _ = _
    rw [hrow]
    rfl
  | superseded => exact hrow
  | refreshed other _ _ _ _ hother _ hl => exact hset other hother (hlive hl) fun _ => rfl
  | conflicted other _ _ hother _ hstatus => exact hset other hother hstatus fun _ => rfl
  | attested other _ _ _ _ hother _ hl => exact hset other hother (hlive hl) fun _ => rfl
  | issued other _ _ _ _ hother _ hready | consumed other _ _ hother _ hready =>
    exact hset other hother (by simp [hready]) fun _ => rfl
  | applied other _ _ _ hother _ happlying | recovered other _ _ _ hother _ happlying =>
    exact hset other hother (by simp [happlying]) fun _ => rfl

/-! ## Runs -/

omit [DecidableEq δ] in
theorem SoundAt.timely {c : Call δ} (hs : SoundAt D c.now db) : Timely D db c := by
  intro workflowId _ row hrow hlt
  exact absurd hlt (not_lt.mpr (hs.clocks workflowId row hrow))

variable {P : Database δ → Prop}

theorem Changes.keep {now : Time}
    (hchange : ∀ db db', SoundAt D now db → Change D now db db' → P db → P db')
    (h : Changes D now db db') (hs : SoundAt D now db) (hp : P db) : SoundAt D now db' ∧ P db' := by
  induction h with
  | refl => exact ⟨hs, hp⟩
  | tail _ hlast ih => exact ⟨hlast.sound ih.1, hchange _ _ ih.1 hlast ih.2⟩

theorem next_keeps {c : Call δ}
    (hchange : ∀ db db', SoundAt D c.now db → Change D c.now db db' → P db → P db')
    (hs : SoundAt D c.now db) (hp : P db) :
    SoundAt D c.now ((store D).next db c) ∧ P ((store D).next db c) := by
  rcases store_cases D db c with ⟨_, _, hnext⟩ | ⟨db', _, hperform, _, hnext⟩
  · rw [hnext]
    exact ⟨hs, hp⟩
  · rw [hnext]
    exact (perform_changes hs.workflows hs.timely hperform).2.keep hchange hs hp

/-- The observation times of a run do not go back. -/
def Forward (calls : List (Call δ)) : Prop := calls.Pairwise fun c c' => c.now ≤ c'.now

theorem run_sound (D : Digests δ) {calls : List (Call δ)} (h : Forward calls) {now : Time}
    (hnow : ∀ c ∈ calls, c.now ≤ now) :
    SoundAt D now ((store D).exec (Database.empty δ) calls) := by
  induction calls using List.reverseRecOn generalizing now with
  | nil => exact soundAt_empty now
  | append_singleton calls c ih =>
    obtain ⟨hcalls, _, hlast⟩ := List.pairwise_append.mp h
    have hbefore : ∀ c' ∈ calls, c'.now ≤ c.now :=
      fun c' hc' => hlast c' hc' c (List.mem_singleton_self c)
    have hs := ih hcalls hbefore
    rw [Machine.exec_concat]
    have hnext := next_keeps (P := fun _ => True) (fun _ _ _ _ _ => trivial) hs trivial
    exact hnext.1.mono (hnow c (List.mem_append_right _ (List.mem_singleton_self c)))

theorem run_keeps (hchange : ∀ now db db', SoundAt D now db → Change D now db db' → P db → P db')
    {before after : List (Call δ)} (h : Forward (before ++ after))
    (hp : P ((store D).exec (Database.empty δ) before)) :
    P ((store D).exec (Database.empty δ) (before ++ after)) := by
  induction after using List.reverseRecOn with
  | nil => rwa [List.append_nil]
  | append_singleton after c ih =>
    rw [← List.append_assoc] at h ⊢
    obtain ⟨hcalls, _, hlast⟩ := List.pairwise_append.mp h
    have hbefore : ∀ c' ∈ before ++ after, c'.now ≤ c.now :=
      fun c' hc' => hlast c' hc' c (List.mem_singleton_self c)
    have hs := run_sound D hcalls hbefore
    rw [Machine.exec_concat]
    exact (next_keeps (hchange c.now) hs (ih hcalls)).2

end LocalMoe.Workflow
