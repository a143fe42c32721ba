/-
  What a call may do to the tables.
-/
import LocalMoe.Foundation.Loops
import LocalMoe.Workflow.Store

namespace LocalMoe.Workflow

open Foundation

variable {δ : Type} {D : Digests δ}

/-! ## Rows -/

variable {f : WorkflowRow δ → WorkflowRow δ}

theorem Database.workflow_setWorkflow (db : Database δ) (workflowId : String)
    (hf : ∀ r, (f r).workflowId = r.workflowId) (other : String) :
    (db.setWorkflow workflowId f).workflow other =
      if other = workflowId then (db.workflow other).map f else db.workflow other := by
  have hkeeps : ∀ r : WorkflowRow δ,
      (if r.workflowId = workflowId then f r else r).workflowId = r.workflowId := by
    intro r
    split
    · exact hf r
    · rfl
  have hlookup : (db.setWorkflow workflowId f).workflow other =
      (db.workflow other).map fun r => if r.workflowId = workflowId then f r else r :=
    Table.lookup_map hkeeps db.workflows other
  rw [hlookup]
  cases hrow : db.workflow other with
  | none => simp
  | some row =>
    have hid : row.workflowId = other := (Table.mem_of_lookup hrow).2
    by_cases h : other = workflowId
    · simp [hid, h]
    · simp [hid, h]

variable {db : Database δ} {row : WorkflowRow δ}

theorem Database.workflow_setWorkflow_self (hrow : db.workflow row.workflowId = some row)
    (f : WorkflowRow δ → WorkflowRow δ) (hf : ∀ r, (f r).workflowId = r.workflowId) :
    (db.setWorkflow row.workflowId f).workflow row.workflowId = some (f row) := by
  rw [db.workflow_setWorkflow _ hf, if_pos rfl, hrow]
  rfl

variable {workflowId : String}

theorem Database.workflow_setWorkflow_other (db : Database δ) {other : String}
    (h : other ≠ workflowId) (f : WorkflowRow δ → WorkflowRow δ)
    (hf : ∀ r, (f r).workflowId = r.workflowId) :
    (db.setWorkflow workflowId f).workflow other = db.workflow other := by
  rw [db.workflow_setWorkflow _ hf, if_neg h]

theorem Database.setWorkflow_setWorkflow (db : Database δ) (workflowId : String)
    (hf : ∀ r, (f r).workflowId = r.workflowId) (g : WorkflowRow δ → WorkflowRow δ) :
    (db.setWorkflow workflowId f).setWorkflow workflowId g =
      db.setWorkflow workflowId fun r => g (f r) := by
  have hrow : ∀ r : WorkflowRow δ,
      (if (if r.workflowId = workflowId then f r else r).workflowId = workflowId
        then g (if r.workflowId = workflowId then f r else r)
        else (if r.workflowId = workflowId then f r else r)) =
      if r.workflowId = workflowId then g (f r) else r := by
    intro r
    by_cases h : r.workflowId = workflowId
    · rw [if_pos h, if_pos ((hf r).trans h), if_pos h]
    · rw [if_neg h, if_neg h, if_neg h]
  unfold Database.setWorkflow Table.update
  dsimp only
  rw [List.map_map]
  exact congrArg (fun rows => ({ db with workflows := rows } : Database δ))
    (List.map_congr_left fun r _ => hrow r)

theorem workflowId_of_workflow (h : db.workflow workflowId = some row) :
    row.workflowId = workflowId := (Table.mem_of_lookup h).2

variable [DecidableEq δ]

/-! ## Records -/

/-- A record that loads: the row's, and every check has passed. -/
structure Loads (artifacts : Option (AttestationRow δ → Bool)) (db : Database δ)
    (row : WorkflowRow δ) : Prop where
  attestations : ∀ a ∈ db.attestationsOf row.workflowId,
    validateAttestation artifacts row.binding a = .ok ()
  coherent : WorkflowRecord.Coherent row.status row.applyTransactionId row.resultSha256
  verifiers : ((db.attestationsOf row.workflowId).map AttestationRow.verifierId).Nodup
  times : row.binding.createdAt ≤ row.updatedAt ∧ row.updatedAt ≤ row.lastWallTime

variable {artifacts : Option (AttestationRow δ → Bool)}

theorem readRecord_eq_ok {activeAt : Time} {record : WorkflowRecord δ} :
    readRecord D artifacts db row activeAt = .ok record ↔
      record = recordOf D db row activeAt ∧ Loads artifacts db row := by
  constructor
  · intro h
    obtain ⟨_, hattestations, h⟩ := bind_eq_ok.mp h
    obtain ⟨hcoherent, h⟩ := check_bind_eq_ok.mp h
    obtain ⟨hverifiers, h⟩ := check_bind_eq_ok.mp h
    obtain ⟨_, h⟩ := check_bind_eq_ok.mp h
    obtain ⟨htimes, h⟩ := check_bind_eq_ok.mp h
    exact ⟨(Except.ok.inj h).symm, forM_ok_iff.mp hattestations, hcoherent, hverifiers, htimes⟩
  · rintro ⟨rfl, h⟩
    refine bind_eq_ok.mpr ⟨⟨⟩, forM_ok_iff.mpr h.attestations, ?_⟩
    refine check_bind_eq_ok.mpr ⟨h.coherent, check_bind_eq_ok.mpr ⟨h.verifiers, ?_⟩⟩
    refine check_bind_eq_ok.mpr ⟨List.countP_le_length, check_bind_eq_ok.mpr ⟨h.times, rfl⟩⟩

theorem selectedRecord_eq_ok {activeAt : Time} {record : WorkflowRecord δ} :
    selectedRecord D artifacts db workflowId activeAt = .ok record ↔
      ∃ row, db.workflow workflowId = some row ∧ record = recordOf D db row activeAt ∧
        Loads artifacts db row := by
  unfold selectedRecord
  cases hrow : db.workflow workflowId with
  | none => exact ⟨fun h => (by cases h), fun ⟨_, h, _⟩ => (by cases h)⟩
  | some row =>
    refine readRecord_eq_ok.trans ⟨fun h => ⟨row, rfl, h⟩, ?_⟩
    rintro ⟨_, h, hrecord⟩
    cases h
    exact hrecord

/-! ## Events -/

/-- The event of a change is there, or it is added. -/
inductive Logged (D : Digests δ) (now : Time) (workflowId : String) (key : EventKey δ)
    (payload : EventPayload δ) : List (EventRow δ) → List (EventRow δ) → Prop where
  | again {events : List (EventRow δ)} (existing : EventRow δ)
      (hfind : (events.find? fun e => decide (e.workflowId = workflowId ∧ e.eventKey = key)) =
        some existing)
      (hpayload : existing.payloadSha256 = D.ofPayload payload) :
      Logged D now workflowId key payload events events
  | added {events : List (EventRow δ)}
      (hfind : (events.find? fun e => decide (e.workflowId = workflowId ∧ e.eventKey = key)) =
        none) :
      Logged D now workflowId key payload events
        (events ++ [⟨workflowId, payload.type, key, D.ofPayload payload, now⟩])

theorem appendEvent_eq_ok {db' : Database δ} {key : EventKey δ} {payload : EventPayload δ}
    {now : Time} (h : appendEvent D db workflowId key payload now = .ok db') :
    ∃ events, db' = { db with events := events } ∧
      Logged D now workflowId key payload db.events events := by
  unfold appendEvent at h
  split at h
  · next existing hfind =>
    obtain ⟨hpayload, h⟩ := check_bind_eq_ok.mp h
    cases h
    exact ⟨db.events, rfl, .again existing hfind hpayload⟩
  · next hfind =>
    cases h
    exact ⟨_, rfl, .added hfind⟩

/-! ## Changes -/

/-- The attestations of a workflow that are valid at a time. -/
def Database.activeOf (db : Database δ) (workflowId : String) (now : Time) :
    List (AttestationRow δ) :=
  (db.attestationsOf workflowId).filter fun a => decide (a.ActiveAt now)

inductive Change (D : Digests δ) (now : Time) : Database δ → Database δ → Prop where
  | created {db : Database δ} (binding : CandidateBinding δ) (root : δ) (key : String)
      (events : List (EventRow δ))
      (hnew : db.workflow binding.workflowId = none)
      (hstart : binding.createdAt ≤ now)
      (hlog : Logged D now binding.workflowId (.stage (D.ofText key))
        (.candidateStaged (D.ofBinding binding) binding.candidateContentSha256) db.events events) :
      Change D now db { db with
        workflows := db.workflows ++ [⟨binding, .staged, root, none, none, now, now⟩]
        events }
  | refreshed {db : Database δ} (row : WorkflowRow δ) (status : Status) (key : EventKey δ)
      (payload : EventPayload δ) (events : List (EventRow δ))
      (hrow : db.workflow row.workflowId = some row)
      (hclock : row.lastWallTime ≤ now)
      (hlive : row.status.Live)
      (hstatus : status.Live ∨ status = .expired)
      (hkey : key = .expiry ∨ ∃ state, key = .quorum state)
      (hlog : Logged D now row.workflowId key payload db.events events) :
      Change D now db
        { db.setWorkflow row.workflowId (·.withStatus status now) with events }
  | conflicted {db : Database δ} (row : WorkflowRow δ) (reason : String)
      (events : List (EventRow δ))
      (hrow : db.workflow row.workflowId = some row)
      (hclock : row.lastWallTime ≤ now)
      (hstatus : row.status ≠ .applied)
      (hlog : Logged D now row.workflowId (.conflict (D.ofText reason))
        (.sourceDriftDetected (D.ofText reason)) db.events events) :
      Change D now db
        { db.setWorkflow row.workflowId (fun r => r.released.withStatus .conflicted now) with
          events }
  | superseded {db : Database δ} (existing : AttestationRow δ) (events : List (EventRow δ))
      (hmem : existing ∈ db.attestations)
      (hlive : existing.supersededAt = none)
      (hexpired : existing.expiresAt < now)
      (hlog : Logged D now existing.workflowId (.attestationExpired existing.evidenceSha256)
        (.attestationSuperseded existing.evidenceSha256 existing.verifierId) db.events events) :
      Change D now db { db with
        attestations := db.attestations.map (·.superseded existing.evidenceSha256 now)
        events }
  | attested {db : Database δ} (row : WorkflowRow δ) (attestation : IndependentAttestation δ)
      (status : Status) (verified : Nat) (events : List (EventRow δ))
      (hrow : db.workflow row.workflowId = some row)
      (hclock : row.lastWallTime ≤ now)
      (hlive : row.status.Live)
      (hstatus : status.Live)
      (hverifier : ∃ v ∈ row.binding.verificationPolicy.verifiers,
        v.verifierId = attestation.verifierId)
      (hevidence : ∀ a ∈ db.attestations, a.evidenceSha256 ≠ attestation.evidenceSha256)
      (hfree : ∀ a ∈ db.attestations, a.workflowId = row.workflowId → a.supersededAt = none →
        a.verifierId ≠ attestation.verifierId)
      (hvalid : validateAttestation none row.binding (attestation.row row.workflowId now) = .ok ())
      (hlog : Logged D now row.workflowId (.attestation attestation.evidenceSha256)
        (.attestationVerified attestation verified row.binding.verificationPolicy.quorum)
        db.events events) :
      Change D now db
        { db.setWorkflow row.workflowId (·.withStatus status now) with
          attestations := db.attestations ++ [attestation.row row.workflowId now]
          events }
  | issued {db : Database δ} (row : WorkflowRow δ) (key : String) (expiresAt : Time)
      (content : PlanContent δ) (events : List (EventRow δ))
      (hrow : db.workflow row.workflowId = some row)
      (hclock : row.lastWallTime ≤ now)
      (hready : row.status = .ready)
      (hcontent : content = ⟨row.workflowId, D.ofBinding row.binding,
        (db.activeOf row.workflowId now).map AttestationRow.evidenceSha256, D.ofText key, now,
        expiresAt⟩)
      (hexpires : now ≤ expiresAt ∧ expiresAt ≤ row.binding.expiresAt)
      (hquorum : row.binding.verificationPolicy.quorum ≤
        (db.activeOf row.workflowId now).countP fun a => decide (expiresAt ≤ a.expiresAt))
      (hkey : Table.lookup ConfirmationRow.idempotencySha256 db.confirmations (D.ofText key) =
        none)
      (htoken : Table.lookup ConfirmationRow.tokenSha256 db.confirmations
        (confirmationOf D content).tokenSha256 = none)
      (hlog : Logged D now row.workflowId (.resumePlan (D.ofPlan content))
        (.resumeConfirmationIssued (D.ofPlan content) (D.ofText key) expiresAt) db.events events) :
      Change D now db
        { db.setWorkflow row.workflowId (·.touched now) with
          confirmations := db.confirmations.map (·.revoked row.workflowId now) ++
            [confirmationOf D content]
          events }
  | consumed {db : Database δ} (row : WorkflowRow δ) (confirmation : ConfirmationRow δ)
      (events : List (EventRow δ))
      (hrow : db.workflow row.workflowId = some row)
      (hclock : row.lastWallTime ≤ now)
      (hready : row.status = .ready)
      (hexpires : now ≤ row.binding.expiresAt)
      (hquorum : row.binding.verificationPolicy.quorum ≤ (db.activeOf row.workflowId now).length)
      (hconfirmation : confirmation ∈ db.confirmations)
      (hfresh : confirmation.consumedAt = none ∧ confirmation.revokedAt = none)
      (hbound : confirmation.workflowId = row.workflowId ∧
        confirmation.bindingSha256 = D.ofBinding row.binding)
      (htime : confirmation.issuedAt ≤ now ∧ now ≤ confirmation.expiresAt)
      (hlog : Logged D now row.workflowId (.resume confirmation.planId)
        (.resumeAuthorized confirmation.planId
          (D.ofTransaction row.workflowId confirmation.planId confirmation.bindingSha256))
        db.events events) :
      Change D now db
        { db.setWorkflow row.workflowId (·.applyingWith
            (D.ofTransaction row.workflowId confirmation.planId confirmation.bindingSha256) now)
          with
          confirmations := Table.update ConfirmationRow.tokenSha256 db.confirmations
            confirmation.tokenSha256 (·.consumed now)
          events }
  | applied {db : Database δ} (row : WorkflowRow δ) (transactionId result : δ)
      (events : List (EventRow δ))
      (hrow : db.workflow row.workflowId = some row)
      (hclock : row.lastWallTime ≤ now)
      (happlying : row.status = .applying)
      (htransaction : row.applyTransactionId = some transactionId)
      (hlog : Logged D now row.workflowId (.applied transactionId)
        (.candidateApplied transactionId result) db.events events) :
      Change D now db
        { db.setWorkflow row.workflowId (·.appliedWith result now) with events }
  | recovered {db : Database δ} (row : WorkflowRow δ) (transactionId : δ) (status : Status)
      (events : List (EventRow δ))
      (hrow : db.workflow row.workflowId = some row)
      (hclock : row.lastWallTime ≤ now)
      (happlying : row.status = .applying)
      (htransaction : row.applyTransactionId = some transactionId)
      (hstatus : status.Live ∨ status = .expired)
      (hnew : Table.lookup RecoveryRow.transactionId db.recoveries transactionId = none)
      (hlog : Logged D now row.workflowId (.recovered transactionId)
        (.applyRecovered transactionId status) db.events events) :
      Change D now db
        { db.setWorkflow row.workflowId (·.recoveredWith status now) with
          recoveries := db.recoveries ++ [⟨transactionId, row.workflowId, now⟩]
          events }

def Changes (D : Digests δ) (now : Time) : Database δ → Database δ → Prop :=
  Relation.ReflTransGen (Change D now)

end LocalMoe.Workflow
