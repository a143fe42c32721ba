/-
  The clock of a workflow.

  `last_wall_time` is the latest time at which the store has written a workflow.
-/
import LocalMoe.Workflow.Inversion

namespace LocalMoe.Workflow

open Foundation

variable {δ : Type} {D : Digests δ}

/-! ## Changes keep the rows -/

/-- A workflow keeps its binding, and a row that changes is written at a time that is not
behind its clock. -/
def Advances (now : Time) (db db' : Database δ) : Prop :=
  ∀ workflowId row, db.workflow workflowId = some row →
    ∃ row', db'.workflow workflowId = some row' ∧ row'.binding = row.binding ∧
      (row' = row ∨ row.lastWallTime ≤ now ∧ row'.lastWallTime = now)

theorem Advances.refl (now : Time) (db : Database δ) : Advances now db db :=
  fun _ row hrow => ⟨row, hrow, rfl, .inl rfl⟩

theorem Advances.trans {now : Time} {db db' db'' : Database δ} (h : Advances now db db')
    (h' : Advances now db' db'') : Advances now db db'' := by
  intro workflowId row hrow
  obtain ⟨row', hrow', hbinding, hstep⟩ := h workflowId row hrow
  obtain ⟨row'', hrow'', hbinding', hstep'⟩ := h' workflowId row' hrow'
  refine ⟨row'', hrow'', hbinding'.trans hbinding, ?_⟩
  rcases hstep with rfl | ⟨hbefore, hafter⟩
  · exact hstep'
  · rcases hstep' with rfl | ⟨_, hafter'⟩
    · exact .inr ⟨hbefore, hafter⟩
    · exact .inr ⟨hbefore, hafter'⟩

variable {db : Database δ}

variable {f : WorkflowRow δ → WorkflowRow δ}

theorem advances_setWorkflow {row : WorkflowRow δ} {now : Time}
    (hrow : db.workflow row.workflowId = some row) (hclock : row.lastWallTime ≤ now)
    (hf : ∀ r, (f r).binding = r.binding) (htime : (f row).lastWallTime = now) :
    Advances now db (db.setWorkflow row.workflowId f) := by
  have hid : ∀ r, (f r).workflowId = r.workflowId := fun r =>
    congrArg CandidateBinding.workflowId (hf r)
  intro workflowId other hother
  by_cases h : workflowId = row.workflowId
  · cases h
    cases hrow.symm.trans hother
    exact ⟨f row, Database.workflow_setWorkflow_self hrow f hid, hf row, .inr ⟨hclock, htime⟩⟩
  · exact ⟨other, (db.workflow_setWorkflow_other h f hid).trans hother, rfl, .inl rfl⟩

theorem Change.advances [DecidableEq δ] {now : Time} {db' : Database δ} (h : Change D now db db') :
    Advances now db db' := by
  cases h with
  | created binding root key events hnew hstart hlog =>
    intro workflowId row hrow
    refine ⟨row, ?_, rfl, .inl rfl⟩
    refine (Table.lookup_append_single db.workflows _ workflowId).trans ?_
    change (db.workflow workflowId).or _ = _
    rw [hrow]
    rfl
  | refreshed row status key payload events hrow hclock
  | conflicted row reason events hrow hclock =>
    exact advances_setWorkflow hrow hclock (fun _ => rfl) rfl
  | superseded => exact .refl now db
  | attested row attestation status verified events hrow hclock
  | issued row key expiresAt content events hrow hclock
  | consumed row confirmation events hrow hclock
  | applied row transactionId result events hrow hclock
  | recovered row transactionId status events hrow hclock =>
    exact advances_setWorkflow hrow hclock (fun _ => rfl) rfl

theorem uniqueKeys_setWorkflow (h : Table.UniqueKeys WorkflowRow.workflowId db.workflows)
    (workflowId : String) (hf : ∀ r, (f r).workflowId = r.workflowId) :
    Table.UniqueKeys WorkflowRow.workflowId (db.setWorkflow workflowId f).workflows :=
  Table.UniqueKeys.update h workflowId hf

theorem Change.uniqueKeys [DecidableEq δ] {now : Time} {db' : Database δ}
    (h : Change D now db db') (hunique : Table.UniqueKeys WorkflowRow.workflowId db.workflows) :
    Table.UniqueKeys WorkflowRow.workflowId db'.workflows := by
  cases h with
  | created binding root key events hnew => exact hunique.append_single hnew
  | superseded => exact hunique
  | refreshed | conflicted | attested | issued | consumed | applied
  | recovered => exact uniqueKeys_setWorkflow hunique _ fun _ => rfl

variable [DecidableEq δ]

theorem Changes.advances {now : Time} {db db' : Database δ} (h : Changes D now db db') :
    Advances now db db' := by
  induction h with
  | refl => exact .refl now db
  | tail _ hchange ih => exact ih.trans hchange.advances

theorem Changes.uniqueKeys {now : Time} {db db' : Database δ} (h : Changes D now db db')
    (hunique : Table.UniqueKeys WorkflowRow.workflowId db.workflows) :
    Table.UniqueKeys WorkflowRow.workflowId db'.workflows := by
  induction h with
  | refl => exact hunique
  | tail _ hchange ih => exact hchange.uniqueKeys ih

/-! ## Calls -/

theorem store_cases (D : Digests δ) (db : Database δ) (c : Call δ) :
    (∃ e, (store D).output db c = .error e ∧ (store D).next db c = db) ∨
      ∃ db' answer, perform D db c = .ok (db', answer) ∧ (store D).output db c = .ok answer ∧
        (store D).next db c = db' := by
  unfold Machine.output Machine.next store
  dsimp only
  cases h : perform D db c with
  | error e => exact .inl ⟨e, rfl, rfl⟩
  | ok result => exact .inr ⟨result.1, result.2, rfl, rfl, rfl⟩

theorem next_advances {c : Call δ}
    (hunique : Table.UniqueKeys WorkflowRow.workflowId db.workflows) (htimely : Timely D db c) :
    Table.UniqueKeys WorkflowRow.workflowId ((store D).next db c).workflows ∧
      Advances c.now db ((store D).next db c) := by
  rcases store_cases D db c with ⟨e, _, hnext⟩ | ⟨db', answer, hperform, _, hnext⟩
  · rw [hnext]
    exact ⟨hunique, .refl c.now db⟩
  · obtain ⟨_, hchanges⟩ := perform_changes hunique htimely hperform
    rw [hnext]
    exact ⟨hchanges.uniqueKeys hunique, hchanges.advances⟩

/-! ## Runs -/

/-- The clock of every workflow is at least what it was. -/
def ClocksAfter (db db' : Database δ) : Prop :=
  ∀ workflowId row, db.workflow workflowId = some row →
    ∃ row', db'.workflow workflowId = some row' ∧ row.lastWallTime ≤ row'.lastWallTime

theorem run_clocks (hunique : Table.UniqueKeys WorkflowRow.workflowId db.workflows)
    {calls : List (Call δ)} (h : (store D).Admits (Timely D) db calls) :
    Table.UniqueKeys WorkflowRow.workflowId ((store D).exec db calls).workflows ∧
      ClocksAfter db ((store D).exec db calls) := by
  refine Machine.Admits.exec (P := fun db' =>
    Table.UniqueKeys WorkflowRow.workflowId db'.workflows ∧ ClocksAfter db db') ?_ h
    ⟨hunique, fun _ row hrow => ⟨row, hrow, le_rfl⟩⟩
  rintro db' c htimely ⟨hunique', hclocks⟩
  obtain ⟨hnext, hadvances⟩ := next_advances hunique' htimely
  refine ⟨hnext, fun workflowId row hrow => ?_⟩
  obtain ⟨row', hrow', hbefore⟩ := hclocks workflowId row hrow
  obtain ⟨row'', hrow'', _, hstep⟩ := hadvances workflowId row' hrow'
  refine ⟨row'', hrow'', ?_⟩
  rcases hstep with rfl | ⟨hclock, htime⟩
  · exact hbefore
  · rw [htime]
    exact hbefore.trans hclock

/-- What the clock of the workflows guards between two states of a run. -/
structure Watermark (D : Digests δ) (db db' : Database δ) : Prop where
  /-- The clock of no workflow goes back. -/
  monotone : ClocksAfter db db'
  /-- A call behind the clock of a workflow that it concerns raises and changes nothing. -/
  refused : ∀ c workflowId row, Timely D db' c → c.Concerns db' workflowId →
    db'.workflow workflowId = some row → c.now < row.lastWallTime →
    (∃ e, (store D).output db' c = .error e) ∧ (store D).next db' c = db'
  /-- A call that sees the quorum of a ready workflow expired sets the clock to its time. -/
  lapsed : ∀ c workflowId row row', Timely D db' c → db'.workflow workflowId = some row →
    ((store D).next db' c).workflow workflowId = some row' → row.status = .ready →
    row'.status ≠ .ready → row'.lastWallTime = c.now
  /-- An attestation that the clock has passed is never counted again. -/
  expired : ∀ c workflowId row answer, Timely D db' c → c.Concerns db' workflowId →
    db.workflow workflowId = some row → (store D).output db' c = .ok answer →
    ∀ a : AttestationRow δ, a.expiresAt < row.lastWallTime → ¬ a.ActiveAt c.now

theorem onTime_of_output {c : Call δ} {answer : Answer δ}
    (hunique : Table.UniqueKeys WorkflowRow.workflowId db.workflows) (htimely : Timely D db c)
    (h : (store D).output db c = .ok answer) {workflowId : String}
    (hconcerns : c.Concerns db workflowId) : OnTime db workflowId c.now := by
  rcases store_cases D db c with ⟨e, houtput, _⟩ | ⟨db', _, hperform, _, _⟩
  · cases h.symm.trans houtput
  · exact (perform_changes hunique htimely hperform).1 workflowId hconcerns

inductive SampleDigest where
  | text (value : String)
  | empty
  | more (head tail : SampleDigest)
  | plan (workflowId : String) (binding evidence idempotency : SampleDigest)
      (issuedAt expiresAt : Time)
  | transaction (workflowId : String) (plan binding : SampleDigest)
  | applied (transaction result : SampleDigest)
  deriving DecidableEq

def SampleDigest.ofList : List SampleDigest → SampleDigest
  | [] => .empty
  | d :: rest => .more d (ofList rest)

def sampleDigests : Digests SampleDigest where
  ofText := .text
  ofBinding binding := .text binding.workflowId
  ofPlan content := .plan content.workflowId content.bindingSha256
    (.ofList content.attestationEvidence) content.idempotencySha256 content.issuedAt
    content.expiresAt
  ofTransaction := .transaction
  ofPayload
    | .candidateApplied transactionId result => .applied transactionId result
    | .attestationQuorumChanged status evidence _ =>
      .more (.text (if status = .ready then "ready" else "staged")) (.ofList evidence)
    | _ => .empty
  token _ _
    | .text key => key ++ "-token"
    | _ => ""
  stageWorkflowId _ := "workflow"
  stageChallenge _ := "challenge"
  sorted evidence := evidence
  before _ _ := false
  lifetimesMatch _ _ := true

def sampleBinding : CandidateBinding SampleDigest where
  workflowId := "workflow"
  stageIdempotencySha256 := .text "stage-idempotency-key"
  taskFingerprint := .text "task"
  configSha256 := .text "config"
  sourceFingerprint := .text "source"
  challengeSha256 := .text "challenge"
  candidateContentSha256 := .text "content"
  verificationPolicy :=
    { quorum := 1, verifiers := [⟨"verifier", "adapter", "key"⟩]
      distinct := List.nodup_singleton _, positive := le_rfl, within := le_rfl }
  createdAt := 10
  expiresAt := 1000
  lifetime := by decide +kernel

def sampleAttestation : IndependentAttestation SampleDigest where
  adapterId := "adapter"
  verifierId := "verifier"
  keyId := "key"
  attestationId := "attestation"
  evidenceSha256 := .text "evidence"
  statementSha256 := .text "statement"
  envelopeSize := 100
  statementSize := 100
  issuedAt := 20
  expiresAt := 100
  lifetime := by decide +kernel

def sampleCall (request : Request SampleDigest) (now : Time) : Call SampleDigest :=
  ⟨request, now, fun _ => true⟩

def sampleStage : Call SampleDigest :=
  sampleCall (.createWorkflow sampleBinding "challenge" "stage-idempotency-key" (.text "root")) 10

def sampleVerified : Call SampleDigest :=
  sampleCall (.recordVerifiedAttestation "workflow" sampleAttestation (.text "workflow")) 30

def sampleFound : Call SampleDigest := sampleCall (.findWorkflow "workflow") 150

def sampleRolledBack : Call SampleDigest :=
  sampleCall (.issueResumePlan "workflow" "resume-idempotency-key" 10) 50

end LocalMoe.Workflow
