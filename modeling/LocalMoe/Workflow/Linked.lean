/-
  Tables whose transactions are those of consumed confirmations.
-/
import LocalMoe.Workflow.Sound

namespace LocalMoe.Workflow

open Foundation

variable {δ : Type} [DecidableEq δ] {D : Digests δ}

/-! ## Steps of a row -/

/-- What a change does to a workflow. -/
inductive RowStep (now : Time) (row : WorkflowRow δ) : WorkflowRow δ → Prop where
  | status (status : Status) (hlive : row.status.Live) (hstatus : status.Live ∨ status = .expired) :
      RowStep now row (row.withStatus status now)
  | conflicted (hstatus : row.status ≠ .applied) :
      RowStep now row (row.released.withStatus .conflicted now)
  | touched (hready : row.status = .ready) : RowStep now row (row.touched now)
  | applying (transactionId : δ) (hready : row.status = .ready) :
      RowStep now row (row.applyingWith transactionId now)
  | applied (resultSha256 : δ) (happlying : row.status = .applying) :
      RowStep now row (row.appliedWith resultSha256 now)
  | recovered (status : Status) (happlying : row.status = .applying)
      (hstatus : status.Live ∨ status = .expired) :
      RowStep now row (row.recoveredWith status now)

variable {now : Time} {db db' : Database δ} {workflowId : String} {row' : WorkflowRow δ}

theorem Change.row_cases (h : Change D now db db') (hrow' : db'.workflow workflowId = some row') :
    db.workflow workflowId = some row' ∨
    (∃ binding root, binding.createdAt ≤ now ∧
      row' = ⟨binding, .staged, root, none, none, now, now⟩) ∨
    ∃ row, db.workflow workflowId = some row ∧ row.lastWallTime ≤ now ∧ RowStep now row row' := by
  have hset {row : WorkflowRow δ} (hrow : db.workflow row.workflowId = some row)
      (hclock : row.lastWallTime ≤ now) (f : WorkflowRow δ → WorkflowRow δ)
      (hf : ∀ r, (f r).workflowId = r.workflowId) (hstep : RowStep now row (f row))
      (hfound : (db.setWorkflow row.workflowId f).workflow workflowId = some row') :
      db.workflow workflowId = some row' ∨
      (∃ binding root, binding.createdAt ≤ now ∧
        row' = ⟨binding, .staged, root, none, none, now, now⟩) ∨
      ∃ row, db.workflow workflowId = some row ∧ row.lastWallTime ≤ now ∧
        RowStep now row row' := by
    rcases Database.setWorkflow_cases hrow hf hfound with ⟨rfl, rfl⟩ | ⟨_, hsame⟩
    · exact .inr (.inr ⟨row, hrow, hclock, hstep⟩)
    · exact .inl hsame
  cases h with
  | created binding root key events hnew hstart =>
    rcases Database.append_cases hrow' with hold | rfl
    · exact .inl hold
    · exact .inr (.inl ⟨binding, root, hstart, rfl⟩)
  | superseded => exact .inl hrow'
  | refreshed row status _ _ _ hrow hclock hlive hstatus =>
    exact hset hrow hclock (·.withStatus status now) (fun _ => rfl)
      (.status status hlive hstatus) hrow'
  | conflicted row _ _ hrow hclock hstatus =>
    exact hset hrow hclock (fun r => r.released.withStatus .conflicted now) (fun _ => rfl)
      (.conflicted hstatus) hrow'
  | attested row _ status _ _ hrow hclock hlive hstatus =>
    exact hset hrow hclock (·.withStatus status now) (fun _ => rfl)
      (.status status hlive (.inl hstatus)) hrow'
  | issued row _ _ _ _ hrow hclock hready =>
    exact hset hrow hclock (·.touched now) (fun _ => rfl) (.touched hready) hrow'
  | consumed row _ _ hrow hclock hready =>
    exact hset hrow hclock (·.applyingWith _ now) (fun _ => rfl) (.applying _ hready) hrow'
  | applied row _ result _ hrow hclock happlying =>
    exact hset hrow hclock (·.appliedWith result now) (fun _ => rfl)
      (.applied result happlying) hrow'
  | recovered row _ status _ hrow hclock happlying _ hstatus =>
    exact hset hrow hclock (·.recoveredWith status now) (fun _ => rfl)
      (.recovered status happlying hstatus) hrow'

/-! ## Rows that load -/

/-- The checks of a record on its row. -/
structure WorkflowRow.Formed (row : WorkflowRow δ) : Prop where
  coherent : WorkflowRecord.Coherent row.status row.applyTransactionId row.resultSha256
  times : row.binding.createdAt ≤ row.updatedAt ∧ row.updatedAt ≤ row.lastWallTime

omit [DecidableEq δ] in
theorem WorkflowRecord.Coherent.none_of_live {status : Status} {transaction result : Option δ}
    (h : WorkflowRecord.Coherent status transaction result) (hlive : status.Live) :
    transaction = none ∧ result = none := by
  cases status <;> first | exact h | exact hlive.elim

omit [DecidableEq δ] in
theorem WorkflowRecord.coherent_none {status : Status} (h : status.Live ∨ status = .expired) :
    WorkflowRecord.Coherent status (none : Option δ) none := by
  rcases h with h | rfl
  · cases status <;> first | exact ⟨rfl, rfl⟩ | exact h.elim
  · exact ⟨rfl, rfl⟩

omit [DecidableEq δ] in
theorem WorkflowRecord.Coherent.result_none {status : Status} {transaction result : Option δ}
    (h : WorkflowRecord.Coherent status transaction result) (hstatus : status ≠ .applied) :
    result = none := by
  cases status <;> first | exact h.2 | exact absurd rfl hstatus

omit [DecidableEq δ] in
theorem RowStep.formed {row : WorkflowRow δ} (hf : row.Formed) (hclock : row.lastWallTime ≤ now)
    (h : RowStep now row row') : row'.Formed := by
  have htimes : row.binding.createdAt ≤ now ∧ now ≤ now :=
    ⟨hf.times.1.trans (hf.times.2.trans hclock), le_rfl⟩
  cases h with
  | status status hlive hstatus =>
    obtain ⟨htransaction, hresult⟩ := hf.coherent.none_of_live hlive
    refine ⟨?_, htimes⟩
    unfold WorkflowRow.withStatus
    rw [htransaction, hresult]
    exact WorkflowRecord.coherent_none hstatus
  | conflicted hstatus => exact ⟨⟨rfl, hf.coherent.result_none hstatus⟩, htimes⟩
  | touched hready => exact ⟨hf.coherent, htimes⟩
  | applying transactionId hready =>
    have hne : row.status ≠ .applied := by simp [hready]
    exact ⟨⟨rfl, hf.coherent.result_none hne⟩, htimes⟩
  | applied result happlying =>
    have hcoherent := hf.coherent
    rw [happlying] at hcoherent
    exact ⟨⟨hcoherent.1, rfl⟩, htimes⟩
  | recovered status happlying hstatus =>
    have hne : row.status ≠ .applied := by simp [happlying]
    refine ⟨?_, htimes⟩
    unfold WorkflowRow.recoveredWith
    rw [hf.coherent.result_none hne]
    exact WorkflowRecord.coherent_none hstatus

theorem Change.formed {now : Time} {db db' : Database δ} (h : Change D now db db')
    (hf : ∀ workflowId row, db.workflow workflowId = some row → row.Formed) :
    ∀ workflowId row, db'.workflow workflowId = some row → row.Formed := by
  intro workflowId row' hrow'
  rcases h.row_cases hrow' with hsame | ⟨binding, root, hstart, rfl⟩ | ⟨row, hrow, hclock, hstep⟩
  · exact hf workflowId row' hsame
  · exact ⟨⟨rfl, rfl⟩, hstart, le_rfl⟩
  · exact hstep.formed (hf workflowId row hrow) hclock

/-! ## Events -/

theorem Logged.mem {key : EventKey δ} {payload : EventPayload δ}
    {events events' : List (EventRow δ)} (h : Logged D now workflowId key payload events events')
    {e : EventRow δ} (he : e ∈ events') :
    e ∈ events ∨ e.workflowId = workflowId ∧ e.eventKey = key ∧ e.eventType = payload.type := by
  cases h with
  | again => exact .inl he
  | added =>
    rcases List.mem_append.mp he with he | he
    · exact .inl he
    · cases List.mem_singleton.mp he
      exact .inr ⟨rfl, rfl, rfl⟩

theorem Logged.find {now : Time} {workflowId : String} {key : EventKey δ}
    {payload : EventPayload δ} {events events' : List (EventRow δ)}
    (h : Logged D now workflowId key payload events events') {p : EventRow δ → Bool}
    {e : EventRow δ} (he : events.find? p = some e) : events'.find? p = some e := by
  cases h with
  | again => exact he
  | added =>
    rw [List.find?_append, he]
    rfl

theorem Logged.found {key : EventKey δ} {payload : EventPayload δ}
    {events events' : List (EventRow δ)} (h : Logged D now workflowId key payload events events') :
    ∃ e, (events'.find? fun e => decide (e.workflowId = workflowId ∧ e.eventKey = key)) = some e ∧
      e.payloadSha256 = D.ofPayload payload := by
  cases h with
  | again existing hfind hpayload => exact ⟨existing, hfind, hpayload⟩
  | added hfind =>
    refine ⟨⟨workflowId, payload.type, key, D.ofPayload payload, now⟩, ?_, rfl⟩
    rw [List.find?_append, hfind, Option.none_or, List.find?_cons_of_pos (by simp)]

theorem Change.logs (h : Change D now db db') :
    ∃ workflowId key payload, Logged D now workflowId key payload db.events db'.events ∧
      (∀ transactionId, key = .applied transactionId → payload.type = .candidateApplied ∧
        ∃ row, db'.workflow workflowId = some row ∧ row.status = .applied) ∧
      ∀ transactionId, key = .recovered transactionId →
        Table.lookup RecoveryRow.transactionId db'.recoveries transactionId ≠ none := by
  cases h with
  | applied row transactionId result events hrow _ _ _ hlog =>
    refine ⟨_, _, _, hlog, fun _ _ => ⟨rfl, row.appliedWith result now, ?_, rfl⟩, nofun⟩
    exact Database.workflow_setWorkflow_self hrow (·.appliedWith result now) fun _ => rfl
  | recovered row transactionId status events _ _ _ _ _ hnew hlog =>
    refine ⟨_, _, _, hlog, nofun, fun other hkey => ?_⟩
    cases hkey
    dsimp only
    rw [Table.lookup_append_single, hnew, if_pos rfl]
    exact nofun
  | refreshed row status key payload events _ _ _ _ hkey hlog =>
    refine ⟨_, _, _, hlog, ?_, ?_⟩
    · rintro transactionId rfl
      rcases hkey with hkey | ⟨_, hkey⟩ <;> cases hkey
    · rintro transactionId rfl
      rcases hkey with hkey | ⟨_, hkey⟩ <;> cases hkey
  | created _ _ _ _ _ _ hlog | conflicted _ _ _ _ _ _ hlog | superseded _ _ _ _ _ hlog
  | attested _ _ _ _ _ _ _ _ _ _ _ _ _ hlog | issued _ _ _ _ _ _ _ _ _ _ _ _ _ hlog
  | consumed _ _ _ _ _ _ _ _ _ _ _ _ hlog => exact ⟨_, _, _, hlog, nofun, nofun⟩

/-! ## Transactions -/

/-- A transaction is that of a consumed confirmation. -/
def Spent (D : Digests δ) (db : Database δ) (workflowId : String) (transactionId : δ) : Prop :=
  ∃ c ∈ db.confirmations, c.workflowId = workflowId ∧ c.consumedAt ≠ none ∧
    D.ofTransaction workflowId c.planId c.bindingSha256 = transactionId

theorem Spent.step (hs : SoundAt D now db) (h : Change D now db db') {transactionId : δ}
    (hspent : Spent D db workflowId transactionId) : Spent D db' workflowId transactionId := by
  obtain ⟨c, hc, hworkflow, hconsumed, htransaction⟩ := hspent
  exact ⟨c, h.closed_kept hs hc fun hopen => hconsumed hopen.1, hworkflow, hconsumed, htransaction⟩

/-- What holds of a confirmation that was issued. -/
structure Issued (D : Digests δ) (db : Database δ) (c : ConfirmationRow δ) : Prop where
  token : c.tokenSha256 = D.ofText (D.token c.workflowId c.planId c.idempotencySha256)
  plan : ∃ content, D.ofPlan content = c.planId ∧ content.idempotencySha256 = c.idempotencySha256
  binding : ∃ row, db.workflow c.workflowId = some row ∧ c.bindingSha256 = D.ofBinding row.binding
  consumed : ∀ t ∈ c.consumedAt, (c.issuedAt ≤ t ∧ t ≤ c.expiresAt) ∧ c.revokedAt = none

theorem Change.transaction_cases (h : Change D now db db') {transactionId : δ}
    (hrow' : db'.workflow workflowId = some row')
    (htransaction : row'.applyTransactionId = some transactionId) :
    (∃ row, db.workflow workflowId = some row ∧ row.applyTransactionId = some transactionId) ∨
    ∃ row confirmation, Authorizes D now db row confirmation ∧ row.workflowId = workflowId ∧
      transactionId = D.ofTransaction workflowId confirmation.planId confirmation.bindingSha256 ∧
      confirmation.consumed now ∈ db'.confirmations ∧ db'.recoveries = db.recoveries := by
  have hset {row : WorkflowRow δ} (hrow : db.workflow row.workflowId = some row)
      (f : WorkflowRow δ → WorkflowRow δ) (hf : ∀ r, (f r).workflowId = r.workflowId)
      (hkeeps : (f row).applyTransactionId = some transactionId →
        row.applyTransactionId = some transactionId)
      (hfound : (db.setWorkflow row.workflowId f).workflow workflowId = some row') :
      ∃ row, db.workflow workflowId = some row ∧ row.applyTransactionId = some transactionId := by
    rcases Database.setWorkflow_cases hrow hf hfound with ⟨rfl, rfl⟩ | ⟨_, hsame⟩
    · exact ⟨row, hrow, hkeeps htransaction⟩
    · exact ⟨row', hsame, htransaction⟩
  cases h with
  | created binding root key events hnew hstart =>
    rcases Database.append_cases hrow' with hold | rfl
    · exact .inl ⟨row', hold, htransaction⟩
    · cases htransaction
  | superseded => exact .inl ⟨row', hrow', htransaction⟩
  | refreshed row status _ _ _ hrow =>
    exact .inl (hset hrow (·.withStatus status now) (fun _ => rfl) id hrow')
  | conflicted row _ _ hrow =>
    exact .inl (hset hrow (fun r => r.released.withStatus .conflicted now) (fun _ => rfl) nofun
      hrow')
  | attested row _ status _ _ hrow =>
    exact .inl (hset hrow (·.withStatus status now) (fun _ => rfl) id hrow')
  | issued row _ _ _ _ hrow => exact .inl (hset hrow (·.touched now) (fun _ => rfl) id hrow')
  | applied row _ result _ hrow =>
    exact .inl (hset hrow (·.appliedWith result now) (fun _ => rfl) id hrow')
  | recovered row _ status _ hrow =>
    exact .inl (hset hrow (·.recoveredWith status now) (fun _ => rfl) nofun hrow')
  | consumed row confirmation events hrow hclock hready hexpires hquorum hconfirmation hfresh
      hbound htime =>
      rcases Database.setWorkflow_cases hrow (f := (·.applyingWith
        (D.ofTransaction row.workflowId confirmation.planId confirmation.bindingSha256) now))
        (fun _ => rfl) hrow' with ⟨rfl, rfl⟩ | ⟨_, hsame⟩
      · cases htransaction
        exact .inr ⟨row, confirmation, ⟨hrow, hclock, hready, hexpires, hquorum, hconfirmation,
          hfresh, hbound, htime⟩, rfl, rfl,
          List.mem_map.mpr ⟨confirmation, hconfirmation, if_pos rfl⟩, rfl⟩
      · exact .inl ⟨row', hsame, htransaction⟩

theorem Change.applied_cases (h : Change D now db db')
    (hrow' : db'.workflow workflowId = some row') (happlied : row'.status = .applied) :
    db.workflow workflowId = some row' ∨
      ∃ transactionId result, row'.applyTransactionId = some transactionId ∧
        row'.resultSha256 = some result ∧ Logged D now workflowId (.applied transactionId)
          (.candidateApplied transactionId result) db.events db'.events := by
  have hset {row : WorkflowRow δ} (hrow : db.workflow row.workflowId = some row)
      (f : WorkflowRow δ → WorkflowRow δ) (hf : ∀ r, (f r).workflowId = r.workflowId)
      (hne : (f row).status ≠ .applied)
      (hfound : (db.setWorkflow row.workflowId f).workflow workflowId = some row') :
      db.workflow workflowId = some row' := by
    rcases Database.setWorkflow_cases hrow hf hfound with ⟨_, rfl⟩ | ⟨_, hsame⟩
    · exact absurd happlied hne
    · exact hsame
  have hlive {status : Status} (h : status.Live ∨ status = .expired) : status ≠ .applied := by
    rintro rfl
    rcases h with h | h
    · exact h
    · cases h
  cases h with
  | applied row transactionId result events hrow _ _ htransaction hlog =>
    rcases Database.setWorkflow_cases hrow (f := (·.appliedWith result now)) (fun _ => rfl) hrow'
      with ⟨rfl, rfl⟩ | ⟨_, hsame⟩
    · exact .inr ⟨transactionId, result, htransaction, rfl, hlog⟩
    · exact .inl hsame
  | created =>
    rcases Database.append_cases hrow' with hold | rfl
    · exact .inl hold
    · cases happlied
  | superseded => exact .inl hrow'
  | refreshed _ status _ _ _ hrow _ _ hstatus =>
    exact .inl (hset hrow (·.withStatus status now) (fun _ => rfl) (hlive hstatus) hrow')
  | conflicted _ _ _ hrow =>
    exact .inl (hset hrow (fun r => r.released.withStatus .conflicted now) (fun _ => rfl) nofun
      hrow')
  | attested _ _ status _ _ hrow _ _ hstatus =>
    exact .inl (hset hrow (·.withStatus status now) (fun _ => rfl) (hlive (.inl hstatus)) hrow')
  | issued row _ _ _ _ hrow _ hready =>
    have hne : (row.touched now).status ≠ .applied := by
      rw [show (row.touched now).status = .ready from hready]
      exact nofun
    exact .inl (hset hrow (·.touched now) (fun _ => rfl) hne hrow')
  | consumed _ _ _ hrow =>
    exact .inl (hset hrow (·.applyingWith _ now) (fun _ => rfl) nofun hrow')
  | recovered _ _ status _ hrow _ _ _ hstatus =>
    exact .inl (hset hrow (·.recoveredWith status now) (fun _ => rfl) (hlive hstatus) hrow')

theorem Change.recoveries_cases (h : Change D now db db') :
    db'.recoveries = db.recoveries ∨ ∃ row transactionId,
      db.workflow row.workflowId = some row ∧ row.applyTransactionId = some transactionId ∧
      Table.lookup RecoveryRow.transactionId db.recoveries transactionId = none ∧
      db'.recoveries = db.recoveries ++ [⟨transactionId, row.workflowId, now⟩] ∧
      ∀ row', db'.workflow row.workflowId = some row' → row'.applyTransactionId = none := by
  cases h with
  | recovered row transactionId status events hrow _ _ htransaction _ hnew =>
    refine .inr ⟨row, transactionId, hrow, htransaction, hnew, rfl, fun row' hrow' => ?_⟩
    have hself := Database.workflow_setWorkflow_self hrow (·.recoveredWith status now) fun _ => rfl
    cases hself.symm.trans hrow'
    rfl
  | created | refreshed | conflicted | superseded | attested | issued | consumed
  | applied => exact .inl rfl

/-! ## Linked tables -/

/-- What ties the tables together: every row loads, and every transaction is that of one
consumed confirmation, with the events that it has logged. -/
structure Linked (D : Digests δ) (db : Database δ) : Prop where
  formed : ∀ workflowId row, db.workflow workflowId = some row → row.Formed
  valid : ∀ a ∈ db.attestations, ∃ row, db.workflow a.workflowId = some row ∧
    validateAttestation none row.binding a = .ok ()
  keys : Table.UniqueKeys ConfirmationRow.idempotencySha256 db.confirmations
  issued : ∀ c ∈ db.confirmations, Issued D db c
  recoveries : Table.UniqueKeys RecoveryRow.transactionId db.recoveries
  recovered : ∀ r ∈ db.recoveries, Spent D db r.workflowId r.transactionId
  inFlight : ∀ workflowId row transactionId, db.workflow workflowId = some row →
    row.applyTransactionId = some transactionId → Spent D db workflowId transactionId ∧
      Table.lookup RecoveryRow.transactionId db.recoveries transactionId = none
  appliedEvents : ∀ e ∈ db.events, ∀ transactionId, e.eventKey = .applied transactionId →
    e.eventType = .candidateApplied ∧
      ∃ row, db.workflow e.workflowId = some row ∧ row.status = .applied
  recoveredEvents : ∀ e ∈ db.events, ∀ transactionId, e.eventKey = .recovered transactionId →
    Table.lookup RecoveryRow.transactionId db.recoveries transactionId ≠ none
  results : ∀ workflowId row transactionId result, db.workflow workflowId = some row →
    row.status = .applied → row.applyTransactionId = some transactionId →
    row.resultSha256 = some result → ∃ e,
      (db.events.find? fun e => decide (e.workflowId = workflowId ∧
        e.eventKey = .applied transactionId)) = some e ∧
      e.payloadSha256 = D.ofPayload (.candidateApplied transactionId result)

theorem linked_empty (D : Digests δ) : Linked D (Database.empty δ) where
  formed _ _ h := (Option.some_ne_none _ h.symm).elim
  valid _ h := (List.not_mem_nil h).elim
  keys := List.nodup_nil
  issued _ h := (List.not_mem_nil h).elim
  recoveries := List.nodup_nil
  recovered _ h := (List.not_mem_nil h).elim
  inFlight _ _ _ h := (Option.some_ne_none _ h.symm).elim
  appliedEvents _ h := (List.not_mem_nil h).elim
  recoveredEvents _ h := (List.not_mem_nil h).elim
  results _ _ _ _ h := (Option.some_ne_none _ h.symm).elim

variable {c : ConfirmationRow δ}

theorem Linked.plan_unique (hD : D.Injective) (hl : Linked D db) {c' : ConfirmationRow δ}
    (hc : c ∈ db.confirmations) (hc' : c' ∈ db.confirmations) (h : c.planId = c'.planId) :
    c = c' := by
  obtain ⟨content, hplan, hkey⟩ := (hl.issued c hc).plan
  obtain ⟨content', hplan', hkey'⟩ := (hl.issued c' hc').plan
  cases hD.ofPlan (hplan.trans (h.trans hplan'.symm))
  have hfound := Table.lookup_eq_some_of_mem hl.keys hc
  rw [← hkey, hkey', Table.lookup_eq_some_of_mem hl.keys hc'] at hfound
  exact (Option.some.inj hfound).symm

theorem Linked.spent_unique (hD : D.Injective) (hl : Linked D db) {c' : ConfirmationRow δ}
    (hc : c ∈ db.confirmations) (hc' : c' ∈ db.confirmations) {workflowId' : String}
    (h : D.ofTransaction workflowId c.planId c.bindingSha256 =
      D.ofTransaction workflowId' c'.planId c'.bindingSha256) :
    c = c' ∧ workflowId = workflowId' := by
  obtain ⟨hworkflow, hplan, _⟩ := hD.ofTransaction _ _ _ _ _ _ h
  exact ⟨hl.plan_unique hD hc hc' hplan, hworkflow⟩

/-! ## A change keeps the tables linked -/

theorem Change.valid (h : Change D now db db')
    (hvalid : ∀ a ∈ db.attestations, ∃ row, db.workflow a.workflowId = some row ∧
      validateAttestation none row.binding a = .ok ()) :
    ∀ a ∈ db'.attestations, ∃ row, db'.workflow a.workflowId = some row ∧
      validateAttestation none row.binding a = .ok () := by
  have hkept : ∀ {a : AttestationRow δ}, (∃ row, db.workflow a.workflowId = some row ∧
      validateAttestation none row.binding a = .ok ()) →
      ∃ row, db'.workflow a.workflowId = some row ∧
        validateAttestation none row.binding a = .ok () := by
    rintro a ⟨row, hrow, hok⟩
    obtain ⟨row', hrow', hbinding, _⟩ := h.advances _ row hrow
    exact ⟨row', hrow', hbinding ▸ hok⟩
  intro a ha
  rcases h.attestations_cases with hsame | ⟨existing, _, _, hsame⟩ | ⟨b, _, hb, _, _, hsame⟩
  · exact hkept (hvalid a (hsame ▸ ha))
  · obtain ⟨a₀, hmem, rfl⟩ := List.mem_map.mp (hsame ▸ ha)
    have hok := hkept (hvalid a₀ hmem)
    unfold AttestationRow.superseded
    split
    · exact hok
    · exact hok
  · rcases List.mem_append.mp (hsame ▸ ha) with ha | ha
    · exact hkept (hvalid a ha)
    · cases List.mem_singleton.mp ha
      exact hkept hb

theorem Change.keys (h : Change D now db db')
    (hkeys : Table.UniqueKeys ConfirmationRow.idempotencySha256 db.confirmations) :
    Table.UniqueKeys ConfirmationRow.idempotencySha256 db'.confirmations := by
  rcases h.confirmations_cases with hsame | ⟨_, content, hissues, hsame⟩ | ⟨_, k, _, hsame⟩
  · rw [hsame]
    exact hkeys
  · have hkey : ∀ c : ConfirmationRow δ,
        (c.revoked content.workflowId now).idempotencySha256 = c.idempotencySha256 := by
      intro c
      unfold ConfirmationRow.revoked
      split <;> rfl
    rw [hsame]
    refine (uniqueKeys_map hkeys hkey).append_single ?_
    rw [Table.lookup_map hkey]
    exact congrArg (Option.map _) hissues.key
  · rw [hsame]
    refine uniqueKeys_map hkeys fun c => ?_
    split <;> rfl

theorem Issued.frame (h : Change D now db db') (hc : Issued D db c) : Issued D db' c := by
  obtain ⟨row, hrow, hbinding⟩ := hc.binding
  obtain ⟨row', hrow', hsame, _⟩ := h.advances _ row hrow
  exact { hc with binding := ⟨row', hrow', hsame ▸ hbinding⟩ }

omit [DecidableEq δ] in
theorem Issued.revoked {db : Database δ} {c : ConfirmationRow δ} (hc : Issued D db c)
    (workflowId : String) (now : Time) : Issued D db (c.revoked workflowId now) := by
  unfold ConfirmationRow.revoked
  split
  · next hopen =>
    refine ⟨hc.token, hc.plan, hc.binding, fun t ht => ?_⟩
    cases hopen.2.1.symm.trans ht
  · exact hc

omit [DecidableEq δ] in
theorem Issued.consumed_now {row : WorkflowRow δ} (hc : Issued D db c)
    (h : Authorizes D now db row c) : Issued D db (c.consumed now) := by
  refine ⟨hc.token, hc.plan, hc.binding, fun t ht => ?_⟩
  cases ht
  exact ⟨h.time, h.fresh.2⟩

theorem Change.issued_kept (hs : SoundAt D now db) (h : Change D now db db')
    (hissued : ∀ c ∈ db.confirmations, Issued D db c) :
    ∀ c ∈ db'.confirmations, Issued D db' c := by
  intro c hc
  rcases h.confirmations_cases with hsame | ⟨row, content, hissues, hsame⟩ | ⟨row, k, hk, hsame⟩
  · exact (hissued c (hsame ▸ hc)).frame h
  · rcases List.mem_append.mp (hsame ▸ hc) with hc | hc
    · obtain ⟨c₀, hmem, rfl⟩ := List.mem_map.mp hc
      exact ((hissued c₀ hmem).revoked _ _).frame h
    · cases List.mem_singleton.mp hc
      have hnew : Issued D db (confirmationOf D content) :=
        ⟨rfl, ⟨content, rfl, rfl⟩, ⟨row, hissues.found, hissues.binding⟩, nofun⟩
      exact hnew.frame h
  · obtain ⟨c₀, hmem, ⟨htoken, rfl⟩ | ⟨_, rfl⟩⟩ := ConfirmationRow.mem_update (hsame ▸ hc)
    · have hfound := Table.lookup_eq_some_of_mem hs.tokens hmem
      rw [htoken, Table.lookup_eq_some_of_mem hs.tokens hk.recorded] at hfound
      cases hfound
      exact ((hissued k hmem).consumed_now hk).frame h
    · exact (hissued _ hmem).frame h

theorem Change.recovered_kept (hs : SoundAt D now db) (hl : Linked D db) (h : Change D now db db') :
    ∀ r ∈ db'.recoveries, Spent D db' r.workflowId r.transactionId := by
  intro r hr
  rcases h.recoveries_cases with hsame | ⟨row, transactionId, hrow, htransaction, _, hsame, _⟩
  · exact (hl.recovered r (hsame ▸ hr)).step hs h
  · rcases List.mem_append.mp (hsame ▸ hr) with hr | hr
    · exact (hl.recovered r hr).step hs h
    · cases List.mem_singleton.mp hr
      exact (hl.inFlight _ row transactionId hrow htransaction).1.step hs h

theorem Change.inFlight_kept (hD : D.Injective) (hs : SoundAt D now db) (hl : Linked D db)
    (h : Change D now db db') : ∀ workflowId row transactionId, db'.workflow workflowId = some row →
      row.applyTransactionId = some transactionId → Spent D db' workflowId transactionId ∧
        Table.lookup RecoveryRow.transactionId db'.recoveries transactionId = none := by
  intro workflowId row' transactionId hrow' htransaction
  rcases h.transaction_cases hrow' htransaction with
    ⟨row, hrow, hbefore⟩ | ⟨row, c, hauthorizes, rfl, rfl, hconsumed, hsame⟩
  · obtain ⟨hspent, hnew⟩ := hl.inFlight workflowId row transactionId hrow hbefore
    refine ⟨hspent.step hs h, ?_⟩
    rcases h.recoveries_cases with hsame | ⟨other, tx, hother, htx, _, hsame, hnone⟩
    · rw [hsame]
      exact hnew
    · have hne : tx ≠ transactionId := by
        rintro rfl
        obtain ⟨c, hc, _, _, hof⟩ := hspent
        obtain ⟨c', hc', _, _, hof'⟩ := (hl.inFlight _ other tx hother htx).1
        obtain ⟨_, rfl⟩ := hl.spent_unique hD hc hc' (hof.trans hof'.symm)
        cases (hnone row' hrow').symm.trans htransaction
      rw [hsame, Table.lookup_append_single, hnew, if_neg hne]
      rfl
  · refine ⟨⟨c.consumed now, hconsumed, hauthorizes.bound.1, nofun, rfl⟩, ?_⟩
    rw [hsame]
    cases hfound : Table.lookup RecoveryRow.transactionId db.recoveries
        (D.ofTransaction row.workflowId c.planId c.bindingSha256) with
    | none => rfl
    | some r =>
      obtain ⟨hr, hof⟩ := Table.mem_of_lookup hfound
      obtain ⟨c', hc', _, hspent, hof'⟩ := hl.recovered r hr
      obtain ⟨rfl, _⟩ := hl.spent_unique hD hc' hauthorizes.recorded (hof'.trans hof)
      exact absurd hauthorizes.fresh.1 hspent

theorem Change.recoveries_found (h : Change D now db db') {transactionId : δ}
    (hfound : Table.lookup RecoveryRow.transactionId db.recoveries transactionId ≠ none) :
    Table.lookup RecoveryRow.transactionId db'.recoveries transactionId ≠ none := by
  rcases h.recoveries_cases with hsame | ⟨_, _, _, _, _, hsame, _⟩
  · rw [hsame]
    exact hfound
  · obtain ⟨r, hr⟩ := Option.ne_none_iff_exists'.mp hfound
    rw [hsame, Table.lookup_append_single, hr]
    exact nofun

theorem Change.linked (hD : D.Injective) (hs : SoundAt D now db) (hl : Linked D db)
    (h : Change D now db db') : Linked D db' where
  formed := h.formed hl.formed
  valid := h.valid hl.valid
  keys := h.keys hl.keys
  issued := h.issued_kept hs hl.issued
  recoveries := by
    rcases h.recoveries_cases with hsame | ⟨_, _, _, _, hnew, hsame, _⟩
    · rw [hsame]
      exact hl.recoveries
    · rw [hsame]
      exact hl.recoveries.append_single hnew
  recovered := h.recovered_kept hs hl
  inFlight := h.inFlight_kept hD hs hl
  appliedEvents := by
    intro e he transactionId hkey
    obtain ⟨workflowId, key, payload, hlog, happlied, _⟩ := h.logs
    rcases hlog.mem he with he | ⟨rfl, rfl, htype⟩
    · obtain ⟨htype, row, hrow, hstatus⟩ := hl.appliedEvents e he transactionId hkey
      exact ⟨htype, row, h.applied_kept hrow hstatus, hstatus⟩
    · obtain ⟨hpayload, hrow⟩ := happlied transactionId hkey
      exact ⟨htype.trans hpayload, hrow⟩
  recoveredEvents := by
    intro e he transactionId hkey
    obtain ⟨workflowId, key, payload, hlog, _, hrecovered⟩ := h.logs
    rcases hlog.mem he with he | ⟨_, rfl, _⟩
    · exact h.recoveries_found (hl.recoveredEvents e he transactionId hkey)
    · exact hrecovered transactionId hkey
  results := by
    intro workflowId row transactionId result hrow happlied htransaction hresult
    rcases h.applied_cases hrow happlied with hsame | ⟨tx, found, htx, hfound, hlog⟩
    · obtain ⟨e, he, hpayload⟩ :=
        hl.results workflowId row transactionId result hsame happlied htransaction hresult
      obtain ⟨_, _, _, hlog, _, _⟩ := h.logs
      exact ⟨e, hlog.find he, hpayload⟩
    · cases htx.symm.trans htransaction
      cases hfound.symm.trans hresult
      exact hlog.found

theorem run_linked (hD : D.Injective) {calls : List (Call δ)} (h : Forward calls) :
    Linked D ((store D).exec (Database.empty δ) calls) := by
  have hempty : Linked D ((store D).exec (Database.empty δ) []) := linked_empty D
  have hcalls : Forward ([] ++ calls) := h
  exact run_keeps (P := Linked D) (fun _ _ _ hs hchange hl => hchange.linked hD hs hl) hcalls hempty

end LocalMoe.Workflow
