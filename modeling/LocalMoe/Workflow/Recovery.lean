/-
  The recovery accepts what the other operations leave.
-/
import LocalMoe.Workflow.Authority
import LocalMoe.Workflow.Linked

namespace LocalMoe.Workflow

open Foundation

variable {δ : Type} [DecidableEq δ] {D : Digests δ}

/-! ## Records load -/

variable {now : Time} {db : Database δ} {row : WorkflowRow δ}

theorem Linked.loads (hs : SoundAt D now db) (hl : Linked D db)
    (hrow : db.workflow row.workflowId = some row) : Loads none db row := by
  obtain ⟨hcoherent, htimes⟩ := hl.formed _ row hrow
  refine ⟨fun a ha => ?_, hcoherent, ?_, htimes⟩
  · obtain ⟨hmem, hworkflow, _⟩ := Database.mem_attestationsOf.mp ha
    obtain ⟨found, hfound, hvalid⟩ := hl.valid a hmem
    rw [hworkflow] at hfound
    cases hrow.symm.trans hfound
    exact hvalid
  · have hnodup : (db.attestationsOf row.workflowId).Nodup := by
      refine (List.perm_insertionSort _ _).nodup_iff.mpr (List.Nodup.filter _ ?_)
      exact List.Nodup.of_map _ hs.evidence
    refine List.Nodup.map_on (fun a ha b hb hverifier => ?_) hnodup
    obtain ⟨ha, hworkflow, hlive⟩ := Database.mem_attestationsOf.mp ha
    obtain ⟨hb, hworkflow', hlive'⟩ := Database.mem_attestationsOf.mp hb
    exact hs.verifiers a ha b hb (hworkflow.trans hworkflow'.symm) hlive hlive' hverifier

theorem Linked.selected {time : Time} (hs : SoundAt D time db) (hl : Linked D db)
    (hrow : db.workflow row.workflowId = some row) (now : Time) :
    selectedRecord D none db row.workflowId now = .ok (recordOf D db row now) :=
  selectedRecord_eq_ok.mpr ⟨row, hrow, rfl, hl.loads hs hrow⟩

omit [DecidableEq δ] in
theorem SoundAt.clock (hs : SoundAt D now db) (hrow : db.workflow row.workflowId = some row) :
    checkClock (recordOf D db row now) now = .ok () := checkClock_eq_ok.mpr (hs.clocks _ row hrow)

/-! ## Transactions are bound -/

theorem Linked.recoveryMatch {db : Database δ} (hl : Linked D db) {row : WorkflowRow δ}
    (hrow : db.workflow row.workflowId = some row) (now : Time) (transactionId : δ)
    {c : ConfirmationRow δ} (hc : c ∈ db.confirmations) (hworkflow : c.workflowId = row.workflowId)
    (hconsumed : c.consumedAt ≠ none) :
    Workflow.recoveryMatch D (recordOf D db row now) transactionId c =
      .ok (decide (D.ofTransaction row.workflowId c.planId c.bindingSha256 = transactionId)) := by
  obtain ⟨htoken, _, ⟨found, hfound, hbinding⟩, htimes⟩ := hl.issued c hc
  rw [hworkflow] at hfound htoken
  cases hrow.symm.trans hfound
  obtain ⟨t, ht⟩ := Option.ne_none_iff_exists'.mp hconsumed
  unfold Workflow.recoveryMatch
  by_cases hof : D.ofTransaction row.workflowId c.planId c.bindingSha256 = transactionId
  · refine (if_neg (not_not.mpr hof)).trans ?_
    rw [decide_eq_true hof]
    refine check_bind_eq_ok.mpr ⟨⟨hbinding, htoken, fun s hs => (htimes s hs).1, ?_⟩, rfl⟩
    exact (htimes t ht).2
  · refine (if_pos hof).trans ?_
    rw [decide_eq_false hof]
    rfl

variable {transactionId : δ}

theorem Linked.transaction_bound (hD : D.Injective) {time : Time} (hs : SoundAt D time db)
    (hl : Linked D db) (hrow : db.workflow row.workflowId = some row) (now : Time)
    (hspent : Spent D db row.workflowId transactionId) :
    validateRecoveryTransactionBinding D db (recordOf D db row now) transactionId = .ok () := by
  let counts := fun c : ConfirmationRow δ =>
    decide (D.ofTransaction row.workflowId c.planId c.bindingSha256 = transactionId)
  let rows := db.confirmations.filter fun c =>
    decide (c.workflowId = row.workflowId ∧ c.consumedAt ≠ none)
  have hmem : ∀ c ∈ rows, c ∈ db.confirmations ∧ c.workflowId = row.workflowId ∧
      c.consumedAt ≠ none := by
    intro c hc
    obtain ⟨hc, hrow⟩ := List.mem_filter.mp hc
    exact ⟨hc, of_decide_eq_true hrow⟩
  have hcounted : rows.mapM (Workflow.recoveryMatch D (recordOf D db row now) transactionId) =
      .ok (rows.map counts) := by
    refine mapM_ok_iff.mpr (List.forall₂_map_right_iff.mpr (List.forall₂_same.mpr fun c hc => ?_))
    obtain ⟨hc, hworkflow, hconsumed⟩ := hmem c hc
    exact hl.recoveryMatch hrow now transactionId hc hworkflow hconsumed
  -- One consumed confirmation has the transaction: its plan is of no other one.
  have hone : (rows.map counts).count true = 1 := by
    obtain ⟨c, hc, hworkflow, hconsumed, hof⟩ := hspent
    have hrows : c ∈ rows := List.mem_filter.mpr ⟨hc, decide_eq_true ⟨hworkflow, hconsumed⟩⟩
    have hnodup : rows.Nodup := List.Nodup.filter _ (List.Nodup.of_map _ hs.tokens)
    have hiff : ∀ c' ∈ rows, (counts c' == true) = true ↔ (c' == c) = true := by
      intro c' hc'
      rw [beq_iff_eq, beq_iff_eq, decide_eq_true_eq]
      constructor
      · intro hof'
        exact (hl.spent_unique hD (hmem c' hc').1 hc (hof'.trans hof.symm)).1
      · rintro rfl
        exact hof
    calc (rows.map counts).count true
        = rows.countP fun c' => counts c' == true := List.countP_map
      _ = rows.count c := List.countP_congr hiff
      _ = 1 := List.count_eq_one_of_mem hnodup hrows
  exact bind_eq_ok.mpr ⟨rows.map counts, hcounted, check_of hone⟩

theorem Linked.applying_bound (hD : D.Injective) {time : Time} (hs : SoundAt D time db)
    (hl : Linked D db) (hrow : db.workflow row.workflowId = some row) (now : Time)
    (happlying : row.status = .applying)
    (htransaction : row.applyTransactionId = some transactionId) :
    validateApplyingRecoveryBinding D db (recordOf D db row now) = .ok () := by
  have hstatus : (recordOf D db row now).status = .applying := happlying
  have hid : (recordOf D db row now).applyTransactionId = some transactionId := htransaction
  unfold validateApplyingRecoveryBinding
  rw [hstatus, hid]
  exact hl.transaction_bound hD hs hrow now (hl.inFlight _ row _ hrow htransaction).1

theorem Linked.event_bound (hl : Linked D db) (hrow : db.workflow row.workflowId = some row)
    (now : Time) {result : δ} (happlied : row.status = .applied)
    (htransaction : row.applyTransactionId = some transactionId)
    (hresult : row.resultSha256 = some result) :
    validateAppliedEventBinding D db (recordOf D db row now) transactionId result = .ok () := by
  obtain ⟨e, hfind, hpayload⟩ :=
    hl.results _ row transactionId result hrow happlied htransaction hresult
  have hsome := List.find?_some hfind
  have hkey := (of_decide_eq_true hsome).2
  obtain ⟨htype, _⟩ := hl.appliedEvents e (List.mem_of_find?_eq_some hfind) transactionId hkey
  unfold validateAppliedEventBinding
  rw [show (recordOf D db row now).workflowId = row.workflowId from rfl, hfind]
  exact check_of ⟨htype, hpayload, hresult⟩

/-! ## The operations of the recovery -/

theorem appendEvent_new (D : Digests δ) (db : Database δ) {workflowId : String} {key : EventKey δ}
    (h : ∀ e ∈ db.events, e.workflowId = workflowId → e.eventKey ≠ key)
    (payload : EventPayload δ) (now : Time) :
    ∃ events, appendEvent D db workflowId key payload now = .ok { db with events } ∧
      Logged D now workflowId key payload db.events events := by
  have hfind : (db.events.find? fun e => decide (e.workflowId = workflowId ∧ e.eventKey = key)) =
      none := by
    refine List.find?_eq_none.mpr fun e he hboth => ?_
    obtain ⟨hworkflow, hkey⟩ := of_decide_eq_true hboth
    exact h e he hworkflow hkey
  refine ⟨db.events ++ [⟨workflowId, payload.type, key, D.ofPayload payload, now⟩], ?_,
    .added hfind⟩
  unfold appendEvent
  rw [hfind]
  rfl

theorem Linked.marks (hD : D.Injective) (hs : SoundAt D now db) (hl : Linked D db)
    (hrow : db.workflow row.workflowId = some row) (happlying : row.status = .applying)
    (htransaction : row.applyTransactionId = some transactionId) (result : δ) :
    ∃ out, markApplied D none db row.workflowId transactionId result now = .ok out := by
  have hnew : ∀ e ∈ db.events, e.workflowId = row.workflowId →
      e.eventKey ≠ .applied transactionId := by
    intro e he hworkflow hkey
    obtain ⟨_, found, hfound, happlied⟩ := hl.appliedEvents e he transactionId hkey
    rw [hworkflow] at hfound
    cases hrow.symm.trans hfound
    cases happlying.symm.trans happlied
  let set := db.setWorkflow row.workflowId (·.appliedWith result now)
  obtain ⟨events, happend, hlog⟩ := appendEvent_new D set hnew
    (.candidateApplied transactionId result) now
  have hclock := hs.clocks _ row hrow
  have hchange : Change D now db { set with events } :=
    .applied row transactionId result events hrow hclock happlying htransaction hlog
  let marked := row.appliedWith result now
  have hmarked : ({ set with events } : Database δ).workflow marked.workflowId = some marked :=
    Database.workflow_setWorkflow_self hrow (·.appliedWith result now) fun _ => rfl
  have hselected := (hchange.linked hD hs hl).selected (hchange.sound hs) hmarked now
  have hstatus : (recordOf D db row now).status = .applying := happlying
  refine ⟨({ set with events }, .record (recordOf D { set with events } marked now) false),
    bind_eq_ok.mpr ⟨_, hl.selected hs hrow now, ?_⟩⟩
  refine bind_eq_ok.mpr ⟨_, hs.clock hrow, bind_eq_ok.mpr ⟨(), ?_, ?_⟩⟩
  · unfold validateMarkBinding
    rw [hstatus]
    exact hl.applying_bound hD hs hrow now happlying htransaction
  · rw [if_neg (by rw [hstatus]; exact nofun)]
    refine check_bind_eq_ok.mpr ⟨⟨happlying, htransaction⟩, ?_⟩
    exact bind_eq_ok.mpr ⟨_, happend, bind_eq_ok.mpr ⟨_, hselected, rfl⟩⟩

theorem Linked.marks_again (hD : D.Injective) (hs : SoundAt D now db) (hl : Linked D db)
    (hrow : db.workflow row.workflowId = some row) {result : δ} (happlied : row.status = .applied)
    (htransaction : row.applyTransactionId = some transactionId)
    (hresult : row.resultSha256 = some result) :
    markApplied D none db row.workflowId transactionId result now =
      .ok (db, .record (recordOf D db row now) true) := by
  have hstatus : (recordOf D db row now).status = .applied := happlied
  refine bind_eq_ok.mpr ⟨_, hl.selected hs hrow now, bind_eq_ok.mpr ⟨_, hs.clock hrow, ?_⟩⟩
  refine bind_eq_ok.mpr ⟨(), ?_, ?_⟩
  · unfold validateMarkBinding
    rw [hstatus]
    refine bind_eq_ok.mpr ⟨(), ?_, hl.event_bound hrow now happlied htransaction hresult⟩
    exact hl.transaction_bound hD hs hrow now (hl.inFlight _ row _ hrow htransaction).1
  · rw [if_pos hstatus]
    exact check_bind_eq_ok.mpr ⟨⟨htransaction, hresult⟩, rfl⟩

theorem Linked.resets (hD : D.Injective) (hs : SoundAt D now db) (hl : Linked D db)
    (hrow : db.workflow row.workflowId = some row) (happlying : row.status = .applying)
    (htransaction : row.applyTransactionId = some transactionId) :
    ∃ out, resetAfterRecovery D none db row.workflowId transactionId now = .ok out := by
  have hnone := (hl.inFlight _ row transactionId hrow htransaction).2
  have hnew : ∀ e ∈ db.events, e.workflowId = row.workflowId →
      e.eventKey ≠ .recovered transactionId := by
    intro e he _ hkey
    exact hl.recoveredEvents e he transactionId hkey hnone
  let status := recoveredStatus (recordOf D db row now) now
  let set := ({ db with
    recoveries := db.recoveries ++ [⟨transactionId, row.workflowId, now⟩] } : Database δ).setWorkflow
      row.workflowId (·.recoveredWith status now)
  obtain ⟨events, happend, hlog⟩ := appendEvent_new D set hnew
    (.applyRecovered transactionId status) now
  have hchange : Change D now db { set with events } :=
    .recovered row transactionId status events hrow (hs.clocks _ row hrow) happlying htransaction
      (recoveredStatus_cases _ _) hnone hlog
  let reset := row.recoveredWith status now
  have hreset : ({ set with events } : Database δ).workflow reset.workflowId = some reset :=
    Database.workflow_setWorkflow_self hrow (·.recoveredWith status now) fun _ => rfl
  have hselected := (hchange.linked hD hs hl).selected (hchange.sound hs) hreset now
  refine ⟨({ set with events }, .record (recordOf D { set with events } reset now) false),
    bind_eq_ok.mpr ⟨_, hl.selected hs hrow now, ?_⟩⟩
  refine bind_eq_ok.mpr ⟨_, hs.clock hrow, bind_eq_ok.mpr ⟨(), ?_, ?_⟩⟩
  · exact hl.applying_bound hD hs hrow now happlying htransaction
  · rw [hnone]
    refine check_bind_eq_ok.mpr ⟨⟨happlying, htransaction⟩, ?_⟩
    exact bind_eq_ok.mpr ⟨_, happend, bind_eq_ok.mpr ⟨_, hselected, rfl⟩⟩

/-! ## The cleanups -/

omit [DecidableEq δ] in
theorem mem_of_lastRecovery {rows : List (RecoveryRow δ)} {r : RecoveryRow δ}
    (h : lastRecovery D rows = some r) : r ∈ rows := by
  induction rows generalizing r with
  | nil => cases h
  | cons first rest ih =>
    unfold lastRecovery at h
    cases hrest : lastRecovery D rest with
    | none =>
      rw [hrest] at h
      cases h
      exact List.mem_cons_self
    | some s =>
      rw [hrest] at h
      cases h
      unfold laterRecovery
      split
      · exact List.mem_cons_of_mem _ (ih hrest)
      · exact List.mem_cons_self

omit [DecidableEq δ] in
theorem Database.mem_of_recoveryOf {workflowId : String} {r : RecoveryRow δ}
    (h : db.recoveryOf D workflowId = some r) : r ∈ db.recoveries ∧ r.workflowId = workflowId := by
  obtain ⟨hmem, hworkflow⟩ := List.mem_filter.mp (mem_of_lastRecovery h)
  exact ⟨hmem, of_decide_eq_true hworkflow⟩

theorem Linked.reads_applying (hD : D.Injective) (hs : SoundAt D now db) (hl : Linked D db)
    (hrow : db.workflow row.workflowId = some row) :
    ∃ answer, readApplyingRecovery D db row.workflowId now = .ok answer := by
  unfold readApplyingRecovery
  rw [hl.selected hs hrow, ok_bind, hs.clock hrow, ok_bind]
  split
  · exact ⟨_, rfl⟩
  · next hstatus =>
    have happlying : row.status = .applying := not_not.mp hstatus
    have hcoherent := (hl.formed _ row hrow).coherent
    rw [happlying] at hcoherent
    obtain ⟨transactionId, htransaction⟩ := Option.isSome_iff_exists.mp hcoherent.1
    rw [hl.applying_bound hD hs hrow now happlying htransaction]
    exact ⟨_, rfl⟩

theorem Linked.cleans_applied (hD : D.Injective) (hs : SoundAt D now db) (hl : Linked D db)
    (hrow : db.workflow row.workflowId = some row) :
    ∃ answer, readAppliedCleanup D db row.workflowId now = .ok answer := by
  unfold readAppliedCleanup
  rw [hl.selected hs hrow, ok_bind, hs.clock hrow, ok_bind]
  split
  · next transactionId result happlied htransaction hresult =>
    rw [hl.transaction_bound hD hs hrow now (hl.inFlight _ row _ hrow htransaction).1, ok_bind,
      hl.event_bound hrow now happlied htransaction hresult]
    exact ⟨_, rfl⟩
  · exact ⟨_, rfl⟩

omit [DecidableEq δ] in
theorem WorkflowRecord.Coherent.none_of {status : Status} {transaction result : Option δ}
    (h : WorkflowRecord.Coherent status transaction result) (happlying : status ≠ .applying)
    (happlied : status ≠ .applied) : transaction = none ∧ result = none := by
  cases status <;> first | exact h | exact absurd rfl happlying | exact absurd rfl happlied

theorem Linked.expires (hs : SoundAt D now db) (hl : Linked D db)
    (hrow : db.workflow row.workflowId = some row) (happlying : row.status ≠ .applying) :
    (∃ record, WorkflowRecord.construct { recordOf D db row now with status := .expired } =
      .ok record) ↔ row.status ≠ .applied := by
  obtain ⟨_, hcoherent, hverifiers, htimes⟩ := hl.loads hs hrow
  constructor
  · rintro ⟨record, h⟩ happlied
    obtain ⟨hexpired, _⟩ := check_bind_eq_ok.mp h
    have hnone : row.applyTransactionId = none := hexpired.1
    rw [happlied, hnone] at hcoherent
    exact Bool.false_ne_true hcoherent.1
  · intro happlied
    have hexpired : WorkflowRecord.Coherent .expired row.applyTransactionId row.resultSha256 :=
      hcoherent.none_of happlying happlied
    exact ⟨_, check_bind_eq_ok.mpr ⟨hexpired, check_bind_eq_ok.mpr ⟨hverifiers,
      check_bind_eq_ok.mpr ⟨List.countP_le_length, check_bind_eq_ok.mpr ⟨htimes, rfl⟩⟩⟩⟩⟩

theorem Linked.cleans_recovered_iff (hD : D.Injective) (hs : SoundAt D now db) (hl : Linked D db)
    (hrow : db.workflow row.workflowId = some row) :
    (∃ answer, readRecoveredCleanup D db row.workflowId now = .ok answer) ↔
      ¬ (row.status = .applied ∧ db.recoveryOf D row.workflowId ≠ none ∧
        row.binding.expiresAt < now) := by
  unfold readRecoveredCleanup
  rw [hl.selected hs hrow, ok_bind, hs.clock hrow, ok_bind]
  have hrecord : (recordOf D db row now).recoveredTransactionId =
      (db.recoveryOf D row.workflowId).map RecoveryRow.transactionId := rfl
  have hstatus : (recordOf D db row now).status = row.status := rfl
  have hbinding : (recordOf D db row now).binding = row.binding := rfl
  rw [hrecord, hstatus, hbinding]
  cases hrecovery : db.recoveryOf D row.workflowId with
  | none => exact ⟨fun _ h => h.2.1 rfl, fun _ => ⟨_, rfl⟩⟩
  | some r =>
    dsimp only [Option.map_some]
    by_cases happlying : row.status = .applying
    · rw [if_pos happlying]
      refine ⟨fun _ h => ?_, fun _ => ⟨_, rfl⟩⟩
      cases happlying.symm.trans h.1
    · obtain ⟨hr, hworkflow⟩ := Database.mem_of_recoveryOf hrecovery
      have hfound := Table.lookup_eq_some_of_mem hl.recoveries hr
      have hrowOk : validateRecoveryRow db row.workflowId r.transactionId = .ok () := by
        refine check_of ?_
        rw [hfound]
        exact ⟨r, rfl, hworkflow⟩
      have hspent := hl.recovered r hr
      rw [hworkflow] at hspent
      rw [if_neg happlying, hrowOk, ok_bind, hl.transaction_bound hD hs hrow now hspent, ok_bind]
      by_cases hlate : row.binding.expiresAt < now ∧ row.status ≠ .expired
      · rw [if_pos hlate]
        have hexpires := hl.expires hs hrow happlying
        dsimp only at hexpires
        rw [hrecord, hbinding, hrecovery] at hexpires
        constructor
        · rintro ⟨answer, h⟩ ⟨happlied, _, _⟩
          obtain ⟨record, hrecord, _⟩ := bind_eq_ok.mp h
          exact hexpires.mp ⟨record, hrecord⟩ happlied
        · intro h
          have happlied : row.status ≠ .applied := fun happlied => h ⟨happlied, nofun, hlate.1⟩
          obtain ⟨record, hrecord⟩ := hexpires.mpr happlied
          exact ⟨_, bind_eq_ok.mpr ⟨record, hrecord, rfl⟩⟩
      · rw [if_neg hlate]
        refine ⟨fun _ h => ?_, fun _ => ⟨_, rfl⟩⟩
        refine hlate ⟨h.2.2, ?_⟩
        rw [h.1]
        exact nofun

/-! ## Runs -/

structure RecoveryAccepts (D : Digests δ) (db : Database δ) (row : WorkflowRow δ) (now : Time) :
    Prop where
  /-- The transaction in flight is bound, and it can be marked applied or reset. -/
  applying : row.status = .applying → ∃ transactionId,
    row.applyTransactionId = some transactionId ∧
    validateApplyingRecoveryBinding D db (recordOf D db row now) = .ok () ∧
    (∀ result, ∃ out, markApplied D none db row.workflowId transactionId result now = .ok out) ∧
    ∃ out, resetAfterRecovery D none db row.workflowId transactionId now = .ok out
  /-- The applied transaction and its event are bound, and it can be marked again. -/
  applied : row.status = .applied → ∃ transactionId result,
    row.applyTransactionId = some transactionId ∧ row.resultSha256 = some result ∧
    validateRecoveryTransactionBinding D db (recordOf D db row now) transactionId = .ok () ∧
    validateAppliedEventBinding D db (recordOf D db row now) transactionId result = .ok () ∧
    ∃ out, markApplied D none db row.workflowId transactionId result now = .ok out
  reads : ∃ answer, readApplyingRecovery D db row.workflowId now = .ok answer
  cleansApplied : ∃ answer, readAppliedCleanup D db row.workflowId now = .ok answer
  cleansRecovered : ∃ answer, readRecoveredCleanup D db row.workflowId now = .ok answer

/-- After a run, the recovery accepts a workflow at a later time unless it is applied, was
recovered before and has expired. -/
theorem recovery_accepts_iff (D : Digests δ) (hD : D.Injective) (calls : List (Call δ))
    (h : Forward calls) (now : Time) (hnow : ∀ c ∈ calls, c.now ≤ now) (row : WorkflowRow δ)
    (hrow : (after D calls).workflow row.workflowId = some row) :
    RecoveryAccepts D (after D calls) row now ↔
      ¬ (row.status = .applied ∧ (after D calls).recoveryOf D row.workflowId ≠ none ∧
        row.binding.expiresAt < now) := by
  have hs : SoundAt D now (after D calls) := run_sound D h hnow
  have hl : Linked D (after D calls) := run_linked hD h
  have hiff := hl.cleans_recovered_iff hD hs hrow
  refine ⟨fun haccepts => hiff.mp haccepts.cleansRecovered, fun hcondition => ?_⟩
  have hcoherent := (hl.formed _ row hrow).coherent
  refine ⟨fun happlying => ?_, fun happlied => ?_, hl.reads_applying hD hs hrow,
    hl.cleans_applied hD hs hrow, hiff.mpr hcondition⟩
  · rw [happlying] at hcoherent
    obtain ⟨transactionId, htransaction⟩ := Option.isSome_iff_exists.mp hcoherent.1
    exact ⟨transactionId, htransaction, hl.applying_bound hD hs hrow now happlying htransaction,
      hl.marks hD hs hrow happlying htransaction, hl.resets hD hs hrow happlying htransaction⟩
  · rw [happlied] at hcoherent
    obtain ⟨transactionId, htransaction⟩ := Option.isSome_iff_exists.mp hcoherent.1
    obtain ⟨result, hresult⟩ := Option.isSome_iff_exists.mp hcoherent.2
    exact ⟨transactionId, result, htransaction, hresult,
      hl.transaction_bound hD hs hrow now (hl.inFlight _ row _ hrow htransaction).1,
      hl.event_bound hrow now happlied htransaction hresult,
      _, hl.marks_again hD hs hrow happlied htransaction hresult⟩

/-! ## An applied workflow that was recovered before -/

theorem SampleDigest.ofList_injective : Function.Injective SampleDigest.ofList := by
  intro l
  induction l with
  | nil =>
    rintro (_ | _) h
    · rfl
    · cases h
  | cons d rest ih =>
    rintro (_ | ⟨d', rest'⟩) h
    · cases h
    · injection h with hhead htail
      rw [hhead, ih htail]

theorem sampleDigests_injective : sampleDigests.Injective := by
  constructor
  · rintro ⟨w, b, e, i, t, x⟩ ⟨w', b', e', i', t', x'⟩ h
    injection h with hw hb he hi ht hx
    obtain rfl : w = w' := hw
    obtain rfl : b = b' := hb
    obtain rfl : e = e' := SampleDigest.ofList_injective he
    obtain rfl : i = i' := hi
    obtain rfl : t = t' := ht
    obtain rfl : x = x' := hx
    rfl
  · intro w p b w' p' b' h
    injection h with hw hp hb
    exact ⟨hw, hp, hb⟩

def samplePlan (key : String) (issuedAt : Time) : SampleDigest :=
  .plan "workflow" (.text "workflow") (.more (.text "evidence") .empty) (.text key) issuedAt
    (issuedAt + 10)

def sampleAppliedAgain : List (Call SampleDigest) :=
  [sampleStage, sampleVerified, sampleIssued, sampleConsumed,
    sampleCall (.resetAfterRecovery "workflow"
      (.transaction "workflow" (samplePlan "resume-idempotency-key" 40) (.text "workflow"))) 46,
    sampleCall (.issueResumePlan "workflow" "second-idempotency-key" 10) 47,
    sampleCall (.consumeResumeConfirmation "workflow" (samplePlan "second-idempotency-key" 47)
      "second-idempotency-key-token" (.text "workflow")) 48,
    sampleCall (.markApplied "workflow"
      (.transaction "workflow" (samplePlan "second-idempotency-key" 47) (.text "workflow"))
      (.text "result")) 49]

def sampleAppliedRow : WorkflowRow SampleDigest :=
  ⟨sampleBinding, .applied, .text "root", some (.transaction "workflow"
    (samplePlan "second-idempotency-key" 47) (.text "workflow")), some (.text "result"), 49, 49⟩

theorem recovery_accepts_sample :
    RecoveryAccepts sampleDigests (after sampleDigests sampleAppliedAgain) sampleAppliedRow 50 :=
  (recovery_accepts_iff sampleDigests sampleDigests_injective sampleAppliedAgain
    (by unfold Forward; decide +kernel) 50 (by decide +kernel) sampleAppliedRow
    (by decide +kernel)).mpr fun h => absurd h.2.2 (by decide +kernel)

/-- Once the binding has expired, the cleanup of its first recovery fails. -/
theorem recovered_cleanup_refused : sampleDigests.Injective ∧ Forward sampleAppliedAgain ∧
      (∀ c ∈ sampleAppliedAgain, c.now ≤ 1001) ∧
      (after sampleDigests sampleAppliedAgain).workflow sampleAppliedRow.workflowId =
        some sampleAppliedRow ∧
      ¬ RecoveryAccepts sampleDigests (after sampleDigests sampleAppliedAgain) sampleAppliedRow
        1001 := by
  refine ⟨sampleDigests_injective, by unfold Forward; decide +kernel, by decide +kernel,
    by decide +kernel, fun h => ?_⟩
  obtain ⟨answer, hanswer⟩ := h.cleansRecovered
  have hrefused : (readRecoveredCleanup sampleDigests (after sampleDigests sampleAppliedAgain)
      sampleAppliedRow.workflowId 1001).isOk = false := by decide +kernel
  rw [hanswer] at hrefused
  cases hrefused

end LocalMoe.Workflow
