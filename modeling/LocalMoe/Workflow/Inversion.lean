/-
  Every call that returns makes changes.
-/
import LocalMoe.Workflow.Change

namespace LocalMoe.Workflow

open Foundation

variable {δ : Type} {D : Digests δ}

/-! ## The refresh -/

theorem live_desiredStatus (record : WorkflowRecord δ) (now : Time) :
    (desiredStatus record now).Live := by
  unfold desiredStatus
  split
  · trivial
  · split <;> trivial

variable {record : WorkflowRecord δ} {now : Time}

theorem checkClock_eq_ok {u : Unit} : checkClock record now = .ok u ↔ record.lastWallTime ≤ now :=
  check_eq_ok.trans not_lt

variable [DecidableEq δ]

/-- What a refresh of a record that loads has done. -/
structure Refreshed (D : Digests δ) (artifacts : Option (AttestationRow δ → Bool)) (now : Time)
    (db : Database δ) (row : WorkflowRow δ) (db' : Database δ) (row' : WorkflowRow δ) : Prop where
  found : db'.workflow row.workflowId = some row'
  binding : row'.binding = row.binding
  loads : Loads artifacts db' row'
  others : ∀ other, other ≠ row.workflowId → db'.workflow other = db.workflow other
  outcome : db' = db ∧ row' = row ∨
    row.status.Live ∧ desiredStatus (recordOf D db row now) now ≠ row.status ∧
      (row.lastWallTime ≤ now → Change D now db db')

variable {db db' : Database δ} {row : WorkflowRow δ}

theorem refresh_eq_ok {artifacts : Option (AttestationRow δ → Bool)}
    (hrow : db.workflow row.workflowId = some row) (hloads : Loads artifacts db row)
    (h : refreshAttestationStatus D artifacts db (recordOf D db row now) now = .ok (db', record)) :
    ∃ row', Refreshed D artifacts now db row db' row' ∧ record = recordOf D db' row' now := by
  unfold refreshAttestationStatus at h
  split at h
  · cases h
    exact ⟨row, ⟨hrow, rfl, hloads, fun _ _ => rfl, .inl ⟨rfl, rfl⟩⟩, rfl⟩
  · next hlive =>
    split at h
    · obtain ⟨selected, hselected, h⟩ := bind_eq_ok.mp h
      cases h
      obtain ⟨row', hrow', hrecord, hloads'⟩ := selectedRecord_eq_ok.mp hselected
      cases hrow.symm.trans hrow'
      exact ⟨row, ⟨hrow, rfl, hloads', fun _ _ => rfl, .inl ⟨rfl, rfl⟩⟩, hrecord⟩
    · next hdesired =>
      obtain ⟨changed, hchange, h⟩ := bind_eq_ok.mp h
      obtain ⟨selected, hselected, h⟩ := bind_eq_ok.mp h
      cases h
      obtain ⟨events, rfl, hlog⟩ := appendEvent_eq_ok hchange
      obtain ⟨row', hrow', hrecord, hloads'⟩ := selectedRecord_eq_ok.mp hselected
      have hfound := Database.workflow_setWorkflow_self hrow
        (·.withStatus (desiredStatus (recordOf D db row now) now) now) fun _ => rfl
      cases hfound.symm.trans hrow'
      refine ⟨_, ⟨hrow', rfl, hloads', fun other hother => ?_,
        .inr ⟨not_not.mp hlive, hdesired, fun hclock => ?_⟩⟩, hrecord⟩
      · exact db.workflow_setWorkflow_other hother _ fun _ => rfl
      · exact .refreshed row _ _ _ events hrow hclock (not_not.mp hlive)
          (.inl (live_desiredStatus _ _)) (.inr ⟨_, rfl⟩) hlog

theorem refresh_tables {artifacts : Option (AttestationRow δ → Bool)} {record' : WorkflowRecord δ}
    (h : refreshAttestationStatus D artifacts db record now = .ok (db', record')) :
    db'.attestations = db.attestations ∧ db'.confirmations = db.confirmations := by
  unfold refreshAttestationStatus at h
  split at h
  · cases h
    exact ⟨rfl, rfl⟩
  · split at h
    · obtain ⟨_, _, h⟩ := bind_eq_ok.mp h
      cases h
      exact ⟨rfl, rfl⟩
    · obtain ⟨_, hchange, h⟩ := bind_eq_ok.mp h
      obtain ⟨_, _, h⟩ := bind_eq_ok.mp h
      cases h
      obtain ⟨_, rfl, _⟩ := appendEvent_eq_ok hchange
      exact ⟨rfl, rfl⟩

variable {row' : WorkflowRow δ}

theorem Refreshed.changes {artifacts : Option (AttestationRow δ → Bool)}
    (h : Refreshed D artifacts now db row db' row')
    (htimely : now < row.lastWallTime → row.status.Live →
      desiredStatus (recordOf D db row now) now = row.status) :
    Changes D now db db' := by
  rcases h.outcome with ⟨rfl, _⟩ | ⟨hlive, hdesired, hchange⟩
  · exact .refl
  · have hclock : row.lastWallTime ≤ now :=
      not_lt.mp fun hlt => hdesired (htimely hlt hlive)
    exact .single (hchange hclock)

theorem Refreshed.clock {artifacts : Option (AttestationRow δ → Bool)}
    (h : Refreshed D artifacts now db row db' row')
    (htimely : now < row.lastWallTime → row.status.Live →
      desiredStatus (recordOf D db row now) now = row.status)
    (hclock : row'.lastWallTime ≤ now) : row.lastWallTime ≤ now := by
  rcases h.outcome with ⟨_, rfl⟩ | ⟨hlive, hdesired, _⟩
  · exact hclock
  · exact not_lt.mp fun hlt => hdesired (htimely hlt hlive)

/-! ## Operations

An operation on a workflow looks at its clock, and makes changes. -/

/-- The observation time is not behind the clock of a workflow. -/
def OnTime (db : Database δ) (workflowId : String) (now : Time) : Prop :=
  ∀ row, db.workflow workflowId = some row → row.lastWallTime ≤ now

/-- No status is refreshed at a time behind the clock of the workflow. -/
def TimelyFor (D : Digests δ) (db : Database δ) (workflowId : String) (now : Time) : Prop :=
  ∀ row, db.workflow workflowId = some row → now < row.lastWallTime → row.status.Live →
    desiredStatus (recordOf D db row now) now = row.status

instance (db : Database δ) (workflowId : String) (now : Time) :
    Decidable (TimelyFor D db workflowId now) :=
  inferInstanceAs (Decidable (∀ row ∈ db.workflow workflowId, _ → _ → _))

omit [DecidableEq δ] in
theorem onTime_of_row (hrow : db.workflow row.workflowId = some row)
    (hclock : row.lastWallTime ≤ now) :
    OnTime db row.workflowId now := by
  intro other hother
  cases hrow.symm.trans hother
  exact hclock

variable {artifacts : AttestationRow δ → Bool} {answer : Answer δ}

theorem createWorkflow_changes {binding : CandidateBinding δ} {challenge key : String} {root : δ}
    (h : createWorkflow D artifacts db binding challenge key root now = .ok (db', answer)) :
    Changes D now db db' := by
  obtain ⟨_, h⟩ := check_bind_eq_ok.mp h
  obtain ⟨_, h⟩ := check_bind_eq_ok.mp h
  obtain ⟨hvalid, h⟩ := check_bind_eq_ok.mp h
  split at h
  · obtain ⟨_, _, h⟩ := bind_eq_ok.mp h
    obtain ⟨_, h⟩ := check_bind_eq_ok.mp h
    cases h
    exact .refl
  · next hnone =>
    obtain ⟨_, hevent, h⟩ := bind_eq_ok.mp h
    obtain ⟨_, _, h⟩ := bind_eq_ok.mp h
    cases h
    obtain ⟨events, rfl, hlog⟩ := appendEvent_eq_ok hevent
    have hnew : db.workflow binding.workflowId = none := by
      refine List.find?_eq_none.mpr fun r hr hid => ?_
      have hnot := List.find?_eq_none.mp hnone r hr
      exact hnot (decide_eq_true (.inl (of_decide_eq_true hid)))
    exact .single (.created binding root key events hnew hvalid.1 hlog)

theorem upToDate_changes (hrow : db.workflow row.workflowId = some row)
    (h : upToDate D artifacts db row now = .ok (db', record)) :
    row.lastWallTime ≤ now ∧ Changes D now db db' ∧
      ∀ other, other ≠ row.workflowId → db'.workflow other = db.workflow other := by
  obtain ⟨_, hrecord, h⟩ := bind_eq_ok.mp h
  obtain ⟨rfl, hloads⟩ := readRecord_eq_ok.mp hrecord
  obtain ⟨_, hclock, h⟩ := bind_eq_ok.mp h
  have hclock := checkClock_eq_ok.mp hclock
  refine ⟨hclock, ?_⟩
  split at h
  · cases h
    exact ⟨.refl, fun _ _ => rfl⟩
  · next hlive =>
    split at h
    · obtain ⟨_, hchange, h⟩ := bind_eq_ok.mp h
      obtain ⟨_, _, h⟩ := bind_eq_ok.mp h
      cases h
      obtain ⟨events, rfl, hlog⟩ := appendEvent_eq_ok hchange
      refine ⟨.single (.refreshed row .expired _ _ events hrow hclock (not_not.mp hlive)
        (.inr rfl) (.inl rfl) hlog), fun other hother => ?_⟩
      exact db.workflow_setWorkflow_other hother _ fun _ => rfl
    · obtain ⟨row', hrefreshed, _⟩ := refresh_eq_ok hrow hloads h
      exact ⟨hrefreshed.changes fun hlt => absurd hlt (not_lt.mpr hclock), hrefreshed.others⟩

theorem findWorkflow_changes {workflowId : String}
    (h : findWorkflow D artifacts db workflowId now = .ok (db', answer)) :
    OnTime db workflowId now ∧ Changes D now db db' := by
  unfold findWorkflow at h
  split at h
  · next hnone =>
    cases h
    exact ⟨fun row hrow => (by cases hnone.symm.trans hrow), .refl⟩
  · next row hrow =>
    obtain ⟨⟨changed, record⟩, hupToDate, h⟩ := bind_eq_ok.mp h
    cases h
    cases workflowId_of_workflow hrow
    obtain ⟨hclock, hchanges, _⟩ := upToDate_changes hrow hupToDate
    exact ⟨onTime_of_row hrow hclock, hchanges⟩

theorem listRows_changes {rows : List (WorkflowRow δ)}
    (hdistinct : (rows.map WorkflowRow.workflowId).Nodup)
    (hrows : ∀ row ∈ rows, db.workflow row.workflowId = some row)
    {records : List (WorkflowRecord δ)}
    (h : listRows D artifacts now db rows = .ok (db', records)) :
    (∀ row ∈ rows, row.lastWallTime ≤ now) ∧ Changes D now db db' := by
  induction rows generalizing db records with
  | nil =>
    cases h
    exact ⟨fun _ hrow => (by cases hrow), .refl⟩
  | cons row rest ih =>
    obtain ⟨⟨changed, record⟩, hfirst, h⟩ := bind_eq_ok.mp h
    obtain ⟨⟨changed', records'⟩, hrest, h⟩ := bind_eq_ok.mp h
    cases h
    obtain ⟨hnew, hdistinct⟩ := List.nodup_cons.mp hdistinct
    obtain ⟨hclock, hchanges, hothers⟩ :=
      upToDate_changes (hrows row List.mem_cons_self) hfirst
    have hkept : ∀ r ∈ rest, changed.workflow r.workflowId = some r := by
      intro r hr
      have hne : r.workflowId ≠ row.workflowId := fun heq =>
        hnew (heq ▸ List.mem_map_of_mem hr)
      rw [hothers _ hne]
      exact hrows r (List.mem_cons_of_mem _ hr)
    obtain ⟨hclocks, hmore⟩ := ih hdistinct hkept hrest
    refine ⟨fun r hr => ?_, hchanges.trans hmore⟩
    rcases List.mem_cons.mp hr with rfl | hr
    · exact hclock
    · exact hclocks r hr

omit [DecidableEq δ] in
theorem Database.mem_listed {limit : Nat} (h : row ∈ db.listed limit) : row ∈ db.workflows :=
  (List.mem_insertionSort _).mp (List.mem_of_mem_take h)

theorem listWorkflows_changes (hunique : Table.UniqueKeys WorkflowRow.workflowId db.workflows)
    {limit : Nat} (h : listWorkflows D artifacts db limit now = .ok (db', answer)) :
    (∀ row ∈ db.listed limit, row.lastWallTime ≤ now) ∧ Changes D now db db' := by
  obtain ⟨_, h⟩ := check_bind_eq_ok.mp h
  obtain ⟨⟨changed, records⟩, hrows, h⟩ := bind_eq_ok.mp h
  cases h
  refine listRows_changes ?_ (fun row hrow => ?_) hrows
  · refine List.Nodup.sublist ((List.take_sublist _ _).map _) ?_
    exact ((List.perm_insertionSort _ _).map _).nodup_iff.mpr hunique
  · exact Table.lookup_eq_some_of_mem hunique (Database.mem_listed hrow)

theorem selected_refreshed {artifacts : Option (AttestationRow δ → Bool)} {workflowId : String}
    {record' : WorkflowRecord δ}
    (hselected : selectedRecord D artifacts db workflowId now = .ok record)
    (h : refreshAttestationStatus D artifacts db record now = .ok (db', record')) :
    ∃ row row', row.workflowId = workflowId ∧ db.workflow workflowId = some row ∧
      Refreshed D artifacts now db row db' row' ∧ record' = recordOf D db' row' now := by
  obtain ⟨row, hrow, rfl, hloads⟩ := selectedRecord_eq_ok.mp hselected
  cases workflowId_of_workflow hrow
  obtain ⟨row', hrefreshed, hrecord⟩ := refresh_eq_ok hrow hloads h
  exact ⟨row, row', rfl, hrow, hrefreshed, hrecord⟩

theorem Refreshed.workflowId {artifacts : Option (AttestationRow δ → Bool)}
    (h : Refreshed D artifacts now db row db' row') : row'.workflowId = row.workflowId :=
  workflowId_of_workflow h.found

/-! ### Attestations -/

theorem VerificationPolicy.mem_of_requirement {p : VerificationPolicy} {verifierId : String}
    {v : VerifierRequirement} (h : p.requirement verifierId = some v) :
    v ∈ p.verifiers ∧ v.verifierId = verifierId := by
  have hfound := List.find?_some h
  exact ⟨List.mem_of_find?_eq_some h, of_decide_eq_true hfound⟩

omit [DecidableEq δ] in
theorem validateAttestation_metadata {artifacts : Option (AttestationRow δ → Bool)}
    {binding : CandidateBinding δ} {a : AttestationRow δ}
    (h : validateAttestation artifacts binding a = .ok ()) :
    validateAttestation none binding a = .ok () := by
  obtain ⟨hsize, h⟩ := check_bind_eq_ok.mp h
  obtain ⟨_, h⟩ := check_bind_eq_ok.mp h
  exact check_bind_eq_ok.mpr ⟨hsize, check_bind_eq_ok.mpr ⟨fun _ h => (by cases h), h⟩⟩

omit [DecidableEq δ] in
theorem Database.mem_attestationsOf {workflowId : String} {a : AttestationRow δ} :
    a ∈ db.attestationsOf workflowId ↔
      a ∈ db.attestations ∧ a.workflowId = workflowId ∧ a.supersededAt = none := by
  unfold Database.attestationsOf
  rw [List.mem_insertionSort, List.mem_filter, decide_eq_true_eq]

theorem supersede_changes {workflowId verifierId : String}
    (h : supersede D db workflowId verifierId now = .ok db') :
    Changes D now db db' ∧ db'.workflows = db.workflows := by
  unfold supersede at h
  split at h
  · cases h
    exact ⟨.refl, rfl⟩
  · next existing hfind =>
    obtain ⟨hexpired, h⟩ := check_bind_eq_ok.mp h
    obtain ⟨events, rfl, hlog⟩ := appendEvent_eq_ok h
    have hexisting : existing.workflowId = workflowId ∧ existing.verifierId = verifierId ∧
        existing.supersededAt = none := by
      have hfound := List.find?_some hfind
      exact of_decide_eq_true hfound
    obtain ⟨rfl, rfl, hlive⟩ := hexisting
    exact ⟨.single (.superseded existing events (List.mem_of_find?_eq_some hfind) hlive
      (not_le.mp hexpired) hlog), rfl⟩

theorem insertAttestation_changes {attestation : IndependentAttestation δ}
    (hrow : db.workflow row.workflowId = some row) (hclock : row.lastWallTime ≤ now)
    (hlive : row.status.Live)
    (hverifier : ∃ v ∈ row.binding.verificationPolicy.verifiers, v.verifierId =
      attestation.verifierId)
    (h : insertAttestation D artifacts db (recordOf D db row now) attestation now =
      .ok (db', answer)) :
    Changes D now db db' := by
  obtain ⟨room, hroom, h⟩ := bind_eq_ok.mp h
  obtain ⟨_, h⟩ := check_bind_eq_ok.mp h
  obtain ⟨hconstraints, h⟩ := check_bind_eq_ok.mp h
  obtain ⟨_, hevent, h⟩ := bind_eq_ok.mp h
  obtain ⟨_, hselected, h⟩ := bind_eq_ok.mp h
  cases h
  obtain ⟨hchanges, hworkflows⟩ := supersede_changes hroom
  obtain ⟨events, rfl, hlog⟩ := appendEvent_eq_ok hevent
  obtain ⟨row', hrow', _, hloads⟩ := selectedRecord_eq_ok.mp hselected
  have hroomRow : room.workflow row.workflowId = some row := by
    unfold Database.workflow
    rw [hworkflows]
    exact hrow
  obtain ⟨status, hstatus⟩ : ∃ status, status = if row.binding.verificationPolicy.quorum ≤
      (room.attestations ++ [attestation.row row.workflowId now]).countP (fun a =>
        decide (a.workflowId = row.workflowId ∧ a.supersededAt = none ∧ a.ActiveAt now))
      then Status.ready else .attested := ⟨_, rfl⟩
  have hstatusLive : status.Live := by
    rw [hstatus]
    split <;> trivial
  have hfound := Database.workflow_setWorkflow_self hroomRow (·.withStatus status now)
    fun _ => rfl
  have hbinding : row'.binding = row.binding ∧ row'.workflowId = row.workflowId := by
    rw [hstatus] at hfound
    cases hfound.symm.trans hrow'
    exact ⟨rfl, rfl⟩
  have hvalid : validateAttestation none row.binding (attestation.row row.workflowId now) =
      .ok () := by
    rw [← hbinding.1]
    apply validateAttestation_metadata
    refine hloads.attestations _ (Database.mem_attestationsOf.mpr ⟨?_, hbinding.2.symm, rfl⟩)
    exact List.mem_append_right _ (List.mem_singleton_self _)
  refine hchanges.tail ?_
  rw [hstatus] at hstatusLive
  exact .attested row attestation _ _ events hroomRow hclock hlive hstatusLive hverifier
    (fun a ha => (hconstraints a ha).1)
    (fun a ha hworkflow hnone hname => (hconstraints a ha).2 ⟨hworkflow, hname, hnone⟩) hvalid hlog

theorem recordVerifiedAttestation_changes {workflowId : String}
    {attestation : IndependentAttestation δ} {bindingSha256 : δ}
    (htimely : TimelyFor D db workflowId now)
    (h : recordVerifiedAttestation D artifacts db workflowId attestation bindingSha256 now =
      .ok (db', answer)) :
    OnTime db workflowId now ∧ Changes D now db db' := by
  obtain ⟨record, hselected, h⟩ := bind_eq_ok.mp h
  obtain ⟨⟨refreshed, record'⟩, hrefresh, h⟩ := bind_eq_ok.mp h
  obtain ⟨row, row', rfl, hrow, hrefreshed, rfl⟩ := selected_refreshed hselected hrefresh
  have hchanges := hrefreshed.changes (htimely row hrow)
  obtain ⟨_, hlive, h⟩ := bind_eq_ok.mp h
  obtain ⟨_, hclock, _⟩ := bind_eq_ok.mp hlive
  have hclock := checkClock_eq_ok.mp hclock
  refine ⟨onTime_of_row hrow (hrefreshed.clock (htimely row hrow) hclock), ?_⟩
  obtain ⟨hstatus, h⟩ := check_bind_eq_ok.mp h
  split at h
  · cases h
  · next requirement hrequirement =>
    obtain ⟨_, h⟩ := check_bind_eq_ok.mp h
    obtain ⟨_, h⟩ := check_bind_eq_ok.mp h
    split at h
    · obtain ⟨_, h⟩ := check_bind_eq_ok.mp h
      obtain ⟨_, _, h⟩ := bind_eq_ok.mp h
      cases h
      exact hchanges
    · refine hchanges.trans (insertAttestation_changes ?_ hclock hstatus
        ⟨requirement, VerificationPolicy.mem_of_requirement hrequirement⟩ h)
      rw [hrefreshed.workflowId]
      exact hrefreshed.found

/-! ### Plans -/

theorem le_countP_of_sorted {l : List Time} (hl : l.Pairwise (· ≥ ·)) {k : Nat} {t : Time}
    (h : l[k]? = some t) : k + 1 ≤ l.countP fun x => decide (t ≤ x) := by
  induction l generalizing k with
  | nil => cases h
  | cons first rest ih =>
    obtain ⟨hfirst, hrest⟩ := List.pairwise_cons.mp hl
    cases k with
    | zero =>
      cases h
      rw [List.countP_cons_of_pos (by simp)]
      omega
    | succ k =>
      have hmem : t ∈ rest := List.mem_of_getElem? h
      rw [List.countP_cons_of_pos (by simpa using hfirst t hmem)]
      have := ih hrest h
      omega

omit [DecidableEq δ] in
theorem quorumExpiresAt_eq_ok {expiry : Time} (h : record.quorumExpiresAt now = .ok expiry) :
    now ≤ expiry ∧ record.quorum ≤
      (record.active now).countP fun a => decide (expiry ≤ a.expiresAt) := by
  unfold WorkflowRecord.quorumExpiresAt at h
  dsimp only at h
  split at h
  · cases h
  · next t ht =>
    cases h
    have hperm := List.perm_insertionSort (· ≥ ·)
      ((record.active now).map AttestationRow.expiresAt)
    constructor
    · obtain ⟨a, ha, rfl⟩ := List.mem_map.mp (hperm.mem_iff.mp (List.mem_of_getElem? ht))
      exact (of_decide_eq_true (List.mem_filter.mp ha).2).2
    · have hcount := le_countP_of_sorted
        (List.pairwise_insertionSort (· ≥ ·) ((record.active now).map AttestationRow.expiresAt)) ht
      rw [hperm.countP_eq, List.countP_map] at hcount
      have hpositive : 1 ≤ record.quorum := record.binding.verificationPolicy.positive
      refine le_trans ?_ hcount
      omega

theorem issueResumePlan_changes {workflowId key : String} {ttlSeconds : Time}
    (htimely : TimelyFor D db workflowId now)
    (h : issueResumePlan D artifacts db workflowId key ttlSeconds now = .ok (db', answer)) :
    OnTime db workflowId now ∧ Changes D now db db' := by
  obtain ⟨httl, h⟩ := check_bind_eq_ok.mp h
  obtain ⟨_, h⟩ := check_bind_eq_ok.mp h
  obtain ⟨record, hselected, h⟩ := bind_eq_ok.mp h
  obtain ⟨⟨refreshed, record'⟩, hrefresh, h⟩ := bind_eq_ok.mp h
  obtain ⟨row, row', rfl, hrow, hrefreshed, rfl⟩ := selected_refreshed hselected hrefresh
  have hchanges := hrefreshed.changes (htimely row hrow)
  obtain ⟨_, hlive, h⟩ := bind_eq_ok.mp h
  obtain ⟨_, hclock, hlive⟩ := bind_eq_ok.mp hlive
  have hclock := checkClock_eq_ok.mp hclock
  refine ⟨onTime_of_row hrow (hrefreshed.clock (htimely row hrow) hclock), ?_⟩
  have hbinding := not_lt.mp (check_eq_ok.mp hlive).2
  obtain ⟨hready, h⟩ := check_bind_eq_ok.mp h
  split at h
  · obtain ⟨_, h⟩ := check_bind_eq_ok.mp h
    obtain ⟨_, _, h⟩ := bind_eq_ok.mp h
    cases h
    exact hchanges
  · next hkey =>
    obtain ⟨quorumExpiry, hexpiry, h⟩ := bind_eq_ok.mp h
    obtain ⟨htoken, h⟩ := check_bind_eq_ok.mp h
    obtain ⟨_, hevent, h⟩ := bind_eq_ok.mp h
    obtain ⟨_, _, h⟩ := bind_eq_ok.mp h
    cases h
    obtain ⟨events, rfl, hlog⟩ := appendEvent_eq_ok hevent
    obtain ⟨hvalid, hquorum⟩ := quorumExpiresAt_eq_ok hexpiry
    have hid := hrefreshed.workflowId
    have hfound : refreshed.workflow row'.workflowId = some row' := hid ▸ hrefreshed.found
    have htime : now ≤ now + ttlSeconds :=
      le_add_of_nonneg_right (zero_le_one.trans httl.1)
    refine hchanges.tail ?_
    rw [← hid] at hlog ⊢
    exact .issued row' key _ _ events hfound hclock hready.1 rfl
      ⟨le_min (le_min htime hbinding) hvalid, (min_le_left _ _).trans (min_le_right _ _)⟩
      (hquorum.trans (List.countP_mono_left fun a _ ha => decide_eq_true
        ((min_le_right _ _).trans (of_decide_eq_true ha)))) hkey htoken hlog

/-! ### Confirmations -/

/-- What holds of a confirmation that takes its workflow into the apply. -/
structure Authorizes (D : Digests δ) (now : Time) (db : Database δ) (row : WorkflowRow δ)
    (confirmation : ConfirmationRow δ) : Prop where
  found : db.workflow row.workflowId = some row
  clock : row.lastWallTime ≤ now
  ready : row.status = .ready
  expires : now ≤ row.binding.expiresAt
  quorum : row.binding.verificationPolicy.quorum ≤ (db.activeOf row.workflowId now).length
  recorded : confirmation ∈ db.confirmations
  fresh : confirmation.consumedAt = none ∧ confirmation.revokedAt = none
  bound : confirmation.workflowId = row.workflowId ∧
    confirmation.bindingSha256 = D.ofBinding row.binding
  time : confirmation.issuedAt ≤ now ∧ now ≤ confirmation.expiresAt

theorem consumeConfirmation_eq_ok {confirmation : ConfirmationRow δ}
    (hrow : db.workflow row.workflowId = some row)
    (hconfirmation : confirmation ∈ db.confirmations)
    (hbound : confirmation.workflowId = row.workflowId ∧
      confirmation.bindingSha256 = D.ofBinding row.binding)
    (h : consumeConfirmation D artifacts db (recordOf D db row now) confirmation
      (D.ofTransaction row.workflowId confirmation.planId confirmation.bindingSha256) now =
      .ok (db', answer)) :
    Authorizes D now db row confirmation ∧ Change D now db db' ∧
      (∃ record, answer = .record record false) ∧
      db'.workflow row.workflowId = some (row.applyingWith
        (D.ofTransaction row.workflowId confirmation.planId confirmation.bindingSha256) now) ∧
      db'.confirmations = Table.update ConfirmationRow.tokenSha256 db.confirmations
        confirmation.tokenSha256 (·.consumed now) := by
  obtain ⟨_, hclock, h⟩ := bind_eq_ok.mp h
  obtain ⟨hexpires, h⟩ := check_bind_eq_ok.mp h
  obtain ⟨hready, h⟩ := check_bind_eq_ok.mp h
  obtain ⟨hrevoked, h⟩ := check_bind_eq_ok.mp h
  obtain ⟨hconsumed, h⟩ := check_bind_eq_ok.mp h
  obtain ⟨hissued, h⟩ := check_bind_eq_ok.mp h
  obtain ⟨hopen, h⟩ := check_bind_eq_ok.mp h
  obtain ⟨_, hevent, h⟩ := bind_eq_ok.mp h
  obtain ⟨selected, _, h⟩ := bind_eq_ok.mp h
  cases h
  obtain ⟨events, rfl, hlog⟩ := appendEvent_eq_ok hevent
  have hauthorizes : Authorizes D now db row confirmation :=
    ⟨hrow, checkClock_eq_ok.mp hclock, hready.1, not_lt.mp hexpires.2, hready.2, hconfirmation,
      ⟨hconsumed, hrevoked⟩, hbound, not_lt.mp hissued, not_lt.mp hopen⟩
  exact ⟨hauthorizes, .consumed row confirmation events hrow hauthorizes.clock hready.1
    hauthorizes.expires hready.2 hconfirmation hauthorizes.fresh hbound hauthorizes.time hlog,
    ⟨selected, rfl⟩, Database.workflow_setWorkflow_self hrow _ fun _ => rfl, rfl⟩

theorem consumeResumeConfirmation_eq_ok {workflowId : String} {planId : δ}
    {confirmationId : String} {bindingSha256 : δ} (htimely : TimelyFor D db workflowId now)
    (h : consumeResumeConfirmation D artifacts db workflowId planId confirmationId bindingSha256
      now = .ok (db', answer)) :
    OnTime db workflowId now ∧
    ∃ refreshed stored row, row.workflowId = workflowId ∧
      db.workflow workflowId = some stored ∧ row.binding = stored.binding ∧
      (refreshed.attestations = db.attestations ∧ refreshed.confirmations = db.confirmations) ∧
      Changes D now db refreshed ∧
      ((db' = refreshed ∧ ∃ record, answer = .record record true) ∨
        ∃ confirmation, Authorizes D now refreshed row confirmation ∧
          Change D now refreshed db' ∧ (∃ record, answer = .record record false) ∧
          confirmation.tokenSha256 = D.ofText confirmationId ∧
          D.token workflowId confirmation.planId confirmation.idempotencySha256 =
            confirmationId ∧
          db'.workflow row.workflowId = some (row.applyingWith
            (D.ofTransaction row.workflowId confirmation.planId confirmation.bindingSha256)
            now) ∧
          db'.confirmations = Table.update ConfirmationRow.tokenSha256 refreshed.confirmations
            confirmation.tokenSha256 (·.consumed now)) := by
  obtain ⟨_, h⟩ := check_bind_eq_ok.mp h
  obtain ⟨record, hselected, h⟩ := bind_eq_ok.mp h
  obtain ⟨⟨refreshed, record'⟩, hrefresh, h⟩ := bind_eq_ok.mp h
  obtain ⟨row, row', rfl, hrow, hrefreshed, rfl⟩ := selected_refreshed hselected hrefresh
  have hchanges := hrefreshed.changes (htimely row hrow)
  have hid := hrefreshed.workflowId
  obtain ⟨_, hclock, h⟩ := bind_eq_ok.mp h
  have hclock := checkClock_eq_ok.mp hclock
  refine ⟨onTime_of_row hrow (hrefreshed.clock (htimely row hrow) hclock), refreshed, row, row',
    hid, hrow, hrefreshed.binding, refresh_tables hrefresh, hchanges, ?_⟩
  split at h
  · cases h
  · next confirmation hfound =>
    obtain ⟨hmem, htoken⟩ := Table.mem_of_lookup hfound
    obtain ⟨hexpected, h⟩ := check_bind_eq_ok.mp h
    obtain ⟨⟨hworkflow, rfl, rfl, hbinding⟩, h⟩ := check_bind_eq_ok.mp h
    dsimp only at h
    split at h
    · obtain ⟨_, h⟩ := check_bind_eq_ok.mp h
      cases h
      exact .inl ⟨rfl, _, rfl⟩
    · split at h
      · obtain ⟨_, h⟩ := check_bind_eq_ok.mp h
        cases h
        exact .inl ⟨rfl, _, rfl⟩
      · rw [← hid] at h hworkflow
        obtain ⟨hauthorizes, hchange, hanswer, happlying, hconfirmations⟩ :=
          consumeConfirmation_eq_ok (hid ▸ hrefreshed.found) hmem ⟨hworkflow, hbinding⟩ h
        exact .inr ⟨confirmation, hauthorizes, hchange, hanswer, htoken, hexpected, happlying,
          hconfirmations⟩

/-! ### The end of an apply -/

theorem markApplied_changes {artifacts : Option (AttestationRow δ → Bool)} {workflowId : String}
    {transactionId result : δ}
    (h : markApplied D artifacts db workflowId transactionId result now = .ok (db', answer)) :
    OnTime db workflowId now ∧ Changes D now db db' := by
  obtain ⟨record, hselected, h⟩ := bind_eq_ok.mp h
  obtain ⟨row, hrow, rfl, _⟩ := selectedRecord_eq_ok.mp hselected
  cases workflowId_of_workflow hrow
  obtain ⟨_, hclock, h⟩ := bind_eq_ok.mp h
  have hclock : row.lastWallTime ≤ now := checkClock_eq_ok.mp hclock
  refine ⟨onTime_of_row hrow hclock, ?_⟩
  obtain ⟨_, _, h⟩ := bind_eq_ok.mp h
  split at h
  · obtain ⟨_, h⟩ := check_bind_eq_ok.mp h
    cases h
    exact .refl
  · obtain ⟨⟨happlying, htransaction⟩, h⟩ := check_bind_eq_ok.mp h
    obtain ⟨_, hevent, h⟩ := bind_eq_ok.mp h
    obtain ⟨_, _, h⟩ := bind_eq_ok.mp h
    cases h
    obtain ⟨events, rfl, hlog⟩ := appendEvent_eq_ok hevent
    exact .single (.applied row transactionId result events hrow hclock happlying htransaction
      hlog)

omit [DecidableEq δ] in
theorem recoveredStatus_cases (record : WorkflowRecord δ) (now : Time) :
    (recoveredStatus record now).Live ∨ recoveredStatus record now = .expired := by
  unfold recoveredStatus
  split
  · exact .inr rfl
  · exact .inl (live_desiredStatus _ _)

theorem resetAfterRecovery_changes {artifacts : Option (AttestationRow δ → Bool)}
    {workflowId : String} {transactionId : δ}
    (h : resetAfterRecovery D artifacts db workflowId transactionId now = .ok (db', answer)) :
    OnTime db workflowId now ∧ Changes D now db db' := by
  obtain ⟨record, hselected, h⟩ := bind_eq_ok.mp h
  obtain ⟨row, hrow, rfl, hloads⟩ := selectedRecord_eq_ok.mp hselected
  cases workflowId_of_workflow hrow
  obtain ⟨_, hclock, h⟩ := bind_eq_ok.mp h
  have hclock : row.lastWallTime ≤ now := checkClock_eq_ok.mp hclock
  refine ⟨onTime_of_row hrow hclock, ?_⟩
  obtain ⟨_, _, h⟩ := bind_eq_ok.mp h
  split at h
  · obtain ⟨_, h⟩ := check_bind_eq_ok.mp h
    obtain ⟨⟨refreshed, record'⟩, hrefresh, h⟩ := bind_eq_ok.mp h
    cases h
    obtain ⟨row', hrefreshed, _⟩ := refresh_eq_ok hrow hloads hrefresh
    exact hrefreshed.changes fun hlt => absurd hlt (not_lt.mpr hclock)
  · next hnew =>
    obtain ⟨⟨happlying, htransaction⟩, h⟩ := check_bind_eq_ok.mp h
    obtain ⟨_, hevent, h⟩ := bind_eq_ok.mp h
    obtain ⟨_, _, h⟩ := bind_eq_ok.mp h
    cases h
    obtain ⟨events, rfl, hlog⟩ := appendEvent_eq_ok hevent
    exact .single (.recovered row transactionId _ events hrow hclock happlying htransaction
      (recoveredStatus_cases _ _) hnew hlog)

theorem markConflicted_changes {workflowId reason : String}
    (h : markConflicted D artifacts db workflowId reason now = .ok (db', answer)) :
    OnTime db workflowId now ∧ Changes D now db db' := by
  obtain ⟨_, h⟩ := check_bind_eq_ok.mp h
  obtain ⟨record, hselected, h⟩ := bind_eq_ok.mp h
  obtain ⟨row, hrow, rfl, _⟩ := selectedRecord_eq_ok.mp hselected
  cases workflowId_of_workflow hrow
  obtain ⟨_, hclock, h⟩ := bind_eq_ok.mp h
  have hclock : row.lastWallTime ≤ now := checkClock_eq_ok.mp hclock
  refine ⟨onTime_of_row hrow hclock, ?_⟩
  obtain ⟨hstatus, h⟩ := check_bind_eq_ok.mp h
  split at h
  · obtain ⟨_, _, h⟩ := bind_eq_ok.mp h
    cases h
    exact .refl
  · obtain ⟨_, hevent, h⟩ := bind_eq_ok.mp h
    obtain ⟨_, _, h⟩ := bind_eq_ok.mp h
    cases h
    unfold transition at hevent
    rw [Database.setWorkflow_setWorkflow _ _ (f := WorkflowRow.released) fun _ => rfl] at hevent
    obtain ⟨events, rfl, hlog⟩ := appendEvent_eq_ok hevent
    exact .single (.conflicted row reason events hrow hclock hstatus hlog)

/-! ## Calls -/

theorem onTime_of_selected {artifacts : Option (AttestationRow δ → Bool)} {workflowId : String}
    {u : Unit} (hselected : selectedRecord D artifacts db workflowId now = .ok record)
    (hclock : checkClock record now = .ok u) : OnTime db workflowId now := by
  obtain ⟨row, hrow, rfl, _⟩ := selectedRecord_eq_ok.mp hselected
  cases workflowId_of_workflow hrow
  exact onTime_of_row hrow (checkClock_eq_ok.mp hclock)

/-- A call is about a workflow that exists before it. -/
def Call.Concerns (c : Call δ) (db : Database δ) (workflowId : String) : Prop :=
  match c.request with
  | .createWorkflow .. => False
  | .listWorkflows limit => ∃ row ∈ db.listed limit, row.workflowId = workflowId
  | .findWorkflow w | .getWorkflow w | .recordVerifiedAttestation w _ _ | .issueResumePlan w _ _
  | .consumeResumeConfirmation w _ _ _ | .markApplied w _ _
  | .markAppliedAfterCommittedRecovery w _ _ | .resetAfterRecovery w _
  | .resetApplyingAfterRecovery w _ | .markConflicted w _ | .readApplyingRecovery w
  | .readRecoveredCleanup w | .readAppliedCleanup w => w = workflowId

/-- The workflow whose status a call refreshes before it looks at the clock. -/
def Call.refreshesFirst (c : Call δ) : Option String :=
  match c.request with
  | .recordVerifiedAttestation w _ _ | .issueResumePlan w _ _
  | .consumeResumeConfirmation w _ _ _ => some w
  | .createWorkflow .. | .listWorkflows _ | .findWorkflow _ | .getWorkflow _ | .markApplied ..
  | .markAppliedAfterCommittedRecovery .. | .resetAfterRecovery ..
  | .resetApplyingAfterRecovery .. | .markConflicted .. | .readApplyingRecovery _
  | .readRecoveredCleanup _ | .readAppliedCleanup _ => none

/-- A call refreshes no status at a time behind the clock of its workflow. -/
def Timely (D : Digests δ) (db : Database δ) (c : Call δ) : Prop :=
  ∀ workflowId ∈ c.refreshesFirst, TimelyFor D db workflowId c.now

instance (db : Database δ) (c : Call δ) : Decidable (Timely D db c) :=
  inferInstanceAs (Decidable (∀ workflowId ∈ c.refreshesFirst, _))

theorem perform_changes {c : Call δ}
    (hunique : Table.UniqueKeys WorkflowRow.workflowId db.workflows) (htimely : Timely D db c)
    (h : perform D db c = .ok (db', answer)) :
    (∀ workflowId, c.Concerns db workflowId → OnTime db workflowId c.now) ∧
      Changes D c.now db db' := by
  obtain ⟨request, now, artifacts⟩ := c
  obtain ⟨_, _, h⟩ := bind_eq_ok.mp h
  cases request with
  | createWorkflow binding challenge key root =>
    exact ⟨fun _ hconcerns => hconcerns.elim, createWorkflow_changes h⟩
  | findWorkflow workflowId =>
    obtain ⟨htime, hchanges⟩ := findWorkflow_changes h
    exact ⟨fun _ hconcerns => hconcerns ▸ htime, hchanges⟩
  | getWorkflow workflowId =>
    dsimp only at h
    unfold getWorkflow at h
    split at h
    · cases h
    · obtain ⟨htime, hchanges⟩ := findWorkflow_changes h
      exact ⟨fun _ hconcerns => hconcerns ▸ htime, hchanges⟩
  | listWorkflows limit =>
    obtain ⟨htimes, hchanges⟩ := listWorkflows_changes hunique h
    refine ⟨?_, hchanges⟩
    rintro _ ⟨row, hrow, rfl⟩
    have hfound := Table.lookup_eq_some_of_mem hunique (Database.mem_listed hrow)
    exact onTime_of_row hfound (htimes row hrow)
  | recordVerifiedAttestation workflowId attestation bindingSha256 =>
    obtain ⟨htime, hchanges⟩ := recordVerifiedAttestation_changes (htimely workflowId rfl) h
    exact ⟨fun _ hconcerns => hconcerns ▸ htime, hchanges⟩
  | issueResumePlan workflowId key ttl =>
    obtain ⟨htime, hchanges⟩ := issueResumePlan_changes (htimely workflowId rfl) h
    exact ⟨fun _ hconcerns => hconcerns ▸ htime, hchanges⟩
  | consumeResumeConfirmation workflowId planId confirmationId bindingSha256 =>
    obtain ⟨htime, _, _, _, _, _, _, _, hchanges, houtcome⟩ :=
      consumeResumeConfirmation_eq_ok (htimely workflowId rfl) h
    refine ⟨fun _ hconcerns => hconcerns ▸ htime, ?_⟩
    rcases houtcome with ⟨rfl, _⟩ | ⟨_, _, hchange, _⟩
    · exact hchanges
    · exact hchanges.tail hchange
  | markApplied workflowId transactionId result
  | markAppliedAfterCommittedRecovery workflowId transactionId result =>
    obtain ⟨htime, hchanges⟩ := markApplied_changes h
    exact ⟨fun _ hconcerns => hconcerns ▸ htime, hchanges⟩
  | resetAfterRecovery workflowId transactionId
  | resetApplyingAfterRecovery workflowId transactionId =>
    obtain ⟨htime, hchanges⟩ := resetAfterRecovery_changes h
    exact ⟨fun _ hconcerns => hconcerns ▸ htime, hchanges⟩
  | markConflicted workflowId reason =>
    obtain ⟨htime, hchanges⟩ := markConflicted_changes h
    exact ⟨fun _ hconcerns => hconcerns ▸ htime, hchanges⟩
  | readApplyingRecovery workflowId | readRecoveredCleanup workflowId
  | readAppliedCleanup workflowId =>
    obtain ⟨_, hread, h⟩ := bind_eq_ok.mp h
    cases h
    obtain ⟨_, hselected, hread⟩ := bind_eq_ok.mp hread
    obtain ⟨_, hclock, _⟩ := bind_eq_ok.mp hread
    exact ⟨fun _ hconcerns => hconcerns ▸ onTime_of_selected hselected hclock, .refl⟩

end LocalMoe.Workflow
