/-
  What the store has recorded stays recorded.
-/
import LocalMoe.Workflow.Authority
import LocalMoe.Workflow.Linked

namespace LocalMoe.Workflow

open Foundation

variable {δ : Type} [DecidableEq δ] {D : Digests δ} {now : Time} {db db' first : Database δ}
  {workflowId : String} {key : EventKey δ} {payload : EventPayload δ}
  {events events' : List (EventRow δ)}

/-- What later tables keep of the first ones. A closed confirmation never changes, and an
attestation is at most superseded, once. -/
structure Remembers (first db : Database δ) : Prop where
  events : first.events <+: db.events
  recoveries : first.recoveries <+: db.recoveries
  bindings : ∀ workflowId row, first.workflow workflowId = some row →
    ∃ row', db.workflow workflowId = some row' ∧ row'.binding = row.binding
  closed : ∀ c ∈ first.confirmations, ¬ c.Open → c ∈ db.confirmations
  attestations : ∀ a ∈ first.attestations, a ∈ db.attestations ∨
    a.supersededAt = none ∧ ∃ t, { a with supersededAt := some t } ∈ db.attestations

theorem Logged.isPrefix (h : Logged D now workflowId key payload events events') :
    events <+: events' := by
  cases h with
  | again => exact List.prefix_rfl
  | added => exact List.prefix_append _ _

theorem Change.attestation_superseded (h : Change D now db db') {a : AttestationRow δ}
    (ha : a ∈ db.attestations) : a ∈ db'.attestations ∨
      a.supersededAt = none ∧ { a with supersededAt := some now } ∈ db'.attestations := by
  rcases h.attestations_cases with hsame | ⟨existing, _, _, hsame⟩ | ⟨_, _, _, _, _, hsame⟩
  · exact .inl (hsame ▸ ha)
  · have hmem : a.superseded existing.evidenceSha256 now ∈ db'.attestations :=
      hsame ▸ List.mem_map_of_mem ha
    unfold AttestationRow.superseded at hmem
    split at hmem
    · next hrow => exact .inr ⟨hrow.2, hmem⟩
    · exact .inl hmem
  · exact .inl (hsame ▸ List.mem_append_left _ ha)

theorem Remembers.step (hs : SoundAt D now db) (hchange : Change D now db db')
    (h : Remembers first db) : Remembers first db' := by
  refine ⟨h.events.trans ?_, h.recoveries.trans ?_, fun workflowId row hrow => ?_,
    fun c hc hclosed => hchange.closed_kept hs (h.closed c hc hclosed) hclosed, fun a ha => ?_⟩
  · obtain ⟨_, _, _, hlog, -, -⟩ := hchange.logs
    exact hlog.isPrefix
  · rcases hchange.recoveries_cases with hsame | ⟨_, _, _, _, _, hadded, _⟩
    · exact hsame ▸ List.prefix_rfl
    · exact hadded ▸ List.prefix_append _ _
  · obtain ⟨row', hrow', hbinding⟩ := h.bindings workflowId row hrow
    obtain ⟨last, hlast, hsame, -⟩ := hchange.advances workflowId row' hrow'
    exact ⟨last, hlast, hsame.trans hbinding⟩
  · rcases h.attestations a ha with ha | ⟨hlive, t, ha⟩
    · exact (hchange.attestation_superseded ha).imp_right fun hlater => ⟨hlater.1, now, hlater.2⟩
    · rcases hchange.attestation_superseded ha with ha | ⟨hnone, -⟩
      · exact .inr ⟨hlive, t, ha⟩
      · cases hnone

def EventRow.slot (e : EventRow δ) : String × EventKey δ := (e.workflowId, e.eventKey)

theorem Logged.unique (h : Logged D now workflowId key payload events events')
    (hu : Table.UniqueKeys EventRow.slot events) : Table.UniqueKeys EventRow.slot events' := by
  cases h with
  | again => exact hu
  | added hnew =>
    refine hu.append_single (List.find?_eq_none.mpr fun e he hslot => ?_)
    obtain ⟨hworkflow, hkey⟩ := Prod.mk.inj (of_decide_eq_true hslot)
    exact List.find?_eq_none.mp hnew e he (decide_eq_true ⟨hworkflow, hkey⟩)

/-- Over every run whose observation times do not go back, what was recorded is kept, and no
event is in the journal twice. -/
theorem history_kept (D : Digests δ) (before rest : List (Call δ)) (h : Forward (before ++ rest)) :
    Remembers (after D before) (after D (before ++ rest)) ∧
      Table.UniqueKeys EventRow.slot (after D (before ++ rest)).events := by
  constructor
  · exact run_keeps (fun _ _ _ hs hchange hkept => hkept.step hs hchange) h
      ⟨List.prefix_rfl, List.prefix_rfl, fun _ row hrow => ⟨row, hrow, rfl⟩, fun _ hc _ => hc,
        fun _ ha => .inl ha⟩
  · have hstep : ∀ now db db', SoundAt D now db → Change D now db db' →
        Table.UniqueKeys EventRow.slot db.events → Table.UniqueKeys EventRow.slot db'.events := by
      intro now db db' _ hchange hunique
      obtain ⟨_, _, _, hlog, -, -⟩ := hchange.logs
      exact hlog.unique hunique
    have hforward : Forward ([] ++ (before ++ rest)) := h
    have hkept := run_keeps hstep hforward List.nodup_nil
    exact hkept

theorem history_kept_sample :
    Remembers (after sampleDigests [sampleStage, sampleVerified])
      (after sampleDigests ([sampleStage, sampleVerified] ++ [sampleIssued, sampleConsumed])) ∧
    Table.UniqueKeys EventRow.slot (after sampleDigests
      ([sampleStage, sampleVerified] ++ [sampleIssued, sampleConsumed])).events :=
  history_kept sampleDigests _ _ (by unfold Forward; decide +kernel)

end LocalMoe.Workflow
