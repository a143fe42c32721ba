/-
  A run and the row of its lease.
-/
import LocalMoe.BoundCell.Agreement
import LocalMoe.BoundCell.SqliteStore

namespace LocalMoe.BoundCell

open Foundation Contracts Lease

/-! ## The trace of a run -/

section Trace

variable {S : Stdlib} {σ : Type}

/-- Nothing was delivered so far. -/
def Session.Quiet (s : Session σ) : Prop := .invoked ∉ s.trace

theorem Session.Quiet.append {s : Session σ} (h : s.Quiet) {w : σ} {event : Event σ}
    (hevent : event ≠ .invoked) : (⟨w, s.trace ++ [event]⟩ : Session σ).Quiet := by
  intro hmem
  rcases List.mem_append.mp hmem with hold | hnew
  · exact h hold
  · exact hevent (List.mem_singleton.mp hnew).symm

variable {rt : Runtime} {inputs : RunInputs} {script : Script} {store : LeaseStore S σ}
  {target : ResolvedTarget} {pre : InspectionBundle} {p : Progress} {handle : LeaseHandle}
  {s : Session σ}

variable (store handle) in
theorem settleLease_quiet (h : s.Quiet) (delivery : DeliveryStatus) (p : Progress) :
    (settleLease store handle delivery p s).2.Quiet := h.append nofun

variable (script store target p handle) in
theorem probePhase_quiet (h : s.Quiet) : (probePhase script store p target handle s).2.Quiet := by
  have hleft := settleLease_quiet store handle h .notAttempted
  unfold probePhase
  dsimp only
  split
  · exact hleft p
  · split
    · exact h
    · exact hleft p

variable (store p handle) in
theorem armPhase_quiet (h : s.Quiet) : (armPhase store p handle s).2.Quiet := by
  have harmed : Session.Quiet ⟨(store.armDelivery handle s.world).2, s.trace ++
      [.armed (store.armDelivery handle s.world).1 (store.armDelivery handle s.world).2]⟩ :=
    h.append nofun
  have hleft := settleLease_quiet store handle harmed .notAttempted
  unfold armPhase
  dsimp only
  split
  · exact hleft p
  · exact hleft p
  · split
    · exact harmed
    · exact hleft p

theorem adoptAcquisition_eq_ok {previewed : Bool} {claim : Option CooperativeResourceClaim}
    {acquisition : Acquisition PreviewEvaluation} {q : Progress} {preview : PreviewEvaluation}
    (h : adoptAcquisition p previewed claim acquisition = .ok (q, handle, preview)) :
    acquisition.handle = some handle ∧ acquisition.receipt.status = .acquired := by
  unfold adoptAcquisition at h
  split at h
  · cases h
  dsimp only at h
  split at h
  · cases h
  split at h
  · rename_i hhandle
    split at h
    · rename_i hacquired
      cases h
      exact ⟨hhandle, hacquired⟩
    · cases h
  · cases h

theorem acquirePhase_eq_ok {q : Progress} {preview : PreviewEvaluation} {s' : Session σ}
    (h : acquirePhase inputs script store p target pre s = (.ok (q, handle, preview), s')) :
    ∃ acquisition,
      (store.evaluateAndAcquire (evaluateForLease inputs script target pre) s.world).1.answer =
        .ok acquisition ∧
      acquisition.handle = some handle ∧ acquisition.receipt.status = .acquired ∧
      s' = ⟨(store.evaluateAndAcquire (evaluateForLease inputs script target pre) s.world).2,
        s.trace ++ [.acquired (.ok acquisition)
          (store.evaluateAndAcquire (evaluateForLease inputs script target pre) s.world).2]⟩ := by
  unfold acquirePhase at h
  dsimp only at h
  obtain ⟨hadopted, hsession⟩ := Prod.mk.inj h
  split at hadopted
  · rename_i acquisition hanswer
    obtain ⟨hhandle, hacquired⟩ := adoptAcquisition_eq_ok hadopted
    exact ⟨acquisition, hanswer, hhandle, hacquired, by rw [← hsession, hanswer]⟩
  · cases hadopted
  · cases hadopted

/-- The trace of a run that delivered. -/
structure DeliveredOnce (store : LeaseStore S σ)
    (evaluator : Except EvaluatorException (Evaluation PreviewEvaluation))
    (delivery : DeliveryStatus) (w : σ) (s : Session σ)
    (acquisition : Acquisition PreviewEvaluation) (handle : LeaseHandle)
    (transition : TransitionReceipt) (w₁ w₂ : σ) : Prop where
  admission : (store.evaluateAndAcquire evaluator w).1.answer = .ok acquisition
  admitted : (store.evaluateAndAcquire evaluator w).2 = w₁
  handed : acquisition.handle = some handle
  acquired : acquisition.receipt.status = .acquired
  arming : store.armDelivery handle w₁ = (.ok transition, w₂)
  applied : transition.transitionApplied = true
  settled : s.world = (store.release handle delivery w₂).2
  trace : s.trace = [.acquired (.ok acquisition) w₁, .armed (.ok transition) w₂, .invoked,
    .settled delivery (store.release handle delivery w₂).1 s.world]

theorem boundRun_trace (rt : Runtime) (inputs : RunInputs) (script : Script)
    (store : LeaseStore S σ) (p : Progress) (target : ResolvedTarget) (pre : InspectionBundle)
    (w : σ) : (boundRun rt inputs script store p target pre ⟨w, []⟩).2.Quiet ∨
      ∃ acquisition handle transition w₁ w₂, DeliveredOnce store
        (evaluateForLease inputs script target pre) (deliver script.invoke).status w
        (boundRun rt inputs script store p target pre ⟨w, []⟩).2 acquisition handle
        transition w₁ w₂ := by
  have hstart : (⟨w, []⟩ : Session σ).Quiet := List.not_mem_nil
  unfold boundRun
  cases storePhase rt script p target with
  | error x => exact .inl hstart
  | ok _ =>
  cases recheckPhase script p target with
  | error x => exact .inl hstart
  | ok _ =>
  dsimp only
  have hquiet : (acquirePhase inputs script store p target pre ⟨w, []⟩).2.Quiet :=
    hstart.append nofun
  rcases hacquire : acquirePhase inputs script store p target pre ⟨w, []⟩ with
    ⟨x | ⟨q, handle, preview⟩, s₁⟩
  · rw [hacquire] at hquiet
    exact .inl hquiet
  obtain ⟨acquisition, hadmission, hhandle, hacquired, rfl⟩ := acquirePhase_eq_ok hacquire
  rw [hacquire] at hquiet
  dsimp only at hquiet ⊢
  have hprobed := probePhase_quiet script store target q handle hquiet
  rcases hprobe : probePhase script store q target handle _ with ⟨x | ⟨q', probe⟩, s₂⟩
  · rw [hprobe] at hprobed
    exact .inl hprobed
  obtain ⟨rfl, -, -, -⟩ := probePhase_eq_ok hprobe
  dsimp only
  have harmed := armPhase_quiet store q' handle hquiet
  rcases harm : armPhase store q' handle _ with ⟨x | q'', s₃⟩
  · rw [harm] at harmed
    exact .inl harmed
  obtain ⟨transition, harming, happlied, -, rfl⟩ := armPhase_eq_ok harm
  refine .inr ⟨acquisition, handle, transition, _, _, hadmission, rfl, hhandle, hacquired,
    Prod.ext harming rfl, happlied, rfl, ?_⟩
  rfl

theorem runBoundCell_session (rt : Runtime) (inputs : RunInputs) (script : Script)
    (store : LeaseStore S σ) (w : σ) : (runBoundCell rt inputs script store w).2 = ⟨w, []⟩ ∨
      ∃ p target pre, (runBoundCell rt inputs script store w).2 =
        (boundRun rt inputs script store p target pre ⟨w, []⟩).2 := by
  unfold runBoundCell
  split
  · exact .inl rfl
  · rename_i started tick _
    unfold exitOfRun
    dsimp only
    split
    · exact .inl rfl
    · split
      · exact .inl rfl
      · exact .inl rfl
      · exact .inr ⟨_, _, _, rfl⟩

end Trace

/-! ## The row of the run -/

section Row

variable {S : Stdlib} {coordinationDomainSha256 : String} (env : Environment S)

/-- The ledger all participants of the run's domain share. -/
abbrev domainLedger (S : Stdlib) (coordinationDomainSha256 : String) :
    Machine Domain DomainCall (Answer EvaluatorException PreviewEvaluation) :=
  ledger S coordinationDomainSha256 EvaluatorException PreviewEvaluation

/-- The row of the run, its delivery fence up. -/
structure Environment.Holds (d : Domain) (row : LeaseRow) : Prop where
  found : d.row env.leaseId.text = some row
  token : row.tokenSha256 = S.sha256 env.token.bytes

/-- The handle of the run: its own identifier and token, and the row belongs to it. -/
structure Environment.Owner (handle : LeaseHandle) (d : Domain) : Prop where
  leaseId : handle.leaseId = env.leaseId.text
  token : handle.token = env.token.bytes
  owned : d.OwnedBy S handle

variable {d : Domain}

variable {evaluator : Except EvaluatorException (Evaluation PreviewEvaluation)}

theorem owner_of_acquired {acquisition : Acquisition PreviewEvaluation} {handle : LeaseHandle}
    (h : (acquireIn S coordinationDomainSha256 env evaluator d).1.answer = .ok acquisition)
    (hhandle : acquisition.handle = some handle)
    (hacquired : acquisition.receipt.status = .acquired) :
    env.Owner handle (acquireIn S coordinationDomainSha256 env evaluator d).2 := by
  have hok := (acquireIn_eq_ok env).mp h
  obtain ⟨-, hid, howned⟩ := handle_of_acquired hok hhandle
  obtain ⟨sentinel, d', -, -, -, -, hreturned⟩ := evaluateAndAcquire_eq_ok hok
  rw [if_pos hacquired, hhandle] at hreturned
  have hafter : (acquireIn S coordinationDomainSha256 env evaluator d).2 =
      (evaluateAndAcquire S coordinationDomainSha256 (env.acquireCall evaluator) d).2 := by
    rw [acquireIn]
  rw [hafter]
  exact ⟨hid, by rw [Option.some.inj hreturned]; rfl, howned⟩

theorem Environment.Owner.exec (coordinationDomainSha256 : String) {handle : LeaseHandle}
    (h : env.Owner handle d) (hu : Table.UniqueKeys LeaseRow.leaseId d.rows)
    {calls : List DomainCall} (hcalls : ∀ call ∈ calls, Unrelated S env.leaseId env.token call) :
    env.Owner handle ((domainLedger S coordinationDomainSha256).exec d calls) := by
  refine ⟨h.leaseId, h.token, ownedBy_exec hu h.owned ?_⟩
  intro acquire hmem
  rw [h.leaseId]
  exact hcalls _ hmem

theorem armed_of_applied {handle : LeaseHandle} (h : env.Owner handle d)
    (hu : Table.UniqueKeys LeaseRow.leaseId d.rows) {transition : TransitionReceipt}
    (hok : (armIn S coordinationDomainSha256 env handle d).1 = .ok transition)
    (happlied : transition.transitionApplied = true) :
    env.Owner handle (armIn S coordinationDomainSha256 env handle d).2 ∧
      ∃ row, env.Holds (armIn S coordinationDomainSha256 env handle d).2 row ∧
        row.state = .deliveryArmed := by
  obtain ⟨reasons, _, harm, -⟩ := armDelivery_eq_ok ((armIn_eq_ok env).mp hok)
  have hstate : (armIn S coordinationDomainSha256 env handle d).2 =
      (armDelivery S coordinationDomainSha256 (env.armCall handle) d).2 := rfl
  rw [hstate]
  rw [happlied] at harm
  rcases arm_eq_ok harm with ⟨-, -, row, hrow, -, hauth, -, hmarked⟩ | ⟨hfalse, -⟩
  · have hfound : (armDelivery S coordinationDomainSha256 (env.armCall handle) d).2.row
        env.leaseId.text = some (row.withState S .deliveryArmed) := by
      rw [hmarked, Domain.row_mark hu]
      change (if env.leaseId.text = handle.leaseId then _ else _) = _
      change d.row handle.leaseId = some row at hrow
      rw [h.leaseId] at hrow ⊢
      rw [if_pos rfl, hrow, Option.map_some]
    refine ⟨⟨h.leaseId, h.token, ?_⟩, _, ⟨hfound, ?_⟩, rfl⟩
    · intro row' hrow'
      rw [h.leaseId, hfound] at hrow'
      cases hrow'
      exact hauth
    · rw [← h.token]
      exact hauth.1
  · cases hfalse

variable (coordinationDomainSha256) in
theorem held_of_armed {handle : LeaseHandle} (h : env.Owner handle d)
    (hu : Table.UniqueKeys LeaseRow.leaseId d.rows) {row : LeaseRow} (hrow : env.Holds d row)
    (harmed : row.state = .deliveryArmed) :
    ∃ row', env.Holds ((domainLedger S coordinationDomainSha256).exec d env.beforeRelease)
      row' ∧ row'.state ≠ .reserved := by
  have howner := h.exec env coordinationDomainSha256 hu env.unrelatedRelease
  rcases @armed_until_response _ PreviewEvaluation S coordinationDomainSha256 _ _ _ hu
    hrow.found (by rw [harmed]; decide) env.beforeRelease with
    ⟨row', hrow', hstate⟩ | ⟨before, release, after, row', hcalls, hrow', -, -, hauth, -⟩
  · refine ⟨row', ⟨hrow', ?_⟩, hstate⟩
    rw [← howner.token]
    exact (howner.owned row' (by rw [howner.leaseId]; exact hrow')).1
  · exfalso
    have hbefore : ∀ call ∈ before, Unrelated S env.leaseId env.token call := fun call hmem =>
      env.unrelatedRelease call (by rw [hcalls]; exact List.mem_append_left _ hmem)
    have howner' := h.exec env coordinationDomainSha256 hu hbefore
    have hforeign : Unrelated S env.leaseId env.token (.release release) :=
      env.unrelatedRelease _ (by rw [hcalls]; simp)
    have htoken := (howner'.owned row' (by rw [howner'.leaseId]; exact hrow')).1
    rw [howner'.token] at htoken
    exact hforeign (hauth.1.symm.trans htoken)

variable (coordinationDomainSha256) in
theorem held_of_doubt {handle : LeaseHandle} (h : env.Owner handle d)
    (hu : Table.UniqueKeys LeaseRow.leaseId d.rows) {row : LeaseRow} (hrow : env.Holds d row)
    (hstate : row.state ≠ .reserved) : ∃ row', env.Holds
        (releaseIn S coordinationDomainSha256 env handle .attemptedUnknown d).2 row' ∧
      (row'.state = .unknownBlocking ∨ row'.state = .deliveryArmed ∧
        ∃ e, (releaseIn S coordinationDomainSha256 env handle .attemptedUnknown d).1 =
          .error e) := by
  have hfound : d.row handle.leaseId = some row := by rw [h.leaseId]; exact hrow.found
  generalize hcall : env.releaseCall handle .attemptedUnknown = call
  have hworld : (releaseIn S coordinationDomainSha256 env handle .attemptedUnknown d).2 =
      (release S coordinationDomainSha256 call d).2 := by rw [← hcall]; rfl
  have hsettled : ∀ {s d'}, Settled S call.handle call.deliveryStatus d s d' →
      ∃ row', env.Holds d' row' ∧ row'.state = .unknownBlocking := by
    intro s d' hsettled
    subst hcall
    cases hsettled with
    | absent hnone => rw [show d.row handle.leaseId = none from hnone] at hfound; cases hfound
    | quarantined hnone =>
      rw [show d.row handle.leaseId = none from hnone] at hfound
      cases hfound
    | foreign row' hrow' hother => exact absurd (h.owned row' hrow') hother
    | fenced =>
      have hmarked : (d.mark S handle.leaseId .unknownBlocking).row env.leaseId.text =
          some (row.withState S .unknownBlocking) := by
        rw [Domain.row_mark hu, h.leaseId, if_pos rfl, hrow.found, Option.map_some]
      exact ⟨_, ⟨hmarked, hrow.token⟩, rfl⟩
    | fencedAgain row' hrow' _ _ hblocked =>
      have hsame : row' = row := Option.some.inj (hrow'.symm.trans hfound)
      exact ⟨row, hrow, hsame ▸ hblocked⟩
    | sticky _ _ _ hknown => exact absurd rfl hknown
    | released _ _ _ hsettles =>
      rcases hsettles with ⟨-, hstatus⟩ | ⟨-, hstatus⟩ <;> cases hstatus
    | mismatch _ _ _ hknown => exact absurd rfl hknown
  have hrows : ∀ {d₁ d₂ : Domain}, d₁.rows = d₂.rows →
      (∃ row', env.Holds d₂ row' ∧ row'.state = .unknownBlocking) →
      ∃ row', env.Holds d₁ row' ∧ row'.state = .unknownBlocking := by
    rintro d₁ d₂ hrows ⟨row', hholds, hblocked⟩
    exact ⟨row', ⟨by rw [Domain.row_congr hrows]; exact hholds.found, hholds.token⟩, hblocked⟩
  rw [hworld]
  cases hanswer : (releaseIn S coordinationDomainSha256 env handle .attemptedUnknown d).1 with
  | ok receipt =>
    rw [releaseIn_eq_ok, hcall] at hanswer
    obtain ⟨s, d', _, hsettle, hstate', -⟩ := release_eq_ok hanswer
    have hclean : (release S coordinationDomainSha256 call d).2.rows = d'.rows := by
      rw [hstate']
      exact (cleanup_rows _ _ _).1
    obtain ⟨row', hholds, hblocked⟩ := hrows hclean (hsettled (settle_eq_ok hsettle))
    exact ⟨row', hholds, .inl hblocked⟩
  | error e =>
    rcases release_state S coordinationDomainSha256 call d with
      ⟨hsame, -⟩ | ⟨s, d', hdone, hsame, -⟩
    · refine ⟨row, ⟨by rw [Domain.row_congr hsame]; exact hrow.found, hrow.token⟩, ?_⟩
      cases hcase : row.state with
      | reserved => exact absurd hcase hstate
      | deliveryArmed => exact .inr ⟨rfl, e, rfl⟩
      | unknownBlocking => exact .inl rfl
    · obtain ⟨row', hholds, hblocked⟩ := hrows hsame (hsettled hdone)
      exact ⟨row', hholds, .inl hblocked⟩

theorem row_of_deliveredOnce {delivery : DeliveryStatus} {s : Session Domain}
    {acquisition : Acquisition PreviewEvaluation} {handle : LeaseHandle}
    {transition : TransitionReceipt} {w₁ w₂ : Domain}
    (hd : (domainLedger S coordinationDomainSha256).Reachable d)
    (h : DeliveredOnce (sqliteStore S coordinationDomainSha256 env) evaluator delivery d s
      acquisition handle transition w₁ w₂) :
    (∃ row, env.Holds w₂ row ∧ row.state = .deliveryArmed) ∧
      (delivery = .attemptedUnknown → ∃ row, env.Holds s.world row ∧
        (row.state = .unknownBlocking ∨ row.state = .deliveryArmed ∧
          ∃ e, .settled .attemptedUnknown (.error e) s.world ∈ s.trace)) := by
  have hacquiring := hd.exec env.beforeAcquire
  have howner : env.Owner handle w₁ := by
    rw [← h.admitted]
    exact owner_of_acquired env h.admission h.handed h.acquired
  have hreach₁ : (domainLedger S coordinationDomainSha256).Reachable w₁ := by
    rw [← h.admitted]
    exact hacquiring.next (.acquire (env.acquireCall evaluator))
  have hreach₂ := hreach₁.exec env.beforeArm
  have howner₂ := howner.exec env coordinationDomainSha256 (uniqueKeys_of_reachable hreach₁)
    env.unrelatedArm
  have harming : (armIn S coordinationDomainSha256 env handle
      ((domainLedger S coordinationDomainSha256).exec w₁ env.beforeArm)) =
        (.ok transition, w₂) := h.arming
  obtain ⟨howner₃, row, hholds, harmed⟩ := armed_of_applied env howner₂
    (uniqueKeys_of_reachable hreach₂) (congrArg Prod.fst harming) h.applied
  rw [harming] at howner₃ hholds
  have hreach₃ : (domainLedger S coordinationDomainSha256).Reachable w₂ := by
    rw [show w₂ = (domainLedger S coordinationDomainSha256).next
      ((domainLedger S coordinationDomainSha256).exec w₁ env.beforeArm)
      (.arm (env.armCall handle)) from (congrArg Prod.snd harming).symm]
    exact hreach₂.next _
  refine ⟨⟨row, hholds, harmed⟩, ?_⟩
  rintro rfl
  have hu := uniqueKeys_of_reachable hreach₃
  obtain ⟨row', hholds', hstate⟩ := held_of_armed coordinationDomainSha256 env howner₃ hu hholds harmed
  have howner₄ := howner₃.exec env coordinationDomainSha256 hu env.unrelatedRelease
  obtain ⟨last, hlast, hcases⟩ := held_of_doubt coordinationDomainSha256 env howner₄
    (uniqueKeys_of_reachable (hreach₃.exec env.beforeRelease)) hholds' hstate
  refine ⟨last, ?_, ?_⟩
  · rw [h.settled]
    exact hlast
  · rcases hcases with hblocked | ⟨hkept, e, hanswer⟩
    · exact .inl hblocked
    · refine .inr ⟨hkept, e, ?_⟩
      have hsame : ((sqliteStore S coordinationDomainSha256 env).release handle
          .attemptedUnknown w₂).1 = .error e := hanswer
      rw [h.trace, hsame]
      simp

end Row

/-! ## The law of a run -/

/-- A delivery. -/
def Event.isInvocation {σ : Type} : Event σ → Bool
  | .invoked => true
  | _ => false

theorem mem_of_split {σ : Type} {first second last : Event σ} {before after : List (Event σ)}
    (h : [first, second, .invoked, last] = before ++ .invoked :: after)
    (hfirst : first ≠ .invoked) (hsecond : second ≠ .invoked) :
    first ∈ before ∧ second ∈ before := by
  rcases before with _ | ⟨one, _ | ⟨two, rest⟩⟩
  · exact absurd (List.cons.inj h).1 hfirst
  · exact absurd (List.cons.inj (List.cons.inj h).2).1 hsecond
  · obtain ⟨hone, hrest⟩ := List.cons.inj h
    obtain ⟨htwo, -⟩ := List.cons.inj hrest
    rw [hone, htwo]
    exact ⟨List.mem_cons_self, List.mem_cons_of_mem _ List.mem_cons_self⟩

/-- One run against the ledger, from any reachable state: it delivers at most once, and only
after its own row was armed; a delivery without a response leaves the row in the table, fenced
unless the settlement failed; and the row is gone at the end only if nothing was delivered or a
response was received. -/
theorem bound_run_fenced (rt : Runtime) (inputs : RunInputs) (script : Script) (S : Stdlib)
    (coordinationDomainSha256 : String) (env : Environment S) (earlier : List DomainCall) :
    let M := domainLedger S coordinationDomainSha256
    let run := (runBoundCell rt inputs script (sqliteStore S coordinationDomainSha256 env)
      (M.exec M.init earlier)).2
    run.trace.countP Event.isInvocation ≤ 1 ∧
    (∀ before after, run.trace = before ++ .invoked :: after → ∃ acquisition d₁ transition d₂ row,
        .acquired (.ok acquisition) d₁ ∈ before ∧ acquisition.receipt.status = .acquired ∧
        .armed (.ok transition) d₂ ∈ before ∧ transition.transitionApplied = true ∧
        d₂.row env.leaseId.text = some row ∧ row.tokenSha256 = S.sha256 env.token.bytes ∧
        row.state = .deliveryArmed) ∧
    (.invoked ∈ run.trace → ¬ Responded script.invoke →
      ∃ row, run.world.row env.leaseId.text = some row ∧
        row.tokenSha256 = S.sha256 env.token.bytes ∧
        (row.state = .unknownBlocking ∨ row.state = .deliveryArmed ∧
          ∃ e, .settled .attemptedUnknown (.error e) run.world ∈ run.trace)) ∧
    (run.world.row env.leaseId.text = none → .invoked ∉ run.trace ∨ Responded script.invoke) := by
  intro M run
  have hstart : M.Reachable (M.exec M.init earlier) := ⟨earlier, rfl⟩
  have hquiet : run.Quiet ∨ ∃ evaluator acquisition handle transition w₁ w₂,
      DeliveredOnce (sqliteStore S coordinationDomainSha256 env) evaluator
        (deliver script.invoke).status (M.exec M.init earlier) run acquisition handle
        transition w₁ w₂ := by
    rcases runBoundCell_session rt inputs script (sqliteStore S coordinationDomainSha256 env)
      (M.exec M.init earlier) with hsession | ⟨p, target, pre, hsession⟩
    · exact .inl (by rw [show run = _ from hsession]; exact List.not_mem_nil)
    · rw [show run = _ from hsession]
      rcases boundRun_trace rt inputs script (sqliteStore S coordinationDomainSha256 env) p
        target pre (M.exec M.init earlier) with hnever | ⟨a, handle, t, w₁, w₂, honce⟩
      · exact .inl hnever
      · exact .inr ⟨_, a, handle, t, w₁, w₂, honce⟩
  rcases hquiet with hquiet | ⟨evaluator, acquisition, handle, transition, w₁, w₂, honce⟩
  · have hnone : ∀ event ∈ run.trace, ¬ event.isInvocation = true := by
      intro event hmem hevent
      cases event with
      | invoked => exact hquiet hmem
      | _ => cases hevent
    refine ⟨by rw [List.countP_eq_zero.mpr hnone]; exact Nat.zero_le _, ?_, ?_, ?_⟩
    · intro before after htrace
      exact absurd (by rw [htrace]; simp) hquiet
    · exact fun hmem => absurd hmem hquiet
    · exact fun _ => .inl hquiet
  · obtain ⟨⟨row, hrow, harmed⟩, hdoubt⟩ := row_of_deliveredOnce env hstart honce
    have hkept : ¬ Responded script.invoke → ∃ row, run.world.row env.leaseId.text = some row ∧
        row.tokenSha256 = S.sha256 env.token.bytes ∧
        (row.state = .unknownBlocking ∨ row.state = .deliveryArmed ∧
          ∃ e, .settled .attemptedUnknown (.error e) run.world ∈ run.trace) := by
      intro hresponded
      have hstatus : (deliver script.invoke).status = .attemptedUnknown := by
        rw [← responseReceived_iff] at hresponded
        exact if_neg hresponded
      obtain ⟨last, hlast, hcases⟩ := hdoubt hstatus
      exact ⟨last, hlast.found, hlast.token, hcases⟩
    refine ⟨by rw [honce.trace]; exact Nat.le_refl 1, ?_, fun _ => hkept, ?_⟩
    · intro before after htrace
      rw [honce.trace] at htrace
      obtain ⟨hacquired, harming⟩ := mem_of_split htrace nofun nofun
      exact ⟨acquisition, w₁, transition, w₂, row, hacquired, honce.acquired, harming,
        honce.applied, hrow.found, hrow.token, harmed⟩
    · intro hgone
      by_cases hresponded : Responded script.invoke
      · exact .inr hresponded
      · obtain ⟨last, hlast, -⟩ := hkept hresponded
        rw [hgone] at hlast
        cases hlast

end LocalMoe.BoundCell
