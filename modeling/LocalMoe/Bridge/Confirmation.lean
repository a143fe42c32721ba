/-
  Confirmation tickets are one-shot.
-/
import LocalMoe.Bridge.Ledger
import LocalMoe.Contracts.Sha256

namespace LocalMoe.Bridge

open Foundation Contracts

/-! ## Pruning -/

theorem pruneConfirmations_eq_ok {confirmations kept : List Confirmation}
    {now retentionSeconds : ℚ} {maxEntries requiredCapacity : Nat}
    (hu : Table.UniqueKeys Confirmation.tokenSha256 confirmations)
    (h : pruneConfirmations confirmations now retentionSeconds maxEntries requiredCapacity =
      .ok kept) : kept.Sublist confirmations ∧
      (∀ c ∈ confirmations, ¬ c.Terminal now → c ∈ kept) ∧
      kept.length + requiredCapacity ≤ maxEntries := by
  simp only [pruneConfirmations, bind_eq_ok, check_eq_ok, pure_eq_ok_iff] at h
  obtain ⟨_, -, _, hroom, rfl⟩ := h
  refine ⟨List.filter_sublist.trans List.filter_sublist, ?_, hroom⟩
  intro c hc hlive
  have hfirst : c ∈ confirmations.filter fun c =>
      ¬ (c.Terminal now ∧ c.terminalAt < now - retentionSeconds) :=
    List.mem_filter.mpr ⟨hc, by simp [hlive]⟩
  refine List.mem_filter.mpr ⟨hfirst, ?_⟩
  rw [decide_eq_true_eq, List.mem_map]
  rintro ⟨other, hother, hkey⟩
  have hterminal := List.mem_filter.mp
    ((List.perm_insertionSort _ _).mem_iff.mp (List.mem_of_mem_take hother))
  have hmem := List.mem_of_mem_filter hterminal.1
  have hsame : other = c := by
    have hfound := Table.lookup_eq_some_of_mem hu hmem
    rw [hkey, Table.lookup_eq_some_of_mem hu hc] at hfound
    exact (Option.some.inj hfound).symm
  exact hlive (hsame ▸ of_decide_eq_true hterminal.2)

/-! ## What an operation does to the table -/

/-- The entry under a digest. -/
def LedgerState.confirmation (s : LedgerState) (tokenSha256 : String) : Option Confirmation :=
  Table.lookup Confirmation.tokenSha256 s.confirmations tokenSha256

inductive TableEffect (S : Stdlib) (s : LedgerState) : Call → List Confirmation → Prop where
  | kept (call : Call) : TableEffect S s call s.confirmations
  /-- A ticket was issued into a pruned table. -/
  | issued (call : IssueCall) (t : ℚ) (kept : List Confirmation) (time : call.now = .seconds t)
      (pruned : pruneConfirmations s.confirmations t call.config.confirmationRetentionSeconds
        call.config.maxConfirmationEntries 1 = .ok kept) :
      TableEffect S s (.issueConfirmation call)
        (Table.put Confirmation.tokenSha256 kept (call.entry S t))
  /-- A ticket was consumed. -/
  | consumed (call : ConsumeCall) (t : ℚ) (raw : Confirmation) (time : call.now = .seconds t)
      (found : s.confirmation (sha256Text S call.token) = some raw)
      (binding : raw.bindingSha256 = call.bindingSha256) (fresh : raw.consumedAt = none)
      (issued : raw.issuedAt ≤ t) (live : t ≤ raw.expiresAt) :
      TableEffect S s (.consumeConfirmation call)
        (Table.update Confirmation.tokenSha256 s.confirmations (sha256Text S call.token)
          fun c => { c with consumedAt := some t })

section Effects

variable {S : Stdlib} {s : LedgerState}

theorem issueConfirmation_effect (call : IssueCall) :
    ((issueConfirmation S call s).2 = s ∧ ∃ e, (issueConfirmation S call s).1 = .error e) ∨
      ∃ t kept, call.now = .seconds t ∧
        pruneConfirmations s.confirmations t call.config.confirmationRetentionSeconds
          call.config.maxConfirmationEntries 1 = .ok kept ∧
        (issueConfirmation S call s).2.confirmations =
          Table.put Confirmation.tokenSha256 kept (call.entry S t) := by
  unfold issueConfirmation
  split
  · exact .inl ⟨rfl, _, rfl⟩
  · rcases lockedState_cases call.toSurroundings "Confirmation issue time" s _ with
      hsame | ⟨t, a, hnow, -, hbody, -⟩
    · exact .inl hsame
    · simp only [bind_eq_ok, pure_eq_ok_iff] at hbody
      obtain ⟨kept, hpruned, hbody⟩ := hbody
      refine .inr ⟨t, kept, hnow, hpruned, ?_⟩
      exact congrArg LedgerState.confirmations (Prod.mk.inj hbody).2.symm

theorem consumeConfirmation_effect (call : ConsumeCall) : ((consumeConfirmation S call s).2 = s ∧
        ∃ e, (consumeConfirmation S call s).1 = .error e) ∨
      ∃ t raw, call.now = .seconds t ∧
        s.confirmation (sha256Text S call.token) = some raw ∧
        raw.bindingSha256 = call.bindingSha256 ∧ raw.consumedAt = none ∧
        raw.issuedAt ≤ t ∧ t ≤ raw.expiresAt ∧
        (consumeConfirmation S call s).2.confirmations =
          Table.update Confirmation.tokenSha256 s.confirmations (sha256Text S call.token)
            (fun c => { c with consumedAt := some t }) ∧
        ∀ tx, (consumeConfirmation S call s).1 = .ok tx → tx = raw.transactionId := by
  unfold consumeConfirmation
  split
  · exact .inl ⟨rfl, _, rfl⟩
  · rcases lockedState_outcome call.toSurroundings "Confirmation consume time" s _ with
      hsame | ⟨t, a, s', hnow, hbody, hs', hanswer⟩
    · exact .inl hsame
    · dsimp only at hbody
      split at hbody
      · cases hbody
      · rename_i raw hfound
        simp only [bind_eq_ok, check_eq_ok, pure_eq_ok_iff] at hbody
        obtain ⟨_, -, _, hbinding, _, hfresh, _, hissued, _, hlive, hbody⟩ := hbody
        obtain ⟨hvalue, hstate⟩ := Prod.mk.inj hbody
        refine .inr ⟨t, raw, hnow, hfound, hbinding, hfresh, hissued, hlive,
          congrArg LedgerState.confirmations (hs'.trans hstate.symm), ?_⟩
        intro tx htx
        rcases hanswer with hok | ⟨e, herror⟩
        · rw [hok] at htx
          rw [← Except.ok.inj htx, hvalue]
        · rw [herror] at htx
          cases htx

theorem budget_confirmations (S : Stdlib) (s : LedgerState) :
    (∀ call, (reserveBudget S call s).2.confirmations = s.confirmations) ∧
      (∀ call, (commitBudget S call s).2.confirmations = s.confirmations) ∧
      (∀ call, (releaseBudgetAfterPopenFailure S call s).2.confirmations = s.confirmations) ∧
      ∀ call, (consumeBudget call s).2.confirmations = s.confirmations := by
  refine ⟨fun call => ?_, fun call => ?_, fun call => ?_, fun call => ?_⟩
  · unfold reserveBudget
    split
    · rfl
    split
    · rfl
    split
    · rfl
    refine lockedState_keeps LedgerState.confirmations fun t a s' hbody => ?_
    simp only [bind_eq_ok] at hbody
    obtain ⟨_, -, _, -, _, -, _, -, hbody⟩ := hbody
    split at hbody <;> cases hbody <;> rfl
  · unfold commitBudget
    split
    · rfl
    refine lockedState_keeps LedgerState.confirmations fun t a s' hbody => ?_
    obtain ⟨_, -, hbody⟩ := bind_eq_ok.mp hbody
    dsimp only at hbody
    split at hbody <;> cases hbody <;> rfl
  · unfold releaseBudgetAfterPopenFailure
    split
    · rfl
    refine lockedState_keeps LedgerState.confirmations fun t a s' hbody => ?_
    obtain ⟨_, -, hbody⟩ := bind_eq_ok.mp hbody
    dsimp only at hbody
    split at hbody
    · cases hbody
      rfl
    · split at hbody <;> cases hbody <;> rfl
  · unfold consumeBudget
    split
    · rfl
    split
    · rfl
    refine lockedState_keeps LedgerState.confirmations fun t a s' hbody => ?_
    simp only [bind_eq_ok] at hbody
    obtain ⟨_, -, _, -, hbody⟩ := hbody
    split at hbody
    · cases hbody
      rfl
    · obtain ⟨_, -, hbody⟩ := bind_eq_ok.mp hbody
      cases hbody
      rfl

theorem tableEffect (S : Stdlib) (s : LedgerState) (call : Call) :
    TableEffect S s call ((ledger S).next s call).confirmations := by
  have hkept : ∀ {confirmations}, confirmations = s.confirmations →
      TableEffect S s call confirmations := by
    rintro _ rfl
    exact .kept call
  obtain ⟨hreserve, hcommit, hrelease, hconsume⟩ := budget_confirmations S s
  cases call with
  | issueConfirmation call =>
    change TableEffect S s _ (issueConfirmation S call s).2.confirmations
    rcases issueConfirmation_effect (S := S) (s := s) call with
      ⟨hsame, -⟩ | ⟨t, kept, hnow, hpruned, hstate⟩
    · exact hkept (congrArg LedgerState.confirmations hsame)
    · rw [hstate]
      exact .issued call t kept hnow hpruned
  | consumeConfirmation call =>
    change TableEffect S s _ (consumeConfirmation S call s).2.confirmations
    rcases consumeConfirmation_effect (S := S) (s := s) call with
      ⟨hsame, -⟩ | ⟨t, raw, hnow, hfound, hbinding, hfresh, hissued, hlive, hstate, -⟩
    · exact hkept (congrArg LedgerState.confirmations hsame)
    · rw [hstate]
      exact .consumed call t raw hnow hfound hbinding hfresh hissued hlive
  | reserveBudget call => exact hkept (hreserve call)
  | commitBudget call => exact hkept (hcommit call)
  | releaseBudget call => exact hkept (hrelease call)
  | consumeBudget call => exact hkept (hconsume call)

end Effects

/-! ## Runs -/

def Call.issuedToken : Call → Option String
  | .issueConfirmation call => some (confirmationToken call.token)
  | _ => none

/-- The tokens a call draws or presents. -/
def Call.token : Call → Option String
  | .issueConfirmation call => some (confirmationToken call.token)
  | .consumeConfirmation call => some call.token
  | _ => none

theorem Call.token_of_issuedToken {call : Call} {token : String}
    (h : call.issuedToken = some token) : call.token = some token := by
  cases call with
  | issueConfirmation call => exact h
  | consumeConfirmation call | reserveBudget call | commitBudget call | releaseBudget call
  | consumeBudget call => cases h

/-- Digests tell the tokens of these calls apart. -/
def Distinguishes (S : Stdlib) (calls : List Call) : Prop :=
  ∀ a ∈ calls.filterMap Call.token, ∀ b ∈ calls.filterMap Call.token,
    sha256Text S a = sha256Text S b → a = b

/-- The entry is what this call issued, but for its consumption. -/
def Confirmation.IssuedBy (S : Stdlib) (c : Confirmation) (call : IssueCall) : Prop :=
  ∃ t, call.now = .seconds t ∧ c = { call.entry S t with consumedAt := c.consumedAt }

/-- One entry a digest, each from a call of the past. -/
structure Traced (S : Stdlib) (past : List Call) (s : LedgerState) : Prop where
  keys : Table.UniqueKeys Confirmation.tokenSha256 s.confirmations
  origin : ∀ c ∈ s.confirmations, ∃ call,
    Call.issueConfirmation call ∈ past ∧ c.IssuedBy S call

section Runs

variable {S : Stdlib}

theorem Confirmation.IssuedBy.consume {c : Confirmation} {call : IssueCall}
    (h : c.IssuedBy S call) (consumedAt : Option ℚ) :
    ({ c with consumedAt := consumedAt } : Confirmation).IssuedBy S call := by
  obtain ⟨t, hnow, hc⟩ := h
  refine ⟨t, hnow, ?_⟩
  rw [hc]

variable {past : List Call}

theorem Traced.step {s : LedgerState} (h : Traced S past s) (call : Call) :
    Traced S (past ++ [call]) ((ledger S).next s call) := by
  have hold : ∀ c ∈ s.confirmations, ∃ issue,
      Call.issueConfirmation issue ∈ past ++ [call] ∧ c.IssuedBy S issue := by
    intro c hc
    obtain ⟨issue, hpast, hissued⟩ := h.origin c hc
    exact ⟨issue, List.mem_append_left _ hpast, hissued⟩
  have heffect := tableEffect S s call
  generalize ((ledger S).next s call) = s' at heffect ⊢
  obtain ⟨budgets, confirmations⟩ := s'
  change TableEffect S s call confirmations at heffect
  cases heffect with
  | kept => exact ⟨h.keys, hold⟩
  | issued issue t kept htime hpruned =>
    obtain ⟨hsub, -, -⟩ := pruneConfirmations_eq_ok h.keys hpruned
    have hkeys : Table.UniqueKeys Confirmation.tokenSha256 kept := (hsub.map _).nodup h.keys
    refine ⟨hkeys.put _, fun c hc => ?_⟩
    rcases Table.mem_put hkeys hc with rfl | hkept
    · exact ⟨issue, List.mem_append_right _ (List.mem_singleton_self _), t, htime, rfl⟩
    · exact hold c (hsub.subset hkept)
  | consumed consume t raw htime hfound hbinding hfresh hissued hlive =>
    refine ⟨h.keys.update _ fun _ => rfl, fun c hc => ?_⟩
    obtain ⟨old, hmem, rfl⟩ := List.mem_map.mp hc
    obtain ⟨issue, hpast, hby⟩ := hold old hmem
    refine ⟨issue, hpast, ?_⟩
    split
    · exact hby.consume _
    · exact hby

theorem traced (calls : List Call) : Traced S calls ((ledger S).exec .empty calls) := by
  induction calls using List.reverseRecOn with
  | nil => exact ⟨List.nodup_nil, nofun⟩
  | append_singleton past call ih =>
    rw [Machine.exec_concat]
    exact ih.step call

/-- The digest has no entry that could still be consumed. -/
def LedgerState.Spent (tokenSha256 : String) (s : LedgerState) : Prop :=
  ∀ c, s.confirmation tokenSha256 = some c → c.consumedAt ≠ none

theorem LedgerState.Spent.step {s : LedgerState} (h : Traced S past s) {d : String}
    (hspent : s.Spent d) {call : Call}
    (hnew : ∀ token, call.issuedToken = some token → sha256Text S token ≠ d) :
    ((ledger S).next s call).Spent d := by
  have heffect := tableEffect S s call
  generalize ((ledger S).next s call) = s' at heffect ⊢
  obtain ⟨budgets, confirmations⟩ := s'
  change TableEffect S s call confirmations at heffect
  intro c hc
  change Table.lookup Confirmation.tokenSha256 confirmations d = some c at hc
  cases heffect with
  | kept => exact hspent c hc
  | issued issue t kept htime hpruned =>
    obtain ⟨hsub, -, -⟩ := pruneConfirmations_eq_ok h.keys hpruned
    have hkeys : Table.UniqueKeys Confirmation.tokenSha256 kept := (hsub.map _).nodup h.keys
    have hother : (issue.entry S t).tokenSha256 ≠ d := hnew _ rfl
    rw [Table.lookup_put hkeys, if_neg hother] at hc
    obtain ⟨hmem, hkey⟩ := Table.mem_of_lookup hc
    exact hspent c ((Table.lookup_eq_some_iff h.keys).mpr ⟨hsub.subset hmem, hkey⟩)
  | consumed consume t raw htime hfound hbinding hfresh hissued hlive =>
    rw [Table.lookup_update h.keys] at hc
    · split at hc
      · obtain ⟨old, -, rfl⟩ := Option.map_eq_some_iff.mp hc
        exact Option.some_ne_none t
      · exact hspent c hc
    · exact fun _ => rfl

theorem LedgerState.Spent.exec {d : String} (rest : List Call)
    (hspent : ((ledger S).exec .empty past).Spent d)
    (hnew : ∀ call ∈ rest, ∀ token, call.issuedToken = some token → sha256Text S token ≠ d) :
    ((ledger S).exec .empty (past ++ rest)).Spent d := by
  induction rest using List.reverseRecOn with
  | nil =>
    rw [List.append_nil]
    exact hspent
  | append_singleton rest call ih =>
    rw [← List.append_assoc, Machine.exec_concat]
    refine (ih fun c hc => hnew c (List.mem_append_left _ hc)).step (traced _) ?_
    exact hnew call (List.mem_append_right _ (List.mem_singleton_self _))

theorem spent_of_consumed {s : LedgerState} (h : Traced S past s) {call : ConsumeCall}
    {tx : String} (hok : (consumeConfirmation S call s).1 = .ok tx) :
    ((ledger S).next s (.consumeConfirmation call)).Spent (sha256Text S call.token) := by
  change (consumeConfirmation S call s).2.Spent _
  rcases consumeConfirmation_effect (S := S) (s := s) call with
    ⟨-, e, herror⟩ | ⟨t, raw, -, hfound, -, -, -, -, hstate, -⟩
  · rw [hok] at herror
    cases herror
  · intro c hc
    change Table.lookup Confirmation.tokenSha256 _ _ = some c at hc
    rw [hstate, Table.lookup_update h.keys, if_pos rfl] at hc
    · obtain ⟨old, -, rfl⟩ := Option.map_eq_some_iff.mp hc
      exact Option.some_ne_none t
    · exact fun _ => rfl

variable {before after : List Call}

theorem ne_of_distinct {a b : Call} {x y : String}
    (hdistinct : ((before ++ after).filterMap Call.issuedToken).Nodup) (ha : a ∈ before)
    (hx : a.issuedToken = some x) (hb : b ∈ after) (hy : b.issuedToken = some y) : x ≠ y := by
  rw [List.filterMap_append] at hdistinct
  have hdisjoint := (List.nodup_append.mp hdistinct).2.2
  exact hdisjoint x (List.mem_filterMap.mpr ⟨a, ha, hx⟩) y (List.mem_filterMap.mpr ⟨b, hb, hy⟩)

/-! ## One-shot tickets -/

theorem issued_of_consumed {consume : ConsumeCall} {tx : String}
    (hdigests : Distinguishes S (before ++ .consumeConfirmation consume :: after))
    (hok : (consumeConfirmation S consume ((ledger S).exec .empty before)).1 = .ok tx) :
    ∃ issue t₀ t, Call.issueConfirmation issue ∈ before ∧
      confirmationToken issue.token = consume.token ∧
      issue.bindingSha256 = consume.bindingSha256 ∧ issue.transactionId.val = tx ∧
      issue.now = .seconds t₀ ∧ consume.now = .seconds t ∧
      t₀ ≤ t ∧ t ≤ t₀ + issue.ttlSeconds := by
  rcases consumeConfirmation_effect (S := S) (s := (ledger S).exec .empty before) consume with
    ⟨-, e, herror⟩ | ⟨t, raw, hnow, hfound, hbinding, -, hissued, hlive, -, hanswer⟩
  · rw [hok] at herror
    cases herror
  · obtain ⟨hmem, hkey⟩ := Table.mem_of_lookup hfound
    obtain ⟨issue, hbefore, t₀, htime, hraw⟩ := (traced before).origin raw hmem
    rw [hraw] at hkey hbinding hissued hlive
    have hdrawn : confirmationToken issue.token ∈
        (before ++ .consumeConfirmation consume :: after).filterMap Call.token :=
      List.mem_filterMap.mpr ⟨_, List.mem_append_left _ hbefore, rfl⟩
    have hpresented : consume.token ∈
        (before ++ .consumeConfirmation consume :: after).filterMap Call.token :=
      List.mem_filterMap.mpr ⟨_, List.mem_append_right _ (List.mem_cons_self ..), rfl⟩
    have htx := hanswer tx hok
    rw [hraw] at htx
    exact ⟨issue, t₀, t, hbefore, hdigests _ hdrawn _ hpresented hkey, hbinding, htx.symm,
      htime, hnow, hissued, hlive⟩

theorem consumed_again {mid rest : List Call} {consume again : ConsumeCall} {tx : String}
    (hdistinct : ((before ++ .consumeConfirmation consume ::
      (mid ++ .consumeConfirmation again :: rest)).filterMap Call.issuedToken).Nodup)
    (hdigests : Distinguishes S
      (before ++ .consumeConfirmation consume :: (mid ++ .consumeConfirmation again :: rest)))
    (hok : (consumeConfirmation S consume ((ledger S).exec .empty before)).1 = .ok tx)
    (hsame : again.token = consume.token) :
    ∃ e, (consumeConfirmation S again ((ledger S).exec .empty
      (before ++ .consumeConfirmation consume :: mid))).1 = .error e := by
  obtain ⟨issue, -, -, hissue, htoken, -⟩ := issued_of_consumed hdigests hok
  have hspent := spent_of_consumed (traced before) hok
  rw [← Machine.exec_concat] at hspent
  have hlater := hspent.exec mid ?_
  · rw [List.append_assoc, List.singleton_append] at hlater
    rcases consumeConfirmation_effect (S := S) (s := (ledger S).exec .empty
        (before ++ .consumeConfirmation consume :: mid)) again with
      ⟨-, herror⟩ | ⟨t, raw, -, hfound, -, hfresh, -⟩
    · exact herror
    · rw [hsame] at hfound
      exact absurd hfresh (hlater raw hfound)
  · intro call hcall token hdrawn hdigest
    have hne := ne_of_distinct hdistinct hissue rfl
      (List.mem_cons_of_mem _ (List.mem_append_left _ hcall)) hdrawn
    have hmem : ∀ c ∈ mid, c ∈ before ++ .consumeConfirmation consume ::
        (mid ++ .consumeConfirmation again :: rest) := fun c hc =>
      List.mem_append_right _ (List.mem_cons_of_mem _ (List.mem_append_left _ hc))
    refine hne (htoken.trans (hdigests _ ?_ _ ?_ hdigest.symm))
    · exact List.mem_filterMap.mpr ⟨_, List.mem_append_right _ (List.mem_cons_self ..), rfl⟩
    · exact List.mem_filterMap.mpr ⟨call, hmem call hcall, Call.token_of_issuedToken hdrawn⟩

theorem issue_keeps_live {issue : IssueCall}
    (hdistinct : ((before ++ .issueConfirmation issue :: after).filterMap Call.issuedToken).Nodup)
    (hdigests : Distinguishes S (before ++ .issueConfirmation issue :: after))
    {s s' : LedgerState} (hs : s = (ledger S).exec .empty before)
    (hs' : s' = (issueConfirmation S issue s).2) :
    (s' = s ∧ ∃ e, (issueConfirmation S issue s).1 = .error e) ∨
      ∃ t, issue.now = .seconds t ∧
        s'.confirmations.length ≤ issue.config.maxConfirmationEntries ∧
        ∀ c ∈ s.confirmations, c ∉ s'.confirmations → c.Terminal t := by
  have htraced : Traced S before s := hs ▸ traced before
  rcases issueConfirmation_effect (S := S) (s := s) issue with
    ⟨hsame, herror⟩ | ⟨t, kept, hnow, hpruned, hstate⟩
  · exact .inl ⟨hs'.trans hsame, herror⟩
  · refine .inr ⟨t, hnow, ?_, ?_⟩
    · obtain ⟨-, -, hroom⟩ := pruneConfirmations_eq_ok htraced.keys hpruned
      rw [hs', hstate]
      exact (Table.length_put_le _ _).trans hroom
    · intro c hc hgone
      obtain ⟨hsub, hlive, -⟩ := pruneConfirmations_eq_ok htraced.keys hpruned
      by_contra hnot
      refine hgone ?_
      rw [hs', hstate]
      refine Table.mem_put_of_ne ((hsub.map _).nodup htraced.keys) (hlive c hc hnot) ?_
      obtain ⟨other, hother, t₀, -, horigin⟩ := htraced.origin c hc
      rw [horigin]
      intro hdigest
      refine ne_of_distinct hdistinct hother rfl (List.mem_cons_self ..) rfl ?_
      refine (hdigests _ ?_ _ ?_ hdigest).symm
      · exact List.mem_filterMap.mpr ⟨_, List.mem_append_right _ (List.mem_cons_self ..), rfl⟩
      · exact List.mem_filterMap.mpr ⟨_, List.mem_append_left _ hother, rfl⟩

end Runs

/-- In every run, whatever the clocks show and pruning does: a token is consumed at most
once, with the binding it was issued for and inside its window, and no issue call removes a
ticket that can still be consumed. -/
theorem confirmation_one_shot (S : Stdlib) (calls : List Call)
    (hdistinct : (calls.filterMap Call.issuedToken).Nodup) (hdigests : Distinguishes S calls) :
    (∀ before consume after tx, calls = before ++ .consumeConfirmation consume :: after →
      (consumeConfirmation S consume ((ledger S).exec .empty before)).1 = .ok tx →
      (∃ issue t₀ t, Call.issueConfirmation issue ∈ before ∧
        confirmationToken issue.token = consume.token ∧
        issue.bindingSha256 = consume.bindingSha256 ∧ issue.transactionId.val = tx ∧
        issue.now = .seconds t₀ ∧ consume.now = .seconds t ∧
        t₀ ≤ t ∧ t ≤ t₀ + issue.ttlSeconds) ∧
      ∀ mid again rest, after = mid ++ .consumeConfirmation again :: rest →
        again.token = consume.token → ∃ e, (consumeConfirmation S again ((ledger S).exec .empty
          (before ++ .consumeConfirmation consume :: mid))).1 = .error e) ∧
    ∀ before issue after, calls = before ++ .issueConfirmation issue :: after →
      ∀ s s', s = (ledger S).exec .empty before → s' = (issueConfirmation S issue s).2 →
      (s' = s ∧ ∃ e, (issueConfirmation S issue s).1 = .error e) ∨
      ∃ t, issue.now = .seconds t ∧
        s'.confirmations.length ≤ issue.config.maxConfirmationEntries ∧
        ∀ c ∈ s.confirmations, c ∉ s'.confirmations → c.consumedAt ≠ none ∨ c.expiresAt < t := by
  refine ⟨fun before consume after tx hcalls hok => ⟨?_, ?_⟩, ?_⟩
  · subst hcalls
    exact issued_of_consumed hdigests hok
  · rintro mid again rest rfl hsame
    subst hcalls
    exact consumed_again hdistinct hdigests hok hsame
  · intro before issue after hcalls s s' hs hs'
    subst hcalls
    exact issue_keeps_live hdistinct hdigests hs hs'

/-! ### A ticket of one second -/

def sampleConfig : LedgerConfig where
  budgetRetentionSeconds := 3600
  maxBudgetEntries := 1
  confirmationRetentionSeconds := 3600
  maxConfirmationEntries := 1
  budgetLeaseTtlSeconds := 3600
  budgetRetention := by constructor <;> norm_num
  budgetEntries := by decide
  confirmationRetention := by constructor <;> norm_num
  confirmationEntries := by decide
  budgetLeaseTtl := by constructor <;> norm_num

def sampleIssue : IssueCall where
  toSurroundings := ⟨sampleConfig, .seconds 0, .healthy⟩
  bindingSha256 := String.ofList (List.replicate 64 'a')
  ttlSeconds := 1
  token := ⟨List.replicate 43 'A', by decide⟩
  transactionId := ⟨String.ofList (List.replicate 32 'b'), by decide⟩

def sampleConsume : ConsumeCall where
  toSurroundings := ⟨sampleConfig, .seconds 1, .healthy⟩
  token := confirmationToken sampleIssue.token
  bindingSha256 := sampleIssue.bindingSha256

theorem sampleConsume_ok :
    (consumeConfirmation Stdlib.cpython sampleConsume ((ledger Stdlib.cpython).exec
      .empty [.issueConfirmation sampleIssue])).1.isOk = true := by
  decide +kernel

theorem sampleConsume_one_shot :
    (consumeConfirmation Stdlib.cpython sampleConsume ((ledger Stdlib.cpython).exec
      .empty [.issueConfirmation sampleIssue])).1.isOk = true ∧
    ∃ e, (consumeConfirmation Stdlib.cpython sampleConsume ((ledger Stdlib.cpython).exec
      .empty [.issueConfirmation sampleIssue, .consumeConfirmation sampleConsume])).1 =
        .error e := by
  refine ⟨sampleConsume_ok, ?_⟩
  obtain ⟨tx, hok⟩ := isOk_eq_true.mp sampleConsume_ok
  -- The digests stay abstract, so that nothing computes them again.
  generalize Stdlib.cpython = S at hok ⊢
  have htokens : ∀ a ∈ [Call.issueConfirmation sampleIssue, .consumeConfirmation sampleConsume,
      .consumeConfirmation sampleConsume].filterMap Call.token,
      a = confirmationToken sampleIssue.token := by
    intro a ha
    simpa [Call.token, sampleConsume] using ha
  obtain ⟨hconsumed, -⟩ := confirmation_one_shot S [.issueConfirmation sampleIssue,
    .consumeConfirmation sampleConsume, .consumeConfirmation sampleConsume]
    (List.nodup_singleton _) fun a ha b hb _ => (htokens a ha).trans (htokens b hb).symm
  obtain ⟨-, hagain⟩ := hconsumed [.issueConfirmation sampleIssue] sampleConsume _ tx rfl hok
  exact hagain [] sampleConsume [] rfl rfl

end LocalMoe.Bridge
