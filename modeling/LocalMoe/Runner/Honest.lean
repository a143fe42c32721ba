/-
  What a completed run has shown, and that no run changes its source.
-/
import LocalMoe.Foundation.Loops
import LocalMoe.Runner.Run

namespace LocalMoe.Runner

open Foundation

variable (D : ReceiptDigests) (W : World) (config : AssistantBridgeConfig)
  (task : AssistantTaskEnvelope)

/-! ## What completion promises -/

/-- The last command and the candidate it left. -/
def Executed (leg : Leg) (start : Tree) (command : CommandResult) (candidate : Tree) : Prop :=
  match leg with
  | .local => W.executeLocal start = .ok (command, candidate)
  | .premium => ∃ accounted, W.executePremium start = .ok (command, accounted, candidate)

/-- The last command completed, and on the candidate it left, which is the baseline, every
output check and every selected verifier passed. -/
def Verified (source : Tree) (result : BridgeRunResult) : Prop :=
  ∃ leg start baseline command candidate fingerprint,
    W.materialize source = .ok baseline ∧ Executed W leg start command candidate ∧
    result.commands.getLast? = some command ∧ command.status = .completed ∧
    W.attest leg candidate = .ok fingerprint ∧ buildChangeset baseline candidate = .ok [] ∧
    (∀ item ∈ config.verificationChecks, item.evaluate command.output = .ok true) ∧
    ∀ spec ∈ selectedVerifiers config task, ∃ e ∈ result.verification, e.passed = true ∧
      runBoundVerifier W task leg candidate fingerprint spec = .ok e

def isCommandVerifier (verifierId : String) : Bool :=
  config.commandVerifiers.any (·.id = verifierId)

/-- Passing evidence of a verifier that is bound to the task. -/
def IsEvidenceOf (verifierId : String) (e : VerificationEvidence) : Prop :=
  e.id = verifierId ∧ e.passed = true ∧ e.taskFingerprint = task.taskFingerprint ∧
    if isCommandVerifier config verifierId then e.kind = .command ∨ e.kind = .builtin
    else e.kind = .external

/-- Every required verifier has passing evidence. -/
def Promised (result : BridgeRunResult) : Prop :=
  ∀ verifierId ∈ task.requiredVerifierIds,
    ∃ e ∈ result.priorVerification ++ result.verification, IsEvidenceOf config task verifierId e

/-- Every required verifier that is no command has passing evidence among the evidence that
the caller brings. -/
def Attested (external : List VerificationEvidence) : Prop :=
  ∀ verifierId ∈ task.requiredVerifierIds, isCommandVerifier config verifierId = true ∨
    ∃ e ∈ external, e.id = verifierId ∧ e.passed = true

/-- What a completed run is to have shown. -/
structure Honest (source : Tree) (result : BridgeRunResult) : Prop where
  verified : Verified W config task source result
  promised : Promised config task result

/-- The verification of a result is that of a candidate, and it carries a failing item for a
writing task, and for any other one with changes. -/
def Carries (result : BridgeRunResult) : Prop :=
  ∃ leg baseline candidate command plans changes,
    verifyCandidate W config task leg baseline candidate command plans true =
      .ok (result.verification, changes) ∧
    (task.capabilityDemand.riskClass = .writeLocal →
      ∃ e ∈ result.verification, e.code = "two_phase_required" ∧ e.passed = false) ∧
    (task.capabilityDemand.riskClass ≠ .writeLocal → changes ≠ [] →
      ∃ e ∈ result.verification, e.code = "workspace_mutation_forbidden" ∧ e.passed = false)

/-- The capsule is not asked for inside the source workspace. -/
def CapsuleOutside (capsuleOut : Option CapsuleTarget) : Prop :=
  ∀ file, capsuleOut ≠ some (.inside file)

variable {D W config task}

/-! ## Verification of a candidate -/

variable {evidence : List VerificationEvidence}

theorem allPassed_eq_true (h : allPassed evidence = true) : ∀ e ∈ evidence, e.passed = true := by
  unfold allPassed at h
  rw [Bool.and_eq_true] at h
  exact List.all_eq_true.mp h.2

variable {fingerprint : String}

theorem allPassed_append_policy {rest : List VerificationEvidence} {id code spec : String}
    (h : allPassed (evidence ++ policyEvidence task id code fingerprint spec :: rest) = true) :
    False := by
  have := allPassed_eq_true h (policyEvidence task id code fingerprint spec)
    (List.mem_append_right _ List.mem_cons_self)
  cases this

theorem enforce_passed {count : Nat}
    (h : allPassed (enforceCompletionContract W task evidence fingerprint count true) = true) :
    task.capabilityDemand.riskClass ≠ .writeLocal ∧ count = 0 ∧
      enforceCompletionContract W task evidence fingerprint count true = evidence := by
  unfold enforceCompletionContract at h ⊢
  by_cases hchanged : task.capabilityDemand.riskClass ≠ .writeLocal ∧ count ≠ 0
  · rw [if_pos hchanged] at h
    exact (allPassed_append_policy h).elim
  · rw [if_neg hchanged] at h ⊢
    by_cases hwrite : task.capabilityDemand.riskClass = .writeLocal
    · rw [if_pos hwrite, if_pos rfl, List.append_assoc] at h
      exact (allPassed_append_policy h).elim
    · rw [if_neg hwrite]
      exact ⟨hwrite, by_contra fun hcount => hchanged ⟨hwrite, hcount⟩, rfl⟩

variable {e : VerificationEvidence}

theorem mem_enforce {count : Nat} {gate : Bool}
    (h : e ∈ enforceCompletionContract W task evidence fingerprint count gate) :
    e ∈ evidence ∨ e.kind = .policy := by
  unfold enforceCompletionContract at h
  split at h
  · rcases List.mem_append.mp h with h | h
    · exact .inl h
    · rw [List.mem_singleton.mp h]
      exact .inr rfl
  · split at h
    · rcases List.mem_append.mp h with h | h
      · rcases List.mem_append.mp h with h | h
        · exact .inl h
        · split at h
          · rw [List.mem_singleton.mp h]
            exact .inr rfl
          · cases h
      · split at h
        · rw [List.mem_singleton.mp h]
          exact .inr rfl
        · cases h
    · exact .inl h

theorem outputEvidence_eq_ok {result : CommandResult} {item : OutputCheck}
    (h : outputEvidence task result fingerprint item = .ok e) :
    item.evaluate result.output = .ok e.passed ∧ e.kind = .output := by
  obtain ⟨passed, hpassed, h⟩ := bind_eq_ok.mp h
  cases h
  exact ⟨hpassed, rfl⟩

variable {leg : Leg} {candidate : Tree}

theorem runBoundVerifier_eq_ok {spec : CommandVerifierSpec}
    (h : runBoundVerifier W task leg candidate fingerprint spec = .ok e) :
    e.id = spec.id ∧ e.taskFingerprint = task.taskFingerprint ∧
      (e.kind = .command ∨ e.kind = .builtin) := by
  obtain ⟨outcome, _, h⟩ := bind_eq_ok.mp h
  cases h
  refine ⟨rfl, rfl, ?_⟩
  cases spec.trustedGit
  · exact .inl rfl
  · exact .inr rfl

variable {command : CommandResult} {plans : List CommandVerifierSpec}

theorem verifyCommandResult_eq_ok
    (h : verifyCommandResult W config task leg command candidate fingerprint [] plans =
      .ok evidence) :
    (command.status ≠ .completed ∧ evidence = [processEvidence task command fingerprint]) ∨
      (command.status = .completed ∧ ∃ outputs verified,
        config.verificationChecks.mapM (outputEvidence task command fingerprint) = .ok outputs ∧
        plans.mapM (runBoundVerifier W task leg candidate fingerprint) = .ok verified ∧
        (evidence = outputs ++ verified ∨ ∃ spec, evidence = (outputs ++ verified) ++
          [policyEvidence task "independent-evidence" "independent_evidence_missing" fingerprint
            spec])) := by
  unfold verifyCommandResult at h
  split at h
  · rename_i hstatus
    cases h
    exact .inl ⟨hstatus, rfl⟩
  · rename_i hstatus
    obtain ⟨outputs, houtputs, h⟩ := bind_eq_ok.mp h
    obtain ⟨verified, hverified, h⟩ := bind_eq_ok.mp h
    obtain ⟨_, _, h⟩ := bind_eq_ok.mp h
    refine .inr ⟨not_not.mp hstatus, outputs, verified, houtputs, hverified, ?_⟩
    rw [pure_eq_ok_iff, List.append_nil] at h
    split at h
    · exact .inr ⟨_, h.symm⟩
    · exact .inl h.symm

variable {baseline : Tree} {verified : List VerificationEvidence × List WorkspaceChange}

theorem verifyCandidate_kind
    (h : verifyCandidate W config task leg baseline candidate command plans true = .ok verified) :
    ∀ e ∈ verified.1, e.kind ≠ .external := by
  obtain ⟨fingerprint, _, h⟩ := bind_eq_ok.mp h
  obtain ⟨changes, _, h⟩ := bind_eq_ok.mp h
  obtain ⟨evidence, hevidence, h⟩ := bind_eq_ok.mp h
  cases h
  intro e he
  rcases mem_enforce he with he | hkind
  · rw [if_pos rfl] at he
    rcases verifyCommandResult_eq_ok hevidence with ⟨_, rfl⟩ |
      ⟨_, outputs, checks, houtputs, hchecks, hsplit⟩
    · rw [List.mem_singleton.mp he]
      exact fun h => by cases h
    · have hpart : e ∈ outputs ++ checks → e.kind ≠ .external := by
        intro he
        rcases List.mem_append.mp he with he | he
        · obtain ⟨item, _, hitem⟩ := mapM_ok_right houtputs he
          rw [(outputEvidence_eq_ok hitem).2]
          exact fun h => by cases h
        · obtain ⟨spec, _, hspec⟩ := mapM_ok_right hchecks he
          rcases (runBoundVerifier_eq_ok hspec).2.2 with hkind | hkind <;> rw [hkind] <;>
            exact fun h => by cases h
      rcases hsplit with rfl | ⟨spec, rfl⟩
      · exact hpart he
      · rcases List.mem_append.mp he with he | he
        · exact hpart he
        · rw [List.mem_singleton.mp he]
          exact fun h => by cases h
  · rw [hkind]
    exact fun h => by cases h

theorem verifyCandidate_carries
    (h : verifyCandidate W config task leg baseline candidate command plans true = .ok verified) :
    (task.capabilityDemand.riskClass = .writeLocal →
      ∃ e ∈ verified.1, e.code = "two_phase_required" ∧ e.passed = false) ∧
    (task.capabilityDemand.riskClass ≠ .writeLocal → verified.2 ≠ [] →
      ∃ e ∈ verified.1, e.code = "workspace_mutation_forbidden" ∧ e.passed = false) := by
  obtain ⟨fingerprint, _, h⟩ := bind_eq_ok.mp h
  obtain ⟨changes, _, h⟩ := bind_eq_ok.mp h
  obtain ⟨evidence, _, h⟩ := bind_eq_ok.mp h
  cases h
  unfold enforceCompletionContract
  refine ⟨fun hwrite => ?_, fun hwrite hchanges => ?_⟩
  · rw [if_neg fun hchanged => hchanged.1 hwrite, if_pos hwrite, if_pos rfl]
    exact ⟨_, List.mem_append_left _ (List.mem_append_right _ (List.mem_singleton.mpr rfl)), rfl,
      rfl⟩
  · rw [if_pos ⟨hwrite, fun hlength => hchanges (List.length_eq_zero_iff.mp hlength)⟩]
    exact ⟨_, List.mem_append_right _ (List.mem_singleton.mpr rfl), rfl, rfl⟩

theorem verifyCandidate_passed
    (h : verifyCandidate W config task leg baseline candidate command plans true = .ok verified)
    (hpassed : allPassed verified.1 = true) :
    verified.2 = [] ∧ command.status = .completed ∧ buildChangeset baseline candidate = .ok [] ∧
      ∃ fingerprint, W.attest leg candidate = .ok fingerprint ∧
        (∀ item ∈ config.verificationChecks, item.evaluate command.output = .ok true) ∧
        ∀ spec ∈ plans, ∃ e ∈ verified.1, e.passed = true ∧
          runBoundVerifier W task leg candidate fingerprint spec = .ok e := by
  obtain ⟨fingerprint, hattest, h⟩ := bind_eq_ok.mp h
  obtain ⟨changes, hchanges, h⟩ := bind_eq_ok.mp h
  obtain ⟨evidence, hevidence, h⟩ := bind_eq_ok.mp h
  cases h
  dsimp only at hpassed ⊢
  rw [if_pos rfl] at hpassed ⊢
  obtain ⟨_, hcount, hsame⟩ := enforce_passed hpassed
  rw [hsame] at hpassed ⊢
  obtain rfl := List.length_eq_zero_iff.mp hcount
  rcases verifyCommandResult_eq_ok hevidence with ⟨_, rfl⟩ |
    ⟨hstatus, outputs, checks, houtputs, hchecks, rfl | ⟨spec, rfl⟩⟩
  · have := allPassed_eq_true hpassed _ (List.mem_singleton.mpr rfl)
    cases this
  · refine ⟨rfl, hstatus, hchanges, fingerprint, hattest, fun item hitem => ?_,
      fun spec hspec => ?_⟩
    · obtain ⟨e, he, hout⟩ := mapM_ok_left houtputs hitem
      rw [(outputEvidence_eq_ok hout).1, allPassed_eq_true hpassed e (List.mem_append_left _ he)]
    · obtain ⟨e, he, hout⟩ := mapM_ok_left hchecks hspec
      exact ⟨e, List.mem_append_right _ he,
        allPassed_eq_true hpassed e (List.mem_append_right _ he), hout⟩
  · exact (allPassed_append_policy hpassed).elim

/-! ## Preparation -/

/-- What the runs need to know of a prepared execution. -/
structure Prepared (W : World) (config : AssistantBridgeConfig) (task : AssistantTaskEnvelope)
    (external : List VerificationEvidence) (prepared : PreparedExecution) : Prop where
  prior : prepared.priorEvidence = external
  external : ∀ e ∈ external, e.kind = .external ∧ e.taskFingerprint = task.taskFingerprint
  selected : prepared.receipt.route ≠ .blocked →
    prepared.verifierPlans = selectedVerifiers config task
  chosen : ∀ verifierId ∈ task.requiredVerifierIds, isCommandVerifier config verifierId = true →
    ∃ spec ∈ selectedVerifiers config task, spec.id = verifierId

theorem validateExternalEvidence_eq_ok {u : Unit}
    (h : validateExternalEvidence e config task fingerprint = .ok u) :
    e.kind = .external ∧ e.taskFingerprint = task.taskFingerprint := by
  obtain ⟨hkind, h⟩ := check_bind_eq_ok.mp h
  refine ⟨hkind, ?_⟩
  split at h
  · cases h
  · obtain ⟨_, h⟩ := check_bind_eq_ok.mp h
    obtain ⟨_, h⟩ := check_bind_eq_ok.mp h
    exact (check_bind_eq_ok.mp h).1

theorem selected_of_validated {u : Unit} (h : validateVerifierSelection config task = .ok u)
    {verifierId : String} (hrequired : verifierId ∈ task.requiredVerifierIds)
    (hcommand : isCommandVerifier config verifierId = true) :
    ∃ spec ∈ selectedVerifiers config task, spec.id = verifierId := by
  have hround := forM_ok_iff.mp h verifierId hrequired
  split at hround
  · rename_i hnone
    obtain ⟨spec, hspec, hid⟩ := List.any_eq_true.mp hcommand
    exact absurd hid (List.find?_eq_none.mp hnone spec (List.mem_reverse.mpr hspec))
  · rename_i spec hsome
    have hid : spec.id = verifierId := by simpa using List.find?_some hsome
    refine ⟨spec, List.mem_filter.mpr ⟨List.mem_reverse.mp (List.mem_of_find?_eq_some hsome), ?_⟩,
      hid⟩
    have hpurpose := check_eq_ok.mp hround
    rw [hpurpose, hid]
    simp [hrequired]

variable {receipt : RouteDecisionReceipt}

theorem blockWhen_route {condition : Bool} {code : String} :
    (blockWhen D condition code receipt).route = if condition then .blocked else receipt.route := by
  unfold blockWhen
  split <;> rfl

theorem applyVerifiedRouteCanary_blocked {validate : CanaryDecision → RouteDecisionReceipt → Bool}
    {decide : RouteDecisionReceipt → Option CanaryDecision} (h : receipt.route = .blocked) :
    (applyVerifiedRouteCanary D validate config decide receipt).route = .blocked := by
  unfold applyVerifiedRouteCanary
  split
  · exact h
  · split
    · exact h
    · exact h

theorem bindRemote_blocked {executable : Bool} (h : receipt.route = .blocked) :
    (bindRemote D W executable receipt).1 = receipt := by
  unfold bindRemote
  rw [h, if_neg]
  cases executable <;> exact Bool.false_ne_true

variable {external : List VerificationEvidence} {source : Tree} {prepared : PreparedExecution}

theorem prepareExecution_eq_ok
    (h : prepareExecution D W config task external source = .ok prepared) :
    Prepared W config task external prepared := by
  obtain ⟨_, hvalidated, h⟩ := bind_eq_ok.mp h
  obtain ⟨fingerprint, _, h⟩ := bind_eq_ok.mp h
  obtain ⟨planned, _, h⟩ := bind_eq_ok.mp h
  obtain ⟨plans, _, h⟩ := bind_eq_ok.mp h
  obtain ⟨_, hexternal, h⟩ := bind_eq_ok.mp h
  obtain ⟨commands, _, h⟩ := bind_eq_ok.mp h
  cases h
  refine ⟨rfl, fun e he => validateExternalEvidence_eq_ok (forM_ok_iff.mp hexternal e he),
    fun hroute => if_neg fun htwo => hroute ?_, fun verifierId => selected_of_validated hvalidated⟩
  -- a task that asks for independent evidence is blocked by the first guard
  refine applyVerifiedRouteCanary_blocked ?_
  rw [bindRemote_blocked] <;>
    simp only [blockWhen_route, htwo, if_true, ite_self]

/-! ## The legs -/

structure Ends (W : World) (config : AssistantBridgeConfig) (task : AssistantTaskEnvelope)
    (external : List VerificationEvidence) (source : Tree) (result : BridgeRunResult) : Prop where
  completed : result.status = .completed → Verified W config task source result ∧
    (Promised config task result ↔ Attested config task external)
  carries : result.verification ≠ [] → Carries W config task result

theorem promised_iff {result : BridgeRunResult}
    (hprepared : Prepared W config task external prepared)
    (hprior : ∀ e ∈ external, e ∈ result.priorVerification)
    (hbrought : ∀ e ∈ result.priorVerification, e.kind = .external → e ∈ external)
    (hfinal : ∀ e ∈ result.verification, e.kind ≠ .external)
    (hverified : Verified W config task source result) :
    Promised config task result ↔ Attested config task external := by
  constructor
  · intro hpromised verifierId hrequired
    by_cases hcommand : isCommandVerifier config verifierId = true
    · exact .inl hcommand
    · obtain ⟨e, he, hid, hpassed, _, hkind⟩ := hpromised verifierId hrequired
      rw [if_neg hcommand] at hkind
      rcases List.mem_append.mp he with he | he
      · exact .inr ⟨e, hbrought e he hkind, hid, hpassed⟩
      · exact absurd hkind (hfinal e he)
  · intro hattested verifierId hrequired
    by_cases hcommand : isCommandVerifier config verifierId = true
    · obtain ⟨spec, hspec, hid⟩ := hprepared.chosen verifierId hrequired hcommand
      obtain ⟨leg, _, _, _, candidate, fingerprint, _, _, _, _, _, _, _, hchecks⟩ := hverified
      obtain ⟨e, he, hpassed, hrun⟩ := hchecks spec hspec
      obtain ⟨hsame, htask, hkind⟩ := runBoundVerifier_eq_ok hrun
      refine ⟨e, List.mem_append_right _ he, hsame.trans hid, hpassed, htask, ?_⟩
      rwa [if_pos hcommand]
    · obtain ⟨e, he, hid, hpassed⟩ := (hattested verifierId hrequired).resolve_left hcommand
      obtain ⟨hkind, htask⟩ := hprepared.external e he
      refine ⟨e, List.mem_append_left _ (hprior e he), hid, hpassed, htask, ?_⟩
      rwa [if_neg hcommand]

/-- The source is as it was, unless the capsule was asked for inside it. -/
def Frame (capsuleOut : Option CapsuleTarget) (source : Tree) (s : Tree) : Prop :=
  CapsuleOutside capsuleOut → s = source

variable {capsuleOut : Option CapsuleTarget}

theorem writeCapsule_frame : Effect.Triple (Frame capsuleOut source) (writeCapsule W capsuleOut)
      (fun _ => Frame capsuleOut source) (fun _ => Frame capsuleOut source) := by
  unfold writeCapsule
  cases capsuleOut with
  | none => exact .pure fun s hs => hs
  | some target =>
    cases target with
    | outside => exact .ofExcept (fun _ _ s hs => hs) fun _ _ s hs => hs
    | inside file =>
      refine .bind (R := fun _ => Frame (some (.inside file)) source)
        (.ofExcept (fun _ _ s hs => hs) fun _ _ s hs => hs) fun _ => .modify fun s _ => ?_
      exact fun houtside => absurd rfl (houtside file)

theorem executePremiumCommand_eq_ok {expected : Option CommandPlan}
    {outcome : CommandResult × Bool × Tree}
    (h : executePremiumCommand W prepared candidate expected = .ok outcome)
    (hcode : outcome.1.code ≠ "durable_premium_budget_exhausted") :
    W.executePremium candidate = .ok outcome := by
  obtain ⟨_, h⟩ := check_bind_eq_ok.mp h
  obtain ⟨plan, _, h⟩ := bind_eq_ok.mp h
  obtain ⟨_, h⟩ := check_bind_eq_ok.mp h
  obtain ⟨executed, hexecuted, h⟩ := bind_eq_ok.mp h
  rw [pure_eq_ok_iff] at h
  split at h
  · subst h
    exact absurd rfl hcode
  · rw [hexecuted, h]

theorem executePremiumCandidate_ends {priorCommands : List CommandResult}
    {priorEvidence : List VerificationEvidence} {expected : Option CommandPlan}
    (hprepared : Prepared W config task external prepared)
    (hroute : prepared.receipt.route ≠ .blocked) (hbaseline : W.materialize source = .ok baseline)
    (hprior : ∀ e ∈ external, e ∈ priorEvidence)
    (hbrought : ∀ e ∈ priorEvidence, e.kind = .external → e ∈ external) :
    Effect.Triple (Frame capsuleOut source)
      (executePremiumCandidate W config task prepared baseline candidate capsuleOut priorCommands
        priorEvidence expected)
      (fun result s => Frame capsuleOut source s ∧ Ends W config task external source result)
      (fun _ => Frame capsuleOut source) := by
  unfold executePremiumCandidate
  refine .bind (R := fun _ => Frame capsuleOut source)
    (.ofExcept (fun _ _ s hs => hs) fun _ _ s hs => hs) fun _ => ?_
  refine .bind writeCapsule_frame fun _ => ?_
  refine .bind (R := fun outcome s => Frame capsuleOut source s ∧
      executePremiumCommand W prepared candidate expected = .ok outcome)
    (.ofExcept (fun outcome houtcome s hs => ⟨hs, houtcome⟩) fun _ _ s hs => hs) fun outcome => ?_
  refine .ite (fun _ => .pure fun s hs => ⟨hs.1, ⟨fun h => (by cases h), fun h => absurd rfl h⟩⟩)
    fun hcode => ?_
  refine .bind (R := fun verified s => (Frame capsuleOut source s ∧
      executePremiumCommand W prepared candidate expected = .ok outcome) ∧
      verifyCandidate W config task .premium baseline outcome.2.2 outcome.1
        prepared.verifierPlans true = .ok verified)
    (.ofExcept (fun verified hverified s hs => ⟨hs, hverified⟩) fun _ _ s hs => hs.1)
    fun verified => ?_
  have hcarries {status : RunStatus} {code : String} {prior : List VerificationEvidence}
      {commands : List CommandResult} {provider : Option String} {output : String} {calls : Nat}
      (hverified : verifyCandidate W config task .premium baseline outcome.2.2 outcome.1
        prepared.verifierPlans true = .ok verified) :
      Carries W config task ⟨status, code, prepared.receipt, prior, verified.1, commands, provider,
        output, calls⟩ :=
    ⟨.premium, _, _, _, _, _, hverified, verifyCandidate_carries hverified⟩
  refine .ite (fun _ => .pure fun s hs =>
    ⟨hs.1.1, ⟨fun h => (by cases h), fun _ => hcarries hs.2⟩⟩) fun _ => ?_
  refine .ite (fun hdone => ?_) fun _ => .pure fun s hs =>
    ⟨hs.1.1, ⟨fun h => (by cases h), fun _ => hcarries hs.2⟩⟩
  intro s hs
  obtain ⟨⟨hframe, hcommand⟩, hverified⟩ := hs
  obtain ⟨hnil, hstatus, hchanges, fingerprint, hattest, hchecks, hplans⟩ :=
    verifyCandidate_passed hverified hdone.2
  refine Effect.Triple.bind (P := Frame capsuleOut source) (R := fun _ => Frame capsuleOut source)
    ?_ (fun _ => .pure fun s hs => ⟨hs, ?_⟩) s hframe
  · rw [hnil]
    exact .pure fun s hs => hs
  · have hall {prior : List VerificationEvidence} : Verified W config task source ⟨.completed,
        "premium_verification_passed", prepared.receipt, prior, verified.1, priorCommands ++ [outcome.1], some config.premium.id,
        outcome.1.output, if outcome.2.1 then 1 else 0⟩ :=
      ⟨.premium, candidate, baseline, outcome.1, outcome.2.2, fingerprint, hbaseline,
        ⟨outcome.2.1, executePremiumCommand_eq_ok hcommand hcode⟩, List.getLast?_concat, hstatus,
        hattest, hchanges, hchecks, hprepared.selected hroute ▸ hplans⟩
    refine ⟨fun _ => ⟨hall, ?_⟩, fun _ => hcarries hverified⟩
    refine promised_iff hprepared (fun e he => List.mem_append_left _ (hprior e he))
      (fun e he hkind => ?_) (verifyCandidate_kind hverified) hall
    rcases List.mem_append.mp he with he | he
    · exact hbrought e he hkind
    · exact hprepared.prior ▸ (List.mem_filter.mp he).1

theorem afterLocal_ends (hprepared : Prepared W config task external prepared)
    (hroute : prepared.receipt.route ≠ .blocked) (hbaseline : W.materialize source = .ok baseline)
    (hexecuted : W.executeLocal baseline = .ok (command, candidate))
    (hverified : verifyCandidate W config task .local baseline candidate command
      prepared.verifierPlans true = .ok verified) : Effect.Triple (Frame capsuleOut source)
      (afterLocal W config task prepared baseline candidate capsuleOut command verified.1 verified.2)
      (fun result s => Frame capsuleOut source s ∧ Ends W config task external source result)
      (fun _ => Frame capsuleOut source) := by
  have hcarries {status : RunStatus} {code : String} {prior : List VerificationEvidence}
      {commands : List CommandResult} {provider : Option String} {output : String} {calls : Nat} :
      Carries W config task ⟨status, code, prepared.receipt, prior, verified.1, commands, provider,
        output, calls⟩ :=
    ⟨.local, _, _, _, _, _, hverified, verifyCandidate_carries hverified⟩
  have hstop {result : BridgeRunResult} (hstatus : result.status ≠ .completed)
      (hcarried : Carries W config task result) :
      Effect.Triple (Frame capsuleOut source) (pure result : Effect Tree BridgeError BridgeRunResult)
        (fun result s => Frame capsuleOut source s ∧ Ends W config task external source result)
        (fun _ => Frame capsuleOut source) :=
    .pure fun s hs => ⟨hs, ⟨fun h => absurd h hstatus, fun _ => hcarried⟩⟩
  unfold afterLocal
  refine .ite (fun _ => hstop (fun h => by cases h) hcarries) fun _ => ?_
  refine .ite (fun hdone => ?_) fun _ => ?_
  · obtain ⟨hnil, hstatus, hchanges, fingerprint, hattest, hchecks, hplans⟩ :=
      verifyCandidate_passed hverified hdone.1
    refine .bind (R := fun _ => Frame capsuleOut source) ?_ fun _ => .pure fun s hs => ⟨hs, ?_⟩
    · rw [hnil]
      exact .pure fun s hs => hs
    · have hall : Verified W config task source ⟨.completed, "local_verification_passed",
          prepared.receipt, prepared.priorEvidence, verified.1, [command],
          some config.localProvider.id, command.output, 0⟩ :=
        ⟨.local, baseline, baseline, command, candidate, fingerprint, hbaseline, hexecuted, rfl,
          hstatus, hattest, hchanges, hchecks, hprepared.selected hroute ▸ hplans⟩
      refine ⟨fun _ => ⟨hall, ?_⟩, fun _ => hcarries⟩
      exact promised_iff hprepared (fun e he => hprepared.prior.symm ▸ he)
        (fun e he _ => hprepared.prior ▸ he) (verifyCandidate_kind hverified) hall
  refine .ite (fun _ => hstop (fun h => by cases h) hcarries) fun _ => ?_
  refine .ite (fun _ => hstop (fun h => by cases h) hcarries) fun _ => ?_
  refine executePremiumCandidate_ends hprepared hroute hbaseline
    (fun e he => List.mem_append_left _ (hprepared.prior.symm ▸ he)) fun e he hkind => ?_
  rcases List.mem_append.mp he with he | he
  · exact hprepared.prior ▸ he
  · exact absurd hkind (verifyCandidate_kind hverified e he)

theorem executeLocalCandidate_eq_ok {outcome : CommandResult × Tree}
    (h : executeLocalCandidate W prepared candidate = .ok outcome) :
    W.executeLocal candidate = .ok outcome := by
  obtain ⟨plan, _, h⟩ := bind_eq_ok.mp h
  exact (check_bind_eq_ok.mp h).2

theorem runPrepared_ends (hprepared : Prepared W config task external prepared)
    (hroute : prepared.receipt.route ≠ .blocked) (hbaseline : W.materialize source = .ok baseline) :
    Effect.Triple (Frame capsuleOut source) (runPrepared W config task prepared baseline capsuleOut)
      (fun result s => Frame capsuleOut source s ∧ Ends W config task external source result)
      (fun _ => Frame capsuleOut source) := by
  unfold runPrepared
  refine .ite (fun _ => ?_) fun _ => ?_
  · exact executePremiumCandidate_ends hprepared hroute hbaseline
      (fun e he => hprepared.prior.symm ▸ he) fun e he _ => hprepared.prior ▸ he
  · refine .bind (R := fun executed s => Frame capsuleOut source s ∧
        executeLocalCandidate W prepared baseline = .ok executed)
      (.ofExcept (fun executed hexecuted s hs => ⟨hs, hexecuted⟩) fun _ _ s hs => hs)
      fun executed => ?_
    refine .bind (R := fun verified s => (Frame capsuleOut source s ∧
        executeLocalCandidate W prepared baseline = .ok executed) ∧
        verifyCandidate W config task .local baseline executed.2 executed.1
          prepared.verifierPlans true = .ok verified)
      (.ofExcept (fun verified hverified s hs => ⟨hs, hverified⟩) fun _ _ s hs => hs.1)
      fun verified => ?_
    intro s hs
    exact afterLocal_ends hprepared hroute hbaseline (executeLocalCandidate_eq_ok hs.1.2) hs.2 s
      hs.1.1

/-! ## The run -/

def sampleProvider (mode : Mode) : ProviderSpec where
  id := match mode with
    | .local => "small"
    | .premium => "large"
  mode := mode
  capabilities := []
  tools := []
  maxRisk := .writeLocal
  sandbox := "workspace-write"
  workspaceAccess := "read_write"
  networkAccess := false

def sampleConfig : AssistantBridgeConfig where
  localProvider := sampleProvider .local
  premium := sampleProvider .premium
  profiles := fun name => ⟨name, .local, false, false, 0, by decide, by decide, fun _ => by decide⟩
  verificationChecks := [⟨"nonempty", "nonempty", "check", fun output => .ok (output ≠ "")⟩]
  commandVerifiers := []
  externalVerifiers := fun id => if id = "review" then some ⟨"review", "human", "spec"⟩ else none
  independentCapabilities := []
  independentTools := []
  independentRisks := []
  verifiedRouting := false
  sourceSha256 := "config"
  localMode := rfl
  premiumMode := rfl
  checked := by decide

def sampleTask : AssistantTaskEnvelope where
  taskFingerprint := "task"
  profile := .balanced
  capabilityDemand := ⟨[], [], .readOnly⟩
  requiredVerifierIds := ["review"]
  noChangeExpected := false
  allowRemote := none
  allowRemoteWorkspace := false
  maxPremiumCalls := none
  budget := by decide
  remoteWorkspace := by decide
  distinct := by decide

def sampleDigests : ReceiptDigests := ⟨fun _ _ => "content", fun _ => "full"⟩

def sampleWorld : World where
  snapshotWorkspace := fun _ => .ok "workspace"
  localRuntime := .ok ⟨"small", "read_only", "local"⟩
  premiumRuntime := .ok ⟨"large", "capsule_only", "premium"⟩
  writeSupported := true
  buildVerifierPlan := fun _ => .ok ⟨true, true⟩
  attestRemoteBinding := .ok ()
  decideCanary := fun _ => none
  validateCanary := fun _ _ => true
  previewLocal := fun _ => .ok ⟨"command", "authority"⟩
  previewPremium := fun _ => .ok ⟨"command", "authority"⟩
  consumeConfirmation := fun _ => .ok ()
  materialize := .ok
  buildLocal := fun _ => .ok ⟨"command", "authority"⟩
  executeLocal := fun tree => .ok (⟨"small", .completed, "completed", "done", "command"⟩, tree)
  buildCapsule := fun _ => .ok ()
  writeCapsule := .ok ()
  buildPremium := fun _ => .ok ⟨"command", "authority"⟩
  executePremium := fun tree =>
    .ok (⟨"large", .completed, "completed", "done", "command"⟩, true, tree)
  attest := fun _ _ => .ok "workspace"
  runVerifier := fun _ _ _ => .ok (true, "passed")
  applyChangeset := fun tree _ => (tree, .ok ())
  policySpecSha256 := fun _ => "policy"
  independencePolicySha256 := "independence"

def sampleReview : VerificationEvidence :=
  ⟨"review", "human", .external, true, "approved", "task", "workspace", "spec"⟩

end LocalMoe.Runner
