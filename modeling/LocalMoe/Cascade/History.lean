/-
  The rounds a run goes through, told without its receipts, and when the receipts can record
  them.
-/
import LocalMoe.Cascade.Accepted

namespace LocalMoe.Cascade

open Foundation Contracts Canary

variable {R : Runtime} (task : LocalCascadeTask) (config : LocalCascadeConfig)
  (env : Surroundings R)

/-! ## Replies -/

def WithinLimits (candidate : LocalCascadeAttemptResult) (tier : LocalCascadeTier) : Prop :=
  (∀ n ∈ candidate.inputTokens.count, n ≤ tier.maxInputTokens) ∧
    ∀ n ∈ candidate.outputTokens.count, n ≤ tier.maxOutputTokens

/-- The reply completes with the content, and nothing is wrong with it. -/
def Passes (tier : LocalCascadeTier) (reply : Reply) (content : Text) : Prop :=
  ∃ candidate, reply = .result candidate ∧ candidate.content = some content ∧
    verifyLocalCascadeContent R content config.verifier = [] ∧ WithinLimits candidate tier

def Reply.Abstains (reply : Reply) : Prop :=
  ∃ candidate, reply = .result candidate ∧ candidate.content = none

def Reply.inputTokens : Reply → TokenCount
  | .result candidate => candidate.inputTokens
  | _ => .unknown

def Reply.outputTokens : Reply → TokenCount
  | .result candidate => candidate.outputTokens
  | _ => .unknown

variable {task config env}

theorem above_eq_false {usage : TokenCount} {limit : Nat} :
    (decide (usage.source ≠ .unknown) && usage.count.any fun n => decide (limit < n)) = false ↔
      ∀ n ∈ usage.count, n ≤ limit := by
  obtain ⟨source, count, hunknown, _⟩ := usage
  cases count with
  | none => simp
  | some n =>
    have hsource : source ≠ .unknown := fun h => by cases hunknown.mp h
    simp [hsource]

theorem reasonsOf_eq_nil {conditions : List (Bool × String)} :
    reasonsOf conditions = [] ↔ ∀ c ∈ conditions, c.1 = false := by
  unfold reasonsOf
  rw [List.map_eq_nil_iff, List.filter_eq_nil_iff]
  exact forall₂_congr fun c _ => by rw [Bool.not_eq_true]

variable {tier : LocalCascadeTier}

theorem tokenLimit_eq_nil {candidate : LocalCascadeAttemptResult} :
    tokenLimitReasonCodes candidate tier = [] ↔ WithinLimits candidate tier := by
  unfold tokenLimitReasonCodes WithinLimits
  rw [reasonsOf_eq_nil]
  simp only [List.mem_cons, List.not_mem_nil, or_false, forall_eq_or_imp, forall_eq, above_eq_false]

theorem verdict_passes {reply : Reply} {content : Text} :
    ((verdict R config tier reply).verificationStatus = .passed ∧
      (verdict R config tier reply).content = some content) ↔
        Passes config tier reply content (R := R) := by
  cases reply with
  | raised | notResult => exact ⟨fun h => (by cases h.1), fun ⟨_, h, _⟩ => (by cases h)⟩
  | result candidate =>
    unfold verdict Passes
    cases hcontent : candidate.content with
    | none =>
      simp only [hcontent]
      exact ⟨fun h => (by cases h.1), fun ⟨_, h, hsome, _⟩ => by
        cases h; rw [hcontent] at hsome; cases hsome⟩
    | some text =>
      simp only [hcontent, Option.some.injEq]
      constructor
      · rintro ⟨hpassed, rfl⟩
        split at hpassed
        · rename_i hnil
          obtain ⟨hverify, hlimit⟩ := List.append_eq_nil_iff.mp hnil
          exact ⟨candidate, rfl, hcontent, hverify, tokenLimit_eq_nil.mp hlimit⟩
        · cases hpassed
      · rintro ⟨_, h, hsome, hverify, hlimit⟩
        cases h
        cases hcontent.symm.trans hsome
        rw [hverify, tokenLimit_eq_nil.mpr hlimit]
        exact ⟨if_pos rfl, rfl⟩

theorem verdict_inputTokens (tier : LocalCascadeTier) (reply : Reply) :
    (verdict R config tier reply).inputTokens = reply.inputTokens := by
  cases reply with
  | raised => rfl
  | notResult => rfl
  | result candidate =>
    unfold verdict
    dsimp only
    split <;> rfl

theorem verdict_outputTokens (tier : LocalCascadeTier) (reply : Reply) :
    (verdict R config tier reply).outputTokens = reply.outputTokens := by
  cases reply with
  | raised => rfl
  | notResult => rfl
  | result candidate =>
    unfold verdict
    dsimp only
    split <;> rfl

theorem verdict_abstained {reply : Reply} :
    (verdict R config tier reply).attemptStatus = .abstained ↔ reply.Abstains := by
  cases reply with
  | raised | notResult => exact ⟨fun h => (by cases h), fun ⟨_, h, _⟩ => (by cases h)⟩
  | result candidate =>
    unfold verdict Reply.Abstains
    cases hcontent : candidate.content with
    | none =>
      simp only [hcontent]
      exact ⟨fun _ => ⟨candidate, rfl, hcontent⟩, fun _ => trivial⟩
    | some text =>
      simp only [hcontent]
      exact ⟨fun h => (by cases h), fun ⟨_, h, hnone⟩ => by
        cases h; rw [hcontent] at hnone; cases hnone⟩

/-! ## The codes of a verdict -/

theorem isSafeId_of_known {code : String} (h : code ∈ "attempt_abstained" ::
    (contentVerifierReasonCodes ++ tokenLimitCodes ++ attemptErrorReasonCodes)) :
    isSafeId code = true := by
  revert code
  decide +kernel

theorem codes_of_known {codes known : List String} (hnodup : codes.Nodup)
    (hsub : ∀ code ∈ codes, code ∈ known) (hknown : ∀ code ∈ known, code ∈ "attempt_abstained" ::
      (contentVerifierReasonCodes ++ tokenLimitCodes ++ attemptErrorReasonCodes)) :
    Codes codes where
  safe code hcode := isSafeId_of_known (hknown code (hsub code hcode))
  nodup := hnodup
  length_le := by
    have h := (hnodup.subperm fun code hcode => hknown code (hsub code hcode)).length_le
    exact h.trans (by decide)

/-- What a receipt asks of a verdict. -/
structure Verdict.Recordable (R : Runtime) (v : Verdict) : Prop where
  codes : Codes v.reasonCodes
  outcome : AttemptReceipt.checkOutcome v.attemptStatus v.verificationStatus
    (v.content.map fun text => (R.sha256 text).val) v.reasonCodes = .ok ()
  error_tokens : v.attemptStatus = .error →
    v.inputTokens.source = .unknown ∧ v.outputTokens.source = .unknown

theorem failed_recordable {code : String} (h : code ∈ attemptErrorReasonCodes) :
    (Verdict.failed code).Recordable R where
  codes := by
    refine codes_of_known (List.nodup_singleton _) (fun _ hc => hc) fun c hc => ?_
    rw [List.mem_singleton.mp hc]
    exact List.mem_cons_of_mem _ (List.mem_append_right _ h)
  outcome := by
    unfold AttemptReceipt.checkOutcome Verdict.failed
    simp [check_of, h]
  error_tokens _ := ⟨rfl, rfl⟩

theorem verdict_recordable (tier : LocalCascadeTier) (reply : Reply) :
    (verdict R config tier reply).Recordable R := by
  cases reply with
  | raised | notResult => exact failed_recordable (by decide)
  | result candidate =>
    obtain ⟨hlimitNodup, hlimit⟩ := tokenLimit_codes candidate tier
    unfold verdict
    cases hcontent : candidate.content with
    | none =>
      simp only [hcontent]
      have hfresh : "attempt_abstained" ∉ tokenLimitCodes := by decide
      have hsub : ∀ code ∈ "attempt_abstained" :: tokenLimitReasonCodes candidate tier,
          code ∈ "attempt_abstained" :: tokenLimitCodes := fun code hcode =>
        (List.mem_cons.mp hcode).elim (fun h => h ▸ List.mem_cons_self)
          fun h => List.mem_cons_of_mem _ (hlimit code h)
      refine ⟨codes_of_known (List.nodup_cons.mpr
        ⟨fun h => hfresh (hlimit _ h), hlimitNodup⟩) hsub (by decide), ?_,
        fun h => (by cases h)⟩
      unfold AttemptReceipt.checkOutcome
      simp only [check_bind_eq_ok, check_eq_ok]
      exact ⟨fun h => (by cases h), fun _ => List.cons_ne_nil _ _, fun h => (by cases h),
        fun h => (by cases h), fun _ => rfl, fun _ => trivial,
        fun _ => ⟨List.mem_cons_self, hsub⟩, fun h => (by cases h)⟩
    | some text =>
      simp only [hcontent]
      obtain ⟨hverifyNodup, hverify⟩ := verify_codes (R := R) text config.verifier
      have happart : ∀ a ∈ contentVerifierReasonCodes, ∀ b ∈ tokenLimitCodes, a ≠ b := by
        decide
      have hsub : ∀ code ∈ verifyLocalCascadeContent R text config.verifier ++
          tokenLimitReasonCodes candidate tier,
          code ∈ contentVerifierReasonCodes ++ tokenLimitCodes := fun code hcode =>
        (List.mem_append.mp hcode).elim (fun h => List.mem_append_left _ (hverify code h))
          fun h => List.mem_append_right _ (hlimit code h)
      refine ⟨codes_of_known (List.nodup_append.mpr ⟨hverifyNodup, hlimitNodup,
        fun a ha b hb => happart a (hverify a ha) b (hlimit b hb)⟩) hsub (by decide), ?_,
        fun h => (by cases h)⟩
      unfold AttemptReceipt.checkOutcome
      simp only [check_bind_eq_ok, check_eq_ok]
      refine ⟨fun h => ?_, fun h => ?_, fun _ h => (by cases h), fun _ _ => hsub,
        fun h => absurd rfl h, fun h => absurd rfl h, fun h => (by cases h),
        fun h => (by cases h)⟩
      · by_contra hne
        rw [if_neg hne] at h
        cases h
      · intro hnil
        rw [if_pos hnil] at h
        cases h

/-! ## Rounds -/

variable (task config env)

def durationMs (attemptNumber : Nat) : PyFloat :=
  R.elapsedMs (env.clock (2 * attemptNumber - 1)) (env.clock (2 * attemptNumber))

/-- The round of a tier whose duration is a float. -/
def expectedAttempt (tier : LocalCascadeTier) (attemptNumber : Nat) (priorReasons : List String) :
    Attempt :=
  let request : LocalCascadeAttemptRequest := ⟨task, tier, attemptNumber, priorReasons⟩
  let v := verdict R config tier (env.reply attemptNumber)
  ⟨request, v,
    { attemptNumber := attemptNumber
      tierId := tier.tierId.val
      costRank := tier.costRank
      requestSha256 := (R.requestSha256 request).val
      outputSha256 := v.content.map fun text => (R.sha256 text).val
      attemptStatus := v.attemptStatus
      verificationStatus := v.verificationStatus
      verifierReasonCodes := v.reasonCodes
      durationMs := (durationMs env attemptNumber).getD 0
      inputTokens := v.inputTokens
      outputTokens := v.outputTokens }⟩

/-- The rounds of a run. -/
def expectedAttempts : List LocalCascadeTier → Nat → List String → List Attempt
  | [], _, _ => []
  | tier :: rest, attemptNumber, priorReasons =>
    let attempt := expectedAttempt task config env tier attemptNumber priorReasons
    if attempt.selected.isSome then [attempt]
    else attempt :: expectedAttempts rest (attemptNumber + 1) attempt.verdict.reasonCodes

/-- A reply's content has a digest. -/
def Reply.Encodable (reply : Reply) : Prop :=
  ∀ candidate, reply = .result candidate → ∀ text ∈ candidate.content, encodable text = true

/-- The receipt of an attempt can be written. -/
def RecordableAt (attemptNumber : Nat) : Prop :=
  (env.reply attemptNumber).Encodable ∧ durationMs env attemptNumber ≠ none

variable {task config env}

theorem verdict_content (tier : LocalCascadeTier) (reply : Reply) :
    (∀ text ∈ (verdict R config tier reply).content, encodable text = true) ↔ reply.Encodable := by
  cases reply with
  | raised | notResult => exact ⟨fun _ _ h => (by cases h), fun _ _ h => (by cases h)⟩
  | result candidate =>
    have hcontent : (verdict R config tier (.result candidate)).content = candidate.content := by
      unfold verdict
      dsimp only
      split <;> simp_all
    rw [hcontent]
    exact ⟨fun h _ heq => by cases heq; exact h, fun h => h candidate rfl⟩

theorem contentDigest_eq_ok {v : Verdict} {digest : Option Digest} :
    v.contentDigest R = .ok digest ↔ (∀ text ∈ v.content, encodable text = true) ∧
      digest = v.content.map R.sha256 := by
  unfold Verdict.contentDigest sha256Text
  cases v.content with
  | none =>
    exact ⟨fun h => ⟨fun _ h => (by cases h), (Except.ok.inj h).symm⟩, fun h => by rw [h.2]; rfl⟩
  | some text =>
    by_cases henc : encodable text = true
    · dsimp only
      rw [if_pos henc]
      exact ⟨fun h => ⟨fun _ ht => by cases ht; exact henc, (pure_eq_ok_iff.mp h).symm⟩,
        fun h => pure_eq_ok_iff.mpr h.2.symm⟩
    · simp [henc]

variable {n : Nat} {prior : List String}

theorem expectedAttempt_valid (hn : 1 ≤ n ∧ n ≤ maxTiers) {y : ℚ} (hy : 0 ≤ y) :
    ({ (expectedAttempt task config env tier n prior).receipt with durationMs := y } :
      AttemptReceipt).Valid where
  number_range := hn
  tier_safe := tier.tierId.property.1
  rank_le := tier.rank_le
  request_sha := (R.requestSha256 _).property
  output_sha t ht := by
    obtain ⟨text, _, rfl⟩ := Option.map_eq_some_iff.mp ht
    exact (R.sha256 text).property
  codes := (verdict_recordable tier _).codes
  outcome := (verdict_recordable tier _).outcome
  duration_nonneg := hy
  error_tokens := (verdict_recordable tier _).error_tokens

theorem durationMs_nonneg : 0 ≤ (durationMs env n).getD 0 := by
  cases h : durationMs env n with
  | none => exact le_rfl
  | some y => exact R.elapsed_nonneg _ _ y h

theorem attemptTier_eq_ok (hn : 1 ≤ n ∧ n ≤ maxTiers) (hprior : Codes prior) {a : Attempt} :
    attemptTier R task config env tier n prior = .ok a ↔
      RecordableAt env n ∧ a = expectedAttempt task config env tier n prior := by
  have hrequest : LocalCascadeAttemptRequest.construct task tier n prior =
      .ok ⟨task, tier, n, prior⟩ :=
    bind_eq_ok.mpr ⟨n, integer_of hn.1 hn.2, bind_eq_ok.mpr ⟨prior, hprior.identifiers _, rfl⟩⟩
  have hconstruct (r' : AttemptReceipt) := @AttemptReceipt.construct_eq_ok R (durationMs env n)
    (expectedAttempt task config env tier n prior).receipt r'
    (fun y hy => expectedAttempt_valid hn (R.elapsed_nonneg _ _ y hy))
    (expectedAttempt_valid hn le_rfl)
  unfold attemptTier
  rw [hrequest, ok_bind]
  constructor
  · intro h
    obtain ⟨digest, hdigest, h⟩ := bind_eq_ok.mp h
    obtain ⟨hencodable, rfl⟩ := contentDigest_eq_ok.mp hdigest
    obtain ⟨receipt, hreceipt, h⟩ := bind_eq_ok.mp h
    rw [Option.map_map] at hreceipt
    obtain ⟨y, hy, rfl⟩ := (hconstruct _).mp hreceipt
    refine ⟨⟨(verdict_content tier _).mp hencodable, fun hnone => ?_⟩, ?_⟩
    · rw [hnone] at hy
      cases hy
    · rw [← pure_eq_ok_iff.mp h]
      unfold expectedAttempt
      simp [hy]
  · rintro ⟨⟨hencodable, hduration⟩, rfl⟩
    obtain ⟨y, hy⟩ := Option.ne_none_iff_exists'.mp hduration
    refine bind_eq_ok.mpr ⟨_, contentDigest_eq_ok.mpr
      ⟨(verdict_content tier _).mpr hencodable, rfl⟩, ?_⟩
    refine bind_eq_ok.mpr ⟨{ (expectedAttempt task config env tier n prior).receipt with
      durationMs := y }, ?_, pure_eq_ok_iff.mpr ?_⟩
    · rw [Option.map_map]
      exact (hconstruct _).mpr ⟨y, hy, rfl⟩
    · unfold expectedAttempt
      simp [hy]

theorem runTiers_eq_ok {tiers : List LocalCascadeTier} (hn : 1 ≤ n)
    (hlast : n + tiers.length ≤ maxTiers + 1) (hprior : Codes prior) {attempts : List Attempt} :
    runTiers R task config env tiers n prior = .ok attempts ↔
      (∀ a ∈ expectedAttempts task config env tiers n prior,
        RecordableAt env a.request.attemptNumber) ∧
        attempts = expectedAttempts task config env tiers n prior := by
  induction tiers generalizing n prior attempts with
  | nil =>
    exact ⟨fun h => ⟨fun _ ha => (by cases ha), (Except.ok.inj h).symm⟩, fun h => by rw [h.2]; rfl⟩
  | cons tier rest ih =>
    rw [List.length_cons] at hlast
    have hone (a : Attempt) :=
      @attemptTier_eq_ok R task config env tier n prior ⟨hn, by omega⟩ hprior a
    have hrest (later : List Attempt) := @ih (n + 1) (expectedAttempt task config env tier n prior).verdict.reasonCodes
      (by omega) (by omega) (verdict_recordable tier _).codes later
    unfold runTiers expectedAttempts
    rw [bind_eq_ok]
    dsimp only
    by_cases hselected : (expectedAttempt task config env tier n prior).selected.isSome = true
    · rw [if_pos hselected, List.forall_mem_singleton]
      constructor
      · rintro ⟨a, ha, h⟩
        obtain ⟨hrecordable, rfl⟩ := (hone a).mp ha
        rw [if_pos hselected] at h
        exact ⟨hrecordable, (pure_eq_ok_iff.mp h).symm⟩
      · rintro ⟨hrecordable, rfl⟩
        exact ⟨_, (hone _).mpr ⟨hrecordable, rfl⟩, by rw [if_pos hselected]; rfl⟩
    · rw [if_neg hselected, List.forall_mem_cons]
      constructor
      · rintro ⟨a, ha, h⟩
        obtain ⟨hrecordable, rfl⟩ := (hone a).mp ha
        rw [if_neg hselected] at h
        obtain ⟨later, hlater, h⟩ := bind_eq_ok.mp h
        obtain ⟨hall, rfl⟩ := (hrest later).mp hlater
        exact ⟨⟨hrecordable, hall⟩, (pure_eq_ok_iff.mp h).symm⟩
      · rintro ⟨⟨hrecordable, hall⟩, rfl⟩
        refine ⟨_, (hone _).mpr ⟨hrecordable, rfl⟩, ?_⟩
        rw [if_neg hselected]
        exact bind_eq_ok.mpr ⟨_, (hrest _).mpr ⟨hall, rfl⟩, rfl⟩

end LocalMoe.Cascade
