/-
  What the constructors of a cascade accept, and the round trip of a receipt through its
  payload.
-/
import LocalMoe.Cascade.Run

namespace LocalMoe.Cascade

open Foundation Contracts Canary

variable {R : Runtime}

/-! ## Values -/

@[simp] theorem schemaContract_self (expected : String) :
    schemaContract (.str schemaVersion) (.str expected) expected = .ok () := by
  unfold schemaContract
  rw [check_bind_eq_ok]
  exact ⟨rfl, check_of (decide_eq_true rfl)⟩

variable {label : String}

theorem safeId_of_isSafeId {text : String} (h : isSafeId text = true) :
    safeId (.str text) label = .ok text := by
  have hstrip : strip text = text := strip_of_isSafeId h
  have hlength : text ≠ "" ∧ text.length ≤ 256 := by
    unfold isSafeId at h
    split at h
    · cases h
    · rename_i c rest hlist
      simp only [Bool.and_eq_true, decide_eq_true_eq] at h
      refine ⟨fun hempty => ?_, ?_⟩
      · rw [hempty] at hlist
        cases hlist
      · rw [← String.length_toList, hlist, List.length_cons]
        omega
  refine bind_eq_ok.mpr ⟨text, ?_, check_bind_eq_ok.mpr ⟨h, rfl⟩⟩
  change (check (strip text ≠ "") _ >>= fun _ => _) = _
  rw [hstrip]
  exact check_bind_eq_ok.mpr ⟨hlength.1, check_bind_eq_ok.mpr ⟨hlength.2, rfl⟩⟩

theorem integer_eq_ok {n m minimum maximum : Nat} :
    integer (.int n) label minimum maximum = .ok m ↔ minimum ≤ n ∧ n ≤ maximum ∧ n = m := by
  unfold integer
  rw [check_bind_eq_ok, check_bind_eq_ok, pure_eq_ok_iff, Int.toNat_natCast, Int.ofNat_le,
    Int.ofNat_le]

theorem integer_of {n minimum maximum : Nat} (hmin : minimum ≤ n) (hmax : n ≤ maximum) :
    integer (.int n) label minimum maximum = .ok n := integer_eq_ok.mpr ⟨hmin, hmax, rfl⟩

variable {x : PyFloat}

theorem finiteFloat_eq_ok {y : ℚ} :
    finiteFloat R (.float x) label = .ok y ↔ x = some y ∧ 0 ≤ y := by
  unfold finiteFloat nonnegative
  cases x with
  | none => exact ⟨fun h => (by cases h), fun h => (by cases h.1)⟩
  | some z =>
    refine check_bind_eq_ok.trans ?_
    rw [pure_eq_ok_iff]
    exact ⟨fun ⟨h, heq⟩ => ⟨congrArg some heq, heq ▸ h⟩,
      fun ⟨heq, h⟩ => ⟨Option.some.inj heq ▸ h, Option.some.inj heq⟩⟩

theorem digest_of {text message : String} (h : isSha256 text = true) :
    digest (.str text) message = .ok text := check_bind_eq_ok.mpr ⟨h, rfl⟩

theorem optionalSha256_of {text : Option String} (h : ∀ t ∈ text, isSha256 t = true) :
    optionalSha256 (text.elim .none .str) label = .ok text := by
  cases text with
  | none => rfl
  | some t => exact bind_eq_ok.mpr ⟨t, digest_of (h t rfl), rfl⟩

theorem optionalSafeId_of {text : Option String} (h : ∀ t ∈ text, isSafeId t = true) :
    CascadeReceipt.optionalSafeId (text.elim .none .str) label = .ok text := by
  cases text with
  | none => rfl
  | some t => exact bind_eq_ok.mpr ⟨t, safeId_of_isSafeId (h t rfl), rfl⟩

/-- Codes that a receipt accepts. -/
structure Codes (codes : List String) : Prop where
  safe : ∀ code ∈ codes, isSafeId code = true
  nodup : codes.Nodup
  length_le : codes.length ≤ maxReasonCodes

theorem mapM_safeId {codes : List String} (h : ∀ code ∈ codes, isSafeId code = true) :
    (codes.map Value.str).mapM (fun item => safeId item label) = .ok codes := by
  induction codes with
  | nil => rfl
  | cons code rest ih =>
    rw [List.map_cons, List.mapM_cons]
    refine bind_eq_ok.mpr ⟨code, safeId_of_isSafeId (h code List.mem_cons_self), ?_⟩
    exact bind_eq_ok.mpr ⟨rest, ih fun c hc => h c (List.mem_cons_of_mem _ hc), rfl⟩

theorem Codes.identifiers {codes : List String} (h : Codes codes) (label : String) :
    identifiers (.list (codes.map .str)) label maxReasonCodes = .ok codes := by
  refine check_bind_eq_ok.mpr ⟨by rw [List.length_map]; exact h.length_le, ?_⟩
  exact bind_eq_ok.mpr ⟨codes, mapM_safeId h.safe, check_bind_eq_ok.mpr ⟨h.nodup, rfl⟩⟩

/-! ## Attempt receipts -/

namespace AttemptReceipt

/-- What the constructor asks of an attempt receipt. -/
structure Valid (r : AttemptReceipt) : Prop where
  number_range : 1 ≤ r.attemptNumber ∧ r.attemptNumber ≤ maxTiers
  tier_safe : isSafeId r.tierId = true
  rank_le : r.costRank ≤ 1000000
  request_sha : isSha256 r.requestSha256 = true
  output_sha : ∀ t ∈ r.outputSha256, isSha256 t = true
  codes : Codes r.verifierReasonCodes
  outcome : checkOutcome r.attemptStatus r.verificationStatus r.outputSha256
    r.verifierReasonCodes = .ok ()
  duration_nonneg : 0 ≤ r.durationMs
  error_tokens : r.attemptStatus = .error →
    r.inputTokens.source = .unknown ∧ r.outputTokens.source = .unknown

theorem member_attemptStatus (s : AttemptStatus) (message : String) :
    member [.abstained, .completed, .error] AttemptStatus.name (.str s.name) message = .ok s := by
  cases s <;> rfl

theorem member_verificationStatus (s : VerificationStatus) (message : String) :
    member [.escalate, .passed] VerificationStatus.name (.str s.name) message = .ok s := by
  cases s <;> rfl

theorem construct_eq_ok {r r' : AttemptReceipt}
    (h : ∀ y ∈ x, ({ r with durationMs := y } : AttemptReceipt).Valid)
    (hrest : ({ r with durationMs := 0 } : AttemptReceipt).Valid) :
    construct R { r.args with durationMs := .float x } = .ok r' ↔
      ∃ y, x = some y ∧ r' = { r with durationMs := y } := by
  unfold construct
  simp only [AttemptReceipt.args, schemaContract_self, ok_bind,
    integer_of hrest.number_range.1 hrest.number_range.2, safeId_of_isSafeId hrest.tier_safe,
    integer_of (Nat.zero_le _) hrest.rank_le, digest_of hrest.request_sha,
    optionalSha256_of hrest.output_sha, member_attemptStatus, member_verificationStatus,
    hrest.codes.identifiers, hrest.outcome, bind_eq_ok, finiteFloat_eq_ok, pure_eq_ok_iff]
  constructor
  · rintro ⟨y, ⟨hx, _⟩, _, _, heq⟩
    exact ⟨y, hx, heq.symm⟩
  · rintro ⟨y, hx, heq⟩
    exact ⟨y, ⟨hx, (h y hx).duration_nonneg⟩, (), check_of hrest.error_tokens, heq.symm⟩

theorem Valid.construct {r : AttemptReceipt} (h : r.Valid) : construct R r.args = .ok r :=
  (construct_eq_ok (r := r) (x := some r.durationMs) (fun _ hy => by cases hy; exact h)
    ⟨h.number_range, h.tier_safe, h.rank_le, h.request_sha, h.output_sha, h.codes, h.outcome,
      le_rfl, h.error_tokens⟩).mpr ⟨r.durationMs, rfl, rfl⟩

end AttemptReceipt

/-! ## Payloads -/

theorem exactFields_dict {fields : List (String × Value)} {expected : List String}
    (hexpected : ∀ name ∈ expected, name ∈ fields.map Prod.fst)
    (hfields : ∀ name ∈ fields.map Prod.fst, name ∈ expected) :
    exactFields (.dict fields) expected label =
      .ok fun name => ((fields.find? fun f => f.1 = name).map Prod.snd).getD .none := by
  refine check_bind_eq_ok.mpr ⟨?_, check_bind_eq_ok.mpr ⟨?_, rfl⟩⟩
  · exact List.filter_eq_nil_iff.mpr fun name hname h => of_decide_eq_true h (hexpected name hname)
  · exact List.filter_eq_nil_iff.mpr fun name hname h => of_decide_eq_true h (hfields name hname)

theorem TokenCount.fromPayload_payload (usage : TokenCount) :
    TokenCount.fromPayload usage.payload = .ok usage := by
  refine bind_eq_ok.mpr ⟨_, exactFields_dict (by simp) (by simp), ?_⟩
  change TokenCount.construct (.str schemaVersion) (.str "LocalCascadeTokenCountV1")
    (.str usage.source.name) (usage.count.elim .none fun n => .int n) = .ok usage
  refine bind_eq_ok.mpr ⟨(), schemaContract_self _, ?_⟩
  obtain ⟨source, count, hunknown, hle⟩ := usage
  cases source with
  | unknown =>
    cases hunknown.mp rfl
    rfl
  | actual =>
    cases count with
    | none => exact absurd (hunknown.mpr rfl) (by decide)
    | some n =>
      refine bind_eq_ok.mpr ⟨.actual, rfl, ?_⟩
      refine bind_eq_ok.mpr ⟨n, integer_of (Nat.zero_le _) (hle n rfl), ?_⟩
      rw [dif_pos ⟨by decide, hle n rfl⟩]
      rfl
  | estimated =>
    cases count with
    | none => exact absurd (hunknown.mpr rfl) (by decide)
    | some n =>
      refine bind_eq_ok.mpr ⟨.estimated, rfl, ?_⟩
      refine bind_eq_ok.mpr ⟨n, integer_of (Nat.zero_le _) (hle n rfl), ?_⟩
      rw [dif_pos ⟨by decide, hle n rfl⟩]
      rfl

theorem AttemptReceipt.Valid.fromPayload {r : AttemptReceipt} (h : r.Valid) :
    AttemptReceipt.fromPayload R r.payload = .ok r := by
  refine bind_eq_ok.mpr ⟨_, exactFields_dict (by simp [stableFields]) (by simp [stableFields]), ?_⟩
  refine bind_eq_ok.mpr ⟨r.inputTokens, TokenCount.fromPayload_payload _, ?_⟩
  refine bind_eq_ok.mpr ⟨r.outputTokens, TokenCount.fromPayload_payload _, ?_⟩
  exact h.construct

/-! ## Token totals -/

variable {t : TokenTotals}

theorem TokenTotals.construct_eq_ok {t' : TokenTotals} :
    TokenTotals.construct (.str schemaVersion) (.str "LocalCascadeTokenTotalsV1")
      (.int t.actualInputTokens) (.int t.actualOutputTokens) (.int t.estimatedInputTokens)
      (.int t.estimatedOutputTokens) (.int t.unknownInputAttempts)
      (.int t.unknownOutputAttempts) = .ok t' ↔ t.Bounded ∧ t = t' := by
  unfold TokenTotals.construct
  simp only [schemaContract_self, ok_bind, bind_eq_ok, integer_eq_ok, pure_eq_ok_iff,
    Nat.zero_le, true_and]
  constructor
  · rintro ⟨_, ⟨h1, rfl⟩, _, ⟨h2, rfl⟩, _, ⟨h3, rfl⟩, _, ⟨h4, rfl⟩, _, ⟨h5, rfl⟩, _, ⟨h6, rfl⟩, rfl⟩
    exact ⟨⟨h1, h2, h3, h4, h5, h6⟩, rfl⟩
  · rintro ⟨h, rfl⟩
    exact ⟨_, ⟨h.actualInput, rfl⟩, _, ⟨h.actualOutput, rfl⟩, _, ⟨h.estimatedInput, rfl⟩, _,
      ⟨h.estimatedOutput, rfl⟩, _, ⟨h.unknownInput, rfl⟩, _, ⟨h.unknownOutput, rfl⟩, rfl⟩

variable {attempts : List AttemptReceipt}

theorem buildTokenTotals_eq_ok : buildTokenTotals attempts = .ok t ↔
      (TokenTotals.sums attempts).Bounded ∧ TokenTotals.sums attempts = t :=
  TokenTotals.construct_eq_ok

theorem TokenTotals.fromPayload_payload (h : t.Bounded) :
    TokenTotals.fromPayload t.payload = .ok t := by
  refine bind_eq_ok.mpr ⟨_, exactFields_dict (by simp) (by simp), ?_⟩
  exact TokenTotals.construct_eq_ok.mpr ⟨h, rfl⟩

/-! ## Cascade receipts -/

namespace CascadeReceipt

/-- What the constructor asks of a receipt. -/
structure Valid (R : Runtime) (r : CascadeReceipt) : Prop where
  run_id : isRunId r.runId = true
  task_sha : isSha256 r.taskSha256 = true
  config_sha : isSha256 r.configSha256 = true
  selected_safe : ∀ t ∈ r.selectedTierId, isSafeId t = true
  selected_iff : r.status = .passed ↔ r.selectedTierId ≠ none
  attempts_range : r.attempts ≠ [] ∧ r.attempts.length ≤ maxTiers
  attempts_valid : ∀ a ∈ r.attempts, a.Valid
  count : r.attemptCount = r.attempts.length
  sequence : checkSequence r.attempts r.attemptCount = .ok ()
  duration_nonneg : 0 ≤ r.totalDurationMs
  totals : TokenTotals.sums r.attempts = r.tokenTotals
  totals_bounded : r.tokenTotals.Bounded
  status_ok : checkStatus r.status r.selectedTierId r.attempts = .ok ()
  evidence : r.evidenceSha256 = buildEvidenceSha256 R r.taskSha256 r.configSha256 r.status
    r.selectedTierId r.attempts r.tokenTotals

theorem member_runStatus (s : RunStatus) (message : String) :
    member [.allAbstained, .exhausted, .passed] RunStatus.name (.str s.name) message = .ok s := by
  cases s <;> rfl

variable {items : List (AttemptReceipt ⊕ Value)}

theorem construct_eq_ok {r r' : CascadeReceipt} (hx : ∀ y ∈ x, 0 ≤ y)
    (h : ({ r with totalDurationMs := 0 } : CascadeReceipt).Valid R)
    (hitems : readAttempts R (some items) = .ok r.attempts) :
    construct R { r.args items with totalDurationMs := .float x } = .ok r' ↔
      ∃ y, x = some y ∧ r' = { r with totalDurationMs := y } := by
  have hcount : 1 ≤ r.attemptCount ∧ r.attemptCount ≤ maxTiers := by
    rw [h.count]
    exact ⟨List.length_pos_iff.mpr h.attempts_range.1, h.attempts_range.2⟩
  have htotals : buildTokenTotals r.attempts = .ok r.tokenTotals :=
    buildTokenTotals_eq_ok.mpr ⟨h.totals ▸ h.totals_bounded, h.totals⟩
  have hevidence : isSha256 r.evidenceSha256 = true := by
    rw [h.evidence]
    exact (buildEvidenceSha256 R _ _ _ _ _ _).property
  have hone : integer (.int 1) "parallel_attempts" 1 1 = .ok 1 := integer_of le_rfl le_rfl
  unfold construct
  simp only [args, schemaContract_self, ok_bind, h.run_id, if_true, digest_of h.task_sha,
    digest_of h.config_sha, member_runStatus, optionalSafeId_of h.selected_safe,
    check_of h.selected_iff, hitems, check_of h.attempts_range, integer_of hcount.1 hcount.2,
    check_of h.count, h.sequence, htotals, h.status_ok, hone, digest_of hevidence, bind_eq_ok,
    finiteFloat_eq_ok, pure_eq_ok_iff]
  constructor
  · rintro ⟨y, ⟨hy, _⟩, _, _, _, _, _, _, _, _, heq⟩
    exact ⟨y, hy, heq.symm⟩
  · rintro ⟨y, hy, heq⟩
    exact ⟨y, ⟨hy, hx y hy⟩, (), check_of trivial, (), check_of rfl, (), check_of rfl, (),
      check_of h.evidence, heq.symm⟩

theorem readAttempts_eq_ok
    (h : List.Forall₂ (fun item a => readAttempt R item = .ok a) items attempts) :
    readAttempts R (some items) = .ok attempts := by
  change items.mapM (readAttempt R) = .ok attempts
  induction h with
  | nil => rfl
  | cons hone _ ih =>
    rw [List.mapM_cons]
    exact bind_eq_ok.mpr ⟨_, hone, bind_eq_ok.mpr ⟨_, ih, rfl⟩⟩

theorem readAttempts_inl (attempts : List AttemptReceipt) :
    readAttempts R (some (attempts.map .inl)) = .ok attempts :=
  readAttempts_eq_ok (List.forall₂_map_left_iff.mpr (List.forall₂_same.mpr fun _ _ => rfl))

theorem readAttempts_payload (h : ∀ a ∈ attempts, a.Valid) :
    readAttempts R (some ((attempts.map AttemptReceipt.payload).map .inr)) = .ok attempts :=
  readAttempts_eq_ok (List.forall₂_map_left_iff.mpr (List.forall₂_map_left_iff.mpr
    (List.forall₂_same.mpr fun a ha => (h a ha).fromPayload)))

theorem Valid.fromPayload {r : CascadeReceipt} (h : r.Valid R) :
    fromPayload R r.payload = .ok r := by
  refine bind_eq_ok.mpr ⟨_, exactFields_dict (by simp) (by simp), ?_⟩
  refine bind_eq_ok.mpr ⟨r.tokenTotals, TokenTotals.fromPayload_payload h.totals_bounded, ?_⟩
  exact (construct_eq_ok (r := r) (x := some r.totalDurationMs)
    (fun _ hy => by cases hy; exact h.duration_nonneg)
    ⟨h.run_id, h.task_sha, h.config_sha, h.selected_safe, h.selected_iff, h.attempts_range,
      h.attempts_valid, h.count, h.sequence, le_rfl, h.totals, h.totals_bounded, h.status_ok,
      h.evidence⟩ (readAttempts_payload h.attempts_valid)).mpr ⟨r.totalDurationMs, rfl, rfl⟩

end CascadeReceipt

end LocalMoe.Cascade
