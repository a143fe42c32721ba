/-
  What a manifest vouches for.
-/
import LocalMoe.Contracts.Sha256
import LocalMoe.Promotion.Evaluate

namespace LocalMoe.Promotion

open Foundation Contracts Canary Paired

/-! ## Counts that are zero -/

section Counts

variable {α κ : Type}

theorem nodup_of_repeats [DecidableEq α] {values : List α} (h : repeats values = 0) :
    values.Nodup := by
  have hlength : values.length ≤ values.dedup.length := Nat.sub_eq_zero_iff_le.mp h
  have heq := (List.dedup_sublist values).eq_of_length_le hlength
  rw [← heq]
  exact List.nodup_dedup values

theorem disjoint_of_overlap {left right : List String} (h : overlap left right = 0) :
    ∀ value ∈ left, value ∉ right := by
  intro value hleft hright
  have hmem : value ∈ left.dedup.filter fun v => decide (v ∈ right) :=
    List.mem_filter.mpr ⟨List.mem_dedup.mpr hleft, decide_eq_true hright⟩
  rw [List.eq_nil_of_length_eq_zero h] at hmem
  cases hmem

theorem not_of_countP {p : α → Bool} {l : List α} (h : l.countP p = 0) : ∀ x ∈ l, p x = false := by
  intro x hx
  exact Bool.eq_false_iff.mpr (List.countP_eq_zero.mp h x hx)

theorem find_reverse_of_nodup [DecidableEq κ] {key : α → κ} {l : List α}
    (hl : (l.map key).Nodup) {x : α} (hx : x ∈ l) :
    l.reverse.find? (fun y => decide (key y = key x)) = some x := by
  cases hfind : l.reverse.find? fun y => decide (key y = key x) with
  | none =>
    have hnot := List.find?_eq_none.mp hfind x (List.mem_reverse.mpr hx)
    exact absurd (decide_eq_true rfl) hnot
  | some y =>
    have hfound := List.find?_some hfind
    have hkey : key y = key x := of_decide_eq_true hfound
    have hy := List.mem_reverse.mp (List.mem_of_find?_eq_some hfind)
    rw [List.inj_on_of_nodup_map hl hy hx hkey]

theorem perm_flatMap_filter {β : Type} [DecidableEq κ] {f : α → κ} {g : β → κ} {keys : List β}
    (hkeys : (keys.map g).Nodup) {l : List α} (hl : ∀ x ∈ l, f x ∈ keys.map g) :
    l.Perm (keys.flatMap fun k => l.filter fun x => decide (f x = g k)) := by
  induction keys generalizing l with
  | nil =>
    cases l with
    | nil => exact List.Perm.nil
    | cons x rest => exact absurd (hl x List.mem_cons_self) List.not_mem_nil
  | cons k rest ih =>
    obtain ⟨hk, hrest⟩ := List.nodup_cons.mp hkeys
    have hothers : ∀ x ∈ l.filter fun x => !decide (f x = g k), f x ∈ rest.map g := by
      intro x hx
      obtain ⟨hx, hne⟩ := List.mem_filter.mp hx
      rcases List.mem_cons.mp (hl x hx) with heq | hmem
      · rw [heq, decide_eq_true rfl] at hne
        cases hne
      · exact hmem
    have hgroups : (rest.flatMap fun k' =>
          (l.filter fun x => !decide (f x = g k)).filter fun x => decide (f x = g k')) =
        rest.flatMap fun k' => l.filter fun x => decide (f x = g k') := by
      apply List.flatMap_congr
      intro k' hk'
      rw [List.filter_filter]
      apply List.filter_congr
      intro x _
      by_cases hx : f x = g k'
      · have hne : ¬ g k' = g k := by
          intro h
          exact hk (h ▸ List.mem_map_of_mem hk')
        simp [hx, hne]
      · simp [hx]
    rw [List.flatMap_cons]
    refine (List.filter_append_perm (fun x => decide (f x = g k)) l).symm.trans ?_
    refine List.Perm.append_left _ ?_
    rw [← hgroups]
    exact ih hrest hothers

end Counts

variable {F : Floats}

/-! ## The checks of an eligible report -/

theorem passed_of_eligible {checks : List Check}
    (hkinds : ∀ c ∈ checks, c.failureKind = "inconclusive" ∨ c.failureKind = "ineligible")
    (h : Subject.statusOf checks = "eligible") : ∀ c ∈ checks, c.passed = true := by
  intro c hc
  by_contra hfailed
  have hmem : c.failureKind ∈ (checks.filter fun c => !c.passed).map Check.failureKind := by
    refine List.mem_map_of_mem (List.mem_filter.mpr ⟨hc, ?_⟩)
    rw [Bool.eq_false_iff.mpr hfailed]
    rfl
  simp only [Subject.statusOf] at h
  rcases hkinds c hc with hkind | hkind
  · rw [hkind] at hmem
    simp [hmem] at h
  · rw [hkind] at hmem
    split at h
    · exact absurd h (by decide)
    · exact absurd h (by simp)

/-- What the checks that bear on the evidence say. -/
structure Subject.Clean (s : Subject F) : Prop where
  proofComplete : s.proofComplete = true
  timing : s.timingOk = true
  training : s.trainingTimingErrors = 0 ∧ s.trainingAttestationErrors = 0
  trainingReplay : s.trainingReplayErrors = 0
  disjoint : s.overlapCount = 0
  holdoutReplay : s.holdoutReplayErrors = 0
  taskSet : s.exactTaskSet = true
  pairs : pairErrors s.verdicts = 0 ∧ lineageErrors s.verdicts = 0
  fresh : s.freshnessErrors = 0 ∧ s.skewErrors = 0

variable {s : Subject F}

theorem Subject.clean_of_eligible (h : s.report.status = "eligible") : s.Clean := by
  have hpassed : ∀ c ∈ s.checks, c.passed = true := by
    refine passed_of_eligible ?_ h
    intro c hc
    simp only [Subject.checks, List.mem_cons, List.not_mem_nil, or_false] at hc
    rcases hc with rfl | rfl | rfl | rfl | rfl | rfl | rfl | rfl | rfl | rfl | rfl | rfl | rfl |
      rfl | rfl | rfl | rfl | rfl | rfl | rfl | rfl | rfl <;> simp
  simp only [Subject.checks, List.forall_mem_cons, decide_eq_true_eq] at hpassed
  obtain ⟨hproof, _, _, htiming, ⟨htraining, hattestation, _⟩, hreplay, _, hdisjoint, hholdout, _,
    htasks, ⟨hpairs, hlineage, _⟩, _, _, hfresh, _⟩ := hpassed
  exact ⟨hproof, htiming, ⟨htraining, hattestation⟩, hreplay, hdisjoint, hholdout, htasks,
    ⟨hpairs, hlineage⟩, hfresh⟩

/-! ## Proofs -/

variable {a : Arguments F} {r : OutcomeRecord F}

theorem provenRecord_eq_some {verifier : PairedVerifier F} {pricing : PricingContract}
    {entry : OutcomeRecord F × PairedProof F} (h : provenRecord a verifier pricing r = some entry) :
    entry.1 = r ∧ verifier.verifyRecord r pricing = .ok entry.2 := by
  unfold provenRecord at h
  split at h
  · next proof hproof =>
    cases h
    obtain ⟨proof', hverify, hproof⟩ := bind_eq_ok.mp hproof
    obtain ⟨_, hproof⟩ := check_bind_eq_ok.mp hproof
    obtain ⟨_, hproof⟩ := check_bind_eq_ok.mp hproof
    obtain ⟨_, hproof⟩ := check_bind_eq_ok.mp hproof
    cases hproof
    exact ⟨rfl, hverify⟩
  · cases h

variable {records : List (OutcomeRecord F)}

theorem records_of_proofs {verifier : PairedVerifier F} {pricing : PricingContract}
    (h : ∀ r ∈ records, (provenRecord a verifier pricing r).isNone = false) :
    (records.filterMap (provenRecord a verifier pricing)).map Prod.fst = records := by
  induction records with
  | nil => rfl
  | cons r rest ih =>
    have hrest := ih fun r' hr' => h r' (List.mem_cons_of_mem _ hr')
    cases hproven : provenRecord a verifier pricing r with
    | none =>
      have hfirst := h r List.mem_cons_self
      rw [hproven] at hfirst
      cases hfirst
    | some entry =>
      rw [List.filterMap_cons_some hproven, List.map_cons, hrest, (provenRecord_eq_some hproven).1]

theorem Subject.Clean.proven (h : s.Clean) :
    ∃ verifier pricing, s.verifier = some verifier ∧ s.plan.pricingContract = some pricing ∧
      ∀ r ∈ s.trainingSet ++ s.holdoutSet, ∃ proof,
        verifier.verifyRecord r pricing = .ok proof ∧ s.proofs.get r.recordId = some proof := by
  have hcomplete := of_decide_eq_true h.proofComplete
  obtain ⟨_, _, _, _, _, herrors, hsize⟩ := hcomplete
  unfold Subject.proofs verifyPairedRecordSets at herrors hsize ⊢
  split at herrors
  · next verifier pricing hverifier hpricing =>
    have hnone := not_of_countP herrors
    have hrecords := records_of_proofs hnone
    refine ⟨verifier, pricing, hverifier, hpricing, fun r hr => ?_⟩
    simp only [hverifier, hpricing] at hsize ⊢
    cases hproven : provenRecord s.toArguments verifier pricing r with
    | none =>
      have hr' := hnone r hr
      rw [hproven] at hr'
      cases hr'
    | some entry =>
      obtain ⟨hentry, hverify⟩ := provenRecord_eq_some hproven
      refine ⟨entry.2, hverify, ?_⟩
      have hmem : entry ∈ (s.trainingSet ++ s.holdoutSet).filterMap
          (provenRecord s.toArguments verifier pricing) :=
        List.mem_filterMap.mpr ⟨r, hr, hproven⟩
      have hids : (((s.trainingSet ++ s.holdoutSet).filterMap
          (provenRecord s.toArguments verifier pricing)).map fun e => e.1.recordId).Nodup := by
        apply nodup_of_repeats
        unfold repeats
        unfold ProofSet.size at hsize
        rw [hsize, List.length_map, ← List.length_map (f := Prod.fst), hrecords, Nat.sub_self]
      have hfind := find_reverse_of_nodup hids hmem
      unfold ProofSet.get
      rw [← hentry]
      exact congrArg (Option.map Prod.snd) hfind
  · exact absurd herrors Nat.one_ne_zero

/-! ## Pairs -/

/-- The two records of a case are its arms in one run of the plan, in the order the case
declares. -/
structure PairedAsPlanned (S : Stdlib) (plan : EvidencePlan) (time : OutcomeRecord F → Instant)
    (p : Pair F) : Prop where
  routes : p.baseline.plannedRoute = p.case.baselineRoute ∧
    p.candidate.plannedRoute = p.case.candidateRoute
  carries : ∀ r ∈ [p.baseline, p.candidate], r.taskFingerprint = p.case.taskFingerprint ∧
    r.profile = p.case.profile ∧ r.capabilities = p.case.capabilities ∧
    r.difficulty = p.case.difficulty ∧ r.configSha256 = p.case.configSha256 ∧
    r.signalProviderConfigSha256 = p.case.signalProviderConfigSha256 ∧
    r.runtimePlanSha256 = p.case.runtimePlanSha256
  run : ∃ baseline candidate, p.baseline.pairedRun = some baseline ∧
    p.candidate.pairedRun = some candidate ∧
    baseline.Expected p.case (S.sha256Json p.case.payload) plan.planSha256 ∧
    candidate.Expected p.case (S.sha256Json p.case.payload) plan.planSha256 ∧
    baseline.SameRun candidate ∧ baseline.arm = .baseline ∧ candidate.arm = .candidate ∧
    baseline.claimSha256 ≠ candidate.claimSha256 ∧
    (inOrder p.case.order baseline candidate).1.ordinal = 0 ∧
    (inOrder p.case.order baseline candidate).2.ordinal = 1 ∧
    (inOrder p.case.order baseline candidate).2.previousRecordId =
      some (inOrder p.case.order p.baseline p.candidate).1.recordId
  ordered : time (inOrder p.case.order p.baseline p.candidate).1 <
    time (inOrder p.case.order p.baseline p.candidate).2

/-- What the loop made a pair of. -/
structure Judged (S : Stdlib) (plan : EvidencePlan) (holdout : List (OutcomeRecord F))
    (p : Pair F) : Prop where
  records : (holdout.filter fun r => decide (r.taskFingerprint = p.case.taskFingerprint)).Perm
    [p.baseline, p.candidate]
  routes : p.baseline.plannedRoute = p.case.baselineRoute ∧
    p.candidate.plannedRoute = p.case.candidateRoute
  static : pairStaticMatchesPlan p.case p.baseline p.candidate = true
  lineage : pairedLineageMatchesPlan S plan p.case p.baseline p.candidate = true

variable {S : Stdlib} {plan : EvidencePlan} {c : PromotionCase}

theorem pairOfRecords_eq_paired {baseline candidate : OutcomeRecord F} {p : Pair F}
    (h : pairOfRecords S plan c baseline candidate = .paired p) :
    p = ⟨c, baseline, candidate⟩ ∧ pairStaticMatchesPlan c baseline candidate = true ∧
      pairedLineageMatchesPlan S plan c baseline candidate = true := by
  unfold pairOfRecords at h
  split at h
  · cases h
  · next hstatic =>
    split at h
    · cases h
    · next hlineage =>
      cases h
      exact ⟨rfl, Bool.eq_true_of_not_eq_false hstatic, Bool.eq_true_of_not_eq_false hlineage⟩

variable {holdout : List (OutcomeRecord F)}

theorem judgeCase_eq_paired {p : Pair F} (h : judgeCase S plan holdout c = .paired p) :
    p.case = c ∧ Judged S plan holdout p := by
  unfold judgeCase at h
  split at h
  · next first second hfilter =>
    split at h
    · cases h
    · split at h
      · next hroutes =>
        obtain ⟨rfl, hstatic, hlineage⟩ := pairOfRecords_eq_paired h
        exact ⟨rfl, List.Perm.of_eq hfilter, hroutes, hstatic, hlineage⟩
      · split at h
        · next hroutes =>
          obtain ⟨rfl, hstatic, hlineage⟩ := pairOfRecords_eq_paired h
          exact ⟨rfl, hfilter ▸ List.Perm.swap _ _ _, hroutes.symm, hstatic, hlineage⟩
        · cases h
  · cases h

theorem pairOfRecords_invalid {baseline candidate : OutcomeRecord F} {errors : Nat}
    (h : pairOfRecords S plan c baseline candidate = .invalid errors) : 0 < errors := by
  unfold pairOfRecords at h
  split at h
  · cases h
    exact Nat.one_pos
  · split at h <;> cases h

theorem judgeCase_invalid {errors : Nat} (h : judgeCase S plan holdout c = .invalid errors) :
    0 < errors := by
  unfold judgeCase at h
  split at h
  · split at h
    · cases h
      exact Nat.two_pos
    · split at h
      · exact pairOfRecords_invalid h
      · split at h
        · exact pairOfRecords_invalid h
        · cases h
          exact Nat.one_pos
  · cases h
    exact Nat.one_pos

@[simp] theorem pairsOf_paired (p : Pair F) (rest : List (CaseVerdict F)) :
    pairsOf (.paired p :: rest) = p :: pairsOf rest := rfl

@[simp] theorem pairErrors_invalid (errors : Nat) (rest : List (CaseVerdict F)) :
    pairErrors (.invalid errors :: rest) = errors + pairErrors rest := by
  simp [pairErrors]

@[simp] theorem pairErrors_paired (p : Pair F) (rest : List (CaseVerdict F)) :
    pairErrors (.paired p :: rest) = pairErrors rest := by
  simp [pairErrors]

@[simp] theorem lineageErrors_unbound (rest : List (CaseVerdict F)) :
    lineageErrors (.unbound :: rest) = lineageErrors rest + 1 := by
  simp [lineageErrors]

@[simp] theorem lineageErrors_paired (p : Pair F) (rest : List (CaseVerdict F)) :
    lineageErrors (.paired p :: rest) = lineageErrors rest := by
  simp [lineageErrors]

theorem pairs_of_no_errors {cases : List PromotionCase}
    (hpairs : pairErrors (cases.map (judgeCase S plan holdout)) = 0)
    (hlineage : lineageErrors (cases.map (judgeCase S plan holdout)) = 0) :
    (pairsOf (cases.map (judgeCase S plan holdout))).map Pair.case = cases ∧
      ∀ p ∈ pairsOf (cases.map (judgeCase S plan holdout)), Judged S plan holdout p := by
  induction cases with
  | nil => exact ⟨rfl, fun _ hp => by cases hp⟩
  | cons c rest ih =>
    rw [List.map_cons] at hpairs hlineage ⊢
    cases hverdict : judgeCase S plan holdout c with
    | invalid errors =>
      have hpositive := judgeCase_invalid hverdict
      rw [hverdict, pairErrors_invalid] at hpairs
      omega
    | unbound =>
      rw [hverdict, lineageErrors_unbound] at hlineage
      omega
    | paired p =>
      rw [hverdict, pairErrors_paired] at hpairs
      rw [hverdict, lineageErrors_paired] at hlineage
      obtain ⟨hcases, hjudged⟩ := ih hpairs hlineage
      obtain ⟨hcase, hp⟩ := judgeCase_eq_paired hverdict
      rw [pairsOf_paired, List.map_cons, hcases, hcase]
      refine ⟨rfl, fun p' hp' => ?_⟩
      rcases List.mem_cons.mp hp' with rfl | hp'
      · exact hp
      · exact hjudged p' hp'

theorem Judged.planned {p : Pair F} (h : Judged S plan holdout p) {time : OutcomeRecord F → Instant}
    (htime : time (inOrder p.case.order p.baseline p.candidate).1 <
      time (inOrder p.case.order p.baseline p.candidate).2) : PairedAsPlanned S plan time p := by
  have hstatic := h.static
  have hlineage := h.lineage
  unfold pairStaticMatchesPlan at hstatic
  obtain ⟨hbaseline, hcandidate, _⟩ := of_decide_eq_true hstatic
  unfold pairedLineageMatchesPlan at hlineage
  split at hlineage
  · next baseline candidate _ _ _ hb hd _ _ =>
    obtain ⟨_, _, _, _, _, _, hbExpected, hdExpected, _, hsame, hbArm, _, _, hdArm, _, _, hclaims,
      hfirst, hsecond, _, hprevious, _⟩ := of_decide_eq_true hlineage
    refine ⟨h.routes, ?_, ⟨baseline, candidate, hb, hd, hbExpected, hdExpected, hsame, hbArm,
      hdArm, hclaims, hfirst, hsecond, hprevious⟩, htime⟩
    intro r hr
    rcases List.mem_cons.mp hr with rfl | hr
    · exact hbaseline
    · rw [List.mem_singleton.mp hr]
      exact hcandidate
  · cases hlineage

/-! ## The window -/

theorem wholeSeconds_le (t : Instant) : wholeSeconds t ≤ t := by
  exact Int.sub_le_self t (Int.emod_nonneg t (by decide))

theorem Subject.validUntil_le {v : Instant} (h : s.holdoutValidUntil records = some v) :
    ∀ r ∈ records, v ≤ s.candidateTime r + seconds s.gatePolicy.maximumHoldoutAgeSeconds := by
  induction records generalizing v with
  | nil => cases h
  | cons first rest ih =>
    unfold Subject.holdoutValidUntil at h
    split at h
    · next hrest =>
      cases h
      intro r hr
      rcases List.mem_cons.mp hr with rfl | hr
      · exact le_rfl
      · cases rest with
        | nil => cases hr
        | cons second others =>
          unfold Subject.holdoutValidUntil at hrest
          split at hrest <;> cases hrest
    · next earliest hrest =>
      cases h
      intro r hr
      rcases List.mem_cons.mp hr with rfl | hr
      · exact min_le_left _ _
      · exact (min_le_right _ _).trans (ih hrest r hr)

/-! ## What a manifest vouches for -/

/-- The evidence behind a manifest: the pairs of the plan are the whole holdout, training
and holdout are apart, and the times are in order.  The proof of a record is what the
verifier made of it. -/
structure Vouched (environment : Environment F) (a : Arguments F) (m : Manifest F)
    (proof : OutcomeRecord F → PairedProof F) (pairs : List (Pair F)) : Prop where
  cases : pairs.map Pair.case = a.plan.cases
  bijection : a.holdout.Perm (pairs.flatMap fun p => [p.baseline, p.candidate])
  distinct : (a.holdout.map OutcomeRecord.recordId).Nodup
  planned : ∀ p ∈ pairs, PairedAsPlanned environment.stdlib a.plan
    (fun r => F.fromTimestamp (proof r).candidateCreatedAt) p
  apart : ∀ r ∈ a.training, ∀ h ∈ a.holdout, r.taskFingerprint ≠ h.taskFingerprint ∧
    r.recordId ≠ h.recordId ∧ r.routeReceiptId ≠ h.routeReceiptId ∧
    r.routeReceiptSha256 ≠ h.routeReceiptSha256 ∧ r.evidenceSha256 ≠ h.evidenceSha256 ∧
    (proof r).binding.normalizedItemSha256 ≠ (proof h).binding.normalizedItemSha256
  receipts : (a.training.map OutcomeRecord.routeReceiptId).Nodup ∧
    (a.training.map OutcomeRecord.routeReceiptSha256).Nodup ∧
    (a.holdout.map OutcomeRecord.routeReceiptId).Nodup ∧
    (a.holdout.map OutcomeRecord.routeReceiptSha256).Nodup
  trained : ∀ r ∈ a.training,
    F.fromTimestamp (proof r).candidateCreatedAt ≤ a.scorecard.generatedAt ∧
    F.Le (proof r).latestAttestationIssuedAt (F.timestamp a.scorecard.generatedAt)
  preregistered : a.scorecard.generatedAt ≤ a.plan.createdAt
  heldOut : ∀ r ∈ a.holdout, a.plan.createdAt ≤ F.fromTimestamp (proof r).candidateCreatedAt ∧
    F.fromTimestamp (proof r).candidateCreatedAt ≤ a.evaluatedAt
  window : m.notBefore = a.evaluatedAt ∧ m.expiresAt ≤ a.scorecard.expiresAt ∧
    m.expiresAt ≤ a.evaluatedAt + seconds a.plan.manifestTtlSeconds ∧
    ∀ r ∈ a.holdout, m.expiresAt ≤ F.fromTimestamp (proof r).candidateCreatedAt +
      seconds a.gatePolicy.maximumHoldoutAgeSeconds
  lineage : m.planSha256 = a.plan.planSha256 ∧ m.gatePolicyDigest = a.gatePolicy.digest ∧
    m.routePolicyDigest = a.routePolicy.digest ∧ m.scorecardDigest = a.scorecard.digest ∧
    m.trainingSourceDigest = a.plan.trainingSourceDigest ∧
    m.canaryBasisPoints ≤ a.gatePolicy.maximumCanaryBasisPoints

theorem normalizeRecords_eq_ok {normalised : List (OutcomeRecord F)} {label : String}
    (h : normalizeRecords records label = .ok normalised) :
    (records.map OutcomeRecord.recordId).Nodup ∧ normalised.Perm records := by
  obtain ⟨hnodup, h⟩ := check_bind_eq_ok.mp h
  cases h
  exact ⟨hnodup, List.perm_insertionSort _ _⟩

theorem validateStaticBindings_eq_ok {profilePolicy : RouteProfilePolicy F}
    (h : validateStaticBindings a = .ok profilePolicy) :
    a.plan.trainingSourceDigest = a.scorecard.sourceDigest ∧
      a.plan.canaryBasisPoints ≤ a.gatePolicy.maximumCanaryBasisPoints := by
  obtain ⟨hdigests, h⟩ := check_bind_eq_ok.mp h
  split at h
  · cases h
  · obtain ⟨hcap, _⟩ := check_bind_eq_ok.mp h
    exact ⟨hdigests.2.2.1, hcap⟩

theorem evaluateRoutePromotion_eq_ok {environment : Environment F} {report : Report F}
    {m : Manifest F} (h : evaluateRoutePromotion environment a = .ok (report, some m)) :
    ∃ s : Subject F, ∃ validUntil, s.toArguments = a ∧ s.environment = environment ∧
      s.trainingSet.Perm a.training ∧ s.holdoutSet.Perm a.holdout ∧
      (a.holdout.map OutcomeRecord.recordId).Nodup ∧
      a.plan.trainingSourceDigest = a.scorecard.sourceDigest ∧
      a.plan.canaryBasisPoints ≤ a.gatePolicy.maximumCanaryBasisPoints ∧
      s.report.status = "eligible" ∧ s.holdoutValidUntil s.holdoutSet = some validUntil ∧
      m = s.manifest validUntil := by
  obtain ⟨trainingSet, htraining, h⟩ := bind_eq_ok.mp h
  obtain ⟨holdoutSet, hholdout, h⟩ := bind_eq_ok.mp h
  obtain ⟨_, h⟩ := check_bind_eq_ok.mp h
  obtain ⟨profilePolicy, hbindings, h⟩ := bind_eq_ok.mp h
  obtain ⟨_, h⟩ := check_bind_eq_ok.mp h
  obtain ⟨_, _, h⟩ := bind_eq_ok.mp h
  obtain ⟨_, h⟩ := check_bind_eq_ok.mp h
  obtain ⟨_, htrainingPerm⟩ := normalizeRecords_eq_ok htraining
  obtain ⟨hids, hholdoutPerm⟩ := normalizeRecords_eq_ok hholdout
  obtain ⟨hsource, hcap⟩ := validateStaticBindings_eq_ok hbindings
  dsimp only at h
  split at h
  · next heligible =>
    split at h
    · cases h
    · next validUntil hvalid =>
      cases h
      exact ⟨_, validUntil, rfl, rfl, htrainingPerm, hholdoutPerm, hids, hsource, hcap,
        heligible, hvalid, rfl⟩
  · cases h

theorem Subject.Clean.pairing (h : s.Clean) : s.pairs.map Pair.case = s.plan.cases ∧
      (∀ p ∈ s.pairs, Judged s.environment.stdlib s.plan s.holdoutSet p) ∧
      s.holdoutSet.Perm (s.pairs.flatMap fun p => [p.baseline, p.candidate]) := by
  obtain ⟨hcases, hjudged⟩ := pairs_of_no_errors h.pairs.1 h.pairs.2
  refine ⟨hcases, hjudged, ?_⟩
  have hkeys : s.pairs.map (PromotionCase.taskFingerprint ∘ Pair.case) =
      s.plan.cases.map PromotionCase.taskFingerprint := by
    rw [← List.map_map]
    exact congrArg _ hcases
  have hgroups : s.holdoutSet.Perm (s.pairs.flatMap fun p =>
      s.holdoutSet.filter fun r => decide (r.taskFingerprint = p.case.taskFingerprint)) := by
    apply perm_flatMap_filter (g := PromotionCase.taskFingerprint ∘ Pair.case)
    · rw [hkeys]
      exact s.plan.uniqueTasks
    · rw [hkeys]
      exact (of_decide_eq_true h.taskSet).1
  exact hgroups.trans (List.Perm.flatMap_left _ fun p hp => (hjudged p hp).records)

theorem Subject.Clean.times (h : s.Clean) :
    (∀ r ∈ s.holdoutSet, s.plan.createdAt ≤ s.candidateTime r ∧
      s.candidateTime r ≤ s.evaluatedAt) ∧
    ∀ p ∈ s.pairs, s.candidateTime (inOrder p.case.order p.baseline p.candidate).1 <
      s.candidateTime (inOrder p.case.order p.baseline p.candidate).2 := by
  obtain ⟨_, _, hperm⟩ := h.pairing
  constructor
  · intro r hr
    have hnot := of_decide_eq_false (not_of_countP h.fresh.1 r (hperm.mem_iff.mp hr))
    obtain ⟨hplan, hevaluated, _⟩ := (not_or.mp hnot).imp_right not_or.mp
    exact ⟨not_lt.mp hplan, not_lt.mp hevaluated⟩
  · intro p hp
    have hnot := of_decide_eq_false (not_of_countP h.fresh.2 p hp)
    have hordered := not_le.mp (not_or.mp hnot).1
    cases horder : p.case.order <;> rw [horder] at hordered <;> exact hordered

theorem apart_of_overlap {training : List (OutcomeRecord F)} {field : OutcomeRecord F → String}
    (h : overlap (training.map field) (holdout.map field) = 0) :
    ∀ r ∈ training, ∀ r' ∈ holdout, field r ≠ field r' := by
  intro r hr r' hr' heq
  exact disjoint_of_overlap h _ (List.mem_map_of_mem hr) (heq ▸ List.mem_map_of_mem hr')

theorem ProofSet.mem_items {p : ProofSet F} (hr : r ∈ records) {proof : PairedProof F}
    (hproof : p.get r.recordId = some proof) :
    proof.binding.normalizedItemSha256 ∈ p.items records :=
  List.mem_filterMap.mpr ⟨r, hr, congrArg (Option.map _) hproof⟩

theorem Subject.candidateTime_of_get {proof : PairedProof F}
    (h : s.proofs.get r.recordId = some proof) :
    s.candidateTime r = F.fromTimestamp proof.candidateCreatedAt := by
  unfold Subject.candidateTime ProofSet.candidateTime
  rw [h]

theorem Subject.Clean.vouched (h : s.Clean) {validUntil : Instant}
    (hvalid : s.holdoutValidUntil s.holdoutSet = some validUntil)
    (htraining : s.trainingSet.Perm s.training) (hholdout : s.holdoutSet.Perm s.holdout)
    (hids : (s.holdout.map OutcomeRecord.recordId).Nodup)
    (hsource : s.plan.trainingSourceDigest = s.scorecard.sourceDigest)
    (hcap : s.plan.canaryBasisPoints ≤ s.gatePolicy.maximumCanaryBasisPoints)
    {proof : OutcomeRecord F → PairedProof F}
    (hproof : ∀ r ∈ s.training ++ s.holdout, s.proofs.get r.recordId = some (proof r)) :
    Vouched s.environment s.toArguments (s.manifest validUntil) proof s.pairs := by
  obtain ⟨hcases, hjudged, hperm⟩ := h.pairing
  obtain ⟨hwindow, hordered⟩ := h.times
  have htime : ∀ r ∈ s.training ++ s.holdout,
      s.candidateTime r = F.fromTimestamp (proof r).candidateCreatedAt := fun r hr =>
    Subject.candidateTime_of_get (hproof r hr)
  have hmemTraining : ∀ r ∈ s.training, r ∈ s.trainingSet := fun r hr => htraining.mem_iff.mpr hr
  have hmemHoldout : ∀ r ∈ s.holdout, r ∈ s.holdoutSet := fun r hr => hholdout.mem_iff.mpr hr
  have harm : ∀ p ∈ s.pairs, p.baseline ∈ s.holdout ∧ p.candidate ∈ s.holdout := by
    intro p hp
    have hmem : ∀ r ∈ [p.baseline, p.candidate], r ∈ s.holdout := fun r hr =>
      hholdout.mem_iff.mp (hperm.mem_iff.mpr (List.mem_flatMap.mpr ⟨p, hp, hr⟩))
    exact ⟨hmem _ List.mem_cons_self, hmem _ (List.mem_cons_of_mem _ List.mem_cons_self)⟩
  constructor
  · exact hcases
  · exact hholdout.symm.trans hperm
  · exact hids
  · intro p hp
    apply (hjudged p hp).planned
    have hlt := hordered p hp
    obtain ⟨hbaseline, hcandidate⟩ := harm p hp
    have hb := htime _ (List.mem_append_right _ hbaseline)
    have hc := htime _ (List.mem_append_right _ hcandidate)
    cases horder : p.case.order <;> rw [horder] at hlt <;> simpa [inOrder, hb, hc] using hlt
  · have hcounts := h.disjoint
    simp only [Subject.overlapCount, Nat.add_eq_zero_iff] at hcounts
    obtain ⟨⟨⟨⟨⟨htask, hrecord⟩, hreceipt⟩, hdigest⟩, hevidence⟩, hitems⟩ := hcounts
    intro r hr r' hr'
    have hr₁ := hmemTraining r hr
    have hr₂ := hmemHoldout r' hr'
    refine ⟨apart_of_overlap htask r hr₁ r' hr₂, apart_of_overlap hrecord r hr₁ r' hr₂,
      apart_of_overlap hreceipt r hr₁ r' hr₂, apart_of_overlap hdigest r hr₁ r' hr₂,
      apart_of_overlap hevidence r hr₁ r' hr₂, ?_⟩
    intro heq
    refine disjoint_of_overlap hitems _
      (ProofSet.mem_items hr₁ (hproof r (List.mem_append_left _ hr))) ?_
    rw [heq]
    exact ProofSet.mem_items hr₂ (hproof r' (List.mem_append_right _ hr'))
  · have htrainingCounts := h.trainingReplay
    have hholdoutCounts := h.holdoutReplay
    simp only [Subject.trainingReplayErrors, Subject.holdoutReplayErrors,
      Nat.add_eq_zero_iff] at htrainingCounts hholdoutCounts
    obtain ⟨⟨hids₁, hdigests₁⟩, _⟩ := htrainingCounts
    obtain ⟨⟨hids₂, hdigests₂⟩, _⟩ := hholdoutCounts
    exact ⟨(htraining.map _).nodup_iff.mp (nodup_of_repeats hids₁),
      (htraining.map _).nodup_iff.mp (nodup_of_repeats hdigests₁),
      (hholdout.map _).nodup_iff.mp (nodup_of_repeats hids₂),
      (hholdout.map _).nodup_iff.mp (nodup_of_repeats hdigests₂)⟩
  · intro r hr
    have hget := hproof r (List.mem_append_left _ hr)
    have hcandidate := of_decide_eq_false (not_of_countP h.training.1 r (hmemTraining r hr))
    have hattestation := of_decide_eq_false (not_of_countP h.training.2 r (hmemTraining r hr))
    rw [htime r (List.mem_append_left _ hr)] at hcandidate
    refine ⟨not_lt.mp hcandidate, not_lt.mp fun hlt => hattestation ⟨proof r, ?_, hlt⟩⟩
    exact hget
  · exact (of_decide_eq_true h.timing).1
  · intro r hr
    rw [← htime r (List.mem_append_right _ hr)]
    exact hwindow r (hmemHoldout r hr)
  · have hexpiry := wholeSeconds_le (min (min (s.evaluatedAt + seconds s.plan.manifestTtlSeconds)
      s.scorecard.expiresAt) validUntil)
    refine ⟨rfl, hexpiry.trans ((min_le_left _ _).trans (min_le_right _ _)),
      hexpiry.trans ((min_le_left _ _).trans (min_le_left _ _)), fun r hr => ?_⟩
    rw [← htime r (List.mem_append_right _ hr)]
    exact hexpiry.trans ((min_le_right _ _).trans
      (Subject.validUntil_le hvalid r (hmemHoldout r hr)))
  · exact ⟨rfl, rfl, rfl, rfl, hsource.symm, hcap⟩

/-- Whenever a manifest is issued, the verifier has proved every record, and the evidence is
complete, apart and in order. -/
theorem manifest_vouched (environment : Environment F) (a : Arguments F) (report : Report F)
    (m : Manifest F) (h : evaluateRoutePromotion environment a = .ok (report, some m)) :
    ∃ verifier pricing, ∃ proof : OutcomeRecord F → PairedProof F, ∃ pairs,
      a.verifier = some verifier ∧ a.plan.pricingContract = some pricing ∧
      (∀ r ∈ a.training ++ a.holdout, verifier.verifyRecord r pricing = .ok (proof r)) ∧
      Vouched environment a m proof pairs := by
  obtain ⟨s, validUntil, rfl, rfl, htraining, hholdout, hids, hsource, hcap, heligible, hvalid,
    rfl⟩ := evaluateRoutePromotion_eq_ok h
  have hclean := Subject.clean_of_eligible heligible
  obtain ⟨verifier, pricing, hverifier, hpricing, hproven⟩ := hclean.proven
  have hmem : ∀ r, r ∈ s.training ++ s.holdout → r ∈ s.trainingSet ++ s.holdoutSet := fun r hr =>
    (htraining.append hholdout).mem_iff.mpr hr
  obtain ⟨first, hfirst⟩ : ∃ r, r ∈ s.holdoutSet := by
    cases hset : s.holdoutSet with
    | nil =>
      rw [hset] at hvalid
      cases hvalid
    | cons r rest => exact ⟨r, List.mem_cons_self⟩
  obtain ⟨default, _⟩ := hproven first (List.mem_append_right _ hfirst)
  have hchoice : ∀ r, ∃ proof, r ∈ s.training ++ s.holdout →
      verifier.verifyRecord r pricing = .ok proof ∧ s.proofs.get r.recordId = some proof := by
    intro r
    by_cases hr : r ∈ s.training ++ s.holdout
    · obtain ⟨proof, hproof⟩ := hproven r (hmem r hr)
      exact ⟨proof, fun _ => hproof⟩
    · exact ⟨default, fun h => absurd h hr⟩
  choose proof hproof using hchoice
  exact ⟨verifier, pricing, proof, s.pairs, hverifier, hpricing, fun r hr => (hproof r hr).1,
    hclean.vouched hvalid htraining hholdout hids hsource hcap fun r hr => (hproof r hr).2⟩


/-! ## A plan of one case -/

def sampleFloats : Floats where
  Float := ℚ
  value x := x
  ofNat n := n
  ofDecimal x := x
  toDecimal x := x
  infinity := 10 ^ 400
  add a b := a + b
  sub a b := a - b
  mul a b := a * b
  div a b := a / b
  sqrt x := Nat.sqrt (x * 10 ^ 12).floor.toNat / 10 ^ 6
  ceil x := x.ceil
  invCdf _ := 16449 / 10000
  round6 x := (x * 10 ^ 6 + 1 / 2).floor / 10 ^ 6
  fromTimestamp x := (x * 10 ^ 6).floor
  timestamp t := t / 10 ^ 6
  totalSeconds d := d / 10 ^ 6

def sampleCase : PromotionCase where
  taskFingerprint := "task"
  normalizedItemSha256 := "item"
  profile := "balanced"
  capabilities := []
  difficulty := .simple
  baselineRoute := .premium
  candidateRoute := .localOnly
  order := .ab
  configSha256 := "config"
  signalProviderConfigSha256 := "signals"
  runtimePlanSha256 := "runtime"
  lessPremium := Nat.pos_of_ne_zero (by decide)

local instance neZero_arms : NeZero 2 := ⟨by decide⟩

def sampleBinding (task item caseSha256 : String) (arm : Arm) : OutcomeBinding where
  bindingSha256 := task ++ (if arm = .baseline then "-binding-a" else "-binding-b")
  runId := task ++ "-run"
  planSha256 := "plan"
  caseSha256 := caseSha256
  taskFingerprint := task
  normalizedItemSha256 := item
  sourceSnapshotSha256 := "snapshot"
  bridgeConfigSha256 := "config"
  executorConfigSha256 := "executor"
  executionHarnessSha256 := "harness"
  lifecycleConfigSha256 := "lifecycle"
  signalsSha256 := "signals"
  runnerSha256 := "runner"
  runnerSourceSha256 := "source"
  pricingSha256 := "pricing"
  runInstanceNonce := task ++ "-nonce"
  order := .ab
  baselineRoute := .premium
  candidateRoute := .localOnly
  slot := if arm = .baseline then .a else .b
  arm := arm
  ordinal := if arm = .baseline then 0 else 1
  route := if arm = .baseline then .premium else .localOnly
  claimSha256 := task ++ (if arm = .baseline then "-claim-a" else "-claim-b")
  previousRecordId := if arm = .baseline then none else some (task ++ "-a")

def sampleRecord (task item caseSha256 : String) (arm : Arm) (second : Nat) :
    OutcomeRecord sampleFloats where
  recordId := task ++ (if arm = .baseline then "-a" else "-b")
  createdAt := seconds second
  routeReceiptId := task ++ (if arm = .baseline then "-receipt-a" else "-receipt-b")
  routeReceiptSha256 := task ++ (if arm = .baseline then "-digest-a" else "-digest-b")
  taskFingerprint := task
  configSha256 := "config"
  signalProviderConfigSha256 := "signals"
  runtimePlanSha256 := "runtime"
  profile := "balanced"
  plannedRoute := if arm = .baseline then .premium else .localOnly
  finalProvider := some "provider"
  capabilities := []
  difficulty := .simple
  confidence := (1 : ℚ)
  source := "user"
  abstained := false
  outcome := .passed
  evidenceStrength := .deterministic
  evidenceSha256 := task ++ (if arm = .baseline then "-evidence-a" else "-evidence-b")
  failureClass := "none"
  latencyMs := 100
  promptTokens := 1
  completionTokens := 1
  premiumCalls := if arm = .baseline then 1 else 0
  remotePayloadChars := 0
  providerRuntimeSha256 := none
  model := some "model"
  pairedRun := some (sampleBinding task item caseSha256 arm)
  pairedCost := some ⟨"pricing", [], ⟨1, 1, "provider", "model", none⟩, 0, true⟩

def sampleVerifier : PairedVerifier sampleFloats where
  policySha256 := "policy"
  runnerSourceSha256 := "source"
  configurationSha256 := "verifier"
  verifyRecord r _ :=
    match r.pairedRun with
    | none => .error ⟨"Outcome has no reconstructible paired attestation receipt."⟩
    | some binding => .ok ⟨binding, ["verifier"], sampleFloats.timestamp r.createdAt,
        sampleFloats.timestamp (r.createdAt + seconds 1)⟩

def sampleEntry (route : RoutePlan) : ScorecardEntry sampleFloats where
  configSha256 := "config"
  signalProviderConfigSha256 := "signals"
  runtimePlanSha256 := "runtime"
  route := route
  capabilities := []
  difficulty := .simple
  verifiedSamples := 1
  successRate := (1 : ℚ)

def sampleEnvironment : Environment sampleFloats where
  stdlib := Stdlib.cpython
  evaluatorSha256 := "evaluator"
  recordSetDigest _ := "training"
  rebuiltDigest _ _ := .ok "scorecard"
  proofSetSha256 _ := "proofs"

def sampleArguments : Arguments sampleFloats where
  plan :=
    { createdAt := seconds 200, routePolicyDigest := "policy", scorecardDigest := "scorecard"
      trainingSourceDigest := "training", gatePolicyDigest := "gate"
      evaluatorSha256 := "evaluator", canaryBasisPoints := 100, manifestTtlSeconds := 3600
      assignmentSaltSha256 := "salt", attestationPolicySha256 := some "policy"
      executionHarnessSha256 := some "harness", runnerSourceSha256 := some "source"
      pricingContract := some ⟨"pricing", fun _ => true⟩, pricingSha256 := some "pricing"
      planSha256 := "plan", profile := "balanced", cases := [sampleCase]
      nonempty := by decide
      uniqueTasks := List.nodup_singleton _
      uniqueItems := List.nodup_singleton _
      oneProfile := by decide
      positive := by decide }
  gatePolicy :=
    { minimumPairedTasks := 1, minimumPairedTasksPerCell := 1
      minimumEvidenceStrength := .implicit, minimumConfidence := (0 : ℚ)
      confidenceLevel := (9 / 10 : ℚ), maximumCandidateLatencyRatio := (1 : ℚ)
      maximumCandidateP95LatencyMs := (1000 : ℚ), minimumRelativeImprovement := (1 / 2 : ℚ)
      maximumHoldoutAgeSeconds := 3600, maximumPairTimeSkewSeconds := 60
      maximumCanaryBasisPoints := 100, maximumManifestTtlSeconds := 3600
      requireCompleteCostEvidence := false, blockingFailureClasses := []
      nonBlockingFailureClasses := [], digest := "gate", canaryCap := by decide }
  routePolicy := ⟨fun _ => some ⟨(0 : ℚ), 1, (0 : ℚ), (0 : ℚ)⟩, "policy"⟩
  scorecard := ⟨seconds 100, seconds 4000, .implicit, (0 : ℚ), "training",
    [sampleEntry .premium, sampleEntry .localOnly], "scorecard"⟩
  training := [sampleRecord "past" "past-item" "past-case" .baseline 50,
    sampleRecord "past" "past-item" "past-case" .candidate 60]
  holdout := [sampleRecord "task" "item" (Stdlib.cpython.sha256Json sampleCase.payload) .baseline 300,
    sampleRecord "task" "item" (Stdlib.cpython.sha256Json sampleCase.payload) .candidate 310]
  evaluatedAt := seconds 400
  verifier := some sampleVerifier
  wholeSecond := by decide

def issued : Except ContractError (Report F × Option (Manifest F)) → Bool
  | .ok (_, some _) => true
  | .ok (_, none) | .error _ => false

theorem issued_eq_true {result : Except ContractError (Report F × Option (Manifest F))}
    (h : issued result = true) : ∃ report m, result = .ok (report, some m) := by
  unfold issued at h
  split at h
  · exact ⟨_, _, rfl⟩
  · cases h
  · cases h

theorem sampleArguments_issued :
    issued (evaluateRoutePromotion sampleEnvironment sampleArguments) = true := by
  decide +kernel

theorem sampleArguments_vouched :
    ∃ report m, evaluateRoutePromotion sampleEnvironment sampleArguments = .ok (report, some m) ∧
      ∃ verifier pricing, ∃ proof : OutcomeRecord sampleFloats → PairedProof sampleFloats,
      ∃ pairs, sampleArguments.verifier = some verifier ∧
        sampleArguments.plan.pricingContract = some pricing ∧
        (∀ r ∈ sampleArguments.training ++ sampleArguments.holdout,
          verifier.verifyRecord r pricing = .ok (proof r)) ∧
        Vouched sampleEnvironment sampleArguments m proof pairs := by
  obtain ⟨report, m, h⟩ := issued_eq_true sampleArguments_issued
  exact ⟨report, m, h, manifest_vouched sampleEnvironment sampleArguments report m h⟩

end LocalMoe.Promotion
