/-
  The rewrite of a guarded receipt by a canary decision.
-/
import LocalMoe.Canary.Receipt
import LocalMoe.Runner.Honest

namespace LocalMoe.Canary

open Foundation Contracts Runner

/-! ## Shadow decisions of a receipt -/

/-- `_hard_rejections` of a route. -/
def hardRejections (receipt : RouteDecisionReceipt) (plan : RoutePlan) : List String :=
  (if receipt.task.profile = .offline ∧ plan ≠ .localOnly then ["offline_remote_forbidden"]
    else []) ++
    (if plan.route.usesLocal = true ∧ receipt.localGaps ≠ [] then ["local_capability_gap"]
      else []) ++
    (if plan.route.usesPremium = true ∧ receipt.premiumGaps ≠ [] then
      ["premium_capability_gap"] else []) ++
    (if plan.route.usesPremium = true ∧ receipt.remoteAllowed = false then
      ["remote_not_allowed"] else []) ++
    (if plan.route.usesPremium = true ∧ receipt.premiumCallBudget = 0 then
      ["premium_budget_unavailable"] else [])

/-- What `recommend_shadow_route` takes from a receipt, whatever the scorecard and the policy
say of the routes. -/
structure ShadowOf (S : Stdlib) (P : Parts) (receipt : RouteDecisionReceipt)
    (shadow : ShadowRouteDecision) : Prop where
  profile : shadow.profile = receipt.task.profile.name
  receiptId : requireSafeId receipt.receiptId "route receipt_id" = .ok shadow.routeReceiptId
  receiptSha256 : shadow.routeReceiptSha256.val = (P.digests S).full receipt
  runtimePlan : P.runtimePlanSha256 receipt.localRuntime receipt.premiumRuntime =
    .ok shadow.runtimePlanSha256
  taskFingerprint : shadow.taskFingerprint.val = receipt.task.taskFingerprint
  signals : P.signals receipt.task = .ok shadow.taskSignals
  capabilities : requireIdentifierTuple receipt.task.capabilityDemand.required
    "route receipt capability_demand.required" = .ok shadow.taskSignals.capabilities
  baseline : shadow.baselineRoute = shadowRoute receipt.route
  candidates : ∀ c ∈ shadow.candidates,
    c.hardEligible = decide (hardRejections receipt c.route = [])

theorem permits_of_hardRejections {receipt : RouteDecisionReceipt} {plan : RoutePlan}
    (h : hardRejections receipt plan = []) : Permits receipt plan.route := by
  unfold hardRejections at h
  simp only [List.append_eq_nil_iff, ite_singleton_eq_nil, not_and] at h
  obtain ⟨⟨⟨⟨_, hlocal⟩, hgaps⟩, hremote⟩, hbudget⟩ := h
  refine ⟨fun huses => not_not.mp (hlocal huses), fun huses => ⟨?_, ?_, not_not.mp (hgaps huses)⟩⟩
  · exact Bool.eq_true_of_not_eq_false (hremote huses)
  · exact Nat.pos_of_ne_zero (hbudget huses)

variable {items : List String}

theorem requireSafeIds_label {result : List String} {label : String} (other : String)
    (h : requireSafeIds label items = .ok result) : requireSafeIds other items = .ok result := by
  induction items generalizing result with
  | nil => exact h
  | cons item rest ih =>
    obtain ⟨first, hfirst, h⟩ := bind_eq_ok.mp h
    obtain ⟨others, hothers, h⟩ := bind_eq_ok.mp h
    exact bind_eq_ok.mpr ⟨first, requireSafeId_eq_ok.mpr (requireSafeId_eq_ok.mp hfirst),
      bind_eq_ok.mpr ⟨others, ih hothers, h⟩⟩

theorem requireIdentifierTuple_label {result : Finset String} {label : String} (other : String)
    (h : requireIdentifierTuple items label = .ok result) :
    requireIdentifierTuple items other = .ok result := by
  obtain ⟨ids, hids, h⟩ := bind_eq_ok.mp h
  obtain ⟨hnodup, h⟩ := check_bind_eq_ok.mp h
  exact bind_eq_ok.mpr ⟨ids, requireSafeIds_label other hids, check_bind_eq_ok.mpr ⟨hnodup, h⟩⟩

/-! ## Decisions -/

section Decisions

variable {S : Stdlib} {shadow : ShadowRouteDecision} {e : Evaluation} {d : CanaryRouteDecision}

theorem checks_eq {configSha256 : String} (h : e.checks S shadow = .ok configSha256) :
    configSha256 = e.bridgeConfigSha256 := by
  simp only [Evaluation.checks, bind_eq_ok, pure_eq_ok_iff, requireSha256_eq_ok] at h
  obtain ⟨_, -, _, -, _, -, _, -, _, ⟨-, rfl⟩, _, -, _, -, rfl⟩ := h
  rfl

theorem decideRouteCanary_ok (h : decideRouteCanary S shadow e = .ok d) :
    ∃ bucket baseline recommended, shadow.baselineRoute = .plan baseline ∧
      shadow.recommendedRoute = .plan recommended ∧
      isSha256 e.bridgeConfigSha256 = true ∧ bucket < 10000 ∧
      d = decisionOf S shadow e e.bridgeConfigSha256 bucket baseline recommended := by
  have hexecutable : shadow.baselineRoute ≠ .blocked := fun hblocked =>
    decideRouteCanary_blocked hblocked d h
  have hdecided := h
  obtain ⟨configSha256, hchecks, h⟩ := bind_eq_ok.mp h
  obtain ⟨bucket, hbucket, -⟩ := bind_eq_ok.mp h
  cases hb : shadow.baselineRoute with
  | blocked => exact absurd hb hexecutable
  | plan baseline =>
    cases hr : shadow.recommendedRoute with
    | blocked => exact absurd hr (shadow.executable hexecutable).1
    | plan recommended =>
      have hsame := decideRouteCanary_eq_ok hb hr hchecks hbucket
      rw [hdecided] at hsame
      have hconfig := checks_eq hchecks
      subst hconfig
      exact ⟨bucket, baseline, recommended, rfl, rfl, isSha256_of_checks hchecks,
        canaryAssignmentBucket_lt hbucket, Except.ok.inj hsame⟩

end Decisions

/-! ## Plain payloads -/

variable {s : String}

theorem isPlain_of_all (h : ∀ c ∈ s.toList, c.toNat < 127) : isPlain s = true :=
  List.all_eq_true.mpr fun c hc => decide_eq_true (h c hc)

theorem isAlnum_lt {c : Char} (h : isAlnum c = true) : c.toNat < 127 := by
  simp only [isAlnum, Bool.or_eq_true, Bool.and_eq_true, decide_eq_true_eq, Char.le_def,
    UInt32.le_iff_toNat_le] at h
  have hn : c.toNat = c.val.toNat := rfl
  rw [hn]
  simp at h
  omega

theorem isPlain_of_isSafeId (h : isSafeId s = true) : isPlain s = true := by
  unfold isSafeId at h
  split at h
  · cases h
  · rename_i c rest hs
    simp only [Bool.and_eq_true, List.all_eq_true, Bool.or_eq_true] at h
    obtain ⟨⟨hc, -⟩, hrest⟩ := h
    refine isPlain_of_all fun d hd => ?_
    rw [hs] at hd
    rcases List.mem_cons.mp hd with rfl | hd
    · exact isAlnum_lt hc
    · rcases hrest d hd with hd | hd
      · exact isAlnum_lt hd
      · simp only [List.contains_eq_mem, List.mem_cons, List.not_mem_nil, or_false,
          decide_eq_true_eq] at hd
        rcases hd with rfl | rfl | rfl | rfl | rfl | rfl <;> decide

theorem isAlnum_of_isLowerHex {c : Char} (h : isLowerHex c = true) : isAlnum c = true := by
  simp only [isLowerHex, isAlnum, Bool.or_eq_true, Bool.and_eq_true, decide_eq_true_eq,
    Char.le_def, UInt32.le_iff_toNat_le] at h ⊢
  simp at h ⊢
  omega

theorem isPlain_of_isSha256 (h : isSha256 s = true) : isPlain s = true := by
  rw [isSha256, Bool.and_eq_true, List.all_eq_true] at h
  exact isPlain_of_all fun c hc => isAlnum_lt (isAlnum_of_isLowerHex (h.2 c hc))

theorem isSafeId_receiptIdOf {digest : String} (h : isSha256 digest = true) :
    isSafeId (receiptIdOf digest) = true := by
  rw [isSha256, Bool.and_eq_true, List.all_eq_true] at h
  have htext : (receiptIdOf digest).toList =
      'r' :: ('o' :: 'u' :: 't' :: 'e' :: '-' :: digest.toList.take 32) := by
    simp [receiptIdOf]
  unfold isSafeId
  rw [htext]
  change (isAlnum 'r' && decide (_ ≤ 255) && List.all _ _) = true
  rw [Bool.and_eq_true, Bool.and_eq_true, List.all_eq_true, decide_eq_true_eq]
  simp only [Bool.or_eq_true]
  refine ⟨⟨by decide, ?_⟩, fun c hc => ?_⟩
  · have := List.length_take_le 32 digest.toList
    simp only [List.length_cons]
    omega
  · simp only [List.mem_cons] at hc
    rcases hc with rfl | rfl | rfl | rfl | rfl | hc
    · exact .inl (by decide)
    · exact .inl (by decide)
    · exact .inl (by decide)
    · exact .inl (by decide)
    · exact .inr (by decide)
    · exact .inl (isAlnum_of_isLowerHex (h.2 c (List.mem_of_mem_take hc)))

theorem isSafeId_of_isProviderId (h : isProviderId s = true) : isSafeId s = true := by
  unfold isProviderId at h
  unfold isSafeId
  cases hs : s.toList with
  | nil =>
    rw [hs] at h
    cases h
  | cons c rest =>
    rw [hs] at h
    change (isAlnum c && decide (rest.length ≤ 255) && rest.all _) = true
    rw [Bool.and_eq_true, Bool.and_eq_true, List.all_eq_true, decide_eq_true_eq] at h ⊢
    obtain ⟨⟨hc, hlength⟩, hrest⟩ := h
    refine ⟨⟨hc, by omega⟩, fun d hd => ?_⟩
    have hchar := hrest d hd
    rw [Bool.or_eq_true] at hchar ⊢
    rcases hchar with hchar | hchar
    · exact .inl hchar
    · simp only [List.contains_eq_mem, List.mem_cons, List.not_mem_nil, or_false,
        decide_eq_true_eq] at hchar
      rcases hchar with rfl | rfl | rfl <;> decide

variable (fields others : List (String × Json))

theorem plainFields_append :
    Json.plainFields (fields ++ others) =
      (Json.plainFields fields && Json.plainFields others) := by
  induction fields with
  | nil => rfl
  | cons field rest ih =>
    obtain ⟨key, value⟩ := field
    rw [List.cons_append, Json.plainFields, Json.plainFields, ih, Bool.and_assoc, Bool.and_assoc,
      Bool.and_assoc]

theorem representableFields_append :
    Json.representableFields (fields ++ others) =
      (Json.representableFields fields && Json.representableFields others) := by
  induction fields with
  | nil => rfl
  | cons field rest ih =>
    obtain ⟨key, value⟩ := field
    rw [List.cons_append, Json.representableFields, Json.representableFields, ih, Bool.and_assoc]

theorem plainItems_map_str :
    Json.plainItems (items.map Json.str) = true ↔ ∀ item ∈ items, isPlain item = true := by
  induction items with
  | nil => exact ⟨fun _ _ h => (by cases h), fun _ => rfl⟩
  | cons item rest ih =>
    rw [List.map_cons, Json.plainItems, Bool.and_eq_true, ih, List.forall_mem_cons]
    rfl

theorem texts_plain :
    (texts items).plain = true ↔ ∀ item ∈ items, isPlain item = true := plainItems_map_str

theorem CanaryRouteDecision.payload_plain {S : Stdlib} {d : CanaryRouteDecision}
    (h : d.Valid S) (hreceipt : isSafeId d.routeReceiptId = true)
    (hkey : isSafeId d.operatorKeyId = true) (hdigest : isSha256 d.decisionSha256 = true) :
    d.payload.plain = true := by
  have hdigests : ∀ p ∈ d.args.digests, isPlain p.2 = true := fun p hp =>
    isPlain_of_isSha256 (h.digests p hp)
  simp only [DecisionArgs.digests, CanaryRouteDecision.args, List.forall_mem_cons] at hdigests
  obtain ⟨h1, h2, h3, h4, h5, h6, h7, h8, h9, h10, -⟩ := hdigests
  have hcapabilities : (Json.codes d.capabilities).plain = true :=
    plainItems_map_str.mpr fun c hc =>
      isPlain_of_isSafeId (h.capabilities c ((Finset.mem_sort _).mp hc))
  have hreasons : Json.plainItems (d.reasonCodes.map Json.str) = true :=
    plainItems_map_str.mpr fun c hc => isPlain_of_isSafeId (h.reasonCodes.1 c hc)
  have hprofile := isPlain_of_isSafeId h.profile
  have hreceipt := isPlain_of_isSafeId hreceipt
  have hkey := isPlain_of_isSafeId hkey
  have hdigest := isPlain_of_isSha256 hdigest
  have hroute : ∀ route : RoutePlan, isPlain route.name = true := by
    rintro (_ | _ | _) <;> decide +kernel
  have hdifficulty : ∀ difficulty : Difficulty, isPlain difficulty.name = true := by
    rintro (_ | _ | _ | _) <;> decide +kernel
  have hkeys : ∀ key ∈ decisionFields ++ [contractVersion, "CanaryRouteDecision", "canary"],
      isPlain key = true := by decide +kernel
  simp only [decisionFields, List.cons_append, List.nil_append, List.forall_mem_cons] at hkeys
  simp only [CanaryRouteDecision.payload, CanaryRouteDecision.contentFields, Json.plain,
    List.cons_append, List.nil_append, Json.plainFields, hkeys, h1, h2, h3, h4, h5, h6, h7, h8,
    h9, h10, hprofile, hreceipt, hkey, hdigest, hroute, hdifficulty, hcapabilities, hreasons,
    Bool.and_true]

theorem CanaryRouteDecision.payload_representable {S : Stdlib} {d : CanaryRouteDecision}
    (h : d.Valid S) : d.payload.representable = true := by
  have hcontent : Json.representableFields d.contentFields = true :=
    CanaryRouteDecision.representable h.assignment.1 h.assignment.2.2
  change Json.representableFields (d.contentFields ++ _) = true
  rw [representableFields_append, hcontent]
  rfl

/-! ## Payloads of receipts -/

theorem canonicalSha256_eq {S : Stdlib} {value : Json} (hplain : value.plain = true)
    (hrepresentable : value.representable = true) :
    S.canonicalSha256 value = .ok (S.sha256Json value) := by
  rw [S.canonicalSha256_of_representable hrepresentable, jcs_bytes_eq_iff.mpr hplain]
  rfl

/-- Every text of a receipt is plain and every integer fits: what the two canonical forms
need to agree on it. -/
def Portable (P : Parts) (receipt : RouteDecisionReceipt) : Prop :=
  (P.payload receipt).plain = true ∧ (P.payload receipt).representable = true

section Payloads

variable {P : Parts}

/-- What a rewrite does not touch of the fields. -/
structure Parts.KeepsPlain (P : Parts) (payload : RoutePayload) : Prop where
  task : (P.task payload.task).plain = true
  localProvider : isPlain payload.localProvider = true
  localGaps : (texts payload.localGaps).plain = true
  premiumGaps : (texts payload.premiumGaps).plain = true
  configSha256 : isPlain payload.configSha256 = true
  workspace : (P.workspace payload.workspaceFingerprint).plain = true
  localRuntime : (P.runtime payload.localRuntime).plain = true
  premiumRuntime : (P.runtime payload.premiumRuntime).plain = true

theorem Route.name_plain (route : Route) : isPlain route.name = true := by
  cases route <;> decide

theorem expectedFlow_plain (route : Route) : (texts (expectedFlow route)).plain = true := by
  cases route <;> decide

theorem routeFields_plain_iff {payload : RoutePayload} :
    Json.plainFields (P.routeFields payload) = true ↔ P.KeepsPlain payload ∧
      (Json.optional Json.str payload.premiumProvider).plain = true ∧
      (texts payload.rationaleCodes).plain = true ∧ (texts payload.expectedFlow).plain = true := by
  have hkeys : ∀ key ∈ ["schema_version", "2.0", "contract", "RouteDecisionReceipt", "task",
      "route", "local_provider", "premium_provider", "local_gaps", "premium_gaps",
      "remote_allowed", "premium_call_budget", "rationale_codes", "expected_flow",
      "config_sha256", "workspace", "local_runtime", "premium_runtime"],
      isPlain key = true := by decide +kernel
  simp only [List.forall_mem_cons] at hkeys
  simp only [Parts.routeFields, Json.plainFields, hkeys, Json.plain, Route.name_plain,
    Bool.and_true, Bool.true_and, Bool.and_eq_true]
  constructor
  · rintro ⟨h1, h2, h3, h4, h5, h6, h7, h8, h9, h10, h11⟩
    exact ⟨⟨h1, h2, h4, h5, h8, h9, h10, h11⟩, h3, h6, h7⟩
  · rintro ⟨⟨h1, h2, h4, h5, h8, h9, h10, h11⟩, h3, h6, h7⟩
    exact ⟨h1, h2, h3, h4, h5, h6, h7, h8, h9, h10, h11⟩

theorem routeFields_representable {payload : RoutePayload} :
    Json.representableFields (P.routeFields payload) =
      ((P.task payload.task).representable &&
        (Json.int payload.premiumCallBudget).representable &&
        (P.workspace payload.workspaceFingerprint).representable &&
        (P.runtime payload.localRuntime).representable &&
        (P.runtime payload.premiumRuntime).representable) := by
  have hprovider : (Json.optional Json.str payload.premiumProvider).representable = true := by
    cases payload.premiumProvider <;> rfl
  have htexts : ∀ items, (texts items).representable = true :=
    Json.representableItems_map_str
  simp only [Parts.routeFields, Json.representableFields, hprovider, htexts, Bool.and_true,
    Bool.true_and, Bool.and_assoc]
  simp only [Json.representable, Bool.true_and]

end Payloads

/-! ## What a decision says of its receipt -/

/-- What the validator looks up in a decision for a receipt. -/
structure Decides (S : Stdlib) (P : Parts) (receipt : RouteDecisionReceipt)
    (d : CanaryRouteDecision) : Prop where
  baseline : d.baselineRoute.route = receipt.route
  receiptId : d.routeReceiptId = receipt.receiptId
  receiptSha256 : d.routeReceiptSha256 = (P.digests S).full receipt
  configSha256 : d.bridgeConfigSha256 = receipt.configSha256
  taskFingerprint : requireSha256 receipt.task.taskFingerprint "task_fingerprint" =
    .ok d.taskFingerprint
  profile : requireSafeId receipt.task.profile.name "profile" = .ok d.profile
  capabilities : requireIdentifierTuple receipt.task.capabilityDemand.required
    "required capabilities" = .ok d.capabilities
  signals : ∃ signals, P.signals receipt.task = .ok signals ∧
    d.difficulty = signals.difficulty ∧
    d.signalProviderConfigSha256 = signals.providerConfigSha256.val
  runtimePlan : ∃ digest, P.runtimePlanSha256 receipt.localRuntime receipt.premiumRuntime =
    .ok digest ∧ d.runtimePlanSha256 = digest.val
  permitted : Permits receipt d.effectiveRoute.route
  plain : d.payload.plain = true
  representable : d.payload.representable = true

section Decided

variable {S : Stdlib} {P : Parts} {config : AssistantBridgeConfig}
  {receipt : RouteDecisionReceipt} {shadow : ShadowRouteDecision} {e : Evaluation}
  {d : CanaryRouteDecision}

theorem Baseline.safeId (h : Baseline (P.digests S) config receipt) :
    isSafeId receipt.receiptId = true := by
  rw [h.content]
  exact isSafeId_receiptIdOf (S.sha256_hex _)

theorem shadowRoute_eq_plan {route : Route} {plan : RoutePlan}
    (h : shadowRoute route = .plan plan) : plan.route = route := by
  cases route <;> cases h <;> rfl

theorem decisionOf_permitted (hauthority : AuthoritySafe receipt)
    (hshadow : ShadowOf S P receipt shadow) {configSha256 : String} {bucket : Nat}
    {baseline recommended : RoutePlan} (hb : shadow.baselineRoute = .plan baseline)
    (hr : shadow.recommendedRoute = .plan recommended) :
    Permits receipt
      (decisionOf S shadow e configSha256 bucket baseline recommended).effectiveRoute.route := by
  have hbaseline : baseline.route = receipt.route :=
    shadowRoute_eq_plan (hshadow.baseline.symm.trans hb)
  have hexecutable : shadow.baselineRoute ≠ .blocked := by
    rw [hb]
    exact DecisionRoute.noConfusion
  change Permits receipt (if decide (reasons shadow e.manifest configSha256 bucket = []) = true
    then recommended else baseline).route
  by_cases hreasons : reasons shadow e.manifest configSha256 bucket = []
  · rw [if_pos (decide_eq_true hreasons)]
    obtain ⟨c, hc, hroute, heligible, _⟩ := ((reasons_eq_nil_iff hexecutable _ _ _).mp hreasons).eligible
    rw [hr] at hroute
    cases hroute
    rw [hshadow.candidates c hc] at heligible
    exact permits_of_hardRejections (of_decide_eq_true heligible)
  · rw [if_neg fun h => hreasons (of_decide_eq_true h), hbaseline]
    exact hauthority.1

theorem decides_of_ok (hbaseline : Baseline (P.digests S) config receipt)
    (hshadow : ShadowOf S P receipt shadow)
    (hconfig : e.bridgeConfigSha256 = config.sourceSha256)
    (hd : decideRouteCanary S shadow e = .ok d) : Decides S P receipt d := by
  obtain ⟨bucket, baseline, recommended, hb, hr, hsha, hbucket, rfl⟩ := decideRouteCanary_ok hd
  have hvalid := decisionOf_valid (S := S) (e := e) hb hr hsha hbucket
  have hid : shadow.routeReceiptId = receipt.receiptId := by
    rw [(requireSafeId_eq_ok.mp hshadow.receiptId).2, strip_of_isSafeId hbaseline.safeId]
  have hsafe : isSafeId shadow.routeReceiptId = true := hid ▸ hbaseline.safeId
  refine ⟨shadowRoute_eq_plan (hshadow.baseline.symm.trans hb), hid, hshadow.receiptSha256,
    hconfig.trans hbaseline.configured.symm, ?_, ?_,
    requireIdentifierTuple_label _ hshadow.capabilities, ⟨_, hshadow.signals, rfl, rfl⟩,
    ⟨_, hshadow.runtimePlan, rfl⟩, decisionOf_permitted hbaseline.authority hshadow hb hr,
    CanaryRouteDecision.payload_plain hvalid hsafe e.authority.authorization.identifiers.2
      (S.sha256_hex _), CanaryRouteDecision.payload_representable hvalid⟩
  · rw [← hshadow.taskFingerprint]
    exact requireSha256_of_isSha256 shadow.taskFingerprint.2
  · rw [← hshadow.profile]
    exact requireSafeId_of_isSafeId hvalid.profile

/-! ## The rewrite -/

theorem undo_rewrite (hloaded : Loaded config) (hbaseline : Baseline (P.digests S) config receipt)
    (hdecides : Decides S P receipt d) :
    undoCanary d (canaryRewrite (P.digests S) receipt (entryOf d)) = .ok receipt := by
  have hsafe : isSafeId receipt.premiumRuntime.providerId = true := by
    rw [hbaseline.provider]
    exact isSafeId_of_isProviderId hloaded.premiumId
  have hprovider : baselineProvider d (canaryRewrite (P.digests S) receipt (entryOf d)) =
      .ok receipt.premiumProvider := by
    change (if d.baselineRoute.route.usesPremium = true then
      (requireSafeId receipt.premiumRuntime.providerId "premium provider").map some
      else .ok none) = Except.ok receipt.premiumProvider
    rw [hbaseline.premiumProvider, hdecides.baseline, requireSafeId_of_isSafeId hsafe]
    by_cases huses : receipt.route.usesPremium = true
    · rw [if_pos huses, if_pos huses]
      rfl
    · rw [if_neg huses, if_neg huses]
  have hflow := hbaseline.flow
  have hroute := hdecides.baseline
  have hid := hdecides.receiptId
  refine bind_eq_ok.mpr ⟨receipt.premiumProvider, hprovider, congrArg Except.ok ?_⟩
  have hrationale : (canaryRewrite (P.digests S) receipt (entryOf d)).rationaleCodes.dropLast =
      receipt.rationaleCodes := List.dropLast_concat
  rw [hid, hroute, ← hflow, ← hbaseline.canary, hrationale]
  rfl

theorem Portable.content (hbaseline : Baseline (P.digests S) config receipt)
    (h : Portable P receipt) : (P.content receipt.toRoutePayload none).plain = true ∧
      (P.content receipt.toRoutePayload none).representable = true := by
  obtain ⟨hplain, hrepresentable⟩ := h
  unfold Parts.payload at hplain hrepresentable
  rw [hbaseline.canary, Json.plain, Json.plainFields, Bool.and_eq_true] at hplain
  rw [hbaseline.canary, Json.representable, Json.representableFields,
    Bool.and_eq_true] at hrepresentable
  exact ⟨hplain.2, hrepresentable.2⟩

theorem Portable.rewritten (hbaseline : Baseline (P.digests S) config receipt)
    (h : Portable P receipt) (hdecides : Decides S P receipt d)
    (hcanary : P.canary (entryOf d) = d.payload) :
    let rewritten := canaryRewrite (P.digests S) receipt (entryOf d)
    (P.content rewritten.toRoutePayload rewritten.routeCanary).plain = true ∧
      (P.content rewritten.toRoutePayload rewritten.routeCanary).representable = true := by
  intro rewritten
  obtain ⟨hplain, hrepresentable⟩ := h.content hbaseline
  have hkey : isPlain "route_canary" = true := by decide
  change Json.plainFields (_ ++ []) = true at hplain
  change Json.representableFields (_ ++ []) = true at hrepresentable
  rw [List.append_nil] at hplain hrepresentable
  obtain ⟨hkeeps, hprovider, hrationale, _⟩ := routeFields_plain_iff.mp hplain
  constructor
  · change Json.plainFields (P.routeFields rewritten.toRoutePayload ++
      [("route_canary", P.canary (entryOf d))]) = true
    rw [plainFields_append, Bool.and_eq_true]
    refine ⟨routeFields_plain_iff.mpr ⟨⟨hkeeps.task, hkeeps.localProvider, hkeeps.localGaps,
      hkeeps.premiumGaps, hkeeps.configSha256, hkeeps.workspace, hkeeps.localRuntime,
      hkeeps.premiumRuntime⟩, ?_, ?_, expectedFlow_plain _⟩, ?_⟩
    · change (Json.optional Json.str
        (if d.effectiveRoute.route.usesPremium = true then receipt.premiumProvider else none)).plain =
          true
      by_cases huses : d.effectiveRoute.route.usesPremium = true
      · rw [if_pos huses]
        exact hprovider
      · rw [if_neg huses]
        rfl
    · refine texts_plain.mpr fun item hitem => ?_
      rcases List.mem_append.mp hitem with hitem | hitem
      · exact texts_plain.mp hrationale item hitem
      · rw [List.mem_singleton.mp hitem]
        cases (entryOf d).applied <;> decide
    · rw [hcanary, Json.plainFields, hkey, hdecides.plain]
      rfl
  · change Json.representableFields (P.routeFields rewritten.toRoutePayload ++
      [("route_canary", P.canary (entryOf d))]) = true
    rw [representableFields_append, Bool.and_eq_true]
    refine ⟨?_, ?_⟩
    · rw [routeFields_representable] at hrepresentable ⊢
      exact hrepresentable
    · rw [hcanary, Json.representableFields, hdecides.representable]
      rfl

theorem validate_rewrite (hloaded : Loaded config)
    (hbaseline : Baseline (P.digests S) config receipt) (hdecides : Decides S P receipt d)
    (hcanary : P.canary (entryOf d) = d.payload) (h : Portable P receipt) :
    validateCanaryReceiptBinding S P d (canaryRewrite (P.digests S) receipt (entryOf d)) =
      .ok () := by
  obtain ⟨signals, hsignals, hdifficulty, hprovider⟩ := hdecides.signals
  obtain ⟨digest, hruntime, hplan⟩ := hdecides.runtimePlan
  obtain ⟨hplain, hrepresentable⟩ := h.rewritten hbaseline hdecides hcanary
  obtain ⟨hunsigned, hunsigned'⟩ := h.content hbaseline
  have hid : d.routeReceiptId =
      receiptIdOf (S.sha256Json (P.content receipt.toRoutePayload none)) :=
    hdecides.receiptId.trans (congrArg RouteDecisionReceipt.receiptId hbaseline.content)
  have hlast : (receipt.rationaleCodes ++ [marker d]).getLast? = some (marker d) :=
    List.getLast?_concat
  refine bind_eq_ok.mpr ⟨entryOf d, rfl, check_bind_eq_ok.mpr ⟨rfl, check_bind_eq_ok.mpr
    ⟨⟨rfl, hdecides.configSha256.symm⟩, bind_eq_ok.mpr ⟨_, hdecides.taskFingerprint,
    bind_eq_ok.mpr ⟨_, hdecides.profile, bind_eq_ok.mpr ⟨_, hdecides.capabilities,
    bind_eq_ok.mpr ⟨_, hsignals, bind_eq_ok.mpr ⟨_, hruntime, check_bind_eq_ok.mpr
    ⟨⟨rfl, rfl, rfl, hdifficulty, hprovider, hplan⟩, ?_⟩⟩⟩⟩⟩⟩⟩⟩⟩
  refine bind_eq_ok.mpr ⟨_, requireSafeId_of_isSafeId (isSafeId_receiptIdOf (S.sha256_hex _)),
    bind_eq_ok.mpr ⟨_, canonicalSha256_eq hplain hrepresentable, check_bind_eq_ok.mpr ⟨rfl,
    check_bind_eq_ok.mpr ⟨hlast, check_bind_eq_ok.mpr ⟨rfl, bind_eq_ok.mpr ⟨_,
    undo_rewrite hloaded hbaseline hdecides, bind_eq_ok.mpr ⟨_,
    canonicalSha256_eq hunsigned hunsigned', bind_eq_ok.mpr ⟨_, canonicalSha256_eq h.1 h.2,
    check_of ⟨hid, hdecides.receiptSha256⟩⟩⟩⟩⟩⟩⟩⟩⟩

/-- The baseline an accepted receipt names: its id and its digest are those of the decision,
and among receipts the digest tells apart it is the only one. -/
def NamesBaseline (S : Stdlib) (P : Parts) (d : CanaryRouteDecision)
    (receipt : RouteDecisionReceipt) : Prop :=
  ∃ baseline, undoCanary d receipt = .ok baseline ∧ baseline.receiptId = d.routeReceiptId ∧
    (S.canonicalSha256 (P.content baseline.toRoutePayload none)).map receiptIdOf =
      .ok d.routeReceiptId ∧
    S.canonicalSha256 (P.payload baseline) = .ok d.routeReceiptSha256 ∧
    ∀ seen : Set RouteDecisionReceipt,
      Set.InjOn (fun other => S.canonicalSha256 (P.payload other)) seen → baseline ∈ seen →
      ∀ other ∈ seen, S.canonicalSha256 (P.payload other) = .ok d.routeReceiptSha256 →
        other = baseline

theorem namesBaseline_of_valid
    (h : validateCanaryReceiptBinding S P d receipt = .ok ()) : NamesBaseline S P d receipt := by
  unfold validateCanaryReceiptBinding at h
  obtain ⟨_, _, h⟩ := bind_eq_ok.mp h
  obtain ⟨_, h⟩ := check_bind_eq_ok.mp h
  obtain ⟨_, h⟩ := check_bind_eq_ok.mp h
  obtain ⟨_, _, h⟩ := bind_eq_ok.mp h
  obtain ⟨_, _, h⟩ := bind_eq_ok.mp h
  obtain ⟨_, _, h⟩ := bind_eq_ok.mp h
  obtain ⟨_, _, h⟩ := bind_eq_ok.mp h
  obtain ⟨_, _, h⟩ := bind_eq_ok.mp h
  obtain ⟨_, h⟩ := check_bind_eq_ok.mp h
  obtain ⟨_, _, h⟩ := bind_eq_ok.mp h
  obtain ⟨_, _, h⟩ := bind_eq_ok.mp h
  obtain ⟨_, h⟩ := check_bind_eq_ok.mp h
  obtain ⟨_, h⟩ := check_bind_eq_ok.mp h
  obtain ⟨_, h⟩ := check_bind_eq_ok.mp h
  obtain ⟨baseline, hundo, h⟩ := bind_eq_ok.mp h
  obtain ⟨unsigned, hunsigned, h⟩ := bind_eq_ok.mp h
  obtain ⟨full, hfull, h⟩ := bind_eq_ok.mp h
  obtain ⟨hid, hsha⟩ := check_eq_ok.mp h
  refine ⟨baseline, hundo, ?_, ?_, hsha ▸ hfull, ?_⟩
  · obtain ⟨_, _, hundo⟩ := bind_eq_ok.mp hundo
    cases hundo
    rfl
  · rw [hunsigned, hid]
    rfl
  · intro seen hinjective hbaseline other hother hdigest
    refine hinjective hother hbaseline ?_
    change S.canonicalSha256 (P.payload other) = S.canonicalSha256 (P.payload baseline)
    rw [hdigest, hfull, hsha]

/-- What is promised of a rewrite: it succeeds, the id is the digest of the new receipt's own
payload, its authority is safe, and undoing it gives the baseline back. -/
def Exact (S : Stdlib) (P : Parts) (receipt : RouteDecisionReceipt) (d : CanaryRouteDecision) :
    Prop :=
  ∃ rewritten, rewriteReceipt S P receipt d = .ok rewritten ∧
    rewritten.receiptId =
      receiptIdOf (S.sha256Json (P.content rewritten.toRoutePayload rewritten.routeCanary)) ∧
    AuthoritySafe rewritten ∧ undoCanary d rewritten = .ok receipt

theorem canonicalSha256_of_rewritten (hloaded : Loaded config)
    (hbaseline : Baseline (P.digests S) config receipt) (hdecides : Decides S P receipt d)
    {rewritten : RouteDecisionReceipt} (h : rewriteReceipt S P receipt d = .ok rewritten) :
    S.canonicalSha256 (P.payload receipt) = .ok (S.sha256Json (P.payload receipt)) := by
  obtain ⟨_, h⟩ := check_bind_eq_ok.mp h
  obtain ⟨_, h⟩ := check_bind_eq_ok.mp h
  obtain ⟨hvalid, _⟩ := check_bind_eq_ok.mp h
  obtain ⟨u, hvalid⟩ := isOk_eq_true.mp hvalid
  obtain ⟨baseline, hsame, _, _, hfull, _⟩ := namesBaseline_of_valid (S := S) (P := P) hvalid
  rw [undo_rewrite hloaded hbaseline hdecides] at hsame
  cases hsame
  rw [hfull]
  exact congrArg Except.ok hdecides.receiptSha256

theorem canonicalSha256_eq_ok {value : Json} {digest : String}
    (h : S.canonicalSha256 value = .ok digest) : value.representable = true ∧
      S.sha256 ((jcs value).flatMap String.utf8EncodeChar) = digest := by
  unfold Stdlib.canonicalSha256 canonicalJsonBytes at h
  by_cases hrepresentable : value.representable = true
  · rw [if_pos hrepresentable] at h
    exact ⟨hrepresentable, Except.ok.inj h⟩
  · rw [if_neg hrepresentable] at h
    cases h

theorem exact_iff_portable (hloaded : Loaded config)
    (hbaseline : Baseline (P.digests S) config receipt) (hdecides : Decides S P receipt d)
    (hcanary : P.canary (entryOf d) = d.payload)
    (hdigest : S.sha256 ((jcs (P.payload receipt)).flatMap String.utf8EncodeChar) =
        S.sha256Json (P.payload receipt) →
      (jcs (P.payload receipt)).flatMap String.utf8EncodeChar =
        canonicalJson (P.payload receipt)) :
    Exact S P receipt d ↔ Portable P receipt := by
  have hundo := undo_rewrite hloaded hbaseline hdecides
  constructor
  · rintro ⟨rewritten, hrewritten, -⟩
    obtain ⟨hrepresentable, hsha⟩ := canonicalSha256_eq_ok
      (canonicalSha256_of_rewritten hloaded hbaseline hdecides hrewritten)
    exact ⟨jcs_bytes_eq_iff.mp (hdigest hsha), hrepresentable⟩
  · intro hportable
    have hvalid := validate_rewrite hloaded hbaseline hdecides hcanary hportable
    have hexecutable : (entryOf d).effectiveRoute ≠ .blocked := by
      change d.effectiveRoute.route ≠ .blocked
      cases d.effectiveRoute <;> exact Route.noConfusion
    refine ⟨canaryRewrite (P.digests S) receipt (entryOf d), check_bind_eq_ok.mpr
      ⟨⟨hdecides.baseline, hdecides.receiptId, hdecides.receiptSha256⟩, check_bind_eq_ok.mpr
        ⟨hexecutable, check_bind_eq_ok.mpr ⟨isOk_eq_true.mpr ⟨_, hvalid⟩, rfl⟩⟩⟩, rfl,
      ⟨hdecides.permitted, hbaseline.authority.2⟩, hundo⟩

end Decided

section Sample

variable (S : Stdlib) (model : String)

def sampleParts (payload : Json) : Parts where
  task := fun task => .obj [("task_fingerprint", .str task.taskFingerprint)]
  workspace := fun fingerprint => .obj [("fingerprint", .str fingerprint)]
  runtime := fun runtime => .obj [("model", .str model), ("provider_id", .str runtime.providerId)]
  canary := fun _ => payload
  signals := fun _ => .ok sampleSignals
  runtimePlanSha256 := fun _ _ => .ok sampleDigest

def sampleLocalConfig : AssistantBridgeConfig :=
  { sampleConfig with
    localProvider := { sampleProvider .local with capabilities := ["code"] }
    sourceSha256 := sampleDigest.val
    localMode := rfl }

def sampleCodeTask : AssistantTaskEnvelope :=
  { sampleTask with
    taskFingerprint := sampleDigest.val
    capabilityDemand := ⟨["code"], [], .readOnly⟩ }

theorem sampleLocalConfig_loaded : Loaded sampleLocalConfig where
  premiumId := by decide
  profiles _ := rfl

def sampleRoutePayload : RoutePayload where
  task := sampleCodeTask
  route := .local
  localProvider := "small"
  premiumProvider := none
  localGaps := []
  premiumGaps := ["capability:code"]
  remoteAllowed := false
  premiumCallBudget := 0
  rationaleCodes := ["profile_" ++ "balanced", "premium_budget_zero",
    "premium_capability_or_authority_gap", "local_only"]
  expectedFlow := ["local", "verify", "stop"]
  configSha256 := sampleDigest.val
  workspaceFingerprint := "workspace"
  localRuntime := ⟨"small", "read_only", "local"⟩
  premiumRuntime := ⟨"large", "capsule_only", "premium"⟩

theorem planAssistantRoute_sample (D : ReceiptDigests) :
    planAssistantRoute D sampleCodeTask sampleLocalConfig "workspace"
      (attestedProviderRuntimeDescriptor sampleLocalConfig.localProvider
        (.ok ⟨"small", "read_only", "local"⟩))
      (attestedProviderRuntimeDescriptor sampleLocalConfig.premium
        (.ok ⟨"large", "capsule_only", "premium"⟩)) = .ok (receiptOf D sampleRoutePayload none) := by
  have hlocal : providerGaps sampleLocalConfig.localProvider sampleCodeTask = [] := by decide
  have hpremium : providerGaps sampleLocalConfig.premium sampleCodeTask = ["capability:code"] := by
    decide
  unfold planAssistantRoute
  simp only [hlocal, hpremium]
  rfl

def sampleReceipt : RouteDecisionReceipt :=
  receiptOf ((sampleParts model .null).digests S) sampleRoutePayload none

theorem sampleReceipt_guarded (payload : Json) :
    Guarded ((sampleParts model payload).digests S) sampleLocalConfig sampleCodeTask
      (sampleReceipt S model) := by
  have hcontent : (sampleParts model payload).content sampleRoutePayload none =
      (sampleParts model .null).content sampleRoutePayload none := rfl
  have hreceipt : receiptOf ((sampleParts model payload).digests S) sampleRoutePayload none =
      sampleReceipt S model := by
    unfold sampleReceipt receiptOf Parts.digests
    simp only [hcontent]
  rw [← hreceipt]
  exact .planned (planAssistantRoute_sample ((sampleParts model payload).digests S))

def sampleLocalCandidate (route : RoutePlan) : CandidateRouteScore where
  route := route
  hardEligible := decide (route = .localOnly)
  paretoEligible := false
  utility := none
  rejectionCodes := ["scorecard_out_of_distribution"]
  pareto := nofun
  ineligible _ := ⟨rfl, rfl, List.cons_ne_nil _ _⟩

def sampleLocalShadow : ShadowRouteDecision :=
  { sampleBlocked with
    routeReceiptId := (sampleReceipt S model).receiptId
    routeReceiptSha256 := ⟨((sampleParts model .null).digests S).full (sampleReceipt S model),
      S.sha256_hex _⟩
    baselineRoute := .plan .localOnly
    recommendedRoute := .plan .localOnly
    candidates := [RoutePlan.localOnly, .localThenVerify, .premium].map sampleLocalCandidate
    receiptId := by
      have hsafe : isSafeId (sampleReceipt S model).receiptId = true :=
        isSafeId_receiptIdOf (S.sha256_hex _)
      rw [strip_of_isSafeId hsafe]
      exact hsafe
    blocked := nofun
    executable := fun _ => ⟨nofun, rfl, fun _ => rfl, nofun⟩ }

theorem sampleLocalShadow_of (payload : Json) :
    ShadowOf S (sampleParts model payload) (sampleReceipt S model) (sampleLocalShadow S model) where
  profile := rfl
  receiptId := requireSafeId_of_isSafeId (isSafeId_receiptIdOf (S.sha256_hex _))
  receiptSha256 := rfl
  runtimePlan := rfl
  taskFingerprint := rfl
  signals := rfl
  capabilities := by
    have hcode : isSafeId "code" = true := by decide
    refine bind_eq_ok.mpr ⟨["code"], requireSafeIds_of_isSafeId ?_,
      check_bind_eq_ok.mpr ⟨List.nodup_singleton _, rfl⟩⟩
    intro item hitem
    cases List.mem_singleton.mp hitem
    exact hcode
  baseline := rfl
  candidates := by
    intro c hc
    obtain ⟨route, _, rfl⟩ := List.mem_map.mp hc
    cases route <;> rfl

def sampleDecision : CanaryRouteDecision :=
  decisionOf S (sampleLocalShadow S model) (sampleEvaluation S) sampleDigest.val
    ((canaryAssignmentBucket S sampleSecret sampleDigest.val).toOption.getD 0) .localOnly .localOnly

theorem sampleDecision_decided :
    decideRouteCanary S (sampleLocalShadow S model) (sampleEvaluation S) =
      .ok (sampleDecision S model) := by
  obtain ⟨bucket, hbucket⟩ := sampleBucket S
  have h : decideRouteCanary S (sampleLocalShadow S model) (sampleEvaluation S) =
      .ok (decisionOf S (sampleLocalShadow S model) (sampleEvaluation S) sampleDigest.val bucket
        .localOnly .localOnly) :=
    decideRouteCanary_eq_ok rfl rfl (sampleEvaluation_checks S rfl rfl) hbucket
  unfold sampleDecision
  rw [hbucket]
  exact h

def sampleCanaryParts : Parts := sampleParts model (sampleDecision S model).payload

end Sample

theorem rewriteReceipt_refused (S : Stdlib) (model : String)
    (h : S.sha256 ((jcs ((sampleParts model .null).payload (sampleReceipt S model))).flatMap
      String.utf8EncodeChar) ≠
        S.sha256Json ((sampleParts model .null).payload (sampleReceipt S model)))
    (rewritten : RouteDecisionReceipt) :
    rewriteReceipt S (sampleCanaryParts S model) (sampleReceipt S model) (sampleDecision S model) ≠
      .ok rewritten := by
  intro hrewritten
  have hbaseline := (sampleReceipt_guarded S model (sampleDecision S model).payload).baseline
    sampleLocalConfig_loaded
  have hdecides := decides_of_ok hbaseline (sampleLocalShadow_of S model _) rfl
    (sampleDecision_decided S model)
  exact h (canonicalSha256_eq_ok (canonicalSha256_of_rewritten sampleLocalConfig_loaded hbaseline
    hdecides hrewritten)).2

theorem accented_receiptId : (sampleReceipt Stdlib.cpython "modèle").receiptId =
    "route-44526df402eaddeb18d1311fbad5917d" := by
  decide +kernel

theorem accented_receipt : sampleReceipt Stdlib.cpython "modèle" =
    ⟨sampleRoutePayload, "route-44526df402eaddeb18d1311fbad5917d", none⟩ := by
  rw [← accented_receiptId]
  rfl

-- The two digests are evaluated one after the other, with the id that is known by then.
theorem accented_digests :
    Stdlib.cpython.sha256 ((jcs ((sampleParts "modèle" .null).payload
        (sampleReceipt Stdlib.cpython "modèle"))).flatMap String.utf8EncodeChar) ≠
      Stdlib.cpython.sha256Json
        ((sampleParts "modèle" .null).payload (sampleReceipt Stdlib.cpython "modèle")) := by
  rw [accented_receipt]
  have hjcs : Stdlib.cpython.sha256 ((jcs ((sampleParts "modèle" .null).payload
      ⟨sampleRoutePayload, "route-44526df402eaddeb18d1311fbad5917d", none⟩)).flatMap
        String.utf8EncodeChar) =
      "a4cea7130483747931b3508557de01587d63bd5396f75e04ad86d598be14eca1" := by decide +kernel
  rw [hjcs]
  decide +kernel

end LocalMoe.Canary
