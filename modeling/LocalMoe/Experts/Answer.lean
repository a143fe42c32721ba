/-
  An answer is as good as the experts that are left.
-/
import LocalMoe.Experts.Fallback

namespace LocalMoe.Experts

open Foundation Contracts

/-! ## What fallback is for -/

section Spec

variable (invoke : String → Except Exc ExpertResult)

/-- The first expert that does not fail settles the answer, and no later one is asked. -/
def BestAnswer (order asked : List String) (out : Except Exc MoEResponse) : Prop :=
  match order.find? fun id => !failed invoke id with
  | none => asked = order ∧ ∃ text, out = .error (.provider text)
  | some id => asked = order.takeWhile (failed invoke) ++ [id] ∧
      match invoke id with
      | .ok result => ∃ response, out = .ok response ∧ response.results = [result]
      | .error e => out = .error e

/-- Results of the selected experts, in their order, and then of so many fallbacks as are
missing. -/
def ManyAnswer (selected fallbacks asked : List String) (out : Except Exc MoEResponse) : Prop :=
  let missing := selected.length - (selected.filterMap (success invoke)).length
  let wanted := selected ++ reached invoke missing fallbacks
  let results := selected.filterMap (success invoke) ++
    (fallbacks.filterMap (success invoke)).take missing
  if wanted.any (aborts invoke) then
    ∃ id ∈ wanted, ∃ e, aborts invoke id = true ∧ invoke id = .error e ∧ out = .error e
  else asked = wanted ∧
    if results = [] then ∃ text, out = .error (.provider text)
    else ∃ response, out = .ok response ∧ response.results = results

/-- What is promised of an answer and of the experts that were asked for it. -/
structure Answered (aggregation : Aggregation) (decision : RouteDecision) (asked : List String)
    (out : Except Exc MoEResponse) : Prop where
  once : asked.Nodup
  errors : ∀ response, out = .ok response →
    response.errors.Perm (asked.filterMap (message invoke))
  raised : ∀ e, out = .error e → (∃ text, e = .provider text) ∨ ∃ detail, e = .scopePolicy detail
  complete : (∃ id ∈ decision.selected ++ fallbacksOf decision, (success invoke id).isSome) →
    (∀ id ∈ decision.selected ++ fallbacksOf decision, aborts invoke id = false) →
      ∃ response, out = .ok response
  best : aggregation = .best →
    BestAnswer invoke (decision.selected ++ fallbacksOf decision) asked out
  many : aggregation ≠ .best →
    ManyAnswer invoke decision.selected (fallbacksOf decision) asked out

end Spec

/-! ## The order of the experts -/

section Order

variable {decision : RouteDecision}

theorem fallbacksOf_spec (decision : RouteDecision) :
    (∀ id ∈ fallbacksOf decision, id ∈ decision.fallbackOrder ∧ id ∉ decision.selected) ∧
      (fallbacksOf decision).Nodup := by
  suffices h : ∀ (rest order : List String),
      ((∀ id ∈ order, id ∈ decision.fallbackOrder ∧ id ∉ decision.selected) ∧ order.Nodup) →
      (∀ id ∈ rest, id ∈ decision.fallbackOrder) →
      let found := rest.foldl
        (fun order id => if id ∈ decision.selected ∨ id ∈ order then order else order ++ [id]) order
      (∀ id ∈ found, id ∈ decision.fallbackOrder ∧ id ∉ decision.selected) ∧ found.Nodup from
    h decision.fallbackOrder [] ⟨by simp, List.nodup_nil⟩ fun _ hid => hid
  intro rest
  induction rest with
  | nil => exact fun order horder _ => horder
  | cons id rest ih =>
    intro order ⟨hmem, hnodup⟩ hrest
    rw [List.foldl_cons]
    refine ih _ ?_ fun other hother => hrest other (List.mem_cons_of_mem _ hother)
    by_cases hskip : id ∈ decision.selected ∨ id ∈ order
    · rw [if_pos hskip]
      exact ⟨hmem, hnodup⟩
    · rw [if_neg hskip]
      obtain ⟨hselected, hnew⟩ := not_or.mp hskip
      refine ⟨List.forall_mem_append.mpr ⟨hmem, List.forall_mem_singleton.mpr
        ⟨hrest id (List.mem_cons_self ..), hselected⟩⟩, ?_⟩
      · exact hnodup.append (List.nodup_singleton id) fun other hother hid => by
          rw [List.mem_singleton] at hid
          exact hnew (hid ▸ hother)

theorem order_nodup (hdistinct : decision.selected.Nodup) :
    (decision.selected ++ fallbacksOf decision).Nodup := by
  obtain ⟨hmem, hnodup⟩ := fallbacksOf_spec decision
  exact hdistinct.append hnodup fun id hselected hfallback => (hmem id hfallback).2 hselected

theorem order_known {config : MoEConfig} (hsound : decision.Sound config) :
    ∀ id ∈ decision.selected ++ fallbacksOf decision, id ∈ config.experts.map ExpertConfig.id := by
  intro id hid
  rcases List.mem_append.mp hid with hid | hid
  · exact hsound.selectedKnown id hid
  · exact hsound.fallbackKnown id ((fallbacksOf_spec decision).1 id hid).1

end Order

/-! ## One expert -/

section Expert

variable {config : MoEConfig} {world : World} {req : GenerationRequest} {id : String}

theorem expertById_known (h : id ∈ config.experts.map ExpertConfig.id) :
    ∃ expert, config.expertById id = some expert ∧ expert.id = id := by
  obtain ⟨expert, hmem, hid⟩ := List.mem_map.mp h
  rcases hfound : config.expertById id with _ | found
  · exact absurd hid (by simpa using List.find?_eq_none.mp hfound expert hmem)
  · exact ⟨found, rfl, by simpa using List.find?_some hfound⟩

variable {stripped : String → String} {expert : ExpertConfig} {result : ExpertResult}

theorem readResult_id {parsed : Value} (h : readResult stripped expert req parsed = .ok result) :
    result.expertId = expert.id := by
  unfold readResult at h
  split at h
  · cases h
  · rcases hrate : maybeFloat (section_ "timings" parsed) "predicted_per_second" with e | rate
    · simp [hrate, bind, Except.bind] at h
    · simp only [hrate, bind, Except.bind, pure, Except.pure, Except.ok.injEq] at h
      rw [← h]
  · cases h

theorem generate_id {exchange : Exchange} (h : generate stripped expert req exchange = .ok result) :
    result.expertId = expert.id := by
  unfold generate at h
  split at h
  · cases h
    rfl
  · unfold generateOpenAi at h
    split at h
    · cases h
    · cases h
    · rename_i baseUrl _ _
      rcases hchat : chatRequest expert baseUrl with e | prompt
      · simp [hchat, bind, Except.bind] at h
      · simp only [hchat, bind, Except.bind] at h
        split at h <;> first | exact readResult_id h | cases h

theorem invokeProvider_id (h : invokeProvider config world req id = .ok result) :
    result.expertId = id := by
  unfold invokeProvider at h
  rcases hexpert : config.expertById id with _ | expert
  · simp [hexpert] at h
  · have hid : expert.id = id := by simpa using List.find?_some hexpert
    simp only [hexpert] at h
    rcases hallowed : requireAllowed world.isLoopbackEndpoint config.policy world.attestCall
        expert.executionTarget with e | attestation
    · simp [hallowed, bind, Except.bind] at h
    · simp only [hallowed, bind, Except.bind] at h
      exact (generate_id h).trans hid

theorem generate_error {exchange : Exchange} {e : Exc} (htranslated : exchange.Translated)
    (h : generate stripped expert req exchange = .error e) : ∃ text, e = .provider text := by
  unfold generate at h
  split at h
  · cases h
  · unfold generateOpenAi at h
    split at h
    · cases h
      exact ⟨_, rfl⟩
    · cases h
      exact ⟨_, rfl⟩
    · rename_i baseUrl _ _
      rcases hchat : chatRequest expert baseUrl with e' | prompt
      · simp only [hchat, bind, Except.bind, Except.error.injEq] at h
        exact h ▸ chatRequest_error hchat
      · simp only [hchat, bind, Except.bind] at h
        split at h
        · exact htranslated.elim
        · cases h
          exact ⟨_, rfl⟩
        · cases h
          exact ⟨_, rfl⟩
        · cases h
          exact ⟨_, rfl⟩
        · exact htranslated.elim
        · exact htranslated.elim
        · cases h
          exact ⟨_, rfl⟩
        · cases h
          exact ⟨_, rfl⟩
        · exact htranslated.elim
        · rename_i parsed
          obtain ⟨rate, hrate⟩ : ∃ rate, maybeFloat (section_ "timings" parsed)
              "predicted_per_second" = .ok rate := maybeFloat_ok htranslated
          unfold readResult at h
          rw [hrate] at h
          split at h <;> cases h <;> exact ⟨_, rfl⟩

theorem invokeProvider_error {e : Exc} (hknown : id ∈ config.experts.map ExpertConfig.id)
    (htranslated : (world.exchange id).Translated)
    (h : invokeProvider config world req id = .error e) :
    (∃ text, e = .provider text) ∨ ∃ detail, e = .scopePolicy detail := by
  obtain ⟨expert, hexpert, -⟩ := expertById_known hknown
  simp only [invokeProvider, hexpert] at h
  rcases hallowed : requireAllowed world.isLoopbackEndpoint config.policy world.attestCall
      expert.executionTarget with e' | attestation
  · simp only [hallowed, bind, Except.bind, Except.error.injEq] at h
    exact .inr (h ▸ requireAllowed_error hallowed)
  · simp only [hallowed, bind, Except.bind] at h
    exact .inl (generate_error htranslated h)

end Expert

/-! ## The strategies -/

theorem takeWhile_find_sublist {α : Type} {p : α → Bool} {a : α} {xs : List α}
    (h : xs.find? p = some a) : (xs.takeWhile (fun x => !p x) ++ [a]).Sublist xs := by
  induction xs with
  | nil => cases h
  | cons x xs ih =>
    rcases hx : p x with _ | _
    · rw [List.find?_cons_of_neg (by simp [hx])] at h
      simpa [hx] using ih h
    · rw [List.find?_cons_of_pos hx] at h
      cases h
      simp [hx]

section Strategies

variable {invoke : String → Except Exc ExpertResult} {aggregation : Aggregation}
  {decision : RouteDecision} {completed : List String → List String}

theorem answersOf_best : answersOf invoke .best completed decision =
    generateBest invoke (decision.selected ++ fallbacksOf decision) := by
  simp [answersOf]

theorem answersOf_many (hmany : aggregation ≠ .best)
    (hids : ∀ id result, invoke id = .ok result → result.expertId = id)
    (hdistinct : decision.selected.Nodup) (hcompleted : ∀ ids, (completed ids).Perm ids) :
    let missing := decision.selected.length - (decision.selected.filterMap (success invoke)).length
    let wanted := decision.selected ++ reached invoke missing (fallbacksOf decision)
    let out := answersOf invoke aggregation completed decision []
    if wanted.any (aborts invoke) then
      out.1.Sublist (decision.selected ++ fallbacksOf decision) ∧
        ∃ id ∈ wanted, ∃ e, aborts invoke id = true ∧ invoke id = .error e ∧ out.2 = .error e
    else ∃ errors, errors.Perm (wanted.filterMap (message invoke)) ∧
      out = (wanted, .ok (decision.selected.filterMap (success invoke) ++
        ((fallbacksOf decision).filterMap (success invoke)).take missing, errors)) := by
  intro missing wanted out
  have hperm := hcompleted decision.selected
  have hout : out = answersOf invoke aggregation completed decision [] := rfl
  have haggregation : aggregation = .concat ∨ aggregation = .compare := by
    cases aggregation <;> simp at hmany ⊢
  rw [answersOf, if_pos haggregation, generateMany, Effect.bind_run, Effect.bind_run] at hout
  rcases hfirst : (completed decision.selected).find? (aborts invoke) with _ | id
  · have hselected : decision.selected.any (aborts invoke) = false := by
      rw [List.any_eq_false]
      intro id hid
      simpa using List.find?_eq_none.mp hfirst id (hperm.mem_iff.mpr hid)
    simp only [Effect.modify, Effect.bind_run, Effect.ofExcept, collect_run, hfirst,
      Effect.pure_run, List.nil_append, mergeSort_success hids hdistinct hperm] at hout
    rcases hmissing : missing with _ | limit
    · rw [if_pos hmissing] at hout
      have hwanted : wanted = decision.selected := by simp [wanted, hmissing, reached]
      rw [hwanted, if_neg (by simp [hselected])]
      exact ⟨_, hperm.filterMap _, by rw [hout]; simp [Effect.pure_run]⟩
    · have hlength : decision.selected.length -
          (decision.selected.filterMap (success invoke)).length = limit + 1 := hmissing
      rw [if_neg (by omega), Effect.bind_run, hlength, generateFallbacks_run] at hout
      have hwanted : wanted = decision.selected ++
          reached invoke (limit + 1) (fallbacksOf decision) := by simp [wanted, hmissing]
      have hsub : (reached invoke (limit + 1) (fallbacksOf decision)).Sublist
          (fallbacksOf decision) := reached_sublist _ _
      rcases hnext : (reached invoke (limit + 1) (fallbacksOf decision)).find? (aborts invoke)
        with _ | id
      · have hany : wanted.any (aborts invoke) = false := by
          rw [hwanted, List.any_append, hselected, Bool.false_or, List.any_eq_false]
          intro id hid
          simpa using List.find?_eq_none.mp hnext id hid
        rw [if_neg (by simp [hany])]
        simp only [hnext, Effect.pure_run, reached_success _ _ hnext] at hout
        refine ⟨_, ?_, by rw [hout, hwanted]⟩
        rw [hwanted, List.filterMap_append]
        exact (hperm.filterMap _).append_right _
      · obtain ⟨e, herror⟩ := aborts_error (List.find?_some hnext)
        have hid := List.mem_of_find?_eq_some hnext
        simp only [hnext, herror, Except.map] at hout
        rw [if_pos (List.any_eq_true.mpr
          ⟨id, hwanted ▸ List.mem_append_right _ hid, List.find?_some hnext⟩), hout]
        refine ⟨List.Sublist.append_left (List.Sublist.trans ?_ hsub) _, id,
          hwanted ▸ List.mem_append_right _ hid, e, List.find?_some hnext, herror, rfl⟩
        exact takeWhile_find_sublist hnext
  · obtain ⟨e, herror⟩ := aborts_error (List.find?_some hfirst)
    have hid : id ∈ decision.selected := hperm.mem_iff.mp (List.mem_of_find?_eq_some hfirst)
    simp only [Effect.modify, Effect.bind_run, Effect.ofExcept, collect_run, hfirst, herror,
      Except.map, List.nil_append] at hout
    rw [if_pos (List.any_eq_true.mpr
      ⟨id, List.mem_append_left _ hid, List.find?_some hfirst⟩), hout]
    exact ⟨List.sublist_append_left _ _, id, List.mem_append_left _ hid, e,
      List.find?_some hfirst, herror, rfl⟩

end Strategies

/-! ## The answer -/

section Answer

variable {config : MoEConfig} {world : World} {req : GenerationRequest} {decision : RouteDecision}

theorem aborts_scopePolicy {id : String} {e : Exc}
    (hknown : id ∈ config.experts.map ExpertConfig.id)
    (htranslated : (world.exchange id).Translated)
    (h : aborts (invokeProvider config world req) id = true)
    (herror : invokeProvider config world req id = .error e) :
    ∃ detail, e = .scopePolicy detail := by
  rcases invokeProvider_error hknown htranslated herror with ⟨text, rfl⟩ | hscope
  · simp [aborts, failed, message, herror] at h
  · exact hscope

theorem generateWithRoute_run (config : MoEConfig) (world : World) (req : GenerationRequest)
    (decision : RouteDecision) : generateWithRoute config world req decision [] =
      match answersOf (invokeProvider config world req) config.aggregation world.completed
        decision [] with
      | (asked, .ok (results, errors)) =>
        (asked, if results.isEmpty then
          .error (.provider (if errors.isEmpty then "No expert produced a result."
            else "; ".intercalate errors))
        else .ok ⟨world.aggregate results, req.correlationId, decision, results, errors⟩)
      | (asked, .error e) => (asked, .error e) := by
  rw [generateWithRoute, Effect.bind_run]
  rcases answersOf (invokeProvider config world req) config.aggregation world.completed
    decision [] with ⟨asked, e | ⟨results, errors⟩⟩
  · rfl
  · dsimp only
    split <;> rfl

theorem generateWithRoute_best (hbest : config.aggregation = .best)
    (htranslated : ∀ id, (world.exchange id).Translated) (hsound : decision.Sound config) :
    Answered (invokeProvider config world req) config.aggregation decision
      (generateWithRoute config world req decision []).1
      (generateWithRoute config world req decision []).2 := by
  have hnodup := order_nodup hsound.distinct
  have hknown := order_known hsound
  rw [generateWithRoute_run, hbest, answersOf_best, generateBest_run]
  rcases hfound : (decision.selected ++ fallbacksOf decision).find? fun id =>
    !failed (invokeProvider config world req) id with _ | id
  · have hall : ∀ id ∈ decision.selected ++ fallbacksOf decision,
        failed (invokeProvider config world req) id = true :=
      fun id hid => by simpa using List.find?_eq_none.mp hfound id hid
    refine ⟨by simpa using hnodup, fun response h => ?_, fun e h => ?_, fun hsome _ => ?_,
      fun _ => ?_, fun h => absurd rfl h⟩
    · simp at h
    · simp only [List.isEmpty_nil, if_true, Except.error.injEq] at h
      exact .inl ⟨_, h.symm⟩
    · obtain ⟨id, hid, hsuccess⟩ := hsome
      have := hall id hid
      rcases answer_cases (invokeProvider config world req) id with
        ⟨_, -, -, -, hfailed, -⟩ | ⟨_, -, hnone, -⟩ | ⟨_, -, hnone, -⟩
      · simp [hfailed] at this
      · simp [hnone] at hsuccess
      · simp [hnone] at hsuccess
    · rw [BestAnswer, hfound]
      exact ⟨by simp, _, rfl⟩
  · have hid := List.mem_of_find?_eq_some hfound
    have hsub : ((decision.selected ++ fallbacksOf decision).takeWhile
        (failed (invokeProvider config world req)) ++ [id]).Sublist
        (decision.selected ++ fallbacksOf decision) := by
      simpa using takeWhile_find_sublist hfound
    rcases hanswer : invokeProvider config world req id with e | result
    · have haborts : aborts (invokeProvider config world req) id = true := by
        have := List.find?_some hfound
        simp only [aborts, this, success, hanswer, Option.isNone_none, Bool.and_self]
      refine ⟨?_, fun response h => ?_, fun e' h => ?_, fun _ hnone => ?_, fun _ => ?_,
        fun h => absurd rfl h⟩
      · simpa [hanswer, Except.map] using hnodup.sublist hsub
      · simp [hanswer, Except.map] at h
      · simp only [hanswer, Except.map, Except.error.injEq] at h
        exact .inr (h ▸ aborts_scopePolicy (hknown id hid) (htranslated id) haborts hanswer)
      · rw [hnone id hid] at haborts
        cases haborts
      · rw [BestAnswer, hfound]
        simp [hanswer, Except.map]
    · have hmessage : message (invokeProvider config world req) id = none := by
        simp [message, hanswer]
      refine ⟨?_, fun response h => ?_, fun e' h => ?_, fun _ _ => ?_, fun _ => ?_,
        fun h => absurd rfl h⟩
      · simpa [hanswer, Except.map] using hnodup.sublist hsub
      · simp only [hanswer, Except.map, List.isEmpty_cons, Bool.false_eq_true, if_false,
          Except.ok.injEq] at h
        rw [← h]
        simp [hmessage, hanswer, Except.map]
      · simp [hanswer, Except.map] at h
      · exact ⟨_, by simp [hanswer, Except.map]; rfl⟩
      · rw [BestAnswer, hfound]
        simp [hanswer, Except.map]

theorem results_ne_nil {invoke : String → Except Exc ExpertResult} {selected fallbacks : List String}
    (hselected : selected ≠ []) (hsome : ∃ id ∈ selected ++ fallbacks, (success invoke id).isSome) :
    selected.filterMap (success invoke) ++ (fallbacks.filterMap (success invoke)).take
      (selected.length - (selected.filterMap (success invoke)).length) ≠ [] := by
  obtain ⟨id, hid, hsuccess⟩ := hsome
  obtain ⟨result, hresult⟩ := Option.isSome_iff_exists.mp hsuccess
  intro hnil
  obtain ⟨hnone, hfallback⟩ := List.append_eq_nil_iff.mp hnil
  rcases List.mem_append.mp hid with hid | hid
  · have hmem := List.mem_filterMap.mpr ⟨id, hid, hresult⟩
    rw [hnone] at hmem
    cases hmem
  · have hmem := List.mem_filterMap.mpr ⟨id, hid, hresult⟩
    rw [hnone, List.length_nil, Nat.sub_zero] at hfallback
    rcases List.take_eq_nil_iff.mp hfallback with hzero | hempty
    · exact hselected (List.length_eq_zero_iff.mp hzero)
    · rw [hempty] at hmem
      cases hmem

theorem generateWithRoute_many (hmany : config.aggregation ≠ .best) (hlawful : world.Lawful)
    (htranslated : ∀ id, (world.exchange id).Translated) (hsound : decision.Sound config)
    (hselected : decision.selected ≠ []) :
    Answered (invokeProvider config world req) config.aggregation decision
      (generateWithRoute config world req decision []).1
      (generateWithRoute config world req decision []).2 := by
  have hnodup := order_nodup hsound.distinct
  have hknown := order_known hsound
  have hids : ∀ id result, invokeProvider config world req id = .ok result →
      result.expertId = id := fun id result => invokeProvider_id
  have hrun := answersOf_many hmany hids hsound.distinct hlawful.completed
  rw [generateWithRoute_run]
  dsimp only at hrun
  split at hrun
  · next hany =>
    obtain ⟨hsub, id, hid, e, haborts, herror, hout⟩ := hrun
    have horder : id ∈ decision.selected ++ fallbacksOf decision := by
      rcases List.mem_append.mp hid with hid | hid
      · exact List.mem_append_left _ hid
      · exact List.mem_append_right _ ((reached_sublist _ _).subset hid)
    obtain ⟨asked, houtEq⟩ : ∃ asked, answersOf (invokeProvider config world req)
        config.aggregation world.completed decision [] = (asked, .error e) :=
      ⟨_, Prod.ext rfl hout⟩
    rw [houtEq] at hsub ⊢
    refine ⟨hnodup.sublist hsub, fun response h => ?_, fun e' h => ?_, fun _ hnone => ?_,
      fun h => absurd h hmany, fun _ => ?_⟩
    · cases h
    · cases h
      exact .inr (aborts_scopePolicy (hknown id horder) (htranslated id) haborts herror)
    · rw [hnone id horder] at haborts
      cases haborts
    · dsimp only [ManyAnswer]
      rw [if_pos hany]
      exact ⟨id, hid, e, haborts, herror, rfl⟩
  · next hany =>
    obtain ⟨errors, hperm, hout⟩ := hrun
    rw [hout]
    have hsub : (decision.selected ++ reached (invokeProvider config world req)
        (decision.selected.length -
          (decision.selected.filterMap (success (invokeProvider config world req))).length)
        (fallbacksOf decision)).Sublist (decision.selected ++ fallbacksOf decision) :=
      (reached_sublist _ _).append_left _
    refine ⟨hnodup.sublist hsub, fun response h => ?_, fun e h => ?_, fun hsome _ => ?_,
      fun h => absurd h hmany, fun _ => ?_⟩
    · dsimp only at h
      split at h
      · cases h
      · cases h
        exact hperm
    · dsimp only at h
      split at h
      · cases h
        exact .inl ⟨_, rfl⟩
      · cases h
    · have hresults := results_ne_nil hselected hsome
      dsimp only
      rw [if_neg (by simpa using hresults)]
      exact ⟨_, rfl⟩
    · dsimp only [ManyAnswer]
      rw [if_neg hany]
      refine ⟨rfl, ?_⟩
      split
      · next hnil =>
        rw [hnil]
        exact ⟨_, rfl⟩
      · next hresults =>
        rw [if_neg (by simpa using hresults)]
        exact ⟨_, rfl, rfl⟩

end Answer

/-! ## A run -/

def sampleExpert (id : String) : ExpertConfig :=
  ⟨id, .synthetic, "model", "role", none, [], ⟨none, none⟩⟩

def sampleConfig : MoEConfig where
  experts := [sampleExpert "a", sampleExpert "b"]
  policy := ⟨.deviceOnly, [.deviceOnly], false, by decide, by decide⟩
  aggregation := .best
  topK := 1
  fallbackOrder := ["b"]
  uniqueIds := by decide
  knownFallbacks := by decide
  topK_pos := by decide

def sampleWorld : World where
  isLoopbackEndpoint := fun _ => false
  attestRoute := fun target => .ok ⟨target.expertId, .deviceOnly, .directLocal, "attestor"⟩
  attestCall := fun target =>
    if target.expertId = "a" then .error "no longer attested"
    else .ok ⟨target.expertId, .deviceOnly, .directLocal, "attestor"⟩
  exchange := fun _ => .opening (.url "connection refused")
  rank := id
  completed := id
  stripped := id
  aggregate := fun results => "\n\n".intercalate (results.map ExpertResult.content)

end LocalMoe.Experts
