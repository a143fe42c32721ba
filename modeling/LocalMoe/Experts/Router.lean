/-
  `router.py`: which experts a prompt goes to.

  How the experts rank is left open: the router sorts the eligible ones by their scores, so the
  ranking is some order of them.
-/
import LocalMoe.Experts.Scope

namespace LocalMoe.Experts

inductive Aggregation where
  | best | concat | compare
  deriving DecidableEq, Repr

/-- `MoEConfig`, with what `parse_config` checks of the ids. -/
structure MoEConfig where
  experts : List ExpertConfig
  policy : ExecutionPolicy
  aggregation : Aggregation
  topK : Nat
  fallbackOrder : List String
  uniqueIds : (experts.map ExpertConfig.id).Nodup
  knownFallbacks : ∀ id ∈ fallbackOrder, id ∈ experts.map ExpertConfig.id
  topK_pos : 0 < topK

def MoEConfig.expertById (config : MoEConfig) (id : String) : Option ExpertConfig :=
  config.experts.find? fun expert => expert.id = id

/-- `RouteDecision`: the ids of the selected experts, and the fallbacks. -/
structure RouteDecision where
  selected : List String
  fallbackOrder : List String
  deriving DecidableEq, Repr

section Route

variable (isLoopbackEndpoint : Option String → Bool) (config : MoEConfig) (attest : Attestor)
  (rank : List String → List String)

def eligibility (id : String) : Option ExecutionEligibility :=
  (config.expertById id).map fun expert =>
    evaluate isLoopbackEndpoint config.policy attest expert.executionTarget

/-- `eligible_experts`, by id. -/
def eligibleExperts : List String :=
  (config.experts.filter fun expert =>
    (evaluate isLoopbackEndpoint config.policy attest expert.executionTarget).allowed).map
      ExpertConfig.id

def fallbackIsEligible (selectedScopes : List ExecutionScope) (id : String) : Bool :=
  match eligibility isLoopbackEndpoint config attest id with
  | some candidate =>
    match candidate.scope with
    | some scope => candidate.allowed && permitsFallback config.policy selectedScopes scope
    | none => false
  | none => false

def selectedScopes (selected : List String) : List ExecutionScope :=
  selected.filterMap fun id =>
    (eligibility isLoopbackEndpoint config attest id).bind ExecutionEligibility.scope

/-- The experts that are not eligible, with the reasons. -/
def blocked : String :=
  let ids := (config.experts.map ExpertConfig.id).mergeSort fun a b => decide (a ≤ b)
  "; ".intercalate (ids.map fun id =>
    match eligibility isLoopbackEndpoint config attest id with
    | some candidate => s!"{id} ({candidate.detail})"
    | none => id)

def route : Except Exc RouteDecision :=
  match eligibleExperts isLoopbackEndpoint config attest with
  | [] => .error (.scopePolicy ("no expert satisfies the execution policy; blocked: " ++
      blocked isLoopbackEndpoint config attest ++ "."))
  | eligible =>
    let selected := (rank eligible).take config.topK
    .ok ⟨selected, config.fallbackOrder.filter
      (fallbackIsEligible isLoopbackEndpoint config attest
        (selectedScopes isLoopbackEndpoint config attest selected))⟩

end Route

/-! ## The decision -/

/-- A decision names experts of the configuration, and selects none of them twice. -/
structure RouteDecision.Sound (config : MoEConfig) (decision : RouteDecision) : Prop where
  selectedKnown : ∀ id ∈ decision.selected, id ∈ config.experts.map ExpertConfig.id
  fallbackKnown : ∀ id ∈ decision.fallbackOrder, id ∈ config.experts.map ExpertConfig.id
  distinct : decision.selected.Nodup

section Route

variable {isLoopbackEndpoint : Option String → Bool} {config : MoEConfig} {attest : Attestor}
  {rank : List String → List String} {decision : RouteDecision}

theorem route_ok (h : route isLoopbackEndpoint config attest rank = .ok decision) :
    eligibleExperts isLoopbackEndpoint config attest ≠ [] ∧
    decision.selected = (rank (eligibleExperts isLoopbackEndpoint config attest)).take config.topK ∧
    decision.fallbackOrder = config.fallbackOrder.filter
      (fallbackIsEligible isLoopbackEndpoint config attest
        (selectedScopes isLoopbackEndpoint config attest decision.selected)) := by
  unfold route at h
  split at h
  · cases h
  · next hnonempty =>
    cases h
    exact ⟨hnonempty, rfl, rfl⟩

theorem route_error {e : Exc} (h : route isLoopbackEndpoint config attest rank = .error e) :
    ∃ detail, e = .scopePolicy detail := by
  unfold route at h
  split at h
  · cases h
    exact ⟨_, rfl⟩
  · cases h

theorem eligibleExperts_sublist : (eligibleExperts isLoopbackEndpoint config attest).Sublist
      (config.experts.map ExpertConfig.id) := List.filter_sublist.map _

theorem route_sound (hrank : ∀ ids, (rank ids).Perm ids)
    (h : route isLoopbackEndpoint config attest rank = .ok decision) : decision.Sound config := by
  obtain ⟨-, hselected, hfallback⟩ := route_ok h
  have hsub : (eligibleExperts isLoopbackEndpoint config attest).Sublist
      (config.experts.map ExpertConfig.id) := eligibleExperts_sublist
  have hperm := hrank (eligibleExperts isLoopbackEndpoint config attest)
  refine ⟨fun id hid => ?_, fun id hid => ?_, ?_⟩
  · rw [hselected] at hid
    exact hsub.subset (hperm.mem_iff.mp (List.mem_of_mem_take hid))
  · rw [hfallback] at hid
    exact config.knownFallbacks id (List.mem_filter.mp hid).1
  · rw [hselected]
    exact (hperm.nodup_iff.mpr (config.uniqueIds.sublist hsub)).take

theorem route_selected_ne_nil (hrank : ∀ ids, (rank ids).Perm ids)
    (h : route isLoopbackEndpoint config attest rank = .ok decision) : decision.selected ≠ [] := by
  obtain ⟨hnonempty, hselected, -⟩ := route_ok h
  rw [hselected]
  intro hnil
  rcases List.take_eq_nil_iff.mp hnil with hzero | hnone
  · exact config.topK_pos.ne' hzero
  · have hperm := hrank (eligibleExperts isLoopbackEndpoint config attest)
    rw [hnone] at hperm
    exact hnonempty hperm.nil_eq.symm

end Route

end LocalMoe.Experts
