/-
  The cells that pass every hard check, and that no combination of evidence lets a constructor
  fail.
-/
import LocalMoe.Advisor.Select
import LocalMoe.Route.Optimal

namespace LocalMoe.Advisor

open Foundation Contracts
open Speculative (Conversions)
open Route (Identifiers requireIdentifierTuple requireIdentifierTuple_of flagged
  flagged_eq_nil flagged_identifiers)

/-! ## The shape of resources -/

/-- Resources that belong together. -/
inductive Shaped : Resources → Prop where
  | unknown : Shaped ⟨none, none, none, none, none⟩
  | host (n : Nat) : Shaped ⟨some .host, some .cpu, some n, none, none⟩
  | unified (n : Nat) : Shaped ⟨some .unified, some .integratedAccelerator, none, some n, none⟩
  | accelerator (n m : Nat) :
      Shaped ⟨some .accelerator, some .discreteAccelerator, some n, none, some m⟩

variable {r : Resources} {label : String}

theorem validateResourceShape_iff : validateResourceShape r label = .ok () ↔ Shaped r := by
  constructor
  · obtain ⟨pool, placement, host, unified, accelerator⟩ := r
    intro h
    unfold validateResourceShape at h
    cases pool with
    | none =>
      obtain ⟨rfl, rfl, rfl, rfl⟩ := check_eq_ok.mp h
      exact .unknown
    | some pool =>
      obtain ⟨_, h⟩ := check_bind_eq_ok.mp h
      have hvalid := check_eq_ok.mp h
      cases pool with
      | host =>
        simp only [Bool.and_eq_true, decide_eq_true_eq, Option.isSome_iff_exists,
          Option.isNone_iff_eq_none] at hvalid
        obtain ⟨⟨⟨rfl, n, rfl⟩, rfl⟩, rfl⟩ := hvalid
        exact .host n
      | unified =>
        simp only [Bool.and_eq_true, decide_eq_true_eq, Option.isSome_iff_exists,
          Option.isNone_iff_eq_none] at hvalid
        obtain ⟨⟨⟨rfl, n, rfl⟩, rfl⟩, rfl⟩ := hvalid
        exact .unified n
      | accelerator =>
        simp only [Bool.and_eq_true, decide_eq_true_eq, Option.isSome_iff_exists,
          Option.isNone_iff_eq_none] at hvalid
        obtain ⟨⟨⟨rfl, n, rfl⟩, m, rfl⟩, rfl⟩ := hvalid
        exact .accelerator n m
  · rintro (_ | n | n | ⟨n, m⟩)
    all_goals rfl

theorem Resources.Accepted.shaped (h : r.Accepted label) : Shaped r :=
  validateResourceShape_iff.mp h.shape

theorem Shaped.total (h : Shaped r) (hpool : r.memoryPool ≠ none) :
    ∃ n, r.totalMemoryBytes = some n := by
  cases h with
  | unknown => exact absurd rfl hpool
  | host n | unified n | accelerator n m => exact ⟨_, rfl⟩

theorem maximum_pos {left right : Option Nat} (hleft : ∀ n ∈ left, 0 < n)
    (hright : ∀ n ∈ right, 0 < n) : ∀ n ∈ maximum left right, 0 < n := by
  intro n hn
  cases left with
  | none =>
    cases right with
    | none => cases hn
    | some r => exact hright n hn
  | some l =>
    cases right with
    | none => exact hleft n hn
    | some r =>
      obtain rfl := Option.mem_some_iff.mp hn
      exact lt_max_of_lt_left (hleft l rfl)

@[simp] theorem effectiveResources_memoryPool (cell : CellPassport) :
    (effectiveResources cell).memoryPool = cell.estimated.resources.memoryPool := by
  unfold effectiveResources
  dsimp only
  split <;> rfl

@[simp] theorem effectiveResources_placement (cell : CellPassport) :
    (effectiveResources cell).placement = cell.estimated.resources.placement := by
  unfold effectiveResources
  dsimp only
  split <;> rfl

theorem effectiveResources_accepted (cell : CellPassport) (label : String) :
    (effectiveResources cell).Accepted label := by
  have hpos (peakOf : Resources → Option Nat)
      (hestimated : ∀ n ∈ peakOf cell.estimated.resources, 0 < n)
      (hmeasured : ∀ n ∈ peakOf cell.measured.resources, 0 < n) :
      ∀ n ∈ maximum (peakOf cell.estimated.resources)
        (if measurementApplies cell then peakOf cell.measured.resources else none), 0 < n := by
    refine maximum_pos hestimated ?_
    split
    · exact hmeasured
    · exact nofun
  have hestimated := cell.estimated.accepted
  have hmeasured := cell.measured.accepted
  refine ⟨?_, ?_, ?_, validateResourceShape_iff.mpr ?_⟩
  · unfold effectiveResources
    dsimp only
    split
    · exact nofun
    · exact hpos Resources.host hestimated.host_pos hmeasured.host_pos
  · unfold effectiveResources
    dsimp only
    split
    · exact nofun
    · exact hpos Resources.unified hestimated.unified_pos hmeasured.unified_pos
  · unfold effectiveResources
    dsimp only
    split
    · exact nofun
    · exact hpos Resources.accelerator hestimated.accelerator_pos hmeasured.accelerator_pos
  · have hestimatedShape := hestimated.shaped
    have hmeasuredShape := hmeasured.shaped
    unfold effectiveResources measurementApplies
    revert hestimatedShape hmeasuredShape
    generalize cell.estimated.resources = estimated
    generalize cell.measured.resources = measured
    intro hestimatedShape hmeasuredShape
    cases hestimatedShape with
    | unknown => exact .unknown
    | host n =>
      cases hmeasuredShape with
      | host m => exact .host (max n m)
      | unknown | unified m | accelerator m k => exact .host n
    | unified n =>
      cases hmeasuredShape with
      | unified m => exact .unified (max n m)
      | unknown | host m | accelerator m k => exact .unified n
    | accelerator n k =>
      cases hmeasuredShape with
      | accelerator m l => exact .accelerator (max n m) (max k l)
      | unknown | host m | unified m => exact .accelerator n k

/-! ## Constructors -/

/-- A candidate that its constructor accepts, but for the order of its codes. -/
structure CandidateContent.Valid (c : CandidateContent) : Prop where
  identifiers : Identifiers c.rejectionCodes
  success : ∀ q ∈ c.successRate, 0 ≤ q ∧ q ≤ 1
  latency : ∀ q ∈ c.p95LatencyMs, 0 ≤ q
  resources : c.resources.Accepted "candidate"
  utility : ∀ q ∈ c.utility, 0 ≤ q ∧ q ≤ 1
  eligible : c.hardEligible = true → c.rejectionCodes = [] ∧ c.successRate ≠ none ∧
    c.p95LatencyMs ≠ none ∧ c.resources.memoryPool ≠ none ∧ c.resources.placement ≠ none
  ineligible : c.hardEligible = false → c.paretoEligible = false ∧ c.utility = none
  ranked : c.paretoEligible = true ↔ c.utility ≠ none

def CandidateContent.constructed (L : Conversions) (c : CandidateContent) : CandidateAssessment :=
  let content := { c with rejectionCodes := c.rejectionCodes.insertionSort (· ≤ ·) }
  { content with digest := L.sha256Json content.contentFields }

theorem ids_of {items : List String} (h : Identifiers items) {nonEmpty : Bool}
    (hitems : nonEmpty = true → items ≠ []) :
    ids items label nonEmpty = .ok (items.insertionSort (· ≤ ·)) := by
  have hkept : ¬ (nonEmpty = true ∧ items = []) := fun hempty => hitems hempty.1 hempty.2
  unfold ids
  rw [requireIdentifierTuple_of h, ok_bind]
  dsimp only
  rw [check_of hkept, ok_bind]
  rfl

theorem CandidateContent.Valid.construct {L : Conversions} {c : CandidateContent} (h : c.Valid) :
    c.construct L = .ok (c.constructed L) := by
  have hcodes : ids c.rejectionCodes "rejection_codes" false =
      .ok (c.rejectionCodes.insertionSort (· ≤ ·)) :=
    ids_of h.identifiers fun hfalse => absurd hfalse Bool.false_ne_true
  unfold CandidateContent.construct checkNonNegative checkAtMostOne checkPositive
  rw [hcodes, ok_bind, check_of fun q hq => (h.success q hq).1, ok_bind,
    check_of fun q hq => (h.success q hq).2, ok_bind, check_of h.latency, ok_bind,
    check_of h.resources.host_pos, ok_bind, check_of h.resources.unified_pos, ok_bind,
    check_of h.resources.accelerator_pos, ok_bind, h.resources.shape, ok_bind,
    check_of fun q hq => (h.utility q hq).1, ok_bind, check_of fun q hq => (h.utility q hq).2,
    ok_bind, check_of ?_, ok_bind, check_of h.ineligible, ok_bind, check_of h.ranked, ok_bind]
  · rfl
  · intro heligible
    obtain ⟨hcodes, hrest⟩ := h.eligible heligible
    refine ⟨?_, hrest⟩
    rw [hcodes]
    rfl

theorem candidateOf_valid {cell : CellPassport} {hardEligible : Bool} {rejections : List String}
    (hcodes : Identifiers rejections) (heligible : hardEligible = true → rejections = [] ∧
      cell.measured.successRate ≠ none ∧ cell.measured.p95LatencyMs ≠ none ∧
      cell.estimated.resources.memoryPool ≠ none ∧ cell.estimated.resources.placement ≠ none) :
    (candidateOf cell hardEligible rejections).Valid where
  identifiers := hcodes
  success := cell.measured.success_range
  latency := cell.measured.latency_nonneg
  resources := effectiveResources_accepted cell _
  utility := nofun
  eligible := fun h => by
    obtain ⟨hnone, hsuccess, hlatency, hpool, hplacement⟩ := heligible h
    refine ⟨hnone, hsuccess, hlatency, ?_, ?_⟩
    · change (effectiveResources cell).memoryPool ≠ none
      rwa [effectiveResources_memoryPool]
    · change (effectiveResources cell).placement ≠ none
      rwa [effectiveResources_placement]
  ineligible := fun _ => ⟨rfl, rfl⟩
  ranked := ⟨nofun, fun h => absurd rfl h⟩

/-! ## Codes -/

section Codes

variable {cell : CellPassport} {snapshot : ResourceSnapshot} {request : AdaptiveRequest}
  {profile : AdvisorProfile}

def resourceCodes : Option MemoryPool → Option Placement → List String
  | some .host, some .cpu => ["host_memory_unknown", "host_memory_headroom_insufficient"]
  | some .unified, some .integratedAccelerator =>
    ["unified_memory_unavailable", "unified_memory_unknown",
      "unified_memory_headroom_insufficient"]
  | some .accelerator, some .discreteAccelerator =>
    ["accelerator_memory_unknown", "accelerator_memory_headroom_insufficient",
      "host_memory_unknown", "host_memory_headroom_insufficient"]
  | _, _ => []

theorem resourceFlags_codes (r : Resources) :
    (resourceFlags r snapshot profile).map Prod.snd = resourceCodes r.memoryPool r.placement := by
  obtain ⟨pool, placement, host, unified, accelerator⟩ := r
  rcases pool with _ | (_ | _ | _) <;> rcases placement with _ | (_ | _ | _) <;> rfl

/-- All codes of `_hard_filter`, with those of a pool. -/
def hardCodes (resource : List String) : List String :=
  ["offline_not_supported", "system_not_supported", "machine_not_supported", "capability_gap",
    "tool_surface_gap", "risk_class_not_supported", "context_window_exceeded",
    "model_expected_identity_unknown", "model_availability_unknown", "model_unavailable",
    "model_identity_mismatch", "runtime_expected_identity_unknown",
    "runtime_availability_unknown", "runtime_unavailable", "runtime_identity_mismatch",
    "harness_expected_identity_unknown", "harness_availability_unknown", "harness_unavailable",
    "harness_identity_mismatch", "tool_contract_expected_identity_unknown",
    "tool_contract_availability_unknown", "tool_contract_unavailable",
    "tool_contract_identity_mismatch", "observation_from_future", "observation_expired",
    "resource_estimate_unknown", "measurement_unknown", "measurement_demand_mismatch",
    "measurement_evaluation_contract_mismatch", "measurement_not_applicable",
    "measurement_placement_mismatch", "insufficient_samples", "quality_floor_not_met",
    "measurement_from_future", "measurement_expired"] ++ resource ++
  ["resource_class_unknown", "accelerator_identity_unknown"]

theorem hardFlags_codes : (hardFlags cell snapshot request profile).map Prod.snd =
    hardCodes (resourceCodes (effectiveResources cell).memoryPool
      (effectiveResources cell).placement) := by
  unfold hardFlags hardCodes
  rw [List.map_append, List.map_append, resourceFlags_codes]
  rfl

def allResourceCodes : List String :=
  ["unified_memory_unavailable", "unified_memory_unknown", "unified_memory_headroom_insufficient",
    "accelerator_memory_unknown", "accelerator_memory_headroom_insufficient",
    "host_memory_unknown", "host_memory_headroom_insufficient"]

theorem resourceCodes_sublist (pool : Option MemoryPool) (placement : Option Placement) :
    (resourceCodes pool placement).Sublist allResourceCodes := by
  unfold resourceCodes
  split
  · decide
  · decide
  · decide
  · exact List.nil_sublist _

theorem hardCodes_identifiers (pool : Option MemoryPool) (placement : Option Placement) :
    Identifiers (hardCodes (resourceCodes pool placement)) := by
  have hall : Identifiers (hardCodes allResourceCodes) := by
    unfold hardCodes allResourceCodes
    refine ⟨?_, by simp⟩
    iterate 44 refine List.forall_mem_cons.mpr ⟨isSafeId_ofList (by decide +kernel), ?_⟩
    exact nofun
  have hsub : (hardCodes (resourceCodes pool placement)).Sublist (hardCodes allResourceCodes) :=
    ((List.Sublist.refl _).append (resourceCodes_sublist pool placement)).append
      (List.Sublist.refl _)
  exact ⟨fun item hitem => hall.1 item (hsub.subset hitem), hall.2.sublist hsub⟩

theorem hardRejections_identifiers :
    Identifiers (hardRejections cell snapshot request profile) := by
  unfold hardRejections
  dsimp only
  split
  · exact (by decide : Identifiers ["ranking_metric_unknown"])
  · refine flagged_identifiers ?_
    rw [hardFlags_codes]
    exact hardCodes_identifiers _ _

theorem globalSnapshotRejections_identifiers :
    Identifiers (globalSnapshotRejections snapshot request profile) := by
  unfold globalSnapshotRejections
  refine flagged_identifiers ?_
  simp only [List.map_cons, List.map_nil]
  decide +kernel

end Codes

/-! ## Eligible cells -/

def HasRoom (peak : Option Nat) (reserve : Nat) (available : Option Nat) : Prop :=
  ∃ n m, peak = some n ∧ available = some m ∧ n + reserve ≤ m

/-- The larger of the estimated and the measured peak. -/
def peakOf (cell : CellPassport) (pool : Resources → Option Nat) : Option Nat :=
  maximum (pool cell.estimated.resources) (pool cell.measured.resources)

section Eligible

variable (cell : CellPassport) (snapshot : ResourceSnapshot) (request : AdaptiveRequest)
  (profile : AdvisorProfile)

/-- The peaks of a cell fit into every pool that it uses. -/
inductive Fits : Prop where
  | host (hpool : cell.estimated.resources.memoryPool = some .host)
      (hhost : HasRoom (peakOf cell Resources.host) profile.reserveMemoryBytes
        (systemAvailable snapshot))
  | unified (hpool : cell.estimated.resources.memoryPool = some .unified)
      (htopology : snapshot.memoryTopology = .unified)
      (hkind : snapshot.acceleratorKind = .integrated)
      (hunified : HasRoom (peakOf cell Resources.unified) profile.reserveMemoryBytes
        (systemAvailable snapshot))
  | accelerator (hpool : cell.estimated.resources.memoryPool = some .accelerator)
      (htopology : snapshot.memoryTopology = .dedicated)
      (hkind : snapshot.acceleratorKind = .discrete)
      (haccelerator : HasRoom (peakOf cell Resources.accelerator) profile.reserveMemoryBytes
        snapshot.acceleratorMemoryAvailableBytes)
      (hhost : HasRoom (peakOf cell Resources.host) profile.reserveMemoryBytes
        (systemAvailable snapshot))

/-- Evidence that has begun and has not expired. -/
def Fresh (start expires : Option Timestamp) (now : Int) : Prop :=
  ∃ s e, start = some s ∧ expires = some e ∧ s.instant ≤ now ∧ now < e.instant

structure ClassKnown : Prop where
  system : snapshot.system ≠ "unknown"
  osRelease : snapshot.osRelease ≠ "unknown"
  cpuCount : snapshot.cpuCount ≠ none
  cpuIdentity : snapshot.cpuIdentitySha256 ≠ none
  totalMemory : snapshot.totalMemoryBytes ≠ none
  runtimeEnvironment : snapshot.runtimeEnvironmentSha256 ≠ none
  memoryLimit : snapshot.effectiveMemoryLimitBytes ≠ none

/-- A cell that passes every hard check. -/
structure Eligible : Prop where
  offline : cell.declaration.offlineCapable = true
  system : snapshot.system ∈ cell.declaration.supportedSystems
  machine : snapshot.machine ∈ cell.declaration.supportedMachines
  capabilities : request.demand.capabilities ⊆ cell.declaration.capabilities
  toolSurfaces : request.demand.toolSurfaces ⊆ cell.declaration.toolSurfaces
  riskClass : request.demand.riskClass ∈ cell.declaration.riskClasses
  context : request.demand.contextTokens ≤ cell.declaration.maxContextTokens
  identity : ∀ component, cell.observed.status component = .available ∧
    cell.declaration.expectedSha256 component ≠ none ∧
    cell.observed.observedSha256 component = cell.declaration.expectedSha256 component
  observation : Fresh cell.observed.capturedAt cell.observed.expiresAt request.evaluatedAt.instant
  demand : cell.measured.demandSha256 = some request.demand.digest
  evaluation : cell.measured.evaluationContractSha256 = some request.evaluationContractSha256
  resourceClass : cell.measured.resourceClassSha256 = some snapshot.resourceClassSha256
  pool : cell.measured.resources.memoryPool = cell.estimated.resources.memoryPool
  placement : cell.measured.resources.placement = cell.estimated.resources.placement
  samples : profile.minSamples ≤ cell.measured.sampleCount
  quality : ∃ q, cell.measured.successRate = some q ∧ profile.minSuccessRate ≤ q
  measurement : Fresh cell.measured.measuredAt cell.measured.expiresAt request.evaluatedAt.instant
  fits : Fits cell snapshot profile
  classKnown : ClassKnown snapshot
  accelerator : cell.estimated.resources.placement = some .integratedAccelerator ∨
    cell.estimated.resources.placement = some .discreteAccelerator →
    snapshot.acceleratorIdentitySha256 ≠ none

variable {cell snapshot request profile}

theorem freshnessFlags_false {start expires : Option Timestamp} {now : Int}
    (hstart : start ≠ none) (hexpires : expires ≠ none) :
    (∀ flag ∈ freshnessFlags start expires now label, flag.1 = false) ↔
      Fresh start expires now := by
  obtain ⟨s, rfl⟩ := Option.ne_none_iff_exists'.mp hstart
  obtain ⟨e, rfl⟩ := Option.ne_none_iff_exists'.mp hexpires
  unfold freshnessFlags Fresh
  simp

theorem componentFlags_false (component : Component) :
    (∀ flag ∈ componentFlags cell component, flag.1 = false) ↔
      cell.observed.status component = .available ∧
        cell.declaration.expectedSha256 component ≠ none ∧
        cell.observed.observedSha256 component = cell.declaration.expectedSha256 component := by
  unfold componentFlags
  simp only [List.mem_cons, List.not_mem_nil, or_false, forall_eq_or_imp, forall_eq,
    decide_eq_false_iff_not, Bool.and_eq_false_iff, ne_eq, decide_not, Bool.not_eq_false',
    decide_eq_true_eq]
  cases hstatus : cell.observed.status component with
  | available =>
    simp only [reduceCtorEq, not_false_eq_true, not_true_eq_false, false_or, true_and]
    tauto
  | missing => simp
  | unknown => simp

theorem components_mem (component : Component) : component ∈ components := by
  cases component <;> decide

theorem headroomFlags_false {peak : Option Nat} {reserve : Nat} {available : Option Nat}
    {pool : String} : (∀ flag ∈ headroomFlags peak reserve available pool, flag.1 = false) ↔
      HasRoom peak reserve available := by
  unfold headroomFlags HasRoom exceeds
  cases available with
  | none => simp
  | some m =>
    cases peak with
    | none | some n => simp

theorem Shaped.placed (h : Shaped r) (hknown : r.memoryPool ≠ none) : r.placement ≠ none := by
  cases h with
  | unknown => exact absurd rfl hknown
  | host n | unified n | accelerator n m => exact nofun

theorem effectiveResources_of (hpool : cell.measured.resources.memoryPool =
      cell.estimated.resources.memoryPool)
    (hplacement : cell.measured.resources.placement = cell.estimated.resources.placement)
    (hknown : cell.estimated.resources.memoryPool ≠ none)
    (hplaced : cell.estimated.resources.placement ≠ none) :
    effectiveResources cell = ⟨cell.estimated.resources.memoryPool,
      cell.estimated.resources.placement, peakOf cell Resources.host,
      peakOf cell Resources.unified, peakOf cell Resources.accelerator⟩ := by
  have happlies : measurementApplies cell = true := by
    unfold measurementApplies
    rw [hpool, hplacement]
    simp
  unfold effectiveResources peakOf
  dsimp only
  rw [if_neg (not_or.mpr ⟨hknown, hplaced⟩), happlies]
  rfl

theorem resourceFlags_false (hpool : cell.measured.resources.memoryPool =
      cell.estimated.resources.memoryPool)
    (hplacement : cell.measured.resources.placement = cell.estimated.resources.placement)
    (hknown : cell.estimated.resources.memoryPool ≠ none) :
    (∀ flag ∈ resourceFlags (effectiveResources cell) snapshot profile, flag.1 = false) ↔
      Fits cell snapshot profile := by
  have hshape := cell.estimated.accepted.shaped
  have hplaced := hshape.placed hknown
  rw [effectiveResources_of hpool hplacement hknown hplaced]
  have hcases : (cell.estimated.resources.memoryPool = some .host ∧
        cell.estimated.resources.placement = some .cpu) ∨
      (cell.estimated.resources.memoryPool = some .unified ∧
        cell.estimated.resources.placement = some .integratedAccelerator) ∨
      cell.estimated.resources.memoryPool = some .accelerator ∧
        cell.estimated.resources.placement = some .discreteAccelerator := by
    revert hshape hknown
    generalize cell.estimated.resources = r
    intro hknown hshape
    cases hshape with
    | unknown => exact absurd rfl hknown
    | host n => exact .inl ⟨rfl, rfl⟩
    | unified n => exact .inr (.inl ⟨rfl, rfl⟩)
    | accelerator n m => exact .inr (.inr ⟨rfl, rfl⟩)
  rcases hcases with ⟨hp, hq⟩ | ⟨hp, hq⟩ | ⟨hp, hq⟩
  · rw [hp, hq]
    unfold resourceFlags
    rw [headroomFlags_false]
    constructor
    · exact .host hp
    · rintro (⟨_, hroom⟩ | ⟨hother, _, _, _⟩ | ⟨hother, _, _, _, _⟩)
      · exact hroom
      · rw [hp] at hother
        cases hother
      · rw [hp] at hother
        cases hother
  · rw [hp, hq]
    unfold resourceFlags
    rw [List.forall_mem_cons, headroomFlags_false]
    simp only [ne_eq, decide_not, Bool.or_eq_false_iff, Bool.not_eq_false', decide_eq_true_eq]
    constructor
    · rintro ⟨⟨htopology, hkind⟩, hroom⟩
      exact .unified hp htopology hkind hroom
    · rintro (⟨hother, _⟩ | ⟨_, htopology, hkind, hroom⟩ | ⟨hother, _, _, _, _⟩)
      · rw [hp] at hother
        cases hother
      · exact ⟨⟨htopology, hkind⟩, hroom⟩
      · rw [hp] at hother
        cases hother
  · rw [hp, hq]
    unfold resourceFlags
    rw [List.forall_mem_append, headroomFlags_false, headroomFlags_false]
    constructor
    · rintro ⟨⟨n, m, hn, hm, hle⟩, hhost⟩
      split at hm
      · rename_i hdedicated
        exact .accelerator hp hdedicated.1 hdedicated.2 ⟨n, m, hn, hm, hle⟩ hhost
      · cases hm
    · rintro (⟨hother, _⟩ | ⟨hother, _, _, _⟩ | ⟨_, htopology, hkind, hroom, hhost⟩)
      · rw [hp] at hother
        cases hother
      · rw [hp] at hother
        cases hother
      · rw [if_pos ⟨htopology, hkind⟩]
        exact ⟨hroom, hhost⟩

theorem measurementFlags_false :
    (∀ flag ∈ measurementFlags cell snapshot request profile, flag.1 = false) ↔
      cell.measured.sampleCount ≠ 0 ∧
      cell.measured.demandSha256 = some request.demand.digest ∧
      cell.measured.evaluationContractSha256 = some request.evaluationContractSha256 ∧
      cell.measured.resourceClassSha256 = some snapshot.resourceClassSha256 ∧
      (cell.measured.resources.memoryPool = cell.estimated.resources.memoryPool ∧
        cell.measured.resources.placement = cell.estimated.resources.placement) ∧
      profile.minSamples ≤ cell.measured.sampleCount ∧
      (∃ q, cell.measured.successRate = some q ∧ profile.minSuccessRate ≤ q) ∧
      Fresh cell.measured.measuredAt cell.measured.expiresAt request.evaluatedAt.instant := by
  unfold measurementFlags
  dsimp only
  by_cases hzero : cell.measured.sampleCount = 0
  · refine ⟨fun h => ?_, fun h => absurd hzero h.1⟩
    have hunknown := h _ (List.mem_append_left _ List.mem_cons_self)
    rw [hzero] at hunknown
    cases hunknown
  · obtain ⟨hsuccess, _, _, _, _, _, _, hmeasured, hexpires⟩ :=
      cell.measured.known (Nat.pos_of_ne_zero hzero)
    obtain ⟨q, hq⟩ := Option.ne_none_iff_exists'.mp hsuccess
    have happlies : measurementApplies cell = true ↔
        cell.measured.resources.memoryPool = cell.estimated.resources.memoryPool ∧
        cell.measured.resources.placement = cell.estimated.resources.placement := by
      unfold measurementApplies
      rw [Bool.and_eq_true, decide_eq_true_eq, decide_eq_true_eq]
    have hfresh := @freshnessFlags_false "measurement" _ _ request.evaluatedAt.instant hmeasured
      hexpires
    rw [List.forall_mem_append, List.forall_mem_map, ← happlies, ← hfresh, hq]
    simp only [List.mem_cons, List.not_mem_nil, or_false, forall_eq_or_imp, forall_eq, hzero,
      ne_eq, not_false_eq_true, decide_true, Bool.not_true, Bool.true_and, true_and, decide_not,
      Bool.not_eq_false', decide_eq_true_eq, decide_eq_false_iff_not, not_lt, Option.any_some,
      Option.some.injEq, exists_eq_left', and_assoc]

theorem hardFlags_false : (∀ flag ∈ hardFlags cell snapshot request profile, flag.1 = false) ↔
      Eligible cell snapshot request profile := by
  unfold hardFlags
  dsimp only
  simp only [List.forall_mem_append, List.forall_mem_flatMap, measurementFlags_false]
  constructor
  · rintro ⟨⟨⟨⟨⟨⟨hdeclared, hcomponents⟩, hobserved⟩, hestimate⟩, hmeasured⟩, hresources⟩, hclass⟩
    obtain ⟨_, hdemand, hevaluation, hclassSha, ⟨hpool, hplacement⟩, hsamples, hquality,
      hmeasurement⟩ := hmeasured
    simp only [List.mem_cons, List.not_mem_nil, or_false, forall_eq_or_imp, forall_eq,
      Bool.not_eq_false', decide_eq_false_iff_not, not_not, not_lt, Bool.or_eq_false_iff,
      Bool.and_eq_false_iff] at hdeclared hestimate hclass
    obtain ⟨hoffline, hsystem, hmachine, hcapabilities, hsurfaces, hrisk, hcontext⟩ := hdeclared
    have hidentity : ∀ component, cell.observed.status component = .available ∧
        cell.declaration.expectedSha256 component ≠ none ∧
        cell.observed.observedSha256 component = cell.declaration.expectedSha256 component :=
      fun component => (componentFlags_false component).mp
        (hcomponents component (components_mem component))
    have htimes := cell.observed.known fun hunknown => by
      have hstatus := hunknown.1 .model
      rw [(hidentity .model).1] at hstatus
      cases hstatus
    obtain ⟨⟨⟨⟨⟨⟨⟨hsys, hos⟩, hcpu⟩, hcpuId⟩, htotal⟩, hruntime⟩, hlimit⟩, haccelerator⟩ := hclass
    exact {
      offline := hoffline
      system := hsystem
      machine := hmachine
      capabilities := hcapabilities
      toolSurfaces := hsurfaces
      riskClass := hrisk
      context := hcontext
      identity := hidentity
      observation := (freshnessFlags_false htimes.1 htimes.2).mp hobserved
      demand := hdemand
      evaluation := hevaluation
      resourceClass := hclassSha
      pool := hpool
      placement := hplacement
      samples := hsamples
      quality := hquality
      measurement := hmeasurement
      fits := (resourceFlags_false hpool hplacement hestimate.1).mp hresources
      classKnown := ⟨hsys, hos, hcpu, hcpuId, htotal, hruntime, hlimit⟩
      accelerator := fun h => haccelerator.resolve_left fun hnone => h.elim hnone.1 hnone.2 }
  · intro h
    have hsome : cell.estimated.resources.memoryPool ≠ none := by
      rcases h.fits with ⟨hpool, _⟩ | ⟨hpool, _, _, _⟩ | ⟨hpool, _, _, _, _⟩ <;>
      · rw [hpool]
        exact Option.some_ne_none _
    have hsamples : cell.measured.sampleCount ≠ 0 := by
      have hpos := profile.samples_pos
      have hle := h.samples
      omega
    have hplaced := cell.estimated.accepted.shaped.placed hsome
    have hfreshNone {start expires : Option Timestamp} {now : Int}
        (hfresh : Fresh start expires now) : start ≠ none ∧ expires ≠ none := by
      obtain ⟨s, e, rfl, rfl, _⟩ := hfresh
      exact ⟨Option.some_ne_none _, Option.some_ne_none _⟩
    obtain ⟨hstart, hexpires⟩ := hfreshNone h.observation
    refine ⟨⟨⟨⟨⟨⟨?_, ?_⟩, ?_⟩, ?_⟩, ?_⟩, ?_⟩, ?_⟩
    · simp only [List.mem_cons, List.not_mem_nil, or_false, forall_eq_or_imp, forall_eq,
        Bool.not_eq_false', decide_eq_false_iff_not, not_not, not_lt]
      exact ⟨h.offline, h.system, h.machine, h.capabilities, h.toolSurfaces, h.riskClass, h.context⟩
    · exact fun component _ => (componentFlags_false component).mpr (h.identity component)
    · exact (freshnessFlags_false hstart hexpires).mpr h.observation
    · simp only [List.mem_cons, List.not_mem_nil, or_false, forall_eq, Bool.or_eq_false_iff,
        decide_eq_false_iff_not]
      exact ⟨hsome, hplaced⟩
    · exact ⟨hsamples, h.demand, h.evaluation, h.resourceClass, ⟨h.pool, h.placement⟩, h.samples,
        h.quality, h.measurement⟩
    · exact (resourceFlags_false h.pool h.placement hsome).mpr h.fits
    · simp only [List.mem_cons, List.not_mem_nil, or_false, forall_eq_or_imp, forall_eq,
        decide_eq_false_iff_not, Bool.or_eq_false_iff, Bool.and_eq_false_iff]
      obtain ⟨hsys, hos, hcpu, hcpuId, htotal, hruntime, hlimit⟩ := h.classKnown
      refine ⟨⟨⟨⟨⟨⟨⟨hsys, hos⟩, hcpu⟩, hcpuId⟩, htotal⟩, hruntime⟩, hlimit⟩, ?_⟩
      by_cases hplacement : cell.estimated.resources.placement = some .integratedAccelerator ∨
          cell.estimated.resources.placement = some .discreteAccelerator
      · exact .inr (h.accelerator hplacement)
      · exact .inl (not_or.mp hplacement)

theorem Eligible.measured_known (h : Eligible cell snapshot request profile) :
    cell.measured.successRate ≠ none ∧ cell.measured.p95LatencyMs ≠ none ∧
      cell.estimated.resources.memoryPool ≠ none ∧ cell.estimated.resources.placement ≠ none := by
  have hpos : 0 < cell.measured.sampleCount := profile.samples_pos.trans_le h.samples
  obtain ⟨hsuccess, hlatency, hpool, hplacement, _⟩ := cell.measured.known hpos
  exact ⟨hsuccess, hlatency, h.pool ▸ hpool, h.placement ▸ hplacement⟩

theorem hardRejections_eq_nil : hardRejections cell snapshot request profile = [] ↔
      Eligible cell snapshot request profile := by
  rw [← hardFlags_false, ← flagged_eq_nil]
  unfold hardRejections
  dsimp only
  constructor
  · intro h
    split at h
    · cases h
    · exact h
  · intro h
    have heligible : Eligible cell snapshot request profile :=
      hardFlags_false.mp (flagged_eq_nil.mp h)
    obtain ⟨hsuccess, hlatency, hpool, hplacement⟩ := heligible.measured_known
    rw [if_neg]
    · exact h
    · rintro ⟨_, hnone | hnone | hnone | hnone⟩
      · exact hsuccess hnone
      · exact hlatency hnone
      · exact hpool hnone
      · exact hplacement hnone

end Eligible

end LocalMoe.Advisor
