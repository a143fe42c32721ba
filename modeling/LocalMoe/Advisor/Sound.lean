/-
  Advice is always given, and it recommends a cell that passes every hard check, that no other
  such cell dominates, and whose utility is the greatest of all.
-/
import LocalMoe.Advisor.Eligible

namespace LocalMoe.Advisor

open Foundation Contracts
open Speculative (Conversions)
open Route (Identifiers flagged flagged_eq_nil flagged_identifiers)

/-! ## Metrics -/

def measuredMetrics (cell : CellPassport) : Metrics where
  quality := cell.measured.successRate.getD 0
  latency := cell.measured.p95LatencyMs.getD 0
  memory := ((effectiveResources cell).totalMemoryBytes.getD 0 : ℕ)

/-- Nowhere worse on the positively weighted metrics, and somewhere better. -/
structure Dominates (profile : AdvisorProfile) (left right : Metrics) : Prop where
  quality : 0 < profile.qualityWeight → right.quality ≤ left.quality
  latency : 0 < profile.latencyWeight → left.latency ≤ right.latency
  memory : 0 < profile.memoryWeight → left.memory ≤ right.memory
  better : (0 < profile.qualityWeight ∧ right.quality < left.quality) ∨
    (0 < profile.latencyWeight ∧ left.latency < right.latency) ∨
    (0 < profile.memoryWeight ∧ left.memory < right.memory)

section Order

variable {profile : AdvisorProfile}

theorem Dominates.irrefl (m : Metrics) : ¬ Dominates profile m m := by
  intro h
  rcases h.better with ⟨_, h⟩ | ⟨_, h⟩ | ⟨_, h⟩
  all_goals exact lt_irrefl _ h

theorem Dominates.trans {a b c : Metrics} (hab : Dominates profile a b)
    (hbc : Dominates profile b c) : Dominates profile a c where
  quality := fun h => (hbc.quality h).trans (hab.quality h)
  latency := fun h => (hab.latency h).trans (hbc.latency h)
  memory := fun h => (hab.memory h).trans (hbc.memory h)
  better := by
    rcases hab.better with ⟨hw, h⟩ | ⟨hw, h⟩ | ⟨hw, h⟩
    · exact .inl ⟨hw, (hbc.quality hw).trans_lt h⟩
    · exact .inr (.inl ⟨hw, h.trans_le (hbc.latency hw)⟩)
    · exact .inr (.inr ⟨hw, h.trans_le (hbc.memory hw)⟩)

theorem comparisons_dominate {left right : Metrics} :
    (((comparisons left right profile).all fun p =>
        if p.2.2 then decide (p.2.1 ≤ p.1) else decide (p.1 ≤ p.2.1)) &&
      (comparisons left right profile).any fun p =>
        if p.2.2 then decide (p.2.1 < p.1) else decide (p.1 < p.2.1)) = true ↔
      Dominates profile left right := by
  have hone {weight : ℚ} {pair : ℚ × ℚ × Bool} {p : ℚ × ℚ × Bool → Bool} :
      ((if 0 < weight then [pair] else []).all p = true ↔ (0 < weight → p pair = true)) ∧
      ((if 0 < weight then [pair] else []).any p = true ↔ 0 < weight ∧ p pair = true) := by
    split
    · rename_i hpos
      simp [hpos]
    · rename_i hpos
      simp [hpos]
  unfold comparisons
  rw [Bool.and_eq_true, List.all_append, List.all_append, List.any_append, List.any_append,
    Bool.and_eq_true, Bool.and_eq_true, Bool.or_eq_true, Bool.or_eq_true, hone.1, hone.1, hone.1,
    hone.2, hone.2, hone.2]
  simp only [if_true, Bool.false_eq_true, if_false, decide_eq_true_eq]
  constructor
  · rintro ⟨⟨⟨hquality, hlatency⟩, hmemory⟩, hbetter⟩
    exact ⟨hquality, hlatency, hmemory, or_assoc.mp hbetter⟩
  · intro h
    exact ⟨⟨⟨h.quality, h.latency⟩, h.memory⟩, or_assoc.mpr h.better⟩

theorem utilityOf_le {left right : Metrics} (h : Dominates profile left right) :
    utilityOf profile right ≤ utilityOf profile left := by
  have hweighted {weight x y : ℚ} (hweight : 0 ≤ weight) (hle : 0 < weight → x ≤ y) :
      weight * x ≤ weight * y := by
    rcases hweight.eq_or_lt with hzero | hpos
    · rw [← hzero, zero_mul, zero_mul]
    · exact mul_le_mul_of_nonneg_left (hle hpos) hweight
  have hscore {reference x y : ℚ} (hreference : 0 < reference) (hle : y ≤ x) :
      max 0 (1 - x / reference) ≤ max 0 (1 - y / reference) :=
    max_le_max le_rfl (sub_le_sub_left (div_le_div_of_nonneg_right hle hreference.le) 1)
  have hmemoryReference : (0 : ℚ) < profile.memoryReferenceBytes := by
    exact_mod_cast profile.memory_pos
  unfold utilityOf
  refine roundPlaces_mono (div_le_div_of_nonneg_right ?_ profile.total_pos.le)
  refine add_le_add (add_le_add ?_ ?_) ?_
  · exact hweighted profile.quality_nonneg h.quality
  · exact hweighted profile.latency_nonneg fun hw => hscore profile.latency_pos (h.latency hw)
  · exact hweighted profile.memory_nonneg fun hw => hscore hmemoryReference (h.memory hw)

theorem utilityOf_range {m : Metrics} (hquality : 0 ≤ m.quality ∧ m.quality ≤ 1)
    (hlatency : 0 ≤ m.latency) (hmemory : 0 ≤ m.memory) :
    0 ≤ utilityOf profile m ∧ utilityOf profile m ≤ 1 := by
  have hmemoryReference : (0 : ℚ) < profile.memoryReferenceBytes := by
    exact_mod_cast profile.memory_pos
  have hscore {reference x : ℚ} (hreference : 0 < reference) (hx : 0 ≤ x) :
      0 ≤ max 0 (1 - x / reference) ∧ max 0 (1 - x / reference) ≤ 1 := by
    have hdiv : 0 ≤ x / reference := div_nonneg hx hreference.le
    exact ⟨le_max_left _ _, max_le zero_le_one (by linarith)⟩
  obtain ⟨hl0, hl1⟩ := hscore profile.latency_pos hlatency
  obtain ⟨hm0, hm1⟩ := hscore hmemoryReference hmemory
  have hweighted {weight x : ℚ} (hweight : 0 ≤ weight) (hx : 0 ≤ x ∧ x ≤ 1) :
      0 ≤ weight * x ∧ weight * x ≤ weight :=
    ⟨mul_nonneg hweight hx.1, mul_le_of_le_one_right hweight hx.2⟩
  have hq := hweighted profile.quality_nonneg hquality
  have hl := hweighted profile.latency_nonneg ⟨hl0, hl1⟩
  have hm := hweighted profile.memory_nonneg ⟨hm0, hm1⟩
  have hzero : roundPlaces 12 0 = 0 := by
    unfold roundPlaces
    rw [zero_mul, show (0 : ℚ) = ((0 : ℤ) : ℚ) from rfl, halfEven_intCast]
    simp
  have hone : roundPlaces 12 1 = 1 := by
    unfold roundPlaces
    rw [show (1 : ℚ) * 10 ^ 12 = ((10 ^ 12 : ℤ) : ℚ) by norm_num, halfEven_intCast]
    norm_num
  have htotal : 0 < profile.totalWeight := profile.total_pos
  unfold utilityOf
  constructor
  · exact hzero.symm.le.trans (roundPlaces_mono (div_nonneg (by linarith) htotal.le))
  · refine (roundPlaces_mono ((div_le_one htotal).mpr ?_)).trans hone.le
    unfold AdvisorProfile.totalWeight
    linarith

end Order

/-! ## Candidates -/

section Candidates

variable {L : Conversions} {snapshot : ResourceSnapshot} {request : AdaptiveRequest}
  {profile : AdvisorProfile} {cell : CellPassport}

/-- The candidate that the hard filter makes of a cell. -/
def hardOf (L : Conversions) (snapshot : ResourceSnapshot) (request : AdaptiveRequest)
    (profile : AdvisorProfile) (cell : CellPassport) : CandidateAssessment :=
  (candidateOf cell (hardRejections cell snapshot request profile = [])
    (hardRejections cell snapshot request profile)).constructed L

/-- The candidate that the ranking makes of an eligible cell. -/
def rankedOf (L : Conversions) (profile : AdvisorProfile) (cell : CellPassport) :
    CandidateAssessment :=
  CandidateContent.constructed L { candidateOf cell true [] with
    paretoEligible := true
    successRate := some (measuredMetrics cell).quality
    p95LatencyMs := some (measuredMetrics cell).latency
    utility := some (utilityOf profile (measuredMetrics cell)) }

theorem hardFilter_eq :
    hardFilter L snapshot request profile cell = .ok (hardOf L snapshot request profile cell) := by
  have hvalid : (candidateOf cell (hardRejections cell snapshot request profile = [])
      (hardRejections cell snapshot request profile)).Valid := by
    refine candidateOf_valid hardRejections_identifiers fun h => ?_
    have hnone := of_decide_eq_true h
    exact ⟨hnone, (hardRejections_eq_nil.mp hnone).measured_known⟩
  unfold hardFilter hardOf
  exact hvalid.construct

theorem blocked_eq {reasons : List String} (hreasons : Identifiers reasons) :
    blocked L reasons cell = .ok ((candidateOf cell false reasons).constructed L) := by
  have hvalid : (candidateOf cell false reasons).Valid :=
    candidateOf_valid hreasons fun h => absurd h Bool.false_ne_true
  unfold blocked
  exact hvalid.construct

theorem metricsOf_hardOf (h : Eligible cell snapshot request profile) :
    metricsOf (hardOf L snapshot request profile cell).toCandidateContent =
      .ok (measuredMetrics cell) := by
  obtain ⟨hsuccess, hlatency, hpool, _⟩ := h.measured_known
  obtain ⟨q, hq⟩ := Option.ne_none_iff_exists'.mp hsuccess
  obtain ⟨l, hl⟩ := Option.ne_none_iff_exists'.mp hlatency
  obtain ⟨n, hn⟩ := (effectiveResources_accepted cell "candidate").shaped.total
    (by rwa [effectiveResources_memoryPool])
  unfold metricsOf measuredMetrics
  change (do
    let quality ← requiredNumber cell.measured.successRate
    let latency ← requiredNumber cell.measured.p95LatencyMs
    let memory ← requiredNumber ((effectiveResources cell).totalMemoryBytes.map fun n => (n : ℚ))
    return (⟨quality, latency, memory⟩ : Metrics)) = _
  rw [hq, hl, hn]
  rfl

theorem measuredMetrics_range (h : Eligible cell snapshot request profile) :
    (0 ≤ (measuredMetrics cell).quality ∧ (measuredMetrics cell).quality ≤ 1) ∧
      0 ≤ (measuredMetrics cell).latency ∧ 0 ≤ (measuredMetrics cell).memory := by
  obtain ⟨hsuccess, hlatency, _, _⟩ := h.measured_known
  obtain ⟨q, hq⟩ := Option.ne_none_iff_exists'.mp hsuccess
  obtain ⟨l, hl⟩ := Option.ne_none_iff_exists'.mp hlatency
  unfold measuredMetrics
  rw [hq, hl]
  exact ⟨cell.measured.success_range q hq, cell.measured.latency_nonneg l hl, Nat.cast_nonneg _⟩

theorem rank_eq (h : Eligible cell snapshot request profile) :
    rank L profile (hardOf L snapshot request profile cell).toCandidateContent =
      .ok (rankedOf L profile cell) := by
  obtain ⟨hquality, hlatency, hmemory⟩ := measuredMetrics_range h
  obtain ⟨_, _, hpool, hplacement⟩ := h.measured_known
  unfold rank
  rw [metricsOf_hardOf h, ok_bind]
  refine CandidateContent.Valid.construct ?_
  refine ⟨(by decide : Identifiers []), ?_, ?_, effectiveResources_accepted cell _, ?_, fun _ => ?_,
    nofun, ⟨fun _ => nofun, fun _ => rfl⟩⟩
  · rintro q hq
    cases hq
    exact hquality
  · rintro q hq
    cases hq
    exact hlatency
  · rintro q hq
    cases hq
    exact utilityOf_range hquality hlatency hmemory
  · refine ⟨rfl, nofun, nofun, ?_, ?_⟩
    · change (effectiveResources cell).memoryPool ≠ none
      rwa [effectiveResources_memoryPool]
    · change (effectiveResources cell).placement ≠ none
      rwa [effectiveResources_placement]

/-! ## The frontier -/

variable {cells : List CellPassport}

theorem isDominated_eq (hids : ∀ a ∈ cells, ∀ b ∈ cells, a.cellId = b.cellId → a = b)
    (heligible : ∀ c ∈ cells, Eligible c snapshot request profile) {c : CellPassport}
    (hc : c ∈ cells) [DecidablePred fun o => Dominates profile (measuredMetrics o)
      (measuredMetrics c)] {rest : List CellPassport} (hrest : ∀ o ∈ rest, o ∈ cells) :
    isDominated profile (hardOf L snapshot request profile c)
        (rest.map (hardOf L snapshot request profile)) =
      .ok (rest.any fun o => decide (Dominates profile (measuredMetrics o) (measuredMetrics c))) := by
  induction rest with
  | nil => rfl
  | cons o rest ih =>
    obtain ⟨ho, hrest⟩ := List.forall_mem_cons.mp hrest
    have hbeaten : beats profile (hardOf L snapshot request profile o)
        (hardOf L snapshot request profile c) =
        .ok (decide (Dominates profile (measuredMetrics o) (measuredMetrics c))) := by
      unfold beats
      split
      · rename_i hid
        rw [hids o ho c hc hid, decide_eq_false (Dominates.irrefl _)]
      · unfold dominates
        rw [metricsOf_hardOf (heligible o ho), ok_bind, metricsOf_hardOf (heligible c hc), ok_bind]
        refine congrArg Except.ok ?_
        rw [Bool.eq_iff_iff, decide_eq_true_eq]
        exact comparisons_dominate
    rw [List.map_cons, isDominated, hbeaten, ok_bind, List.any_cons, ih hrest]
    cases decide (Dominates profile (measuredMetrics o) (measuredMetrics c)) <;> rfl

theorem frontierOf_eq (hids : ∀ a ∈ cells, ∀ b ∈ cells, a.cellId = b.cellId → a = b)
    (heligible : ∀ c ∈ cells, Eligible c snapshot request profile)
    [DecidableRel fun o c => Dominates profile (measuredMetrics o) (measuredMetrics c)] :
    frontierOf L profile (cells.map (hardOf L snapshot request profile))
        (cells.map (hardOf L snapshot request profile)) =
      .ok ((cells.filter fun c => !cells.any fun o =>
        decide (Dominates profile (measuredMetrics o) (measuredMetrics c))).map
          (rankedOf L profile)) := by
  have hpart : ∀ rest : List CellPassport, (∀ c ∈ rest, c ∈ cells) →
      frontierOf L profile (cells.map (hardOf L snapshot request profile))
          (rest.map (hardOf L snapshot request profile)) =
        .ok ((rest.filter fun c => !cells.any fun o =>
          decide (Dominates profile (measuredMetrics o) (measuredMetrics c))).map
            (rankedOf L profile)) := by
    intro rest hrest
    induction rest with
    | nil => rfl
    | cons c rest ih =>
      obtain ⟨hc, hrest⟩ := List.forall_mem_cons.mp hrest
      rw [List.map_cons, frontierOf, isDominated_eq hids heligible hc fun o ho => ho, ok_bind,
        ih hrest, rank_eq (heligible c hc), List.filter_cons]
      cases cells.any fun o =>
        decide (Dominates profile (measuredMetrics o) (measuredMetrics c)) <;> rfl
  exact hpart cells fun c hc => hc

end Candidates

/-! ## Advice -/

/-- A snapshot that is fresh and whose use of swap is known and small enough. -/
structure SnapshotPasses (snapshot : ResourceSnapshot) (request : AdaptiveRequest)
    (profile : AdvisorProfile) : Prop where
  begun : snapshot.capturedAt.instant ≤ request.evaluatedAt.instant
  fresh : request.evaluatedAt.instant - snapshot.capturedAt.instant ≤ profile.maxSnapshotAgeSeconds
  swap : ∃ used, snapshot.swapUsedBytes = some used ∧ used ≤ profile.maxSwapUsedBytes

theorem globalSnapshotRejections_eq_nil {snapshot : ResourceSnapshot} {request : AdaptiveRequest}
    {profile : AdvisorProfile} : globalSnapshotRejections snapshot request profile = [] ↔
      SnapshotPasses snapshot request profile := by
  unfold globalSnapshotRejections
  dsimp only
  rw [flagged_eq_nil]
  simp only [List.mem_cons, List.not_mem_nil, or_false, forall_eq_or_imp, forall_eq,
    decide_eq_false_iff_not, not_lt, gt_iff_lt, Bool.and_eq_false_iff]
  constructor
  · rintro ⟨hbegun, hfresh, hswap, hknown⟩
    obtain ⟨used, hused⟩ := Option.ne_none_iff_exists'.mp hknown
    rw [hused, Option.any_some, decide_eq_false_iff_not, not_lt] at hswap
    exact ⟨hbegun, hfresh.resolve_left fun h => h hbegun, used, hused, hswap⟩
  · rintro ⟨hbegun, hfresh, used, hused, hswap⟩
    rw [hused, Option.any_some, decide_eq_false_iff_not, not_lt]
    exact ⟨hbegun, .inr hfresh, hswap, Option.some_ne_none _⟩

structure Best (catalog : AdaptiveCellCatalog) (snapshot : ResourceSnapshot)
    (request : AdaptiveRequest) (profile : AdvisorProfile) (cell : CellPassport) : Prop where
  mem : cell ∈ catalog.cells
  eligible : Eligible cell snapshot request profile
  undominated : ∀ other ∈ catalog.cells, Eligible other snapshot request profile →
    ¬ Dominates profile (measuredMetrics other) (measuredMetrics cell)
  maximal : ∀ other ∈ catalog.cells, Eligible other snapshot request profile →
    utilityOf profile (measuredMetrics other) ≤ utilityOf profile (measuredMetrics cell)

structure SoundAdvice (catalog : AdaptiveCellCatalog) (snapshot : ResourceSnapshot)
    (request : AdaptiveRequest) (profile : AdvisorProfile) (a : AdaptiveAdvice) : Prop where
  recommended : a.status = .recommended ↔ SnapshotPasses snapshot request profile ∧
    ∃ cell ∈ catalog.cells, Eligible cell snapshot request profile
  abstained : a.status = .abstained → a.selectedCellId = none
  best : a.status = .recommended → ∃ cell, a.selectedCellId = some cell.cellId ∧
    Best catalog snapshot request profile cell

theorem length_filter_eq_one {α κ : Type*} {key : α → κ} {items : List α} {p : α → Bool} {a : α}
    (hnodup : (items.map key).Nodup) (ha : a ∈ items) (hp : p a = true)
    (hkey : ∀ b ∈ items, p b = true → key b = key a) : (items.filter p).length = 1 := by
  have hall : ∀ k ∈ (items.filter p).map key, k = key a := by
    intro k hk
    obtain ⟨b, hb, rfl⟩ := List.mem_map.mp hk
    obtain ⟨hmem, hpb⟩ := List.mem_filter.mp hb
    exact hkey b hmem hpb
  have hsub : ((items.filter p).map key).Nodup := hnodup.sublist (List.filter_sublist.map key)
  rw [List.eq_replicate_of_mem hall, List.nodup_replicate, List.length_map] at hsub
  have hpos : 0 < (items.filter p).length := List.length_pos_of_mem (List.mem_filter.mpr ⟨ha, hp⟩)
  omega

section Advice

variable {L : Conversions} {catalog : AdaptiveCellCatalog} {snapshot : ResourceSnapshot}
  {request : AdaptiveRequest} {profile : AdvisorProfile}

theorem advice_returns {cand : CellPassport → CandidateAssessment}
    (hid : ∀ c, (cand c).cellId = c.cellId) {selected : Option SafeId}
    (hselected : ∀ id, selected = some id →
      ∃ c ∈ catalog.cells, c.cellId = id ∧ (cand c).paretoEligible = true)
    {reasons : List String} (hreasons : Identifiers reasons) :
    ∃ a, advice L catalog snapshot request (catalog.cells.map cand) selected reasons = .ok a ∧
      a.status = (if selected.isSome then .recommended else .abstained) ∧
      a.selectedCellId = selected := by
  have hids : (catalog.cells.map cand).map (fun c => c.cellId.val) =
      catalog.cells.map fun c => c.cellId.val := by
    rw [List.map_map]
    exact List.map_congr_left fun c _ => congrArg Subtype.val (hid c)
  have hsorted : (catalog.cells.map fun c => c.cellId.val) =
      (catalog.cells.map fun c => c.cellId.val).insertionSort (· ≤ ·) :=
    (List.Pairwise.insertionSort_eq (catalog.sorted.imp fun h => h.le)).symm
  have hnodup : (catalog.cells.map fun c => c.cellId.val).Nodup :=
    catalog.sorted.imp fun h => ne_of_lt h
  have hone : (if selected.isSome then AdviceStatus.recommended else .abstained) = .recommended →
      ((catalog.cells.map cand).filter fun c =>
        some c.cellId = selected ∧ c.paretoEligible = true).length = 1 := by
    intro hstatus
    cases hsel : selected with
    | none =>
      rw [hsel] at hstatus
      cases hstatus
    | some id =>
      obtain ⟨c, hc, hcid, hpareto⟩ := hselected id hsel
      refine length_filter_eq_one (a := cand c) (hids ▸ hnodup) (List.mem_map_of_mem hc) ?_ ?_
      · rw [decide_eq_true_eq, hid, hcid]
        exact ⟨rfl, hpareto⟩
      · intro b _ hb
        obtain ⟨hb, _⟩ := of_decide_eq_true hb
        rw [Option.some.inj hb, hid, hcid]
  have hnone : (if selected.isSome then AdviceStatus.recommended else .abstained) = .abstained →
      selected = none := by
    intro hstatus
    cases selected with
    | none => rfl
    | some id => cases hstatus
  have hmore : Identifiers (if "advisory_only" ∈ reasons then reasons
      else "advisory_only" :: reasons) := by
    split
    · exact hreasons
    · rename_i hnew
      refine ⟨List.forall_mem_cons.mpr ⟨by decide, hreasons.1⟩, ?_⟩
      exact List.nodup_cons.mpr ⟨hnew, hreasons.2⟩
  have hperm := List.perm_insertionSort (· ≤ ·) (if "advisory_only" ∈ reasons then reasons
    else "advisory_only" :: reasons)
  have hcodes : Identifiers ((if "advisory_only" ∈ reasons then reasons
      else "advisory_only" :: reasons).insertionSort (· ≤ ·)) :=
    ⟨fun item hitem => hmore.1 item (hperm.mem_iff.mp hitem), hperm.nodup_iff.mpr hmore.2⟩
  have hsome : (if "advisory_only" ∈ reasons then reasons
      else "advisory_only" :: reasons).insertionSort (· ≤ ·) ≠ [] := by
    intro hnil
    rw [hnil] at hperm
    have hempty := hperm.symm.eq_nil
    split at hempty
    · rename_i hmem
      rw [hempty] at hmem
      cases hmem
    · cases hempty
  unfold advice AdviceContent.construct
  dsimp only
  rw [check_of ⟨hids ▸ hsorted, hids ▸ hnodup⟩, ok_bind, check_of hone, ok_bind, check_of hnone,
    ok_bind, ids_of hcodes fun _ => hsome, ok_bind]
  exact ⟨_, rfl, rfl, rfl⟩

theorem mapM_eq_map {α β : Type*} {f : α → Except ContractError β} {g : α → β}
    (h : ∀ a, f a = .ok (g a)) (items : List α) : items.mapM f = .ok (items.map g) := by
  induction items with
  | nil => rfl
  | cons a items ih =>
    rw [List.mapM_cons, h a, ok_bind, ih]
    rfl

theorem eq_of_key_eq {α : Type*} {key : α → String} {items : List α}
    (h : items.Pairwise fun a b => key a < key b) {a b : α} (ha : a ∈ items) (hb : b ∈ items)
    (heq : key a = key b) : a = b := by
  induction items with
  | nil => cases ha
  | cons c items ih =>
    obtain ⟨hc, hrest⟩ := List.pairwise_cons.mp h
    rcases List.mem_cons.mp ha with hac | ha
    · rcases List.mem_cons.mp hb with hbc | hb
      · rw [hac, hbc]
      · have hlt := hc b hb
        rw [← hac, heq] at hlt
        exact absurd hlt (lt_irrefl _)
    · rcases List.mem_cons.mp hb with hbc | hb
      · have hlt := hc a ha
        rw [← hbc, heq] at hlt
        exact absurd hlt (lt_irrefl _)
      · exact ih hrest ha hb

theorem cells_injective {a b : CellPassport} (ha : a ∈ catalog.cells) (hb : b ∈ catalog.cells)
    (heq : a.cellId = b.cellId) : a = b :=
  eq_of_key_eq (List.pairwise_map.mp catalog.sorted) ha hb (congrArg Subtype.val heq)

/-- Advice is given on every snapshot, and it is sound. -/
theorem advice_sound (hprofile : catalog.profiles request.profile.val = some profile)
    (hwildcard : "*" ∉ request.demand.capabilities) :
    ∃ a, adviseCell L catalog snapshot request = .ok a ∧
      SoundAdvice catalog snapshot request profile a := by
  classical
  have hexplicit : ¬ (request.demand.capabilities = [] ∨ "*" ∈ request.demand.capabilities) :=
    not_or.mpr ⟨request.demand.capabilities_nonempty, hwildcard⟩
  unfold adviseCell
  rw [check_of hexplicit, ok_bind, hprofile]
  dsimp only
  by_cases hpasses : SnapshotPasses snapshot request profile
  · rw [if_neg (not_not.mpr (globalSnapshotRejections_eq_nil.mpr hpasses)),
      mapM_eq_map fun c => hardFilter_eq, ok_bind]
    obtain ⟨accepted, haccepted⟩ : ∃ accepted, accepted = catalog.cells.filter fun c =>
      decide (hardRejections c snapshot request profile = []) := ⟨_, rfl⟩
    have hmem : ∀ c, c ∈ accepted ↔ c ∈ catalog.cells ∧ Eligible c snapshot request profile := by
      intro c
      rw [haccepted, List.mem_filter, decide_eq_true_eq, hardRejections_eq_nil]
    have hfilter : (catalog.cells.map (hardOf L snapshot request profile)).filter
        (fun item => item.hardEligible) =
        accepted.map (hardOf L snapshot request profile) := by
      rw [haccepted, List.filter_map]
      rfl
    have hids : ∀ a ∈ accepted, ∀ b ∈ accepted, a.cellId = b.cellId → a = b := fun a ha b hb =>
      cells_injective ((hmem a).mp ha).1 ((hmem b).mp hb).1
    rw [hfilter, frontierOf_eq hids fun c hc => ((hmem c).mp hc).2, ok_bind]
    obtain ⟨frontier, hfrontier⟩ : ∃ frontier, frontier = accepted.filter fun c =>
      !accepted.any fun o =>
        decide (Dominates profile (measuredMetrics o) (measuredMetrics c)) := ⟨_, rfl⟩
    rw [← hfrontier]
    have hundominated : ∀ c, c ∈ frontier ↔ c ∈ accepted ∧
        ∀ o ∈ accepted, ¬ Dominates profile (measuredMetrics o) (measuredMetrics c) := by
      intro c
      rw [hfrontier, List.mem_filter, Bool.not_eq_true', ← Bool.not_eq_true, List.any_eq_true]
      simp only [not_exists, not_and, decide_eq_true_eq]
    obtain ⟨final, hfinal⟩ : ∃ final : CellPassport → CandidateAssessment, final = fun c =>
      ((frontier.map (rankedOf L profile)).find? fun ranked => ranked.cellId = c.cellId).getD
        (hardOf L snapshot request profile c) := ⟨_, rfl⟩
    have hbyId : (catalog.cells.map (hardOf L snapshot request profile)).map (fun item =>
        ((frontier.map (rankedOf L profile)).find? fun ranked =>
          ranked.cellId = item.cellId).getD item) = catalog.cells.map final := by
      rw [List.map_map, hfinal]
      rfl
    rw [hbyId]
    have hid : ∀ c, (final c).cellId = c.cellId := by
      intro c
      rw [hfinal]
      dsimp only
      cases hfound : (frontier.map (rankedOf L profile)).find? fun ranked =>
          ranked.cellId = c.cellId with
      | none => rfl
      | some ranked =>
        have hfind := List.find?_some hfound
        exact of_decide_eq_true hfind
    have hpareto : ∀ c ∈ frontier, (final c).paretoEligible = true := by
      intro c hc
      rw [hfinal]
      dsimp only
      cases hfound : (frontier.map (rankedOf L profile)).find? fun ranked =>
          ranked.cellId = c.cellId with
      | none =>
        have hnot := List.find?_eq_none.mp hfound (rankedOf L profile c) (List.mem_map_of_mem hc)
        exact absurd (decide_eq_true rfl) hnot
      | some ranked =>
        obtain ⟨d, _, rfl⟩ := List.mem_map.mp (List.mem_of_find?_eq_some hfound)
        rfl
    have hsorted : (catalog.cells.map final).insertionSort
        (fun a b => a.cellId.val ≤ b.cellId.val) = catalog.cells.map final := by
      refine List.Pairwise.insertionSort_eq ?_
      rw [List.pairwise_map]
      simp only [hid]
      exact (List.pairwise_map.mp catalog.sorted).imp fun h => h.le
    rw [hsorted]
    have hirrefl : ∀ a ∈ accepted, ¬ Dominates profile (measuredMetrics a) (measuredMetrics a) :=
      fun a _ => Dominates.irrefl _
    have htrans : ∀ a ∈ accepted, ∀ b ∈ accepted, ∀ c ∈ accepted,
        Dominates profile (measuredMetrics a) (measuredMetrics b) →
        Dominates profile (measuredMetrics b) (measuredMetrics c) →
        Dominates profile (measuredMetrics a) (measuredMetrics c) :=
      fun a _ b _ c _ hab hbc => hab.trans hbc
    cases hfirst : Pareto.firstBy (rankingKey profile) (frontier.map (rankedOf L profile)) with
    | none =>
      -- an eligible cell is dominated by one that is not, if by any
      have hnil : frontier = [] := by
        by_contra hne
        have hranked : frontier.map (rankedOf L profile) ≠ [] := fun h =>
          hne (List.map_eq_nil_iff.mp h)
        obtain ⟨winner, hwinner⟩ := Pareto.firstBy_isSome (rankingKey profile) hranked
        rw [hwinner] at hfirst
        cases hfirst
      have hnone : ¬ ∃ cell ∈ catalog.cells, Eligible cell snapshot request profile := by
        rintro ⟨c, hc, heligible⟩
        have hcAccepted := (hmem c).mpr ⟨hc, heligible⟩
        have hempty : ∀ d, d ∉ frontier := fun d => hnil ▸ List.not_mem_nil
        by_cases hfree : ∀ o ∈ accepted, ¬ Dominates profile (measuredMetrics o) (measuredMetrics c)
        · exact hempty c ((hundominated c).mpr ⟨hcAccepted, hfree⟩)
        · push Not at hfree
          obtain ⟨o, ho, hdom⟩ := hfree
          obtain ⟨d, hd, _, hdFree⟩ := Pareto.exists_undominated hirrefl htrans hcAccepted ho hdom
          exact hempty d ((hundominated d).mpr ⟨hd, hdFree⟩)
      obtain ⟨a, ha, hstatus, hselected⟩ := @advice_returns L catalog snapshot request final hid
        none (fun _ h => absurd h.symm (Option.some_ne_none _))
        ["advisory_only", "no_eligible_cell"] (by decide +kernel)
      refine ⟨a, ha, ⟨?_, fun _ => hselected, fun h => ?_⟩⟩
      · rw [hstatus]
        exact ⟨nofun, fun h => absurd h.2 hnone⟩
      · rw [hstatus] at h
        cases h
    | some winner =>
      obtain ⟨hwinner, hleast⟩ := Pareto.firstBy_spec hfirst
      obtain ⟨c, hc, rfl⟩ := List.mem_map.mp hwinner
      obtain ⟨hcAccepted, hcFree⟩ := (hundominated c).mp hc
      obtain ⟨hcMem, hcEligible⟩ := (hmem c).mp hcAccepted
      have hbest : ∀ d ∈ frontier,
          utilityOf profile (measuredMetrics d) ≤ utilityOf profile (measuredMetrics c) := by
        intro d hd
        have hle := hleast _ (List.mem_map_of_mem hd)
        unfold rankingKey at hle
        rw [Prod.Lex.toLex_le_toLex] at hle
        rcases hle with hlt | ⟨heq, _⟩
        · exact (neg_lt_neg_iff.mp hlt).le
        · exact (neg_inj.mp heq).ge
      obtain ⟨a, ha, hstatus, hselected⟩ := @advice_returns L catalog snapshot request final hid
        (some c.cellId) (fun id h => ⟨c, hcMem, Option.some.inj h, hpareto c hc⟩)
        ["advisory_only", "pareto_frontier_selected"] (by decide +kernel)
      refine ⟨a, ha, ⟨?_, fun h => ?_, fun _ => ⟨c, hselected, hcMem, hcEligible, ?_, ?_⟩⟩⟩
      · rw [hstatus]
        exact ⟨fun _ => ⟨hpasses, c, hcMem, hcEligible⟩, fun _ => rfl⟩
      · rw [hstatus] at h
        cases h
      · intro other hother heligible
        exact hcFree other ((hmem other).mpr ⟨hother, heligible⟩)
      · -- dominance never discards the greatest utility
        intro other hother heligible
        have hmax := Pareto.undominated_max (l := accepted)
          (s := fun d => utilityOf profile (measuredMetrics d)) (b := c) hirrefl htrans
          (fun a _ b _ hdom => utilityOf_le hdom)
          (fun d hd hfree => hbest d ((hundominated d).mpr ⟨hd, hfree⟩))
          ((hmem other).mpr ⟨hother, heligible⟩)
        exact hmax
  · have hsome := mt globalSnapshotRejections_eq_nil.mp hpasses
    rw [if_pos hsome, mapM_eq_map fun c => blocked_eq globalSnapshotRejections_identifiers, ok_bind]
    obtain ⟨a, ha, hstatus, hselected⟩ := @advice_returns L catalog snapshot request
      (fun c => (candidateOf c false (globalSnapshotRejections snapshot request profile)).constructed
        L) (fun _ => rfl) none (fun _ h => absurd h.symm (Option.some_ne_none _)) _
      globalSnapshotRejections_identifiers
    refine ⟨a, ha, ⟨?_, fun _ => hselected, fun h => ?_⟩⟩
    · rw [hstatus]
      exact ⟨nofun, fun h => absurd h.1 hpasses⟩
    · rw [hstatus] at h
      cases h

end Advice

/-! ## A catalog of one cell -/

def sampleSha : Digest := ⟨String.ofList (List.replicate 64 'b'), Eq.refl true⟩

theorem sampleCellId_safe : isSafeId "cell" = true ∧ strip "cell" = "cell" := by decide

def sampleCellId : SafeId := ⟨"cell", sampleCellId_safe⟩

def sampleProfileId : SafeId := ⟨"default", by decide⟩

def sampleResources : Resources := ⟨some .host, some .cpu, some 1, none, none⟩

def sampleTime : Timestamp := ⟨"1970-01-01T00:00:00+00:00", 0⟩

def sampleExpiry : Timestamp := ⟨"1970-01-01T00:00:01+00:00", 1⟩

theorem sampleResources_accepted (label : String) : sampleResources.Accepted label where
  host_pos := fun n hn => by
    obtain rfl := Option.mem_some_iff.mp hn
    exact Nat.one_pos
  unified_pos := nofun
  accelerator_pos := nofun
  shape := rfl

def sampleCell : CellPassport where
  declaration := {
    cellId := sampleCellId
    capabilities := ["chat"]
    toolSurfaces := []
    riskClasses := ["low"]
    supportedSystems := ["Linux"]
    supportedMachines := ["x86_64"]
    maxContextTokens := 1
    offlineCapable := true
    expectedSha256 := fun _ => some sampleSha }
  observed := {
    status := fun _ => .available
    observedSha256 := fun _ => some sampleSha
    residencyStatus := .unknown
    capturedAt := some sampleTime
    expiresAt := some sampleExpiry
    identity := fun _ => ⟨fun _ => nofun, fun _ => rfl⟩
    unknown := fun h => nomatch h .model
    known := fun _ => ⟨nofun, nofun⟩ }
  estimated := ⟨sampleResources, sampleResources_accepted _⟩
  measured := {
    sampleCount := 1
    successRate := some 1
    p95LatencyMs := some 1
    resources := sampleResources
    resourceClassSha256 := some sampleSha
    demandSha256 := some sampleSha
    evaluationContractSha256 := some sampleSha
    measuredAt := some sampleTime
    expiresAt := some sampleExpiry
    success_range := fun q hq => by
      obtain rfl := Option.mem_some_iff.mp hq
      norm_num
    latency_nonneg := fun q hq => by
      obtain rfl := Option.mem_some_iff.mp hq
      norm_num
    accepted := sampleResources_accepted _
    unknown := nofun
    known := fun _ => ⟨nofun, nofun, nofun, nofun, nofun, nofun, nofun, nofun, nofun⟩ }
  digest := sampleSha

theorem sampleRange : (0 : ℚ) ≤ 0 ∧ (0 : ℚ) ≤ 1 := by norm_num

def sampleProfile : AdvisorProfile where
  qualityWeight := 1
  latencyWeight := 1
  memoryWeight := 1
  minSuccessRate := 0
  minSamples := 1
  reserveMemoryBytes := 0
  latencyReferenceMs := 1
  memoryReferenceBytes := 1
  maxSnapshotAgeSeconds := 1
  maxSwapUsedBytes := 0
  quality_nonneg := zero_le_one
  latency_nonneg := zero_le_one
  memory_nonneg := zero_le_one
  total_pos := add_pos (add_pos zero_lt_one zero_lt_one) zero_lt_one
  success_range := sampleRange
  samples_pos := Nat.one_pos
  latency_pos := zero_lt_one
  memory_pos := Nat.one_pos
  age_pos := Nat.one_pos

def sampleCatalog : AdaptiveCellCatalog where
  cells := [sampleCell]
  profiles := fun name => if name = "default" then some sampleProfile else none
  digest := sampleSha
  nonempty := nofun
  few := by decide
  sorted := List.pairwise_singleton _ _

def sampleSnapshot : ResourceSnapshot where
  system := "Linux"
  osRelease := "6"
  machine := "x86_64"
  cpuCount := some 1
  cpuIdentitySha256 := some sampleSha
  memoryTopology := .system
  totalMemoryBytes := some 1
  availableMemoryBytes := some 1
  effectiveMemoryLimitBytes := some 1
  swapUsedBytes := some 0
  acceleratorKind := .none
  acceleratorIdentitySha256 := none
  acceleratorMemoryAvailableBytes := none
  runtimeEnvironmentSha256 := some sampleSha
  capturedAt := sampleTime
  resourceClassSha256 := sampleSha
  digest := sampleSha

def sampleRequest : AdaptiveRequest where
  demand := {
    capabilities := ["chat"]
    toolSurfaces := []
    riskClass := "low"
    contextTokens := 1
    digest := sampleSha
    capabilities_nonempty := nofun
    context_pos := Nat.one_pos }
  evaluationContractSha256 := sampleSha
  profile := sampleProfileId
  evaluatedAt := sampleTime
  digest := sampleSha

theorem advice_sound_sample :
    ∃ a, adviseCell Conversions.cpython sampleCatalog sampleSnapshot sampleRequest = .ok a ∧
      a.status = .recommended ∧
      ∃ cell, a.selectedCellId = some cell.cellId ∧
        Best sampleCatalog sampleSnapshot sampleRequest sampleProfile cell := by
  have hpasses : SnapshotPasses sampleSnapshot sampleRequest sampleProfile :=
    ⟨le_rfl, by decide, 0, rfl, le_rfl⟩
  have hfresh : Fresh (some sampleTime) (some sampleExpiry) 0 :=
    ⟨_, _, rfl, rfl, le_rfl, zero_lt_one⟩
  have heligible : Eligible sampleCell sampleSnapshot sampleRequest sampleProfile :=
    { offline := rfl, system := List.mem_singleton_self _, machine := List.mem_singleton_self _
      capabilities := List.Subset.refl _, toolSurfaces := List.nil_subset _
      riskClass := List.mem_singleton_self _, context := le_rfl
      identity := fun _ => ⟨rfl, Option.some_ne_none _, rfl⟩
      observation := hfresh, demand := rfl, evaluation := rfl, resourceClass := rfl
      pool := rfl, placement := rfl, samples := le_rfl, quality := ⟨1, rfl, zero_le_one⟩
      measurement := hfresh, fits := .host rfl ⟨1, 1, rfl, rfl, le_rfl⟩
      classKnown := by constructor <;> decide
      accelerator := by decide }
  obtain ⟨a, ha, hsound⟩ := @advice_sound Conversions.cpython sampleCatalog sampleSnapshot
    sampleRequest sampleProfile rfl (by decide)
  have hrecommended : a.status = .recommended :=
    hsound.recommended.mpr ⟨hpasses, sampleCell, List.mem_singleton_self _, heligible⟩
  exact ⟨a, ha, hrecommended, hsound.best hrecommended⟩

end LocalMoe.Advisor
