/-
  The schedule of a plan: every planned key has its own position, and the expected orders are
  balanced in every regime.
-/
import LocalMoe.Speculative.Qualifier

namespace LocalMoe.Speculative

open Foundation Contracts

variable {plan : SpeculativeQualificationPlan} {key : TrialKey}

def SpeculativeQualificationPlan.Planned (plan : SpeculativeQualificationPlan)
    (key : TrialKey) : Prop :=
  key.1 ∈ plan.caseSha256s ∧ key.2.2 < plan.policy.trialsPerCase

theorem mem_regimes (regime : Regime) : regime ∈ regimes := by
  cases regime <;> decide

theorem nodup_regimes : regimes.Nodup := by decide

theorem mem_schedule : key ∈ plan.schedule ↔ plan.Planned key := by
  unfold SpeculativeQualificationPlan.schedule SpeculativeQualificationPlan.Planned
  simp only [List.mem_flatMap, List.mem_map, List.mem_range]
  constructor
  · rintro ⟨c, hc, regime, _, j, hj, rfl⟩
    exact ⟨hc, hj⟩
  · rintro ⟨hc, hj⟩
    exact ⟨key.1, hc, key.2.1, mem_regimes _, key.2.2, hj, rfl⟩

/-! ## Positions -/

theorem checkPlanned_eq_ok : checkPlanned plan key = .ok () ↔ plan.Planned key := by
  unfold checkPlanned SpeculativeQualificationPlan.Planned
  rw [check_bind_eq_ok, check_eq_ok]
  exact ⟨fun ⟨h, hj⟩ => ⟨h.1, hj⟩, fun ⟨h, hj⟩ => ⟨⟨h, mem_regimes _⟩, hj⟩⟩

theorem expectedTrialSequenceIndex_eq_ok {index : Nat} :
    expectedTrialSequenceIndex plan key = .ok index ↔
      plan.Planned key ∧ plan.position key = index := by
  unfold expectedTrialSequenceIndex
  rw [bind_eq_ok]
  exact ⟨fun ⟨_, h, hi⟩ => ⟨checkPlanned_eq_ok.mp h, pure_eq_ok_iff.mp hi⟩,
    fun ⟨h, hi⟩ => ⟨(), checkPlanned_eq_ok.mpr h, pure_eq_ok_iff.mpr hi⟩⟩

def SpeculativeQualificationPlan.parity (plan : SpeculativeQualificationPlan)
    (key : TrialKey) : Nat :=
  plan.seedParity + plan.caseSha256s.idxOf key.1 + plan.requiredRegimes.idxOf key.2.1 + key.2.2

theorem expectedTrialOrder_eq_ok {order : TrialOrder} : expectedTrialOrder plan key = .ok order ↔
      plan.Planned key ∧ (if plan.parity key % 2 = 0 then TrialOrder.ab else .ba) = order := by
  unfold expectedTrialOrder
  rw [bind_eq_ok]
  exact ⟨fun ⟨_, h, ho⟩ => ⟨checkPlanned_eq_ok.mp h, pure_eq_ok_iff.mp ho⟩,
    fun ⟨h, ho⟩ => ⟨(), checkPlanned_eq_ok.mpr h, pure_eq_ok_iff.mpr ho⟩⟩

theorem schedule_positions :
    plan.schedule.map plan.position = List.range plan.expectedTrialCount := by
  have hregimes : plan.requiredRegimes.map (fun r => plan.requiredRegimes.idxOf r) =
      List.range plan.requiredRegimes.length := map_idxOf_self nodup_regimes
  have hcases : plan.caseSha256s.map (fun c => plan.caseSha256s.idxOf c) =
      List.range plan.caseSha256s.length := map_idxOf_self plan.cases_nodup
  let row (k : Nat) : List Nat := (List.range plan.policy.trialsPerCase).map fun j =>
    k * plan.policy.trialsPerCase + j
  have hrow (c : Digest) (r : Regime) :
      ((List.range plan.policy.trialsPerCase).map fun j => ((c, r, j) : TrialKey)).map
        plan.position = row (plan.caseSha256s.idxOf c * plan.requiredRegimes.length +
          plan.requiredRegimes.idxOf r) := by
    rw [List.map_map]
    rfl
  have hcase (c : Digest) : (plan.requiredRegimes.flatMap fun r =>
      (List.range plan.policy.trialsPerCase).map fun j => ((c, r, j) : TrialKey)).map
        plan.position = ((List.range plan.requiredRegimes.length).map fun r =>
          plan.caseSha256s.idxOf c * plan.requiredRegimes.length + r).flatMap row := by
    rw [List.map_flatMap, ← hregimes, List.map_map, List.flatMap_map]
    exact List.flatMap_congr fun r _ => hrow c r
  have hall : plan.schedule.map plan.position =
      ((List.range plan.caseSha256s.length).flatMap fun i =>
        (List.range plan.requiredRegimes.length).map fun r =>
          i * plan.requiredRegimes.length + r).flatMap row := by
    unfold SpeculativeQualificationPlan.schedule
    rw [List.map_flatMap, ← hcases, List.flatMap_map, List.flatMap_assoc]
    exact List.flatMap_congr fun c _ => hcase c
  rw [hall, range_grid, range_grid]
  rfl

theorem nodup_positions : (plan.schedule.map plan.position).Nodup := by
  rw [schedule_positions]
  exact List.nodup_range

theorem length_schedule : plan.schedule.length = plan.expectedTrialCount := by
  have h := congrArg List.length (schedule_positions : plan.schedule.map plan.position = _)
  rwa [List.length_map, List.length_range] at h

theorem position_lt (h : plan.Planned key) : plan.position key < plan.expectedTrialCount := by
  have hmem : plan.position key ∈ plan.schedule.map plan.position :=
    List.mem_map_of_mem (mem_schedule.mpr h)
  rw [schedule_positions] at hmem
  exact List.mem_range.mp hmem

theorem position_injective {other : TrialKey} (h : plan.Planned key) (hother : plan.Planned other)
    (heq : plan.position key = plan.position other) : key = other :=
  List.inj_on_of_nodup_map nodup_positions (mem_schedule.mpr h) (mem_schedule.mpr hother) heq

theorem exists_position {index : Nat} (h : index < plan.expectedTrialCount) :
    ∃ key, plan.Planned key ∧ plan.position key = index := by
  have hmem : index ∈ plan.schedule.map plan.position := by
    rw [schedule_positions]
    exact List.mem_range.mpr h
  obtain ⟨key, hkey, heq⟩ := List.mem_map.mp hmem
  exact ⟨key, mem_schedule.mp hkey, heq⟩

/-! ## Balance -/

/-- Trials in the order of the schedule, each with its position and its expected order. -/
structure InSchedule (plan : SpeculativeQualificationPlan)
    (observations : List SpeculativeTrial) : Prop where
  keys : observations.map SpeculativeTrial.key = plan.schedule
  positions : observations.map SpeculativeTrial.sequenceIndex =
    List.range plan.expectedTrialCount
  orders : ∀ trial ∈ observations, expectedTrialOrder plan trial.key = .ok trial.order

/-- The orders of a regime differ in number by at most one. -/
def Balanced (observations : List SpeculativeTrial) (regime : Regime) : Prop :=
  |((inRegime observations regime).countP (fun t => t.order = .ab) : Int) -
    (inRegime observations regime).countP (fun t => t.order = .ba)| ≤ 1

variable {observations : List SpeculativeTrial}

theorem order_iff_parity (h : InSchedule plan observations) {trial : SpeculativeTrial}
    (ht : trial ∈ observations) : (trial.order = .ab ↔ plan.parity trial.key % 2 = 0) ∧
      (trial.order = .ba ↔ ¬ plan.parity trial.key % 2 = 0) := by
  have horder := (expectedTrialOrder_eq_ok.mp (h.orders trial ht)).2
  by_cases hp : plan.parity trial.key % 2 = 0
  · rw [if_pos hp] at horder
    simp [← horder, hp]
  · rw [if_neg hp] at horder
    simp [← horder, hp]

theorem schedule_filter (regime : Regime) :
    plan.schedule.filter (fun key => key.2.1 = regime) = plan.caseSha256s.flatMap fun c =>
      (List.range plan.policy.trialsPerCase).map fun j => (c, regime, j) := by
  unfold SpeculativeQualificationPlan.schedule
  rw [List.filter_flatMap]
  refine List.flatMap_congr fun c _ => ?_
  rw [List.filter_flatMap]
  have hkeep (r : Regime) (hr : r = regime) :
      ((List.range plan.policy.trialsPerCase).map fun j => ((c, r, j) : TrialKey)).filter
        (fun key => key.2.1 = regime) =
        (List.range plan.policy.trialsPerCase).map fun j => (c, r, j) := by
    refine List.filter_eq_self.mpr fun key hkey => ?_
    obtain ⟨_, _, rfl⟩ := List.mem_map.mp hkey
    exact decide_eq_true hr
  have hdrop (r : Regime) (hr : r ≠ regime) :
      ((List.range plan.policy.trialsPerCase).map fun j => ((c, r, j) : TrialKey)).filter
        (fun key => key.2.1 = regime) = [] := by
    refine List.filter_eq_nil_iff.mpr fun key hkey => ?_
    obtain ⟨_, _, rfl⟩ := List.mem_map.mp hkey
    exact fun h => hr (of_decide_eq_true h)
  rw [show plan.requiredRegimes = [Regime.cold, .warm] from rfl, List.flatMap_cons,
    List.flatMap_cons, List.flatMap_nil, List.append_nil]
  cases regime with
  | cold => rw [hkeep .cold rfl, hdrop .warm (by decide), List.append_nil]
  | warm => rw [hkeep .warm rfl, hdrop .cold (by decide), List.nil_append]

theorem InSchedule.balanced (h : InSchedule plan observations) (regime : Regime) :
    Balanced observations regime := by
  have hkeys : (inRegime observations regime).map SpeculativeTrial.key =
      plan.schedule.filter (fun key => key.2.1 = regime) := by
    rw [← h.keys, List.filter_map]
    rfl
  have hcount (p : Nat → Bool) :
      (inRegime observations regime).countP (fun t => p (plan.parity t.key)) =
        (((inRegime observations regime).map SpeculativeTrial.key).map plan.parity).countP p := by
    rw [List.map_map, List.countP_map]
    rfl
  have hmem {t : SpeculativeTrial} (ht : t ∈ inRegime observations regime) : t ∈ observations :=
    (List.mem_filter.mp ht).1
  have hab : (inRegime observations regime).countP (fun t => t.order = .ab) =
      (inRegime observations regime).countP (fun t => plan.parity t.key % 2 = 0) :=
    List.countP_congr fun t ht => by
      rw [decide_eq_true_eq, decide_eq_true_eq]; exact (order_iff_parity h (hmem ht)).1
  have hba : (inRegime observations regime).countP (fun t => t.order = .ba) =
      (inRegime observations regime).countP (fun t => ¬ plan.parity t.key % 2 = 0) :=
    List.countP_congr fun t ht => by
      rw [decide_eq_true_eq, decide_eq_true_eq]; exact (order_iff_parity h (hmem ht)).2
  have hgrid : ((inRegime observations regime).map SpeculativeTrial.key).map plan.parity =
      (List.range plan.caseSha256s.length).flatMap fun i =>
        (List.range plan.policy.trialsPerCase).map fun j =>
          (plan.seedParity + plan.requiredRegimes.idxOf regime) + i + j := by
    rw [hkeys, schedule_filter, ← map_idxOf_self plan.cases_nodup, List.flatMap_map,
      List.map_flatMap]
    refine List.flatMap_congr fun c _ => ?_
    rw [List.map_map]
    refine List.map_congr_left fun j _ => ?_
    rw [Function.comp_apply]
    simp only [SpeculativeQualificationPlan.parity]
    omega
  unfold Balanced
  rw [hab, hba, hcount (fun n => n % 2 = 0), hcount (fun n => ¬ n % 2 = 0), hgrid,
    count_sub_count_eq_sum]
  exact sum_sign_grid _ _ _

end LocalMoe.Speculative
