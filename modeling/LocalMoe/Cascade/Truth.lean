/-
  When a run ends with a truthful receipt.
-/
import LocalMoe.Cascade.History

namespace LocalMoe.Cascade

open Foundation Contracts Canary

variable {R : Runtime} (task : LocalCascadeTask) (config : LocalCascadeConfig)
  (env : Surroundings R)

/-! ## The rounds by position -/

section Rounds

variable {task config env}

theorem length_expectedAttempts_le (tiers : List LocalCascadeTier) (n : Nat) (prior : List String) :
    (expectedAttempts task config env tiers n prior).length ≤ tiers.length := by
  induction tiers generalizing n prior with
  | nil => exact le_rfl
  | cons tier rest ih =>
    unfold expectedAttempts
    dsimp only
    split
    · exact Nat.succ_le_succ (Nat.zero_le _)
    · exact Nat.succ_le_succ (ih _ _)

variable {tiers : List LocalCascadeTier}

theorem expectedAttempts_ne_nil (h : tiers ≠ []) (n : Nat) (prior : List String) :
    expectedAttempts task config env tiers n prior ≠ [] := by
  cases tiers with
  | nil => exact absurd rfl h
  | cons tier rest =>
    unfold expectedAttempts
    dsimp only
    split <;> exact List.cons_ne_nil _ _

/-- The codes that a round is asked with. -/
def priorCodes (attempts : List Attempt) (prior : List String) : Nat → List String
  | 0 => prior
  | i + 1 => (attempts[i]?.map fun a => a.verdict.reasonCodes).getD []

variable {n : Nat} {prior : List String}

theorem expectedAttempts_get {i : Nat} {a : Attempt}
    (h : (expectedAttempts task config env tiers n prior)[i]? = some a) :
    ∃ tier, tiers[i]? = some tier ∧ a = expectedAttempt task config env tier (n + i)
      (priorCodes (expectedAttempts task config env tiers n prior) prior i) := by
  induction tiers generalizing n prior i with
  | nil => cases h
  | cons tier rest ih =>
    unfold expectedAttempts at h ⊢
    dsimp only at h ⊢
    split at h
    · rename_i hselected
      rw [if_pos hselected]
      cases i with
      | zero => exact ⟨tier, rfl, (Option.some.inj h).symm⟩
      | succ i => cases h
    · rename_i hselected
      rw [if_neg hselected]
      cases i with
      | zero => exact ⟨tier, rfl, (Option.some.inj h).symm⟩
      | succ i =>
        obtain ⟨next, hnext, ha⟩ := ih h
        refine ⟨next, hnext, ?_⟩
        rw [ha, Nat.add_right_comm n 1 i]
        cases i <;> rfl

theorem expectedAttempts_unselected {i : Nat} {a : Attempt}
    (hi : i + 1 < (expectedAttempts task config env tiers n prior).length)
    (h : (expectedAttempts task config env tiers n prior)[i]? = some a) : a.selected = none := by
  induction tiers generalizing n prior i with
  | nil => cases h
  | cons tier rest ih =>
    unfold expectedAttempts at h hi
    dsimp only at h hi
    split at h
    · rename_i hselected
      rw [if_pos hselected] at hi
      exact absurd hi (by simp)
    · rename_i hselected
      rw [if_neg hselected, List.length_cons] at hi
      cases i with
      | zero =>
        rw [← Option.some.inj h]
        exact Option.not_isSome_iff_eq_none.mp hselected
      | succ i => exact ih (by omega) h

theorem expectedAttempts_last :
    (expectedAttempts task config env tiers n prior).length = tiers.length ∨
      ∃ a, (expectedAttempts task config env tiers n prior).getLast? = some a ∧
        a.selected.isSome = true := by
  induction tiers generalizing n prior with
  | nil => exact .inl rfl
  | cons tier rest ih =>
    unfold expectedAttempts
    dsimp only
    split
    · rename_i hselected
      exact .inr ⟨_, rfl, hselected⟩
    · rcases @ih (n + 1)
        (expectedAttempt task config env tier n prior).verdict.reasonCodes with hlength | hlast
      · exact .inl (congrArg Nat.succ hlength)
      · obtain ⟨a, ha, hselected⟩ := hlast
        refine .inr ⟨a, ?_, hselected⟩
        rw [List.getLast?_cons, ha]
        rfl

variable {tier : LocalCascadeTier}

theorem verdict_passed_content {reply : Reply}
    (h : (verdict R config tier reply).verificationStatus = .passed) :
    ∃ content, (verdict R config tier reply).content = some content := by
  cases reply with
  | raised | notResult => cases h
  | result candidate =>
    unfold verdict at h ⊢
    cases hcontent : candidate.content with
    | none =>
      simp only [hcontent] at h
      cases h
    | some text => exact ⟨text, by simp only [hcontent]⟩

theorem selected_eq_some {content : Text} :
    (expectedAttempt task config env tier n prior).selected = some content ↔
      Passes config tier (env.reply n) content (R := R) := by
  rw [← verdict_passes]
  unfold Attempt.selected
  split
  · rename_i h
    exact ⟨fun hc => ⟨h, hc⟩, fun hc => hc.2⟩
  · rename_i h
    exact ⟨fun hc => (by cases hc), fun hc => absurd hc.1 h⟩

theorem selected_isSome : (expectedAttempt task config env tier n prior).selected.isSome = true ↔
      (verdict R config tier (env.reply n)).verificationStatus = .passed := by
  rw [Option.isSome_iff_exists]
  constructor
  · rintro ⟨content, h⟩
    exact (verdict_passes.mpr (selected_eq_some.mp h)).1
  · intro h
    obtain ⟨content, hcontent⟩ := verdict_passed_content h
    exact ⟨content, selected_eq_some.mpr (verdict_passes.mp ⟨h, hcontent⟩)⟩

end Rounds

/-! ## The condition -/

/-- How many tiers are asked from an attempt on: up to the first reply that passes. -/
def askedFrom : List LocalCascadeTier → Nat → Nat
  | [], _ => 0
  | tier :: rest, attemptNumber =>
    if (verdict R config tier (env.reply attemptNumber)).verificationStatus = .passed then 1
    else askedFrom rest (attemptNumber + 1) + 1

/-- How many tiers a run asks. -/
def askedCount : Nat := askedFrom config env config.orderedTiers 1

def TokenCount.tokensFrom (usage : TokenCount) (source : TokenSource) : Nat :=
  if usage.source = source then usage.count.getD 0 else 0

def replies : List Reply := (List.range (askedCount config env)).map fun i => env.reply (i + 1)

/-- The receipts of a run can be written: every content has a UTF-8 form, every duration is
a float, and no total of tokens exceeds its bound. -/
structure Recordable : Prop where
  contents : ∀ reply ∈ replies config env, reply.Encodable
  durations : ∀ i < askedCount config env, durationMs env (i + 1) ≠ none
  total : R.elapsedMs (env.clock 0) (env.clock (2 * askedCount config env + 1)) ≠ none
  tokens : ∀ source ∈ [TokenSource.actual, .estimated],
    ((replies config env).map fun reply => reply.inputTokens.tokensFrom source).sum ≤
        maxTokenCount ∧
      ((replies config env).map fun reply => reply.outputTokens.tokensFrom source).sum ≤
        maxTokenCount

def rounds : List Attempt := expectedAttempts task config env config.orderedTiers 1 []

section Shape

variable {task config env}

theorem length_eq_askedFrom (tiers : List LocalCascadeTier) (n : Nat) (prior : List String) :
    (expectedAttempts task config env tiers n prior).length = askedFrom config env tiers n := by
  induction tiers generalizing n prior with
  | nil => rfl
  | cons tier rest ih =>
    unfold expectedAttempts askedFrom
    dsimp only
    by_cases h : (verdict R config tier (env.reply n)).verificationStatus = .passed
    · rw [if_pos (selected_isSome.mpr h), if_pos h]
      rfl
    · rw [if_neg (fun hs => h (selected_isSome.mp hs)), if_neg h, List.length_cons, ih]

theorem length_rounds : (rounds task config env).length = askedCount config env :=
  length_eq_askedFrom _ _ _

theorem length_orderedTiers : config.orderedTiers.length = config.maxAttempts := by
  unfold LocalCascadeConfig.orderedTiers
  rw [List.length_take, List.length_insertionSort]
  exact Nat.min_eq_left config.attempts_range.2

theorem rounds_length_le : (rounds task config env).length ≤ config.maxAttempts :=
  (length_expectedAttempts_le _ _ _).trans length_orderedTiers.le

theorem rounds_length_le_tiers : (rounds task config env).length ≤ maxTiers :=
  rounds_length_le.trans (config.attempts_range.2.trans config.tiers_le)

theorem rounds_ne_nil : rounds task config env ≠ [] := by
  refine expectedAttempts_ne_nil (fun h => ?_) _ _
  have hlength := @length_orderedTiers config
  rw [h, List.length_nil] at hlength
  exact absurd config.attempts_range.1 (by omega)

theorem rounds_get {i : Nat} {a : Attempt} (h : (rounds task config env)[i]? = some a) :
    ∃ tier, config.orderedTiers[i]? = some tier ∧
      a = expectedAttempt task config env tier (i + 1)
        (priorCodes (rounds task config env) [] i) := by
  obtain ⟨tier, htier, ha⟩ := expectedAttempts_get h
  rw [Nat.add_comm 1 i] at ha
  exact ⟨tier, htier, ha⟩

theorem map_rounds {α : Type} (f : Attempt → α) (g : Nat → α)
    (h : ∀ i a, (rounds task config env)[i]? = some a → f a = g i) :
    (rounds task config env).map f = (List.range (askedCount config env)).map g := by
  apply List.ext_getElem?
  intro i
  rw [List.getElem?_map, List.getElem?_map, ← @length_rounds R task config env]
  by_cases hi : i < (rounds task config env).length
  · rw [List.getElem?_range hi, List.getElem?_eq_getElem hi]
    exact congrArg some (h i _ (List.getElem?_eq_getElem hi))
  · rw [List.getElem?_eq_none (Nat.le_of_not_lt hi),
      List.getElem?_eq_none (by rw [List.length_range]; exact Nat.le_of_not_lt hi)]
    rfl

theorem map_rounds_tier : (rounds task config env).map (fun a => a.request.tier) =
      config.orderedTiers.take (rounds task config env).length := by
  apply List.ext_getElem?
  intro i
  rw [List.getElem?_map, List.getElem?_take]
  split
  · rename_i hi
    obtain ⟨tier, htier, ha⟩ := rounds_get (List.getElem?_eq_getElem hi)
    rw [List.getElem?_eq_getElem hi, htier, ha]
    rfl
  · rename_i hi
    rw [List.getElem?_eq_none (Nat.le_of_not_lt hi)]
    rfl

theorem rounds_shape : ∃ earlier last, rounds task config env = earlier ++ [last] ∧
    (∀ a ∈ earlier, a.selected = none) ∧
      (last.selected.isSome = true ∨ earlier.length + 1 = config.maxAttempts) := by
  obtain ⟨last, earlier, hshape⟩ : ∃ last earlier, rounds task config env = earlier ++ [last] :=
    ⟨_, _, (List.dropLast_append_getLast rounds_ne_nil).symm⟩
  refine ⟨earlier, last, hshape, fun a ha => ?_, ?_⟩
  · obtain ⟨i, hi, hget⟩ := List.mem_iff_getElem.mp ha
    refine @expectedAttempts_unselected R task config env config.orderedTiers 1 [] i a ?_ ?_
    · change i + 1 < (rounds task config env).length
      rw [hshape, List.length_append, List.length_singleton]
      omega
    · change (rounds task config env)[i]? = some a
      rw [hshape, List.getElem?_append_left hi, List.getElem?_eq_getElem hi, hget]
  · rcases @expectedAttempts_last R task config env config.orderedTiers 1 [] with
      hlength | ⟨a, ha, hselected⟩
    · refine .inr ?_
      change (rounds task config env).length = _ at hlength
      rw [hshape, List.length_append, List.length_singleton, length_orderedTiers] at hlength
      exact hlength
    · refine .inl ?_
      change (rounds task config env).getLast? = some a at ha
      rw [hshape, List.getLast?_append] at ha
      cases ha
      exact hselected

end Shape

/-! ## Truthful runs -/

/-- What the receipt of a run must say.  The attempts are those of the first tiers, cheapest
first; each tier is asked after the one before it failed, with the codes recorded for it. -/
structure Truthful (run : CascadeRun) : Prop where
  attempts_range : 1 ≤ run.receipt.attempts.length ∧
    run.receipt.attempts.length ≤ config.maxAttempts
  tiers : run.receipt.attempts.map (fun a => (a.tierId, a.costRank)) =
    (config.orderedTiers.take run.receipt.attempts.length).map fun t => (t.tierId.val, t.costRank)
  cheapest : (run.receipt.attempts.map AttemptReceipt.costRank).Pairwise (· < ·)
  earlier_fail : ∀ i tier, i + 1 < run.receipt.attempts.length →
    config.orderedTiers[i]? = some tier →
      ¬ ∃ content, Passes config tier (env.reply (i + 1)) content (R := R)
  last : (∃ tier content, config.orderedTiers[run.receipt.attempts.length - 1]? = some tier ∧
      Passes config tier (env.reply run.receipt.attempts.length) content (R := R)) ∨
    run.receipt.attempts.length = config.maxAttempts
  task_kept : ∀ request ∈ run.asked, request.task = task
  asked : run.asked.map (fun r => (r.tier.tierId.val, r.attemptNumber)) =
      run.receipt.attempts.map (fun a => (a.tierId, a.attemptNumber)) ∧
    run.asked.map LocalCascadeAttemptRequest.verifierReasonCodes =
      ([] :: run.receipt.attempts.map AttemptReceipt.verifierReasonCodes).dropLast
  content : ∀ text, run.content = some text ↔
    ∃ tier, config.orderedTiers[run.receipt.attempts.length - 1]? = some tier ∧
      Passes config tier (env.reply run.receipt.attempts.length) text (R := R)
  passed : run.receipt.status = .passed ↔ run.content ≠ none
  abstained : run.receipt.status = .allAbstained ↔
    ∀ i < run.receipt.attempts.length, (env.reply (i + 1)).Abstains
  round_trip : CascadeReceipt.fromPayload R run.receipt.payload = .ok run.receipt

def receipts : List AttemptReceipt := (rounds task config env).map Attempt.receipt

def selectedRound : Option Attempt :=
  (rounds task config env).find? fun a => a.selected.isSome

def expectedReceipt : CascadeReceipt where
  runId := env.runId.val
  taskSha256 := (R.taskSha256 task).val
  configSha256 := (R.configSha256 config).val
  status := runStatus (selectedRound task config env) (receipts task config env)
  selectedTierId := (selectedRound task config env).map fun a => a.receipt.tierId
  attemptCount := (receipts task config env).length
  totalDurationMs :=
    (R.elapsedMs (env.clock 0) (env.clock (2 * (receipts task config env).length + 1))).getD 0
  attempts := receipts task config env
  tokenTotals := TokenTotals.sums (receipts task config env)
  evidenceSha256 := (buildEvidenceSha256 R (R.taskSha256 task).val (R.configSha256 config).val
    (runStatus (selectedRound task config env) (receipts task config env))
    ((selectedRound task config env).map fun a => a.receipt.tierId) (receipts task config env)
    (TokenTotals.sums (receipts task config env))).val

def expectedRun : CascadeRun where
  asked := (rounds task config env).map Attempt.request
  content := (selectedRound task config env).bind Attempt.selected
  receipt := expectedReceipt task config env

section Expected

variable {task config env}

theorem length_receipts : (receipts task config env).length = askedCount config env := by
  unfold receipts
  rw [List.length_map, length_rounds]

theorem mem_rounds {a : Attempt} (h : a ∈ rounds task config env) : ∃ tier ∈ config.tiers,
    ∃ n prior, 1 ≤ n ∧ n ≤ maxTiers ∧ a = expectedAttempt task config env tier n prior := by
  obtain ⟨i, hi, rfl⟩ := List.mem_iff_getElem.mp h
  obtain ⟨tier, htier, ha⟩ := rounds_get (List.getElem?_eq_getElem hi)
  have hmem : tier ∈ config.tiers := by
    have hin := List.mem_of_getElem? htier
    exact (List.mem_insertionSort _).mp (List.mem_of_mem_take hin)
  exact ⟨tier, hmem, i + 1, _, by omega, hi.trans_le rounds_length_le_tiers, ha⟩

theorem receipts_valid {r : AttemptReceipt} (h : r ∈ receipts task config env) : r.Valid := by
  obtain ⟨a, ha, rfl⟩ := List.mem_map.mp h
  obtain ⟨tier, _, n, prior, hn, hmax, rfl⟩ := mem_rounds ha
  exact expectedAttempt_valid ⟨hn, hmax⟩ durationMs_nonneg

theorem receipts_number : (receipts task config env).map AttemptReceipt.attemptNumber =
    List.range' 1 (askedCount config env) := by
  unfold receipts
  rw [List.map_map, map_rounds _ (fun i => i + 1) fun i a h => ?_]
  · rw [List.range'_eq_map_range]
    exact List.map_congr_left fun i _ => Nat.add_comm i 1
  · obtain ⟨_, _, rfl⟩ := rounds_get h
    rfl

theorem map_receipts_tier {α : Type} (f : AttemptReceipt → α) (g : LocalCascadeTier → α)
    (h : ∀ tier n prior, f (expectedAttempt task config env tier n prior).receipt = g tier) :
    (receipts task config env).map f =
      (config.orderedTiers.take (receipts task config env).length).map g := by
  unfold receipts
  rw [List.length_map, ← map_rounds_tier, List.map_map, List.map_map]
  refine List.map_congr_left fun a ha => ?_
  obtain ⟨tier, _, n, prior, _, _, rfl⟩ := mem_rounds ha
  exact h tier n prior

theorem orderedTiers_ranks :
    (config.orderedTiers.map LocalCascadeTier.costRank).Pairwise (· < ·) := by
  have hperm := List.perm_insertionSort
    (fun a b : LocalCascadeTier => a.costRank ≤ b.costRank) config.tiers
  have hsorted : (config.tiers.insertionSort fun a b => a.costRank ≤ b.costRank).Pairwise
      (fun a b => a.costRank ≤ b.costRank) := by
    have : Std.Total fun a b : LocalCascadeTier => a.costRank ≤ b.costRank :=
      ⟨fun a b => Nat.le_total _ _⟩
    have : IsTrans LocalCascadeTier fun a b => a.costRank ≤ b.costRank :=
      ⟨fun _ _ _ => Nat.le_trans⟩
    exact List.pairwise_insertionSort _ _
  have hnodup := ((hperm.map LocalCascadeTier.costRank).nodup_iff).mpr config.ranks_nodup
  have hlt : ((config.tiers.insertionSort fun a b => a.costRank ≤ b.costRank).map
      LocalCascadeTier.costRank).Pairwise (· < ·) :=
    ((List.pairwise_map.mpr hsorted).and hnodup).imp fun h => lt_of_le_of_ne h.1 h.2
  unfold LocalCascadeConfig.orderedTiers
  rw [List.map_take]
  exact hlt.sublist (List.take_sublist _ _)

theorem orderedTiers_ids : (config.orderedTiers.map LocalCascadeTier.tierId).Nodup := by
  have hperm := List.perm_insertionSort
    (fun a b : LocalCascadeTier => a.costRank ≤ b.costRank) config.tiers
  unfold LocalCascadeConfig.orderedTiers
  rw [List.map_take]
  exact (((hperm.map LocalCascadeTier.tierId).nodup_iff).mpr config.ids_nodup).sublist
    (List.take_sublist _ _)

theorem receipts_ranks : ((receipts task config env).map AttemptReceipt.costRank).Pairwise
    (· < ·) := by
  rw [map_receipts_tier AttemptReceipt.costRank LocalCascadeTier.costRank fun _ _ _ => rfl,
    List.map_take]
  exact orderedTiers_ranks.sublist (List.take_sublist _ _)

theorem receipts_ids : ((receipts task config env).map AttemptReceipt.tierId).Nodup := by
  rw [map_receipts_tier AttemptReceipt.tierId (Subtype.val ∘ LocalCascadeTier.tierId)
    fun _ _ _ => rfl, ← List.map_map, List.map_take]
  exact (orderedTiers_ids.sublist (List.take_sublist _ _)).map Subtype.val_injective

theorem receipts_sequence : CascadeReceipt.checkSequence (receipts task config env)
    (receipts task config env).length = .ok () := by
  unfold CascadeReceipt.checkSequence
  rw [check_bind_eq_ok, check_bind_eq_ok, check_eq_ok]
  refine ⟨by rw [receipts_number, length_receipts], receipts_ids, ?_, ?_⟩
  · exact receipts_ranks.imp Nat.ne_of_lt
  · exact receipts_ranks.imp Nat.le_of_lt

theorem passed_iff_selected {a : Attempt} (h : a ∈ rounds task config env) :
    a.receipt.verificationStatus = .passed ↔ a.selected.isSome = true := by
  obtain ⟨tier, _, n, prior, _, _, rfl⟩ := mem_rounds h
  exact selected_isSome.symm

theorem selectedRound_shape : ∃ earlier last, rounds task config env = earlier ++ [last] ∧
    (∀ a ∈ earlier, a.selected = none) ∧
    ((last.selected.isSome = true ∧ selectedRound task config env = some last) ∨
      (last.selected = none ∧ selectedRound task config env = none ∧
        earlier.length + 1 = config.maxAttempts)) := by
  obtain ⟨earlier, last, hshape, hearlier, hlast⟩ := @rounds_shape R task config env
  refine ⟨earlier, last, hshape, hearlier, ?_⟩
  have hfind : selectedRound task config env = [last].find? fun a => a.selected.isSome := by
    unfold selectedRound
    rw [hshape, List.find?_append, List.find?_eq_none.mpr fun a ha => by simp [hearlier a ha]]
    rfl
  by_cases hselected : last.selected.isSome = true
  · exact .inl ⟨hselected, by rw [hfind]; simp [hselected]⟩
  · refine .inr ⟨Option.not_isSome_iff_eq_none.mp hselected, ?_, hlast.resolve_left hselected⟩
    rw [hfind]
    simp [hselected]

theorem filter_passed : (receipts task config env).filter (fun r => r.verificationStatus = .passed)
    = ((selectedRound task config env).map Attempt.receipt).toList := by
  obtain ⟨earlier, last, hshape, hearlier, hlast⟩ := @selectedRound_shape R task config env
  have hmem : ∀ a ∈ earlier ++ [last], a ∈ rounds task config env := fun a ha => hshape ▸ ha
  have hnone : (earlier.map Attempt.receipt).filter (fun r => r.verificationStatus = .passed)
      = [] := by
    refine List.filter_eq_nil_iff.mpr fun r hr h => ?_
    obtain ⟨a, ha, rfl⟩ := List.mem_map.mp hr
    have hsome := (passed_iff_selected (hmem a (List.mem_append_left _ ha))).mp (of_decide_eq_true h)
    rw [hearlier a ha] at hsome
    cases hsome
  have hpassed := passed_iff_selected (hmem last (List.mem_append_right _ List.mem_cons_self))
  unfold receipts
  rw [hshape, List.map_append, List.filter_append, hnone, List.nil_append, List.map_singleton]
  rcases hlast with ⟨hselected, heq⟩ | ⟨hselected, heq, _⟩
  · rw [heq, List.filter_singleton, hpassed.mpr hselected]
    rfl
  · have hnot : last.receipt.verificationStatus ≠ .passed := fun h => by
      rw [hselected] at hpassed
      cases hpassed.mp h
    rw [heq, List.filter_singleton, decide_eq_false hnot]
    rfl

theorem getLast_receipts {last : Attempt} {earlier : List Attempt}
    (h : rounds task config env = earlier ++ [last]) :
    (receipts task config env).getLast? = some last.receipt := by
  unfold receipts
  rw [h, List.map_append, List.getLast?_append]
  rfl

theorem receipts_status : CascadeReceipt.checkStatus
    (runStatus (selectedRound task config env) (receipts task config env))
    ((selectedRound task config env).map fun a => a.receipt.tierId)
    (receipts task config env) = .ok () := by
  obtain ⟨earlier, last, hshape, _, hlast⟩ := @selectedRound_shape R task config env
  unfold CascadeReceipt.checkStatus
  simp only [check_bind_eq_ok, check_eq_ok, filter_passed, getLast_receipts hshape]
  rcases hlast with ⟨_, heq⟩ | ⟨_, heq, _⟩
  · have hstatus : runStatus (selectedRound task config env) (receipts task config env) =
        .passed := by rw [heq]; rfl
    rw [hstatus, heq]
    exact ⟨fun _ => ⟨rfl, rfl, rfl⟩, fun h => absurd rfl h, fun h => (by cases h),
      fun h => (by cases h)⟩
  · rw [heq]
    unfold runStatus
    split
    · rename_i h
      cases h
    · split
      · rename_i hall
        exact ⟨fun h => (by cases h), fun _ => rfl, fun _ => hall, fun h => (by cases h)⟩
      · rename_i hall
        exact ⟨fun h => (by cases h), fun _ => rfl, fun h => (by cases h), fun _ => hall⟩

theorem selected_receipt_safe : ∀ t ∈ (selectedRound task config env).map
    (fun a => a.receipt.tierId), isSafeId t = true := by
  intro t ht
  obtain ⟨a, ha, rfl⟩ := Option.map_eq_some_iff.mp ht
  exact (receipts_valid (List.mem_map_of_mem (List.mem_of_find?_eq_some ha))).tier_safe

theorem runStatus_passed {selected : Option Attempt} {rs : List AttemptReceipt} :
    runStatus selected rs = .passed ↔ selected ≠ none := by
  unfold runStatus
  cases selected with
  | none =>
    simp only [Option.isSome_none, Bool.false_eq_true, if_false]
    split <;> simp
  | some a => simp

theorem expectedReceipt_valid
    (hbounded : (TokenTotals.sums (receipts task config env)).Bounded) {y : ℚ} (hy : 0 ≤ y) :
    ({ expectedReceipt task config env with totalDurationMs := y } : CascadeReceipt).Valid R where
  run_id := env.runId.property
  task_sha := (R.taskSha256 task).property
  config_sha := (R.configSha256 config).property
  selected_safe := selected_receipt_safe
  selected_iff := by
    refine runStatus_passed.trans (not_congr ?_)
    exact Option.map_eq_none_iff.symm
  attempts_range := by
    refine ⟨fun h => rounds_ne_nil (List.map_eq_nil_iff.mp h), ?_⟩
    exact (List.length_map _).le.trans rounds_length_le_tiers
  attempts_valid _ ha := receipts_valid ha
  count := rfl
  sequence := receipts_sequence
  duration_nonneg := hy
  totals := rfl
  totals_bounded := hbounded
  status_ok := receipts_status
  evidence := rfl

/-! ## Token totals -/

variable (f : AttemptReceipt → TokenCount)

theorem map_receipts_tokens (g : Reply → TokenCount)
    (h : ∀ tier n prior, f (expectedAttempt task config env tier n prior).receipt =
      g (env.reply n)) : (receipts task config env).map f = (replies config env).map g := by
  unfold receipts replies
  rw [List.map_map, List.map_map]
  refine map_rounds _ _ fun i a ha => ?_
  obtain ⟨tier, _, rfl⟩ := rounds_get ha
  exact h tier (i + 1) _

theorem receipts_inputTokens : (receipts task config env).map AttemptReceipt.inputTokens =
    (replies config env).map Reply.inputTokens :=
  map_receipts_tokens _ _ fun _ _ _ => verdict_inputTokens _ _

theorem receipts_outputTokens : (receipts task config env).map AttemptReceipt.outputTokens =
    (replies config env).map Reply.outputTokens :=
  map_receipts_tokens _ _ fun _ _ _ => verdict_outputTokens _ _

theorem sum_tokens {f : AttemptReceipt → TokenCount} {g : Reply → TokenCount}
    (h : (receipts task config env).map f = (replies config env).map g) (source : TokenSource) :
    ((receipts task config env).map fun a =>
      if (f a).source = source then (f a).count.getD 0 else 0).sum =
      ((replies config env).map fun reply => (g reply).tokensFrom source).sum := by
  have hmap := congrArg (List.map fun usage => TokenCount.tokensFrom usage source) h
  rw [List.map_map, List.map_map] at hmap
  exact congrArg List.sum hmap

theorem unknown_le :
    (receipts task config env).countP (fun a => (f a).source = .unknown) ≤ maxTokenCount := by
  refine List.countP_le_length.trans ?_
  rw [length_receipts, ← @length_rounds R task config env]
  exact rounds_length_le_tiers.trans (by decide)

theorem totals_bounded_iff : (TokenTotals.sums (receipts task config env)).Bounded ↔
    ∀ source ∈ [TokenSource.actual, .estimated],
      ((replies config env).map fun reply => reply.inputTokens.tokensFrom source).sum ≤
          maxTokenCount ∧
        ((replies config env).map fun reply => reply.outputTokens.tokensFrom source).sum ≤
          maxTokenCount := by
  have hin := sum_tokens (@receipts_inputTokens R task config env)
  have hout := sum_tokens (@receipts_outputTokens R task config env)
  simp only [List.mem_cons, List.not_mem_nil, or_false, forall_eq_or_imp, forall_eq, ← hin, ← hout]
  constructor
  · intro h
    exact ⟨⟨h.actualInput, h.actualOutput⟩, h.estimatedInput, h.estimatedOutput⟩
  · rintro ⟨⟨h1, h2⟩, h3, h4⟩
    exact ⟨h1, h2, h3, h4, unknown_le _, unknown_le _⟩

/-! ## The run -/

theorem finishRun_eq_ok {run : CascadeRun} :
    finishRun R task config env (rounds task config env) = .ok run ↔
      (TokenTotals.sums (receipts task config env)).Bounded ∧
        R.elapsedMs (env.clock 0) (env.clock (2 * (receipts task config env).length + 1)) ≠
          none ∧ run = expectedRun task config env := by
  have hconstruct (hbounded : (TokenTotals.sums (receipts task config env)).Bounded)
      (r' : CascadeReceipt) := @CascadeReceipt.construct_eq_ok R
    (R.elapsedMs (env.clock 0) (env.clock (2 * (receipts task config env).length + 1)))
    ((receipts task config env).map .inl) (expectedReceipt task config env) r'
    (fun y hy => R.elapsed_nonneg _ _ y hy) (expectedReceipt_valid hbounded le_rfl)
    (CascadeReceipt.readAttempts_inl _)
  unfold finishRun
  constructor
  · intro h
    obtain ⟨totals, htotals, h⟩ := bind_eq_ok.mp h
    obtain ⟨hbounded, rfl⟩ := buildTokenTotals_eq_ok.mp htotals
    obtain ⟨receipt, hreceipt, h⟩ := bind_eq_ok.mp h
    obtain ⟨y, hy, rfl⟩ := (hconstruct hbounded _).mp hreceipt
    refine ⟨hbounded, fun hnone => ?_, ?_⟩
    · rw [hnone] at hy
      cases hy
    · rw [← pure_eq_ok_iff.mp h]
      unfold expectedRun expectedReceipt
      simp [hy]
      rfl
  · rintro ⟨hbounded, hduration, rfl⟩
    obtain ⟨y, hy⟩ := Option.ne_none_iff_exists'.mp hduration
    refine bind_eq_ok.mpr ⟨_, buildTokenTotals_eq_ok.mpr ⟨hbounded, rfl⟩, ?_⟩
    refine bind_eq_ok.mpr ⟨{ expectedReceipt task config env with totalDurationMs := y },
      (hconstruct hbounded _).mpr ⟨y, hy, rfl⟩, pure_eq_ok_iff.mpr ?_⟩
    unfold expectedRun expectedReceipt
    simp [hy]
    rfl

end Expected

section Statement

variable {task config env}

theorem codes_nil : Codes [] := ⟨fun _ h => (by cases h), List.nodup_nil, Nat.zero_le _⟩

theorem rounds_recordable :
    (∀ a ∈ rounds task config env, RecordableAt env a.request.attemptNumber) ↔
      (∀ reply ∈ replies config env, reply.Encodable) ∧
        ∀ i < askedCount config env, durationMs env (i + 1) ≠ none := by
  have hnumber : (rounds task config env).map (fun a => a.request.attemptNumber) =
      (List.range (askedCount config env)).map (fun i => i + 1) := map_rounds _ _ fun i a h => by
    obtain ⟨_, _, rfl⟩ := rounds_get h
    rfl
  have hall : (∀ a ∈ rounds task config env, RecordableAt env a.request.attemptNumber) ↔
      ∀ i < askedCount config env, RecordableAt env (i + 1) := by
    rw [← List.forall_mem_map (f := fun a : Attempt => a.request.attemptNumber), hnumber,
      List.forall_mem_map]
    exact forall_congr' fun i => by rw [List.mem_range]
  rw [hall]
  unfold replies
  rw [List.forall_mem_map]
  constructor
  · exact fun h => ⟨fun i hi => (h i (List.mem_range.mp hi)).1, fun i hi => (h i hi).2⟩
  · exact fun h i hi => ⟨h.1 i (List.mem_range.mpr hi), h.2 i hi⟩

theorem runLocalCascade_eq_ok (hformat : task.outputFormat = config.verifier.outputFormat)
    {run : CascadeRun} : runLocalCascade R task config env = .ok run ↔
      Recordable config env ∧ run = expectedRun task config env := by
  have hlength : 1 + config.orderedTiers.length ≤ maxTiers + 1 := by
    rw [length_orderedTiers]
    have := config.attempts_range.2.trans config.tiers_le
    omega
  have hloop (attempts : List Attempt) :=
    @runTiers_eq_ok R task config env 1 [] config.orderedTiers le_rfl hlength codes_nil attempts
  have hrounds := @rounds_recordable R task config env
  have htotals := @totals_bounded_iff R task config env
  unfold runLocalCascade
  rw [check_bind_eq_ok]
  constructor
  · rintro ⟨_, h⟩
    obtain ⟨attempts, hattempts, h⟩ := bind_eq_ok.mp h
    obtain ⟨hrecordable, rfl⟩ := (hloop _).mp hattempts
    obtain ⟨hbounded, htotal, rfl⟩ := finishRun_eq_ok.mp h
    obtain ⟨hcontents, hdurations⟩ := hrounds.mp hrecordable
    rw [length_receipts] at htotal
    exact ⟨⟨hcontents, hdurations, htotal, htotals.mp hbounded⟩, rfl⟩
  · rintro ⟨h, rfl⟩
    refine ⟨hformat, bind_eq_ok.mpr ⟨rounds task config env, (hloop _).mpr
      ⟨hrounds.mpr ⟨h.contents, h.durations⟩, rfl⟩, finishRun_eq_ok.mpr ⟨htotals.mpr h.tokens, ?_, rfl⟩⟩⟩
    rw [length_receipts]
    exact h.total

theorem askedCount_pos : 1 ≤ askedCount config env := by
  have hlength := @length_orderedTiers config
  have hpos := config.attempts_range.1
  unfold askedCount
  cases htiers : config.orderedTiers with
  | nil =>
    rw [htiers, List.length_nil] at hlength
    omega
  | cons tier rest =>
    unfold askedFrom
    split <;> omega

theorem last_round {earlier : List Attempt} {last : Attempt}
    (h : rounds task config env = earlier ++ [last]) :
    ∃ tier prior, config.orderedTiers[askedCount config env - 1]? = some tier ∧
      last = expectedAttempt task config env tier (askedCount config env) prior := by
  have hlength := @length_rounds R task config env
  rw [h, List.length_append, List.length_singleton] at hlength
  have hget : (rounds task config env)[askedCount config env - 1]? = some last := by
    rw [h, ← hlength]
    simp
  obtain ⟨tier, htier, heq⟩ := rounds_get hget
  refine ⟨tier, priorCodes (rounds task config env) [] (askedCount config env - 1), htier, ?_⟩
  rw [heq, Nat.sub_add_cancel (@askedCount_pos R config env)]

theorem content_eq_some {text : Text} : (expectedRun task config env).content = some text ↔
    ∃ tier, config.orderedTiers[askedCount config env - 1]? = some tier ∧
      Passes config tier (env.reply (askedCount config env)) text (R := R) := by
  obtain ⟨earlier, last, hshape, _, hlast⟩ := @selectedRound_shape R task config env
  obtain ⟨tier, prior, htier, rfl⟩ := last_round hshape
  have hcontent : (expectedRun task config env).content =
      (expectedAttempt task config env tier (askedCount config env) prior).selected := by
    change (selectedRound task config env).bind Attempt.selected = _
    rcases hlast with ⟨_, heq⟩ | ⟨hnone, heq, _⟩
    · rw [heq]
      rfl
    · rw [heq, hnone]
      rfl
  rw [hcontent, selected_eq_some]
  constructor
  · exact fun h => ⟨tier, htier, h⟩
  · rintro ⟨other, hother, h⟩
    cases htier.symm.trans hother
    exact h

theorem forall_abstained : (∀ r ∈ receipts task config env, r.attemptStatus = .abstained) ↔
    ∀ i < askedCount config env, (env.reply (i + 1)).Abstains := by
  have hmap : (receipts task config env).map (fun r => r.attemptStatus = .abstained) =
      (List.range (askedCount config env)).map fun i => (env.reply (i + 1)).Abstains := by
    unfold receipts
    rw [List.map_map]
    refine map_rounds _ _ fun i a ha => ?_
    obtain ⟨tier, _, rfl⟩ := rounds_get ha
    exact propext verdict_abstained
  have hleft : (∀ r ∈ receipts task config env, r.attemptStatus = .abstained) ↔
      ∀ p ∈ (receipts task config env).map (fun r => r.attemptStatus = .abstained), p :=
    (List.forall_mem_map (P := fun p : Prop => p)).symm
  rw [hleft, hmap, List.forall_mem_map (P := fun p : Prop => p)]
  exact forall_congr' fun i => by rw [List.mem_range]

theorem status_abstained : (expectedRun task config env).receipt.status = .allAbstained ↔
    ∀ i < askedCount config env, (env.reply (i + 1)).Abstains := by
  rw [← @forall_abstained R task config env]
  change runStatus (selectedRound task config env) (receipts task config env) = _ ↔ _
  obtain ⟨earlier, last, hshape, _, hlast⟩ := @selectedRound_shape R task config env
  unfold runStatus
  rcases hlast with ⟨hselected, heq⟩ | ⟨_, heq, _⟩
  · rw [heq]
    refine ⟨fun h => (by cases h), fun hall => ?_⟩
    -- a round that abstained selects nothing
    have hmem : last.receipt ∈ receipts task config env :=
      List.mem_of_getLast? (getLast_receipts hshape)
    obtain ⟨tier, prior, _, rfl⟩ := last_round hshape
    obtain ⟨candidate, hreply, hnone⟩ := verdict_abstained.mp (hall _ hmem)
    obtain ⟨content, hcontent⟩ := Option.isSome_iff_exists.mp hselected
    obtain ⟨other, hother, hsome, _⟩ := selected_eq_some.mp hcontent
    cases hreply.symm.trans hother
    cases hnone.symm.trans hsome
  · rw [heq]
    simp only [Option.isSome_none, Bool.false_eq_true, if_false]
    split
    · rename_i hall
      exact ⟨fun _ => hall, fun _ => rfl⟩
    · rename_i hall
      exact ⟨fun h => (by cases h), fun h => absurd h hall⟩

theorem asked_codes : ((rounds task config env).map Attempt.request).map
    LocalCascadeAttemptRequest.verifierReasonCodes =
      ([] :: (receipts task config env).map AttemptReceipt.verifierReasonCodes).dropLast := by
  apply List.ext_getElem?
  intro i
  unfold receipts
  rw [List.map_map, List.map_map, List.getElem?_map, List.getElem?_dropLast, List.length_cons,
    List.length_map, Nat.add_sub_cancel]
  by_cases hi : i < (rounds task config env).length
  · obtain ⟨tier, _, ha⟩ := rounds_get (List.getElem?_eq_getElem hi)
    rw [if_pos hi, List.getElem?_eq_getElem hi, ha]
    cases i with
    | zero => rfl
    | succ i =>
      have hprev := List.getElem?_eq_getElem (Nat.lt_of_succ_lt hi)
      obtain ⟨prevTier, _, hprevious⟩ := rounds_get hprev
      rw [List.getElem?_cons_succ, List.getElem?_map, hprev]
      change some (priorCodes (rounds task config env) [] (i + 1)) = _
      rw [priorCodes, hprev, hprevious]
      rfl
  · rw [if_neg hi, List.getElem?_eq_none (Nat.le_of_not_lt hi)]
    rfl

theorem expectedRun_truthful (h : Recordable config env) :
    Truthful task config env (expectedRun task config env) := by
  have hlength : (expectedRun task config env).receipt.attempts.length = askedCount config env :=
    length_receipts
  refine ⟨?_, ?_, receipts_ranks, ?_, ?_, ?_, ⟨?_, asked_codes⟩, ?_, ?_, ?_, ?_⟩
  · rw [hlength]
    exact ⟨askedCount_pos, @length_rounds R task config env ▸ rounds_length_le⟩
  · exact map_receipts_tier (fun a => (a.tierId, a.costRank))
      (fun t => (t.tierId.val, t.costRank)) fun _ _ _ => rfl
  · rintro i tier hi htier ⟨content, hpasses⟩
    rw [hlength, ← @length_rounds R task config env] at hi
    have hget := List.getElem?_eq_getElem (Nat.lt_of_succ_lt hi)
    obtain ⟨other, hother, ha⟩ := rounds_get hget
    cases htier.symm.trans hother
    have hnone := expectedAttempts_unselected hi hget
    rw [ha, selected_eq_some.mpr hpasses] at hnone
    cases hnone
  · rw [hlength]
    obtain ⟨earlier, last, hshape, _, hlast⟩ := @selectedRound_shape R task config env
    rcases hlast with ⟨hselected, _⟩ | ⟨_, _, hall⟩
    · obtain ⟨tier, prior, htier, rfl⟩ := last_round hshape
      obtain ⟨content, hcontent⟩ := Option.isSome_iff_exists.mp hselected
      exact .inl ⟨tier, content, htier, selected_eq_some.mp hcontent⟩
    · refine .inr ?_
      rw [← @length_rounds R task config env, hshape, List.length_append, List.length_singleton,
        hall]
  · intro request hrequest
    obtain ⟨a, ha, rfl⟩ := List.mem_map.mp hrequest
    obtain ⟨tier, _, n, prior, _, _, rfl⟩ := mem_rounds ha
    rfl
  · change ((rounds task config env).map Attempt.request).map _ =
      ((rounds task config env).map Attempt.receipt).map _
    rw [List.map_map, List.map_map]
    refine List.map_congr_left fun a ha => ?_
    obtain ⟨tier, _, n, prior, _, _, rfl⟩ := mem_rounds ha
    rfl
  · intro text
    rw [hlength]
    exact content_eq_some
  · change runStatus (selectedRound task config env) (receipts task config env) = _ ↔
      (selectedRound task config env).bind Attempt.selected ≠ none
    rw [runStatus_passed]
    obtain ⟨earlier, last, _, _, hlast⟩ := @selectedRound_shape R task config env
    rcases hlast with ⟨hselected, heq⟩ | ⟨_, heq, _⟩
    · obtain ⟨content, hcontent⟩ := Option.isSome_iff_exists.mp hselected
      rw [heq, Option.bind_some, hcontent]
      exact iff_of_true (Option.some_ne_none _) (Option.some_ne_none _)
    · rw [heq]
      exact iff_of_false (fun h => h rfl) (fun h => h rfl)
  · rw [hlength]
    exact status_abstained
  · refine CascadeReceipt.Valid.fromPayload ?_
    refine expectedReceipt_valid (totals_bounded_iff.mpr h.tokens) ?_
    cases helapsed : R.elapsedMs (env.clock 0)
        (env.clock (2 * (receipts task config env).length + 1)) with
    | none => exact le_rfl
    | some y => exact R.elapsed_nonneg _ _ y helapsed

/-- A run returns with a truthful receipt exactly when every content that completes an
attempt has a UTF-8 form, every duration is a float, and the totals stay within their
bound. -/
theorem cascade_truthful_iff (hformat : task.outputFormat = config.verifier.outputFormat) :
    (∃ run, runLocalCascade R task config env = .ok run ∧ Truthful task config env run) ↔
      Recordable config env := by
  constructor
  · rintro ⟨run, hrun, _⟩
    exact ((runLocalCascade_eq_ok hformat).mp hrun).1
  · intro h
    exact ⟨_, (runLocalCascade_eq_ok hformat).mpr ⟨h, rfl⟩, expectedRun_truthful h⟩

end Statement

/-! ## Runs of two tiers -/

def sampleDigest : Digest := ⟨String.ofList (List.replicate 64 'a'), by decide +kernel⟩

def sampleRuntime : Runtime where
  Reading := ℚ
  elapsedMs earlier later := some (max 0 ((later - earlier) * 1000))
  elapsed_nonneg _ _ _ hx := by cases hx; exact le_max_left _ _
  floatOfInt n := some n
  isSpace c := c.val = 32
  casefold := id
  loads _ := none
  sha256 _ := sampleDigest
  sha256Json _ := sampleDigest
  requestSha256 _ := sampleDigest
  taskSha256 _ := sampleDigest
  configSha256 _ := sampleDigest

def sampleTask : LocalCascadeTask :=
  ⟨⟨"task", by decide +kernel⟩, .summarization, [115], .text, by decide⟩

def sampleTier (name : String) (h : isSafeId name = true ∧ strip name = name) (costRank : Nat)
    (hrank : costRank ≤ 1000000) : LocalCascadeTier :=
  ⟨⟨name, h⟩, costRank, ⟨"model", by decide +kernel⟩, 4096, 1024, hrank, by decide, by decide⟩

def sampleConfig : LocalCascadeConfig where
  cascadeId := ⟨"cascade", by decide +kernel⟩
  tiers := [sampleTier "small" (by decide +kernel) 1 (by decide),
    sampleTier "large" (by decide +kernel) 2 (by decide)]
  verifier := ⟨.text, 1, 100, [], [], false, [], false, by decide, List.nodup_nil, by decide,
    by decide, by decide⟩
  maxAttempts := 2
  tiers_le := by decide
  ids_nodup := by decide +kernel
  ranks_nodup := by decide
  attempts_range := by decide

def sampleSurroundings (reply : Nat → Reply) : Surroundings sampleRuntime where
  reply := reply
  clock _ := (0 : ℚ)
  runId := ⟨"cascade-run-00000000000000000000000000000000", by decide +kernel⟩

def sampleReply (content : Option Text) (h : ∀ text ∈ content, text.length ≤ maxResultCharacters)
    (count : Nat) (hcount : count ≤ maxTokenCount) : Reply :=
  .result ⟨content, ⟨.actual, some count, by simp, by simpa using hcount⟩, .unknown, h⟩

/-- The first tier fails and the second one completes. -/
def completingReply : Nat → Reply
  | 1 => .raised
  | _ => sampleReply (some [111, 107]) (by decide) 10 (by decide)

theorem completingReply_truthful : ∃ run, runLocalCascade sampleRuntime sampleTask sampleConfig
      (sampleSurroundings completingReply) = .ok run ∧
        Truthful sampleTask sampleConfig (sampleSurroundings completingReply) run := by
  have hcount : askedCount sampleConfig (sampleSurroundings completingReply) = 2 := by
    decide +kernel
  refine (cascade_truthful_iff rfl).mpr ⟨?_, fun _ _ h => (by cases h), fun h => (by cases h), ?_⟩
  · unfold replies
    rw [hcount]
    refine List.forall_mem_map.mpr fun i hi => ?_
    have hlt := List.mem_range.mp hi
    obtain rfl | rfl : i = 0 ∨ i = 1 := by omega
    · exact fun _ h => (by cases h)
    · intro candidate h text htext
      cases h
      cases htext
      decide
  · unfold replies
    rw [hcount]
    decide +kernel

/-- Both tiers abstain and report more tokens than the totals can hold together. -/
def reportingReply (_ : Nat) : Reply :=
  sampleReply none (by decide) 600000000 (by decide)

/-- The first tier completes with a surrogate. -/
def surrogateReply (_ : Nat) : Reply :=
  sampleReply (some [0xD800]) (by decide) 10 (by decide)

/-- A run in which every single report is admissible does not return. -/
theorem admissible_replies_raise : (runLocalCascade sampleRuntime sampleTask sampleConfig
        (sampleSurroundings reportingReply)).map (fun run => run.receipt.status) =
      .error (.contract "actual_input_tokens must be <= 1000000000.") ∧
    (runLocalCascade sampleRuntime sampleTask sampleConfig
        (sampleSurroundings surrogateReply)).map (fun run => run.receipt.status) =
      .error .unicode := by
  constructor <;> decide +kernel

end LocalMoe.Cascade
