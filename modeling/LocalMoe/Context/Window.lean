/-
  What a prompt keeps of a session.
-/
import LocalMoe.Context.Bundle

namespace LocalMoe.Context

open Contracts Foundation

/-! ## The window -/

theorem sliceFrom_zero {α : Type} (items : List α) : sliceFrom (-((0 : Nat) : Int)) items = items := by
  simp [sliceFrom]

theorem sliceFrom_neg {α : Type} {n : Nat} (items : List α) (h : n ≠ 0) :
    sliceFrom (-(n : Int)) items = items.drop (items.length - n) := by
  rw [sliceFrom, if_pos (by omega)]
  congr 1
  omega

theorem isSuffix_drop {α : Type} {n : Nat} {last items : List α} (h : last <:+ items)
    (hlength : last.length ≤ n) : last <:+ items.drop (items.length - n) := by
  obtain ⟨front, rfl⟩ := h
  rw [List.drop_append_of_le_length (by rw [List.length_append]; omega)]
  exact List.suffix_append _ _

namespace Request

variable {S : Type} (r : Request S)

/-- The newest turns, as many as the policy allows. -/
def newestTurns : List ConversationTurn :=
  r.turns.drop (r.turns.length - r.policy.maxRecentTurns)

theorem recentTurns_isSuffix : r.recentTurns <:+ r.turns := by
  rw [recentTurns, sliceFrom]
  split <;> exact List.drop_suffix _ _

theorem recentTurns_of_zero (h : r.policy.maxRecentTurns = 0) : r.recentTurns = r.turns := by
  rw [recentTurns, h, sliceFrom_zero]

theorem recentTurns_of_ne_zero (h : r.policy.maxRecentTurns ≠ 0) :
    r.recentTurns = r.newestTurns := by
  rw [recentTurns, sliceFrom_neg _ h]
  rfl

end Request

section

variable {S : Type} [LinearOrder S]

theorem ranksBefore_total (a b : MemorySnippet S) : (ranksBefore a b || ranksBefore b a) = true := by
  simp only [ranksBefore, Bool.or_eq_true, Bool.and_eq_true, decide_eq_true_eq]
  rcases lt_trichotomy a.score b.score with h | h | h
  · exact .inr (.inl h)
  · rcases le_total a.id b.id with hid | hid
    · exact .inl (.inr ⟨h, hid⟩)
    · exact .inr (.inr ⟨h.symm, hid⟩)
  · exact .inl (.inl h)

theorem ranksBefore_trans (a b c : MemorySnippet S) (hab : ranksBefore a b = true)
    (hbc : ranksBefore b c = true) : ranksBefore a c = true := by
  simp only [ranksBefore, Bool.or_eq_true, Bool.and_eq_true, decide_eq_true_eq] at hab hbc ⊢
  rcases hab with hab | ⟨hab, hid⟩ <;> rcases hbc with hbc | ⟨hbc, hid'⟩
  · exact .inl (hbc.trans hab)
  · exact .inl (hbc ▸ hab)
  · exact .inl (hab ▸ hbc)
  · exact .inr ⟨hab.trans hbc, hid.trans hid'⟩

namespace Request

variable (r : Request S)

/-- The memories that are included are no more than the policy allows, and none that is left
out has a better score. -/
structure BestMemories : Prop where
  count : r.memoryItems.length ≤ r.policy.maxMemoryItems
  best : ∃ rest, (r.memoryItems ++ rest).Perm r.memories ∧
    ∀ kept ∈ r.memoryItems, ∀ left ∈ rest, left.score ≤ kept.score
  fills : r.memoryItems.length = min r.policy.maxMemoryItems r.memories.length

theorem bestMemories : r.BestMemories := by
  refine ⟨List.length_take_le _ _, ?_, by simp [memoryItems]⟩
  refine ⟨(r.memories.mergeSort ranksBefore).drop r.policy.maxMemoryItems, ?_, ?_⟩
  · rw [memoryItems, List.take_append_drop]
    exact List.mergeSort_perm _ _
  · intro kept hkept left hleft
    have hsorted := List.pairwise_mergeSort ranksBefore_trans ranksBefore_total r.memories
    rw [← List.take_append_drop r.policy.maxMemoryItems (r.memories.mergeSort ranksBefore),
      List.pairwise_append] at hsorted
    have hrank := hsorted.2.2 kept hkept left hleft
    simp only [ranksBefore, Bool.or_eq_true, Bool.and_eq_true, decide_eq_true_eq] at hrank
    rcases hrank with hlt | ⟨heq, -⟩
    · exact hlt.le
    · exact heq.ge

/-! ## The budget -/

theorem sum_filter_le {parts : List ContextPart} (shown : ContextPart → Bool) :
    ((parts.filter shown).map (·.tokenEstimate)).sum ≤ (parts.map (·.tokenEstimate)).sum := by
  induction parts with
  | nil => rfl
  | cons p rest ih =>
    rw [List.filter_cons]
    split
    · simp only [List.map_cons, List.sum_cons]
      omega
    · simp only [List.map_cons, List.sum_cons]
      omega

theorem tokensWith_le (turns : List ConversationTurn) :
    r.tokensWith turns ≤ r.fixedTokens + totalCost turnCost turns := by
  have hturns := estimateTokens_formatTurns_le turns
  have hfilter := @sum_filter_le
    (r.stableParts ++ [part .recentTurns (formatTurns turns), r.currentPart])
    fun p => strip p.content ≠ ""
  rw [tokensWith, partsWith]
  refine hfilter.trans ?_
  simp only [fixedTokens, List.map_append, List.sum_append, List.map_cons, List.map_nil,
    List.sum_cons, List.sum_nil, part]
  omega

/-! ## What is kept -/

/-- What the prompt keeps of the turns and the memories, and what it says of them. -/
structure Keeps (bundle : ContextBundle) : Prop where
  parts : bundle.parts = r.partsWith r.selectedTurns
  suffix : r.selectedTurns <:+ r.turns
  window : r.selectedTurns.length ≤ r.policy.maxRecentTurns
  fits : totalCost turnCost r.selectedTurns ≤ r.remaining
  longest : ∀ last, last <:+ r.turns → last.length ≤ r.policy.maxRecentTurns →
    totalCost turnCost last ≤ r.remaining → last.length ≤ r.selectedTurns.length
  memories : r.BestMemories
  budget : r.fixedTokens ≤ r.policy.inputBudgetTokens →
    bundle.tokenEstimate ≤ r.policy.inputBudgetTokens
  exceeded : r.policy.inputBudgetTokens < r.fixedTokens → r.selectedTurns = []
  compaction : r.selectedTurns ≠ r.turns → bundle.compactionNeeded = true

/-- A policy that allows no turns meets a session whose newest turn does not fit, if it has
one; and where the newest turns all fit that a policy allows, and there are older ones, their
prompt is as large as the one that compaction is triggered by. -/
structure InWindow : Prop where
  noTurns : r.policy.maxRecentTurns = 0 → ∀ newest ∈ r.turns.getLast?,
    r.remaining < turnCost newest
  olderTurns : 0 < r.policy.maxRecentTurns → r.policy.maxRecentTurns < r.turns.length →
    totalCost turnCost r.newestTurns ≤ r.remaining →
      ∀ trigger, r.policy.compactionTriggerTokens = .ok trigger →
        trigger ≤ (r.tokensWith r.newestTurns : Int)

theorem selectRecentTurns_eq_nil_iff {turns : List ConversationTurn} {budget : Nat} :
    selectRecentTurns turns budget = [] ↔ ∀ newest ∈ turns.getLast?, budget < turnCost newest := by
  rw [selectRecentTurns_eq, List.reverse_eq_nil_iff, List.getLast?_eq_head?_reverse]
  cases turns.reverse with
  | nil | cons newest rest => simp [takeFitting]

theorem selectedTurns_isSuffix : r.selectedTurns <:+ r.turns :=
  (selectRecentTurns_isSuffix _ _).trans r.recentTurns_isSuffix

theorem selectedTurns_fits : totalCost turnCost r.selectedTurns ≤ r.remaining :=
  totalCost_selectRecentTurns_le _ _

theorem longest_selectedTurns {last : List ConversationTurn} (h : last <:+ r.turns)
    (hcount : last.length ≤ r.policy.maxRecentTurns)
    (hcost : totalCost turnCost last ≤ r.remaining) : last.length ≤ r.selectedTurns.length := by
  by_cases hzero : r.policy.maxRecentTurns = 0
  · omega
  · refine length_le_selectRecentTurns ?_ hcost
    rw [r.recentTurns_of_ne_zero hzero]
    exact isSuffix_drop h hcount

theorem tokensWith_selectedTurns_le (h : r.fixedTokens ≤ r.policy.inputBudgetTokens) :
    r.tokensWith r.selectedTurns ≤ r.policy.inputBudgetTokens := by
  have hsum := r.tokensWith_le r.selectedTurns
  have hfits := r.selectedTurns_fits
  unfold remaining at hfits
  omega

theorem selectedTurns_of_exceeded (h : r.policy.inputBudgetTokens < r.fixedTokens) :
    r.selectedTurns = [] := by
  have hfits := r.selectedTurns_fits
  have hcost := length_le_totalCost r.selectedTurns
  unfold remaining at hfits
  exact List.length_eq_zero_iff.mp (by omega)

variable {r}

theorem buildContextBundle_eq_ok {bundle : ContextBundle} (h : r.buildContextBundle = .ok bundle) :
    ∃ trigger, r.policy.compactionTriggerTokens = .ok trigger ∧
      bundle = ⟨r.partsWith r.selectedTurns, r.tokensWith r.selectedTurns,
        r.policy.inputBudgetTokens, decide (trigger ≤ (r.tokensWith r.selectedTurns : Int)) ||
          decide (0 < (r.recentTurns.length : Int) - r.selectedTurns.length),
        (r.recentTurns.length : Int) - r.selectedTurns.length⟩ := by
  rw [buildContextBundle] at h
  cases htrigger : r.policy.compactionTriggerTokens with
  | error e => rw [htrigger] at h; exact nomatch h
  | ok trigger =>
    rw [htrigger] at h
    exact ⟨trigger, rfl, (Except.ok.inj h).symm⟩

theorem selectedTurns_eq_recentTurns_iff :
    r.selectedTurns = r.recentTurns ↔ r.recentTurns.length ≤ r.selectedTurns.length :=
  ⟨fun h => (congrArg List.length h).ge,
    fun h => (selectRecentTurns_isSuffix _ _).eq_of_length_le h⟩

theorem compaction_iff {trigger : Int} (hpos : 0 < r.policy.maxRecentTurns) :
    (r.selectedTurns ≠ r.turns → trigger ≤ (r.tokensWith r.selectedTurns : Int) ∨
        0 < (r.recentTurns.length : Int) - r.selectedTurns.length) ↔
      (r.policy.maxRecentTurns < r.turns.length → totalCost turnCost r.newestTurns ≤ r.remaining →
          trigger ≤ (r.tokensWith r.newestTurns : Int)) := by
  have hrecent := r.recentTurns_of_ne_zero hpos.ne'
  have hfit : r.selectedTurns = r.newestTurns ↔ totalCost turnCost r.newestTurns ≤ r.remaining := by
    rw [selectedTurns, hrecent, selectRecentTurns_eq_self_iff]
  have hnewest : r.newestTurns.length = min r.policy.maxRecentTurns r.turns.length := by
    rw [newestTurns, List.length_drop]
    omega
  constructor
  · intro h holder hcost
    have hsel := hfit.mpr hcost
    have hne : r.selectedTurns ≠ r.turns := by
      rw [hsel]
      intro heq
      have := congrArg List.length heq
      omega
    rcases h hne with htrigger | hdropped
    · rwa [hsel] at htrigger
    · rw [hrecent, hsel] at hdropped
      omega
  · intro h hne
    by_cases hcost : totalCost turnCost r.newestTurns ≤ r.remaining
    · have hsel := hfit.mpr hcost
      by_cases holder : r.policy.maxRecentTurns < r.turns.length
      · rw [hsel]
        exact .inl (h holder hcost)
      · refine absurd ?_ hne
        rw [hsel, newestTurns, Nat.sub_eq_zero_of_le (Nat.le_of_not_lt holder), List.drop_zero]
    · have hsel : r.selectedTurns ≠ r.recentTurns := by
        rw [hrecent]
        exact mt hfit.mp hcost
      have := mt selectedTurns_eq_recentTurns_iff.mpr hsel
      exact .inr (by omega)

theorem window_iff_of_zero (hzero : r.policy.maxRecentTurns = 0) :
    r.selectedTurns.length ≤ r.policy.maxRecentTurns ↔
      ∀ newest ∈ r.turns.getLast?, r.remaining < turnCost newest := by
  rw [hzero, Nat.le_zero, List.length_eq_zero_iff, selectedTurns, r.recentTurns_of_zero hzero,
    selectRecentTurns_eq_nil_iff]

theorem window_of_pos (hpos : 0 < r.policy.maxRecentTurns) :
    r.selectedTurns.length ≤ r.policy.maxRecentTurns := by
  have hle := (selectRecentTurns_isSuffix r.recentTurns r.remaining).length_le
  rw [r.recentTurns_of_ne_zero hpos.ne', newestTurns, List.length_drop] at hle
  rw [selectedTurns, r.recentTurns_of_ne_zero hpos.ne', newestTurns]
  omega

/-- A prompt keeps its budget and its newest turns, and reports what is left out, exactly when
its session and its policy are in the window. -/
theorem keeps_iff_inWindow {bundle : ContextBundle} (h : r.buildContextBundle = .ok bundle) :
    r.Keeps bundle ↔ r.InWindow := by
  obtain ⟨trigger, htrigger, hbundle⟩ := buildContextBundle_eq_ok h
  have hneeded : bundle.compactionNeeded = true ↔ trigger ≤ (r.tokensWith r.selectedTurns : Int) ∨
        0 < (r.recentTurns.length : Int) - r.selectedTurns.length := by
    rw [hbundle, Bool.or_eq_true, decide_eq_true_eq, decide_eq_true_eq]
  constructor
  · intro hkeeps
    refine ⟨fun hzero => (window_iff_of_zero hzero).mp hkeeps.window, fun hpos => ?_⟩
    intro holder hcost trigger' htrigger'
    obtain rfl : trigger' = trigger := Except.ok.inj (htrigger'.symm.trans htrigger)
    exact (compaction_iff hpos).mp (fun hne => hneeded.mp (hkeeps.compaction hne)) holder hcost
  · intro hin
    refine ⟨by rw [hbundle], r.selectedTurns_isSuffix, ?_, r.selectedTurns_fits,
      fun last => r.longest_selectedTurns, r.bestMemories, ?_, r.selectedTurns_of_exceeded, ?_⟩
    · rcases Nat.eq_zero_or_pos r.policy.maxRecentTurns with hzero | hpos
      · exact (window_iff_of_zero hzero).mpr (hin.noTurns hzero)
      · exact window_of_pos hpos
    · have htokens : bundle.tokenEstimate = r.tokensWith r.selectedTurns := by rw [hbundle]
      rw [htokens]
      exact r.tokensWith_selectedTurns_le
    · rw [hneeded]
      rcases Nat.eq_zero_or_pos r.policy.maxRecentTurns with hzero | hpos
      · -- Nothing is taken of a window of all turns.
        intro hne
        have hlength := (window_iff_of_zero hzero).mpr (hin.noTurns hzero)
        have hrecent := r.recentTurns_of_zero hzero
        have := mt selectedTurns_eq_recentTurns_iff.mpr (hrecent.symm ▸ hne)
        exact .inr (by omega)
      · exact (compaction_iff hpos).mpr fun holder hcost =>
          hin.olderTurns hpos holder hcost trigger htrigger

end Request

end

/-! ## A session of one turn -/

def sampleRequest (maxRecentTurns : Nat) : Request ℚ where
  systemPrompt := "s"
  currentPrompt := "c"
  policy :=
    { contextLimitTokens := 100, reservedOutputTokens := 0,
      compactionTriggerRatio := .finite 1, maxRecentTurns }
  turns := [⟨"user", "hello"⟩]

theorem sampleRequest_returns (n : Nat) :
    ∃ bundle, (sampleRequest n).buildContextBundle = .ok bundle := by
  have htrigger : (sampleRequest n).policy.compactionTriggerTokens = .ok (100 : Nat) :=
    intProduct_one (show 100 < 2 ^ 53 by norm_num)
  rw [Request.buildContextBundle, htrigger]
  exact ⟨_, rfl⟩

theorem keeps_iff_inWindow_sample : ∃ bundle,
    (sampleRequest 1).buildContextBundle = .ok bundle ∧ (sampleRequest 1).Keeps bundle := by
  obtain ⟨bundle, h⟩ := sampleRequest_returns 1
  refine ⟨bundle, h, (Request.keeps_iff_inWindow h).mpr ⟨fun hzero => ?_, fun _ holder => ?_⟩⟩
  · exact absurd hzero (by decide)
  · exact absurd holder (by decide)

/-- A policy that allows no turns, and a prompt with one. -/
theorem no_turns_kept : ∃ bundle,
    (sampleRequest 0).buildContextBundle = .ok bundle ∧ ¬ (sampleRequest 0).Keeps bundle := by
  obtain ⟨bundle, h⟩ := sampleRequest_returns 0
  refine ⟨bundle, h, fun hkeeps => ?_⟩
  have hnone := (Request.window_iff_of_zero rfl).mp hkeeps.window ⟨"user", "hello"⟩ rfl
  refine absurd hnone ?_
  have hmemories : (sampleRequest 0).memoryItems = [] := by
    simp [Request.memoryItems, sampleRequest]
  simp only [Request.remaining, Request.fixedTokens, Request.stableParts, hmemories]
  decide

end LocalMoe.Context
