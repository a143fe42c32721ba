/-
  The prompt that a session's turns, memories and summary are put into.
-/
import LocalMoe.Contracts.VerifiedRouting
import LocalMoe.Foundation.Binary64
import LocalMoe.Foundation.Greedy

namespace LocalMoe.Context

open Contracts Foundation

/-! ## Numbers -/

/-- What `int` raises. -/
inductive Raised where
  | valueError
  | overflowError
  deriving DecidableEq

/-- `int(limit * ratio)`, the product of a whole number and a float. -/
def intProduct (limit : Nat) : PyFloat → Except Raised Int
  | .nan => .error .valueError
  | .infinite _ => .error (if limit = 0 then .valueError else .overflowError)
  | .finite ratio =>
    let product := nearestFloat (nearestFloat limit * ratio)
    if 2 ^ 1024 ≤ nearestFloat limit ∨ 2 ^ 1024 ≤ |product| then .error .overflowError
    else .ok (Int.tdiv product.num product.den)

theorem intProduct_one {n : Nat} (h : n < 2 ^ 53) : intProduct n (.finite 1) = .ok n := by
  have hlt : ((n : ℕ) : ℚ) < 2 ^ 1024 :=
    calc ((n : ℕ) : ℚ) < 2 ^ 53 := by exact_mod_cast h
      _ ≤ 2 ^ 1024 := pow_le_pow_right₀ (by norm_num) (by norm_num)
  simp only [intProduct]
  rw [nearestFloat_natCast h, mul_one, nearestFloat_natCast h, abs_of_nonneg (Nat.cast_nonneg n),
    if_neg (by rw [or_self]; exact not_le.mpr hlt)]
  simp

/-! ## Policies and parts -/

/-- `ContextPolicy`, of limits that are not negative. -/
structure ContextPolicy where
  contextLimitTokens : Nat
  reservedOutputTokens : Nat := 1024
  compactionTriggerRatio : PyFloat := .finite (3 / 4)
  maxRecentTurns : Nat := 12
  maxMemoryItems : Nat := 8

def ContextPolicy.inputBudgetTokens (policy : ContextPolicy) : Nat :=
  max (policy.contextLimitTokens - policy.reservedOutputTokens) 1

def ContextPolicy.compactionTriggerTokens (policy : ContextPolicy) : Except Raised Int :=
  intProduct policy.contextLimitTokens policy.compactionTriggerRatio

structure ConversationTurn where
  role : String
  content : String
  deriving DecidableEq

/-- `MemorySnippet`.  The scores are any numbers that have an order. -/
structure MemorySnippet (S : Type) where
  id : String
  text : String
  score : S

inductive ContextSection where
  | system
  | memory
  | summary
  | recentTurns
  | currentPrompt
  deriving DecidableEq

structure ContextPart where
  section_ : ContextSection
  content : String
  tokenEstimate : Nat
  deriving DecidableEq

structure ContextBundle where
  parts : List ContextPart
  tokenEstimate : Nat
  budgetTokens : Nat
  compactionNeeded : Bool
  droppedTurns : Int
  deriving DecidableEq

/-- What `build_context_bundle` is called with. -/
structure Request (S : Type) where
  systemPrompt : String
  currentPrompt : String
  policy : ContextPolicy
  turns : List ConversationTurn := []
  memories : List (MemorySnippet S) := []
  summary : String := ""

/-! ## Texts -/

def estimateTokens (text : String) : Nat :=
  if text = "" then 0 else max 1 ((text.length + 3) / 4)

def part (name : ContextSection) (content : String) : ContextPart :=
  ⟨name, content, estimateTokens content⟩

def formatMemories {S : Type} (memories : List (MemorySnippet S)) : String :=
  if memories.isEmpty then ""
  else
    "\n".intercalate ("Relevant memory snippets:" ::
      memories.map fun memory => "- [" ++ memory.id ++ "] " ++ memory.text)

def formatTurns (turns : List ConversationTurn) : String :=
  if turns.isEmpty then ""
  else "\n".intercalate (turns.map fun turn => turn.role ++ ": " ++ turn.content)

/-! ## The turns and the memories that are taken -/

/-- `items[start:]`. -/
def sliceFrom {α : Type} (start : Int) (items : List α) : List α :=
  if start < 0 then items.drop (start + items.length).toNat else items.drop start.toNat

def turnCost (turn : ConversationTurn) : Nat :=
  estimateTokens turn.content + estimateTokens turn.role + 4

/-- The loop of `_select_recent_turns`, over the turns that are left, the newest first. -/
def selectLoop (budgetTokens : Nat) :
    List ConversationTurn → List ConversationTurn → Nat → List ConversationTurn
  | [], selected, _ => selected
  | turn :: rest, selected, used =>
    if selected ≠ [] ∧ budgetTokens < used + turnCost turn then selected
    else if selected = [] ∧ budgetTokens < turnCost turn then selected
    else selectLoop budgetTokens rest (selected ++ [turn]) (used + turnCost turn)

def selectRecentTurns (turns : List ConversationTurn) (budgetTokens : Nat) :
    List ConversationTurn :=
  (selectLoop budgetTokens turns.reverse [] 0).reverse

section

variable {S : Type} [LinearOrder S]

/-- The order of the keys `(-score, id)`. -/
def ranksBefore (a b : MemorySnippet S) : Bool :=
  decide (b.score < a.score) || (decide (a.score = b.score) && decide (a.id ≤ b.id))

namespace Request

variable (r : Request S)

def memoryItems : List (MemorySnippet S) :=
  (r.memories.mergeSort ranksBefore).take r.policy.maxMemoryItems

def recentTurns : List ConversationTurn := sliceFrom (-(r.policy.maxRecentTurns : Int)) r.turns

def stableParts : List ContextPart :=
  [part .system r.systemPrompt, part .memory (formatMemories r.memoryItems),
    part .summary r.summary]

def currentPart : ContextPart := part .currentPrompt r.currentPrompt

def fixedTokens : Nat := (r.stableParts.map (·.tokenEstimate)).sum + r.currentPart.tokenEstimate

def remaining : Nat := r.policy.inputBudgetTokens - r.fixedTokens

def selectedTurns : List ConversationTurn := selectRecentTurns r.recentTurns r.remaining

/-- The parts of a prompt with these turns, less the blank ones. -/
def partsWith (turns : List ConversationTurn) : List ContextPart :=
  (r.stableParts ++ [part .recentTurns (formatTurns turns), r.currentPart]).filter
    fun p => strip p.content ≠ ""

/-- What a prompt with these turns is estimated at. -/
def tokensWith (turns : List ConversationTurn) : Nat :=
  ((r.partsWith turns).map (·.tokenEstimate)).sum

def buildContextBundle : Except Raised ContextBundle := do
  let droppedTurns : Int := r.recentTurns.length - r.selectedTurns.length
  let total := r.tokensWith r.selectedTurns
  let trigger ← r.policy.compactionTriggerTokens
  return ⟨r.partsWith r.selectedTurns, total, r.policy.inputBudgetTokens,
    decide (trigger ≤ (total : Int)) || decide (0 < droppedTurns), droppedTurns⟩

end Request

end

/-! ## What the functions say -/

theorem estimateTokens_eq (text : String) : estimateTokens text = (text.length + 3) / 4 := by
  unfold estimateTokens
  split
  · next h => simp [h]
  · next h =>
    have : 0 < text.length := Nat.pos_of_ne_zero fun h0 => h (String.length_eq_zero_iff.mp h0)
    omega

theorem selectLoop_eq {budget used : Nat} (rest selected : List ConversationTurn)
    (hused : used ≤ budget) (hnone : selected = [] → used = 0) :
    selectLoop budget rest selected used =
      selected ++ takeFitting turnCost (budget - used) rest := by
  induction rest generalizing selected used with
  | nil => simp [selectLoop, takeFitting]
  | cons turn rest ih =>
    rw [selectLoop, takeFitting]
    by_cases hfits : turnCost turn ≤ budget - used
    · have hmore := @ih (used + turnCost turn) (selected ++ [turn]) (by omega) (by simp)
      rw [if_neg (by omega), if_neg (by omega), if_pos hfits, hmore]
      simp [Nat.sub_sub]
    · rw [if_neg hfits, List.append_nil]
      by_cases hempty : selected = []
      · have := hnone hempty
        rw [if_neg (by simp [hempty]), if_pos ⟨hempty, by omega⟩]
      · rw [if_pos ⟨hempty, by omega⟩]

variable (turns : List ConversationTurn)

theorem selectRecentTurns_eq (budget : Nat) :
    selectRecentTurns turns budget = (takeFitting turnCost budget turns.reverse).reverse := by
  rw [selectRecentTurns, selectLoop_eq _ _ (Nat.zero_le _) fun _ => rfl]
  rfl

theorem selectRecentTurns_isSuffix (budget : Nat) : selectRecentTurns turns budget <:+ turns := by
  rw [selectRecentTurns_eq, ← List.reverse_prefix, List.reverse_reverse]
  exact takeFitting_isPrefix _ _ _

theorem totalCost_selectRecentTurns_le (budget : Nat) :
    totalCost turnCost (selectRecentTurns turns budget) ≤ budget := by
  rw [selectRecentTurns_eq, totalCost_reverse]
  exact totalCost_takeFitting_le _ _ _

theorem length_le_selectRecentTurns {turns last : List ConversationTurn} {budget : Nat}
    (h : last <:+ turns) (hcost : totalCost turnCost last ≤ budget) :
    last.length ≤ (selectRecentTurns turns budget).length := by
  rw [selectRecentTurns_eq, List.length_reverse, ← last.length_reverse]
  exact length_le_takeFitting _ (List.reverse_prefix.mpr h) (by rwa [totalCost_reverse])

theorem selectRecentTurns_eq_self_iff {turns : List ConversationTurn} {budget : Nat} :
    selectRecentTurns turns budget = turns ↔ totalCost turnCost turns ≤ budget := by
  rw [selectRecentTurns_eq, List.reverse_eq_iff, takeFitting_eq_self_iff, totalCost_reverse]

theorem length_le_totalCost : turns.length ≤ totalCost turnCost turns := by
  induction turns with
  | nil => rfl
  | cons turn rest ih =>
    rw [totalCost_cons, List.length_cons, turnCost]
    omega

theorem length_formatTurns_le :
    (formatTurns turns).length + 3 ≤ 4 * totalCost turnCost turns + 3 := by
  induction turns with
  | nil => simp [formatTurns]
  | cons turn rest ih =>
    have hcontent := estimateTokens_eq turn.content
    have hrole := estimateTokens_eq turn.role
    rw [totalCost_cons, turnCost, hcontent, hrole]
    cases rest with
    | nil =>
      simp only [formatTurns, List.isEmpty_cons, Bool.false_eq_true, if_false, List.map_cons,
        List.map_nil, String.intercalate_singleton, String.length_append, totalCost_nil]
      have : (": ").length = 2 := by decide
      omega
    | cons next more =>
      simp only [formatTurns, List.isEmpty_cons, Bool.false_eq_true, if_false, List.map_cons,
        String.intercalate_cons_cons, String.length_append] at ih ⊢
      have : (": ").length = 2 := by decide
      have : ("\n").length = 1 := by decide
      omega

theorem estimateTokens_formatTurns_le :
    estimateTokens (formatTurns turns) ≤ totalCost turnCost turns := by
  have := length_formatTurns_le turns
  rw [estimateTokens_eq]
  omega

end LocalMoe.Context
