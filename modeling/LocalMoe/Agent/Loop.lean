/-
  `AgentLoop.run`: model, tools and observations, under a budget.

  What the model makes of the messages is its own affair, so they are not kept here; neither is
  the trace.
-/
import LocalMoe.Agent.Registry
import LocalMoe.Data.Chat

namespace LocalMoe.Agent

open Contracts

/-- `AgentLoopBudget`, with what `__post_init__` checks. -/
structure AgentLoopBudget where
  maxModelTurns : Nat
  maxToolCalls : Nat
  maxProposedToolCallsPerTurn : Nat
  maxTaskChars : Nat
  maxToolArgumentChars : Nat
  turns_pos : 1 ≤ maxModelTurns
  calls_pos : 1 ≤ maxToolCalls
  proposed_bounds : 1 ≤ maxProposedToolCallsPerTurn ∧ maxProposedToolCallsPerTurn ≤ 256
  task_pos : 1 ≤ maxTaskChars
  arguments_pos : 2 ≤ maxToolArgumentChars

/-! ## Call ids -/

/-- The first of the candidates that is not taken. -/
def firstFresh (rawId : String) (seen : List String) : Nat → Nat → String
  | 0, suffix => (rawId.take 88).toString ++ "-" ++ toString suffix
  | fuel + 1, suffix =>
    let candidate := (rawId.take 88).toString ++ "-" ++ toString suffix
    if candidate ∈ seen then firstFresh rawId seen fuel (suffix + 1) else candidate

/-- The id of a call, as it is given before it is compared with the others. -/
def rawCallId (py : Language) (correlationId : String) (turn index : Nat) (id : String) : String :=
  let given := Data.oneLine id
  let rawId := if given = "" then s!"{correlationId}-turn-{turn}-tool-{index}" else given
  if 96 < rawId.length then
    (rawId.take 63).toString ++ "-" ++ ((py.sha256Text rawId).take 32).toString
  else rawId

/-- `_normalize_calls`: the calls with their ids, and the ids that are taken. -/
def normalizeCalls (py : Language) (correlationId : String) (turn : Nat) :
    Nat → List String → List AgentToolCall → List AgentToolCall × List String
  | _, seen, [] => ([], seen)
  | index, seen, call :: rest =>
    let rawId := rawCallId py correlationId turn index call.id
    let id := if rawId ∈ seen then firstFresh rawId seen seen.length 2 else rawId
    let others := normalizeCalls py correlationId turn (index + 1) (id :: seen) rest
    (⟨id, strip call.name, call.arguments⟩ :: others.1, others.2)

/-! ## The loop -/

/-- What a run has done so far. -/
structure Progress where
  history : History
  used : Nat
  results : List AgentToolResult
  requests : List ApprovalRequest

/-- How a run ends: `AgentRunResult.status`, `reason` and `final_answer`. -/
structure RunEnd where
  status : String
  reason : String
  finalAnswer : Option String
  deriving DecidableEq, Repr

section Loop

variable (py : Language) (parties : Parties) (registry : AgentToolRegistry)
  (budget : AgentLoopBudget)

def budgetResult (call : AgentToolCall) (code message : String) : AgentToolResult :=
  match registry.resolve call.name with
  | some spec => resultFor call spec "stopped" code message
  | none => ⟨call.id, "unknown", "stopped", code, message, "unknown"⟩

/-- An error of the loop itself, for a call. -/
def harnessResult (call : AgentToolCall) (code message : String) : AgentToolResult :=
  match registry.resolve call.name with
  | some spec => resultFor call spec "error" code message
  | none => ⟨call.id, "unknown", "error", code, message, "unknown"⟩

/-- One call of a turn, and whether the run pauses and whether a budget is exceeded. -/
def runCall (turn : Nat) (call : AgentToolCall) (progress : Progress) : Progress × Bool × Bool :=
  let progress := { progress with history := progress.history ++ [Event.clock] }
  let stopped (code message : String) : Progress × Bool × Bool :=
    ({ progress with
        results := progress.results ++ [budgetResult registry call code message] }, false, true)
  if parties.expired progress.history then
    stopped "wall_time_budget_exceeded"
      "The wall-time budget is exhausted; the tool was not executed."
  else if budget.maxModelTurns ≤ turn then
    stopped "model_turn_budget_exceeded"
      "No model turn remains to consume this result; the tool was not executed."
  else if budget.maxToolCalls ≤ progress.used then
    stopped "tool_call_budget_exceeded"
      "The tool-call budget is exhausted; the tool was not executed."
  else if budget.maxToolArgumentChars < py.size call.arguments then
    ({ progress with
        used := progress.used + 1
        results := progress.results ++ [harnessResult registry call "tool_arguments_too_large"
          "Tool arguments exceed the configured size budget."] }, false, false)
  else
    match execute py parties registry call progress.history with
    | (history, .ok execution) =>
      ({ history := history
         used := progress.used + 1
         results := progress.results ++ [execution.result]
         requests := progress.requests ++ execution.approvalRequest.toList },
        execution.pauseRequired, false)
    | (history, .error _) =>
      ({ progress with
          history := history
          used := progress.used + 1
          results := progress.results ++ [harnessResult registry call "internal_harness_error"
            "The harness failed safely before returning a tool observation."] }, false, false)

def runCalls (turn : Nat) : List AgentToolCall → Progress → Progress × Bool × Bool
  | [], progress => (progress, false, false)
  | call :: rest, progress =>
    let (next, paused, exceeded) := runCall py parties registry budget turn call progress
    let (last, paused', exceeded') := runCalls turn rest next
    (last, paused || paused', exceeded || exceeded')

/-- What is made of an output without calls. -/
def finishRun (output : ModelOutput) (progress : Progress) : Progress × RunEnd :=
  match output.finalAnswer with
  | none => (progress, ⟨"error", "invalid_model_output", none⟩)
  | some answer =>
    let progress := { progress with history := progress.history ++ [Event.clock] }
    if parties.expired progress.history then
      (progress, ⟨"stopped", "wall_time_budget_exceeded", none⟩)
    else if py.redact (py.stripped answer) = "" then
      (progress, ⟨"error", "invalid_model_output", none⟩)
    else (progress, ⟨"completed", "final_answer", some (py.redact (py.stripped answer))⟩)

def runTurns (correlationId : String) : Nat → Nat → List String → Progress → Progress × RunEnd
  | 0, _, _, progress => (progress, ⟨"stopped", "model_turn_budget_exceeded", none⟩)
  | left + 1, turn, seen, progress =>
    let progress := { progress with history := progress.history ++ [Event.clock] }
    if parties.expired progress.history then
      (progress, ⟨"stopped", "wall_time_budget_exceeded", none⟩)
    else
      let progress := { progress with history := progress.history ++ [Event.model registry.shown] }
      match parties.model progress.history with
      | .error name => (progress, ⟨"error", s!"model_error:{name}", none⟩)
      | .ok output =>
        if output.toolCalls.isEmpty then finishRun py parties output progress
        else if budget.maxProposedToolCallsPerTurn < output.toolCalls.length then
          (progress, ⟨"error", "too_many_tool_calls", none⟩)
        else
          let (calls, seen) :=
            normalizeCalls py correlationId turn 1 seen output.toolCalls
          let (next, paused, exceeded) := runCalls py parties registry budget turn calls progress
          if paused then (next, ⟨"approval_required", "approval_required", none⟩)
          else if exceeded then (next, ⟨"stopped", "budget_exceeded", none⟩)
          else runTurns correlationId left (turn + 1) seen next

def run (correlationId task : String) : Except String (Progress × RunEnd) :=
  if strip task = "" then .error "task is required"
  else if budget.maxTaskChars < (strip task).length then
    .error s!"task exceeds max_task_chars={budget.maxTaskChars}"
  else .ok (runTurns py parties registry budget correlationId budget.maxModelTurns 1 []
    ⟨[], 0, [], []⟩)

end Loop

end LocalMoe.Agent
