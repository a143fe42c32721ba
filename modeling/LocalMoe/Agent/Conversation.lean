/-
  `AgentLoop.run` again, with what the model is told.

  Digesting a text may raise, and so may writing a result; what it is that may be digested is
  left open.
-/
import LocalMoe.Agent.Messages

namespace LocalMoe.Agent

open Contracts

/-- `AgentLoopBudget`, with the bound of a result. -/
structure ConversationBudget extends AgentLoopBudget where
  maxToolResultChars : Nat
  result_bound : 512 ≤ maxToolResultChars

inductive Message where
  | system (content : String)
  | user (content : String)
  | assistant (content : String) (calls : List AgentToolCall)
  | tool (callId : String) (content : List Char)

def Message.calls : Message → List AgentToolCall
  | .assistant _ calls => calls
  | _ => []

/-- A run that is going on: what has happened, and what the loop keeps. -/
structure Talk where
  history : History
  used : Nat
  messages : List Message
  results : List ToolResult
  delivered : List String
  pending : List String
  seen : List String
  /-- The messages that each call of the model was given. -/
  given : List (List Message)
  /-- What the last call of the model gave, unless it raised. -/
  output : Option ModelOutput
  /-- Each result before it was bounded, with the name of its tool in the trace. -/
  raw : List (ToolResult × String)

section Converse

variable (py : Language) (sha256Text : String → Except String String) (parties : Parties)
  (dataOf : History → AgentToolCall → Option (List Char)) (registry : AgentToolRegistry)
  (budget : ConversationBudget)

/-! ## Call ids -/

/-- The id of a call, as it is given before it is compared with the others. -/
def givenCallId (correlationId : String) (turn index : Nat) (id : String) :
    Except String String := do
  let given := Data.oneLine id
  let rawId := if given = "" then s!"{correlationId}-turn-{turn}-tool-{index}" else given
  if 96 < rawId.length then
    let digest ← sha256Text rawId
    return firstChars 63 rawId ++ "-" ++ firstChars 32 digest
  return rawId

/-- `_normalize_calls`: the calls with their ids, and the ids that are taken. -/
def nameCalls (correlationId : String) (turn : Nat) :
    Nat → List String → List AgentToolCall → Except String (List AgentToolCall × List String)
  | _, seen, [] => .ok ([], seen)
  | index, seen, call :: rest => do
    let rawId ← givenCallId sha256Text correlationId turn index call.id
    let id := if rawId ∈ seen then firstFresh rawId seen seen.length 2 else rawId
    let others ← nameCalls correlationId turn (index + 1) (id :: seen) rest
    return (⟨id, strip call.name, call.arguments⟩ :: others.1, others.2)

/-! ## Turns -/

def traceToolName (call : AgentToolCall) : String :=
  match registry.resolve call.name with
  | some spec => spec.name
  | none => "unknown"

/-- The result of a call before it is bounded, and whether the run pauses and whether a budget
is exceeded. -/
def callResult (turn : Nat) (call : AgentToolCall) (talk : Talk) :
    Talk × ToolResult × Bool × Bool :=
  let talk := { talk with history := talk.history ++ [Event.clock] }
  let stopped (code message : String) : Talk × ToolResult × Bool × Bool :=
    (talk, (budgetResult registry call code message).bare, false, true)
  if parties.expired talk.history then
    stopped "wall_time_budget_exceeded"
      "The wall-time budget is exhausted; the tool was not executed."
  else if budget.maxModelTurns ≤ turn then
    stopped "model_turn_budget_exceeded"
      "No model turn remains to consume this result; the tool was not executed."
  else if budget.maxToolCalls ≤ talk.used then
    stopped "tool_call_budget_exceeded"
      "The tool-call budget is exhausted; the tool was not executed."
  else if budget.maxToolArgumentChars < py.size call.arguments then
    ({ talk with used := talk.used + 1 }, (harnessResult registry call "tool_arguments_too_large"
      "Tool arguments exceed the configured size budget.").bare, false, false)
  else
    match execute py parties registry call talk.history with
    | (history, .ok execution) =>
      ({ talk with history := history, used := talk.used + 1 },
        ⟨execution.result, dataOf history call⟩, execution.pauseRequired, false)
    | (history, .error _) =>
      ({ talk with history := history, used := talk.used + 1 },
        (harnessResult registry call "internal_harness_error"
          "The harness failed safely before returning a tool observation.").bare, false, false)

/-- What is observed of a call is told to the model. -/
def tell (call : AgentToolCall) (raw : ToolResult × String) (observed : ToolResult × List Char)
    (talk : Talk) : Talk :=
  { talk with
    raw := talk.raw ++ [raw]
    results := talk.results ++ [observed.1]
    pending := if observed.1.status = "success" then talk.pending ++ [call.id] else talk.pending
    messages := talk.messages ++ [.tool call.id observed.2] }

def talkCall (turn : Nat) (call : AgentToolCall) (talk : Talk) :
    Except String (Talk × Bool × Bool) :=
  let (next, result, paused, exceeded) := callResult py parties dataOf registry budget turn call talk
  let name := traceToolName registry call
  match observe budget.maxToolResultChars result name with
  | none => .error "TypeError"
  | some observed => .ok (tell call (result, name) observed next, paused, exceeded)

def talkCalls (turn : Nat) : List AgentToolCall → Talk → Except String (Talk × Bool × Bool)
  | [], talk => .ok (talk, false, false)
  | call :: rest, talk => do
    let (next, paused, exceeded) ← talkCall py parties dataOf registry budget turn call talk
    let (last, paused', exceeded') ← talkCalls turn rest next
    return (last, paused || paused', exceeded || exceeded')

/-- What is made of an output without calls. -/
def finishTalk (output : ModelOutput) (talk : Talk) : Talk × RunEnd :=
  match output.finalAnswer with
  | none => (talk, ⟨"error", "invalid_model_output", none⟩)
  | some answer =>
    let talk := { talk with history := talk.history ++ [Event.clock] }
    if parties.expired talk.history then
      (talk, ⟨"stopped", "wall_time_budget_exceeded", none⟩)
    else if py.redact (py.stripped answer) = "" then
      (talk, ⟨"error", "invalid_model_output", none⟩)
    else (talk, ⟨"completed", "final_answer", some (py.redact (py.stripped answer))⟩)

/-- The model is called: what was pending has been delivered with the messages. -/
def callModel (talk : Talk) : Talk :=
  let history := talk.history ++ [.model registry.shown]
  { talk with
    history := history
    delivered := talk.delivered ++ talk.pending
    pending := []
    given := talk.given ++ [talk.messages]
    output := (parties.model history).toOption }

/-- One turn, and how the run ends, if it does. -/
def talkTurn (correlationId : String) (turn : Nat) (talk : Talk) :
    Except String (Talk × Option RunEnd) :=
  let talk := { talk with history := talk.history ++ [Event.clock] }
  if parties.expired talk.history then
    .ok (talk, some ⟨"stopped", "wall_time_budget_exceeded", none⟩)
  else
    let asked := callModel parties registry talk
    match parties.model asked.history with
    | .error name => .ok (asked, some ⟨"error", s!"model_error:{name}", none⟩)
    | .ok output =>
      if output.toolCalls.isEmpty then
        let (last, finish) := finishTalk py parties output asked
        .ok (last, some finish)
      else if budget.maxProposedToolCallsPerTurn < output.toolCalls.length then
        .ok (asked, some ⟨"error", "too_many_tool_calls", none⟩)
      else do
        let (calls, seen) ← nameCalls sha256Text correlationId turn 1 asked.seen output.toolCalls
        let proposed := { asked with
          seen := seen
          messages := asked.messages ++ [.assistant (py.redact output.assistantContent) calls] }
        let (next, paused, exceeded) ←
          talkCalls py parties dataOf registry budget turn calls proposed
        return (next,
          if paused then some ⟨"approval_required", "approval_required", none⟩
          else if exceeded then some ⟨"stopped", "budget_exceeded", none⟩
          else none)

def talkTurns (correlationId : String) : Nat → Nat → Talk → Except String (Talk × RunEnd)
  | 0, _, talk => .ok (talk, ⟨"stopped", "model_turn_budget_exceeded", none⟩)
  | left + 1, turn, talk => do
    let (next, finish) ←
      talkTurn py sha256Text parties dataOf registry budget correlationId turn talk
    match finish with
    | some finish => return (next, finish)
    | none => talkTurns correlationId left (turn + 1) next

def converse (systemPrompt correlationId task : String) : Except String (Talk × RunEnd) :=
  if strip task = "" then .error "task is required"
  else if budget.maxTaskChars < (strip task).length then
    .error s!"task exceeds max_task_chars={budget.maxTaskChars}"
  else do
    let _ ← sha256Text (strip task)
    talkTurns py sha256Text parties dataOf registry budget correlationId budget.maxModelTurns 1
      ⟨[], 0, [.system (strip systemPrompt), .user (strip task)], [], [], [], [], [], none, []⟩

end Converse

end LocalMoe.Agent
