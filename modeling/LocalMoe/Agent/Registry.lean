/-
  `AgentToolRegistry`: resolving, checking, approving and running one call.

  The runner and the approval handler answer as they like; what they are asked is recorded.
-/
import LocalMoe.Agent.Tools

namespace LocalMoe.Agent

open Contracts

/-! ## Specs -/

/-- `name.replace(".", "__")`. -/
def withoutDots (name : String) : String :=
  String.ofList (name.toList.flatMap fun c => if c = '.' then ['_', '_'] else [c])

def exposedNameOf (name modelName : String) : String :=
  if modelName ≠ "" then modelName else withoutDots name

/-- `[A-Za-z0-9_-]{1,64}`. -/
def isToolName (name : String) : Bool :=
  name.toList.all (fun c => c.isAlphanum || c = '_' || c = '-') && decide (0 < name.length) &&
    decide (name.length ≤ 64)

/-- `AgentToolSpec`, with what `__post_init__` checks. -/
structure AgentToolSpec where
  name : String
  description : String
  inputSchema : List (Key × Arg)
  riskClass : String
  sideEffects : String
  modelName : String
  approvalRequired : Bool
  named : strip name ≠ ""
  visible : isToolName (exposedNameOf name modelName) = true
  object : Arg.field "type" inputSchema = some (.str "object")
  closed : Arg.field "additionalProperties" inputSchema = some (.bool false)
  classified : strip riskClass ≠ ""

def AgentToolSpec.exposedName (spec : AgentToolSpec) : String :=
  exposedNameOf spec.name spec.modelName

structure AgentToolCall where
  id : String
  name : String
  arguments : Arg

structure ModelOutput where
  finalAnswer : Option String
  toolCalls : List AgentToolCall
  assistantContent : String

structure ApprovalRequest where
  callId : String
  toolName : String
  arguments : Arg
  argumentsSha256 : String
  riskClass : String
  sideEffects : String

structure AgentPermissionPolicy where
  autoAllowRisks : List String
  approvalRequiredRisks : List String
  deniedRisks : List String
  deniedTools : List String
  approvalRequiredTools : List String

/-- What the policy decides. -/
inductive Decision where
  | allow | deny | approvalRequired
  deriving DecidableEq, Repr

def AgentPermissionPolicy.decision (policy : AgentPermissionPolicy) (spec : AgentToolSpec) :
    Decision :=
  if spec.name ∈ policy.deniedTools then .deny
  else if spec.riskClass ∈ policy.deniedRisks then .deny
  else if spec.approvalRequired then .approvalRequired
  else if spec.name ∈ policy.approvalRequiredTools then .approvalRequired
  else if spec.riskClass ∈ policy.autoAllowRisks then .allow
  else if spec.riskClass ∈ policy.approvalRequiredRisks then .approvalRequired
  else .deny

def localToolConfirmations (name : String) : List (Key × Arg) :=
  if ["memory.prune_expired", "memory.forget", "knowledge.ingest", "data.export", "data.import",
      "extension.configure", "profile.activate", "plugin.create"].contains name then
    [(⟨"confirm", true⟩, .bool true)]
  else if name = "mcp.list_tools" then [(⟨"confirm_process_execution", true⟩, .bool true)]
  else if name = "mcp.call_tool" then
    [(⟨"confirm_process_execution", true⟩, .bool true), (⟨"confirm_tool_call", true⟩, .bool true)]
  else []

def updateWith (entries confirmations : List (Key × Arg)) : List (Key × Arg) :=
  entries.map (fun entry =>
    match confirmations.find? fun other => other.1 = entry.1 with
    | some other => (entry.1, other.2)
    | none => entry) ++
  confirmations.filter fun entry => !(entries.map Prod.fst).contains entry.1

/-! ## The registry -/

/-- `AgentToolRegistry`: no canonical name comes twice, and no visible one. -/
structure AgentToolRegistry where
  policy : AgentPermissionPolicy
  specs : List AgentToolSpec
  uniqueNames : (specs.map AgentToolSpec.name).Nodup
  uniqueExposed : (specs.map AgentToolSpec.exposedName).Nodup

/-- `AgentToolRegistry.resolve`: the canonical name comes first. -/
def AgentToolRegistry.resolve (registry : AgentToolRegistry) (name : String) :
    Option AgentToolSpec :=
  (registry.specs.find? fun spec => spec.name = name).or
    (registry.specs.find? fun spec => spec.exposedName = name)

/-- `AgentToolRegistry.specs`: what the model is shown. -/
def AgentToolRegistry.shown (registry : AgentToolRegistry) : List AgentToolSpec :=
  registry.specs.mergeSort fun a b => decide (a.name ≤ b.name)

/-- What the approval handler answers. -/
inductive Approval where
  | decided (approved : Bool) (reason : String)
  /-- Neither a truth value nor an `ApprovalDecision`. -/
  | invalid
  | raised
  deriving DecidableEq, Repr

/-- What the runner answers. -/
inductive Ran where
  | result (status message : String) (isError : Bool)
  /-- A result that cannot be read. -/
  | invalid
  | toolError (message : String)
  | raised (name : String)
  deriving DecidableEq, Repr

/-- What is recorded of a run. -/
inductive Event where
  /-- The clock is read. -/
  | clock
  /-- The model is called, and shown these specs. -/
  | model (shown : List AgentToolSpec)
  /-- The approval handler is called. -/
  | approval (request : ApprovalRequest) (answer : Approval)
  /-- The runner is called, for a call that resolved to a spec. -/
  | run (call : AgentToolCall) (spec : AgentToolSpec) (arguments : Arg)

/-- What has happened so far. -/
abbrev History := List Event

/-- `AgentToolResult`, without its data. -/
structure AgentToolResult where
  callId : String
  toolName : String
  status : String
  code : String
  message : String
  riskClass : String
  deriving DecidableEq, Repr

/-- `AgentToolExecution`: the result, and whether the loop pauses. -/
structure Execution where
  result : AgentToolResult
  approvalRequest : Option ApprovalRequest
  pauseRequired : Bool

/-- The model, the runner, the approval handler and the clock, which may look at all that has
happened. -/
structure Parties where
  /-- The model proposes calls, or raises. -/
  model : History → Except String ModelOutput
  /-- The deadline has passed. -/
  expired : History → Bool
  handler : Option (History → ApprovalRequest → Approval)
  runner : History → String → Arg → Ran

section Execute

variable (py : Language) (parties : Parties) (registry : AgentToolRegistry)

def resultFor (call : AgentToolCall) (spec : AgentToolSpec) (status code message : String) :
    AgentToolResult :=
  ⟨call.id, spec.name, status, code, message, spec.riskClass⟩

/-- The runner is called, and its answer read. -/
def runTool (call : AgentToolCall) (spec : AgentToolSpec) (arguments : Arg)
    (request : Option ApprovalRequest) (history : History) : History × Execution :=
  let answer : AgentToolResult := match parties.runner history spec.name arguments with
    | .result status message isError =>
      if spec.name = "mcp.call_tool" && isError then
        resultFor call spec "error" "tool_reported_error" (py.redact message)
      else if status = "ok" then resultFor call spec "success" "ok" (py.redact message)
      else resultFor call spec status "tool_result" (py.redact message)
    | .invalid => resultFor call spec "error" "invalid_tool_result"
        "The tool returned an invalid or unserializable structured result."
    | .toolError message => resultFor call spec "error" "tool_execution_error" (py.redact message)
    | .raised name => resultFor call spec "error" "internal_error"
        s!"Tool execution failed with {name}."
  (history ++ [.run call spec arguments], ⟨answer, request, false⟩)

/-- The request that the approval handler is shown. -/
def approvalRequest (call : AgentToolCall) (spec : AgentToolSpec) : ApprovalRequest :=
  ⟨call.id, spec.name, sanitize py call.arguments, py.digest call.arguments, spec.riskClass,
    spec.sideEffects⟩

def approveTool (call : AgentToolCall) (spec : AgentToolSpec) (entries : List (Key × Arg))
    (history : History) : History × Execution :=
  let request := approvalRequest py call spec
  match parties.handler with
  | none => (history, ⟨resultFor call spec "approval_required" "approval_required"
      "Explicit approval is required for this exact tool call.", some request, true⟩)
  | some handler =>
    let answer := handler history request
    let asked := history ++ [.approval request answer]
    match answer with
    | .raised => (asked, ⟨resultFor call spec "approval_required" "approval_handler_error"
        "The approval handler failed; the tool was not executed.", some request, true⟩)
    | .invalid => (asked, ⟨resultFor call spec "approval_required" "approval_handler_error"
        "The approval handler returned an invalid decision; the tool was not executed.",
        some request, true⟩)
    | .decided false reason =>
      (asked, ⟨resultFor call spec "denied" "approval_denied"
        (if py.redact (strip reason) = "" then "The exact tool call was not approved."
          else py.redact (strip reason)), some request, false⟩)
    | .decided true _ =>
      runTool py parties call spec
        (.dict (updateWith entries (localToolConfirmations spec.name))) (some request) asked

/-- `AgentToolRegistry.execute`; the validation may raise. -/
def execute (call : AgentToolCall) (history : History) : History × Except String Execution :=
  match registry.resolve call.name with
  | none => (history, .ok ⟨⟨call.id, "unknown", "error", "unknown_tool",
      "The requested tool is not registered or visible.", "unknown"⟩, none, false⟩)
  | some spec =>
    match validateJsonArguments py spec.inputSchema call.arguments with
    | .error name => (history, .error name)
    | .ok (error :: errors) => (history, .ok ⟨resultFor call spec "error" "invalid_arguments"
        ("; ".intercalate ((error :: errors).take 8)), none, false⟩)
    | .ok [] =>
      match call.arguments with
      | .dict entries =>
        if containsNonFinite (.dict entries) then
          (history, .ok ⟨resultFor call spec "error" "invalid_arguments"
            "Tool arguments must contain only finite JSON numbers.", none, false⟩)
        else if containsSecretKey py (.dict entries) then
          (history, .ok ⟨resultFor call spec "error" "secret_argument_forbidden"
            "Credentials and secret-like fields cannot be supplied by the model.",
            none, false⟩)
        else
          match registry.policy.decision spec with
          | .deny => (history, .ok ⟨resultFor call spec "denied" "permission_denied"
              "Runtime policy denied this tool risk class.", none, false⟩)
          | .allow =>
            let ran := runTool py parties call spec (.dict entries) none history
            (ran.1, .ok ran.2)
          | .approvalRequired =>
            let ran := approveTool py parties call spec entries history
            (ran.1, .ok ran.2)
      | _ => (history, .error "TypeError")

end Execute

end LocalMoe.Agent
