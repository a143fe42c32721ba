/-
  `providers.py`: one call of an expert.

  What the transport does is one `Exchange`; the provider turns it into a result or an
  exception.
-/
import LocalMoe.Contracts.Value
import LocalMoe.Contracts.VerifiedRouting

namespace LocalMoe.Experts

open Contracts

/-! ## Exceptions -/

/-- The exceptions, by how they are caught. -/
inductive Exc where
  /-- `ProviderError`. -/
  | provider (message : String)
  /-- `ScopePolicyError`. -/
  | scopePolicy (detail : String)
  /-- Any other class. -/
  | other (name : String)
  deriving DecidableEq, Repr

/-- What a failing transport raises. -/
inductive Failure where
  /-- `URLError` or one of its classes: `HTTPError`, `HttpBoundaryError`. -/
  | url (message : String)
  /-- Any other class: a timeout, a reset, an incomplete read. -/
  | other (name : String)
  deriving DecidableEq, Repr

/-- The bytes of a body, as far as the provider looks at them. -/
inductive Body where
  | tooLong
  | notUtf8 (message : String)
  | notJson
  /-- `RecursionError`: the arrays and objects are nested too deeply. -/
  | tooDeep
  | json (value : Value)

/-- What the transport does with a request. -/
inductive Exchange where
  /-- `Request` refuses the URL. -/
  | refused
  /-- Opening it fails. -/
  | opening (failure : Failure)
  /-- Reading the body fails. -/
  | reading (failure : Failure)
  | read (body : Body)

/-! ## Experts -/

inductive ProviderKind where
  | synthetic | openaiCompatible
  deriving DecidableEq, Repr

inductive ExecutionScope where
  | deviceOnly | privateMesh | publicMesh | paidRemote
  deriving DecidableEq, Repr

inductive ExecutionTransport where
  | directLocal | meshLlm | gateway
  deriving DecidableEq, Repr

structure ExecutionDeclaration where
  scope : Option ExecutionScope
  transport : Option ExecutionTransport
  deriving DecidableEq, Repr

/-- `ExpertConfig`, as far as a call reads it. -/
structure ExpertConfig where
  id : String
  provider : ProviderKind
  model : String
  role : String
  baseUrl : Option String
  params : List (String × Value)
  execution : ExecutionDeclaration

structure GenerationRequest where
  prompt : String
  correlationId : String

structure ExpertResult where
  expertId : String
  model : String
  content : String
  correlationId : String
  promptTokens : Option Int
  completionTokens : Option Int
  predictedTokensPerSecond : Option ℚ
  finishReason : Option String
  deriving DecidableEq

/-! ## The request -/

def providerOwnedParams : List String :=
  ["api_key", "authorization", "base_url", "endpoint", "function_call", "functions", "headers",
    "messages", "method", "model", "stream", "tool_choice", "tools", "url"]

def validateProviderRequestParams (expert : ExpertConfig) : Except Exc Unit :=
  match providerOwnedParams.filter fun key => (expert.params.map Prod.fst).contains key with
  | [] => .ok ()
  | reserved => .error (.provider ("Expert params cannot override provider-owned request fields: " ++
      ", ".intercalate reserved ++ "."))

def defaultSystemPrompt : String :=
  "You are a local expert in a system-level MoE. " ++
    "Return useful, direct answers. Respond in the user's language " ++
    "unless they explicitly ask for another language. Preserve " ++ "correlation context."

def systemPrompt (expert : ExpertConfig) : Except Exc String :=
  match Value.field "system_prompt" expert.params with
  | none | some .none => .ok defaultSystemPrompt
  | some (.str raw) =>
    if strip raw = "" then
      .error (.provider s!"Expert {expert.id} system_prompt must be a non-empty string.")
    else .ok (strip raw)
  | some _ => .error (.provider s!"Expert {expert.id} system_prompt must be a non-empty string.")

def chatUrl (baseUrl : String) : String :=
  String.ofList ((baseUrl.toList.reverse.dropWhile (· == '/')).reverse) ++ "/chat/completions"

/-- `_chat_request`: the URL and the system prompt. -/
def chatRequest (expert : ExpertConfig) (baseUrl : String) : Except Exc (String × String) := do
  validateProviderRequestParams expert
  let prompt ← systemPrompt expert
  pure (chatUrl baseUrl, prompt)

/-! ## The response -/

/-- `parsed["choices"][0]`, where it is a mapping. -/
def firstChoice : Value → Option (List (String × Value))
  | .dict entries =>
    match Value.field "choices" entries with
    | some (.list (.dict choice :: _)) => some choice
    | _ => none
  | _ => none

/-- `parsed["choices"][0]["message"]["content"]`. -/
def messageContent (parsed : Value) : Option Value := do
  let choice ← firstChoice parsed
  match Value.field "message" choice with
  | some (.dict message) => Value.field "content" message
  | _ => none

/-- A mapping under a key. -/
def section_ (key : String) : Value → List (String × Value)
  | .dict entries =>
    match Value.field key entries with
    | some (.dict raw) => raw
    | _ => []
  | _ => []

def maybeInt (raw : List (String × Value)) (key : String) : Option Int :=
  match Value.field key raw with
  | some (.int n) => if n < 0 then none else some n
  | _ => none

/-- `_maybe_float`: `math.isfinite` raises on an integer that no float can hold. -/
def maybeFloat (raw : List (String × Value)) (key : String) : Except Exc (Option ℚ) :=
  match Value.field key raw with
  | some (.int n) =>
    if overflows n then .error (.other "OverflowError")
    else .ok (if n < 0 then none else some n)
  | some (.float x) => .ok (if x < 0 then none else some x)
  | _ => .ok none

/-- `str.lower` on ASCII. -/
def lower (s : String) : String := s.map Char.toLower

def finishReason (parsed : Value) : Option String := do
  let choice ← firstChoice parsed
  match Value.field "finish_reason" choice with
  | some (.str raw) => if strip raw = "" then none else some (lower (strip raw))
  | _ => none

/-- What is made of the JSON of a response; `stripped` is `strip_reasoning_content`. -/
def readResult (stripped : String → String) (expert : ExpertConfig) (req : GenerationRequest)
    (parsed : Value) : Except Exc ExpertResult :=
  match messageContent parsed with
  | none => .error (.provider s!"Expert {expert.id} returned invalid payload.")
  | some (.str content) => do
    let rate ← maybeFloat (section_ "timings" parsed) "predicted_per_second"
    pure ⟨expert.id, expert.model, stripped content, req.correlationId,
      maybeInt (section_ "usage" parsed) "prompt_tokens",
      maybeInt (section_ "usage" parsed) "completion_tokens", rate, finishReason parsed⟩
  | some _ => .error (.provider s!"Expert {expert.id} returned non-text content.")

def generateOpenAi (stripped : String → String) (expert : ExpertConfig) (req : GenerationRequest)
    (exchange : Exchange) : Except Exc ExpertResult :=
  match expert.baseUrl with
  | none | some "" => .error (.provider s!"Expert {expert.id} has no base_url.")
  | some baseUrl => do
    let _ ← chatRequest expert baseUrl
    match exchange with
    | .refused => .error (.other "ValueError")
    | .opening (.url message) | .reading (.url message) | .read (.notUtf8 message) =>
      .error (.provider s!"Expert {expert.id} request failed: {message}")
    | .opening (.other name) | .reading (.other name) => .error (.other name)
    | .read .tooLong => .error (.provider "Provider response exceeded the byte limit.")
    | .read .notJson => .error (.provider s!"Expert {expert.id} returned invalid JSON.")
    | .read .tooDeep => .error (.other "RecursionError")
    | .read (.json parsed) => readResult stripped expert req parsed

def generateSynthetic (expert : ExpertConfig) (req : GenerationRequest) : ExpertResult :=
  ⟨expert.id, expert.model,
    s!"[{expert.role}:{expert.model}] handled correlation_id={req.correlationId}; " ++
      s!"prompt_chars={req.prompt.length}", req.correlationId, none, none, none, none⟩

def generate (stripped : String → String) (expert : ExpertConfig) (req : GenerationRequest)
    (exchange : Exchange) : Except Exc ExpertResult :=
  match expert.provider with
  | .synthetic => .ok (generateSynthetic expert req)
  | .openaiCompatible => generateOpenAi stripped expert req exchange

/-! ## What is translated -/

/-- A failure of the exchange that the provider turns into its own error. -/
def Exchange.Translated : Exchange → Prop
  | .refused | .opening (.other _) | .reading (.other _) | .read .tooDeep => False
  | .read (.json parsed) =>
    ∀ n, Value.field "predicted_per_second" (section_ "timings" parsed) = some (.int n) →
      overflows n = false
  | .opening (.url _) | .reading (.url _) | .read _ => True

theorem maybeFloat_ok {raw : List (String × Value)} {key : String}
    (h : ∀ n, Value.field key raw = some (.int n) → overflows n = false) :
    ∃ rate, maybeFloat raw key = .ok rate := by
  unfold maybeFloat
  split
  · next n hfield =>
    rw [h n hfield, if_neg Bool.false_ne_true]
    exact ⟨_, rfl⟩
  · exact ⟨_, rfl⟩
  · exact ⟨_, rfl⟩

theorem chatRequest_error {expert : ExpertConfig} {baseUrl : String} {e : Exc}
    (h : chatRequest expert baseUrl = .error e) : ∃ message, e = .provider message := by
  unfold chatRequest validateProviderRequestParams systemPrompt at h
  split at h
  · split at h <;> first | (split at h) | skip
    all_goals first | cases h; exact ⟨_, rfl⟩ | cases h
  · cases h
    exact ⟨_, rfl⟩

end LocalMoe.Experts
