/-
  `OpenAIGatewayService.prepare_chat_completion`.

  The configuration is read from texts without surrogates; the request is not.
-/
import LocalMoe.Gateway.Authorize
import LocalMoe.Experts.Router

namespace LocalMoe.Gateway

open Contracts Experts

/-! ## The gateway -/

/-- `OpenAIGatewayService`, with what its router and its guard are told. -/
structure Service where
  library : Library
  policy : GatewayPolicy
  config : MoEConfig
  isLoopbackEndpoint : Option String → Bool
  attestRoute : Attestor
  attestCall : Attestor
  /-- How the router ranks experts for a text. -/
  rank : Text → List String → List String

variable (S : Service)

def Service.experts : List ExpertConfig :=
  S.config.experts.filter fun expert => expert.provider = .openaiCompatible

def Service.expertById (id : String) : Option ExpertConfig :=
  S.experts.find? fun expert => expert.id = id

def gatewayRequestError (message : String) (code : String) (parameter : Option String)
    (status : Nat) : Raised :=
  .gatewayRequest (text message) code parameter status

def refuseIf (condition : Prop) [Decidable condition] (e : Raised) : Except Raised Unit :=
  if condition then .error e else .ok ()

/-- `GatewayRequestError` about a parameter. -/
def invalidRequest {α : Type} (message parameter : String) : Except Raised α :=
  .error (gatewayRequestError message "invalid_request" (some parameter) 400)

/-! ## Checks -/

/-- Something is nested deeper than so many levels. -/
def exceedsDepth : Nat → Item → Bool
  | 0, .list items => !items.isEmpty
  | 0, .dict entries => !entries.isEmpty
  | depth + 1, .list items => items.any (exceedsDepth depth)
  | depth + 1, .dict entries => entries.any fun entry => exceedsDepth depth entry.2
  | _, _ => false

def validateJsonDepth (payload : Item) : Except Raised Unit :=
  if exceedsDepth 64 payload then
    .error (gatewayRequestError "The request JSON exceeds the maximum depth of 64."
      "invalid_json" none 400)
  else .ok ()

def canonicalJsonBytes (payload : Item) : Except Raised (List UInt8) :=
  match S.library.dumps payload with
  | none => .error (gatewayRequestError "The request must contain finite JSON-compatible values."
      "invalid_json" none 400)
  | some body => .ok body

def requireSize (body : List UInt8) (message : String) : Except Raised Unit :=
  if S.policy.maxRequestBytes < body.length then
    .error (gatewayRequestError message "request_too_large" none 413)
  else .ok ()

def contentUrlFields : List String := ["audio_url", "file_url", "image_url", "video_url"]

def urlContentTypes : List String :=
  ["audio_url", "file_url", "image_url", "input_audio", "input_file", "input_image",
    "input_video", "video_url"]

def contentUrl (part : List (JsonText × Item)) (field : String) : Option Text :=
  match Item.field field part with
  | some (.str raw) => some raw.chars
  | some (.dict raw) =>
    match Item.field "url" raw with
    | some (.str nested) => some nested.chars
    | _ => none
  | _ => none

local instance lawfulText : LawfulBEq (List Nat) := inferInstance

def contentUrls (part : List (JsonText × Item)) : List Text :=
  let partType := S.library.lower (strip (S.library.textOf "type" [] part))
  contentUrlFields.filterMap (contentUrl part) ++
    (match Item.field "url" part with
    | some (.str url) => if partType ∈ urlContentTypes.map text then [url.chars] else []
    | _ => [])

def validateContentUrl (url : Text) : Except Raised Unit :=
  match S.library.urlsplit (strip url) with
  | none => .error (gatewayRequestError "Message content contains an invalid URL."
      "unsafe_content_url" (some "messages") 400)
  | some parsed =>
    if S.library.lower parsed.scheme ≠ text "data" then
      .error (gatewayRequestError "Only inline data: URLs are allowed in message content."
        "unsafe_content_url" (some "messages") 400)
    else .ok ()

def contentParts (message : List (JsonText × Item)) : List Item :=
  match Item.field "content" message with
  | some (.list items) => items
  | some (.dict part) => [.dict part]
  | _ => []

def validateMessageContentUrls (messages : List (List (JsonText × Item))) :
    Except Raised Unit :=
  messages.forM fun message => (contentParts message).forM fun
    | .dict part => (contentUrls S part).forM (validateContentUrl S)
    | _ => .ok ()

/-- The entries of a value that is a dictionary. -/
def asDict : Item → Option (List (JsonText × Item))
  | .dict entries => some entries
  | _ => none

def requireMessages (payload : List (JsonText × Item)) :
    Except Raised (List (List (JsonText × Item))) :=
  match Item.field "messages" payload with
  | some (.list (first :: rest)) =>
    if 4096 < (first :: rest).length then
      invalidRequest "messages must contain at most 4096 message objects." "messages"
    else
      match (first :: rest).mapM asDict with
      | none => invalidRequest "messages must contain at most 4096 message objects." "messages"
      | some messages => .ok messages
  | _ => invalidRequest "messages must be a non-empty array." "messages"

def requireStream (payload : List (JsonText × Item)) : Except Raised Bool :=
  match Item.field "stream" payload with
  | none => .ok false
  | some (.bool stream) => .ok stream
  | some _ => invalidRequest "stream must be boolean." "stream"

def requireTools (payload : List (JsonText × Item)) : Except Raised Unit :=
  match Item.field "tools" payload with
  | none => .ok ()
  | some .null => .ok ()
  | some (.list items) =>
    if 256 < items.length ∨ ¬ (items.all fun item => (asDict item).isSome) = true then
      invalidRequest "tools must contain at most 256 tool definition objects." "tools"
    else .ok ()
  | some _ => invalidRequest "tools must contain at most 256 tool definition objects." "tools"

/-! ## Routing -/

def partText : Item → Option Text
  | .dict part =>
    match Item.field "text" part with
    | some (.str raw) => if strip raw.chars = [] then none else some (strip raw.chars)
    | _ => none
  | _ => none

def messageContentText : Option Item → Text
  | some (.str content) => strip content.chars
  | some (.list parts) => [10].intercalate (parts.filterMap partText)
  | _ => []

def routingText (messages : List (List (JsonText × Item))) : Text :=
  let userTexts := (messages.filter fun message =>
    S.library.lower (strip (S.library.textOf "role" [] message)) = text "user").filterMap
      fun message =>
        let content := messageContentText (Item.field "content" message)
        if content = [] then none else some content
  ((userTexts.head?).getD (text "local coding task")).take 64000

def selectExpert (requestedModel routing : Text) :
    Except Raised (ExpertConfig × List String) :=
  let modelAlias := text S.policy.modelAlias
  let unavailable (message : String) : Except Raised (ExpertConfig × List String) :=
    .error (gatewayRequestError message "model_unavailable" (some "model") 503)
  if requestedModel = modelAlias then
    if S.experts = [] then unavailable "No OpenAI-compatible local expert is configured."
    else
      match route S.isLoopbackEndpoint S.config S.attestRoute (S.rank routing) with
      | .error (.scopePolicy detail) => .error (.scopePolicy detail)
      | .error _ => .error .valueError
      | .ok decision =>
        match decision.selected.findSome? S.expertById with
        | none => unavailable "The route selected no OpenAI-compatible local expert."
        | some expert => .ok (expert, decision.selected)
  else
    match S.experts.find? fun expert =>
        requestedModel = modelAlias ++ text "/" ++ text expert.id with
    | some expert => .ok (expert, [expert.id])
    | none =>
      match S.experts.filter fun expert => requestedModel = text expert.model with
      | [expert] => .ok (expert, [expert.id])
      | _ => .error (.gatewayRequest (text "Unknown local model alias: " ++ requestedModel)
          "model_not_found" (some "model") 404)

/-! ## Defaults -/

mutual
def ofValue : Value → Item
  | .none => .null
  | .bool value => .bool value
  | .int value => .int value
  | .float value => .float value
  | .nonFinite => .nonFinite
  | .str value => .str (JsonText.ofString value)
  | .list items => .list (ofValues items)
  | .dict entries => .dict (ofEntries entries)
def ofValues : List Value → List Item
  | [] => []
  | value :: rest => ofValue value :: ofValues rest
def ofEntries : List (String × Value) → List (JsonText × Item)
  | [] => []
  | (key, value) :: rest => (JsonText.ofString key, ofValue value) :: ofEntries rest
end

def localProviderParams : List String :=
  ["decode_concurrency", "prefill_step_size", "prompt_cache_bytes", "prompt_cache_size",
    "prompt_concurrency", "runtime_backend", "local_cascade_terminal_finish_reasons",
    "supports_thinking", "thinking_policy", "system_prompt"]

def supportsThinking (params : List (JsonText × Item)) : Bool :=
  match Item.field "supports_thinking" params with
  | some (.bool raw) => raw
  | some (.str raw) =>
    S.library.lower (strip raw.chars) ∈ ["1", "true", "yes", "on"].map text
  | _ => false

def containsText (t : Text) (marker : String) : Bool := decide (text marker <:+: t)

def promptNeedsThinking (prompt : Text) : Bool :=
  let normalized := S.library.lower prompt
  if ["summarize", "translate", "rewrite", "shorten", "format", "fix grammar"].any
      (containsText normalized) then false
  else ["security", "threat", "formal proof", "prove that", "security review",
    "threat model"].any (containsText normalized)

/-- `provider_request_params`; none when `dict` raises. -/
def providerRequestParams (expert : ExpertConfig) (prompt : Text) :
    Option (List (JsonText × Item)) :=
  let all := ofEntries expert.params
  let params := all.filter fun entry => entry.1 ∉ localProviderParams.map JsonText.ofString
  if supportsThinking S all = false then some params
  else do
    let policy := S.library.lower (strip (S.library.textOf "thinking_policy" (text "off") all))
    let enableThinking :=
      if policy ∈ ["on", "always", "true", "1"].map text then true
      else if policy = text "auto" then promptNeedsThinking S prompt
      else false
    let key := JsonText.ofString "chat_template_kwargs"
    let chatTemplateKwargs ← S.library.dict ((Item.get key params).getD (.dict []))
    some (Item.set key (.dict (Item.set (JsonText.ofString "enable_thinking")
      (.bool enableThinking) chatTemplateKwargs)) params)

/-- The fields that no default replaces. -/
def reservedFields : List JsonText :=
  ["model", "messages", "tools", "tool_choice", "parallel_tool_calls", "stream",
    "stream_options"].map JsonText.ofString

/-- The loop over the defaults. -/
def addDefaults (defaults payload : List (JsonText × Item)) : List (JsonText × Item) :=
  defaults.foldl (fun payload entry =>
    if entry.1 ∉ reservedFields ∧ Item.get entry.1 payload = none then
      Item.set entry.1 entry.2 payload
    else payload) payload

/-! ## The request -/

structure PreparedChatCompletion where
  requestedModel : Text
  expert : ExpertConfig
  url : String
  body : List UInt8
  correlationId : Text
  requestSha256 : String
  routingSha256 : String
  stream : Bool
  routeSelected : List String

/-- What the checks of a request leave. -/
structure Admitted where
  canonical : List UInt8
  messages : List (List (JsonText × Item))
  stream : Bool
  requestedModel : Text

/-- The checks of a request. -/
def screenPayload (payload : List (JsonText × Item)) : Except Raised Admitted := do
  refuseIf (S.policy.enabled = false)
    (gatewayRequestError "The local gateway is disabled." "gateway_disabled" none 404)
  validateJsonDepth (.dict payload)
  let canonical ← canonicalJsonBytes S (.dict payload)
  requireSize S canonical "The request body exceeds the configured gateway limit."
  let messages ← requireMessages payload
  validateMessageContentUrls S messages
  let stream ← requireStream payload
  requireTools payload
  let requestedModel := strip (S.library.textOf "model" (text S.policy.modelAlias) payload)
  refuseIf (requestedModel = [] ∨ 256 < requestedModel.length)
    (gatewayRequestError "model must contain between 1 and 256 characters." "invalid_request"
      (some "model") 400)
  pure ⟨canonical, messages, stream, requestedModel⟩

/-- The expert of a request, which the guard allows, the selected ids and the base URL. -/
def chooseExpert (requestedModel routing : Text) :
    Except Raised (ExpertConfig × List String × String) := do
  let (expert, selectedIds) ← selectExpert S requestedModel routing
  match requireAllowed S.isLoopbackEndpoint S.config.policy S.attestCall expert.executionTarget with
  | .error (.scopePolicy detail) => .error (.scopePolicy detail)
  | .error _ => .error .valueError
  | .ok _ =>
    match expert.baseUrl with
    | none | some "" => .error (gatewayRequestError ("Expert " ++ expert.id ++
        " has no OpenAI-compatible base URL.") "model_unavailable" (some "model") 503)
    | some baseUrl => .ok (expert, selectedIds, baseUrl)

def upstreamBody (expert : ExpertConfig) (canonical : List UInt8)
    (defaults : List (JsonText × Item)) : Except Raised (List UInt8) := do
  let upstream := match S.library.loads canonical with
    | .dict entries => addDefaults defaults
        (Item.set (JsonText.ofString "model") (.str (JsonText.ofString expert.model)) entries)
    | _ => []
  let body ← canonicalJsonBytes S (.dict upstream)
  requireSize S body "The provider-ready request exceeds the configured gateway limit."
  pure body

/-- `[A-Za-z0-9][A-Za-z0-9._:-]{0,127}`. -/
def isSafeCorrelationId : Text → Bool
  | [] => false
  | first :: rest =>
    let isAlnum (code : Nat) : Bool :=
      (48 ≤ code && code ≤ 57) || (65 ≤ code && code ≤ 90) || (97 ≤ code && code ≤ 122)
    isAlnum first && rest.length ≤ 127 &&
      rest.all fun code => isAlnum code || (text "._:-").contains code

def correlationId (value : Text) : Text :=
  let cleaned := [32].intercalate ((value.splitOnP isSpace).filter (· ≠ []))
  if isSafeCorrelationId cleaned then cleaned else S.library.uuid

def buildRequest (admitted : Admitted) (correlation : Text)
    (chosen : ExpertConfig × List String × String) : Except Raised PreparedChatCompletion :=
  let (expert, selectedIds, baseUrl) := chosen
  let routing := routingText S admitted.messages
  match providerRequestParams S expert routing with
  | none => .error .typeError
  | some defaults =>
    match upstreamBody S expert admitted.canonical defaults with
    | .error e => .error e
    | .ok body =>
      if S.library.refusesUrl (chatUrl baseUrl) = true then .error .valueError
      else if encodable routing = false then .error .unicodeEncodeError
      else .ok {
        requestedModel := admitted.requestedModel
        expert := expert
        url := chatUrl baseUrl
        body := body
        correlationId := correlationId S correlation
        requestSha256 := S.library.sha256 admitted.canonical
        routingSha256 := S.library.sha256Text routing
        stream := admitted.stream
        routeSelected := selectedIds }

def prepareChatCompletion (payload : List (JsonText × Item)) (correlation : Text) :
    Except Raised PreparedChatCompletion := do
  let admitted ← screenPayload S payload
  let chosen ← chooseExpert S admitted.requestedModel (routingText S admitted.messages)
  buildRequest S admitted correlation chosen

end LocalMoe.Gateway
