/-
  `PlaywrightMcpBrowserProvider`: start, close, observe and execute.
-/
import LocalMoe.Browser.Page
import LocalMoe.Foundation.Effect

namespace LocalMoe.Browser

open Foundation Contracts

/-! ## Collaborators -/

/-- The answers to one call of a collaborator, whichever it is. -/
structure Replies where
  /-- `session.active`. -/
  sessionActive : Bool
  /-- `proxy.active`. -/
  proxyActive : Bool
  /-- The launcher is resolved and attested. -/
  attest : Except Raised Unit
  /-- The constructor of `_ExactOriginProxy`. -/
  proxy : Except Raised Unit
  proxyStart : Except Raised Unit
  /-- `TemporaryDirectory`. -/
  directory : Except Raised Unit
  /-- The empty `npmrc` and the environment of the launch. -/
  environment : Except Raised Unit
  /-- The session factory, and the start of its session. -/
  openSession : Except Raised Unit
  /-- The names and the schema digests of the upstream tools. -/
  listTools : Except Raised (List (String × String))
  /-- `secrets.token_hex`. -/
  token : String
  callTool : Except Raised CallResult
  /-- The text of a linked snapshot in the owned directory. -/
  snapshotFile : Except Raised String
  /-- `proxy.blocked_since_last_receipt`. -/
  blocked : Nat

structure Config where
  allowedHosts : List String
  toolSchemaSha256 : List (String × String)
  maxResultChars : Nat

/-- The configuration of a provider, and what its collaborators answer. -/
structure Environment where
  library : Library
  config : Config
  replies : Nat → Replies

/-! ## The provider -/

/-- A click or a text that is sent upstream. -/
structure Interaction where
  payload : List (String × Value)
  target : String
  label : String
  /-- The text of `type`. -/
  text : Option String

/-- What happened, in order. -/
inductive Event where
  | opened (session : Nat) (origin : BrowserOrigin)
  | closed (session : Nat)
  | navigated (url : String)
  /-- The snapshot before an interaction, with the page it is of. -/
  | fetched (url observation : String)
  | sent (interaction : Interaction)
  /-- An observation of some text was returned. -/
  | returned (observation : Observation) (text : String)

/-- The fields of a provider, with the sessions opened so far and what happened. -/
structure Cell where
  session : Option Nat
  proxy : Option BrowserOrigin
  outputDir : Bool
  revision : Nat
  currentUrl : String
  currentTargets : List (String × String)
  currentSnapshotSha256 : String
  origin : Option BrowserOrigin
  browserSessionId : String
  opened : Nat
  trace : List Event

/-- A provider, with the calls of collaborators made so far. -/
structure World where
  calls : Nat
  cell : Cell

/-- A new provider. -/
def World.init : World := ⟨0, ⟨none, none, false, 0, "", [], "", none, "", 0, []⟩⟩

/-- A computation of the provider. -/
abbrev Action (α : Type) : Type := Effect World Raised α

variable (E : Environment)

/-- Call a collaborator. -/
def ask {α : Type} (answer : Replies → Except Raised α) : Action α := fun w =>
  ({ w with calls := w.calls + 1 }, answer (E.replies w.calls))

/-- Read something of a collaborator. -/
def peek {α : Type} (answer : Replies → α) : Action α := ask E fun replies => .ok (answer replies)

/-- Change the provider. -/
def update (f : Cell → Cell) : Action Unit :=
  Effect.modify fun w => { w with cell := f w.cell }

def note (event : Event) : Action Unit :=
  update fun c => { c with trace := c.trace ++ [event] }

/-- The provider. -/
def self : Action Cell := do
  let w ← Effect.get
  return w.cell

/-- Raise a `ToolExecutionError`. -/
def refuse {α : Type} (message : String) : Action α := Effect.fail (.toolExecution message)

/-- Raise a `ToolExecutionError` unless something holds. -/
def require (condition : Prop) [Decidable condition] (message : String) : Action Unit :=
  if condition then pure () else refuse message

/-! ## Close -/

/-- The session of a closed provider was closed. -/
def Cell.endings (c : Cell) : List Event :=
  match c.session with
  | none => []
  | some session => [.closed session]

/-- The fields of a closed provider. -/
def Cell.close (c : Cell) : Cell where
  session := none
  proxy := none
  outputDir := false
  revision := 0
  currentUrl := ""
  currentTargets := []
  currentSnapshotSha256 := ""
  origin := none
  browserSessionId := ""
  opened := c.opened
  trace := c.trace ++ c.endings

/-- `close`, which ignores what its collaborators raise. -/
def close : Action Unit := update Cell.close

/-- A body whose failures close the provider. -/
def closing {α : Type} (x : Action α) : Action α :=
  x.handle fun raised => do
    close
    Effect.fail raised

/-! ## Requirements -/

def requireSession : Action Nat := do
  let c ← self
  match c.session with
  | none => refuse "Browser provider session is unavailable."
  | some session => do
    let active ← peek E Replies.sessionActive
    if active then pure session else refuse "Browser provider session is unavailable."

def requireProxy : Action BrowserOrigin := do
  let c ← self
  match c.proxy with
  | none => refuse "Browser egress guard is unavailable."
  | some proxy => do
    let active ← peek E Replies.proxyActive
    if active then pure proxy else refuse "Browser egress guard is unavailable."

def requireOrigin : Action BrowserOrigin := do
  let c ← self
  match c.origin with
  | none => refuse "Browser exact origin is unavailable."
  | some origin => pure origin

def requireHealthyState : Action Unit := do
  let _ ← requireSession E
  let _ ← requireProxy E
  let _ ← requireOrigin
  let c ← self
  require (c.browserSessionId ≠ "" ∧ c.currentUrl ≠ "" ∧ c.currentSnapshotSha256 ≠ "" ∧
    1 ≤ c.revision) "Browser state is unavailable; navigate again."

/-! ## Start -/

/-- `sorted(PLAYWRIGHT_TOOLS.values())`. -/
def requiredTools : List String :=
  ["browser_click", "browser_navigate", "browser_snapshot", "browser_type"]

def listed (names : List String) : String :=
  "[" ++ ", ".intercalate (names.map fun name => "'" ++ name ++ "'") ++ "]"

/-- The schemas are the configured ones; `dict` keeps the last tool of a name. -/
def schemasMatch (expected tools : List (String × String)) : Except Raised Unit :=
  requiredTools.forM fun name =>
    if tools.reverse.lookup name = expected.lookup name then .ok ()
    else .error (.toolExecution
      ("Browser provider schema drift detected for " ++ name ++ "."))

def verifyUpstreamTools : Action Unit := do
  let tools ← ask E Replies.listTools
  let missing := requiredTools.filter fun name => (tools.lookup name).isNone
  require (missing = []) ("Browser provider is missing required tools: " ++ listed missing)
  Effect.ofExcept (schemasMatch E.config.toolSchemaSha256 tools)

/-- The provider is running. -/
def isHealthy : Action Bool := do
  let c ← self
  if c.session.isNone then pure false
  else do
    let active ← peek E Replies.sessionActive
    if active = false ∨ c.proxy.isNone then pure false
    else do
      let active ← peek E Replies.proxyActive
      pure (active && c.outputDir && c.origin.isSome && c.browserSessionId != "")

/-- What is left of a run is closed, but its origin stays. -/
def restart : Action Unit := do
  let c ← self
  if c.session.isSome ∨ c.proxy.isSome ∨ c.outputDir = true then do
    close
    update fun closed => { closed with origin := c.origin }
  else pure ()

/-- The session is opened, and its tools are checked. -/
def openSession (origin : BrowserOrigin) : Action Unit := do
  ask E Replies.openSession
  update fun c => { c with
    session := some c.opened
    opened := c.opened + 1
    trace := c.trace ++ [.opened c.opened origin] }
  verifyUpstreamTools E
  let token ← peek E Replies.token
  update fun c => { c with browserSessionId := token }

/-- The launch of a provider that is not running. -/
def launch : Action Unit := do
  let c ← self
  match c.origin with
  | none => refuse "Browser provider requires an approved exact origin before launch."
  | some origin => do
    ask E Replies.attest
    ask E Replies.proxy
    update fun c => { c with proxy := some origin }
    ask E Replies.proxyStart
    ask E Replies.directory
    update fun c => { c with outputDir := true }
    ask E Replies.environment
    closing (openSession E origin)

def start : Action Unit := do
  let healthy ← isHealthy E
  if healthy then pure ()
  else do
    restart
    launch E

/-! ## Observations -/

def callUpstream (event : Option Event) : Action CallResult := do
  let _ ← requireSession E
  (match event with
    | none => pure ()
    | some event => note event : Action Unit)
  let result ← (ask E Replies.callTool).handle fun raised =>
    match raised with
    | .mcpClient message => refuse ("Browser provider call failed: " ++ message)
    | raised => Effect.fail raised
  if result.isError then refuse "Browser provider reported an action error." else pure result

/-- `_browser_observation_text`, with the owned directory. -/
def browserObservationText (result : CallResult) : Action String := do
  let c ← self
  let observation := resultText result
  require (observation ≠ "") "Browser provider returned no textual observation."
  match findallIn snapshotLinkAt observation with
  | [] => pure observation
  | [link] => do
    require (c.outputDir = true) "Browser provider returned an invalid snapshot reference."
    let snapshot ← ask E Replies.snapshotFile
    pure (observation.replace ("[Snapshot](" ++ link ++ ")") (strip snapshot))
  | _ => refuse "Browser provider returned an invalid snapshot reference."

def parseObservation (result : CallResult) : Action (String × String) := do
  let observation ← browserObservationText E result
  let origin ← requireOrigin
  let currentUrl ← Effect.ofExcept
    (validatedPageUrl E.library E.config.allowedHosts origin observation)
  pure (observation, currentUrl)

def commitObservation (result : CallResult) : Action Observation := do
  let (observation, currentUrl) ← parseObservation E result
  let _ ← requireProxy E
  update fun c => { c with currentUrl := currentUrl, revision := c.revision + 1 }
  let c ← self
  let origin ← requireOrigin
  let blocked ← peek E Replies.blocked
  let payloadResult ← Effect.ofExcept (observationPayload E.library observation currentUrl
    origin.canonical c.browserSessionId c.revision E.config.maxResultChars blocked)
  let targets ← Effect.ofExcept (snapshotTargets payloadResult.snapshot)
  update fun c => { c with
    currentTargets := targets
    currentSnapshotSha256 := payloadResult.snapshotSha256 }
  note (.returned payloadResult observation)
  pure payloadResult

def observeCurrent : Action Observation := do
  let result ← callUpstream E none
  commitObservation E result

def observe : Action Observation := do
  requireHealthyState E
  closing (observeCurrent E)

/-! ## Execute -/

def validateRevision (c : Cell) (payload : List (String × Value)) : Prop :=
  ∃ revision, Value.field "revision" payload = some (.int revision) ∧ revision = c.revision ∧
    1 ≤ revision

instance (c : Cell) (payload : List (String × Value)) : Decidable (validateRevision c payload) :=
  match h : Value.field "revision" payload with
  | some (.int revision) =>
    decidable_of_iff (revision = c.revision ∧ 1 ≤ revision)
      (by simp [validateRevision, h]; omega)
  | none => isFalse (by simp [validateRevision, h])
  | some .none => isFalse (by simp [validateRevision, h])
  | some (.bool _) => isFalse (by simp [validateRevision, h])
  | some (.float _) => isFalse (by simp [validateRevision, h])
  | some .nonFinite => isFalse (by simp [validateRevision, h])
  | some (.str _) => isFalse (by simp [validateRevision, h])
  | some (.list _) => isFalse (by simp [validateRevision, h])
  | some (.dict _) => isFalse (by simp [validateRevision, h])

def HasText (key text : String) (payload : List (String × Value)) : Prop :=
  Value.field key payload = some (.str text)

instance (key text : String) (payload : List (String × Value)) :
    Decidable (HasText key text payload) :=
  match h : Value.field key payload with
  | some (.str other) => decidable_of_iff (other = text) (by simp [HasText, h])
  | none => isFalse (by simp [HasText, h])
  | some .none => isFalse (by simp [HasText, h])
  | some (.bool _) => isFalse (by simp [HasText, h])
  | some (.int _) => isFalse (by simp [HasText, h])
  | some (.float _) => isFalse (by simp [HasText, h])
  | some .nonFinite => isFalse (by simp [HasText, h])
  | some (.list _) => isFalse (by simp [HasText, h])
  | some (.dict _) => isFalse (by simp [HasText, h])

def validateStateBinding (payload : List (String × Value)) : Action Unit := do
  let c ← self
  require (validateRevision c payload)
    "Browser interaction rejected because its snapshot revision is stale."
  require (HasText "browser_session_id" c.browserSessionId payload)
    "Browser session binding is stale."
  let origin ← requireOrigin
  require (HasText "origin" origin.canonical payload) "Browser origin binding is stale."
  require (HasText "snapshot_sha256" c.currentSnapshotSha256 payload)
    "Browser snapshot binding is stale."

def preflightInteraction (target targetDescription : String) : Action Unit := do
  let result ← callUpstream E none
  let (observation, currentUrl) ← parseObservation E result
  note (.fetched currentUrl observation)
  let targets ← Effect.ofExcept (snapshotTargets (rendered E.config.maxResultChars observation))
  let snapshotSha256 ← Effect.ofExcept (E.library.sha256 observation)
  let c ← self
  require (currentUrl = c.currentUrl ∧ snapshotSha256 = c.currentSnapshotSha256 ∧
      targets.lookup target = some targetDescription)
    "Browser state changed after approval; observe and approve the new state."

def typeText (payload : List (String × Value)) : Option String :=
  match Value.field "text" payload with
  | some (.str text) => if 1 ≤ text.length ∧ text.length ≤ 2000 then some text else none
  | _ => none

/-- The navigation of `execute`. -/
def navigate (payload : List (String × Value)) : Action Observation := do
  let url := strip (E.library.text "url" payload)
  let requestedOrigin ← Effect.ofExcept
    (parseLocalOrigin E.library E.config.allowedHosts url)
  let c ← self
  (if c.origin ≠ none ∧ c.origin ≠ some requestedOrigin then close else pure () : Action Unit)
  update fun c => { c with origin := some requestedOrigin }
  start E
  let result ← callUpstream E (some (.navigated url))
  commitObservation E result

/-- The click or the text of `execute`. -/
def interact (action : String) (payload : List (String × Value)) : Action Observation := do
  let target := strip (E.library.text "target" payload)
  require (isReference target.toList = true) "Browser target must be a current snapshot reference."
  let c ← self
  match c.currentTargets.lookup target with
  | none => refuse "Browser target is not present in the current delivered snapshot."
  | some targetDescription => do
    require (HasText "target_label" targetDescription payload)
      "Browser target label does not match the approved snapshot."
    preflightInteraction E target targetDescription
    let text := typeText payload
    require (action = "type" → text.isSome)
      "Browser type text must contain 1-2000 characters."
    let _ ← callUpstream E (some (.sent ⟨payload, target, targetDescription,
      if action = "type" then text else none⟩))
    observeCurrent E

def executeBody (action : String) (payload : List (String × Value)) : Action Observation :=
  if action = "navigate" then navigate E payload
  else do
    requireHealthyState E
    validateStateBinding payload
    if action = "observe" then observeCurrent E
    else do
      require (action = "click" ∨ action = "type") ("Unsupported browser action: " ++ action)
      interact E action payload

def execute (action : String) (payload : List (String × Value)) : Action Observation :=
  closing (executeBody E action payload)

end LocalMoe.Browser
