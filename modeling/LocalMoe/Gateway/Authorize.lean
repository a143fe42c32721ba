/-
  `OpenAIGatewayService.authorize`, and when it reaches a decision.
-/
import LocalMoe.Gateway.Text

namespace LocalMoe.Gateway

/-! ## Exceptions and policies -/

/-- What the gateway can raise. -/
inductive Raised where
  /-- `GatewayRequestError`. -/
  | gatewayRequest (message : Text) (code : String) (parameter : Option String) (status : Nat)
  /-- `ScopePolicyError`. -/
  | scopePolicy (detail : String)
  | typeError
  | valueError
  | unicodeEncodeError
  deriving DecidableEq, Repr

/-- The exceptions that `prepare_chat_completion` may raise. -/
def Raised.isExpected : Raised → Bool
  | .gatewayRequest .. => true
  | .scopePolicy _ => true
  | _ => false

structure GatewayPolicy where
  enabled : Bool
  modelAlias : String
  maxRequestBytes : Nat
  allowNonLoopback : Bool
  /-- `api_key_env`, with what the environment has under it. -/
  apiKeyEnv : String
  apiKey : Text

structure GatewayAuthorization where
  allowed : Bool
  code : String
  message : String
  deriving DecidableEq, Repr

variable (L : Library)

/-! ## Hosts and tokens -/

def isLoopbackHost (host : Text) : Bool :=
  let normalized := L.lower (rstripOf (· == '.'.toNat) (strip host))
  if normalized = text "localhost" then true
  else
    match L.ipAddress normalized with
    | none => false
    | some address => address.isLoopback || address.mappedLoopback

def headerHost (value : Option Text) : Text :=
  let raw := strip (value.getD [])
  if raw = [] then []
  else
    match L.urlsplit (text "//" ++ raw) with
    | none => []
    | some parsed => parsed.hostname.getD []

def originHost (value : Text) : Text :=
  match L.urlsplit (strip value) with
  | none => []
  | some parsed =>
    if parsed.scheme ≠ text "http" ∧ parsed.scheme ≠ text "https" then []
    else parsed.hostname.getD []

def bearerToken (header : Option Text) : Text :=
  let raw := strip (header.getD [])
  if (text "bearer ").isPrefixOf (L.lower raw) then strip (raw.drop (text "bearer ").length)
  else []

/-- `hmac.compare_digest` of strings. -/
def compareDigest (a b : Text) : Except Raised Bool :=
  if isAscii a = true ∧ isAscii b = true then .ok (decide (a = b)) else .error .typeError

/-! ## The decision -/

/-- What `authorize` is called with. -/
structure Headers where
  clientHost : Text
  authorization : Option Text
  host : Option Text
  origin : Option Text

/-- The part of `authorize` that looks at the key. -/
def authorizeKey (policy : GatewayPolicy) (token : Text) : Except Raised GatewayAuthorization :=
  if policy.apiKeyEnv = "" then .ok ⟨true, "allowed", "Gateway access allowed."⟩
  else if policy.apiKey = [] then
    .ok ⟨false, "gateway_key_unavailable", "The configured gateway key is unavailable."⟩
  else if token = [] then
    .ok ⟨false, "invalid_api_key", "The gateway API key is missing or invalid."⟩
  else do
    let same ← compareDigest token policy.apiKey
    if same then .ok ⟨true, "allowed", "Gateway access allowed."⟩
    else .ok ⟨false, "invalid_api_key", "The gateway API key is missing or invalid."⟩

def authorize (policy : GatewayPolicy) (h : Headers) : Except Raised GatewayAuthorization :=
  if policy.enabled = false then
    .ok ⟨false, "gateway_disabled", "The local gateway is disabled."⟩
  else if isLoopbackHost L h.clientHost = false ∧ policy.allowNonLoopback = false then
    .ok ⟨false, "non_loopback_forbidden", "The local gateway accepts loopback clients only."⟩
  else if policy.allowNonLoopback = false ∧ isLoopbackHost L (headerHost L h.host) = false then
    .ok ⟨false, "invalid_host", "The gateway Host header must identify a loopback address."⟩
  else if h.origin.getD [] ≠ [] ∧ isLoopbackHost L (originHost L (h.origin.getD [])) = false then
    .ok ⟨false, "origin_forbidden", "Browser requests from non-loopback origins are forbidden."⟩
  else authorizeKey policy (bearerToken L h.authorization)

/-- The hosts of a call are in the scope of the policy. -/
structure InScope (policy : GatewayPolicy) (h : Headers) : Prop where
  enabled : policy.enabled = true
  client : policy.allowNonLoopback = true ∨ isLoopbackHost L h.clientHost = true
  host : policy.allowNonLoopback = true ∨ isLoopbackHost L (headerHost L h.host) = true
  origin : ∀ origin, h.origin = some origin → origin ≠ [] →
    isLoopbackHost L (originHost L origin) = true

structure Allowed (policy : GatewayPolicy) (h : Headers) : Prop where
  scope : InScope L policy h
  key : policy.apiKeyEnv ≠ "" → policy.apiKey ≠ [] ∧ bearerToken L h.authorization = policy.apiKey

/-- When a token is compared with the key, both are ASCII. -/
def Comparable (policy : GatewayPolicy) (h : Headers) : Prop :=
  InScope L policy h → policy.apiKeyEnv ≠ "" → policy.apiKey ≠ [] →
    bearerToken L h.authorization ≠ [] →
      isAscii (bearerToken L h.authorization) = true ∧ isAscii policy.apiKey = true

variable {L}

theorem compareDigest_ok {a b : Text} {same : Bool} (h : compareDigest a b = .ok same) :
    same = decide (a = b) := by
  unfold compareDigest at h
  split at h
  · cases h
    rfl
  · cases h

theorem compareDigest_returns (a b : Text) :
    (∃ same, compareDigest a b = .ok same) ↔ isAscii a = true ∧ isAscii b = true := by
  unfold compareDigest
  split
  · next h => exact ⟨fun _ => h, fun _ => ⟨_, rfl⟩⟩
  · next h => exact ⟨fun ⟨_, hok⟩ => (by cases hok), fun hascii => absurd hascii h⟩

theorem authorize_outOfScope {policy : GatewayPolicy} {h : Headers}
    (hscope : ¬ InScope L policy h) : ∃ d, authorize L policy h = .ok d ∧ d.allowed = false := by
  unfold authorize
  split
  · exact ⟨_, rfl, rfl⟩
  · next henabled =>
    split
    · exact ⟨_, rfl, rfl⟩
    · next hclient =>
      split
      · exact ⟨_, rfl, rfl⟩
      · next hhost =>
        split
        · exact ⟨_, rfl, rfl⟩
        · next horigin =>
          refine absurd ⟨Bool.of_not_eq_false henabled, ?_, ?_, ?_⟩ hscope
          · by_cases hallow : policy.allowNonLoopback = true
            · exact .inl hallow
            · rw [Bool.not_eq_true] at hallow
              exact .inr (Bool.of_not_eq_false fun hc => hclient ⟨hc, hallow⟩)
          · by_cases hallow : policy.allowNonLoopback = true
            · exact .inl hallow
            · rw [Bool.not_eq_true] at hallow
              exact .inr (Bool.of_not_eq_false fun hc => hhost ⟨hallow, hc⟩)
          · intro origin hsome hne
            rw [hsome, Option.getD_some] at horigin
            exact Bool.of_not_eq_false fun ho => horigin ⟨hne, ho⟩

theorem authorize_inScope {policy : GatewayPolicy} {h : Headers} (hscope : InScope L policy h) :
    authorize L policy h = authorizeKey policy (bearerToken L h.authorization) := by
  have hclient : ¬ (isLoopbackHost L h.clientHost = false ∧ policy.allowNonLoopback = false) := by
    rintro ⟨hloopback, hallow⟩
    rcases hscope.client with hclient | hclient
    · rw [hallow] at hclient
      cases hclient
    · rw [hloopback] at hclient
      cases hclient
  have hhost : ¬ (policy.allowNonLoopback = false ∧
      isLoopbackHost L (headerHost L h.host) = false) := by
    rintro ⟨hallow, hloopback⟩
    rcases hscope.host with hhost | hhost
    · rw [hallow] at hhost
      cases hhost
    · rw [hloopback] at hhost
      cases hhost
  have horigin : ¬ (h.origin.getD [] ≠ [] ∧
      isLoopbackHost L (originHost L (h.origin.getD [])) = false) := by
    rintro ⟨hne, hloopback⟩
    rcases ho : h.origin with _ | origin
    · rw [ho] at hne
      exact hne rfl
    · rw [ho, Option.getD_some] at hne hloopback
      rw [hscope.origin origin ho hne] at hloopback
      cases hloopback
  unfold authorize
  rw [if_neg (by rw [hscope.enabled]; decide), if_neg hclient, if_neg hhost, if_neg horigin]

theorem authorize_iff (policy : GatewayPolicy) (h : Headers) :
    (∃ d, authorize L policy h = .ok d ∧ (d.allowed = true ↔ Allowed L policy h)) ↔
      Comparable L policy h := by
  by_cases hscope : InScope L policy h
  · rw [authorize_inScope hscope, authorizeKey]
    by_cases henv : policy.apiKeyEnv = ""
    · rw [if_pos henv]
      refine ⟨fun _ _ hne => absurd henv hne, fun _ => ⟨_, rfl, fun _ => ?_, fun _ => rfl⟩⟩
      exact ⟨hscope, fun hne => absurd henv hne⟩
    · rw [if_neg henv]
      by_cases hkey : policy.apiKey = []
      · rw [if_pos hkey]
        refine ⟨fun _ _ _ hne => absurd hkey hne, fun _ => ⟨_, rfl, nofun, fun hallowed => ?_⟩⟩
        exact absurd hkey (hallowed.key henv).1
      · rw [if_neg hkey]
        by_cases htoken : bearerToken L h.authorization = []
        · rw [if_pos htoken]
          refine ⟨fun _ _ _ _ hne => absurd htoken hne,
            fun _ => ⟨_, rfl, nofun, fun hallowed => ?_⟩⟩
          exact absurd ((hallowed.key henv).2.symm.trans htoken) hkey
        · rw [if_neg htoken]
          rcases hcompare : compareDigest (bearerToken L h.authorization) policy.apiKey
            with e | same
          · refine ⟨fun ⟨_, hok, _⟩ => (by cases hok), fun hcomparable => ?_⟩
            obtain ⟨same, hok⟩ := (compareDigest_returns _ _).mpr
              (hcomparable hscope henv hkey htoken)
            rw [hcompare] at hok
            cases hok
          · have hsame := compareDigest_ok hcompare
            refine ⟨fun _ _ _ _ _ => (compareDigest_returns _ _).mp ⟨same, hcompare⟩, fun _ => ?_⟩
            by_cases hequal : bearerToken L h.authorization = policy.apiKey
            · rw [hsame, decide_eq_true hequal]
              exact ⟨_, rfl, fun _ => ⟨hscope, fun _ => ⟨hkey, hequal⟩⟩, fun _ => rfl⟩
            · rw [hsame, decide_eq_false hequal]
              exact ⟨_, rfl, nofun, fun hallowed => absurd (hallowed.key henv).2 hequal⟩
  · obtain ⟨d, hd, hrefused⟩ := authorize_outOfScope hscope
    refine ⟨fun _ h => absurd h hscope, fun _ => ⟨d, hd, fun hallowed => ?_, fun hallowed => ?_⟩⟩
    · rw [hrefused] at hallowed
      cases hallowed
    · exact absurd hallowed.scope hscope

end LocalMoe.Gateway
