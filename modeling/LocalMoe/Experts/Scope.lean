/-
  `execution_scope.py`: what an expert may be called for.

  The attestor is a parameter: it answers with an attestation or refuses, and its answer may
  change from one question to the next.
-/
import LocalMoe.Experts.Provider

namespace LocalMoe.Experts

def ExecutionScope.text : ExecutionScope → String
  | .deviceOnly => "device_only"
  | .privateMesh => "private_mesh"
  | .publicMesh => "public_mesh"
  | .paidRemote => "paid_remote"

def scopeRank : ExecutionScope → Nat
  | .deviceOnly => 0
  | .privateMesh => 1
  | .publicMesh => 2
  | .paidRemote => 3

/-- `ExecutionPolicy`, with what `__post_init__` checks. -/
structure ExecutionPolicy where
  maxScope : ExecutionScope
  allowedScopes : List ExecutionScope
  allowScopeWidening : Bool
  distinct : allowedScopes.Nodup
  bounded : ∀ scope ∈ allowedScopes, scopeRank scope ≤ scopeRank maxScope

def ExecutionPolicy.allows (policy : ExecutionPolicy) (scope : ExecutionScope) : Bool :=
  decide (scope ∈ policy.allowedScopes) && decide (scopeRank scope ≤ scopeRank policy.maxScope)

structure ExecutionTarget where
  expertId : String
  provider : ProviderKind
  endpoint : Option String
  declaration : ExecutionDeclaration

structure ExecutionAttestation where
  expertId : String
  scope : ExecutionScope
  transport : ExecutionTransport
  authority : String
  deriving DecidableEq, Repr

structure ExecutionEligibility where
  expertId : String
  allowed : Bool
  scope : Option ExecutionScope
  transport : Option ExecutionTransport
  authority : Option String
  detail : String
  deriving DecidableEq, Repr

/-- `ExecutionAttestor.attest`: an attestation, or the detail of a `ScopePolicyError`. -/
abbrev Attestor := ExecutionTarget → Except String ExecutionAttestation

def ExpertConfig.executionTarget (expert : ExpertConfig) : ExecutionTarget :=
  ⟨expert.id, expert.provider, expert.baseUrl, expert.execution⟩

/-! ## The guard -/

section Guard

/-! `is_loopback_endpoint` is a parameter: nothing here depends on which endpoints it takes. -/
variable (isLoopbackEndpoint : Option String → Bool)

def normalizedExecutionDeclaration (provider : ProviderKind) (endpoint : Option String)
    (configured : ExecutionDeclaration) : ExecutionDeclaration :=
  let transport := match configured.transport with
    | some transport => transport
    | none =>
      if provider = .synthetic ∨ isLoopbackEndpoint endpoint then .directLocal else .gateway
  let scope := match configured.scope with
    | some scope => some scope
    | none =>
      if provider = .synthetic ∨ (transport = .directLocal ∧ isLoopbackEndpoint endpoint) then
        some .deviceOnly
      else none
  ⟨scope, some transport⟩

def ExecutionTarget.normalized (target : ExecutionTarget) : ExecutionTarget :=
  ⟨target.expertId, target.provider, target.endpoint,
    normalizedExecutionDeclaration isLoopbackEndpoint target.provider target.endpoint
      target.declaration⟩

def validateAttestation (target : ExecutionTarget) (attestation : ExecutionAttestation) :
    Except String Unit := do
  if attestation.expertId ≠ target.expertId then
    .error "attestation identifies a different expert."
  if target.declaration.transport = none ∨
      some attestation.transport ≠ target.declaration.transport then
    .error "attested transport does not match the configured transport."
  if target.declaration.scope = none then
    .error "non-local execution requires an explicit scope declaration."
  if some attestation.scope ≠ target.declaration.scope then
    .error "attested scope does not match the configured scope."

variable (policy : ExecutionPolicy) (attest : Attestor)

def evaluate (target : ExecutionTarget) : ExecutionEligibility :=
  let normalized := target.normalized isLoopbackEndpoint
  match attest normalized >>= fun attestation =>
      validateAttestation normalized attestation >>= fun _ => .ok attestation with
  | .error detail => ⟨target.expertId, false, none, none, none, detail⟩
  | .ok attestation =>
    if policy.allows attestation.scope then
      ⟨target.expertId, true, some attestation.scope, some attestation.transport,
        some attestation.authority, ""⟩
    else
      ⟨target.expertId, false, some attestation.scope, some attestation.transport, none,
        s!"scope '{attestation.scope.text}' is outside the active policy."⟩

def requireAllowed (target : ExecutionTarget) : Except Exc ExecutionAttestation :=
  let eligibility := evaluate isLoopbackEndpoint policy attest target
  if !eligibility.allowed then
    .error (.scopePolicy (if eligibility.detail = "" then "execution target is not eligible."
      else eligibility.detail))
  else
    match eligibility.scope, eligibility.transport, eligibility.authority with
    | some scope, some transport, some authority =>
      if authority = "" then .error (.scopePolicy "execution attestation is incomplete.")
      else .ok ⟨target.expertId, scope, transport, authority⟩
    | _, _, _ => .error (.scopePolicy "execution attestation is incomplete.")

def permitsFallback (selectedScopes : List ExecutionScope) (fallbackScope : ExecutionScope) :
    Bool :=
  if policy.allowScopeWidening || selectedScopes.isEmpty then true
  else decide (scopeRank fallbackScope ≤ (selectedScopes.map scopeRank).foldr max 0)

/-! ## What the guard lets through -/

variable {isLoopbackEndpoint policy attest} {target : ExecutionTarget}
  {attestation : ExecutionAttestation}

theorem requireAllowed_error {e : Exc}
    (h : requireAllowed isLoopbackEndpoint policy attest target = .error e) :
    ∃ detail, e = .scopePolicy detail := by
  unfold requireAllowed at h
  dsimp only at h
  split at h
  · cases h
    exact ⟨_, rfl⟩
  · split at h
    · split at h
      · cases h
        exact ⟨_, rfl⟩
      · cases h
    · cases h
      exact ⟨_, rfl⟩

end Guard

end LocalMoe.Experts
