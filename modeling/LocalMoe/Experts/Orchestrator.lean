/-
  `orchestrator.py`: asking the experts of a route.

  The state is the list of the experts that were asked. What asking one of them gives is the
  parameter `invoke` of the three loops; `invokeProvider` is what it is in the source.
-/
import LocalMoe.Foundation.Effect
import LocalMoe.Experts.Router

namespace LocalMoe.Experts

open Foundation

structure MoEResponse where
  content : String
  correlationId : String
  route : RouteDecision
  results : List ExpertResult
  errors : List String
  deriving DecidableEq

/-- Results, and the errors of the experts that failed. -/
abbrev Answers := List ExpertResult × List String

/-- Asking experts, and recording which. -/
abbrev Asking := Effect (List String) Exc

/-! ## The loops -/

section Loops

variable (invoke : String → Except Exc ExpertResult)

/-- `_invoke_provider`, recorded. -/
def ask (id : String) : Asking ExpertResult := fun asked => (asked ++ [id], invoke id)

/-- `_invoke_provider` under `except ProviderError`. -/
def attempt (id : String) : Asking (Except String ExpertResult) :=
  Effect.handle (do let result ← ask invoke id; pure (.ok result)) fun
    | .provider message => pure (.error s!"{id}: {message}")
    | e => Effect.fail e

def generateBest : List String → Asking Answers
  | [] => pure ([], [])
  | id :: rest => do
    match ← attempt invoke id with
    | .ok result => pure ([result], [])
    | .error message =>
      let (results, errors) ← generateBest rest
      pure (results, message :: errors)

/-- The futures of the selected experts, as they complete. -/
def collect : List String → Except Exc Answers
  | [] => .ok ([], [])
  | id :: rest =>
    match invoke id with
    | .ok result => (collect rest).map fun answers => (result :: answers.1, answers.2)
    | .error (.provider message) =>
      (collect rest).map fun answers => (answers.1, s!"{id}: {message}" :: answers.2)
    | .error e => .error e

/-- `_generate_many`: every expert is asked, whatever the others answer; `completed` is the
order in which they answer. -/
def generateMany (completed expertOrder : List String) : Asking Answers := do
  Effect.modify (· ++ expertOrder)
  let (results, errors) ← Effect.ofExcept (collect invoke completed)
  pure (results.mergeSort fun a b =>
    decide (expertOrder.idxOf a.expertId ≤ expertOrder.idxOf b.expertId), errors)

/-- `_generate_fallbacks`; `limit` is what is still missing. -/
def generateFallbacks : Nat → List String → Asking Answers
  | _, [] => pure ([], [])
  | limit, id :: rest => do
    match ← attempt invoke id with
    | .ok result =>
      if limit ≤ 1 then pure ([result], [])
      else
        let (results, errors) ← generateFallbacks (limit - 1) rest
        pure (result :: results, errors)
    | .error message =>
      let (results, errors) ← generateFallbacks limit rest
      pure (results, message :: errors)

/-- The fallbacks that are not selected, each once. -/
def fallbacksOf (route : RouteDecision) : List String :=
  route.fallbackOrder.foldl
    (fun order id => if id ∈ route.selected ∨ id ∈ order then order else order ++ [id]) []

def answersOf (aggregation : Aggregation) (completed : List String → List String)
    (route : RouteDecision) : Asking Answers :=
  if aggregation = .concat ∨ aggregation = .compare then do
    let (results, errors) ← generateMany invoke (completed route.selected) route.selected
    let missing := route.selected.length - results.length
    if missing = 0 then pure (results, errors)
    else
      let (more, moreErrors) ← generateFallbacks invoke missing (fallbacksOf route)
      pure (results ++ more, errors ++ moreErrors)
  else generateBest invoke (route.selected ++ fallbacksOf route)

end Loops

/-! ## The program -/

/-- What an answer depends on, beside the configuration. -/
structure World where
  isLoopbackEndpoint : Option String → Bool
  /-- The attestor, when the prompt is routed. -/
  attestRoute : Attestor
  /-- The attestor, when an expert is asked. -/
  attestCall : Attestor
  exchange : String → Exchange
  /-- The order that the scores give the eligible experts. -/
  rank : List String → List String
  /-- The order in which threads complete. -/
  completed : List String → List String
  /-- `strip_reasoning_content`. -/
  stripped : String → String
  /-- `_aggregate`, with the disagreement report. -/
  aggregate : List ExpertResult → String

/-- What the world may not do: experts are ranked and threads complete, each once. -/
structure World.Lawful (world : World) : Prop where
  rank : ∀ ids, (world.rank ids).Perm ids
  completed : ∀ ids, (world.completed ids).Perm ids

def invokeProvider (config : MoEConfig) (world : World) (req : GenerationRequest) (id : String) :
    Except Exc ExpertResult :=
  match config.expertById id with
  | none => .error (.other "KeyError")
  | some expert => do
    let _ ← requireAllowed world.isLoopbackEndpoint config.policy world.attestCall
      expert.executionTarget
    generate world.stripped expert req (world.exchange id)

def generateWithRoute (config : MoEConfig) (world : World) (req : GenerationRequest)
    (decision : RouteDecision) : Asking MoEResponse := do
  let (results, errors) ← answersOf (invokeProvider config world req) config.aggregation
    world.completed decision
  if results.isEmpty then
    Effect.fail (.provider (if errors.isEmpty then "No expert produced a result."
      else "; ".intercalate errors))
  else pure ⟨world.aggregate results, req.correlationId, decision, results, errors⟩

def generateResponse (config : MoEConfig) (world : World) (req : GenerationRequest) :
    Asking MoEResponse := do
  let decision ← Effect.ofExcept
    (route world.isLoopbackEndpoint config world.attestRoute world.rank)
  generateWithRoute config world req decision

end LocalMoe.Experts
