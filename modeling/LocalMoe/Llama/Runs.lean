/-
  Every run of calls on one supervisor, and what a raising callback does.
-/
import LocalMoe.Llama.Sound
import LocalMoe.Llama.Evidence

namespace LocalMoe.Llama

open Foundation Contracts

variable (E : Environment)

/-! ## Calls -/

/-- A call on the supervisor: which callbacks `start` is given, and how many rounds its loops
may take before an interrupt. -/
inductive Request where
  | start (onLaunched onObserved : Bool) (rounds : Nat)
  | inspect
  | stop (rounds : Nat)
  deriving DecidableEq, Repr

/-- One supervisor, called any number of times. -/
def supervisor : Machine World Request (Except Raised (Option RuntimeEvidence)) where
  init := World.init
  step w
    | .start onLaunched onObserved rounds =>
      let (w', result) := start E onLaunched onObserved rounds w
      (result.map some, w')
    | .inspect =>
      let (w', result) := inspect E w
      (result.map some, w')
    | .stop rounds =>
      let (w', result) := stop E rounds w
      (result.map fun _ => none, w')

/-- In a start that launches, the callback returns and the PID is one. -/
def Admitted (w : World) : Request → Prop
  | .start onLaunched _ _ => Announced (E := E) onLaunched w
  | .inspect => True
  | .stop _ => True

/-! ## What holds in every state -/

/-- No launched server is leaked or doubled, and evidence is certified. -/
structure Supervised (w : World) : Prop where
  safe : LaunchSafe w.trace
  numbered : w.trace.filterMap launchNumber = List.range w.launches
  owned : ∀ launch, Event.launched launch ∈ w.trace → ProvenGone w.trace launch ∨
    ∃ process, w.process = some process ∧ process.launch = launch
  single : ∀ a b, Event.launched a ∈ w.trace → Event.launched b ∈ w.trace →
    ¬ ProvenGone w.trace a → ¬ ProvenGone w.trace b → a = b
  stopped : ∀ rounds w', stop E rounds w = (w', .ok ()) →
    ∀ launch, Event.launched launch ∈ w'.trace → ProvenGone w'.trace launch
  certified : ∀ request w' evidence, (supervisor E).step w request = (.ok (some evidence), w') →
    EndsCertified E w'.trace evidence

variable {E}

theorem kept_init : Kept World.init := by
  refine ⟨fun before launch after h => ?_, rfl, fun launch hl => ?_, fun process hp => ?_⟩
  · have hlength := congrArg List.length h
    simp [World.init] at hlength
  · cases hl
  · cases hp

theorem kept_next {w : World} {request : Request} (hrequest : Admitted E w request)
    (h : Kept w) : Kept ((supervisor E).next w request) := by
  cases request with
  | start => exact start_kept h hrequest
  | inspect => exact h.observes (quiet_inspect w)
  | stop => exact stop_kept h

variable {evidence : RuntimeEvidence}

theorem map_some_ok {result : Except Raised RuntimeEvidence}
    (h : result.map some = .ok (some evidence)) : result = .ok evidence := by
  cases result with
  | error => cases h
  | ok => cases h; rfl

theorem map_none_ne {result : Except Raised Unit} :
    (result.map fun _ => none) ≠ .ok (some evidence) := by
  cases result with
  | error | ok => exact nofun

theorem step_certified {w w' : World} {request : Request}
    (h : (supervisor E).step w request = (.ok (some evidence), w')) :
    EndsCertified E w'.trace evidence := by
  cases request with
  | start onLaunched onObserved rounds =>
    obtain ⟨hresult, rfl⟩ := Prod.mk.inj h
    exact start_ok (Prod.ext rfl (map_some_ok hresult))
  | inspect =>
    obtain ⟨hresult, rfl⟩ := Prod.mk.inj h
    exact inspect_ok (Prod.ext rfl (map_some_ok hresult))
  | stop rounds =>
    exact absurd (Prod.mk.inj h).1 map_none_ne

theorem Kept.supervised {w : World} (h : Kept w) : Supervised E w where
  safe := h.safe
  numbered := h.numbered
  owned := h.owned
  single a b ha hb hna hnb := by
    obtain ⟨p, hp, rfl⟩ := (h.owned a ha).resolve_left hna
    obtain ⟨q, hq, rfl⟩ := (h.owned b hb).resolve_left hnb
    cases hp.symm.trans hq
    rfl
  stopped rounds w' hstop launch hlaunch := by
    have hkept : Kept (stop E rounds w).1 := stop_kept h
    rw [hstop] at hkept
    rcases hkept.owned launch hlaunch with hgone | ⟨process, hprocess, -⟩
    · exact hgone
    · cases (stop_ok hstop).symm.trans hprocess
  certified _ _ _ hstep := step_certified hstep

/-- While the callback of every launch returns, no run of calls leaks or doubles a server, and
evidence is returned only when the root and its listener were seen on both sides of good
probes. -/
theorem launched_server_kept (requests : List Request)
    (hadmits : (supervisor E).Admits (Admitted E) World.init requests) :
    Supervised E ((supervisor E).exec World.init requests) :=
  (hadmits.exec (fun _ _ hrequest hkept => kept_next hrequest hkept) kept_init).supervised

/-! ## A server that answers -/

def vacantEndpoint : EndpointOwnershipEvidence := ⟨[], false, false, nofun⟩

/-- An endpoint of which the root is the only listener. -/
def rootEndpoint : EndpointOwnershipEvidence := ⟨[7], true, false, fun _ => ⟨rfl, rfl⟩⟩

/-- Answers of a server that is launched, gets ready at once, and is stopped. -/
def servingReplies (call : Nat) : Replies ⟨Nat, fun t _ => t + 1, fun now deadline => now ≥ deadline⟩ where
  launch := .ok false
  callback := .ok ()
  pid := .ok 7
  poll := .ok none
  wait := .ok ()
  signal := .ok ()
  getpgid := .ok 7
  tree := .ok ⟨7, 100, 1, "sha256:server", true⟩
  endpoint := .ok (if call = 12 ∨ call = 19 then rootEndpoint else vacantEndpoint)
  response := .ok ⟨200, .dict
    (if call = 13 then [("status", .str "ok")]
    else if call = 14 then [("model_path", .str "model.gguf"), ("build_info", .str "b1"),
      ("is_sleeping", .bool false)]
    else [("data", .list [.dict [("id", .str "m")]])])⟩
  clock := .ok 0
  sleep := .ok ()

def servingSpec : RuntimeSpec := ⟨"sha256:server", "model.gguf", "m", 30, 5⟩

def serving : Environment :=
  ⟨servingSpec, _, servingReplies, true, id, fun _ => true⟩

theorem launched_server_kept_serving :
    Supervised serving ((supervisor serving).exec World.init [.start true true 1, .stop 1]) :=
  launched_server_kept _ ⟨fun _ _ _ => ⟨7, _, rfl, by decide⟩, trivial, trivial⟩

/-! ## A callback that raises -/

/-- The same answers, but that the callback raises. -/
def raising : Environment :=
  ⟨servingSpec, _, fun call => { servingReplies call with callback := .error .other }, true, id,
    fun _ => true⟩

/-- After one start whose callback raises the server is neither proven gone nor owned, and a
second start launches another one beside it. -/
theorem raising_callback_leaks :
    let leaked := (supervisor raising).exec World.init [.start true false 1]
    let doubled := (supervisor raising).exec World.init [.start true false 1, .start true false 1]
    (Event.launched 0 ∈ leaked.trace ∧ ¬ ProvenGone leaked.trace 0 ∧ leaked.process = none ∧
      leaked.cleanupUnknown = false) ∧ doubled.launches = 2 ∧ ¬ LaunchSafe doubled.trace := by
  have hleaked : ∀ trace : List Event, Event.gone 0 ∉ trace → ¬ ProvenGone trace 0 := by
    rintro _ hgone ⟨before, alive, gone, after, evidence, rfl, -⟩
    exact hgone (by simp)
  refine ⟨⟨.tail _ (.head _), ?_, rfl, rfl⟩, rfl, fun hsafe => ?_⟩
  · exact hleaked [.endpoint vacantEndpoint, .launched 0] (by simp)
  · refine hleaked [.endpoint vacantEndpoint, .launched 0, .endpoint vacantEndpoint] (by simp) ?_
    exact hsafe _ 1 [] rfl 0 (.tail _ (.head _))

end LocalMoe.Llama
