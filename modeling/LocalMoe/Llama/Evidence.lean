/-
  Runtime evidence is returned only when the root process and its listener were seen on both
  sides of three good probes.
-/
import LocalMoe.Llama.Owned

namespace LocalMoe.Llama

open Foundation Contracts

variable {E : Environment}

/-! ## Good probes -/

/-- The process is the configured executable, and alone. -/
structure ProcessTreeEvidence.OfRoot (E : Environment) (e : ProcessTreeEvidence) : Prop where
  rootOnly : e.rootOnly = true
  count : e.processCount = 1
  executable : e.rootExecutableSha256 = E.spec.executableSha256

/-- The health response says that the server is ready. -/
def Healthy (response : JsonHttpResponse) : Prop :=
  response.statusCode = 200 ∧ ∃ entries, response.payload = .dict entries ∧
    Value.field "status" entries = some (.str "ok")

/-- The properties name the configured model file. -/
def NamesModelPath (E : Environment) (response : JsonHttpResponse) : Prop :=
  response.statusCode = 200 ∧ ∃ entries path, response.payload = .dict entries ∧
    Value.field "model_path" entries = some (.str path) ∧
    E.realpath path = E.realpath E.spec.modelPath

def NamesModel (E : Environment) (response : JsonHttpResponse) : Prop :=
  response.statusCode = 200 ∧ ∃ entries item, response.payload = .dict entries ∧
    Value.field "data" entries = some (.list [item]) ∧ entryId item = some E.spec.modelId

variable {response : Option JsonHttpResponse}

theorem healthy_of_reasons (h : (healthReasons response).1 = []) :
    (healthReasons response).2 = true ∧ ∃ r, response = some r ∧ Healthy r := by
  unfold healthReasons at h ⊢
  split at h
  · cases h
  · next r =>
    split at h
    · next entries hcode hpayload =>
      split at h
      · next hstatus => exact ⟨rfl, r, rfl, hcode, entries, hpayload, hstatus⟩
      · cases h
    · cases h

theorem namesModelPath_of_reasons (h : propsReasons E response true = []) :
    ∃ r, response = some r ∧ NamesModelPath E r := by
  unfold propsReasons at h
  split at h
  · cases h
  · next hfalse => cases hfalse
  · next r hready =>
    have hbody := (List.append_eq_nil_iff.mp h).1
    split at hbody
    · next entries hcode hpayload =>
      split at hbody
      · next path build sleeping hpath _ _ =>
        split at hbody
        · cases hbody
        · have hmismatch := (List.append_eq_nil_iff.mp hbody).1
          split at hmismatch
          · cases hmismatch
          · next hsame =>
            exact ⟨r, rfl, hcode, entries, path, hpayload, hpath, not_not.mp hsame⟩
      · cases hbody
    · cases hbody

theorem mapM_eq_singleton {α β : Type} {f : α → Option β} {items : List α} {b : β}
    (h : items.mapM f = some [b]) : ∃ item, items = [item] ∧ f item = some b := by
  have hlength : ∀ {l : List α} {bs : List β}, l.mapM f = some bs → l.length = bs.length := by
    intro l
    induction l with
    | nil =>
      rintro bs hbs
      cases hbs
      rfl
    | cons a rest ih =>
      rintro bs hbs
      rw [List.mapM_cons, Option.bind_eq_bind, Option.bind_eq_some_iff] at hbs
      obtain ⟨c, -, hbs⟩ := hbs
      obtain ⟨cs, hcs, hbs⟩ := Option.bind_eq_some_iff.mp hbs
      cases hbs
      rw [List.length_cons, List.length_cons, ih hcs]
  obtain ⟨item, rfl⟩ := List.length_eq_one_iff.mp (hlength h)
  rw [List.mapM_cons, Option.bind_eq_bind, Option.bind_eq_some_iff] at h
  obtain ⟨c, hc, h⟩ := h
  cases h
  exact ⟨item, rfl, hc⟩

theorem namesModel_of_reasons (h : (modelsReasons E response true).1 = []) :
    ∃ r, response = some r ∧ NamesModel E r := by
  unfold modelsReasons at h
  split at h
  · cases h
  · next hfalse => cases hfalse
  · next r hready =>
    split at h
    · next entries hcode hpayload =>
      split at h
      · next items hdata =>
        split at h
        · cases h
        · cases h
        · next ids hne hids =>
          dsimp only at h
          split at h
          · cases h
          · next hcount =>
            split at h
            · cases h
            · next hsame =>
              refine ⟨r, rfl, hcode, entries, ?_⟩
              obtain ⟨id, rfl⟩ := List.length_eq_one_iff.mp (not_not.mp (not_or.mp hcount).1)
              have hid : id = E.spec.modelId := by
                simpa using not_not.mp hsame
              obtain ⟨item, rfl, hitem⟩ := mapM_eq_singleton hids
              exact ⟨item, hpayload, hdata, by rw [hitem, hid]⟩
      · cases h
    · cases h

/-! ## What the actions show -/

/-- From one world to the next only these events were seen, and the root identity stayed. -/
structure Sees (w w' : World) (seen : List Event) : Prop where
  trace : w'.trace = w.trace ++ seen
  rootIdentity : w'.rootIdentity = w.rootIdentity

theorem Sees.trans {u v w : World} {seen more : List Event} (h : Sees u v seen)
    (h' : Sees v w more) : Sees u w (seen ++ more) :=
  ⟨by rw [h'.trace, h.trace, List.append_assoc], h'.rootIdentity.trans h.rootIdentity⟩

variable {w w' : World}

theorem ask_sees {α : Type} {answer : Replies E.clock → Except Raised α}
    {result : Except Raised α} (h : ask E answer w = (w', result)) : Sees w w' [] := by
  obtain ⟨rfl, -⟩ := Prod.mk.inj h
  exact ⟨(List.append_nil _).symm, rfl⟩

theorem note_sees {event : Event} {result : Except Raised Unit} (h : note event w = (w', result)) :
    Sees w w' [event] := by
  obtain ⟨rfl, -⟩ := Prod.mk.inj h
  exact ⟨rfl, rfl⟩

theorem observeEndpoint_sees {evidence : EndpointOwnershipEvidence}
    (h : observeEndpoint E w = (w', .ok evidence)) : Sees w w' [.endpoint evidence] := by
  obtain ⟨found, v, hv, h⟩ := bind_ok.mp h
  obtain ⟨_, u, hu, h⟩ := bind_ok.mp h
  cases h
  rcases catching_ok hv with hask | ⟨_, _, -, hfail⟩
  · exact (ask_sees hask).trans (note_sees hu)
  · cases hfail

theorem getJson_sees {probe : Probe} (h : getJson E probe w = (w', .ok response)) :
    Sees w w' [.probed probe response] := by
  obtain ⟨found, v, hv, h⟩ := bind_ok.mp h
  obtain ⟨_, u, hu, h⟩ := bind_ok.mp h
  cases h
  rcases catching_ok hv with hbody | ⟨_, t, hbody, hhandler⟩
  · obtain ⟨_, t, hask, hpure⟩ := bind_ok.mp hbody
    obtain ⟨rfl, -⟩ := Prod.mk.inj hpure
    exact (ask_sees hask).trans (note_sees hu)
  · obtain ⟨rfl, -⟩ := Prod.mk.inj hhandler
    rcases bind_error.mp hbody with hask | ⟨_, _, -, hpure⟩
    · exact (ask_sees hask).trans (note_sees hu)
    · cases hpure

variable {application : ApplicationEvidence}

theorem probeApplication_sees (h : probeApplication E w = (w', .ok application))
    (hready : application.ready = true) :
    ∃ health props models, Sees w w' [.probed .health (some health), .probed .props (some props),
      .probed .models (some models)] ∧ Healthy health ∧ NamesModelPath E props ∧
        NamesModel E models := by
  obtain ⟨health, v, hhealth, h⟩ := bind_ok.mp h
  obtain ⟨props, u, hprops, h⟩ := bind_ok.mp h
  obtain ⟨models, t, hmodels, h⟩ := bind_ok.mp h
  obtain ⟨rfl, happlication⟩ := Prod.mk.inj h
  have hsees := ((getJson_sees hhealth).trans (getJson_sees hprops)).trans (getJson_sees hmodels)
  unfold applicationEvidence at happlication
  dsimp only at happlication
  split at happlication
  · cases happlication
    have hreasons := List.isEmpty_iff.mp hready
    obtain ⟨hreasons, hmodelReasons⟩ := List.append_eq_nil_iff.mp hreasons
    obtain ⟨hhealthReasons, hpropsReasons⟩ := List.append_eq_nil_iff.mp hreasons
    obtain ⟨hhealthReady, health, rfl, hhealthy⟩ := healthy_of_reasons hhealthReasons
    rw [hhealthReady] at hpropsReasons hmodelReasons
    obtain ⟨props, rfl, hpath⟩ := namesModelPath_of_reasons hpropsReasons
    obtain ⟨models, rfl, hmodel⟩ := namesModel_of_reasons hmodelReasons
    exact ⟨health, props, models, hsees, hhealthy, hpath, hmodel⟩
  · cases happlication

theorem observeProcess_ok {pid : Int} {evidence : ProcessTreeEvidence}
    (h : observeProcess E pid w = (w', .ok evidence)) :
    w'.trace = w.trace ++ [.tree evidence] ∧ w'.rootIdentity = some evidence.identity ∧
      (∀ identity, w.rootIdentity = some identity → identity = evidence.identity) ∧
      evidence.OfRoot E := by
  obtain ⟨found, v, hv, h⟩ := bind_ok.mp h
  have hsees : Sees w v [] := by
    rcases catching_ok hv with hask | ⟨_, _, -, hfail⟩
    · exact ask_sees hask
    · cases hfail
  have htrace : v.trace = w.trace := by rw [hsees.trace, List.append_nil]
  split at h
  · cases h
  · next hcontract =>
    split at h
    · cases h
    · next hexecutable =>
      have hroot : found.OfRoot E := by
        obtain ⟨-, hcontract⟩ := not_or.mp hcontract
        obtain ⟨honly, hcount⟩ := not_or.mp hcontract
        exact ⟨Bool.eq_true_of_not_eq_false honly, not_not.mp hcount, not_not.mp hexecutable⟩
      obtain ⟨_, _, hget, h⟩ := bind_ok.mp h
      cases hget
      rcases hknown : v.rootIdentity with _ | known
      · rw [hknown] at h
        obtain ⟨_, u, hu, h⟩ := bind_ok.mp h
        obtain ⟨_, t, ht, h⟩ := bind_ok.mp h
        cases h
        cases hu
        obtain ⟨rfl, -⟩ := Prod.mk.inj ht
        refine ⟨by rw [← htrace], rfl, fun identity hidentity => ?_, hroot⟩
        rw [← hsees.rootIdentity, hknown] at hidentity
        cases hidentity
      · rw [hknown] at h
        dsimp only at h
        split at h
        · cases h
        · next hsame =>
          obtain ⟨_, t, ht, h⟩ := bind_ok.mp h
          cases h
          obtain ⟨rfl, -⟩ := Prod.mk.inj ht
          have hidentity := not_not.mp hsame
          refine ⟨by rw [← htrace], by rw [← hidentity]; exact hknown, fun identity hw => ?_, hroot⟩
          rw [← hsees.rootIdentity, hknown] at hw
          cases hw
          exact hidentity

variable {evidence : RuntimeEvidence}

variable {endpoint : EndpointOwnershipEvidence}

theorem runtimeEvidence_ok {process : ProcessTreeEvidence}
    (h : runtimeEvidence process endpoint application = .ok evidence) :
    evidence.process = process ∧ evidence.endpoint = endpoint := by
  unfold runtimeEvidence at h
  split at h
  · split at h
    · split at h
      · cases h
        exact ⟨rfl, rfl⟩
      · cases h
    · cases h
  · cases h

/-! ## Certified evidence -/

/-- The root and its listener were seen before the probes and after them, and the probes were
good. -/
structure Certified (E : Environment) (trace : List Event) (evidence : RuntimeEvidence)
    (tree : ProcessTreeEvidence) (endpoint : EndpointOwnershipEvidence)
    (health props models : JsonHttpResponse) : Prop where
  seen : ∃ before, trace = before ++ [.tree tree, .endpoint endpoint,
    .probed .health (some health), .probed .props (some props), .probed .models (some models),
    .tree evidence.process, .endpoint evidence.endpoint]
  identity : tree.identity = evidence.process.identity
  rootBefore : tree.OfRoot E
  rootAfter : evidence.process.OfRoot E
  ownedBefore : endpoint.ownedByRoot = true
  healthy : Healthy health
  modelPath : NamesModelPath E props
  model : NamesModel E models

def EndsCertified (E : Environment) (trace : List Event) (evidence : RuntimeEvidence) : Prop :=
  ∃ tree endpoint health props models,
    Certified E trace evidence tree endpoint health props models

theorem certified_of_round {w₁ w₂ w₃ w₄ w₅ : World} {pid : Int} {tree : ProcessTreeEvidence}
    {again : ProcessTreeEvidence × EndpointOwnershipEvidence} {before : List Event}
    (htrace : w₁.trace = before ++ [.tree tree])
    (hidentity : w₁.rootIdentity = some tree.identity) (hroot : tree.OfRoot E)
    (hendpoint : Sees w₁ w₂ [.endpoint endpoint]) (howned : endpoint.ownedByRoot = true)
    (hprobe : probeApplication E w₂ = (w₃, .ok application)) (hready : application.ready = true)
    (hpid : Sees w₃ w₄ []) (hagain : observeAgain E pid w₄ = (w₅, .ok again))
    (hevidence : runtimeEvidence again.1 again.2 application = .ok evidence) :
    EndsCertified E w₅.trace evidence := by
  obtain ⟨health, props, models, hprobes, hhealthy, hprops, hmodels⟩ :=
    probeApplication_sees hprobe hready
  obtain ⟨found, v, htree, h⟩ := bind_ok.mp hagain
  obtain ⟨_, u, hask, h⟩ := bind_ok.mp h
  obtain ⟨listener, t, hlistener, h⟩ := bind_ok.mp h
  cases h
  obtain ⟨htreeTrace, -, hsame, hrootAfter⟩ := observeProcess_ok htree
  have hbefore := (hendpoint.trans hprobes).trans hpid
  have hafter := (ask_sees hask).trans (observeEndpoint_sees hlistener)
  have hfields := runtimeEvidence_ok hevidence
  refine ⟨tree, endpoint, health, props, models, ⟨before, ?_⟩, ?_, hroot, ?_, howned, hhealthy,
    hprops, hmodels⟩
  · rw [hafter.trace, htreeTrace, hbefore.trace, htrace, hfields.1, hfields.2]
    simp
  · rw [hfields.1]
    exact hsame _ (hbefore.rootIdentity.trans hidentity)
  · rw [hfields.1]
    exact hrootAfter

theorem awaitReady_ok {onObserved : Bool} {deadline : E.clock.Time} {rounds : Nat}
    {notified : Bool} {reasons : List String}
    (h : awaitReady E onObserved deadline rounds notified reasons w = (w', .ok evidence)) :
    EndsCertified E w'.trace evidence := by
  induction rounds generalizing notified reasons w with
  | zero => cases h
  | succ rounds ih =>
    have hlater : ∀ {v : World} (reasons : List String), (do
        let now ← ask E Replies.clock
        if E.clock.reached now deadline then
          Effect.fail (.supervisor "startup_timeout" reasons)
        else do
          ask E Replies.sleep
          awaitReady E onObserved deadline rounds (notified || onObserved) reasons :
            Action RuntimeEvidence) v = (w', .ok evidence) →
        EndsCertified E w'.trace evidence := by
      intro v reasons hv
      obtain ⟨_, _, -, hv⟩ := bind_ok.mp hv
      split at hv
      · cases hv
      · obtain ⟨_, _, -, hv⟩ := bind_ok.mp hv
        exact ih hv
    obtain ⟨code, v, -, h⟩ := bind_ok.mp h
    split at h
    · cases h
    · obtain ⟨pid, v, -, h⟩ := bind_ok.mp h
      obtain ⟨tree, w₁, htree, h⟩ := bind_ok.mp h
      obtain ⟨htrace, hidentity, -, hroot⟩ := observeProcess_ok htree
      obtain ⟨_, w₂, hnotify, h⟩ := bind_ok.mp h
      have hnotified : Sees w₁ w₂ [] := by
        split at hnotify
        · exact ask_sees hnotify
        · cases hnotify
          exact ⟨(List.append_nil _).symm, rfl⟩
      obtain ⟨_, w₃, hpid, h⟩ := bind_ok.mp h
      obtain ⟨endpoint, w₄, hendpoint, h⟩ := bind_ok.mp h
      have hsees := (hnotified.trans (ask_sees hpid)).trans (observeEndpoint_sees hendpoint)
      split at h
      · cases h
      · split at h
        · cases h
        · dsimp only at h
          split at h
          · next howned =>
            obtain ⟨application, w₅, hprobe, h⟩ := bind_ok.mp h
            split at h
            · next hready =>
              obtain ⟨pid, w₆, hpid, h⟩ := bind_ok.mp h
              obtain ⟨again, w₇, hagain, h⟩ := bind_ok.mp h
              split at h
              · cases h
              · split at h
                · cases h
                · obtain ⟨rfl, hevidence⟩ := Prod.mk.inj h
                  exact certified_of_round htrace hidentity hroot hsees howned hprobe
                    hready (ask_sees hpid) hagain hevidence
            · split at h
              · cases h
              · exact hlater _ h
          · exact hlater _ h

theorem inspect_ok (h : inspect E w = (w', .ok evidence)) : EndsCertified E w'.trace evidence := by
  obtain ⟨_, _, hget, h⟩ := bind_ok.mp h
  cases hget
  rcases hprocess : w.process with _ | process
  · rw [hprocess] at h
    cases h
  · rw [hprocess] at h
    obtain ⟨code, v, -, h⟩ := bind_ok.mp h
    split at h
    · cases h
    · obtain ⟨pid, v, -, h⟩ := bind_ok.mp h
      obtain ⟨tree, w₁, htree, h⟩ := bind_ok.mp h
      obtain ⟨htrace, hidentity, -, hroot⟩ := observeProcess_ok htree
      obtain ⟨_, w₂, hpid, h⟩ := bind_ok.mp h
      obtain ⟨endpoint, w₃, hendpoint, h⟩ := bind_ok.mp h
      have hsees := (ask_sees hpid).trans (observeEndpoint_sees hendpoint)
      split at h
      · cases h
      · split at h
        · cases h
        · next howned =>
          obtain ⟨application, w₄, hprobe, h⟩ := bind_ok.mp h
          split at h
          · next hready =>
            obtain ⟨pid, w₅, hpid, h⟩ := bind_ok.mp h
            obtain ⟨again, w₆, hagain, h⟩ := bind_ok.mp h
            split at h
            · cases h
            · obtain ⟨rfl, hevidence⟩ := Prod.mk.inj h
              exact certified_of_round htrace hidentity hroot hsees
                (Bool.eq_true_of_not_eq_false howned) hprobe hready (ask_sees hpid) hagain
                hevidence
          · split at h
            · cases h
            · cases h

theorem cleanUp_not_ok {process : SpawnedProcess} {rounds : Nat} {original : Raised} :
    cleanUp E process rounds original w ≠ (w', .ok evidence) := by
  intro h
  obtain ⟨_, _, -, h⟩ := bind_ok.mp h
  obtain ⟨_, _, -, h⟩ := bind_ok.mp h
  cases h

theorem start_ok {onLaunched onObserved : Bool} {rounds : Nat}
    (h : start E onLaunched onObserved rounds w = (w', .ok evidence)) :
    EndsCertified E w'.trace evidence := by
  obtain ⟨process, v, -, h⟩ := bind_ok.mp h
  obtain ⟨pid, u, -, h⟩ := bind_ok.mp h
  split at h
  · obtain ⟨_, _, -, h⟩ := bind_ok.mp h
    cases h
  · obtain ⟨_, _, -, h⟩ := bind_ok.mp h
    obtain ⟨now, t, -, h⟩ := bind_ok.mp h
    rcases catching_ok h with hready | ⟨e, s, -, hcleanUp⟩
    · exact awaitReady_ok hready
    · exact absurd hcleanUp cleanUp_not_ok

end LocalMoe.Llama
