/-
  When the gateway decides, and when it forwards or refuses a request as it says.
-/
import LocalMoe.Gateway.Prepare

namespace LocalMoe.Gateway

open Contracts Experts

variable {S : Service}

/-! ## Refusals -/

/-- Only `GatewayRequestError` and `ScopePolicyError` are raised. -/
def Refuses {α : Type} (x : Except Raised α) : Prop :=
  ∀ e, x = .error e → e.isExpected = true

variable {α : Type}

theorem Refuses.ok (a : α) : Refuses (.ok a) := fun _ h => (by cases h)

theorem Refuses.error {e : Raised} (h : e.isExpected = true) :
    Refuses (.error e : Except Raised α) := by
  intro e' he
  cases he
  exact h

variable {x : Except Raised α}

theorem Refuses.bind {β : Type} {f : α → Except Raised β} (hx : Refuses x)
    (hf : ∀ a, x = .ok a → Refuses (f a)) : Refuses (x >>= f) := by
  rcases x with e | a
  · exact .error (hx e rfl)
  · exact hf a rfl

theorem Refuses.ite {c : Prop} [Decidable c] {y : Except Raised α} (hx : Refuses x)
    (hy : Refuses y) : Refuses (if c then x else y) := by
  split
  · exact hx
  · exact hy

theorem Refuses.forM {f : α → Except Raised Unit} (items : List α) (h : ∀ a, Refuses (f a)) :
    Refuses (items.forM f) := by
  induction items with
  | nil => exact .ok ()
  | cons a rest ih => exact .bind (h a) fun _ _ => ih

theorem refuses_canonical (payload : Item) : Refuses (canonicalJsonBytes S payload) := by
  unfold canonicalJsonBytes
  split
  · exact .error rfl
  · exact .ok _

theorem refuses_size (body : List UInt8) (message : String) :
    Refuses (requireSize S body message) := .ite (.error rfl) (.ok ())

variable (payload : List (JsonText × Item))

theorem refuses_messages : Refuses (requireMessages payload) := by
  unfold requireMessages
  split
  · refine .ite (.error rfl) ?_
    split
    · exact .error rfl
    · exact .ok _
  · exact .error rfl

theorem refuses_contentUrls (messages : List (List (JsonText × Item))) :
    Refuses (validateMessageContentUrls S messages) := by
  refine .forM _ fun message => .forM _ fun part => ?_
  split
  · refine .forM _ fun url => ?_
    unfold validateContentUrl
    split
    · exact .error rfl
    · exact .ite (.error rfl) (.ok ())
  · exact .ok ()

theorem refuses_stream : Refuses (requireStream payload) := by
  unfold requireStream
  split
  · exact .ok _
  · exact .ok _
  · exact .error rfl

theorem refuses_tools : Refuses (requireTools payload) := by
  unfold requireTools
  split
  · exact .ok _
  · exact .ok _
  · exact .ite (.error rfl) (.ok _)
  · exact .error rfl

theorem refuses_screenPayload : Refuses (screenPayload S payload) := by
  refine .bind (.ite (.error rfl) (.ok _)) fun _ _ =>
    .bind (.ite (.error rfl) (.ok _)) fun _ _ => ?_
  refine .bind (refuses_canonical _) fun _ _ => .bind (refuses_size _ _) fun _ _ => ?_
  refine .bind (refuses_messages _) fun _ _ => .bind (refuses_contentUrls _) fun _ _ => ?_
  refine .bind (refuses_stream _) fun _ _ => .bind (refuses_tools _) fun _ _ => ?_
  exact .bind (.ite (.error rfl) (.ok _)) fun _ _ => .ok _

theorem refuses_selectExpert (requestedModel routing : Text) :
    Refuses (selectExpert S requestedModel routing) := by
  unfold selectExpert
  refine .ite (.ite (.error rfl) ?_) ?_
  · rcases hroute : route S.isLoopbackEndpoint S.config S.attestRoute (S.rank routing)
      with e | decision
    · obtain ⟨detail, rfl⟩ := route_error hroute
      exact .error rfl
    · dsimp only
      split
      · exact .error rfl
      · exact .ok _
  · split
    · exact .ok _
    · split
      · exact .ok _
      · exact .error rfl

theorem requireAllowed_error {isLoopbackEndpoint : Option String → Bool}
    {policy : ExecutionPolicy} {attest : Attestor} {target : ExecutionTarget} {e : Exc}
    (h : requireAllowed isLoopbackEndpoint policy attest target = .error e) :
    ∃ detail, e = .scopePolicy detail := by
  unfold requireAllowed at h
  dsimp only at h
  split at h
  · cases h
    exact ⟨_, rfl⟩
  · split at h
    · split at h
      · cases h
        exact ⟨_, rfl⟩
      · cases h
    · cases h
      exact ⟨_, rfl⟩

theorem refuses_chooseExpert (requestedModel routing : Text) :
    Refuses (chooseExpert S requestedModel routing) := by
  refine .bind (refuses_selectExpert _ _) ?_
  rintro ⟨expert, selectedIds⟩ -
  dsimp only
  rcases hallowed : requireAllowed S.isLoopbackEndpoint S.config.policy S.attestCall
    expert.executionTarget with e | attestation
  · obtain ⟨detail, rfl⟩ := requireAllowed_error hallowed
    exact .error rfl
  · dsimp only
    split
    · exact .error rfl
    · exact .error rfl
    · exact .ok _

theorem refuses_upstreamBody (expert : ExpertConfig) (canonical : List UInt8)
    (defaults : List (JsonText × Item)) : Refuses (upstreamBody S expert canonical defaults) :=
  .bind (refuses_canonical _) fun _ _ => .bind (refuses_size _ _) fun _ _ => .ok _

/-! ## The body -/

theorem get_addDefaults (key : JsonText) (defaults payload : List (JsonText × Item)) :
    Item.get key (addDefaults defaults payload) = match Item.get key payload with
      | some item => some item
      | none => if key ∈ reservedFields then none else Item.get key defaults := by
  induction defaults generalizing payload with
  | nil =>
    show Item.get key payload = _
    rcases Item.get key payload with _ | item
    · simp [Item.get]
    · rfl
  | cons entry rest ih =>
    obtain ⟨name, value⟩ := entry
    unfold addDefaults
    rw [List.foldl_cons]
    refine (ih _).trans ?_
    dsimp only
    by_cases hadd : name ∉ reservedFields ∧ Item.get name payload = none
    · rw [if_pos hadd, Item.get_set]
      by_cases hname : name = key
      · subst hname
        rw [if_pos rfl, hadd.2]
        simp [Item.get, hadd.1]
      · rw [if_neg hname]
        simp [Item.get, hname]
    · rw [if_neg hadd]
      rcases hpayload : Item.get key payload with _ | item
      · by_cases hname : name = key
        · subst hname
          have hreserved : name ∈ reservedFields := by
            by_contra hnot
            exact hadd ⟨hnot, hpayload⟩
          simp [hreserved]
        · simp [Item.get, hname]
      · rfl

/-- What a body says of a request: the model is the expert's, all else is the caller's, and
the defaults fill what is absent and not reserved. -/
structure Carries (expert : ExpertConfig) (payload defaults decoded : List (JsonText × Item)) :
    Prop where
  model : ∃ item, Item.field "model" decoded = some item ∧
    Item.Same (.str (JsonText.ofString expert.model)) item
  caller : ∀ key item, key ≠ JsonText.ofString "model" → Item.get key payload = some item →
    ∃ other, Item.get key decoded = some other ∧ Item.Same item other
  added : ∀ key item, key ≠ JsonText.ofString "model" → Item.get key payload = none →
    key ∉ reservedFields → Item.get key defaults = some item →
      ∃ other, Item.get key decoded = some other ∧ Item.Same item other
  nothingElse : ∀ key, key ≠ JsonText.ofString "model" → Item.get key payload = none →
    (key ∈ reservedFields ∨ Item.get key defaults = none) → Item.get key decoded = none

theorem get_same {entries others : List (JsonText × Item)} {key : JsonText} {item : Item}
    (hkeys : ∀ key, Item.get key entries = none ↔ Item.get key others = none)
    (hsame : ∀ key a b, Item.get key entries = some a → Item.get key others = some b →
      Item.Same a b) (hget : Item.get key entries = some item) :
    ∃ other, Item.get key others = some other ∧ Item.Same item other := by
  rcases hother : Item.get key others with _ | other
  · rw [(hkeys key).mpr hother] at hget
    cases hget
  · exact ⟨other, rfl, hsame key item other hget hother⟩

variable {body : List UInt8}

theorem canonicalJsonBytes_ok {payload : Item} (h : canonicalJsonBytes S payload = .ok body) :
    S.library.dumps payload = some body := by
  unfold canonicalJsonBytes at h
  split at h
  · cases h
  · next hdumps =>
    cases h
    exact hdumps

theorem requireSize_ok {message : String} (h : requireSize S body message = .ok ()) :
    body.length ≤ S.policy.maxRequestBytes := by
  unfold requireSize at h
  split at h
  · cases h
  · next hsize => exact Nat.le_of_not_lt hsize

theorem bind_eq_ok {β : Type} {f : α → Except Raised β} {b : β} :
    (x >>= f) = .ok b ↔ ∃ a, x = .ok a ∧ f a = .ok b := by
  rcases x with e | a
  · exact ⟨fun h => (by cases h), fun ⟨_, h, _⟩ => (by cases h)⟩
  · exact ⟨fun h => ⟨a, rfl, h⟩, fun ⟨_, h, hf⟩ => (by cases h; exact hf)⟩

variable {expert : ExpertConfig}

theorem upstreamBody_ok {canonical : List UInt8} {payload defaults : List (JsonText × Item)}
    (hcanonical : S.library.dumps (.dict payload) = some canonical)
    (h : upstreamBody S expert canonical defaults = .ok body) :
    (∃ decoded, S.library.loads body = .dict decoded ∧
      Carries expert payload defaults decoded) ∧ body.length ≤ S.policy.maxRequestBytes := by
  obtain ⟨clone, hclone, hkeys, hsame⟩ := (S.library.loads_dumps _ _ hcanonical).of_dict
  obtain ⟨found, hfound, h⟩ := bind_eq_ok.mp h
  obtain ⟨⟨⟩, hsize, h⟩ := bind_eq_ok.mp h
  cases h
  refine ⟨?_, requireSize_ok hsize⟩
  have hdumps := canonicalJsonBytes_ok hfound
  rw [hclone] at hdumps
  obtain ⟨decoded, hdecoded, hkeys', hsame'⟩ := (S.library.loads_dumps _ _ hdumps).of_dict
  have hget : ∀ key, key ≠ JsonText.ofString "model" →
      Item.get key (addDefaults defaults (Item.set (JsonText.ofString "model")
        (.str (JsonText.ofString expert.model)) clone)) =
        match Item.get key clone with
        | some item => some item
        | none => if key ∈ reservedFields then none else Item.get key defaults := by
    intro key hkey
    rw [get_addDefaults, Item.get_set, if_neg (Ne.symm hkey)]
  refine ⟨decoded, hdecoded, ?_, fun key item hkey hitem => ?_, fun key item hkey hnone hfree
    hitem => ?_, fun key hkey hnone hor => ?_⟩
  · refine get_same hkeys' hsame' ?_
    rw [get_addDefaults, Item.get_set, if_pos rfl]
  · obtain ⟨middle, hmiddle, hequal⟩ := get_same hkeys hsame hitem
    have hbase := hget key hkey
    rw [hmiddle] at hbase
    obtain ⟨other, hother, hequal'⟩ := get_same hkeys' hsame' hbase
    exact ⟨other, hother, hequal.trans hequal'⟩
  · refine get_same hkeys' hsame' ?_
    rw [hget key hkey, (hkeys key).mp hnone]
    simp only [if_neg hfree]
    exact hitem
  · refine (hkeys' key).mp ?_
    rw [hget key hkey, (hkeys key).mp hnone]
    rcases hor with hreserved | habsent
    · simp only [if_pos hreserved]
    · dsimp only
      split
      · rfl
      · exact habsent

/-! ## The expert -/

/-- The expert that a request names: the first OpenAI-compatible one of the route for the bare
alias, the one pinned by its id, or the only one with the model. -/
def Chosen (S : Service) (requestedModel routing : Text) (expert : ExpertConfig) : Prop :=
  (requestedModel = text S.policy.modelAlias ∧ ∃ decision,
    route S.isLoopbackEndpoint S.config S.attestRoute (S.rank routing) = .ok decision ∧
      decision.selected.findSome? S.expertById = some expert) ∨
  (requestedModel ≠ text S.policy.modelAlias ∧ expert ∈ S.experts ∧
    requestedModel = text S.policy.modelAlias ++ text "/" ++ text expert.id) ∨
  (requestedModel ≠ text S.policy.modelAlias ∧
    (∀ other ∈ S.experts,
      requestedModel ≠ text S.policy.modelAlias ++ text "/" ++ text other.id) ∧
    S.experts.filter (fun expert => requestedModel = text expert.model) = [expert])

variable {selectedIds : List String}

theorem selectExpert_ok {requestedModel routing : Text}
    (h : selectExpert S requestedModel routing = .ok (expert, selectedIds)) :
    Chosen S requestedModel routing expert := by
  unfold selectExpert at h
  dsimp only at h
  split at h
  · next halias =>
    split at h
    · cases h
    · split at h
      · cases h
      · cases h
      · next decision hroute =>
        split at h
        · cases h
        · next hfound =>
          cases h
          exact .inl ⟨halias, decision, hroute, hfound⟩
  · next halias =>
    split at h
    · next hpinned =>
      cases h
      have hname := List.find?_some hpinned
      exact .inr (.inl ⟨halias, List.mem_of_find?_eq_some hpinned, of_decide_eq_true hname⟩)
    · next hpinned =>
      split at h
      · next honly =>
        cases h
        refine .inr (.inr ⟨halias, fun other hother hname => ?_, honly⟩)
        exact List.find?_eq_none.mp hpinned other hother (decide_eq_true hname)
      · cases h

theorem chooseExpert_ok {requestedModel routing : Text} {baseUrl : String}
    (h : chooseExpert S requestedModel routing = .ok (expert, selectedIds, baseUrl)) :
    Chosen S requestedModel routing expert ∧ expert.baseUrl = some baseUrl := by
  obtain ⟨⟨found, ids⟩, hselect, h⟩ := bind_eq_ok.mp h
  dsimp only at h
  split at h
  · cases h
  · cases h
  · split at h
    · cases h
    · cases h
    · next url _ hurl =>
      cases h
      exact ⟨selectExpert_ok hselect, hurl⟩

/-! ## The claim -/

/-- A prepared request is the caller's, for the expert that it names. -/
structure Forwarded (S : Service) (payload : List (JsonText × Item))
    (prepared : PreparedChatCompletion) : Prop where
  expert : ∃ admitted, screenPayload S payload = .ok admitted ∧
    Chosen S admitted.requestedModel (routingText S admitted.messages) prepared.expert ∧
    ∃ defaults decoded,
      providerRequestParams S prepared.expert (routingText S admitted.messages) = some defaults ∧
      S.library.loads prepared.body = .dict decoded ∧
      Carries prepared.expert payload defaults decoded
  size : prepared.body.length ≤ S.policy.maxRequestBytes
  url : ∃ baseUrl, prepared.expert.baseUrl = some baseUrl ∧ prepared.url = chatUrl baseUrl

/-- A request was refused with an expected exception, or forwarded as the caller's. -/
def Expected (S : Service) (payload : List (JsonText × Item)) :
    Except Raised PreparedChatCompletion → Prop
  | .ok prepared => Forwarded S payload prepared
  | .error e => e.isExpected = true

/-- The request to an expert can be built: its defaults are a mapping; and when the body is
within the limit, its URL is one, and the routing text has no lone surrogate. -/
def Buildable (S : Service) (admitted : Admitted) (expert : ExpertConfig) (baseUrl : String) :
    Prop :=
  ∃ defaults, providerRequestParams S expert (routingText S admitted.messages) = some defaults ∧
    ((∃ body, upstreamBody S expert admitted.canonical defaults = .ok body) →
      S.library.refusesUrl (chatUrl baseUrl) = false ∧
        encodable (routingText S admitted.messages) = true)

/-- Whenever the checks let a request through and an expert is chosen, the request can be built. -/
def Preparable (S : Service) (payload : List (JsonText × Item)) : Prop :=
  ∀ admitted expert selectedIds baseUrl, screenPayload S payload = .ok admitted →
    chooseExpert S admitted.requestedModel (routingText S admitted.messages) =
        .ok (expert, selectedIds, baseUrl) → Buildable S admitted expert baseUrl

theorem screenPayload_canonical {payload : List (JsonText × Item)} {admitted : Admitted}
    (h : screenPayload S payload = .ok admitted) :
    S.library.dumps (.dict payload) = some admitted.canonical := by
  obtain ⟨_, -, h⟩ := bind_eq_ok.mp h
  obtain ⟨_, -, h⟩ := bind_eq_ok.mp h
  obtain ⟨canonical, hcanonical, h⟩ := bind_eq_ok.mp h
  obtain ⟨_, -, h⟩ := bind_eq_ok.mp h
  obtain ⟨_, -, h⟩ := bind_eq_ok.mp h
  obtain ⟨_, -, h⟩ := bind_eq_ok.mp h
  obtain ⟨_, -, h⟩ := bind_eq_ok.mp h
  obtain ⟨_, -, h⟩ := bind_eq_ok.mp h
  obtain ⟨_, -, h⟩ := bind_eq_ok.mp h
  cases h
  exact canonicalJsonBytes_ok hcanonical

theorem buildRequest_iff {payload : List (JsonText × Item)} {admitted : Admitted}
    {baseUrl : String} (correlation : Text) (hscreen : screenPayload S payload = .ok admitted)
    (hchoose : chooseExpert S admitted.requestedModel (routingText S admitted.messages) =
      .ok (expert, selectedIds, baseUrl)) :
    Expected S payload (buildRequest S admitted correlation (expert, selectedIds, baseUrl)) ↔
      Buildable S admitted expert baseUrl := by
  unfold buildRequest Buildable
  dsimp only
  rcases hparams : providerRequestParams S expert (routingText S admitted.messages)
    with _ | defaults
  · exact ⟨fun h => absurd h Bool.false_ne_true, fun ⟨_, h, _⟩ => (by cases h)⟩
  · dsimp only
    rcases hbody : upstreamBody S expert admitted.canonical defaults with e | body
    · refine ⟨fun _ => ⟨defaults, rfl, fun ⟨_, hok⟩ => ?_⟩,
        fun _ => refuses_upstreamBody _ _ _ e hbody⟩
      rw [hbody] at hok
      cases hok
    · dsimp only
      by_cases hurl : S.library.refusesUrl (chatUrl baseUrl) = true
      · rw [if_pos hurl]
        refine ⟨fun h => absurd h Bool.false_ne_true, fun ⟨_, hsome, h⟩ => ?_⟩
        cases hsome
        rw [(h ⟨body, hbody⟩).1] at hurl
        cases hurl
      · rw [if_neg hurl]
        by_cases hencodable : encodable (routingText S admitted.messages) = false
        · rw [if_pos hencodable]
          refine ⟨fun h => absurd h Bool.false_ne_true, fun ⟨_, hsome, h⟩ => ?_⟩
          cases hsome
          rw [(h ⟨body, hbody⟩).2] at hencodable
          cases hencodable
        · rw [if_neg hencodable]
          obtain ⟨hchosen, hbase⟩ := chooseExpert_ok hchoose
          obtain ⟨⟨decoded, hdecoded, hcarries⟩, hsize⟩ :=
            upstreamBody_ok (screenPayload_canonical hscreen) hbody
          refine ⟨fun _ => ⟨defaults, rfl, fun _ => ⟨?_, ?_⟩⟩, fun _ => ?_⟩
          · exact Bool.not_eq_true _ ▸ hurl
          · exact Bool.of_not_eq_false hencodable
          · exact ⟨⟨admitted, hscreen, hchosen, defaults, decoded, hparams, hdecoded, hcarries⟩,
              hsize, baseUrl, hbase, rfl⟩

theorem prepareChatCompletion_iff (correlation : Text) :
    Expected S payload (prepareChatCompletion S payload correlation) ↔ Preparable S payload := by
  unfold prepareChatCompletion
  rcases hscreen : screenPayload S payload with e | admitted
  · refine ⟨fun _ admitted _ _ _ hok => ?_, fun _ => refuses_screenPayload payload e hscreen⟩
    rw [hscreen] at hok
    cases hok
  · rcases hchoose : chooseExpert S admitted.requestedModel (routingText S admitted.messages)
      with e | ⟨expert, selectedIds, baseUrl⟩
    · refine ⟨fun _ other _ _ _ hok hchosen => ?_, fun _ => ?_⟩
      · cases hscreen.symm.trans hok
        rw [hchoose] at hchosen
        cases hchosen
      · show Expected S payload (chooseExpert S _ _ >>= _)
        rw [hchoose]
        exact refuses_chooseExpert _ _ e hchoose
    · have hbuild : Expected S payload (do
          let chosen ← chooseExpert S admitted.requestedModel (routingText S admitted.messages)
          buildRequest S admitted correlation chosen) ↔ Buildable S admitted expert baseUrl := by
        rw [hchoose]
        exact buildRequest_iff correlation hscreen hchoose
      refine hbuild.trans ⟨fun h other _ _ _ hok hchosen => ?_, fun h => h _ _ _ _ hscreen hchoose⟩
      cases hscreen.symm.trans hok
      cases hchoose.symm.trans hchosen
      exact h

/-- A library in which the client and the host of a call are loopback. -/
def loopbackLibrary : Library where
  urlsplit _ := some ⟨[], some (text "localhost")⟩
  ipAddress _ := none
  lower t := t.map fun code => if 65 ≤ code ∧ code ≤ 90 then code + 32 else code
  str _ := []
  dict _ := none
  dumps _ := none
  loads _ := .null
  sha256 _ := ""
  sha256Text _ := ""
  uuid := []
  refusesUrl _ := false
  loads_dumps := nofun

def keyedPolicy : GatewayPolicy := ⟨true, "mymoe", 1024, false, "GATEWAY_KEY", text "secret"⟩

/-- A call from the same machine with the token `é`. -/
def accentedCall : Headers :=
  ⟨text "localhost", some (text "Bearer é"), some (text "localhost"), none⟩

end LocalMoe.Gateway
