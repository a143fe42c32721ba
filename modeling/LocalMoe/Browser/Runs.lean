/-
  Clicks and texts are sent for the picture that was returned last, over every run of calls.
-/
import LocalMoe.Browser.Calls
import LocalMoe.Foundation.Machine

namespace LocalMoe.Browser

open Foundation Contracts

variable {E : Environment}

/-! ## Navigation -/

theorem Kept.navigated {c : Cell} {origin : BrowserOrigin} {url : String} (h : Kept E c)
    (hsession : c.session.isSome = true) (horigin : c.origin = some origin)
    (hparse : parseLocalOrigin E.library E.config.allowedHosts url = .ok origin) :
    Kept E { c with trace := c.trace ++ [.navigated url] } := by
  refine h.concat ?_ (fun _ _ => nofun) (fun _ => nofun) fun _ _ => nofun
  obtain ⟨session, hsome⟩ := Option.isSome_iff_exists.mp hsession
  have hlive := h.live
  unfold Live at hlive
  rw [hsome] at hlive
  obtain ⟨origin', since, horigin', hrunning, -⟩ := hlive
  cases horigin.symm.trans horigin'
  exact ⟨session, origin, since, hrunning, hparse⟩

variable (payload : List (String × Value))

theorem navigate_kept :
    Effect.Triple (Of (Between E)) (navigate E payload) (fun _ => Of (Between E))
      (fun _ => Of (Kept E)) := by
  refine .bind (conseq (ofExcept_kept _) (fun _ h => h) (fun _ _ h => h) fun _ h => h.kept)
    fun requested => ?_
  refine .bind self_kept fun c => ?_
  refine .bind (R := fun _ => Of fun c' => (parseLocalOrigin E.library E.config.allowedHosts
    (strip (E.library.text "url" payload)) = .ok requested) ∧ Between E c' ∧
      (c'.session = none ∨ c'.origin = some requested)) ?_ fun _ => ?_
  · refine .ite (fun _ => update_of fun c' h => ?_) fun hsame => .pure fun w h => ?_
    · exact ⟨h.2.1, h.2.2.kept.close.1, .inl rfl⟩
    · refine ⟨h.2.1, h.2.2, ?_⟩
      -- Either there is no origin, and so no session, or it is the requested one.
      rw [h.1]
      rcases horigin : c.origin with _ | origin
      · left
        rcases hsession : c.session with _ | session
        · rfl
        · have hlive := h.2.2.kept.live
          unfold Live at hlive
          rw [h.1, hsession] at hlive
          obtain ⟨origin, -, hsome, -⟩ := hlive
          cases horigin.symm.trans hsome
      · right
        by_contra hne
        exact hsame ⟨by rw [horigin]; exact nofun, by rw [horigin]; exact hne⟩
  · refine .bind (R := fun _ => Of fun c' => Startable E (fun _ => parseLocalOrigin E.library
      E.config.allowedHosts (strip (E.library.text "url" payload)) = .ok requested)
        (some requested) c') (update_of fun c' h => ?_) fun _ => ?_
    · exact ⟨h.2.1.kept.reorigin h.2.2, h.2.1.idle, rfl, h.1⟩
    · by_cases hparse : parseLocalOrigin E.library E.config.allowedHosts
          (strip (E.library.text "url" payload)) = .ok requested
      · refine .bind ((start_kept _ _).weaken (fun _ h => h) (fun _ _ h => h)
          fun _ _ h => h.kept) fun _ => ?_
        refine .bind (callUpstream_kept (Q := fun c => Kept E c ∧ c.session.isSome = true) _
          (fun c' _ _ h => ⟨h.1.navigated h.2.1 h.2.2.1 hparse, h.2.1⟩) (fun _ h => h.1)
          fun _ h => h.1) fun result => ?_
        exact commitObservation_kept result
      · exact fun w h => absurd h.other hparse

/-! ## Interactions -/

/-- The payload names the observation that the provider shows, which is the last event. -/
def Bound (E : Environment) (payload : List (String × Value)) (c : Cell) : Prop :=
  ∃ earlier o text, c.trace = earlier ++ [.returned o text] ∧ Shown E c o text ∧ Names payload o

/-- The page was fetched again since. -/
def Refetched (E : Environment) (payload : List (String × Value)) (url observation : String)
    (c : Cell) : Prop :=
  ∃ earlier o text, c.trace = earlier ++ [.returned o text, .fetched url observation] ∧
    Shown E c o text ∧ Names payload o

theorem Shown.same {c c' : Cell} {o : Observation} {text : String} (h : Shown E c o text)
    (hurl : c'.currentUrl = c.currentUrl) (horigin : c'.origin = c.origin)
    (hid : c'.browserSessionId = c.browserSessionId) (hrevision : c'.revision = c.revision)
    (hsha : c'.currentSnapshotSha256 = c.currentSnapshotSha256)
    (htargets : c'.currentTargets = c.currentTargets) : Shown E c' o text :=
  ⟨h.shows, by rw [hurl, h.url], by rw [horigin, h.origin], by rw [hid, h.browserSessionId],
    by rw [hrevision, h.revision], by rw [hsha, h.snapshotSha256], by rw [htargets, h.targets]⟩

theorem bound_of_validated {payload : List (String × Value)} {c : Cell} {origin : BrowserOrigin}
    (h : Between E c) (hrevision : validateRevision c payload)
    (hid : HasText "browser_session_id" c.browserSessionId payload)
    (horigin : c.origin = some origin) (hcanonical : HasText "origin" origin.canonical payload)
    (hsha : HasText "snapshot_sha256" c.currentSnapshotSha256 payload) : Bound E payload c := by
  obtain ⟨revision, hfield, rfl, hone⟩ := hrevision
  obtain ⟨earlier, o, text, htrace, hshown⟩ := h.delivered (by omega)
  refine ⟨earlier, o, text, htrace, hshown, ?_, ?_, ?_, ?_⟩
  · rw [hshown.revision]
    exact hfield
  · rw [hshown.browserSessionId]
    exact hid
  · have hmap := hshown.origin
    rw [horigin, Option.map_some] at hmap
    rw [← Option.some.inj hmap]
    exact hcanonical
  · rw [hshown.snapshotSha256]
    exact hsha

theorem validateStateBinding_kept :
    Effect.Triple (Of (Between E)) (validateStateBinding payload)
      (fun _ => Of fun c => Between E c ∧ Bound E payload c) (fun _ => Of (Kept E)) := by
  refine .bind self_kept fun c => ?_
  refine .bind (conseq (require_kept _ _) (fun _ h => h) (fun _ _ h => h) fun _ h => h.2.kept)
    fun _ => ?_
  refine .bind (conseq (require_kept _ _) (fun _ h => h) (fun _ _ h => h) fun _ h => h.2.2.kept)
    fun _ => ?_
  refine .bind (conseq requireOrigin_kept (fun _ h => h) (fun _ _ h => h)
    fun _ h => h.2.2.2.kept) fun origin => ?_
  refine .bind (conseq (require_kept _ _) (fun _ h => h) (fun _ _ h => h)
    fun _ h => h.2.2.2.2.kept) fun _ => ?_
  refine conseq (require_kept _ _) (fun _ h => h) (fun _ c' h => ?_) fun _ h => h.2.2.2.2.2.kept
  obtain ⟨hsha, hcanonical, horigin, hid, hrevision, rfl, hbetween⟩ := h
  exact ⟨hbetween, bound_of_validated hbetween hrevision hid horigin hcanonical hsha⟩

/-- An interaction with this target is approved by what the page shows now. -/
def Approved (E : Environment) (payload : List (String × Value)) (target label : String)
    (c : Cell) : Prop :=
  ∃ earlier o text fetched, c.trace = earlier ++ [.returned o text, .fetched o.url fetched] ∧
    Shown E c o text ∧ Names payload o ∧ c.currentTargets.lookup target = some label ∧
    (fetched = text ∨ Collision E fetched text)

theorem approved_of_unchanged {payload : List (String × Value)} {target label url observation
    snapshotSha256 : String} {c : Cell} (h : Refetched E payload url observation c)
    (hlookup : c.currentTargets.lookup target = some label) (hurl : url = c.currentUrl)
    (hsha : E.library.sha256 observation = .ok snapshotSha256)
    (hsame : snapshotSha256 = c.currentSnapshotSha256) : Approved E payload target label c := by
  obtain ⟨earlier, o, text, htrace, hshown, hnames⟩ := h
  refine ⟨earlier, o, text, observation, ?_, hshown, hnames, hlookup, ?_⟩
  · rw [htrace, hshown.url, hurl]
  · by_cases htext : observation = text
    · exact .inl htext
    · refine .inr ⟨htext, snapshotSha256, hsha, ?_⟩
      rw [hsame, ← hshown.snapshotSha256]
      exact hshown.shows.sha256

theorem preflightInteraction_kept (target label : String) :
    Effect.Triple
      (Of fun c => Kept E c ∧ Bound E payload c ∧ c.currentTargets.lookup target = some label)
      (preflightInteraction E target label)
      (fun _ => Of fun c => Kept E c ∧ Approved E payload target label c)
      (fun _ => Of (Kept E)) := by
  refine .bind (fetch_kept fun _ h => h.1) fun result => ?_
  refine .bind (conseq (parseObservation_kept result) (fun _ h => h) (fun _ _ h => h)
    fun _ h => h.2.1) ?_
  rintro ⟨observation, currentUrl⟩
  refine .bind (R := fun _ => Of fun c => Kept E c ∧
    Refetched E payload currentUrl observation c ∧ c.currentTargets.lookup target = some label)
    (update_of fun c h => ?_) fun _ => ?_
  · obtain ⟨-, -, hkept, ⟨earlier, o, text, htrace, hshown, hnames⟩, hlookup⟩ := h
    refine ⟨hkept.concat trivial (fun _ _ => nofun) (fun _ => nofun) fun _ _ => nofun,
      ⟨earlier, o, text, ?_, hshown.same rfl rfl rfl rfl rfl rfl, hnames⟩, hlookup⟩
    dsimp only
    rw [htrace, List.append_assoc]
    rfl
  · refine .bind (conseq (ofExcept_kept _) (fun _ h => h) (fun _ _ h => h)
      fun _ h => h.1) fun targets => ?_
    refine .bind (conseq (ofExcept_kept _) (fun _ h => h) (fun _ _ h => h)
      fun _ h => h.2.1) fun snapshotSha256 => ?_
    refine .bind self_kept fun c => ?_
    refine conseq (require_kept _ _) (fun _ h => h) (fun _ c' h => ?_) fun _ h => h.2.2.2.1
    obtain ⟨⟨hurl, hsame, -⟩, rfl, hsha, -, hkept, hfetched, hlookup⟩ := h
    exact ⟨hkept, approved_of_unchanged hfetched hlookup hurl hsha hsame⟩

theorem Kept.sent {c : Cell} {payload : List (String × Value)} {label : String}
    {text : Option String} (h : Kept E c)
    (happroved : Approved E payload (strip (E.library.text "target" payload)) label c)
    (hlabel : HasText "target_label" label payload) :
    Kept E { c with trace := c.trace ++
      [.sent ⟨payload, strip (E.library.text "target" payload), label, text⟩] } := by
  refine h.concat ?_ (fun _ _ => nofun) (fun _ => nofun) fun _ _ => nofun
  obtain ⟨earlier, o, shown, fetched, htrace, hshown, hnames, hlookup, hsame⟩ := happroved
  exact ⟨earlier, o, shown, fetched, htrace, hshown.shows, hnames, rfl, hlabel,
    ⟨c.currentTargets, hshown.targets, hlookup⟩, hsame⟩

theorem interact_kept (action : String) (payload : List (String × Value)) :
    Effect.Triple (Of fun c => Kept E c ∧ Bound E payload c) (interact E action payload)
      (fun _ => Of (Between E)) (fun _ => Of (Kept E)) := by
  refine .bind (conseq (require_kept _ _) (fun _ h => h) (fun _ _ h => h) fun _ h => h.1)
    fun _ => .bind self_kept fun c => ?_
  split
  · exact refuse_of _ fun _ h => h.2.2.1
  · next label hlookup =>
    refine .bind (conseq (require_kept _ _) (fun _ h => h) (fun _ _ h => h)
      fun _ h => h.2.2.1) fun _ => ?_
    refine .bind (R := fun _ => Of fun c' => HasText "target_label" label payload ∧
      Kept E c' ∧ Approved E payload (strip (E.library.text "target" payload)) label c')
      ?_ fun _ => ?_
    · by_cases hlabel : HasText "target_label" label payload
      · refine conseq (preflightInteraction_kept payload _ label) (fun c' h => ?_)
          (fun _ _ h => ⟨hlabel, h⟩) fun _ h => h
        obtain ⟨-, rfl, -, hkept, hbound⟩ := h
        exact ⟨hkept, hbound, hlookup⟩
      · exact fun w h => absurd h.1 hlabel
    · refine .bind (conseq (require_kept _ _) (fun _ h => h) (fun _ _ h => h)
        fun _ h => h.2.1) fun _ => ?_
      refine .bind (callUpstream_kept (Q := Kept E) _
        (fun c' _ _ h => h.2.2.1.sent h.2.2.2 h.2.1) (fun _ h => h.2.2.1) fun _ h => h)
        fun _ => ?_
      exact observeCurrent_kept

/-! ## Execute and observe -/

theorem executeBody_kept (action : String) (payload : List (String × Value)) :
    Effect.Triple (Of (Between E)) (executeBody E action payload) (fun _ => Of (Between E))
      (fun _ => Of (Kept E)) := by
  refine .ite (fun _ => navigate_kept payload) fun _ => ?_
  refine .bind (conseq requireHealthyState_kept (fun _ h => h) (fun _ _ h => h.2)
    fun _ h => h.kept) fun _ => ?_
  refine .bind (validateStateBinding_kept payload) fun _ => .ite (fun _ => ?_) fun _ => ?_
  · exact weaken_of observeCurrent_kept fun _ h => h.1.kept
  · refine .bind (conseq (require_kept _ _) (fun _ h => h) (fun _ _ h => h.2)
      fun _ h => h.1.kept) fun _ => ?_
    exact weaken_of (interact_kept action payload) fun _ h => ⟨h.1.kept, h.2⟩

theorem execute_between (action : String) (payload : List (String × Value)) :
    Effect.Triple (Of (Between E)) (execute E action payload) (fun _ => Of (Between E))
      (fun _ => Of (Closed E)) :=
  closing_closed (executeBody_kept action payload)

theorem closing_observe :
    Effect.Triple (Of (Between E)) (closing (observeCurrent E)) (fun _ => Of (Between E))
      (fun _ => Of (Closed E)) :=
  weaken_of (closing_closed observeCurrent_kept) fun _ h => h.kept

theorem observe_between :
    Effect.Triple (Of (Between E)) (observe E) (fun _ => Of (Between E))
      (fun _ => Of (Between E)) := by
  refine .bind (R := fun _ => Of (Between E)) ?_ fun _ => ?_
  · exact conseq requireHealthyState_kept (fun _ h => h) (fun _ _ h => h.2) fun _ h => h
  · exact closing_observe.weaken (fun _ h => h) (fun _ _ h => h) fun _ _ h => h.1

theorem requireHealthyState_cell (w : World) :
    (requireHealthyState E w).1.cell = w.cell := by
  have h := (requireHealthyState_kept (E := E) (P := fun c => c = w.cell)).outcome
    (s := w) (rfl : Of _ w)
  rcases h with ⟨_, -, h⟩ | ⟨_, -, h⟩
  · exact h.2
  · exact h

variable {w : World}

theorem observe_error {v : World} {e : Raised} (h : requireHealthyState E w = (v, .error e)) :
    observe E w = (v, .error e) := by
  show (requireHealthyState E >>= fun _ => closing (observeCurrent E)) w = _
  rw [Effect.bind_run, h]

theorem observe_ok {v : World} (h : requireHealthyState E w = (v, .ok ())) :
    observe E w = closing (observeCurrent E) v := by
  show (requireHealthyState E >>= fun _ => closing (observeCurrent E)) w = _
  rw [Effect.bind_run, h]

/-! ## Calls -/

/-- A call on the provider. -/
inductive Request where
  | start
  | close
  | observe
  | execute (action : String) (payload : List (String × Value))

/-- One provider, called any number of times. -/
def provider (E : Environment) : Machine World Request (Except Raised (Option Observation)) where
  init := World.init
  step w
    | .start =>
      let (w', result) := start E w
      (result.map fun _ => none, w')
    | .close =>
      let (w', result) := close w
      (result.map fun _ => none, w')
    | .observe =>
      let (w', result) := observe E w
      (result.map some, w')
    | .execute action payload =>
      let (w', result) := execute E action payload w
      (result.map some, w')

/-- When `observe` is called, no session is open or the state is healthy. -/
def Checked (E : Environment) (w : World) : Request → Prop
  | .observe => w.cell.session = none ∨ (requireHealthyState E w).2 = .ok ()
  | _ => True

theorem map_error {α β : Type} {f : α → β} {result : Except Raised α} {e : Raised}
    (h : result.map f = .error e) : result = .error e := by
  cases result with
  | error => cases h; rfl
  | ok => cases h

theorem step_between (h : Between E w.cell) (request : Request) :
    Between E ((provider E).next w request).cell := by
  have hclosed : ∀ {α : Type} {x : Action α},
      Effect.Triple (Of (Between E)) x (fun _ => Of (Between E)) (fun _ => Of (Closed E)) →
        Between E (x w).1.cell := fun hx =>
    (hx.weaken (fun _ h => h) (fun _ _ h => h) fun _ _ h => h.1).after (I := Of (Between E)) h
  cases request with
  | start => exact hclosed start_between
  | close => exact h.kept.close.1
  | observe => exact observe_between.after (I := Of (Between E)) h
  | execute action payload => exact hclosed (execute_between action payload)

theorem run_between (requests : List Request) :
    Between E ((provider E).exec World.init requests).cell :=
  Machine.Stable.exec (M := provider E) (P := fun w => Between E w.cell)
    (fun _ request h => step_between h request) between_init requests

theorem observe_closed_iff (h : Between E w.cell) :
    (∀ e w', (provider E).step w .observe = (.error e, w') → w'.cell.session = none) ↔
      Checked E w .observe := by
  have hstep : (provider E).step w .observe = ((observe E w).2.map some, (observe E w).1) := rfl
  have hcell := requireHealthyState_cell (E := E) w
  rw [hstep]
  rcases hcheck : requireHealthyState E w with ⟨v, e | ⟨⟩⟩
  · rw [hcheck] at hcell
    rw [observe_error hcheck]
    constructor
    · intro hnone
      exact .inl (hcell ▸ hnone e v rfl)
    · rintro (hsession | hok) e' w' hraised
      · obtain ⟨-, rfl⟩ := Prod.mk.inj hraised
        exact hcell ▸ hsession
      · rw [hcheck] at hok
        cases hok
  · rw [hcheck] at hcell
    rw [observe_ok hcheck]
    refine ⟨fun _ => .inr (by rw [hcheck]), fun _ e' w' hraised => ?_⟩
    obtain ⟨herror, rfl⟩ := Prod.mk.inj hraised
    have hv : Of (Between E) v := by
      show Between E v.cell
      rw [hcell]
      exact h
    exact ((closing_observe v hv).2 e' _ (Prod.ext rfl (map_error herror))).2

theorem step_closed_iff (h : Between E w.cell) (request : Request) :
    (∀ e w', (provider E).step w request = (.error e, w') → w'.cell.session = none) ↔
      Checked E w request := by
  have hclosed : ∀ {α β : Type} {x : Action α} {f : α → β} {e : Raised},
      Effect.Triple (Of (Between E)) x (fun _ => Of (Between E)) (fun _ => Of (Closed E)) →
        (x w).2.map f = .error e → (x w).1.cell.session = none := by
    intro α β x f e hx hraised
    exact ((hx w h).2 e _ (Prod.ext rfl (map_error hraised))).2
  cases request with
  | start =>
    refine ⟨fun _ => trivial, fun _ e w' hstep => ?_⟩
    obtain ⟨hraised, rfl⟩ := Prod.mk.inj hstep
    exact hclosed start_between hraised
  | close => exact ⟨fun _ => trivial, fun _ e w' hstep => (by cases hstep)⟩
  | execute action payload =>
    refine ⟨fun _ => trivial, fun _ e w' hstep => ?_⟩
    obtain ⟨hraised, rfl⟩ := Prod.mk.inj hstep
    exact hclosed (execute_between action payload) hraised
  | observe => exact observe_closed_iff h

/-! ## What a trace shows -/

structure Pictured (E : Environment) (trace : List Event) : Prop where
  /-- A click or a text is sent right after the page was fetched again, which was right after
  the observation that approves it was returned. -/
  sent : ∀ before i after, trace = before ++ .sent i :: after → ∃ earlier o text fetched,
    before = earlier ++ [.returned o text, .fetched o.url fetched] ∧ Approves E o text fetched i
  /-- Between two of them another observation was returned. -/
  single : ∀ before i between j after,
    trace = before ++ .sent i :: between ++ .sent j :: after → ∃ o text, .returned o text ∈ between
  /-- A URL is navigated to in the running session of its origin, with all others closed. -/
  navigated : ∀ before url after, trace = before ++ .navigated url :: after →
    ∃ session origin since, Running before session origin since ∧
      parseLocalOrigin E.library E.config.allowedHosts url = .ok origin
  /-- A page is returned in the running session of its origin. -/
  returned : ∀ before o text after, trace = before ++ .returned o text :: after →
    Shows E o text ∧ ∃ session origin since, Running before session origin since ∧
      parseLocalOrigin E.library E.config.allowedHosts o.url = .ok origin ∧
      o.origin = origin.canonical
  /-- Within a session the revisions increase. -/
  increasing : ∀ before o text between o' text' after,
    trace = before ++ .returned o text :: between ++ .returned o' text' :: after →
    (∀ m p, Event.opened m p ∉ between) →
      o.revision < o'.revision ∧ o.browserSessionId = o'.browserSessionId
  /-- A session is new, and all others are closed when it is opened. -/
  opened : ∀ before session origin after, trace = before ++ .opened session origin :: after →
    ∀ m p, Event.opened m p ∈ before → m ≠ session ∧ Event.closed m ∈ before

theorem Running.mem_since {before between since : List Event} {event : Event} {session : Nat}
    {origin : BrowserOrigin} (h : Running (before ++ event :: between) session origin since)
    (hevent : ∀ m p, event ≠ .opened m p) (hnone : ∀ m p, Event.opened m p ∉ between) :
    event ∈ since := by
  obtain ⟨⟨early, hsplit, -⟩, -, -⟩ := h
  rcases List.append_eq_append_iff.mp hsplit with ⟨rest, rfl, hrest⟩ | ⟨rest, rfl, hrest⟩
  · cases rest with
    | nil => exact absurd (List.cons.inj hrest).1 (hevent session origin)
    | cons first rest =>
      obtain ⟨-, hbetween⟩ := List.cons.inj hrest
      have hopened : Event.opened session origin ∈ between := by
        rw [hbetween]
        exact List.mem_append_right _ List.mem_cons_self
      exact absurd hopened (hnone session origin)
  · cases rest with
    | nil => exact absurd (List.cons.inj hrest).1.symm (hevent session origin)
    | cons first rest =>
      obtain ⟨-, hsince⟩ := List.cons.inj hrest
      rw [hsince]
      exact List.mem_append_right _ List.mem_cons_self

theorem mem_of_suffix {early between : List Event} {earlier : List Event} {event a b : Event}
    (h : early ++ event :: between = earlier ++ [a, b]) (ha : event ≠ a) (hb : event ≠ b) :
    a ∈ between := by
  rcases List.eq_nil_or_concat between with rfl | ⟨rest, last, rfl⟩
  · have hsplit : early ++ [event] = (earlier ++ [a]) ++ [b] := by
      rw [h, List.append_assoc]
      rfl
    exact absurd (List.cons.inj (List.append_inj' hsplit rfl).2).1 hb
  · have hsplit : (early ++ event :: rest) ++ [last] = (earlier ++ [a]) ++ [b] := by
      rw [List.append_assoc, List.append_assoc]
      simpa using h
    have hinner : early ++ event :: rest = earlier ++ [a] := (List.append_inj' hsplit rfl).1
    rcases List.eq_nil_or_concat rest with rfl | ⟨rest, other, rfl⟩
    · exact absurd (List.cons.inj (List.append_inj' hinner rfl).2).1 ha
    · have hdeep : (early ++ event :: rest) ++ [other] = earlier ++ [a] := by
        rw [← hinner]
        simp
      obtain ⟨rfl, -⟩ := List.cons.inj (List.append_inj' hdeep rfl).2
      simp

theorem Justified.pictured {trace : List Event} (h : Justified (rule E) trace) :
    Pictured E trace where
  sent before i after htrace := h before _ after htrace
  single before i between j after htrace := by
    obtain ⟨earlier, o, text, fetched, hpast, -⟩ := h _ (.sent j) after htrace
    exact ⟨o, text, mem_of_suffix hpast nofun nofun⟩
  navigated before url after htrace := h before _ after htrace
  returned before o text after htrace := by
    obtain ⟨hshows, session, origin, since, hrunning, hparse, hcanonical, -⟩ :=
      h before _ after htrace
    exact ⟨hshows, session, origin, since, hrunning, hparse, hcanonical⟩
  increasing before o text between o' text' after htrace hnone := by
    obtain ⟨-, session, origin, since, hrunning, -, -, hbelow⟩ :=
      h _ (.returned o' text') after htrace
    exact hbelow o text (hrunning.mem_since (fun _ _ => nofun) hnone)
  opened before session origin after htrace := h before _ after htrace

/-- In every run of calls, clicks and texts are sent for the picture that was returned last,
pages stay on the origin of their session, and a call that raises closes the session exactly
when it is no `observe` that finds an unhealthy state beside an open session. -/
theorem interactions_pictured (E : Environment) (requests : List Request) (request : Request) :
    Pictured E ((provider E).exec World.init requests).cell.trace ∧
      ((∀ e w', (provider E).step ((provider E).exec World.init requests) request =
          (.error e, w') → w'.cell.session = none) ↔
        Checked E ((provider E).exec World.init requests) request) :=
  ⟨Justified.pictured (run_between requests).kept.justified,
    step_closed_iff (run_between requests) request⟩

/-! ## An egress guard that is gone -/

/-- Answers of a page whose egress guard is gone after the first observation. -/
def unguardedReplies (call : Nat) : Replies where
  sessionActive := true
  proxyActive := call != 13
  attest := .ok ()
  proxy := .ok ()
  proxyStart := .ok ()
  directory := .ok ()
  environment := .ok ()
  openSession := .ok ()
  listTools := .ok (requiredTools.map fun name => (name, "schema"))
  token := "token"
  callTool := .ok ⟨false, [[("type", .str "text"), ("text", .str "Page URL: http://localhost/")]]⟩
  snapshotFile := .error .other
  blocked := 0

def unguarded : Environment where
  library := ⟨fun _ => some ⟨"http", none, none, some "localhost", none, ""⟩, fun _ => none, id,
    fun _ => "", .ok⟩
  config := ⟨["localhost"], requiredTools.map fun name => (name, "schema"), 1024⟩
  replies := unguardedReplies

/-- `observe` raises when the egress guard is gone, and the session stays open. -/
theorem unguarded_session_open :
    let w := (provider unguarded).exec World.init
      [.execute "navigate" [("url", .str "http://localhost/")]]
    (provider unguarded).output w .observe =
        .error (.toolExecution "Browser egress guard is unavailable.") ∧
      ((provider unguarded).next w .observe).cell.session = some 0 := by
  decide +kernel

end LocalMoe.Browser
