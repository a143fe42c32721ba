/-
  Start, observe and execute keep the invariant, and close the session when they raise.
-/
import LocalMoe.Browser.Steps

namespace LocalMoe.Browser

open Foundation Contracts

variable {E : Environment}

/-! ## Observations -/

/-- A new observation of a page may be returned. -/
structure Advanced (E : Environment) (url : String) (c : Cell) : Prop where
  page : ∃ origin, c.origin = some origin ∧
    parseLocalOrigin E.library E.config.allowedHosts url = .ok origin
  currentUrl : c.currentUrl = url
  session : c.session.isSome = true
  justified : Justified (rule E) c.trace
  numbers : ∀ m p, Event.opened m p ∈ c.trace → m < c.opened
  live : Live c c.revision

variable {c : Cell}

theorem Live.mono {bound bound' : Nat} (h : Live c bound) (hle : bound ≤ bound') :
    Live c bound' := by
  unfold Live at h ⊢
  split
  · next hsession =>
    rw [hsession] at h
    exact h
  · next session hsession =>
    rw [hsession] at h
    obtain ⟨origin, since, horigin, hrunning, hsince⟩ := h
    exact ⟨origin, since, horigin, hrunning, fun o text ho =>
      ⟨(hsince o text ho).1.trans_le hle, (hsince o text ho).2⟩⟩

theorem Advanced.kept {url : String} (h : Advanced E url c) : Kept E c :=
  ⟨h.justified, h.numbers, h.live.mono (Nat.le_succ _)⟩

theorem Advanced.returned {url text : String} {c : Cell} {o : Observation}
    (h : Advanced E url c) (hshown : Shown E c o text) :
    Between E { c with trace := c.trace ++ [.returned o text] } := by
  obtain ⟨origin, horigin, hparse⟩ := h.page
  obtain ⟨session, hsession⟩ := Option.isSome_iff_exists.mp h.session
  have hlive := h.live
  unfold Live at hlive
  rw [hsession] at hlive
  obtain ⟨origin', since, horigin', hrunning, hsince⟩ := hlive
  cases horigin.symm.trans horigin'
  have hcanonical : o.origin = origin.canonical := by
    have hmap := hshown.origin
    rw [horigin, Option.map_some] at hmap
    exact (Option.some.inj hmap).symm
  have hbelow : ∀ o' text', Event.returned o' text' ∈ since →
      o'.revision < o.revision ∧ o'.browserSessionId = o.browserSessionId := by
    intro o' text' ho
    rw [hshown.revision, hshown.browserSessionId]
    exact hsince o' text' ho
  refine ⟨⟨h.justified.concat ⟨hshown.shows, session, origin, since, hrunning, ?_, hcanonical,
    hbelow⟩, fun m p hm => ?_, ?_⟩, fun _ => ?_, fun hnone => ?_⟩
  · rw [hshown.url, h.currentUrl]
    exact hparse
  · rcases List.mem_append.mp hm with hm | hm
    · exact h.numbers m p hm
    · cases List.mem_singleton.mp hm
  · unfold Live
    simp only [hsession]
    refine ⟨origin, _, horigin, hrunning.concat (fun _ _ => nofun) fun _ => nofun,
      fun o' text' ho => ?_⟩
    rcases List.mem_append.mp ho with ho | ho
    · exact ⟨Nat.lt_succ_of_lt (hsince o' text' ho).1, (hsince o' text' ho).2⟩
    · cases List.mem_singleton.mp ho
      exact ⟨hshown.revision ▸ Nat.lt_succ_self _, hshown.browserSessionId⟩
  · exact ⟨c.trace, o, text, rfl, ⟨hshown.shows, hshown.url, hshown.origin,
      hshown.browserSessionId, hshown.revision, hshown.snapshotSha256, hshown.targets⟩⟩
  · cases hnone.symm.trans hsession

theorem observationPayload_ok {observation currentUrl origin id : String}
    {revision maxChars blocked : Nat} {L : Library} {o : Observation}
    (h : observationPayload L observation currentUrl origin id revision maxChars blocked = .ok o) :
    L.sha256 observation = .ok o.snapshotSha256 ∧ o.snapshot = rendered maxChars observation ∧
      o.url = currentUrl ∧ o.origin = origin ∧ o.browserSessionId = id ∧ o.revision = revision := by
  unfold observationPayload at h
  rcases hsha : L.sha256 observation with e | digest
  · rw [hsha] at h
    cases h
  · rw [hsha] at h
    cases h
    exact ⟨rfl, rfl, rfl, rfl, rfl, rfl⟩

theorem commitObservation_kept (result : CallResult) :
    Effect.Triple (Of fun c => Kept E c ∧ c.session.isSome = true) (commitObservation E result)
      (fun _ => Of (Between E)) (fun _ => Of (Kept E)) := by
  refine .bind (conseq (parseObservation_kept result) (fun _ h => h) (fun _ _ h => h)
    fun _ h => h.1) ?_
  rintro ⟨observation, currentUrl⟩
  refine .bind (conseq requireProxy_kept (fun _ h => h) (fun _ _ h => h) fun _ h => h.2.1)
    fun _ => ?_
  refine .bind (R := fun _ => Of (Advanced E currentUrl)) (update_of fun c h => ?_) fun _ => ?_
  · exact ⟨h.1, rfl, h.2.2, h.2.1.justified, h.2.1.numbers, h.2.1.live⟩
  · refine .bind self_kept fun c => ?_
    refine .bind (conseq requireOrigin_kept (fun _ h => h) (fun _ _ h => h)
      fun _ h => h.2.kept) fun origin => ?_
    refine .bind (peek_kept _) fun blocked => ?_
    refine .bind (conseq (ofExcept_kept _) (fun _ h => h) (fun _ _ h => h)
      fun _ h => h.2.2.kept) fun payloadResult => ?_
    refine .bind (conseq (ofExcept_kept _) (fun _ h => h) (fun _ _ h => h)
      fun _ h => h.2.2.2.kept) fun targets => ?_
    refine .bind (R := fun _ => Of fun c => Advanced E currentUrl c ∧
      Shown E c payloadResult observation) (update_of fun c' h => ?_) fun _ => ?_
    · obtain ⟨htargets, hpayload, horigin, rfl, hadvanced⟩ := h
      obtain ⟨hsha, hsnapshot, hurl, hcanonical, hid, hrevision⟩ := observationPayload_ok hpayload
      refine ⟨⟨hadvanced.page, hadvanced.currentUrl, hadvanced.session, hadvanced.justified,
        hadvanced.numbers, hadvanced.live⟩, ⟨hsnapshot, hsha⟩,
        hurl.trans hadvanced.currentUrl.symm, ?_, hid, hrevision, rfl, htargets⟩
      rw [horigin, hcanonical, Option.map_some]
    · refine .bind (R := fun _ => Of (Between E)) (update_of fun c' h => ?_) fun _ => ?_
      · exact h.1.returned h.2
      · exact .pure fun _ h => h

theorem observeCurrent_kept :
    Effect.Triple (Of (Kept E)) (observeCurrent E) (fun _ => Of (Between E))
      (fun _ => Of (Kept E)) := by
  refine .bind (fetch_kept fun _ h => h) fun result => ?_
  exact weaken_of (commitObservation_kept result) fun c h => ⟨h.2, h.1⟩

/-! ## Start -/

/-- What a start may be called with. -/
structure Startable (E : Environment) (D : Cell → Prop) (origin : Option BrowserOrigin)
    (c : Cell) : Prop where
  kept : Kept E c
  idle : c.session = none → c.revision = 0
  origin : c.origin = origin
  other : D c

/-- A provider without a session, which may launch one. -/
structure Vacant (E : Environment) (c : Cell) : Prop where
  kept : Kept E c
  session : c.session = none
  revision : c.revision = 0

theorem Vacant.closed (h : Vacant E c) : Closed E c :=
  ⟨⟨h.kept, fun hrevision => absurd hrevision (by rw [h.revision]; decide), fun _ => h.revision⟩,
    h.session⟩

theorem Closed.vacant (h : Closed E c) : Vacant E c := ⟨h.1.kept, h.2, h.1.idle h.2⟩

variable {R : Raised → World → Prop}

theorem isHealthy_kept {P : Cell → Prop} : Effect.Triple (Of P) (isHealthy E)
      (fun healthy => Of fun c => (healthy = true → c.session.isSome = true) ∧ P c) R := by
  refine .bind self_kept fun c => ?_
  refine .ite (fun _ => .pure fun w h => ⟨nofun, h.2⟩) fun hsession => ?_
  have hsome : c.session.isSome = true := by
    rcases hc : c.session with _ | session
    · exact absurd (by rw [hc]; rfl) hsession
    · rfl
  refine .bind (peek_kept _) fun active => .ite (fun _ => .pure fun w h => ⟨nofun, h.2⟩) fun _ => ?_
  refine .bind (peek_kept _) fun active => .pure fun w h => ⟨fun _ => ?_, h.2⟩
  rw [h.1]
  exact hsome

variable {origin : Option BrowserOrigin}

theorem restart_kept {D : Cell → Prop} : Effect.Triple (Of (Startable E D origin)) restart
      (fun _ => Of fun c => Vacant E c ∧ c.origin = origin) R := by
  refine .bind self_kept fun c => .ite (fun _ => ?_) fun hleft => ?_
  · refine .bind (R := fun _ => Of fun c' => Closed E c' ∧ c.origin = origin)
      (update_of fun c' h => ⟨h.2.kept.close, h.1 ▸ h.2.origin⟩) fun _ => ?_
    refine update_of fun c' h => ⟨⟨h.1.1.kept.reorigin (.inl h.1.2), h.1.2, ?_⟩, h.2⟩
    exact h.1.1.idle h.1.2
  · refine .pure fun w h => ⟨⟨h.2.kept, ?_, ?_⟩, h.2.origin⟩
    · rw [h.1]
      exact Option.not_isSome_iff_eq_none.mp fun hs => hleft (.inl hs)
    · refine h.2.idle ?_
      rw [h.1]
      exact Option.not_isSome_iff_eq_none.mp fun hs => hleft (.inl hs)

theorem openSession_kept (origin : BrowserOrigin) :
    Effect.Triple (Of fun c => Vacant E c ∧ c.origin = some origin) (openSession E origin)
      (fun _ => Of fun c => Kept E c ∧ c.session.isSome = true ∧ c.origin = some origin ∧
        c.revision = 0) (fun _ => Of (Kept E)) := by
  refine .bind (conseq (ask_kept _) (fun _ h => h) (fun _ _ h => h) fun _ h => h.1.kept) fun _ => ?_
  -- The identifier of the new session is free until it is drawn.
  let I : Cell → Prop := fun c => (∀ id, Kept E { c with browserSessionId := id }) ∧
    c.session.isSome = true ∧ c.origin = some origin ∧ c.revision = 0
  have hI : ∀ c, I c → Kept E c := fun c h => h.1 c.browserSessionId
  refine .bind (R := fun _ => Of I) (update_of fun c h => ?_) fun _ => ?_
  · exact ⟨fun id => h.1.kept.opened h.1.session h.2 id, rfl, h.2, h.1.revision⟩
  · refine .bind (R := fun _ => Of I) ?_ fun _ => ?_
    · refine .bind (conseq (ask_kept _) (fun _ h => h) (fun _ _ h => h) hI) fun tools => ?_
      refine .bind (R := fun _ => Of I) ?_ fun _ => ?_
      · exact conseq (require_kept _ _) (fun _ h => h) (fun _ _ h => h.2) hI
      · exact conseq (ofExcept_kept _) (fun _ h => h) (fun _ _ h => h.2) hI
    · exact .bind (peek_kept _) fun token => update_of fun c h => ⟨h.1 token, h.2⟩

theorem launch_kept : Effect.Triple (Of fun c => Vacant E c ∧ c.origin = origin) (launch E)
      (fun _ => Of fun c => Kept E c ∧ c.session.isSome = true ∧ c.origin = origin ∧
        c.revision = 0) (fun _ => Of (Vacant E)) := by
  refine .bind self_kept fun c => ?_
  rcases horigin : c.origin with _ | found
  · exact refuse_of _ fun _ h => h.2.1
  · let I : Cell → Prop := fun c' => (Vacant E c' ∧ c'.origin = some found) ∧ origin = some found
    have hask : ∀ answer : Replies → Except Raised Unit,
        Effect.Triple (Of I) (ask E answer) (fun _ => Of I) (fun _ => Of (Vacant E)) :=
      fun answer => conseq (ask_kept answer) (fun _ h => h) (fun _ _ h => h) fun _ h => h.1.1
    have hsame : ∀ c' c'' : Cell, I c' → c''.session = c'.session → c''.origin = c'.origin →
        c''.browserSessionId = c'.browserSessionId → c''.revision = c'.revision →
        c''.opened = c'.opened → c''.trace = c'.trace → I c'' := by
      intro c' c'' h hsession horigin hid hrevision hopened htrace
      exact ⟨⟨⟨h.1.1.kept.same hsession horigin hid hrevision hopened htrace,
        hsession.trans h.1.1.session, hrevision.trans h.1.1.revision⟩, horigin.trans h.1.2⟩, h.2⟩
    refine .bind (weaken_of (hask _) fun c' h => ⟨⟨h.2.1, h.1 ▸ horigin⟩, ?_⟩) fun _ => ?_
    · rw [← h.2.2, h.1, horigin]
    refine .bind (hask _) fun _ => ?_
    refine .bind (R := fun _ => Of I) (update_of fun c' h => hsame c' _ h rfl rfl rfl rfl rfl rfl)
      fun _ => ?_
    refine .bind (hask _) fun _ => .bind (hask _) fun _ => ?_
    refine .bind (R := fun _ => Of I) (update_of fun c' h => hsame c' _ h rfl rfl rfl rfl rfl rfl)
      fun _ => .bind (hask _) fun _ => ?_
    by_cases hfound : origin = some found
    · subst hfound
      exact (closing_closed (weaken_of (openSession_kept found) fun _ h => h.1)).weaken
        (fun _ h => h) (fun _ _ h => h) fun _ _ h => h.vacant
    · exact fun w h => absurd h.2 hfound

theorem start_kept (D : Cell → Prop) (origin : Option BrowserOrigin) :
    Effect.Triple (Of (Startable E D origin)) (start E)
      (fun _ => Of fun c => Kept E c ∧ c.session.isSome = true ∧ c.origin = origin ∧
        (D c ∨ c.revision = 0)) (fun _ => Of (Vacant E)) := by
  refine .bind isHealthy_kept fun healthy => .ite (fun h => .pure fun w hw => ?_) fun _ => ?_
  · exact ⟨hw.2.kept, hw.1 h, hw.2.origin, .inl hw.2.other⟩
  · refine .bind (weaken_of restart_kept fun _ h => h.2) fun _ => ?_
    exact launch_kept.weaken (fun _ h => h) (fun _ _ h => ⟨h.1, h.2.1, h.2.2.1, .inr h.2.2.2⟩)
      fun _ _ h => h

theorem start_between : Effect.Triple (Of (Between E)) (start E) (fun _ => Of (Between E))
      (fun _ => Of (Closed E)) := by
  intro w hw
  refine (start_kept (Delivered E) w.cell.origin).weaken (fun _ h => h) (fun _ v h => ?_)
    (fun _ _ h => h.closed) w ⟨hw.kept, hw.idle, rfl, hw.delivered⟩
  obtain ⟨hkept, hsession, -, hdelivered⟩ := h
  refine ⟨hkept, ?_, fun hnone => ?_⟩
  · rcases hdelivered with hdelivered | hzero
    · exact hdelivered
    · exact fun hrevision => absurd hrevision (by rw [hzero]; decide)
  · rw [hnone] at hsession
    cases hsession

end LocalMoe.Browser
