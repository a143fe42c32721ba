/-
  What every event of a provider's trace is justified by, and the invariant that carries it
  through each action.
-/
import LocalMoe.Foundation.Justified
import LocalMoe.Browser.Provider

namespace LocalMoe.Browser

open Foundation Contracts

variable (E : Environment)

/-! ## The rule of the trace -/

/-- The last session that was opened runs: it is not closed, and all before it are. -/
structure Running (trace : List Event) (session : Nat) (origin : BrowserOrigin)
    (since : List Event) : Prop where
  split : ∃ before, trace = before ++ .opened session origin :: since ∧
    ∀ m p, Event.opened m p ∈ before → Event.closed m ∈ before
  last : ∀ m p, Event.opened m p ∉ since
  alive : Event.closed session ∉ since

/-- The observation was made from this text. -/
structure Shows (o : Observation) (text : String) : Prop where
  snapshot : o.snapshot = rendered E.config.maxResultChars text
  sha256 : E.library.sha256 text = .ok o.snapshotSha256

structure Names (payload : List (String × Value)) (o : Observation) : Prop where
  revision : Value.field "revision" payload = some (.int o.revision)
  browserSessionId : HasText "browser_session_id" o.browserSessionId payload
  origin : HasText "origin" o.origin payload
  snapshotSha256 : HasText "snapshot_sha256" o.snapshotSha256 payload

/-- Two texts with one digest. -/
def Collision (text other : String) : Prop :=
  text ≠ other ∧ ∃ digest, E.library.sha256 text = .ok digest ∧ E.library.sha256 other = .ok digest

/-- The interaction was approved for an observation, which the page still shows. -/
structure Approves (o : Observation) (text fetched : String) (i : Interaction) : Prop where
  shows : Shows E o text
  names : Names i.payload o
  target : i.target = strip (E.library.text "target" i.payload)
  label : HasText "target_label" i.label i.payload
  occurs : ∃ targets, snapshotTargets o.snapshot = .ok targets ∧
    targets.lookup i.target = some i.label
  same : fetched = text ∨ Collision E fetched text

/-- When an event may happen. -/
def rule (past : List Event) : Event → Prop
  | .opened session _ => ∀ m p, Event.opened m p ∈ past → m ≠ session ∧ Event.closed m ∈ past
  | .closed _ => True
  | .navigated url => ∃ session origin since, Running past session origin since ∧
      parseLocalOrigin E.library E.config.allowedHosts url = .ok origin
  | .fetched _ _ => True
  | .sent i => ∃ earlier o text fetched,
      past = earlier ++ [.returned o text, .fetched o.url fetched] ∧ Approves E o text fetched i
  | .returned o text => Shows E o text ∧ ∃ session origin since,
      Running past session origin since ∧
      parseLocalOrigin E.library E.config.allowedHosts o.url = .ok origin ∧
      o.origin = origin.canonical ∧
      ∀ o' text', Event.returned o' text' ∈ since →
        o'.revision < o.revision ∧ o'.browserSessionId = o.browserSessionId

/-! ## The invariant -/

/-- The session of the provider runs, and its observations have revisions below a bound. -/
def Live (c : Cell) (bound : Nat) : Prop :=
  match c.session with
  | none => ∀ m p, Event.opened m p ∈ c.trace → Event.closed m ∈ c.trace
  | some session => ∃ origin since, c.origin = some origin ∧
      Running c.trace session origin since ∧
      ∀ o text, Event.returned o text ∈ since →
        o.revision < bound ∧ o.browserSessionId = c.browserSessionId

/-- What holds inside calls too. -/
structure Kept (c : Cell) : Prop where
  justified : Justified (rule E) c.trace
  numbers : ∀ m p, Event.opened m p ∈ c.trace → m < c.opened
  live : Live c (c.revision + 1)

/-- The provider shows an observation, which is the last event. -/
structure Shown (c : Cell) (o : Observation) (text : String) : Prop where
  shows : Shows E o text
  url : o.url = c.currentUrl
  origin : c.origin.map BrowserOrigin.canonical = some o.origin
  browserSessionId : o.browserSessionId = c.browserSessionId
  revision : o.revision = c.revision
  snapshotSha256 : o.snapshotSha256 = c.currentSnapshotSha256
  targets : snapshotTargets o.snapshot = .ok c.currentTargets

/-- A provider with a revision shows the observation that it returned last. -/
def Delivered (c : Cell) : Prop :=
  1 ≤ c.revision → ∃ earlier o text, c.trace = earlier ++ [.returned o text] ∧ Shown E c o text

/-- What holds between calls. -/
structure Between (c : Cell) : Prop where
  kept : Kept E c
  delivered : Delivered E c
  idle : c.session = none → c.revision = 0

def Closed (c : Cell) : Prop := Between E c ∧ c.session = none

variable {E}

/-! ## Steps of the invariant -/

theorem kept_init : Kept E World.init.cell :=
  ⟨justified_nil _, fun _ _ h => (by cases h), fun _ _ h => (by cases h)⟩

theorem between_init : Between E World.init.cell :=
  ⟨kept_init, fun h => absurd h (by decide), fun _ => rfl⟩

theorem Running.concat {trace since : List Event} {session : Nat} {origin : BrowserOrigin}
    {event : Event} (h : Running trace session origin since)
    (hopened : ∀ m p, event ≠ .opened m p) (hclosed : ∀ m, event ≠ .closed m) :
    Running (trace ++ [event]) session origin (since ++ [event]) := by
  obtain ⟨⟨before, htrace, hbefore⟩, hlast, halive⟩ := h
  refine ⟨⟨before, by rw [htrace]; simp, hbefore⟩, fun m p hm => ?_, fun hs => ?_⟩
  · rcases List.mem_append.mp hm with hm | hm
    · exact hlast m p hm
    · exact hopened m p (List.mem_singleton.mp hm).symm
  · rcases List.mem_append.mp hs with hs | hs
    · exact halive hs
    · exact hclosed session (List.mem_singleton.mp hs).symm

theorem Running.others {trace since : List Event} {session : Nat} {origin : BrowserOrigin}
    (h : Running trace session origin since) {m : Nat} {p : BrowserOrigin}
    (hm : Event.opened m p ∈ trace) : m = session ∨ Event.closed m ∈ trace := by
  obtain ⟨⟨before, rfl, hbefore⟩, hlast, -⟩ := h
  rcases List.mem_append.mp hm with hm | hm
  · exact .inr (List.mem_append_left _ (hbefore m p hm))
  · rcases List.mem_cons.mp hm with hm | hm
    · cases hm
      exact .inl rfl
    · exact absurd hm (hlast m p)

theorem Live.concat {c : Cell} {bound : Nat} {event : Event} (h : Live c bound)
    (hopened : ∀ m p, event ≠ .opened m p) (hclosed : ∀ m, event ≠ .closed m)
    (hreturned : ∀ o text, event ≠ .returned o text) :
    Live { c with trace := c.trace ++ [event] } bound := by
  unfold Live at h ⊢
  dsimp only
  rcases hsession : c.session with _ | session
  · rw [hsession] at h
    intro m p hm
    rcases List.mem_append.mp hm with hm | hm
    · exact List.mem_append_left _ (h m p hm)
    · exact absurd (List.mem_singleton.mp hm).symm (hopened m p)
  · rw [hsession] at h
    obtain ⟨origin, since, horigin, hrunning, hsince⟩ := h
    refine ⟨origin, _, horigin, hrunning.concat hopened hclosed, fun o text ho => ?_⟩
    rcases List.mem_append.mp ho with ho | ho
    · exact hsince o text ho
    · exact absurd (List.mem_singleton.mp ho).symm (hreturned o text)

theorem Kept.concat {c : Cell} {event : Event} (h : Kept E c) (hrule : rule E c.trace event)
    (hopened : ∀ m p, event ≠ .opened m p) (hclosed : ∀ m, event ≠ .closed m)
    (hreturned : ∀ o text, event ≠ .returned o text) :
    Kept E { c with trace := c.trace ++ [event] } := by
  refine ⟨h.justified.concat hrule, fun m p hm => ?_, h.live.concat hopened hclosed hreturned⟩
  rcases List.mem_append.mp hm with hm | hm
  · exact h.numbers m p hm
  · exact absurd (List.mem_singleton.mp hm).symm (hopened m p)

theorem Kept.same {c c' : Cell} (h : Kept E c) (hsession : c'.session = c.session)
    (horigin : c'.origin = c.origin) (hid : c'.browserSessionId = c.browserSessionId)
    (hrevision : c'.revision = c.revision) (hopened : c'.opened = c.opened)
    (htrace : c'.trace = c.trace) : Kept E c' := by
  refine ⟨htrace ▸ h.justified, by rw [htrace, hopened]; exact h.numbers, ?_⟩
  have hlive := h.live
  unfold Live at hlive ⊢
  rw [hsession, horigin, hid, hrevision, htrace]
  exact hlive

theorem Kept.reorigin {c : Cell} {origin : Option BrowserOrigin} (h : Kept E c)
    (hsession : c.session = none ∨ c.origin = origin) : Kept E { c with origin := origin } := by
  rcases hsession with hnone | rfl
  · refine ⟨h.justified, h.numbers, ?_⟩
    have hlive := h.live
    unfold Live at hlive ⊢
    rw [hnone] at hlive
    simp only [hnone]
    exact hlive
  · exact h

theorem Kept.close {c : Cell} (h : Kept E c) : Closed E c.close := by
  have hall : ∀ m p, Event.opened m p ∈ c.close.trace → Event.closed m ∈ c.close.trace := by
    intro m p hm
    have hlive := h.live
    unfold Live at hlive
    unfold Cell.close Cell.endings at hm ⊢
    dsimp only at hm ⊢
    rcases hsession : c.session with _ | session
    · rw [hsession] at hlive hm
      simp only [List.append_nil] at hm ⊢
      exact hlive m p hm
    · rw [hsession] at hlive hm
      obtain ⟨origin, since, -, hrunning, -⟩ := hlive
      rcases List.mem_append.mp hm with hm | hm
      · rcases hrunning.others hm with rfl | hclosed
        · exact List.mem_append_right _ List.mem_cons_self
        · exact List.mem_append_left _ hclosed
      · cases List.mem_singleton.mp hm
  refine ⟨⟨⟨?_, fun m p hm => ?_, hall⟩, fun hrevision => ?_, fun _ => rfl⟩, rfl⟩
  · unfold Cell.close Cell.endings
    dsimp only
    split
    · rw [List.append_nil]
      exact h.justified
    · exact h.justified.concat trivial
  · refine h.numbers m p ?_
    unfold Cell.close Cell.endings at hm
    dsimp only at hm
    split at hm
    · rwa [List.append_nil] at hm
    · rcases List.mem_append.mp hm with hm | hm
      · exact hm
      · cases List.mem_singleton.mp hm
  · exact absurd hrevision (by decide : ¬ 1 ≤ 0)

theorem Kept.opened {c : Cell} {origin : BrowserOrigin} (h : Kept E c)
    (hsession : c.session = none) (horigin : c.origin = some origin) (id : String) : Kept E { c with
      session := some c.opened, opened := c.opened + 1,
      trace := c.trace ++ [.opened c.opened origin], browserSessionId := id } := by
  have hclosed : ∀ m p, Event.opened m p ∈ c.trace → Event.closed m ∈ c.trace := by
    have hlive := h.live
    unfold Live at hlive
    rw [hsession] at hlive
    exact hlive
  refine ⟨h.justified.concat fun m p hm => ?_, fun m p hm => ?_, ?_⟩
  · exact ⟨Nat.ne_of_lt (h.numbers m p hm), hclosed m p hm⟩
  · rcases List.mem_append.mp hm with hm | hm
    · exact Nat.lt_succ_of_lt (h.numbers m p hm)
    · cases List.mem_singleton.mp hm
      exact Nat.lt_succ_self _
  · exact ⟨origin, [], horigin, ⟨⟨c.trace, rfl, hclosed⟩, fun _ _ => List.not_mem_nil,
      List.not_mem_nil⟩, fun _ _ ho => absurd ho List.not_mem_nil⟩

end LocalMoe.Browser
