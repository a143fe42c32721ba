/-
  Every request gets its own response, or an error.
-/
import LocalMoe.Mcp.Session

namespace LocalMoe.Mcp

open Contracts

/-! ## The promises -/

/-- The line that a request has consumed as its answer. -/
def Entry.line : Entry → Option Line
  | ⟨_, _, _, .answered line _⟩ => some line
  | _ => none

/-- The request failed while its answer was read. -/
def Entry.Failed (entry : Entry) : Prop := ∃ failure, entry.ending = .failed failure

/-- The request was not sent. -/
def Entry.Refused (entry : Entry) : Prop := ∃ failure, entry.ending = .refused failure

/-- What a request raised, if it raised. -/
def Ending.failure : Ending → Option Failure
  | .answered _ (.ok _) => none
  | .answered _ (.error failure) | .refused failure | .failed failure => some failure

/-- Every request gets its own response, or an error. -/
structure Sound (s : State) : Prop where
  /-- What a request returns is from a response with exactly its id. -/
  own : ∀ entry ∈ s.log, ∀ line, entry.line = some line → line.decoded.IsResponse entry.id
  /-- No two requests have one id, and no line is consumed by two. -/
  ids : (s.log.map Entry.id).Nodup
  once : (s.log.filterMap fun entry => entry.line.map Line.number).Nodup
  /-- A response that was written while the request waited is not missed. -/
  complete : ∀ entry ∈ s.log, entry.Failed → ∀ line ∈ s.written, entry.since ≤ line.number →
    line.number < entry.upto → ¬line.decoded.IsResponse entry.id
  client : ∀ entry ∈ s.log, ∀ failure, entry.ending.failure = some failure →
    ∃ message, failure = .client message
  /-- After a failure to read the session is closed, and no later request reads anything. -/
  closed : ∀ entry ∈ s.log, entry.Failed → s.active = false
  after : s.log.Pairwise fun entry later => entry.Failed → later.Refused

/-- No response to a request is on its way to it. -/
def State.NoneWaiting (s : State) (requestId : Nat) : Prop :=
  (∀ line ∈ s.pipe, ¬line.decoded.IsResponse requestId) ∧
    ∀ line, Item.line line ∈ s.queue → ¬line.decoded.IsResponse requestId

/-- The condition on a step: a line whose id compares equal to that of the request is a
response with this very id, its digits can be read, the request can be written or the pipe is
broken, and reading is not given up while a response is on its way. -/
def Fair (s : State) : Event → Prop
  | .call _ _ sending => ∀ name, sending ≠ .raised name
  | .poll => s.exited = true → ∀ pending, s.pending = some pending → s.NoneWaiting pending.id
  | .timeout => ∀ pending, s.pending = some pending → s.NoneWaiting pending.id
  | .get => ∀ pending, s.pending = some pending →
      match s.queue with
      | [] => True
      | .failure :: _ => s.NoneWaiting pending.id
      | .line line :: _ => line.decoded ≠ .tooManyDigits ∧
          (line.decoded.answers pending.id = true → line.decoded.IsResponse pending.id)
  | _ => True

/-- The states of the runs whose steps meet a condition. -/
inductive Reached (condition : State → Event → Prop) (initial : State) : State → Prop where
  | start : Reached condition initial initial
  | step {s : State} {event : Event} : Reached condition initial s → condition s event →
      Reached condition initial (s.step event)

/-! ## The invariant -/

/-- The number of a queued line. -/
def Item.number : Item → Option Nat
  | .line l => some l.number
  | .failure => none

/-- The numbers of the lines, from the consumed ones to those in the pipe. -/
def State.numbers (s : State) : List Nat :=
  (s.log.filterMap fun entry => entry.line.map Line.number) ++
    (s.queue.filterMap Item.number ++ s.pipe.map Line.number)

/-- The promises, and what they rest on. -/
structure Kept (s : State) : Prop where
  sound : Sound s
  ordered : s.numbers.Pairwise (· < ·)
  numbered : ∀ number ∈ s.numbers, number < s.written.length
  idsBelow : ∀ entry ∈ s.log, entry.id < s.nextId
  uptoBelow : ∀ entry ∈ s.log, entry.upto ≤ s.written.length
  pending : ∀ pending, s.pending = some pending → s.active = true ∧ pending.id < s.nextId ∧
    (∀ entry ∈ s.log, entry.id < pending.id) ∧
    ∀ line ∈ s.written, pending.since ≤ line.number → line.decoded.IsResponse pending.id →
      line ∈ s.pipe ∨ Item.line line ∈ s.queue

section Steps

variable {s : State} {pending : Pending}

theorem Kept.started (nextId : Nat) : Kept (State.started nextId) := by
  refine ⟨⟨?_, ?_, ?_, ?_, ?_, ?_, ?_⟩, ?_, ?_, ?_, ?_, ?_⟩ <;>
    simp [State.started, State.numbers]

theorem nodup_ids {log : List Entry} {entry : Entry} (h : (log.map Entry.id).Nodup)
    (hbelow : ∀ other ∈ log, other.id < entry.id) : ((log ++ [entry]).map Entry.id).Nodup := by
  rw [List.map_append, List.map_singleton]
  refine List.nodup_append.mpr ⟨h, List.nodup_singleton _, fun a ha b hb => ?_⟩
  obtain ⟨other, hother, rfl⟩ := List.mem_map.mp ha
  rw [List.mem_singleton.mp hb]
  exact (hbelow other hother).ne

theorem Sound.frame {t : State} (h : Sound s) (hlog : t.log = s.log)
    (hwritten : t.written = s.written) (hactive : t.active = s.active) : Sound t :=
  ⟨hlog ▸ h.own, hlog ▸ h.ids, hlog ▸ h.once, hlog ▸ hwritten ▸ h.complete, hlog ▸ h.client,
    hlog ▸ hactive ▸ h.closed, hlog ▸ h.after⟩

theorem Kept.refuse (h : Kept s) (hpending : s.pending = none) (message : String) :
    Kept (s.refuse (.client message)) := by
  have hlines : ((s.refuse (.client message)).log.filterMap fun entry => entry.line.map Line.number) =
      s.log.filterMap fun entry => entry.line.map Line.number := by
    simp [State.refuse, Entry.line]
  have hfailed : ∀ entry ∈ (s.refuse (.client message)).log, entry.Failed → entry ∈ s.log := by
    intro entry hentry hfailed
    rcases List.mem_append.mp hentry with hentry | hentry
    · exact hentry
    · obtain ⟨failure, hfailure⟩ := hfailed
      rw [List.mem_singleton.mp hentry] at hfailure
      cases hfailure
  refine ⟨⟨fun entry hentry line hline => ?_, ?_, hlines ▸ h.sound.once, ?_, ?_, ?_, ?_⟩, ?_, ?_, ?_, ?_,
    fun other hother => ?_⟩
  · rcases List.mem_append.mp hentry with hentry | hentry
    · exact h.sound.own entry hentry line hline
    · rw [List.mem_singleton.mp hentry] at hline
      cases hline
  · exact nodup_ids h.sound.ids h.idsBelow
  · exact fun entry hentry hfail => h.sound.complete entry (hfailed entry hentry hfail) hfail
  · intro entry hentry failure hfailure
    rcases List.mem_append.mp hentry with hentry | hentry
    · exact h.sound.client entry hentry failure hfailure
    · rw [List.mem_singleton.mp hentry] at hfailure
      cases hfailure
      exact ⟨message, rfl⟩
  · exact fun entry hentry hfail => h.sound.closed entry (hfailed entry hentry hfail) hfail
  · refine List.pairwise_append.mpr ⟨h.sound.after, List.pairwise_singleton _ _,
      fun entry _ later hlater _ => ?_⟩
    rw [List.mem_singleton.mp hlater]
    exact ⟨_, rfl⟩
  · rw [State.numbers, hlines]
    exact h.ordered
  · rw [State.numbers, hlines]
    exact h.numbered
  · exact List.forall_mem_append.mpr ⟨fun entry hentry => Nat.lt_succ_of_lt (h.idsBelow entry hentry),
      List.forall_mem_singleton.mpr (Nat.lt_succ_self _)⟩
  · exact List.forall_mem_append.mpr ⟨h.uptoBelow, List.forall_mem_singleton.mpr (le_refl _)⟩
  · have hnone : (s.refuse (.client message)).pending = s.pending := rfl
    rw [hnone, hpending] at hother
    cases hother

theorem Kept.fail (h : Kept s) (hpending : s.pending = some pending)
    (hnone : s.NoneWaiting pending.id) (message : String) :
    Kept (s.fail pending (.client message)) := by
  obtain ⟨hactive, hid, hids, hwaiting⟩ := h.pending pending hpending
  have hlines : ((s.fail pending (.client message)).log.filterMap fun entry =>
      entry.line.map Line.number) = s.log.filterMap fun entry => entry.line.map Line.number := by
    simp [State.fail, Entry.line]
  have hopen : ∀ entry ∈ s.log, ¬entry.Failed := fun entry hentry hfailed => by
    rw [h.sound.closed entry hentry hfailed] at hactive
    cases hactive
  refine ⟨⟨fun entry hentry line hline => ?_, ?_, hlines ▸ h.sound.once, ?_, ?_, fun _ _ _ => rfl, ?_⟩,
    ?_, ?_, ?_, ?_, nofun⟩
  · rcases List.mem_append.mp hentry with hentry | hentry
    · exact h.sound.own entry hentry line hline
    · rw [List.mem_singleton.mp hentry] at hline
      cases hline
  · exact nodup_ids h.sound.ids hids
  · intro entry hentry hfailed line hline hsince hupto hresponse
    rcases List.mem_append.mp hentry with hentry | hentry
    · exact hopen entry hentry hfailed
    · rw [List.mem_singleton.mp hentry] at hsince hresponse
      rcases hwaiting line hline hsince hresponse with hmem | hmem
      · exact hnone.1 line hmem hresponse
      · exact hnone.2 line hmem hresponse
  · intro entry hentry failure hfailure
    rcases List.mem_append.mp hentry with hentry | hentry
    · exact h.sound.client entry hentry failure hfailure
    · rw [List.mem_singleton.mp hentry] at hfailure
      cases hfailure
      exact ⟨message, rfl⟩
  · exact List.pairwise_append.mpr ⟨h.sound.after, List.pairwise_singleton _ _,
      fun entry hentry _ _ hfailed => absurd hfailed (hopen entry hentry)⟩
  · rw [State.numbers, hlines]
    exact h.ordered
  · rw [State.numbers, hlines]
    exact h.numbered
  · exact List.forall_mem_append.mpr ⟨h.idsBelow, List.forall_mem_singleton.mpr hid⟩
  · exact List.forall_mem_append.mpr ⟨h.uptoBelow, List.forall_mem_singleton.mpr (le_refl _)⟩

theorem finish_client {method : Method} {decoded : Decoded} {failure : Failure}
    (h : decoded.finish method = .error failure) : ∃ message, failure = .client message := by
  unfold Decoded.finish Mcp.finish at h
  repeat' split at h
  all_goals first | (cases h; exact ⟨_, rfl⟩) | cases h

theorem Kept.answer {line : Line} {rest : List Item} (h : Kept s)
    (hpending : s.pending = some pending) (hqueue : s.queue = .line line :: rest)
    (hresponse : line.decoded.IsResponse pending.id) :
    Kept (State.answer { s with queue := rest } pending line) := by
  obtain ⟨hactive, hid, hids, -⟩ := h.pending pending hpending
  have hnumbers : (State.answer { s with queue := rest } pending line).numbers = s.numbers := by
    simp [State.answer, State.numbers, Entry.line, hqueue, Item.number]
  have hopen : ∀ entry ∈ s.log, ¬entry.Failed := fun entry hentry hfailed => by
    rw [h.sound.closed entry hentry hfailed] at hactive
    cases hactive
  have hnot : ∀ entry ∈ (State.answer { s with queue := rest } pending line).log,
      ¬entry.Failed := fun entry hentry hfailed => by
    rcases List.mem_append.mp hentry with hentry | hentry
    · exact hopen entry hentry hfailed
    · obtain ⟨failure, hfailure⟩ := hfailed
      rw [List.mem_singleton.mp hentry] at hfailure
      cases hfailure
  refine ⟨⟨fun entry hentry other hother => ?_, ?_, ?_, fun entry hentry hfailed =>
      absurd hfailed (hnot entry hentry), ?_, fun entry hentry hfailed =>
      absurd hfailed (hnot entry hentry), ?_⟩, hnumbers ▸ h.ordered, hnumbers ▸ h.numbered,
    ?_, ?_, nofun⟩
  · rcases List.mem_append.mp hentry with hentry | hentry
    · exact h.sound.own entry hentry other hother
    · rw [List.mem_singleton.mp hentry] at hother ⊢
      cases hother
      exact hresponse
  · exact nodup_ids h.sound.ids hids
  · have hordered : (State.answer { s with queue := rest } pending line).numbers.Pairwise (· < ·) :=
      hnumbers ▸ h.ordered
    exact (List.pairwise_append.mp hordered).1.imp fun hlt => Nat.ne_of_lt hlt
  · intro entry hentry failure hfailure
    rcases List.mem_append.mp hentry with hentry | hentry
    · exact h.sound.client entry hentry failure hfailure
    · rw [List.mem_singleton.mp hentry] at hfailure
      rcases hfinish : line.decoded.finish pending.method with found | result
      · rw [hfinish] at hfailure
        cases hfailure
        exact finish_client hfinish
      · rw [hfinish] at hfailure
        cases hfailure
  · exact List.pairwise_append.mpr ⟨h.sound.after, List.pairwise_singleton _ _,
      fun entry hentry _ _ hfailed => absurd hfailed (hopen entry hentry)⟩
  · exact List.forall_mem_append.mpr ⟨h.idsBelow, List.forall_mem_singleton.mpr hid⟩
  · exact List.forall_mem_append.mpr ⟨h.uptoBelow, List.forall_mem_singleton.mpr (le_refl _)⟩

theorem Kept.skip {item : Item} {rest : List Item} (h : Kept s) (hpending : s.pending = some pending)
    (hqueue : s.queue = item :: rest)
    (hnot : ∀ line, item = .line line → ¬line.decoded.IsResponse pending.id) :
    Kept { s with queue := rest } := by
  have hsub : (State.numbers { s with queue := rest }).Sublist s.numbers := by
    refine (List.Sublist.refl _).append (List.Sublist.append ?_ (List.Sublist.refl _))
    rw [hqueue]
    exact (List.sublist_cons_self item rest).filterMap _
  refine ⟨h.sound.frame rfl rfl rfl, h.ordered.sublist hsub, fun number hmem => h.numbered number (hsub.subset hmem),
    h.idsBelow, h.uptoBelow, fun other hother => ?_⟩
  obtain ⟨hactive, hid, hids, hwaiting⟩ := h.pending other hother
  refine ⟨hactive, hid, hids, fun line hline hsince hresponse => ?_⟩
  obtain rfl : pending = other := Option.some.inj (hpending.symm.trans hother)
  refine (hwaiting line hline hsince hresponse).imp_right fun hmem => ?_
  rw [hqueue] at hmem
  rcases List.mem_cons.mp hmem with hitem | hmem
  · exact absurd hresponse (hnot line hitem.symm)
  · exact hmem

theorem Kept.polled (h : Kept s) (hpending : s.pending = some pending) (polled : Bool) :
    Kept { s with pending := some { pending with polled := polled } } := by
  refine ⟨h.sound.frame rfl rfl rfl, h.ordered, h.numbered, h.idsBelow, h.uptoBelow, fun other hother => ?_⟩
  cases hother
  exact h.pending pending hpending

theorem Kept.readLine (h : Kept s) : Kept s.readLine := by
  unfold State.readLine
  split
  · exact h
  · next line rest hpipe =>
    split
    · exact ⟨h.sound.frame rfl rfl rfl, h.ordered, h.numbered, h.idsBelow, h.uptoBelow, h.pending⟩
    · have hcases : line.decoded = .unreadable ∨ line.decoded ≠ .unreadable := em _
      rcases hcases with hdecoded | hdecoded
      · have hsub : (State.numbers { s with
            reading := false, pipe := rest, queue := s.queue ++ [.failure] }).Sublist
            s.numbers := by
          refine (List.Sublist.refl _).append ?_
          rw [List.filterMap_append, hpipe]
          simp [Item.number]
        simp only [hdecoded]
        refine ⟨h.sound.frame rfl rfl rfl, h.ordered.sublist hsub,
          fun number hmem => h.numbered number (hsub.subset hmem), h.idsBelow, h.uptoBelow,
          fun pending hpending => ?_⟩
        obtain ⟨hactive, hid, hids, hwaiting⟩ := h.pending pending hpending
        refine ⟨hactive, hid, hids, fun other hother hsince hresponse => ?_⟩
        rcases hwaiting other hother hsince hresponse with hmem | hmem
        · rw [hpipe] at hmem
          rcases List.mem_cons.mp hmem with heq | hmem
          · rw [heq, hdecoded] at hresponse
            exact hresponse.elim
          · exact .inl hmem
        · exact .inr (List.mem_append_left _ hmem)
      · have hnumbers : State.numbers { s with
            pipe := rest, queue := s.queue ++ [.line line] } = s.numbers := by
          simp [State.numbers, Item.number, hpipe]
        have hkept : Kept { s with pipe := rest, queue := s.queue ++ [.line line] } := by
          refine ⟨h.sound.frame rfl rfl rfl, hnumbers ▸ h.ordered, hnumbers ▸ h.numbered, h.idsBelow, h.uptoBelow,
            fun pending hpending => ?_⟩
          obtain ⟨hactive, hid, hids, hwaiting⟩ := h.pending pending hpending
          refine ⟨hactive, hid, hids, fun other hother hsince hresponse => ?_⟩
          rcases hwaiting other hother hsince hresponse with hmem | hmem
          · rw [hpipe] at hmem
            rcases List.mem_cons.mp hmem with rfl | hmem
            · exact .inr (by simp)
            · exact .inl hmem
          · exact .inr (List.mem_append_left _ hmem)
        split
        · next heq => exact absurd heq hdecoded
        · exact hkept

theorem Kept.write (h : Kept s) (decoded : Decoded) : Kept { s with
      written := s.written ++ [⟨s.written.length, decoded⟩]
      pipe := s.pipe ++ [⟨s.written.length, decoded⟩] } := by
  have hnumbers : State.numbers { s with
      written := s.written ++ [⟨s.written.length, decoded⟩]
      pipe := s.pipe ++ [⟨s.written.length, decoded⟩] } = s.numbers ++ [s.written.length] := by
    simp [State.numbers]
  have hlength : (s.written ++ [(⟨s.written.length, decoded⟩ : Line)]).length =
      s.written.length + 1 := by simp
  refine ⟨⟨h.sound.own, h.sound.ids, h.sound.once, ?_, h.sound.client, h.sound.closed, h.sound.after⟩,
    ?_, ?_, h.idsBelow, ?_, fun pending hpending => ?_⟩
  · intro entry hentry hfailed line hline hsince hupto
    rcases List.mem_append.mp hline with hline | hline
    · exact h.sound.complete entry hentry hfailed line hline hsince hupto
    · rw [List.mem_singleton.mp hline] at hupto
      exact absurd (h.uptoBelow entry hentry) (not_le.mpr hupto)
  · rw [hnumbers]
    refine List.pairwise_append.mpr ⟨h.ordered, List.pairwise_singleton _ _, fun a ha b hb => ?_⟩
    rw [List.mem_singleton.mp hb]
    exact h.numbered a ha
  · rw [hnumbers]
    intro number hmem
    show number < (s.written ++ [(⟨s.written.length, decoded⟩ : Line)]).length
    rw [hlength]
    rcases List.mem_append.mp hmem with hmem | hmem
    · exact Nat.lt_succ_of_lt (h.numbered number hmem)
    · rw [List.mem_singleton.mp hmem]
      exact Nat.lt_succ_self _
  · intro entry hentry
    show entry.upto ≤ (s.written ++ [(⟨s.written.length, decoded⟩ : Line)]).length
    rw [hlength]
    exact Nat.le_succ_of_le (h.uptoBelow entry hentry)
  · obtain ⟨hactive, hid, hids, hwaiting⟩ := h.pending pending hpending
    refine ⟨hactive, hid, hids, fun line hline hsince hresponse => ?_⟩
    rcases List.mem_append.mp hline with hline | hline
    · exact (hwaiting line hline hsince hresponse).imp_left (List.mem_append_left _)
    · exact .inl (List.mem_append_right _ hline)

theorem Kept.begin (h : Kept s) (hactive : s.active = true) (method : Method)
    (hnumbered : ∀ line ∈ s.written, line.number < s.written.length) : Kept { s with
      nextId := s.nextId + 1
      pending := some ⟨s.nextId, method, s.written.length, false⟩ } := by
  refine ⟨h.sound.frame rfl rfl rfl, h.ordered, h.numbered,
    fun entry hentry => Nat.lt_succ_of_lt (h.idsBelow entry hentry), h.uptoBelow,
    fun pending hpending => ?_⟩
  cases hpending
  refine ⟨hactive, Nat.lt_succ_self _, h.idsBelow, fun line hline hsince _ => ?_⟩
  exact absurd (hnumbered line hline) (not_lt.mpr hsince)

theorem Kept.take (h : Kept s) (hpending : s.pending = some pending)
    (hfair : Fair s .get) : Kept (s.take pending) := by
  have hfair := hfair pending hpending
  unfold State.take
  dsimp only
  split
  · exact h.polled hpending false
  · next rest hqueue =>
    rw [hqueue] at hfair
    have hskip : Kept { s with queue := rest } := h.skip hpending hqueue (by simp)
    refine hskip.fail hpending ⟨hfair.1, fun line hline => hfair.2 line ?_⟩ _
    rw [hqueue]
    exact List.mem_cons_of_mem _ hline
  · next line rest hqueue =>
    rw [hqueue] at hfair
    obtain ⟨hdigits, hresponse⟩ := hfair
    split
    · next heq => exact absurd heq hdigits
    · split
      · next hanswers => exact h.answer hpending hqueue (hresponse hanswers)
      · next hanswers =>
        have hskip : Kept { s with queue := rest } := h.skip hpending hqueue fun other hother => by
          cases hother
          exact fun hresponse => hanswers (answers_of_isResponse hresponse)
        exact hskip.polled hpending false

end Steps

theorem written_numbered {s : State} (h : ∀ line ∈ s.written, line.number < s.written.length)
    (event : Event) : ∀ line ∈ (s.step event).written, line.number < (s.step event).written.length := by
  have hsame : (s.step event).written = s.written ∨
      ∃ decoded, (s.step event).written = s.written ++ [⟨s.written.length, decoded⟩] := by
    cases event with
    | write decoded =>
      rcases hexited : s.exited with _ | _
      · exact .inr ⟨decoded, by simp [State.step, hexited]⟩
      · exact .inl (by simp [State.step, hexited])
    | exit => exact .inl rfl
    | read =>
      left
      simp only [State.step, State.readLine]
      repeat' split
      all_goals rfl
    | call method positive sending | poll =>
      left
      simp only [State.step]
      repeat' split
      all_goals rfl
    | get =>
      left
      simp only [State.step, State.take]
      repeat' split
      all_goals rfl
    | timeout =>
      left
      simp only [State.step]
      split <;> rfl
  rcases hsame with hsame | ⟨decoded, hsame⟩
  · rw [hsame]
    exact h
  · rw [hsame]
    intro line hline
    rw [List.length_append]
    rcases List.mem_append.mp hline with hline | hline
    · exact Nat.lt_of_lt_of_le (h line hline) (Nat.le_add_right _ _)
    · rw [List.mem_singleton.mp hline]
      exact Nat.lt_succ_self _

theorem Kept.step {s : State} {event : Event} (h : Kept s)
    (hnumbered : ∀ line ∈ s.written, line.number < s.written.length) (hfair : Fair s event) :
    Kept (s.step event) := by
  cases event with
  | write decoded =>
    simp only [State.step]
    split
    · exact h
    · exact h.write decoded
  | exit => exact ⟨h.sound.frame rfl rfl rfl, h.ordered, h.numbered, h.idsBelow, h.uptoBelow, h.pending⟩
  | read =>
    simp only [State.step]
    split
    · exact h.readLine
    · exact h
  | call method positive sending =>
    simp only [State.step]
    split
    · exact h
    · next hpending =>
      split
      · exact h.refuse hpending _
      · next hactive =>
        split
        · exact h.refuse hpending _
        · split
          · exact h.refuse hpending _
          · next name => exact absurd rfl (hfair name)
          · refine h.begin ?_ method hnumbered
            rcases hopen : s.active with _ | _
            · simp [hopen] at hactive
            · rfl
  | poll =>
    simp only [State.step]
    split
    · exact h
    · next pending hpending =>
      split
      · exact h
      · split
        · next hexited => exact h.fail hpending (hfair hexited pending hpending) _
        · exact h.polled hpending true
  | get =>
    simp only [State.step]
    split
    · exact h
    · next pending hpending =>
      split
      · exact h.take hpending hfair
      · exact h
  | timeout =>
    simp only [State.step]
    split
    · exact h
    · next pending hpending => exact h.fail hpending (hfair pending hpending) _

def serverRequest : Value :=
  .dict [("jsonrpc", .str "2.0"), ("id", .int 2), ("method", .str "sampling/createMessage")]

def firstResponse : Value := .dict [("jsonrpc", .str "2.0"), ("id", .int 2), ("result", .dict [])]

/-- A request is sent, the server writes a line, and the client reads it. -/
def exchange (value : Value) : List Event :=
  [.call .toolsCall true .done, .write (.json value), .read, .poll, .get]

end LocalMoe.Mcp
