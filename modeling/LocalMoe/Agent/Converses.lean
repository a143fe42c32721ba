/-
  What the model is told, over a run.
-/
import LocalMoe.Agent.Authority
import LocalMoe.Agent.Conversation

namespace LocalMoe.Agent

open Contracts

/-! ## The promise -/

/-- A turn: what the model proposed, and what was observed of each call. -/
structure Turn where
  content : String
  calls : List AgentToolCall
  observed : List (ToolResult × List Char)

def Turn.messages (turn : Turn) : List Message :=
  .assistant turn.content turn.calls ::
    List.zipWith (fun call observed => .tool call.id observed.2) turn.calls turn.observed

def successIds (observed : List (ToolResult × List Char)) : List String :=
  (observed.filter fun result => result.1.status = "success").map fun result => result.1.callId

/-- What is told of a call: a bounded text of a result with the id of the call. -/
structure Told (maxChars : Nat) (call : AgentToolCall) (observed : ToolResult × List Char) :
    Prop where
  text : serializeResult observed.1 = some observed.2
  named : observed.1.callId = call.id
  bounded : observed.2.length ≤ maxChars

structure WellFormed (maxChars : Nat) (opening : List Message) (turns : List Turn)
    (messages : List Message) : Prop where
  messages : messages = opening ++ turns.flatMap Turn.messages
  turns : ∀ turn ∈ turns, List.Forall₂ (Told maxChars) turn.calls turn.observed

/-- The calls that were given an id. -/
def callsOf (messages : List Message) : List AgentToolCall := messages.flatMap Message.calls

/-- The final answer that the last call of the model produced within the deadline. -/
def produced (py : Language) (parties : Parties) (talk : Talk) : Option String :=
  match talk.output with
  | none => none
  | some output =>
    if output.toolCalls.isEmpty && !parties.expired talk.history then
      (output.finalAnswer.map fun answer => py.redact (py.stripped answer)).filter (· ≠ "")
    else none

/-- What a run keeps, whatever it ends with. -/
structure Kept (maxChars : Nat) (opening : List Message) (talk : Talk) : Prop where
  /-- Each call of the model was given complete turns. -/
  given : ∀ messages ∈ talk.given, ∃ turns, WellFormed maxChars opening turns messages
  ids : ((callsOf talk.messages).map AgentToolCall.id).Nodup
  results : List.Forall₂ (fun (call : AgentToolCall) (result : ToolResult) =>
    result.callId = call.id) (callsOf talk.messages) talk.results
  /-- The grounded ids are those of the successful results that the last call was given. -/
  grounded : ∀ messages, talk.given.getLast? = some messages → ∃ turns,
    WellFormed maxChars opening turns messages ∧
      talk.delivered = turns.flatMap fun turn => successIds turn.observed
  ungrounded : talk.given = [] → talk.delivered = []

/-- What a run promises. -/
structure Conversed (py : Language) (parties : Parties) (maxChars : Nat) (opening : List Message)
    (talk : Talk) (finish : RunEnd) : Prop where
  kept : Kept maxChars opening talk
  answer : finish.finalAnswer = produced py parties talk
  completed : finish.status = "completed" ↔ (produced py parties talk).isSome

/-! ## Ids -/

section Ids

variable {rawId : String} {seen : List String}

def candidate (rawId : String) (suffix : Nat) : String :=
  (rawId.take 88).toString ++ "-" ++ toString suffix

theorem candidate_injective : Function.Injective (candidate rawId) := by
  intro a b h
  have hrepr : a.repr = b.repr := (String.append_right_inj _).mp h
  have hdigits : Nat.toDigits 10 a = Nat.toDigits 10 b := by
    rw [← Nat.toList_repr, ← Nat.toList_repr, hrepr]
  rw [← Nat.ofDigitChars_ten_toDigits (n := a), hdigits, Nat.ofDigitChars_ten_toDigits]

theorem candidates_mem {fuel : Nat} : ∀ {suffix : Nat}, firstFresh rawId seen fuel suffix ∈ seen →
    ∀ k ≤ fuel, candidate rawId (suffix + k) ∈ seen := by
  induction fuel with
  | zero =>
    intro suffix h k hk
    obtain rfl := Nat.le_zero.mp hk
    exact h
  | succ fuel ih =>
    intro suffix h k hk
    rw [firstFresh] at h
    split at h
    · next htaken =>
      cases k with
      | zero => exact htaken
      | succ k =>
        have hmem := ih h k (Nat.le_of_succ_le_succ hk)
        rwa [Nat.add_assoc, Nat.add_comm 1 k] at hmem
    · next hfree => exact absurd h hfree

theorem firstFresh_not_mem {suffix : Nat} : firstFresh rawId seen seen.length suffix ∉ seen := by
  intro h
  have hsubset : (List.range (seen.length + 1)).map (fun k => candidate rawId (suffix + k)) ⊆
      seen := by
    intro id hid
    obtain ⟨k, hk, rfl⟩ := List.mem_map.mp hid
    exact candidates_mem h k (Nat.le_of_lt_succ (List.mem_range.mp hk))
  have hnodup : ((List.range (seen.length + 1)).map fun k => candidate rawId (suffix + k)).Nodup :=
    List.nodup_range.map fun a b hab => Nat.add_left_cancel (candidate_injective hab)
  have hlength := (hnodup.subperm hsubset).length_le
  simp at hlength

theorem nameCalls_ids {sha256Text : String → Except String String} {correlationId : String}
    {turn : Nat} {calls : List AgentToolCall} : ∀ {index : Nat} {seen : List String}
      {named : List AgentToolCall × List String}, seen.Nodup →
      nameCalls sha256Text correlationId turn index seen calls = .ok named →
      named.2 = (named.1.map AgentToolCall.id).reverse ++ seen ∧ named.2.Nodup := by
  induction calls with
  | nil =>
    intro index seen named hnodup h
    cases h
    exact ⟨rfl, hnodup⟩
  | cons call rest ih =>
    intro index seen named hnodup h
    simp only [nameCalls, bind, Except.bind, pure, Except.pure] at h
    split at h
    · cases h
    · next rawId hraw =>
      split at h
      · cases h
      · next others hothers =>
        cases h
        have hfresh : (if rawId ∈ seen then firstFresh rawId seen seen.length 2 else rawId) ∉
            seen := by
          split
          · exact firstFresh_not_mem
          · next hfree => exact hfree
        obtain ⟨heq, hall⟩ := ih (List.nodup_cons.mpr ⟨hfresh, hnodup⟩) hothers
        refine ⟨?_, hall⟩
        rw [heq, List.map_cons, List.reverse_cons, List.append_assoc, List.singleton_append]

end Ids

/-! ## One call -/

section Calls

variable {py : Language} {sha256Text : String → Except String String} {parties : Parties}
  {dataOf : History → AgentToolCall → Option (List Char)} {registry : AgentToolRegistry}
  {budget : ConversationBudget}

variable {call : AgentToolCall}

theorem budgetResult_callId {code message : String} :
    (budgetResult registry call code message).callId = call.id := by
  unfold budgetResult
  split <;> rfl

theorem harnessResult_callId {code message : String} :
    (harnessResult registry call code message).callId = call.id := by
  unfold harnessResult
  split <;> rfl

variable {history : History}

theorem runTool_callId {spec : AgentToolSpec} {arguments : Arg} {request : Option ApprovalRequest} :
    (runTool py parties call spec arguments request history).2.result.callId = call.id := by
  unfold runTool
  dsimp only
  split
  · split
    · rfl
    · split <;> rfl
  · rfl
  · rfl
  · rfl

theorem approveTool_callId {spec : AgentToolSpec} {entries : List (Key × Arg)} :
    (approveTool py parties call spec entries history).2.result.callId = call.id := by
  unfold approveTool
  dsimp only
  split
  · rfl
  · split
    · rfl
    · rfl
    · rfl
    · exact runTool_callId

theorem execute_callId {execution : Execution}
    (h : (execute py parties registry call history).2 = .ok execution) :
    execution.result.callId = call.id := by
  unfold execute at h
  split at h
  · cases h
    rfl
  · split at h
    · cases h
    · cases h
      rfl
    · split at h
      · split at h
        · cases h
          rfl
        · split at h
          · cases h
            rfl
          · split at h
            · cases h
              rfl
            · cases h
              exact runTool_callId
            · cases h
              exact approveTool_callId
      · cases h

/-- A call changes nothing of what is kept about the messages. -/
structure SameTalk (talk next : Talk) : Prop where
  messages : next.messages = talk.messages
  results : next.results = talk.results
  delivered : next.delivered = talk.delivered
  pending : next.pending = talk.pending
  seen : next.seen = talk.seen
  given : next.given = talk.given
  output : next.output = talk.output
  raw : next.raw = talk.raw

theorem SameTalk.refl {talk : Talk} {used : Nat} :
    SameTalk talk { talk with history := history, used := used } :=
  ⟨rfl, rfl, rfl, rfl, rfl, rfl, rfl, rfl⟩

theorem callResult_spec {turn : Nat} {talk : Talk} :
    SameTalk talk (callResult py parties dataOf registry budget turn call talk).1 ∧
      (callResult py parties dataOf registry budget turn call talk).2.1.callId = call.id := by
  unfold callResult
  dsimp only
  split
  · exact ⟨.refl, budgetResult_callId⟩
  · split
    · exact ⟨.refl, budgetResult_callId⟩
    · split
      · exact ⟨.refl, budgetResult_callId⟩
      · split
        · exact ⟨.refl, harnessResult_callId⟩
        · split
          · next heq => exact ⟨.refl, execute_callId (congrArg Prod.snd heq)⟩
          · exact ⟨.refl, harnessResult_callId⟩

/-- What some calls add to a run. -/
structure Tells (maxChars : Nat) (calls : List AgentToolCall) (talk next : Talk) : Prop where
  seen : next.seen = talk.seen
  delivered : next.delivered = talk.delivered
  given : next.given = talk.given
  output : next.output = talk.output
  raw : ∃ added, next.raw = talk.raw ++ added
  told : (∀ raw ∈ next.raw, observedFits maxChars raw.1 raw.2 = true) → ∃ observed,
    List.Forall₂ (Told maxChars) calls observed ∧
    next.messages = talk.messages ++
      List.zipWith (fun call observed => .tool call.id observed.2) calls observed ∧
    next.results = talk.results ++ observed.map Prod.fst ∧
    next.pending = talk.pending ++ successIds observed

theorem Tells.nil {maxChars : Nat} {talk : Talk} : Tells maxChars [] talk talk :=
  ⟨rfl, rfl, rfl, rfl, ⟨[], (List.append_nil _).symm⟩,
    fun _ => ⟨[], .nil, by simp, by simp, by simp [successIds]⟩⟩

theorem Tells.append {maxChars : Nat} {calls others : List AgentToolCall}
    {talk next last : Talk} (h : Tells maxChars calls talk next)
    (h' : Tells maxChars others next last) : Tells maxChars (calls ++ others) talk last := by
  obtain ⟨added, hadded⟩ := h.raw
  obtain ⟨more, hmore⟩ := h'.raw
  refine ⟨h'.seen.trans h.seen, h'.delivered.trans h.delivered, h'.given.trans h.given,
    h'.output.trans h.output, ⟨added ++ more, ?_⟩, fun hfits => ?_⟩
  · rw [hmore, hadded, List.append_assoc]
  · obtain ⟨rest, hrest, hmessages', hresults', hpending'⟩ := h'.told hfits
    have hfirst : ∀ raw ∈ next.raw, observedFits maxChars raw.1 raw.2 = true := by
      intro raw hraw
      refine hfits raw ?_
      rw [hmore]
      exact List.mem_append_left _ hraw
    obtain ⟨observed, hobserved, hmessages, hresults, hpending⟩ := h.told hfirst
    refine ⟨observed ++ rest, List.rel_append hobserved hrest, ?_, ?_, ?_⟩
    · rw [hmessages', hmessages, List.append_assoc, List.zipWith_append hobserved.length_eq]
    · rw [hresults', hresults, List.append_assoc, List.map_append]
    · rw [hpending', hpending, List.append_assoc]
      simp only [successIds, List.filter_append, List.map_append]

theorem talkCall_tells {turn : Nat} {talk : Talk} :
    ∃ next paused exceeded, talkCall py parties dataOf registry budget turn call talk =
      .ok (next, paused, exceeded) ∧ Tells budget.maxToolResultChars [call] talk next := by
  obtain ⟨hsame, hid⟩ := @callResult_spec py parties dataOf registry budget call turn talk
  unfold talkCall
  generalize callResult py parties dataOf registry budget turn call talk = answer at hsame hid ⊢
  obtain ⟨next, result, paused, exceeded⟩ := answer
  dsimp only at hsame hid ⊢
  obtain ⟨⟨bounded, content⟩, hobserve⟩ := Option.isSome_iff_exists.mp
    (@observe_isSome budget.maxToolResultChars result (traceToolName registry call))
  rw [hobserve]
  refine ⟨_, _, _, rfl, hsame.seen, hsame.delivered, hsame.given, hsame.output,
    ⟨[(result, traceToolName registry call)], ?_⟩, fun hfits => ?_⟩
  · rw [tell, hsame.raw]
  · have hfit := hfits (result, traceToolName registry call) (by simp [tell])
    obtain ⟨bounded', content', hobserve', htext, hnamed, hlength⟩ := observe_of_fits hfit
    rw [hobserve] at hobserve'
    cases hobserve'
    refine ⟨[(bounded, content)], .cons ⟨htext, hnamed.trans hid, hlength⟩ .nil, ?_, ?_, ?_⟩
    · rw [tell, hsame.messages]
      rfl
    · rw [tell, hsame.results]
      rfl
    · have hcallId : bounded.callId = call.id := hnamed.trans hid
      by_cases hsuccess : bounded.status = "success"
      · simp [tell, successIds, hsuccess, hsame.pending, hcallId]
      · simp [tell, successIds, hsuccess, hsame.pending]

theorem talkCalls_tells {turn : Nat} {calls : List AgentToolCall} : ∀ {talk : Talk},
    ∃ next paused exceeded, talkCalls py parties dataOf registry budget turn calls talk =
      .ok (next, paused, exceeded) ∧ Tells budget.maxToolResultChars calls talk next := by
  induction calls with
  | nil =>
    intro talk
    exact ⟨talk, false, false, rfl, .nil⟩
  | cons call rest ih =>
    intro talk
    obtain ⟨next, paused, exceeded, hcall, htells⟩ :=
      @talkCall_tells py parties dataOf registry budget call turn talk
    obtain ⟨last, paused', exceeded', hrest, htells'⟩ := @ih next
    refine ⟨last, paused || paused', exceeded || exceeded', ?_, htells.append htells'⟩
    simp only [talkCalls, hcall, hrest, bind, Except.bind, pure, Except.pure]

end Calls

/-! ## Turns -/

section Turns

variable {maxChars : Nat} {opening : List Message} {turns : List Turn} {talk : Talk}

theorem callsOf_answers {calls : List AgentToolCall} : ∀ {observed : List (ToolResult × List Char)},
    callsOf (List.zipWith (fun call observed => .tool call.id observed.2) calls observed) = [] := by
  induction calls with
  | nil =>
    intro observed
    rfl
  | cons call rest ih =>
    intro observed
    cases observed with
    | nil => rfl
    | cons first others =>
      rw [List.zipWith_cons_cons, callsOf, List.flatMap_cons]
      exact ih

theorem callsOf_turns : callsOf (turns.flatMap Turn.messages) = turns.flatMap Turn.calls := by
  induction turns with
  | nil => rfl
  | cons turn rest ih =>
    have hturn : callsOf turn.messages = turn.calls := by
      rw [Turn.messages, callsOf, List.flatMap_cons]
      exact (congrArg (turn.calls ++ ·) callsOf_answers).trans (List.append_nil _)
    rw [List.flatMap_cons, callsOf, List.flatMap_append, List.flatMap_cons]
    exact congrArg₂ (· ++ ·) hturn ih

/-- A run between two turns. -/
structure Going (maxChars : Nat) (opening : List Message) (turns : List Turn) (talk : Talk) :
    Prop where
  start : callsOf opening = []
  wellFormed : WellFormed maxChars opening turns talk.messages
  results : talk.results = turns.flatMap fun turn => turn.observed.map Prod.fst
  nodup : talk.seen.Nodup
  seen : talk.seen = ((turns.flatMap Turn.calls).map AgentToolCall.id).reverse
  given : ∀ messages ∈ talk.given, ∃ turns, WellFormed maxChars opening turns messages
  grounded : ∀ messages, talk.given.getLast? = some messages → ∃ turns,
    WellFormed maxChars opening turns messages ∧
      talk.delivered = turns.flatMap fun turn => successIds turn.observed
  ungrounded : talk.given = [] → talk.delivered = []
  success : talk.delivered ++ talk.pending = turns.flatMap fun turn => successIds turn.observed
  output : ∀ output, talk.output = some output → output.toolCalls.isEmpty = false

theorem Going.proposed (h : Going maxChars opening turns talk) :
    callsOf talk.messages = turns.flatMap Turn.calls := by
  rw [h.wellFormed.messages, callsOf, List.flatMap_append]
  exact (congrArg₂ (· ++ ·) h.start callsOf_turns).trans (List.nil_append _)

theorem Going.ids (h : Going maxChars opening turns talk) :
    ((callsOf talk.messages).map AgentToolCall.id).Nodup := by
  rw [h.proposed, ← List.nodup_reverse, ← h.seen]
  exact h.nodup

theorem Going.named (h : Going maxChars opening turns talk) :
    List.Forall₂ (fun (call : AgentToolCall) (result : ToolResult) => result.callId = call.id)
      (callsOf talk.messages) talk.results := by
  rw [h.proposed, h.results]
  have hturns := h.wellFormed.turns
  clear h
  induction turns with
  | nil => exact .nil
  | cons turn rest ih =>
    rw [List.flatMap_cons, List.flatMap_cons]
    refine List.rel_append ?_ (ih fun other hother => hturns other (List.mem_cons_of_mem _ hother))
    exact List.forall₂_map_right_iff.mpr
      ((hturns turn List.mem_cons_self).imp fun _ _ htold => htold.named)

theorem Going.kept (h : Going maxChars opening turns talk) : Kept maxChars opening talk :=
  ⟨h.given, h.ids, h.named, h.grounded, h.ungrounded⟩

theorem Going.clock (h : Going maxChars opening turns talk) :
    Going maxChars opening turns { talk with history := talk.history ++ [.clock] } :=
  ⟨h.start, h.wellFormed, h.results, h.nodup, h.seen, h.given, h.grounded, h.ungrounded,
    h.success, h.output⟩

variable {parties : Parties} {registry : AgentToolRegistry}

theorem callModel_output : (callModel parties registry talk).output =
    (parties.model (callModel parties registry talk).history).toOption := rfl

theorem Going.asked (h : Going maxChars opening turns talk) :
    Kept maxChars opening (callModel parties registry talk) := by
  refine ⟨fun messages hmessages => ?_, h.ids, h.named, fun messages hlast => ?_, fun hgiven => ?_⟩
  · rcases List.mem_append.mp hmessages with hmem | hmem
    · exact h.given messages hmem
    · obtain rfl := List.mem_singleton.mp hmem
      exact ⟨turns, h.wellFormed⟩
  · have hmessages : messages = talk.messages := by
      simpa [callModel] using hlast.symm
    subst hmessages
    exact ⟨turns, h.wellFormed, h.success⟩
  · simp [callModel] at hgiven

theorem Going.turn (h : Going maxChars opening turns talk) {output : ModelOutput} {content : String}
    {calls : List AgentToolCall} {seen : List String} {next : Talk}
    (houtput : (callModel parties registry talk).output = some output)
    (hcalls : output.toolCalls.isEmpty = false)
    (hseen : seen = (calls.map AgentToolCall.id).reverse ++ talk.seen) (hnodup : seen.Nodup)
    (htells : Tells maxChars calls { callModel parties registry talk with
      seen := seen
      messages := talk.messages ++ [.assistant content calls] } next)
    (hfits : ∀ raw ∈ next.raw, observedFits maxChars raw.1 raw.2 = true) :
    ∃ turns', Going maxChars opening turns' next := by
  obtain ⟨observed, htold, hmessages, hresults, hpending⟩ := htells.told hfits
  have hasked : Kept maxChars opening (callModel parties registry talk) := h.asked
  refine ⟨turns ++ [⟨content, calls, observed⟩], h.start, ⟨?_, ?_⟩, ?_, ?_, ?_, ?_, ?_, ?_, ?_, ?_⟩
  · rw [hmessages, h.wellFormed.messages]
    simp [Turn.messages]
  · intro turn hturn
    rcases List.mem_append.mp hturn with hmem | hmem
    · exact h.wellFormed.turns turn hmem
    · obtain rfl := List.mem_singleton.mp hmem
      exact htold
  · rw [hresults]
    simp [callModel, h.results]
  · rw [htells.seen]
    exact hnodup
  · rw [htells.seen]
    simp [hseen, h.seen]
  · rw [htells.given]
    exact hasked.given
  · rw [htells.given, htells.delivered]
    exact hasked.grounded
  · rw [htells.given, htells.delivered]
    exact hasked.ungrounded
  · rw [htells.delivered, hpending]
    simp [callModel, ← h.success]
  · intro other hother
    rw [htells.output] at hother
    obtain rfl : output = other := Option.some.inj (houtput.symm.trans hother)
    exact hcalls

end Turns

/-! ## Runs -/

section Runs

variable {py : Language} {sha256Text : String → Except String String} {parties : Parties}
  {dataOf : History → AgentToolCall → Option (List Char)} {registry : AgentToolRegistry}
  {budget : ConversationBudget} {correlationId : String}

/-- What is digested can be encoded: the task, and the ids that are too long. -/
structure Encodable (sha256Text : String → Except String String) (parties : Parties)
    (correlationId task : String) : Prop where
  task : ∃ digest, sha256Text (strip task) = .ok digest
  own : ∀ turn index : Nat, 96 < (s!"{correlationId}-turn-{turn}-tool-{index}").length →
    ∃ digest, sha256Text s!"{correlationId}-turn-{turn}-tool-{index}" = .ok digest
  given : ∀ history output, parties.model history = .ok output → ∀ call ∈ output.toolCalls,
    96 < (Data.oneLine call.id).length → ∃ digest, sha256Text (Data.oneLine call.id) = .ok digest

variable {task : String}

theorem givenCallId_ok (hown : ∀ turn index : Nat,
      96 < (s!"{correlationId}-turn-{turn}-tool-{index}").length →
        ∃ digest, sha256Text s!"{correlationId}-turn-{turn}-tool-{index}" = .ok digest)
    {id : String} (hid : 96 < (Data.oneLine id).length →
      ∃ digest, sha256Text (Data.oneLine id) = .ok digest) {turn index : Nat} :
    ∃ rawId, givenCallId sha256Text correlationId turn index id = .ok rawId := by
  unfold givenCallId
  dsimp only
  by_cases hempty : Data.oneLine id = ""
  · rw [if_pos hempty]
    split
    · next hlong =>
      obtain ⟨digest, hdigest⟩ := hown turn index hlong
      rw [hdigest]
      exact ⟨_, rfl⟩
    · exact ⟨_, rfl⟩
  · rw [if_neg hempty]
    split
    · next hlong =>
      obtain ⟨digest, hdigest⟩ := hid hlong
      rw [hdigest]
      exact ⟨_, rfl⟩
    · exact ⟨_, rfl⟩

theorem nameCalls_ok {turn : Nat} {calls : List AgentToolCall}
    (h : ∀ call ∈ calls, ∀ index, ∃ rawId,
      givenCallId sha256Text correlationId turn index call.id = .ok rawId) :
    ∀ (index : Nat) (seen : List String), ∃ named,
      nameCalls sha256Text correlationId turn index seen calls = .ok named := by
  induction calls with
  | nil =>
    intro index seen
    exact ⟨_, rfl⟩
  | cons call rest ih =>
    intro index seen
    obtain ⟨rawId, hraw⟩ := h call List.mem_cons_self index
    obtain ⟨others, hothers⟩ := ih (fun other hother => h other (List.mem_cons_of_mem _ hother))
      (index + 1) ((if rawId ∈ seen then firstFresh rawId seen seen.length 2 else rawId) :: seen)
    simp only [nameCalls, hraw, hothers, bind, Except.bind, pure, Except.pure]
    exact ⟨_, rfl⟩

theorem finishTalk_raw {output : ModelOutput} {talk : Talk} :
    (finishTalk py parties output talk).1.raw = talk.raw := by
  unfold finishTalk
  split
  · rfl
  · dsimp only
    split
    · rfl
    · split <;> rfl

theorem talkTurn_returns (hencodable : Encodable sha256Text parties correlationId task)
    {turn : Nat} {talk : Talk} : ∃ next finish,
      talkTurn py sha256Text parties dataOf registry budget correlationId turn talk =
        .ok (next, finish) ∧ talk.raw ⊆ next.raw := by
  unfold talkTurn
  dsimp only
  split
  · exact ⟨_, _, rfl, List.Subset.refl _⟩
  · generalize hasked : callModel parties registry
      { talk with history := talk.history ++ [Event.clock] } = asked
    have hraw : asked.raw = talk.raw := by
      rw [← hasked]
      rfl
    split
    · exact ⟨_, _, rfl, hraw ▸ List.Subset.refl _⟩
    · next output houtput =>
      split
      · exact ⟨_, _, rfl, (finishTalk_raw.trans hraw).symm ▸ List.Subset.refl _⟩
      · split
        · exact ⟨_, _, rfl, hraw ▸ List.Subset.refl _⟩
        · have hids : ∀ call ∈ output.toolCalls, ∀ index, ∃ rawId,
              givenCallId sha256Text correlationId turn index call.id = .ok rawId :=
            fun call hcall index =>
              givenCallId_ok hencodable.own (hencodable.given _ _ houtput call hcall)
          obtain ⟨⟨calls, seen⟩, hnamed⟩ := nameCalls_ok hids 1 asked.seen
          obtain ⟨next, paused, exceeded, hcalls, htells⟩ :=
            @talkCalls_tells py parties dataOf registry budget turn calls { asked with
              seen := seen
              messages := asked.messages ++ [.assistant (py.redact output.assistantContent) calls] }
          obtain ⟨added, hadded⟩ := htells.raw
          simp only [hnamed, hcalls, bind, Except.bind, pure, Except.pure]
          refine ⟨next, _, rfl, fun raw hmem => ?_⟩
          rw [hadded]
          exact List.mem_append_left _ (hraw.symm ▸ hmem)

theorem talkTurns_returns (hencodable : Encodable sha256Text parties correlationId task)
    {left : Nat} : ∀ {turn : Nat} {talk : Talk}, ∃ last finish,
      talkTurns py sha256Text parties dataOf registry budget correlationId left turn talk =
        .ok (last, finish) ∧ talk.raw ⊆ last.raw := by
  induction left with
  | zero =>
    intro turn talk
    exact ⟨talk, _, rfl, List.Subset.refl _⟩
  | succ left ih =>
    intro turn talk
    obtain ⟨next, finish, hturn, hsubset⟩ := @talkTurn_returns py sha256Text parties dataOf
      registry budget correlationId task hencodable turn talk
    simp only [talkTurns, hturn, bind, Except.bind, pure, Except.pure]
    cases finish with
    | some finish => exact ⟨next, finish, rfl, hsubset⟩
    | none =>
      obtain ⟨last, finish, hlast, hmore⟩ := @ih (turn + 1) next
      exact ⟨last, finish, hlast, fun raw hraw => hmore (hsubset hraw)⟩

theorem Kept.unanswered {maxChars : Nat} {opening : List Message} {talk : Talk}
    {status reason : String} (h : Kept maxChars opening talk)
    (hproduced : produced py parties talk = none) (hstatus : status ≠ "completed") :
    Conversed py parties maxChars opening talk ⟨status, reason, none⟩ := by
  refine ⟨h, hproduced.symm, ?_⟩
  rw [hproduced]
  simpa using hstatus

theorem Going.not_produced {maxChars : Nat} {opening : List Message} {turns : List Turn}
    {talk : Talk} (h : Going maxChars opening turns talk) : produced py parties talk = none := by
  unfold produced
  split
  · rfl
  · next output houtput => simp [h.output output houtput]

theorem finishTalk_conversed {maxChars : Nat} {opening : List Message} {talk : Talk}
    {output : ModelOutput} (h : Kept maxChars opening talk) (houtput : talk.output = some output)
    (hcalls : output.toolCalls.isEmpty = true) :
    Conversed py parties maxChars opening (finishTalk py parties output talk).1
      (finishTalk py parties output talk).2 := by
  have hclock : Kept maxChars opening { talk with history := talk.history ++ [.clock] } :=
    ⟨h.given, h.ids, h.results, h.grounded, h.ungrounded⟩
  unfold finishTalk
  split
  · next hnone =>
    exact h.unanswered (by simp [produced, houtput, hnone]) (by decide)
  · next answer hanswer =>
    dsimp only
    split
    · next hexpired =>
      exact hclock.unanswered (by simp [produced, houtput, hexpired]) (by decide)
    · next hexpired =>
      split
      · next hempty =>
        exact hclock.unanswered (by simp [produced, houtput, hanswer, hempty]) (by decide)
      · next hanswered =>
        have hproduced : produced py parties { talk with history := talk.history ++ [.clock] } =
              some (py.redact (py.stripped answer)) := by
          simp [produced, houtput, hcalls, hexpired, hanswer, hanswered]
        exact ⟨hclock, hproduced.symm, by simp [hproduced]⟩

theorem talkTurn_conversed {opening : List Message} {turns : List Turn} {turn : Nat}
    {talk next : Talk} {finish : Option RunEnd}
    (h : Going budget.maxToolResultChars opening turns talk)
    (hturn : talkTurn py sha256Text parties dataOf registry budget correlationId turn talk =
      .ok (next, finish))
    (hfits : ∀ raw ∈ next.raw, observedFits budget.maxToolResultChars raw.1 raw.2 = true) :
    (∀ ended, finish = some ended →
      Conversed py parties budget.maxToolResultChars opening next ended) ∧
    (finish = none → ∃ turns', Going budget.maxToolResultChars opening turns' next) := by
  have hclock := h.clock
  unfold talkTurn at hturn
  dsimp only at hturn
  split at hturn
  · cases hturn
    refine ⟨fun ended hended => ?_, nofun⟩
    cases hended
    exact hclock.kept.unanswered hclock.not_produced (by decide)
  · have hkept := @Going.asked _ _ _ _ parties registry hclock
    split at hturn
    · next name herror =>
      cases hturn
      refine ⟨fun ended hended => ?_, nofun⟩
      cases hended
      refine hkept.unanswered ?_ (by decide)
      rw [produced, callModel_output, herror]
      rfl
    · next output hmodel =>
      have houtput : (callModel parties registry { talk with
          history := talk.history ++ [Event.clock] }).output = some output := by
        rw [callModel_output, hmodel]
        rfl
      split at hturn
      · next hfinal =>
        cases hturn
        refine ⟨fun ended hended => ?_, nofun⟩
        cases hended
        exact finishTalk_conversed hkept houtput hfinal
      · next hcalls =>
        rw [Bool.not_eq_true] at hcalls
        split at hturn
        · cases hturn
          refine ⟨fun ended hended => ?_, nofun⟩
          cases hended
          exact hkept.unanswered (by simp [produced, houtput, hcalls]) (by decide)
        · simp only [bind, Except.bind, pure, Except.pure] at hturn
          split at hturn
          · cases hturn
          · next named hnamed =>
            split at hturn
            · cases hturn
            · next ran hran =>
              obtain ⟨last, paused, exceeded⟩ := ran
              cases hturn
              obtain ⟨hseen, hnodup⟩ := nameCalls_ids hclock.nodup hnamed
              obtain ⟨next', paused', exceeded', hran', htells⟩ :=
                @talkCalls_tells py parties dataOf registry budget turn named.1 _
              cases hran.symm.trans hran'
              obtain ⟨turns', hgoing⟩ := hclock.turn houtput hcalls hseen hnodup htells hfits
              refine ⟨fun ended hended => ?_, fun _ => ⟨turns', hgoing⟩⟩
              split at hended
              · cases hended
                exact hgoing.kept.unanswered hgoing.not_produced (by decide)
              · split at hended
                · cases hended
                  exact hgoing.kept.unanswered hgoing.not_produced (by decide)
                · cases hended

theorem talkTurns_conversed (hencodable : Encodable sha256Text parties correlationId task)
    {opening : List Message} {left : Nat} : ∀ {turns : List Turn} {turn : Nat} {talk last : Talk}
      {finish : RunEnd}, Going budget.maxToolResultChars opening turns talk →
      talkTurns py sha256Text parties dataOf registry budget correlationId left turn talk =
        .ok (last, finish) →
      (∀ raw ∈ last.raw, observedFits budget.maxToolResultChars raw.1 raw.2 = true) →
      Conversed py parties budget.maxToolResultChars opening last finish := by
  induction left with
  | zero =>
    intro turns turn talk last finish h hrun hfits
    cases hrun
    exact h.kept.unanswered h.not_produced (by decide)
  | succ left ih =>
    intro turns turn talk last finish h hrun hfits
    obtain ⟨next, ended, hturn, -⟩ := @talkTurn_returns py sha256Text parties dataOf
      registry budget correlationId task hencodable turn talk
    simp only [talkTurns, hturn, bind, Except.bind, pure, Except.pure] at hrun
    cases ended with
    | some ended =>
      cases hrun
      exact (talkTurn_conversed h hturn hfits).1 finish rfl
    | none =>
      obtain ⟨last', finish', hlast, hmore⟩ := @talkTurns_returns py sha256Text parties
        dataOf registry budget correlationId task hencodable left (turn + 1) next
      cases hrun.symm.trans hlast
      obtain ⟨turns', hgoing⟩ :=
        (talkTurn_conversed h hturn fun raw hraw => hfits raw (hmore hraw)).2 rfl
      exact ih hgoing hlast hfits

end Runs

/-! ## An id that does not fit -/

/-- Every text is digested. -/
def digested (_ : String) : Except String String := .ok "digest"

/-- The least bound of a result. -/
def talkBudget : ConversationBudget :=
  { smallBudget with maxToolResultChars := 512, result_bound := le_refl _ }

/-- An id of the greatest length, whose letters are escaped. -/
def accentedId : String := String.ofList (List.replicate 96 'é')

/-- The model calls an unknown tool once, and then answers. -/
def callUnknown : Parties where
  model history :=
    if history.countP Event.isModel = 1 then .ok ⟨none, [⟨accentedId, "x", .dict []⟩], ""⟩
    else .ok ⟨some "done", [], ""⟩
  expired _ := false
  handler := none
  runner _ _ _ := .result "ok" "done" false

theorem serializeResult_length {result : ToolResult} {text : List Char}
    (h : serializeResult result = some text) :
    (dumpString result.callId).length ≤ text.length := by
  obtain ⟨data, -, rfl⟩ := Option.map_eq_some_iff.mp h
  simp only [List.length_append]
  omega

theorem boundToolResult_of_long_id {maxChars : Nat} {result : ToolResult}
    (hshort : result.callId.length ≤ 96) (hlong : maxChars < (dumpString result.callId).length)
    (hwritten : (serializeResult result).isSome) :
    ∃ content, boundToolResult maxChars result = some (anonymous result, content) := by
  obtain ⟨text, htext⟩ := Option.isSome_iff_exists.mp hwritten
  obtain ⟨compact, hcompact⟩ : ∃ compact,
      serializeResult (shortened result text.length) = some compact := ⟨_, rfl⟩
  obtain ⟨tiny, htiny⟩ : ∃ tiny, serializeResult (cut result text.length) = some tiny := ⟨_, rfl⟩
  obtain ⟨content, hcontent⟩ : ∃ content, serializeResult (anonymous result) = some content :=
    ⟨_, rfl⟩
  have htextLong := hlong.trans_le (serializeResult_length htext)
  have hcompactLong := serializeResult_length hcompact
  have htinyLong := serializeResult_length htiny
  rw [show (shortened result text.length).callId = result.callId from rfl] at hcompactLong
  rw [show (cut result text.length).callId = result.callId from firstChars_of_le hshort]
    at htinyLong
  refine ⟨content, ?_⟩
  simp [boundToolResult, htext, hcompact, htiny, hcontent, htextLong.not_ge,
    (hlong.trans_le hcompactLong).not_ge, (hlong.trans_le htinyLong).not_ge]

def unknownTool (id : String) : ToolResult := ⟨⟨id, "unknown", "error", "unknown_tool",
  "The requested tool is not registered or visible.", "unknown"⟩, noData⟩

theorem unknown_told {parties : Parties} {id : String} {told : ToolResult × List Char}
    (hmodel : ∀ history, parties.model history =
      if history.countP Event.isModel = 1 then .ok ⟨none, [⟨id, "x", .dict []⟩], ""⟩
      else .ok ⟨some "done", [], ""⟩) (hexpired : ∀ history, parties.expired history = false)
    (hgiven : givenCallId digested "r" 1 1 id = .ok id)
    (htold : observe 512 (unknownTool id) "unknown" = some told) : ∃ talk finish,
      converse plain digested parties (fun _ _ => noData) listRegistry talkBudget "s" "r" "go" =
        .ok (talk, finish) ∧ (callsOf talk.messages).map AgentToolCall.id = [id] ∧
      talk.results = [told.1] := by
  have hstrip : strip "go" ≠ "" ∧ (strip "go").length = 2 ∧ strip "x" = "x" := by decide +kernel
  have hunknown : listRegistry.resolve "x" = none := rfl
  have hbudget : talkBudget.maxModelTurns = 2 ∧ talkBudget.maxToolCalls = 1 ∧
      talkBudget.maxProposedToolCallsPerTurn = 1 ∧ talkBudget.maxToolArgumentChars = 10 ∧
      talkBudget.maxTaskChars = 10 ∧ talkBudget.maxToolResultChars = 512 :=
    ⟨rfl, rfl, rfl, rfl, rfl, rfl⟩
  have hplain : plain.redact (plain.stripped "done") = "done" ∧ plain.size (.dict []) = 2 :=
    ⟨rfl, rfl⟩
  have hclock : Event.isModel Event.clock = false ∧ ∀ shown, Event.isModel (.model shown) = true :=
    ⟨rfl, fun _ => rfl⟩
  rw [unknownTool] at htold
  simp [converse, talkTurns, talkTurn, nameCalls, talkCalls, talkCall, callResult, execute,
    traceToolName, finishTalk, callModel, tell, callsOf, Message.calls, bind, Except.bind, pure,
    Except.pure, digested, hmodel, hexpired, hgiven, htold, hstrip, hunknown, hbudget, hplain,
    hclock]

end LocalMoe.Agent
