/-
  Which results a provider call that has run yields.
-/
import LocalMoe.Bridge.Usage

namespace LocalMoe.Bridge

open Foundation Foundation.JsonText Contracts

variable {limit : Nat} {lines : List (List UInt8)} {stdout : List UInt8}

/-! ## The loop over the lines -/

def LineReads (limit : Nat) (line : List UInt8) (read : Option Completed) : Prop :=
  (line ≠ [] ∧ line.length ≤ maxCodexJsonEventBytes) ∧
    ∃ event, loadsBytes limit line = .ok event ∧ readEvent event = some read

theorem readEvents_returns (completed : List Completed)
    (h : ∀ line ∈ lines, ∀ e, loadsBytes limit line = .error e → e = .malformed) :
    ∃ read, readEvents limit lines completed = .ok read := by
  induction lines generalizing completed with
  | nil => exact ⟨_, rfl⟩
  | cons line rest ih =>
    have hrest (counters : List Completed) :=
      ih counters fun l hl => h l (List.mem_cons_of_mem _ hl)
    unfold readEvents
    split
    · exact ⟨_, rfl⟩
    · split
      · exact ⟨_, rfl⟩
      · rename_i raised hne hraised
        exact absurd (h line List.mem_cons_self raised hraised) hne
      · split
        · exact ⟨_, rfl⟩
        · exact hrest _
        · exact hrest _

theorem filterMap_some (counters : Completed) (events : List (Option Completed)) :
    (some counters :: events).filterMap id = counters :: events.filterMap id := rfl

theorem readEvents_eq_some {completed read : List Completed} :
    readEvents limit lines completed = .ok (some read) ↔
      ∃ events, List.Forall₂ (LineReads limit) lines events ∧
        read = completed ++ events.filterMap id := by
  induction lines generalizing completed with
  | nil =>
    constructor
    · intro h
      cases h
      exact ⟨[], .nil, (List.append_nil _).symm⟩
    · rintro ⟨_, hevents, rfl⟩
      cases hevents
      rw [List.filterMap_nil, List.append_nil]
      rfl
  | cons line rest ih =>
    unfold readEvents
    constructor
    · intro h
      split at h
      · cases h
      · rename_i hbound
        rw [not_or, not_lt] at hbound
        split at h
        · cases h
        · cases h
        · rename_i event hevent
          split at h
          · cases h
          · rename_i hread
            obtain ⟨events, hevents, rfl⟩ := ih.mp h
            exact ⟨none :: events, .cons ⟨hbound, event, hevent, hread⟩ hevents, rfl⟩
          · rename_i counters hread
            obtain ⟨events, hevents, rfl⟩ := ih.mp h
            refine ⟨some counters :: events, .cons ⟨hbound, event, hevent, hread⟩ hevents, ?_⟩
            rw [filterMap_some, List.append_assoc]
            rfl
    · rintro ⟨_, hevents, rfl⟩
      cases hevents with
      | cons hline hrest =>
        rename_i one events
        obtain ⟨⟨hne, hlength⟩, event, hevent, hread⟩ := hline
        rw [if_neg (not_or.mpr ⟨hne, not_lt.mpr hlength⟩), hevent]
        dsimp only
        rw [hread]
        cases one with
        | none => exact ih.mpr ⟨events, hrest, rfl⟩
        | some counters =>
          refine ih.mpr ⟨events, hrest, ?_⟩
          rw [filterMap_some, List.append_assoc]
          rfl

theorem reads_none : (∃ events, List.Forall₂ (LineReads limit) lines events ∧
    events.filterMap id = []) ↔ ∀ line ∈ lines, LineReads limit line none := by
  induction lines with
  | nil => exact iff_of_true ⟨[], .nil, rfl⟩ fun _ h => (by cases h)
  | cons line rest ih =>
    rw [List.forall_mem_cons, ← ih]
    constructor
    · rintro ⟨_, hevents, hnone⟩
      cases hevents with
      | cons hline hrest =>
        rename_i one events
        cases one with
        | none => exact ⟨hline, events, hrest, hnone⟩
        | some counters => cases hnone
    · rintro ⟨hline, events, hrest, hnone⟩
      exact ⟨none :: events, .cons hline hrest, hnone⟩

theorem reads_single {counters : Completed} :
    (∃ events, List.Forall₂ (LineReads limit) lines events ∧
        events.filterMap id = [counters]) ↔ ∃ before line after, lines = before ++ line :: after ∧
        (∀ l ∈ before ++ after, LineReads limit l none) ∧
        LineReads limit line (some counters) := by
  induction lines with
  | nil =>
    refine iff_of_false ?_ ?_
    · rintro ⟨_, hevents, hone⟩
      cases hevents
      cases hone
    · rintro ⟨before, line, after, heq, _⟩
      simp at heq
  | cons line rest ih =>
    constructor
    · rintro ⟨_, hevents, hone⟩
      cases hevents with
      | cons hline hrest =>
        rename_i one events
        cases one with
        | none =>
          obtain ⟨before, l, after, rfl, hothers, hl⟩ := ih.mp ⟨events, hrest, hone⟩
          exact ⟨line :: before, l, after, rfl, List.forall_mem_cons.mpr ⟨hline, hothers⟩, hl⟩
        | some found =>
          rw [filterMap_some, List.cons.injEq] at hone
          refine ⟨[], line, rest, rfl, reads_none.mp ⟨events, hrest, hone.2⟩, ?_⟩
          rw [← hone.1]
          exact hline
    · rintro ⟨before, l, after, heq, hothers, hl⟩
      cases before with
      | nil =>
        rw [List.nil_append, List.cons.injEq] at heq
        rw [heq.1, heq.2]
        obtain ⟨events, hevents, hnone⟩ := reads_none.mpr hothers
        refine ⟨some counters :: events, .cons hl hevents, ?_⟩
        rw [filterMap_some, hnone]
      | cons first before =>
        rw [List.cons_append, List.cons.injEq] at heq
        rw [List.cons_append, List.forall_mem_cons] at hothers
        obtain ⟨events, hevents, hone⟩ := ih.mpr ⟨before, l, after, heq.2, hothers.2, hl⟩
        rw [heq.1]
        exact ⟨none :: events, .cons hothers.1 hevents, hone⟩

/-! ## The token counts -/

theorem parseCodexJsonUsage_returns (h : Decodes limit stdout) :
    ∃ usage, parseCodexJsonUsage limit stdout = .ok usage := by
  obtain ⟨read, hread⟩ := readEvents_returns [] h
  unfold parseCodexJsonUsage
  dsimp only
  rw [hread]
  split
  · exact ⟨_, rfl⟩
  · split
    · exact ⟨_, rfl⟩
    · split
      · rename_i heq
        cases heq
      · split
        · exact ⟨_, rfl⟩
        · exact ⟨_, rfl⟩
      · exact ⟨_, rfl⟩

theorem parseCodexJsonUsage_eq_some {tokens : Nat × Nat} :
    parseCodexJsonUsage limit stdout = .ok (some tokens) ↔
      stdout.length ≤ maxStreamBytes ∧ (splitLines stdout).length ≤ maxCodexJsonEvents ∧
        readEvents limit (splitLines stdout) [] = .ok (some [⟨tokens.1, tokens.2, 0, 0⟩]) := by
  unfold parseCodexJsonUsage
  constructor
  · intro h
    split at h
    · cases h
    · rename_i hstream
      dsimp only at h
      split at h
      · cases h
      · rename_i hcount
        rw [not_or, not_lt] at hstream hcount
        split at h
        · cases h
        · rename_i counters hread
          split at h
          · cases h
          · rename_i hcache
            rw [not_or, not_not, not_not] at hcache
            cases h
            refine ⟨hstream.2, hcount.2, ?_⟩
            rw [hread, show counters = ⟨counters.inputTokens, counters.outputTokens,
              counters.cachedInputTokens, counters.cacheWriteInputTokens⟩ from rfl, hcache.1,
              hcache.2]
        · cases h
  · rintro ⟨hstream, hcount, hread⟩
    have hlines : splitLines stdout ≠ [] := by
      intro hnil
      rw [hnil] at hread
      cases hread
    have hstdout : stdout ≠ [] := by
      rintro rfl
      exact hlines rfl
    rw [if_neg (not_or.mpr ⟨hstdout, not_lt.mpr hstream⟩)]
    dsimp only
    rw [if_neg (not_or.mpr ⟨hlines, not_lt.mpr hcount⟩), hread]
    rfl

theorem parseCodexJsonUsage_reports {tokens : Nat × Nat} :
    parseCodexJsonUsage limit stdout = .ok (some tokens) ↔
      Bounded stdout ∧ Reports limit stdout tokens := by
  have hread : readEvents limit (splitLines stdout) [] = .ok (some [⟨tokens.1, tokens.2, 0, 0⟩]) ↔
        ∃ before line after, splitLines stdout = before ++ line :: after ∧
          (∀ l ∈ before ++ after, LineReads limit l none) ∧
          LineReads limit line (some ⟨tokens.1, tokens.2, 0, 0⟩) := by
    rw [readEvents_eq_some, ← reads_single]
    simp only [List.nil_append, eq_comm]
  rw [parseCodexJsonUsage_eq_some, hread]
  unfold LineReads Bounded Reports
  simp only [readEvent_other, readEvent_completed]
  constructor
  · rintro ⟨hstream, hcount, before, line, after, heq, hothers, hline, event, hevent, hturn⟩
    refine ⟨⟨hstream, hcount, fun l hl => ?_⟩, before, line, after, event, heq,
      fun l hl => (hothers l hl).2, hevent, hturn⟩
    rw [heq, List.mem_append, List.mem_cons] at hl
    rcases hl with hbefore | rfl | hafter
    · exact (hothers l (List.mem_append_left _ hbefore)).1
    · exact hline
    · exact (hothers l (List.mem_append_right _ hafter)).1
  · rintro ⟨⟨hstream, hcount, hbounds⟩, before, line, after, event, heq, hothers, hevent, hturn⟩
    rw [heq] at hbounds
    refine ⟨hstream, hcount, before, line, after, heq, fun l hl => ⟨hbounds l ?_, hothers l hl⟩,
      hbounds line (List.mem_append_right _ List.mem_cons_self), event, hevent, hturn⟩
    rcases List.mem_append.mp hl with hbefore | hafter
    · exact List.mem_append_left _ hbefore
    · exact List.mem_append_right _ (List.mem_cons_of_mem _ hafter)

/-! ## The result -/

/-- The output file is a regular file that was read within its bound. -/
def ReadWithin : FinalOutput → Prop
  | .file size text => size ≤ maxFinalBytes ∧ text.utf8ByteSize ≤ maxFinalBytes
  | _ => False

theorem readFinalOutput_completed {outcome : ProcessOutcome} {final : FinalOutput} :
    (readFinalOutput outcome final).1 = "completed" ↔ outcome.ok = true ∧ ReadWithin final := by
  unfold readFinalOutput
  cases hok : outcome.ok with
  | false =>
    refine iff_of_false ?_ (fun h => by cases h.1)
    rw [if_neg Bool.false_ne_true]
    split <;> exact (by decide : "failed" ≠ "completed")
  | true =>
    rw [if_pos rfl]
    cases final with
    | missing | unreadable => exact iff_of_false (by decide) fun h => h.2
    | file size text =>
      unfold ReadWithin
      dsimp only
      split
      · exact iff_of_false (by decide) fun h => absurd h.2.1 (by omega)
      · split
        · exact iff_of_false (by decide) fun h => absurd h.2.2 (by omega)
        · exact iff_of_true rfl ⟨rfl, by omega, by omega⟩

theorem executeCodexCommand_of (providerId commandSha256 : String) {outcome : ProcessOutcome}
    (final : FinalOutput) {usage : Option (Nat × Nat)} (h : streamUsage limit outcome = .ok usage) :
    ∃ r, executeCodexCommand limit providerId commandSha256 outcome final = .ok r ∧
      r.status = (readFinalOutput outcome final).1 ∧ r.promptTokens = usage.map Prod.fst ∧
      r.completionTokens = usage.map Prod.snd := by
  unfold executeCodexCommand
  dsimp only
  rw [h]
  exact ⟨_, rfl, rfl, rfl, rfl⟩

/-- Where the decoder raises nothing but its decode errors, the call yields a result; its token
counts are those that a bounded stream reports, and it is completed exactly when the process
succeeded and its output was read within the bound. -/
theorem call_yields_result (limit : Nat) (providerId commandSha256 : String)
    (outcome : ProcessOutcome) (final : FinalOutput) (h : Decodes limit outcome.stdout) :
    ∃ r, executeCodexCommand limit providerId commandSha256 outcome final = .ok r ∧
      (∀ prompt completion, (r.promptTokens = some prompt ∧ r.completionTokens = some completion) ↔
        outcome.stdoutTruncated = false ∧ Bounded outcome.stdout ∧
          Reports limit outcome.stdout (prompt, completion)) ∧
      (r.promptTokens = none ↔ r.completionTokens = none) ∧
      (r.status = "completed" ↔ outcome.ok = true ∧ ReadWithin final) := by
  obtain ⟨parsed, hparsed⟩ := parseCodexJsonUsage_returns h
  obtain ⟨usage, husage, hreports⟩ : ∃ usage, streamUsage limit outcome = .ok usage ∧
      ∀ tokens, usage = some tokens ↔ outcome.stdoutTruncated = false ∧
        Bounded outcome.stdout ∧ Reports limit outcome.stdout tokens := by
    unfold streamUsage
    cases htruncated : outcome.stdoutTruncated with
    | true => exact ⟨none, rfl, fun tokens => iff_of_false (by simp) (by simp)⟩
    | false =>
      refine ⟨parsed, hparsed, fun tokens => ?_⟩
      rw [← parseCodexJsonUsage_reports, hparsed, Except.ok.injEq]
      exact (and_iff_right rfl).symm
  obtain ⟨r, hr, hstatus, hprompt, hcompletion⟩ := executeCodexCommand_of
    providerId commandSha256 final husage
  rw [← readFinalOutput_completed, ← hstatus]
  refine ⟨r, hr, fun prompt completion => ?_, ?_, Iff.rfl⟩
  · rw [← hreports, hprompt, hcompletion]
    cases usage with
    | none => exact iff_of_false (fun h => by cases h.1) (fun h => by cases h)
    | some tokens =>
      rw [Option.some.injEq, Prod.ext_iff]
      simp
  · rw [hprompt, hcompletion]
    cases usage <;> simp

/-! ## Calls -/

def sampleOutcome (stdout : List UInt8) : ProcessOutcome where
  code := "completed"
  returncode := some 0
  durationMs := 1
  stdout := stdout
  stdoutTruncated := false
  stdoutSha256 := ""
  stdoutBytes := stdout.length
  stderrSha256 := ""
  stderrBytes := 0

theorem sampleOutcome_stdout (stdout : List UInt8) : (sampleOutcome stdout).stdout = stdout := rfl

theorem streamUsage_sampleOutcome (limit : Nat) (stdout : List UInt8) :
    streamUsage limit (sampleOutcome stdout) = parseCodexJsonUsage limit stdout := rfl

def sampleEvent : List UInt8 :=
  ("\x7b\"type\":\"turn.completed\",\"usage\":\x7b\"input_tokens\":7,\"cached_input_tokens\":0," ++
    "\"cache_write_input_tokens\":0,\"output_tokens\":5,\"reasoning_output_tokens\":0\x7d\x7d").toList.map
      fun c => c.toNat.toUInt8

/-- More opening brackets than the recursion limit. -/
def nested (limit : Nat) : List UInt8 := List.replicate (limit + 1) 91

/-- The completed turn after blanks. -/
def padded (blanks : Nat) : List UInt8 := List.replicate blanks 32 ++ sampleEvent

theorem sampleEvent_plain : sampleEvent ≠ [] ∧ ∀ b ∈ sampleEvent, b ≠ 10 ∧ b ≠ 13 := by
  unfold sampleEvent
  rw [String.toList_append, String.toList_ofList, String.toList_ofList]
  decide +kernel

theorem sampleEvent_completed : ∃ event, loadsBytes 1000 sampleEvent = .ok event ∧
    CompletedEvent event ⟨7, 5, 0, 0⟩ := by
  have h : (loadsBytes 1000 sampleEvent).toOption.bind readEvent = some (some ⟨7, 5, 0, 0⟩) := by
    unfold sampleEvent
    rw [String.toList_append, String.toList_ofList, String.toList_ofList]
    decide +kernel
  obtain ⟨event, hevent, hread⟩ := Option.bind_eq_some_iff.mp h
  refine ⟨event, ?_, readEvent_completed.mp hread⟩
  cases hloads : loadsBytes 1000 sampleEvent with
  | error e =>
    rw [hloads] at hevent
    cases hevent
  | ok value =>
    rw [hloads] at hevent
    cases hevent
    rfl

theorem padded_lines (blanks : Nat) : splitLines (padded blanks) = [padded blanks] := by
  refine splitLines_plain (List.append_ne_nil_of_right_ne_nil _ sampleEvent_plain.1) ?_
  intro b hb
  rcases List.mem_append.mp hb with hblank | hevent
  · rw [List.eq_of_mem_replicate hblank]
    decide
  · exact sampleEvent_plain.2 b hevent

theorem blanks_loads {event : List UInt8} (blanks : Nat)
    (hhead : (decodeUtf8 event).all fun s => s.head? ≠ some 65279) :
    loadsBytes 1000 (List.replicate blanks 32 ++ event) = loadsBytes 1000 event := by
  unfold loadsBytes
  rw [decodeUtf8_replicate (by decide)]
  cases hdecode : decodeUtf8 event with
  | none => rfl
  | some s =>
    rw [hdecode] at hhead
    exact loads_blanks (of_decide_eq_true hhead)

theorem padded_loads (blanks : Nat) :
    loadsBytes 1000 (padded blanks) = loadsBytes 1000 sampleEvent := by
  refine blanks_loads blanks ?_
  unfold sampleEvent
  rw [String.toList_append, String.toList_ofList, String.toList_ofList]
  decide +kernel

theorem padded_reports (blanks : Nat) : Reports 1000 (padded blanks) (7, 5) := by
  obtain ⟨event, hevent, hturn⟩ := sampleEvent_completed
  exact ⟨[], padded blanks, [], event, padded_lines blanks, fun _ h => (by cases h),
    (padded_loads blanks).trans hevent, hturn⟩

theorem padded_usage {blanks : Nat} (h : maxCodexJsonEventBytes ≤ blanks) :
    parseCodexJsonUsage 1000 (padded blanks) = .ok none := by
  have hdecodes : Decodes 1000 (padded blanks) := by
    intro line hline e he
    obtain ⟨event, hevent, _⟩ := sampleEvent_completed
    rw [padded_lines, List.mem_singleton] at hline
    rw [hline, padded_loads, hevent] at he
    cases he
  obtain ⟨usage, husage⟩ := parseCodexJsonUsage_returns hdecodes
  cases usage with
  | none => exact husage
  | some tokens =>
    have hbound := (parseCodexJsonUsage_reports.mp husage).1.2.2 (padded blanks)
      (by rw [padded_lines]; exact List.mem_singleton_self _)
    have hlength : 0 < sampleEvent.length := List.length_pos_iff.mpr sampleEvent_plain.1
    unfold padded at hbound
    rw [List.length_append, List.length_replicate] at hbound
    omega

theorem nested_usage (limit : Nat) (hstream : limit + 1 ≤ maxStreamBytes)
    (hline : limit + 1 ≤ maxCodexJsonEventBytes) :
    parseCodexJsonUsage limit (nested limit) = .error .recursion := by
  have hne : List.replicate (limit + 1) (91 : UInt8) ≠ [] := List.cons_ne_nil _ _
  have hlines : splitLines (List.replicate (limit + 1) 91) = [List.replicate (limit + 1) 91] :=
    splitLines_plain hne fun b hb => by rw [List.eq_of_mem_replicate hb]; decide
  have hloads : loadsBytes limit (List.replicate (limit + 1) 91) = .error .recursion := by
    have hdecode := decodeUtf8_replicate (a := 91) (by decide) (limit + 1) []
    rw [List.append_nil] at hdecode
    have hscan := scanValue_brackets [] limit (2 * (List.replicate (limit + 1) 91).length + 2)
      (by rw [List.length_replicate]; omega)
    unfold loadsBytes
    rw [hdecode]
    change loads limit (List.replicate (limit + 1) 91 ++ []) = _
    rw [List.append_nil] at hscan ⊢
    unfold loads
    rw [if_neg (by exact fun heq => absurd (Option.some.inj heq) (by decide)),
      show skip (List.replicate (limit + 1) 91) = List.replicate (limit + 1) 91 from rfl, hscan]
  have hevents : readEvents limit [List.replicate (limit + 1) 91] [] = .error .recursion := by
    unfold readEvents
    rw [if_neg (not_or.mpr ⟨hne, by rw [List.length_replicate]; omega⟩), hloads]
  unfold parseCodexJsonUsage nested
  dsimp only
  rw [if_neg (not_or.mpr ⟨hne, by rw [List.length_replicate]; omega⟩), hlines,
    if_neg (not_or.mpr ⟨List.cons_ne_nil _ _, by rw [List.length_singleton]; decide⟩), hevents]

/-- A stream that nests too deep raises instead of yielding a result; a padded event that the
stream reports is beyond the bound of a line, and the result has no counts. -/
theorem calls_without_counts :
    executeCodexCommand 1000 "codex" "" (sampleOutcome (nested 1000)) (.file 2 "ok") =
        .error .recursion ∧
    Reports 1000 (padded (1024 * 1024)) (7, 5) ∧
    ∃ r, executeCodexCommand 1000 "codex" "" (sampleOutcome (padded (1024 * 1024)))
        (.file 2 "ok") = .ok r ∧ r.promptTokens = none := by
  refine ⟨?_, padded_reports _, ?_⟩
  · have husage : streamUsage 1000 (sampleOutcome (nested 1000)) = .error .recursion := by
      rw [streamUsage_sampleOutcome]
      exact nested_usage 1000 (by decide) (by decide)
    unfold executeCodexCommand
    dsimp only
    rw [husage]
    rfl
  · have husage : streamUsage 1000 (sampleOutcome (padded (1024 * 1024))) = .ok none := by
      rw [streamUsage_sampleOutcome]
      exact padded_usage le_rfl
    obtain ⟨r, hr, _, hprompt, _⟩ := executeCodexCommand_of "codex" "" (.file 2 "ok") husage
    exact ⟨r, hr, hprompt⟩

theorem call_yields_result_turn : ∃ r,
    executeCodexCommand 1000 "codex" "" (sampleOutcome sampleEvent) (.file 2 "ok") = .ok r ∧
      r.status = "completed" := by
  have hdecodes : Decodes 1000 (sampleOutcome sampleEvent).stdout := by
    intro line hline e he
    obtain ⟨event, hevent, _⟩ := sampleEvent_completed
    rw [sampleOutcome_stdout, splitLines_plain sampleEvent_plain.1 sampleEvent_plain.2, List.mem_singleton] at hline
    rw [hline, hevent] at he
    cases he
  obtain ⟨r, hr, _, _, hstatus⟩ := call_yields_result 1000 "codex" "" (sampleOutcome sampleEvent)
    (.file 2 "ok") hdecodes
  exact ⟨r, hr, hstatus.mpr ⟨by decide, by decide, by decide⟩⟩

end LocalMoe.Bridge
