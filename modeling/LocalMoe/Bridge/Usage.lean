/-
  The result of a provider call that has run.
-/
import LocalMoe.Contracts.VerifiedRouting
import LocalMoe.Foundation.Checked
import LocalMoe.Foundation.JsonText

namespace LocalMoe.Bridge

open Foundation Foundation.JsonText Contracts

/-! ## Bounds -/

def maxStreamBytes : Nat := 2 * 1024 * 1024

def maxFinalBytes : Nat := 1024 * 1024

def maxCodexJsonEvents : Nat := 16384

def maxCodexJsonEventBytes : Nat := 1024 * 1024

def maxCodexUsageTokens : Nat := 10 ^ 12

/-! ## The event stream -/

def usageFields : List (List Nat) :=
  [text "input_tokens", text "cached_input_tokens", text "cache_write_input_tokens",
    text "output_tokens", text "reasoning_output_tokens"]

/-- The counters of a completed turn that pricing reads. -/
structure Completed where
  inputTokens : Nat
  outputTokens : Nat
  cachedInputTokens : Nat
  cacheWriteInputTokens : Nat
  deriving DecidableEq, Repr

/-- `set(pairs) == set(names)`. -/
def hasKeys (pairs : List (List Nat × JsonText.Value)) (names : List (List Nat)) : Bool :=
  pairs.all (fun pair => decide (pair.1 ∈ names)) &&
    names.all fun name => decide (name ∈ pairs.map Prod.fst)

/-- A counter: an integer, and no `bool`, within its range. -/
def readCounter (usage : List (List Nat × JsonText.Value)) (name : List Nat) : Option Nat :=
  match get usage name with
  | some (.int value) =>
    if 0 ≤ value ∧ value ≤ maxCodexUsageTokens then some value.toNat else none
  | _ => none

def readUsage (usage : List (List Nat × JsonText.Value)) : Option Completed := do
  if !hasKeys usage usageFields then none
  let inputTokens ← readCounter usage (text "input_tokens")
  let cachedInputTokens ← readCounter usage (text "cached_input_tokens")
  let cacheWriteInputTokens ← readCounter usage (text "cache_write_input_tokens")
  let outputTokens ← readCounter usage (text "output_tokens")
  let _ ← readCounter usage (text "reasoning_output_tokens")
  return ⟨inputTokens, outputTokens, cachedInputTokens, cacheWriteInputTokens⟩

/-- An event: nothing when it is malformed, no counters when it completes no turn. -/
def readEvent (event : JsonText.Value) : Option (Option Completed) :=
  match event with
  | .obj pairs =>
    match get pairs (text "type") with
    | some (.str kind) =>
      if kind ≠ text "turn.completed" then some none
      else if !hasKeys pairs [text "type", text "usage"] then none
      else
        match get pairs (text "usage") with
        | some (.obj usage) => some <$> readUsage usage
        | _ => none
    | _ => none
  | _ => none

variable (limit : Nat)

/-- The loop over the lines.  `limit` is what is left of the recursion limit. -/
def readEvents : List (List UInt8) → List Completed → Except Failure (Option (List Completed))
  | [], completed => .ok (some completed)
  | line :: rest, completed =>
    if line = [] ∨ maxCodexJsonEventBytes < line.length then .ok none
    else
      match loadsBytes limit line with
      | .error .malformed => .ok none
      | .error raised => .error raised
      | .ok event =>
        match readEvent event with
        | none => .ok none
        | some none => readEvents rest completed
        | some (some counters) => readEvents rest (completed ++ [counters])

def parseCodexJsonUsage (stdout : List UInt8) : Except Failure (Option (Nat × Nat)) :=
  if stdout = [] ∨ maxStreamBytes < stdout.length then .ok none
  else
    let lines := splitLines stdout
    if lines = [] ∨ maxCodexJsonEvents < lines.length then .ok none
    else
      match readEvents limit lines [] with
      | .error raised => .error raised
      | .ok (some [counters]) =>
        if counters.cachedInputTokens ≠ 0 ∨ counters.cacheWriteInputTokens ≠ 0 then .ok none
        else .ok (some (counters.inputTokens, counters.outputTokens))
      | .ok _ => .ok none

/-! ## The result -/

/-- What `execute_process` returned. -/
structure ProcessOutcome where
  code : String
  returncode : Option Int
  durationMs : Nat
  stdout : List UInt8
  stdoutTruncated : Bool
  stdoutSha256 : String
  stdoutBytes : Nat
  stderrSha256 : String
  stderrBytes : Nat

def ProcessOutcome.ok (outcome : ProcessOutcome) : Bool := outcome.code = "completed"

/-- What is found at the output path. -/
inductive FinalOutput where
  /-- No regular file, or a link. -/
  | missing
  /-- `OSError`. -/
  | unreadable
  /-- The size of the file, and the text that is read from it. -/
  | file (size : Nat) (text : String)

/-- `CommandResult`, with the fields that the plan sets. -/
structure CommandResult where
  providerId : String
  status : String
  code : String
  returncode : Option Int
  durationMs : Nat
  output : String
  stdoutSha256 : String
  stdoutBytes : Nat
  stderrSha256 : String
  stderrBytes : Nat
  commandSha256 : String
  promptTokens : Option Nat
  completionTokens : Option Nat

/-- `[A-Za-z0-9._-]`. -/
def isCodeChar (c : Char) : Bool := isAlnum c || ['.', '_', '-'].contains c

/-- `re.sub(r"[^A-Za-z0-9._-]+", "_", ...)`, after a character that was replaced or not. -/
def replaceRuns : Bool → List Char → List Char
  | _, [] => []
  | replaced, c :: rest =>
    if isCodeChar c then c :: replaceRuns false rest
    else if replaced then replaceRuns true rest
    else '_' :: replaceRuns true rest

def safeCode (value : String) : String :=
  let normalized := (replaceRuns false (strip value).toList).take 96
  if normalized = [] then "unspecified_failure" else String.ofList normalized

/-- The status of a call, its code and its output. -/
def readFinalOutput (outcome : ProcessOutcome) (final : FinalOutput) : String × String × String :=
  if outcome.ok then
    match final with
    | .missing => ("failed", "missing_final_output", "")
    | .unreadable => ("failed", "final_output_unreadable", "")
    | .file size text =>
      if maxFinalBytes < size then ("failed", "final_output_limit_exceeded", "")
      else if maxFinalBytes < text.utf8ByteSize then ("failed", "final_output_limit_exceeded", "")
      else ("completed", "launcher_completed", text)
  else if outcome.code ∈ ["stdout_limit_exceeded", "stderr_limit_exceeded"] then
    ("failed", "launcher_output_limit_exceeded", "")
  else ("failed", "launcher_" ++ safeCode outcome.code, "")

/-- The usage of a call: a stream that was truncated reports none. -/
def streamUsage (outcome : ProcessOutcome) : Except Failure (Option (Nat × Nat)) :=
  if outcome.stdoutTruncated then .ok none else parseCodexJsonUsage limit outcome.stdout

/-- `execute_codex_command`, from the return of `execute_process` on. -/
def executeCodexCommand (providerId commandSha256 : String) (outcome : ProcessOutcome)
    (final : FinalOutput) : Except Failure CommandResult := do
  let (status, code, output) := readFinalOutput outcome final
  let usage ← streamUsage limit outcome
  return {
    providerId, status, code, output, commandSha256
    returncode := outcome.returncode
    durationMs := outcome.durationMs
    stdoutSha256 := outcome.stdoutSha256
    stdoutBytes := outcome.stdoutBytes
    stderrSha256 := outcome.stderrSha256
    stderrBytes := outcome.stderrBytes
    promptTokens := usage.map Prod.fst
    completionTokens := usage.map Prod.snd }

/-! ## What a stream reports -/

/-- The counter under a name is an integer in range. -/
def Counts (usage : List (List Nat × JsonText.Value)) (name : List Nat) (n : Nat) : Prop :=
  get usage name = some (.int n) ∧ n ≤ maxCodexUsageTokens

/-- An event that completes no turn. -/
def OtherEvent (event : JsonText.Value) : Prop :=
  ∃ pairs kind, event = .obj pairs ∧ get pairs (text "type") = some (.str kind) ∧
    kind ≠ text "turn.completed"

/-- A completed turn with exactly its five counters. -/
def CompletedEvent (event : JsonText.Value) (counters : Completed) : Prop :=
  ∃ pairs usage reasoning, event = .obj pairs ∧
    get pairs (text "type") = some (.str (text "turn.completed")) ∧
    hasKeys pairs [text "type", text "usage"] = true ∧
    get pairs (text "usage") = some (.obj usage) ∧ hasKeys usage usageFields = true ∧
    Counts usage (text "input_tokens") counters.inputTokens ∧
    Counts usage (text "cached_input_tokens") counters.cachedInputTokens ∧
    Counts usage (text "cache_write_input_tokens") counters.cacheWriteInputTokens ∧
    Counts usage (text "output_tokens") counters.outputTokens ∧
    Counts usage (text "reasoning_output_tokens") reasoning

/-- Every line is an event, exactly one of them completes a turn, and it used no cache. -/
def Reports (stdout : List UInt8) (tokens : Nat × Nat) : Prop :=
  ∃ before line after event, splitLines stdout = before ++ line :: after ∧
    (∀ l ∈ before ++ after, ∃ e, loadsBytes limit l = .ok e ∧ OtherEvent e) ∧
    loadsBytes limit line = .ok event ∧ CompletedEvent event ⟨tokens.1, tokens.2, 0, 0⟩

/-- A stream within the bounds of the reader. -/
def Bounded (stdout : List UInt8) : Prop :=
  stdout.length ≤ maxStreamBytes ∧ (splitLines stdout).length ≤ maxCodexJsonEvents ∧
    ∀ line ∈ splitLines stdout, line ≠ [] ∧ line.length ≤ maxCodexJsonEventBytes

/-- No line makes the decoder raise anything but its decode errors. -/
def Decodes (stdout : List UInt8) : Prop :=
  ∀ line ∈ splitLines stdout, ∀ e, loadsBytes limit line = .error e → e = .malformed

/-! ## Events -/

variable {usage : List (List Nat × JsonText.Value)}

theorem readCounter_eq_some {name : List Nat} {n : Nat} :
    readCounter usage name = some n ↔ Counts usage name n := by
  unfold readCounter Counts
  split
  · rename_i value hget
    rw [hget, Option.some.injEq, JsonText.Value.int.injEq]
    split
    · rename_i hrange
      rw [Option.some.injEq]
      constructor
      · rintro rfl
        omega
      · rintro ⟨rfl, _⟩
        rfl
    · rename_i hrange
      refine ⟨fun h => (by cases h), fun ⟨heq, hle⟩ => absurd ?_ hrange⟩
      omega
  · rename_i hother
    exact ⟨fun h => (by cases h), fun ⟨hget, _⟩ => absurd hget (hother n)⟩

theorem readUsage_eq_some {counters : Completed} :
    readUsage usage = some counters ↔ hasKeys usage usageFields = true ∧
      Counts usage (text "input_tokens") counters.inputTokens ∧
      Counts usage (text "cached_input_tokens") counters.cachedInputTokens ∧
      Counts usage (text "cache_write_input_tokens") counters.cacheWriteInputTokens ∧
      Counts usage (text "output_tokens") counters.outputTokens ∧
      ∃ reasoning, Counts usage (text "reasoning_output_tokens") reasoning := by
  unfold readUsage
  cases hkeys : hasKeys usage usageFields with
  | false => simp
  | true =>
    simp only [Bool.not_true, Bool.false_eq_true, if_false, Option.bind_eq_bind,
      Option.bind_eq_some_iff, readCounter_eq_some, true_and]
    constructor
    · rintro ⟨i, hi, c, hc, w, hw, o, ho, r, hr, heq⟩
      cases heq
      exact ⟨hi, hc, hw, ho, r, hr⟩
    · rintro ⟨hi, hc, hw, ho, r, hr⟩
      exact ⟨_, hi, _, hc, _, hw, _, ho, r, hr, rfl⟩

theorem readEvent_other {event : JsonText.Value} :
    readEvent event = some none ↔ OtherEvent event := by
  unfold readEvent OtherEvent
  split
  · rename_i pairs
    split
    · rename_i kind hkind
      split
      · rename_i hother
        exact iff_of_true rfl ⟨pairs, kind, rfl, hkind, hother⟩
      · rename_i hcompleted
        refine iff_of_false (fun h => ?_) ?_
        · split at h
          · cases h
          · split at h
            · cases hread : readUsage _ <;> rw [hread] at h <;> cases h
            · cases h
        · rintro ⟨_, kind', heq, hkind', hne⟩
          cases heq
          rw [hkind] at hkind'
          cases hkind'
          exact hcompleted hne
    · rename_i hnone
      refine iff_of_false (fun h => (by cases h)) ?_
      rintro ⟨_, kind, heq, hkind, _⟩
      cases heq
      exact hnone kind hkind
  · rename_i hnone
    refine iff_of_false (fun h => (by cases h)) ?_
    rintro ⟨pairs, _, rfl, _⟩
    exact hnone pairs rfl

theorem readEvent_completed {event : JsonText.Value} {counters : Completed} :
    readEvent event = some (some counters) ↔ CompletedEvent event counters := by
  unfold CompletedEvent
  constructor
  · intro h
    unfold readEvent at h
    split at h
    · rename_i pairs
      split at h
      · rename_i kind hkind
        split at h
        · cases h
        · rename_i hcompleted
          split at h
          · cases h
          · rename_i hkeys
            split at h
            · rename_i usage husage
              obtain ⟨counters', hread, heq⟩ := Option.map_eq_some_iff.mp h
              cases heq
              obtain ⟨hfields, hi, hc, hw, ho, r, hr⟩ := readUsage_eq_some.mp hread
              rw [not_not] at hcompleted
              rw [hcompleted] at hkind
              exact ⟨pairs, usage, r, rfl, hkind, by simpa using hkeys, husage, hfields, hi, hc,
                hw, ho, hr⟩
            · cases h
      · cases h
    · cases h
  · rintro ⟨pairs, usage, r, rfl, hkind, hkeys, husage, hfields, hi, hc, hw, ho, hr⟩
    have hread : readUsage usage = some counters :=
      readUsage_eq_some.mpr ⟨hfields, hi, hc, hw, ho, r, hr⟩
    unfold readEvent
    simp only [hkind, hkeys, husage, hread, ne_eq, not_true_eq_false, if_false, Bool.not_true,
      Bool.false_eq_true]
    rfl

end LocalMoe.Bridge
