/-
  What the model is told of a call: the result, as a bounded text.

  Of the data of a result only the text that `json.dumps` makes of it is kept.
-/
import LocalMoe.Agent.Loop

namespace LocalMoe.Agent

open Contracts

/-! ## Results -/

/-- `AgentToolResult`, with its data; there is no text of data that `json.dumps` refuses. -/
structure ToolResult extends AgentToolResult where
  data : Option (List Char)
  deriving DecidableEq

/-- `json.dumps({})`. -/
def noData : Option (List Char) := some "\x7b\x7d".toList

/-- `AgentToolResult(...)` without data. -/
def AgentToolResult.bare (result : AgentToolResult) : ToolResult := ⟨result, noData⟩

/-- `_serialize_result`: the keys are sorted. -/
def serializeResult (result : ToolResult) : Option (List Char) :=
  result.data.map fun data =>
    "\x7b\"call_id\":".toList ++ dumpString result.callId ++ ",\"code\":".toList ++
      dumpString result.code ++ ",\"data\":".toList ++ data ++ ",\"message\":".toList ++
      dumpString result.message ++ ",\"risk_class\":".toList ++ dumpString result.riskClass ++
      ",\"status\":".toList ++ dumpString result.status ++ ",\"tool_name\":".toList ++
      dumpString result.toolName ++ ['}']

/-- The result without its message and data, which was too long. -/
def shortened (result : ToolResult) (originalChars : Nat) : ToolResult :=
  { result with
    message := "Tool result was truncated by the harness result-size budget."
    data := some ("\x7b\"original_chars\":".toList ++ (toString originalChars).toList ++
      ",\"truncated\":true\x7d".toList) }

/-- `text[:count]`. -/
def firstChars (count : Nat) (text : String) : String := String.ofList (text.toList.take count)

theorem firstChars_of_le {count : Nat} {text : String} (h : text.length ≤ count) :
    firstChars count text = text := by
  rw [firstChars, List.take_of_length_le (by rwa [String.length_toList]), String.ofList_toList]

/-- The shortened result, with its names cut. -/
def cut (result : ToolResult) (originalChars : Nat) : ToolResult :=
  { shortened result originalChars with
    callId := firstChars 96 result.callId
    toolName := firstChars 96 result.toolName
    message := "Result truncated." }

/-- What remains where even that is too long. -/
def anonymous (result : ToolResult) : ToolResult :=
  { callId := "bounded", toolName := "bounded", status := result.status,
    code := "result_truncated", message := "Result truncated.", riskClass := result.riskClass,
    data := some "\x7b\"truncated\":true\x7d".toList }

/-- `bound_tool_result`: the result that the model sees, and its text. -/
def boundToolResult (maxChars : Nat) (result : ToolResult) : Option (ToolResult × List Char) := do
  let serialized ← serializeResult result
  if serialized.length ≤ maxChars then
    return (result, serialized)
  let bounded := shortened result serialized.length
  let compact ← serializeResult bounded
  if compact.length ≤ maxChars then
    return (bounded, compact)
  let bounded := cut result serialized.length
  let compact ← serializeResult bounded
  if compact.length ≤ maxChars then
    return (bounded, compact)
  let bounded := anonymous result
  let compact ← serializeResult bounded
  return (bounded, compact)

/-- A result fits, where it need not lose its name for it. -/
def fits (maxChars : Nat) (result : ToolResult) : Bool :=
  match serializeResult result with
  | none => false
  | some serialized =>
    decide (serialized.length ≤ maxChars) ||
      (serializeResult (shortened result serialized.length)).any (·.length ≤ maxChars) ||
      (decide (result.callId.length ≤ 96) &&
        (serializeResult (cut result serialized.length)).any (·.length ≤ maxChars))

/-- What the loop makes of a result whose data cannot be written. -/
def unwritten (result : ToolResult) (toolName : String) : ToolResult :=
  AgentToolResult.bare ⟨result.callId, toolName, "error", "result_serialization_error",
    "The harness replaced an unserializable tool result.", result.riskClass⟩

/-- The result as the loop observes it; writing the replacement may raise too. -/
def observe (maxChars : Nat) (result : ToolResult) (toolName : String) :
    Option (ToolResult × List Char) :=
  (boundToolResult maxChars result).or (boundToolResult maxChars (unwritten result toolName))

def observedFits (maxChars : Nat) (result : ToolResult) (toolName : String) : Bool :=
  match serializeResult result with
  | some _ => fits maxChars result
  | none => fits maxChars (unwritten result toolName)

section Bounds

variable {maxChars : Nat} {result : ToolResult} {toolName : String}

theorem boundToolResult_of_fits (h : fits maxChars result = true) :
    ∃ bounded content, boundToolResult maxChars result = some (bounded, content) ∧
      serializeResult bounded = some content ∧ bounded.callId = result.callId ∧
      bounded.status = result.status ∧ content.length ≤ maxChars := by
  unfold fits at h
  split at h
  · cases h
  · next serialized hserialized =>
    by_cases hfits : serialized.length ≤ maxChars
    · refine ⟨result, serialized, ?_, hserialized, rfl, rfl, hfits⟩
      simp [boundToolResult, hserialized, hfits]
    · obtain ⟨compact, hcompact⟩ : ∃ compact,
          serializeResult (shortened result serialized.length) = some compact := ⟨_, rfl⟩
      by_cases hshort : compact.length ≤ maxChars
      · refine ⟨shortened result serialized.length, compact, ?_, hcompact, rfl, rfl, hshort⟩
        simp [boundToolResult, hserialized, hfits, hcompact, hshort]
      · obtain ⟨tiny, htiny⟩ : ∃ tiny,
            serializeResult (cut result serialized.length) = some tiny := ⟨_, rfl⟩
        simp only [hcompact, htiny, hfits, hshort, Option.any_some, decide_false, Bool.false_or,
          Bool.and_eq_true, decide_eq_true_eq] at h
        refine ⟨cut result serialized.length, tiny, ?_, htiny, ?_, rfl, h.2⟩
        · simp [boundToolResult, hserialized, hfits, hcompact, hshort, htiny, h.2]
        · exact firstChars_of_le h.1

theorem observe_of_fits (h : observedFits maxChars result toolName = true) :
    ∃ bounded content, observe maxChars result toolName = some (bounded, content) ∧
      serializeResult bounded = some content ∧ bounded.callId = result.callId ∧
      content.length ≤ maxChars := by
  unfold observedFits at h
  split at h
  · obtain ⟨bounded, content, hbound, hcontent, hid, -, hlength⟩ := boundToolResult_of_fits h
    exact ⟨bounded, content, by rw [observe, hbound, Option.some_or], hcontent, hid, hlength⟩
  · next hnone =>
    obtain ⟨bounded, content, hbound, hcontent, hid, -, hlength⟩ := boundToolResult_of_fits h
    have hfirst : boundToolResult maxChars result = none := by
      simp [boundToolResult, hnone]
    exact ⟨bounded, content, by rw [observe, hfirst, Option.none_or, hbound], hcontent, hid,
      hlength⟩

theorem boundToolResult_isSome (h : (serializeResult result).isSome) :
    (boundToolResult maxChars result).isSome := by
  obtain ⟨serialized, hserialized⟩ := Option.isSome_iff_exists.mp h
  obtain ⟨compact, hcompact⟩ : ∃ compact,
      serializeResult (shortened result serialized.length) = some compact := ⟨_, rfl⟩
  obtain ⟨tiny, htiny⟩ : ∃ tiny,
      serializeResult (cut result serialized.length) = some tiny := ⟨_, rfl⟩
  obtain ⟨last, hlast⟩ : ∃ last, serializeResult (anonymous result) = some last := ⟨_, rfl⟩
  by_cases hfits : serialized.length ≤ maxChars
  · simp [boundToolResult, hserialized, hfits]
  · by_cases hshort : compact.length ≤ maxChars
    · simp [boundToolResult, hserialized, hfits, hcompact, hshort]
    · by_cases htinyFits : tiny.length ≤ maxChars
      · simp [boundToolResult, hserialized, hfits, hcompact, hshort, htiny, htinyFits]
      · simp [boundToolResult, hserialized, hfits, hcompact, hshort, htiny, htinyFits, hlast]

theorem observe_isSome : (observe maxChars result toolName).isSome := by
  have hother : (boundToolResult maxChars (unwritten result toolName)).isSome :=
    boundToolResult_isSome rfl
  rw [observe, Option.isSome_or, hother, Bool.or_true]

end Bounds

end LocalMoe.Agent
