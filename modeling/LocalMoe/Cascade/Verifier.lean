/-
  The deterministic checks on what a tier returned.
-/
import LocalMoe.Cascade.Contracts

namespace LocalMoe.Cascade

open Foundation Contracts

variable (R : Runtime)

/-! ## Structure of a parsed text -/

def maxJsonNestingDepth : Nat := 64

def maxJsonNodes : Nat := 16384

def PyJson.children : PyJson → Option (List PyJson)
  | .obj fields => some (fields.map Prod.snd)
  | .arr items => some items
  | _ => none

/-- The loop of `_json_within_structural_limits`, with the nodes it may still observe.  The
head of the list is the end of the stack. -/
def scan : Nat → List (PyJson × Nat) → Bool
  | _, [] => true
  | 0, _ :: _ => false
  | budget + 1, (node, parentContainerDepth) :: stack =>
    match node.children with
    | none => scan budget stack
    | some children =>
      if parentContainerDepth + 1 > maxJsonNestingDepth then false
      else scan budget
        ((children.map fun child => (child, parentContainerDepth + 1)).reverse ++ stack)

def jsonWithinStructuralLimits (value : PyJson) : Bool := scan maxJsonNodes [(value, 0)]

/-- `_strict_json_object`: the fields, or the reason to refuse the text. -/
def strictJsonObject (content : Text) : Except String (List (Text × PyJson)) :=
  match R.loads content with
  | none => .error "invalid_json"
  | some (.obj fields) =>
    if jsonWithinStructuralLimits (.obj fields) then .ok fields else .error "invalid_json"
  | some _ => .error "json_not_object"

def matchesJsonKind : PyJson → JsonKind → Bool
  | .null, .null => true
  | .bool _, .boolean => true
  | .int _, .integer => true
  | .int _, .number => true
  | .float _, .number => true
  | .str _, .string => true
  | .arr _, .array => true
  | .obj _, .object => true
  | _, _ => false

/-- `value not in field.allowed_string_values`. -/
def disallowed (field : LocalCascadeJsonField) (value : PyJson) : Bool :=
  match value with
  | .str text => decide (text ∉ field.allowedStringValues)
  | _ => true

/-! ## The verdict -/

/-- The texts whose conditions hold. -/
def reasonsOf (conditions : List (Bool × String)) : List String :=
  (conditions.filter Prod.fst).map Prod.snd

/-- The field a verifier declares under a name. -/
def LocalCascadeVerifier.expected (verifier : LocalCascadeVerifier) (name : Text) :
    Option LocalCascadeJsonField :=
  verifier.jsonFields.find? fun field => field.name = name

/-- A value of the wrong kind. -/
def typeMismatch (verifier : LocalCascadeVerifier) (entry : Text × PyJson) : Bool :=
  (verifier.expected entry.1).elim false fun field => !matchesJsonKind entry.2 field.valueKind

/-- A value of the right kind that is not among the allowed ones. -/
def disallowedValue (verifier : LocalCascadeVerifier) (entry : Text × PyJson) : Bool :=
  (verifier.expected entry.1).elim false fun field =>
    matchesJsonKind entry.2 field.valueKind && !field.allowedStringValues.isEmpty &&
      disallowed field entry.2

def jsonReasons (verifier : LocalCascadeVerifier) (content : Text) : List String :=
  match strictJsonObject R content with
  | .error reason => [reason]
  | .ok parsed => reasonsOf [
      (verifier.jsonFields.any fun field =>
        field.required && decide (field.name ∉ parsed.map Prod.fst), "missing_json_field"),
      (!verifier.allowExtraJsonFields && parsed.any fun entry =>
        (verifier.expected entry.1).isNone, "unexpected_json_field"),
      (parsed.any (typeMismatch verifier), "json_field_type_mismatch"),
      (parsed.any (disallowedValue verifier), "json_string_value_not_allowed")]

/-- The reasons about the length and the terms. -/
def textReasons (verifier : LocalCascadeVerifier) (content : Text) : List String :=
  let fold := if verifier.caseSensitiveTerms then id else R.casefold
  let searchable := fold content
  reasonsOf [
    (content.all R.isSpace, "empty_content"),
    (decide (content.length < verifier.minCharacters), "content_too_short"),
    (decide (verifier.maxCharacters < content.length), "content_too_long"),
    ((verifier.requiredTerms.map fold).any fun term => !decide (term <:+: searchable),
      "missing_required_term"),
    ((verifier.forbiddenTerms.map fold).any fun term => decide (term <:+: searchable),
      "forbidden_term_present")]

/-- `verify_local_cascade_content`: the reasons against the content, each at most once. -/
def verifyLocalCascadeContent (content : Text) (verifier : LocalCascadeVerifier) :
    List String :=
  textReasons R verifier content ++
    match verifier.outputFormat with
    | .text => []
    | .jsonObject => jsonReasons R verifier content

def tokenLimitReasonCodes (candidate : LocalCascadeAttemptResult) (tier : LocalCascadeTier) :
    List String :=
  let above (usage : TokenCount) (limit : Nat) : Bool :=
    decide (usage.source ≠ .unknown) && usage.count.any fun n => decide (limit < n)
  reasonsOf [
    (above candidate.inputTokens tier.maxInputTokens, "input_token_limit_exceeded"),
    (above candidate.outputTokens tier.maxOutputTokens, "output_token_limit_exceeded")]

/-! ## The codes of a verdict -/

def contentVerifierReasonCodes : List String :=
  ["content_too_long", "content_too_short", "empty_content", "forbidden_term_present",
    "invalid_json", "json_field_type_mismatch", "json_not_object",
    "json_string_value_not_allowed", "missing_json_field", "missing_required_term",
    "unexpected_json_field"]

def tokenLimitCodes : List String :=
  ["input_token_limit_exceeded", "output_token_limit_exceeded"]

def attemptErrorReasonCodes : List String :=
  ["attempt_port_error", "attempt_result_contract_error"]

variable {R}

variable {conditions : List (Bool × String)}

theorem mem_reasonsOf {code : String} (h : code ∈ reasonsOf conditions) :
    code ∈ conditions.map Prod.snd := by
  obtain ⟨c, hc, rfl⟩ := List.mem_map.mp h
  exact List.mem_map_of_mem (List.mem_filter.mp hc).1

theorem nodup_reasonsOf (h : (conditions.map Prod.snd).Nodup) : (reasonsOf conditions).Nodup :=
  h.sublist (List.filter_sublist.map _)

def textCodes : List String :=
  ["empty_content", "content_too_short", "content_too_long", "missing_required_term",
    "forbidden_term_present"]

/-- The codes about the parsed text. -/
def jsonCodes : List String :=
  ["invalid_json", "json_not_object", "missing_json_field", "unexpected_json_field",
    "json_field_type_mismatch", "json_string_value_not_allowed"]

variable (verifier : LocalCascadeVerifier)

theorem jsonReasons_codes (content : Text) : (jsonReasons R verifier content).Nodup ∧
      ∀ code ∈ jsonReasons R verifier content, code ∈ jsonCodes := by
  unfold jsonReasons
  cases hparsed : strictJsonObject R content with
  | error reason =>
    refine ⟨List.nodup_singleton _, fun code hcode => ?_⟩
    rw [List.mem_singleton.mp hcode]
    unfold strictJsonObject at hparsed
    split at hparsed
    · cases hparsed
      decide
    · split at hparsed <;> cases hparsed
      decide
    · cases hparsed
      decide
  | ok parsed =>
    refine ⟨nodup_reasonsOf (show (jsonCodes.drop 2).Nodup by decide), fun code hcode => ?_⟩
    have hmem := mem_reasonsOf hcode
    revert hmem
    simp only [List.map_cons, List.map_nil, jsonCodes, List.mem_cons, List.not_mem_nil, or_false]
    rintro (rfl | rfl | rfl | rfl) <;> decide

theorem textReasons_codes (content : Text) : (textReasons R verifier content).Nodup ∧
      ∀ code ∈ textReasons R verifier content, code ∈ textCodes :=
  ⟨nodup_reasonsOf (show textCodes.Nodup by decide), fun _ hcode => mem_reasonsOf hcode⟩

theorem verify_codes (content : Text) (verifier : LocalCascadeVerifier) :
    (verifyLocalCascadeContent R content verifier).Nodup ∧
      ∀ code ∈ verifyLocalCascadeContent R content verifier, code ∈ contentVerifierReasonCodes := by
  have hknown : ∀ code ∈ textCodes ++ jsonCodes, code ∈ contentVerifierReasonCodes := by decide
  have happart : ∀ a ∈ textCodes, ∀ b ∈ jsonCodes, a ≠ b := by decide
  obtain ⟨htext, htextMem⟩ := textReasons_codes (R := R) verifier content
  obtain ⟨hjson, hjsonMem⟩ := jsonReasons_codes (R := R) verifier content
  unfold verifyLocalCascadeContent
  split
  · rw [List.append_nil]
    exact ⟨htext, fun code hcode => hknown code (List.mem_append_left _ (htextMem code hcode))⟩
  · refine ⟨List.nodup_append.mpr ⟨htext, hjson, fun a ha b hb =>
      happart a (htextMem a ha) b (hjsonMem b hb)⟩, fun code hcode => ?_⟩
    rcases List.mem_append.mp hcode with hin | hin
    · exact hknown code (List.mem_append_left _ (htextMem code hin))
    · exact hknown code (List.mem_append_right _ (hjsonMem code hin))

theorem tokenLimit_codes (candidate : LocalCascadeAttemptResult) (tier : LocalCascadeTier) :
    (tokenLimitReasonCodes candidate tier).Nodup ∧
      ∀ code ∈ tokenLimitReasonCodes candidate tier, code ∈ tokenLimitCodes :=
  ⟨nodup_reasonsOf (show tokenLimitCodes.Nodup by decide), fun _ hcode => mem_reasonsOf hcode⟩

end LocalMoe.Cascade
