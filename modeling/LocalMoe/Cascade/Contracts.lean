/-
  The values of a local cascade: tasks, tiers, verifiers and what the attempt port answers.

  These values have passed their constructors, so a check of `__post_init__` that the run relies
  on is a field.
-/
import LocalMoe.Canary.Contracts

namespace LocalMoe.Cascade

open Foundation Contracts Canary

/-! ## Texts -/

abbrev CodePoint := Fin 0x110000

/-- A Python string. -/
abbrev Text := List CodePoint

/-- `value.encode("utf-8")` succeeds: no code point is a surrogate. -/
def encodable (text : Text) : Bool :=
  text.all fun c => !(0xD800 ≤ c.val && c.val ≤ 0xDFFF)

/-- What `json.loads` returns. -/
inductive PyJson where
  | null
  | bool (value : Bool)
  | int (value : Int)
  /-- A float; `finite_float` refuses the others. -/
  | float (value : ℚ)
  | str (value : Text)
  | arr (items : List PyJson)
  | obj (fields : List (Text × PyJson))

/-! ## Tasks, tiers and verifiers -/

inductive OutputFormat where
  | jsonObject | text
  deriving DecidableEq, Repr

inductive TaskKind where
  | classification | extraction | summarization
  deriving DecidableEq, Repr

def maxTaskCharacters : Nat := 65536

def maxResultCharacters : Nat := 262144

def maxTiers : Nat := 16

def maxReasonCodes : Nat := 32

def maxJsonFields : Nat := 128

def maxTokenCount : Nat := 1000000000

structure LocalCascadeTask where
  taskId : SafeId
  kind : TaskKind
  instruction : Text
  outputFormat : OutputFormat
  instruction_le : instruction.length ≤ maxTaskCharacters

structure LocalCascadeTier where
  tierId : SafeId
  costRank : Nat
  modelRef : SafeId
  maxInputTokens : Nat
  maxOutputTokens : Nat
  rank_le : costRank ≤ 1000000
  input_range : 1 ≤ maxInputTokens ∧ maxInputTokens ≤ 10000000
  output_range : 1 ≤ maxOutputTokens ∧ maxOutputTokens ≤ 1000000

inductive JsonKind where
  | array | boolean | integer | null | number | object | string
  deriving DecidableEq, Repr

structure LocalCascadeJsonField where
  name : Text
  valueKind : JsonKind
  required : Bool
  allowedStringValues : List Text
  allowed_kind : allowedStringValues ≠ [] → valueKind = .string

structure LocalCascadeVerifier where
  outputFormat : OutputFormat
  minCharacters : Nat
  maxCharacters : Nat
  requiredTerms : List Text
  forbiddenTerms : List Text
  caseSensitiveTerms : Bool
  jsonFields : List LocalCascadeJsonField
  allowExtraJsonFields : Bool
  length_range : minCharacters ≤ maxCharacters ∧ 1 ≤ maxCharacters ∧
    maxCharacters ≤ maxResultCharacters
  names_nodup : (jsonFields.map LocalCascadeJsonField.name).Nodup
  fields_le : jsonFields.length ≤ maxJsonFields
  fields_iff : outputFormat = .jsonObject ↔ jsonFields ≠ []
  extra_format : allowExtraJsonFields = true → outputFormat = .jsonObject

/-- `LocalCascadeConfigV1`.  Network, tools, writes and parallel attempts are refused, so
those fields have one value each. -/
structure LocalCascadeConfig where
  cascadeId : SafeId
  tiers : List LocalCascadeTier
  verifier : LocalCascadeVerifier
  maxAttempts : Nat
  tiers_le : tiers.length ≤ maxTiers
  ids_nodup : (tiers.map LocalCascadeTier.tierId).Nodup
  ranks_nodup : (tiers.map LocalCascadeTier.costRank).Nodup
  attempts_range : 1 ≤ maxAttempts ∧ maxAttempts ≤ tiers.length

def LocalCascadeConfig.orderedTiers (config : LocalCascadeConfig) : List LocalCascadeTier :=
  (config.tiers.insertionSort fun a b => a.costRank ≤ b.costRank).take config.maxAttempts

/-! ## Attempts -/

inductive TokenSource where
  | actual | estimated | unknown
  deriving DecidableEq, Repr

def TokenSource.name : TokenSource → String
  | .actual => "actual"
  | .estimated => "estimated"
  | .unknown => "unknown"

structure TokenCount where
  source : TokenSource
  count : Option Nat
  unknown_iff : source = .unknown ↔ count = none
  count_le : ∀ n ∈ count, n ≤ maxTokenCount
  deriving DecidableEq

def TokenCount.unknown : TokenCount := ⟨.unknown, none, by simp, by simp⟩

structure LocalCascadeAttemptRequest where
  task : LocalCascadeTask
  tier : LocalCascadeTier
  attemptNumber : Nat
  verifierReasonCodes : List String

/-- `LocalCascadeAttemptResultV1`: abstained, or completed with a text.  It reports no
network call, no tool call and no write. -/
structure LocalCascadeAttemptResult where
  /-- The content of a completed attempt; none when the tier abstained. -/
  content : Option Text
  inputTokens : TokenCount
  outputTokens : TokenCount
  content_le : ∀ text ∈ content, text.length ≤ maxResultCharacters

/-- What a call of `attempt_port.attempt` does. -/
inductive Reply where
  /-- It raises an `Exception`. -/
  | raised
  /-- It returns something that is no `LocalCascadeAttemptResultV1`. -/
  | notResult
  | result (candidate : LocalCascadeAttemptResult)

/-! ## What the run takes from outside -/

/-- A float: a rational, or none when it is infinite or no number. -/
abbrev PyFloat := Option ℚ

inductive Value where
  | none
  | bool (value : Bool)
  | int (value : Int)
  | float (value : PyFloat)
  | str (value : String)
  | list (items : List Value)
  | dict (fields : List (String × Value))
  deriving Inhabited

/-- The library functions of a run. -/
structure Runtime where
  /-- A finite reading of the clock. -/
  Reading : Type
  /-- `round(max(0.0, (later - earlier) * 1_000.0), 3)`. -/
  elapsedMs : Reading → Reading → PyFloat
  elapsed_nonneg : ∀ earlier later, ∀ x ∈ elapsedMs earlier later, 0 ≤ x
  /-- `float` of an integer. -/
  floatOfInt : Int → PyFloat
  /-- `str.isspace` on one character. -/
  isSpace : CodePoint → Bool
  /-- `str.casefold`. -/
  casefold : Text → Text
  /-- `json.loads` with the three hooks; none for an exception that the caller catches. -/
  loads : Text → Option PyJson
  /-- `hashlib.sha256(text.encode("utf-8")).hexdigest()` of an encodable text. -/
  sha256 : Text → Digest
  /-- `sha256_json`. -/
  sha256Json : Value → Digest
  /-- `sha256_json(request.payload())`. -/
  requestSha256 : LocalCascadeAttemptRequest → Digest
  /-- `sha256_json(task.payload())`. -/
  taskSha256 : LocalCascadeTask → Digest
  /-- `sha256_json(config.payload())`. -/
  configSha256 : LocalCascadeConfig → Digest

/-- How a run fails. -/
inductive CascadeError where
  /-- `LocalCascadeContractError`. -/
  | contract (message : String)
  /-- `UnicodeEncodeError`. -/
  | unicode
  deriving DecidableEq, Repr

variable (R : Runtime)

def sha256Text (text : Text) : Except CascadeError Digest :=
  if encodable text then .ok (R.sha256 text) else .error .unicode

/-! ## Checks on values -/

def string (value : Value) (label : String) (maximum : Nat) : Except CascadeError String :=
  match value with
  | .str text => do
    let rendered := strip text
    check (rendered ≠ "") (.contract s!"{label} must not be empty.")
    check (rendered.length ≤ maximum)
      (.contract s!"{label} must contain at most {maximum} characters.")
    return rendered
  | _ => .error (.contract s!"{label} must be a string.")

def safeId (value : Value) (label : String) : Except CascadeError String := do
  let rendered ← string value label 256
  check (isSafeId rendered = true) (.contract s!"{label} must be a safe identifier.")
  return rendered

def integer (value : Value) (label : String) (minimum maximum : Nat) :
    Except CascadeError Nat :=
  match value with
  | .int n => do
    check ((minimum : Int) ≤ n) (.contract s!"{label} must be >= {minimum}.")
    check (n ≤ maximum) (.contract s!"{label} must be <= {maximum}.")
    return n.toNat
  | _ => .error (.contract s!"{label} must be an integer.")

/-- The tail of `_finite_float`, on a float. -/
def nonnegative (rendered : PyFloat) (label : String) : Except CascadeError ℚ :=
  match rendered with
  | some x => do
    check (0 ≤ x) (.contract s!"{label} must be finite and >= 0.0.")
    return x
  | none => .error (.contract s!"{label} must be finite and >= 0.0.")

def finiteFloat (value : Value) (label : String) : Except CascadeError ℚ :=
  match value with
  | .int n => nonnegative (R.floatOfInt n) label
  | .float x => nonnegative x label
  | _ => .error (.contract s!"{label} must be numeric.")

/-- A digest that a constructor requires. -/
def digest (value : Value) (message : String) : Except CascadeError String :=
  match value with
  | .str text => do
    check (isSha256 text = true) (.contract message)
    return text
  | _ => .error (.contract message)

def optionalSha256 (value : Value) (label : String) : Except CascadeError (Option String) :=
  match value with
  | .none => .ok none
  | value => do
    let text ← digest value s!"{label} must be null or a lowercase SHA-256 digest."
    return some text

/-- `_string_tuple` with identifiers. -/
def identifiers (value : Value) (label : String) (maximumItems : Nat) :
    Except CascadeError (List String) :=
  match value with
  | .list items => do
    check (items.length ≤ maximumItems)
      (.contract s!"{label} must contain at most {maximumItems} items.")
    let codes ← items.mapM fun item => safeId item label
    check codes.Nodup (.contract s!"{label} must not contain duplicates.")
    return codes
  | _ => .error (.contract s!"{label} must be a list.")

/-- A member of an enumeration, known by its text. -/
def member {α : Type} (all : List α) (name : α → String) (value : Value) (message : String) :
    Except CascadeError α :=
  match value with
  | .str text =>
    match all.find? fun a => name a = text with
    | some a => .ok a
    | none => .error (.contract message)
  | _ => .error (.contract message)

def Value.isText (value : Value) (text : String) : Bool :=
  match value with
  | .str other => decide (other = text)
  | _ => false

def schemaVersion : String := "1.1"

def schemaContract (version contract : Value) (expected : String) : Except CascadeError Unit := do
  check (version.isText schemaVersion = true)
    (.contract s!"Unsupported {expected} schema_version.")
  check (contract.isText expected = true)
    (.contract s!"Unsupported contract; expected {expected}.")

/-- `_mapping` and `_exact_fields`. -/
def exactFields (value : Value) (expected : List String) (label : String) :
    Except CascadeError (String → Value) :=
  match value with
  | .dict fields => do
    let missing := expected.filter fun name => name ∉ fields.map Prod.fst
    let absent := ", ".intercalate (missing.insertionSort (· ≤ ·))
    check (missing = []) (.contract s!"Missing {label} fields: {absent}.")
    let unknown := (fields.map Prod.fst).filter fun name => name ∉ expected
    let extra := ", ".intercalate (unknown.insertionSort (· ≤ ·))
    check (unknown = []) (.contract s!"Unknown {label} fields: {extra}.")
    return fun name => ((fields.find? fun f => f.1 = name).map Prod.snd).getD .none
  | _ => .error (.contract s!"{label} must be an object.")

end LocalMoe.Cascade
