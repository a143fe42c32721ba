/-
  The redaction of an outbound object: one pass that redacts the structure and one that scans
  the result again.

  The regular expressions, `str.lower` and the residual detector are taken from outside.
-/
import LocalMoe.Foundation.Checked
import Mathlib.Algebra.Order.Field.Rat

namespace LocalMoe.Secrets

open Foundation

/-! ## Values -/

inductive Key where
  | text (value : String)
  /-- A key that is no string. -/
  | other (id : Nat)
  deriving DecidableEq, Repr

/-- A Python value. -/
inductive Obj where
  | none
  | bool (value : Bool)
  | int (value : Int)
  | float (value : ℚ)
  /-- An infinite float, or no number. -/
  | nonFinite
  | str (value : String)
  | list (items : List Obj)
  | tuple (items : List Obj)
  | dict (entries : List (Key × Obj))
  /-- A value of another type. -/
  | other (id : Nat)

/-- How a redaction fails. -/
inductive RedactionError where
  /-- `SecretRedactionError`. -/
  | redaction (message : String)
  /-- `ResidualAssuranceUnavailableError`. -/
  | unavailable (message : String)
  /-- `TypeError`: a count that is no number is added to a counter. -/
  | type
  deriving DecidableEq, Repr

/-- A number of Python, as far as the counters need it. -/
inductive Number where
  | finite (value : ℚ)
  | nonFinite
  deriving DecidableEq

def Number.add : Number → Obj → Except RedactionError Number
  | .finite q, .int n => .ok (.finite (q + n))
  | .finite q, .bool b => .ok (.finite (q + if b then 1 else 0))
  | .finite q, .float x => .ok (.finite (q + x))
  | .finite _, .nonFinite => .ok .nonFinite
  | .nonFinite, .int _ => .ok .nonFinite
  | .nonFinite, .bool _ => .ok .nonFinite
  | .nonFinite, .float _ => .ok .nonFinite
  | .nonFinite, .nonFinite => .ok .nonFinite
  | _, _ => .error .type

/-! ## Policies and detectors -/

/-- `TextSecretPattern`: `regex.subn` with the replacement of its secret group. -/
structure TextSecretPattern where
  name : String
  subn : String → String → String × Nat
  /-- A text without a match is returned as it is. -/
  unchanged : ∀ replacement text, (subn replacement text).2 = 0 →
    (subn replacement text).1 = text

structure SecretRedactionPolicy where
  userControlledFields : List String
  sensitiveKeys : List String
  generatedMetadataFields : List String
  patterns : List TextSecretPattern
  replacement : String
  requireResidualAssurance : Bool
  replacement_nonempty : replacement ≠ ""

/-- The two passes over an object. -/
inductive Pass where
  | first | final
  deriving DecidableEq, Repr

/-- Where a value stands: the indices from the root on. -/
abbrev Position := List Nat

/-- What a call of the detector does. -/
inductive Reply where
  /-- It raises, or returns no pair. -/
  | raised
  | returned (value count : Obj)

/-- `ResidualSecretDetector.redact`, call by call. -/
abbrev Detector := Pass → Position → String → Reply

structure Counters where
  structured : Nat
  pattern : Nat
  residual : Number
  skippedGenerated : Nat

/-! ## Keys and patterns -/

variable (lower : String → String) (policy : SecretRedactionPolicy)

def applyTextPatterns (value : String) : String × Nat :=
  policy.patterns.foldl (fun state rule =>
    let result := rule.subn policy.replacement state.1
    (result.1, state.2 + result.2)) (value, 0)

/-- `[a-z0-9]`. -/
def isPlain (c : Char) : Bool := ('a' ≤ c && c ≤ 'z') || ('0' ≤ c && c ≤ '9')

/-- `re.sub(r"[^a-z0-9]+", "_", text)`. -/
def collapse : List Char → List Char
  | [] => []
  | c :: rest =>
    if isPlain c then c :: collapse rest
    else match collapse rest with
      | '_' :: tail => '_' :: tail
      | tail => '_' :: tail

def normalizeKey (value : String) : String :=
  let collapsed := collapse (lower value).toList
  let trimmed := (collapsed.dropWhile (· = '_')).reverse.dropWhile (· = '_')
  String.ofList trimmed.reverse

/-- `".".join(path)`. -/
def dotted (path : List String) : String := ".".intercalate path

def isGeneratedField (path : List String) : Bool :=
  policy.generatedMetadataFields.contains (dotted path)

/-- The length of a digest under a key. -/
def expectedLength (path : List String) : Nat :=
  match path.getLast? with
  | some "sha1" => 40
  | some "sha512" => 128
  | _ => 64

def isDigest (path : List String) : Obj → Bool
  | .str text => text.length == expectedLength path &&
      text.toList.all fun c => ('0' ≤ c && c ≤ '9') || ('a' ≤ c && c ≤ 'f')
  | _ => false

def isValidGeneratedField (path : List String) (value : Obj) : Bool :=
  isGeneratedField policy path && match value with
    | .list items => items.all (isDigest path)
    | .tuple items => items.all (isDigest path)
    | value => isDigest path value

def endsWith (key suffix : String) : Bool := suffix.toList.isSuffixOf key.toList

def isSensitiveKey (key : String) : Bool :=
  if ["max_token", "min_token", "token_budget"].contains key || endsWith key "_token_budget" ||
      endsWith key "_token_count" || endsWith key "_tokens" then false
  else policy.sensitiveKeys.contains key ||
    ["_api_key", "_access_token", "_auth_token", "_client_secret", "_credential", "_credentials",
      "_password", "_private_key", "_secret", "_secret_access_key", "_token"].any (endsWith key)

def isSelectedField (path : List String) : Bool :=
  policy.userControlledFields.contains "*" ||
    path.getLast?.any fun key => policy.userControlledFields.contains key ||
      policy.userControlledFields.contains (dotted path)

def validateMappingKeyPatterns (key : String) : Except RedactionError Unit :=
  check ((applyTextPatterns policy key).1 = key ∧ (applyTextPatterns policy key).2 = 0)
    (.redaction "Secrets in outbound mapping keys cannot be redacted safely.")

def keyText (message : String) : Key → Except RedactionError String
  | .text value => .ok value
  | .other _ => .error (.redaction message)

/-! ## The first pass -/

/-- The part of `_redact_structure` on a string. -/
def redactLeaf (detector : Option Detector) (position : Position) (value : String)
    (counters : Counters) : Except RedactionError (Obj × Counters) :=
  let (redacted, patternCount) := applyTextPatterns policy value
  let counters := { counters with pattern := counters.pattern + patternCount }
  match detector with
  | none => .ok (.str redacted, counters)
  | some detector =>
    match detector .first position redacted with
    | .raised => .error (.unavailable "Residual secret assurance failed closed.")
    | .returned redacted residualCount => do
      let residual ← counters.residual.add residualCount
      return (redacted, { counters with residual := residual })

mutual

def redactStructure (detector : Option Detector) (requireJsonCompatible scanAllStrings : Bool)
    (path : List String) (position : Position) :
    Obj → Counters → Except RedactionError (Obj × Counters)
  | .dict entries, counters => do
    let result ← redactEntries detector requireJsonCompatible scanAllStrings path position 0
      entries counters
    return (.dict result.1, result.2)
  | .list items, counters => do
    let result ← redactItems detector requireJsonCompatible scanAllStrings path position 0
      items counters
    return (.list result.1, result.2)
  | .tuple items, counters => do
    let result ← redactItems detector requireJsonCompatible scanAllStrings path position 0
      items counters
    return (.tuple result.1, result.2)
  | .str value, counters =>
    if scanAllStrings then redactLeaf policy detector position value counters
    else .ok (.str value, counters)
  | .other id, counters =>
    if scanAllStrings || requireJsonCompatible then
      .error (.redaction "Outbound content must contain JSON-compatible values.")
    else .ok (.other id, counters)
  | value, counters => .ok (value, counters)

def redactItems (detector : Option Detector) (requireJsonCompatible scanAllStrings : Bool)
    (path : List String) (position : Position) :
    Nat → List Obj → Counters → Except RedactionError (List Obj × Counters)
  | _, [], counters => .ok ([], counters)
  | index, nested :: rest, counters => do
    let head ← redactStructure detector requireJsonCompatible scanAllStrings path
      (position ++ [index]) nested counters
    let tail ← redactItems detector requireJsonCompatible scanAllStrings path position
      (index + 1) rest head.2
    return (head.1 :: tail.1, tail.2)

def redactEntries (detector : Option Detector) (requireJsonCompatible scanAllStrings : Bool)
    (path : List String) (position : Position) :
    Nat → List (Key × Obj) → Counters → Except RedactionError (List (Key × Obj) × Counters)
  | _, [], counters => .ok ([], counters)
  | index, (rawKey, nested) :: rest, counters => do
    let text ← keyText "User-controlled mappings require string field names." rawKey
    validateMappingKeyPatterns policy text
    let normalized := normalizeKey lower text
    let nestedPath := path ++ [normalized]
    let selected := scanAllStrings || isSelectedField policy nestedPath ||
      isGeneratedField policy nestedPath
    let head ←
      (if isValidGeneratedField policy nestedPath nested then
        .ok (nested, { counters with skippedGenerated := counters.skippedGenerated + 1 })
      else if isSensitiveKey policy normalized then
        .ok (.str policy.replacement, { counters with structured := counters.structured + 1 })
      else
        redactStructure detector requireJsonCompatible selected nestedPath
          (position ++ [index]) nested counters)
    let tail ← redactEntries detector requireJsonCompatible scanAllStrings path position
      (index + 1) rest head.2
    return ((.text text, head.1) :: tail.1, tail.2)

end

/-! ## The second pass -/

/-- The consistency of a reply: a string and a count that is zero exactly when nothing
changed. -/
def Consistent (value : String) (redacted count : Obj) : Prop :=
  ∃ text n, redacted = .str text ∧ count = .int n ∧ 0 ≤ n ∧ (n = 0 ↔ text = value)

def redactWithDetector (detector : Detector) (position : Position) (value : String) :
    Except RedactionError (String × Nat) :=
  match detector .final position value with
  | .raised => .error (.unavailable "Residual secret assurance failed closed.")
  | .returned (.str text) (.int n) =>
    if n < 0 ∨ (n = 0 ∧ text ≠ value) ∨ (0 < n ∧ text = value) then
      .error (.unavailable "Residual secret assurance returned an unverifiable redaction.")
    else .ok (text, n.toNat)
  | .returned _ _ =>
    .error (.unavailable "Residual secret assurance returned an unverifiable redaction.")

mutual

def scanResidualOutbound (detector : Detector) (path : List String) (position : Position) :
    Obj → Counters → Except RedactionError (Obj × Counters)
  | .dict entries, counters => do
    let result ← scanEntries detector path position 0 entries counters
    return (.dict result.1, result.2)
  | .list items, counters => do
    let result ← scanItems detector path position 0 items counters
    return (.list result.1, result.2)
  | .tuple items, counters => do
    let result ← scanItems detector path position 0 items counters
    return (.tuple result.1, result.2)
  | .str value, counters => do
    let result ← redactWithDetector detector position value
    let residual ← counters.residual.add (.int result.2)
    return (.str result.1, { counters with residual := residual })
  | value, counters => .ok (value, counters)

def scanItems (detector : Detector) (path : List String) (position : Position) :
    Nat → List Obj → Counters → Except RedactionError (List Obj × Counters)
  | _, [], counters => .ok ([], counters)
  | index, nested :: rest, counters => do
    let head ← scanResidualOutbound detector path (position ++ [index]) nested counters
    let tail ← scanItems detector path position (index + 1) rest head.2
    return (head.1 :: tail.1, tail.2)

def scanEntries (detector : Detector) (path : List String) (position : Position) :
    Nat → List (Key × Obj) → Counters → Except RedactionError (List (Key × Obj) × Counters)
  | _, [], counters => .ok ([], counters)
  | index, (rawKey, nested) :: rest, counters => do
    let text ← keyText "Outbound mappings require string field names." rawKey
    validateMappingKeyPatterns policy text
    let nestedPath := path ++ [normalizeKey lower text]
    let head ←
      (if isValidGeneratedField policy nestedPath nested then .ok (nested, counters)
      else scanResidualOutbound detector nestedPath (position ++ [index]) nested counters)
    let tail ← scanEntries detector path position (index + 1) rest head.2
    return ((.text text, head.1) :: tail.1, tail.2)

end

/-! ## The outbound object -/

structure SecretRedactionResult where
  value : Obj
  structuredRedactionCount : Nat
  patternRedactionCount : Nat
  residualRedactionCount : Number
  skippedGeneratedFieldCount : Nat
  residualAssured : Bool

def SecretRedactionResult.redactionCount (r : SecretRedactionResult) : Number :=
  match r.residualRedactionCount with
  | .finite q => .finite (r.structuredRedactionCount + r.patternRedactionCount + q)
  | .nonFinite => .nonFinite

/-- `_resolve_residual_detector`: the given detector, else the built-in one, which may fail
to load, when the policy requires assurance. -/
def resolveResidualDetector (given : Option Detector)
    (builtIn : Except RedactionError Detector) : Except RedactionError (Option Detector) :=
  match given with
  | some detector => .ok (some detector)
  | none =>
    if policy.requireResidualAssurance then builtIn.map some else .ok none

/-- The second pass, where there is a detector. -/
def finalScan (detector : Option Detector) (value : Obj) (counters : Counters) :
    Except RedactionError (Obj × Counters) :=
  match detector with
  | none => .ok (value, counters)
  | some detector => scanResidualOutbound lower policy detector [] [] value counters

/-- `_redact_object` for `redact_outbound_object`. -/
def redactObject (detector : Option Detector) (payload : Obj) :
    Except RedactionError SecretRedactionResult := do
  let redacted ← redactStructure lower policy detector true true [] [] payload
    ⟨0, 0, .finite 0, 0⟩
  let scanned ← finalScan lower policy detector redacted.1 redacted.2
  return {
    value := scanned.1
    structuredRedactionCount := scanned.2.structured
    patternRedactionCount := scanned.2.pattern
    residualRedactionCount := scanned.2.residual
    skippedGeneratedFieldCount := scanned.2.skippedGenerated
    residualAssured := detector.isSome }

def redactOutboundObject (given : Option Detector) (builtIn : Except RedactionError Detector)
    (payload : Obj) : Except RedactionError SecretRedactionResult := do
  let detector ← resolveResidualDetector policy given builtIn
  redactObject lower policy detector payload

end LocalMoe.Secrets
