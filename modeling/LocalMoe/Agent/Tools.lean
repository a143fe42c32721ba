/-
  `agent_types.py` and `agent_tools.py`: specs, arguments and what may be run.

  Regular expressions, `str` and `==` of values, and the digest are parameters of the model.
-/
import LocalMoe.Contracts.VerifiedRouting

namespace LocalMoe.Agent

open Contracts

/-! ## Arguments -/

/-- The key of a mapping: what `str` makes of it, and whether it is a text itself. -/
structure Key where
  text : String
  isText : Bool
  deriving DecidableEq, Repr

/-- The arguments of a call may be any object. -/
inductive Arg where
  | none
  | bool (value : Bool)
  | int (value : Int)
  | float (value : ℚ)
  /-- An infinite float, or no number. -/
  | nonFinite
  | str (value : String)
  | list (items : List Arg)
  | tuple (items : List Arg)
  | dict (entries : List (Key × Arg))
  /-- Any other object, by the name of its type. -/
  | other (type : String)
  deriving Inhabited

/-- `dict.get` with a text. -/
def Arg.field (key : String) : List (Key × Arg) → Option Arg
  | [] => Option.none
  | (name, value) :: rest =>
    if name = ⟨key, true⟩ then some value else Arg.field key rest

/-- What is not written out of the language. -/
structure Language where
  /-- `redact_agent_text`. -/
  redact : String → String
  /-- `str`. -/
  shown : Arg → String
  /-- `==`. -/
  equals : Arg → Arg → Bool
  /-- `<`; some values do not compare. -/
  less : Arg → Arg → Except String Bool
  /-- `int`; some values have none. -/
  int : Arg → Except String Int
  /-- `re.fullmatch(pattern, text) is not None`; the pattern may be refused. -/
  fullmatch : String → String → Except String Bool
  /-- `float(value)` of an integer may overflow. -/
  overflows : Int → Bool
  /-- `strip_reasoning_content`. -/
  stripped : String → String
  /-- `_sha256_text`. -/
  sha256Text : String → String
  /-- `arguments_sha256`. -/
  digest : Arg → String
  /-- `argument_size_chars`. -/
  size : Arg → Nat
  /-- How deep `_validate_schema` may recurse. -/
  depth : Nat

/-! ## The schema -/

def matchesType (expected : String) : Arg → Bool
  | .dict _ => expected = "object"
  | .list _ => expected = "array"
  | .str _ => expected = "string"
  | .int _ => expected = "integer" || expected = "number"
  | .float _ | .nonFinite => expected = "number"
  | .bool _ => expected = "boolean"
  | .none => expected = "null"
  | .tuple _ | .other _ => false

def Arg.truthy : Arg → Bool
  | .none => false
  | .bool b => b
  | .int n => n ≠ 0
  | .float x => x ≠ 0
  | .nonFinite | .other _ => true
  | .str text => text ≠ ""
  | .list items | .tuple items => !items.isEmpty
  | .dict entries => !entries.isEmpty

def checkBound (py : Language) (bound : Option Arg) (broken : Int → Bool) (error : Arg → String) :
    Except String (List String) :=
  match bound with
  | none | some .none => .ok []
  | some bound => do
    let n ← py.int bound
    pure (if broken n then [error bound] else [])

section Validate

variable (py : Language)

def checkText (schema : List (Key × Arg)) (path text : String) : Except String (List String) := do
  let short ← match Arg.field "minLength" schema with
    | none => pure []
    | some bound => do
      let n ← py.int bound
      pure (if (text.length : Int) < n then [s!"{path} is too short"] else [])
  let long ← match Arg.field "maxLength" schema with
    | none => pure []
    | some bound => do
      let n ← py.int bound
      pure (if n < text.length then [s!"{path} is too long"] else [])
  let format ← match Arg.field "pattern" schema with
    | none => pure []
    | some pattern => do
      let found ← py.fullmatch (py.shown pattern) text
      pure (if found then [] else [s!"{path} has an invalid format"])
  pure (short ++ long ++ format)

def checkNumber (schema : List (Key × Arg)) (path : String) (value : Arg) :
    Except String (List String) := do
  let low ← match Arg.field "minimum" schema with
    | none => pure []
    | some bound => do
      let below ← py.less value bound
      pure (if below then [s!"{path} must be >= " ++ py.shown bound] else [])
  let high ← match Arg.field "maximum" schema with
    | none => pure []
    | some bound => do
      let above ← py.less bound value
      pure (if above then [s!"{path} must be <= " ++ py.shown bound] else [])
  pure (low ++ high)

/-- The keys of a mapping that a schema requires or does not know. -/
def checkKeys (schema entries : List (Key × Arg)) (properties : List (Key × Arg)) (path : String) :
    List String :=
  let required := match Arg.field "required" schema with
    | some (.list items) | some (.tuple items) => items.map py.shown
    | _ => []
  let missing := required.filterMap fun key =>
    if (Arg.field key entries).isSome then none else some (path ++ "." ++ key ++ " is required")
  let unknown := match Arg.field "additionalProperties" schema with
    | some (.bool false) => entries.filterMap fun entry =>
      if entry.1.isText && (Arg.field entry.1.text properties).isSome then none
      else some (path ++ "." ++ entry.1.text ++ " is not allowed")
    | _ => []
  missing ++ unknown

/-- `_validate_schema`: the errors, unless something raises; `fuel` is how deep it may go. -/
def validateSchema : Nat → List (Key × Arg) → Arg → String → Except String (List String)
  | 0, _, _, _ => .error "RecursionError"
  | fuel + 1, schema, value, path => do
    let expected := (Arg.field "type" schema).getD .none
    if expected.truthy && !matchesType (py.shown expected) value then
      return [s!"{path} must be " ++ py.shown expected]
    let enumeration ← match Arg.field "enum" schema with
      | none => pure []
      | some (.list items) =>
        pure (if items.any (py.equals value) then []
          else [s!"{path} must be one of " ++ py.shown (.list items)])
      | some _ => .error "TypeError"
    let inside ← match value with
      | .dict entries => do
        let properties := match Arg.field "properties" schema with
          | some (.dict properties) => properties
          | _ => []
        let nested ← entries.mapM fun entry =>
          match (if entry.1.isText then Arg.field entry.1.text properties else none) with
          | some (.dict nestedSchema) =>
            validateSchema fuel nestedSchema entry.2 (path ++ "." ++ entry.1.text)
          | _ => pure []
        pure (checkKeys py schema entries properties path ++ nested.flatten)
      | .list items => do
        let few ← checkBound py (Arg.field "minItems" schema) (fun n => (items.length : Int) < n)
          fun bound => s!"{path} must contain at least " ++ py.shown bound ++ " items"
        let many ← checkBound py (Arg.field "maxItems" schema) (fun n => n < items.length)
          fun bound => s!"{path} must contain at most " ++ py.shown bound ++ " items"
        let nested ← match Arg.field "items" schema with
          | some (.dict itemSchema) =>
            items.zipIdx.mapM fun item =>
              validateSchema fuel itemSchema item.1 (path ++ "[" ++ toString item.2 ++ "]")
          | _ => pure []
        pure (few ++ many ++ nested.flatten)
      | .str text => checkText py schema path text
      | _ => pure []
    match value with
    | .nonFinite => return enumeration ++ inside ++ [s!"{path} must be finite"]
    | _ => pure PUnit.unit
    let number ← match value with
      | .int n => if py.overflows n then .error "OverflowError" else checkNumber py schema path (.int n)
      | .float x => checkNumber py schema path (.float x)
      | _ => pure []
    let alternatives ← match Arg.field "oneOf" schema with
      | some (.list alternatives) => do
        let found ← alternatives.mapM fun alternative =>
          match alternative with
          | .dict alternative => validateSchema fuel alternative value path
          | _ => pure []
        pure (if (found.filter List.isEmpty).length = 1 then []
          else [s!"{path} must match exactly one allowed argument shape"])
      | _ => pure []
    pure (enumeration ++ inside ++ number ++ alternatives)

def validateJsonArguments (schema : List (Key × Arg)) (value : Arg) : Except String (List String) :=
  validateSchema py py.depth schema value "$"

end Validate

/-! ## Secrets -/

/-- A letter or a digit of ASCII. -/
def isWord (c : Char) : Bool := c.isAlphanum

/-- `re.sub(r"([a-z0-9])([A-Z])", r"\1_\2", key)`. -/
def splitCamel : List Char → List Char
  | first :: second :: rest =>
    if (first.isLower || first.isDigit) && second.isUpper then
      first :: '_' :: splitCamel (second :: rest)
    else first :: splitCamel (second :: rest)
  | rest => rest

/-- `re.sub(r"[^a-zA-Z0-9]+", "_", key)`; `gap` is whether the last one was replaced. -/
def joinWords : Bool → List Char → List Char
  | _, [] => []
  | gap, c :: rest =>
    if isWord c then c :: joinWords false rest
    else if gap then joinWords true rest
    else '_' :: joinWords true rest

def normalizedKey (key : String) : String :=
  let words := joinWords false (splitCamel key.toList)
  let stripped := ((words.dropWhile (· == '_')).reverse.dropWhile (· == '_')).reverse
  String.ofList (stripped.map Char.toLower)

def secretNames : List String :=
  ["api_key", "apikey", "access_token", "refresh_token", "auth_token", "bearer_token",
    "session_token", "id_token", "token", "client_secret", "private_key", "ssh_private_key",
    "secret_access_key", "aws_secret_access_key", "signing_key", "encryption_key", "secret",
    "secret_value", "password", "passwd", "credential", "credentials", "authorization"]

/-- The endings of the names of secrets. -/
def secretSuffixes : List String :=
  ["_api_key", "_access_token", "_refresh_token", "_auth_token", "_token", "_password", "_secret",
    "_credential", "_private_key", "_secret_access_key", "_signing_key", "_encryption_key"]

def isSecretField (key : String) : Bool :=
  let normalized := normalizedKey key
  secretNames.contains normalized ||
    secretSuffixes.any fun ending => ending.toList.isSuffixOf normalized.toList

def redactedValue : String := "[redacted]"

section Secrets

variable (py : Language)

mutual

/-- `_contains_secret_key`: it does not look into a tuple or another object. -/
def containsSecretKey : Arg → Bool
  | .dict entries => containsSecretEntry entries
  | .list items => containsSecretItem items
  | .str text => py.redact text != text
  | _ => false

def containsSecretEntry : List (Key × Arg) → Bool
  | [] => false
  | (key, nested) :: rest =>
    isSecretField key.text || containsSecretKey nested || containsSecretEntry rest

def containsSecretItem : List Arg → Bool
  | [] => false
  | item :: rest => containsSecretKey item || containsSecretItem rest

end

mutual

def containsNonFinite : Arg → Bool
  | .nonFinite => true
  | .dict entries => containsNonFiniteEntry entries
  | .list items => containsNonFiniteItem items
  | _ => false

def containsNonFiniteEntry : List (Key × Arg) → Bool
  | [] => false
  | (_, nested) :: rest => containsNonFinite nested || containsNonFiniteEntry rest

def containsNonFiniteItem : List Arg → Bool
  | [] => false
  | item :: rest => containsNonFinite item || containsNonFiniteItem rest

end

mutual

def sanitize : Arg → Arg
  | .str text => .str (py.redact text)
  | .dict entries => .dict (sanitizeEntries entries)
  | .list items | .tuple items => .list (sanitizeItems items)
  | .other type => .str type
  | .none => .none
  | .bool b => .bool b
  | .int n => .int n
  | .float x => .float x
  | .nonFinite => .nonFinite

/-- The entries of a mapping: the value under a secret name is not looked at. -/
def sanitizeEntries : List (Key × Arg) → List (Key × Arg)
  | [] => []
  | (key, nested) :: rest =>
    (⟨key.text, true⟩, if isSecretField key.text then .str redactedValue else sanitize nested) ::
      sanitizeEntries rest

def sanitizeItems : List Arg → List Arg
  | [] => []
  | item :: rest => sanitize item :: sanitizeItems rest

end

mutual

/-- A value that JSON has: no tuple, no other object, and only texts as keys. -/
def Arg.isJson : Arg → Bool
  | .dict entries => entriesJson entries
  | .list items => itemsJson items
  | .tuple _ | .other _ => false
  | _ => true

def entriesJson : List (Key × Arg) → Bool
  | [] => true
  | (key, nested) :: rest => key.isText && nested.isJson && entriesJson rest

def itemsJson : List Arg → Bool
  | [] => true
  | item :: rest => item.isJson && itemsJson rest

end

mutual

theorem sanitize_eq_self : ∀ {value : Arg}, value.isJson = true →
    containsSecretKey py value = false → sanitize py value = value
  | .str text, _, h => by
    rw [sanitize]
    simpa [containsSecretKey] using h
  | .dict entries, hjson, h => by
    rw [sanitize, sanitizeEntries_eq_self hjson h]
  | .list items, hjson, h => by
    rw [sanitize, sanitizeItems_eq_self hjson h]
  | .none, _, _ | .bool _, _, _ | .int _, _, _ | .float _, _, _ | .nonFinite, _, _ => rfl
  | .tuple _, hjson, _ | .other _, hjson, _ => by cases hjson

theorem sanitizeEntries_eq_self : ∀ {entries : List (Key × Arg)}, entriesJson entries = true →
    containsSecretEntry py entries = false → sanitizeEntries py entries = entries
  | [], _, _ => rfl
  | (⟨text, isText⟩, nested) :: rest, hjson, h => by
    simp only [entriesJson, Bool.and_eq_true] at hjson
    simp only [containsSecretEntry, Bool.or_eq_false_iff] at h
    obtain ⟨⟨htext, hnested⟩, hrest⟩ := hjson
    subst htext
    rw [sanitizeEntries, h.1.1, sanitize_eq_self hnested h.1.2, sanitizeEntries_eq_self hrest h.2]
    rfl

theorem sanitizeItems_eq_self : ∀ {items : List Arg}, itemsJson items = true →
    containsSecretItem py items = false → sanitizeItems py items = items
  | [], _, _ => rfl
  | item :: rest, hjson, h => by
    simp only [itemsJson, Bool.and_eq_true] at hjson
    simp only [containsSecretItem, Bool.or_eq_false_iff] at h
    rw [sanitizeItems, sanitize_eq_self hjson.1 h.1, sanitizeItems_eq_self hjson.2 h.2]

end

end Secrets

end LocalMoe.Agent
