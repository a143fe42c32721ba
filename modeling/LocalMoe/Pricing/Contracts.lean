/-
  The contracts of `paired_execution_pricing.py`: prices, the cost of one command, and the costs
  of a run, built from the prices or read back.

  The digests that a constructor computes are functions of the rest, and no fields here.
-/
import LocalMoe.Canary.Contracts
import LocalMoe.Pricing.Storable

namespace LocalMoe.Pricing

open Foundation Contracts Canary

/-! ## Fields -/

/-- `_require_exact_fields`, after `reject_unknown`. -/
def requireExactFields (fields : List (String × Json)) (names : List String) (label : String) :
    Except ContractError Unit := do
  let unknown := ((fields.map Prod.fst).filter (· ∉ names)).mergeSort (· ≤ ·)
  check (unknown = [])
    (⟨"Unknown " ++ label ++ " fields: " ++ ", ".intercalate unknown ++ "."⟩ : ContractError)
  let missing := (names.filter (· ∉ fields.map Prod.fst)).mergeSort (· ≤ ·)
  check (missing = [])
    (⟨"Missing " ++ label ++ " fields: " ++ ", ".intercalate missing ++ "."⟩ : ContractError)

def mapping (raw : Json) (label : String) : Except ContractError (List (String × Json)) :=
  match raw with
  | .obj fields => .ok fields
  | _ => .error ⟨label ++ " must be an object with string keys."⟩

def listField (raw : Json) (message : String) : Except ContractError (List Json) :=
  match raw with
  | .arr items => .ok items
  | _ => .error ⟨message⟩

/-- A value of a payload is this text. -/
def isText (raw : Json) (text : String) : Bool :=
  match raw with
  | .str value => value = text
  | _ => false

/-- `require_safe_id`, with what it has checked. -/
def safeId (raw : Json) (label : String) : Except ContractError SafeId :=
  if h : isSafeId (strip (Json.text raw)) = true then
    .ok ⟨strip (Json.text raw), h, strip_of_isSafeId h⟩
  else .error ⟨label ++ " must be a safe identifier."⟩

/-- `require_sha256`, with what it has checked. -/
def digest (raw : Json) (label : String) : Except ContractError Digest :=
  if h : isSha256 (Json.text raw) = true then .ok ⟨Json.text raw, h⟩
  else .error ⟨label ++ " must be a lowercase SHA-256 digest."⟩

def maxTokenCount : Nat := 1000000000000

abbrev TokenCount := {n : Nat // n ≤ maxTokenCount}

def tokenCount (raw : Json) (label : String) : Except ContractError TokenCount :=
  match raw with
  | .int value =>
    if value < 0 then .error ⟨label ++ " must be a non-negative integer."⟩
    else if h : value.toNat ≤ maxTokenCount then .ok ⟨value.toNat, h⟩
    else .error ⟨label ++ " exceeds the supported bound."⟩
  | _ => .error ⟨label ++ " must be a non-negative integer."⟩

abbrev AmountText := {text : String // ∃ d : Decimal, Accepted d ∧ text = canonicalDecimal d}

/-- `_canonical_non_negative_decimal`, with what it has checked. -/
def amountText (U : Digits) (raw : Amount) (label : String) : Except ContractError AmountText :=
  match h : canonicalNonNegativeDecimal U raw label with
  | .ok text => .ok ⟨text, canonicalNonNegativeDecimal_eq_ok h⟩
  | .error failure => .error failure

def amountField : Json → Amount
  | .str value => .text value
  | .int value => .int value
  | .bool value => .bool value
  | _ => .other

/-- `_decimal_components` of `Decimal(text)`. -/
def decimalComponents (U : Digits) (text : String) : Except ContractError Decimal :=
  match decimalOfText U text with
  | some (.finite negative magnitude) => do
    check (negative = false ∨ magnitude.coefficient = 0)
      (⟨"Internal cost values must be finite and non-negative."⟩ : ContractError)
    check (negative = false)
      (⟨"Internal cost values must be non-negative."⟩ : ContractError)
    return magnitude
  | some .special => .error ⟨"Internal cost values must be finite and non-negative."⟩
  | none => .error ⟨"InvalidOperation"⟩

/-! ## Prices -/

structure PricingItem where
  providerId : SafeId
  model : SafeId
  promptUsdPerMillion : AmountText
  completionUsdPerMillion : AmountText
  deriving DecidableEq

def PricingItem.key (item : PricingItem) : String × String := (item.providerId.1, item.model.1)

def PricingItem.payload (item : PricingItem) : Json :=
  .obj [("provider_id", .str item.providerId.1), ("model", .str item.model.1),
    ("prompt_usd_per_million", .str item.promptUsdPerMillion.1),
    ("completion_usd_per_million", .str item.completionUsdPerMillion.1)]

def pricingItemFields : List String :=
  ["provider_id", "model", "prompt_usd_per_million", "completion_usd_per_million"]

/-- The constructor of `PricingItem`. -/
def PricingItem.make (U : Digits) (providerId model : Json) (prompt completion : Amount) :
    Except ContractError PricingItem := do
  let providerId ← safeId providerId "provider_id"
  let model ← safeId model "model"
  let prompt ← amountText U prompt "prompt_usd_per_million"
  let completion ← amountText U completion "completion_usd_per_million"
  return ⟨providerId, model, prompt, completion⟩

def PricingItem.fromPayload (U : Digits) (raw : Json) : Except ContractError PricingItem := do
  let fields ← mapping raw "pricing item"
  requireExactFields fields pricingItemFields "pricing item"
  PricingItem.make U (field fields "provider_id") (field fields "model")
    (amountField (field fields "prompt_usd_per_million"))
    (amountField (field fields "completion_usd_per_million"))

def pricingContract : String := "VerifiedPairedPricingContract"

def maxPricingItems : Nat := 4096

/-- The order of pairs of texts. -/
def keyLe (a b : String × String) : Bool := a.1 < b.1 || a.1 == b.1 && a.2 ≤ b.2

structure PricingContract where
  items : List PricingItem
  nonempty : items ≠ []
  bounded : items.length ≤ maxPricingItems
  unique : (items.map PricingItem.key).Nodup
  ordered : items.map PricingItem.key = (items.map PricingItem.key).mergeSort keyLe
  deriving DecidableEq

def PricingContract.contentPayload (p : PricingContract) : List (String × Json) :=
  [("schema_version", .str contractVersion), ("contract", .str pricingContract),
    ("items", .arr (p.items.map PricingItem.payload))]

/-- The constructor of `PricingContract`. -/
def PricingContract.make (items : List PricingItem) (schemaVersion contract : Json) :
    Except ContractError PricingContract := do
  check (isText schemaVersion contractVersion)
    (⟨"Unsupported pricing schema_version."⟩ : ContractError)
  check (isText contract pricingContract) (⟨"Pricing contract is unsupported."⟩ : ContractError)
  if nonempty : items ≠ [] then
    if bounded : items.length ≤ maxPricingItems then
      if unique : (items.map PricingItem.key).Nodup then
        if ordered : items.map PricingItem.key =
            (items.map PricingItem.key).mergeSort keyLe then
          return ⟨items, nonempty, bounded, unique, ordered⟩
        else .error ⟨"Pricing contract items must use canonical provider/model order."⟩
      else .error ⟨"Pricing contract provider/model pairs must be unique."⟩
    else .error ⟨"Pricing contract contains too many provider/model items."⟩
  else .error ⟨"Pricing contract items must be a non-empty list of PricingItem."⟩

def PricingContract.itemFor (p : PricingContract) (providerId model : SafeId) :
    Except ContractError PricingItem :=
  match p.items.find? fun item => item.key = (providerId.1, model.1) with
  | some item => .ok item
  | none => .error ⟨"Cost evidence is incomplete: no pricing rate exists for provider/model " ++
      providerId.1 ++ "/" ++ model.1 ++ "."⟩

def pricingFields : List String := ["schema_version", "contract", "items", "pricing_sha256"]

/-! ## Commands -/

/-- What `_command_metadata` returns. -/
structure CommandMetadata where
  providerId : SafeId
  model : SafeId
  providerRuntimeSha256 : Digest
  promptTokens : TokenCount
  completionTokens : TokenCount
  deriving DecidableEq

def CommandMetadata.payload (m : CommandMetadata) : List (String × Json) :=
  [("provider_id", .str m.providerId.1), ("model", .str m.model.1),
    ("provider_runtime_sha256", .str m.providerRuntimeSha256.1),
    ("prompt_tokens", .int m.promptTokens.1), ("completion_tokens", .int m.completionTokens.1)]

def commandMetadataFields : List String :=
  ["provider_id", "model", "provider_runtime_sha256", "prompt_tokens", "completion_tokens"]

/-- The values of a command, as every constructor checks them. -/
def CommandMetadata.make (fields : List (String × Json)) :
    Except ContractError CommandMetadata := do
  let providerId ← safeId (field fields "provider_id") "provider_id"
  let model ← safeId (field fields "model") "model"
  let runtime ← digest (field fields "provider_runtime_sha256") "provider_runtime_sha256"
  let prompt ← tokenCount (field fields "prompt_tokens") "prompt_tokens"
  let completion ← tokenCount (field fields "completion_tokens") "completion_tokens"
  return ⟨providerId, model, runtime, prompt, completion⟩

/-- `value is None`, or a blank text. -/
def isBlank : Json → Bool
  | .null => true
  | .str value => strip value = ""
  | _ => false

/-- `value is None`. -/
def isNull : Json → Bool
  | .null => true
  | _ => false

def commandMetadata (raw : Json) : Except ContractError CommandMetadata := do
  let fields ← mapping raw "command cost metadata"
  let unknown := ((fields.map Prod.fst).filter (· ∉ commandMetadataFields)).mergeSort (· ≤ ·)
  check (unknown = []) (⟨"Unknown command cost metadata fields: " ++
    ", ".intercalate unknown ++ "."⟩ : ContractError)
  let missing := (commandMetadataFields.filter (· ∉ fields.map Prod.fst)).mergeSort (· ≤ ·)
  check (missing = []) (⟨"Cost evidence is incomplete; missing command metadata fields: " ++
    ", ".intercalate missing ++ "."⟩ : ContractError)
  ["provider_id", "model", "provider_runtime_sha256"].forM fun name =>
    check (isBlank (field fields name) = false)
      (⟨"Cost evidence is incomplete: " ++ name ++ " is required."⟩ : ContractError)
  ["prompt_tokens", "completion_tokens"].forM fun name =>
    check (isNull (field fields name) = false)
      (⟨"Cost evidence is incomplete: " ++ name ++ " is required."⟩ : ContractError)
  CommandMetadata.make fields

structure CommandCostEvidence where
  metadata : CommandMetadata
  costUsd : AmountText
  deriving DecidableEq

def CommandCostEvidence.contentPayload (c : CommandCostEvidence) : List (String × Json) :=
  c.metadata.payload ++ [("cost_usd", .str c.costUsd.1)]

def commandEvidenceFields : List String :=
  commandMetadataFields ++ ["cost_usd", "command_sha256"]

/-- The constructor of `CommandCostEvidence`, on the values of `fields` and a cost. -/
def CommandCostEvidence.make (U : Digits) (fields : List (String × Json)) (cost : Amount) :
    Except ContractError CommandCostEvidence := do
  let metadata ← CommandMetadata.make fields
  let cost ← amountText U cost "cost_usd"
  return ⟨metadata, cost⟩

@[ext] structure PairedCostEvidence where
  pricingSha256 : Digest
  commands : List CommandCostEvidence
  totalCostUsd : AmountText
  deriving DecidableEq

def maxCommands : Nat := 1024

def pairedEvidenceFields : List String :=
  ["pricing_sha256", "commands", "total_cost_usd", "cost_sha256"]

/-- `_canonical_decimal` of the sum of the commands' costs. -/
def totalOf (U : Digits) (commands : List CommandCostEvidence) : Except ContractError String := do
  let costs ← commands.mapM fun command => decimalComponents U command.costUsd.1
  return canonicalDecimal (sumExact costs)

/-- The constructor of `PairedCostEvidence`. -/
def PairedCostEvidence.make (U : Digits) (pricingSha256 : Json)
    (commands : List CommandCostEvidence) (total : Amount) :
    Except ContractError PairedCostEvidence := do
  let pricingSha256 ← digest pricingSha256 "pricing_sha256"
  check (commands ≠ [])
    (⟨"Paired cost evidence commands must be a non-empty list."⟩ : ContractError)
  check (commands.length ≤ maxCommands)
    (⟨"Paired cost evidence contains too many commands."⟩ : ContractError)
  let total ← amountText U total "total_cost_usd"
  let expected ← totalOf U commands
  check (total.1 = expected)
    (⟨"Paired cost evidence total does not equal its command costs."⟩ : ContractError)
  return ⟨pricingSha256, commands, total⟩

/-! ## Digests, and reading back -/

section Digests

variable (S : Stdlib) (U : Digits)

def PricingContract.pricingSha256 (p : PricingContract) : String :=
  S.sha256Json (.obj p.contentPayload)

def PricingContract.payload (p : PricingContract) : Json :=
  .obj (p.contentPayload ++ [("pricing_sha256", .str (p.pricingSha256 S))])

def PricingContract.fromPayload (raw : Json) : Except ContractError PricingContract := do
  let fields ← mapping raw "pricing contract"
  requireExactFields fields pricingFields "pricing contract"
  let rawItems ← listField (field fields "items") "Pricing contract items must be a list."
  let items ← rawItems.mapM (PricingItem.fromPayload U)
  let contract ← PricingContract.make items (field fields "schema_version")
    (field fields "contract")
  let supplied ← digest (field fields "pricing_sha256") "pricing_sha256"
  check (supplied.1 = contract.pricingSha256 S)
    (⟨"Pricing contract digest is invalid."⟩ : ContractError)
  return contract

def CommandCostEvidence.commandSha256 (c : CommandCostEvidence) : String :=
  S.sha256Json (.obj c.contentPayload)

def CommandCostEvidence.payload (c : CommandCostEvidence) : Json :=
  .obj (c.contentPayload ++ [("command_sha256", .str (c.commandSha256 S))])

def CommandCostEvidence.fromPayload (raw : Json) : Except ContractError CommandCostEvidence := do
  let fields ← mapping raw "command cost evidence"
  requireExactFields fields commandEvidenceFields "command cost evidence"
  let evidence ← CommandCostEvidence.make U fields (amountField (field fields "cost_usd"))
  let supplied ← digest (field fields "command_sha256") "command_sha256"
  check (supplied.1 = evidence.commandSha256 S)
    (⟨"Command cost evidence digest is invalid."⟩ : ContractError)
  return evidence

def PairedCostEvidence.contentPayload (e : PairedCostEvidence) : List (String × Json) :=
  [("pricing_sha256", .str e.pricingSha256.1),
    ("commands", .arr (e.commands.map fun command => command.payload S)),
    ("total_cost_usd", .str e.totalCostUsd.1)]

def PairedCostEvidence.costSha256 (e : PairedCostEvidence) : String :=
  S.sha256Json (.obj (e.contentPayload S))

def PairedCostEvidence.payload (e : PairedCostEvidence) : Json :=
  .obj (e.contentPayload S ++ [("cost_sha256", .str (e.costSha256 S))])

/-- The cost of a command under its rates. -/
def commandCost (item : PricingItem) (m : CommandMetadata) : Except ContractError Decimal := do
  let prompt ← decimalComponents U item.promptUsdPerMillion.1
  let completion ← decimalComponents U item.completionUsdPerMillion.1
  return sumExact [tokenCost prompt m.promptTokens.1, tokenCost completion m.completionTokens.1]

/-- One round of the loop of `build_cost_evidence`. -/
def buildCommand (p : PricingContract) (raw : Json) : Except ContractError CommandCostEvidence := do
  let metadata ← commandMetadata raw
  let item ← p.itemFor metadata.providerId metadata.model
  let cost ← commandCost U item metadata
  CommandCostEvidence.make U metadata.payload (.text (canonicalDecimal cost))

/-- The loop of `build_cost_evidence`, after `evidence`. -/
def buildCommands (p : PricingContract) :
    List Json → List CommandCostEvidence → Except ContractError (List CommandCostEvidence)
  | [], evidence => .ok evidence
  | raw :: rest, evidence => do
    check (evidence.length < maxCommands)
      (⟨"Paired cost evidence contains too many commands."⟩ : ContractError)
    let command ← buildCommand U p raw
    buildCommands p rest (evidence ++ [command])

def buildCostEvidence (p : PricingContract) (commands : List Json) :
    Except ContractError PairedCostEvidence := do
  let evidence ← buildCommands U p commands []
  check (evidence ≠ [])
    (⟨"Cost evidence is incomplete: at least one command is required."⟩ : ContractError)
  let total ← totalOf U evidence
  PairedCostEvidence.make U (.str (p.pricingSha256 S)) evidence (.text total)

/-- `PairedCostEvidence.validate_against`.  Two records have one payload only when they are
equal. -/
def PairedCostEvidence.validateAgainst (e : PairedCostEvidence) (p : PricingContract) :
    Except ContractError Unit := do
  check (e.pricingSha256.1 = p.pricingSha256 S)
    (⟨"Paired cost evidence references a different pricing contract."⟩ : ContractError)
  let rebuilt ← buildCostEvidence S U p (e.commands.map fun command => .obj command.metadata.payload)
  check (rebuilt = e)
    (⟨"Paired cost evidence does not match the referenced prices."⟩ : ContractError)

def PairedCostEvidence.fromPayload (raw : Json) (pricing : Option PricingContract) :
    Except ContractError PairedCostEvidence := do
  let fields ← mapping raw "paired cost evidence"
  requireExactFields fields pairedEvidenceFields "paired cost evidence"
  let rawCommands ← listField (field fields "commands")
    "Paired cost evidence commands must be a list."
  let commands ← rawCommands.mapM (CommandCostEvidence.fromPayload S U)
  let evidence ← PairedCostEvidence.make U (field fields "pricing_sha256") commands
    (amountField (field fields "total_cost_usd"))
  let supplied ← digest (field fields "cost_sha256") "cost_sha256"
  check (supplied.1 = evidence.costSha256 S)
    (⟨"Paired cost evidence digest is invalid."⟩ : ContractError)
  match pricing with
  | none => return evidence
  | some p => do
    evidence.validateAgainst S U p
    return evidence

end Digests

end LocalMoe.Pricing
