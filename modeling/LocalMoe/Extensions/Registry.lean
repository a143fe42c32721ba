/-
  `extensions.py`: the registry files of MCP servers and cron jobs, their loaders, and the edit
  of one entry.

  Floats, `str` of what is no plain value and `json.dumps` are parameters. Integers are those
  that JSON can spell.
-/
import LocalMoe.Foundation.JsonText
import LocalMoe.Foundation.Table
import LocalMoe.Gateway.Text

namespace LocalMoe.Extensions

open Foundation
open Gateway (Text text strip)

/-! ## Values -/

/-- A value that `json.loads` makes, over the floats. -/
inductive Value (φ : Type) where
  | null
  | bool (value : Bool)
  | int (value : Int)
  | float (value : φ)
  | str (value : Text)
  | list (items : List (Value φ))
  | dict (entries : List (Text × Value φ))

abbrev Dict (φ : Type) := List (Text × Value φ)

/-- What floats, `str` and `json.dumps` answer. -/
structure Builtins (φ : Type) where
  /-- The float that a number or a literal of JSON spells. -/
  literal : Text → φ
  /-- `float` of an integer, unless it overflows. -/
  ofInt : Int → Option φ
  /-- `float` of a string that spells one. -/
  ofText : Text → Option φ
  isZero : φ → Bool
  isFinite : φ → Bool
  /-- `x <= 0`. -/
  nonPositive : φ → Bool
  /-- `str` of a float, a list or a dictionary. -/
  str : Value φ → Text
  /-- `json.dumps(value, indent=2)`, encoded. -/
  dumps : Dict φ → List UInt8

inductive Raised where
  | extensionError (message : Text)
  /-- The file is no text that `json.loads` takes. -/
  | unreadable
  | typeError
  | keyError
  | attributeError
  | overflowError
  deriving DecidableEq, Repr

variable {φ : Type}

def get (d : Dict φ) (key : String) (default : Value φ) : Value φ :=
  (d.lookup (text key)).getD default

variable (B : Builtins φ)

mutual

/-- The value that was decoded; of several pairs with a key the last one counts. -/
def decoded : JsonText.Value → Value φ
  | .null => .null
  | .bool value => .bool value
  | .int value => .int value
  | .float spelled => .float (B.literal spelled)
  | .str value => .str value
  | .arr items => .list (decodedItems items)
  | .obj pairs => .dict (decodedPairs [] pairs)

def decodedItems : List JsonText.Value → List (Value φ)
  | [] => []
  | item :: rest => decoded item :: decodedItems rest

def decodedPairs (d : Dict φ) : List (List Nat × JsonText.Value) → Dict φ
  | [] => d
  | (key, value) :: rest => decodedPairs (Table.put Prod.fst d (key, decoded value)) rest

end

def toText : Value φ → Text
  | .null => text "None"
  | .bool value => text (if value then "True" else "False")
  | .int value => text (toString value)
  | .str value => value
  | value => B.str value

def toBool : Value φ → Bool
  | .null => false
  | .bool value => value
  | .int value => value ≠ 0
  | .float value => !B.isZero value
  | .str value => !value.isEmpty
  | .list items => !items.isEmpty
  | .dict entries => !entries.isEmpty

/-- `float`, with nothing for its `TypeError` and its `ValueError`. -/
def toFloat : Value φ → Except Raised (Option φ)
  | .float value => .ok (some value)
  | .int value =>
    match B.ofInt value with
    | some x => .ok (some x)
    | none => .error .overflowError
  | .bool value => .ok (B.ofInt value.toNat)
  | .str value => .ok (B.ofText value)
  | _ => .ok none

/-- The items that a loop goes through. -/
def iterate : Value φ → Except Raised (List (Value φ))
  | .list items => .ok items
  | .str value => .ok (value.map fun code => .str [code])
  | .dict entries => .ok (entries.map fun entry => .str entry.1)
  | _ => .error .typeError

/-- `tuple(str(item) for item in value)`. -/
def texts (value : Value φ) : Except Raised (List Text) :=
  (List.map (toText B)) <$> iterate value

/-! ## Definitions -/

structure McpServerDefinition (φ : Type) where
  name : Text
  description : Text
  command : Text
  args : List Text
  enabled : Bool
  riskClass : Text
  capabilities : List Text
  transport : Text
  cwd : Option Text
  env : List (Text × Text)
  timeoutSeconds : φ
  allowedTools : List Text
  browserCapability : Dict φ
  desktopCapability : Dict φ

structure CronJobDefinition (φ : Type) where
  id : Text
  description : Text
  enabled : Bool
  schedule : Dict φ
  command : List Text
  riskClass : Text

def isId : Text → Bool
  | [] => false
  | first :: rest =>
    (97 ≤ first && first ≤ 122) && (1 ≤ rest.length && rest.length ≤ 63) &&
      rest.all fun c => (97 ≤ c && c ≤ 122) || (48 ≤ c && c ≤ 57) || c == 45

def riskClasses : List String :=
  ["read_only", "search_only", "compute_only", "draft_only", "write_local", "write_internal",
    "write_external", "financial", "communication", "identity_access", "security_sensitive",
    "process_execution", "network_open_world", "destructive", "privileged_admin"]

def raised {α : Type} (message : Text) : Except Raised α := .error (.extensionError message)

def validateId (value : Text) : Except Raised Unit :=
  if isId value then .ok () else raised (text "Invalid extension id: " ++ value)

local instance lawfulText : LawfulBEq (List Nat) := inferInstance

def validateRisk (value : Text) : Except Raised Unit :=
  if value ∈ riskClasses.map text then .ok ()
  else raised (text "Invalid risk class: " ++ value)

/-- `item[key]`, with the dictionary that it is in. -/
def subscript (key : String) : Value φ → Except Raised (Dict φ × Value φ)
  | .dict d =>
    match d.lookup (text key) with
    | some value => .ok (d, value)
    | none => .error .keyError
  | _ => .error .typeError

/-- A field of a server that is an object, or `None` for an empty one. -/
def objectField (owner : Text) (d : Dict φ) (key : String) : Except Raised (Dict φ) :=
  match get d key (.dict []) with
  | .null => .ok []
  | .dict entries => .ok entries
  | _ => raised (owner ++ text (" " ++ key ++ " must be an object."))

/-- `capability.get("enabled") is True`. -/
def isEnabled (d : Dict φ) : Bool :=
  match d.lookup (text "enabled") with
  | some (.bool true) => true
  | _ => false

def parseMcpServer (item : Value φ) : Except Raised (McpServerDefinition φ) := do
  let (d, name) ← subscript "name" item
  validateId (toText B name)
  let riskClass := toText B (get d "risk_class" (.str (text "read_only")))
  validateRisk riskClass
  let owner := text "MCP server " ++ toText B name
  let env ← objectField owner d "env"
  let browser ← objectField owner d "browser_capability"
  let desktop ← objectField owner d "desktop_capability"
  if isEnabled browser && isEnabled desktop then
    raised (owner ++ text " cannot own browser and desktop capabilities together.")
  else
    match ← toFloat B (get d "timeout_seconds" (.float (B.literal (text "8.0")))) with
    | none => raised (owner ++ text " timeout_seconds must be numeric.")
    | some timeoutSeconds =>
      if B.nonPositive timeoutSeconds then
        raised (owner ++ text " timeout_seconds must be positive.")
      else
        let command := strip (toText B (get d "command" (.str [])))
        if command = [] then raised (owner ++ text " command is required.")
        else
          let args ← texts B (get d "args" (.list []))
          let capabilities ← texts B (get d "capabilities" (.list []))
          let allowedTools ← texts B (get d "allowed_tools" (.list []))
          return {
            name := toText B name
            description := toText B (get d "description" (.str []))
            command, args, riskClass, capabilities, timeoutSeconds, allowedTools
            enabled := toBool B (get d "enabled" (.bool false))
            transport := toText B (get d "transport" (.str (text "stdio")))
            cwd := match get d "cwd" .null with
              | .null => none
              | value => some (toText B value)
            env := env.map fun entry => (entry.1, toText B entry.2)
            browserCapability := browser
            desktopCapability := desktop }

def parseCronJob (item : Value φ) : Except Raised (CronJobDefinition φ) := do
  let (d, id) ← subscript "id" item
  validateId (toText B id)
  let riskClass := toText B (get d "risk_class" (.str (text "compute_only")))
  validateRisk riskClass
  match get d "schedule" (.dict []) with
  | .dict schedule =>
    let command ← texts B (get d "command" (.list []))
    if command = [] then
      raised (text "Cron job " ++ toText B id ++ text " command is required.")
    else
      return {
        id := toText B id
        description := toText B (get d "description" (.str []))
        enabled := toBool B (get d "enabled" (.bool false))
        schedule, command, riskClass }
  | _ => raised (text "Cron job " ++ toText B id ++ text " schedule must be an object.")

inductive Entry (φ : Type) where
  | mcpServer (server : McpServerDefinition φ)
  | cronJob (job : CronJobDefinition φ)

def Entry.identity : Entry φ → Text
  | .mcpServer server => server.name
  | .cronJob job => job.id

def Entry.payload : Entry φ → Dict φ
  | .mcpServer server =>
    [(text "name", .str server.name), (text "description", .str server.description),
      (text "command", .str server.command), (text "args", .list (server.args.map .str)),
      (text "enabled", .bool server.enabled), (text "risk_class", .str server.riskClass),
      (text "capabilities", .list (server.capabilities.map .str)),
      (text "transport", .str server.transport),
      (text "cwd", (server.cwd.map Value.str).getD .null),
      (text "env", .dict (server.env.map fun entry => (entry.1, .str entry.2))),
      (text "timeout_seconds", .float server.timeoutSeconds),
      (text "allowed_tools", .list (server.allowedTools.map .str)),
      (text "browser_capability", .dict server.browserCapability),
      (text "desktop_capability", .dict server.desktopCapability)]
  | .cronJob job =>
    [(text "id", .str job.id), (text "description", .str job.description),
      (text "enabled", .bool job.enabled), (text "schedule", .dict job.schedule),
      (text "command", .list (job.command.map .str)), (text "risk_class", .str job.riskClass)]

/-! ## The files -/

inductive Surface where
  | mcpServer
  | cronJob
  deriving DecidableEq, Repr

def Surface.name : Surface → String
  | .mcpServer => "mcp_server"
  | .cronJob => "cron_job"

def Surface.listKey : Surface → String
  | .mcpServer => "servers"
  | .cronJob => "jobs"

def Surface.identityKey : Surface → String
  | .mcpServer => "name"
  | .cronJob => "id"

def Surface.parse (item : Value φ) : Surface → Except Raised (Entry φ)
  | .mcpServer => .mcpServer <$> parseMcpServer B item
  | .cronJob => .cronJob <$> parseCronJob B item

def Surface.ofText (surface : Text) : Except Raised Surface :=
  if surface = text "mcp_server" then .ok .mcpServer
  else if surface = text "cron_job" then .ok .cronJob
  else raised (text "surface must be mcp_server or cron_job.")

inductive Mode where
  | upsert
  | remove
  deriving DecidableEq, Repr

def Mode.name : Mode → String
  | .upsert => "upsert"
  | .remove => "remove"

/-- The mode that a text names; no text at all is `upsert`. -/
def Mode.ofText (mode : Text) : Except Raised Mode :=
  if mode = [] ∨ mode = text "upsert" then .ok .upsert
  else if mode = text "remove" then .ok .remove
  else raised (text "mode must be upsert or remove.")

/-- `_read_json_if_exists`, and what it has under `raw.get`; `limit` is the recursion limit. -/
def readRegistry (limit : Nat) (key : String) (file : Option (List UInt8)) :
    Except Raised (Dict φ) :=
  match file with
  | none => .ok [(text key, .list [])]
  | some bytes =>
    match JsonText.loadsBytes limit bytes with
    | .error _ => .error .unreadable
    | .ok value =>
      match decoded B value with
      | .dict raw => .ok raw
      | _ => .error .attributeError

/-- The entries of a file, as they stand in it. -/
def rawEntries (surface : Surface) (raw : Dict φ) : Except Raised (List (Value φ)) :=
  iterate (get raw surface.listKey (.list []))

/-- `load_mcp_servers` and `load_cron_jobs`. -/
def loadEntries (limit : Nat) (surface : Surface) (file : Option (List UInt8)) :
    Except Raised (List (Entry φ)) := do
  let raw ← readRegistry B limit surface.listKey file
  let entries ← rawEntries surface raw
  entries.mapM (surface.parse B)

/-! ## The edit -/

inductive Action where
  | missing
  | removed
  | created
  | updated
  deriving DecidableEq, Repr

/-- What the edit answers, beside the path. -/
structure Report where
  surface : Surface
  mode : Mode
  action : Action
  id : Text
  beforeCount : Nat
  afterCount : Nat
  deriving DecidableEq, Repr

/-- The identity that an item is known by. -/
def identityOf (surface : Surface) (d : Dict φ) : Text :=
  strip (toText B (get d surface.identityKey (.str [])))

def existingIndex (surface : Surface) (identity : Text) :
    List (Value φ) → Except Raised (Option Nat)
  | [] => .ok none
  | .dict d :: rest =>
    if identityOf B surface d = identity then .ok (some 0)
    else (Option.map (· + 1)) <$> existingIndex surface identity rest
  | _ :: _ => .error .attributeError

/-- The entries after the edit, and what was done to them. -/
def editEntries (surface : Surface) (definition : Dict φ) (entries : List (Value φ))
    (existing : Option Nat) : Mode → Except Raised (List (Value φ) × Action)
  | .remove =>
    match existing with
    | none => .ok (entries, .missing)
    | some index => .ok (entries.eraseIdx index, .removed)
  | .upsert => do
    let parsed ← surface.parse B (.dict definition)
    match existing with
    | none => return (entries ++ [.dict parsed.payload], .created)
    | some index => return (entries.set index (.dict parsed.payload), .updated)

/-- `configure_extension_entry`, with the text that it writes to the file. -/
def configureExtensionEntry (limit : Nat) (surface : Text) (definition : Dict φ) (mode : Text)
    (file : Option (List UInt8)) : Except Raised (Report × List UInt8) := do
  let mode ← Mode.ofText (strip mode)
  let surface ← Surface.ofText (strip surface)
  let raw ← readRegistry B limit surface.listKey file
  let entries ← rawEntries surface raw
  let identity := identityOf B surface definition
  validateId identity
  let existing ← existingIndex B surface identity entries
  let (edited, action) ← editEntries B surface definition entries existing mode
  return (⟨surface, mode, action, identity, entries.length, edited.length⟩,
    B.dumps (Table.put Prod.fst raw (text surface.listKey, .list edited)) ++ [10])

/-- What the file may hold at any moment of a call: `write_text` empties it, and writes its
text from the start. -/
def MayHold (outcome : Except Raised (Report × List UInt8)) (old content : List UInt8) : Prop :=
  match outcome with
  | .error _ => content = old
  | .ok (_, new) => content = old ∨ content <+: new

end LocalMoe.Extensions
