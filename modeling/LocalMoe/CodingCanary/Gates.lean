/-
  The gates of `coding_canary.py`: the pre-tool hook with the loader of its state, the approval
  broker and the input contract.

  The hook's state file and the input contract keep the same three fields, `Progress`; the
  broker keeps counters and the paths read.
-/
import LocalMoe.Contracts.Value
import LocalMoe.Foundation.Machine
import Mathlib.Data.Finset.Card

namespace LocalMoe.CodingCanary

open Contracts Foundation

abbrev Entries := List (String × Value)

/-- The two files of the disposable workspace. -/
structure Fixture where
  source : String
  test : String
  distinct : source ≠ test

def Fixture.paths (f : Fixture) : Finset String := {f.source, f.test}

/-- The tools of the contract, and every other one. -/
inductive Category where
  | readFiles | editor | runCommands | otherTool
  deriving DecidableEq

instance : Fintype Category :=
  ⟨{.readFiles, .editor, .runCommands, .otherTool}, fun c => by cases c <;> decide⟩

def Category.of (tool : String) : Category :=
  if tool = "read_files" then .readFiles
  else if tool = "editor" then .editor
  else if tool = "run_commands" then .runCommands
  else .otherTool

inductive Phase where
  | reading | editing | testing | complete
  deriving DecidableEq

/-- The fields that the hook's state and the input contract share. -/
structure Progress where
  phase : Phase
  readPaths : Finset String
  sequence : List Category
  deriving DecidableEq

namespace Progress

def initial : Progress := ⟨.reading, ∅, []⟩

def read (f : Fixture) (p : Progress) (paths : List String) : Progress where
  phase := if p.readPaths ∪ paths.toFinset = f.paths then .editing else p.phase
  readPaths := p.readPaths ∪ paths.toFinset
  sequence := p.sequence ++ [.readFiles]

def edit (p : Progress) : Progress :=
  { p with phase := .testing, sequence := p.sequence ++ [.editor] }

def command (p : Progress) : Progress :=
  { p with phase := .complete, sequence := p.sequence ++ [.runCommands] }

end Progress

/-! ## The checks of one request -/

def keySet (value : Entries) : Finset String := (value.map Prod.fst).toFinset

/-- `value.get(key)` is absent or null. -/
def isNone : Option Value → Bool
  | none | some .none => true
  | _ => false

def isText (text : String) : Option Value → Bool
  | some (.str t) => t = text
  | _ => false

/-- A value of a JSON document that Python cannot hash. -/
def unhashable : Option Value → Bool
  | some (.list _) | some (.dict _) => true
  | _ => false

/-- What is refused as a line bound. -/
def badBound : Option Value → Bool
  | none | some .none => false
  | some (.int n) => n < 1
  | some _ => true

/-- The range ends before it starts. -/
def inverted (item : Entries) : Bool :=
  match Value.field "start_line" item, Value.field "end_line" item with
  | some (.int first), some (.int last) => last < first
  | _, _ => false

def badBounds (item : Entries) : Bool :=
  badBound (Value.field "start_line" item) || badBound (Value.field "end_line" item)

def itemKeys (item : Entries) : Bool :=
  {"path"} ⊆ keySet item && keySet item ⊆ {"path", "start_line", "end_line"}

/-- `files` of a read request: the only key, a list of one or two items. -/
def filesOf (value : Entries) : Option (List Value) :=
  if keySet value = {"files"} then
    match Value.field "files" value with
    | some (.list files) => if 1 ≤ files.length ∧ files.length ≤ 2 then some files else none
    | _ => none
  else none

/-- The loop over `files`, from the paths seen so far; `refused` checks the lines of an item. -/
def scanItems (f : Fixture) (refused : Entries → Bool) (seen : List String) :
    List Value → Option (List String)
  | [] => some seen
  | .dict item :: rest =>
    if itemKeys item then
      match Value.field "path" item with
      | some (.str path) =>
        if path ∉ f.paths ∨ path ∈ seen ∨ refused item then none
        else scanItems f refused (seen ++ [path]) rest
      | _ => none
    else none
  | _ :: _ => none

def editKeys (value : Entries) : Bool :=
  {"path", "new_text"} ⊆ keySet value &&
    keySet value ⊆ {"path", "old_text", "new_text", "insert_line"}

def brokenSource : String := "def add(left: int, right: int) -> int:\n    return left - right\n"

def fixedSource : String := "def add(left: int, right: int) -> int:\n    return left + right\n"

def allowedCommand : String := "python3 -m unittest -q test_calculator.py"

/-- `(old_text, new_text) in allowed_edits`, with the checks of their types. -/
def allowedEdit (value : Entries) : Bool :=
  let edit (old new : String) : Bool :=
    isText old (Value.field "old_text" value) && isText new (Value.field "new_text" value)
  edit brokenSource fixedSource || edit "return left - right" "return left + right"

/-- `set(value) == {"commands"}` and `value.get("commands") == [_ALLOWED_COMMAND]`. -/
def exactCommand (value : Entries) : Bool :=
  keySet value = {"commands"} &&
    match Value.field "commands" value with
    | some (.list [command]) => isText allowedCommand (some command)
    | _ => false

/-! ## The input contract -/

/-- What `_read` takes of a request: the paths, when every item is right. -/
def contractRead (f : Fixture) (value : Entries) : Option (List String) := do
  scanItems f (fun item => badBounds item || inverted item) [] (← filesOf value)

/-- What `_edit` asks of a request. -/
def contractEdit (f : Fixture) (value : Entries) : Bool :=
  editKeys value && isText f.source (Value.field "path" value) &&
    isNone (Value.field "insert_line" value) && allowedEdit value

/-- `_read`, `_edit` and `_command`: the progress after an approved request. -/
def contractStep (f : Fixture) (p : Progress) (tool : String) (value : Entries) :
    Option Progress :=
  match Category.of tool with
  | .readFiles =>
    if p.phase = .reading then do
      let paths ← contractRead f value
      if 2 ≤ p.sequence.length then none else some (p.read f paths)
    else none
  | .editor => if p.phase = .editing ∧ contractEdit f value then some p.edit else none
  | .runCommands => if p.phase = .testing ∧ exactCommand value then some p.command else none
  | .otherTool => none

structure InputContract where
  progress : Progress := .initial
  valid : Bool := true

def InputContract.observe (f : Fixture) (k : InputContract) (tool : String) :
    Value → InputContract
  | .dict value =>
    if k.valid then
      match contractStep f k.progress tool value with
      | some progress => { k with progress }
      | none => { k with valid := false }
    else { k with valid := false }
  | _ => { k with valid := false }

inductive Status where
  | invalid | complete | incomplete
  deriving DecidableEq

/-- `self.sequence[-2:] == ["editor", "run_commands"]`, with nothing but reads before it. -/
def finished (sequence : List Category) : Bool :=
  sequence.drop (sequence.length - 2) = [.editor, .runCommands] &&
    (sequence.take (sequence.length - 2)).all (· = .readFiles)

def InputContract.status (f : Fixture) (k : InputContract) : Status :=
  if !k.valid then .invalid
  else if k.progress.phase = .complete ∧ k.progress.readPaths = f.paths ∧
    3 ≤ k.progress.sequence.length ∧ k.progress.sequence.length ≤ 4 ∧
    finished k.progress.sequence then .complete
  else .incomplete

/-! ## The pre-tool hook -/

/-- The loop over `files` of the hook: nothing when `path not in {SOURCE, TEST}` raises. -/
def hookScan (f : Fixture) (paths : List String) : List Value → Option (Option (List String))
  | [] => some (some paths)
  | .dict item :: rest =>
    if itemKeys item then
      match Value.field "path" item with
      | some (.str path) =>
        if path ∉ f.paths ∨ path ∈ paths then some none
        else if badBounds item then some none
        else if inverted item then some none
        else hookScan f (paths ++ [path]) rest
      | path => if unhashable path then none else some none
    else some none
  | _ :: _ => some none

/-- The branches of `decide`: nothing when one raises, and otherwise the progress and the
reason of an approved call. -/
def hookGrant (f : Fixture) (p : Progress) (tool : String) (value : Entries) :
    Option (Option (Progress × String)) :=
  match Category.of tool, p.phase with
  | .readFiles, .reading =>
    match filesOf value with
    | none => some none
    | some files => do
      match ← hookScan f [] files with
      | some paths =>
        if p.sequence.length < 2 then some (some (p.read f paths, "allowed_fixture_read"))
        else some none
      | none => some none
  | .editor, .editing =>
    if editKeys value then
      if isText f.source (Value.field "path" value) && isNone (Value.field "insert_line" value) then
        -- the tuple is hashed with both its texts
        if unhashable (Value.field "old_text" value) ∨
            unhashable (Value.field "new_text" value) then none
        else if allowedEdit value then some (some (p.edit, "allowed_fixture_edit"))
        else some none
      else some none
    else some none
  | .runCommands, .testing =>
    if exactCommand value then some (some (p.command, "allowed_fixture_test")) else some none
  | _, _ => some none

abbrev Counter := Category → Nat

def count (counter : Counter) (c : Category) : Counter :=
  Function.update counter c (counter c + 1)

structure HookState where
  progress : Progress := .initial
  observed : Counter := fun _ => 0
  approved : Counter := fun _ => 0
  denied : Counter := fun _ => 0
  errors : Nat := 0

/-- A tool and its input. -/
abbrev Call := String × Entries

/-- `tool_call` of a payload, when it is well formed. -/
def toolCall : Value → Option Call
  | .dict payload =>
    match Value.field "tool_call" payload with
    | some (.dict call) =>
      match Value.field "name" call, Value.field "input" call with
      | some (.str tool), some (.dict value) => some (tool, value)
      | _, _ => none
    | _ => none
  | _ => none

/-- `decide` of the hook: its result, nothing when it raises, and the state as it leaves it. -/
def hookDecide (f : Fixture) (state : HookState) (payload : Value) :
    Option (Bool × String) × HookState :=
  match toolCall payload with
  | none => (some (false, "malformed"), state)
  | some (tool, value) =>
    let category := Category.of tool
    let state := { state with observed := count state.observed category }
    match hookGrant f state.progress tool value with
    | none => (none, state)
    | some none =>
      (some (false, "tool_outside_contract"),
        { state with denied := count state.denied category })
    | some (some (progress, reason)) =>
      (some (true, reason),
        { state with progress, approved := count state.approved category })

/-- What the hook reads from its standard input. -/
inductive Request where
  | tooLarge
  | unreadable
  | payload (value : Value)

/-- `main` of the hook, which holds the lock and can save its state. -/
def hookMain (f : Fixture) (state : HookState) : Request → (Bool × String) × HookState
  | .tooLarge => ((false, "hook_payload_too_large"), { state with errors := state.errors + 1 })
  | .unreadable => ((false, "hook_payload_invalid"), { state with errors := state.errors + 1 })
  | .payload value =>
    match hookDecide f state value with
    | (some verdict, state) => (verdict, state)
    | (none, state) => ((false, "hook_payload_invalid"), { state with errors := state.errors + 1 })

/-- The hook over a run. -/
def hook (f : Fixture) : Machine HookState Request (Bool × String) where
  init := {}
  step := hookMain f

/-! ## The loader of the hook's state -/

structure HookGate where
  denied : Counter
  errors : List String
  sequence : List Category
  phase : Phase
  readScopeComplete : Bool

def brokerRequestLimit : Nat := 32

def loadHookGate (f : Fixture) (state : HookState) : Option HookGate :=
  if 4 < state.progress.sequence.length ∨ .otherTool ∈ state.progress.sequence ∨
    2 < state.progress.readPaths.card ∨ 100 < state.errors then none
  else if ∃ c, brokerRequestLimit < state.observed c ∨ brokerRequestLimit < state.approved c ∨
    brokerRequestLimit < state.denied c then none
  else if ∃ c, state.observed c ≠ state.approved c + state.denied c then none
  else if ¬ state.progress.readPaths ⊆ f.paths then none
  else some {
    denied := state.denied
    errors := if state.errors = 0 then [] else ["hook_gate_error"]
    sequence := state.progress.sequence
    phase := state.progress.phase
    readScopeComplete := state.progress.readPaths = f.paths }

def HookGate.contractComplete (gate : HookGate) : Bool :=
  gate.phase = .complete && gate.readScopeComplete &&
    (1 ≤ gate.sequence.length - 2 && gate.sequence.length - 2 ≤ 2) &&
    finished gate.sequence && decide (∀ c, gate.denied c = 0) && gate.errors = []

/-! ## The approval broker -/

/-- What `_ApprovalBroker` decides by. -/
structure Broker where
  approved : Counter := fun _ => 0
  approvedReadPaths : Finset String := ∅

def Broker.contractComplete (f : Fixture) (b : Broker) : Bool :=
  b.approvedReadPaths = f.paths && b.approved .editor = 1 && b.approved .runCommands = 1

/-- The loop over `files` of `_read_decision`, which does not compare the two lines of a
range. -/
def brokerScan (f : Fixture) (observed : List String) : List Value → Except String (List String)
  | [] => .ok observed
  | .dict item :: rest =>
    if itemKeys item then
      match Value.field "path" item with
      | some (.str path) =>
        if path ∉ f.paths ∨ path ∈ observed then .error "path outside fixture"
        else if badBounds item then .error "invalid line range"
        else brokerScan f (observed ++ [path]) rest
      | _ => .error "path outside fixture"
    else .error "invalid read item"
  | _ :: _ => .error "invalid read item"

/-- The fields of an approval request. -/
def envelopeKeys : Finset String :=
  {"requestId", "sessionId", "createdAt", "toolCallId", "toolName", "input", "iteration",
    "agentId", "conversationId"}

namespace Broker

variable (f : Fixture) (b : Broker) (value : Entries)

/-- `_read_decision`: the paths read after it, or why the request is denied. -/
def readDecision : Except String (Finset String) :=
  if b.approved .editor ≠ 0 ∨ b.approved .runCommands ≠ 0 then
    .error "read requested out of order"
  else if keySet value = {"files"} then
    match Value.field "files" value with
    | some (.list files) =>
      if 1 ≤ files.length ∧ files.length ≤ 2 then do
        let observed ← brokerScan f [] files
        if 2 ≤ b.approved .readFiles then .error "read budget exhausted"
        else .ok (b.approvedReadPaths ∪ observed.toFinset)
      else .error "invalid read count"
    | _ => .error "invalid read contract"
  else .error "invalid read contract"

def editorDecision : Except String Unit :=
  if ¬ editKeys value then .error "invalid editor contract"
  else if 1 ≤ b.approved .editor then .error "edit budget exhausted"
  else if b.approvedReadPaths ≠ f.paths then .error "required reads are incomplete"
  else if ¬ isText f.source (Value.field "path" value) then
    .error "path outside editable fixture"
  else if ¬ (isNone (Value.field "insert_line" value) ∧ allowedEdit value) then
    .error "edit is not the exact fixture patch"
  else .ok ()

def commandDecision : Except String Unit :=
  if ¬ exactCommand value then .error "command outside allowlist"
  else if 1 ≤ b.approved .runCommands then .error "command budget exhausted"
  else if b.approved .editor ≠ 1 then .error "edit is incomplete"
  else .ok ()

/-- The decision on a tool request: the paths read after it and the reason, or why it is
denied. -/
def toolDecision (tool : String) : Except String (Finset String × String) :=
  match Category.of tool with
  | .readFiles => (·, "allowed disposable fixture read") <$> b.readDecision f value
  | .editor =>
    (fun _ => (b.approvedReadPaths, "allowed exact fixture patch")) <$> b.editorDecision f value
  | .runCommands =>
    (fun _ => (b.approvedReadPaths, "allowed deterministic test")) <$> b.commandDecision value
  | .otherTool => .error "tool outside canary contract"

end Broker

/-- `_ApprovalDecision`; no category stands for `malformed`. -/
structure ApprovalDecision where
  approved : Bool
  category : Option Category
  reason : String

/-- `_decide`, with what `_handle` keeps of the decision. -/
def Broker.decide (f : Fixture) (b : Broker) (request : Entries) : ApprovalDecision × Broker :=
  if keySet request = envelopeKeys then
    match Value.field "toolName" request, Value.field "input" request with
    | some (.str tool), some (.dict value) =>
      let category := Category.of tool
      match b.toolDecision f value tool with
      | .ok (approvedReadPaths, reason) =>
        (⟨true, category, reason⟩, { approved := count b.approved category, approvedReadPaths })
      | .error reason => (⟨false, category, reason⟩, b)
    | _, _ => (⟨false, none, "invalid tool request"⟩, b)
  else (⟨false, none, "invalid request envelope"⟩, b)

end LocalMoe.CodingCanary
