/-
  `memory.py`: the records of a memory store and its operations.

  The bounds of a record's validity are kept as they are read, whatever they are; they are
  compared only later.
-/
import LocalMoe.Data.Chat

namespace LocalMoe.Data

open Contracts

structure MemoryRecord where
  id : String
  scope : String
  kind : String
  text : String
  metadata : List (String × Value)
  createdAt : String
  validFrom : Value
  validUntil : Value

section Parse

variable (py : Builtins)

def parseRecord : Value → Except Raised MemoryRecord
  | .dict raw => do
    let id ← require "id" raw >>= py.str
    let scope ← require "scope" raw >>= py.str
    let kind ← require "kind" raw >>= py.str
    let text ← require "text" raw >>= py.str
    let metadata ← py.dict (fieldOr "metadata" (.dict []) raw)
    let createdAt ← require "created_at" raw >>= py.str
    pure ⟨id, scope, kind, text, metadata, createdAt, fieldOr "valid_from" .none raw,
      fieldOr "valid_until" .none raw⟩
  | _ => .error (.valueError "Memory record must be a JSON object.")

end Parse

def recordPayload (record : MemoryRecord) : Value :=
  .dict [("id", .str record.id), ("scope", .str record.scope), ("kind", .str record.kind),
    ("text", .str record.text), ("metadata", .dict record.metadata),
    ("created_at", .str record.createdAt), ("valid_from", record.validFrom),
    ("valid_until", record.validUntil)]

theorem parseRecord_payload (py : Builtins) (record : MemoryRecord) :
    parseRecord py (recordPayload record) = .ok record := by
  simp [parseRecord, recordPayload, fieldOr, require, Value.field, py.str_text, py.dict_entries,
    bind, Except.bind, pure, Except.pure]

/-! ## Validity -/

def truthy : Value → Bool
  | .none => false
  | .bool b => b
  | .int n => n ≠ 0
  | .float x => x ≠ 0
  | .nonFinite => true
  | .str text => text ≠ ""
  | .list items => !items.isEmpty
  | .dict entries => !entries.isEmpty

/-- A comparison of a value with a text, where the value is true: `value and value < text`. -/
def comparesTo (value : Value) (compare : String → Bool) : Except Raised Bool :=
  if truthy value then
    match value with
    | .str text => .ok (compare text)
    | _ => .error (.typeError "'>' not supported between instances")
  else .ok false

def isPendingAt (record : MemoryRecord) (now : String) : Except Raised Bool :=
  comparesTo record.validFrom fun text => decide (now < text)

def isExpiredAt (record : MemoryRecord) (now : String) : Except Raised Bool :=
  comparesTo record.validUntil fun text => decide (text ≤ now)

def isValidAt (record : MemoryRecord) (now : String) : Except Raised Bool := do
  if ← isPendingAt record now then pure false
  else pure !(← isExpiredAt record now)

/-- A bound that can be compared. -/
def Comparable (value : Value) : Prop := truthy value = true → ∃ text, value = .str text

theorem comparesTo_ok_iff {value : Value} {compare : String → Bool} :
    (∃ answer, comparesTo value compare = .ok answer) ↔ Comparable value := by
  unfold comparesTo Comparable
  split
  · next htrue =>
    constructor
    · rintro ⟨answer, h⟩ -
      split at h
      · next text => exact ⟨text, rfl⟩
      · cases h
    · intro h
      obtain ⟨text, rfl⟩ := h htrue
      exact ⟨_, rfl⟩
  · next hfalse => exact ⟨fun _ h => absurd h hfalse, fun _ => ⟨_, rfl⟩⟩

/-! ## Operations -/

/-- The elements that a test which may raise takes, and the others. -/
def partitionM {α : Type} (test : α → Except Raised Bool) :
    List α → Except Raised (List α × List α)
  | [] => .ok ([], [])
  | item :: rest => do
    let taken ← test item
    let (yes, no) ← partitionM test rest
    pure (if taken then (item :: yes, no) else (yes, item :: no))

/-- `search`: `score` is the share of the query's terms in a record's text. -/
def search (score : MemoryRecord → ℚ) (scope : Option String) (limit : Nat) (now : String)
    (records : List MemoryRecord) : Except Raised (List MemoryRecord) := do
  let inScope := records.filter fun record => scope.all (· = record.scope)
  let (valid, _) ← partitionM (isValidAt · now) inScope
  let scored := valid.filter fun record => decide (0 < score record)
  pure ((scored.mergeSort fun a b =>
    if score a = score b then
      if a.createdAt = b.createdAt then decide (a.id ≤ b.id) else decide (a.createdAt ≤ b.createdAt)
    else decide (score b ≤ score a)).take limit)

/-- `maintenance_report`: how many records are active, pending and expired. -/
def maintenanceReport (now : String) (records : List MemoryRecord) :
    Except Raised (Nat × Nat × Nat) := do
  let (active, _) ← partitionM (isValidAt · now) records
  let (pending, _) ← partitionM (isPendingAt · now) records
  let (expired, _) ← partitionM (isExpiredAt · now) records
  pure (active.length, pending.length, expired.length)

/-- The records without those that a test takes, unless it takes none. -/
def removing (test : MemoryRecord → Except Raised Bool) (records : List MemoryRecord) :
    Except Raised (Option (List MemoryRecord)) := do
  let (removed, kept) ← partitionM test records
  pure (if removed.isEmpty then none else some kept)

def pruneExpired (now : String) : List MemoryRecord → Except Raised (Option (List MemoryRecord)) :=
  removing (isExpiredAt · now)

def forgetRecord (recordId : String) (records : List MemoryRecord) :
    Except Raised (Option (List MemoryRecord)) :=
  if strip recordId = "" then .error (.valueError "record_id is required.")
  else removing (fun record => .ok (decide (record.id = strip recordId))) records

/-- `str(record.metadata.get("document_id", ""))`. -/
def documentId (py : Builtins) (record : MemoryRecord) : Except Raised String :=
  py.str (fieldOr "document_id" (.str "") record.metadata)

def forgetDocument (py : Builtins) (target : String) (records : List MemoryRecord) :
    Except Raised (Option (List MemoryRecord)) :=
  if strip target = "" then .error (.valueError "document_id is required.")
  else removing (fun record => (documentId py record).map fun id => decide (id = strip target))
    records

/-! ## Tests that may raise -/

section Partition

variable {α : Type} {test : α → Except Raised Bool}

theorem partitionM_ok_iff {items : List α} :
    (∃ parts, partitionM test items = .ok parts) ↔ ∀ item ∈ items, ∃ taken, test item = .ok taken := by
  induction items with
  | nil => simp [partitionM]
  | cons item rest ih =>
    rw [List.forall_mem_cons, ← ih, partitionM]
    rcases htest : test item with e | taken
    · simp [bind, Except.bind]
    · rcases hrest : partitionM test rest with e | ⟨yes, no⟩
      · simp [bind, Except.bind]
      · simp [bind, Except.bind, pure, Except.pure]

theorem partitionM_append (first second : List α) : partitionM test (first ++ second) = (do
      let (yes, no) ← partitionM test first let (yes', no') ← partitionM test second
      pure (yes ++ yes', no ++ no')) := by
  induction first with
  | nil =>
    rw [List.nil_append]
    rcases partitionM test second with e | ⟨yes, no⟩
    · rfl
    · rfl
  | cons item rest ih =>
    rw [List.cons_append, partitionM, partitionM, ih]
    rcases test item with e | taken
    · rfl
    · rcases partitionM test rest with e | ⟨yes, no⟩
      · rfl
      · rcases partitionM test second with e | ⟨yes', no'⟩
        · rfl
        · cases taken <;> rfl

end Partition

end LocalMoe.Data
