/-
  `data_bundle.py`: both stores, exported and restored.

  Each store is restored as a whole: nothing is written before every item is parsed.
-/
import LocalMoe.Data.Memory

namespace LocalMoe.Data

open Contracts

/-- What reading a store gives; a file that is not there has no items. -/
abbrev Stored (α : Type) := Except Raised (List α)

structure Stores where
  chat : Stored ChatSession
  memory : Stored MemoryRecord

/-- `ChatRestoreReport` and `MemoryRestoreReport`. -/
structure RestoreReport where
  mode : String
  importedCount : Nat
  updatedCount : Nat
  skippedCount : Nat
  total : Nat
  deriving DecidableEq, Repr

/-- A store: how its items are parsed, written and told apart. -/
structure Kind (α : Type) where
  key : α → String
  parse : Builtins → Value → Except Raised α
  payload : α → Value
  what : String
  noun : String

def chatKind : Kind ChatSession :=
  ⟨ChatSession.id, parseSession, sessionPayload, "sessions", "chat session"⟩

def memoryKind : Kind MemoryRecord :=
  ⟨MemoryRecord.id, parseRecord, recordPayload, "records", "memory record"⟩

section Restore

variable {α : Type} (kind : Kind α) (py : Builtins)

/-- The items that a restore reads. -/
def existingItems (mode : String) (store : Stored α) : Stored α :=
  if mode = "replace" then .ok [] else store

/-- `restore_sessions` and `restore_records`. -/
def restoreStore (raw : Value) (mode : String) (store : Stored α) :
    Stored α × Except Raised RestoreReport :=
  match importItems kind.key (kind.parse py) kind.what kind.noun mode raw with
  | .error e => (store, .error e)
  | .ok imported =>
    match existingItems mode store with
    | .error e => (store, .error e)
    | .ok existing =>
      let items := mergeInto kind.key existing imported
      let updated := imported.countP fun item => (byId kind.key existing (kind.key item)).isSome
      match items.forM (py.encode ∘ kind.payload) with
      | .error e => (store, .error e)
      | .ok _ => (.ok items,
          .ok ⟨mode, imported.length - updated, updated, 0, items.length⟩)

end Restore

def schemaVersion : String := "mymoe.local-data.v1"

def buildLocalDataBundle (now : String) (sessions : List ChatSession)
    (records : List MemoryRecord) : Value :=
  .dict [("schema_version", .str schemaVersion), ("created_at", .str now),
    ("privacy", .dict [("contains_user_content", .bool true),
      ("contains_chat_transcripts", .bool true), ("contains_memory_records", .bool true),
      ("contains_environment", .bool false), ("contains_model_logs", .bool false)]),
    ("counts", .dict [("chat_sessions", .int sessions.length),
      ("chat_messages", .int ((sessions.map fun session => session.messages.length).sum : Nat)),
      ("memory_records", .int records.length)]),
    ("data", .dict [("chats", .dict [("sessions", .list (sessions.map sessionPayload))]),
      ("memory", .dict [("records", .list (records.map recordPayload))])])]

/-- A mapping, or `ValueError`. -/
def mapping (message : String) : Value → Except Raised (List (String × Value))
  | .dict entries => .ok entries
  | _ => .error (.valueError message)

/-- What `restore_local_data_bundle` checks first: the raw sessions and records. -/
def bundleParts (mode : String) (bundle : Value) : Except Raised (Value × Value) := do
  let entries ← mapping "bundle must be a JSON object." bundle
  match Value.field "schema_version" entries with
  | some (.str version) =>
    if version ≠ schemaVersion then
      .error (.valueError s!"Unsupported local data bundle schema: {version}")
    else if mode ≠ "merge" ∧ mode ≠ "replace" then
      .error (.valueError "mode must be merge or replace.")
    else do
      let data ← mapping "bundle.data must be a JSON object." (fieldOr "data" (.dict []) entries)
      let chats := fieldOr "chats" (.dict []) data
      let memory := fieldOr "memory" (.dict []) data
      let chats ← mapping "bundle.data.chats must be a JSON object." chats
      let memory ← mapping "bundle.data.memory must be a JSON object." memory
      pure (fieldOr "sessions" (.list []) chats, fieldOr "records" (.list []) memory)
  | _ => .error (.valueError "Unsupported local data bundle schema")

def restoreLocalDataBundle (py : Builtins) (mode : String) (bundle : Value) (stores : Stores) :
    Stores × Except Raised (RestoreReport × RestoreReport) :=
  match bundleParts mode bundle with
  | .error e => (stores, .error e)
  | .ok (rawSessions, rawRecords) =>
    match restoreStore chatKind py rawSessions mode stores.chat with
    | (chat, .error e) => ({ stores with chat := chat }, .error e)
    | (chat, .ok chatReport) =>
      match restoreStore memoryKind py rawRecords mode stores.memory with
      | (memory, .error e) => (⟨chat, memory⟩, .error e)
      | (memory, .ok memoryReport) => (⟨chat, memory⟩, .ok (chatReport, memoryReport))

/-! ## One store -/

section Store

variable {α : Type} {kind : Kind α} {py : Builtins} {raw : Value} {mode : String}
  {store : Stored α}

/-- What a restore writes. -/
def written (kind : Kind α) (py : Builtins) (raw : Value) (mode : String) (store : Stored α) :
    Except Raised (List α) := do
  let imported ← importItems kind.key (kind.parse py) kind.what kind.noun mode raw
  let existing ← existingItems mode store
  let items := mergeInto kind.key existing imported
  items.forM (py.encode ∘ kind.payload)
  pure items

theorem restoreStore_cases (kind : Kind α) (py : Builtins) (raw : Value) (mode : String)
    (store : Stored α) : (∃ e, written kind py raw mode store = .error e ∧
      restoreStore kind py raw mode store = (store, .error e)) ∨
    ∃ items report, written kind py raw mode store = .ok items ∧
      restoreStore kind py raw mode store = (.ok items, .ok report) := by
  unfold written restoreStore
  rcases importItems kind.key (kind.parse py) kind.what kind.noun mode raw with e | imported
  · exact .inl ⟨e, rfl, rfl⟩
  · rcases existingItems mode store with e | existing
    · exact .inl ⟨e, rfl, rfl⟩
    · dsimp only [bind, Except.bind]
      rcases (mergeInto kind.key existing imported).forM (py.encode ∘ kind.payload) with e | _
      · exact .inl ⟨e, rfl, rfl⟩
      · exact .inr ⟨_, _, rfl, rfl⟩

theorem firstDuplicate_none (seen ids : List String) (h : ids.Nodup)
    (hseen : ∀ id ∈ ids, id ∉ seen) : firstDuplicate seen ids = none := by
  induction ids generalizing seen with
  | nil => rfl
  | cons id rest ih =>
    obtain ⟨hnew, hrest⟩ := List.nodup_cons.mp h
    rw [firstDuplicate, if_neg (hseen id (List.mem_cons_self ..))]
    refine ih _ hrest fun other hother hmem => ?_
    rcases List.mem_cons.mp hmem with rfl | hmem
    · exact hnew hother
    · exact hseen other (List.mem_cons_of_mem _ hother) hmem

theorem mapM_payload (hparse : ∀ item, kind.parse py (kind.payload item) = .ok item)
    (items : List α) : (items.map kind.payload).mapM (kind.parse py) = .ok items := by
  induction items with
  | nil => rfl
  | cons item rest ih =>
    rw [List.map_cons, List.mapM_cons, hparse, ih]
    rfl

theorem importItems_payload (hparse : ∀ item, kind.parse py (kind.payload item) = .ok item)
    (hmode : mode = "merge" ∨ mode = "replace") {items : List α}
    (hdistinct : (items.map kind.key).Nodup) :
    importItems kind.key (kind.parse py) kind.what kind.noun mode
      (.list (items.map kind.payload)) = .ok items := by
  have hnot : ¬(mode ≠ "merge" ∧ mode ≠ "replace") := fun ⟨hmerge, hreplace⟩ =>
    hmode.elim hmerge hreplace
  simp only [importItems, if_neg hnot, mapM_payload hparse, bind, Except.bind,
    firstDuplicate_none [] _ hdistinct fun _ _ => List.not_mem_nil]
  rfl

theorem mergeInto_nil (key : α → String) (imported : List α) :
    mergeInto key [] imported = imported := by
  simp [mergeInto, byId, ← List.flatMap_def]

theorem forM_encode {items : List α} (h : ∀ item ∈ items, py.encode (kind.payload item) = .ok ()) :
    items.forM (py.encode ∘ kind.payload) = .ok () := by
  induction items with
  | nil => rfl
  | cons item rest ih =>
    obtain ⟨hitem, hrest⟩ := List.forall_mem_cons.mp h
    rw [List.forM, Function.comp_apply, hitem]
    exact ih hrest

variable {key : α → String}

theorem byId_spec {items : List α} {id : String} {i : Nat} (h : byId key items id = some i) :
    ∃ item, items[i]? = some item ∧ key item = id := by
  unfold byId at h
  obtain ⟨k, hk, rfl⟩ := Option.map_eq_some_iff.mp h
  obtain ⟨hlt, hkey, -⟩ := List.findIdx?_eq_some_iff_getElem.mp hk
  rw [List.length_reverse] at hlt
  refine ⟨items.reverse[k], ?_, by simpa using hkey⟩
  rw [List.getElem_reverse, List.getElem?_eq_getElem]

theorem mergeInto_getElem? {existing imported : List α} {p : Nat} {item : α}
    (hp : existing[p]? = some item) (hnew : key item ∉ imported.map key) :
    (mergeInto key existing imported)[p]? = some item := by
  unfold mergeInto
  refine List.foldlRecOn (motive := fun out => out[p]? = some item) imported _ hp
    fun out hout other hother => ?_
  split
  · next i hi =>
    obtain ⟨found, hfound, hkey⟩ := byId_spec hi
    have hpi : i ≠ p := fun hip => by
      rw [hip, hp] at hfound
      cases hfound
      exact hnew (hkey ▸ List.mem_map_of_mem hother)
    rw [List.getElem?_set_ne hpi]
    exact hout
  · have hlt : p < out.length := (List.getElem?_eq_some_iff.mp hout).1
    rw [List.getElem?_append_left hlt]
    exact hout

theorem mem_mergeInto {existing imported : List α} {item : α}
    (h : item ∈ mergeInto key existing imported) : item ∈ existing ∨ item ∈ imported := by
  revert h
  revert item
  unfold mergeInto
  refine List.foldlRecOn (motive := fun out => ∀ {x}, x ∈ out → x ∈ existing ∨ x ∈ imported)
    imported _ .inl fun out hout other hother x hx => ?_
  split at hx
  · rcases List.mem_or_eq_of_mem_set hx with hx | rfl
    · exact hout hx
    · exact .inr hother
  · rcases List.mem_append.mp hx with hx | hx
    · exact hout hx
    · rw [List.mem_singleton.mp hx]
      exact .inr hother

end Store

end LocalMoe.Data
