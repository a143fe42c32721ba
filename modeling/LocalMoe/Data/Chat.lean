/-
  `chat_store.py`: the sessions of a chat store and its operations.

  Each operation is what it makes of the sessions that it reads. The ids and the times that it
  draws are parameters.
-/
import LocalMoe.Contracts.Value
import LocalMoe.Contracts.VerifiedRouting

namespace LocalMoe.Data

open Contracts

/-- The exceptions that the stores raise. -/
inductive Raised where
  | valueError (message : String)
  | keyError (key : String)
  | typeError (message : String)
  /-- Any other class. -/
  | other (name : String)
  deriving DecidableEq, Repr

/-- What the stores use of the language: `str` and `dict` of a JSON value, and what the encoder
says of an item (it may be nested too deeply, or hold too many digits). -/
structure Builtins where
  str : Value → Except Raised String
  dict : Value → Except Raised (List (String × Value))
  encode : Value → Except Raised Unit
  str_text : ∀ text, str (.str text) = .ok text
  dict_entries : ∀ entries, dict (.dict entries) = .ok entries

/-! ## Text -/

/-- `str.split`: the words between spaces. -/
def split (text : String) : List String :=
  ((text.toList.splitOnP isSpace).filter (· ≠ [])).map String.ofList

/-- `" ".join(text.strip().split())`. -/
def oneLine (text : String) : String := " ".intercalate (split (strip text))

def rstrip (text : String) : String :=
  String.ofList ((text.toList.reverse.dropWhile isSpace).reverse)

def titleFromPrompt (prompt : String) : String :=
  let title := oneLine prompt
  if title = "" then "New chat"
  else if title.length ≤ 56 then title
  else rstrip (title.take 53).toString ++ "..."

/-! ## Sessions -/

structure ChatMessage where
  id : String
  role : String
  content : String
  createdAt : String
  metadata : List (String × Value)

structure ChatSession where
  id : String
  title : String
  createdAt : String
  updatedAt : String
  summary : String
  summaryUpdatedAt : Option String
  messages : List ChatMessage

/-- The entry under a key of a mapping, or `KeyError`. -/
def require (key : String) (entries : List (String × Value)) : Except Raised Value :=
  match Value.field key entries with
  | some value => .ok value
  | none => .error (.keyError key)

section Parse

variable (py : Builtins)

def parseMessage : Value → Except Raised ChatMessage
  | .dict raw => do
    let id ← require "id" raw >>= py.str
    let role ← require "role" raw >>= py.str
    let content ← require "content" raw >>= py.str
    let createdAt ← require "created_at" raw >>= py.str
    pure ⟨id, role, content, createdAt,
      match Value.field "meta" raw with
      | some (.dict metadata) => metadata
      | _ => []⟩
  | _ => .error (.valueError "Chat message must be a JSON object.")

def fieldOr (key : String) (default : Value) (raw : List (String × Value)) : Value :=
  (Value.field key raw).getD default

/-- `str(value) if value is not None else None`. -/
def optionalStr : Option Value → Except Raised (Option String)
  | none | some .none => .ok none
  | some value => (py.str value).map some

def parseSession : Value → Except Raised ChatSession
  | .dict raw =>
    match fieldOr "messages" (.list []) raw with
    | .list messagesRaw => do
      let id ← require "id" raw >>= py.str
      let title ← py.str (fieldOr "title" (.str "New chat") raw)
      let createdAt ← require "created_at" raw >>= py.str
      let updatedAt ← require "updated_at" raw >>= py.str
      let summary ← py.str (fieldOr "summary" (.str "") raw)
      let summaryUpdatedAt ← optionalStr py (Value.field "summary_updated_at" raw)
      let messages ← messagesRaw.mapM (parseMessage py)
      pure ⟨id, title, createdAt, updatedAt, summary, summaryUpdatedAt, messages⟩
    | _ => .error (.valueError "Chat session messages must be a JSON array.")
  | _ => .error (.valueError "Chat session must be a JSON object.")

end Parse

def optionalText : Option String → Value
  | none => .none
  | some text => .str text

/-- The messages in `chat_session_payload`. -/
def messagePayload (message : ChatMessage) : Value :=
  .dict [("id", .str message.id), ("role", .str message.role), ("content", .str message.content),
    ("created_at", .str message.createdAt), ("meta", .dict message.metadata)]

def sessionPayload (session : ChatSession) : Value :=
  .dict [("id", .str session.id), ("title", .str session.title),
    ("created_at", .str session.createdAt), ("updated_at", .str session.updatedAt),
    ("summary", .str session.summary),
    ("summary_updated_at", optionalText session.summaryUpdatedAt),
    ("message_count", .int session.messages.length),
    ("messages", .list (session.messages.map messagePayload))]

theorem parseMessage_payload (py : Builtins) (message : ChatMessage) :
    parseMessage py (messagePayload message) = .ok message := by
  simp [parseMessage, messagePayload, require, Value.field, py.str_text, bind, Except.bind, pure,
    Except.pure]

theorem optionalStr_text (py : Builtins) (text : Option String) :
    optionalStr py (some (optionalText text)) = .ok text := by
  cases text with
  | none => rfl
  | some text => simp [optionalText, optionalStr, py.str_text, Except.map]

theorem parseSession_payload (py : Builtins) (session : ChatSession) :
    parseSession py (sessionPayload session) = .ok session := by
  have hmessages : (session.messages.map messagePayload).mapM (parseMessage py) =
      .ok session.messages := by
    induction session.messages with
    | nil => rfl
    | cons message rest ih =>
      rw [List.map_cons, List.mapM_cons, parseMessage_payload, ih]
      rfl
  simp [parseSession, sessionPayload, fieldOr, require, Value.field, py.str_text, bind,
    Except.bind, pure, Except.pure, hmessages, optionalStr_text]

/-! ## Restoring -/

/-- `{item.id: index}`: the last index of a key. -/
def byId {α : Type} (key : α → String) (items : List α) (id : String) : Option Nat :=
  (items.reverse.findIdx? fun item => key item = id).map fun i => items.length - 1 - i

/-- The loop over the imported items: one whose id is there takes its place, another one is
appended. -/
def mergeInto {α : Type} (key : α → String) (existing imported : List α) : List α :=
  imported.foldl (fun items item =>
    match byId key existing (key item) with
    | some i => items.set i item
    | none => items ++ [item]) existing

/-- The first id that comes a second time. -/
def firstDuplicate : List String → List String → Option String
  | _, [] => none
  | seen, id :: rest => if id ∈ seen then some id else firstDuplicate (id :: seen) rest

/-- The items that a restore imports, before it reads the file. -/
def importItems {α : Type} (key : α → String) (parse : Value → Except Raised α)
    (what noun mode : String) (raw : Value) : Except Raised (List α) :=
  if mode ≠ "merge" ∧ mode ≠ "replace" then
    .error (.valueError "mode must be merge or replace.")
  else
    match raw with
    | .list items => do
      let imported ← items.mapM parse
      match firstDuplicate [] (imported.map key) with
      | some id => .error (.valueError s!"Duplicate {noun} id in bundle: {id}")
      | none => pure imported
    | _ => .error (.valueError s!"{what} must be a JSON array.")

/-! ## Operations -/

def findSessionIndex (sessions : List ChatSession) (sessionId : String) :
    Except Raised (Option Nat) :=
  if sessionId = "" then .ok none
  else
    match sessions.findIdx? fun session => session.id = sessionId with
    | some i => .ok (some i)
    | none => .error (.keyError sessionId)

/-- `sessions[index] = …`: the index may be `None`. -/
def amend (sessions : List ChatSession) (sessionId : String) (f : ChatSession → ChatSession) :
    Except Raised (List ChatSession) := do
  match ← findSessionIndex sessions sessionId with
  | some i => pure (sessions.modify i f)
  | none => .error (.typeError "list indices must be integers or slices, not NoneType")

/-- `create_session`, with the session that it draws. -/
def createSession (fresh : ChatSession) (sessions : List ChatSession) : List ChatSession :=
  sessions ++ [fresh]

/-- `append_exchange`; `freshId` is for a session that is new. -/
def appendExchange (freshId now : String) (sessionId : Option String)
    (user assistant : ChatMessage) (sessions : List ChatSession) :
    Except Raised (List ChatSession) :=
  let fresh : ChatSession :=
    ⟨freshId, titleFromPrompt user.content, now, now, "", none, [user, assistant]⟩
  match sessionId with
  | none | some "" => .ok (sessions ++ [fresh])
  | some sessionId => amend sessions sessionId fun current =>
    { current with
      title := if current.title ≠ "New chat" then current.title
        else titleFromPrompt user.content
      updatedAt := now
      messages := current.messages ++ [user, assistant] }

def renameSession (now sessionId title : String) (sessions : List ChatSession) :
    Except Raised (List ChatSession) :=
  if oneLine title = "" then .error (.valueError "Chat title is required.")
  else amend sessions sessionId fun current =>
    { current with title := oneLine title, updatedAt := now }

/-- `update_summary`; `message` is the system message that it adds. -/
def updateSummary (now sessionId summary : String) (message : ChatMessage)
    (sessions : List ChatSession) : Except Raised (List ChatSession) :=
  if strip summary = "" then .error (.valueError "Chat summary is required.")
  else amend sessions sessionId fun current =>
    { current with
      updatedAt := now
      summary := strip summary
      summaryUpdatedAt := some now
      messages := current.messages ++ [message] }

/-- `delete_session`: the sessions that it writes, unless there are none to delete. -/
def deleteSession (sessionId : String) (sessions : List ChatSession) :
    Option (List ChatSession) :=
  let kept := sessions.filter fun session => session.id ≠ sessionId
  if kept.length = sessions.length then none else some kept

end LocalMoe.Data
