/-
  `mcp_client.py`: a stdio session, step by step.

  The server writes lines into a pipe, a thread puts them into a bounded queue, and a request
  polls the process and takes lines until one has its id.
-/
import LocalMoe.Contracts.Value
import LocalMoe.Contracts.VerifiedRouting

namespace LocalMoe.Mcp

open Contracts

/-! ## Lines -/

/-- What a line is to the client. -/
inductive Decoded where
  | blank
  /-- `JSONDecodeError` or `RecursionError`. -/
  | malformed
  /-- An integer with more digits than `int` takes: a plain `ValueError`. -/
  | tooManyDigits
  | json (value : Value)
  /-- Too long, or not UTF-8: the reader gives up. -/
  | unreadable

/-- A line, with its place among the lines that the server writes. -/
structure Line where
  number : Nat
  decoded : Decoded

/-- `message.get("id") == request_id`: numbers and truth values compare by value. -/
def idEquals (requestId : Nat) : Option Value → Bool
  | some (.int n) => n = requestId
  | some (.float x) => x = requestId
  | some (.bool b) => (if b then 1 else 0) = requestId
  | _ => false

/-- The line is taken for the answer to a request. -/
def Decoded.answers (requestId : Nat) : Decoded → Bool
  | .json (.dict message) => idEquals requestId (Value.field "id" message)
  | _ => false

/-- The line is a JSON-RPC response to a request. -/
def Decoded.IsResponse (requestId : Nat) : Decoded → Prop
  | .json (.dict message) => Value.field "id" message = some (.int requestId) ∧
      ((Value.field "result" message).isSome ∨ (Value.field "error" message).isSome)
  | _ => False

theorem answers_of_isResponse {requestId : Nat} {decoded : Decoded}
    (h : decoded.IsResponse requestId) : decoded.answers requestId = true := by
  unfold Decoded.IsResponse at h
  split at h
  · simp [Decoded.answers, h.1, idEquals]
  · exact h.elim

/-! ## Answers -/

/-- What a request raises. -/
inductive Failure where
  /-- `McpClientError`. -/
  | client (message : String)
  | other (name : String)
  deriving DecidableEq, Repr

inductive Method where
  | toolsList | toolsCall
  deriving DecidableEq, Repr

/-- `_parse_tool`, as far as it may refuse. -/
def toolRefused : Value → Option String
  | .dict raw =>
    match Value.field "name" raw with
    | none => some "MCP tools/list returned a tool without a name."
    | some (.str name) =>
      if strip name = "" then some "MCP tools/list returned a tool without a name." else none
    | some _ => none
  | _ => some "MCP tools/list returned a non-object tool."

/-- What a request makes of the message that it takes for its answer. -/
def finish (method : Method) (message : List (String × Value)) :
    Except Failure (List (String × Value)) :=
  match Value.field "error" message with
  | some _ => .error (.client "MCP request failed.")
  | none =>
    match Value.field "result" message, method with
    | none, _ => .ok []
    | some (.dict result), .toolsCall => .ok result
    | some (.dict result), .toolsList =>
      match Value.field "tools" result with
      | none => .ok result
      | some (.list tools) =>
        match tools.filterMap toolRefused with
        | [] => .ok result
        | refusal :: _ => .error (.client refusal)
      | some _ => .error (.client "MCP tools/list returned an invalid tools field.")
    | some _, _ => .error (.client "MCP method returned invalid result.")

/-- What is made of a line that is taken for the answer. -/
def Decoded.finish (method : Method) : Decoded → Except Failure (List (String × Value))
  | .json (.dict message) => Mcp.finish method message
  | _ => .error (.client "MCP request failed.")

/-! ## The session -/

def maxQueued : Nat := 64

/-- What the reader puts into the queue. -/
inductive Item where
  | line (line : Line)
  /-- The `McpClientError` of the reader. -/
  | failure

/-- How a request ends. -/
inductive Ending where
  /-- A line is taken for its answer. -/
  | answered (line : Line) (result : Except Failure (List (String × Value)))
  /-- It is not sent. -/
  | refused (failure : Failure)
  /-- No answer is read. -/
  | failed (failure : Failure)

/-- A request that has ended: its id, the lines that were written before it was sent and
before it ended, and how. -/
structure Entry where
  id : Nat
  since : Nat
  upto : Nat
  ending : Ending

/-- A request that waits for its answer. -/
structure Pending where
  id : Nat
  method : Method
  since : Nat
  /-- The process was polled, and the queue comes next. -/
  polled : Bool

/-- The session, the server and the reader between them. -/
structure State where
  active : Bool
  exited : Bool
  reading : Bool
  written : List Line
  pipe : List Line
  queue : List Item
  nextId : Nat
  pending : Option Pending
  log : List Entry

/-- What writing the request does. -/
inductive Sending where
  | done
  | brokenPipe
  /-- Any other exception: text that is no UTF-8, another error of the pipe. -/
  | raised (name : String)
  deriving DecidableEq, Repr

/-- What happens next. -/
inductive Event where
  | write (decoded : Decoded)
  | exit
  | read
  | call (method : Method) (positive : Bool) (sending : Sending)
  | poll
  | get
  | timeout

/-- A request ends without being sent. -/
def State.refuse (s : State) (failure : Failure) : State :=
  { s with
    nextId := s.nextId + 1
    log := s.log ++ [⟨s.nextId, s.written.length, s.written.length, .refused failure⟩] }

/-- Reading the answer fails, and the session is closed. -/
def State.fail (s : State) (pending : Pending) (failure : Failure) : State :=
  { s with
    active := false
    pending := none
    log := s.log ++ [⟨pending.id, pending.since, s.written.length, .failed failure⟩] }

def State.answer (s : State) (pending : Pending) (line : Line) : State :=
  { s with
    pending := none
    log := s.log ++ [⟨pending.id, pending.since, s.written.length,
      .answered line (line.decoded.finish pending.method)⟩] }

/-- The thread that reads the pipe: where the queue is full it gives up. -/
def State.readLine (s : State) : State :=
  match s.pipe with
  | [] => s
  | line :: rest =>
    if maxQueued ≤ s.queue.length then { s with reading := false }
    else
      match line.decoded with
      | .unreadable =>
        { s with reading := false, pipe := rest, queue := s.queue ++ [.failure] }
      | _ => { s with pipe := rest, queue := s.queue ++ [.line line] }

/-- `_read_response`, one turn: what comes out of the queue. -/
def State.take (s : State) (pending : Pending) : State :=
  let again : State := { s with pending := some { pending with polled := false } }
  match s.queue with
  | [] => again
  | .failure :: rest =>
    State.fail { s with queue := rest } pending
      (.client "MCP response exceeded the bounded message size.")
  | .line line :: rest =>
    let s : State := { s with queue := rest }
    match line.decoded with
    | .tooManyDigits => s.fail pending (.other "ValueError")
    | decoded =>
      if decoded.answers pending.id then s.answer pending line
      else { s with pending := some { pending with polled := false } }

def State.step (s : State) : Event → State
  | .write decoded =>
    if s.exited then s
    else
      let line : Line := ⟨s.written.length, decoded⟩
      { s with written := s.written ++ [line], pipe := s.pipe ++ [line] }
  | .exit => { s with exited := true }
  | .read => if s.reading then s.readLine else s
  | .call method positive sending =>
    match s.pending with
    | some _ => s
    | none =>
      if !s.active || s.exited then s.refuse (.client "MCP session is not active.")
      else if !positive then s.refuse (.client "MCP request timeout must be positive.")
      else
        match sending with
        | .brokenPipe => s.refuse (.client "MCP process closed stdin.")
        | .raised name => s.refuse (.other name)
        | .done =>
          { s with
            nextId := s.nextId + 1
            pending := some ⟨s.nextId, method, s.written.length, false⟩ }
  | .poll =>
    match s.pending with
    | none => s
    | some pending =>
      if pending.polled then s
      else if s.exited then s.fail pending (.client "MCP process exited.")
      else { s with pending := some { pending with polled := true } }
  | .get =>
    match s.pending with
    | none => s
    | some pending => if pending.polled then s.take pending else s
  | .timeout =>
    match s.pending with
    | none => s
    | some pending => s.fail pending (.client "Timed out waiting for MCP response.")

/-- A session that has started: the next request has an id of its own. -/
def State.started (nextId : Nat) : State := ⟨true, false, true, [], [], [], nextId, none, []⟩

end LocalMoe.Mcp
