/-
  The stores, used by several objects at once.
-/
import LocalMoe.Foundation.SharedFile
import LocalMoe.Data.Restore

namespace LocalMoe.Data

open Contracts Foundation.SharedFile

/-! ## The operations, as file steps -/

/-- An operation of a `FileChatStore`. -/
inductive ChatOperation where
  | create (fresh : ChatSession)
  | appendExchange (freshId now : String) (sessionId : Option String) (user assistant : ChatMessage)
  | rename (now sessionId title : String)
  | updateSummary (now sessionId summary : String) (message : ChatMessage)
  | delete (sessionId : String)
  | restore (raw : Value) (mode : String)

/-- An operation of a `FileMemoryStore`.  What is added is a record whose bounds are texts
and whose document has an id; a document is ingested record by record. -/
inductive MemoryOperation (py : Builtins) where
  | add (record : MemoryRecord) (fine : RecordFine py record)
  | ingest (first : MemoryRecord) (rest : List MemoryRecord)
      (fine : ∀ record ∈ first :: rest, RecordFine py record)
  | prune (now : String)
  | forgetRecord (recordId : String)
  | forgetDocument (documentId : String)
  | restore (raw : Value) (mode : String)

/-- New items, or an exception. -/
def writing {α : Type} : Except Raised (List α) → Decision α Raised
  | .ok items => .write items
  | .error e => .raise e

/-- New items, unless there is nothing to change, or an exception. -/
def writingSome {α : Type} : Except Raised (Option (List α)) → Decision α Raised
  | .ok (some items) => .write items
  | .ok none => .keep
  | .error e => .raise e

/-- A restore.  What is in the file was encoded before, so only what is imported can be
refused by the encoder; in `replace` mode the file is not read. -/
def restoring {α : Type} {good : α → Prop} (kind : Kind α) (py : Builtins) (raw : Value)
    (mode : String) : Operation α Raised good :=
  match (importItems kind.key (kind.parse py) kind.what kind.noun mode raw >>= fun imported =>
      imported.forM (py.encode ∘ kind.payload) >>= fun _ => .ok imported) with
  | .error e => .rewrite (fun _ => .raise e) fun _ _ _ _ => rfl
  | .ok imported =>
    if mode = "replace" then .overwrite (mergeInto kind.key [] imported)
    else .rewrite (fun items => .write (mergeInto kind.key items imported))
      fun _ _ _ h => absurd rfl (h _)

/-- The sessions are only ever rewritten, so nothing is ever added at the end. -/
def rewriting (decide : List ChatSession → Decision ChatSession Raised) :
    Operation ChatSession Raised fun _ => False :=
  .rewrite decide fun lines added hadded _ => by
    rw [List.eq_nil_iff_forall_not_mem.mpr hadded, List.append_nil]

def ChatOperation.steps (py : Builtins) :
    ChatOperation → Operation ChatSession Raised fun _ => False
  | .create fresh => rewriting fun sessions => .write (createSession fresh sessions)
  | .appendExchange freshId now sessionId user assistant =>
    rewriting fun sessions =>
      writing (Data.appendExchange freshId now sessionId user assistant sessions)
  | .rename now sessionId title =>
    rewriting fun sessions => writing (renameSession now sessionId title sessions)
  | .updateSummary now sessionId summary message =>
    rewriting fun sessions => writing (Data.updateSummary now sessionId summary message sessions)
  | .delete sessionId => rewriting fun sessions => writingSome (.ok (deleteSession sessionId sessions))
  | .restore raw mode => restoring chatKind py raw mode

section Stable

variable {py : Builtins}

theorem removing_stable {test : MemoryRecord → Except Raised Bool} {records added : List MemoryRecord}
    (hadded : ∀ record ∈ added, ∃ taken, test record = .ok taken)
    (hnone : ∀ new, writingSome (removing test (records ++ added)) ≠ .write new) :
    writingSome (removing test records) = writingSome (removing test (records ++ added)) := by
  obtain ⟨⟨yes', no'⟩, hparts⟩ := partitionM_ok_iff.mpr hadded
  unfold removing at hnone ⊢
  rw [partitionM_append] at hnone ⊢
  rcases hrecords : partitionM test records with e | ⟨yes, no⟩
  · rfl
  · simp only [hrecords, hparts, bind, Except.bind, pure, Except.pure] at hnone ⊢
    rcases yes with _ | ⟨first, rest⟩
    · rcases yes' with _ | ⟨first', rest'⟩
      · rfl
      · exact absurd rfl (hnone _)
    · exact absurd rfl (hnone _)

end Stable

def removal (py : Builtins) (test : MemoryRecord → Except Raised Bool)
    (htest : ∀ record, RecordFine py record → ∃ taken, test record = .ok taken) :
    Operation MemoryRecord Raised (RecordFine py) :=
  .rewrite (fun records => writingSome (removing test records)) fun _ _ hadded hnone =>
    removing_stable (fun record hrecord => htest record (hadded record hrecord)) hnone

/-- An operation that is refused before it reads the file. -/
def refused (py : Builtins) (e : Raised) : Operation MemoryRecord Raised (RecordFine py) :=
  .rewrite (fun _ => .raise e) fun _ _ _ _ => rfl

def MemoryOperation.steps {py : Builtins} :
    MemoryOperation py → Operation MemoryRecord Raised (RecordFine py)
  | .add record fine => .append record [] (by simpa using fine)
  | .ingest first rest fine => .append first rest fine
  | .prune now => removal py (isExpiredAt · now) fun _ h => comparesTo_ok_iff.mpr h.validUntil
  | .forgetRecord recordId =>
    if strip recordId = "" then refused py (.valueError "record_id is required.")
    else removal py (fun record => .ok (decide (record.id = strip recordId))) fun _ _ => ⟨_, rfl⟩
  | .forgetDocument target =>
    if strip target = "" then refused py (.valueError "document_id is required.")
    else removal py (fun record => (documentId py record).map fun id => decide (id = strip target))
      fun _ h => by
        obtain ⟨id, hid⟩ := h.documentId
        exact ⟨_, by rw [hid]; rfl⟩
  | .restore raw mode => restoring memoryKind py raw mode

/-! ## Runs -/

/-- Where no operation changes a store's file while another one on the same file is on its
way, both files are explained by a serial order of the operations that have ended: each ended
as it does in that order, none for want of its temporary file. -/
theorem stores_serializable (py : Builtins) (chat : Nat → ChatOperation)
    (memory : Nat → MemoryOperation py) (chatOwner memoryOwner : Nat → Nat)
    (chatFile : Option (List ChatSession)) (memoryFile : Option (List MemoryRecord)) :
    (∀ s, Reached (fun i => (chat i).steps py) chatOwner (Undisturbed fun i => (chat i).steps py)
        chatFile s → Serializable (fun i => (chat i).steps py) (chatFile.getD []) s) ∧
    ∀ s, Reached (fun i => (memory i).steps) memoryOwner (Undisturbed fun i => (memory i).steps)
        memoryFile s → Serializable (fun i => (memory i).steps) (memoryFile.getD []) s :=
  ⟨fun _ => serializable, fun _ => serializable⟩

/-! ## Two appends at once -/

def sampleAppends (i : Nat) : ChatOperation :=
  .appendExchange (toString i) "2026-01-01" none ⟨"u", "user", "Hello", "2026-01-01", []⟩
    ⟨"a", "assistant", "Hi", "2026-01-01", []⟩

def sampleSteps (i : Nat) : Operation ChatSession Raised fun _ => False :=
  (sampleAppends i).steps sampleBuiltins

theorem length_serial_sampleSteps (order : List Nat) :
    (serial sampleSteps [] order).length = order.length := by
  suffices h : ∀ lines, (serial sampleSteps lines order).length = lines.length + order.length by
    simpa using h []
  induction order with
  | nil => exact fun _ => rfl
  | cons i rest ih =>
    intro lines
    have hstep : serial sampleSteps lines (i :: rest) =
        serial sampleSteps (apply (sampleSteps i) lines).1 rest := rfl
    have hlength : (apply (sampleSteps i) lines).1.length = lines.length + 1 := by
      simp [sampleSteps, sampleAppends, ChatOperation.steps, rewriting, apply, writing,
        appendExchange]
    rw [hstep, ih, hlength, List.length_cons]
    omega

/-- Two objects read the empty store, and the exchange of the first is lost; or both write the
temporary file, and the second finds none. -/
theorem exchange_lost : (∃ s, Reached sampleSteps id (fun _ _ => True) none s ∧
      s.phase 0 = .ended .returned ∧ s.phase 1 = .ended .returned ∧
      ¬Serializable sampleSteps [] s) ∧
    ∃ s, Reached sampleSteps id (fun _ _ => True) none s ∧ s.phase 1 = .ended .noTemporary := by
  have hstep : ∀ {s : State ChatSession Raised} (i : Nat),
      Reached sampleSteps id (fun _ _ => True) none s → (∀ outcome, s.phase i ≠ .ended outcome) →
      Reached sampleSteps id (fun _ _ => True) none (advance sampleSteps s i) :=
    fun i hs hopen => .step hs ⟨hopen, fun _ j hj howner => absurd howner hj⟩ trivial
  have hread := hstep 1 (hstep 0 .start (by nofun)) (by nofun)
  constructor
  · refine ⟨_, hstep 1 (hstep 1 (hstep 0 (hstep 0 hread (by nofun)) (by nofun)) (by nofun))
      (by nofun), rfl, rfl, ?_⟩
    rintro ⟨order, hexplains, hlines⟩
    have hzero : 0 ∈ order := (hexplains.ended 0).mpr ⟨.returned, rfl⟩
    have hone : 1 ∈ order := (hexplains.ended 1).mpr ⟨.returned, rfl⟩
    have hlength : order.length = 1 := by
      rw [← length_serial_sampleSteps order, ← hlines fun i => by
        rcases i with _ | _ | i <;> exact id]
      rfl
    obtain ⟨only, rfl⟩ := List.length_eq_one_iff.mp hlength
    rw [List.mem_singleton] at hzero hone
    exact absurd (hzero.trans hone.symm) (by decide)
  · exact ⟨_, hstep 1 (hstep 0 (hstep 1 (hstep 0 hread (by nofun)) (by nofun)) (by nofun))
      (by nofun), rfl⟩

def sampleRecord : MemoryRecord := ⟨"r", "default", "fact", "text", [], "2026-01-01", .none, .none⟩

def sampleAdds (_ : Nat) : MemoryOperation sampleBuiltins :=
  .add sampleRecord ⟨by simp [Comparable, truthy, sampleRecord],
    by simp [Comparable, truthy, sampleRecord], ⟨"", rfl⟩⟩

theorem stores_serializable_sample : (∃ s, Reached sampleSteps id (Undisturbed sampleSteps) none s ∧
      s.phase 0 = .ended .returned ∧ Serializable sampleSteps [] s) ∧
    ∃ s, Reached (fun i => (sampleAdds i).steps) id (Undisturbed fun i => (sampleAdds i).steps)
        none s ∧
      s.phase 0 = .ended .returned ∧ Serializable (fun i => (sampleAdds i).steps) [] s := by
  obtain ⟨hchat, hmemory⟩ := stores_serializable sampleBuiltins sampleAppends sampleAdds id id none
    none
  have hread : Reached sampleSteps id (Undisturbed sampleSteps) none (advance sampleSteps (start none) 0) :=
    .step .start ⟨by nofun, fun _ j hj howner => absurd howner hj⟩ (by rintro ⟨_, _, _, h⟩; cases h)
  have hwritten : Reached sampleSteps id (Undisturbed sampleSteps) none
      (advance sampleSteps (advance sampleSteps (start none) 0) 0) :=
    .step hread ⟨by nofun, fun _ j hj howner => absurd howner hj⟩ (by rintro ⟨⟩)
  have hrenamed : Reached sampleSteps id (Undisturbed sampleSteps) none
      (advance sampleSteps (advance sampleSteps (advance sampleSteps (start none) 0) 0) 0) :=
    .step hwritten ⟨by nofun, fun _ j hj howner => absurd howner hj⟩ fun _ j hj => by
      rcases j with _ | j
      · exact absurd rfl hj
      · exact id
  have hadded : Reached (fun i => (sampleAdds i).steps) id
      (Undisturbed fun i => (sampleAdds i).steps) none
      (advance (fun i => (sampleAdds i).steps) (start none) 0) :=
    .step .start ⟨by nofun, fun _ j hj howner => absurd howner hj⟩ fun _ _ _ => id
  exact ⟨⟨_, hrenamed, rfl, hchat _ hrenamed⟩, _, hadded, rfl, hmemory _ hadded⟩

end LocalMoe.Data
