/-
  When restoring a bundle is all or nothing, and loses nothing.
-/
import LocalMoe.Data.Bundle

namespace LocalMoe.Data

open Contracts

/-! ## What is promised -/

/-- What the later operations make of the items succeeds.  The sessions are named by their
ids, the records by ids and documents that are not blank. -/
structure Usable (py : Builtins) (sessions : List ChatSession) (records : List MemoryRecord) :
    Prop where
  append : ∀ session ∈ sessions, ∀ freshId now user assistant,
    ∃ out, appendExchange freshId now (some session.id) user assistant sessions = .ok out
  rename : ∀ session ∈ sessions, ∀ now title, oneLine title ≠ "" →
    ∃ out, renameSession now session.id title sessions = .ok out
  summary : ∀ session ∈ sessions, ∀ now text message, strip text ≠ "" →
    ∃ out, updateSummary now session.id text message sessions = .ok out
  search : ∀ score scope limit now, ∃ found, search score scope limit now records = .ok found
  maintenance : ∀ now, ∃ report, maintenanceReport now records = .ok report
  prune : ∀ now, ∃ out, pruneExpired now records = .ok out
  forgetRecord : ∀ id, strip id ≠ "" → ∃ out, forgetRecord id records = .ok out
  forgetDocument : ∀ id, strip id ≠ "" → ∃ out, forgetDocument py id records = .ok out

/-- Where a restore raises, the stores are as before; where it returns, they can be used. -/
structure Restores (py : Builtins) (mode : String) (bundle : Value) (stores : Stores) : Prop where
  unchanged : ∀ e, (restoreLocalDataBundle py mode bundle stores).2 = .error e →
    (restoreLocalDataBundle py mode bundle stores).1 = stores
  usable : ∀ reports, (restoreLocalDataBundle py mode bundle stores).2 = .ok reports →
    ∃ sessions records,
      (restoreLocalDataBundle py mode bundle stores).1 = ⟨.ok sessions, .ok records⟩ ∧
        Usable py sessions records

/-- Items that a store has written: no id comes twice, and each was encoded. -/
structure WrittenBy {α : Type} (kind : Kind α) (py : Builtins) (items : List α) : Prop where
  distinct : (items.map kind.key).Nodup
  encoded : ∀ item ∈ items, py.encode (kind.payload item) = .ok ()

/-- What was exported comes back: it replaces any stores, and merging it into a store keeps
each item that it does not name. -/
structure RoundTrip (py : Builtins) (now : String) (sessions : List ChatSession)
    (records : List MemoryRecord) : Prop where
  replace : ∀ stores, ∃ reports,
    restoreLocalDataBundle py "replace" (buildLocalDataBundle now sessions records) stores =
      (⟨.ok sessions, .ok records⟩, .ok reports)
  merge : ∀ sessions' records', WrittenBy chatKind py sessions' →
    WrittenBy memoryKind py records' →
    ∃ chat memory reports,
      restoreLocalDataBundle py "merge" (buildLocalDataBundle now sessions records)
        ⟨.ok sessions', .ok records'⟩ = (⟨.ok chat, .ok memory⟩, .ok reports) ∧
      (∀ (p : Nat) session, sessions'[p]? = some session → session.id ∉ sessions.map ChatSession.id →
        chat[p]? = some session) ∧
      ∀ (p : Nat) record, records'[p]? = some record → record.id ∉ records.map MemoryRecord.id →
        memory[p]? = some record

/-! ## When it holds -/

def SessionFine (session : ChatSession) : Prop := session.id ≠ ""

/-- A record whose bounds compare with a time, and whose document has an id. -/
structure RecordFine (py : Builtins) (record : MemoryRecord) : Prop where
  validFrom : Comparable record.validFrom
  validUntil : Comparable record.validUntil
  documentId : ∃ id, documentId py record = .ok id

/-- The condition: where the chats are accepted, so are the records, and every item is fine;
or the chats stay as they are. -/
def Harmless (py : Builtins) (mode : String) (bundle : Value) (stores : Stores) : Prop :=
  match bundleParts mode bundle with
  | .error _ => True
  | .ok (rawSessions, rawRecords) =>
    match written chatKind py rawSessions mode stores.chat with
    | .error _ => True
    | .ok sessions =>
      match written memoryKind py rawRecords mode stores.memory with
      | .error _ => stores.chat = .ok sessions
      | .ok records => (∀ session ∈ sessions, SessionFine session) ∧
          ∀ record ∈ records, RecordFine py record

/-! ## Using what was restored -/

section Use

variable {py : Builtins} {sessions : List ChatSession} {records : List MemoryRecord}

theorem amend_ok {session : ChatSession} (hmem : session ∈ sessions) (hid : session.id ≠ "")
    (f : ChatSession → ChatSession) : ∃ out, amend sessions session.id f = .ok out := by
  rcases hfound : sessions.findIdx? fun other => other.id = session.id with _ | i
  · exact absurd (List.findIdx?_eq_none_iff.mp hfound session hmem) (by simp)
  · refine ⟨sessions.modify i f, ?_⟩
    simp only [amend, findSessionIndex, if_neg hid, hfound]
    rfl

theorem amend_empty (f : ChatSession → ChatSession) :
    amend sessions "" f = .error (.typeError "list indices must be integers or slices, not NoneType") :=
  rfl

theorem removing_ok_iff {test : MemoryRecord → Except Raised Bool} :
    (∃ out, removing test records = .ok out) ↔ ∀ record ∈ records, ∃ taken, test record = .ok taken := by
  rw [← partitionM_ok_iff, removing]
  rcases partitionM test records with e | parts
  · simp [bind, Except.bind]
  · simp [bind, Except.bind, pure, Except.pure]

theorem isValidAt_ok {record : MemoryRecord} (h : RecordFine py record) (now : String) :
    ∃ valid, isValidAt record now = .ok valid := by
  obtain ⟨pending, hpending⟩ : ∃ pending, isPendingAt record now = .ok pending :=
    comparesTo_ok_iff.mpr h.validFrom
  obtain ⟨expired, hexpired⟩ : ∃ expired, isExpiredAt record now = .ok expired :=
    comparesTo_ok_iff.mpr h.validUntil
  cases pending with
  | true => exact ⟨false, by simp [isValidAt, hpending, bind, Except.bind, pure, Except.pure]⟩
  | false =>
    exact ⟨!expired, by simp [isValidAt, hpending, hexpired, bind, Except.bind, pure, Except.pure]⟩

theorem usable_iff : Usable py sessions records ↔
    (∀ session ∈ sessions, SessionFine session) ∧ ∀ record ∈ records, RecordFine py record := by
  constructor
  · intro h
    refine ⟨fun session hsession hempty => ?_, fun record hrecord => ⟨?_, ?_, ?_⟩⟩
    · obtain ⟨out, hout⟩ := h.summary session hsession "" "x" ⟨"", "", "", "", []⟩ (by decide)
      rw [updateSummary, if_neg (by decide), hempty, amend_empty] at hout
      cases hout
    · obtain ⟨report, hreport⟩ := h.maintenance ""
      rw [maintenanceReport] at hreport
      rcases hactive : partitionM (isValidAt · "") records with e | parts
      · simp [hactive, bind, Except.bind] at hreport
      · rcases hpending : partitionM (isPendingAt · "") records with e | parts'
        · simp [hactive, hpending, bind, Except.bind] at hreport
        · exact comparesTo_ok_iff.mp (partitionM_ok_iff.mp ⟨_, hpending⟩ record hrecord)
    · exact comparesTo_ok_iff.mp (removing_ok_iff.mp (h.prune "") record hrecord)
    · have hforget := h.forgetDocument "x" (by decide)
      rw [forgetDocument, if_neg (by decide)] at hforget
      obtain ⟨taken, htaken⟩ := removing_ok_iff.mp hforget record hrecord
      rcases hid : documentId py record with e | id
      · simp [hid, Except.map] at htaken
      · exact ⟨id, rfl⟩
  · rintro ⟨hsessions, hrecords⟩
    have hvalid : ∀ (kept : List MemoryRecord), (∀ record ∈ kept, record ∈ records) → ∀ now,
        ∃ parts, partitionM (isValidAt · now) kept = .ok parts := fun kept hkept now =>
      partitionM_ok_iff.mpr fun record hrecord => isValidAt_ok (hrecords record (hkept record hrecord)) now
    refine ⟨fun session hsession freshId now user assistant => ?_,
      fun session hsession now title htitle => ?_, fun session hsession now text message htext => ?_,
      fun score scope limit now => ?_, fun now => ?_, fun now => ?_, fun id hid => ?_,
      fun id hid => ?_⟩
    · have hid := hsessions session hsession
      unfold appendExchange
      split
      · exact ⟨_, rfl⟩
      · exact ⟨_, rfl⟩
      · next heq =>
        cases heq
        exact amend_ok hsession hid _
    · rw [renameSession, if_neg htitle]
      exact amend_ok hsession (hsessions session hsession) _
    · rw [updateSummary, if_neg htext]
      exact amend_ok hsession (hsessions session hsession) _
    · obtain ⟨parts, hparts⟩ := hvalid (records.filter fun record => scope.all (· = record.scope))
        (fun record hrecord => (List.mem_filter.mp hrecord).1) now
      simp only [search, hparts, bind, Except.bind]
      exact ⟨_, rfl⟩
    · obtain ⟨active, hactive⟩ := hvalid records (fun _ h => h) now
      obtain ⟨pending, hpending⟩ : ∃ parts, partitionM (isPendingAt · now) records = .ok parts :=
        partitionM_ok_iff.mpr fun record hrecord =>
          comparesTo_ok_iff.mpr (hrecords record hrecord).validFrom
      obtain ⟨expired, hexpired⟩ : ∃ parts, partitionM (isExpiredAt · now) records = .ok parts :=
        partitionM_ok_iff.mpr fun record hrecord =>
          comparesTo_ok_iff.mpr (hrecords record hrecord).validUntil
      simp only [maintenanceReport, hactive, hpending, hexpired, bind, Except.bind]
      exact ⟨_, rfl⟩
    · exact removing_ok_iff.mpr fun record hrecord =>
        comparesTo_ok_iff.mpr (hrecords record hrecord).validUntil
    · rw [forgetRecord, if_neg hid]
      exact removing_ok_iff.mpr fun record _ => ⟨_, rfl⟩
    · rw [forgetDocument, if_neg hid]
      refine removing_ok_iff.mpr fun record hrecord => ?_
      obtain ⟨text, htext⟩ := (hrecords record hrecord).documentId
      exact ⟨_, by rw [htext]; rfl⟩

end Use

/-! ## Restoring -/

theorem restores_iff (py : Builtins) (mode : String) (bundle : Value) (stores : Stores) :
    Restores py mode bundle stores ↔ Harmless py mode bundle stores := by
  unfold Harmless
  have hrun : restoreLocalDataBundle py mode bundle stores =
      restoreLocalDataBundle py mode bundle stores := rfl
  conv_rhs at hrun => unfold restoreLocalDataBundle
  rcases hparts : bundleParts mode bundle with e | ⟨rawSessions, rawRecords⟩
  · simp only [hparts] at hrun
    exact iff_of_true ⟨fun _ _ => by rw [hrun], fun _ h => by rw [hrun] at h; cases h⟩ trivial
  · simp only [hparts] at hrun ⊢
    rcases restoreStore_cases chatKind py rawSessions mode stores.chat with
      ⟨e, hwritten, hchat⟩ | ⟨sessions, report, hwritten, hchat⟩
    · simp only [hchat, hwritten] at hrun ⊢
      exact iff_of_true ⟨fun _ _ => by rw [hrun], fun _ h => by rw [hrun] at h; cases h⟩ trivial
    · rcases restoreStore_cases memoryKind py rawRecords mode stores.memory with
        ⟨e, hrecords, hmemory⟩ | ⟨records, report', hrecords, hmemory⟩
      · simp only [hchat, hwritten, hmemory, hrecords] at hrun ⊢
        constructor
        · intro h
          have hsame := h.unchanged e (by rw [hrun])
          rw [hrun] at hsame
          exact (congrArg Stores.chat hsame).symm
        · intro hsame
          refine ⟨fun _ _ => ?_, fun _ h => by rw [hrun] at h; cases h⟩
          rw [hrun, ← hsame]
      · simp only [hchat, hwritten, hmemory, hrecords] at hrun ⊢
        rw [← usable_iff]
        constructor
        · intro h
          obtain ⟨sessions', records', hstores, husable⟩ := h.usable _ (by rw [hrun])
          rw [hrun] at hstores
          cases hstores
          exact husable
        · intro husable
          refine ⟨fun _ h => ?_, fun _ _ => ⟨sessions, records, by rw [hrun], husable⟩⟩
          rw [hrun] at h
          cases h

section RoundTrip

variable {α : Type} {kind : Kind α} {py : Builtins}

theorem restoreStore_replace (hparse : ∀ item, kind.parse py (kind.payload item) = .ok item)
    {items : List α} (hitems : WrittenBy kind py items) (store : Stored α) :
    ∃ report, restoreStore kind py (.list (items.map kind.payload)) "replace" store =
      (.ok items, .ok report) := by
  simp only [restoreStore, importItems_payload hparse (.inr rfl) hitems.distinct, existingItems,
    if_true, mergeInto_nil, forM_encode hitems.encoded]
  exact ⟨_, rfl⟩

theorem restoreStore_merge (hparse : ∀ item, kind.parse py (kind.payload item) = .ok item)
    {items existing : List α} (hitems : WrittenBy kind py items)
    (hexisting : WrittenBy kind py existing) :
    ∃ report, restoreStore kind py (.list (items.map kind.payload)) "merge" (.ok existing) =
      (.ok (mergeInto kind.key existing items), .ok report) := by
  have hencode : (mergeInto kind.key existing items).forM (py.encode ∘ kind.payload) = .ok () :=
    forM_encode fun item hitem => (mem_mergeInto hitem).elim (hexisting.encoded item)
      (hitems.encoded item)
  simp only [restoreStore, importItems_payload hparse (.inl rfl) hitems.distinct, existingItems,
    if_neg (show ¬"merge" = "replace" by decide), hencode]
  exact ⟨_, rfl⟩

theorem bundleParts_build {mode : String} (hmode : mode = "merge" ∨ mode = "replace") (now : String)
    (sessions : List ChatSession) (records : List MemoryRecord) :
    bundleParts mode (buildLocalDataBundle now sessions records) =
      .ok (.list (sessions.map sessionPayload), .list (records.map recordPayload)) := by
  rcases hmode with rfl | rfl <;> rfl

theorem roundTrip {now : String} {sessions : List ChatSession} {records : List MemoryRecord}
    (hsessions : WrittenBy chatKind py sessions) (hrecords : WrittenBy memoryKind py records) :
    RoundTrip py now sessions records := by
  have hparseChat := parseSession_payload py
  have hparseMemory := parseRecord_payload py
  constructor
  · intro stores
    obtain ⟨report, hchat⟩ := restoreStore_replace hparseChat hsessions stores.chat
    obtain ⟨report', hmemory⟩ := restoreStore_replace hparseMemory hrecords stores.memory
    refine ⟨(report, report'), ?_⟩
    rw [restoreLocalDataBundle, bundleParts_build (.inr rfl)]
    dsimp only
    rw [show restoreStore chatKind py (.list (sessions.map sessionPayload)) "replace" stores.chat =
      _ from hchat]
    dsimp only
    rw [show restoreStore memoryKind py (.list (records.map recordPayload)) "replace"
      stores.memory = _ from hmemory]
  · intro sessions' records' hsessions' hrecords'
    obtain ⟨report, hchat⟩ := restoreStore_merge hparseChat hsessions hsessions'
    obtain ⟨report', hmemory⟩ := restoreStore_merge hparseMemory hrecords hrecords'
    refine ⟨_, _, (report, report'), ?_, fun p session hp hnew => mergeInto_getElem? hp hnew,
      fun p record hp hnew => mergeInto_getElem? hp hnew⟩
    rw [restoreLocalDataBundle, bundleParts_build (.inl rfl)]
    dsimp only
    rw [show restoreStore chatKind py (.list (sessions.map sessionPayload)) "merge" (.ok sessions') =
      _ from hchat]
    dsimp only
    rw [show restoreStore memoryKind py (.list (records.map recordPayload)) "merge"
      (.ok records') = _ from hmemory]
    rfl

end RoundTrip

/-- Restoring is all or nothing, and leaves stores that can be used, exactly where the
condition holds; what was exported comes back in any case. -/
theorem restore_iff_harmless (py : Builtins) (mode : String) (bundle : Value) (stores : Stores) :
    (Restores py mode bundle stores ∧
      ∀ now sessions records, WrittenBy chatKind py sessions → WrittenBy memoryKind py records →
        RoundTrip py now sessions records) ↔ Harmless py mode bundle stores :=
  ⟨fun h => (restores_iff py mode bundle stores).mp h.1,
    fun h => ⟨(restores_iff py mode bundle stores).mpr h, fun _ _ _ => roundTrip⟩⟩

/-! ## A bundle that is half restored -/

def sampleBuiltins : Builtins where
  str
    | .str text => .ok text
    | .int n => .ok (toString n)
    | _ => .error (.other "not shown")
  dict
    | .dict entries => .ok entries
    | _ => .error (.typeError "object is not iterable")
  encode := fun _ => .ok ()
  str_text := fun _ => rfl
  dict_entries := fun _ => rfl

def sampleSession : ChatSession := ⟨"s", "Title", "2026-01-01", "2026-01-01", "", none, []⟩

def sampleBundle : Value :=
  .dict [("schema_version", .str schemaVersion),
    ("data", .dict [("chats", .dict [("sessions", .list [sessionPayload sampleSession])]),
      ("memory", .dict [("records", .list [.none])])])]

/-- The restore raises, and the chats are written. -/
theorem half_restored :
    restoreLocalDataBundle sampleBuiltins "merge" sampleBundle ⟨.ok [], .ok []⟩ =
      (⟨.ok [sampleSession], .ok []⟩, .error (.valueError "Memory record must be a JSON object.")) ∧
    ¬Restores sampleBuiltins "merge" sampleBundle ⟨.ok [], .ok []⟩ := by
  have hrun : restoreLocalDataBundle sampleBuiltins "merge" sampleBundle ⟨.ok [], .ok []⟩ =
      (⟨.ok [sampleSession], .ok []⟩,
        .error (.valueError "Memory record must be a JSON object.")) := rfl
  refine ⟨hrun, fun h => ?_⟩
  have hsame := h.unchanged _ (by rw [hrun])
  rw [hrun] at hsame
  simp at hsame

end LocalMoe.Data
