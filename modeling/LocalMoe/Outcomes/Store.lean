/-
  `OutcomeStore`: the append-only log of verified outcomes.

  The file is a list of lines, each the canonical text of a record, and every operation reads
  all of it under the lock.
-/
import LocalMoe.Outcomes.Record

namespace LocalMoe.Outcomes

open Foundation Contracts

/-! ## The file and its operations -/

def maxOutcomeRecordBytes : Nat := 2 * 1024 * 1024

def maxOutcomeStoreBytes : Nat := 128 * 1024 * 1024

def maxOutcomeRecords : Nat := 100000

section Store

variable {N : Numbers} (S : Stdlib) (C : Sections N)

/-- `VerifiedOutcomeRecord`: what its constructor made of some arguments. -/
structure VerifiedOutcomeRecord where
  fields : RecordArgs N
  constructed : ∃ args, construct S C args = .ok fields

/-- The lines of the file.  The store wrote every one of them, so a line is the canonical
text of the object that `json.loads` reads in it. -/
abbrev Lines (N : Numbers) := List (RecordArgs N)

/-- `canonical_json(record.payload()) + "\n"`, in bytes; the text is ASCII. -/
def encodedSize (record : RecordArgs N) : Nat := record.line.length + 1

/-- `st_size` of the file. -/
def storeSize (lines : Lines N) : Nat := (lines.map encodedSize).sum

/-- One line of `_read_unlocked`. -/
def readLine (number : Nat) (seen : List String) (raw : RecordArgs N) :
    Except ContractError (RecordArgs N) := do
  check (raw.line ≠ [])
    (⟨"Outcome store contains an empty line at " ++ toString number ++ "."⟩ : ContractError)
  check (raw.line.length ≤ maxOutcomeRecordBytes)
    (⟨"Outcome store record exceeds its size limit at line " ++ toString number ++ "."⟩ :
      ContractError)
  let record ← (construct S C raw).mapError fun failure =>
    ⟨"Outcome store is corrupt at line " ++ toString number ++ ": " ++ failure.message⟩
  check (record.recordId ∉ seen)
    (⟨"Outcome store contains duplicate record_id at line " ++ toString number ++ "."⟩ :
      ContractError)
  check (raw.line = record.line)
    (⟨"Outcome store is not canonical at line " ++ toString number ++ "."⟩ : ContractError)
  pure record

/-- The loop of `_read_unlocked`. -/
def readLines (number : Nat) (seen : List String) :
    Lines N → Except ContractError (List (RecordArgs N))
  | [] => pure []
  | raw :: rest => do
    let record ← readLine S C number seen raw
    let records ← readLines (number + 1) (record.recordId :: seen) rest
    pure (record :: records)

/-- `_read_unlocked`, and so `list_records`. -/
def readUnlocked (lines : Lines N) : Except ContractError (List (RecordArgs N)) := do
  check (storeSize lines ≤ maxOutcomeStoreBytes)
    (⟨"outcome store exceeds its size limit."⟩ : ContractError)
  check (lines.length ≤ maxOutcomeRecords)
    (⟨"Outcome store contains too many records."⟩ : ContractError)
  readLines S C 1 [] lines

/-- `append`, with the lines it leaves. -/
def append (lines : Lines N) (record : RecordArgs N) :
    Except ContractError (Bool × Lines N) := do
  let existing ← readUnlocked S C lines
  if record.recordId ∈ existing.map RecordArgs.recordId then
    pure (false, lines)
  else do
    check (encodedSize record ≤ maxOutcomeRecordBytes)
      (⟨"Outcome record exceeds its size limit."⟩ : ContractError)
    check (storeSize lines + encodedSize record ≤ maxOutcomeStoreBytes)
      (⟨"Outcome store exceeds its size limit."⟩ : ContractError)
    pure (true, lines ++ [record])

/-- The log under appends of any of the store objects on its path; the objects themselves
keep nothing between two calls. -/
def outcomeLog : Machine (Lines N) (VerifiedOutcomeRecord S C) (Except ContractError Bool) where
  init := []
  step lines record :=
    match append S C lines record.fields with
    | .ok (answer, lines') => (.ok answer, lines')
    | .error failure => (.error failure, lines)

/-! ## What the log is for -/

/-- The records of the appends that returned, in their order. -/
def appended : Lines N → List (VerifiedOutcomeRecord S C) → List (RecordArgs N)
  | _, [] => []
  | lines, record :: rest =>
    match (outcomeLog S C).output lines record with
    | .ok _ => record.fields :: appended ((outcomeLog S C).next lines record) rest
    | .error _ => appended ((outcomeLog S C).next lines record) rest

/-- A record after others: kept unless its id is there already. -/
def keepFirst (kept : List (RecordArgs N)) (record : RecordArgs N) : List (RecordArgs N) :=
  if record.recordId ∈ kept.map RecordArgs.recordId then kept else kept ++ [record]

/-- The first record of each id, in the order of the first appends. -/
def distinct (records : List (RecordArgs N)) : List (RecordArgs N) := records.foldl keepFirst []

/-- Every append of the run keeps the log: after it returns, the log is read as the distinct
records appended so far; it answers `False` exactly when the id was there; and when it
raises nothing has changed. -/
def Keeps (run : List (VerifiedOutcomeRecord S C)) : Prop :=
  ∀ before record after, run = before ++ record :: after →
    ((∀ answer,
        (outcomeLog S C).output ((outcomeLog S C).exec [] before) record = .ok answer →
        readUnlocked S C ((outcomeLog S C).exec [] (before ++ [record])) =
          .ok (distinct (appended S C [] (before ++ [record])))) ∧
      ((outcomeLog S C).output ((outcomeLog S C).exec [] before) record = .ok false ↔
        record.fields.recordId ∈
          (distinct (appended S C [] before)).map RecordArgs.recordId) ∧
      ∀ failure,
        (outcomeLog S C).output ((outcomeLog S C).exec [] before) record = .error failure →
        (outcomeLog S C).exec [] (before ++ [record]) = (outcomeLog S C).exec [] before)

/-- The append does not put a new record behind as many as the reader takes: the log is not
full, or the id is there already, or the record is too large to be written. -/
def WithinCount (lines : Lines N) (record : VerifiedOutcomeRecord S C) : Prop :=
  lines.length < maxOutcomeRecords ∨
    record.fields.recordId ∈ lines.map RecordArgs.recordId ∨
    maxOutcomeRecordBytes < encodedSize record.fields ∨
    maxOutcomeStoreBytes < storeSize lines + encodedSize record.fields

end Store

/-! ## Reading back -/

section Reading

variable {N : Numbers} {S : Stdlib} {C : Sections N}

theorem VerifiedOutcomeRecord.again (record : VerifiedOutcomeRecord S C) :
    construct S C record.fields = .ok record.fields := by
  obtain ⟨args, hargs⟩ := record.constructed
  exact construct_again hargs

theorem line_ne_nil (record : RecordArgs N) : record.line ≠ [] := by
  unfold RecordArgs.line RecordArgs.text
  simp only [ne_eq, List.append_eq_nil_iff, List.cons_ne_nil, false_and, not_false_eq_true,
    and_false]

/-- What a log holds that the store has written and can read. -/
structure Readable (S : Stdlib) (C : Sections N) (lines : Lines N) : Prop where
  constructed : ∀ raw ∈ lines, construct S C raw = .ok raw
  unique : (lines.map RecordArgs.recordId).Nodup
  lineSize : ∀ raw ∈ lines, encodedSize raw ≤ maxOutcomeRecordBytes
  size : storeSize lines ≤ maxOutcomeStoreBytes
  count : lines.length ≤ maxOutcomeRecords

theorem readLine_eq_ok {number : Nat} {seen : List String} {raw : RecordArgs N}
    (hraw : construct S C raw = .ok raw) (hsize : encodedSize raw ≤ maxOutcomeRecordBytes)
    (hseen : raw.recordId ∉ seen) : readLine S C number seen raw = .ok raw := by
  refine check_bind_eq_ok.mpr ⟨line_ne_nil raw, ?_⟩
  refine check_bind_eq_ok.mpr ⟨Nat.le_of_succ_le hsize, ?_⟩
  refine bind_eq_ok.mpr ⟨raw, mapError_eq_ok.mpr hraw, ?_⟩
  exact check_bind_eq_ok.mpr ⟨hseen, check_bind_eq_ok.mpr ⟨rfl, rfl⟩⟩

theorem readLines_eq_ok {lines : Lines N} {number : Nat} {seen : List String}
    (hlines : ∀ raw ∈ lines, construct S C raw = .ok raw)
    (hsize : ∀ raw ∈ lines, encodedSize raw ≤ maxOutcomeRecordBytes)
    (hunique : (lines.map RecordArgs.recordId).Nodup) (hseen : ∀ raw ∈ lines, raw.recordId ∉ seen) :
    readLines S C number seen lines = .ok lines := by
  induction lines generalizing number seen with
  | nil => rfl
  | cons raw rest ih =>
    obtain ⟨hfirst, hrest⟩ := List.nodup_cons.mp hunique
    have hline : readLine S C number seen raw = .ok raw :=
      readLine_eq_ok (hlines raw List.mem_cons_self) (hsize raw List.mem_cons_self)
        (hseen raw List.mem_cons_self)
    refine bind_eq_ok.mpr ⟨raw, hline, bind_eq_ok.mpr ⟨rest, ?_, rfl⟩⟩
    apply ih (fun other hother => hlines other (List.mem_cons_of_mem _ hother))
      (fun other hother => hsize other (List.mem_cons_of_mem _ hother)) hrest
    intro other hother hmem
    rcases List.mem_cons.mp hmem with heq | hmem
    · exact hfirst (heq ▸ List.mem_map_of_mem hother)
    · exact hseen other (List.mem_cons_of_mem _ hother) hmem

theorem Readable.read {lines : Lines N} (h : Readable S C lines) :
    readUnlocked S C lines = .ok lines := by
  refine check_bind_eq_ok.mpr ⟨h.size, check_bind_eq_ok.mpr ⟨h.count, ?_⟩⟩
  exact readLines_eq_ok h.constructed h.lineSize h.unique fun _ _ hmem => by cases hmem

theorem readable_nil : Readable S C ([] : Lines N) where
  constructed := fun _ hraw => by cases hraw
  unique := List.nodup_nil
  lineSize := fun _ hraw => by cases hraw
  size := Nat.zero_le maxOutcomeStoreBytes
  count := by
    rw [List.length_nil]
    exact Nat.zero_le _

theorem count_of_read {lines records : Lines N} (h : readUnlocked S C lines = .ok records) :
    lines.length ≤ maxOutcomeRecords := by
  obtain ⟨_, h⟩ := check_bind_eq_ok.mp h
  exact (check_bind_eq_ok.mp h).1

theorem storeSize_append (lines : Lines N) (record : RecordArgs N) :
    storeSize (lines ++ [record]) = storeSize lines + encodedSize record := by
  unfold storeSize
  rw [List.map_append, List.sum_append, List.map_singleton, List.sum_singleton]

/-! ## One append -/

def TooLarge (lines : Lines N) (record : RecordArgs N) : Prop :=
  maxOutcomeRecordBytes < encodedSize record ∨
    maxOutcomeStoreBytes < storeSize lines + encodedSize record

theorem append_known {lines : Lines N} {record : RecordArgs N} (h : Readable S C lines)
    (hknown : record.recordId ∈ lines.map RecordArgs.recordId) :
    append S C lines record = .ok (false, lines) := by
  refine bind_eq_ok.mpr ⟨lines, h.read, ?_⟩
  rw [if_pos hknown]
  rfl

theorem append_new {lines : Lines N} {record : RecordArgs N} (h : Readable S C lines)
    (hnew : record.recordId ∉ lines.map RecordArgs.recordId) (hfits : ¬ TooLarge lines record) :
    append S C lines record = .ok (true, lines ++ [record]) := by
  obtain ⟨hline, hstore⟩ := not_or.mp hfits
  refine bind_eq_ok.mpr ⟨lines, h.read, ?_⟩
  rw [if_neg hnew]
  exact check_bind_eq_ok.mpr ⟨not_lt.mp hline, check_bind_eq_ok.mpr ⟨not_lt.mp hstore, rfl⟩⟩

theorem append_tooLarge {lines : Lines N} {record : RecordArgs N} (h : Readable S C lines)
    (hnew : record.recordId ∉ lines.map RecordArgs.recordId)
    (hlarge : TooLarge lines record) : ∃ failure, append S C lines record = .error failure := by
  cases hresult : append S C lines record with
  | error failure => exact ⟨failure, rfl⟩
  | ok result =>
    obtain ⟨existing, hexisting, hresult⟩ := bind_eq_ok.mp hresult
    cases h.read.symm.trans hexisting
    rw [if_neg hnew] at hresult
    obtain ⟨hline, hresult⟩ := check_bind_eq_ok.mp hresult
    obtain ⟨hstore, _⟩ := check_bind_eq_ok.mp hresult
    rcases hlarge with hlarge | hlarge
    · exact absurd hline (not_le.mpr hlarge)
    · exact absurd hstore (not_le.mpr hlarge)

/-- What one append does to a readable log. -/
inductive Step (lines : Lines N) (record : RecordArgs N) : Except ContractError Bool → Lines N →
    Prop where
  | known (h : record.recordId ∈ lines.map RecordArgs.recordId) :
      Step lines record (.ok false) lines
  | new (hnew : record.recordId ∉ lines.map RecordArgs.recordId)
      (hfits : ¬ TooLarge lines record) : Step lines record (.ok true) (lines ++ [record])
  | refused (hnew : record.recordId ∉ lines.map RecordArgs.recordId)
      (hlarge : TooLarge lines record) (failure : ContractError) :
      Step lines record (.error failure) lines

theorem step_of_ok {lines lines' : Lines N} {record : VerifiedOutcomeRecord S C} {answer : Bool}
    (h : append S C lines record.fields = .ok (answer, lines')) :
    (outcomeLog S C).step lines record = (.ok answer, lines') := by
  unfold outcomeLog
  simp only [h]

theorem step_of_error {lines : Lines N} {record : VerifiedOutcomeRecord S C}
    {failure : ContractError} (h : append S C lines record.fields = .error failure) :
    (outcomeLog S C).step lines record = (.error failure, lines) := by
  unfold outcomeLog
  simp only [h]

theorem step_of_readable {lines : Lines N} (h : Readable S C lines)
    (record : VerifiedOutcomeRecord S C) :
    Step lines record.fields ((outcomeLog S C).output lines record)
      ((outcomeLog S C).next lines record) := by
  unfold Machine.output Machine.next
  by_cases hknown : record.fields.recordId ∈ lines.map RecordArgs.recordId
  · rw [step_of_ok (append_known h hknown)]
    exact .known hknown
  · by_cases hlarge : TooLarge lines record.fields
    · obtain ⟨failure, hfailure⟩ := append_tooLarge h hknown hlarge
      rw [step_of_error hfailure]
      exact .refused hknown hlarge failure
    · rw [step_of_ok (append_new h hknown hlarge)]
      exact .new hknown hlarge

theorem Readable.append {lines : Lines N} {record : RecordArgs N} (h : Readable S C lines)
    (hrecord : construct S C record = .ok record)
    (hnew : record.recordId ∉ lines.map RecordArgs.recordId)
    (hfits : ¬ TooLarge lines record) (hcount : lines.length < maxOutcomeRecords) :
    Readable S C (lines ++ [record]) where
  constructed := List.forall_mem_append.mpr ⟨h.constructed, List.forall_mem_singleton.mpr hrecord⟩
  unique := by
    rw [List.map_append]
    refine List.Nodup.append h.unique (List.nodup_singleton _) ?_
    intro id hid hmem
    rw [List.map_singleton, List.mem_singleton] at hmem
    exact hnew (hmem ▸ hid)
  lineSize := List.forall_mem_append.mpr ⟨h.lineSize,
    List.forall_mem_singleton.mpr (not_lt.mp (not_or.mp hfits).1)⟩
  size := by
    rw [storeSize_append]
    exact not_lt.mp (not_or.mp hfits).2
  count := by
    rw [List.length_append, List.length_singleton]
    exact hcount

theorem Readable.next {lines : Lines N} (h : Readable S C lines)
    {record : VerifiedOutcomeRecord S C} (hwithin : WithinCount S C lines record) :
    Readable S C ((outcomeLog S C).next lines record) := by
  have hstep := step_of_readable h record
  generalize (outcomeLog S C).output lines record = answer at hstep
  generalize (outcomeLog S C).next lines record = lines' at hstep ⊢
  cases hstep with
  | known | refused => exact h
  | new hnew hfits =>
    refine h.append record.again hnew hfits ?_
    rcases hwithin with hcount | hknown | hlarge
    · exact hcount
    · exact absurd hknown hnew
    · exact absurd hlarge hfits

variable {run : List (VerifiedOutcomeRecord S C)}

theorem readable_of_admitted (h : (outcomeLog S C).Admits (WithinCount S C) [] run) :
    Readable S C ((outcomeLog S C).exec [] run) :=
  h.exec (P := Readable S C) (fun _ _ hwithin hlines => hlines.next hwithin) readable_nil

/-! ## The records appended so far -/

theorem appended_append (lines : Lines N) (run : List (VerifiedOutcomeRecord S C))
    (record : VerifiedOutcomeRecord S C) : appended S C lines (run ++ [record]) =
      appended S C lines run ++ appended S C ((outcomeLog S C).exec lines run) [record] := by
  induction run generalizing lines with
  | nil => rfl
  | cons first rest ih =>
    rw [List.cons_append, appended, appended, Machine.exec_cons, ih]
    split <;> rfl

theorem distinct_append (records : List (RecordArgs N)) (record : RecordArgs N) :
    distinct (records ++ [record]) = keepFirst (distinct records) record := by
  unfold distinct
  rw [List.foldl_append]
  rfl

theorem lines_of_admitted (h : (outcomeLog S C).Admits (WithinCount S C) [] run) :
    distinct (appended S C [] run) = (outcomeLog S C).exec [] run := by
  induction run using List.reverseRecOn with
  | nil => rfl
  | append_singleton before record ih =>
    obtain ⟨hbefore, _⟩ := ((outcomeLog S C).admits_append _ _ _ _).mp h
    have hstep := step_of_readable (readable_of_admitted hbefore) record
    rw [appended_append, Machine.exec_concat]
    have hlines := ih hbefore
    generalize (outcomeLog S C).exec [] before = lines at hstep hlines ⊢
    generalize appended S C [] before = records at hlines ⊢
    simp only [appended]
    generalize (outcomeLog S C).output lines record = answer at hstep ⊢
    generalize (outcomeLog S C).next lines record = lines' at hstep ⊢
    cases hstep with
    | known hknown =>
      rw [distinct_append, hlines, keepFirst, if_pos hknown]
    | new hnew _ =>
      rw [distinct_append, hlines, keepFirst, if_neg hnew]
    | refused =>
      rw [List.append_nil]
      exact hlines

theorem Keeps.init {last : VerifiedOutcomeRecord S C} (h : Keeps S C (run ++ [last])) :
    Keeps S C run := by
  intro before record after hrun
  refine h before record (after ++ [last]) ?_
  rw [hrun, List.append_assoc, List.cons_append]

theorem not_keeps_of_full {record : VerifiedOutcomeRecord S C}
    (hrun : (outcomeLog S C).Admits (WithinCount S C) [] run)
    (hfull : ¬ WithinCount S C ((outcomeLog S C).exec [] run) record) :
    ¬ Keeps S C (run ++ [record]) := by
  intro hkeeps
  obtain ⟨hcount, hnew, hfits⟩ := (not_or.mp hfull).imp_right not_or.mp
  have happend := step_of_ok (append_new (readable_of_admitted hrun) hnew hfits)
  obtain ⟨hread, _, _⟩ := hkeeps run record [] rfl
  have hlines := hread true (congrArg Prod.fst happend)
  rw [Machine.exec_concat, Machine.next, happend] at hlines
  have hlength := count_of_read hlines
  rw [List.length_append, List.length_singleton] at hlength
  exact hcount hlength

/-- The records of the appends that answered `True`, in their order. -/
def acknowledged (S : Stdlib) (C : Sections N) :
    Lines N → List (VerifiedOutcomeRecord S C) → List (RecordArgs N)
  | _, [] => []
  | lines, record :: rest =>
    match (outcomeLog S C).output lines record with
    | .ok true => record.fields :: acknowledged S C ((outcomeLog S C).next lines record) rest
    | _ => acknowledged S C ((outcomeLog S C).next lines record) rest

/-- A log that is read, or one with a record too many. -/
def Whole (S : Stdlib) (C : Sections N) (lines : Lines N) : Prop :=
  (lines.map RecordArgs.recordId).Nodup ∧
    (Readable S C lines ∨ lines.length = maxOutcomeRecords + 1)

theorem whole_step {lines : Lines N} (h : Whole S C lines) (record : VerifiedOutcomeRecord S C) :
    Whole S C ((outcomeLog S C).next lines record) ∧
      (outcomeLog S C).next lines record = lines ++ acknowledged S C lines [record] := by
  obtain ⟨hunique, hread | hfull⟩ := h
  · have hstep := step_of_readable hread record
    simp only [acknowledged]
    generalize (outcomeLog S C).output lines record = answer at hstep ⊢
    generalize (outcomeLog S C).next lines record = lines' at hstep ⊢
    cases hstep with
    | known | refused => exact ⟨⟨hunique, .inl hread⟩, (List.append_nil _).symm⟩
    | new hnew hfits =>
      refine ⟨⟨?_, ?_⟩, rfl⟩
      · rw [List.map_append]
        refine hunique.append (List.nodup_singleton _) fun id hid hmem => hnew ?_
        exact List.mem_singleton.mp hmem ▸ hid
      · refine (Nat.lt_or_ge lines.length maxOutcomeRecords).imp
          (hread.append record.again hnew hfits) fun hcount => ?_
        rw [List.length_append, le_antisymm hread.count hcount, List.length_singleton]
  · cases happend : append S C lines record.fields with
    | ok made =>
      obtain ⟨_, hread, _⟩ := bind_eq_ok.mp happend
      exact absurd (count_of_read hread) (by omega)
    | error failure =>
      have hstep := step_of_error happend
      simp only [acknowledged, Machine.output, Machine.next, hstep, List.append_nil]
      exact ⟨⟨hunique, .inr hfull⟩, trivial⟩

theorem whole_run {lines : Lines N} (h : Whole S C lines)
    (run : List (VerifiedOutcomeRecord S C)) :
    Whole S C ((outcomeLog S C).exec lines run) ∧
      (outcomeLog S C).exec lines run = lines ++ acknowledged S C lines run := by
  induction run generalizing lines with
  | nil => exact ⟨h, (List.append_nil lines).symm⟩
  | cons record rest ih =>
    obtain ⟨hnext, hlines⟩ := whole_step h record
    obtain ⟨hwhole, hrest⟩ := ih hnext
    refine ⟨hwhole, hrest.trans ?_⟩
    simp only [acknowledged] at hlines ⊢
    split at hlines <;> rw [hlines, List.append_assoc] <;> rfl

end Reading

/-! ## One record more than the reader takes -/

def sampleNumbers : Numbers where
  Float := Int
  decidableEq := inferInstance
  value x := x
  repr x := (toString x ++ ".0").toList
  float
    | .int n => some n
    | .float x => some x
    | .none | .bool _ | .str _ => none
  int
    | .int n => some n
    | .float x => some x
    | .none | .bool _ | .str _ => none
  float_float := fun _ => rfl
  int_int := fun _ => rfl
  float_int := fun n _ _ => ⟨n, rfl, rfl⟩

def sampleSections : Sections sampleNumbers where
  pairedRun _ := .error ⟨"Paired-run binding must be an object."⟩
  pairedCost _ := .error ⟨"Paired cost evidence must be an object."⟩
  pairedEvidence _ := .error ⟨"Artifact descriptor must be an object."⟩
  pairedRun_payload := fun _ _ h => by cases h
  pairedCost_payload := fun _ _ h => by cases h
  pairedEvidence_payload := fun _ _ h => by cases h

def sampleDigest (data : List UInt8) : String :=
  let digits := ((data.reverse.drop 2).take 64).reverse.map fun b => Char.ofNat b.toNat
  if isSha256 (String.ofList digits) then
    String.ofList digits
  else
    String.ofList (List.replicate 64 'a')

def sampleStdlib : Stdlib where
  sha256 := sampleDigest
  parseTimestamp := Stdlib.cpython.parseTimestamp
  sha256_hex := by
    intro data
    simp only [sampleDigest]
    split
    · assumption
    · decide
  parseTimestamp_isoformat := Stdlib.cpython.parseTimestamp_isoformat

def sampleDigits (n : Nat) : List Char :=
  (List.range 64).map fun i => if n.testBit i then '1' else '0'

def sampleFingerprint (n : Nat) : String := String.ofList (sampleDigits n)

def sampleSha256 : Scalar sampleNumbers.Float := .str (String.ofList (List.replicate 64 'a'))

def sampleTexts (n : Nat) : TextFields sampleNumbers.Float where
  schemaVersion := contractVersion
  createdAt := "2026-01-01T00:00:00+00:00"
  routeReceiptId := .str "receipt"
  routeReceiptSha256 := sampleSha256
  taskFingerprint := .str (sampleFingerprint n)
  configSha256 := sampleSha256
  signalProviderConfigSha256 := sampleSha256
  runtimePlanSha256 := sampleSha256
  profile := .str "default"
  plannedRoute := "local"
  finalProvider := .none
  difficulty := "simple"
  source := .str "user"
  abstained := .bool false
  outcome := "passed"
  evidenceStrength := "user"
  evidenceSha256 := sampleSha256
  failureClass := .str "none"
  providerRuntimeSha256 := .none
  model := .none

def sampleFields (n : Nat) : RecordArgs sampleNumbers where
  recordId := "outcome-" ++ sampleFingerprint n
  texts := sampleTexts n
  capabilities := []
  confidence := .float (1 : Int)
  counters := ⟨.int 0, .int 0, .int 0, .int 0, .int 0⟩
  estimatedCostUsd := .none
  routeCanary := none
  pairedRun := none
  pairedCost := none
  pairedEvidence := none

variable (n : Nat)

theorem sampleDigits_length : (sampleDigits n).length = 64 := by
  rw [sampleDigits, List.length_map, List.length_range]

theorem mem_sampleDigits {n : Nat} {c : Char} (h : c ∈ sampleDigits n) : c = '0' ∨ c = '1' := by
  obtain ⟨i, _, hc⟩ := List.mem_map.mp h
  split at hc
  · exact .inr hc.symm
  · exact .inl hc.symm

theorem isSha256_sampleFingerprint : isSha256 (sampleFingerprint n) = true := by
  unfold isSha256 sampleFingerprint
  rw [String.toList_ofList, Bool.and_eq_true, List.all_eq_true]
  refine ⟨?_, ?_⟩
  · simp [sampleDigits_length]
  · intro c hc
    rcases mem_sampleDigits hc with rfl | rfl <;> decide

theorem sampleFingerprint_injective {m n : Nat} (hm : m < 2 ^ 64) (hn : n < 2 ^ 64)
    (h : sampleFingerprint m = sampleFingerprint n) : m = n := by
  have hdigits : sampleDigits m = sampleDigits n := String.ofList_injective h
  apply Nat.eq_of_testBit_eq
  intro i
  by_cases hi : i < 64
  · have hchar := (List.map_inj_left.mp hdigits) i (List.mem_range.mpr hi)
    cases hmi : m.testBit i <;> cases hni : n.testBit i <;> simp_all
  · have hlarge : 2 ^ 64 ≤ 2 ^ i := Nat.pow_le_pow_right (by decide) (not_lt.mp hi)
    rw [Nat.testBit_lt_two_pow (hm.trans_le hlarge), Nat.testBit_lt_two_pow (hn.trans_le hlarge)]

theorem dumpString_sampleFingerprint :
    dumpString (sampleFingerprint n) = '"' :: sampleDigits n ++ ['"'] := by
  unfold dumpString sampleFingerprint
  rw [String.toList_ofList]
  have hescape : (sampleDigits n).flatMap escapeChar = sampleDigits n := by
    rw [List.flatMap_congr (g := fun c => [c])]
    · exact List.flatMap_singleton' _
    · intro c hc
      rcases mem_sampleDigits hc with rfl | rfl <;> decide
  rw [hescape]

theorem append_fieldText (head : List Char) (key : String) (value tail : List Char) :
    head ++ fieldText key value ++ tail =
      (head ++ (',' :: dumpString key ++ [':'])) ++ (value ++ tail) := by
  simp [fieldText]

theorem text_taskFingerprint (a : RecordArgs sampleNumbers) (recordId : List Char) :
    ∃ head, a.text recordId = head ++ (a.texts.taskFingerprint.dump ++ ['\x7d']) :=
  ⟨_, append_fieldText _ _ _ _⟩

theorem sampleDigest_text :
    sampleDigest (((sampleFields n).text []).map fun c => UInt8.ofNat c.toNat) =
      sampleFingerprint n := by
  obtain ⟨head, hhead⟩ := text_taskFingerprint (sampleFields n) []
  have hdump : (sampleFields n).texts.taskFingerprint.dump = '"' :: sampleDigits n ++ ['"'] :=
    dumpString_sampleFingerprint n
  have hbytes : (sampleDigits n).map
      ((fun b : UInt8 => Char.ofNat b.toNat) ∘ fun c => UInt8.ofNat c.toNat) = sampleDigits n := by
    conv_rhs => rw [← List.map_id (sampleDigits n)]
    apply List.map_congr_left
    intro c hc
    rcases mem_sampleDigits hc with rfl | rfl <;> decide
  have htail : ((((sampleFields n).text []).map fun c => UInt8.ofNat c.toNat).reverse.drop 2).take
      64 = ((sampleDigits n).map fun c => UInt8.ofNat c.toNat).reverse := by
    rw [hhead, hdump]
    simp only [List.map_append, List.map_cons, List.map_nil, List.reverse_append,
      List.reverse_cons, List.reverse_nil, List.nil_append, List.cons_append, List.append_assoc,
      List.drop_succ_cons, List.drop_zero]
    rw [List.take_append_of_le_length, List.take_of_length_le]
    · simp [sampleDigits_length]
    · simp [sampleDigits_length]
  simp only [sampleDigest, htail, List.reverse_reverse, List.map_map]
  rw [hbytes]
  exact if_pos (isSha256_sampleFingerprint n)

theorem requireSha256_sampleFingerprint (label : String) :
    requireSha256 (sampleFingerprint n) label = .ok (sampleFingerprint n) :=
  requireSha256_eq_ok.mpr ⟨isSha256_sampleFingerprint n, rfl⟩

theorem sampleTexts_checkHead : (sampleTexts n).checkHead sampleStdlib = .ok () := by
  have htime : sampleStdlib.requireUtcTimestamp "2026-01-01T00:00:00+00:00" "created_at" =
      .ok "2026-01-01T00:00:00+00:00" := by decide +kernel
  have hsha : ∀ label, requireSha256 sampleSha256.text label = .ok sampleSha256.text := fun _ =>
    requireSha256_eq_ok.mpr ⟨by decide +kernel, rfl⟩
  have hreceipt : requireSafeId "receipt" "route_receipt_id" = .ok "receipt" := by decide +kernel
  have hprofile : requireSafeId "default" "profile" = .ok "default" := by decide +kernel
  refine check_bind_eq_ok.mpr ⟨rfl, bind_eq_ok.mpr ⟨_, htime, ?_⟩⟩
  refine check_bind_eq_ok.mpr ⟨rfl, bind_eq_ok.mpr ⟨_, hreceipt, ?_⟩⟩
  refine bind_eq_ok.mpr ⟨_, hsha _, ?_⟩
  refine bind_eq_ok.mpr ⟨_, requireSha256_sampleFingerprint n _, ?_⟩
  refine bind_eq_ok.mpr ⟨_, hsha _, bind_eq_ok.mpr ⟨_, hsha _, bind_eq_ok.mpr ⟨_, hsha _, ?_⟩⟩⟩
  refine bind_eq_ok.mpr ⟨_, hprofile, ?_⟩
  exact check_bind_eq_ok.mpr ⟨List.mem_cons_self, check_of (.inl rfl)⟩

theorem sampleTexts_checks :
    (sampleTexts n).checkDifficulty = .ok () ∧ (sampleTexts n).checkBody = .ok () ∧
      (sampleTexts n).checkRuntime = .ok () ∧ (sampleTexts n).checkTail = .ok () := by
  have hsource : requireSafeId "user" "source" = .ok "user" := by decide +kernel
  have hsha : requireSha256 sampleSha256.text "evidence_sha256" = .ok sampleSha256.text :=
    requireSha256_eq_ok.mpr ⟨by decide +kernel, rfl⟩
  have hfailure : requireSafeId "none" "failure_class" = .ok "none" := by decide +kernel
  refine ⟨check_of List.mem_cons_self, ?_, ?_, ?_⟩
  · refine bind_eq_ok.mpr ⟨_, hsource, check_bind_eq_ok.mpr ⟨rfl, ?_⟩⟩
    refine check_bind_eq_ok.mpr ⟨(by decide : "passed" ∈ ["failed", "inconclusive", "passed"]), ?_⟩
    refine check_bind_eq_ok.mpr ⟨(by decide : "user" ∈
      ["implicit", "judge", "user", "independent", "deterministic"]), ?_⟩
    exact bind_eq_ok.mpr ⟨_, hsha, bind_eq_ok.mpr ⟨_, hfailure, rfl⟩⟩
  · exact check_bind_eq_ok.mpr ⟨.inl rfl, check_of (.inl rfl)⟩
  · refine check_bind_eq_ok.mpr ⟨fun _ => ⟨rfl, rfl⟩, check_bind_eq_ok.mpr ⟨fun _ => rfl, ?_⟩⟩
    exact check_of fun h => absurd h (by decide : "passed" ≠ "failed")

theorem sampleFields_expectedId :
    (sampleFields n).expectedId sampleStdlib = (sampleFields n).recordId := by
  unfold RecordArgs.expectedId
  rw [show sampleStdlib.sha256 = sampleDigest from rfl, sampleDigest_text]
  rfl

theorem sampleFields_constructed :
    construct sampleStdlib sampleSections (sampleFields n) = .ok (sampleFields n) := by
  obtain ⟨hdifficulty, hbody, hruntime, htail⟩ := sampleTexts_checks n
  have hconfidence : requireFiniteNumber (sampleFields n).confidence "confidence" (some 1) =
      .ok (1 : Int) :=
    (rfl : _ = requireFiniteNumber (sampleFields 0).confidence "confidence" (some 1)).trans
      (by decide +kernel)
  have hzero : ∀ label, requireNonNegativeInt (.int 0 : Scalar sampleNumbers.Float) label = .ok 0 :=
    fun _ => check_bind_eq_ok.mpr ⟨rfl, check_bind_eq_ok.mpr ⟨⟨le_rfl, rfl⟩, rfl⟩⟩
  have hcounters : (sampleFields n).counters.normalise = .ok (sampleFields n).counters := by
    refine bind_eq_ok.mpr ⟨0, hzero _, bind_eq_ok.mpr ⟨0, hzero _, ?_⟩⟩
    refine bind_eq_ok.mpr ⟨0, hzero _, bind_eq_ok.mpr ⟨0, hzero _, ?_⟩⟩
    exact bind_eq_ok.mpr ⟨0, hzero _, rfl⟩
  refine bind_eq_ok.mpr ⟨_, sampleTexts_checkHead n, ?_⟩
  refine bind_eq_ok.mpr ⟨[], rfl, bind_eq_ok.mpr ⟨_, hdifficulty, ?_⟩⟩
  refine bind_eq_ok.mpr ⟨_, hconfidence, bind_eq_ok.mpr ⟨_, hbody, ?_⟩⟩
  refine bind_eq_ok.mpr ⟨_, hcounters, bind_eq_ok.mpr ⟨.none, rfl, ?_⟩⟩
  refine bind_eq_ok.mpr ⟨_, hruntime, bind_eq_ok.mpr ⟨none, rfl, ?_⟩⟩
  refine bind_eq_ok.mpr ⟨(), check_of (fun _ h => (by cases h)), ?_⟩
  refine bind_eq_ok.mpr ⟨none, rfl, ?_⟩
  refine bind_eq_ok.mpr ⟨(), check_of (fun _ h => (by cases h)), ?_⟩
  refine bind_eq_ok.mpr ⟨none, rfl, ?_⟩
  refine bind_eq_ok.mpr ⟨(), check_bind_eq_ok.mpr ⟨fun h => (by cases h),
    check_of (fun _ h => (by cases h))⟩, ?_⟩
  refine check_bind_eq_ok.mpr ⟨fun h => (by cases h), bind_eq_ok.mpr ⟨none, rfl, ?_⟩⟩
  refine bind_eq_ok.mpr ⟨(), check_of (fun _ h => (by cases h)), ?_⟩
  refine bind_eq_ok.mpr ⟨_, htail, check_bind_eq_ok.mpr ⟨?_, rfl⟩⟩
  exact (sampleFields_expectedId n).symm

def sampleRecord (n : Nat) : VerifiedOutcomeRecord sampleStdlib sampleSections :=
  ⟨sampleFields n, sampleFields n, sampleFields_constructed n⟩

def sampleRun (count : Nat) : List (VerifiedOutcomeRecord sampleStdlib sampleSections) :=
  (List.range count).map sampleRecord

theorem sampleFields_recordId {m n : Nat} (hm : m < 2 ^ 64) (hn : n < 2 ^ 64)
    (h : (sampleFields m).recordId = (sampleFields n).recordId) : m = n := by
  apply sampleFingerprint_injective hm hn
  have hlist := congrArg String.toList h
  simp only [sampleFields, String.toList_append] at hlist
  exact String.toList_injective (List.append_cancel_left hlist)

theorem dumpString_length_sample : (dumpString (sampleFingerprint n)).length = 66 ∧
      (dumpString ("outcome-" ++ sampleFingerprint n)).length = 74 := by
  have hdigits := dumpString_sampleFingerprint n
  refine ⟨by rw [hdigits]; simp [sampleDigits_length], ?_⟩
  unfold dumpString at hdigits ⊢
  simp only [List.cons_append, List.cons.injEq, true_and] at hdigits
  have hescaped := List.append_cancel_right hdigits
  rw [String.toList_append, List.flatMap_append, hescaped]
  simp only [List.length_append, List.length_cons, List.length_nil, sampleDigits_length]
  decide +kernel

theorem length_fieldText (key : String) {value value' : List Char}
    (h : value.length = value'.length) :
    (fieldText key value).length = (fieldText key value').length := by
  unfold fieldText
  simp only [List.length_append, List.length_cons, h]

theorem text_length {N : Numbers} (a : RecordArgs N) (id : String) (task : Scalar N.Float)
    {recordId recordId' : List Char} (hid : recordId.length = recordId'.length)
    (htask : task.dump.length = a.texts.taskFingerprint.dump.length) :
    (RecordArgs.text { a with recordId := id, texts := { a.texts with taskFingerprint := task } }
      recordId).length = (a.text recordId').length := by
  have hfield := length_fieldText "task_fingerprint" htask
  unfold RecordArgs.text
  generalize fieldText = field at hfield ⊢
  simp only [List.length_append]
  rw [hid, hfield]

theorem encodedSize_sampleFields : encodedSize (sampleFields n) = 1108 := by
  have hsame : (sampleFields n).line.length = (sampleFields 0).line.length := by
    refine text_length (sampleFields 0) _ (.str (sampleFingerprint n)) ?_ ?_
    · exact length_fieldText _
        ((dumpString_length_sample n).2.trans (dumpString_length_sample 0).2.symm)
    · exact (dumpString_length_sample n).1.trans (dumpString_length_sample 0).1.symm
  unfold encodedSize
  rw [hsame]
  decide +kernel

def sampleLines (count : Nat) : Lines sampleNumbers := (List.range count).map sampleFields

theorem sampleLines_succ (count : Nat) :
    sampleLines (count + 1) = sampleLines count ++ [sampleFields count] := by
  rw [sampleLines, List.range_succ, List.map_append]
  rfl

theorem sampleRun_succ (count : Nat) :
    sampleRun (count + 1) = sampleRun count ++ [sampleRecord count] := by
  rw [sampleRun, List.range_succ, List.map_append]
  rfl

theorem storeSize_sampleLines (count : Nat) : storeSize (sampleLines count) = count * 1108 := by
  induction count with
  | zero => rfl
  | succ count ih =>
    rw [sampleLines_succ, storeSize_append, ih, encodedSize_sampleFields]
    omega

theorem sampleFields_new {count : Nat} (hcount : count ≤ maxOutcomeRecords) :
    (sampleFields count).recordId ∉ (sampleLines count).map RecordArgs.recordId := by
  intro hmem
  obtain ⟨fields, hfields, hid⟩ := List.mem_map.mp hmem
  obtain ⟨m, hm, rfl⟩ := List.mem_map.mp hfields
  have hlt := List.mem_range.mp hm
  have hlimit : maxOutcomeRecords < 2 ^ 64 := by decide
  have heq := sampleFields_recordId (by omega) (by omega) hid
  omega

theorem sampleFields_fits {count : Nat} (hcount : count ≤ maxOutcomeRecords) :
    ¬ TooLarge (sampleLines count) (sampleFields count) := by
  have hrecords : maxOutcomeRecords = 100000 := rfl
  have hrecord : maxOutcomeRecordBytes = 2097152 := rfl
  have hstore : maxOutcomeStoreBytes = 134217728 := rfl
  unfold TooLarge
  rw [storeSize_sampleLines, encodedSize_sampleFields]
  omega

theorem sampleRun_fills {count : Nat} (hcount : count ≤ maxOutcomeRecords) :
    (outcomeLog sampleStdlib sampleSections).exec [] (sampleRun count) = sampleLines count ∧
      (outcomeLog sampleStdlib sampleSections).Admits (WithinCount sampleStdlib sampleSections) []
        (sampleRun count) := by
  induction count with
  | zero => exact ⟨rfl, trivial⟩
  | succ count ih =>
    obtain ⟨hlines, hadmits⟩ := ih (Nat.le_of_succ_le hcount)
    have hreadable := readable_of_admitted hadmits
    rw [hlines] at hreadable
    have hbelow := Nat.le_of_succ_le hcount
    have happend : append sampleStdlib sampleSections (sampleLines count)
        (sampleRecord count).fields = .ok (true, sampleLines count ++ [sampleFields count]) :=
      append_new hreadable (sampleFields_new hbelow) (sampleFields_fits hbelow)
    have hstep := step_of_ok happend
    rw [sampleRun_succ, Machine.exec_concat, hlines, Machine.next, hstep]
    refine ⟨(sampleLines_succ count).symm, ?_⟩
    refine ((outcomeLog sampleStdlib sampleSections).admits_append _ _ _ _).mpr
      ⟨hadmits, ?_, trivial⟩
    rw [hlines]
    left
    rw [sampleLines, List.length_map, List.length_range]
    exact hcount

end LocalMoe.Outcomes
