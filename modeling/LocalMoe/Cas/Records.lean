/-
  `assistant_bridge_cas.py`: the records of a candidate and what they are checked for.
-/
import LocalMoe.Contracts.Sha256
import LocalMoe.Foundation.Loops

namespace LocalMoe.Cas

open Contracts Foundation

/-! ## Paths -/

/-- `_portable_path_component`, which folds a name as case-insensitive systems do, is left
open. -/
abbrev Fold := String → String

def partsOf (path : String) : List String := (path.toList.splitOn '/').map String.ofList

/-- What `_safe_relative_path` accepts: an ordinary relative path in its shortest spelling. -/
def isSafePath (fold : Fold) (path : String) : Bool :=
  path.toList.all (fun c => c != '\x00' && c != '\\' && c != ':') &&
    (partsOf path).all (fun part => part != "" && part != "." && part != "..") &&
    (partsOf path).head?.all (fun part => fold part != ".git")

def portableKey (fold : Fold) (path : String) : String :=
  "/".intercalate ((partsOf path).map fold)

/-- `_require_portable_unique_paths`: no two of the paths are spelled alike. -/
def portableUnique (fold : Fold) (paths : List String) : Bool :=
  decide (∀ path ∈ paths, ∀ other ∈ paths,
    portableKey fold path = portableKey fold other → path = other)

/-! ## Files -/

def maxCandidateFiles : Nat := 100000

def maxCandidateFileBytes : Int := 64 * 1024 * 1024

def maxCandidateTotalBytes : Int := 16 * 1024 * 1024 * 1024

def maxCandidateMetadataBytes : Nat := 64 * 1024 * 1024

/-- A file of a candidate, or one that is missing from it. -/
structure FileRecord where
  path : String
  kind : String
  sha256 : String
  size : Int
  mode : Int
  direction : String
  deriving DecidableEq, Repr

section Files

variable (S : Stdlib) (fold : Fold)

def normalizeFileRecord (record : FileRecord) : Except String FileRecord :=
  if !isSafePath fold record.path then .error "Candidate path is unsafe."
  else if record.kind ≠ "file" ∧ record.kind ≠ "missing" then
    .error "Candidate file kind is unsupported."
  else if !isSha256 record.sha256 then
    .error "candidate file sha256 must be a lowercase SHA-256 digest."
  else if ¬(0 ≤ record.size ∧ record.size ≤ 2 ^ 63 - 1) then
    .error "Candidate file size is outside safe bounds."
  else if ¬(0 ≤ record.mode ∧ record.mode ≤ 0o777) then
    .error "Candidate file mode is outside safe bounds."
  else if record.direction ≠ "input_only" ∧ record.direction ≠ "round_trip" then
    .error "Candidate file direction is invalid."
  else if record.kind = "missing" ∧
      (record.size ≠ 0 ∨ record.mode ≠ 0 ∨ record.sha256 ≠ S.sha256 []) then
    .error "Missing candidate record is incoherent."
  else if record.kind ≠ "missing" ∧ record.mode = 0 then
    .error "Regular candidate file mode is invalid."
  else .ok record

theorem normalizeFileRecord_ok {record normalized : FileRecord}
    (h : normalizeFileRecord S fold record = .ok normalized) : normalized = record := by
  unfold normalizeFileRecord at h
  repeat' split at h
  all_goals cases h
  rfl

theorem normalizeFileRecord_spec {record : FileRecord}
    (h : normalizeFileRecord S fold record = .ok record) :
    (record.kind = "file" ∨ record.kind = "missing") ∧
      0 ≤ record.mode ∧ record.mode ≤ 0o777 := by
  unfold normalizeFileRecord at h
  split at h
  · cases h
  · split at h
    · cases h
    · next hkind =>
      split at h
      · cases h
      · split at h
        · cases h
        · split at h
          · cases h
          · next hmode =>
            refine ⟨?_, not_not.mp hmode⟩
            by_contra hother
            exact hkind ⟨fun hfile => hother (.inl hfile), fun hmiss => hother (.inr hmiss)⟩

/-! ## Changes -/

structure Change where
  path : String
  before : Option FileRecord
  after : Option FileRecord
  deriving DecidableEq, Repr

def normalizeChange (change : Change) : Except String Change := do
  check (isSafePath fold change.path) "Candidate path is unsafe."
  let before ← change.before.mapM (normalizeFileRecord S fold)
  let after ← change.after.mapM (normalizeFileRecord S fold)
  check (before.all (·.path = change.path) && after.all (·.path = change.path))
    "Changeset record path binding is invalid."
  check (before.isSome || after.isSome) "Changeset record contains no change."
  check (before ≠ after) "Changeset before and after are identical."
  return ⟨change.path, before, after⟩

theorem mapM_normalize_ok {record normalized : Option FileRecord}
    (h : record.mapM (normalizeFileRecord S fold) = .ok normalized) : normalized = record := by
  cases record with
  | none =>
    cases h
    rfl
  | some record =>
    rcases hrecord : normalizeFileRecord S fold record with error | value
    · simp only [Option.mapM_some, hrecord] at h
      cases h
    · simp only [Option.mapM_some, hrecord] at h
      cases h
      rw [normalizeFileRecord_ok S fold hrecord]

theorem normalizeChange_ok {change normalized : Change}
    (h : normalizeChange S fold change = .ok normalized) : normalized = change := by
  simp only [normalizeChange, bind_eq_ok, check_eq_ok, exists_const, pure_eq_ok_iff] at h
  obtain ⟨-, before, hbefore, after, hafter, -, -, -, rfl⟩ := h
  rw [mapM_normalize_ok S fold hbefore, mapM_normalize_ok S fold hafter]

def validateChanges (changes : List Change) (files : List FileRecord) : Except String Unit :=
  changes.forM fun change =>
    match change.after with
    | some after =>
      if files.find? (·.path = change.path) = some after then .ok ()
      else .error "Changeset after record does not match the candidate manifest."
    | none =>
      if (files.map FileRecord.path).contains change.path then
        .error "Changeset deletion is not represented by a missing manifest record."
      else .ok ()

end Files

/-- `_normalize_source_identity`: what identifies the source. -/
structure SourceIdentity where
  rootSha256 : String
  fingerprint : String
  gitRepository : Bool
  headSha : Option String
  indexSha256 : String
  deriving DecidableEq, Repr

def normalizeSourceIdentity (source : SourceIdentity) (sourceFingerprint : String) :
    Except String SourceIdentity :=
  if !isSha256 source.rootSha256 then
    .error "source root sha256 must be a lowercase SHA-256 digest."
  else if !isSha256 source.fingerprint then
    .error "source fingerprint must be a lowercase SHA-256 digest."
  else if source.fingerprint ≠ sourceFingerprint then
    .error "Candidate source fingerprint is incoherent."
  else if !isSha256 source.indexSha256 then
    .error "source index sha256 must be a lowercase SHA-256 digest."
  else if source.gitRepository then
    match source.headSha with
    | some head =>
      if head = "" ∨ 128 < head.length then .error "Candidate source HEAD is invalid."
      else .ok source
    | none => .error "Candidate source HEAD is invalid."
  else if source.headSha.isSome then .error "Non-Git source cannot bind a HEAD."
  else .ok source

theorem normalizeSourceIdentity_ok {source normalized : SourceIdentity} {fingerprint : String}
    (h : normalizeSourceIdentity source fingerprint = .ok normalized) : normalized = source := by
  unfold normalizeSourceIdentity at h
  repeat' split at h
  all_goals cases h
  all_goals rfl

/-! ## Descriptors -/

structure ArtifactDescriptor where
  mediaType : String
  sha256 : String
  sizeBytes : Nat
  deriving DecidableEq, Repr

/-- A character of a media type. -/
def isMediaChar (c : Char) : Bool :=
  ('a' ≤ c && c ≤ 'z') || ('0' ≤ c && c ≤ '9') || c == '.' || c == '+' || c == '-'

/-- `[a-z0-9][a-z0-9.+-]*`. -/
def isMediaName (name : List Char) : Bool :=
  name.all isMediaChar && name.head?.any fun c => c != '.' && c != '+' && c != '-'

def isMediaType (text : String) : Bool :=
  match text.toList.splitOn '/' with
  | [type, subtype] => isMediaName type && isMediaName subtype && decide (subtype.length ≤ 96)
  | _ => false

def ArtifactDescriptor.check (descriptor : ArtifactDescriptor) : Except String Unit :=
  if !isMediaType descriptor.mediaType then .error "Artifact media_type is invalid."
  else if !isSha256 descriptor.sha256 then
    .error "artifact sha256 must be a lowercase SHA-256 digest."
  else if 2 ^ 63 - 1 < descriptor.sizeBytes then
    .error "Artifact size_bytes is outside safe bounds."
  else .ok ()

end LocalMoe.Cas
