/-
  `ContentAddressedStore`: storing a candidate, and loading it again.

  The object files are a map from digests; the documents are read and written by a codec.
-/
import LocalMoe.Cas.Records

namespace LocalMoe.Cas

open Contracts Foundation

/-! ## Documents -/

/-- A record of a manifest, with the descriptor of its content. -/
structure StoredFile where
  record : FileRecord
  content : Option ArtifactDescriptor
  deriving DecidableEq, Repr

structure Changeset where
  schemaVersion : String
  sourceFingerprint : String
  changes : List Change
  deriving DecidableEq, Repr

structure Manifest where
  schemaVersion : String
  sourceFingerprint : String
  source : SourceIdentity
  files : List StoredFile
  changeset : ArtifactDescriptor
  deriving DecidableEq, Repr

/-- A structured artifact. -/
inductive Document where
  | changeset (payload : Changeset)
  | manifest (payload : Manifest)
  deriving DecidableEq, Repr

def Document.asManifest : Document → Except String Manifest
  | .manifest payload => .ok payload
  | .changeset _ => .error "Candidate manifest schema is unsupported."

def Document.asChangeset : Document → Except String Changeset
  | .changeset payload => .ok payload
  | .manifest _ => .error "Candidate changeset shape is invalid."

/-- `rfc8785.dumps` and `json.loads`, on the documents of the store. -/
structure Codec where
  dumps : Document → Except String (List UInt8)
  loads : List UInt8 → Option Document

/-- What is dumped is loaded again. -/
def Codec.Lawful (codec : Codec) : Prop :=
  ∀ document bytes, codec.dumps document = .ok bytes → codec.loads bytes = some document

def casSchemaVersion : String := "1.0"

/-- The media type of a file. -/
def contentType : String := "application/octet-stream"

def changesetType : String := "application/vnd.mymoe.changeset+json"

def manifestType : String := "application/vnd.mymoe.workspace-manifest+json"

/-! ## Objects -/

/-- The object files, by their digest. -/
abbrev Objects := String → Option (List UInt8)

section Store

variable (S : Stdlib) (fold : Fold) (codec : Codec)

def readVerified (objects : Objects) (descriptor : ArtifactDescriptor) :
    Except String (List UInt8) :=
  match objects descriptor.sha256 with
  | none => .error "CAS artifact is unavailable."
  | some value =>
    if value.length ≠ descriptor.sizeBytes then .error "CAS artifact size binding failed."
    else if S.sha256 value ≠ descriptor.sha256 then
      .error "CAS artifact digest binding failed."
    else .ok value

/-- `put_bytes`: an object is never replaced. -/
def putBytes (objects : Objects) (value : List UInt8) (mediaType : String) :
    Except String (Objects × ArtifactDescriptor) := do
  let descriptor : ArtifactDescriptor := ⟨mediaType, S.sha256 value, value.length⟩
  descriptor.check
  let stored : Objects :=
    if (objects descriptor.sha256).isSome then objects
    else fun digest => if digest = descriptor.sha256 then some value else objects digest
  let read ← readVerified S stored descriptor
  check (read = value) "Existing CAS object does not match its digest."
  return (stored, descriptor)

def getJson (objects : Objects) (descriptor : ArtifactDescriptor) : Except String Document := do
  check (descriptor.sizeBytes ≤ maxCandidateMetadataBytes) "CAS artifact exceeds its read bound."
  let raw ← readVerified S objects descriptor
  match codec.loads raw with
  | none => .error "CAS JSON artifact is invalid."
  | some document => do
    check (codec.dumps document = .ok raw) "CAS JSON artifact is not RFC 8785 canonical."
    return document

/-! ## Storing -/

/-- The content of a record, after so many bytes; `tree` reads a regular file of the
candidate. -/
def storeContent (tree : String → Option (List UInt8)) (record : FileRecord) (total : Int)
    (objects : Objects) : Except String (Objects × Option ArtifactDescriptor) :=
  if record.kind = "file" then do
    check (record.size ≤ maxCandidateFileBytes) "Candidate file byte bound was exceeded."
    check (total + record.size ≤ maxCandidateTotalBytes)
      "Candidate total byte bound was exceeded."
    match tree record.path with
    | none => .error "CAS artifact is unavailable."
    | some value => do
      check ((value.length : Int) = record.size) "Candidate file size binding failed."
      check (S.sha256 value = record.sha256) "Candidate file no longer matches its manifest."
      let put ← putBytes S objects value contentType
      return (put.1, some put.2)
  else .ok (objects, none)

/-- The files of a candidate, in the order of their paths. -/
def storeFiles (tree : String → Option (List UInt8)) :
    List FileRecord → List String → Int → Objects → Except String (Objects × List StoredFile)
  | [], _, _, objects => .ok (objects, [])
  | raw :: rest, seen, total, objects => do
    let record ← normalizeFileRecord S fold raw
    check (record.path ∉ seen) "Candidate manifest contains duplicates."
    let held ← storeContent S tree record total objects
    let later ← storeFiles tree rest (record.path :: seen)
      (if record.kind = "file" then total + record.size else total) held.1
    return (later.1, ⟨record, held.2⟩ :: later.2)

/-- The files, in the order of their paths. -/
def sortedFiles (files : List FileRecord) : List FileRecord :=
  files.insertionSort fun a b => a.path ≤ b.path

/-- The changes, in the order of their paths. -/
def sortedChanges (changes : List Change) : List Change :=
  changes.insertionSort fun a b => a.path ≤ b.path

/-- `store_candidate`: the objects, and the descriptors of the manifest and the changeset. -/
def storeCandidate (tree : String → Option (List UInt8)) (candidateFiles : List FileRecord)
    (changes : List Change) (sourceFingerprint : String) (source : SourceIdentity)
    (objects : Objects) :
    Except String (Objects × ArtifactDescriptor × ArtifactDescriptor) := do
  check (isSha256 sourceFingerprint) "source_fingerprint must be a lowercase SHA-256 digest."
  check (candidateFiles.length ≤ maxCandidateFiles ∧ changes.length ≤ maxCandidateFiles)
    "Candidate file-count bound was exceeded."
  let source ← normalizeSourceIdentity source sourceFingerprint
  let held ← storeFiles S fold tree (sortedFiles candidateFiles) [] 0 objects
  check (portableUnique fold (held.2.map fun file => file.record.path))
    "Candidate manifest contains non-portable path collisions."
  let normalized ← changes.mapM (normalizeChange S fold)
  check ((sortedChanges normalized).map Change.path).Nodup "Changeset contains duplicate paths."
  check (portableUnique fold ((sortedChanges normalized).map Change.path))
    "Changeset contains non-portable path collisions."
  validateChanges (sortedChanges normalized) (held.2.map StoredFile.record)
  let changesetBytes ← codec.dumps
    (.changeset ⟨casSchemaVersion, sourceFingerprint, sortedChanges normalized⟩)
  check (changesetBytes.length ≤ maxCandidateMetadataBytes)
    "Candidate changeset byte bound was exceeded."
  let changeset ← putBytes S held.1 changesetBytes changesetType
  let manifestBytes ← codec.dumps (.manifest
    ⟨casSchemaVersion, sourceFingerprint, source, held.2, changeset.2⟩)
  check (manifestBytes.length ≤ maxCandidateMetadataBytes)
    "Candidate manifest byte bound was exceeded."
  let manifest ← putBytes S changeset.1 manifestBytes manifestType
  return (manifest.1, manifest.2, changeset.2)

/-! ## Loading -/

def Ordered (paths : List String) : Prop := paths.Pairwise (· ≤ ·) ∧ paths.Nodup

instance (paths : List String) : Decidable (Ordered paths) :=
  inferInstanceAs (Decidable (_ ∧ _))

def validatedManifestRecords (files : List StoredFile) : Except String (List StoredFile) := do
  files.forM fun file => do
    let record ← normalizeFileRecord S fold file.record
    check (record.kind = "missing" → file.content = none) "Missing candidate has content."
    check (record.kind = "file" → file.content.isSome) "Candidate content descriptor is missing."
  check (Ordered (files.map fun file => file.record.path))
    "Candidate manifest paths must be ordered and unique."
  check (portableUnique fold (files.map fun file => file.record.path))
    "Candidate manifest contains non-portable path collisions."
  return files

def validateStoredChangeset (changeset : Changeset) (sourceFingerprint : String)
    (files : List FileRecord) : Except String Unit := do
  check (changeset.schemaVersion = casSchemaVersion ∧
    changeset.sourceFingerprint = sourceFingerprint) "Candidate changeset binding is invalid."
  let normalized ← changeset.changes.mapM (normalizeChange S fold)
  check (Ordered (normalized.map Change.path))
    "Candidate changeset paths must be ordered and unique."
  check (portableUnique fold (normalized.map Change.path))
    "Candidate changeset contains non-portable path collisions."
  validateChanges normalized files

/-- The descriptors of the files, with the bounds of their sizes. -/
def validateContents : List StoredFile → Int → Except String Unit
  | [], _ => .ok ()
  | file :: rest, total =>
    if file.record.kind = "missing" then validateContents rest total
    else
      match file.content with
      | none => .error "Candidate content descriptor is missing."
      | some content => do
        content.check
        check (content.mediaType = contentType ∧ content.sha256 = file.record.sha256 ∧
          (content.sizeBytes : Int) = file.record.size)
          "Candidate content descriptor is incoherent."
        check ((content.sizeBytes : Int) ≤ maxCandidateFileBytes)
          "Candidate file byte bound was exceeded."
        check (total + content.sizeBytes ≤ maxCandidateTotalBytes)
          "Candidate total byte bound was exceeded."
        validateContents rest (total + content.sizeBytes)

def validatedDescriptors (objects : Objects) (manifestDescriptor : ArtifactDescriptor)
    (expectedChangeset : Option ArtifactDescriptor) : Except String (Manifest × Changeset) := do
  check (manifestDescriptor.mediaType = manifestType)
    "Candidate manifest media type is invalid."
  let manifest ← (← getJson S codec objects manifestDescriptor).asManifest
  check (manifest.schemaVersion = casSchemaVersion) "Candidate manifest schema is unsupported."
  check (isSha256 manifest.sourceFingerprint)
    "source_fingerprint must be a lowercase SHA-256 digest."
  let _ ← normalizeSourceIdentity manifest.source manifest.sourceFingerprint
  manifest.changeset.check
  check (manifest.changeset.mediaType = changesetType)
    "Candidate changeset media type is invalid."
  check (expectedChangeset.all (· = manifest.changeset))
    "Candidate manifest does not bind the requested changeset."
  let files ← validatedManifestRecords S fold manifest.files
  let changeset ← (← getJson S codec objects manifest.changeset).asChangeset
  validateStoredChangeset S fold changeset manifest.sourceFingerprint
    (files.map StoredFile.record)
  check (files.length ≤ maxCandidateFiles) "Candidate manifest file-count bound was exceeded."
  validateContents files 0
  return (manifest, changeset)

/-- `load_candidate`: every artifact is read and digested. -/
def loadCandidate (objects : Objects) (manifestDescriptor changesetDescriptor : ArtifactDescriptor) :
    Except String (Manifest × Changeset) := do
  let loaded ←
    validatedDescriptors S fold codec objects manifestDescriptor (some changesetDescriptor)
  loaded.1.files.forM fun file =>
    match file.content with
    | none => .ok ()
    | some content => do
      let _ ← readVerified S objects content
  return loaded

end Store

end LocalMoe.Cas
