/-
  The digest of an artifact directory.

  The walk reads a directory tree that does not change meanwhile: a second look at an entry
  shows what the first one did, so the comparisons of the two are left out.
-/
import LocalMoe.Contracts.VerifiedRouting
import LocalMoe.Foundation.Checked

namespace LocalMoe.Artifact

open Foundation Contracts

/-- How the walk fails. -/
inductive ArtifactError where
  /-- `CellContractError`. -/
  | contract (message : String)
  /-- `ArtifactTreeLimitError`. -/
  | limit (message : String)
  /-- `SecureFileLimitError`. -/
  | fileLimit (message : String)
  deriving DecidableEq, Repr

/-! ## Bounds -/

def hardMaxFiles : Nat := 100000

/-- `HARD_MAX_TOTAL_BYTES`, and `HARD_MAX_FILE_BYTES`. -/
def hardMaxTotalBytes : Nat := 2 * 1024 ^ 4

def hardMaxDepth : Nat := 64

structure ArtifactTreeLimits where
  maxFiles : Nat
  maxTotalBytes : Nat
  maxDepth : Nat
  maxFileBytes : Nat
  files_range : 1 ≤ maxFiles ∧ maxFiles ≤ hardMaxFiles
  total_range : 1 ≤ maxTotalBytes ∧ maxTotalBytes ≤ hardMaxTotalBytes
  depth_range : 1 ≤ maxDepth ∧ maxDepth ≤ hardMaxDepth
  file_range : 1 ≤ maxFileBytes ∧ maxFileBytes ≤ hardMaxTotalBytes

/-! ## Trees -/

/-- `os.stat_result` of a regular file; `_stable_fields` compares all of it. -/
structure FileStat where
  device : Nat
  inode : Nat
  mode : Nat
  size : Nat
  mtimeNs : Int
  ctimeNs : Int
  links : Nat
  deriving DecidableEq

/-- An entry of a directory. -/
inductive Node where
  | file (stat : FileStat) (content : List UInt8)
  | directory (entries : List (String × Node))
  /-- A symbolic link, or another reparse point. -/
  | link
  /-- A device, a pipe or a socket. -/
  | special

/-! ## Entries -/

def hardlinkKey (observed : FileStat) : Option (Nat × Nat) :=
  if observed.device ≠ 0 ∧ observed.inode ≠ 0 ∧ 1 < observed.links then
    some (observed.device, observed.inode)
  else none

/-- `PurePosixPath(*relative_parts).as_posix()`: none of the names is empty, a dot or holds a
slash. -/
def posixPath (parts : List String) : String :=
  String.ofList (List.intercalate ['/'] (parts.map String.toList))

/-- `value.split("/")`. -/
def rawParts (value : String) : List (List Char) := value.toList.splitOn '/'

/-- `_relative_path`: without empty parts and dots, the path is its own POSIX form. -/
def relativePath (value label : String) : Except ArtifactError String := do
  check (value ≠ "" ∧ '\\' ∉ value.toList ∧ '\x00' ∉ value.toList)
    (.contract (label ++ " must be a relative POSIX path."))
  check (∀ part ∈ rawParts value, part ∉ [[], ['.'], ['.', '.']])
    (.contract (label ++ " must stay below its artifact root."))
  return value

structure ArtifactTreeEntry where
  path : String
  sizeBytes : Nat
  sha256 : String
  deriving DecidableEq

def ArtifactTreeEntry.make (path : String) (sizeBytes : Nat) (sha256 : String) :
    Except ArtifactError ArtifactTreeEntry := do
  let path ← relativePath path "artifact path"
  check (sizeBytes ≤ hardMaxTotalBytes)
    (.contract "artifact size_bytes exceeds the supported bound.")
  check (isSha256 sha256 = true)
    (.contract "artifact sha256 must be a lowercase SHA-256 digest.")
  return ⟨path, sizeBytes, sha256⟩

def ArtifactTreeEntry.payload (entry : ArtifactTreeEntry) : Json :=
  .obj [("path", .str entry.path), ("size_bytes", .int entry.sizeBytes),
    ("sha256", .str entry.sha256)]

structure ArtifactTreeIdentity where
  kind : String
  entries : List ArtifactTreeEntry
  fileCount : Nat
  totalBytes : Nat
  hashedBytes : Nat
  digest : String
  deriving DecidableEq

variable (S : Stdlib)

def identityContent (kind : String) (entries : List ArtifactTreeEntry)
    (fileCount totalBytes : Nat) : Json :=
  .obj [("kind", .str kind), ("entries", .arr (entries.map ArtifactTreeEntry.payload)),
    ("file_count", .int fileCount), ("total_bytes", .int totalBytes)]

/-- Entries in the order of their paths. -/
def sortEntries (entries : List ArtifactTreeEntry) : List ArtifactTreeEntry :=
  entries.insertionSort fun a b => a.path ≤ b.path

/-- `ArtifactTreeIdentity.__post_init__`, without a digest to compare. -/
def ArtifactTreeIdentity.make (kind : String) (entries : List ArtifactTreeEntry)
    (fileCount totalBytes hashedBytes : Nat) : Except ArtifactError ArtifactTreeIdentity := do
  check (kind = "directory" ∨ kind = "file")
    (.contract "Artifact identity kind is unsupported.")
  check (entries = sortEntries entries) (.contract "Artifact entries must be sorted by path.")
  check (entries.map ArtifactTreeEntry.path).Nodup
    (.contract "Artifact entry paths must be unique.")
  check (fileCount ≤ hardMaxFiles) (.contract "file_count exceeds the supported bound.")
  check (totalBytes ≤ hardMaxTotalBytes) (.contract "total_bytes exceeds the supported bound.")
  check (hashedBytes ≤ hardMaxTotalBytes) (.contract "hashed_bytes exceeds the supported bound.")
  check (fileCount = entries.length ∧
      totalBytes = (entries.map ArtifactTreeEntry.sizeBytes).sum)
    (.contract "Artifact identity counts do not match its entries.")
  check (hashedBytes ≤ totalBytes) (.contract "hashed_bytes cannot exceed total_bytes.")
  check (kind = "file" → fileCount = 1)
    (.contract "A file artifact identity must contain one entry.")
  return ⟨kind, entries, fileCount, totalBytes, hashedBytes,
    S.sha256Json (identityContent kind entries fileCount totalBytes)⟩

/-! ## The walk -/

/-- What `hardlinks` keeps of a file: its digest, its size and its stable fields. -/
structure Cached where
  digest : String
  size : Nat
  fields : FileStat

/-- What the walk accumulates about the files: `entries`, `hardlinks` and `totals`. -/
structure Hashed where
  entries : List ArtifactTreeEntry
  hardlinks : List ((Nat × Nat) × Cached)
  total : Nat
  hashed : Nat

structure Walk where
  visited : Nat
  files : Hashed

variable (limits : ArtifactTreeLimits)

/-- `hash_bounded_regular_descriptor`: the digest of the content and its length. -/
def hashBoundedRegularDescriptor (stat : FileStat) (content : List UInt8) (maximumBytes : Nat)
    (label : String) : Except ArtifactError (String × Nat) := do
  check (1 ≤ maximumBytes) (.contract "maximum_bytes must be a positive integer.")
  check (stat.size ≤ maximumBytes) (.fileLimit (label ++ " exceeds the bounded size limit."))
  check (content.length ≤ maximumBytes)
    (.fileLimit (label ++ " exceeds the bounded size limit."))
  check (content.length = stat.size)
    (.contract (label ++ " changed while it was being hashed."))
  return (S.sha256 content, content.length)

/-- The digest of a file that no earlier link has shown. -/
def hashFresh (stat : FileStat) (content : List UInt8) (seen : Hashed) :
    Except ArtifactError (String × Hashed) := do
  let remaining := limits.maxTotalBytes - seen.total
  check (1 ≤ remaining) (.limit "Artifact tree exceeds the configured byte bound.")
  let (digest, observedSize) ← hashBoundedRegularDescriptor S stat content
    (min limits.maxFileBytes remaining) "artifact file"
  check (observedSize = stat.size)
    (.contract "Artifact file changed while it was being hashed.")
  return (digest, { seen with
    hashed := seen.hashed + observedSize
    hardlinks := match hardlinkKey stat with
      | none => seen.hardlinks
      | some key => (key, ⟨digest, observedSize, stat⟩) :: seen.hardlinks })

/-- A regular file of the walk. -/
def hashFile (relative : List String) (stat : FileStat) (content : List UInt8) (seen : Hashed) :
    Except ArtifactError Hashed := do
  check (stat.size ≤ limits.maxFileBytes)
    (.limit "Artifact file exceeds the configured byte bound.")
  check (seen.total + stat.size ≤ limits.maxTotalBytes)
    (.limit "Artifact tree exceeds the configured byte bound.")
  let (digest, next) ←
    match (hardlinkKey stat).bind fun key => seen.hardlinks.lookup key with
    | none => hashFresh S limits stat content seen
    | some cached => do
      check (cached.size = stat.size ∧ cached.fields = stat)
        (.contract "Hard-linked artifact identity is inconsistent.")
      pure (cached.digest, seen)
  let path ← relativePath (posixPath relative) "artifact path"
  let entry ← ArtifactTreeEntry.make path stat.size digest
  return { next with
    entries := next.entries ++ [entry]
    total := seen.total + stat.size }

/-- The enumeration of a directory counts its entries one by one. -/
def enumerate : List (String × Node) → Nat → Except ArtifactError Nat
  | [], visited => .ok visited
  | _ :: rest, visited => do
    check (visited < limits.maxFiles)
      (.limit "Artifact tree exceeds the configured entry bound.")
    enumerate rest (visited + 1)

mutual

/-- What the walk does with one entry of a directory. -/
def walkNode (relative : List String) (depth : Nat) : Node → Walk → Except ArtifactError Walk
  | .link, _ => .error (.contract "Artifact links and reparse points are not allowed.")
  | .special, _ => .error (.contract "Artifact tree contains a special file.")
  | .file stat content, walk => do
    let files ← hashFile S limits relative stat content walk.files
    return { walk with files }
  | .directory entries, walk => do
    let visited ← enumerate limits entries walk.visited
    walkEntries relative depth entries { walk with visited }

/-- The loop over the names of a directory. -/
def walkEntries (relative : List String) (depth : Nat) :
    List (String × Node) → Walk → Except ArtifactError Walk
  | [], walk => .ok walk
  | (name, node) :: rest, walk => do
    check (name ∉ ["", ".", ".."])
      (.contract "Artifact directory contains an invalid name.")
    check (depth + 1 ≤ limits.maxDepth)
      (.limit "Artifact tree exceeds the configured depth bound.")
    let walk ← walkNode (relative ++ [name]) (depth + 1) node walk
    walkEntries relative depth rest walk

end

def walkDirectory (relative : List String) (depth : Nat) (entries : List (String × Node))
    (walk : Walk) : Except ArtifactError Walk :=
  walkNode S limits relative depth (.directory entries) walk

def hashDirectoryDescriptor (entries : List (String × Node)) :
    Except ArtifactError ArtifactTreeIdentity := do
  let walk ← walkDirectory S limits [] 0 entries ⟨0, ⟨[], [], 0, 0⟩⟩
  let ordered := sortEntries walk.files.entries
  check (ordered ≠ []) (.contract "Artifact directory must contain at least one file.")
  ArtifactTreeIdentity.make S "directory" ordered ordered.length walk.files.total
    walk.files.hashed

end LocalMoe.Artifact
