/-
  Materializing a candidate, and what staging asks of the tree.

  The process that makes the tree and looks at it is the owner of what is in it.
-/
import LocalMoe.Cas.Store

namespace LocalMoe.Cas

open Contracts Foundation

/-! ## Trees -/

/-- `WorkspaceScopePolicy`, with the functions that its paths go through: `nfc` composes the
characters of a path, and `casefold` folds it. -/
structure WorkspaceScopePolicy where
  maxFiles : Nat
  maxTotalBytes : Nat
  maxFileBytes : Nat
  /-- The paths of the rules, each with its direction. -/
  ignoredPaths : List (String × String)
  nfc : String → String
  casefold : String → String

structure File where
  content : List UInt8
  mode : BitVec 9
  deriving DecidableEq, Repr

/-- A tree that one process has made: its directories all have the same rights for their owner. -/
structure Tree where
  directory : BitVec 9
  files : List (String × File)
  deriving DecidableEq, Repr

def modeOf (record : FileRecord) : BitVec 9 := BitVec.ofNat 9 record.mode.toNat

def isBelow (path other : String) : Bool :=
  (partsOf other).isPrefixOf (partsOf path) && path != other

/-- A file of a source tree is read by its path; nothing lies below a file. -/
structure SourceTree where
  read : String → Option (List UInt8)
  files_end : ∀ path other, (read path).isSome → (read other).isSome → isBelow path other = false

section Rights

variable (privileged : Bool)

def mayRead (mode : BitVec 9) : Bool := privileged || mode.getLsbD 8

def mayWrite (mode : BitVec 9) : Bool := privileged || mode.getLsbD 7

def maySearch (mode : BitVec 9) : Bool := privileged || mode.getLsbD 6

end Rights

/-! ## Materializing -/

section Materialize

variable (S : Stdlib) (fold : Fold) (codec : Codec) (privileged : Bool) (umask : BitVec 9)

/-- A file as it is created: `os.open` takes the bits of the mask away. -/
def createFile (objects : Objects) (file : StoredFile) : Option (String × File) := do
  let content ← file.content
  let value ← (readVerified S objects content).toOption
  return (file.record.path, ⟨value, modeOf file.record &&& ~~~umask⟩)

def regularFiles (files : List StoredFile) : List StoredFile :=
  files.filter fun file => file.content.isSome

/-- The tree that is made of the files, unless it cannot be made. -/
def makeTree (objects : Objects) (files : List StoredFile) : Option Tree :=
  let directory := 0o700#9 &&& ~~~umask
  let regular := regularFiles files
  if regular.any fun file => regular.any fun other => isBelow file.record.path other.record.path then
    none
  else if !regular.isEmpty && !(mayWrite privileged directory && maySearch privileged directory) then
    none
  else do
    let made ← regular.mapM (createFile S umask objects)
    return ⟨directory, made⟩

def materializeCandidate (objects : Objects) (manifestDescriptor : ArtifactDescriptor) :
    Option Tree := do
  let loaded ← (validatedDescriptors S fold codec objects manifestDescriptor none).toOption
  makeTree S privileged umask objects loaded.1.files

end Materialize

/-! ## Staging -/

section Stage

variable (S : Stdlib) (privileged : Bool) (policy : WorkspaceScopePolicy)

def safeRelative (value : String) : Option String :=
  let slashed := String.ofList (value.toList.map fun c => if c = '\\' then '/' else c)
  let parts := (partsOf (policy.nfc slashed)).filter fun part => part != "" && part != "."
  if parts.isEmpty || parts.contains ".." || (policy.nfc slashed).toList.contains '\x00' ||
      parts.head? = some ".git" then none
  else some ("/".intercalate parts)

/-- `_inspect_regular_file`: nothing where there is no file; it may raise. -/
def inspectFile (files : List (String × File)) (path : String) : Option (Option File) :=
  match files.lookup path with
  | some file =>
    if mayRead privileged file.mode && decide (file.content.length ≤ policy.maxFileBytes) then
      some (some file)
    else none
  | none =>
    if files.any fun entry => isBelow entry.1 path || isBelow path entry.1 then none
    else some none

def directionOf (path : String) : String := (policy.ignoredPaths.lookup path).getD "round_trip"

/-- The loop of `_manifest_files`. -/
def manifestLoop (files : List (String × File)) : List String → Nat → Option (List FileRecord)
  | [], _ => some []
  | path :: rest, total =>
    match inspectFile privileged policy files path with
    | none => none
    | some none => do
      let later ← manifestLoop files rest total
      return ⟨path, "missing", S.sha256 [], 0, 0, directionOf policy path⟩ :: later
    | some (some file) =>
      if policy.maxTotalBytes < total + file.content.length then none
      else do
        let later ← manifestLoop files rest (total + file.content.length)
        return ⟨path, "file", S.sha256 file.content, file.content.length, file.mode.toNat,
          directionOf policy path⟩ :: later

def manifestFiles (files : List (String × File)) (paths : List String) : Option (List FileRecord) := do
  let relative ← paths.mapM (safeRelative policy)
  let clean := (relative.insertionSort (· ≤ ·)).dedup
  if !(clean.map policy.casefold).Nodup then none
  else if policy.maxFiles < clean.length then none
  else manifestLoop S privileged policy files clean 0

/-- A path without a directory `.git`, which the walk leaves out. -/
def isWalked (path : String) : Bool := (partsOf path).dropLast.all fun part => part != ".git"

/-- The files of a tree that can be walked. -/
def snapshotFiles (files : List (String × File)) : Option (List FileRecord) := do
  let walked ← ((files.map Prod.fst).filter isWalked).mapM (safeRelative policy)
  let ignored := (policy.ignoredPaths.map Prod.fst).filter fun path => !walked.contains path
  manifestFiles S privileged policy files (walked ++ ignored)

/-- `snapshot_materialized`: the root is opened, and what is in it is looked at. -/
def snapshotMaterialized (tree : Tree) : Option (List FileRecord) :=
  if !mayRead privileged tree.directory then none
  else if !maySearch privileged tree.directory &&
      (!tree.files.isEmpty || !policy.ignoredPaths.isEmpty) then none
  else snapshotFiles S privileged policy tree.files

def withExpectedMissing (observed expected : List FileRecord) : List FileRecord :=
  sortedFiles (observed ++ expected.filter fun record =>
    record.kind = "missing" && !(observed.map FileRecord.path).contains record.path)

def attestedFile (files : List (String × File)) (expected : FileRecord) : Bool :=
  expected.kind = "file" && decide (0 ≤ expected.size ∧ expected.size ≤ policy.maxFileBytes) &&
    match (safeRelative policy expected.path).bind fun path =>
        (inspectFile privileged policy files path).join with
    | none => false
    | some file => (file.content.length : Int) = expected.size &&
        (file.mode.toNat : Int) = expected.mode && S.sha256 file.content = expected.sha256

/-- `_stage_attested_candidate`, without the copies it makes: the tree is accepted. -/
def stageAttested (tree : Tree) (expected : List FileRecord) (changes : List Change) : Bool :=
  match snapshotMaterialized S privileged policy tree with
  | none => false
  | some observed => withExpectedMissing observed expected = expected &&
      changes.all fun change => match change.after with
        | none => true
        | some after => after.kind = "missing" || attestedFile S privileged policy tree.files after

end Stage

/-! ## The promise -/

section Promise

variable (S : Stdlib) (fold : Fold) (codec : Codec) (privileged : Bool) (umask : BitVec 9)
  (policy : WorkspaceScopePolicy)

def recordedFiles (tree : SourceTree) (records : List FileRecord) : List (String × File) :=
  (records.filter fun record => record.kind = "file").map fun record =>
    (record.path, ⟨(tree.read record.path).getD [], modeOf record⟩)

/-- The candidate is rebuilt as it is recorded, and accepted. -/
def Rebuilt (tree : SourceTree) (objects : Objects) (manifestDescriptor : ArtifactDescriptor)
    (records : List FileRecord) (changes : List Change) : Prop :=
  ∃ made, materializeCandidate S fold codec privileged umask objects manifestDescriptor =
    some made ∧ made.files = recordedFiles tree records ∧
      stageAttested S privileged policy made records changes = true

/-- The mask takes nothing away that is needed: no bit of a recorded mode, and no right of the
owner on the directories. -/
structure Harmless (records : List FileRecord) : Prop where
  modes : ∀ record ∈ records, record.kind = "file" → modeOf record &&& umask = 0
  read : mayRead privileged (0o700#9 &&& ~~~umask) = true
  search : (∃ record ∈ records, record.kind = "file") ∨ policy.ignoredPaths ≠ [] →
    maySearch privileged (0o700#9 &&& ~~~umask) = true
  write : (∃ record ∈ records, record.kind = "file") →
    mayWrite privileged (0o700#9 &&& ~~~umask) = true

/-- The workspace policy accepts the records, for a tree of exactly these files. -/
def InScope (tree : SourceTree) (records : List FileRecord) (changes : List Change) : Prop :=
  stageAttested S privileged policy ⟨0o700#9, recordedFiles tree records⟩ records changes = true

end Promise

end LocalMoe.Cas
