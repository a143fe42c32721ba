/-
  The run directory as the filesystem has it.
-/
import LocalMoe.Paired.Journal

namespace LocalMoe.Paired

open Foundation Contracts Canary

/-! ## Files -/

/-- What is installed: `run.json`, or an event under its ordinal, its kind and its digest. -/
inductive Target where
  | root
  | event (ordinal : Nat) (event : Event)
  deriving DecidableEq

/-- A name in the run directory or in its events directory. -/
inductive Name where
  | file (target : Target)
  /-- `.{path.name}.{pid}.{token}.tmp`. -/
  | temporary (target : Target) (token : Nat)
  deriving DecidableEq

def Name.target : Name → Target
  | .file target | .temporary target _ => target

def Name.inEvents (name : Name) : Bool :=
  match name.target with
  | .root => false
  | .event .. => true

/-- The order of the names of the events directory: a dot comes before a digit. -/
def Name.key : Name → Nat
  | .file (.event ordinal _) => ordinal + 1
  | .file .root | .temporary .. => 0

/-- The bytes of a file. -/
inductive Content where
  | unfinished
  | root (root : PairedRunRoot)
  | event (event : Event)
  deriving DecidableEq

structure FileRecord where
  inode : Nat
  content : Content
  /-- `st_nlink`. -/
  links : Nat
  deriving DecidableEq

structure Directory where
  /-- Whether the run directory, `run.lock` and the events directory are there. -/
  made : Bool
  lock : Bool
  events : Bool
  files : List (Name × FileRecord)
  /-- The inodes and tokens handed out so far. -/
  inodes : Nat

/-- The parent directory before any store has been prepared. -/
def Directory.init : Directory := ⟨false, false, false, [], 0⟩

def Directory.find (d : Directory) (name : Name) : Option FileRecord :=
  (d.files.find? fun file => file.1 = name).map Prod.snd

def Directory.eventFiles (d : Directory) : List (Name × FileRecord) :=
  d.files.filter fun file => file.1.inEvents

/-! ## The reader -/

/-- `_list_event_artifacts`, one name. -/
def artifact (expected : Nat) : Name × FileRecord → Except PairedError (Event × FileRecord)
  | (.file (.event ordinal event), file) => do
    check (ordinal = expected)
      (.routing "Paired event ordinals must be contiguous from zero.")
    check (file.links = 1) (.routing "paired event file must have exactly one hard link.")
    pure (event, file)
  | _ => .error (.routing "Paired event directory contains extra file.")

/-- `_list_event_artifacts`, the names in order. -/
def artifacts : Nat → List (Name × FileRecord) → Except PairedError (List (Event × FileRecord))
  | _, [] => pure []
  | expected, file :: rest => do
    let first ← artifact expected file
    let others ← artifacts (expected + 1) rest
    pure (first :: others)

def Directory.listEventArtifacts (d : Directory) :
    Except PairedError (List (Event × FileRecord)) := do
  check (d.eventFiles.length ≤ 4) (.routing "Paired event directory contains extra files.")
  artifacts 0 (d.eventFiles.insertionSort fun a b => a.1.key ≤ b.1.key)

/-- The bytes of an artifact against its immutable name. -/
def readArtifact (file : Event × FileRecord) : Except PairedError Event := do
  check (file.2.content = .event file.1)
    (.routing "Paired event digest disagrees with its immutable name.")
  pure file.1

/-- `_read_unlocked` on the directory. -/
def Directory.read (d : Directory) :
    Except PairedError (Option (PairedRunRoot × JournalState)) :=
  match d.find (.file .root) with
  | none => do
    check (d.events = false)
      (.routing "Paired store is corrupt: events exist without run.json.")
    pure none
  | some file => do
    check (file.links = 1) (.routing "paired run root must have exactly one hard link.")
    match file.content with
    | .root root =>
      if d.events = false then pure (some (root, ⟨[], [], none⟩))
      else do
        let listed ← d.listEventArtifacts
        let events ← listed.mapM readArtifact
        let s ← readUnlocked root events
        pure (some (root, s))
    | .unfinished | .event _ => .error (.routing "Paired store run.json is corrupt.")

/-- `status`, up to who owns the open claim. -/
def Directory.status (d : Directory) :
    Except PairedError (Option (PairedRunRoot × JournalState)) :=
  if d.made = false then pure none
  else if d.lock = false then do
    check (d.files = [] ∧ d.events = false)
      (.routing "Paired store is corrupt: journal artifacts exist without run.lock.")
    pure none
  else d.read

/-! ## System calls -/

/-- A system call that changes the directory, or a sync or a mode that does not. -/
inductive Syscall where
  | makeDirectory
  | makeLock
  | makeEvents
  | create (name : Name)
  | write (name : Name) (content : Content)
  | link (old new : Name)
  | unlink (name : Name)
  | sync
  deriving DecidableEq

def relink (inode : Nat) (links : Nat → Nat) (files : List (Name × FileRecord)) :
    List (Name × FileRecord) :=
  files.map fun file =>
    if file.2.inode = inode then (file.1, { file.2 with links := links file.2.links })
    else file

def Directory.call (d : Directory) : Syscall → Directory
  | .makeDirectory => { d with made := true }
  | .makeLock => { d with lock := true }
  | .makeEvents => { d with events := true }
  | .create name =>
    { d with files := d.files ++ [(name, ⟨d.inodes, .unfinished, 1⟩)], inodes := d.inodes + 1 }
  | .write name content =>
    { d with files := d.files.map fun file =>
        if file.1 = name then (file.1, { file.2 with content := content }) else file }
  | .link old new =>
    match d.find old, d.find new with
    | some file, none =>
      { d with
        files := relink file.inode (· + 1) d.files ++
          [(new, { file with links := file.links + 1 })] }
    | _, _ => d
  | .unlink name =>
    match d.find name with
    | none => d
    | some file =>
      { d with
        files := relink file.inode (· - 1)
          (d.files.filter fun other => other.1 ≠ name) }
  | .sync => d

/-- System calls one after the other. -/
def Directory.run (d : Directory) (calls : List Syscall) : Directory :=
  calls.foldl Directory.call d

/-- `_atomic_install` from the first write on; `short` writes leave something to write. -/
def writing (target : Target) (token : Nat) (content : Content) : Nat → List Syscall
  | 0 =>
    [.write (.temporary target token) content, .sync,
      .link (.temporary target token) (.file target), .sync,
      .unlink (.temporary target token), .sync]
  | short + 1 =>
    .write (.temporary target token) .unfinished :: writing target token content short

/-- `_atomic_install`, in a directory that has handed out `token` inodes. -/
def atomicInstall (target : Target) (token : Nat) (content : Content) (short : Nat) :
    List Syscall :=
  .create (.temporary target token) :: .sync :: writing target token content short

/-! ## The operations -/

/-- An operation of a process; `short` is the number of short writes. -/
inductive Operation where
  | prepare (root : PairedRunRoot) (short : Nat)
  | claim (m : Memory) (slot : SlotArgument) (short : Nat)
  | complete (m : Memory) (binding : PairedOutcomeBinding) (evidence : Evidence)
      (short : Nat)

def Directory.append (d : Directory) (event : Event) (short : Nat) : List Syscall :=
  (if d.events then [] else [.makeEvents, .sync]) ++
    atomicInstall (.event d.eventFiles.length event) d.inodes (.event event) short

/-- `_locked`: the directory of a prepare and the lock file. -/
def Directory.setup (d : Directory) : Operation → List Syscall
  | .prepare .. =>
    (if d.made then [] else [.makeDirectory]) ++ .sync ::
      if d.lock then [] else [.makeLock, .sync]
  | .claim .. | .complete .. =>
    if d.made && !d.lock then [.makeLock, .sync] else []

/-- What an operation installs, given what it reads. -/
def Directory.install (d : Directory) (state : Option (PairedRunRoot × JournalState)) :
    Operation → List Syscall
  | .prepare root short =>
    match state with
    | some _ => []
    | none => atomicInstall .root d.inodes (.root root) short
  | .claim m slot short =>
    match state with
    | none => []
    | some (root, s) =>
      match nextClaim m slot root s with
      | .error _ => []
      | .ok claim => d.append (.claim claim) short
  | .complete m binding evidence short =>
    match state with
    | none => []
    | some (root, s) =>
      match m.assertProcessIdentity, PairedRunCheckpoint.build binding evidence with
      | .ok (), .ok built =>
        match nextCheckpoint m binding built root s with
        | .ok (checkpoint, true) => d.append (.checkpoint checkpoint) short
        | _ => []
      | _, _ => []

def Directory.calls (d : Directory) (op : Operation) : List Syscall :=
  d.setup op ++
    match d.read with
    | .error _ => []
    | .ok state => d.install state op

/-- What an operation leaves that is killed after some of its system calls; one that is not
killed makes them all. -/
def Directory.killed (d : Directory) (op : Operation) (made : Nat) : Directory :=
  d.run ((d.calls op).take made)

/-- What an operation leaves that is not killed. -/
def Directory.finished (d : Directory) (op : Operation) : Directory := d.run (d.calls op)

/-- The run directory under operations that may be killed; the output is what `status`
answers a process that comes next. -/
def journal :
    Machine Directory (Operation × Nat)
      (Except PairedError (Option (PairedRunRoot × JournalState))) where
  init := .init
  step d input := ((d.killed input.1 input.2).status, d.killed input.1 input.2)

end LocalMoe.Paired
