/-
  `build_changeset` and `_artifact_workspace_state`.
-/
import LocalMoe.Foundation.Dict
import LocalMoe.Foundation.Checked
import LocalMoe.Workspace.Datum

namespace LocalMoe.Workspace

open Foundation

/-! ## Records -/

/-- `WorkspaceFile`; a stored record may hold any value in a field. -/
structure WorkspaceFile where
  path : Datum
  kind : Datum
  sha256 : Datum
  size : Datum
  mode : Datum
  direction : Datum
  deriving DecidableEq

structure WorkspaceChange where
  path : Datum
  before : Option WorkspaceFile
  after : Option WorkspaceFile
  deriving DecidableEq

def unhashable : String := "unhashable type"

def incomparable : String := "'<' not supported between instances"

/-- `{item.path: item for item in files}`. -/
def byPath (files : List WorkspaceFile) : Except String (List WorkspaceFile) := do
  check (files.all fun file => file.path.hashable) unhashable
  return Table.build WorkspaceFile.path files

abbrev recordOf (dict : List WorkspaceFile) (path : Datum) : Option WorkspaceFile :=
  Table.lookup WorkspaceFile.path dict path

/-- `tuple(sorted(dict.values()))`; the paths decide, as no two are equal. -/
def sortedFiles (dict : List WorkspaceFile) : Except String (List WorkspaceFile) := do
  check (Datum.sortable (dict.map WorkspaceFile.path)) incomparable
  return dict.insertionSort fun a b => a.path.le b.path

/-- `sorted(set(before) | set(after))`. -/
def sortedPaths (before after : List WorkspaceFile) : Except String (List Datum) := do
  let paths := before.map WorkspaceFile.path ∪ after.map WorkspaceFile.path
  check (Datum.sortable paths) incomparable
  return paths.insertionSort fun a b => a.le b

/-! ## Building a changeset -/

/-- The record is an ignored input. -/
def inputOnly (file : WorkspaceFile) : Bool := decide (file.direction = .text "input_only")

/-- The loop of `build_changeset`. -/
def changesOf (before after : List WorkspaceFile) :
    List Datum → Except String (List WorkspaceChange)
  | [] => .ok []
  | path :: rest =>
    let left := recordOf before path
    let right := recordOf after path
    if left ≠ right then do
      check (!left.any inputOnly && !right.any inputOnly)
        "An input_only ignored artifact was modified by the candidate."
      let changes ← changesOf before after rest
      return ⟨path, left, right⟩ :: changes
    else changesOf before after rest

def buildChangeset (baseline candidate : List WorkspaceFile) :
    Except String (List WorkspaceChange) := do
  let before ← byPath baseline
  let after ← byPath candidate
  let paths ← sortedPaths before after
  changesOf before after paths

/-! ## Storing -/

def WorkspaceFile.payload (file : WorkspaceFile) : Datum :=
  .dict [("direction", file.direction), ("kind", file.kind), ("mode", file.mode),
    ("path", file.path), ("sha256", file.sha256), ("size", file.size)]

/-- A record of a manifest, with the descriptor of its content or `None`. -/
def WorkspaceFile.stored (file : WorkspaceFile) (content : Datum) : Datum :=
  .dict [("content", content), ("direction", file.direction), ("kind", file.kind),
    ("mode", file.mode), ("path", file.path), ("sha256", file.sha256), ("size", file.size)]

/-- `None` or the payload of a record. -/
def optionalPayload : Option WorkspaceFile → Datum
  | none => .none
  | some file => file.payload

def WorkspaceChange.payload (change : WorkspaceChange) : Datum :=
  .dict [("after", optionalPayload change.after), ("before", optionalPayload change.before),
    ("path", change.path)]

/-- The manifest of a candidate, as the store writes it. -/
def manifestPayload (changeset schemaVersion source sourceFingerprint : Datum)
    (content : WorkspaceFile → Datum) (files : List WorkspaceFile) : List (String × Datum) :=
  [("changeset", changeset), ("files", .list (files.map fun file => file.stored (content file))),
    ("schemaVersion", schemaVersion), ("source", source), ("sourceFingerprint", sourceFingerprint)]

/-- The changeset of a candidate, as the store writes it. -/
def changesetPayload (schemaVersion sourceFingerprint : Datum) (changes : List WorkspaceChange) :
    List (String × Datum) :=
  [("changes", .list (changes.map WorkspaceChange.payload)), ("schemaVersion", schemaVersion),
    ("sourceFingerprint", sourceFingerprint)]

/-! ## Reading back -/

def recordFields : List String := ["path", "kind", "sha256", "size", "mode", "direction"]

def workspaceFile (value : Datum) (contentField : Bool) : Except String WorkspaceFile :=
  match value with
  | .dict entries => do
    let expected := if contentField then "content" :: recordFields else recordFields
    check ((entries.map Prod.fst).all (· ∈ expected) &&
      expected.all (· ∈ entries.map Prod.fst)) "Candidate file record shape is invalid."
    let field name := (entries.lookup name).getD .none
    return ⟨field "path", field "kind", field "sha256", field "size", field "mode",
      field "direction"⟩
  | _ => .error "Candidate file record is invalid."

/-- `None` or a record. -/
def optionalFile : Datum → Except String (Option WorkspaceFile)
  | .none => .ok none
  | value => some <$> workspaceFile value false

def workspaceChange (raw : Datum) : Except String WorkspaceChange :=
  match raw with
  | .dict entries => do
    let field name := (entries.lookup name).getD .none
    let path := field "path"
    let before ← optionalFile (field "before")
    let after ← optionalFile (field "after")
    check (path.isText && before.all (·.path = path) && after.all (·.path = path))
      "Candidate change path binding is invalid."
    return ⟨path, before, after⟩
  | _ => .error "Candidate change record is invalid."

def takeBack (source : List WorkspaceFile) (change : WorkspaceChange) : List WorkspaceFile :=
  match change.before with
  | none => Table.delete WorkspaceFile.path source change.path
  | some before => Table.put WorkspaceFile.path source before

/-- `_artifact_workspace_state`: the source, the candidate and the changes. -/
def artifactWorkspaceState (manifest changeset : List (String × Datum)) :
    Except String (List WorkspaceFile × List WorkspaceFile × List WorkspaceChange) :=
  match manifest.lookup "files", changeset.lookup "changes" with
  | some (.list rawFiles), some (.list rawChanges) => do
    let candidateFiles ← rawFiles.mapM (workspaceFile · true)
    let candidate ← byPath candidateFiles
    let changes ← rawChanges.mapM workspaceChange
    let sourceFiles ← sortedFiles (changes.foldl takeBack candidate)
    let expected ← buildChangeset sourceFiles candidateFiles
    check (changes = expected) "Candidate changeset reconstruction is invalid."
    return (sourceFiles, candidateFiles, changes)
  | _, _ => .error "Candidate artifact records are invalid."

end LocalMoe.Workspace
