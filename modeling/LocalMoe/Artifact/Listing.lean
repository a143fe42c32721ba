/-
  The walk of a tree is the walk of its files in a row.
-/
import LocalMoe.Artifact.Tree

namespace LocalMoe.Artifact

open Foundation Contracts

/-- A file of a tree, under the names that lead to it. -/
structure TreeFile where
  parts : List String
  stat : FileStat
  content : List UInt8

mutual

/-- An entry and what is below it, in the order of the walk. -/
def nodeListing (relative : List String) : Node → List (List String × Option TreeFile)
  | .link | .special => [(relative, none)]
  | .file stat content => [(relative, some ⟨relative, stat, content⟩)]
  | .directory entries => (relative, none) :: listing relative entries

/-- The entries of a directory and what is below them. -/
def listing (relative : List String) :
    List (String × Node) → List (List String × Option TreeFile)
  | [] => []
  | (name, node) :: rest => nodeListing (relative ++ [name]) node ++ listing relative rest

end

/-- The files below a directory, in the order of the walk. -/
def filesBelow (relative : List String) (entries : List (String × Node)) : List TreeFile :=
  (listing relative entries).filterMap Prod.snd

/-- A name that a path can hold. -/
def ValidName (name : String) : Prop :=
  name ∉ ["", ".", ".."] ∧ ∀ c ∈ name.toList, c ∉ ['/', '\\', '\x00']

mutual

/-- A tree of directories and regular files with valid names. -/
def Node.Valid : Node → Prop
  | .link | .special => False
  | .file stat content => content.length = stat.size ∧ stat.device ≠ 0 ∧ stat.inode ≠ 0
  | .directory entries => (entries.map Prod.fst).Pairwise (· < ·) ∧ ValidEntries entries

def ValidEntries : List (String × Node) → Prop
  | [] => True
  | (name, node) :: rest => ValidName name ∧ node.Valid ∧ ValidEntries rest

end

/-! ## Lengths -/

variable (relative : List String)

theorem nodeListing_ne_nil (node : Node) : 0 < (nodeListing relative node).length := by
  cases node <;> exact Nat.succ_pos _

theorem length_le_listing (entries : List (String × Node)) :
    entries.length ≤ (listing relative entries).length := by
  induction entries with
  | nil => exact le_rfl
  | cons entry rest ih =>
    have hnode := nodeListing_ne_nil (relative ++ [entry.1]) entry.2
    change rest.length + 1 ≤ (nodeListing _ entry.2 ++ listing relative rest).length
    rw [List.length_append]
    omega

theorem relative_mem_nodeListing (node : Node) :
    ∃ file, (relative, file) ∈ nodeListing relative node := by
  cases node with
  | file stat content | directory entries | link | special => exact ⟨_, List.mem_cons_self⟩

/-! ## Files in a row -/

variable (S : Stdlib) (limits : ArtifactTreeLimits)

def hashFiles : List TreeFile → Hashed → Except ArtifactError Hashed
  | [], seen => .ok seen
  | file :: rest, seen => do
    let seen ← hashFile S limits file.parts file.stat file.content seen
    hashFiles rest seen

theorem hashFiles_append_eq_ok {first second : List TreeFile} {seen seen' : Hashed} :
    hashFiles S limits (first ++ second) seen = .ok seen' ↔
      ∃ mid, hashFiles S limits first seen = .ok mid ∧
        hashFiles S limits second mid = .ok seen' := by
  induction first generalizing seen with
  | nil => exact ⟨fun h => ⟨seen, rfl, h⟩, fun ⟨_, hmid, h⟩ => by cases hmid; exact h⟩
  | cons file rest ih =>
    rw [List.cons_append]
    simp only [hashFiles, bind_eq_ok, ih]
    constructor
    · rintro ⟨a, ha, mid, hmid, h⟩
      exact ⟨mid, ⟨a, ha, hmid⟩, h⟩
    · rintro ⟨mid, ⟨a, ha, hmid⟩, h⟩
      exact ⟨a, ha, mid, hmid, h⟩

theorem hashFiles_singleton {file : TreeFile} {seen : Hashed} :
    hashFiles S limits [file] seen =
      hashFile S limits file.parts file.stat file.content seen := by
  change (hashFile S limits file.parts file.stat file.content seen >>= fun s => .ok s) = _
  cases hashFile S limits file.parts file.stat file.content seen <;> rfl

theorem enumerate_eq_ok {entries : List (String × Node)} {visited visited' : Nat}
    (hle : visited ≤ limits.maxFiles) :
    enumerate limits entries visited = .ok visited' ↔
      visited' = visited + entries.length ∧ visited' ≤ limits.maxFiles := by
  induction entries generalizing visited with
  | nil =>
    constructor
    · intro h
      cases h
      exact ⟨rfl, hle⟩
    · rintro ⟨rfl, _⟩
      rfl
  | cons entry rest ih =>
    rw [enumerate, check_bind_eq_ok, List.length_cons]
    constructor
    · rintro ⟨hlt, h⟩
      obtain ⟨heq, hmax⟩ := (ih hlt).mp h
      exact ⟨by omega, hmax⟩
    · rintro ⟨heq, hmax⟩
      have hlt : visited < limits.maxFiles := by omega
      exact ⟨hlt, (ih hlt).mpr ⟨by omega, hmax⟩⟩

/-! ## The walk -/

/-- The listing fits the bounds on entries and depth, and its files are hashed. -/
def Walks (entries : List (List String × Option TreeFile)) (count : Nat) (walk walk' : Walk) :
    Prop :=
  (∀ e ∈ entries, e.1.length ≤ limits.maxDepth) ∧
    walk.visited + entries.length = walk'.visited + count ∧
    walk'.visited ≤ limits.maxFiles ∧
    hashFiles S limits (entries.filterMap Prod.snd) walk.files = .ok walk'.files

mutual

theorem walkNode_eq_ok : ∀ {node : Node} {relative : List String} {walk walk' : Walk},
    node.Valid → relative.length ≤ limits.maxDepth → walk.visited ≤ limits.maxFiles →
    (walkNode S limits relative relative.length node walk = .ok walk' ↔
      Walks S limits (nodeListing relative node) 1 walk walk')
  | .link, _, _, _, hvalid, _, _ | .special, _, _, _, hvalid, _, _ => hvalid.elim
  | .file stat content, relative, walk, walk', hvalid, hdepth, hvisited => by
    have hfiles : hashFiles S limits ([(relative, some (TreeFile.mk relative stat content))].filterMap
        Prod.snd) walk.files = hashFile S limits relative stat content walk.files :=
      hashFiles_singleton S limits
    unfold walkNode Walks nodeListing
    rw [hfiles, bind_eq_ok]
    constructor
    · rintro ⟨files, hhash, h⟩
      cases h
      exact ⟨fun e he => (List.mem_singleton.mp he) ▸ hdepth, rfl, hvisited, hhash⟩
    · rintro ⟨_, hcount, _, hhash⟩
      refine ⟨walk'.files, hhash, ?_⟩
      rw [pure_eq_ok_iff, Nat.add_right_cancel hcount]
  | .directory entries, relative, walk, walk', hvalid, hdepth, hvisited => by
    unfold walkNode Walks nodeListing
    rw [List.filterMap_cons_none rfl, bind_eq_ok, List.forall_mem_cons, List.length_cons]
    constructor
    · rintro ⟨visited, henum, h⟩
      obtain ⟨heq, hmax⟩ := (enumerate_eq_ok limits hvisited).mp henum
      obtain ⟨hdeep, hcount, hmax', hhash⟩ :=
        (@walkEntries_eq_ok _ _ { walk with visited } _ hvalid.2 hdepth hmax).mp h
      refine ⟨⟨hdepth, hdeep⟩, ?_, hmax', hhash⟩
      dsimp only at hcount
      omega
    · rintro ⟨⟨_, hdeep⟩, hcount, hmax', hhash⟩
      have hlength := length_le_listing relative entries
      have hmax : walk.visited + entries.length ≤ limits.maxFiles := by omega
      refine ⟨walk.visited + entries.length,
        (enumerate_eq_ok limits hvisited).mpr ⟨rfl, hmax⟩, ?_⟩
      refine (walkEntries_eq_ok hvalid.2 hdepth hmax).mpr ⟨hdeep, ?_, hmax', hhash⟩
      dsimp only
      omega

theorem walkEntries_eq_ok : ∀ {entries : List (String × Node)} {relative : List String}
    {walk walk' : Walk},
    ValidEntries entries → relative.length ≤ limits.maxDepth →
    walk.visited ≤ limits.maxFiles →
    (walkEntries S limits relative relative.length entries walk = .ok walk' ↔
      Walks S limits (listing relative entries) entries.length walk walk')
  | [], relative, walk, walk', _, _, hvisited => by
    unfold walkEntries Walks listing
    constructor
    · intro h
      cases h
      exact ⟨fun _ he => (by cases he), rfl, hvisited, rfl⟩
    · rintro ⟨_, hcount, _, hhash⟩
      have hfiles : walk.files = walk'.files := Except.ok.inj hhash
      rw [show walk = walk' from congrArg₂ Walk.mk hcount hfiles]
  | (name, node) :: rest, relative, walk, walk', hvalid, _, hvisited => by
    have hlength : relative.length + 1 = (relative ++ [name]).length := by
      rw [List.length_append, List.length_singleton]
    have hsplit : (nodeListing (relative ++ [name]) node ++ listing relative rest).length =
        (nodeListing (relative ++ [name]) node).length + (listing relative rest).length :=
      List.length_append
    have hrest := length_le_listing relative rest
    have hnode := nodeListing_ne_nil (relative ++ [name]) node
    unfold walkEntries Walks listing
    rw [check_bind_eq_ok, check_bind_eq_ok, bind_eq_ok, hlength, List.filterMap_append,
      hsplit, List.length_cons]
    simp only [List.mem_append, or_imp, forall_and, hashFiles_append_eq_ok]
    constructor
    · rintro ⟨_, hdepth, mid, hmid, h⟩
      obtain ⟨hdeep, hcount, hmax, hhash⟩ :=
        (walkNode_eq_ok hvalid.2.1 hdepth hvisited).mp hmid
      obtain ⟨hdeep', hcount', hmax', hhash'⟩ :=
        (walkEntries_eq_ok hvalid.2.2 (by omega) hmax).mp h
      exact ⟨⟨hdeep, hdeep'⟩, by omega, hmax', mid.files, hhash, hhash'⟩
    · rintro ⟨⟨hdeep, hdeep'⟩, hcount, hmax', files, hhash, hhash'⟩
      obtain ⟨file, hmem⟩ := relative_mem_nodeListing (relative ++ [name]) node
      have hdepth : (relative ++ [name]).length ≤ limits.maxDepth := hdeep _ hmem
      have hmax : walk.visited + (nodeListing (relative ++ [name]) node).length - 1 ≤
          limits.maxFiles := by omega
      refine ⟨hvalid.1.1, hdepth, ⟨_, files⟩, (walkNode_eq_ok hvalid.2.1 hdepth hvisited).mpr
        ⟨hdeep, ?_, hmax, hhash⟩, (walkEntries_eq_ok hvalid.2.2 (by omega) hmax).mpr
          ⟨hdeep', ?_, hmax', hhash'⟩⟩
      · dsimp only
        omega
      · dsimp only
        omega

end

end LocalMoe.Artifact
