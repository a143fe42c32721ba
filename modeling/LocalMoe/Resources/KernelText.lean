/-
  The texts of /proc/self/cgroup and /proc/self/mountinfo.

  A text is the list of its characters, a path the list of its parts below `/`.
-/
import LocalMoe.Browser.Page
import Mathlib.Data.List.ProdSigma

namespace LocalMoe.Resources

open Contracts (isSpace isAlnum)
open Browser (isLineBreak)

abbrev Text := List Char

/-- An absolute path, by its parts. -/
abbrev KernelPath := List Text

/-- What Unicode and `int` tell of digits. -/
structure Digits where
  /-- `str.isdigit`, of a character. -/
  isDigit : Char → Bool
  /-- `\d`. -/
  isDecimal : Char → Bool
  /-- `int`, of a text of digits, or nothing where it raises. -/
  int : Text → Option Nat

/-! ## Texts -/

def splitlines (text : Text) : List Text := text.splitOnP isLineBreak

def split (text : Text) : List Text := (text.splitOnP isSpace).filter (· ≠ [])

def strip (text : Text) : Text :=
  ((text.dropWhile isSpace).reverse.dropWhile isSpace).reverse

/-- What stands before and after the first such character. -/
def cut (c : Char) : Text → Option (Text × Text)
  | [] => none
  | d :: rest => if d = c then some ([], rest) else (cut c rest).map fun p => (d :: p.1, p.2)

/-- `text.split(separator)`, with what is still to skip of a separator, and what has been read
of the part, last first. -/
def splitOnText (separator : Text) : Nat → Text → Text → List Text
  | _, part, [] => [part.reverse]
  | skip + 1, part, _ :: rest => splitOnText separator skip part rest
  | 0, part, c :: rest =>
    if separator.isPrefixOf (c :: rest) then
      part.reverse :: splitOnText separator (separator.length - 1) [] rest
    else splitOnText separator 0 (c :: part) rest

def parseNonNegativeDecimal (D : Digits) (value : Text) : Option Nat :=
  if value ≠ [] ∧ value.all D.isDigit = true then D.int value else none

/-! ## Fields -/

/-- The escapes of a field. -/
def replacements : List (Text × Char) :=
  [(['0', '4', '0'], ' '), (['0', '1', '1'], '\t'), (['0', '1', '2'], '\n'),
    (['1', '3', '4'], '\\')]

def decodeMountinfoField : Text → Option Text
  | [] => some []
  | '\\' :: a :: b :: c :: rest => do
    let replacement ← replacements.lookup [a, b, c]
    let output ← decodeMountinfoField rest
    return replacement :: output
  | c :: rest => if c = '\\' then none else (decodeMountinfoField rest).map (c :: ·)

def absoluteKernelPath (value : Text) : Option KernelPath :=
  match value with
  | '/' :: rest =>
    if value.contains '\x00' then none
    else if rest = [] then some []
    else if (rest.splitOn '/').any fun part => [[], ['.'], ['.', '.']].contains part then none
    else some (rest.splitOn '/')
  | _ => none

/-- The characters of a controller's name. -/
def isControllerChar (c : Char) : Bool := isAlnum c || ['_', '.', '=', '-'].contains c

/-! ## Memberships and mounts -/

/-- A version of the memory hierarchy. -/
inductive Mode where
  | v1
  | v2
  deriving DecidableEq

/-- A membership: a hierarchy, and the process's path in it. -/
structure Membership where
  mode : Mode
  path : KernelPath
  deriving DecidableEq

structure Mount where
  mode : Mode
  root : KernelPath
  point : KernelPath
  deriving DecidableEq

/-- The mode that a line of `/proc/self/cgroup` is about. -/
def membershipMode (hierarchy : Text) (controllers : List Text) : Option Mode :=
  if hierarchy = ['0'] ∧ controllers = [] then some .v2
  else if controllers.contains "memory".toList then some .v1
  else none

/-- One line of `_parse_cgroup_memberships`. -/
def addMembership (D : Digits) (results : List Membership) (line : Text) :
    Option (List Membership) :=
  if line = [] then some results
  else do
    let (hierarchy, rest) ← cut ':' line
    let (rawControllers, rawPath) ← cut ':' rest
    if ¬ (hierarchy ≠ [] ∧ hierarchy.all D.isDigit = true) then none
    else
      let path ← absoluteKernelPath rawPath
      let controllers := if rawControllers = [] then [] else rawControllers.splitOn ','
      if controllers.any fun controller =>
          controller.isEmpty || !controller.all isControllerChar then none
      else
        match membershipMode hierarchy controllers with
        | none => some results
        | some mode =>
          if (results.map (·.mode)).contains mode then none
          else some (results ++ [⟨mode, path⟩])

def parseCgroupMemberships (D : Digits) (text : Text) : Option (List Membership) :=
  (splitlines text).foldlM (addMembership D) []

/-- One line of `_parse_cgroup_mounts`. -/
def addMount (results : List Mount) (line : Text) : Option (List Mount) :=
  if line = [] then some results
  else
    match splitOnText " - ".toList 0 [] line with
    | [left, right] =>
      match split left, split right with
      | _ :: _ :: _ :: rawRoot :: rawPoint :: _ :: _, filesystem :: _ :: options :: _ =>
        if filesystem ≠ "cgroup".toList ∧ filesystem ≠ "cgroup2".toList then some results
        else do
          let decodedRoot ← decodeMountinfoField rawRoot
          let decodedPoint ← decodeMountinfoField rawPoint
          let root ← absoluteKernelPath decodedRoot
          let point ← absoluteKernelPath decodedPoint
          if filesystem = "cgroup2".toList then some (results ++ [⟨.v2, root, point⟩])
          else if (options.splitOn ',').contains "memory".toList then
            some (results ++ [⟨.v1, root, point⟩])
          else some results
      | _, _ => none
    | _ => none

def parseCgroupMounts (text : Text) : Option (List Mount) :=
  (splitlines text).foldlM addMount []

/-! ## The mapped directory -/

def mapCgroupMembership (membership root point : KernelPath) : Option KernelPath :=
  if root.isPrefixOf membership then some (point ++ membership.drop root.length) else none

/-- The candidates of `_resolve_cgroup_memory_files`. -/
def candidates (memberships : List Membership) (mounts : List Mount) :
    List (Mode × KernelPath × KernelPath) :=
  memberships.flatMap fun membership =>
    mounts.filterMap fun mount =>
      if mount.mode ≠ membership.mode then none
      else
        (mapCgroupMembership membership.path mount.root mount.point).map fun mapped =>
          (membership.mode, mapped, mount.point)

def resolveCgroupMemoryFiles (D : Digits) (cgroupText mountinfoText : Text) :
    Option (Mode × KernelPath × KernelPath) := do
  let memberships ← parseCgroupMemberships D cgroupText
  let mounts ← parseCgroupMounts mountinfoText
  match candidates memberships mounts with
  | [candidate] => some candidate
  | _ => none

/-- The walk of `_cgroup_levels`, from a path given by its parts, last first. -/
def climb (boundary : KernelPath) : List Text → Option (List KernelPath)
  | [] => if boundary = [] then some [[]] else none
  | part :: above =>
    let current := (part :: above).reverse
    if current = boundary then some [current] else (climb boundary above).map (current :: ·)

def cgroupLevels (leaf boundary : KernelPath) : Option (List KernelPath) :=
  if boundary.isPrefixOf leaf then climb boundary leaf.reverse else none

/-! ## What the mapping says -/

/-- The mount is of the membership's hierarchy, and its root above the membership. -/
def Serves (membership : Membership) (mount : Mount) : Prop :=
  mount.mode = membership.mode ∧ mount.root <+: membership.path

instance (membership : Membership) (mount : Mount) : Decidable (Serves membership mount) :=
  inferInstanceAs (Decidable (_ ∧ _))

def Mount.directory (mount : Mount) (membership : Membership) : KernelPath :=
  mount.point ++ membership.path.drop mount.root.length

/-- The memberships with the mounts that serve them. -/
def mappings (memberships : List Membership) (mounts : List Mount) :
    List (Membership × Mount) :=
  (memberships ×ˢ mounts).filter fun pair => Serves pair.1 pair.2

theorem candidates_eq (memberships : List Membership) (mounts : List Mount) :
    candidates memberships mounts = (mappings memberships mounts).map fun pair =>
      (pair.1.mode, pair.2.directory pair.1, pair.2.point) := by
  have hone : ∀ membership : Membership, (mounts.filterMap fun mount =>
      if mount.mode ≠ membership.mode then none
      else (mapCgroupMembership membership.path mount.root mount.point).map fun mapped =>
        (membership.mode, mapped, mount.point)) =
      ((mounts.map fun mount => (membership, mount)).filter fun pair =>
        Serves pair.1 pair.2).map fun pair =>
          (pair.1.mode, pair.2.directory pair.1, pair.2.point) := by
    intro membership
    induction mounts with
    | nil => rfl
    | cons mount rest ih =>
      rw [List.filterMap_cons, List.map_cons, List.filter_cons, ih]
      by_cases hmode : mount.mode = membership.mode
      · by_cases hroot : mount.root <+: membership.path
        · simp [Serves, hmode, hroot, mapCgroupMembership, Mount.directory]
        · simp [Serves, hmode, hroot, mapCgroupMembership]
      · simp [Serves, hmode]
  rw [candidates, mappings]
  induction memberships with
  | nil => rfl
  | cons membership rest ih =>
    rw [List.flatMap_cons, ih, hone]
    change _ = ((((mounts.map fun mount => (membership, mount)) ++
      (rest ×ˢ mounts)).filter _).map _)
    rw [List.filter_append, List.map_append]

theorem directory_under (mount : Mount) (membership : Membership) :
    mount.point <+: mount.directory membership := List.prefix_append _ _

theorem mem_climb {boundary : KernelPath} {parts : List Text}
    (h : boundary <+: parts.reverse) : ∃ levels, climb boundary parts = some levels ∧
      ∀ level, level ∈ levels ↔ boundary <+: level ∧ level <+: parts.reverse := by
  induction parts with
  | nil =>
    obtain rfl : boundary = [] := List.prefix_nil.mp h
    refine ⟨[[]], rfl, fun level => ?_⟩
    simp
  | cons part above ih =>
    rw [climb]
    by_cases hend : (part :: above).reverse = boundary
    · refine ⟨[boundary], by simp [hend], fun level => ?_⟩
      rw [List.mem_singleton, hend]
      exact ⟨fun heq => heq ▸ ⟨List.prefix_refl _, List.prefix_refl _⟩,
        fun ⟨habove, hbelow⟩ => hbelow.eq_of_length_le habove.length_le⟩
    · have hlist : (part :: above).reverse = above.reverse ++ [part] := List.reverse_cons
      -- A boundary that is not the leaf is above the last part.
      have habove : boundary <+: above.reverse := by
        rw [hlist] at h hend
        rcases List.prefix_concat_iff.mp h with heq | hle
        · exact absurd heq.symm hend
        · exact hle
      obtain ⟨levels, hlevels, hmem⟩ := ih habove
      refine ⟨(part :: above).reverse :: levels, ?_, fun level => ?_⟩
      · rw [if_neg hend, hlevels]
        rfl
      rw [List.mem_cons, hmem, hlist, List.prefix_concat_iff]
      constructor
      · rintro (rfl | ⟨hb, hl⟩)
        · exact ⟨hlist ▸ h, .inl rfl⟩
        · exact ⟨hb, .inr hl⟩
      · rintro ⟨hb, rfl | hl⟩
        · exact .inl rfl
        · exact .inr ⟨hb, hl⟩

theorem mem_cgroupLevels {leaf boundary : KernelPath} (h : boundary <+: leaf) :
    ∃ levels, cgroupLevels leaf boundary = some levels ∧
      ∀ level, level ∈ levels ↔ boundary <+: level ∧ level <+: leaf := by
  rw [cgroupLevels, if_pos (List.isPrefixOf_iff_prefix.mpr h)]
  have := @mem_climb boundary leaf.reverse (by rwa [List.reverse_reverse])
  rwa [List.reverse_reverse] at this

end LocalMoe.Resources
