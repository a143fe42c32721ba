/-
  The memory that Linux and its control groups leave to the process.
-/
import LocalMoe.Resources.KernelText

namespace LocalMoe.Resources

open Contracts (isSpace)

/-- What `_read_bounded_text` returns for a path. -/
abbrev Files := KernelPath → Option Text

/-! ## The control groups -/

/-- What the control groups are found to be. -/
inductive CgroupMode where
  | limited (mode : Mode)
  | unbounded (mode : Mode)
  | unknown
  deriving DecidableEq

/-- What `_linux_cgroup_memory` returns. -/
structure CgroupMemory where
  limit : Option Nat
  available : Option Nat
  mode : CgroupMode
  deriving DecidableEq

/-- The file with a directory's limit. -/
def limitPath (mode : Mode) (level : KernelPath) : KernelPath :=
  level ++ [match mode with
    | .v1 => "memory.limit_in_bytes".toList
    | .v2 => "memory.max".toList]

/-- The file with what a directory uses. -/
def currentPath (mode : Mode) (level : KernelPath) : KernelPath :=
  level ++ [match mode with
    | .v1 => "memory.usage_in_bytes".toList
    | .v2 => "memory.current".toList]

section

variable (D : Digits) (files : Files)

/-- One directory's turn of the loop, which has the finite limits and headrooms so far. -/
def readLevel (mode : Mode) (found : List Nat × List Nat) (level : KernelPath) :
    Option (List Nat × List Nat) := do
  let limitRaw ← files (limitPath mode level)
  let currentRaw ← files (currentPath mode level)
  let current ← parseNonNegativeDecimal D (strip currentRaw)
  if mode = .v2 ∧ strip limitRaw = "max".toList then some found
  else do
    let limit ← parseNonNegativeDecimal D (strip limitRaw)
    if mode = .v1 ∧ 2 ^ 60 ≤ limit then some found
    else some (found.1 ++ [limit], found.2 ++ [limit - current])

/-- `_linux_cgroup_memory`, or nothing where it reports `unknown`. -/
def readCgroupMemory : Option CgroupMemory := do
  let memberships ← files ["proc".toList, "self".toList, "cgroup".toList]
  let mounts ← files ["proc".toList, "self".toList, "mountinfo".toList]
  let (mode, leaf, boundary) ← resolveCgroupMemoryFiles D memberships mounts
  let levels ← cgroupLevels leaf boundary
  let (finiteLimits, finiteHeadrooms) ← levels.foldlM (readLevel D files mode) ([], [])
  if finiteLimits = [] then return ⟨none, none, .unbounded mode⟩
  else return ⟨finiteLimits.min?, finiteHeadrooms.min?, .limited mode⟩

def linuxCgroupMemory : CgroupMemory :=
  (readCgroupMemory D files).getD ⟨none, none, .unknown⟩

/-! ## The host -/

/-- `re.match(r"\s*(\d+)\s+kB", raw)`: its group. -/
def matchKilobytes (raw : Text) : Option Text :=
  let digits := (raw.dropWhile isSpace).takeWhile D.isDecimal
  let rest := (raw.dropWhile isSpace).dropWhile D.isDecimal
  if digits = [] ∨ rest.takeWhile isSpace = [] then none
  else if "kB".toList.isPrefixOf (rest.dropWhile isSpace) then some digits
  else none

/-- One line of `/proc/meminfo`, and the values so far, the last one first. -/
def addMeminfo (values : List (Text × Nat)) (line : Text) : Option (List (Text × Nat)) :=
  match cut ':' line with
  | none => some values
  | some (name, raw) =>
    match matchKilobytes D raw with
    | none => some values
    | some digits =>
      (parseNonNegativeDecimal D digits).map fun parsed => (name, parsed * 1024) :: values

/-- The values of `/proc/meminfo`. -/
def readMeminfo : Option (List (Text × Nat)) := do
  let text ← files ["proc".toList, "meminfo".toList]
  (splitlines text).foldlM (addMeminfo D) []

/-- What `_read_linux_memory` returns. -/
structure LinuxMemory where
  totalMemoryBytes : Option Nat
  availableMemoryBytes : Option Nat
  effectiveMemoryLimitBytes : Option Nat
  swapUsedBytes : Option Nat
  cgroupMode : CgroupMode
  deriving DecidableEq

def unknownMemory : LinuxMemory := ⟨none, none, none, none, .unknown⟩

/-- The smaller of two amounts, or the one that is known. -/
def smaller : Option Nat → Option Nat → Option Nat
  | some a, some b => some (min a b)
  | some a, none => some a
  | none, b => b

def readLinuxMemory : LinuxMemory :=
  match readMeminfo D files with
  | none => unknownMemory
  | some values =>
    let total := values.lookup "MemTotal".toList
    let available := values.lookup "MemAvailable".toList
    let swapTotal := values.lookup "SwapTotal".toList
    let swapFree := values.lookup "SwapFree".toList
    let cgroup := linuxCgroupMemory D files
    let limit := cgroup.limit.map fun limit => (total.map (min limit ·)).getD limit
    { totalMemoryBytes := total
      availableMemoryBytes := smaller available cgroup.available
      effectiveMemoryLimitBytes :=
        match cgroup.mode with
        | .unbounded _ => total
        | _ => limit
      swapUsedBytes := do
        let swapTotal ← swapTotal
        let swapFree ← swapFree
        return swapTotal - swapFree
      cgroupMode := cgroup.mode }

/-! ## What a directory says -/

/-- A directory's limit: nothing where it cannot be read, and no number where there is none. -/
def limitOf (mode : Mode) (level : KernelPath) : Option (Option Nat) := do
  let raw ← files (limitPath mode level)
  if mode = .v2 ∧ strip raw = "max".toList then some none
  else do
    let limit ← parseNonNegativeDecimal D (strip raw)
    if mode = .v1 ∧ 2 ^ 60 ≤ limit then some none else some (some limit)

/-- What a directory uses, where it can be read. -/
def usageOf (mode : Mode) (level : KernelPath) : Option Nat := do
  let raw ← files (currentPath mode level)
  parseNonNegativeDecimal D (strip raw)

theorem readLevel_eq (mode : Mode) (found : List Nat × List Nat) (level : KernelPath) :
    readLevel D files mode found level = do
      let limit ← limitOf D files mode level
      let usage ← usageOf D files mode level
      return match limit with
        | none => found
        | some limit => (found.1 ++ [limit], found.2 ++ [limit - usage]) := by
  unfold readLevel limitOf usageOf
  cases files (limitPath mode level) with
  | none => rfl
  | some limitRaw =>
    cases files (currentPath mode level) with
    | none => simp
    | some currentRaw =>
      simp only [Option.bind_eq_bind, Option.bind_some]
      cases parseNonNegativeDecimal D (strip currentRaw) with
      | none => simp
      | some current =>
        simp only [Option.bind_some]
        split
        · rfl
        · cases parseNonNegativeDecimal D (strip limitRaw) with
          | none => rfl
          | some limit =>
            simp only [Option.bind_some]
            split <;> rfl

/-- The directories can all be read, and their finite limits and headrooms are these. -/
def ReadAs (mode : Mode) (levels : List KernelPath) (found : List Nat × List Nat) : Prop :=
  (∀ level ∈ levels, (limitOf D files mode level).isSome ∧ (usageOf D files mode level).isSome) ∧
    (∀ limit, limit ∈ found.1 ↔ ∃ level ∈ levels, limitOf D files mode level = some (some limit)) ∧
    ∀ headroom, headroom ∈ found.2 ↔ ∃ level ∈ levels, ∃ limit usage,
      limitOf D files mode level = some (some limit) ∧
        usageOf D files mode level = some usage ∧ headroom = limit - usage

end

end LocalMoe.Resources
