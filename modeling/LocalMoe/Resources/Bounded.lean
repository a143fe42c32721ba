/-
  A container's memory is never overstated.
-/
import LocalMoe.Resources.Memory

namespace LocalMoe.Resources

section

variable (D : Digits) (files : Files)

/-! ## The loop -/

variable {levels : List KernelPath}

variable {found : List Nat × List Nat}

theorem foldlM_readLevel_eq_some {mode : Mode} {after : List Nat × List Nat} :
    levels.foldlM (readLevel D files mode) found = some after →
      ∃ more : List Nat × List Nat, after = (found.1 ++ more.1, found.2 ++ more.2) ∧
        ReadAs D files mode levels more := by
  induction levels generalizing found with
  | nil =>
    intro h
    refine ⟨([], []), by simpa using (Option.some.inj h).symm, ?_⟩
    simp [ReadAs]
  | cons level rest ih =>
    intro h
    rw [List.foldlM_cons, readLevel_eq] at h
    cases hlimit : limitOf D files mode level with
    | none => simp [hlimit] at h
    | some limit =>
      cases husage : usageOf D files mode level with
      | none => simp [hlimit, husage] at h
      | some usage =>
        simp only [hlimit, husage, Option.bind_eq_bind, Option.bind_some, Option.pure_def] at h
        obtain ⟨more, hafter, hall, hlimits, hheadrooms⟩ := ih h
        cases limit with
        | none =>
          refine ⟨more, hafter, ?_, fun n => ?_, fun n => ?_⟩
          · intro l hl
            rcases List.mem_cons.mp hl with rfl | hl
            · simp [hlimit, husage]
            · exact hall l hl
          · simp [hlimits, hlimit]
          · simp [hheadrooms, hlimit]
        | some limit =>
          refine ⟨(limit :: more.1, (limit - usage) :: more.2), ?_, ?_, fun n => ?_, fun n => ?_⟩
          · rw [hafter]
            simp
          · intro l hl
            rcases List.mem_cons.mp hl with rfl | hl
            · simp [hlimit, husage]
            · exact hall l hl
          · simp [hlimits, hlimit, eq_comm]
          · simp [hheadrooms, hlimit, husage]

theorem foldlM_readLevel_isSome {mode : Mode}
    (h : ∀ level ∈ levels, (limitOf D files mode level).isSome ∧
      (usageOf D files mode level).isSome) (found : List Nat × List Nat) :
    ∃ after, levels.foldlM (readLevel D files mode) found = some after := by
  induction levels generalizing found with
  | nil => exact ⟨found, rfl⟩
  | cons level rest ih =>
    obtain ⟨hlimit, husage⟩ := h level List.mem_cons_self
    obtain ⟨limit, hlimit⟩ := Option.isSome_iff_exists.mp hlimit
    obtain ⟨usage, husage⟩ := Option.isSome_iff_exists.mp husage
    rw [List.foldlM_cons, readLevel_eq, hlimit, husage]
    exact ih (fun l hl => h l (List.mem_cons_of_mem _ hl)) _

/-! ## The hierarchy -/

/-- The texts have exactly one membership and mount that belong together, and these are they. -/
structure Hierarchy (membership : Membership) (mount : Mount) : Prop where
  texts : ∃ cgroupText mountinfoText memberships mounts,
    files ["proc".toList, "self".toList, "cgroup".toList] = some cgroupText ∧
      files ["proc".toList, "self".toList, "mountinfo".toList] = some mountinfoText ∧
      parseCgroupMemberships D cgroupText = some memberships ∧
      parseCgroupMounts mountinfoText = some mounts ∧
      mappings memberships mounts = [(membership, mount)]

/-- A directory between the process's own and the mount point, both included. -/
def OnPath (membership : Membership) (mount : Mount) (level : KernelPath) : Prop :=
  mount.point <+: level ∧ level <+: mount.directory membership

variable {D files}

variable {membership : Membership} {mount : Mount}

theorem Hierarchy.unique {membership' : Membership} {mount' : Mount}
    (h : Hierarchy D files membership mount) (h' : Hierarchy D files membership' mount') :
    membership = membership' ∧ mount = mount' := by
  obtain ⟨c, m, memberships, mounts, hc, hm, hmemberships, hmounts, hone⟩ := h.texts
  obtain ⟨c', m', memberships', mounts', hc', hm', hmemberships', hmounts', hone'⟩ := h'.texts
  obtain rfl : c = c' := Option.some.inj (hc.symm.trans hc')
  obtain rfl : m = m' := Option.some.inj (hm.symm.trans hm')
  obtain rfl : memberships = memberships' := Option.some.inj (hmemberships.symm.trans hmemberships')
  obtain rfl : mounts = mounts' := Option.some.inj (hmounts.symm.trans hmounts')
  have hpair := hone.symm.trans hone'
  simp only [List.cons.injEq, Prod.mk.injEq, and_true] at hpair
  exact hpair

variable {candidate : Mode × KernelPath × KernelPath}

theorem candidates_eq_singleton_iff {memberships : List Membership} {mounts : List Mount} :
    candidates memberships mounts = [candidate] ↔ ∃ membership mount,
      mappings memberships mounts = [(membership, mount)] ∧
        candidate = (membership.mode, mount.directory membership, mount.point) := by
  rw [candidates_eq, List.map_eq_singleton_iff]
  constructor
  · rintro ⟨⟨membership, mount⟩, hone, rfl⟩
    exact ⟨membership, mount, hone, rfl⟩
  · rintro ⟨membership, mount, hone, rfl⟩
    exact ⟨(membership, mount), hone, rfl⟩

theorem resolve_eq_some_iff {cgroupText mountinfoText : Text} :
    resolveCgroupMemoryFiles D cgroupText mountinfoText = some candidate ↔
      ∃ memberships mounts, parseCgroupMemberships D cgroupText = some memberships ∧
        parseCgroupMounts mountinfoText = some mounts ∧
        candidates memberships mounts = [candidate] := by
  unfold resolveCgroupMemoryFiles
  cases parseCgroupMemberships D cgroupText with
  | none => simp
  | some memberships =>
    cases parseCgroupMounts mountinfoText with
    | none => simp
    | some mounts =>
      simp only [Option.bind_eq_bind, Option.bind_some, Option.some.injEq, exists_eq_left',
        exists_and_left]
      split
      · next one hone => rw [hone]; simp
      · next hmany => exact ⟨nofun, fun hone => absurd hone (hmany candidate)⟩

theorem readCgroupMemory_eq_some_iff {memory : CgroupMemory} :
    readCgroupMemory D files = some memory ↔ ∃ membership mount found,
      Hierarchy D files membership mount ∧
        (∃ levels, cgroupLevels (mount.directory membership) mount.point = some levels ∧
          levels.foldlM (readLevel D files membership.mode) ([], []) = some found) ∧
        memory = if found.1 = [] then ⟨none, none, .unbounded membership.mode⟩
          else ⟨found.1.min?, found.2.min?, .limited membership.mode⟩ := by
  unfold readCgroupMemory
  constructor
  · intro h
    simp only [Option.bind_eq_bind, Option.bind_eq_some_iff] at h
    obtain ⟨c, hc, m, hm, ⟨mode, leaf, boundary⟩, hresolve, levels, hlevels, found, hfound, hend⟩ := h
    obtain ⟨memberships, mounts, hmemberships, hmounts, hone⟩ := resolve_eq_some_iff.mp hresolve
    obtain ⟨membership, mount, hpair, heq⟩ := candidates_eq_singleton_iff.mp hone
    simp only [Prod.mk.injEq] at heq
    obtain ⟨rfl, rfl, rfl⟩ := heq
    refine ⟨membership, mount, found,
      ⟨c, m, memberships, mounts, hc, hm, hmemberships, hmounts, hpair⟩, ⟨levels, hlevels, hfound⟩, ?_⟩
    split at hend
    · next hnone => rw [if_pos hnone]; exact (Option.some.inj hend).symm
    · next hsome => rw [if_neg hsome]; exact (Option.some.inj hend).symm
  · rintro ⟨membership, mount, found, ⟨c, m, memberships, mounts, hc, hm, hmemberships, hmounts,
      hone⟩, ⟨levels, hlevels, hfound⟩, rfl⟩
    have hresolve := resolve_eq_some_iff.mpr ⟨memberships, mounts, hmemberships, hmounts,
      candidates_eq_singleton_iff.mpr ⟨membership, mount, hone, rfl⟩⟩
    simp only [Option.bind_eq_bind, hc, hm, hresolve, hlevels, hfound, Option.bind_some]
    split <;> rfl

/-! ## The reports -/

/-- The directories of the path have these finite limits. -/
def limits (D : Digits) (files : Files) (membership : Membership) (mount : Mount) : Set Nat :=
  {n | ∃ level, OnPath membership mount level ∧
    limitOf D files membership.mode level = some (some n)}

/-- The directories of the path have these headrooms. -/
def headrooms (D : Digits) (files : Files) (membership : Membership) (mount : Mount) : Set Nat :=
  {n | ∃ level, OnPath membership mount level ∧ ∃ limit usage,
    limitOf D files membership.mode level = some (some limit) ∧
      usageOf D files membership.mode level = some usage ∧ n = limit - usage}

/-- Every directory of the path can be read. -/
def Readable (D : Digits) (files : Files) (membership : Membership) (mount : Mount) : Prop :=
  ∀ level, OnPath membership mount level →
    (limitOf D files membership.mode level).isSome ∧ (usageOf D files membership.mode level).isSome

theorem readAs_path (hlevels : ∀ level, level ∈ levels ↔ OnPath membership mount level)
    (h : ReadAs D files membership.mode levels found) :
    Readable D files membership mount ∧ (∀ n, n ∈ found.1 ↔ n ∈ limits D files membership mount) ∧
      ∀ n, n ∈ found.2 ↔ n ∈ headrooms D files membership mount := by
  obtain ⟨hall, hlimits, hheadrooms⟩ := h
  refine ⟨fun level hon => hall level ((hlevels level).mpr hon), fun n => ?_, fun n => ?_⟩
  · rw [hlimits]
    exact ⟨fun ⟨level, hmem, h⟩ => ⟨level, (hlevels level).mp hmem, h⟩,
      fun ⟨level, hon, h⟩ => ⟨level, (hlevels level).mpr hon, h⟩⟩
  · rw [hheadrooms]
    exact ⟨fun ⟨level, hmem, h⟩ => ⟨level, (hlevels level).mp hmem, h⟩,
      fun ⟨level, hon, h⟩ => ⟨level, (hlevels level).mpr hon, h⟩⟩

variable {n : Nat}

theorem isLeast_of_min? {items : List Nat} {s : Set Nat} (h : ∀ n, n ∈ items ↔ n ∈ s) :
    items.min? = some n ↔ IsLeast s n := by
  rw [List.min?_eq_some_iff]
  exact ⟨fun ⟨hmem, hle⟩ => ⟨(h n).mp hmem, fun m hm => hle m ((h m).mpr hm)⟩,
    fun ⟨hmem, hle⟩ => ⟨(h n).mpr hmem, fun m hm => hle ((h m).mp hm)⟩⟩

theorem hierarchy_of_reported {memory : CgroupMemory} (h : readCgroupMemory D files = some memory) :
    ∃ membership mount, Hierarchy D files membership mount ∧
      Readable D files membership mount ∧
      ((limits D files membership mount = ∅ ∧
          memory = ⟨none, none, .unbounded membership.mode⟩) ∨
        ∃ limit headroom, IsLeast (limits D files membership mount) limit ∧
          IsLeast (headrooms D files membership mount) headroom ∧
          memory = ⟨some limit, some headroom, .limited membership.mode⟩) := by
  obtain ⟨membership, mount, found, hhierarchy, ⟨levels, hlevels, hfound⟩, rfl⟩ :=
    readCgroupMemory_eq_some_iff.mp h
  obtain ⟨levels', hlevels', hmem⟩ := mem_cgroupLevels (directory_under mount membership)
  obtain rfl : levels = levels' := Option.some.inj (hlevels.symm.trans hlevels')
  obtain ⟨more, rfl, hread⟩ := foldlM_readLevel_eq_some D files hfound
  simp only [List.nil_append]
  obtain ⟨hreadable, hlimits, hheadrooms⟩ := readAs_path hmem hread
  refine ⟨membership, mount, hhierarchy, hreadable, ?_⟩
  by_cases hnone : more.1 = []
  · rw [if_pos hnone]
    refine .inl ⟨Set.eq_empty_iff_forall_notMem.mpr fun n hn => ?_, rfl⟩
    have := (hlimits n).mpr hn
    rw [hnone] at this
    exact absurd this List.not_mem_nil
  · rw [if_neg hnone]
    obtain ⟨limit, hlimit⟩ := Option.isSome_iff_exists.mp (List.isSome_min?_of_ne_nil hnone)
    have hne : more.2 ≠ [] := by
      -- where there is a finite limit there is a headroom
      obtain ⟨level, hon, hlevel⟩ := ((isLeast_of_min? hlimits).mp hlimit).1
      obtain ⟨usage, husage⟩ := Option.isSome_iff_exists.mp (hreadable level hon).2
      have hroom : limit - usage ∈ more.2 :=
        (hheadrooms _).mpr ⟨level, hon, limit, usage, hlevel, husage, rfl⟩
      exact List.ne_nil_of_mem hroom
    obtain ⟨headroom, hheadroom⟩ := Option.isSome_iff_exists.mp (List.isSome_min?_of_ne_nil hne)
    exact .inr ⟨limit, headroom, (isLeast_of_min? hlimits).mp hlimit,
      (isLeast_of_min? hheadrooms).mp hheadroom, by rw [hlimit, hheadroom]⟩

theorem reported_of_hierarchy (h : Hierarchy D files membership mount)
    (hreadable : Readable D files membership mount) :
    ∃ memory, readCgroupMemory D files = some memory := by
  obtain ⟨levels, hlevels, hmem⟩ := mem_cgroupLevels (directory_under mount membership)
  obtain ⟨found, hfound⟩ := foldlM_readLevel_isSome D files
    (fun level hl => hreadable level ((hmem level).mp hl)) ([], [])
  exact ⟨_, readCgroupMemory_eq_some_iff.mpr ⟨membership, mount, found, h,
    ⟨levels, hlevels, hfound⟩, rfl⟩⟩

/-- What a report says of the control groups. -/
structure Faithful (D : Digits) (files : Files) (memory : CgroupMemory) : Prop where
  limited : ∀ mode limit headroom, memory = ⟨some limit, some headroom, .limited mode⟩ ↔
    ∃ membership mount, Hierarchy D files membership mount ∧ membership.mode = mode ∧
      Readable D files membership mount ∧ IsLeast (limits D files membership mount) limit ∧
      IsLeast (headrooms D files membership mount) headroom
  unbounded : ∀ mode, memory = ⟨none, none, .unbounded mode⟩ ↔
    ∃ membership mount, Hierarchy D files membership mount ∧ membership.mode = mode ∧
      Readable D files membership mount ∧ limits D files membership mount = ∅
  unknown : memory = ⟨none, none, .unknown⟩ ↔
    ∀ membership mount, Hierarchy D files membership mount → ¬ Readable D files membership mount
  cases : (∃ mode limit headroom, memory = ⟨some limit, some headroom, .limited mode⟩) ∨
    (∃ mode, memory = ⟨none, none, .unbounded mode⟩) ∨ memory = ⟨none, none, .unknown⟩

variable (D files) in
theorem faithful_linuxCgroupMemory : Faithful D files (linuxCgroupMemory D files) := by
  unfold linuxCgroupMemory
  cases hread : readCgroupMemory D files with
  | none =>
    have hunknown : ∀ membership mount, Hierarchy D files membership mount →
        ¬ Readable D files membership mount := by
      intro membership mount hhierarchy hreadable
      obtain ⟨memory, hsome⟩ := reported_of_hierarchy hhierarchy hreadable
      exact nomatch hread.symm.trans hsome
    refine ⟨fun _ _ _ => ⟨nofun, ?_⟩, fun _ => ⟨nofun, ?_⟩, iff_of_true rfl hunknown,
      .inr (.inr rfl)⟩
    · rintro ⟨membership, mount, hhierarchy, -, hreadable, -⟩
      exact absurd hreadable (hunknown _ _ hhierarchy)
    · rintro ⟨membership, mount, hhierarchy, -, hreadable, -⟩
      exact absurd hreadable (hunknown _ _ hhierarchy)
  | some memory =>
    obtain ⟨membership, mount, hhierarchy, hreadable, hreport⟩ := hierarchy_of_reported hread
    have hknown : ¬ ∀ membership mount, Hierarchy D files membership mount →
        ¬ Readable D files membership mount := fun h => h _ _ hhierarchy hreadable
    rcases hreport with ⟨hnone, rfl⟩ | ⟨limit, headroom, hlimit, hheadroom, rfl⟩
    · refine ⟨fun _ _ _ => ⟨nofun, ?_⟩, fun mode => ⟨fun h => ?_, ?_⟩,
        iff_of_false nofun hknown, .inr (.inl ⟨_, rfl⟩)⟩
      · rintro ⟨membership', mount', hhierarchy', -, -, hleast, -⟩
        obtain ⟨rfl, rfl⟩ := hhierarchy.unique hhierarchy'
        exact absurd hleast.1 (hnone ▸ Set.notMem_empty _)
      · simp only [Option.getD_some, CgroupMemory.mk.injEq, CgroupMode.unbounded.injEq,
          true_and] at h
        exact ⟨membership, mount, hhierarchy, h, hreadable, hnone⟩
      · rintro ⟨membership', mount', hhierarchy', rfl, -, -⟩
        obtain ⟨rfl, rfl⟩ := hhierarchy.unique hhierarchy'
        rfl
    · refine ⟨fun mode n m => ⟨fun h => ?_, ?_⟩, fun _ => ⟨nofun, ?_⟩,
        iff_of_false nofun hknown, .inl ⟨_, _, _, rfl⟩⟩
      · simp only [Option.getD_some, CgroupMemory.mk.injEq, CgroupMode.limited.injEq,
          Option.some.injEq] at h
        obtain ⟨rfl, rfl, hmode⟩ := h
        exact ⟨membership, mount, hhierarchy, hmode, hreadable, hlimit, hheadroom⟩
      · rintro ⟨membership', mount', hhierarchy', rfl, -, hlimit', hheadroom'⟩
        obtain ⟨rfl, rfl⟩ := hhierarchy.unique hhierarchy'
        rw [hlimit.unique hlimit', hheadroom.unique hheadroom']
        rfl
      · rintro ⟨membership', mount', hhierarchy', -, -, hempty⟩
        obtain ⟨rfl, rfl⟩ := hhierarchy.unique hhierarchy'
        exact absurd hlimit.1 (hempty ▸ Set.notMem_empty _)

/-! ## The host -/

theorem effective_eq {e : Nat} (h : (readLinuxMemory D files).effectiveMemoryLimitBytes = some e) :
    ∃ values, readMeminfo D files = some values ∧
      (∀ total, values.lookup "MemTotal".toList = some total → e ≤ total) ∧
      ((∃ mode, linuxCgroupMemory D files = ⟨none, none, .unbounded mode⟩) ∨
        ∃ mode limit headroom,
          linuxCgroupMemory D files = ⟨some limit, some headroom, .limited mode⟩ ∧ e ≤ limit) := by
  unfold readLinuxMemory at h
  cases hvalues : readMeminfo D files with
  | none => simp [hvalues, unknownMemory] at h
  | some values =>
    refine ⟨values, rfl, ?_⟩
    rcases (faithful_linuxCgroupMemory D files).cases with
      ⟨mode, limit, headroom, hmemory⟩ | ⟨mode, hmemory⟩ | hmemory
    · simp only [hvalues, hmemory, Option.map_some, Option.some.injEq] at h
      refine ⟨fun total htotal => ?_, .inr ⟨mode, limit, headroom, hmemory, ?_⟩⟩
      · rw [htotal] at h
        exact h ▸ min_le_right _ _
      · rw [← h]
        cases values.lookup "MemTotal".toList with
        | none => exact le_rfl
        | some total => exact min_le_left _ _
    · simp only [hvalues, hmemory] at h
      refine ⟨fun total htotal => ?_, .inl ⟨mode, hmemory⟩⟩
      exact (Option.some.inj (h.symm.trans htotal)).le
    · simp [hvalues, hmemory] at h

theorem smaller_le_left {a b : Option Nat} {m : Nat} (h : smaller a b = some n) (ha : a = some m) :
    n ≤ m := by
  subst ha
  cases b with
  | none => exact (Option.some.inj h).ge
  | some k => exact Option.some.inj h ▸ min_le_left _ _

theorem smaller_le_right {a b : Option Nat} {m : Nat} (h : smaller a b = some n) (hb : b = some m) :
    n ≤ m := by
  subst hb
  cases a with
  | none => exact (Option.some.inj h).ge
  | some k => exact Option.some.inj h ▸ min_le_right _ _

theorem available_le {a : Nat} (h : (readLinuxMemory D files).availableMemoryBytes = some a) :
    ∃ values, readMeminfo D files = some values ∧
      (∀ free, values.lookup "MemAvailable".toList = some free → a ≤ free) ∧
      ∀ headroom, (linuxCgroupMemory D files).available = some headroom → a ≤ headroom := by
  unfold readLinuxMemory at h
  cases hvalues : readMeminfo D files with
  | none => simp [hvalues, unknownMemory] at h
  | some values =>
    simp only [hvalues] at h
    exact ⟨values, rfl, fun free hfree => smaller_le_left h hfree,
      fun headroom hheadroom => smaller_le_right h hheadroom⟩

theorem mode_readLinuxMemory {values : List (Text × Nat)} (h : readMeminfo D files = some values) :
    (readLinuxMemory D files).cgroupMode = (linuxCgroupMemory D files).mode := by
  rw [readLinuxMemory, h]

theorem available_le_headroom {a : Nat}
    (h : (readLinuxMemory D files).availableMemoryBytes = some a)
    (hmode : (readLinuxMemory D files).cgroupMode ≠ .unknown)
    (hhierarchy : Hierarchy D files membership mount)
    (hn : n ∈ headrooms D files membership mount) : a ≤ n := by
  obtain ⟨values, hvalues, -, hle⟩ := available_le h
  rw [mode_readLinuxMemory hvalues] at hmode
  have hfaithful := faithful_linuxCgroupMemory D files
  rcases hfaithful.cases with ⟨mode, limit, headroom, hmemory⟩ | ⟨mode, hmemory⟩ | hmemory
  · obtain ⟨membership', mount', hhierarchy', -, -, -, hleast⟩ :=
      (hfaithful.limited _ _ _).mp hmemory
    obtain ⟨rfl, rfl⟩ := hhierarchy.unique hhierarchy'
    exact (hle headroom (by rw [hmemory])).trans (hleast.2 hn)
  · obtain ⟨membership', mount', hhierarchy', -, -, hnone⟩ := (hfaithful.unbounded _).mp hmemory
    obtain ⟨rfl, rfl⟩ := hhierarchy.unique hhierarchy'
    obtain ⟨level, hon, limit, -, hlimit, -⟩ := hn
    have hmem : limit ∈ limits D files membership mount := ⟨level, hon, hlimit⟩
    exact absurd hmem (hnone ▸ Set.notMem_empty _)
  · exact absurd (congrArg CgroupMemory.mode hmemory) hmode

theorem effective_le_limit {e : Nat}
    (h : (readLinuxMemory D files).effectiveMemoryLimitBytes = some e)
    (hhierarchy : Hierarchy D files membership mount) (hn : n ∈ limits D files membership mount) :
    e ≤ n := by
  obtain ⟨-, -, -, hreport⟩ := effective_eq h
  have hfaithful := faithful_linuxCgroupMemory D files
  rcases hreport with ⟨mode, hmemory⟩ | ⟨mode, limit, headroom, hmemory, hle⟩
  · obtain ⟨membership', mount', hhierarchy', -, -, hnone⟩ := (hfaithful.unbounded _).mp hmemory
    obtain ⟨rfl, rfl⟩ := hhierarchy.unique hhierarchy'
    exact absurd hn (hnone ▸ Set.notMem_empty _)
  · obtain ⟨membership', mount', hhierarchy', -, -, hleast, -⟩ :=
      (hfaithful.limited _ _ _).mp hmemory
    obtain ⟨rfl, rfl⟩ := hhierarchy.unique hhierarchy'
    exact hle.trans (hleast.2 hn)

end

/-! ## A directory that cannot be read -/

def asciiDigits : Digits where
  isDigit := Char.isDigit
  isDecimal := Char.isDigit
  int := fun text => some (text.foldl (fun n c => n * 10 + (c.toNat - 48)) 0)

def sampleFiles : Files := fun path =>
  (([(["proc", "self", "cgroup"], "0::/job\n"),
    (["proc", "self", "mountinfo"], "29 23 0:26 / /cg rw - cgroup2 cgroup rw\n"),
    (["proc", "meminfo"], "MemAvailable: 2 kB\n"),
    (["cg", "job", "memory.max"], "100\n"),
    (["cg", "job", "memory.current"], "40\n")] : List (List String × String)).find?
      fun file => file.1.map String.toList = path).map fun file => file.2.toList

end LocalMoe.Resources
