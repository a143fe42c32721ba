/-
  Which crashes leave the journal readable.
-/
import LocalMoe.Paired.AtMostOnce
import LocalMoe.Paired.Pictures

namespace LocalMoe.Paired

open Foundation Contracts Canary

/-! ## The pictures and the reader -/

section Reading

variable {d : Directory} {state : Option PairedRunRoot} {events : List Event}

theorem Clean.makeDirectory (h : Clean d state events) :
    Clean (d.call .makeDirectory) state events :=
  ⟨h.root, h.numbered, h.unprepared, h.empty, fun _ => rfl, h.locked, h.inodes, h.tokens, h.shape⟩

theorem Clean.makeLock (h : Clean d state events) (hmade : d.made = true) :
    Clean (d.call .makeLock) state events :=
  ⟨h.root, h.numbered, h.unprepared, h.empty, fun _ => hmade, fun _ => rfl, h.inodes,
    h.tokens, h.shape⟩

variable {root : PairedRunRoot}

theorem Clean.makeEvents (h : Clean d (some root) events) (hlock : d.lock = true) :
    Clean (d.call .makeEvents) (some root) events :=
  ⟨h.root, h.numbered, nofun, nofun, h.made, fun _ => hlock, h.inodes, h.tokens, h.shape⟩

theorem not_mem_of_find_none {name : Name} (h : d.find name = none) :
    ∀ file ∈ d.files, file.1 ≠ name := by
  unfold Directory.find at h
  rw [Option.map_eq_none_iff, List.find?_eq_none] at h
  intro file hfile
  simpa using h file hfile

variable {d' : Directory}

variable {files : List (Name × FileRecord)}

theorem find_append {name : Name} (hfiles : d'.files = d.files ++ files)
    (hnew : ∀ file ∈ files, file.1 ≠ name) : d'.find name = d.find name := by
  have hnone : files.find? (fun file => file.1 = name) = none := by
    rw [List.find?_eq_none]
    intro file hfile
    simpa using hnew file hfile
  unfold Directory.find
  rw [hfiles, List.find?_append, hnone, Option.or_none]

theorem eventFiles_append {file : Name × FileRecord} (hfiles : d'.files = d.files ++ [file])
    (hname : file.1.inEvents = false) : d'.eventFiles = d.eventFiles := by
  unfold Directory.eventFiles
  rw [hfiles, List.filter_append, List.filter_singleton, hname, cond_false, List.append_nil]

theorem Clean.free_root (h : Clean d none events) : d.Free .root := by
  obtain ⟨_, hroot⟩ := h.root
  refine ⟨not_mem_of_find_none hroot, ?_, ?_⟩
  · intro file hfile heq
    exact absurd (h.tokens file hfile _ _ heq) (Nat.lt_irrefl _)
  · intro file hfile heq
    exact absurd (h.inodes file hfile) (heq ▸ Nat.lt_irrefl _)

theorem Clean.free_event (h : Clean d state events) (event : Event) :
    d.Free (.event d.eventFiles.length event) := by
  refine ⟨?_, ?_, ?_⟩
  · intro file hfile heq
    have hmem : file ∈ d.eventFiles := by
      refine List.mem_filter.mpr ⟨hfile, ?_⟩
      rw [heq]
      rfl
    have hfresh := h.numbered.fresh event file hmem
    rw [Nat.zero_add] at hfresh
    exact hfresh heq
  · intro file hfile heq
    exact absurd (h.tokens file hfile _ _ heq) (Nat.lt_irrefl _)
  · intro file hfile heq
    exact absurd (h.inodes file hfile) (heq ▸ Nat.lt_irrefl _)

theorem Clean.add (h : Clean d state events) (hlock : d.lock = true) {name : Name}
    {content : Content} {state' : Option PairedRunRoot} {events' : List Event}
    (hd : d' = { d with files := d.files ++ [(name, ⟨d.inodes, content, 1⟩)], inodes :=
      d.inodes + 1 })
    (htoken : ∀ target token, name = .temporary target token → token = d.inodes)
    (hroot : ∃ inode, d'.find (.file .root) = state'.map fun root => ⟨inode, .root root, 1⟩)
    (hnumbered : Numbered 0 d'.eventFiles events')
    (hunprepared : state' = none → d.events = false) (hempty : d.events = false → events' = [])
    (hshape : ∀ root, state' = some root → ∃ s, Shape root events' s) :
    Clean d' state' events' := by
  subst hd
  refine ⟨hroot, hnumbered, hunprepared, hempty, h.made, fun _ => hlock, ?_, ?_, hshape⟩
  · intro file hfile
    rcases List.mem_append.mp hfile with hfile | hfile
    · exact Nat.lt_succ_of_lt (h.inodes file hfile)
    · rw [List.mem_singleton.mp hfile]
      exact Nat.lt_succ_self _
  · intro file hfile target token heq
    rcases List.mem_append.mp hfile with hfile | hfile
    · exact Nat.lt_succ_of_lt (h.tokens file hfile target token heq)
    · rw [List.mem_singleton.mp hfile] at heq
      rw [htoken target token heq]
      exact Nat.lt_succ_self _

theorem Clean.opened_root (h : Clean d none events) (hlock : d.lock = true)
    (content : Content) : Clean (d.opened .root content) none events := by
  refine h.add hlock rfl ?_ ?_ ?_ h.unprepared h.empty h.shape
  · intro target token heq
    exact ((Name.temporary.inj heq).2).symm
  · rw [find_append (d := d) rfl]
    · exact h.root
    · intro file hfile
      rw [List.mem_singleton.mp hfile]
      exact nofun
  · rw [eventFiles_append (d := d) rfl rfl]
    exact h.numbered

theorem Clean.installed_root (h : Clean d none events) (hlock : d.lock = true)
    (root : PairedRunRoot) : Clean (d.installed .root (.root root)) (some root) [] := by
  have hempty := h.empty (h.unprepared rfl)
  refine h.add hlock rfl (by rintro _ _ ⟨⟩) ?_ ?_ nofun (fun _ => rfl) ?_
  · obtain ⟨_, hroot⟩ := h.root
    refine ⟨d.inodes, ?_⟩
    unfold Directory.find at hroot ⊢
    rw [Option.map_none, Option.map_eq_none_iff] at hroot
    rw [show (d.installed .root (.root root)).files = d.files ++ _ from rfl,
      List.find?_append, hroot]
    rfl
  · rw [eventFiles_append (d := d) rfl rfl, ← hempty]
    exact h.numbered
  · intro root' _
    exact ⟨_, .ready⟩

theorem Clean.installed_event (h : Clean d (some root) events) (hlock : d.lock = true)
    (hevents : d.events = true) {event : Event} (hshape : ∃ s, Shape root (events ++ [event]) s) :
    Clean (d.installed (.event d.eventFiles.length event) (.event event)) (some root)
      (events ++ [event]) := by
  refine h.add hlock rfl (by rintro _ _ ⟨⟩) ?_ ?_ nofun ?_ ?_
  · rw [find_append (d := d) rfl]
    · exact h.root
    · intro file hfile
      rw [List.mem_singleton.mp hfile]
      exact nofun
  · have happend : Numbered 0 (d.eventFiles ++ [(.file (.event (0 + d.eventFiles.length) event),
        ⟨d.inodes, .event event, 1⟩)]) (events ++ [event]) := h.numbered.append
    rw [Nat.zero_add] at happend
    rw [show (d.installed (.event d.eventFiles.length event) (.event event)).eventFiles =
      d.eventFiles ++ _ from List.filter_append ..]
    exact happend
  · intro hnone
    rw [hevents] at hnone
    cases hnone
  · intro root' hroot'
    cases hroot'
    exact hshape

theorem linked_root_broken (h : Clean d none events) (content : Content) :
    ∃ e, (d.linked .root content).read = .error e := by
  obtain ⟨_, hroot⟩ := h.root
  have hfind : (d.linked .root content).find (.file .root) = some ⟨d.inodes, content, 2⟩ := by
    unfold Directory.find at hroot ⊢
    rw [Option.map_none, Option.map_eq_none_iff] at hroot
    rw [show (d.linked .root content).files = d.files ++ _ from rfl, List.find?_append, hroot]
    rfl
  unfold Directory.read
  rw [hfind]
  exact ⟨_, rfl⟩

theorem temporary_event_broken (h : Clean d (some root) events)
    (hfiles : d'.files = d.files ++ files) (hevents : d'.events = true)
    (hnew : ∀ file ∈ files, file.1 ≠ .file .root) {ordinal token : Nat} {event : Event}
    {record : FileRecord} (hmem : (.temporary (.event ordinal event) token, record) ∈ files) :
    ∃ e, d'.read = .error e := by
  obtain ⟨_, hroot⟩ := h.root
  have hlisted : (Name.temporary (.event ordinal event) token, record) ∈
      d'.eventFiles.insertionSort fun a b => a.1.key ≤ b.1.key := by
    rw [List.mem_insertionSort]
    refine List.mem_filter.mpr ⟨?_, rfl⟩
    rw [hfiles]
    exact List.mem_append_right _ hmem
  obtain ⟨e, he⟩ := artifacts_error hlisted 0
  unfold Directory.read
  rw [find_append hfiles hnew, hroot]
  dsimp only [Option.map_some]
  rw [show check ((1 : Nat) = 1) _ = Except.ok () from check_of rfl, ok_bind, if_neg (by simp [hevents])]
  unfold Directory.listEventArtifacts
  by_cases hfew : d'.eventFiles.length ≤ 4
  · rw [check_of hfew, ok_bind, he]
    exact ⟨e, rfl⟩
  · refine ⟨.routing "Paired event directory contains extra files.", ?_⟩
    unfold check
    rw [if_neg hfew]
    rfl

end Reading

/-! ## Crash points -/

/-- The call does not wait for an unlink: an event has been opened or `run.json` linked, and
the temporary name is still there. -/
def Syscall.Settled (made : List Syscall) : Syscall → Prop
  | .link (.temporary .root token) _ => .unlink (.temporary .root token) ∈ made
  | .create (.temporary (.event ordinal event) token) =>
    .unlink (.temporary (.event ordinal event) token) ∈ made
  | _ => True

instance decidableSettled (made : List Syscall) : DecidablePred (Syscall.Settled made)
  | .link (.temporary .root token) _ =>
    inferInstanceAs (Decidable (.unlink (.temporary .root token) ∈ made))
  | .create (.temporary (.event ordinal event) token) =>
    inferInstanceAs (Decidable (.unlink (.temporary (.event ordinal event) token) ∈ made))
  | .link (.temporary (.event ..) _) _ | .link (.file _) _ | .create (.temporary .root _)
  | .create (.file _) | .makeDirectory | .makeLock | .makeEvents | .write .. | .unlink _
  | .sync => isTrue trivial

/-- The system calls made before a crash leave no install between its dangerous call and its
unlink. -/
def AllSettled (made : List Syscall) : Prop := ∀ call ∈ made, call.Settled made

instance (made : List Syscall) : Decidable (AllSettled made) :=
  inferInstanceAs (Decidable (∀ call ∈ made, call.Settled made))

/-- What a process killed at some point leaves: the directory before, a directory nobody can
read, or the directory after; the last is what it leaves when it is not killed. -/
inductive Outcome (d' : Directory) (made : List Syscall) (whole : Prop)
    (before after : Option PairedRunRoot × List Event) : Prop where
  | unchanged (hclean : Clean d' before.1 before.2) (hsettled : AllSettled made)
      (hpart : ¬ whole)
  | broken (hread : ∃ e, d'.read = .error e) (hunsettled : ¬ AllSettled made)
      (hpart : ¬ whole)
  | installed (hclean : Clean d' after.1 after.2) (hsettled : AllSettled made)

section CrashPoints

variable {d : Directory} {events : List Event}

theorem mem_writing {target : Target} {token : Nat} {content : Content} {short : Nat}
    {call : Syscall} (h : call ∈ writing target token content short) :
    call = .sync ∨ (∃ written, call = .write (.temporary target token) written) ∨
      call = .link (.temporary target token) (.file target) ∨
      call = .unlink (.temporary target token) := by
  induction short with
  | zero =>
    simp only [writing, List.mem_cons, List.not_mem_nil, or_false] at h
    rcases h with rfl | rfl | rfl | rfl | rfl | rfl <;> simp
  | succ short ih =>
    rcases List.mem_cons.mp h with rfl | h
    · exact .inr (.inl ⟨_, rfl⟩)
    · exact ih h

theorem unlink_mem_writing (target : Target) (token : Nat) (content : Content) (short : Nat) :
    .unlink (.temporary target token) ∈ writing target token content short := by
  induction short with
  | zero => simp [writing]
  | succ short ih => exact List.mem_cons_of_mem _ ih

theorem install_root_outcome (h : Clean d none events) (hlock : d.lock = true)
    {root : PairedRunRoot} {short : Nat} {made : List Syscall}
    (hmade : made <+: atomicInstall .root d.inodes (.root root) short) :
    Outcome (d.run made) made (made = atomicInstall .root d.inodes (.root root) short)
      (none, events) (some root, []) := by
  have hwhole := unlink_mem_writing .root d.inodes (.root root) short
  have hopened := h.opened_root hlock
  rcases List.prefix_cons_iff.mp hmade with rfl | ⟨rest, rfl, hrest⟩
  · exact .unchanged h (fun _ hcall => by cases hcall) nofun
  rcases List.prefix_cons_iff.mp hrest with rfl | ⟨made, rfl, hwriting⟩
  · refine .unchanged (hopened .unfinished) ?_ (by simp [atomicInstall])
    intro call hcall
    rw [List.mem_singleton.mp hcall]
    trivial
  have hrun : d.run (.create (.temporary .root d.inodes) :: .sync :: made) =
      (d.opened .root .unfinished).run made := rfl
  have hsettled : ((Syscall.link (.temporary .root d.inodes) (.file .root)) ∈ made →
      .unlink (.temporary .root d.inodes) ∈ made) →
      AllSettled (.create (.temporary .root d.inodes) :: .sync :: made) := by
    intro hlink call hcall
    rcases List.mem_cons.mp hcall with rfl | hcall
    · trivial
    rcases List.mem_cons.mp hcall with rfl | hcall
    · trivial
    rcases mem_writing (hwriting.subset hcall) with rfl | ⟨written, rfl⟩ | rfl | rfl
    · trivial
    · trivial
    · exact List.mem_cons_of_mem _ (List.mem_cons_of_mem _ (hlink hcall))
    · trivial
  have hpart : .unlink (.temporary .root d.inodes) ∉ made →
      .create (.temporary .root d.inodes) :: .sync :: made ≠
        atomicInstall .root d.inodes (.root root) short := by
    intro hunlink heq
    cases heq
    exact hunlink hwhole
  rw [hrun]
  rcases writing_picture h.free_root .unfinished hwriting with
    ⟨written, hd, hlink, hunlink⟩ | ⟨hd, hlink, hunlink⟩ | ⟨hd, hunlink⟩
  · rw [hd]
    exact .unchanged (hopened written) (hsettled fun hmem => absurd hmem hlink) (hpart hunlink)
  · rw [hd]
    refine .broken (linked_root_broken h _) ?_ (hpart hunlink)
    intro hall
    have hmem := hall _ (List.mem_cons_of_mem _ (List.mem_cons_of_mem _ hlink))
    have hmem' : .unlink (.temporary .root d.inodes) ∈
        Syscall.create (.temporary .root d.inodes) :: .sync :: made := hmem
    simp [hunlink] at hmem'
  · rw [hd]
    exact .installed (h.installed_root hlock root) (hsettled fun _ => hunlink)

theorem install_event_outcome {root : PairedRunRoot} (h : Clean d (some root) events)
    (hlock : d.lock = true) (hevents : d.events = true) {event : Event}
    (hshape : ∃ s, Shape root (events ++ [event]) s) {short : Nat} {made : List Syscall}
    (hmade : made <+:
      atomicInstall (.event d.eventFiles.length event) d.inodes (.event event) short) :
    Outcome (d.run made) made
      (made = atomicInstall (.event d.eventFiles.length event) d.inodes (.event event) short)
      (some root, events) (some root, events ++ [event]) := by
  have hwhole := unlink_mem_writing (.event d.eventFiles.length event) d.inodes (.event event) short
  -- any file under the temporary name breaks the directory, whatever is beside it
  have hbroken : ∀ written, ∃ e,
      (d.opened (.event d.eventFiles.length event) written).read = .error e := fun written =>
    temporary_event_broken h rfl hevents (fun file hfile => by
      rw [List.mem_singleton.mp hfile]
      exact nofun) (List.mem_singleton.mpr rfl)
  rcases List.prefix_cons_iff.mp hmade with rfl | ⟨rest, rfl, hrest⟩
  · exact .unchanged h (fun _ hcall => by cases hcall) nofun
  rcases List.prefix_cons_iff.mp hrest with rfl | ⟨made, rfl, hwriting⟩
  · refine .broken (hbroken .unfinished) ?_ (by simp [atomicInstall])
    intro hall
    have hmem : Syscall.unlink (.temporary (.event d.eventFiles.length event) d.inodes) ∈
        [Syscall.create (.temporary (.event d.eventFiles.length event) d.inodes)] :=
      hall _ (List.mem_singleton.mpr rfl)
    simp at hmem
  have hrun : d.run (.create (.temporary (.event d.eventFiles.length event) d.inodes) ::
      .sync :: made) = (d.opened (.event d.eventFiles.length event) .unfinished).run made := rfl
  have hunsettled : .unlink (.temporary (.event d.eventFiles.length event) d.inodes) ∉ made →
      ¬ AllSettled (.create (.temporary (.event d.eventFiles.length event) d.inodes) ::
        .sync :: made) := by
    intro hunlink hall
    have hmem : Syscall.unlink (.temporary (.event d.eventFiles.length event) d.inodes) ∈
        .create (.temporary (.event d.eventFiles.length event) d.inodes) :: .sync :: made :=
      hall _ (List.mem_cons_self ..)
    simp [hunlink] at hmem
  have hpart : .unlink (.temporary (.event d.eventFiles.length event) d.inodes) ∉ made →
      .create (.temporary (.event d.eventFiles.length event) d.inodes) :: .sync :: made ≠
        atomicInstall (.event d.eventFiles.length event) d.inodes (.event event) short := by
    intro hunlink heq
    cases heq
    exact hunlink hwhole
  rw [hrun]
  rcases writing_picture (h.free_event event) .unfinished hwriting with
    ⟨written, hd, _, hunlink⟩ | ⟨hd, _, hunlink⟩ | ⟨hd, hunlink⟩
  · rw [hd]
    exact .broken (hbroken written) (hunsettled hunlink) (hpart hunlink)
  · rw [hd]
    refine .broken ?_ (hunsettled hunlink) (hpart hunlink)
    refine temporary_event_broken h rfl hevents ?_ (List.mem_cons_self ..)
    intro file hfile
    rcases List.mem_cons.mp hfile with rfl | hfile
    · exact nofun
    · rw [List.mem_singleton.mp hfile]
      exact nofun
  · rw [hd]
    refine .installed (h.installed_event hlock hevents hshape) ?_
    intro call hcall
    rcases List.mem_cons.mp hcall with rfl | hcall
    · exact List.mem_cons_of_mem _ (List.mem_cons_of_mem _ hunlink)
    rcases List.mem_cons.mp hcall with rfl | hcall
    · trivial
    rcases mem_writing (hwriting.subset hcall) with rfl | ⟨written, rfl⟩ | rfl | rfl <;> trivial

end CrashPoints

/-! ## Operations -/

/-- The calls make a directory or the lock file, or sync. -/
def Quiet (calls : List Syscall) : Prop :=
  ∀ call ∈ calls, call = .makeDirectory ∨ call = .makeLock ∨ call = .makeEvents ∨ call = .sync

section Operations

variable {d : Directory}

variable {quiet : List Syscall}

theorem settled_append {made : List Syscall} (hquiet : Quiet quiet) (call : Syscall) :
    call.Settled (quiet ++ made) ↔ call.Settled made := by
  have hunlink : ∀ name, .unlink name ∈ quiet ++ made ↔ .unlink name ∈ made := by
    intro name
    rw [List.mem_append]
    constructor
    · rintro (h | h)
      · rcases hquiet _ h with h | h | h | h <;> cases h
      · exact h
    · exact .inr
  unfold Syscall.Settled
  split
  · exact hunlink _
  · exact hunlink _
  · exact Iff.rfl

theorem allSettled_append {made : List Syscall} (hquiet : Quiet quiet) :
    AllSettled (quiet ++ made) ↔ AllSettled made := by
  constructor
  · intro h call hcall
    exact (settled_append hquiet call).mp (h call (List.mem_append_right _ hcall))
  · intro h call hcall
    rcases List.mem_append.mp hcall with hcall | hcall
    · rcases hquiet call hcall with rfl | rfl | rfl | rfl <;> trivial
    · exact (settled_append hquiet call).mpr (h call hcall)

theorem allSettled_quiet (hquiet : Quiet quiet) : AllSettled quiet := by
  intro call hcall
  rcases hquiet call hcall with rfl | rfl | rfl | rfl <;> trivial

theorem prefix_append_cases {α : Type} {made left right : List α} (h : made <+: left ++ right) :
    made <+: left ∨ ∃ rest, made = left ++ rest ∧ rest <+: right := by
  induction left generalizing made with
  | nil => exact .inr ⟨made, rfl, h⟩
  | cons a left ih =>
    rcases List.prefix_cons_iff.mp h with rfl | ⟨rest, rfl, hrest⟩
    · exact .inl (List.nil_prefix ..)
    · rcases ih hrest with hleft | ⟨more, rfl, hmore⟩
      · exact .inl (List.prefix_cons_iff.mpr (.inr ⟨rest, rfl, hleft⟩))
      · exact .inr ⟨more, rfl, hmore⟩

theorem Outcome.compose {before after : Option PairedRunRoot × List Event} {calls : List Syscall}
    (hquiet : Quiet quiet) (hclean : ∀ made, made <+: quiet → Clean (d.run made) before.1 before.2)
    (hcalls : ∀ made, made <+: calls →
      Outcome ((d.run quiet).run made) made (made = calls) before after)
    (hne : calls ≠ []) {made : List Syscall} (hmade : made <+: quiet ++ calls) :
    Outcome (d.run made) made (made = quiet ++ calls) before after := by
  rcases prefix_append_cases hmade with hleft | ⟨rest, rfl, hrest⟩
  · refine .unchanged (hclean made hleft) ?_ ?_
    · exact fun call hcall => by
        rcases hquiet call (hleft.subset hcall) with rfl | rfl | rfl | rfl <;> trivial
    · rintro rfl
      have hlength := hleft.length_le
      rw [List.length_append] at hlength
      have hpos := List.length_pos_iff.mpr hne
      omega
  · have hrun : d.run (quiet ++ rest) = (d.run quiet).run rest := List.foldl_append ..
    rw [hrun, List.append_right_inj]
    rcases hcalls rest hrest with ⟨hc, hs, hp⟩ | ⟨hr, hu, hp⟩ | ⟨hc, hs⟩
    · exact .unchanged hc ((allSettled_append hquiet).mpr hs) hp
    · exact .broken hr (fun h => hu ((allSettled_append hquiet).mp h)) hp
    · exact .installed hc ((allSettled_append hquiet).mpr hs)

theorem append_outcome {root : PairedRunRoot} {events : List Event}
    (h : Clean d (some root) events) (hlock : d.lock = true) {event : Event}
    (hshape : ∃ s, Shape root (events ++ [event]) s) {short : Nat} {made : List Syscall}
    (hmade : made <+: d.append event short) :
    Outcome (d.run made) made (made = d.append event short) (some root, events)
      (some root, events ++ [event]) := by
  unfold Directory.append at hmade ⊢
  cases hevents : d.events with
  | true =>
    rw [hevents, if_pos rfl, List.nil_append] at hmade
    rw [if_pos rfl, List.nil_append]
    exact install_event_outcome h hlock hevents hshape hmade
  | false =>
    rw [hevents, if_neg Bool.false_ne_true] at hmade
    rw [if_neg Bool.false_ne_true]
    have hmake := h.makeEvents hlock
    refine Outcome.compose ?_ ?_ ?_ (by simp [atomicInstall]) hmade
    · intro call hcall
      simp only [List.mem_cons, List.not_mem_nil, or_false] at hcall
      rcases hcall with rfl | rfl <;> simp
    · intro made hprefix
      simp only [List.prefix_cons_iff, List.prefix_nil] at hprefix
      rcases hprefix with rfl | ⟨_, rfl, rfl | ⟨_, rfl, rfl⟩⟩
      · exact h
      · exact hmake
      · exact hmake
    · intro made hprefix
      exact install_event_outcome (d := d.call .makeEvents) hmake hlock rfl hshape hprefix

theorem setup_quiet (d : Directory) (op : Operation) : Quiet (d.setup op) := by
  intro call hcall
  unfold Directory.setup at hcall
  cases op <;> cases d.made <;> cases d.lock <;> simp at hcall <;> tauto

theorem Clean.setup {state : Option PairedRunRoot} {events : List Event}
    (h : Clean d state events) (op : Operation) {made : List Syscall}
    (hmade : made <+: d.setup op) : Clean (d.run made) state events := by
  have hdirectory := h.makeDirectory
  have hboth := hdirectory.makeLock rfl
  rw [← List.mem_inits] at hmade
  unfold Directory.setup at hmade
  cases op with
  | prepare root short =>
    cases hm : d.made with
    | false =>
      cases hl : d.lock <;> simp [hm, hl] at hmade
      · rcases hmade with rfl | rfl | rfl | rfl | rfl
        exacts [h, hdirectory, hdirectory, hboth, hboth]
      · rcases hmade with rfl | rfl | rfl
        exacts [h, hdirectory, hdirectory]
    | true =>
      have hlock := h.makeLock hm
      cases hl : d.lock <;> simp [hm, hl] at hmade
      · rcases hmade with rfl | rfl | rfl | rfl
        exacts [h, h, hlock, hlock]
      · rcases hmade with rfl | rfl
        exacts [h, h]
  | claim m slot short | complete m binding evidence short =>
    cases hm : d.made <;> cases hl : d.lock <;> simp [hm, hl] at hmade
    · exact hmade ▸ h
    · exact hmade ▸ h
    · rcases hmade with rfl | rfl | rfl
      exacts [h, h.makeLock hm, h.makeLock hm]
    · exact hmade ▸ h

theorem atomicInstall_ne_nil (target : Target) (token : Nat) (content : Content)
    (short : Nat) : atomicInstall target token content short ≠ [] := List.cons_ne_nil _ _

theorem setup_outcome {state : Option PairedRunRoot} {events : List Event}
    (h : Clean d state events) {op : Operation} {made : List Syscall}
    (hmade : made <+: d.setup op ++ []) (whole : Prop) :
    Outcome (d.run made) made whole (state, events) (state, events) := by
  rw [List.append_nil] at hmade
  refine .installed (h.setup op hmade) ?_
  exact allSettled_quiet fun call hcall => setup_quiet d op call (hmade.subset hcall)

theorem prepare_lock (d : Directory) (root : PairedRunRoot) (short : Nat) :
    (d.run (d.setup (.prepare root short))).lock = true ∧
      (d.run (d.setup (.prepare root short))).inodes = d.inodes := by
  unfold Directory.setup
  cases hm : d.made <;> cases hl : d.lock <;> simp [Directory.run, Directory.call, hl]

theorem Clean.lock {root : PairedRunRoot} {events : List Event}
    (h : Clean d (some root) events) : d.lock = true := by
  apply h.locked
  by_contra hnone
  have hfiles : d.files = [] := by
    by_contra hne
    exact hnone (.inl hne)
  obtain ⟨_, hroot⟩ := h.root
  unfold Directory.find at hroot
  rw [hfiles] at hroot
  cases hroot

theorem appended_outcome {root : PairedRunRoot} {events : List Event}
    (h : Clean d (some root) events) {op : Operation} (hop : ∀ root short, op ≠ .prepare root short)
    {event : Event} (hshape : ∃ s, Shape root (events ++ [event]) s) {short : Nat}
    {made : List Syscall} (hmade : made <+: d.setup op ++ d.append event short) :
    Outcome (d.run made) made (made = d.setup op ++ d.append event short) (some root, events)
      (some root, events ++ [event]) := by
  have hsetup : d.setup op = [] := by
    cases op with
    | prepare root short => exact absurd rfl (hop root short)
    | claim m slot short | complete m binding evidence short => simp [Directory.setup, h.lock]
  rw [hsetup, List.nil_append] at hmade ⊢
  exact append_outcome h h.lock hshape hmade

theorem calls_outcome {state : Option PairedRunRoot} {events : List Event}
    (h : Clean d state events) (op : Operation) : ∃ after, ∀ made, made <+: d.calls op →
      Outcome (d.run made) made (made = d.calls op) (state, events) after := by
  obtain ⟨v, hread, hv⟩ := h.read
  unfold Directory.calls
  rw [hread]
  dsimp only
  cases op with
  | prepare root short =>
    cases v with
    | some v => exact ⟨_, fun made hmade => setup_outcome h hmade _⟩
    | none =>
      cases hv
      obtain ⟨hlock, hinodes⟩ := prepare_lock d root short
      refine ⟨(some root, []), fun made hmade => ?_⟩
      refine Outcome.compose (setup_quiet d _) (fun made => h.setup _) ?_
        (atomicInstall_ne_nil _ _ _ _) hmade
      intro made hprefix
      have hclean := h.setup (.prepare root short) (List.prefix_refl _)
      rw [← hinodes] at hprefix ⊢
      exact install_root_outcome hclean hlock hprefix
  | claim m slot short =>
    cases v with
    | none => exact ⟨_, fun made hmade => setup_outcome h hmade _⟩
    | some v =>
      obtain ⟨root, s⟩ := v
      obtain ⟨rfl, hshape⟩ := hv
      unfold Directory.install
      dsimp only
      cases hclaim : nextClaim m slot root s with
      | error e => exact ⟨_, fun made hmade => setup_outcome h hmade _⟩
      | ok claim =>
        obtain ⟨hopen, expected, hexpected, rfl⟩ := nextClaim_eq_ok hclaim
        exact ⟨_, fun made hmade => appended_outcome h (fun _ _ heq => by cases heq)
          (hshape.claim_next hopen hexpected).2 hmade⟩
  | complete m binding evidence short =>
    cases v with
    | none => exact ⟨_, fun made hmade => setup_outcome h hmade _⟩
    | some v =>
      obtain ⟨root, s⟩ := v
      obtain ⟨rfl, hshape⟩ := hv
      unfold Directory.install
      dsimp only
      split
      · next built hidentity hbuild =>
        split
        · next checkpoint hnext =>
          obtain ⟨rfl, _, hopen, hexact⟩ := nextCheckpoint_eq_ok hnext
          obtain ⟨rfl, houtcome⟩ := checkpoint_build_eq_ok hbuild
          exact ⟨_, fun made hmade => appended_outcome h (fun _ _ heq => by cases heq)
            (hshape.checkpoint_next hopen hexact houtcome) hmade⟩
        · exact ⟨_, fun made hmade => setup_outcome h hmade _⟩
      · exact ⟨_, fun made hmade => setup_outcome h hmade _⟩

end Operations

/-! ## Runs -/

/-- Killed after so many of its system calls, the operation leaves no install between its
dangerous call and its unlink. -/
def Harmless (d : Directory) (input : Operation × Nat) : Prop :=
  AllSettled ((d.calls input.1).take input.2)

instance (d : Directory) (input : Operation × Nat) : Decidable (Harmless d input) :=
  inferInstanceAs (Decidable (AllSettled _))

/-- Another process can read what the killed operation left, and reads the journal before
the operation or the journal after it. -/
def Survives (d : Directory) (op : Operation) (made : Nat) : Prop :=
  ∃ v, (d.killed op made).status = .ok v ∧ (d.killed op made).read = .ok v ∧
    (d.status = .ok v ∨ (d.finished op).status = .ok v)

section Runs

variable {d : Directory} {state : Option PairedRunRoot} {events : List Event}

theorem Clean.harmless (h : Clean d state events) {op : Operation} {made : Nat}
    (hharmless : Harmless d (op, made)) :
    ∃ state' events', Clean (d.killed op made) state' events' := by
  obtain ⟨after, houtcome⟩ := calls_outcome h op
  rcases houtcome _ (List.take_prefix made _) with ⟨hc, _, _⟩ | ⟨_, hu, _⟩ | ⟨hc, _⟩
  · exact ⟨_, _, hc⟩
  · exact absurd hharmless hu
  · exact ⟨_, _, hc⟩

theorem Clean.survives_iff (h : Clean d state events) (op : Operation) (made : Nat) :
    Survives d op made ↔ Harmless d (op, made) := by
  obtain ⟨after, houtcome⟩ := calls_outcome h op
  constructor
  · rintro ⟨v, _, hread, _⟩
    rcases houtcome _ (List.take_prefix made _) with ⟨_, hs, _⟩ | ⟨⟨e, he⟩, _, _⟩ | ⟨_, hs⟩
    · exact hs
    · cases hread.symm.trans he
    · exact hs
  · intro hharmless
    rcases houtcome _ (List.take_prefix made _) with ⟨hc, _, _⟩ | ⟨_, hu, _⟩ | ⟨hc, _⟩
    · obtain ⟨v, hread, hv⟩ := hc.read
      obtain ⟨v', hread', hv'⟩ := h.read
      refine ⟨v, hc.status.trans hread, hread, .inl ?_⟩
      rw [h.status, hread', hv'.unique hv]
    · exact absurd hharmless hu
    · obtain ⟨v, hread, hv⟩ := hc.read
      refine ⟨v, hc.status.trans hread, hread, .inr ?_⟩
      rcases houtcome _ (List.prefix_refl _) with ⟨_, _, hp⟩ | ⟨_, _, hp⟩ | ⟨hc', _⟩
      · exact absurd rfl hp
      · exact absurd rfl hp
      · obtain ⟨v', hread', hv'⟩ := hc'.read
        rw [Directory.finished, hc'.status, hread', hv'.unique hv]

theorem run_clean {inputs : List (Operation × Nat)} (h : journal.Admits Harmless .init inputs) :
    ∃ state events, Clean (journal.exec .init inputs) state events :=
  Machine.Admits.exec (M := journal) (P := fun d => ∃ state events, Clean d state events)
    (fun _ _ hharmless h => by
      obtain ⟨state, events, hclean⟩ := h
      exact hclean.harmless hharmless)
    h ⟨none, [], .init⟩

end Runs

/-- On every journal that such runs lead to, a crash leaves what another process can read
exactly when it leaves no event under its temporary name and no `run.json` under two. -/
theorem crash_survives_iff (inputs : List (Operation × Nat))
    (h : journal.Admits Harmless .init inputs) (op : Operation) (made : Nat) :
    Survives (journal.exec .init inputs) op made ↔
      Harmless (journal.exec .init inputs) (op, made) := by
  obtain ⟨state, events, hclean⟩ := run_clean h
  exact hclean.survives_iff op made

def samplePrepared : List (Operation × Nat) := [(.prepare sampleRoot 1, 100)]

theorem samplePrepared_survives :
    Survives (journal.exec .init samplePrepared) (.claim (.new 100 0) (.name "A") 0) 2 ↔
      Harmless (journal.exec .init samplePrepared) (.claim (.new 100 0) (.name "A") 0, 2) :=
  crash_survives_iff _ (by decide +kernel) _ _

/-- A claim killed once it has opened its file. -/
theorem opened_claim_unreadable :
    ¬ Survives (journal.exec .init samplePrepared) (.claim (.new 100 0) (.name "A") 0) 3 := by
  rintro ⟨v, hstatus, _⟩
  have herror : ((journal.exec .init samplePrepared).killed
      (.claim (.new 100 0) (.name "A") 0) 3).status =
        .error (.routing "Paired event directory contains extra file.") := by
    rfl
  cases herror.symm.trans hstatus

end LocalMoe.Paired
