/-
  The directory between two system calls of an install.
-/
import LocalMoe.Paired.Install

namespace LocalMoe.Paired

open Foundation Contracts Canary

/-! ## The pictures of an install -/

section Pictures

variable (d : Directory) (target : Target) (content : Content)

/-- The file is under its temporary name. -/
def Directory.opened : Directory :=
  { d with
    files := d.files ++ [(.temporary target d.inodes, ⟨d.inodes, content, 1⟩)]
    inodes := d.inodes + 1 }

/-- The file is under both names. -/
def Directory.linked : Directory :=
  { d with
    files := d.files ++ [(.temporary target d.inodes, ⟨d.inodes, content, 2⟩),
      (.file target, ⟨d.inodes, content, 2⟩)]
    inodes := d.inodes + 1 }

/-- The file is under its own name. -/
def Directory.installed : Directory :=
  { d with
    files := d.files ++ [(.file target, ⟨d.inodes, content, 1⟩)]
    inodes := d.inodes + 1 }

/-- The target, the next temporary name and the next inode are free. -/
structure Directory.Free : Prop where
  name : ∀ file ∈ d.files, file.1 ≠ .file target
  temporary : ∀ file ∈ d.files, file.1 ≠ .temporary target d.inodes
  inode : ∀ file ∈ d.files, file.2.inode ≠ d.inodes

end Pictures

section Installing

variable {d : Directory} {target : Target} {content : Content}

theorem find_none {name : Name} (h : ∀ file ∈ d.files, file.1 ≠ name) : d.find name = none := by
  unfold Directory.find
  rw [Option.map_eq_none_iff, List.find?_eq_none]
  intro file hfile
  simpa using h file hfile

theorem relink_eq_self {inode : Nat} {links : Nat → Nat} {files : List (Name × FileRecord)}
    (h : ∀ file ∈ files, file.2.inode ≠ inode) : relink inode links files = files := by
  unfold relink
  conv_rhs => rw [← List.map_id files]
  apply List.map_congr_left
  intro file hfile
  rw [if_neg (h file hfile), id]

theorem relink_append (inode : Nat) (links : Nat → Nat) (files more : List (Name × FileRecord)) :
    relink inode links (files ++ more) = relink inode links files ++ relink inode links more :=
  List.map_append

@[simp] theorem call_sync : d.call .sync = d := rfl

theorem write_eq (hfree : d.Free target) (content content' : Content) :
    (d.opened target content).call (.write (.temporary target d.inodes) content') =
      d.opened target content' := by
  have hold : d.files.map (fun file => if file.1 = .temporary target d.inodes then
      (file.1, { file.2 with content := content' }) else file) = d.files := by
    conv_rhs => rw [← List.map_id d.files]
    apply List.map_congr_left
    intro file hfile
    rw [if_neg (hfree.temporary file hfile), id]
  unfold Directory.call Directory.opened
  dsimp only
  rw [List.map_append, hold]
  simp

theorem link_eq (hfree : d.Free target) (content : Content) : (d.opened target content).call
        (.link (.temporary target d.inodes) (.file target)) = d.linked target content := by
  have htemporary : (d.opened target content).find (.temporary target d.inodes) =
      some ⟨d.inodes, content, 1⟩ := by
    have hnone := find_none (d := d) hfree.temporary
    unfold Directory.find at hnone ⊢
    rw [Option.map_eq_none_iff] at hnone
    simp [Directory.opened, List.find?_append, hnone]
  have htarget : (d.opened target content).find (.file target) = none := by
    apply find_none
    intro file hfile
    rcases List.mem_append.mp hfile with hfile | hfile
    · exact hfree.name file hfile
    · rw [List.mem_singleton.mp hfile]
      exact nofun
  unfold Directory.call
  dsimp only
  rw [htemporary, htarget]
  simp only [Directory.opened, Directory.linked, relink_append, relink_eq_self hfree.inode]
  simp [relink]

theorem unlink_eq (hfree : d.Free target) (content : Content) :
    (d.linked target content).call (.unlink (.temporary target d.inodes)) =
      d.installed target content := by
  have htemporary : (d.linked target content).find (.temporary target d.inodes) =
      some ⟨d.inodes, content, 2⟩ := by
    have hnone := find_none (d := d) hfree.temporary
    unfold Directory.find at hnone ⊢
    rw [Option.map_eq_none_iff] at hnone
    simp [Directory.linked, List.find?_append, hnone]
  have hfilter : d.files.filter (fun other => other.1 ≠ .temporary target d.inodes) =
      d.files := by
    rw [List.filter_eq_self]
    intro file hfile
    simpa using hfree.temporary file hfile
  unfold Directory.call
  dsimp only
  rw [htemporary]
  simp only [Directory.linked, Directory.installed, List.filter_append, hfilter, relink_append,
    relink_eq_self hfree.inode]
  simp [relink]

theorem writing_picture (hfree : d.Free target) (content : Content) {content' : Content}
    {short : Nat} {made : List Syscall} (h : made <+: writing target d.inodes content' short) :
    (∃ written, (d.opened target content).run made = d.opened target written ∧
        .link (.temporary target d.inodes) (.file target) ∉ made ∧
        .unlink (.temporary target d.inodes) ∉ made) ∨
      ((d.opened target content).run made = d.linked target content' ∧
        .link (.temporary target d.inodes) (.file target) ∈ made ∧
        .unlink (.temporary target d.inodes) ∉ made) ∨
      (d.opened target content).run made = d.installed target content' ∧
        .unlink (.temporary target d.inodes) ∈ made := by
  induction short generalizing content made with
  | succ short ih =>
    rcases List.prefix_cons_iff.mp h with rfl | ⟨rest, rfl, hrest⟩
    · exact .inl ⟨content, rfl, by simp, by simp⟩
    · have hrun : (d.opened target content).run
          (.write (.temporary target d.inodes) .unfinished :: rest) =
          (d.opened target .unfinished).run rest := by
        rw [Directory.run, List.foldl_cons, write_eq hfree content]
        rfl
      rw [hrun]
      simpa using ih .unfinished hrest
  | zero =>
    simp only [writing, List.prefix_cons_iff, List.prefix_nil] at h
    have hwritten := write_eq hfree content content'
    have hlinked := link_eq hfree content'
    have hunlinked := unlink_eq hfree content'
    rcases h with rfl | ⟨_, rfl, h⟩
    · exact .inl ⟨content, rfl, by simp, by simp⟩
    rcases h with rfl | ⟨_, rfl, h⟩
    · refine .inl ⟨content', ?_, by simp, by simp⟩
      simpa [Directory.run] using hwritten
    rcases h with rfl | ⟨_, rfl, h⟩
    · refine .inl ⟨content', ?_, by simp, by simp⟩
      simpa [Directory.run] using hwritten
    rcases h with rfl | ⟨_, rfl, h⟩
    · refine .inr (.inl ⟨?_, by simp, by simp⟩)
      simpa [Directory.run, hwritten] using hlinked
    rcases h with rfl | ⟨_, rfl, h⟩
    · refine .inr (.inl ⟨?_, by simp, by simp⟩)
      simpa [Directory.run, hwritten] using hlinked
    rcases h with rfl | ⟨_, rfl, rfl⟩
    · refine .inr (.inr ⟨?_, by simp⟩)
      simpa [Directory.run, hwritten, hlinked] using hunlinked
    · refine .inr (.inr ⟨?_, by simp⟩)
      simpa [Directory.run, hwritten, hlinked] using hunlinked

end Installing

/-! ## Journals that can be read -/

/-- The files of the events are numbered from `n` and complete. -/
def Numbered : Nat → List (Name × FileRecord) → List Event → Prop
  | _, [], [] => True
  | n, file :: files, event :: events =>
    file.1 = .file (.event n event) ∧ file.2.content = .event event ∧ file.2.links = 1 ∧
      Numbered (n + 1) files events
  | _, _, _ => False

section Numbering

variable {files : List (Name × FileRecord)} {events : List Event}

variable {n : Nat}

theorem Numbered.length (h : Numbered n files events) : files.length = events.length := by
  induction files generalizing n events with
  | nil =>
    cases events with
    | nil => rfl
    | cons event events => exact h.elim
  | cons file files ih =>
    cases events with
    | nil => exact h.elim
    | cons event events =>
      rw [List.length_cons, List.length_cons, ih h.2.2.2]

theorem Numbered.artifacts (h : Numbered n files events) :
    ∃ listed, artifacts n files = .ok listed ∧ listed.mapM readArtifact = .ok events := by
  induction files generalizing n events with
  | nil =>
    cases events with
    | nil => exact ⟨[], rfl, rfl⟩
    | cons event events => exact h.elim
  | cons file files ih =>
    cases events with
    | nil => exact h.elim
    | cons event events =>
      obtain ⟨name, record⟩ := file
      obtain ⟨rfl, hcontent, hlinks, hrest⟩ := h
      obtain ⟨listed, hlisted, hread⟩ := ih hrest
      have hfirst : artifact n (.file (.event n event), record) = .ok (event, record) :=
        check_bind_eq_ok.mpr ⟨rfl, check_bind_eq_ok.mpr ⟨hlinks, rfl⟩⟩
      have hevent : readArtifact (event, record) = .ok event := check_bind_eq_ok.mpr ⟨hcontent, rfl⟩
      refine ⟨(event, record) :: listed, ?_, ?_⟩
      · exact bind_eq_ok.mpr ⟨_, hfirst, bind_eq_ok.mpr ⟨_, hlisted, rfl⟩⟩
      · rw [List.mapM_cons]
        exact bind_eq_ok.mpr ⟨_, hevent, bind_eq_ok.mpr ⟨_, hread, rfl⟩⟩

theorem Numbered.key_lt (h : Numbered n files events) : ∀ file ∈ files, n < file.1.key := by
  induction files generalizing n events with
  | nil => exact fun _ hfile => by cases hfile
  | cons first files ih =>
    cases events with
    | nil => exact h.elim
    | cons event events =>
      intro file hfile
      rcases List.mem_cons.mp hfile with rfl | hfile
      · rw [h.1]
        exact Nat.lt_succ_self n
      · exact Nat.lt_of_succ_lt (ih h.2.2.2 file hfile)

theorem Numbered.sorted (h : Numbered n files events) :
    files.insertionSort (fun a b => a.1.key ≤ b.1.key) = files := by
  apply List.Pairwise.insertionSort_eq
  induction files generalizing n events with
  | nil => exact .nil
  | cons first files ih =>
    cases events with
    | nil => exact h.elim
    | cons event events =>
      refine .cons ?_ (ih h.2.2.2)
      intro file hfile
      rw [h.1]
      exact Nat.le_of_lt (h.2.2.2.key_lt file hfile)

theorem Numbered.append (h : Numbered n files events) {event : Event} {inode : Nat} :
    Numbered n (files ++ [(.file (.event (n + files.length) event), ⟨inode, .event event, 1⟩)])
      (events ++ [event]) := by
  induction files generalizing n events with
  | nil =>
    cases events with
    | nil => exact ⟨rfl, rfl, rfl, trivial⟩
    | cons event events => exact h.elim
  | cons first files ih =>
    cases events with
    | nil => exact h.elim
    | cons event events =>
      have hrest := ih h.2.2.2
      rw [Nat.add_right_comm] at hrest
      exact ⟨h.1, h.2.1, h.2.2.1, hrest⟩

theorem Numbered.fresh (h : Numbered n files events) (event : Event) :
    ∀ file ∈ files, file.1 ≠ .file (.event (n + files.length) event) := by
  induction files generalizing n events with
  | nil => exact fun _ hfile => by cases hfile
  | cons first files ih =>
    cases events with
    | nil => exact h.elim
    | cons other events =>
      intro file hfile
      rcases List.mem_cons.mp hfile with rfl | hfile
      · rw [h.1]
        intro heq
        have hordinal := (Target.event.inj (Name.file.inj heq)).1
        rw [List.length_cons] at hordinal
        omega
      · have hrest := ih h.2.2.2 file hfile
        rwa [Nat.add_right_comm] at hrest

end Numbering

/-- A directory that the reader accepts. -/
structure Clean (d : Directory) (state : Option PairedRunRoot) (events : List Event) :
    Prop where
  root : ∃ inode, d.find (.file .root) = state.map fun root => ⟨inode, .root root, 1⟩
  numbered : Numbered 0 d.eventFiles events
  unprepared : state = none → d.events = false
  empty : d.events = false → events = []
  made : d.lock = true → d.made = true
  locked : d.files ≠ [] ∨ d.events = true → d.lock = true
  inodes : ∀ file ∈ d.files, file.2.inode < d.inodes
  tokens : ∀ file ∈ d.files, ∀ target token, file.1 = .temporary target token →
    token < d.inodes
  shape : ∀ root, state = some root → ∃ s, Shape root events s

theorem Clean.init : Clean Directory.init none [] where
  root := ⟨0, rfl⟩
  numbered := trivial
  unprepared _ := rfl
  empty _ := rfl
  made h := by cases h
  locked h := by rcases h with h | h <;> [exact absurd rfl h; cases h]
  inodes file h := by cases h
  tokens file h := by cases h
  shape root h := by cases h

section Reading

variable {d : Directory} {state : Option PairedRunRoot} {events : List Event}

/-- What a reader of a clean directory gets. -/
def Reads (state : Option PairedRunRoot) (events : List Event) :
    Option (PairedRunRoot × JournalState) → Prop
  | none => state = none
  | some (root, s) => state = some root ∧ Shape root events s

theorem Reads.unique {a b : Option (PairedRunRoot × JournalState)} (ha : Reads state events a)
    (hb : Reads state events b) : a = b := by
  cases a with
  | none =>
    cases b with
    | none => rfl
    | some b => cases Eq.trans ha.symm hb.1
  | some a =>
    cases b with
    | none => cases Eq.trans hb.symm ha.1
    | some b =>
      obtain ⟨root, s⟩ := a
      obtain ⟨root', s'⟩ := b
      obtain ⟨rfl, hs⟩ := ha
      obtain ⟨hroot, hs'⟩ := hb
      cases hroot
      rw [hs'.read_unique hs.read]

theorem Clean.read (h : Clean d state events) : ∃ v, d.read = .ok v ∧ Reads state events v := by
  obtain ⟨inode, hroot⟩ := h.root
  cases state with
  | none =>
    refine ⟨none, ?_, rfl⟩
    unfold Directory.read
    rw [hroot]
    exact check_bind_eq_ok.mpr ⟨h.unprepared rfl, rfl⟩
  | some root =>
    obtain ⟨s, hshape⟩ := h.shape root rfl
    refine ⟨some (root, s), ?_, rfl, hshape⟩
    unfold Directory.read
    rw [hroot]
    refine check_bind_eq_ok.mpr ⟨rfl, ?_⟩
    dsimp only
    by_cases hevents : d.events = false
    · rw [if_pos hevents]
      have hready := hshape
      rw [h.empty hevents] at hready
      rw [hready.read_unique Shape.ready.read]
      rfl
    · rw [if_neg hevents]
      obtain ⟨listed, hlisted, hread⟩ := h.numbered.artifacts
      have hfew : d.eventFiles.length ≤ 4 := by
        rw [h.numbered.length]
        exact (check_bind_eq_ok.mp hshape.read).1
      refine bind_eq_ok.mpr ⟨listed, ?_, bind_eq_ok.mpr ⟨events, hread,
        bind_eq_ok.mpr ⟨s, hshape.read, rfl⟩⟩⟩
      refine check_bind_eq_ok.mpr ⟨hfew, ?_⟩
      rw [h.numbered.sorted]
      exact hlisted

theorem Clean.status (h : Clean d state events) : d.status = d.read := by
  have hbare : d.lock = false → d.files = [] ∧ d.events = false := by
    intro hlock
    have hnot : ¬ (d.files ≠ [] ∨ d.events = true) := fun hsome => by
      rw [h.locked hsome] at hlock
      cases hlock
    simpa using hnot
  have hread : d.lock = false → d.read = .ok none := by
    intro hlock
    obtain ⟨hfiles, hevents⟩ := hbare hlock
    unfold Directory.read Directory.find
    rw [hfiles]
    exact check_bind_eq_ok.mpr ⟨hevents, rfl⟩
  unfold Directory.status
  by_cases hmade : d.made = false
  · rw [if_pos hmade, hread]
    · rfl
    · cases hlock : d.lock with
      | false => rfl
      | true =>
        rw [h.made hlock] at hmade
        cases hmade
  · rw [if_neg hmade]
    by_cases hlock : d.lock = false
    · rw [if_pos hlock, hread hlock]
      exact check_bind_eq_ok.mpr ⟨hbare hlock, rfl⟩
    · rw [if_neg hlock]

theorem artifacts_error {files : List (Name × FileRecord)} {target : Target} {token : Nat}
    {record : FileRecord} (h : (Name.temporary target token, record) ∈ files) (n : Nat) :
    ∃ e, artifacts n files = .error e := by
  induction files generalizing n with
  | nil => cases h
  | cons file files ih =>
    rcases List.mem_cons.mp h with rfl | h
    · exact ⟨_, rfl⟩
    · obtain ⟨e, he⟩ := ih h (n + 1)
      unfold artifacts
      cases artifact n file with
      | error e' => exact ⟨e', rfl⟩
      | ok first =>
        rw [he]
        exact ⟨e, rfl⟩

end Reading

end LocalMoe.Paired
