/-
  A stored candidate gives back its source, and says exactly what was changed.
-/
import LocalMoe.Workspace.Changeset

namespace LocalMoe.Workspace

open Foundation

/-! ## What a changeset says -/

variable {before after : List WorkspaceFile} {changes : List WorkspaceChange}

theorem changesOf_eq {paths : List Datum} (h : changesOf before after paths = .ok changes) :
    changes = (paths.filter fun path => recordOf before path ≠ recordOf after path).map
      fun path => ⟨path, recordOf before path, recordOf after path⟩ := by
  induction paths generalizing changes with
  | nil =>
    cases h
    rfl
  | cons path rest ih =>
    simp only [changesOf] at h
    by_cases hdiffer : recordOf before path ≠ recordOf after path
    · rw [if_pos hdiffer] at h
      simp only [bind_eq_ok, check_eq_ok, pure_eq_ok_iff] at h
      obtain ⟨_, -, later, hlater, rfl⟩ := h
      rw [List.filter_cons_of_pos (by simpa using hdiffer), List.map_cons, ih hlater]
    · rw [if_neg hdiffer] at h
      rw [List.filter_cons_of_neg (by simpa using hdiffer)]
      exact ih h

theorem byPath_eq_ok {files dict : List WorkspaceFile} : byPath files = .ok dict ↔
      (∀ file ∈ files, file.path.hashable = true) ∧ dict = Table.build WorkspaceFile.path files := by
  simp only [byPath, bind_eq_ok, check_eq_ok, pure_eq_ok_iff, List.all_eq_true, exists_const]
  exact and_congr_right fun _ => eq_comm

theorem mem_sortedPaths {paths : List Datum} (h : sortedPaths before after = .ok paths)
    (path : Datum) :
    path ∈ paths ↔ (recordOf before path).isSome = true ∨ (recordOf after path).isSome = true := by
  have hfound : ∀ dict : List WorkspaceFile,
      path ∈ dict.map WorkspaceFile.path ↔ (recordOf dict path).isSome = true := by
    intro dict
    rw [← Option.ne_none_iff_isSome, Ne, Table.lookup_eq_none_iff, not_not]
  simp only [sortedPaths, bind_eq_ok, check_eq_ok, pure_eq_ok_iff, exists_const] at h
  rw [← h.2, List.mem_insertionSort, List.mem_union_iff, hfound, hfound]

variable {candidate : List WorkspaceFile}

theorem mem_buildChangeset {baseline : List WorkspaceFile}
    (hbefore : byPath baseline = .ok before) (hafter : byPath candidate = .ok after)
    (h : buildChangeset baseline candidate = .ok changes) (path : Datum) :
    path ∈ changes.map WorkspaceChange.path ↔ recordOf before path ≠ recordOf after path := by
  simp only [buildChangeset, hbefore, hafter, ok_bind, bind_eq_ok] at h
  obtain ⟨paths, hpaths, h⟩ := h
  have hmem := mem_sortedPaths hpaths path
  rw [changesOf_eq h, List.map_map]
  change path ∈ List.map id _ ↔ _
  rw [List.map_id, List.mem_filter, hmem, decide_eq_true_eq]
  refine ⟨fun h => h.2, fun hdiffer => ⟨?_, hdiffer⟩⟩
  cases hleft : recordOf before path with
  | some left => exact .inl rfl
  | none =>
    cases hright : recordOf after path with
    | some right => exact .inr rfl
    | none => exact absurd (hleft.trans hright.symm) hdiffer

/-! ## Reading a record back -/

theorem workspaceFile_stored (file : WorkspaceFile) (content : Datum) :
    workspaceFile (file.stored content) true = .ok file := rfl

theorem optionalFile_payload (file : Option WorkspaceFile) :
    optionalFile (optionalPayload file) = .ok file := by
  cases file with
  | none => rfl
  | some file => rfl

/-- A change whose path is a text, and the path of its records. -/
def WorkspaceChange.Bound (change : WorkspaceChange) : Prop :=
  change.path.isText = true ∧ (∀ before ∈ change.before, before.path = change.path) ∧
    ∀ after ∈ change.after, after.path = change.path

theorem workspaceChange_payload {change : WorkspaceChange} (h : change.Bound) :
    workspaceChange change.payload = .ok change := by
  obtain ⟨htext, hbefore, hafter⟩ := h
  have hcheck : (change.path.isText && change.before.all (·.path = change.path) &&
      change.after.all (·.path = change.path)) = true := by
    rw [htext]
    cases hb : change.before <;> cases ha : change.after <;> simp_all
  have hfields : workspaceChange change.payload = (do
      let before ← optionalFile (optionalPayload change.before)
      let after ← optionalFile (optionalPayload change.after)
      check (change.path.isText && before.all (·.path = change.path) &&
        after.all (·.path = change.path)) "Candidate change path binding is invalid."
      return ⟨change.path, before, after⟩) := rfl
  rw [hfields, optionalFile_payload, optionalFile_payload]
  simp only [ok_bind, check_of hcheck]
  rfl

theorem mapM_read {α β : Type} {write : α → β} {read : β → Except String α} {items : List α}
    (h : ∀ item ∈ items, read (write item) = .ok item) :
    (items.map write).mapM read = .ok items := by
  induction items with
  | nil => rfl
  | cons item rest ih =>
    rw [List.map_cons, List.mapM_cons, h item List.mem_cons_self, ok_bind,
      ih fun other hother => h other (List.mem_cons_of_mem _ hother)]
    rfl

/-! ## Taking changes back -/

theorem foldl_takeBack {dict : List WorkspaceFile} (hbound : ∀ change ∈ changes, change.Bound)
    (hdistinct : (changes.map WorkspaceChange.path).Nodup)
    (hu : Table.UniqueKeys WorkspaceFile.path dict) :
    Table.UniqueKeys WorkspaceFile.path (changes.foldl takeBack dict) ∧
      (∀ change ∈ changes, recordOf (changes.foldl takeBack dict) change.path = change.before) ∧
      ∀ path, path ∉ changes.map WorkspaceChange.path →
        recordOf (changes.foldl takeBack dict) path = recordOf dict path := by
  induction changes generalizing dict with
  | nil => exact ⟨hu, fun _ h => absurd h List.not_mem_nil, fun _ _ => rfl⟩
  | cons change rest ih =>
    rw [List.map_cons, List.nodup_cons] at hdistinct
    have hstep : Table.UniqueKeys WorkspaceFile.path (takeBack dict change) ∧
        ∀ path, recordOf (takeBack dict change) path =
          if path = change.path then change.before else recordOf dict path := by
      unfold takeBack
      cases hbefore : change.before with
      | none => exact ⟨hu.delete _, fun path => Table.lookup_delete hu _ path⟩
      | some before =>
        have hpath := (hbound change List.mem_cons_self).2.1 before hbefore
        refine ⟨hu.put _, fun path => ?_⟩
        have hlookup := Table.lookup_put hu before path
        simp only [hpath, eq_comm (a := change.path)] at hlookup
        exact hlookup
    obtain ⟨hunique, hfound, hother⟩ :=
      ih (fun other h => hbound other (List.mem_cons_of_mem _ h)) hdistinct.2 hstep.1
    refine ⟨hunique, fun other hmem => ?_, fun path hpath => ?_⟩
    · rcases List.mem_cons.mp hmem with rfl | hmem
      · rw [List.foldl_cons, hother _ hdistinct.1, hstep.2, if_pos rfl]
      · exact hfound other hmem
    · rw [List.map_cons, List.mem_cons, not_or] at hpath
      rw [List.foldl_cons, hother _ hpath.2, hstep.2, if_neg hpath.1]

/-! ## Snapshots -/

/-- The files of a snapshot: named by texts, in the order of their paths, each path once. -/
structure Snapshot (files : List WorkspaceFile) : Prop where
  texts : ∀ file ∈ files, file.path.isText = true
  sorted : files.Pairwise fun a b => a.path.le b.path
  distinct : Table.UniqueKeys WorkspaceFile.path files

theorem rank_of_isText {value : Datum} (h : value.isText = true) : value.rank = 2 := by
  cases value <;> first | rfl | cases h

theorem hashable_of_isText {value : Datum} (h : value.isText = true) : value.hashable = true := by
  cases value <;> first | rfl | cases h

theorem eq_of_le_of_le {a b : Datum} (ha : a.isText = true) (hb : b.isText = true)
    (h : a.le b = true) (h' : b.le a = true) : a = b := by
  cases a <;> cases b <;> simp_all [Datum.isText, Datum.le]
  exact le_antisymm h h'

theorem sortable_of_texts {values : List Datum} (h : ∀ value ∈ values, value.isText = true) :
    Datum.sortable values = true := by
  have htexts : values.all (·.rank = 2) = true := by
    rw [List.all_eq_true]
    exact fun value hvalue => decide_eq_true (rank_of_isText (h value hvalue))
  rw [Datum.sortable, htexts, Bool.or_true]

theorem Snapshot.byPath {files : List WorkspaceFile} (h : Snapshot files) :
    byPath files = .ok files :=
  byPath_eq_ok.mpr ⟨fun file hfile => hashable_of_isText (h.texts file hfile),
    (Table.build_of_unique h.distinct).symm⟩

theorem Snapshot.sortedFiles {files dict : List WorkspaceFile} (h : Snapshot files)
    (hu : Table.UniqueKeys WorkspaceFile.path dict)
    (hsame : ∀ path, recordOf dict path = recordOf files path) : sortedFiles dict = .ok files := by
  have hperm : dict.Perm files := Table.perm_of_lookup hu h.distinct hsame
  have htexts : ∀ file ∈ dict, file.path.isText = true :=
    fun file hfile => h.texts file (hperm.mem_iff.mp hfile)
  have hsortable : Datum.sortable (dict.map WorkspaceFile.path) = true := by
    refine sortable_of_texts fun value hvalue => ?_
    obtain ⟨file, hfile, rfl⟩ := List.mem_map.mp hvalue
    exact htexts file hfile
  have hsorted : (dict.insertionSort fun a b => a.path.le b.path) = files := by
    have htotal : Std.Total fun a b : WorkspaceFile => a.path.le b.path = true :=
      ⟨fun a b => Datum.le_or_le a.path b.path⟩
    have htrans : IsTrans WorkspaceFile fun a b => a.path.le b.path = true :=
      ⟨fun _ _ _ => Datum.le_chain⟩
    refine List.Perm.eq_of_pairwise ?_ (List.pairwise_insertionSort _ dict) h.sorted
      ((List.perm_insertionSort _ dict).trans hperm)
    intro a b ha hb hle hle'
    rw [List.mem_insertionSort] at ha
    have hpath := eq_of_le_of_le (htexts a ha) (h.texts b hb) hle hle'
    exact List.inj_on_of_nodup_map h.distinct (hperm.mem_iff.mp ha) hb hpath
  simp only [Workspace.sortedFiles, check_of hsortable, ok_bind, hsorted]
  rfl

theorem buildChangeset_bound {source : List WorkspaceFile} (hsource : Snapshot source)
    (hcandidate : Snapshot candidate) (h : buildChangeset source candidate = .ok changes) :
    (∀ change ∈ changes, change.Bound ∧ change.before = recordOf source change.path) ∧
      (changes.map WorkspaceChange.path).Nodup := by
  simp only [buildChangeset, hsource.byPath, hcandidate.byPath, ok_bind, bind_eq_ok] at h
  obtain ⟨paths, hpaths, h⟩ := h
  have hfound : ∀ {dict : List WorkspaceFile} {path : Datum}, Snapshot dict →
      (recordOf dict path).isSome = true → path.isText = true := by
    intro dict path hdict hsome
    obtain ⟨file, hfile⟩ := Option.isSome_iff_exists.mp hsome
    obtain ⟨hmem, rfl⟩ := Table.mem_of_lookup hfile
    exact hdict.texts file hmem
  rw [changesOf_eq h]
  constructor
  · intro change hchange
    obtain ⟨path, hpath, rfl⟩ := List.mem_map.mp hchange
    have htext : path.isText = true := by
      rcases (mem_sortedPaths hpaths path).mp (List.mem_filter.mp hpath).1 with hsome | hsome
      · exact hfound hsource hsome
      · exact hfound hcandidate hsome
    exact ⟨⟨htext, fun before hbefore => (Table.mem_of_lookup hbefore).2,
      fun after hafter => (Table.mem_of_lookup hafter).2⟩, rfl⟩
  · rw [List.map_map]
    change (List.map id _).Nodup
    rw [List.map_id]
    refine List.Nodup.filter _ ?_
    simp only [sortedPaths, bind_eq_ok, check_eq_ok, pure_eq_ok_iff, exists_const] at hpaths
    rw [← hpaths.2]
    exact (List.perm_insertionSort _ _).nodup_iff.mpr (List.Nodup.union _ hcandidate.distinct)

/-! ## Round trip -/

theorem artifactWorkspaceState_stored {source : List WorkspaceFile} (hsource : Snapshot source)
    (hcandidate : Snapshot candidate) (h : buildChangeset source candidate = .ok changes)
    (changeset schemaVersion identity sourceFingerprint : Datum) (content : WorkspaceFile → Datum) :
    artifactWorkspaceState
      (manifestPayload changeset schemaVersion identity sourceFingerprint content candidate)
      (changesetPayload schemaVersion sourceFingerprint changes) =
        .ok (source, candidate, changes) := by
  obtain ⟨hbound, hdistinct⟩ := buildChangeset_bound hsource hcandidate h
  have hfiles : (candidate.map fun file => file.stored (content file)).mapM
      (workspaceFile · true) = .ok candidate :=
    mapM_read fun file _ => workspaceFile_stored file (content file)
  have hchanges : (changes.map WorkspaceChange.payload).mapM workspaceChange = .ok changes :=
    mapM_read fun change hchange => workspaceChange_payload (hbound change hchange).1
  obtain ⟨hu, hchanged, hkept⟩ := foldl_takeBack (fun change hchange => (hbound change hchange).1)
    hdistinct hcandidate.distinct
  have hback : ∀ path, recordOf (changes.foldl takeBack candidate) path = recordOf source path := by
    intro path
    by_cases hpath : path ∈ changes.map WorkspaceChange.path
    · obtain ⟨change, hchange, rfl⟩ := List.mem_map.mp hpath
      rw [hchanged change hchange, (hbound change hchange).2]
    · have hsame := mem_buildChangeset hsource.byPath hcandidate.byPath h path
      rw [hkept path hpath]
      exact (not_not.mp (mt hsame.mpr hpath)).symm
  have hlookup : artifactWorkspaceState
      (manifestPayload changeset schemaVersion identity sourceFingerprint content candidate)
      (changesetPayload schemaVersion sourceFingerprint changes) = (do
        let candidateFiles ← (candidate.map fun file => file.stored (content file)).mapM
          (workspaceFile · true)
        let dict ← byPath candidateFiles
        let read ← (changes.map WorkspaceChange.payload).mapM workspaceChange
        let sourceFiles ← sortedFiles (read.foldl takeBack dict)
        let expected ← buildChangeset sourceFiles candidateFiles
        check (read = expected) "Candidate changeset reconstruction is invalid."
        return (sourceFiles, candidateFiles, read)) := rfl
  rw [hlookup]
  simp only [hfiles, hchanges, hcandidate.byPath, hsource.sortedFiles hu hback, h, ok_bind, check_of]
  rfl

/-- The record of a path in a list of files: the last one, as in `build_changeset`. -/
def recordIn (files : List WorkspaceFile) (path : Datum) : Option WorkspaceFile :=
  recordOf (Table.build WorkspaceFile.path files) path

/-- A changeset is encoded without loss, and only the changeset of the two lists is accepted. -/
theorem changeset_lossless : (∀ source candidate changes, Snapshot source → Snapshot candidate →
      buildChangeset source candidate = .ok changes →
      ∀ changeset schemaVersion identity sourceFingerprint content, artifactWorkspaceState
          (manifestPayload changeset schemaVersion identity sourceFingerprint content candidate)
          (changesetPayload schemaVersion sourceFingerprint changes) =
            .ok (source, candidate, changes)) ∧
    ∀ manifest changeset source candidate changes,
      artifactWorkspaceState manifest changeset = .ok (source, candidate, changes) →
      buildChangeset source candidate = .ok changes ∧
      ∀ path, path ∉ changes.map WorkspaceChange.path →
        recordIn source path = recordIn candidate path := by
  constructor
  · intro source candidate changes hsource hcandidate h changeset schemaVersion identity
      sourceFingerprint content
    exact artifactWorkspaceState_stored hsource hcandidate h changeset schemaVersion identity
      sourceFingerprint content
  · intro manifest changeset source candidate changes h
    unfold artifactWorkspaceState at h
    split at h
    · simp only [bind_eq_ok, check_eq_ok, pure_eq_ok_iff, Prod.mk.injEq, exists_const] at h
      obtain ⟨_, -, _, -, _, -, _, -, expected, hexpected, rfl, rfl, rfl, rfl⟩ := h
      refine ⟨hexpected, fun path hpath => ?_⟩
      have hbuilt := hexpected
      simp only [buildChangeset, bind_eq_ok] at hbuilt
      obtain ⟨before, hbefore, after, hafter, -⟩ := hbuilt
      have hsame := mem_buildChangeset hbefore hafter hexpected path
      rw [(byPath_eq_ok.mp hbefore).2, (byPath_eq_ok.mp hafter).2] at hsame
      exact not_not.mp (mt hsame.mpr hpath)
    · cases h

def sampleFile (path : String) (kind : String) (size : ℚ) : WorkspaceFile :=
  ⟨.text path, .text kind, .none, .num size, .num 420, .text "round_trip"⟩

theorem changeset_lossless_sample : artifactWorkspaceState
      (manifestPayload .none .none .none .none (fun _ => .none)
        [sampleFile "a" "file" 2, sampleFile "b" "missing" 0, sampleFile "c" "file" 5,
          sampleFile "d" "file" 1]) (changesetPayload .none .none
        [⟨.text "a", some (sampleFile "a" "file" 1), some (sampleFile "a" "file" 2)⟩,
          ⟨.text "b", some (sampleFile "b" "file" 3), some (sampleFile "b" "missing" 0)⟩,
          ⟨.text "d", none, some (sampleFile "d" "file" 1)⟩]) =
      .ok ([sampleFile "a" "file" 1, sampleFile "b" "file" 3, sampleFile "c" "file" 5],
        [sampleFile "a" "file" 2, sampleFile "b" "missing" 0, sampleFile "c" "file" 5,
          sampleFile "d" "file" 1],
        [⟨.text "a", some (sampleFile "a" "file" 1), some (sampleFile "a" "file" 2)⟩,
          ⟨.text "b", some (sampleFile "b" "file" 3), some (sampleFile "b" "missing" 0)⟩,
          ⟨.text "d", none, some (sampleFile "d" "file" 1)⟩]) := changeset_lossless.1 _ _ _
    ⟨by decide, by decide, by unfold Table.UniqueKeys; decide⟩
    ⟨by decide, by decide, by unfold Table.UniqueKeys; decide⟩ rfl _ _ _ _ _

end LocalMoe.Workspace
