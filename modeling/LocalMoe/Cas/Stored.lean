/-
  What is stored is loaded again.
-/
import LocalMoe.Cas.Store

namespace LocalMoe.Cas

open Contracts Foundation

/-! ## The store keeps what it holds -/

section Kept

variable {S : Stdlib} {fold : Fold} {codec : Codec} {objects objects' : Objects}

/-- What is held stays held. -/
def Keeps (objects objects' : Objects) : Prop :=
  ∀ digest value, objects digest = some value → objects' digest = some value

theorem Keeps.refl : Keeps objects objects := fun _ _ h => h

theorem Keeps.trans {middle : Objects} (h : Keeps objects middle) (h' : Keeps middle objects') :
    Keeps objects objects' := fun digest value hvalue => h' digest value (h digest value hvalue)

variable {descriptor : ArtifactDescriptor} {value : List UInt8}

theorem readVerified_eq_ok :
    readVerified S objects descriptor = .ok value ↔ objects descriptor.sha256 = some value ∧
      value.length = descriptor.sizeBytes ∧ S.sha256 value = descriptor.sha256 := by
  unfold readVerified
  constructor
  · intro h
    split at h
    · cases h
    · next held hheld =>
      split at h
      · cases h
      · next hlength =>
        split at h
        · cases h
        · next hdigest =>
          cases h
          exact ⟨hheld, not_not.mp hlength, not_not.mp hdigest⟩
  · rintro ⟨hheld, hlength, hdigest⟩
    simp [hheld, hlength, hdigest]

theorem Keeps.read (h : Keeps objects objects')
    (hread : readVerified S objects descriptor = .ok value) :
    readVerified S objects' descriptor = .ok value := by
  rw [readVerified_eq_ok] at hread ⊢
  exact ⟨h _ _ hread.1, hread.2⟩

theorem putBytes_ok {mediaType : String} {put : Objects × ArtifactDescriptor}
    (h : putBytes S objects value mediaType = .ok put) :
    put.2 = ⟨mediaType, S.sha256 value, value.length⟩ ∧ put.2.check = .ok () ∧
      readVerified S put.1 put.2 = .ok value ∧ Keeps objects put.1 := by
  simp only [putBytes, bind_eq_ok, check_eq_ok, exists_const, pure_eq_ok_iff] at h
  obtain ⟨⟨⟩, hcheck, read, hread, rfl, rfl⟩ := h
  refine ⟨rfl, hcheck, hread, fun digest held hheld => ?_⟩
  split
  · exact hheld
  · next hnone =>
    dsimp only
    split
    · next hdigest =>
      rw [hdigest] at hheld
      simp [hheld] at hnone
    · exact hheld

theorem getJson_ok (hcodec : codec.Lawful) {document : Document} {bytes : List UInt8}
    (hdumps : codec.dumps document = .ok bytes)
    (hread : readVerified S objects descriptor = .ok bytes)
    (hbound : bytes.length ≤ maxCandidateMetadataBytes) :
    getJson S codec objects descriptor = .ok document := by
  have hlength : bytes.length = descriptor.sizeBytes := (readVerified_eq_ok.mp hread).2.1
  have hfits : descriptor.sizeBytes ≤ maxCandidateMetadataBytes := by omega
  simp only [getJson, check_of hfits, hread, ok_bind, hcodec document bytes hdumps, check_of hdumps]
  rfl

/-- What is held of a file of a manifest. -/
structure Holds (S : Stdlib) (fold : Fold) (tree : String → Option (List UInt8))
    (objects : Objects) (file : StoredFile) : Prop where
  normal : normalizeFileRecord S fold file.record = .ok file.record
  missing : file.record.kind = "missing" → file.content = none
  file : file.record.kind = "file" → ∃ value, tree file.record.path = some value ∧
    file.content = some ⟨contentType, file.record.sha256, value.length⟩ ∧
    (value.length : Int) = file.record.size ∧
    readVerified S objects ⟨contentType, file.record.sha256, value.length⟩ = .ok value

variable {tree : String → Option (List UInt8)}

theorem Holds.mono {file : StoredFile} (h : Holds S fold tree objects file)
    (hkeeps : Keeps objects objects') : Holds S fold tree objects' file := by
  refine ⟨h.normal, h.missing, fun hkind => ?_⟩
  obtain ⟨value, htree, hcontent, hsize, hread⟩ := h.file hkind
  exact ⟨value, htree, hcontent, hsize, hkeeps.read hread⟩

/-- What has been stored of some records. -/
structure StoredAs (S : Stdlib) (fold : Fold) (tree : String → Option (List UInt8))
    (records : List FileRecord) (seen : List String) (total : Int) (objects : Objects)
    (held : Objects × List StoredFile) : Prop where
  same : held.2.map StoredFile.record = records
  keeps : Keeps objects held.1
  fresh : ∀ path ∈ records.map FileRecord.path, path ∉ seen
  nodup : (records.map FileRecord.path).Nodup
  holds : ∀ file ∈ held.2, Holds S fold tree held.1 file
  contents : validateContents held.2 total = .ok ()

theorem storeContent_ok {record : FileRecord} {total : Int}
    {held : Objects × Option ArtifactDescriptor}
    (hrecord : normalizeFileRecord S fold record = .ok record)
    (h : storeContent S tree record total objects = .ok held) :
    Keeps objects held.1 ∧ Holds S fold tree held.1 ⟨record, held.2⟩ ∧
      ∀ rest, validateContents rest (if record.kind = "file" then total + record.size else total) =
        .ok () → validateContents (⟨record, held.2⟩ :: rest) total = .ok () := by
  unfold storeContent at h
  split at h
  · next hkind =>
    simp only [bind_eq_ok, check_eq_ok, exists_const] at h
    obtain ⟨hsize, htotal, h⟩ := h
    split at h
    · cases h
    · next value htree =>
      simp only [bind_eq_ok, check_eq_ok, exists_const, pure_eq_ok_iff] at h
      obtain ⟨hlength, hdigest, put, hput, rfl⟩ := h
      obtain ⟨hdescriptor, hcheck, hread, hkeeps⟩ := putBytes_ok hput
      rw [hdigest] at hdescriptor
      refine ⟨hkeeps, ⟨hrecord, ?_, fun _ => ⟨value, htree, ?_, hlength, ?_⟩⟩, fun rest hrest => ?_⟩
      · intro hmissing
        rw [hkind] at hmissing
        exact absurd hmissing (by decide)
      · rw [hdescriptor]
      · rw [← hdescriptor]
        exact hread
      · have hnot : record.kind ≠ "missing" := by
          rw [hkind]
          decide
        rw [if_pos hkind] at hrest
        rw [validateContents, if_neg hnot]
        simp only [hcheck, ok_bind]
        rw [hdescriptor]
        simp only [hlength, check_of hsize, check_of htotal, ok_bind]
        simpa [check] using hrest
  · next hkind =>
    cases h
    have hmissing : record.kind = "missing" :=
      (normalizeFileRecord_spec S fold hrecord).1.resolve_left hkind
    refine ⟨.refl, ⟨hrecord, fun _ => rfl, fun hfile => absurd hfile hkind⟩, fun rest hrest => ?_⟩
    rw [if_neg hkind] at hrest
    rw [validateContents, if_pos hmissing]
    exact hrest

theorem storeFiles_ok {records : List FileRecord} :
    ∀ {seen : List String} {total : Int} {objects : Objects} {held : Objects × List StoredFile},
      storeFiles S fold tree records seen total objects = .ok held →
      StoredAs S fold tree records seen total objects held := by
  induction records with
  | nil =>
    intro seen total objects held h
    cases h
    exact ⟨rfl, .refl, nofun, List.nodup_nil, nofun, rfl⟩
  | cons raw rest ih =>
    intro seen total objects held h
    simp only [storeFiles, bind_eq_ok, check_eq_ok, exists_const, pure_eq_ok_iff] at h
    obtain ⟨record, hrecord, hseen, content, hcontent, later, hlater, rfl⟩ := h
    obtain rfl := normalizeFileRecord_ok S fold hrecord
    obtain ⟨hkeeps, hholds, hcontents⟩ := storeContent_ok hrecord hcontent
    have hrest := ih hlater
    refine ⟨?_, hkeeps.trans hrest.keeps, ?_, ?_, ?_, hcontents _ hrest.contents⟩
    · rw [List.map_cons, hrest.same]
    · intro path hpath
      rcases List.mem_cons.mp hpath with rfl | hpath
      · exact hseen
      · exact fun hmem => hrest.fresh path hpath (List.mem_cons_of_mem _ hmem)
    · exact List.nodup_cons.mpr ⟨fun hmem => hrest.fresh _ hmem List.mem_cons_self, hrest.nodup⟩
    · intro file hfile
      rcases List.mem_cons.mp hfile with rfl | hfile
      · exact hholds.mono hrest.keeps
      · exact hrest.holds file hfile

/-! ## What is stored is loaded -/

theorem ordered_map {α : Type} {path : α → String} {items : List α}
    (hnodup : ((items.insertionSort fun a b => path a ≤ path b).map path).Nodup) :
    Ordered ((items.insertionSort fun a b => path a ≤ path b).map path) := by
  refine ⟨List.pairwise_map.mpr ?_, hnodup⟩
  have : Std.Total fun a b : α => path a ≤ path b := ⟨fun _ _ => le_total _ _⟩
  have : IsTrans α fun a b => path a ≤ path b := ⟨fun _ _ _ => le_trans⟩
  exact List.pairwise_insertionSort _ items

variable {changes : List Change}

theorem mapM_normalizeChange_ok {normalized : List Change}
    (h : changes.mapM (normalizeChange S fold) = .ok normalized) :
    normalized = changes ∧ ∀ change ∈ changes, normalizeChange S fold change = .ok change := by
  have hall := mapM_ok_iff.mp h
  clear h
  induction hall with
  | nil => exact ⟨rfl, nofun⟩
  | cons hchange _ ih =>
    obtain rfl := normalizeChange_ok S fold hchange
    obtain ⟨rfl, hrest⟩ := ih
    exact ⟨rfl, List.forall_mem_cons.mpr ⟨hchange, hrest⟩⟩

theorem mapM_sortedChanges (h : ∀ change ∈ changes, normalizeChange S fold change = .ok change) :
    (sortedChanges changes).mapM (normalizeChange S fold) = .ok (sortedChanges changes) :=
  mapM_ok_iff.mpr (List.forall₂_same.mpr fun change hchange =>
    h change ((List.mem_insertionSort _).mp hchange))

theorem validatedManifestRecords_ok {files : List StoredFile}
    (hholds : ∀ file ∈ files, Holds S fold tree objects file)
    (hordered : Ordered (files.map fun file => file.record.path))
    (hportable : portableUnique fold (files.map fun file => file.record.path) = true) :
    validatedManifestRecords S fold files = .ok files := by
  have hloop : (files.forM fun file => do
      let record ← normalizeFileRecord S fold file.record
      check (record.kind = "missing" → file.content = none) "Missing candidate has content."
      check (record.kind = "file" → file.content.isSome)
        "Candidate content descriptor is missing.") = Except.ok ⟨⟩ := by
    refine forM_ok_iff.mpr fun file hfile => ?_
    have hheld := hholds file hfile
    have hcontent : file.record.kind = "file" → file.content.isSome := by
      intro hkind
      obtain ⟨value, -, hcontent, -⟩ := hheld.file hkind
      rw [hcontent]
      rfl
    simp only [hheld.normal, ok_bind, check_of hheld.missing, check_of hcontent]
  unfold validatedManifestRecords
  rw [hloop]
  simp only [ok_bind, check_of hordered, check_of hportable]
  rfl

/-- What is known of a candidate that was stored. -/
structure Stored (S : Stdlib) (fold : Fold) (codec : Codec)
    (tree : String → Option (List UInt8)) (candidateFiles : List FileRecord)
    (changes : List Change) (sourceFingerprint : String) (source : SourceIdentity)
    (objects : Objects) (manifestDescriptor changesetDescriptor : ArtifactDescriptor)
    (files : List StoredFile) : Prop where
  same : files.map StoredFile.record = sortedFiles candidateFiles
  holds : ∀ file ∈ files, Holds S fold tree objects file
  validated : ∀ expected : Option ArtifactDescriptor, expected.all (· = changesetDescriptor) →
    validatedDescriptors S fold codec objects manifestDescriptor expected =
      .ok (⟨casSchemaVersion, sourceFingerprint, source, files, changesetDescriptor⟩,
        ⟨casSchemaVersion, sourceFingerprint, sortedChanges changes⟩)
  loads : loadCandidate S fold codec objects manifestDescriptor changesetDescriptor =
    .ok (⟨casSchemaVersion, sourceFingerprint, source, files, changesetDescriptor⟩,
      ⟨casSchemaVersion, sourceFingerprint, sortedChanges changes⟩)

theorem storeCandidate_stored (hcodec : codec.Lawful) {candidateFiles : List FileRecord}
    {sourceFingerprint : String} {source : SourceIdentity} {later : Objects}
    {held : Objects × ArtifactDescriptor × ArtifactDescriptor}
    (h : storeCandidate S fold codec tree candidateFiles changes sourceFingerprint source objects
      = .ok held) (hlater : Keeps held.1 later) :
    ∃ files, Stored S fold codec tree candidateFiles changes sourceFingerprint source later
      held.2.1 held.2.2 files := by
  simp only [storeCandidate, bind_eq_ok, check_eq_ok, exists_const, pure_eq_ok_iff] at h
  obtain ⟨hfingerprint, ⟨hcount, -⟩, source', hsource, content, hcontent, hportable, normalized,
    hnormalized, hnodup, hportable', ⟨⟩, hvalid, changesetBytes, hchangesetDumps, hchangesetBound,
    changeset, hchangeset, manifestBytes, hmanifestDumps, hmanifestBound, manifest, hmanifest,
    rfl⟩ := h
  obtain rfl := normalizeSourceIdentity_ok hsource
  obtain ⟨rfl, hchanges⟩ := mapM_normalizeChange_ok hnormalized
  have hfiles := storeFiles_ok hcontent
  obtain ⟨hchangesetEq, hchangesetCheck, hchangesetRead, hchangesetKeeps⟩ := putBytes_ok hchangeset
  obtain ⟨hmanifestEq, hmanifestCheck, hmanifestRead, hmanifestKeeps⟩ := putBytes_ok hmanifest
  have hkeeps : Keeps content.1 later := (hchangesetKeeps.trans hmanifestKeeps).trans hlater
  have hholds : ∀ file ∈ content.2, Holds S fold tree later file := fun file hfile =>
    (hfiles.holds file hfile).mono hkeeps
  have hpaths : content.2.map (fun file => file.record.path) =
      (sortedFiles candidateFiles).map FileRecord.path := by
    rw [← hfiles.same, List.map_map]
    rfl
  have hordered : Ordered (content.2.map fun file => file.record.path) := by
    rw [hpaths]
    exact ordered_map hfiles.nodup
  have hgetManifest := getJson_ok hcodec hmanifestDumps (hlater.read hmanifestRead) hmanifestBound
  have hgetChangeset := getJson_ok hcodec hchangesetDumps
    ((hmanifestKeeps.trans hlater).read hchangesetRead) hchangesetBound
  have hrecords := validatedManifestRecords_ok hholds hordered hportable
  have hmediaType : manifest.2.mediaType = manifestType := by rw [hmanifestEq]
  have hchangesetType : changeset.2.mediaType = changesetType := by rw [hchangesetEq]
  have hlength : content.2.length ≤ maxCandidateFiles := by
    have hsame := congrArg List.length hfiles.same
    rw [List.length_map, sortedFiles, List.length_insertionSort] at hsame
    omega
  have hchangeset : validateStoredChangeset S fold
      ⟨casSchemaVersion, sourceFingerprint, sortedChanges normalized⟩ sourceFingerprint
      (content.2.map StoredFile.record) = .ok () := by
    simp only [validateStoredChangeset, bind_eq_ok, check_eq_ok, exists_const]
    exact ⟨⟨trivial, trivial⟩, _, mapM_sortedChanges hchanges, ordered_map hnodup, hportable', hvalid⟩
  have hdescriptors : ∀ expected : Option ArtifactDescriptor, expected.all (· = changeset.2) →
      validatedDescriptors S fold codec later manifest.2 expected =
        .ok (⟨casSchemaVersion, sourceFingerprint, source', content.2, changeset.2⟩,
          ⟨casSchemaVersion, sourceFingerprint, sortedChanges normalized⟩) := by
    intro expected hexpected
    simp only [validatedDescriptors, bind_eq_ok, check_eq_ok, exists_const, pure_eq_ok_iff]
    exact ⟨hmediaType, _, hgetManifest, _, rfl, rfl, hfingerprint, _, hsource, ⟨⟩,
      hchangesetCheck, hchangesetType, hexpected, _, hrecords, _, hgetChangeset, _, rfl, ⟨⟩,
      hchangeset, hlength, ⟨⟩, hfiles.contents, rfl⟩
  refine ⟨content.2, hfiles.same, hholds, hdescriptors, ?_⟩
  simp only [loadCandidate, bind_eq_ok, pure_eq_ok_iff]
  refine ⟨_, hdescriptors (some changeset.2) (by simp), ⟨⟩, forM_ok_iff.mpr fun file hfile => ?_, rfl⟩
  have hheld := hholds file hfile
  rcases (normalizeFileRecord_spec S fold hheld.normal).1 with hkind | hkind
  · obtain ⟨value, -, hcontent, -, hread⟩ := hheld.file hkind
    rw [hcontent]
    simp only [hread, ok_bind]
    rfl
  · rw [hheld.missing hkind]

end Kept

end LocalMoe.Cas
