/-
  A candidate, from the store to the tree that is staged.
-/
import LocalMoe.Cas.Stored
import LocalMoe.Cas.Tree

namespace LocalMoe.Cas

open Contracts Foundation

/-! ## The round trip -/

section RoundTrip

variable {S : Stdlib} {fold : Fold} {codec : Codec} {privileged : Bool} {umask : BitVec 9}
  {policy : WorkspaceScopePolicy} {objects : Objects} {tree : SourceTree}
  {records : List FileRecord} {changes : List Change}

theorem mapM_eq_some_map {α β : Type} {items : List α} {f : α → Option β} {g : α → β}
    (h : ∀ item ∈ items, f item = some (g item)) : items.mapM f = some (items.map g) := by
  induction items with
  | nil => rfl
  | cons item rest ih =>
    rw [List.mapM_cons, h item List.mem_cons_self,
      ih fun other hother => h other (List.mem_cons_of_mem _ hother)]
    rfl

/-- The files as they are created under a mask. -/
def maskedFiles (umask : BitVec 9) (tree : SourceTree) (records : List FileRecord) :
    List (String × File) :=
  (records.filter fun record => record.kind = "file").map fun record =>
    (record.path, ⟨(tree.read record.path).getD [], modeOf record &&& ~~~umask⟩)

theorem and_not_eq_self_iff {mode : BitVec 9} : mode &&& ~~~umask = mode ↔ mode &&& umask = 0 := by
  constructor
  · intro h
    rw [← h, BitVec.and_assoc]
    simp
  · intro h
    ext i hi
    have hbit := congrArg (fun bits : BitVec 9 => bits[i]) h
    simp only [BitVec.getElem_and, BitVec.getElem_not] at hbit ⊢
    revert hbit
    cases mode[i] <;> cases umask[i] <;> simp

theorem maskedFiles_eq_recorded_iff : maskedFiles umask tree records = recordedFiles tree records ↔
    ∀ record ∈ records, record.kind = "file" → modeOf record &&& umask = 0 := by
  unfold maskedFiles recordedFiles
  rw [List.map_inj_left]
  constructor
  · intro h record hrecord hkind
    have hfile := h record (List.mem_filter.mpr ⟨hrecord, by simpa using hkind⟩)
    exact and_not_eq_self_iff.mp (congrArg File.mode (Prod.mk.inj hfile).2)
  · intro h record hrecord
    obtain ⟨hmem, hkind⟩ := List.mem_filter.mp hrecord
    rw [and_not_eq_self_iff.mpr (h record hmem (by simpa using hkind))]

theorem Holds.isSome_iff {file : StoredFile} (h : Holds S fold tree.read objects file) :
    file.content.isSome = true ↔ file.record.kind = "file" := by
  constructor
  · intro hsome
    rcases (normalizeFileRecord_spec S fold h.normal).1 with hkind | hkind
    · exact hkind
    · rw [h.missing hkind] at hsome
      cases hsome
  · intro hkind
    obtain ⟨value, -, hcontent, -⟩ := h.file hkind
    rw [hcontent]
    rfl

theorem Holds.create {file : StoredFile} (h : Holds S fold tree.read objects file)
    (hkind : file.record.kind = "file") : createFile S umask objects file = some (file.record.path,
        ⟨(tree.read file.record.path).getD [], modeOf file.record &&& ~~~umask⟩) := by
  obtain ⟨value, htree, hcontent, -, hread⟩ := h.file hkind
  simp [createFile, hcontent, hread, htree, Except.toOption]

theorem makeTree_of_holds {files : List StoredFile}
    (hholds : ∀ file ∈ files, Holds S fold tree.read objects file) :
    makeTree S privileged umask objects files =
      if (files.map StoredFile.record).any (fun record => record.kind = "file") &&
          !(mayWrite privileged (0o700#9 &&& ~~~umask) &&
            maySearch privileged (0o700#9 &&& ~~~umask)) then none
      else some ⟨0o700#9 &&& ~~~umask, maskedFiles umask tree (files.map StoredFile.record)⟩ := by
  have hregular : regularFiles files = files.filter fun file => file.record.kind = "file" := by
    refine List.filter_congr fun file hfile => ?_
    rw [Bool.eq_iff_iff, (hholds file hfile).isSome_iff]
    simp
  have hsome : ∀ file ∈ regularFiles files, (tree.read file.record.path).isSome := by
    intro file hfile
    rw [hregular] at hfile
    obtain ⟨hmem, hkind⟩ := List.mem_filter.mp hfile
    obtain ⟨value, htree, -⟩ := (hholds file hmem).file (by simpa using hkind)
    rw [htree]
    rfl
  have hends : ((regularFiles files).any fun file => (regularFiles files).any fun other =>
      isBelow file.record.path other.record.path) = false := by
    rw [Bool.eq_false_iff]
    intro hany
    obtain ⟨file, hfile, hany⟩ := List.any_eq_true.mp hany
    obtain ⟨other, hother, hbelow⟩ := List.any_eq_true.mp hany
    rw [tree.files_end _ _ (hsome file hfile) (hsome other hother)] at hbelow
    cases hbelow
  have hmade : (regularFiles files).mapM (createFile S umask objects) =
      some (maskedFiles umask tree (files.map StoredFile.record)) := by
    have hcreate : ∀ file ∈ regularFiles files, createFile S umask objects file =
        some (file.record.path,
          ⟨(tree.read file.record.path).getD [], modeOf file.record &&& ~~~umask⟩) := by
      intro file hfile
      rw [hregular] at hfile
      obtain ⟨hmem, hkind⟩ := List.mem_filter.mp hfile
      exact (hholds file hmem).create (by simpa using hkind)
    rw [mapM_eq_some_map hcreate, hregular, maskedFiles, List.filter_map, List.map_map]
    rfl
  have hempty : (!(regularFiles files).isEmpty) =
      (files.map StoredFile.record).any fun record => record.kind = "file" := by
    rw [hregular, List.any_map, Bool.eq_iff_iff]
    simp
  unfold makeTree
  simp only [hends, hmade, hempty]
  rfl

theorem snapshotMaterialized_eq {directory : BitVec 9} {files : List (String × File)} :
    snapshotMaterialized S privileged policy ⟨directory, files⟩ =
      if mayRead privileged directory = true ∧
        (files ≠ [] ∨ policy.ignoredPaths ≠ [] → maySearch privileged directory = true) then
        snapshotFiles S privileged policy files
      else none := by
  unfold snapshotMaterialized
  dsimp only
  rcases mayRead privileged directory with _ | _
  · simp
  · rcases maySearch privileged directory with _ | _
    · rcases files with _ | ⟨file, rest⟩
      · rcases policy.ignoredPaths with _ | ⟨rule, rules⟩
        · simp
        · simp
      · simp
    · simp

theorem stageAttested_iff {directory : BitVec 9} {files : List (String × File)} :
    stageAttested S privileged policy ⟨directory, files⟩ records changes = true ↔
      (mayRead privileged directory = true ∧
        (files ≠ [] ∨ policy.ignoredPaths ≠ [] → maySearch privileged directory = true)) ∧
      stageAttested S privileged policy ⟨0o700#9, files⟩ records changes = true := by
  have hread : mayRead privileged 0o700#9 = true := by cases privileged <;> rfl
  have hsearch : maySearch privileged 0o700#9 = true := by cases privileged <;> rfl
  have hopen : snapshotMaterialized S privileged policy ⟨0o700#9, files⟩ =
      snapshotFiles S privileged policy files := by
    rw [snapshotMaterialized_eq, if_pos ⟨hread, fun _ => hsearch⟩]
  unfold stageAttested
  rw [hopen, snapshotMaterialized_eq]
  by_cases hmay : mayRead privileged directory = true ∧
      (files ≠ [] ∨ policy.ignoredPaths ≠ [] → maySearch privileged directory = true)
  · rw [if_pos hmay]
    exact (and_iff_right hmay).symm
  · rw [if_neg hmay]
    simp only [Bool.false_eq_true, false_iff, not_and]
    exact fun h => absurd h hmay

theorem maskedFiles_ne_nil_iff : maskedFiles umask tree records ≠ [] ↔
    ∃ record ∈ records, record.kind = "file" := by
  simp [maskedFiles, List.filter_eq_nil_iff]

theorem treeMade_iff : (∃ made, (if records.any (fun record => record.kind = "file") &&
        !(mayWrite privileged (0o700#9 &&& ~~~umask) &&
          maySearch privileged (0o700#9 &&& ~~~umask)) then none
      else some (Tree.mk (0o700#9 &&& ~~~umask) (maskedFiles umask tree records))) = some made ∧
      made.files = recordedFiles tree records ∧
      stageAttested S privileged policy made records changes = true) ↔
    Harmless privileged umask policy records ∧ InScope S privileged policy tree records changes := by
  constructor
  · rintro ⟨made, hmade, hfiles, hstage⟩
    split at hmade
    · cases hmade
    · next hrights =>
      cases hmade
      rw [stageAttested_iff] at hstage
      obtain ⟨⟨hread, hsearch⟩, hscope⟩ := hstage
      rw [maskedFiles_ne_nil_iff] at hsearch
      refine ⟨⟨maskedFiles_eq_recorded_iff.mp hfiles, hread, hsearch, fun hfile => ?_⟩, ?_⟩
      · by_contra hwrite
        rw [Bool.not_eq_true] at hwrite
        refine hrights ?_
        simpa [hwrite] using hfile
      · rw [InScope, ← hfiles]
        exact hscope
  · rintro ⟨hharmless, hscope⟩
    have hfiles : maskedFiles umask tree records = recordedFiles tree records :=
      maskedFiles_eq_recorded_iff.mpr hharmless.modes
    have hrights : ¬(records.any (fun record => record.kind = "file") &&
        !(mayWrite privileged (0o700#9 &&& ~~~umask) &&
          maySearch privileged (0o700#9 &&& ~~~umask))) = true := by
      intro hblocked
      obtain ⟨hany, hright⟩ := Bool.and_eq_true_iff.mp hblocked
      have hfile : ∃ record ∈ records, record.kind = "file" := by simpa using hany
      rw [hharmless.write hfile, hharmless.search (.inl hfile)] at hright
      cases hright
    refine ⟨_, if_neg hrights, hfiles, stageAttested_iff.mpr ⟨⟨hharmless.read, ?_⟩, ?_⟩⟩
    · rw [maskedFiles_ne_nil_iff]
      exact hharmless.search
    · exact hfiles.symm ▸ hscope

theorem Stored.rebuilt_iff {candidateFiles : List FileRecord} {sourceFingerprint : String}
    {source : SourceIdentity} {manifestDescriptor changesetDescriptor : ArtifactDescriptor}
    {files : List StoredFile}
    (h : Stored S fold codec tree.read candidateFiles changes sourceFingerprint source objects
      manifestDescriptor changesetDescriptor files) :
    Rebuilt S fold codec privileged umask policy tree objects manifestDescriptor
        (sortedFiles candidateFiles) (sortedChanges changes) ↔
      Harmless privileged umask policy (sortedFiles candidateFiles) ∧
        InScope S privileged policy tree (sortedFiles candidateFiles) (sortedChanges changes) := by
  have hmake : materializeCandidate S fold codec privileged umask objects manifestDescriptor =
      makeTree S privileged umask objects files := by
    simp [materializeCandidate, h.validated none rfl, Except.toOption]
  unfold Rebuilt
  rw [hmake, makeTree_of_holds h.holds, h.same]
  exact treeMade_iff

variable {later : Objects}

theorem putBytes_again {value : List UInt8} {mediaType : String} {put : Objects × ArtifactDescriptor}
    (h : putBytes S objects value mediaType = .ok put) (hkeeps : Keeps put.1 later) :
    putBytes S later value mediaType = .ok (later, put.2) := by
  obtain ⟨hdescriptor, hcheck, hread, -⟩ := putBytes_ok h
  have hlater := hkeeps.read hread
  have hheld := (readVerified_eq_ok.mp hlater).1
  rw [hdescriptor] at hcheck hlater hheld
  simp only [putBytes, hcheck, hheld, Option.isSome_some, if_true, hlater, ok_bind, check_of,
    hdescriptor]
  rfl

theorem storeContent_again {record : FileRecord} {total : Int}
    {held : Objects × Option ArtifactDescriptor}
    (h : storeContent S tree.read record total objects = .ok held) (hkeeps : Keeps held.1 later) :
    storeContent S tree.read record total later = .ok (later, held.2) := by
  unfold storeContent at h ⊢
  split at h
  · next hkind =>
    rw [if_pos hkind]
    simp only [bind_eq_ok, check_eq_ok, exists_const] at h ⊢
    obtain ⟨hsize, htotal, h⟩ := h
    refine ⟨hsize, htotal, ?_⟩
    split at h
    · cases h
    · next value htree =>
      simp only [bind_eq_ok, check_eq_ok, exists_const, pure_eq_ok_iff] at h ⊢
      obtain ⟨hlength, hdigest, put, hput, rfl⟩ := h
      exact ⟨hlength, hdigest, _, putBytes_again hput hkeeps, rfl⟩
  · next hkind =>
    cases h
    exact if_neg hkind

theorem storeFiles_again {seen : List String} {total : Int}
    {held : Objects × List StoredFile}
    (h : storeFiles S fold tree.read records seen total objects = .ok held)
    (hkeeps : Keeps held.1 later) :
    storeFiles S fold tree.read records seen total later = .ok (later, held.2) := by
  induction records generalizing seen total objects held with
  | nil =>
    cases h
    rfl
  | cons raw rest ih =>
    simp only [storeFiles, bind_eq_ok, check_eq_ok, exists_const, pure_eq_ok_iff] at h ⊢
    obtain ⟨record, hrecord, hseen, content, hcontent, files, hfiles, rfl⟩ := h
    have hcontent' := storeContent_again hcontent ((storeFiles_ok hfiles).keeps.trans hkeeps)
    exact ⟨record, hrecord, hseen, _, hcontent', _, ih hfiles hkeeps, rfl⟩

/-- What any number of calls of `put_bytes` make of the objects. -/
def Puts (S : Stdlib) : Objects → Objects → Prop := Relation.ReflTransGen fun objects objects' =>
  ∃ value mediaType descriptor, putBytes S objects value mediaType = .ok (objects', descriptor)

theorem Puts.keeps (h : Puts S objects later) : Keeps objects later := by
  induction h with
  | refl => exact .refl
  | tail _ hput ih =>
    obtain ⟨_, _, _, hput⟩ := hput
    exact ih.trans (putBytes_ok hput).2.2.2

/-- A candidate that was stored is stored again, whatever has been put into the store since,
under the same descriptors, and nothing is written. -/
theorem storeCandidate_again {candidateFiles : List FileRecord} {changes : List Change}
    {sourceFingerprint : String} {source : SourceIdentity}
    {held : Objects × ArtifactDescriptor × ArtifactDescriptor}
    (h : storeCandidate S fold codec tree.read candidateFiles changes sourceFingerprint source objects
      = .ok held) (hputs : Puts S held.1 later) :
    storeCandidate S fold codec tree.read candidateFiles changes sourceFingerprint source later =
      .ok (later, held.2) := by
  simp only [storeCandidate, bind_eq_ok, check_eq_ok, exists_const, pure_eq_ok_iff] at h ⊢
  obtain ⟨hfingerprint, hcount, source', hsource, files, hfiles, hportable, normalized,
    hnormalized, hnodup, hportable', ⟨⟩, hvalid, changesetBytes, hchangesetDumps, hchangesetBound,
    changeset, hchangeset, manifestBytes, hmanifestDumps, hmanifestBound, manifest, hmanifest,
    rfl⟩ := h
  obtain ⟨-, -, -, hmanifestKeeps⟩ := putBytes_ok hmanifest
  obtain ⟨-, -, -, hchangesetKeeps⟩ := putBytes_ok hchangeset
  have hkeeps := hputs.keeps
  have hchangesetLater := hmanifestKeeps.trans hkeeps
  have hfiles' := storeFiles_again hfiles (hchangesetKeeps.trans hchangesetLater)
  exact ⟨hfingerprint, hcount, source', hsource, _, hfiles', hportable, normalized, hnormalized,
    hnodup, hportable', ⟨⟩, hvalid, changesetBytes, hchangesetDumps, hchangesetBound, _,
    putBytes_again hchangeset hchangesetLater, manifestBytes, hmanifestDumps, hmanifestBound, _,
    putBytes_again hmanifest hkeeps, rfl⟩

end RoundTrip

/-! ## A mask that takes a bit away -/

section Free

variable {S : Stdlib} {objects : Objects} {value : List UInt8} {mediaType digest : String}

def Objects.hold (objects : Objects) (digest : String) (value : List UInt8) : Objects :=
  fun other => if other = digest then some value else objects other

theorem putBytes_free (hdigest : S.sha256 value = digest) (hfree : objects digest = none)
    (hcheck : (ArtifactDescriptor.mk mediaType digest value.length).check = .ok ()) :
    putBytes S objects value mediaType =
      .ok (objects.hold digest value, ⟨mediaType, digest, value.length⟩) := by
  simp only [putBytes, bind_eq_ok, check_eq_ok, exists_const, pure_eq_ok_iff, hdigest]
  refine ⟨⟨⟩, hcheck, value, ?_, rfl, ?_⟩
  · rw [readVerified_eq_ok]
    simp [hfree, hdigest]
  · simp only [hfree]
    rfl

end Free

/-- `sha256(b"")`. -/
def emptyDigest : String := "e3b0c44298fc1c149afbf4c8996fb92427ae41e4649b934ca495991b7852b855"

def sharedRecord : FileRecord := ⟨"a", "file", emptyDigest, 0, 0o666, "round_trip"⟩

def sharedTree : SourceTree where
  read path := if path = "a" then some [] else none
  files_end path other hpath hother := by
    have ha : path = "a" := by
      by_contra hne
      simp [hne] at hpath
    have ha' : other = "a" := by
      by_contra hne
      simp [hne] at hother
    rw [ha, ha']
    decide +kernel

def zeros : String := "0000000000000000000000000000000000000000000000000000000000000000"

def sharedSource : SourceIdentity := ⟨zeros, zeros, false, none, zeros⟩

def asciiBytes (text : String) : List UInt8 := text.toList.map fun c => UInt8.ofNat c.toNat

/-- What `rfc8785` writes of the changeset without changes. -/
@[irreducible] def changesetBytes : List UInt8 :=
  asciiBytes ("\x7b\"changes\":[],\"schemaVersion\":\"1.0\",\"sourceFingerprint\":\"" ++
    zeros ++ "\"\x7d")

def sharedChangeset : ArtifactDescriptor :=
  ⟨changesetType, "03a7446e541d4e9f79722976b094649ac22ba001985296661fdbe6018df14ee7", 123⟩

def sharedContent : ArtifactDescriptor := ⟨contentType, emptyDigest, 0⟩

def sharedManifest : Manifest :=
  ⟨casSchemaVersion, zeros, sharedSource, [⟨sharedRecord, some sharedContent⟩], sharedChangeset⟩

/-- The text that `rfc8785` writes of the manifest. -/
def manifestText : String :=
  "\x7b\"changeset\":\x7b\"digest\":\x7b\"sha256\":\"" ++
    "03a7446e541d4e9f79722976b094649ac22ba001985296661fdbe6018df14ee7" ++
    "\"\x7d,\"mediaType\":\"application/vnd.mymoe.changeset+json\",\"sizeBytes\":123\x7d," ++
    "\"files\":[\x7b\"content\":\x7b\"digest\":\x7b\"sha256\":\"" ++ emptyDigest ++
    "\"\x7d,\"mediaType\":\"application/octet-stream\",\"sizeBytes\":0\x7d," ++
    "\"direction\":\"round_trip\",\"kind\":\"file\",\"mode\":438,\"path\":\"a\"," ++
    "\"sha256\":\"" ++ emptyDigest ++ "\",\"size\":0\x7d],\"schemaVersion\":\"1.0\"," ++
    "\"source\":\x7b\"fingerprint\":\"" ++ zeros ++
    "\",\"gitRepository\":false,\"headSha\":null,\"indexSha256\":\"" ++ zeros ++
    "\",\"rootSha256\":\"" ++ zeros ++ "\"\x7d,\"sourceFingerprint\":\"" ++ zeros ++ "\"\x7d"

/-- What `rfc8785` writes of the manifest. -/
@[irreducible] def manifestBytes : List UInt8 := asciiBytes manifestText

def manifestDigest : String := "f1a572cdb549cb577dcdaa5209016500d061471df5ced81f9e9ad0dd3542f7ec"

theorem length_asciiBytes (text : String) : (asciiBytes text).length = text.length := by
  rw [asciiBytes, List.length_map, String.length_toList]

theorem length_append_ofList {text : String} {cs : List Char} {n : Nat} (h : text.length = n) :
    (text ++ String.ofList cs).length = n + cs.length := by
  rw [String.length_append, String.length_ofList, h]

-- The length of each literal is evaluated by itself.
theorem changesetBytes_length : changesetBytes.length = 123 := by
  unfold changesetBytes
  refine (length_asciiBytes _).trans ?_
  apply Eq.trans
  · iterate 2 apply length_append_ofList
    exact String.length_ofList
  · decide +kernel

theorem manifestText_length : manifestText.length = 878 := by
  unfold manifestText
  apply Eq.trans
  · iterate 18 apply length_append_ofList
    exact String.length_ofList
  · decide +kernel

theorem manifestBytes_length : manifestBytes.length = 878 := by
  unfold manifestBytes
  exact (length_asciiBytes manifestText).trans manifestText_length

theorem bytes_ne : manifestBytes ≠ changesetBytes := by
  intro h
  have hlength := manifestBytes_length
  rw [h, changesetBytes_length] at hlength
  cases hlength

theorem changesetBytes_ne : changesetBytes ≠ [] := by
  intro h
  have hlength := changesetBytes_length
  rw [h] at hlength
  cases hlength

theorem manifestBytes_ne : manifestBytes ≠ [] := by
  intro h
  have hlength := manifestBytes_length
  rw [h] at hlength
  cases hlength

theorem isSha256_emptyDigest : isSha256 emptyDigest = true := isSha256_ofList (by decide +kernel)

theorem isSha256_changeset : isSha256 sharedChangeset.sha256 = true :=
  isSha256_ofList (by decide +kernel)

theorem isSha256_manifestDigest : isSha256 manifestDigest = true :=
  isSha256_ofList (by decide +kernel)

theorem isSha256_zeros : isSha256 zeros = true := isSha256_ofList (by decide +kernel)

def sharedStdlib : Stdlib where
  sha256 data :=
    if data = [] then emptyDigest
    else if data = changesetBytes then sharedChangeset.sha256
    else if data = manifestBytes then manifestDigest
    else zeros
  parseTimestamp := parseUtcSecond
  sha256_hex data := by
    split
    · exact isSha256_emptyDigest
    · split
      · exact isSha256_changeset
      · split
        · exact isSha256_manifestDigest
        · exact isSha256_zeros
  parseTimestamp_isoformat := Stdlib.cpython.parseTimestamp_isoformat

theorem emptyDigest_eq : sharedStdlib.sha256 [] = emptyDigest := by simp [sharedStdlib]

theorem changesetDigest_eq : sharedStdlib.sha256 changesetBytes = sharedChangeset.sha256 := by
  simp [sharedStdlib, changesetBytes_ne]

theorem manifestDigest_eq : sharedStdlib.sha256 manifestBytes = manifestDigest := by
  simp [sharedStdlib, manifestBytes_ne, bytes_ne]

def emptyChangeset : Changeset := ⟨casSchemaVersion, zeros, []⟩

def sharedCodec : Codec where
  dumps document :=
    if document = .changeset emptyChangeset then .ok changesetBytes
    else if document = .manifest sharedManifest then .ok manifestBytes
    else .error "another document"
  loads bytes :=
    if bytes = changesetBytes then some (.changeset emptyChangeset)
    else if bytes = manifestBytes then some (.manifest sharedManifest)
    else none

theorem sharedCodec_lawful : sharedCodec.Lawful := by
  have hchangeset : sharedCodec.loads changesetBytes = some (.changeset emptyChangeset) := by
    simp [sharedCodec]
  have hmanifest : sharedCodec.loads manifestBytes = some (.manifest sharedManifest) := by
    simp [sharedCodec, bytes_ne]
  intro document bytes h
  by_cases hdocument : document = .changeset emptyChangeset
  · have hbytes : sharedCodec.dumps document = .ok changesetBytes := by
      simp [sharedCodec, hdocument]
    cases hbytes.symm.trans h
    rw [hchangeset, hdocument]
  · by_cases hother : document = .manifest sharedManifest
    · have hbytes : sharedCodec.dumps document = .ok manifestBytes := by
        simp [sharedCodec, hother]
      cases hbytes.symm.trans h
      rw [hmanifest, hother]
    · have hbytes : sharedCodec.dumps document = .error "another document" := by
        simp [sharedCodec, hdocument, hother]
      cases hbytes.symm.trans h

/-- The bounds that a policy has by default, without ignored paths. -/
def plainPolicy : WorkspaceScopePolicy :=
  ⟨5000, 256 * 1024 * 1024, 64 * 1024 * 1024, [], id, id⟩

def sharedObjects : Objects :=
  ((Objects.hold (fun _ => none) emptyDigest []).hold sharedChangeset.sha256 changesetBytes).hold
    manifestDigest manifestBytes

theorem shared_normalized : normalizeFileRecord sharedStdlib id sharedRecord = .ok sharedRecord := by
  have hkind : ¬(sharedRecord.kind = "missing" ∧ (sharedRecord.size ≠ 0 ∨
      sharedRecord.mode ≠ 0 ∨ sharedRecord.sha256 ≠ sharedStdlib.sha256 [])) :=
    fun h => absurd h.1 (by decide)
  unfold normalizeFileRecord
  rw [if_neg (by decide +kernel), if_neg (by decide), if_neg (by decide +kernel),
    if_neg (by decide), if_neg (by decide), if_neg (by decide), if_neg hkind, if_neg (by decide)]

theorem shared_held : storeContent sharedStdlib sharedTree.read sharedRecord 0 (fun _ => none) =
    .ok (Objects.hold (fun _ => none) emptyDigest [], some sharedContent) := by
  have hcontent := @putBytes_free sharedStdlib (fun _ => none) [] contentType emptyDigest
    emptyDigest_eq rfl (by decide +kernel)
  have hpath : sharedTree.read sharedRecord.path = some [] := rfl
  have hkind : sharedRecord.kind = "file" := rfl
  unfold storeContent
  rw [if_pos hkind]
  simp only [bind_eq_ok, check_eq_ok, exists_const, hpath, pure_eq_ok_iff]
  exact ⟨by decide, by decide, rfl, emptyDigest_eq, _, hcontent, rfl⟩

theorem shared_files : storeFiles sharedStdlib id sharedTree.read [sharedRecord] [] 0
    (fun _ => none) =
      .ok (Objects.hold (fun _ => none) emptyDigest [], [⟨sharedRecord, some sharedContent⟩]) := by
  simp only [storeFiles, bind_eq_ok, check_eq_ok, exists_const, pure_eq_ok_iff]
  exact ⟨_, shared_normalized, List.not_mem_nil, _, shared_held, _, rfl, rfl⟩

theorem shared_source : normalizeSourceIdentity sharedSource zeros = .ok sharedSource := by
  have hzeros : ¬(!isSha256 zeros) = true := by
    rw [isSha256_zeros]
    exact Bool.false_ne_true
  unfold normalizeSourceIdentity
  exact (if_neg hzeros).trans ((if_neg hzeros).trans ((if_neg (not_not.mpr rfl)).trans
    ((if_neg hzeros).trans ((if_neg Bool.false_ne_true).trans (if_neg Bool.false_ne_true)))))

theorem shared_stored : storeCandidate sharedStdlib id sharedCodec sharedTree.read
    [sharedRecord] [] zeros sharedSource (fun _ => none) =
      .ok (sharedObjects, ⟨manifestType, manifestDigest, manifestBytes.length⟩, sharedChangeset) := by
  have hchangeset := @putBytes_free sharedStdlib (Objects.hold (fun _ => none) emptyDigest [])
    changesetBytes changesetType sharedChangeset.sha256 changesetDigest_eq (by decide +kernel)
    (by rw [changesetBytes_length]; decide +kernel)
  have hmanifest := @putBytes_free sharedStdlib
    ((Objects.hold (fun _ => none) emptyDigest []).hold sharedChangeset.sha256 changesetBytes)
    manifestBytes manifestType manifestDigest manifestDigest_eq (by decide +kernel)
    (by rw [manifestBytes_length]; decide +kernel)
  have hdumps : sharedCodec.dumps (.changeset emptyChangeset) = .ok changesetBytes := by
    simp [sharedCodec]
  have hdumps' : sharedCodec.dumps (.manifest sharedManifest) = .ok manifestBytes := by
    simp [sharedCodec]
  have hsharedChangeset : (ArtifactDescriptor.mk changesetType sharedChangeset.sha256
      changesetBytes.length) = sharedChangeset := by
    rw [changesetBytes_length]
    rfl
  rw [hsharedChangeset] at hchangeset
  simp only [storeCandidate, bind_eq_ok, check_eq_ok, exists_const, pure_eq_ok_iff]
  refine ⟨by decide +kernel, ⟨by decide, by decide⟩, sharedSource, shared_source, _, shared_files,
    by decide +kernel, [], rfl, List.nodup_nil, by decide +kernel, ⟨⟩, rfl, changesetBytes, hdumps,
    ?_, _, hchangeset, manifestBytes, hdumps', ?_, _, hmanifest, rfl⟩
  · rw [changesetBytes_length]
    decide
  · rw [manifestBytes_length]
    decide

theorem storeCandidate_again_sample :
    storeCandidate sharedStdlib id sharedCodec sharedTree.read [sharedRecord] [] zeros sharedSource
      sharedObjects =
      .ok (sharedObjects, ⟨manifestType, manifestDigest, manifestBytes.length⟩, sharedChangeset) :=
  storeCandidate_again shared_stored .refl

end LocalMoe.Cas
