/-
  On which trees the digest of a directory succeeds, and what it is.
-/
import LocalMoe.Artifact.Names
import LocalMoe.Contracts.Sha256
import Mathlib.Algebra.BigOperators.Group.Finset.Basic

namespace LocalMoe.Artifact

open Foundation Contracts

/-! ## Files -/

def TreeFile.inode (f : TreeFile) : Nat × Nat := (f.stat.device, f.stat.inode)

/-- The bytes of files, each link counted. -/
def totalSize (files : List TreeFile) : Nat := (files.map (·.stat.size)).sum

/-- The bytes of files, each inode counted once. -/
def inodeBytes (files : List TreeFile) : Nat :=
  ∑ i ∈ (files.map fun f => (f.inode, f.stat.size)).toFinset, i.2

/-- The links of an inode show one file, and its link count shows that there are several. -/
def Coherent (files : List TreeFile) : Prop :=
  files.Pairwise fun f g => f.inode = g.inode →
    f.stat = g.stat ∧ f.content = g.content ∧ 1 < f.stat.links

def FirstLink (before : List TreeFile) (f : TreeFile) : Prop := ∀ g ∈ before, g.inode ≠ f.inode

variable (S : Stdlib) (limits : ArtifactTreeLimits)

def TreeFile.entry (f : TreeFile) : ArtifactTreeEntry :=
  ⟨posixPath f.parts, f.stat.size, S.sha256 f.content⟩

/-- A file can be hashed after the files before it. -/
def Fits (before : List TreeFile) (f : TreeFile) : Prop :=
  f.stat.size ≤ limits.maxFileBytes ∧
    totalSize before + f.stat.size ≤ limits.maxTotalBytes ∧
    (FirstLink before f → totalSize before < limits.maxTotalBytes)

/-- What the walk has accumulated after some files. -/
structure After (files : List TreeFile) (seen : Hashed) : Prop where
  entries : seen.entries = files.map (TreeFile.entry S)
  total : seen.total = totalSize files
  hashed : seen.hashed = inodeBytes files
  hashed_le : seen.hashed ≤ seen.total
  cached : ∀ key c, seen.hardlinks.lookup key = some c → ∃ g ∈ files,
    hardlinkKey g.stat = some key ∧ c = ⟨S.sha256 g.content, g.stat.size, g.stat⟩
  links : ∀ g ∈ files, ∀ key, hardlinkKey g.stat = some key →
    ∃ c, seen.hardlinks.lookup key = some c

theorem hardlinkKey_eq_some {stat : FileStat} {key : Nat × Nat} : hardlinkKey stat = some key ↔
      (stat.device ≠ 0 ∧ stat.inode ≠ 0 ∧ 1 < stat.links) ∧ key = (stat.device, stat.inode) := by
  unfold hardlinkKey
  split
  · rename_i h
    rw [Option.some.injEq, eq_comm]
    exact (and_iff_right h).symm
  · rename_i h
    exact ⟨fun heq => (by cases heq), fun heq => absurd heq.1 h⟩

theorem totalSize_append (files : List TreeFile) (f : TreeFile) :
    totalSize (files ++ [f]) = totalSize files + f.stat.size := by
  unfold totalSize
  rw [List.map_append, List.sum_append, List.map_singleton, List.sum_singleton]

variable {files : List TreeFile}

theorem inodeBytes_first {f : TreeFile} (h : FirstLink files f) :
    inodeBytes (files ++ [f]) = inodeBytes files + f.stat.size := by
  unfold inodeBytes
  rw [List.map_append, List.map_singleton, List.toFinset_append, Finset.union_comm]
  have hnew : (f.inode, f.stat.size) ∉ (files.map fun g => (g.inode, g.stat.size)).toFinset := by
    intro hmem
    obtain ⟨g, hg, heq⟩ := List.mem_map.mp (List.mem_toFinset.mp hmem)
    exact h g hg (congrArg Prod.fst heq)
  rw [show [(f.inode, f.stat.size)].toFinset = {(f.inode, f.stat.size)} from rfl,
    ← Finset.insert_eq, Finset.sum_insert hnew, Nat.add_comm]

variable {g : TreeFile}

theorem inodeBytes_again {f : TreeFile} (hg : g ∈ files) (hinode : g.inode = f.inode)
    (hstat : g.stat = f.stat) : inodeBytes (files ++ [f]) = inodeBytes files := by
  have hmem : (f.inode, f.stat.size) ∈ (files.map fun g => (g.inode, g.stat.size)).toFinset := by
    rw [← hinode, ← hstat]
    exact List.mem_toFinset.mpr (List.mem_map_of_mem hg)
  unfold inodeBytes
  rw [List.map_append, List.map_singleton, List.toFinset_append, Finset.union_comm,
    show [(f.inode, f.stat.size)].toFinset = {(f.inode, f.stat.size)} from rfl,
    ← Finset.insert_eq, Finset.insert_eq_self.mpr hmem]

/-! ## One file -/

variable {S limits} {before : List TreeFile} {f : TreeFile} {seen seen' : Hashed}

/-- A file with valid names under the root. -/
structure TreeFile.Named (f : TreeFile) : Prop extends f.Sound where
  nonempty : f.parts ≠ []
  names : ∀ part ∈ f.parts, ValidName part

theorem TreeFile.Named.entry (h : f.Named) (hsize : f.stat.size ≤ limits.maxFileBytes)
    {digest : String} (hdigest : digest = S.sha256 f.content) :
    ArtifactTreeEntry.make (posixPath f.parts) f.stat.size digest = .ok (f.entry S) := by
  have hsha : isSha256 digest = true := by
    rw [hdigest]
    exact S.sha256_hex _
  unfold ArtifactTreeEntry.make
  rw [relativePath_posixPath h.nonempty h.names, ok_bind,
    check_of (hsize.trans limits.file_range.2), ok_bind, check_of hsha, ok_bind, hdigest]
  rfl

theorem After.uncached (h : After S before seen) (hfirst : FirstLink before f) :
    (hardlinkKey f.stat).bind (fun key => seen.hardlinks.lookup key) = none := by
  rw [Option.bind_eq_none_iff]
  intro key hkey
  cases hlookup : seen.hardlinks.lookup key with
  | none => rfl
  | some c =>
    obtain ⟨g, hg, hgkey, _⟩ := h.cached key c hlookup
    have hinode : g.inode = f.inode :=
      (hardlinkKey_eq_some.mp hgkey).2.symm.trans (hardlinkKey_eq_some.mp hkey).2
    exact absurd hinode (hfirst g hg)

theorem After.again (h : After S before seen) (hf : f.Named) (hg : g ∈ before)
    (hinode : g.inode = f.inode)
    (hcoherent : ∀ g ∈ before, g.inode = f.inode → g.stat = f.stat ∧ g.content = f.content ∧
      1 < g.stat.links) : (hardlinkKey f.stat).bind (fun key => seen.hardlinks.lookup key) =
      some ⟨S.sha256 f.content, f.stat.size, f.stat⟩ := by
  obtain ⟨hstat, _, hlinks⟩ := hcoherent g hg hinode
  have hkey : hardlinkKey f.stat = some f.inode :=
    hardlinkKey_eq_some.mpr ⟨⟨hf.device, hf.inode, hstat ▸ hlinks⟩, rfl⟩
  obtain ⟨c, hc⟩ := h.links g hg f.inode (hstat ▸ hkey)
  obtain ⟨g', hg', hgkey, rfl⟩ := h.cached _ _ hc
  obtain ⟨hstat', hcontent', _⟩ := hcoherent g' hg' (hardlinkKey_eq_some.mp hgkey).2.symm
  rw [hkey, Option.bind_some, hc, hstat', hcontent']

theorem hashFresh_eq_ok (hf : f.Named) (hsize : f.stat.size ≤ limits.maxFileBytes)
    (htotal : seen.total + f.stat.size ≤ limits.maxTotalBytes) {result : String × Hashed} :
    hashFresh S limits f.stat f.content seen = .ok result ↔
      seen.total < limits.maxTotalBytes ∧ result = (S.sha256 f.content, { seen with
        hashed := seen.hashed + f.stat.size
        hardlinks := match hardlinkKey f.stat with
          | none => seen.hardlinks
          | some key => (key, ⟨S.sha256 f.content, f.stat.size, f.stat⟩) :: seen.hardlinks }) := by
  have hfile := limits.file_range.1
  have hread (hlt : seen.total < limits.maxTotalBytes) :
      hashBoundedRegularDescriptor S f.stat f.content
        (min limits.maxFileBytes (limits.maxTotalBytes - seen.total)) "artifact file" =
          .ok (S.sha256 f.content, f.stat.size) := by
    have hle : f.stat.size ≤ min limits.maxFileBytes (limits.maxTotalBytes - seen.total) := by
      omega
    have hone : 1 ≤ min limits.maxFileBytes (limits.maxTotalBytes - seen.total) := by omega
    unfold hashBoundedRegularDescriptor
    rw [check_of hone, ok_bind, check_of hle, ok_bind, check_of (hf.size.symm ▸ hle), ok_bind,
      check_of hf.size, ok_bind, hf.size]
    rfl
  unfold hashFresh
  rw [check_bind_eq_ok]
  constructor
  · rintro ⟨hleft, h⟩
    have hlt : seen.total < limits.maxTotalBytes := by omega
    rw [hread hlt, ok_bind] at h
    obtain ⟨_, h⟩ := check_bind_eq_ok.mp h
    exact ⟨hlt, (pure_eq_ok_iff.mp h).symm⟩
  · rintro ⟨hlt, rfl⟩
    refine ⟨by omega, ?_⟩
    rw [hread hlt, ok_bind]
    exact check_bind_eq_ok.mpr ⟨rfl, rfl⟩

theorem After.first (h : After S before seen) (hfirst : FirstLink before f) :
    After S (before ++ [f]) {
      entries := seen.entries ++ [f.entry S]
      total := seen.total + f.stat.size
      hashed := seen.hashed + f.stat.size
      hardlinks := match hardlinkKey f.stat with
        | none => seen.hardlinks
        | some key => (key, ⟨S.sha256 f.content, f.stat.size, f.stat⟩) :: seen.hardlinks } where
  entries := by rw [h.entries, List.map_append, List.map_singleton]
  total := by rw [h.total, totalSize_append]
  hashed := by rw [h.hashed, inodeBytes_first hfirst]
  hashed_le := Nat.add_le_add_right h.hashed_le _
  cached := by
    intro key c hlookup
    cases hkey : hardlinkKey f.stat with
    | none =>
      rw [hkey] at hlookup
      obtain ⟨g, hg, hrest⟩ := h.cached key c hlookup
      exact ⟨g, List.mem_append_left _ hg, hrest⟩
    | some own =>
      rw [hkey] at hlookup
      by_cases heq : key = own
      · subst heq
        rw [List.lookup_cons_self, Option.some.injEq] at hlookup
        exact ⟨f, List.mem_append_right _ List.mem_cons_self, hkey, hlookup.symm⟩
      · rw [List.lookup_cons, beq_false_of_ne heq] at hlookup
        obtain ⟨g, hg, hrest⟩ := h.cached key c hlookup
        exact ⟨g, List.mem_append_left _ hg, hrest⟩
  links := by
    intro g hg key hgkey
    cases hkey : hardlinkKey f.stat with
    | none =>
      rcases List.mem_append.mp hg with hbefore | hlast
      · exact h.links g hbefore key hgkey
      · rw [List.mem_singleton.mp hlast, hkey] at hgkey
        cases hgkey
    | some own =>
      by_cases heq : key = own
      · subst heq
        exact ⟨_, List.lookup_cons_self⟩
      · rcases List.mem_append.mp hg with hbefore | hlast
        · obtain ⟨c, hc⟩ := h.links g hbefore key hgkey
          refine ⟨c, ?_⟩
          rw [List.lookup_cons, beq_false_of_ne heq]
          exact hc
        · rw [List.mem_singleton.mp hlast, hkey] at hgkey
          exact absurd (Option.some.inj hgkey).symm heq

theorem After.next (h : After S before seen) (hg : g ∈ before) (hinode : g.inode = f.inode)
    (hstat : g.stat = f.stat) : After S (before ++ [f]) { seen with
      entries := seen.entries ++ [f.entry S]
      total := seen.total + f.stat.size } where
  entries := by rw [h.entries, List.map_append, List.map_singleton]
  total := by rw [h.total, totalSize_append]
  hashed := by rw [h.hashed, inodeBytes_again hg hinode hstat]
  hashed_le := h.hashed_le.trans (Nat.le_add_right _ _)
  cached := fun key c hlookup => by
    obtain ⟨g', hg', hrest⟩ := h.cached key c hlookup
    exact ⟨g', List.mem_append_left _ hg', hrest⟩
  links := by
    intro g' hg' key hgkey
    rcases List.mem_append.mp hg' with hbefore | hlast
    · exact h.links g' hbefore key hgkey
    · rw [List.mem_singleton.mp hlast, ← hstat] at hgkey
      exact h.links g hg key hgkey

variable (limits) in
theorem After.step (h : After S before seen) (hf : f.Named)
    (hcoherent : ∀ g ∈ before, g.inode = f.inode →
      g.stat = f.stat ∧ g.content = f.content ∧ 1 < g.stat.links) :
    ((∃ seen', hashFile S limits f.parts f.stat f.content seen = .ok seen') ↔
        Fits limits before f) ∧
      ∀ seen', hashFile S limits f.parts f.stat f.content seen = .ok seen' →
        After S (before ++ [f]) seen' := by
  unfold hashFile Fits
  rw [← h.total]
  simp only [check_bind_eq_ok]
  by_cases hbounds : f.stat.size ≤ limits.maxFileBytes ∧
      seen.total + f.stat.size ≤ limits.maxTotalBytes
  swap
  · exact ⟨⟨fun ⟨_, h1, h2, _⟩ => absurd ⟨h1, h2⟩ hbounds,
      fun ⟨h1, h2, _⟩ => absurd ⟨h1, h2⟩ hbounds⟩,
      fun _ ⟨h1, h2, _⟩ => absurd ⟨h1, h2⟩ hbounds⟩
  obtain ⟨hsize, htotal⟩ := hbounds
  simp only [hsize, htotal, true_and]
  have hpath : relativePath (posixPath f.parts) "artifact path" = .ok (posixPath f.parts) :=
    relativePath_posixPath hf.nonempty hf.names
  have hentry : ArtifactTreeEntry.make (posixPath f.parts) f.stat.size (S.sha256 f.content) =
    .ok (f.entry S) := hf.entry hsize rfl
  by_cases hfirst : FirstLink before f
  · rw [h.uncached hfirst]
    simp only [bind_eq_ok, hashFresh_eq_ok hf hsize htotal, hpath, pure_eq_ok_iff]
    constructor
    · constructor
      · rintro ⟨seen', _, ⟨hlt, _⟩, _⟩ _
        exact hlt
      · intro hlt
        refine ⟨_, _, ⟨hlt hfirst, rfl⟩, _, rfl, _, hentry, rfl⟩
    · rintro seen' ⟨_, ⟨_, rfl⟩, _, hpath', entry, hmade, rfl⟩
      cases hpath'
      rw [hentry] at hmade
      cases hmade
      exact h.first hfirst
  · obtain ⟨g, hg, hinode⟩ : ∃ g ∈ before, g.inode = f.inode := by
      by_contra hnone
      exact hfirst fun g hg heq => hnone ⟨g, hg, heq⟩
    rw [h.again hf hg hinode hcoherent]
    simp only [check_of, and_self, ok_bind, pure_bind, hpath, bind_eq_ok, pure_eq_ok_iff]
    constructor
    · exact iff_of_true ⟨_, _, hentry, rfl⟩ fun hlink => absurd hlink hfirst
    · rintro seen' ⟨entry, hmade, rfl⟩
      rw [hentry] at hmade
      cases hmade
      exact h.next hg hinode (hcoherent g hg hinode).1

/-! ## Files in a row -/

def AllFit (limits : ArtifactTreeLimits) (before files : List TreeFile) : Prop :=
  ∀ pre f post, files = pre ++ f :: post → Fits limits (before ++ pre) f

theorem allFit_cons : AllFit limits before (f :: files) ↔
      Fits limits before f ∧ AllFit limits (before ++ [f]) files := by
  constructor
  · intro h
    refine ⟨?_, fun pre g post heq => ?_⟩
    · have hone := h [] f files rfl
      rwa [List.append_nil] at hone
    · have hone := h (f :: pre) g post (by rw [heq, List.cons_append])
      rwa [List.append_cons] at hone
  · rintro ⟨hone, hrest⟩ pre g post heq
    cases pre with
    | nil =>
      rw [List.nil_append, List.cons.injEq] at heq
      rw [List.append_nil, ← heq.1]
      exact hone
    | cons first pre =>
      rw [List.cons_append, List.cons.injEq] at heq
      rw [← heq.1, List.append_cons]
      exact hrest pre g post heq.2

variable (limits) in
theorem After.run (h : After S before seen) (hnamed : ∀ f ∈ files, f.Named)
    (hcoherent : Coherent (before ++ files)) :
    ((∃ seen', hashFiles S limits files seen = .ok seen') ↔ AllFit limits before files) ∧
      ∀ seen', hashFiles S limits files seen = .ok seen' → After S (before ++ files) seen' := by
  induction files generalizing before seen with
  | nil =>
    refine ⟨iff_of_true ⟨seen, rfl⟩ fun pre f post heq => ?_, fun seen' hok => ?_⟩
    · simp at heq
    · cases hok
      rwa [List.append_nil]
  | cons f rest ih =>
    have hlinks : ∀ g ∈ before, g.inode = f.inode →
        g.stat = f.stat ∧ g.content = f.content ∧ 1 < g.stat.links := fun g hg =>
      (List.pairwise_append.mp hcoherent).2.2 g hg f List.mem_cons_self
    obtain ⟨hone, hafter⟩ := h.step limits (hnamed f List.mem_cons_self) hlinks
    rw [List.append_cons] at hcoherent
    have hrest (next : Hashed) (hnext : After S (before ++ [f]) next) :=
      ih hnext (fun g hg => hnamed g (List.mem_cons_of_mem _ hg)) hcoherent
    rw [allFit_cons, List.append_cons before f rest]
    constructor
    · constructor
      · rintro ⟨seen', hok⟩
        obtain ⟨next, hnext, hok⟩ := bind_eq_ok.mp hok
        exact ⟨hone.mp ⟨next, hnext⟩, (hrest next (hafter next hnext)).1.mp ⟨seen', hok⟩⟩
      · rintro ⟨hfits, hfit⟩
        obtain ⟨next, hnext⟩ := hone.mpr hfits
        obtain ⟨seen', hok⟩ := (hrest next (hafter next hnext)).1.mpr hfit
        exact ⟨seen', bind_eq_ok.mpr ⟨next, hnext, hok⟩⟩
    · intro seen' hok
      obtain ⟨next, hnext, hok⟩ := bind_eq_ok.mp hok
      exact (hrest next (hafter next hnext)).2 seen' hok

/-- An empty file that nothing has shown before comes when the budget is used up. -/
def LateEmpty (limits : ArtifactTreeLimits) (files : List TreeFile) : Prop :=
  ∃ pre f post, files = pre ++ f :: post ∧ f.stat.size = 0 ∧ FirstLink pre f ∧
    totalSize pre = limits.maxTotalBytes

theorem totalSize_split (pre : List TreeFile) (f : TreeFile) (post : List TreeFile) :
    totalSize (pre ++ f :: post) = totalSize pre + f.stat.size + totalSize post := by
  unfold totalSize
  rw [List.map_append, List.sum_append, List.map_cons, List.sum_cons, Nat.add_assoc]

theorem allFit_iff : AllFit limits [] files ↔ (∀ f ∈ files, f.stat.size ≤ limits.maxFileBytes) ∧
      totalSize files ≤ limits.maxTotalBytes ∧ ¬ LateEmpty limits files := by
  constructor
  · intro h
    refine ⟨fun f hf => ?_, ?_, ?_⟩
    · obtain ⟨pre, post, heq⟩ := List.append_of_mem hf
      exact (h pre f post heq).1
    · rcases List.eq_nil_or_concat files with rfl | ⟨pre, f, rfl⟩
      · exact Nat.zero_le _
      · rw [List.concat_eq_append, totalSize_append]
        exact (h pre f [] List.concat_eq_append).2.1
    · rintro ⟨pre, f, post, heq, _, hfirst, hfull⟩
      have hlt := (h pre f post heq).2.2 hfirst
      rw [List.nil_append] at hlt
      omega
  · rintro ⟨hsizes, htotal, hlate⟩ pre f post heq
    rw [heq, totalSize_split] at htotal
    refine ⟨hsizes f (heq ▸ List.mem_append_right _ List.mem_cons_self), ?_, fun hfirst => ?_⟩
    · rw [List.nil_append]
      omega
    · rw [List.nil_append] at hfirst ⊢
      by_contra hfull
      exact hlate ⟨pre, f, post, heq, by omega, hfirst, by omega⟩

/-! ## The tree -/

variable {entries : List (String × Node)}

structure Within (limits : ArtifactTreeLimits) (entries : List (String × Node)) : Prop where
  nonempty : filesBelow [] entries ≠ []
  count : (listing [] entries).length ≤ limits.maxFiles
  depth : ∀ e ∈ listing [] entries, e.1.length ≤ limits.maxDepth
  sizes : ∀ f ∈ filesBelow [] entries, f.stat.size ≤ limits.maxFileBytes
  total : totalSize (filesBelow [] entries) ≤ limits.maxTotalBytes

/-- An identity shows exactly the files of a tree, in the order of their paths. -/
structure Shows (S : Stdlib) (entries : List (String × Node)) (r : ArtifactTreeIdentity) :
    Prop where
  files : r.entries.Perm ((filesBelow [] entries).map (TreeFile.entry S))
  sorted : (r.entries.map ArtifactTreeEntry.path).Pairwise (· < ·)
  count : r.fileCount = (filesBelow [] entries).length
  total : r.totalBytes = totalSize (filesBelow [] entries)
  hashed : r.hashedBytes = inodeBytes (filesBelow [] entries)

theorem filesBelow_named (hvalid : (Node.directory entries).Valid) :
    ∀ f ∈ filesBelow [] entries, f.Named := by
  intro f hf
  obtain ⟨e, he, hfile⟩ := List.mem_filterMap.mp hf
  obtain ⟨hnames, hsound⟩ := listing_sound hvalid.2 (fun _ h => by cases h) e he
  obtain ⟨hparts, hfsound⟩ := hsound f hfile
  obtain ⟨entry, _, hprefix⟩ := prefix_of_mem_listing he
  refine ⟨hfsound, fun hnil => ?_, hparts ▸ hnames⟩
  have hlength := hprefix.length_le
  rw [← hparts, hnil] at hlength
  simp at hlength

theorem filesBelow_paths (hvalid : (Node.directory entries).Valid) :
    (((filesBelow [] entries).map (TreeFile.entry S)).map ArtifactTreeEntry.path).Nodup := by
  have hnodup : ((filesBelow [] entries).map TreeFile.parts).Nodup :=
    nodup_parts (fun e he f hf => ((listing_sound hvalid.2 (fun _ h => by cases h) e he).2 f hf).1)
      (nodup_listing hvalid.1 hvalid.2)
  rw [List.map_map]
  refine hnodup.of_map.map_on fun f hf g hg heq => List.inj_on_of_nodup_map hnodup hf hg ?_
  have hfn := filesBelow_named hvalid f hf
  have hgn := filesBelow_named hvalid g hg
  exact posixPath_injective hfn.nonempty hfn.names hgn.nonempty hgn.names heq

instance : Std.Total fun a b : ArtifactTreeEntry => a.path ≤ b.path :=
  ⟨fun a b => le_total a.path b.path⟩

instance : IsTrans ArtifactTreeEntry fun a b => a.path ≤ b.path :=
  ⟨fun _ _ _ => le_trans⟩

theorem sortEntries_perm (entries : List ArtifactTreeEntry) :
    (sortEntries entries).Perm entries := List.perm_insertionSort _ _

theorem sortEntries_sorted (entries : List ArtifactTreeEntry) :
    (sortEntries entries).Pairwise fun a b => a.path ≤ b.path := List.pairwise_insertionSort _ _

theorem After.identity (h : After S (filesBelow [] entries) seen)
    (hvalid : (Node.directory entries).Valid) (hwithin : Within limits entries) :
    ∃ r, ArtifactTreeIdentity.make S "directory" (sortEntries seen.entries)
        (sortEntries seen.entries).length seen.total seen.hashed = .ok r ∧ Shows S entries r := by
  have hperm : (sortEntries seen.entries).Perm
      ((filesBelow [] entries).map (TreeFile.entry S)) := h.entries ▸ sortEntries_perm _
  have hsorted := sortEntries_sorted seen.entries
  have hnodup : ((sortEntries seen.entries).map ArtifactTreeEntry.path).Nodup :=
    (hperm.map _).nodup_iff.mpr (filesBelow_paths hvalid)
  have hlength : (sortEntries seen.entries).length = (filesBelow [] entries).length := by
    rw [hperm.length_eq, List.length_map]
  have hsizes : ((sortEntries seen.entries).map ArtifactTreeEntry.sizeBytes).sum =
      totalSize (filesBelow [] entries) := by
    rw [(hperm.map _).sum_eq, List.map_map]
    rfl
  have hcount : (sortEntries seen.entries).length ≤ hardMaxFiles := by
    have hfiles : (filesBelow [] entries).length ≤ (listing [] entries).length :=
      List.length_filterMap_le _ _
    rw [hlength]
    exact hfiles.trans (hwithin.count.trans limits.files_range.2)
  have htotal : seen.total ≤ hardMaxTotalBytes := h.total ▸ hwithin.total.trans limits.total_range.2
  obtain ⟨digest, hdigest⟩ : ∃ digest, S.sha256Json (identityContent "directory"
      (sortEntries seen.entries) (sortEntries seen.entries).length seen.total) = digest := ⟨_, rfl⟩
  refine ⟨⟨"directory", sortEntries seen.entries, _, seen.total, seen.hashed, digest⟩, ?_, hperm,
    ?_, hlength, h.total, h.hashed⟩
  · unfold ArtifactTreeIdentity.make
    rw [hdigest]
    refine check_bind_eq_ok.mpr ⟨.inl rfl, check_bind_eq_ok.mpr ⟨?_, ?_⟩⟩
    · exact (List.Pairwise.insertionSort_eq hsorted).symm
    refine check_bind_eq_ok.mpr ⟨hnodup, check_bind_eq_ok.mpr ⟨hcount, ?_⟩⟩
    refine check_bind_eq_ok.mpr ⟨htotal, check_bind_eq_ok.mpr ⟨h.hashed_le.trans htotal, ?_⟩⟩
    refine check_bind_eq_ok.mpr ⟨⟨rfl, h.total.trans hsizes.symm⟩, ?_⟩
    exact check_bind_eq_ok.mpr ⟨h.hashed_le,
      check_bind_eq_ok.mpr ⟨fun hfile => absurd hfile (by decide), rfl⟩⟩
  · rw [List.pairwise_map]
    exact (hsorted.and (List.pairwise_map.mp hnodup)).imp fun ⟨hle, hne⟩ => lt_of_le_of_ne hle hne

variable (S limits) in
theorem walkDirectory_returns (hvalid : (Node.directory entries).Valid)
    (hcoherent : Coherent (filesBelow [] entries)) :
    ((∃ walk, walkDirectory S limits [] 0 entries ⟨0, ⟨[], [], 0, 0⟩⟩ = .ok walk) ↔
        (listing [] entries).length ≤ limits.maxFiles ∧
          (∀ e ∈ listing [] entries, e.1.length ≤ limits.maxDepth) ∧
          (∀ f ∈ filesBelow [] entries, f.stat.size ≤ limits.maxFileBytes) ∧
          totalSize (filesBelow [] entries) ≤ limits.maxTotalBytes ∧
          ¬ LateEmpty limits (filesBelow [] entries)) ∧
      ∀ walk, walkDirectory S limits [] 0 entries ⟨0, ⟨[], [], 0, 0⟩⟩ = .ok walk →
        After S (filesBelow [] entries) walk.files := by
  have hstart : After S [] ⟨[], [], 0, 0⟩ :=
    ⟨rfl, rfl, rfl, le_rfl, fun _ _ h => (by cases h), fun _ h => (by cases h)⟩
  obtain ⟨hfits, hafter⟩ := hstart.run limits (filesBelow_named hvalid) hcoherent
  have hwalk (walk : Walk) : walkDirectory S limits [] 0 entries ⟨0, ⟨[], [], 0, 0⟩⟩ = .ok walk ↔
      Walks S limits (nodeListing [] (.directory entries)) 1 ⟨0, ⟨[], [], 0, 0⟩⟩ walk :=
    walkNode_eq_ok S limits hvalid (Nat.zero_le _) (Nat.zero_le _)
  refine ⟨⟨?_, ?_⟩, fun walk h => hafter walk.files ((hwalk walk).mp h).2.2.2⟩
  · rintro ⟨walk, h⟩
    obtain ⟨hdeep, hcount, hmax, hfiles⟩ := (hwalk walk).mp h
    change 0 + ((listing [] entries).length + 1) = walk.visited + 1 at hcount
    exact ⟨by omega, fun e he => hdeep e (List.mem_cons_of_mem _ he),
      allFit_iff.mp (hfits.mp ⟨_, hfiles⟩)⟩
  · rintro ⟨hcount, hdeep, hbudget⟩
    obtain ⟨files, hfiles⟩ := hfits.mpr (allFit_iff.mpr hbudget)
    refine ⟨⟨(listing [] entries).length, files⟩, (hwalk _).mpr ⟨?_, ?_, hcount, hfiles⟩⟩
    · exact List.forall_mem_cons.mpr ⟨Nat.zero_le _, hdeep⟩
    · exact Nat.zero_add _

variable (S limits) in
theorem hashDirectoryDescriptor_eq_ok (hvalid : (Node.directory entries).Valid)
    (hcoherent : Coherent (filesBelow [] entries)) :
    ((∃ r, hashDirectoryDescriptor S limits entries = .ok r) ↔
        Within limits entries ∧ ¬ LateEmpty limits (filesBelow [] entries)) ∧
      ∀ r, hashDirectoryDescriptor S limits entries = .ok r → Shows S entries r := by
  obtain ⟨hreturns, hafter⟩ := walkDirectory_returns S limits hvalid hcoherent
  -- a walk that returns decides between an empty tree and an identity
  have hback (r : ArtifactTreeIdentity) (h : hashDirectoryDescriptor S limits entries = .ok r) :
      (Within limits entries ∧ ¬ LateEmpty limits (filesBelow [] entries)) ∧
        Shows S entries r := by
    obtain ⟨walk, hwalk, h⟩ := bind_eq_ok.mp h
    obtain ⟨hne, h⟩ := check_bind_eq_ok.mp h
    obtain ⟨hcount, hdeep, hsizes, htotal, hlate⟩ := hreturns.mp ⟨walk, hwalk⟩
    have hdone := hafter walk hwalk
    have hfiles : filesBelow [] entries ≠ [] := by
      intro hnil
      refine hne (List.eq_nil_iff_forall_not_mem.mpr fun e he => ?_)
      have hmem := (sortEntries_perm _).mem_iff.mp he
      rw [hdone.entries, hnil] at hmem
      cases hmem
    have hwithin : Within limits entries := ⟨hfiles, hcount, hdeep, hsizes, htotal⟩
    obtain ⟨r', hmade, hshows⟩ := hdone.identity hvalid hwithin
    rw [hmade] at h
    cases h
    exact ⟨⟨hwithin, hlate⟩, hshows⟩
  refine ⟨⟨fun ⟨r, h⟩ => (hback r h).1, fun ⟨hwithin, hlate⟩ => ?_⟩, fun r h => (hback r h).2⟩
  obtain ⟨walk, hwalk⟩ :=
    hreturns.mpr ⟨hwithin.count, hwithin.depth, hwithin.sizes, hwithin.total, hlate⟩
  have hdone := hafter walk hwalk
  obtain ⟨r, hmade, _⟩ := hdone.identity hvalid hwithin
  refine ⟨r, bind_eq_ok.mpr ⟨walk, hwalk, check_bind_eq_ok.mpr ⟨fun hnil => ?_, hmade⟩⟩⟩
  have hlength := (sortEntries_perm walk.files.entries).length_eq
  rw [hnil, hdone.entries, List.length_map, List.length_nil] at hlength
  exact hwithin.nonempty (List.length_eq_zero_iff.mp hlength.symm)

/-- The digest succeeds on exactly the trees within their limits, and shows their files,
exactly when no empty file is late in a tree within its limits. -/
theorem artifact_tree_exact (S : Stdlib) (limits : ArtifactTreeLimits)
    (entries : List (String × Node)) (hvalid : (Node.directory entries).Valid)
    (hcoherent : Coherent (filesBelow [] entries)) :
    (((∃ r, hashDirectoryDescriptor S limits entries = .ok r) ↔ Within limits entries) ∧
      ∀ r, hashDirectoryDescriptor S limits entries = .ok r → Shows S entries r) ↔
    (Within limits entries → ¬ LateEmpty limits (filesBelow [] entries)) := by
  obtain ⟨hreturns, hshows⟩ := hashDirectoryDescriptor_eq_ok S limits hvalid hcoherent
  rw [hreturns, and_iff_left_iff_imp]
  exact and_iff_left hshows

/-! ## Two trees with the same files -/

def sampleFile (inode size : Nat) : Node :=
  .file ⟨1, inode, 33188, size, 0, 0, 1⟩ (List.replicate size 0)

def sampleLimits : ArtifactTreeLimits where
  maxFiles := 2
  maxTotalBytes := 1
  maxDepth := 1
  maxFileBytes := 1
  files_range := by decide
  total_range := by decide
  depth_range := by decide
  file_range := by decide

def emptyFirst : List (String × Node) := [("a", sampleFile 2 0), ("b", sampleFile 3 1)]

def emptyLast : List (String × Node) := [("a", sampleFile 3 1), ("b", sampleFile 2 0)]

theorem validName_of {name : String} (h : name ∉ ["", ".", ".."])
    (hchars : name.toList.all (fun c => c ∉ ['/', '\\', '\x00']) = true) : ValidName name :=
  ⟨h, fun c hc => of_decide_eq_true (List.all_eq_true.mp hchars c hc)⟩

theorem sampleFile_valid {inode size : Nat} (h : inode ≠ 0) : (sampleFile inode size).Valid :=
  ⟨List.length_replicate, one_ne_zero, h⟩

theorem samples_valid : (Node.directory emptyFirst).Valid ∧ (Node.directory emptyLast).Valid := by
  have ha : ValidName "a" := validName_of (by decide) (by decide)
  have hb : ValidName "b" := validName_of (by decide) (by decide)
  exact ⟨⟨by decide, ha, sampleFile_valid (by decide), hb, sampleFile_valid (by decide), trivial⟩,
    ⟨by decide, ha, sampleFile_valid (by decide), hb, sampleFile_valid (by decide), trivial⟩⟩

theorem samples_coherent :
    Coherent (filesBelow [] emptyFirst) ∧ Coherent (filesBelow [] emptyLast) := by
  constructor
  · refine List.pairwise_cons.mpr ⟨fun g hg heq => ?_, List.pairwise_singleton _ _⟩
    rw [List.mem_singleton.mp hg] at heq
    exact absurd heq (by decide)
  · refine List.pairwise_cons.mpr ⟨fun g hg heq => ?_, List.pairwise_singleton _ _⟩
    rw [List.mem_singleton.mp hg] at heq
    exact absurd heq (by decide)

/-- The tree within its limits is refused for its last, empty file; the same files under the
other names are hashed. -/
theorem emptyLast_refused : ((Node.directory emptyLast).Valid ∧ Coherent (filesBelow [] emptyLast) ∧
      Within sampleLimits emptyLast) ∧
    hashDirectoryDescriptor Stdlib.cpython sampleLimits emptyLast =
      .error (.limit "Artifact tree exceeds the configured byte bound.") ∧
    (hashDirectoryDescriptor Stdlib.cpython sampleLimits emptyFirst).isOk = true := by
  refine ⟨⟨samples_valid.2, samples_coherent.2, ?_⟩, by decide +kernel, by decide +kernel⟩
  exact ⟨List.cons_ne_nil _ _, by decide, by decide, by decide, by decide⟩

theorem artifact_tree_exact_emptyFirst :
    ((∃ r, hashDirectoryDescriptor Stdlib.cpython sampleLimits emptyFirst = .ok r) ↔
        Within sampleLimits emptyFirst) ∧
      ∀ r, hashDirectoryDescriptor Stdlib.cpython sampleLimits emptyFirst = .ok r →
        Shows Stdlib.cpython emptyFirst r := by
  refine (artifact_tree_exact Stdlib.cpython sampleLimits emptyFirst samples_valid.1
    samples_coherent.1).mpr fun _ => ?_
  rintro ⟨pre, f, post, heq, hsize, _, hfull⟩
  rcases pre with _ | ⟨first, _ | ⟨second, pre⟩⟩
  · exact absurd hfull (by decide)
  · -- after the empty file the budget is not used up
    have hfirst := (List.cons.inj heq).1
    rw [← hfirst] at hfull
    exact absurd hfull (by decide)
  · have hlength := congrArg List.length heq
    rw [List.length_append, List.length_cons, List.length_cons, List.length_cons] at hlength
    change 2 = _ at hlength
    omega

end LocalMoe.Artifact
