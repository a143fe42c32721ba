/-
  The entries of a tree have different paths.
-/
import LocalMoe.Artifact.Listing

namespace LocalMoe.Artifact

open Foundation Contracts

/-! ## Paths -/

theorem mem_intercalate {sep : List Char} {parts : List (List Char)} {c : Char}
    (h : c ∈ List.intercalate sep parts) : c ∈ sep ∨ ∃ part ∈ parts, c ∈ part := by
  induction parts with
  | nil => cases h
  | cons first rest ih =>
    cases rest with
    | nil =>
      rw [List.intercalate_singleton] at h
      exact .inr ⟨first, List.mem_cons_self, h⟩
    | cons second others =>
      rw [List.intercalate_cons_cons, List.mem_append, List.mem_append] at h
      rcases h with (hfirst | hsep) | hrest
      · exact .inr ⟨first, List.mem_cons_self, hfirst⟩
      · exact .inl hsep
      · exact (ih hrest).imp_right fun ⟨part, hpart, hc⟩ =>
          ⟨part, List.mem_cons_of_mem _ hpart, hc⟩

variable {parts : List String}

theorem rawParts_posixPath (hne : parts ≠ []) (hvalid : ∀ part ∈ parts, ValidName part) :
    rawParts (posixPath parts) = parts.map String.toList := by
  unfold rawParts posixPath
  rw [String.toList_ofList]
  refine List.splitOn_intercalate '/' (fun l hl => ?_) (mt List.map_eq_nil_iff.mp hne)
  obtain ⟨part, hpart, rfl⟩ := List.mem_map.mp hl
  exact fun hc => (hvalid part hpart).2 _ hc List.mem_cons_self

theorem posixPath_injective {others : List String} (hne : parts ≠ [])
    (hvalid : ∀ part ∈ parts, ValidName part) (hothers : others ≠ [])
    (hvalid' : ∀ part ∈ others, ValidName part) (h : posixPath parts = posixPath others) :
    parts = others := by
  have hraw := congrArg rawParts h
  rw [rawParts_posixPath hne hvalid, rawParts_posixPath hothers hvalid'] at hraw
  exact List.map_injective_iff.mpr (fun _ _ => String.toList_inj.mp) hraw

theorem relativePath_posixPath {label : String} (hne : parts ≠ [])
    (hvalid : ∀ part ∈ parts, ValidName part) :
    relativePath (posixPath parts) label = .ok (posixPath parts) := by
  have hchar {c : Char} (hc : c ≠ '/') (hbad : c ∈ ['/', '\\', '\x00']) :
      c ∉ (posixPath parts).toList := by
    intro hmem
    unfold posixPath at hmem
    rw [String.toList_ofList] at hmem
    rcases mem_intercalate hmem with hsep | ⟨l, hl, hmem⟩
    · exact hc (List.mem_singleton.mp hsep)
    · obtain ⟨part, hpart, rfl⟩ := List.mem_map.mp hl
      exact (hvalid part hpart).2 c hmem hbad
  have hparts : ∀ part ∈ rawParts (posixPath parts), part ∉ [[], ['.'], ['.', '.']] := by
    rw [rawParts_posixPath hne hvalid]
    intro l hl hbad
    obtain ⟨part, hpart, rfl⟩ := List.mem_map.mp hl
    refine (hvalid part hpart).1 ?_
    have hname : part = "" ∨ part = "." ∨ part = ".." := by
      simp only [List.mem_cons, List.not_mem_nil, or_false] at hbad
      exact hbad.imp String.toList_inj.mp (Or.imp String.toList_inj.mp String.toList_inj.mp)
    simpa using hname
  have hempty : posixPath parts ≠ "" := by
    intro hempty
    have hraw := hparts []
    rw [hempty] at hraw
    exact hraw (by decide) List.mem_cons_self
  unfold relativePath
  rw [check_of ⟨hempty, hchar (by decide) (by decide), hchar (by decide) (by decide)⟩, ok_bind,
    check_of hparts, ok_bind]
  rfl

/-! ## What a tree lists -/

/-- What the file system guarantees of a regular file. -/
structure TreeFile.Sound (f : TreeFile) : Prop where
  size : f.content.length = f.stat.size
  device : f.stat.device ≠ 0
  inode : f.stat.inode ≠ 0

mutual

theorem nodeListing_sound : ∀ {node : Node} {relative : List String}, node.Valid →
    (∀ part ∈ relative, ValidName part) → ∀ e ∈ nodeListing relative node,
      (∀ part ∈ e.1, ValidName part) ∧ ∀ f ∈ e.2, f.parts = e.1 ∧ f.Sound
  | .link, _, hvalid, _, _, _ | .special, _, hvalid, _, _, _ => hvalid.elim
  | .file stat content, relative, hvalid, hparts, e, he => by
    rw [List.mem_singleton.mp he]
    refine ⟨hparts, fun f hf => ?_⟩
    cases hf
    exact ⟨rfl, hvalid.1, hvalid.2.1, hvalid.2.2⟩
  | .directory entries, relative, hvalid, hparts, e, he => by
    rcases List.mem_cons.mp he with rfl | hbelow
    · exact ⟨hparts, fun f hf => (by cases hf)⟩
    · exact listing_sound hvalid.2 hparts e hbelow

theorem listing_sound : ∀ {entries : List (String × Node)} {relative : List String},
    ValidEntries entries → (∀ part ∈ relative, ValidName part) →
    ∀ e ∈ listing relative entries,
      (∀ part ∈ e.1, ValidName part) ∧ ∀ f ∈ e.2, f.parts = e.1 ∧ f.Sound
  | [], _, _, _, _, he => by cases he
  | (name, node) :: rest, relative, hvalid, hparts, e, he => by
    rcases List.mem_append.mp he with hnode | hrest
    · refine nodeListing_sound hvalid.2.1 (fun part hpart => ?_) e hnode
      rcases List.mem_append.mp hpart with hprefix | hname
      · exact hparts part hprefix
      · exact (List.mem_singleton.mp hname) ▸ hvalid.1
    · exact listing_sound hvalid.2.2 hparts e hrest

end

mutual

theorem prefix_of_mem_nodeListing : ∀ {node : Node} {relative : List String}
    {e : List String × Option TreeFile}, e ∈ nodeListing relative node → relative <+: e.1
  | .link, _, _, he | .special, _, _, he | .file _ _, _, _, he => by rw [List.mem_singleton.mp he]
  | .directory entries, relative, e, he => by
    rcases List.mem_cons.mp he with rfl | hbelow
    · exact List.prefix_rfl
    · obtain ⟨entry, _, hprefix⟩ := prefix_of_mem_listing hbelow
      exact (List.prefix_append _ _).trans hprefix

theorem prefix_of_mem_listing : ∀ {entries : List (String × Node)} {relative : List String}
    {e : List String × Option TreeFile}, e ∈ listing relative entries →
    ∃ entry ∈ entries, relative ++ [entry.1] <+: e.1
  | [], _, _, he => by cases he
  | (name, node) :: rest, relative, e, he => by
    rcases List.mem_append.mp he with hnode | hrest
    · exact ⟨(name, node), List.mem_cons_self, prefix_of_mem_nodeListing hnode⟩
    · obtain ⟨entry, hentry, hprefix⟩ := prefix_of_mem_listing hrest
      exact ⟨entry, List.mem_cons_of_mem _ hentry, hprefix⟩

end

mutual

theorem nodup_nodeListing : ∀ {node : Node} {relative : List String}, node.Valid →
    ((nodeListing relative node).map Prod.fst).Nodup
  | .link, _, hvalid | .special, _, hvalid => hvalid.elim
  | .file _ _, _, _ => List.nodup_singleton _
  | .directory entries, relative, hvalid => by
    refine List.nodup_cons.mpr ⟨fun hmem => ?_, nodup_listing hvalid.1 hvalid.2⟩
    obtain ⟨e, he, heq⟩ := List.mem_map.mp hmem
    obtain ⟨entry, _, hprefix⟩ := prefix_of_mem_listing he
    have hlength := hprefix.length_le
    rw [heq, List.length_append, List.length_singleton] at hlength
    dsimp only at hlength
    omega

theorem nodup_listing : ∀ {entries : List (String × Node)} {relative : List String},
    (entries.map Prod.fst).Pairwise (· < ·) → ValidEntries entries →
    ((listing relative entries).map Prod.fst).Nodup
  | [], _, _, _ => List.nodup_nil
  | (name, node) :: rest, relative, hsorted, hvalid => by
    unfold listing
    rw [List.map_append]
    rw [List.map_cons, List.pairwise_cons] at hsorted
    refine List.nodup_append.mpr ⟨nodup_nodeListing hvalid.2.1,
      nodup_listing hsorted.2 hvalid.2.2, fun a ha b hb hab => ?_⟩
    -- the names that follow `relative` differ
    obtain ⟨e, he, rfl⟩ := List.mem_map.mp ha
    obtain ⟨e', he', rfl⟩ := List.mem_map.mp hb
    have hfirst := prefix_of_mem_nodeListing he
    obtain ⟨entry, hentry, hsecond⟩ := prefix_of_mem_listing he'
    rw [← hab] at hsecond
    have hsame : relative ++ [name] = relative ++ [entry.1] :=
      (List.prefix_of_prefix_length_le hfirst hsecond (by simp)).eq_of_length (by simp)
    have hname : name = entry.1 := List.singleton_inj.mp (List.append_cancel_left hsame)
    exact absurd (hsorted.1 entry.1 (List.mem_map_of_mem hentry)) (hname ▸ lt_irrefl name)

end

theorem nodup_parts {entries : List (List String × Option TreeFile)}
    (hparts : ∀ e ∈ entries, ∀ f ∈ e.2, f.parts = e.1)
    (hnodup : (entries.map Prod.fst).Nodup) :
    ((entries.filterMap Prod.snd).map TreeFile.parts).Nodup := by
  refine hnodup.sublist ?_
  clear hnodup
  induction entries with
  | nil => exact List.Sublist.refl _
  | cons e rest ih =>
    have hrest := ih fun e he => hparts e (List.mem_cons_of_mem _ he)
    cases hfile : e.2 with
    | none =>
      rw [List.filterMap_cons_none hfile, List.map_cons]
      exact hrest.cons _
    | some f =>
      rw [List.filterMap_cons_some hfile, List.map_cons, List.map_cons,
        hparts e List.mem_cons_self f hfile]
      exact hrest.cons_cons _

end LocalMoe.Artifact
