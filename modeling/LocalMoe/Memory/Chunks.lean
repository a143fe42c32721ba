/-
  `_chunk_text` and `_hard_wrap` of `memory.py`.
-/
import LocalMoe.Gateway.Text
import Mathlib.Data.List.TakeWhile

namespace LocalMoe.Memory

open Gateway (Text isSpace rstripOf strip)

/-! ## Splitting -/

/-- `text.split("\n\n")`, from what has been read of the first part. -/
def splitBlank (begun : Text) : Text → List Text
  | [] => [begun]
  | 10 :: 10 :: rest => begun :: splitBlank [] rest
  | c :: rest => splitBlank (begun ++ [c]) rest

/-- `text.split()`, from what has been read of the first word. -/
def splitWords (begun : Text) : Text → List Text
  | [] => if begun = [] then [] else [begun]
  | c :: rest =>
    if isSpace c then
      if begun = [] then splitWords [] rest else begun :: splitWords [] rest
    else splitWords (begun ++ [c]) rest

/-! ## Wrapping -/

/-- `while remainder:` of `_hard_wrap`, as many rounds as the fuel allows: the chunks it adds,
and the piece that is left. -/
def cutWord (chunkChars : Nat) : Nat → Text → Text → Option (List Text × Text)
  | _, current, [] => some ([], current)
  | 0, _, _ => none
  | fuel + 1, current, remainder =>
    (fun cut => (current :: cut.1, cut.2)) <$>
      cutWord chunkChars fuel (remainder.take chunkChars) (remainder.drop chunkChars)

/-- The loop of `_hard_wrap` over the words: the chunks after it. -/
def wrapWords (chunkChars : Nat) (current : Text) : List Text → Option (List Text)
  | [] => some (if current = [] then [] else [current])
  | word :: words =>
    let candidate := strip (current ++ 32 :: word)
    if candidate.length ≤ chunkChars then wrapWords chunkChars candidate words
    else do
      let (cut, last) ← cutWord chunkChars word.length (word.take chunkChars) (word.drop chunkChars)
      let rest ← wrapWords chunkChars last words
      return (if current = [] then [] else [current]) ++ cut ++ rest

def hardWrap (text : Text) (chunkChars : Nat) : Option (List Text) :=
  wrapWords chunkChars [] (splitWords [] text)

/-- The loop of `_chunk_text` over the paragraphs: the chunks after it. -/
def packParagraphs (chunkChars : Nat) (current : Text) : List Text → Option (List Text)
  | [] => some (if current = [] then [] else [strip current])
  | paragraph :: rest =>
    if chunkChars < paragraph.length then do
      let wrapped ← hardWrap paragraph chunkChars
      let more ← packParagraphs chunkChars [] rest
      return (if current = [] then [] else [strip current]) ++ wrapped ++ more
    else
      let candidate :=
        if current = [] then paragraph else strip (current ++ 10 :: 10 :: paragraph)
      if candidate.length ≤ chunkChars then packParagraphs chunkChars candidate rest
      else do
        let more ← packParagraphs chunkChars paragraph rest
        return (if current = [] then [] else [strip current]) ++ more

/-- `_chunk_text`; nothing stands for a loop that does not end. -/
def chunkText (text : Text) (chunkChars : Nat) : Option (List Text) := do
  let paragraphs := ((splitBlank [] text).map strip).filter (· ≠ [])
  let chunks ← packParagraphs chunkChars [] (if paragraphs = [] then [text] else paragraphs)
  return if chunks = [] then [text.take chunkChars] else chunks

/-! ## What is not white space -/

def squeeze (t : Text) : Text := t.filter fun c => !isSpace c

variable {t : Text} {n : Nat}

@[simp] theorem squeeze_append (a b : Text) : squeeze (a ++ b) = squeeze a ++ squeeze b :=
  List.filter_append a b

theorem squeeze_dropWhile (t : Text) : squeeze (t.dropWhile isSpace) = squeeze t := by
  induction t with
  | nil => rfl
  | cons c rest ih =>
    rw [List.dropWhile_cons]
    by_cases hc : isSpace c = true
    · rw [if_pos hc, ih]
      simp [squeeze, hc]
    · rw [if_neg hc]

theorem squeeze_reverse (t : Text) : squeeze t.reverse = (squeeze t).reverse :=
  List.filter_reverse

@[simp] theorem squeeze_strip (t : Text) : squeeze (strip t) = squeeze t := by
  rw [strip, rstripOf, squeeze_reverse, squeeze_dropWhile, squeeze_reverse, List.reverse_reverse,
    squeeze_dropWhile]

theorem length_strip_le (t : Text) : (strip t).length ≤ t.length := by
  rw [strip, rstripOf, List.length_reverse]
  have h := (List.dropWhile_suffix isSpace (l := (t.dropWhile isSpace).reverse)).length_le
  rw [List.length_reverse] at h
  exact h.trans (List.dropWhile_suffix isSpace).length_le

theorem strip_ne_nil (h : squeeze t ≠ []) : strip t ≠ [] := by
  intro hnil
  rw [← squeeze_strip, hnil] at h
  exact h rfl

theorem squeeze_splitBlank (begun t : Text) :
    squeeze (splitBlank begun t).flatten = squeeze begun ++ squeeze t := by
  fun_induction splitBlank begun t with
  | case1 begun => simp [squeeze]
  | case2 begun rest ih =>
    rw [List.flatten_cons, squeeze_append, ih]
    rfl
  | case3 begun c rest hne ih =>
    rw [ih, squeeze_append, List.append_assoc]
    exact congrArg (squeeze begun ++ ·) (squeeze_append [c] rest).symm

/-- A word: it is not empty and has no white space. -/
def IsWord (word : Text) : Prop := word ≠ [] ∧ ∀ c ∈ word, isSpace c = false

theorem IsWord.squeeze (h : IsWord t) : squeeze t = t :=
  List.filter_eq_self.mpr fun c hc => by rw [h.2 c hc]; rfl

theorem splitWords_spec {begun : Text} (hbegun : ∀ c ∈ begun, isSpace c = false) (t : Text) :
    (∀ word ∈ splitWords begun t, IsWord word) ∧
      (splitWords begun t).flatten = squeeze begun ++ squeeze t := by
  have hself : squeeze begun = begun :=
    List.filter_eq_self.mpr fun c hc => by rw [hbegun c hc]; rfl
  rw [hself]
  induction t generalizing begun with
  | nil =>
    unfold splitWords
    split
    · next h => exact ⟨nofun, by rw [h]; rfl⟩
    · next h =>
      refine ⟨fun word hword => ?_, by simp [squeeze]⟩
      rw [List.mem_singleton.mp hword]
      exact ⟨h, hbegun⟩
  | cons c rest ih =>
    have hempty := @ih [] nofun rfl
    unfold splitWords
    split
    · next hc =>
      have hrest : squeeze (c :: rest) = squeeze rest := by simp [squeeze, hc]
      rw [hrest]
      split
      · next h =>
        rw [h]
        exact hempty
      · next h =>
        refine ⟨fun word hword => ?_, by rw [List.flatten_cons, hempty.2, List.nil_append]⟩
        rcases List.mem_cons.mp hword with rfl | hword
        · exact ⟨h, hbegun⟩
        · exact hempty.1 word hword
    · next hc =>
      have hc' : isSpace c = false := Bool.eq_false_iff.mpr hc
      have hmore : ∀ d ∈ begun ++ [c], isSpace d = false :=
        List.forall_mem_append.mpr ⟨hbegun, List.forall_mem_singleton.mpr hc'⟩
      obtain ⟨hwords, hflat⟩ := ih hmore (List.filter_eq_self.mpr fun d hd => by
        rw [hmore d hd]; rfl)
      refine ⟨hwords, ?_⟩
      rw [hflat, List.append_assoc]
      simp [squeeze, hc']

theorem strip_eq_nil (h : squeeze t = []) : strip t = [] := by
  have hall : ∀ c ∈ t, isSpace c = true := by
    simpa [squeeze, List.filter_eq_nil_iff] using h
  rw [strip, rstripOf, List.dropWhile_eq_nil_iff.mpr hall]
  rfl

/-! ## What the loops keep -/

/-- A chunk that can be returned. -/
def Fits (n : Nat) (chunk : Text) : Prop := chunk ≠ [] ∧ chunk.length ≤ n

/-- Chunks that stand for a text, up to white space. -/
structure Stand (n : Nat) (chunks : List Text) (squeezed : Text) : Prop where
  fits : ∀ chunk ∈ chunks, Fits n chunk
  kept : squeeze chunks.flatten = squeezed

theorem Stand.append {chunks more : List Text} {a b : Text} (h : Stand n chunks a)
    (h' : Stand n more b) : Stand n (chunks ++ more) (a ++ b) where
  fits := fun chunk hchunk =>
    (List.mem_append.mp hchunk).elim (h.fits chunk) (h'.fits chunk)
  kept := by rw [List.flatten_append, squeeze_append, h.kept, h'.kept]

theorem Stand.nil : Stand n [] [] := ⟨nofun, rfl⟩

theorem Stand.single (h : Fits n t) : Stand n [t] (squeeze t) := by
  refine ⟨fun chunk hchunk => ?_, by rw [List.flatten_singleton]⟩
  rw [List.mem_singleton.mp hchunk]
  exact h

theorem Stand.flush (f : Text → Text) (h : t ≠ [] → Fits n (f t) ∧ squeeze (f t) = squeeze t) :
    Stand n (if t = [] then [] else [f t]) (squeeze t) := by
  split
  · next hnil =>
    rw [hnil]
    exact .nil
  · next hne =>
    rw [← (h hne).2]
    exact .single (h hne).1

theorem fits_take (hn : 0 < n) (h : t ≠ []) : Fits n (t.take n) := by
  refine ⟨fun hnil => ?_, List.length_take_le n t⟩
  rcases List.take_eq_nil_iff.mp hnil with h0 | h0
  · omega
  · exact h h0

theorem cutWord_spec (hn : 0 < n) {fuel : Nat} {current remainder : Text}
    (hcurrent : Fits n current) (hfuel : remainder.length ≤ fuel) : ∃ cut last,
      cutWord n fuel current remainder = some (cut, last) ∧ (∀ chunk ∈ cut, Fits n chunk) ∧
        Fits n last ∧ cut.flatten ++ last = current ++ remainder := by
  induction fuel generalizing current remainder with
  | zero =>
    obtain rfl := List.length_eq_zero_iff.mp (Nat.le_zero.mp hfuel)
    exact ⟨[], current, rfl, nofun, hcurrent, (List.append_nil current).symm⟩
  | succ fuel ih =>
    cases remainder with
    | nil => exact ⟨[], current, rfl, nofun, hcurrent, (List.append_nil current).symm⟩
    | cons c rest =>
      have hless : ((c :: rest).drop n).length ≤ fuel := by
        rw [List.length_drop]
        rw [List.length_cons] at hfuel ⊢
        omega
      obtain ⟨cut, last, hcut, hfits, hlast, hflat⟩ :=
        ih (fits_take hn (List.cons_ne_nil c rest)) hless
      refine ⟨current :: cut, last, ?_, ?_, hlast, ?_⟩
      · rw [cutWord, hcut]
        · rfl
        · exact nofun
      · intro chunk hchunk
        rcases List.mem_cons.mp hchunk with rfl | hchunk
        · exact hcurrent
        · exact hfits chunk hchunk
      · rw [List.flatten_cons, List.append_assoc, hflat, List.take_append_drop]

theorem wrapWords_spec (hn : 0 < n) {current : Text} (hcurrent : current.length ≤ n)
    {words : List Text} (hwords : ∀ word ∈ words, IsWord word) : ∃ chunks,
      wrapWords n current words = some chunks ∧
        Stand n chunks (squeeze current ++ words.flatten) := by
  induction words generalizing current with
  | nil =>
    rw [List.flatten_nil, List.append_nil]
    exact ⟨_, rfl, .flush id fun hne => ⟨⟨hne, hcurrent⟩, rfl⟩⟩
  | cons word words ih =>
    have hword := hwords word List.mem_cons_self
    have hrest := fun w hw => hwords w (List.mem_cons_of_mem word hw)
    have hsqueeze : squeeze (current ++ 32 :: word) = squeeze current ++ word := by
      rw [squeeze_append]
      exact congrArg (squeeze current ++ ·) hword.squeeze
    unfold wrapWords
    dsimp only
    split
    · next hfits =>
      obtain ⟨chunks, hchunks, hstand⟩ := ih hfits hrest
      refine ⟨chunks, hchunks, ?_⟩
      rwa [squeeze_strip, hsqueeze, List.append_assoc, ← List.flatten_cons] at hstand
    · obtain ⟨cut, last, hcut, hall, hlast, hflat⟩ :=
        cutWord_spec hn (fits_take hn hword.1)
          (show (word.drop n).length ≤ word.length by rw [List.length_drop]; omega)
      obtain ⟨chunks, hchunks, hstand⟩ := ih hlast.2 hrest
      refine ⟨_, by rw [hcut]; dsimp; rw [hchunks]; rfl, ?_⟩
      rw [List.take_append_drop] at hflat
      have hpieces : squeeze cut.flatten ++ squeeze last = word := by
        rw [← squeeze_append, hflat, hword.squeeze]
      have hflushed : Stand n (if current = [] then [] else [current]) (squeeze current) :=
        .flush id fun hne => ⟨⟨hne, hcurrent⟩, rfl⟩
      have heq : squeeze current ++ squeeze cut.flatten ++ (squeeze last ++ words.flatten) =
          squeeze current ++ (word :: words).flatten := by
        rw [List.flatten_cons, ← hpieces]
        simp only [List.append_assoc]
      exact heq ▸ (hflushed.append ⟨hall, rfl⟩).append hstand

theorem hardWrap_spec (hn : 0 < n) (t : Text) :
    ∃ chunks, hardWrap t n = some chunks ∧ Stand n chunks (squeeze t) := by
  obtain ⟨hwords, hflat⟩ := @splitWords_spec [] nofun t
  obtain ⟨chunks, hchunks, hstand⟩ := @wrapWords_spec n hn [] (Nat.zero_le n) _ hwords
  rw [hflat] at hstand
  exact ⟨chunks, hchunks, hstand⟩

theorem packParagraphs_spec (hn : 0 < n) {current : Text}
    (hcurrent : current ≠ [] → squeeze current ≠ [] ∧ current.length ≤ n) {paragraphs : List Text}
    (hparagraphs : ∀ p ∈ paragraphs, squeeze p ≠ []) : ∃ chunks,
      packParagraphs n current paragraphs = some chunks ∧
        Stand n chunks (squeeze current ++ squeeze paragraphs.flatten) := by
  have hflushed {t : Text} (h : t ≠ [] → squeeze t ≠ [] ∧ t.length ≤ n) :
      Stand n (if t = [] then [] else [strip t]) (squeeze t) :=
    .flush strip fun hne => ⟨⟨strip_ne_nil (h hne).1, (length_strip_le t).trans (h hne).2⟩,
      squeeze_strip t⟩
  induction paragraphs generalizing current with
  | nil => exact ⟨_, rfl, by simpa [squeeze] using hflushed hcurrent⟩
  | cons p rest ih =>
    have hp := hparagraphs p List.mem_cons_self
    have hrest := fun q hq => hparagraphs q (List.mem_cons_of_mem p hq)
    rw [List.flatten_cons, squeeze_append]
    unfold packParagraphs
    split
    · obtain ⟨wrapped, hwrapped, hstand⟩ := hardWrap_spec hn p
      obtain ⟨more, hmore, hstand'⟩ := @ih [] (fun h => absurd rfl h) hrest
      refine ⟨_, by rw [hwrapped]; dsimp; rw [hmore]; rfl, ?_⟩
      exact List.append_assoc (squeeze current) _ _ ▸
        ((hflushed hcurrent).append hstand).append hstand'
    · next hlength =>
      have hcandidate :
          squeeze (if current = [] then p else strip (current ++ 10 :: 10 :: p)) =
            squeeze current ++ squeeze p := by
        split
        · next hnil =>
          rw [hnil]
          rfl
        · rw [squeeze_strip, squeeze_append]
          rfl
      dsimp only
      generalize (if current = [] then p else strip (current ++ 10 :: 10 :: p)) = candidate
        at hcandidate ⊢
      split
      · next hfits =>
        rw [← List.append_assoc, ← hcandidate]
        refine ih (fun _ => ⟨?_, hfits⟩) hrest
        rw [hcandidate]
        exact List.append_ne_nil_of_right_ne_nil _ hp
      · obtain ⟨more, hmore, hstand⟩ := ih (fun _ => ⟨hp, not_lt.mp hlength⟩) hrest
        exact ⟨_, by rw [hmore]; rfl, (hflushed hcurrent).append hstand⟩

/-- Chunking loses and reorders nothing: every chunk is there and short enough, and without
white space they are the text.  A paragraph of any words is wrapped in the same way. -/
theorem chunkText_lossless {text : Text} (htext : squeeze text ≠ []) (hn : 0 < n) :
    (∃ chunks, chunkText text n = some chunks ∧
      (∀ chunk ∈ chunks, chunk ≠ [] ∧ chunk.length ≤ n) ∧
        squeeze chunks.flatten = squeeze text) ∧
    ∀ paragraph, ∃ wrapped, hardWrap paragraph n = some wrapped ∧
      (∀ chunk ∈ wrapped, chunk ≠ [] ∧ chunk.length ≤ n) ∧
        squeeze wrapped.flatten = squeeze paragraph := by
  refine ⟨?_, fun paragraph => ?_⟩
  swap
  · obtain ⟨wrapped, hwrapped, hstand⟩ := hardWrap_spec hn paragraph
    exact ⟨wrapped, hwrapped, hstand.fits, hstand.kept⟩
  have hkept (l : List Text) :
      squeeze ((l.map strip).filter (· ≠ [])).flatten = squeeze l.flatten := by
    induction l with
    | nil => rfl
    | cons p rest ih =>
      rw [List.map_cons, List.filter_cons, List.flatten_cons, squeeze_append, ← ih]
      split
      · rw [List.flatten_cons, squeeze_append, squeeze_strip]
      · next hblank =>
        have hnil : strip p = [] := by simpa using hblank
        rw [← squeeze_strip p, hnil]
        rfl
  have hsplit : squeeze (((splitBlank [] text).map strip).filter (· ≠ [])).flatten =
      squeeze text := (hkept _).trans (squeeze_splitBlank [] text)
  have hparagraphs : ((splitBlank [] text).map strip).filter (· ≠ []) ≠ [] := by
    intro hnil
    rw [hnil] at hsplit
    exact htext hsplit.symm
  have hsolid : ∀ p ∈ ((splitBlank [] text).map strip).filter (· ≠ []), squeeze p ≠ [] := by
    intro p hp hnil
    obtain ⟨hp, hne⟩ := List.mem_filter.mp hp
    obtain ⟨q, -, rfl⟩ := List.mem_map.mp hp
    rw [squeeze_strip] at hnil
    simp [strip_eq_nil hnil] at hne
  obtain ⟨chunks, hchunks, hstand⟩ :=
    @packParagraphs_spec n hn [] (fun h => absurd rfl h) _ hsolid
  have hne : chunks ≠ [] := by
    rintro rfl
    exact htext (hsplit.symm.trans hstand.kept.symm)
  refine ⟨chunks, ?_, hstand.fits, hstand.kept.trans hsplit⟩
  unfold chunkText
  dsimp only
  rw [if_neg hparagraphs, hchunks]
  exact congrArg some (if_neg hne)

theorem chunkText_sample : ∃ chunks, chunkText [97, 10, 10, 98] 200 = some chunks ∧
    (∀ chunk ∈ chunks, chunk ≠ [] ∧ chunk.length ≤ 200) ∧ squeeze chunks.flatten = [97, 98] :=
  (@chunkText_lossless 200 [97, 10, 10, 98] (by decide) (by decide)).1

end LocalMoe.Memory
