/-
  The keys that the JSON pattern takes for secret, and the keys that the structure does.
-/
import LocalMoe.Secrets.Patterns

namespace LocalMoe.Secrets

open Foundation Foundation.Regex
open Contracts (isSpace isAlnum dumpString escapeChar)

/-! ## Characters -/

/-- A letter, a digit, `_` or `-`. -/
def isKeyChar (c : Char) : Bool := isAlnum c || c == '_' || c == '-'

/-- What a part of a key may match under `re.IGNORECASE`. -/
def isFoldedKeyChar (c : Char) : Bool := isFoldedAlnum c || c == '_' || c == '-'

/-- A character of a key as its normal form has it. -/
def spelled (c : Char) : Char := if c = '-' then '_' else c.toLower

variable {c : Char}

theorem isAlnum_lt (h : isAlnum c = true) : c.toNat < 128 := by
  unfold isAlnum at h
  simp only [Bool.or_eq_true, Bool.and_eq_true, decide_eq_true_eq, Char.le_def,
    UInt32.le_iff_toNat_le] at h
  have hn : c.toNat = c.val.toNat := rfl
  have hz : 'Z'.val.toNat = 90 := rfl
  have hz' : 'z'.val.toNat = 122 := rfl
  have hn' : '9'.val.toNat = 57 := rfl
  omega

theorem isKeyChar_lt (h : isKeyChar c = true) : c.toNat < 128 := by
  unfold isKeyChar at h
  simp only [Bool.or_eq_true, beq_iff_eq] at h
  rcases h with (h | rfl) | rfl
  · exact isAlnum_lt h
  · decide
  · decide

theorem of_ascii {p : Char → Bool} (h : ((List.range 128).all fun n => p (Char.ofNat n)) = true)
    (hc : c.toNat < 128) : p c = true := by
  have hone := List.all_eq_true.mp h c.toNat (List.mem_range.mpr hc)
  rwa [Char.ofNat_toNat] at hone

theorem isPlain_lt (h : isPlain c = true) : c.toNat < 128 := by
  refine isAlnum_lt ?_
  unfold isPlain at h
  unfold isAlnum
  simp only [Bool.or_eq_true, Bool.and_eq_true] at h ⊢
  rcases h with h | h
  · exact .inl (.inr h)
  · exact .inr h

theorem spelled_plain (h : isPlain c = true) : spelled c = c ∧ isKeyChar c = true := by
  have hall := of_ascii (p := fun c => !isPlain c || (spelled c == c && isKeyChar c))
    (by decide) (isPlain_lt h)
  simpa [h] using hall

theorem isPlain_spelled (h : isAlnum c = true) : isPlain (spelled c) = true := by
  have hall := of_ascii (p := fun c => !isAlnum c || isPlain (spelled c)) (by decide) (isAlnum_lt h)
  simpa [h] using hall

theorem ignoresCase_iff {letter : Char} (hletter : isPlain letter = true)
    (hc : isKeyChar c = true) : ignoresCase letter c = true ↔ spelled c = letter := by
  have hlt := isKeyChar_lt hc
  have hcase : ignoresCase letter c = true ↔ c = letter ∨ c.toLower = letter := by
    unfold ignoresCase
    simp only [Bool.or_eq_true, Bool.and_eq_true, beq_iff_eq]
    constructor
    · rintro ((((h | h) | ⟨_, h⟩) | ⟨_, h⟩) | ⟨_, h | h⟩)
      · exact .inl h
      · exact .inr h
      all_goals omega
    · tauto
  rw [hcase]
  unfold spelled
  constructor
  · rintro (rfl | hlower)
    · exact (spelled_plain hletter).1
    · rw [if_neg ?_]
      · exact hlower
      · rintro rfl
        rw [← hlower] at hletter
        exact absurd hletter (by decide)
  · intro h
    split at h
    · rw [← h] at hletter
      exact absurd hletter (by decide)
    · exact .inr h

theorem isFoldedKeyChar_of_ignoresCase {letter : Char} (hletter : isPlain letter = true)
    (h : ignoresCase letter c = true) : isFoldedKeyChar c = true := by
  unfold ignoresCase at h
  simp only [Bool.or_eq_true, Bool.and_eq_true, beq_iff_eq] at h
  unfold isFoldedKeyChar isFoldedAlnum
  simp only [Bool.or_eq_true, beq_iff_eq]
  rcases h with (((rfl | h) | h) | h) | h
  · have hkey := (spelled_plain hletter).2
    unfold isKeyChar at hkey
    simp only [Bool.or_eq_true, beq_iff_eq] at hkey
    tauto
  · by_cases hlt : c.toNat < 128
    · have hall := of_ascii (p := fun c => !isPlain c.toLower || isAlnum c) (by decide) hlt
      rw [h, hletter] at hall
      exact .inl (.inl (.inl (.inl (.inl (.inl (by simpa using hall))))))
    · -- beyond ASCII nothing is folded to a letter of ASCII
      have hsame : c.toLower = c := by
        unfold Char.toLower
        rw [dif_neg ?_]
        rintro ⟨_, hle⟩
        have hle' : c.val.toNat ≤ 90 := UInt32.le_iff_toNat_le.mp hle
        exact hlt (lt_of_le_of_lt (show c.toNat ≤ 90 from hle') (by decide))
      rw [hsame] at h
      rw [h] at hlt
      exact absurd (isPlain_lt hletter) hlt
  · tauto
  · tauto
  · tauto

/-! ## Spellings -/

/-- The spellings of a key given in its parts. -/
def spellings : List String → List (List Char)
  | [] => [[]]
  | [part] => [part.toList]
  | part :: next :: rest =>
    (spellings (next :: rest)).flatMap fun tail =>
      [part.toList ++ '_' :: tail, part.toList ++ tail]

/-- The words that `_SENSITIVE_KEY` ends in, as a normal form has them. -/
def sensitiveWords : List (List Char) := sensitiveKeyParts.flatMap spellings

/-- Parts of letters and digits. -/
def PlainParts (parts : List String) : Prop :=
  ∀ part ∈ parts, ∀ letter ∈ part.toList, isPlain letter = true

instance (parts : List String) : Decidable (PlainParts parts) :=
  @List.decidableBAll _ _ (fun _ => List.decidableBAll (isPlain · = true) _) parts

variable {m : List Char}

theorem forall₂_ignoresCase {word : List Char} (hword : ∀ letter ∈ word, isPlain letter = true)
    (hm : ∀ c ∈ m, isKeyChar c = true) :
    List.Forall₂ (fun letter c => ignoresCase letter c = true) word m ↔ m.map spelled = word := by
  induction word generalizing m with
  | nil => exact List.forall₂_nil_left_iff.trans List.map_eq_nil_iff.symm
  | cons letter word ih =>
    obtain ⟨hletter, hword⟩ := List.forall_mem_cons.mp hword
    cases m with
    | nil => exact ⟨nofun, nofun⟩
    | cons c m =>
      obtain ⟨hc, hm⟩ := List.forall_mem_cons.mp hm
      rw [List.forall₂_cons, ih hword hm, List.map_cons, List.cons.injEq,
        ignoresCase_iff hletter hc]

theorem caseless_spelled {word : String} (hword : ∀ letter ∈ word.toList, isPlain letter = true)
    (hm : ∀ c ∈ m, isKeyChar c = true) (h : (caseless word).Spans m) :
    m.map spelled = word.toList := (forall₂_ignoresCase hword hm).mp (spans_literal.mp h)

theorem separator_spelled (h : separator.Spans m) : m.map spelled = ['_'] := by
  obtain ⟨c, rfl, hc⟩ := h
  rcases List.mem_pair.mp (List.contains_iff_mem.mp hc) with rfl | rfl <;> rfl

theorem optSeparator_spelled (h : (opt separator).Spans m) : m.map spelled = ['_'] ∨ m = [] := by
  rcases h with h | h
  · exact .inl (separator_spelled h)
  · exact .inr h

theorem joined_spelled {parts : List String} (hparts : PlainParts parts)
    (hm : ∀ c ∈ m, isKeyChar c = true) (h : (joined parts).Spans m) :
    m.map spelled ∈ spellings parts := by
  induction parts generalizing m with
  | nil =>
    rw [show m = [] from h]
    exact List.mem_singleton_self _
  | cons part rest ih =>
    obtain ⟨hpart, hrest⟩ := List.forall_mem_cons.mp hparts
    cases rest with
    | nil => exact List.mem_singleton.mpr (caseless_spelled hpart hm h)
    | cons next rest =>
      obtain ⟨x, y, rfl, hx, z, w, rfl, hz, hw⟩ := h
      rw [List.forall_mem_append, List.forall_mem_append] at hm
      have hhead := caseless_spelled hpart hm.1 hx
      refine List.mem_flatMap.mpr ⟨w.map spelled, ih hrest hm.2.2 hw, ?_⟩
      rw [List.map_append, List.map_append, hhead]
      rcases optSeparator_spelled hz with hsep | rfl
      · rw [hsep]
        exact List.mem_cons_self
      · exact List.mem_cons_of_mem _ List.mem_cons_self

/-! ## Blocks -/

/-- Letters and digits, with a `_` behind them. -/
def KeyBlock (x : List Char) : Prop :=
  ∃ run, run ≠ [] ∧ (∀ c ∈ run, isPlain c = true) ∧ x = run ++ ['_']

theorem foldedAlnum_key (h : isFoldedAlnum c = true) (hc : isKeyChar c = true) :
    isAlnum c = true := by
  have hlt := isKeyChar_lt hc
  unfold isFoldedAlnum at h
  simp only [Bool.or_eq_true, beq_iff_eq] at h
  rcases h with (((h | h) | h) | h) | h
  · exact h
  all_goals omega

theorem spans_plus_chars {p : Char → Bool} (h : (plus (.chars p)).Spans m) :
    m ≠ [] ∧ ∀ c ∈ m, p c = true := by
  obtain ⟨x, y, rfl, ⟨c, rfl, hc⟩, parts, rfl, hparts⟩ := h
  refine ⟨nofun, List.forall_mem_cons.mpr ⟨hc, fun d hd => ?_⟩⟩
  obtain ⟨part, hpart, hd⟩ := List.mem_flatten.mp hd
  obtain ⟨e, rfl, he⟩ := hparts part hpart
  rwa [List.mem_singleton.mp hd]

theorem keyPrefixes_blocks (hm : ∀ c ∈ m, isKeyChar c = true) (h : keyPrefixes.Spans m) :
    ∃ parts : List (List Char), m.map spelled = parts.flatten ∧ ∀ x ∈ parts, KeyBlock x := by
  obtain ⟨parts, rfl, hparts⟩ := h
  refine ⟨parts.map (List.map spelled), List.map_flatten, ?_⟩
  rw [List.forall_mem_map]
  intro x hx
  obtain ⟨run, sep, rfl, hrun, hsep⟩ := hparts x hx
  obtain ⟨hne, hall⟩ := spans_plus_chars hrun
  refine ⟨run.map spelled, by rwa [ne_eq, List.map_eq_nil_iff], ?_, ?_⟩
  · rw [List.forall_mem_map]
    intro c hc
    refine isPlain_spelled (foldedAlnum_key (hall c hc) (hm c ?_))
    exact List.mem_flatten.mpr ⟨_, hx, List.mem_append_left _ hc⟩
  · rw [List.map_append, separator_spelled hsep]

/-! ## Normal forms -/

/-- A text that `_normalize_key` leaves as it is. -/
def Normal (m : List Char) : Prop :=
  collapse m = m ∧ m.head?.any isPlain = true ∧ m.getLast?.any isPlain = true

instance (m : List Char) : Decidable (Normal m) := by
  unfold Normal
  infer_instance

theorem collapse_run {run rest : List Char} (h : ∀ c ∈ run, isPlain c = true) :
    collapse (run ++ rest) = run ++ collapse rest := by
  induction run with
  | nil => rfl
  | cons c run ih =>
    obtain ⟨hc, hrun⟩ := List.forall_mem_cons.mp h
    rw [List.cons_append, collapse, if_pos hc, ih hrun]
    rfl

theorem collapse_underscore {rest : List Char} (hrest : collapse rest = rest)
    (hhead : rest.head?.any isPlain = true) : collapse ('_' :: rest) = '_' :: rest := by
  have hunderscore : ¬ isPlain '_' = true := by decide
  rw [collapse, if_neg hunderscore, hrest]
  cases rest with
  | nil => cases hhead
  | cons c rest =>
    split
    · rename_i tail heq
      obtain ⟨rfl, _⟩ := List.cons.inj heq
      exact absurd hhead hunderscore
    · rfl

theorem blocks_normal {parts : List (List Char)} (hparts : ∀ x ∈ parts, KeyBlock x)
    {word : List Char} (hword : Normal word) : Normal (parts.flatten ++ word) := by
  induction parts with
  | nil => exact hword
  | cons x parts ih =>
    obtain ⟨hx, hrest⟩ := List.forall_mem_cons.mp hparts
    obtain ⟨run, hne, hrun, rfl⟩ := hx
    obtain ⟨hcollapse, hhead, hlast⟩ := ih hrest
    have hform : ((run ++ ['_']) :: parts).flatten ++ word =
        run ++ '_' :: (parts.flatten ++ word) := by simp
    rw [hform]
    refine ⟨?_, ?_, ?_⟩
    · rw [collapse_run hrun, collapse_underscore hcollapse hhead]
    · cases run with
      | nil => exact absurd rfl hne
      | cons c run => exact hrun c List.mem_cons_self
    · cases hrest : parts.flatten ++ word with
      | nil =>
        rw [hrest] at hhead
        cases hhead
      | cons d rest =>
        rw [hrest] at hlast
        rw [List.getLast?_append, List.getLast?_cons_cons]
        cases hl : (d :: rest).getLast? with
        | none =>
          rw [hl] at hlast
          cases hlast
        | some l =>
          rw [hl] at hlast
          exact hlast

theorem collapse_spelled (m : List Char) :
    collapse (m.map Char.toLower) = collapse (m.map spelled) := by
  induction m with
  | nil => rfl
  | cons c m ih =>
    rw [List.map_cons, List.map_cons, collapse, collapse, ih]
    by_cases hdash : c = '-'
    · rw [hdash]
      rfl
    · rw [show spelled c = c.toLower from if_neg hdash]

theorem dropWhile_of_head (h : m.head?.any isPlain = true) : m.dropWhile (· = '_') = m := by
  cases m with
  | nil => rfl
  | cons c m =>
    have hc : isPlain c = true := h
    rw [List.dropWhile_cons, if_neg]
    intro hunderscore
    rw [decide_eq_true_eq] at hunderscore
    rw [hunderscore] at hc
    revert hc
    decide

theorem normalizeKey_spelled (U : Unicode) {key : String}
    (hkey : ∀ c ∈ key.toList, isKeyChar c = true) (h : Normal (key.toList.map spelled)) :
    normalizeKey U.lower key = String.ofList (key.toList.map spelled) := by
  obtain ⟨hcollapse, hhead, hlast⟩ := h
  unfold normalizeKey
  dsimp only
  rw [U.lower_ascii key fun c hc => isKeyChar_lt (hkey c hc), String.toList_ofList,
    collapse_spelled, hcollapse, dropWhile_of_head hhead, dropWhile_of_head ?_,
    List.reverse_reverse]
  rwa [List.head?_reverse]

end LocalMoe.Secrets
