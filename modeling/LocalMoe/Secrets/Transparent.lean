/-
  When the digests of a text come back as they were.
-/
import LocalMoe.Secrets.Placeholder
import Mathlib.Data.List.TakeWhile

namespace LocalMoe.Secrets

open Foundation Foundation.Substitute
open Contracts (isSpace)
open Browser (isLineBreak)

/-! ## Matches -/

/-- A character that stands in front of a digest. -/
def Boundary (c : Char) : Prop := isSpace c = true ∨ c ∈ [':', '=', '\'', '"']

theorem boundary_not_mem {c : Char} {k : Nat} (h : Boundary c) : c ∉ sentinelOf k := by
  intro hmem
  have hrange : c.toNat = 95 ∨ (65 ≤ c.toNat ∧ c.toNat ≤ 90) ∨ (48 ≤ c.toNat ∧ c.toNat ≤ 57) := by
    rcases mem_sentinelOf hmem with rfl | hupper | hdigit
    · exact .inl rfl
    · exact .inr (.inl (of_decide_eq_true hupper))
    · simp only [Char.isDigit, Bool.and_eq_true, decide_eq_true_eq, ge_iff_le] at hdigit
      exact .inr (.inr hdigit)
  rcases h with hspace | hmark
  · simp only [isSpace, Bool.or_eq_true, Bool.and_eq_true, decide_eq_true_eq, beq_iff_eq] at hspace
    omega
  · simp only [List.mem_cons, List.not_mem_nil, or_false] at hmark
    rcases hmark with rfl | rfl | rfl | rfl <;> revert hrange <;> decide

/-- A text that ends in front of a digest. -/
def EndsBounded (s : Text) : Prop := ∃ t b, s = t ++ [b] ∧ Boundary b

structure GeneratedMatch.WellFormed (m : GeneratedMatch) : Prop where
  bounded : EndsBounded m.prefixText
  hex : ∀ c ∈ m.value, isHex c = true
  length : 32 ≤ m.value.length

theorem takeQuote_starts (s : Text) : takeQuote s <+: s := by
  cases s with
  | nil => exact List.prefix_rfl
  | cons c s =>
    by_cases hquote : c = '\'' ∨ c = '"'
    · rw [takeQuote, if_pos hquote]
      exact ⟨s, rfl⟩
    · rw [takeQuote, if_neg hquote]
      exact List.nil_prefix

variable {s : Text}

theorem boundary_of_mem_takeQuote {c : Char} (h : c ∈ takeQuote s) : Boundary c := by
  cases s with
  | nil => cases h
  | cons d s =>
    by_cases hquote : d = '\'' ∨ d = '"'
    · rw [takeQuote, if_pos hquote] at h
      rw [List.mem_singleton.mp h]
      refine .inr ?_
      rcases hquote with rfl | rfl <;> decide
    · rw [takeQuote, if_neg hquote] at h
      cases h

variable {t : Text}

theorem prefix_then {u : Text} (h : s <+: t) (hu : u <+: t.drop s.length) : s ++ u <+: t := by
  obtain ⟨v, rfl⟩ := h
  rw [List.drop_left] at hu
  exact (List.prefix_append_right_inj s).mpr hu

theorem takeWhile_then {p : Char → Bool} {u : Text} (hu : u <+: s.dropWhile p) :
    s.takeWhile p ++ u <+: s := by
  conv => rhs; rw [← List.takeWhile_append_dropWhile (p := p) (l := s)]
  exact (List.prefix_append_right_inj _).mpr hu

theorem digest_then (s : Text) :
    (s.takeWhile isHex).take 128 ++ takeQuote (s.drop ((s.takeWhile isHex).take 128).length) <+:
      s :=
  prefix_then ((List.take_prefix 128 _).trans (List.takeWhile_prefix isHex)) (takeQuote_starts _)

theorem endsBounded_append (h : EndsBounded t) : EndsBounded (s ++ t) := by
  obtain ⟨u, b, rfl, hb⟩ := h
  exact ⟨s ++ u, b, (List.append_assoc s u [b]).symm, hb⟩

theorem endsBounded_of_forall (hne : s ≠ []) (h : ∀ c ∈ s, Boundary c) : EndsBounded s :=
  ⟨s.dropLast, s.getLast hne, (List.dropLast_append_getLast hne).symm, h _ (List.getLast_mem hne)⟩

variable {text : Text} {m : GeneratedMatch}

theorem matchAssigned_spec {head : Text} (h : matchAssigned head text = some m) :
    m.WellFormed ∧ m.text <+: head ++ text := by
  unfold matchAssigned at h
  dsimp only at h
  split at h
  · cases h
  · rename_i c rest hrest
    split at h
    · rename_i hmark
      split at h
      · cases h
      · rename_i hlong
        cases h
        refine ⟨⟨?_, fun c hc => ?_, Nat.not_lt.mp hlong⟩, ?_⟩
        · -- the sign, the blanks and the quote bound the digest
          have hsign : Boundary c := .inr (by rcases hmark with rfl | rfl <;> decide)
          rw [List.append_assoc, List.append_assoc]
          refine endsBounded_append (endsBounded_append ?_)
          refine endsBounded_of_forall (List.cons_ne_nil _ _) fun d hd => ?_
          rw [List.cons_append, List.mem_cons, List.mem_append] at hd
          rcases hd with rfl | hd | hd
          · exact hsign
          · exact .inl (List.mem_takeWhile_imp hd)
          · exact boundary_of_mem_takeQuote hd
        · exact List.mem_takeWhile_imp (List.mem_of_mem_take hc)
        · have hquote := prefix_then (takeQuote_starts (rest.dropWhile isSpace)) (digest_then _)
          have hsign : c :: (rest.takeWhile isSpace ++ _) <+: c :: rest :=
            List.cons_prefix_cons.mpr ⟨rfl, takeWhile_then hquote⟩
          rw [← hrest] at hsign
          have hall := (List.prefix_append_right_inj head).mpr (takeWhile_then hsign)
          unfold GeneratedMatch.text
          simpa only [List.append_assoc, List.cons_append] using hall
    · cases h

theorem afterWord_eq_drop {word rest : Text} (h : afterWord word text = some rest) :
    text.drop word.length = rest := by
  induction word generalizing text with
  | nil => exact Option.some.inj h
  | cons letter word ih =>
    cases text with
    | nil => cases h
    | cons c text =>
      rw [afterWord] at h
      split at h
      · exact ih h
      · cases h

theorem matchGenerated_spec {isWord : Char → Bool} {previous : Option Char}
    (h : matchGenerated isWord previous text = some m) : m.WellFormed ∧ m.text <+: text := by
  unfold matchGenerated at h
  split at h
  · cases h
  · obtain ⟨name, _, hname⟩ := List.exists_of_findSome?_eq_some h
    obtain ⟨word, _, hword⟩ := List.exists_of_findSome?_eq_some hname
    obtain ⟨rest, hrest, hmatch⟩ := Option.bind_eq_some_iff.mp hword
    obtain ⟨hwell, hstarts⟩ := matchAssigned_spec hmatch
    refine ⟨hwell, ?_⟩
    rwa [← afterWord_eq_drop hrest, List.drop_drop, List.take_append_drop] at hstarts

/-! ## Pieces -/

def piecesText (ps : List Piece) : Text := ps.flatMap Piece.text

variable {isWord : Char → Bool}

theorem piecesFrom_text (skip : Nat) (previous : Option Char) (text : Text) :
    piecesText (piecesFrom isWord skip previous text) = text.drop skip := by
  induction text generalizing skip previous with
  | nil => rw [List.drop_nil]; cases skip <;> rfl
  | cons c rest ih =>
    cases skip with
    | succ skip => exact ih skip _
    | zero =>
      unfold piecesFrom
      split
      · rename_i m hm
        obtain ⟨hwell, hstarts⟩ := matchGenerated_spec hm
        have hpos : 0 < m.text.length := by
          unfold GeneratedMatch.text
          rw [List.length_append, List.length_append]
          have := hwell.length
          omega
        obtain ⟨u, hu⟩ := hstarts
        have hdrop : rest.drop (m.text.length - 1) = u := by
          have h := congrArg (List.drop m.text.length) hu
          rw [List.drop_left] at h
          obtain ⟨n, hn⟩ : ∃ n, m.text.length = n + 1 := ⟨m.text.length - 1, by omega⟩
          rw [hn, List.drop_succ_cons] at h
          rw [hn, Nat.add_sub_cancel, h]
        change m.text ++ piecesText _ = c :: rest
        rw [ih, hdrop, hu]
      · change [c] ++ piecesText _ = c :: rest
        rw [ih]
        rfl

theorem pieces_text (value : Text) : piecesText (pieces isWord value) = value :=
  piecesFrom_text 0 none value

theorem wellFormed_of_mem {skip : Nat} {previous : Option Char}
    (h : .generated m ∈ piecesFrom isWord skip previous text) : m.WellFormed := by
  induction text generalizing skip previous with
  | nil => cases skip <;> cases h
  | cons c rest ih =>
    cases skip with
    | succ skip => exact ih h
    | zero =>
      unfold piecesFrom at h
      split at h
      · rename_i found hfound
        rcases List.mem_cons.mp h with heq | h
        · cases heq
          exact (matchGenerated_spec hfound).1
        · exact ih h
      · rcases List.mem_cons.mp h with heq | h
        · cases heq
        · exact ih h

/-! ## Blocks -/

/-- What stands in front of the first digest, and each digest with what follows it up to the
next. -/
def segments : List Piece → Text × List (Text × Text)
  | [] => ([], [])
  | .plain c :: rest => (c :: (segments rest).1, (segments rest).2)
  | .generated m :: rest =>
    (m.prefixText, (m.value, m.suffixText ++ (segments rest).1) :: (segments rest).2)

/-- Every digest has a boundary in front of it. -/
def Separated : Text → List (Text × Text) → Prop
  | _, [] => True
  | gap, (_, next) :: rest => EndsBounded gap ∧ Separated next rest

variable {rest : List (Text × Text)}

theorem Separated.append {gap : Text} (h : Separated gap rest) : Separated (s ++ gap) rest := by
  cases rest with
  | nil => trivial
  | cons segment rest => exact ⟨endsBounded_append h.1, h.2⟩

theorem piecesText_eq (ps : List Piece) :
    piecesText ps = (segments ps).1 ++ (segments ps).2.flatMap fun p => p.1 ++ p.2 := by
  induction ps with
  | nil => rfl
  | cons piece ps ih =>
    change piece.text ++ piecesText ps = _
    rw [ih]
    cases piece with
    | plain c => rfl
    | generated m =>
      simp only [segments, Piece.text, GeneratedMatch.text, List.flatMap_cons, List.append_assoc]

variable {ps : List Piece}

theorem segments_separated (h : ∀ m, .generated m ∈ ps → m.WellFormed) :
    Separated (segments ps).1 (segments ps).2 := by
  induction ps with
  | nil => trivial
  | cons piece ps ih =>
    have hrest := ih fun m hm => h m (List.mem_cons_of_mem _ hm)
    cases piece with
    | plain c => exact hrest.append (s := [c])
    | generated m => exact ⟨(h m List.mem_cons_self).bounded, hrest.append⟩

/-- A digest of the text: the index of its placeholder, and what follows it up to the next. -/
structure Block where
  index : Nat
  digest : Text
  gap : Text

def Block.shielded (b : Block) : Text := sentinelOf b.index ++ b.gap

def Block.plain (b : Block) : Text := b.digest ++ b.gap

def Block.entry (b : Block) : Text × Text := (sentinelOf b.index, b.digest)

/-- The blocks of the segments that are left. -/
def blocksFrom (value : Text) (used : List Nat) : List (Text × Text) → List Block
  | [] => []
  | (digest, gap) :: rest =>
    ⟨freshIndex value (used.map sentinelOf), digest, gap⟩ ::
      blocksFrom value (used ++ [freshIndex value (used.map sentinelOf)]) rest

theorem blocksFrom_plain (value : Text) (used : List Nat) (rest : List (Text × Text)) :
    (blocksFrom value used rest).flatMap Block.plain = rest.flatMap fun p => p.1 ++ p.2 := by
  induction rest generalizing used with
  | nil => rfl
  | cons segment rest ih =>
    rw [List.flatMap_cons, ← ih (used ++ [freshIndex value (used.map sentinelOf)])]
    rfl

theorem shieldPieces_eq (value : Text) (ps : List Piece) (used : List Nat)
    (shielded : List (Text × Text)) (h : shielded.map Prod.fst = used.map sentinelOf) :
    shieldPieces value ps shielded =
      ((segments ps).1 ++ (blocksFrom value used (segments ps).2).flatMap Block.shielded,
        shielded ++ (blocksFrom value used (segments ps).2).map Block.entry) := by
  induction ps generalizing used shielded with
  | nil => simp [shieldPieces, segments, blocksFrom]
  | cons piece ps ih =>
    cases piece with
    | plain c =>
      unfold shieldPieces
      rw [ih used shielded h]
      rfl
    | generated m =>
      unfold shieldPieces
      dsimp only
      rw [h, ih (used ++ [freshIndex value (used.map sentinelOf)]) _ (by simp [h])]
      simp [segments, blocksFrom, Block.shielded, Block.entry]

structure Blocked (value : Text) (used : List Nat) (blocks : List Block) : Prop where
  absent : ∀ b ∈ blocks, ¬ sentinelOf b.index <:+: value
  unused : ∀ b ∈ blocks, b.index ∉ used
  distinct : (blocks.map Block.index).Nodup
  small : ∀ b ∈ blocks, b.index < 10 ^ 32

variable {value : Text}

theorem blocksFrom_blocked (used : List Nat)
    (h : value.length + 2 * (used.length + rest.length) < 10 ^ 32) :
    Blocked value used (blocksFrom value used rest) := by
  induction rest generalizing used with
  | nil => exact ⟨fun b hb => (by cases hb), fun b hb => (by cases hb), List.nodup_nil,
      fun b hb => (by cases hb)⟩
  | cons segment rest ih =>
    obtain ⟨digest, gap⟩ := segment
    rw [List.length_cons] at h
    have hfresh := @freshIndex_fresh value (used.map sentinelOf)
    have hle := @freshIndex_le value (used.map sentinelOf)
    rw [List.length_map] at hle
    unfold blocksFrom
    generalize freshIndex value (used.map sentinelOf) = index at hfresh hle ⊢
    have hrest := ih (used ++ [index]) (by rw [List.length_append, List.length_singleton]; omega)
    obtain ⟨habsent, hunused⟩ := not_or.mp hfresh
    refine ⟨?_, ?_, ?_, ?_⟩
    · exact List.forall_mem_cons.mpr ⟨habsent, hrest.absent⟩
    · refine List.forall_mem_cons.mpr ⟨fun hmem => ?_, fun b hb hmem => ?_⟩
      · exact hunused (List.mem_map_of_mem hmem)
      · exact hrest.unused b hb (List.mem_append_left _ hmem)
    · refine List.nodup_cons.mpr ⟨fun hmem => ?_, hrest.distinct⟩
      obtain ⟨b, hb, heq⟩ := List.mem_map.mp hmem
      exact hrest.unused b hb (heq ▸ List.mem_append_right _ List.mem_cons_self)
    · exact List.forall_mem_cons.mpr ⟨(by omega : index < 10 ^ 32), hrest.small⟩

/-! ## Restoring -/

/-- A text with the digests of blocks put back. -/
def restoreBlocks (blocks : List Block) (text : Text) : Text :=
  restoreGeneratedTextValues text (blocks.map Block.entry)

theorem restoreBlocks_cons (b : Block) (blocks : List Block) (text : Text) :
    restoreBlocks (b :: blocks) text =
      restoreBlocks blocks (replaceAll (sentinelOf b.index) b.digest text) := rfl

theorem restoreBlocks_append (before after : List Block) (text : Text) :
    restoreBlocks (before ++ after) text = restoreBlocks after (restoreBlocks before text) := by
  unfold restoreBlocks restoreGeneratedTextValues
  rw [List.map_append, List.foldl_append]

variable (blocks : List Block)

@[simp] theorem restoreBlocks_nil : restoreBlocks blocks [] = [] := by
  induction blocks with
  | nil => rfl
  | cons b blocks ih => exact ih

theorem restoreBlocks_eq_self {blocks : List Block}
    (h : ∀ b ∈ blocks, ¬ sentinelOf b.index <:+: text) : restoreBlocks blocks text = text := by
  induction blocks with
  | nil => rfl
  | cons b blocks ih =>
    obtain ⟨hb, hrest⟩ := List.forall_mem_cons.mp h
    rw [restoreBlocks_cons, replaceAll_eq_self hb, ih hrest]

theorem restoreBlocks_boundary {c : Char} (hc : Boundary c) : restoreBlocks blocks (s ++ c :: t) =
      restoreBlocks blocks s ++ c :: restoreBlocks blocks t := by
  induction blocks generalizing s t with
  | nil => rfl
  | cons b blocks ih =>
    simp only [restoreBlocks_cons]
    rw [replaceAll_boundary sentinelOf_ne_nil (boundary_not_mem hc), ih]

theorem restoreBlocks_bounded (h : EndsBounded s) :
    restoreBlocks blocks (s ++ t) = restoreBlocks blocks s ++ restoreBlocks blocks t := by
  obtain ⟨u, b, rfl, hb⟩ := h
  rw [List.append_assoc, List.singleton_append, restoreBlocks_boundary blocks hb,
    restoreBlocks_boundary blocks hb, restoreBlocks_nil, List.append_assoc]
  rfl

theorem restoreBlocks_damaged {blocks : List Block} {i : Nat}
    (hsmall : ∀ b ∈ blocks, b.index < 10 ^ 32) (h : Damaged i text) :
    Damaged i (restoreBlocks blocks text) := by
  induction blocks generalizing text with
  | nil => exact h
  | cons b blocks ih =>
    obtain ⟨hb, hrest⟩ := List.forall_mem_cons.mp hsmall
    exact ih hrest (h.replaceAll hb)

/-- A digest: hexadecimal, and long enough. -/
def Block.Hex (b : Block) : Prop := (∀ c ∈ b.digest, isHex c = true) ∧ 32 ≤ b.digest.length

/-- The rest of the placeholder follows the block's digest. -/
def Block.Runs (b : Block) (index : Nat) : Prop :=
  sentinelTail index <+: b.gap ∨ '_' :: sentinelTail index <+: b.gap

variable {done : List Block} {b : Block}

theorem restoreBlocks_earlier (hne : ∀ d ∈ done, d.index ≠ b.index)
    (habsent : ∀ d ∈ done, ¬ sentinelOf d.index <:+: b.gap)
    (hsmall : ∀ d ∈ done, d.index < 10 ^ 32) (hhex : ∀ d ∈ done, d.Hex) :
    ((∀ d ∈ done, ¬ b.Runs d.index) → restoreBlocks done b.shielded = b.shielded) ∧
      ((∃ d ∈ done, b.Runs d.index) → Damaged b.index (restoreBlocks done b.shielded)) := by
  induction done with
  | nil => exact ⟨fun _ => rfl, fun ⟨d, hd, _⟩ => by cases hd⟩
  | cons d done ih =>
    obtain ⟨hned, hne⟩ := List.forall_mem_cons.mp hne
    obtain ⟨habsentd, habsent⟩ := List.forall_mem_cons.mp habsent
    obtain ⟨hsmalld, hsmall⟩ := List.forall_mem_cons.mp hsmall
    obtain ⟨hhexd, hhex⟩ := List.forall_mem_cons.mp hhex
    have hother := replaceAll_other hned hhexd.1 hhexd.2 habsentd
    obtain ⟨hclear, hruns⟩ := ih hne habsent hsmall hhex
    rw [restoreBlocks_cons]
    by_cases hrun : b.Runs d.index
    · refine ⟨fun h => absurd hrun (h d List.mem_cons_self), fun _ => ?_⟩
      have htail : sentinelTail d.index <+: b.gap ∨ '_' :: sentinelTail d.index <+: b.gap := hrun
      rw [if_pos htail] at hother
      exact restoreBlocks_damaged hsmall hother
    · have htail : ¬ (sentinelTail d.index <+: b.gap ∨ '_' :: sentinelTail d.index <+: b.gap) :=
        hrun
      rw [if_neg htail] at hother
      change replaceAll _ _ b.shielded = b.shielded at hother
      rw [hother]
      refine ⟨fun h => hclear fun e he => h e (List.mem_cons_of_mem _ he), ?_⟩
      rintro ⟨e, he, hruns'⟩
      rcases List.mem_cons.mp he with rfl | he
      · exact absurd hruns' hrun
      · exact hruns ⟨e, he, hruns'⟩

/-- No block has the rest of an earlier placeholder behind its digest. -/
def Clear : List Block → List Block → Prop
  | _, [] => True
  | done, b :: rest => (∀ d ∈ done, ¬ b.Runs d.index) ∧ Clear (done ++ [b]) rest

/-- Blocks, each of which ends where the next digest has its boundary. -/
def BlocksSeparated : List Block → Prop
  | [] => True
  | b :: rest => (rest ≠ [] → EndsBounded b.gap) ∧ BlocksSeparated rest

theorem restoreBlocks_iff {blocks : List Block} (h : Blocked value [] blocks)
    (hhex : ∀ b ∈ blocks, b.Hex) (hinside : ∀ b ∈ blocks, b.plain <:+: value) {rest : List Block}
    (hblocks : blocks = done ++ rest) (hsep : BlocksSeparated rest) :
    restoreBlocks blocks (rest.flatMap Block.shielded) = rest.flatMap Block.plain ↔
      Clear done rest := by
  induction rest generalizing done with
  | nil =>
    rw [List.flatMap_nil, List.flatMap_nil, restoreBlocks_nil]
    exact iff_of_true rfl trivial
  | cons b rest ih =>
    have hrest := @ih (done ++ [b]) (by rw [hblocks]; simp) hsep.2
    have hb : b ∈ blocks := hblocks ▸ List.mem_append_right _ List.mem_cons_self
    have hdone : ∀ d ∈ done, d ∈ blocks := fun d hd => hblocks ▸ List.mem_append_left _ hd
    -- the block is restored for itself
    have hsplit : restoreBlocks blocks (b.shielded ++ rest.flatMap Block.shielded) =
        restoreBlocks blocks b.shielded ++ restoreBlocks blocks (rest.flatMap Block.shielded) := by
      by_cases hnil : rest = []
      · rw [hnil, List.flatMap_nil, List.append_nil, restoreBlocks_nil, List.append_nil]
      · exact restoreBlocks_bounded blocks (endsBounded_append (hsep.1 hnil))
    have hgap : ∀ d ∈ blocks, ¬ sentinelOf d.index <:+: b.gap := fun d hd hin =>
      h.absent d hd (hin.trans ((List.suffix_append b.digest b.gap).isInfix.trans (hinside b hb)))
    have hnodup : (done.map Block.index ++ b.index :: rest.map Block.index).Nodup := by
      have hdistinct := h.distinct
      rwa [hblocks, List.map_append, List.map_cons] at hdistinct
    have hne : ∀ d ∈ done, d.index ≠ b.index := by
      intro d hd heq
      refine List.disjoint_of_nodup_append hnodup (List.mem_map_of_mem hd) ?_
      rw [heq]
      exact List.mem_cons_self
    obtain ⟨hclear, hruns⟩ := restoreBlocks_earlier hne (fun d hd => hgap d (hdone d hd))
      (fun d hd => h.small d (hdone d hd)) (fun d hd => hhex d (hdone d hd))
    rw [List.flatMap_cons, List.flatMap_cons, hsplit]
    by_cases hrun : ∃ d ∈ done, b.Runs d.index
    · -- the first character of the block is an underscore now
      have hdamaged : Damaged b.index (restoreBlocks blocks b.shielded) := by
        rw [hblocks, restoreBlocks_append]
        refine restoreBlocks_damaged (fun d hd => h.small d ?_) (hruns hrun)
        exact hblocks ▸ List.mem_append_right _ hd
      refine iff_of_false ?_ fun hc => ?_
      · unfold Block.plain
        rw [List.append_assoc b.digest]
        exact hdamaged.append.not_digest (hhex b hb).1 (hhex b hb).2
      · obtain ⟨d, hd, hruns⟩ := hrun
        exact hc.1 d hd hruns
    · have hnone : ∀ d ∈ done, ¬ b.Runs d.index := fun d hd hr => hrun ⟨d, hd, hr⟩
      have hback : restoreBlocks blocks b.shielded = b.plain := by
        conv => lhs; rw [hblocks]
        rw [restoreBlocks_append, hclear hnone, restoreBlocks_cons]
        unfold Block.shielded
        rw [replaceAll_own (hgap b hb)]
        refine restoreBlocks_eq_self fun d hd hin => h.absent d ?_ (hin.trans (hinside b hb))
        exact hblocks ▸ List.mem_append_right _ (List.mem_cons_of_mem _ hd)
      rw [hback, List.append_cancel_left_eq, hrest]
      exact (and_iff_right hnone).symm

/-! ## The blocks of a value -/

def blocksOf (isWord : Char → Bool) (value : Text) : List Block :=
  blocksFrom value [] (segments (pieces isWord value)).2

/-- What stands in front of the first digest of a value. -/
def leadOf (isWord : Char → Bool) (value : Text) : Text := (segments (pieces isWord value)).1

theorem shieldGeneratedTextValues_eq (value : Text) : shieldGeneratedTextValues isWord value =
    (leadOf isWord value ++ (blocksOf isWord value).flatMap Block.shielded,
      (blocksOf isWord value).map Block.entry) := by
  unfold shieldGeneratedTextValues
  rw [shieldPieces_eq value (pieces isWord value) [] [] rfl]
  rfl

variable (isWord) in
theorem value_eq (value : Text) :
    value = leadOf isWord value ++ (blocksOf isWord value).flatMap Block.plain := by
  conv => lhs; rw [← @pieces_text isWord value, piecesText_eq]
  unfold blocksOf
  rw [blocksFrom_plain]
  rfl

theorem segments_hex (h : ∀ m, .generated m ∈ ps → m.WellFormed) :
    ∀ p ∈ (segments ps).2, (∀ c ∈ p.1, isHex c = true) ∧ 32 ≤ p.1.length := by
  induction ps with
  | nil => exact fun p hp => by cases hp
  | cons piece ps ih =>
    have hrest := ih fun m hm => h m (List.mem_cons_of_mem _ hm)
    cases piece with
    | plain c => exact hrest
    | generated m =>
      have hm := h m List.mem_cons_self
      exact List.forall_mem_cons.mpr ⟨⟨hm.hex, hm.length⟩, hrest⟩

theorem mem_blocksFrom {used : List Nat} (h : b ∈ blocksFrom value used rest) :
    (b.digest, b.gap) ∈ rest := by
  induction rest generalizing used with
  | nil => cases h
  | cons segment rest ih =>
    rcases List.mem_cons.mp h with rfl | h
    · exact List.mem_cons_self
    · exact List.mem_cons_of_mem _ (ih h)

theorem blocksFrom_separated {gap : Text} {used : List Nat} (h : Separated gap rest) :
    BlocksSeparated (blocksFrom value used rest) := by
  induction rest generalizing used gap with
  | nil => trivial
  | cons segment rest ih =>
    obtain ⟨digest, next⟩ := segment
    refine ⟨fun hne => ?_, ih h.2⟩
    cases rest with
    | nil => exact absurd rfl hne
    | cons segment rest => exact h.2.1

theorem length_segments_le (h : ∀ m, .generated m ∈ ps → m.WellFormed) :
    (segments ps).2.length ≤ (piecesText ps).length := by
  induction ps with
  | nil => exact le_rfl
  | cons piece ps ih =>
    have hrest := ih fun m hm => h m (List.mem_cons_of_mem _ hm)
    change _ ≤ (piece.text ++ piecesText ps).length
    rw [List.length_append]
    cases piece with
    | plain c => exact hrest.trans (Nat.le_add_left _ _)
    | generated m =>
      have hm := (h m List.mem_cons_self).length
      unfold Piece.text GeneratedMatch.text
      rw [List.length_append, List.length_append]
      change (segments ps).2.length + 1 ≤ _
      omega

/-- A text that a machine can hold. -/
def Holdable (value : Text) : Prop := value.length < 2 ^ 63

theorem blocksOf_blocked (h : Holdable value) : Blocked value [] (blocksOf isWord value) := by
  refine blocksFrom_blocked [] ?_
  have hlength := @length_segments_le (pieces isWord value) fun m hm => wellFormed_of_mem hm
  rw [pieces_text] at hlength
  unfold Holdable at h
  rw [List.length_nil]
  omega

theorem blocksOf_hex (h : b ∈ blocksOf isWord value) : b.Hex :=
  segments_hex (fun _ hm => wellFormed_of_mem hm) _ (mem_blocksFrom h)

theorem blocksOf_inside (h : b ∈ blocksOf isWord value) : b.plain <:+: value := by
  obtain ⟨before, after, hsplit⟩ := List.append_of_mem h
  refine ⟨leadOf isWord value ++ before.flatMap Block.plain, after.flatMap Block.plain, ?_⟩
  conv => rhs; rw [value_eq isWord value, hsplit]
  simp only [List.flatMap_append, List.flatMap_cons, List.append_assoc]

theorem restore_shield_iff (h : Holdable value) :
    restoreGeneratedTextValues (shieldGeneratedTextValues isWord value).1
        (shieldGeneratedTextValues isWord value).2 = value ↔ Clear [] (blocksOf isWord value) := by
  rw [shieldGeneratedTextValues_eq]
  change restoreBlocks _ _ = _ ↔ _
  have hsegments : Separated (leadOf isWord value) (segments (pieces isWord value)).2 :=
    segments_separated fun m hm => wellFormed_of_mem hm
  have hlead : restoreBlocks (blocksOf isWord value) (leadOf isWord value) = leadOf isWord value := by
    refine restoreBlocks_eq_self fun b hb hin => (blocksOf_blocked h).absent b hb (hin.trans ?_)
    conv => rhs; rw [value_eq isWord value]
    exact (List.prefix_append _ _).isInfix
  have hsplit : restoreBlocks (blocksOf isWord value)
      (leadOf isWord value ++ (blocksOf isWord value).flatMap Block.shielded) =
      leadOf isWord value ++ restoreBlocks (blocksOf isWord value)
        ((blocksOf isWord value).flatMap Block.shielded) := by
    by_cases hnil : (segments (pieces isWord value)).2 = []
    · have hblocks : blocksOf isWord value = [] := by rw [blocksOf, hnil]; rfl
      rw [hblocks, List.flatMap_nil, restoreBlocks_nil, List.append_nil]
      rfl
    · obtain ⟨segment, rest, hcons⟩ := List.exists_cons_of_ne_nil hnil
      rw [hcons] at hsegments
      rw [restoreBlocks_bounded _ hsegments.1, hlead]
  rw [hsplit]
  conv => lhs; rhs; rw [value_eq isWord value]
  rw [List.append_cancel_left_eq]
  exact restoreBlocks_iff (blocksOf_blocked h) (fun b => blocksOf_hex) (fun b => blocksOf_inside)
    (List.nil_append _).symm (blocksFrom_separated hsegments)

/-! ## When a value comes back -/

def placeholderIndices (value : Text) : Nat → List Nat
  | 0 => []
  | n + 1 =>
    placeholderIndices value n ++
      [freshIndex value ((placeholderIndices value n).map sentinelOf)]

/-- Whether a piece is a match. -/
def Piece.isGenerated : Piece → Bool
  | .plain _ => false
  | .generated _ => true

/-- Directly behind one of its digests the value goes on as the placeholder of an earlier digest
ends: with all of it but the first underscore, or but the first two. -/
def RunsOn (isWord : Char → Bool) (value : Text) : Prop :=
  ∃ before found after, pieces isWord value = before ++ .generated found :: after ∧
    ∃ index ∈ placeholderIndices value (before.countP Piece.isGenerated),
      sentinelTail index <+: found.suffixText ++ piecesText after ∨
        '_' :: sentinelTail index <+: found.suffixText ++ piecesText after

theorem prefix_bounded {w : Text} (hw : ∀ c, Boundary c → c ∉ w) (h : EndsBounded s) :
    w <+: s ++ t ↔ w <+: s := by
  obtain ⟨u, b, rfl, hb⟩ := h
  constructor
  · intro hstarts
    rw [List.append_assoc, List.singleton_append] at hstarts
    exact (prefix_before (hw b hb) hstarts).trans (List.prefix_append u [b])
  · exact fun hstarts => hstarts.trans (List.prefix_append _ t)

theorem runs_iff (h : ∀ m, .generated m ∈ ps → m.WellFormed) (suffix : Text) (i index : Nat)
    (digest : Text) : Block.Runs ⟨i, digest, suffix ++ (segments ps).1⟩ index ↔
      sentinelTail index <+: suffix ++ piecesText ps ∨
        '_' :: sentinelTail index <+: suffix ++ piecesText ps := by
  have hlast : ∀ c, Boundary c → c ∉ '_' :: sentinelTail index := fun c hc hmem =>
    boundary_not_mem hc (List.mem_cons_of_mem _ hmem : c ∈ sentinelOf index)
  have htail : ∀ c, Boundary c → c ∉ sentinelTail index := fun c hc hmem =>
    hlast c hc (List.mem_cons_of_mem _ hmem)
  have hseparated := segments_separated h
  unfold Block.Runs
  rw [piecesText_eq]
  cases hrest : (segments ps).2 with
  | nil => rw [List.flatMap_nil, List.append_nil]
  | cons segment rest =>
    rw [hrest] at hseparated
    have hbounded := @endsBounded_append suffix _ hseparated.1
    rw [← List.append_assoc, prefix_bounded htail hbounded, prefix_bounded hlast hbounded]

theorem clear_iff (h : ∀ m, .generated m ∈ ps → m.WellFormed) {n : Nat}
    (hdone : done.map Block.index = placeholderIndices value n) :
    Clear done (blocksFrom value (placeholderIndices value n) (segments ps).2) ↔
      ∀ before found after, ps = before ++ .generated found :: after →
        ∀ index ∈ placeholderIndices value (n + before.countP Piece.isGenerated),
          ¬ (sentinelTail index <+: found.suffixText ++ piecesText after ∨
            '_' :: sentinelTail index <+: found.suffixText ++ piecesText after) := by
  induction ps generalizing n done with
  | nil => exact iff_of_true trivial fun before found after heq => by simp at heq
  | cons piece ps ih =>
    have hrest : ∀ m, .generated m ∈ ps → m.WellFormed := fun m hm =>
      h m (List.mem_cons_of_mem _ hm)
    cases piece with
    | plain c =>
      change Clear done (blocksFrom value _ (segments ps).2) ↔ _
      rw [ih hrest hdone]
      constructor
      · intro hall before found after heq
        cases before with
        | nil => cases (List.cons.inj heq).1
        | cons piece before =>
          obtain ⟨rfl, htail⟩ := List.cons.inj heq
          rw [List.countP_cons_of_neg Bool.false_ne_true]
          exact hall before found after htail
      · intro hall before found after heq
        have hplain := hall (.plain c :: before) found after (by rw [heq]; rfl)
        rwa [List.countP_cons_of_neg Bool.false_ne_true] at hplain
    | generated m =>
      have hnext : ((done ++ [Block.mk (freshIndex value
          ((placeholderIndices value n).map sentinelOf)) m.value
          (m.suffixText ++ (segments ps).1)]).map Block.index) =
          placeholderIndices value (n + 1) := by
        rw [List.map_append, hdone]
        rfl
      have hlater := ih hrest hnext
      change (∀ d ∈ done, ¬ Block.Runs _ d.index) ∧ Clear _ _ ↔ _
      have hfirst : (∀ d ∈ done, ¬ Block.Runs ⟨freshIndex value
          ((placeholderIndices value n).map sentinelOf), m.value,
          m.suffixText ++ (segments ps).1⟩ d.index) ↔
          ∀ index ∈ placeholderIndices value n,
            ¬ (sentinelTail index <+: m.suffixText ++ piecesText ps ∨
              '_' :: sentinelTail index <+: m.suffixText ++ piecesText ps) := by
        rw [← hdone, List.forall_mem_map]
        exact forall₂_congr fun d _ => not_congr (runs_iff hrest _ _ _ _)
      rw [hfirst]
      constructor
      · rintro ⟨hhere, hthere⟩ before found after heq
        cases before with
        | nil =>
          cases heq
          exact hhere
        | cons piece before =>
          obtain ⟨rfl, htail⟩ := List.cons.inj heq
          rw [List.countP_cons_of_pos rfl, Nat.add_comm _ 1, ← Nat.add_assoc]
          exact hlater.mp hthere before found after htail
      · intro hall
        refine ⟨hall [] m ps rfl, hlater.mpr fun before found after heq => ?_⟩
        have hmore := hall (.generated m :: before) found after (by rw [heq]; rfl)
        rwa [List.countP_cons_of_pos rfl, Nat.add_comm _ 1, ← Nat.add_assoc] at hmore

theorem restored_iff (h : Holdable value) :
    restoreGeneratedTextValues (shieldGeneratedTextValues isWord value).1
        (shieldGeneratedTextValues isWord value).2 = value ↔ ¬ RunsOn isWord value := by
  rw [restore_shield_iff h]
  have hclear := @clear_iff (pieces isWord value) value [] (fun m hm => wellFormed_of_mem hm) 0 rfl
  rw [show blocksOf isWord value = blocksFrom value (placeholderIndices value 0)
    (segments (pieces isWord value)).2 from rfl, hclear]
  unfold RunsOn
  push Not
  simp only [Nat.zero_add]

/-! ## Lines -/

theorem keptLinesFrom_flatten (begun text : Text) :
    (keptLinesFrom begun text).flatten = begun ++ text := by
  fun_induction keptLinesFrom begun text with
  | case1 => rfl
  | case2 begun hbegun => simp
  | case3 begun rest ih | case4 begun c rest _ hbreak ih
  | case5 begun c rest _ hbreak ih => simp [ih]

theorem scannedLines_flatten (text : Text) : (scannedLines text).flatten = text := by
  unfold scannedLines
  split
  · exact List.append_nil text
  · exact keptLinesFrom_flatten [] text

theorem mapM_returns {α β ε : Type} {f : α → Except ε β} {g : α → β} {l : List α}
    (h : ∀ a ∈ l, f a = .ok (g a)) : l.mapM f = .ok (l.map g) := by
  induction l with
  | nil => rfl
  | cons a l ih =>
    obtain ⟨ha, hl⟩ := List.forall_mem_cons.mp h
    rw [List.mapM_cons, ha, ih hl]
    rfl

theorem partsFrom_nil (line : Text) : partsFrom id [] 0 line = line.map Part.kept := by
  induction line with
  | nil => rfl
  | cons c line ih =>
    change Part.kept c :: partsFrom id [] 0 line = _
    rw [ih]
    rfl

theorem redactResidualLines_silent {scanLine : LineScanner} (h : ∀ line, scanLine line = some [])
    (value replacement : Text) :
    redactResidualLines value replacement scanLine = .ok (value, 0) := by
  have hline : ∀ line ∈ scannedLines value,
      redactLine replacement scanLine line = .ok (line, 0) := by
    intro line _
    have hsecrets : lineSecrets scanLine line = .ok [] := by
      unfold lineSecrets
      rw [h line]
      rfl
    unfold redactLine
    rw [hsecrets, ok_bind, partsFrom_nil]
    dsimp only
    rw [List.flatMap_map, List.countP_map]
    have hkept : line.flatMap (fun c => Part.redacted replacement (Part.kept c)) = line :=
      List.flatMap_singleton' line
    have hnone : line.countP (Part.isFound ∘ Part.kept) = 0 :=
      List.countP_eq_zero.mpr fun c _ => by simp [Part.isFound]
    rw [hkept, hnone]
    rfl
  unfold redactResidualLines
  rw [mapM_returns hline, ok_bind, List.flatMap_map, List.map_map]
  have hsum : ((scannedLines value).map (Prod.snd ∘ fun line => (line, 0))).sum = 0 := by
    simp [Function.comp_def]
  have hall : (scannedLines value).flatMap (fun line => (Prod.fst (line, 0) : Text)) = value := by
    rw [List.flatMap_id', scannedLines_flatten]
  rw [hsum]
  exact congrArg (fun text => Except.ok (text, 0)) hall

end LocalMoe.Secrets
