/-
  What a scanner that reports parts of a line leaves of a value, and when the digests of the
  value are among it.
-/
import LocalMoe.Secrets.Transparent
import Mathlib.Data.List.ReduceOption

namespace LocalMoe.Secrets

open Foundation Foundation.Substitute

variable {isWord : Char → Bool}

/-! ## Reports -/

def scannerOf (reports : Text → List Text) : LineScanner := fun line =>
  some ((reports line).map some)

/-- What is reported of a line stands there, and is not empty. -/
def Proper (reports : Text → List Text) : Prop :=
  ∀ line, ∀ secret ∈ reports line, secret ≠ [] ∧ secret <:+: line

def wordsOf (reports : Text → List Text) (line : Text) : List Text :=
  orderedSecrets ((reports line).map some)

variable {reports : Text → List Text}

theorem mem_wordsOf {line secret : Text} :
    secret ∈ wordsOf reports line ↔ secret ∈ reports line := by
  unfold wordsOf orderedSecrets
  rw [(List.perm_insertionSort _ _).mem_iff, List.mem_dedup, List.reduceOption_mem_iff]
  simp

theorem lineSecrets_scannerOf (h : Proper reports) (line : Text) :
    lineSecrets (scannerOf reports) line = .ok (wordsOf reports line) := by
  unfold lineSecrets scannerOf
  dsimp only
  rw [check_of, ok_bind, check_of, ok_bind]
  · rfl
  · intro secret hsecret
    exact (h line secret (mem_wordsOf.mp hsecret)).2
  · constructor
    · simp
    · intro hempty
      obtain ⟨secret, hsecret, heq⟩ := List.mem_map.mp hempty
      exact (h line secret hsecret).1 (Option.some.inj heq)

def redactedLines (reports : Text → List Text) (replacement : Text) (lines : List Text) : Text :=
  lines.flatMap fun line =>
    (partsFrom id (wordsOf reports line) 0 line).flatMap (Part.redacted replacement)

theorem redactResidualLines_scannerOf (h : Proper reports) (value replacement : Text) :
    (redactResidualLines value replacement (scannerOf reports)).map Prod.fst =
      .ok (redactedLines reports replacement (scannedLines value)) := by
  have hline : ∀ line ∈ scannedLines value, redactLine replacement (scannerOf reports) line =
      .ok ((partsFrom id (wordsOf reports line) 0 line).flatMap (Part.redacted replacement),
        (partsFrom id (wordsOf reports line) 0 line).countP Part.isFound) := by
    intro line _
    unfold redactLine
    rw [lineSecrets_scannerOf h]
    rfl
  unfold redactResidualLines
  rw [mapM_returns hline, ok_bind]
  change Except.ok _ = _
  rw [List.flatMap_map]
  rfl

/-! ## Marks -/

/-- A character of a shielded text: one of the text itself, or one of a placeholder, of which the
first bears the digest. -/
inductive Mark where
  | own (c : Char)
  | shield (c : Char) (digest : Text)

/-- The character. -/
def Mark.char : Mark → Char
  | .own c => c
  | .shield c _ => c

/-- What the character stands for. -/
def Mark.original : Mark → Text
  | .own c => [c]
  | .shield _ digest => digest

/-- Whether it is a character of the text itself. -/
def Mark.isOwn : Mark → Bool
  | .own _ => true
  | .shield _ _ => false

def Block.marks (b : Block) : List Mark :=
  .shield '_' b.digest :: ('_' :: sentinelTail b.index).map (Mark.shield · []) ++
    b.gap.map Mark.own

/-- The characters of a shielded value. -/
def marksOf (isWord : Char → Bool) (value : Text) : List Mark :=
  (leadOf isWord value).map Mark.own ++ (blocksOf isWord value).flatMap Block.marks

theorem map_char_own (s : Text) : (s.map Mark.own).map Mark.char = s := by
  rw [List.map_map]
  exact List.map_id s

theorem flatMap_original_own (s : Text) : (s.map Mark.own).flatMap Mark.original = s := by
  rw [List.flatMap_map]
  exact List.flatMap_singleton' s

theorem Block.marks_char (b : Block) : b.marks.map Mark.char = b.shielded := by
  unfold Block.marks Block.shielded
  rw [List.map_append, map_char_own, List.map_cons, List.map_map]
  have hshield : ('_' :: sentinelTail b.index).map (Mark.char ∘ (Mark.shield · [])) =
      '_' :: sentinelTail b.index := List.map_id _
  rw [hshield]
  rfl

theorem Block.marks_original (b : Block) : b.marks.flatMap Mark.original = b.plain := by
  unfold Block.marks Block.plain
  rw [List.flatMap_append, flatMap_original_own, List.flatMap_cons, List.flatMap_map]
  have hshield : ('_' :: sentinelTail b.index).flatMap
      (fun c => (Mark.shield c []).original) = [] := List.flatMap_eq_nil_iff.mpr fun _ _ => rfl
  rw [hshield, List.append_nil]
  rfl

theorem blocks_char (blocks : List Block) :
    (blocks.flatMap Block.marks).map Mark.char = blocks.flatMap Block.shielded := by
  rw [List.map_flatMap]
  exact List.flatMap_congr fun b _ => b.marks_char

theorem blocks_original (blocks : List Block) :
    (blocks.flatMap Block.marks).flatMap Mark.original = blocks.flatMap Block.plain := by
  rw [List.flatMap_assoc]
  exact List.flatMap_congr fun b _ => b.marks_original

theorem marksOf_char (value : Text) :
    (marksOf isWord value).map Mark.char = (shieldGeneratedTextValues isWord value).1 := by
  unfold marksOf
  rw [shieldGeneratedTextValues_eq, List.map_append, map_char_own, blocks_char]

/-! ## What is expected -/

/-- What is expected of a part: an occurrence outside the digests is replaced, and everything else
is as it was. -/
def Part.expected (replacement : Text) : Part Mark → Text
  | .kept m => m.original
  | .found ms => if ms.all Mark.isOwn then replacement else ms.flatMap Mark.original

/-- The parts of lines, where `marks` are their characters. -/
def partsOfLines (reports : Text → List Text) : List Text → List Mark → List (Part Mark)
  | [], _ => []
  | line :: rest, marks =>
    partsFrom Mark.char (wordsOf reports line) 0 (marks.take line.length) ++
      partsOfLines reports rest (marks.drop line.length)

def partsOf (isWord : Char → Bool) (reports : Text → List Text) (value : Text) :
    List (Part Mark) :=
  partsOfLines reports (scannedLines (shieldGeneratedTextValues isWord value).1)
    (marksOf isWord value)

/-- The value with exactly the reported occurrences outside its digests replaced, and every digest
as it was. -/
def expectedText (isWord : Char → Bool) (reports : Text → List Text) (replacement value : Text) :
    Text :=
  (partsOf isWord reports value).flatMap (Part.expected replacement)

/-- What a part becomes, character by character. -/
def Part.marks (replacement : Text) : Part Mark → List Mark
  | .kept m => [m]
  | .found _ => replacement.map Mark.own

def Part.content : Part Mark → List Mark
  | .kept m => [m]
  | .found ms => ms

theorem partsFrom_content (words : List Text) (h : ∀ word ∈ words, word ≠ []) (skip : Nat)
    (marks : List Mark) :
    (partsFrom Mark.char words skip marks).flatMap Part.content = marks.drop skip := by
  induction marks generalizing skip with
  | nil => rw [List.drop_nil]; cases skip <;> rfl
  | cons m marks ih =>
    cases skip with
    | succ skip => exact ih skip
    | zero =>
      unfold partsFrom
      split
      · rename_i word hword
        have hpos := List.length_pos_iff.mpr (h word (List.mem_of_find?_eq_some hword))
        rw [List.flatMap_cons, ih]
        change (m :: marks).take word.length ++ _ = m :: marks
        obtain ⟨n, hn⟩ : ∃ n, word.length = n + 1 := ⟨word.length - 1, by omega⟩
        rw [hn, Nat.add_sub_cancel, ← List.drop_succ_cons (a := m), List.take_append_drop]
      · rw [List.flatMap_cons, ih]
        rfl

theorem partsFrom_char (words : List Text) (replacement : Text) (skip : Nat) (marks : List Mark) :
    ((partsFrom Mark.char words skip marks).flatMap (Part.marks replacement)).map Mark.char =
      (partsFrom id words skip (marks.map Mark.char)).flatMap (Part.redacted replacement) := by
  induction marks generalizing skip with
  | nil => cases skip <;> rfl
  | cons m marks ih =>
    cases skip with
    | succ skip => exact ih skip
    | zero =>
      rw [List.map_cons]
      unfold partsFrom
      rw [List.map_id, List.map_cons]
      cases words.find? (fun word => decide (word <+: m.char :: marks.map Mark.char)) with
      | none =>
        dsimp only
        rw [List.flatMap_cons, List.flatMap_cons, List.map_append, ih]
        rfl
      | some word =>
        dsimp only
        rw [List.flatMap_cons, List.flatMap_cons, List.map_append, ih]
        change (replacement.map Mark.own).map Mark.char ++ _ = replacement ++ _
        rw [map_char_own]

theorem partsOfLines_char (reports : Text → List Text) (replacement : Text) (lines : List Text)
    (marks : List Mark) (h : marks.map Mark.char = lines.flatten) :
    ((partsOfLines reports lines marks).flatMap (Part.marks replacement)).map Mark.char =
      redactedLines reports replacement lines := by
  induction lines generalizing marks with
  | nil => rfl
  | cons line lines ih =>
    have htake : (marks.take line.length).map Mark.char = line := by
      rw [List.map_take, h, List.flatten_cons, List.take_left]
    have hdrop : (marks.drop line.length).map Mark.char = lines.flatten := by
      rw [List.map_drop, h, List.flatten_cons, List.drop_left]
    unfold partsOfLines
    rw [List.flatMap_append, List.map_append, partsFrom_char, htake, ih _ hdrop]
    rfl

theorem partsOfLines_content (h : Proper reports) (lines : List Text) (marks : List Mark)
    (hmarks : marks.map Mark.char = lines.flatten) :
    (partsOfLines reports lines marks).flatMap Part.content = marks := by
  induction lines generalizing marks with
  | nil => exact (List.map_eq_nil_iff.mp hmarks).symm
  | cons line lines ih =>
    have hdrop : (marks.drop line.length).map Mark.char = lines.flatten := by
      rw [List.map_drop, hmarks, List.flatten_cons, List.drop_left]
    have hwords : ∀ word ∈ wordsOf reports line, word ≠ [] := fun word hword =>
      (h line word (mem_wordsOf.mp hword)).1
    unfold partsOfLines
    rw [List.flatMap_append, partsFrom_content _ hwords, ih _ hdrop, List.drop_zero,
      List.take_append_drop]

/-! ## What is returned -/

/-- What is left of a shielded value, character by character. -/
def redactedMarks (isWord : Char → Bool) (reports : Text → List Text) (replacement value : Text) :
    List Mark :=
  (partsOf isWord reports value).flatMap (Part.marks replacement)

theorem redactResidual_scannerOf (h : Proper reports) (value replacement : Text) :
    (redactResidual isWord (scannerOf reports) value replacement).map Prod.fst =
      .ok (restoreBlocks (blocksOf isWord value)
        ((redactedMarks isWord reports replacement value).map Mark.char)) := by
  have hlines := redactResidualLines_scannerOf h (shieldGeneratedTextValues isWord value).1
    replacement
  have hchars := partsOfLines_char reports replacement
    (scannedLines (shieldGeneratedTextValues isWord value).1) (marksOf isWord value)
    (by rw [marksOf_char, scannedLines_flatten])
  obtain ⟨⟨redacted, count⟩, hredacted, hfst⟩ := map_eq_ok.mp hlines
  unfold redactResidual redactedMarks partsOf
  rw [hchars, ← hfst]
  dsimp only
  rw [hredacted, shieldGeneratedTextValues_eq]
  rfl

/-- Placeholders that are each found at their own place only, when their turn has come: `left`
stands in front of them, with the earlier digests back. -/
def Legible : Text → List Block → Prop
  | _, [] => True
  | left, b :: rest =>
    (∀ u v, left ++ (b.shielded ++ rest.flatMap Block.shielded) =
      u ++ (sentinelOf b.index ++ v) → u = left) ∧
    Legible (left ++ b.plain) rest

theorem replaceAll_once {old new left right : Text} (hold : old ≠ [])
    (h : ∀ u v, left ++ (old ++ right) = u ++ (old ++ v) → u = left) :
    replaceAll old new (left ++ (old ++ right)) = left ++ (new ++ right) := by
  rw [replaceAll_keep, replaceAll_append hold, replaceAll_eq_self]
  · rintro ⟨u, v, rfl⟩
    have hplace := h (left ++ old ++ u) v (by simp only [List.append_assoc])
    have hlength := congrArg List.length hplace
    have hpos := List.length_pos_iff.mpr hold
    rw [List.length_append, List.length_append] at hlength
    omega
  · rintro u v rfl hv ⟨w, hw⟩
    have hplace := h u w (by rw [List.append_assoc, hw])
    exact hv (List.append_right_eq_self.mp hplace.symm)

theorem restoreBlocks_legible {left : Text} {blocks : List Block} (h : Legible left blocks) :
    restoreBlocks blocks (left ++ blocks.flatMap Block.shielded) =
      left ++ blocks.flatMap Block.plain := by
  induction blocks generalizing left with
  | nil => rfl
  | cons b rest ih =>
    obtain ⟨honce, hrest⟩ := h
    change ∀ u v, left ++ ((sentinelOf b.index ++ b.gap) ++ rest.flatMap Block.shielded) =
      u ++ (sentinelOf b.index ++ v) → u = left at honce
    simp only [List.append_assoc] at honce
    rw [List.flatMap_cons, restoreBlocks_cons, Block.shielded, List.append_assoc,
      replaceAll_once sentinelOf_ne_nil honce]
    have hback := ih hrest
    change restoreBlocks rest ((left ++ (b.digest ++ b.gap)) ++ _) =
      (left ++ (b.digest ++ b.gap)) ++ _ at hback
    simp only [List.append_assoc] at hback
    rw [hback, List.flatMap_cons, Block.plain, List.append_assoc]

/-- The reports of a value leave its placeholders alone, and none is made up around them. -/
structure Harmless (isWord : Char → Bool) (reports : Text → List Text)
    (replacement value : Text) : Prop where
  untouched : ∀ occurrence, .found occurrence ∈ partsOf isWord reports value →
    occurrence.all Mark.isOwn = true
  legible : ∃ left blocks, redactedMarks isWord reports replacement value =
      left.map Mark.own ++ blocks.flatMap Block.marks ∧
    blocks.map Block.entry = (blocksOf isWord value).map Block.entry ∧ Legible left blocks

theorem redactResidual_harmless {replacement value : Text} (h : Proper reports)
    (hharmless : Harmless isWord reports replacement value) :
    (redactResidual isWord (scannerOf reports) value replacement).map Prod.fst =
      .ok (expectedText isWord reports replacement value) := by
  obtain ⟨left, blocks, hmarks, hentries, hlegible⟩ := hharmless.legible
  have hexpected : expectedText isWord reports replacement value =
      (redactedMarks isWord reports replacement value).flatMap Mark.original := by
    unfold expectedText redactedMarks
    rw [List.flatMap_assoc]
    refine List.flatMap_congr fun part hpart => ?_
    cases part with
    | kept m => exact (List.append_nil m.original).symm
    | found ms =>
      change (if ms.all Mark.isOwn = true then replacement else _) = _
      rw [if_pos (hharmless.untouched ms hpart)]
      exact (flatMap_original_own replacement).symm
  rw [redactResidual_scannerOf h, hexpected, hmarks, List.map_append, map_char_own, blocks_char,
    List.flatMap_append, flatMap_original_own, blocks_original]
  have hback := restoreBlocks_legible hlegible
  unfold restoreBlocks at hback ⊢
  rw [← hentries, hback]

/-! ## Every scanner -/

theorem mem_expected (replacement : Text) {digest : Text} {c d : Char} {parts : List (Part Mark)}
    (h : .shield d digest ∈ parts.flatMap Part.content) (hc : c ∈ digest) :
    c ∈ parts.flatMap (Part.expected replacement) := by
  obtain ⟨part, hpart, hmem⟩ := List.mem_flatMap.mp h
  refine List.mem_flatMap.mpr ⟨part, hpart, ?_⟩
  cases part with
  | kept m =>
    rw [← List.mem_singleton.mp hmem]
    exact hc
  | found ms =>
    have htouched : ¬ ms.all Mark.isOwn = true := fun hall =>
      absurd (List.all_eq_true.mp hall _ hmem) Bool.false_ne_true
    change c ∈ if ms.all Mark.isOwn = true then replacement else _
    rw [if_neg htouched]
    exact List.mem_flatMap.mpr ⟨_, hmem, hc⟩

def everyLine (line : Text) : List Text := if line = [] then [] else [line]

theorem everyLine_proper : Proper everyLine := by
  intro line secret hsecret
  unfold everyLine at hsecret
  split at hsecret
  · cases hsecret
  · rw [List.mem_singleton.mp hsecret]
    exact ⟨‹_›, List.infix_rfl⟩

theorem redactedLines_everyLine (lines : List Text) :
    ∀ c ∈ redactedLines everyLine ['x'] lines, c = 'x' := by
  intro c hc
  obtain ⟨line, _, hline⟩ := List.mem_flatMap.mp hc
  cases line with
  | nil => cases hline
  | cons d line =>
    have hwords : wordsOf everyLine (d :: line) = [d :: line] := rfl
    have hparts : partsFrom id [d :: line] 0 (d :: line) = [.found (d :: line)] := by
      have hskip : ∀ rest : Text, partsFrom id [d :: line] rest.length rest = [] := by
        intro rest
        induction rest with
        | nil => rfl
        | cons e rest ih => exact ih
      unfold partsFrom
      rw [List.map_id, List.find?_cons_of_pos (by simp)]
      dsimp only
      rw [List.take_length, List.length_cons, Nat.add_sub_cancel, hskip]
    rw [hwords, hparts] at hline
    exact List.mem_singleton.mp (by simpa [Part.redacted] using hline)

theorem marksOf_plain {value : Text} (h : blocksOf isWord value = []) :
    marksOf isWord value = value.map Mark.own := by
  unfold marksOf
  conv => rhs; rw [value_eq isWord value, h]
  rw [h, List.flatMap_nil, List.flatMap_nil, List.append_nil, List.append_nil]

theorem blocksOf_eq_nil_iff {value : Text} :
    blocksOf isWord value = [] ↔ ∀ piece ∈ pieces isWord value, piece.isGenerated = false := by
  have hblocks : blocksOf isWord value = [] ↔ (segments (pieces isWord value)).2 = [] := by
    unfold blocksOf
    cases (segments (pieces isWord value)).2 with
    | nil => exact iff_of_true rfl rfl
    | cons segment rest => exact iff_of_false (List.cons_ne_nil _ _) (List.cons_ne_nil _ _)
  rw [hblocks]
  induction pieces isWord value with
  | nil => simp [segments]
  | cons piece ps ih =>
    rw [List.forall_mem_cons]
    cases piece with
    | plain c => exact Iff.trans ih (and_iff_right rfl).symm
    | generated m =>
      exact iff_of_false (List.cons_ne_nil _ _) fun h => absurd h.1.symm Bool.false_ne_true

theorem every_scanner_iff (value : Text) : (∀ reports replacement, Proper reports →
      (redactResidual isWord (scannerOf reports) value replacement).map Prod.fst =
        .ok (expectedText isWord reports replacement value)) ↔ blocksOf isWord value = [] := by
  constructor
  · intro hall
    by_contra hne
    obtain ⟨b, rest, hblocks⟩ := List.exists_cons_of_ne_nil hne
    have hcontent := partsOfLines_content everyLine_proper
      (scannedLines (shieldGeneratedTextValues isWord value).1) (marksOf isWord value)
      (by rw [marksOf_char, scannedLines_flatten])
    have hx := redactedLines_everyLine (scannedLines (shieldGeneratedTextValues isWord value).1)
    have hreturned := hall everyLine ['x'] everyLine_proper
    have hchars := partsOfLines_char everyLine ['x']
      (scannedLines (shieldGeneratedTextValues isWord value).1) (marksOf isWord value)
      (by rw [marksOf_char, scannedLines_flatten])
    rw [redactResidual_scannerOf everyLine_proper, Except.ok.injEq] at hreturned
    unfold redactedMarks partsOf at hreturned
    rw [hchars, restoreBlocks_eq_self] at hreturned
    · -- the digest is expected, and is not among the replacements
      obtain ⟨hhex, hlength⟩ := @blocksOf_hex isWord value b (hblocks ▸ List.mem_cons_self)
      obtain ⟨c, tail, hdigest⟩ := List.exists_cons_of_ne_nil
        (List.ne_nil_of_length_pos (by omega : 0 < b.digest.length))
      have hmark : Mark.shield '_' b.digest ∈ marksOf isWord value := by
        refine List.mem_append_right _ (List.mem_flatMap.mpr ⟨b, ?_, ?_⟩)
        · exact hblocks ▸ List.mem_cons_self
        · exact List.mem_append_left _ List.mem_cons_self
      rw [← hcontent] at hmark
      have hexpected := mem_expected ['x'] hmark (hdigest ▸ List.mem_cons_self : c ∈ b.digest)
      have hcx : c = 'x' := hx c (by rw [hreturned]; exact hexpected)
      have hc := hhex c (hdigest ▸ List.mem_cons_self)
      rw [hcx] at hc
      exact absurd hc (by decide)
    · intro d _ hin
      have h := hx '_' (hin.subset (by rw [sentinelOf_eq]; exact List.mem_cons_self))
      exact absurd h (by decide)
  · intro hnone reports replacement hproper
    have hcontent := partsOfLines_content hproper
      (scannedLines (shieldGeneratedTextValues isWord value).1) (marksOf isWord value)
      (by rw [marksOf_char, scannedLines_flatten])
    rw [marksOf_plain hnone] at hcontent
    have hown : ∀ part ∈ partsOf isWord reports value, ∀ m ∈ part.content, m.isOwn = true := by
      intro part hpart m hm
      unfold partsOf at hpart
      rw [marksOf_plain hnone] at hpart
      have hmem : m ∈ value.map Mark.own := by
        rw [← hcontent]
        exact List.mem_flatMap.mpr ⟨part, hpart, hm⟩
      obtain ⟨c, _, rfl⟩ := List.mem_map.mp hmem
      rfl
    refine redactResidual_harmless hproper ⟨fun occurrence hfound => ?_, ?_⟩
    · exact List.all_eq_true.mpr fun m hm => hown _ hfound m hm
    · refine ⟨(redactedMarks isWord reports replacement value).map Mark.char, [], ?_, ?_, trivial⟩
      · rw [List.flatMap_nil, List.append_nil, List.map_map]
        refine (List.map_id _).symm.trans (List.map_congr_left fun m hm => ?_)
        obtain ⟨part, hpart, hm⟩ := List.mem_flatMap.mp hm
        cases part with
        | kept k =>
          rw [List.mem_singleton.mp hm]
          have hk := hown _ hpart k List.mem_cons_self
          cases k with
          | own c => rfl
          | shield c digest => cases hk
        | found ms =>
          obtain ⟨c, _, rfl⟩ := List.mem_map.mp hm
          rfl
      · rw [hnone]

/-! ## Transparency -/

/-- A value comes back as it was exactly when it does not run on behind a digest; so it does with
a silent scanner. Of any scanner exactly the reports are replaced where they are harmless; for
all scanners together they are where the value has no digest. -/
theorem shielding_transparent (isWord : Char → Bool) (value : Text) (hvalue : Holdable value) :
    (restoreGeneratedTextValues (shieldGeneratedTextValues isWord value).1
        (shieldGeneratedTextValues isWord value).2 = value ↔ ¬ RunsOn isWord value) ∧
      (∀ scanLine replacement, (∀ line, scanLine line = some []) →
        (redactResidual isWord scanLine value replacement = .ok (value, 0) ↔
          ¬ RunsOn isWord value)) ∧
      (∀ reports replacement, Proper reports → Harmless isWord reports replacement value →
        (redactResidual isWord (scannerOf reports) value replacement).map Prod.fst =
          .ok (expectedText isWord reports replacement value)) ∧
      ((∀ reports replacement, Proper reports →
        (redactResidual isWord (scannerOf reports) value replacement).map Prod.fst =
          .ok (expectedText isWord reports replacement value)) ↔
        ∀ piece ∈ pieces isWord value, piece.isGenerated = false) := by
  refine ⟨restored_iff hvalue, fun scanLine replacement hsilent => ?_,
    fun reports replacement hproper => redactResidual_harmless hproper, ?_⟩
  · rw [← restored_iff hvalue]
    unfold redactResidual
    dsimp only
    rw [redactResidualLines_silent hsilent]
    exact ⟨fun h => congrArg Prod.fst (Except.ok.inj h), fun h =>
      congrArg (fun text => Except.ok (text, 0)) h⟩
  · rw [every_scanner_iff, blocksOf_eq_nil_iff]

/-! ## Samples -/

/-- A character of a word, among those of ASCII. -/
def isAsciiWord (c : Char) : Bool := c.isAlphanum || c == '_'

/-- A digest, and another one behind which the value goes on as the placeholder of the first
ends. -/
def runningOn : Text :=
  "sha256=".toList ++ List.replicate 32 'a' ++ " sha256=".toList ++ List.replicate 32 'b' ++
    "GENERATED_METADATA_VALUE_0__".toList

/-- The second digest is lost. -/
theorem runningOn_not_restored : ¬ ∀ value : Text,
    restoreGeneratedTextValues (shieldGeneratedTextValues isAsciiWord value).1
      (shieldGeneratedTextValues isAsciiWord value).2 = value := by
  intro hall
  have h := hall runningOn
  revert h
  decide +kernel

theorem shielding_transparent_samples :
    ¬ RunsOn isAsciiWord ("sha1: ".toList ++ List.replicate 40 'a') ∧
      RunsOn isAsciiWord runningOn := by
  constructor
  · exact (shielding_transparent isAsciiWord _ (by
      unfold Holdable
      decide +kernel)).1.mp (by decide +kernel)
  · by_contra hnot
    have h := (shielding_transparent isAsciiWord runningOn (by
        unfold Holdable
        decide +kernel)).1.mpr hnot
    revert h
    decide +kernel

end LocalMoe.Secrets
