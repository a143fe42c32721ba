/-
  What an outbound object is after both passes.
-/
import LocalMoe.Secrets.Redaction
import Mathlib.Tactic.Linarith

namespace LocalMoe.Secrets

open Foundation

variable (lower : String → String) (policy : SecretRedactionPolicy)

/-! ## What a result may be -/

def Unmatched (text : String) : Prop :=
  ∀ rule ∈ policy.patterns, (rule.subn policy.replacement text).2 = 0

mutual

/-- A result has the shape of a payload: the same keys, none of which matches a pattern; the
digests at generated paths as they are; the replacement under a sensitive key; and a related
string for every other one.  The relation knows whether the result stands at a generated
path as a valid digest. -/
def Follows (leaf : Bool → Position → String → String → Prop) (exempt : Bool)
    (path : List String) (position : Position) : Obj → Obj → Prop
  | .dict entries, out =>
    ∃ outs, out = .dict outs ∧ FollowsEntries leaf exempt path position 0 entries outs
  | .list items, out =>
    ∃ outs, out = .list outs ∧ FollowsItems leaf exempt path position 0 items outs
  | .tuple items, out =>
    ∃ outs, out = .tuple outs ∧ FollowsItems leaf exempt path position 0 items outs
  | .str value, out => ∃ text, out = .str text ∧ leaf exempt position value text
  | .other _, _ => False
  | value, out => out = value

def FollowsItems (leaf : Bool → Position → String → String → Prop) (exempt : Bool)
    (path : List String) (position : Position) : Nat → List Obj → List Obj → Prop
  | _, [], outs => outs = []
  | index, nested :: rest, outs => ∃ head tail, outs = head :: tail ∧
      Follows leaf exempt path (position ++ [index]) nested head ∧
      FollowsItems leaf exempt path position (index + 1) rest tail

def FollowsEntries (leaf : Bool → Position → String → String → Prop) (exempt : Bool)
    (path : List String) (position : Position) :
    Nat → List (Key × Obj) → List (Key × Obj) → Prop
  | _, [], outs => outs = []
  | index, (rawKey, nested) :: rest, outs => ∃ text head tail,
      rawKey = .text text ∧ outs = (.text text, head) :: tail ∧ Unmatched policy text ∧
      (if isValidGeneratedField policy (path ++ [normalizeKey lower text]) nested then
          head = nested
        else if isSensitiveKey policy (normalizeKey lower text) then
          head = .str policy.replacement
        else
          Follows leaf
            (exempt || isValidGeneratedField policy (path ++ [normalizeKey lower text]) head)
            (path ++ [normalizeKey lower text]) (position ++ [index]) nested head) ∧
      FollowsEntries leaf exempt path position (index + 1) rest tail

end

/-- A string after the patterns and, where there is a detector, a consistent first call. -/
def FirstLeaf (detector : Option Detector) (position : Position) (value text : String) : Prop :=
  match detector with
  | none => text = (applyTextPatterns policy value).1
  | some detector => ∃ count,
      detector .first position (applyTextPatterns policy value).1 = .returned (.str text) count ∧
        Consistent (applyTextPatterns policy value).1 (.str text) count

/-- A string that a consistent final call returned for the string of the first pass. -/
def FinalLeaf (detector : Option Detector) (position : Position) (value text : String) : Prop :=
  match detector with
  | none => FirstLeaf policy none position value text
  | some detector => ∃ scanned count, FirstLeaf policy (some detector) position value scanned ∧
      detector .final position scanned = .returned (.str text) count ∧
        Consistent scanned (.str text) count

/-- A string of the result: the output of a final call, unless the result stands at a
generated path as a valid digest. -/
def ResultLeaf (detector : Option Detector) (exempt : Bool) (position : Position)
    (value text : String) : Prop :=
  (exempt = true ∧ FirstLeaf policy detector position value text) ∨
    FinalLeaf policy detector position value text

/-! ## What the detector must do -/

mutual

/-- The detector answers consistently in the first pass, and leaves the replacement under a
sensitive key as it is in the second. -/
def Answers (detector : Detector) (path : List String) (position : Position) : Obj → Prop
  | .dict entries => AnswersEntries detector path position 0 entries
  | .list items => AnswersItems detector path position 0 items
  | .tuple items => AnswersItems detector path position 0 items
  | .str value => ∀ redacted count,
      detector .first position (applyTextPatterns policy value).1 = .returned redacted count →
        Consistent (applyTextPatterns policy value).1 redacted count
  | _ => True

def AnswersItems (detector : Detector) (path : List String) (position : Position) :
    Nat → List Obj → Prop
  | _, [] => True
  | index, nested :: rest => Answers detector path (position ++ [index]) nested ∧
      AnswersItems detector path position (index + 1) rest

def AnswersEntries (detector : Detector) (path : List String) (position : Position) :
    Nat → List (Key × Obj) → Prop
  | _, [] => True
  | index, (rawKey, nested) :: rest => (∀ text, rawKey = .text text →
      if isValidGeneratedField policy (path ++ [normalizeKey lower text]) nested then True
      else if isSensitiveKey policy (normalizeKey lower text) then
        isValidGeneratedField policy (path ++ [normalizeKey lower text])
            (.str policy.replacement) = true ∨
          ∀ redacted count,
            detector .final (position ++ [index]) policy.replacement = .returned redacted count →
            Consistent policy.replacement redacted count → redacted = .str policy.replacement
      else Answers detector (path ++ [normalizeKey lower text]) (position ++ [index]) nested) ∧
      AnswersEntries detector path position (index + 1) rest

end

/-! ## Patterns and keys -/

variable {lower policy}

theorem foldl_patterns (rules : List TextSecretPattern) (state : String × Nat) :
    let result := rules.foldl (fun state rule =>
      let result := rule.subn policy.replacement state.1
      (result.1, state.2 + result.2)) state
    state.2 ≤ result.2 ∧ (result.2 = state.2 → result.1 = state.1 ∧
      ∀ rule ∈ rules, (rule.subn policy.replacement state.1).2 = 0) := by
  induction rules generalizing state with
  | nil => exact ⟨le_rfl, fun _ => ⟨rfl, fun _ h => by cases h⟩⟩
  | cons rule rest ih =>
    obtain ⟨hle, heq⟩ := ih ((rule.subn policy.replacement state.1).1,
      state.2 + (rule.subn policy.replacement state.1).2)
    refine ⟨(Nat.le_add_right _ _).trans hle, fun h => ?_⟩
    have hzero : (rule.subn policy.replacement state.1).2 = 0 := by
      simp only [List.foldl_cons] at h
      dsimp only at hle
      omega
    have hsame := rule.unchanged policy.replacement state.1 hzero
    obtain ⟨hrest, hall⟩ := heq (by rw [List.foldl_cons] at h; rw [h, hzero, Nat.add_zero])
    rw [hsame] at hall
    refine ⟨?_, List.forall_mem_cons.mpr ⟨hzero, hall⟩⟩
    rw [List.foldl_cons, hrest, hsame]

variable {value : String}

theorem applyTextPatterns_unchanged (h : (applyTextPatterns policy value).2 = 0) :
    (applyTextPatterns policy value).1 = value ∧ Unmatched policy value :=
  (foldl_patterns policy.patterns (value, 0)).2 h

theorem keyText_eq_ok {message text : String} {key : Key} (h : keyText message key = .ok text) :
    key = .text text := by
  cases key with
  | text value => cases h; rfl
  | other id => cases h

theorem unmatched_of_validated {text : String} {u : Unit}
    (h : validateMappingKeyPatterns policy text = .ok u) : Unmatched policy text :=
  (applyTextPatterns_unchanged (check_eq_ok.mp h).2).2

/-! ## Counters -/

/-- The counters only grow, and what stands still leaves the value unchanged. -/
def Counted (before after : Counters) (unchanged : Prop) : Prop :=
  ∀ q, before.residual = .finite q → ∃ q', after.residual = .finite q' ∧ q ≤ q' ∧
    before.structured ≤ after.structured ∧ before.pattern ≤ after.pattern ∧
    (q' = q → after.structured = before.structured → after.pattern = before.pattern → unchanged)

variable {c : Counters}

theorem Counted.refl {p : Prop} (hp : p) : Counted c c p :=
  fun q hq => ⟨q, hq, le_rfl, le_rfl, le_rfl, fun _ _ _ => hp⟩

theorem Counted.trans {a b c : Counters} {p p' : Prop} (h : Counted a b p) (h' : Counted b c p') :
    Counted a c (p ∧ p') := by
  intro q hq
  obtain ⟨q', hq', hle, hs, hp, hsame⟩ := h q hq
  obtain ⟨q'', hq'', hle', hs', hp', hsame'⟩ := h' q' hq'
  refine ⟨q'', hq'', hle.trans hle', hs.trans hs', hp.trans hp', fun heq hs0 hp0 => ?_⟩
  have hmid : q' = q := le_antisymm (heq ▸ hle') hle
  exact ⟨hsame hmid (by omega) (by omega), hsame' (heq.trans hmid.symm) (by omega) (by omega)⟩

theorem Counted.imp {a b : Counters} {p p' : Prop} (h : Counted a b p) (himp : p → p') :
    Counted a b p' := by
  intro q hq
  obtain ⟨q', hq', hle, hs, hp, hsame⟩ := h q hq
  exact ⟨q', hq', hle, hs, hp, fun h1 h2 h3 => himp (hsame h1 h2 h3)⟩

theorem counted_residual {residual : Number} {redacted count : Obj}
    (hconsistent : Consistent value redacted count) (hadd : c.residual.add count = .ok residual) :
    Counted c { c with residual := residual } (redacted = .str value) := by
  obtain ⟨text, n, rfl, rfl, hn, hzero⟩ := hconsistent
  intro q hq
  rw [hq] at hadd
  cases hadd
  have hq0 : (0 : ℚ) ≤ (n : ℚ) := by exact_mod_cast hn
  refine ⟨q + n, rfl, by linarith, le_rfl, le_rfl, fun heq _ _ => ?_⟩
  have hn0 : (n : ℚ) = 0 := by linarith
  rw [hzero.mp (by exact_mod_cast hn0)]

/-! ## The first pass -/

variable {position : Position}

theorem redactLeaf_eq_ok {detector : Option Detector} {c' : Counters} {out : Obj}
    (hanswers : ∀ d ∈ detector, ∀ redacted count,
      d .first position (applyTextPatterns policy value).1 = .returned redacted count →
      Consistent (applyTextPatterns policy value).1 redacted count)
    (h : redactLeaf policy detector position value c = .ok (out, c')) :
    (∃ text, out = .str text ∧ FirstLeaf policy detector position value text) ∧
      Counted c c' (out = .str value) := by
  have hpattern : Counted c
      { c with pattern := c.pattern + (applyTextPatterns policy value).2 }
      ((applyTextPatterns policy value).1 = value) := fun q hq =>
    ⟨q, hq, le_rfl, le_rfl, Nat.le_add_right _ _, fun _ _ hp =>
      (applyTextPatterns_unchanged (by dsimp only at hp; omega)).1⟩
  unfold redactLeaf at h
  cases detector with
  | none =>
    cases h
    exact ⟨⟨_, rfl, rfl⟩, hpattern.imp fun heq => congrArg Obj.str heq⟩
  | some d =>
    dsimp only at h
    split at h
    · cases h
    · rename_i redacted count hreply
      obtain ⟨residual, hresidual, h⟩ := bind_eq_ok.mp h
      cases h
      have hconsistent := hanswers d rfl out count hreply
      obtain ⟨text, n, rfl, hcount, _, _⟩ := id hconsistent
      refine ⟨⟨text, rfl, count, hreply, hconsistent⟩, ?_⟩
      refine (hpattern.trans (counted_residual hconsistent hresidual)).imp fun hboth => ?_
      rw [hboth.2, hboth.1]

variable {path : List String}

variable {result : List (Key × Obj) × Counters}

theorem redactEntries_cons_eq_ok {detector : Option Detector} {index : Nat} {rawKey : Key}
    {nested : Obj} {rest : List (Key × Obj)}
    (h : redactEntries lower policy detector true true path position index
      ((rawKey, nested) :: rest) c = .ok result) :
    ∃ text head tail, rawKey = .text text ∧ Unmatched policy text ∧
      (if isValidGeneratedField policy (path ++ [normalizeKey lower text]) nested then
          (.ok (nested, { c with skippedGenerated := c.skippedGenerated + 1 }) :
            Except RedactionError (Obj × Counters))
        else if isSensitiveKey policy (normalizeKey lower text) then
          .ok (.str policy.replacement, { c with structured := c.structured + 1 })
        else
          redactStructure lower policy detector true true (path ++ [normalizeKey lower text])
            (position ++ [index]) nested c) = .ok head ∧
      redactEntries lower policy detector true true path position (index + 1) rest head.2 =
        .ok tail ∧ result = ((.text text, head.1) :: tail.1, tail.2) := by
  unfold redactEntries at h
  obtain ⟨text, htext, h⟩ := bind_eq_ok.mp h
  obtain ⟨_, hkey, h⟩ := bind_eq_ok.mp h
  obtain ⟨head, hhead, h⟩ := bind_eq_ok.mp h
  obtain ⟨tail, htail, h⟩ := bind_eq_ok.mp h
  rw [Bool.true_or, Bool.true_or] at hhead
  exact ⟨text, head, tail, keyText_eq_ok htext, unmatched_of_validated hkey, hhead, htail,
    (pure_eq_ok_iff.mp h).symm⟩

mutual

theorem redactStructure_follows {detector : Option Detector} (exempt : Bool) (path : List String)
    (position : Position) : ∀ (value : Obj) {c : Counters} {result : Obj × Counters},
    (∀ d ∈ detector, Answers lower policy d path position value) →
    redactStructure lower policy detector true true path position value c = .ok result →
    Follows lower policy (fun _ => FirstLeaf policy detector) exempt path position value result.1 ∧
      Counted c result.2 (result.1 = value)
  | .dict entries, c, result, hanswers, h => by
    unfold redactStructure at h
    obtain ⟨r, hr, h⟩ := bind_eq_ok.mp h
    cases h
    obtain ⟨hfollows, hcounted⟩ := redactEntries_follows exempt path position 0 entries
      (fun d hd => by have := hanswers d hd; unfold Answers at this; exact this) hr
    unfold Follows
    exact ⟨⟨_, rfl, hfollows⟩, hcounted.imp fun h => congrArg Obj.dict h⟩
  | .list items, c, result, hanswers, h | .tuple items, c, result, hanswers, h => by
    unfold redactStructure at h
    obtain ⟨r, hr, h⟩ := bind_eq_ok.mp h
    cases h
    obtain ⟨hfollows, hcounted⟩ := redactItems_follows exempt path position 0 items
      (fun d hd => by have := hanswers d hd; unfold Answers at this; exact this) hr
    unfold Follows
    exact ⟨⟨_, rfl, hfollows⟩, hcounted.imp fun h => congrArg _ h⟩
  | .str value, c, result, hanswers, h => by
    unfold redactStructure at h
    rw [if_pos rfl] at h
    unfold Follows
    exact redactLeaf_eq_ok (fun d hd => by
      have := hanswers d hd; unfold Answers at this; exact this) h
  | .none, c, result, _, h | .bool b, c, result, _, h | .int n, c, result, _, h
  | .float x, c, result, _, h | .nonFinite, c, result, _, h => by
    unfold redactStructure at h
    cases h
    unfold Follows
    exact ⟨rfl, Counted.refl rfl⟩
  | .other id, c, result, _, h => by
    unfold redactStructure at h
    cases h

theorem redactItems_follows {detector : Option Detector} (exempt : Bool) (path : List String)
    (position : Position) (index : Nat) : ∀ (items : List Obj) {c : Counters}
    {result : List Obj × Counters},
    (∀ d ∈ detector, AnswersItems lower policy d path position index items) →
    redactItems lower policy detector true true path position index items c = .ok result →
    FollowsItems lower policy (fun _ => FirstLeaf policy detector) exempt path position index
        items result.1 ∧ Counted c result.2 (result.1 = items)
  | [], c, result, _, h => by
    unfold redactItems at h
    cases h
    unfold FollowsItems
    exact ⟨rfl, Counted.refl rfl⟩
  | nested :: rest, c, result, hanswers, h => by
    unfold redactItems at h
    obtain ⟨head, hhead, h⟩ := bind_eq_ok.mp h
    obtain ⟨tail, htail, h⟩ := bind_eq_ok.mp h
    cases h
    have hsplit (d : Detector) (hd : d ∈ detector) :
        Answers lower policy d path (position ++ [index]) nested ∧
          AnswersItems lower policy d path position (index + 1) rest := by
      have := hanswers d hd
      unfold AnswersItems at this
      exact this
    obtain ⟨hone, hcountedOne⟩ := redactStructure_follows exempt path (position ++ [index]) nested
      (fun d hd => (hsplit d hd).1) hhead
    obtain ⟨hrest, hcountedRest⟩ := redactItems_follows exempt path position (index + 1) rest
      (fun d hd => (hsplit d hd).2) htail
    unfold FollowsItems
    exact ⟨⟨_, _, rfl, hone, hrest⟩, (hcountedOne.trans hcountedRest).imp fun h => by
      rw [h.1, h.2]⟩

theorem redactEntries_follows {detector : Option Detector} (exempt : Bool) (path : List String)
    (position : Position) (index : Nat) : ∀ (entries : List (Key × Obj)) {c : Counters}
    {result : List (Key × Obj) × Counters},
    (∀ d ∈ detector, AnswersEntries lower policy d path position index entries) →
    redactEntries lower policy detector true true path position index entries c = .ok result →
    FollowsEntries lower policy (fun _ => FirstLeaf policy detector) exempt path position index
        entries result.1 ∧ Counted c result.2 (result.1 = entries)
  | [], c, result, _, h => by
    unfold redactEntries at h
    cases h
    unfold FollowsEntries
    exact ⟨rfl, Counted.refl rfl⟩
  | (rawKey, nested) :: rest, c, result, hanswers, h => by
    obtain ⟨text, head, tail, rfl, hunmatched, hhead, htail, rfl⟩ := redactEntries_cons_eq_ok h
    have hsplit (d : Detector) (hd : d ∈ detector) := by
      have := hanswers d hd
      unfold AnswersEntries at this
      exact this
    obtain ⟨hrest, hcountedRest⟩ := redactEntries_follows exempt path position (index + 1) rest
      (fun d hd => (hsplit d hd).2) htail
    unfold FollowsEntries
    by_cases hvalid : isValidGeneratedField policy (path ++ [normalizeKey lower text]) nested = true
    · rw [if_pos hvalid] at hhead
      cases hhead
      refine ⟨⟨text, _, _, rfl, rfl, hunmatched, ?_, hrest⟩, hcountedRest.imp fun h => by rw [h]⟩
      rw [if_pos hvalid]
    · rw [if_neg hvalid] at hhead
      by_cases hsensitive : isSensitiveKey policy (normalizeKey lower text) = true
      · rw [if_pos hsensitive] at hhead
        cases hhead
        refine ⟨⟨text, _, _, rfl, rfl, hunmatched, ?_, hrest⟩, ?_⟩
        · rw [if_neg hvalid, if_pos hsensitive]
        · -- a replacement is counted, so it never stands still
          intro q hq
          obtain ⟨q', hq', hle, hs, hp, _⟩ := hcountedRest q hq
          have hmore : c.structured + 1 ≤ tail.2.structured := hs
          exact ⟨q', hq', hle, (Nat.le_succ _).trans hmore, hp, fun _ hs' _ =>
            absurd hs' (by dsimp only; omega)⟩
      · rw [if_neg hsensitive] at hhead
        obtain ⟨hone, hcountedOne⟩ := redactStructure_follows
          (exempt || isValidGeneratedField policy (path ++ [normalizeKey lower text]) head.1)
          (path ++ [normalizeKey lower text]) (position ++ [index]) nested (fun d hd => by
            have := (hsplit d hd).1 text rfl
            rwa [if_neg hvalid, if_neg hsensitive] at this) hhead
        refine ⟨⟨text, _, _, rfl, rfl, hunmatched, ?_, hrest⟩,
          (hcountedOne.trans hcountedRest).imp fun h => by rw [h.1, h.2]⟩
        rw [if_neg hvalid, if_neg hsensitive]
        exact hone

end

/-! ## The second pass -/

mutual

theorem Follows.exempted {detector : Option Detector} {exempt : Bool} {path : List String}
    {position : Position} : ∀ {value out : Obj},
    Follows lower policy (fun _ => FirstLeaf policy detector) exempt path position value out →
    Follows lower policy (ResultLeaf policy detector) true path position value out
  | .dict entries, out, h => by
    unfold Follows at h ⊢
    obtain ⟨outs, rfl, h⟩ := h
    exact ⟨outs, rfl, FollowsEntries.exempted h⟩
  | .list items, out, h | .tuple items, out, h => by
    unfold Follows at h ⊢
    obtain ⟨outs, rfl, h⟩ := h
    exact ⟨outs, rfl, FollowsItems.exempted h⟩
  | .str value, out, h => by
    unfold Follows at h ⊢
    obtain ⟨text, rfl, h⟩ := h
    exact ⟨text, rfl, .inl ⟨rfl, h⟩⟩
  | .none, out, h | .bool b, out, h | .int n, out, h | .float x, out, h
  | .nonFinite, out, h => by unfold Follows at h ⊢; exact h
  | .other id, out, h => by unfold Follows at h; exact h.elim

theorem FollowsItems.exempted {detector : Option Detector} {exempt : Bool} {path : List String}
    {position : Position} : ∀ {index : Nat} {items outs : List Obj},
    FollowsItems lower policy (fun _ => FirstLeaf policy detector) exempt path position index
      items outs →
    FollowsItems lower policy (ResultLeaf policy detector) true path position index items outs
  | _, [], outs, h => by unfold FollowsItems at h ⊢; exact h
  | _, nested :: rest, outs, h => by
    unfold FollowsItems at h ⊢
    obtain ⟨head, tail, rfl, hone, hrest⟩ := h
    exact ⟨head, tail, rfl, Follows.exempted hone, FollowsItems.exempted hrest⟩

theorem FollowsEntries.exempted {detector : Option Detector} {exempt : Bool} {path : List String}
    {position : Position} : ∀ {index : Nat} {entries outs : List (Key × Obj)},
    FollowsEntries lower policy (fun _ => FirstLeaf policy detector) exempt path position index
      entries outs →
    FollowsEntries lower policy (ResultLeaf policy detector) true path position index entries outs
  | _, [], outs, h => by unfold FollowsEntries at h ⊢; exact h
  | _, (rawKey, nested) :: rest, outs, h => by
    unfold FollowsEntries at h ⊢
    obtain ⟨text, head, tail, hkey, hout, hunmatched, hone, hrest⟩ := h
    refine ⟨text, head, tail, hkey, hout, hunmatched, ?_, FollowsEntries.exempted hrest⟩
    split
    · rename_i hvalid
      rwa [if_pos hvalid] at hone
    · rename_i hvalid
      rw [if_neg hvalid] at hone
      split
      · rename_i hsensitive
        rwa [if_pos hsensitive] at hone
      · rename_i hsensitive
        rw [if_neg hsensitive] at hone
        exact Follows.exempted hone

end

variable {detector : Detector}

theorem redactWithDetector_eq_ok {result : String × Nat}
    (h : redactWithDetector detector position value = .ok result) :
    detector .final position value = .returned (.str result.1) (.int result.2) ∧
      Consistent value (.str result.1) (.int result.2) := by
  unfold redactWithDetector at h
  split at h
  · cases h
  · rename_i text n hreply
    split at h
    · cases h
    · rename_i hconsistent
      cases h
      push Not at hconsistent
      obtain ⟨hn, hzero, hpos⟩ := hconsistent
      rw [Int.toNat_of_nonneg hn]
      refine ⟨hreply, text, n, rfl, rfl, hn, hzero, fun heq => ?_⟩
      by_contra hne
      exact hpos (by omega) heq
  · cases h

theorem scanLeaf_eq_ok {result : Obj × Counters}
    (h : scanResidualOutbound lower policy detector path position (.str value) c = .ok result) :
    ∃ text count, result.1 = .str text ∧
      detector .final position value = .returned (.str text) count ∧
      Consistent value (.str text) count ∧ Counted c result.2 (result.1 = .str value) := by
  unfold scanResidualOutbound at h
  obtain ⟨reply, hreply, h⟩ := bind_eq_ok.mp h
  obtain ⟨residual, hresidual, h⟩ := bind_eq_ok.mp h
  cases h
  obtain ⟨hreturned, hconsistent⟩ := redactWithDetector_eq_ok hreply
  exact ⟨_, _, rfl, hreturned, hconsistent, counted_residual hconsistent hresidual⟩

theorem scanEntries_cons_eq_ok {index : Nat} {text : String} {nested : Obj}
    {rest : List (Key × Obj)}
    (h : scanEntries lower policy detector path position index ((.text text, nested) :: rest) c =
      .ok result) :
    ∃ head tail,
      (if isValidGeneratedField policy (path ++ [normalizeKey lower text]) nested then
          (.ok (nested, c) : Except RedactionError (Obj × Counters))
        else
          scanResidualOutbound lower policy detector (path ++ [normalizeKey lower text])
            (position ++ [index]) nested c) = .ok head ∧
      scanEntries lower policy detector path position (index + 1) rest head.2 = .ok tail ∧
      result = ((.text text, head.1) :: tail.1, tail.2) := by
  unfold scanEntries at h
  obtain ⟨text', htext, h⟩ := bind_eq_ok.mp h
  cases htext
  obtain ⟨_, _, h⟩ := bind_eq_ok.mp h
  obtain ⟨head, hhead, h⟩ := bind_eq_ok.mp h
  obtain ⟨tail, htail, h⟩ := bind_eq_ok.mp h
  exact ⟨head, tail, hhead, htail, (pure_eq_ok_iff.mp h).symm⟩

mutual

theorem scanResidualOutbound_follows {detector : Detector} {exempt : Bool} (exempt' : Bool)
    (path : List String) (position : Position) : ∀ (value : Obj) {mid : Obj} {c : Counters}
    {result : Obj × Counters}, Answers lower policy detector path position value →
    Follows lower policy (fun _ => FirstLeaf policy (some detector)) exempt path position value
      mid →
    scanResidualOutbound lower policy detector path position mid c = .ok result →
    Follows lower policy (ResultLeaf policy (some detector)) exempt' path position value
        result.1 ∧ Counted c result.2 (result.1 = mid)
  | .dict entries, mid, c, result, hanswers, hmid, h => by
    unfold Follows at hmid
    obtain ⟨mids, rfl, hmid⟩ := hmid
    unfold scanResidualOutbound at h
    obtain ⟨r, hr, h⟩ := bind_eq_ok.mp h
    cases h
    unfold Answers at hanswers
    obtain ⟨hfollows, hcounted⟩ := scanEntries_follows exempt' path position 0 entries hanswers
      hmid hr
    unfold Follows
    exact ⟨⟨_, rfl, hfollows⟩, hcounted.imp fun h => congrArg Obj.dict h⟩
  | .list items, mid, c, result, hanswers, hmid, h
  | .tuple items, mid, c, result, hanswers, hmid, h => by
    unfold Follows at hmid
    obtain ⟨mids, rfl, hmid⟩ := hmid
    unfold scanResidualOutbound at h
    obtain ⟨r, hr, h⟩ := bind_eq_ok.mp h
    cases h
    unfold Answers at hanswers
    obtain ⟨hfollows, hcounted⟩ := scanItems_follows exempt' path position 0 items hanswers
      hmid hr
    unfold Follows
    exact ⟨⟨_, rfl, hfollows⟩, hcounted.imp fun h => congrArg _ h⟩
  | .str value, mid, c, result, _, hmid, h => by
    unfold Follows at hmid
    obtain ⟨scanned, rfl, hfirst⟩ := hmid
    obtain ⟨text, count, hout, hreply, hconsistent, hcounted⟩ := scanLeaf_eq_ok h
    unfold Follows
    exact ⟨⟨text, hout, .inr ⟨scanned, count, hfirst, hreply, hconsistent⟩⟩, hcounted⟩
  | .none, mid, c, result, _, hmid, h | .bool b, mid, c, result, _, hmid, h
  | .int n, mid, c, result, _, hmid, h | .float x, mid, c, result, _, hmid, h
  | .nonFinite, mid, c, result, _, hmid, h => by
    unfold Follows at hmid ⊢
    subst hmid
    unfold scanResidualOutbound at h
    cases h
    exact ⟨rfl, Counted.refl rfl⟩
  | .other id, mid, c, result, _, hmid, _ => by
    unfold Follows at hmid
    exact hmid.elim

theorem scanItems_follows {detector : Detector} {exempt : Bool} (exempt' : Bool)
    (path : List String) (position : Position) (index : Nat) : ∀ (items : List Obj)
    {mids : List Obj} {c : Counters} {result : List Obj × Counters},
    AnswersItems lower policy detector path position index items →
    FollowsItems lower policy (fun _ => FirstLeaf policy (some detector)) exempt path position
      index items mids →
    scanItems lower policy detector path position index mids c = .ok result →
    FollowsItems lower policy (ResultLeaf policy (some detector)) exempt' path position index
        items result.1 ∧ Counted c result.2 (result.1 = mids)
  | [], mids, c, result, _, hmid, h => by
    unfold FollowsItems at hmid ⊢
    subst hmid
    unfold scanItems at h
    cases h
    exact ⟨rfl, Counted.refl rfl⟩
  | nested :: rest, mids, c, result, hanswers, hmid, h => by
    unfold FollowsItems at hmid
    obtain ⟨mid, others, rfl, hone, hothers⟩ := hmid
    unfold scanItems at h
    obtain ⟨head, hhead, h⟩ := bind_eq_ok.mp h
    obtain ⟨tail, htail, h⟩ := bind_eq_ok.mp h
    cases h
    unfold AnswersItems at hanswers
    obtain ⟨hfirst, hcountedFirst⟩ := scanResidualOutbound_follows exempt' path
      (position ++ [index]) nested hanswers.1 hone hhead
    obtain ⟨hrest, hcountedRest⟩ := scanItems_follows exempt' path position (index + 1) rest
      hanswers.2 hothers htail
    unfold FollowsItems
    exact ⟨⟨_, _, rfl, hfirst, hrest⟩, (hcountedFirst.trans hcountedRest).imp fun h => by
      rw [h.1, h.2]⟩

theorem scanEntries_follows {detector : Detector} {exempt : Bool} (exempt' : Bool)
    (path : List String) (position : Position) (index : Nat) : ∀ (entries : List (Key × Obj))
    {mids : List (Key × Obj)} {c : Counters} {result : List (Key × Obj) × Counters},
    AnswersEntries lower policy detector path position index entries →
    FollowsEntries lower policy (fun _ => FirstLeaf policy (some detector)) exempt path position
      index entries mids →
    scanEntries lower policy detector path position index mids c = .ok result →
    FollowsEntries lower policy (ResultLeaf policy (some detector)) exempt' path position index
        entries result.1 ∧ Counted c result.2 (result.1 = mids)
  | [], mids, c, result, _, hmid, h => by
    unfold FollowsEntries at hmid ⊢
    subst hmid
    unfold scanEntries at h
    cases h
    exact ⟨rfl, Counted.refl rfl⟩
  | (rawKey, nested) :: rest, mids, c, result, hanswers, hmid, h => by
    unfold FollowsEntries at hmid
    obtain ⟨text, mid, others, rfl, rfl, hunmatched, hone, hothers⟩ := hmid
    obtain ⟨head, tail, hhead, htail, rfl⟩ := scanEntries_cons_eq_ok h
    unfold AnswersEntries at hanswers
    obtain ⟨hrest, hcountedRest⟩ := scanEntries_follows exempt' path position (index + 1) rest
      hanswers.2 hothers htail
    have hanswer := hanswers.1 text rfl
    suffices hkey : (if isValidGeneratedField policy (path ++ [normalizeKey lower text]) nested
        then head.1 = nested
        else if isSensitiveKey policy (normalizeKey lower text) then
          head.1 = .str policy.replacement
        else Follows lower policy (ResultLeaf policy (some detector))
          (exempt' || isValidGeneratedField policy (path ++ [normalizeKey lower text]) head.1)
          (path ++ [normalizeKey lower text]) (position ++ [index]) nested head.1) ∧
        Counted c head.2 (head.1 = mid) by
      unfold FollowsEntries
      exact ⟨⟨text, _, _, rfl, rfl, hunmatched, hkey.1, hrest⟩,
        (hkey.2.trans hcountedRest).imp fun h => by rw [h.1, h.2]⟩
    by_cases hvalid : isValidGeneratedField policy (path ++ [normalizeKey lower text]) nested = true
    · -- a valid digest passes both passes untouched
      rw [if_pos hvalid] at hone
      subst hone
      rw [if_pos hvalid] at hhead
      cases hhead
      exact ⟨by rw [if_pos hvalid], Counted.refl rfl⟩
    · rw [if_neg hvalid] at hone hanswer
      rw [if_neg hvalid]
      by_cases hsensitive : isSensitiveKey policy (normalizeKey lower text) = true
      · rw [if_pos hsensitive] at hone hanswer
        rw [if_pos hsensitive]
        subst hone
        by_cases hkept : isValidGeneratedField policy (path ++ [normalizeKey lower text])
            (.str policy.replacement) = true
        · rw [if_pos hkept] at hhead
          cases hhead
          exact ⟨rfl, Counted.refl rfl⟩
        · rw [if_neg hkept] at hhead
          obtain ⟨out, count, hout, hreply, hconsistent, hcounted⟩ := scanLeaf_eq_ok hhead
          have hsame := hanswer.resolve_left hkept _ _ hreply hconsistent
          exact ⟨hout.trans hsame, hcounted⟩
      · rw [if_neg hsensitive] at hone hanswer
        rw [if_neg hsensitive]
        by_cases hdigest : isValidGeneratedField policy (path ++ [normalizeKey lower text]) mid =
            true
        · rw [if_pos hdigest] at hhead
          cases hhead
          rw [hdigest, Bool.or_true]
          exact ⟨hone.exempted, Counted.refl rfl⟩
        · rw [if_neg hdigest] at hhead
          exact scanResidualOutbound_follows _ _ _ nested hanswer hone hhead

end

end LocalMoe.Secrets
