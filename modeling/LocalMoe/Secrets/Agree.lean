/-
  What the JSON pattern takes for secret the structure redacts too.
-/
import LocalMoe.Secrets.Keys

namespace LocalMoe.Secrets

open Foundation Foundation.Regex
open Contracts (isSpace isAlnum dumpString escapeChar hexDigit)

/-! ## Where the pattern matches -/

/-- A quote behind a character of a key is the last but one. -/
def Closed : Char → List Char → Prop
  | _, [] => True
  | previous, c :: rest =>
    (c = '"' → isFoldedKeyChar previous = true → rest = ['}']) ∧ Closed c rest

theorem closed_append {block rest : List Char} (hblock : ∀ c ∈ block, c ≠ '"')
    (hrest : ∀ previous, Closed previous rest) (previous : Char) :
    Closed previous (block ++ rest) := by
  induction block generalizing previous with
  | nil => exact hrest previous
  | cons c block ih =>
    obtain ⟨hc, hblock⟩ := List.forall_mem_cons.mp hblock
    exact ⟨fun h => absurd h hc, ih hblock c⟩

variable {c : Char}

theorem closed_split {before behind : List Char} {previous : Char}
    (h : Closed previous (before ++ c :: '"' :: behind)) (hc : isFoldedKeyChar c = true) :
    behind = ['}'] := by
  induction before generalizing previous with
  | nil => exact h.2.1 rfl hc
  | cons d before ih => exact ih h.2

theorem hexDigit_ne (n : Nat) : hexDigit (n % 16) ≠ '"' := by
  have hall : ∀ m < 16, hexDigit m ≠ '"' := by decide
  exact hall (n % 16) (Nat.mod_lt n (by decide))

theorem escapeChar_ne {d : Char} (hc : c ≠ '"') (hd : d ∈ escapeChar c) : d ≠ '"' := by
  have hunicode (n : Nat) : ∀ e ∈ Contracts.unicodeEscape n, e ≠ '"' := by
    intro e he
    unfold Contracts.unicodeEscape Contracts.hex4 at he
    simp only [List.mem_cons, List.not_mem_nil, or_false] at he
    rcases he with rfl | rfl | rfl | rfl | rfl | rfl
    · decide
    · decide
    all_goals exact hexDigit_ne _
  have hpair {e : Char} (he : e ≠ '"') : ∀ d ∈ ['\\', e], d ≠ '"' := by
    intro d hd
    rcases List.mem_pair.mp hd with rfl | rfl
    · decide
    · exact he
  suffices hall : ∀ e ∈ escapeChar c, e ≠ '"' from hall d hd
  unfold escapeChar
  dsimp only
  rw [if_neg hc]
  iterate 6 refine Contracts.forall_mem_ite (fun _ => hpair (by decide)) ?_
  refine Contracts.forall_mem_ite (fun _ d hd => ?_)
    (Contracts.forall_mem_ite (fun _ => hunicode _) fun d hd => ?_)
  · rw [List.mem_singleton.mp hd]
    exact hc
  · exact (List.mem_append.mp hd).elim (hunicode _ d) (hunicode _ d)

theorem closed_escaped (value : List Char) (previous : Char) :
    Closed previous (value.flatMap escapeChar ++ ['"', '}']) := by
  induction value generalizing previous with
  | nil => exact ⟨fun _ _ => rfl, nofun, trivial⟩
  | cons c value ih =>
    rw [List.flatMap_cons, List.append_assoc]
    by_cases hc : c = '"'
    · rw [hc]
      refine ⟨nofun, fun _ hslash => ?_, ih '"'⟩
      exact absurd hslash (by decide)
    · exact closed_append (fun d hd => escapeChar_ne hc hd) ih previous

theorem escapeChar_key (h : isKeyChar c = true) : escapeChar c = [c] := by
  have hall := of_ascii (p := fun c => !isKeyChar c || escapeChar c == [c]) (by decide)
    (isKeyChar_lt h)
  simpa [h] using hall

theorem isKeyChar_ne (h : isKeyChar c = true) : c ≠ '"' := by
  rintro rfl
  exact absurd h (by decide)

theorem colon_ne_key {init x y : List Char} {last : Char}
    (hkey : ∀ c ∈ init ++ [last], isFoldedKeyChar c = true) : ':' :: x ≠ init ++ last :: y := by
  intro h
  have hcolon : isFoldedKeyChar ':' = true := by
    cases init with
    | nil =>
      rw [(List.cons.inj h).1]
      exact hkey last List.mem_cons_self
    | cons d init =>
      rw [(List.cons.inj h).1]
      exact hkey d List.mem_cons_self
  exact absurd hcolon (by decide)

theorem quoted_key {key value : String} (hkey : ∀ c ∈ key.toList, isKeyChar c = true)
    {before quoted gap rest : List Char}
    (h : (jsonText key value).toList = before ++ '"' :: (quoted ++ '"' :: (gap ++ ':' :: rest)))
    (hquoted : ∀ c ∈ quoted, isFoldedKeyChar c = true) (hne : quoted ≠ []) :
    quoted = key.toList := by
  have hescaped : key.toList.flatMap escapeChar = key.toList := by
    rw [List.flatMap_congr fun c hc => escapeChar_key (hkey c hc)]
    exact List.flatMap_singleton' key.toList
  have hquote : ∀ {m : List Char}, (∀ c ∈ m, c ≠ '"') → ∀ {n x y : List Char},
      (∀ c ∈ n, c ≠ '"') → m ++ '"' :: x = n ++ '"' :: y → m = n ∧ x = y := by
    intro m hm
    induction m with
    | nil =>
      intro n x y hn heq
      cases n with
      | nil => exact ⟨rfl, (List.cons.inj heq).2⟩
      | cons d n => exact absurd (List.cons.inj heq).1.symm (hn d List.mem_cons_self)
    | cons c m ih =>
      intro n x y hn heq
      cases n with
      | nil => exact absurd (List.cons.inj heq).1 (hm c List.mem_cons_self)
      | cons d n =>
        obtain ⟨hcd, heq⟩ := List.cons.inj heq
        obtain ⟨hmn, hxy⟩ := ih (List.forall_mem_cons.mp hm).2 (List.forall_mem_cons.mp hn).2 heq
        exact ⟨by rw [hcd, hmn], hxy⟩
  have hfolded : ∀ c ∈ quoted, c ≠ '"' := by
    rintro c hc rfl
    exact absurd (hquoted _ hc) (by decide)
  have hplain : ∀ c ∈ key.toList, c ≠ '"' := fun c hc => isKeyChar_ne (hkey c hc)
  unfold jsonText dumpString at h
  rw [String.toList_ofList, hescaped] at h
  simp only [List.cons_append, List.append_assoc, List.nil_append] at h
  rcases before with _ | ⟨b, before⟩
  · exact absurd (List.cons.inj h).1 (by decide)
  · obtain ⟨_, h⟩ := List.cons.inj h
    rcases before with _ | ⟨b', before⟩
    · exact ((hquote hplain hfolded (List.cons.inj h).2).1).symm
    · -- behind the key no quote follows a character of a key, but for the last
      exfalso
      obtain ⟨_, h⟩ := List.cons.inj h
      obtain ⟨init, last, rfl⟩ := (List.eq_nil_or_concat' quoted).resolve_left hne
      have hlast : isFoldedKeyChar last = true :=
        hquoted last (List.mem_append_right _ (List.mem_singleton_self last))
      have htail (previous : Char) : Closed previous
          (':' :: ' ' :: '"' :: (value.toList.flatMap escapeChar ++ ['"', '}'])) := by
        refine ⟨nofun, nofun, fun _ hspace => ?_, closed_escaped _ _⟩
        exact absurd hspace (by decide)
      rcases List.append_eq_append_iff.mp h with ⟨mid, hbefore, hmid⟩ | ⟨mid, hkeyEq, hmid⟩
      · cases mid with
        | nil =>
          obtain ⟨_, hmid⟩ := List.cons.inj hmid
          rw [List.append_assoc] at hmid
          exact colon_ne_key hquoted hmid
        | cons d mid =>
          obtain ⟨_, hmid⟩ := List.cons.inj hmid
          have hclosed := htail '"'
          rw [show ':' :: ' ' :: '"' :: (value.toList.flatMap escapeChar ++ ['"', '}']) =
            (mid ++ '"' :: init) ++ last :: '"' :: (gap ++ ':' :: rest) by
              simpa [List.append_assoc] using hmid] at hclosed
          have hend := closed_split hclosed hlast
          have hmem : ':' ∈ ['}'] := hend ▸ List.mem_append_right gap List.mem_cons_self
          exact absurd hmem (by decide)
      · cases mid with
        | nil =>
          obtain ⟨_, hmid⟩ := List.cons.inj hmid
          rw [List.append_assoc] at hmid
          exact colon_ne_key hquoted hmid.symm
        | cons d mid =>
          obtain ⟨hd, _⟩ := List.cons.inj hmid
          refine hplain d ?_ hd.symm
          rw [hkeyEq]
          exact List.mem_append_right _ List.mem_cons_self

/-! ## The words of the pattern -/

/-- The suffixes of `_is_sensitive_key`. -/
def sensitiveSuffixes : List String :=
  ["_api_key", "_access_token", "_auth_token", "_client_secret", "_credential", "_credentials",
    "_password", "_private_key", "_secret", "_secret_access_key", "_token"]

/-- Words run together, which the structure has no list of. -/
def runTogether : List String :=
  ["apikey", "accesstoken", "refreshtoken", "authtoken", "clientsecret", "privatekey",
    "secretaccesskey", "secret_accesskey", "secretaccess_key"]

theorem sensitiveWords_spec : ∀ word ∈ sensitiveWords, Normal word ∧
    (∀ suffix ∈ ["_token_budget", "_token_count", "_tokens", "token_budget"] ++
      defaultGeneratedMetadataFields, ¬ suffix.toList <:+ word ∧ ¬ word <:+ suffix.toList) ∧
    (word <:+ "max_token".toList ∨ word <:+ "min_token".toList → word = "token".toList) ∧
    (defaultSensitiveKeys.contains (String.ofList word) = true ∨
      runTogether.contains (String.ofList word) = true) ∧
    ∃ suffix ∈ sensitiveSuffixes ++ (runTogether.map ("_" ++ ·) ++
      ["_authorization", "_passwd", "_pwd"]), suffix.toList <:+ '_' :: word := by
  decide +kernel

/-! ## What the pattern recognises -/

theorem words_plain : (("token" :: "s" :: "budget" :: "count" :: countHeads ++
    sensitiveKeyParts.flatten).all fun word => word.toList.all isPlain) = true := by
  decide +kernel

theorem word_plain {word : String}
    (h : word ∈ "token" :: "s" :: "budget" :: "count" :: countHeads ++ sensitiveKeyParts.flatten) :
    ∀ letter ∈ word.toList, isPlain letter = true :=
  List.all_eq_true.mp (List.all_eq_true.mp words_plain word h)

theorem sensitiveKeyParts_plain : ∀ parts ∈ sensitiveKeyParts, PlainParts parts :=
  fun parts hparts _ hpart =>
    word_plain (List.mem_append_right _ (List.mem_flatten.mpr ⟨parts, hparts, hpart⟩))

theorem countHeads_plain {head : String} (h : head ∈ countHeads) :
    ∀ letter ∈ head.toList, isPlain letter = true :=
  word_plain (List.mem_append_left _ (List.mem_append_right ["token", "s", "budget", "count"] h))

variable {m : List Char}

theorem joined_folded {parts : List String} (hparts : PlainParts parts)
    (h : (joined parts).Spans m) : ∀ c ∈ m, isFoldedKeyChar c = true := by
  have hcaseless {word : String} {m : List Char}
      (hword : ∀ letter ∈ word.toList, isPlain letter = true) (h : (caseless word).Spans m) :
      ∀ c ∈ m, isFoldedKeyChar c = true := by
    have hletters := spans_literal.mp h
    clear h
    generalize word.toList = letters at hword hletters
    induction hletters with
    | nil => exact nofun
    | cons hc _ ih =>
      obtain ⟨hletter, hword⟩ := List.forall_mem_cons.mp hword
      exact List.forall_mem_cons.mpr ⟨isFoldedKeyChar_of_ignoresCase hletter hc, ih hword⟩
  have hseparator {m : List Char} (h : (opt separator).Spans m) :
      ∀ c ∈ m, isFoldedKeyChar c = true := by
    rcases h with ⟨c, rfl, hc⟩ | rfl
    · intro d hd
      rw [List.mem_singleton.mp hd]
      rcases List.mem_pair.mp (List.contains_iff_mem.mp hc) with rfl | rfl <;> decide
    · exact nofun
  induction parts generalizing m with
  | nil =>
    rw [show m = [] from h]
    exact nofun
  | cons part rest ih =>
    obtain ⟨hpart, hrest⟩ := List.forall_mem_cons.mp hparts
    cases rest with
    | nil => exact hcaseless hpart h
    | cons next rest =>
      obtain ⟨x, y, rfl, hx, z, w, rfl, hz, hw⟩ := h
      rw [List.forall_mem_append, List.forall_mem_append]
      exact ⟨hcaseless hpart hx, hseparator hz, ih hrest hw⟩

theorem keyPrefixes_folded (h : keyPrefixes.Spans m) : ∀ c ∈ m, isFoldedKeyChar c = true := by
  obtain ⟨parts, rfl, hparts⟩ := h
  intro c hc
  obtain ⟨x, hx, hc⟩ := List.mem_flatten.mp hc
  obtain ⟨run, sep, rfl, hrun, ⟨d, rfl, hd⟩⟩ := hparts x hx
  rcases List.mem_append.mp hc with hc | hc
  · have hfolded := (spans_plus_chars hrun).2 c hc
    unfold isFoldedKeyChar
    rw [hfolded]
    rfl
  · rw [List.mem_singleton.mp hc]
    rcases List.mem_pair.mp (List.contains_iff_mem.mp hd) with rfl | rfl <;> decide

/-- A key that the pattern finds, with what it looks for ahead of it. -/
structure Recognised (U : Unicode) (key : List Char) : Prop where
  spelling : ∃ front word, key = front ++ word ∧ keyPrefixes.Spans front ∧
    ∃ parts ∈ sensitiveKeyParts, (joined parts).Spans word
  noCount : ∃ behind,
    (Regex.seq tokenCountKey (boundary U)).run ⟨some '"', key ++ '"' :: behind⟩ = []

variable {U : Unicode}

theorem matchesAt_key {s : Cursor} (h : (jsonSecret U '"').matchesAt s ≠ []) :
    ∃ quoted gap rest, s.rest = '"' :: (quoted ++ '"' :: (gap ++ ':' :: rest)) ∧
      Recognised U quoted := by
  obtain ⟨found, hfound⟩ := List.exists_mem_of_ne_nil _ h
  obtain ⟨lead, hlead, _⟩ := List.mem_flatMap.mp hfound
  obtain ⟨opened, hopened, hlead⟩ := mem_run_seq.mp hlead
  obtain ⟨ended, hended, hlead⟩ := mem_run_seq.mp hlead
  obtain ⟨closed, hclosed, hlead⟩ := mem_run_seq.mp hlead
  obtain ⟨spaced, hspaced, hlead⟩ := mem_run_seq.mp hlead
  obtain ⟨assigned, hassigned, _⟩ := mem_run_seq.mp hlead
  obtain ⟨c, hc, hrest, hprevious⟩ := mem_run_chars.mp hopened
  obtain ⟨here, hhere, hkey⟩ := mem_run_seq.mp hended
  obtain ⟨rfl, hcount⟩ := run_notAhead hhere
  obtain ⟨middle, hmiddle, hword⟩ := mem_run_seq.mp hkey
  obtain ⟨front, hfront, hprefixes⟩ := run_spans _ _ _ hmiddle
  obtain ⟨word, hwordRest, hwordSpans⟩ := run_spans _ _ _ hword
  obtain ⟨d, hd, hquote, _⟩ := mem_run_chars.mp hclosed
  obtain ⟨gap, hgap, _⟩ := run_spans _ _ _ hspaced
  obtain ⟨e, he, hcolon, _⟩ := mem_run_chars.mp hassigned
  have hc' : c = '"' := beq_iff_eq.mp hc
  have hd' : d = '"' := beq_iff_eq.mp hd
  have he' : e = ':' := beq_iff_eq.mp he
  have hopenedRest : here.rest = (front ++ word) ++ '"' :: (gap ++ ':' :: assigned.rest) := by
    rw [hfront, hwordRest, hquote, hgap, hcolon, hd', he', List.append_assoc]
  refine ⟨front ++ word, gap, assigned.rest, by rw [hrest, hc', hopenedRest], ?_, ?_⟩
  · obtain ⟨expression, hmem, hspans⟩ := spans_oneOf.mp hwordSpans
    obtain ⟨parts, hparts, rfl⟩ := List.mem_map.mp hmem
    exact ⟨front, word, rfl, hprefixes, parts, hparts, hspans⟩
  · refine ⟨gap ++ ':' :: assigned.rest, ?_⟩
    rw [← hopenedRest, ← hc', ← hprevious]
    exact hcount

theorem changed_recognised {replacement key value : String}
    (hkey : ∀ c ∈ key.toList, isKeyChar c = true)
    (h : ((jsonDoubleQuotedSecret U).subn replacement (jsonText key value)).1 ≠
      jsonText key value) : Recognised U key.toList := by
  have hchanged : ((jsonSecret U '"').subnFrom replacement.toList 0 none
      (jsonText key value).toList).1 ≠ (jsonText key value).toList := by
    intro hsame
    refine h ?_
    change String.ofList ((jsonSecret U '"').subnFrom replacement.toList 0 none
      (jsonText key value).toList).1 = _
    rw [hsame, String.ofList_toList]
  obtain ⟨before, behind, previous, htext, hmatch⟩ := (jsonSecret U '"').exists_match hchanged
  obtain ⟨quoted, gap, rest, hbehind, hrecognised⟩ := matchesAt_key hmatch
  dsimp only at hbehind
  rw [hbehind] at htext
  obtain ⟨front, word, hquoted, hfront, parts, hparts, hword⟩ := hrecognised.spelling
  have hplain := sensitiveKeyParts_plain parts hparts
  have hne : quoted ≠ [] := by
    intro hnil
    have hempty : word = [] := (List.append_eq_nil_iff.mp (hquoted.symm.trans hnil)).2
    rw [hempty] at hword
    have hmem := joined_spelled hplain (m := []) nofun hword
    have hends := (sensitiveWords_spec [] (List.mem_flatMap.mpr ⟨parts, hparts, hmem⟩)).2.1
    exact (hends "_tokens" (by decide)).2 List.nil_suffix
  have heq := quoted_key hkey htext (by
    rw [hquoted, List.forall_mem_append]
    exact ⟨keyPrefixes_folded hfront, joined_folded hplain hword⟩) hne
  rw [← heq]
  exact hrecognised

theorem Recognised.spelled_eq {key : List Char} (h : Recognised U key)
    (hkey : ∀ c ∈ key, isKeyChar c = true) :
    ∃ parts : List (List Char), ∃ word ∈ sensitiveWords, (∀ x ∈ parts, KeyBlock x) ∧
      key.map spelled = parts.flatten ++ word := by
  obtain ⟨front, word, rfl, hfront, names, hnames, hword⟩ := h.spelling
  rw [List.forall_mem_append] at hkey
  obtain ⟨parts, hparts, hblocks⟩ := keyPrefixes_blocks hkey.1 hfront
  refine ⟨parts, word.map spelled, ?_, hblocks, by rw [List.map_append, hparts]⟩
  exact List.mem_flatMap.mpr ⟨names, hnames,
    joined_spelled (sensitiveKeyParts_plain names hnames) hkey.2 hword⟩

/-! ## The counts that are no secrets -/

theorem passed_concat (previous : Option Char) (m : List Char) (c : Char) :
    passed previous (m ++ [c]) = some c := by
  rw [passed_append]
  rfl

theorem tokenCount_found (U : Unicode) {head : String} (hhead : head ∈ countHeads)
    {key : List Char} (hkey : ∀ c ∈ key, isKeyChar c = true)
    (h : key.map spelled = head.toList ++ '_' :: "token".toList) (behind : List Char) :
    (Regex.seq tokenCountKey (boundary U)).run ⟨some '"', key ++ '"' :: behind⟩ ≠ [] := by
  obtain ⟨x, y, rfl, hx, hy⟩ := List.map_eq_append_iff.mp h
  obtain ⟨sep, z, rfl, hsep, hz⟩ := List.map_eq_cons_iff.mp hy
  rw [List.forall_mem_append, List.forall_mem_cons] at hkey
  obtain ⟨hxKey, hsepKey, hzKey⟩ := hkey
  have hseparator : separator.run ⟨passed (some '"') x, sep :: (z ++ '"' :: behind)⟩ =
      [⟨some sep, z ++ '"' :: behind⟩] := by
    have hall := of_ascii (p := fun c => !(isKeyChar c && spelled c == '_') ||
      ['_', '-'].contains c) (by decide) (isKeyChar_lt hsepKey)
    rw [hsepKey, hsep] at hall
    exact if_pos (by simpa using hall)
  have hlettersHead := (forall₂_ignoresCase (countHeads_plain hhead) hxKey).mpr hx
  have htoken : ∀ letter ∈ "token".toList, isPlain letter = true := word_plain List.mem_cons_self
  have hlettersToken := (forall₂_ignoresCase htoken hzKey).mpr hz
  -- the last letter is a word character, and the quote is none
  obtain ⟨init, last, hinit, _, hlast⟩ := List.map_eq_append_iff.mp
    (show z.map spelled = ['t', 'o', 'k', 'e'] ++ ['n'] from hz)
  obtain ⟨n, _, rfl, hn, hnil⟩ := List.map_eq_cons_iff.mp hlast
  rw [List.map_eq_nil_iff.mp hnil] at hinit
  have hnKey : isKeyChar n = true := hzKey n (hinit ▸ List.mem_append_right _
    (List.mem_singleton_self n))
  have hnWord : U.isWord n = true := by
    rw [U.isWord_ascii n (isKeyChar_lt hnKey)]
    have hall := of_ascii (p := fun c => !(isKeyChar c && spelled c == 'n') || isAlnum c)
      (by decide) (isKeyChar_lt hnKey)
    rw [hnKey, hn] at hall
    rw [show isAlnum n = true by simpa using hall]
    rfl
  have hquote : U.isWord '"' = false := U.isWord_ascii '"' (by decide)
  have hboundary : (boundary U).run ⟨passed (some sep) z, '"' :: behind⟩ =
      [⟨passed (some sep) z, '"' :: behind⟩] := by
    refine if_pos ?_
    rw [hinit, passed_concat]
    change (U.isWord n != U.isWord '"') = true
    rw [hnWord, hquote]
    rfl
  refine List.ne_nil_of_mem (a := ⟨passed (some sep) z, '"' :: behind⟩) ?_
  refine mem_run_seq.mpr ⟨⟨passed (some sep) z, '"' :: behind⟩, ?_, ?_⟩
  · rw [List.append_assoc]
    refine mem_run_seq.mpr ⟨⟨passed (some '"') x, sep :: (z ++ '"' :: behind)⟩, ?_, ?_⟩
    · exact mem_run_oneOf.mpr ⟨caseless head, List.mem_map_of_mem hhead,
        mem_run_literal hlettersHead _ _⟩
    · refine mem_run_seq.mpr ⟨⟨some sep, z ++ '"' :: behind⟩, ?_, ?_⟩
      · exact mem_run_opt (hseparator ▸ List.mem_singleton_self _)
      · refine mem_run_seq.mpr ⟨⟨passed (some sep) z, '"' :: behind⟩, ?_, ?_⟩
        · exact mem_run_literal hlettersToken _ _
        · exact mem_run_seq.mpr ⟨_, mem_run_opt_empty _ _, mem_run_opt_empty _ _⟩
  · rw [hboundary]
    exact List.mem_singleton_self _

/-! ## The keys of the structure -/

/-- A key in its normal form that only the pattern takes for secret: its words are run
together, or it has a word behind a prefix that the structure knows by itself only. -/
def isUnlisted (key : String) : Bool :=
  runTogether.contains key || (runTogether.map ("_" ++ ·)).any (endsWith key) ||
    ["_authorization", "_passwd", "_pwd"].any (endsWith key)

theorem isSensitiveKey_default (U : Unicode) (key : String) : isSensitiveKey (defaultPolicy U) key =
      if ["max_token", "min_token", "token_budget"].contains key ||
          endsWith key "_token_budget" || endsWith key "_token_count" || endsWith key "_tokens"
        then false
      else defaultSensitiveKeys.contains key || sensitiveSuffixes.any (endsWith key) := rfl

theorem endsWith_ofList {suffix : String} :
    endsWith (String.ofList m) suffix = true ↔ suffix.toList <:+ m := by
  unfold endsWith
  rw [String.toList_ofList, List.isSuffixOf_iff_suffix]

theorem blocks_end {parts : List (List Char)} (h : ∀ x ∈ parts, KeyBlock x) :
    parts.flatten = [] ∨ ∃ front, parts.flatten = front ++ ['_'] := by
  rcases List.eq_nil_or_concat' parts with rfl | ⟨init, last, rfl⟩
  · exact .inl rfl
  · obtain ⟨run, _, _, rfl⟩ := h last (List.mem_append_right _ (List.mem_singleton_self last))
    refine .inr ⟨init.flatten ++ run, ?_⟩
    rw [List.flatten_append, List.flatten_singleton, List.append_assoc]

theorem Recognised.sensitive {key : String} (h : Recognised U key.toList)
    (hkey : ∀ c ∈ key.toList, isKeyChar c = true)
    (hlisted : isUnlisted (normalizeKey U.lower key) = false) :
    isSensitiveKey (defaultPolicy U) (normalizeKey U.lower key) = true ∧
      isGeneratedField (defaultPolicy U) [normalizeKey U.lower key] = false := by
  obtain ⟨parts, word, hword, hblocks, hspelled⟩ := h.spelled_eq hkey
  obtain ⟨hnormal, hends, hcount, hsingle, suffix, hsuffix, hprefixed⟩ :=
    sensitiveWords_spec word hword
  have hform : normalizeKey U.lower key = String.ofList (parts.flatten ++ word) := by
    rw [normalizeKey_spelled U hkey (hspelled ▸ blocks_normal hblocks hnormal), hspelled]
  rw [hform] at hlisted ⊢
  have hnot : ∀ suffix ∈ ["_token_budget", "_token_count", "_tokens", "token_budget"] ++
      defaultGeneratedMetadataFields, ¬ suffix.toList <:+ parts.flatten ++ word := by
    intro suffix hmem hend
    rcases List.suffix_or_suffix_of_suffix hend (List.suffix_append parts.flatten word) with h | h
    · exact (hends suffix hmem).1 h
    · exact (hends suffix hmem).2 h
  have hne : ∀ suffix ∈ ["_token_budget", "_token_count", "_tokens", "token_budget"] ++
      defaultGeneratedMetadataFields, String.ofList (parts.flatten ++ word) ≠ suffix := by
    intro suffix hmem heq
    refine hnot suffix hmem ?_
    rw [← heq, String.toList_ofList]
  have hheads : ∀ head ∈ ["max", "min"], head ∈ countHeads := by decide
  -- the look-ahead leaves out the two counts that the structure leaves out
  have hnoCount : ∀ head ∈ ["max", "min"],
      String.ofList (parts.flatten ++ word) ≠ head ++ "_token" := by
    intro head hhead heq
    obtain ⟨behind, hnone⟩ := h.noCount
    refine tokenCount_found U (hheads head hhead) hkey ?_ behind hnone
    have hlist := congrArg String.toList heq
    rw [String.toList_ofList, String.toList_append] at hlist
    rw [hspelled, hlist]
    rfl
  constructor
  · rw [isSensitiveKey_default, if_neg]
    · rw [Bool.or_eq_true]
      unfold isUnlisted at hlisted
      rw [Bool.or_eq_false_iff, Bool.or_eq_false_iff] at hlisted
      obtain ⟨⟨hrun, hrunSuffix⟩, hbare⟩ := hlisted
      rcases blocks_end hblocks with hnil | ⟨front, hfront⟩
      · rw [hnil, List.nil_append] at hrun ⊢
        rcases hsingle with hlistedWord | hrunWord
        · exact .inl hlistedWord
        · rw [hrunWord] at hrun
          cases hrun
      · have hend : suffix.toList <:+ parts.flatten ++ word := by
          rw [hfront, List.append_assoc]
          exact hprefixed.trans (List.suffix_append front ('_' :: word))
        rcases List.mem_append.mp hsuffix with hmem | hmem
        · exact .inr (List.any_eq_true.mpr ⟨suffix, hmem, endsWith_ofList.mpr hend⟩)
        · rcases List.mem_append.mp hmem with hmem | hmem
          · exact absurd (endsWith_ofList.mpr hend) (List.any_eq_false.mp hrunSuffix suffix hmem)
          · exact absurd (endsWith_ofList.mpr hend) (List.any_eq_false.mp hbare suffix hmem)
    · simp only [Bool.or_eq_true, List.contains_iff_mem, List.mem_cons, List.not_mem_nil,
        or_false, endsWith_ofList, not_or]
      exact ⟨⟨⟨⟨hnoCount "max" (by decide), hnoCount "min" (by decide),
        hne "token_budget" (by decide)⟩, hnot "_token_budget" (by decide)⟩,
        hnot "_token_count" (by decide)⟩, hnot "_tokens" (by decide)⟩
  · unfold isGeneratedField dotted
    rw [show (defaultPolicy U).generatedMetadataFields = defaultGeneratedMetadataFields from rfl]
    rw [← Bool.not_eq_true, List.contains_iff_mem]
    intro hmem
    exact hne _ (List.mem_append_right _ hmem) rfl

/-! ## The redaction of one field -/

/-- A residual detector that finds nothing. -/
def silent : Detector := fun _ _ text => .returned (.str text) (.int 0)

theorem redactWithDetector_silent (position : Position) (value : String) :
    redactWithDetector silent position value = .ok (value, 0) := by
  unfold redactWithDetector silent
  dsimp only
  rw [if_neg]
  · rfl
  · simp

section Field

variable {lower : String → String} {policy : SecretRedactionPolicy} {key value : String}
  (builtIn : Except RedactionError Detector)

def oneField (key value : String) : Obj := .dict [(.text key, .str value)]

theorem validate_clean (h : applyTextPatterns policy key = (key, 0)) :
    validateMappingKeyPatterns policy key = .ok () := by
  unfold validateMappingKeyPatterns
  refine check_of ?_
  rw [h]
  exact ⟨rfl, rfl⟩

theorem validate_refused (h : applyTextPatterns policy key ≠ (key, 0)) :
    validateMappingKeyPatterns policy key =
      .error (.redaction "Secrets in outbound mapping keys cannot be redacted safely.") := by
  unfold validateMappingKeyPatterns check
  exact if_neg fun hsame => h (Prod.ext hsame.1 hsame.2)

theorem redact_oneField {raw : Obj} {out : String} {n : Nat} {residual : ℚ}
    (hvalid : validateMappingKeyPatterns policy key = .ok ())
    (hgenerated : isGeneratedField policy [normalizeKey lower key] = false)
    (hfirst : redactStructure lower policy (some silent) true true [] [] raw
      ⟨0, 0, .finite 0, 0⟩ = .ok (oneField key out, ⟨n, 0, .finite residual, 0⟩)) :
    ∃ r, redactOutboundObject lower policy (some silent) builtIn raw = .ok r ∧
      r.value = oneField key out := by
  have hfinal : scanResidualOutbound lower policy silent [] [] (oneField key out)
      ⟨n, 0, .finite residual, 0⟩ =
      .ok (oneField key out, ⟨n, 0, .finite (residual + ((0 : ℕ) : ℤ)), 0⟩) := by
    unfold oneField
    simp only [scanResidualOutbound, scanEntries, keyText, ok_bind, hvalid, List.nil_append,
      isValidGeneratedField, hgenerated, Bool.false_and, Bool.false_eq_true, if_false,
      redactWithDetector_silent, Number.add]
    rfl
  refine ⟨⟨oneField key out, n, 0, .finite (residual + ((0 : ℕ) : ℤ)), 0, true⟩, ?_, rfl⟩
  unfold redactOutboundObject resolveResidualDetector redactObject
  dsimp only
  rw [ok_bind, hfirst, ok_bind]
  unfold finalScan
  dsimp only
  rw [hfinal]
  rfl

theorem redact_replaced (hvalid : validateMappingKeyPatterns policy key = .ok ())
    (hgenerated : isGeneratedField policy [normalizeKey lower key] = false)
    (hsensitive : isSensitiveKey policy (normalizeKey lower key) = true) :
    ∃ r, redactOutboundObject lower policy (some silent) builtIn (oneField key value) = .ok r ∧
      r.value = oneField key policy.replacement := by
  have hfirst : redactStructure lower policy (some silent) true true [] [] (oneField key value)
      ⟨0, 0, .finite 0, 0⟩ = .ok (oneField key policy.replacement, ⟨1, 0, .finite 0, 0⟩) := by
    unfold oneField
    simp only [redactStructure, redactEntries, keyText, ok_bind, hvalid, List.nil_append,
      isValidGeneratedField, hgenerated, hsensitive, Bool.false_and, Bool.false_eq_true,
      if_false, if_true]
    rfl
  exact redact_oneField builtIn hvalid hgenerated hfirst

theorem redact_passed (hvalid : validateMappingKeyPatterns policy key = .ok ())
    (hgenerated : isGeneratedField policy [normalizeKey lower key] = false)
    (hsensitive : isSensitiveKey policy (normalizeKey lower key) = false)
    (hvalue : applyTextPatterns policy value = (value, 0)) :
    ∃ r, redactOutboundObject lower policy (some silent) builtIn (oneField key value) = .ok r ∧
      r.value = oneField key value := by
  have hfirst : redactStructure lower policy (some silent) true true [] [] (oneField key value)
      ⟨0, 0, .finite 0, 0⟩ = .ok (oneField key value, ⟨0, 0, .finite (0 + (0 : ℤ)), 0⟩) := by
    unfold oneField
    simp only [redactStructure, redactEntries, keyText, ok_bind, hvalid, List.nil_append,
      isValidGeneratedField, hgenerated, hsensitive, Bool.false_and, Bool.false_eq_true,
      if_false, Bool.true_or, if_true, redactLeaf, hvalue, silent, Number.add]
    rfl
  exact redact_oneField builtIn hvalid hgenerated hfirst

theorem redact_refused {failure : RedactionError}
    (hvalid : validateMappingKeyPatterns policy key = .error failure) :
    redactOutboundObject lower policy (some silent) builtIn (oneField key value) =
      .error failure := by
  unfold redactOutboundObject resolveResidualDetector redactObject oneField
  simp only [redactStructure, redactEntries, keyText, ok_bind, hvalid, error_bind]

theorem redact_kept (hsensitive : isSensitiveKey policy (normalizeKey lower key) = false)
    {r : SecretRedactionResult}
    (h : redactOutboundObject lower policy (some silent) builtIn (oneField key value) = .ok r) :
    r.structuredRedactionCount = 0 := by
  unfold redactOutboundObject resolveResidualDetector redactObject at h
  dsimp only at h
  rw [ok_bind] at h
  obtain ⟨first, hfirst, h⟩ := bind_eq_ok.mp h
  obtain ⟨final, hfinal, h⟩ := bind_eq_ok.mp h
  cases h
  -- neither pass counts a field that it does not replace
  obtain ⟨text, hfirstValue, hfirstCount⟩ : ∃ text, first.1 = oneField key text ∧
      first.2.structured = 0 := by
    unfold oneField at hfirst
    rw [redactStructure, redactEntries] at hfirst
    simp only [keyText, ok_bind, List.nil_append, redactEntries, hsensitive] at hfirst
    obtain ⟨entries, hentries, hfirst⟩ := bind_eq_ok.mp hfirst
    obtain ⟨_, _, hentries⟩ := bind_eq_ok.mp hentries
    obtain ⟨head, hhead, hentries⟩ := bind_eq_ok.mp hentries
    cases hfirst
    cases hentries
    split at hhead
    · cases hhead
      exact ⟨value, rfl, rfl⟩
    · unfold redactStructure redactLeaf silent at hhead
      simp only [Bool.false_eq_true, if_false, Bool.true_or, if_true, Number.add, ok_bind] at hhead
      cases hhead
      exact ⟨_, rfl, rfl⟩
  unfold finalScan at hfinal
  dsimp only at hfinal
  rw [hfirstValue] at hfinal
  unfold oneField at hfinal
  rw [scanResidualOutbound, scanEntries] at hfinal
  simp only [keyText, ok_bind, List.nil_append, scanEntries] at hfinal
  obtain ⟨entries, hentries, hfinal⟩ := bind_eq_ok.mp hfinal
  obtain ⟨_, _, hentries⟩ := bind_eq_ok.mp hentries
  obtain ⟨head, hhead, hentries⟩ := bind_eq_ok.mp hentries
  cases hfinal
  cases hentries
  split at hhead
  · cases hhead
    exact hfirstCount
  · rw [scanResidualOutbound, redactWithDetector_silent, ok_bind] at hhead
    obtain ⟨residual, _, hhead⟩ := bind_eq_ok.mp hhead
    cases hhead
    exact hfirstCount

end Field

/-! ## Agreement -/

/-- A key that the pattern leaves out as a count. -/
def CountKey (key : String) : Prop :=
  ∃ t ∈ tokenCountKey.run ⟨none, key.toList⟩, t.rest = []

instance (key : String) : Decidable (CountKey key) := by
  unfold CountKey
  infer_instance

/-- The counts of the pattern that the structure takes for tokens. -/
def singularCounts : List String :=
  ["input_token", "output_token", "total_token", "prompt_token", "completion_token"]

/-- The normal forms of the counts. -/
def countNames : List (List Char) :=
  countHeads.flatMap fun head => ["_", ""].flatMap fun sep => ["s", ""].flatMap fun plural =>
    ["_budget", "_count", ""].map fun tail =>
      head.toList ++ (sep.toList ++ ("token".toList ++ (plural.toList ++ tail.toList)))

theorem tokenCountKey_spelled (hm : ∀ c ∈ m, isKeyChar c = true) (h : tokenCountKey.Spans m) :
    m.map spelled ∈ countNames := by
  obtain ⟨head, rest, rfl, hhead, sep, rest', rfl, hsep, token, rest'', rfl, htoken, plural, tail,
    rfl, hplural, htail⟩ := h
  simp only [List.forall_mem_append] at hm
  obtain ⟨hheadKey, hsepKey, htokenKey, hpluralKey, htailKey⟩ := hm
  obtain ⟨e, he, hspans⟩ := spans_oneOf.mp hhead
  obtain ⟨name, hname, rfl⟩ := List.mem_map.mp he
  have hheadEq := caseless_spelled (countHeads_plain hname) hheadKey hspans
  have htokenEq : token.map spelled = "token".toList :=
    caseless_spelled (word_plain (by simp)) htokenKey htoken
  have hsepEq : ∃ s ∈ ["_", ""], sep.map spelled = s.toList := by
    rcases optSeparator_spelled hsep with h | rfl
    · exact ⟨"_", by decide, h⟩
    · exact ⟨"", by decide, rfl⟩
  have hpluralEq : ∃ s ∈ ["s", ""], plural.map spelled = s.toList := by
    rcases hplural with h | rfl
    · exact ⟨"s", by decide, caseless_spelled (word_plain (by simp)) hpluralKey h⟩
    · exact ⟨"", by decide, rfl⟩
  have htailEq : ∃ s ∈ ["_budget", "_count", ""], tail.map spelled = s.toList := by
    rcases htail with ⟨x, y, rfl, hx, hy⟩ | rfl
    · rw [List.forall_mem_append] at htailKey
      rw [List.map_append, separator_spelled hx]
      rcases hy with hy | hy
      · have hbudget : y.map spelled = "budget".toList :=
          caseless_spelled (word_plain (by simp)) htailKey.2 hy
        exact ⟨"_budget", by decide, by rw [hbudget]; rfl⟩
      · have hcount : y.map spelled = "count".toList :=
          caseless_spelled (word_plain (by simp)) htailKey.2 hy
        exact ⟨"_count", by decide, by rw [hcount]; rfl⟩
    · exact ⟨"", by decide, rfl⟩
  obtain ⟨s, hs, hsepEq⟩ := hsepEq
  obtain ⟨p, hp, hpluralEq⟩ := hpluralEq
  obtain ⟨l, hl, htailEq⟩ := htailEq
  rw [List.map_append, List.map_append, List.map_append, List.map_append, hheadEq, hsepEq,
    htokenEq, hpluralEq, htailEq]
  exact List.mem_flatMap.mpr ⟨name, hname, List.mem_flatMap.mpr ⟨s, hs,
    List.mem_flatMap.mpr ⟨p, hp, List.mem_map_of_mem hl⟩⟩⟩

theorem countNames_spec : ∀ name ∈ countNames, Normal name ∧
    (singularCounts.contains (String.ofList name) = false →
      (["max_token", "min_token", "token_budget"].contains (String.ofList name) ||
        endsWith (String.ofList name) "_token_budget" ||
        endsWith (String.ofList name) "_token_count" ||
        endsWith (String.ofList name) "_tokens") = true ∨
      (defaultSensitiveKeys.contains (String.ofList name) ||
        sensitiveSuffixes.any (endsWith (String.ofList name))) = false) := by
  decide +kernel

theorem CountKey.not_sensitive {key : String} (h : CountKey key)
    (hkey : ∀ c ∈ key.toList, isKeyChar c = true)
    (hplural : singularCounts.contains (normalizeKey U.lower key) = false) :
    isSensitiveKey (defaultPolicy U) (normalizeKey U.lower key) = false := by
  obtain ⟨t, ht, hend⟩ := h
  obtain ⟨m, hm, hspans⟩ := run_spans _ _ _ ht
  rw [hend, List.append_nil] at hm
  dsimp only at hm
  have hname := tokenCountKey_spelled (hm ▸ hkey) hspans
  rw [← hm] at hname
  obtain ⟨hnormal, hlisted⟩ := countNames_spec _ hname
  rw [normalizeKey_spelled U hkey hnormal] at hplural ⊢
  rw [isSensitiveKey_default]
  rcases hlisted hplural with hexempt | hfalse
  · exact if_pos hexempt
  · rw [hfalse]
    exact ite_self false

/-- A text that the pattern finds in JSON is replaced under its key, when the key holds no
secret and the structure lists it; a key that holds one is refused. No count but a singular one
is replaced for its key. -/
theorem json_keys_agree (U : Unicode) (builtIn : Except RedactionError Detector)
    (key value : String) (hkey : ∀ c ∈ key.toList, isKeyChar c = true) :
    (((jsonDoubleQuotedSecret U).subn (defaultPolicy U).replacement (jsonText key value)).1 ≠
        jsonText key value → (applyTextPatterns (defaultPolicy U) key ≠ (key, 0) →
        redactOutboundObject U.lower (defaultPolicy U) (some silent) builtIn (oneField key value) =
          .error (.redaction "Secrets in outbound mapping keys cannot be redacted safely.")) ∧
      (applyTextPatterns (defaultPolicy U) key = (key, 0) →
        isUnlisted (normalizeKey U.lower key) = false →
        ∃ r, redactOutboundObject U.lower (defaultPolicy U) (some silent) builtIn
            (oneField key value) = .ok r ∧
          r.value = oneField key (defaultPolicy U).replacement)) ∧
    (CountKey key → singularCounts.contains (normalizeKey U.lower key) = false →
      ∀ r, redactOutboundObject U.lower (defaultPolicy U) (some silent) builtIn
        (oneField key value) = .ok r → r.structuredRedactionCount = 0) := by
  refine ⟨fun hchanged => ⟨fun hholds => ?_, fun hclean hlisted => ?_⟩,
    fun hcount hplural r h => ?_⟩
  · exact redact_refused builtIn (validate_refused hholds)
  · obtain ⟨hsensitive, hgenerated⟩ := (changed_recognised hkey hchanged).sensitive hkey hlisted
    exact redact_replaced builtIn (validate_clean hclean) hgenerated hsensitive
  · exact redact_kept builtIn (hcount.not_sensitive hkey hplural) h

def Unicode.ascii : Unicode where
  isWord := fun c => isAlnum c || c == '_'
  isDigit := fun c => decide ('0' ≤ c) && decide (c ≤ '9')
  lower := fun s => String.ofList (s.toList.map Char.toLower)
  isWord_ascii := fun _ _ => rfl
  isDigit_ascii := fun _ _ => rfl
  lower_ascii := fun _ _ => rfl

theorem json_keys_agree_sample :
    ∃ r, redactOutboundObject Unicode.ascii.lower (defaultPolicy Unicode.ascii) (some silent)
        (.error .type) (oneField "X-Api_Key" "x") = .ok r ∧
      r.value = oneField "X-Api_Key" "[redacted]" :=
  ((json_keys_agree Unicode.ascii (.error .type) "X-Api_Key" "x"
    (List.all_eq_true.mp (by decide +kernel))).1 (by decide +kernel)).2 (by decide +kernel)
    (by decide +kernel)

/-- The pattern finds a text whose key the structure does not list, the structure refuses a key
that holds a secret, and it replaces a count in the singular. -/
theorem keys_disagree :
    (((jsonDoubleQuotedSecret Unicode.ascii).subn "[redacted]" (jsonText "apikey" "x")).1 ≠
        jsonText "apikey" "x" ∧
      ∃ r, redactOutboundObject Unicode.ascii.lower (defaultPolicy Unicode.ascii) (some silent)
          (.error .type) (oneField "apikey" "x") = .ok r ∧ r.value = oneField "apikey" "x") ∧
    (((jsonDoubleQuotedSecret Unicode.ascii).subn "[redacted]"
        (jsonText "AKIA0123456789ABCDEF-token" "x")).1 ≠ jsonText "AKIA0123456789ABCDEF-token" "x" ∧
      redactOutboundObject Unicode.ascii.lower (defaultPolicy Unicode.ascii) (some silent)
          (.error .type) (oneField "AKIA0123456789ABCDEF-token" "x") =
        .error (.redaction "Secrets in outbound mapping keys cannot be redacted safely.")) ∧
    (CountKey "input_token" ∧
      ∃ r, redactOutboundObject Unicode.ascii.lower (defaultPolicy Unicode.ascii) (some silent)
          (.error .type) (oneField "input_token" "x") = .ok r ∧
        r.value = oneField "input_token" "[redacted]") := by
  refine ⟨⟨by decide +kernel, ?_⟩, ⟨by decide +kernel, ?_⟩, by decide +kernel, ?_⟩
  · exact redact_passed _ (validate_clean (by decide +kernel)) (by decide +kernel) (by decide +kernel)
      (by decide +kernel)
  · exact redact_refused _ (validate_refused (by decide +kernel))
  · exact redact_replaced _ (validate_clean (by decide +kernel)) (by decide +kernel)
      (by decide +kernel)

end LocalMoe.Secrets
