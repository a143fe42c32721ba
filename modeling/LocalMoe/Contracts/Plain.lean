/-
  Where the two renderings agree: `canonical_json` and `canonical_json_bytes` give the same
  bytes exactly for values whose texts stay below U+007F and whose integers a double holds.
-/
import LocalMoe.Contracts.Jcs

namespace LocalMoe.Contracts

/-- A character that both renderings leave alone, or escape alike. -/
def isPlainChar (c : Char) : Bool := c.toNat < 127

/-- A text of such characters. -/
def isPlain (s : String) : Bool := s.toList.all isPlainChar

variable {s : String}

theorem isPlain_lt (h : isPlain s = true) : ∀ c ∈ s.toList, c.toNat < 127 :=
  fun c hc => of_decide_eq_true (List.all_eq_true.mp h c hc)

mutual

/-- Every text of the value is plain, keys included. -/
def Json.plain : Json → Bool
  | .null | .bool _ | .int _ => true
  | .str value => isPlain value
  | .arr items => Json.plainItems items
  | .obj fields => Json.plainFields fields

def Json.plainItems : List Json → Bool
  | [] => true
  | item :: rest => item.plain && Json.plainItems rest

def Json.plainFields : List (String × Json) → Bool
  | [] => true
  | (key, value) :: rest => isPlain key && value.plain && Json.plainFields rest

end

/-! ## Plain values -/

variable {c : Char}

theorem jcsChar_eq (h : isPlainChar c = true) : jcsChar c = escapeChar c := by
  have hn : c.toNat < 127 := of_decide_eq_true h
  have hlast : (if c.toNat < 32 then unicodeEscape c.toNat else [c]) =
      if 32 ≤ c.toNat ∧ c.toNat < 127 then [c]
      else if c.toNat < 65536 then unicodeEscape c.toNat
      else unicodeEscape (55296 + (c.toNat - 65536) / 1024) ++
        unicodeEscape (56320 + (c.toNat - 65536) % 1024) := by
    by_cases h32 : c.toNat < 32
    · rw [if_pos h32, if_neg (by omega), if_pos (by omega)]
    · rw [if_neg h32, if_pos ⟨by omega, hn⟩]
  unfold jcsChar escapeChar
  simp only [hlast]

theorem jcsString_eq (h : isPlain s = true) : jcsString s = dumpString s := by
  have hchars : s.toList.flatMap jcsChar = s.toList.flatMap escapeChar :=
    List.flatMap_congr fun c hc => jcsChar_eq (List.all_eq_true.mp h c hc)
  unfold jcsString dumpString
  rw [hchars]

theorem utf16_eq (h : isPlain s = true) : utf16 s = s.toList.map Char.toNat := by
  unfold utf16
  rw [← List.flatMap_singleton' (s.toList.map Char.toNat), List.flatMap_map]
  refine List.flatMap_congr fun c hc => ?_
  have hn : c.toNat < 127 := isPlain_lt h c hc
  exact if_pos (by omega)

theorem map_toNat_lt {xs ys : List Char} :
    xs.map Char.toNat < ys.map Char.toNat ↔ xs < ys := by
  induction xs generalizing ys with
  | nil => cases ys <;> simp
  | cons x xs ih =>
    cases ys with
    | nil => simp
    | cons y ys =>
      have hlt : x.toNat < y.toNat ↔ x < y := Iff.rfl
      have heq : x.toNat = y.toNat ↔ x = y := Char.toNat_inj
      rw [List.map_cons, List.map_cons, List.cons_lt_cons_iff, List.cons_lt_cons_iff, ih, hlt,
        heq]

theorem utf16_le_iff {a b : String} (ha : isPlain a = true) (hb : isPlain b = true) :
    utf16 a ≤ utf16 b ↔ a ≤ b := by
  rw [utf16_eq ha, utf16_eq hb, ← not_lt, map_toNat_lt, String.le_iff_toList_le, not_lt]

theorem orderedInsert_congr {α : Type} {r s : α → α → Prop} [DecidableRel r] [DecidableRel s]
    {a : α} {l : List α} (h : ∀ b ∈ l, r a b ↔ s a b) :
    l.orderedInsert r a = l.orderedInsert s a := by
  induction l with
  | nil => rfl
  | cons b l ih =>
    have hl := ih fun c hc => h c (List.mem_cons_of_mem b hc)
    rw [List.orderedInsert_cons, List.orderedInsert_cons, hl]
    exact if_congr (h b List.mem_cons_self) rfl rfl

theorem insertionSort_congr {α : Type} {r s : α → α → Prop} [DecidableRel r] [DecidableRel s]
    {l : List α} (h : ∀ a ∈ l, ∀ b ∈ l, r a b ↔ s a b) :
    l.insertionSort r = l.insertionSort s := by
  induction l with
  | nil => rfl
  | cons a l ih =>
    have hl := ih fun b hb c hc =>
      h b (List.mem_cons_of_mem a hb) c (List.mem_cons_of_mem a hc)
    rw [List.insertionSort_cons, List.insertionSort_cons, hl]
    refine orderedInsert_congr fun b hb => h a List.mem_cons_self b (List.mem_cons_of_mem a ?_)
    exact (List.perm_insertionSort s l).mem_iff.mp hb

theorem isPlain_of_mem_dumpFields {fields : List (String × Json)}
    (h : Json.plainFields fields = true) : ∀ f ∈ dumpFields fields, isPlain f.1 = true := by
  induction fields with
  | nil => intro f hf; cases hf
  | cons field rest ih =>
    obtain ⟨key, value⟩ := field
    rw [Json.plainFields, Bool.and_eq_true, Bool.and_eq_true] at h
    intro f hf
    rw [dumpFields] at hf
    rcases List.mem_cons.mp hf with rfl | hf
    · exact h.1.1
    · exact ih h.2 f hf

theorem jcs_arr (items : List Json) :
    jcs (.arr items) = '[' :: joinWith ',' (jcsItems items) ++ [']'] := rfl

theorem jcs_obj (fields : List (String × Json)) : jcs (.obj fields) =
    '{' :: joinWith ',' ((List.insertionSort (fun a b => utf16 a.1 ≤ utf16 b.1)
      (jcsFields fields)).map Prod.snd) ++ ['}'] := rfl

theorem dumps_arr (items : List Json) :
    dumps (.arr items) = '[' :: joinWith ',' (dumpItems items) ++ [']'] := rfl

theorem dumps_obj (fields : List (String × Json)) : dumps (.obj fields) =
    '{' :: joinWith ',' ((List.insertionSort (fun a b => a.1 ≤ b.1)
      (dumpFields fields)).map Prod.snd) ++ ['}'] := rfl

mutual

theorem jcs_eq_dumps : (j : Json) → j.plain = true → jcs j = dumps j
  | .null, _ | .bool true, _ | .bool false, _ | .int _, _ => rfl
  | .str value, h => jcsString_eq h
  | .arr items, h => by
    rw [jcs_arr, dumps_arr, jcsItems_eq_dumpItems items h]
  | .obj fields, h => by
    have hsort := insertionSort_congr
      (r := fun a b : String × List Char => utf16 a.1 ≤ utf16 b.1) (s := fun a b => a.1 ≤ b.1)
      (l := dumpFields fields) fun a ha b hb =>
        utf16_le_iff (isPlain_of_mem_dumpFields h a ha) (isPlain_of_mem_dumpFields h b hb)
    rw [jcs_obj, dumps_obj, jcsFields_eq_dumpFields fields h, hsort]

theorem jcsItems_eq_dumpItems :
    (items : List Json) → Json.plainItems items = true → jcsItems items = dumpItems items
  | [], _ => rfl
  | item :: rest, h => by
    rw [Json.plainItems, Bool.and_eq_true] at h
    rw [jcsItems, dumpItems, jcs_eq_dumps item h.1, jcsItems_eq_dumpItems rest h.2]

theorem jcsFields_eq_dumpFields :
    (fields : List (String × Json)) → Json.plainFields fields = true →
      jcsFields fields = dumpFields fields
  | [], _ => rfl
  | (key, value) :: rest, h => by
    rw [Json.plainFields, Bool.and_eq_true, Bool.and_eq_true] at h
    rw [jcsFields, dumpFields, jcs_eq_dumps value h.1.2, jcsString_eq h.1.1,
      jcsFields_eq_dumpFields rest h.2]

end

/-! ## Other values -/

theorem mem_joinWith_of_mem {sep : Char} {part : List Char} {parts : List (List Char)}
    (hpart : part ∈ parts) (hc : c ∈ part) : c ∈ joinWith sep parts := by
  induction parts with
  | nil => cases hpart
  | cons first rest ih =>
    cases rest with
    | nil =>
      cases List.mem_singleton.mp hpart
      exact hc
    | cons second rest =>
      rw [joinWith, List.mem_append, List.mem_cons]
      rcases List.mem_cons.mp hpart with rfl | hrest
      · exact .inl hc
      · exact .inr (.inr (ih hrest))
      · nofun

theorem of_mem_joinWith {P : Char → Prop} {sep : Char} {parts : List (List Char)} (hsep : P sep)
    (h : ∀ part ∈ parts, ∀ c ∈ part, P c) : ∀ c ∈ joinWith sep parts, P c := by
  induction parts with
  | nil => intro c hc; cases hc
  | cons first rest ih =>
    cases rest with
    | nil => exact h first List.mem_cons_self
    | cons second rest =>
      intro c hc
      rw [joinWith, List.mem_append, List.mem_cons] at hc
      · rcases hc with hc | rfl | hc
        · exact h first List.mem_cons_self c hc
        · exact hsep
        · exact ih (fun part hpart => h part (List.mem_cons_of_mem _ hpart)) c hc
      · nofun

theorem mem_jcsString (h : isPlain s ≠ true) : ∃ c ∈ jcsString s, 127 ≤ c.toNat := by
  unfold isPlain at h
  rw [ne_eq, List.all_eq_true, not_forall] at h
  obtain ⟨c, h⟩ := h
  obtain ⟨hc, hplain⟩ := Classical.not_imp.mp h
  have hn : 127 ≤ c.toNat := by
    unfold isPlainChar at hplain
    rw [decide_eq_true_eq] at hplain
    omega
  refine ⟨c, ?_, hn⟩
  have hself : c ∈ jcsChar c := by
    have hquote : c ≠ '"' := by rintro rfl; exact absurd hn (by decide)
    have hslash : c ≠ '\\' := by rintro rfl; exact absurd hn (by decide)
    unfold jcsChar
    simp only [if_neg hquote, if_neg hslash, if_neg (show ¬ c.toNat = 8 by omega),
      if_neg (show ¬ c.toNat = 9 by omega), if_neg (show ¬ c.toNat = 10 by omega),
      if_neg (show ¬ c.toNat = 12 by omega), if_neg (show ¬ c.toNat = 13 by omega),
      if_neg (show ¬ c.toNat < 32 by omega)]
    exact List.mem_singleton.mpr rfl
  exact List.mem_cons_of_mem _ (List.mem_append_left _ (List.mem_flatMap.mpr ⟨c, hc, hself⟩))

mutual

theorem mem_jcs : (j : Json) → j.plain ≠ true → ∃ c ∈ jcs j, 127 ≤ c.toNat
  | .null, h | .bool _, h | .int _, h => absurd rfl h
  | .str value, h => mem_jcsString h
  | .arr items, h => by
    obtain ⟨part, hpart, c, hc, hn⟩ := mem_jcsItems items h
    rw [jcs_arr]
    exact ⟨c, List.mem_cons_of_mem _ (List.mem_append_left _ (mem_joinWith_of_mem hpart hc)),
      hn⟩
  | .obj fields, h => by
    obtain ⟨part, hpart, c, hc, hn⟩ := mem_jcsFields fields h
    have hsorted : part.2 ∈ ((List.insertionSort (fun a b => utf16 a.1 ≤ utf16 b.1)
        (jcsFields fields)).map Prod.snd) :=
      List.mem_map.mpr ⟨part, (List.perm_insertionSort _ _).mem_iff.mpr hpart, rfl⟩
    rw [jcs_obj]
    exact ⟨c, List.mem_cons_of_mem _ (List.mem_append_left _ (mem_joinWith_of_mem hsorted hc)),
      hn⟩

theorem mem_jcsItems : (items : List Json) → Json.plainItems items ≠ true →
    ∃ part ∈ jcsItems items, ∃ c ∈ part, 127 ≤ c.toNat
  | [], h => absurd rfl h
  | item :: rest, h => by
    rw [Json.plainItems, ne_eq, Bool.and_eq_true, not_and_or] at h
    rw [jcsItems]
    rcases h with h | h
    · obtain ⟨c, hc, hn⟩ := mem_jcs item h
      exact ⟨jcs item, List.mem_cons_self, c, hc, hn⟩
    · obtain ⟨part, hpart, found⟩ := mem_jcsItems rest h
      exact ⟨part, List.mem_cons_of_mem _ hpart, found⟩

theorem mem_jcsFields : (fields : List (String × Json)) → Json.plainFields fields ≠ true →
    ∃ part ∈ jcsFields fields, ∃ c ∈ part.2, 127 ≤ c.toNat
  | [], h => absurd rfl h
  | (key, value) :: rest, h => by
    rw [Json.plainFields, ne_eq, Bool.and_eq_true, Bool.and_eq_true, not_and_or,
      not_and_or] at h
    rw [jcsFields]
    rcases h with (h | h) | h
    · obtain ⟨c, hc, hn⟩ := mem_jcsString h
      exact ⟨_, List.mem_cons_self, c, List.mem_append_left _ hc, hn⟩
    · obtain ⟨c, hc, hn⟩ := mem_jcs value h
      exact ⟨_, List.mem_cons_self, c,
        List.mem_append_right _ (List.mem_cons_of_mem _ hc), hn⟩
    · obtain ⟨part, hpart, found⟩ := mem_jcsFields rest h
      exact ⟨part, List.mem_cons_of_mem _ hpart, found⟩

end

theorem hexDigit_lt (n : Nat) (h : n < 16) : (hexDigit n).toNat < 127 := by
  interval_cases n <;> decide

theorem unicodeEscape_lt {n : Nat} : ∀ c ∈ unicodeEscape n, c.toNat < 127 := by
  intro c hc
  have hdigit : ∀ k, (hexDigit (k % 16)).toNat < 127 := fun k =>
    hexDigit_lt _ (Nat.mod_lt _ (by decide))
  simp only [unicodeEscape, hex4, List.mem_cons, List.not_mem_nil, or_false] at hc
  rcases hc with rfl | rfl | rfl | rfl | rfl | rfl
  · decide
  · decide
  all_goals exact hdigit _

theorem escapeChar_lt {d : Char} : ∀ c ∈ escapeChar d, c.toNat < 127 := by
  have hpair : ∀ a b : Char, a.toNat < 127 → b.toNat < 127 → ∀ c ∈ [a, b], c.toNat < 127 := by
    intro a b ha hb c hc
    rcases List.mem_cons.mp hc with rfl | hc
    · exact ha
    · cases List.mem_singleton.mp hc
      exact hb
  unfold escapeChar
  dsimp only
  iterate 7 refine forall_mem_ite (fun _ => hpair _ _ (by decide) (by decide)) ?_
  refine forall_mem_ite (fun h c hc => ?_) (forall_mem_ite (fun _ => unicodeEscape_lt) ?_)
  · cases List.mem_singleton.mp hc
    exact h.2
  · intro c hc
    exact (List.mem_append.mp hc).elim (unicodeEscape_lt c) (unicodeEscape_lt c)

theorem dumpString_lt : ∀ c ∈ dumpString s, c.toNat < 127 := by
  intro c hc
  rcases List.mem_cons.mp hc with rfl | hc
  · decide
  · rcases List.mem_append.mp hc with hc | hc
    · obtain ⟨d, _, hd⟩ := List.mem_flatMap.mp hc
      exact escapeChar_lt c hd
    · cases List.mem_singleton.mp hc
      decide

theorem natToString_lt {n : Nat} : ∀ c ∈ (toString n).toList, c.toNat < 127 := by
  intro c hc
  have hdigits : (toString n).toList = Nat.toDigits 10 n := by simp
  rw [hdigits] at hc
  have hdigit := Nat.isDigit_of_mem_toDigits (by decide) (by decide) hc
  simp only [Char.isDigit, Bool.and_eq_true, decide_eq_true_eq] at hdigit
  have := hdigit.2
  rw [UInt32.le_iff_toNat_le] at this
  exact lt_of_le_of_lt this (by decide)

theorem intToString_lt {n : Int} : ∀ c ∈ (toString n).toList, c.toNat < 127 := by
  cases n with
  | ofNat n => exact natToString_lt
  | negSucc n =>
    intro c hc
    have htext : (toString (Int.negSucc n)).toList = '-' :: (toString (n + 1)).toList := by
      simp [toString, Int.repr]
    rw [htext] at hc
    rcases List.mem_cons.mp hc with rfl | hc
    · decide
    · exact natToString_lt c hc

mutual

theorem dumps_lt : (j : Json) → ∀ c ∈ dumps j, c.toNat < 127
  | .null => isPlain_lt (s := "null") (by decide)
  | .bool true => isPlain_lt (s := "true") (by decide)
  | .bool false => isPlain_lt (s := "false") (by decide)
  | .int value => intToString_lt
  | .str value => dumpString_lt
  | .arr items => by
    intro c hc
    rw [dumps_arr] at hc
    rcases List.mem_cons.mp hc with rfl | hc
    · decide
    · rcases List.mem_append.mp hc with hc | hc
      · exact of_mem_joinWith (P := fun c => c.toNat < 127) (by decide) (dumpItems_lt items) c hc
      · cases List.mem_singleton.mp hc
        decide
  | .obj fields => by
    intro c hc
    rw [dumps_obj] at hc
    rcases List.mem_cons.mp hc with rfl | hc
    · decide
    · rcases List.mem_append.mp hc with hc | hc
      · refine of_mem_joinWith (P := fun c => c.toNat < 127) (by decide) ?_ c hc
        intro part hpart
        obtain ⟨field, hfield, rfl⟩ := List.mem_map.mp hpart
        exact dumpFields_lt fields field ((List.perm_insertionSort _ _).mem_iff.mp hfield)
      · cases List.mem_singleton.mp hc
        decide

theorem dumpItems_lt : (items : List Json) → ∀ part ∈ dumpItems items, ∀ c ∈ part, c.toNat < 127
  | [] => fun _ h => by cases h
  | item :: rest => by
    intro part hpart
    rw [dumpItems] at hpart
    rcases List.mem_cons.mp hpart with rfl | hpart
    · exact dumps_lt item
    · exact dumpItems_lt rest part hpart

theorem dumpFields_lt : (fields : List (String × Json)) →
    ∀ part ∈ dumpFields fields, ∀ c ∈ part.2, c.toNat < 127
  | [] => fun _ h => by cases h
  | (key, value) :: rest => by
    intro part hpart
    rw [dumpFields] at hpart
    rcases List.mem_cons.mp hpart with rfl | hpart
    · intro c hc
      rcases List.mem_append.mp hc with hc | hc
      · exact dumpString_lt c hc
      · rcases List.mem_cons.mp hc with rfl | hc
        · decide
        · exact dumps_lt value c hc
    · exact dumpFields_lt rest part hpart

end

/-! ## Bytes -/

theorem utf8EncodeChar_plain (h : c.toNat < 127) :
    String.utf8EncodeChar c = [UInt8.ofNat c.toNat] := by
  unfold String.utf8EncodeChar
  exact if_pos (show c.toNat ≤ 127 by omega)

theorem utf8EncodeChar_other (h : 127 ≤ c.toNat) :
    ∃ b ∈ String.utf8EncodeChar c, 127 ≤ b.toNat := by
  have hvalid : c.val.toNat < 1114112 := by
    rcases c.valid with h | h
    · exact lt_trans h (by decide)
    · exact h.2
  change 127 ≤ c.val.toNat at h
  unfold String.utf8EncodeChar
  simp only []
  split_ifs with h1 h2 h3 <;>
    refine ⟨_, List.mem_cons_self, ?_⟩ <;>
    rw [UInt8.toNat_ofNat'] <;> omega

theorem flatMap_utf8EncodeChar {text : List Char} (h : ∀ c ∈ text, c.toNat < 127) :
    text.flatMap String.utf8EncodeChar = text.map fun c => UInt8.ofNat c.toNat := by
  induction text with
  | nil => rfl
  | cons c text ih =>
    rw [List.flatMap_cons, List.map_cons, utf8EncodeChar_plain (h c List.mem_cons_self),
      ih fun d hd => h d (List.mem_cons_of_mem c hd)]
    rfl

theorem jcs_bytes_eq_iff {j : Json} :
    (jcs j).flatMap String.utf8EncodeChar = canonicalJson j ↔ j.plain = true := by
  constructor
  · intro hbytes
    by_contra hplain
    obtain ⟨c, hc, hn⟩ := mem_jcs j hplain
    obtain ⟨b, hb, hbyte⟩ := utf8EncodeChar_other hn
    have hmem : b ∈ canonicalJson j := hbytes ▸ List.mem_flatMap.mpr ⟨c, hc, hb⟩
    obtain ⟨d, hd, rfl⟩ := List.mem_map.mp hmem
    have hlt := dumps_lt j d hd
    rw [UInt8.toNat_ofNat'] at hbyte
    omega
  · intro hplain
    rw [jcs_eq_dumps j hplain]
    exact flatMap_utf8EncodeChar (dumps_lt j)

end LocalMoe.Contracts
