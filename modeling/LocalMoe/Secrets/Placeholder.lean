/-
  Where the placeholders of shielded digests occur: a placeholder runs into another one only at
  its last underscores.
-/
import LocalMoe.Secrets.Generated
import Mathlib.Order.Interval.Finset.Nat

namespace LocalMoe.Secrets

open Foundation Foundation.Substitute
open Contracts (isSpace)

/-- What follows the two underscores a placeholder begins with. -/
def sentinelTail (index : Nat) : Text :=
  sentinelName ++ Nat.toDigits 10 index ++ ['_', '_']

variable {i j k : Nat} {s t : Text}

theorem sentinelOf_eq : sentinelOf k = '_' :: '_' :: sentinelTail k := rfl

theorem sentinelOf_ne_nil : sentinelOf k ≠ [] := List.cons_ne_nil _ _

/-! ## The digits of an index -/

theorem toDigits_injective (h : Nat.toDigits 10 i = Nat.toDigits 10 k) : i = k := by
  rw [← Nat.ofDigitChars_ten_toDigits (n := i), h, Nat.ofDigitChars_ten_toDigits]

variable {c : Char}

theorem isDigit_digits (h : c ∈ Nat.toDigits 10 k) : c.isDigit = true :=
  Nat.isDigit_of_mem_toDigits (by decide) (by decide) h

theorem takeWhile_digits_underscore (digits : Text) (h : ∀ c ∈ digits, c.isDigit = true) :
    (digits ++ '_' :: t).takeWhile Char.isDigit = digits := by
  rw [List.takeWhile_append_of_pos h, List.takeWhile_cons_of_neg (by decide), List.append_nil]

theorem digits_of_starts (h : Nat.toDigits 10 i ++ ['_', '_'] <+: s) :
    s.takeWhile Char.isDigit = Nat.toDigits 10 i := by
  obtain ⟨u, rfl⟩ := h
  rw [List.append_assoc]
  exact takeWhile_digits_underscore _ fun c hc => isDigit_digits hc

theorem sentinelOf_starts : sentinelOf i <+: '_' :: '_' :: sentinelName ++ s ↔
    Nat.toDigits 10 i ++ ['_', '_'] <+: s := by
  unfold sentinelOf
  rw [List.append_assoc, List.prefix_append_right_inj]

theorem eq_of_sentinelOf_starts (h : sentinelOf i <+: sentinelOf k ++ s) : i = k := by
  have hk : sentinelOf k ++ s = '_' :: '_' :: sentinelName ++
      (Nat.toDigits 10 k ++ '_' :: '_' :: s) := by
    simp [sentinelOf]
  rw [hk, sentinelOf_starts] at h
  have hdigits := digits_of_starts h
  rw [takeWhile_digits_underscore _ fun c hc => isDigit_digits hc] at hdigits
  exact (toDigits_injective hdigits).symm

theorem sentinelOf_injective (h : sentinelOf i = sentinelOf k) : i = k :=
  eq_of_sentinelOf_starts (s := []) (by rw [List.append_nil, h])

/-! ## Characters -/

theorem mem_sentinelOf (h : c ∈ sentinelOf k) : c = '_' ∨ c.isUpper = true ∨ c.isDigit = true := by
  rw [sentinelOf, List.mem_append, List.mem_append] at h
  have hwords (d : Char) (hd : d ∈ '_' :: '_' :: sentinelName) :
      d = '_' ∨ d.isUpper = true ∨ d.isDigit = true := by
    have hall : ('_' :: '_' :: sentinelName).all
        (fun d => d == '_' || d.isUpper || d.isDigit) = true := by decide +kernel
    have hd := List.all_eq_true.mp hall d hd
    rwa [Bool.or_eq_true, Bool.or_eq_true, beq_iff_eq, or_assoc] at hd
  rcases h with (h | h) | h
  · exact hwords c h
  · exact .inr (.inr (isDigit_digits h))
  · rw [List.mem_cons, List.mem_singleton, or_self] at h
    exact .inl h

/-! ## Where a placeholder does not begin -/

/-- No placeholder of the index begins in the text in front of the other. -/
def Begins (k : Nat) (s t : Text) : Prop := ∃ u v, s = u ++ v ∧ v ≠ [] ∧ sentinelOf k <+: v ++ t

theorem not_begins_nil : ¬ Begins k [] t := by
  rintro ⟨u, v, h, hv, _⟩
  exact hv (List.append_eq_nil_iff.mp h.symm).2

theorem begins_cons : Begins k (c :: s) t ↔ sentinelOf k <+: c :: (s ++ t) ∨ Begins k s t := by
  constructor
  · rintro ⟨u, v, h, hv, hstarts⟩
    cases u with
    | nil =>
      rw [List.nil_append] at h
      exact .inl (by rw [← List.cons_append, h]; exact hstarts)
    | cons d u => exact .inr ⟨u, v, (List.cons.inj h).2, hv, hstarts⟩
  · rintro (h | ⟨u, v, rfl, hv, hstarts⟩)
    · exact ⟨[], c :: s, rfl, List.cons_ne_nil _ _, h⟩
    · exact ⟨c :: u, v, rfl, hv, hstarts⟩

theorem begins_append {a b : Text} : Begins k (a ++ b) t ↔ Begins k a (b ++ t) ∨ Begins k b t := by
  induction a with
  | nil => simp [not_begins_nil]
  | cons c a ih => rw [List.cons_append, begins_cons, begins_cons, ih, List.append_assoc, or_assoc]

theorem not_begins (h : ∀ c ∈ s, c ≠ '_') : ¬ Begins k s t := by
  rintro ⟨u, v, rfl, hv, hstarts⟩
  obtain ⟨c, v, rfl⟩ := List.exists_cons_of_ne_nil hv
  rw [sentinelOf_eq, List.cons_append, List.cons_prefix_cons] at hstarts
  exact h c (List.mem_append_right u List.mem_cons_self) hstarts.1.symm

theorem replaceAll_of_not_begins {new : Text} (h : ¬ Begins k s t) :
    replaceAll (sentinelOf k) new (s ++ t) = s ++ replaceAll (sentinelOf k) new t :=
  replaceAll_keep fun u v heq hv hstarts => h ⟨u, v, heq, hv, hstarts⟩

theorem begins_words (hc : c ≠ '_') : Begins k ('_' :: '_' :: sentinelName) (c :: t) ↔
      sentinelOf k <+: '_' :: '_' :: sentinelName ++ c :: t := by
  rw [begins_cons, or_iff_left]
  · rfl
  · simp [begins_cons, not_begins_nil, sentinelOf_eq, sentinelName, sentinelTail, Ne.symm hc]

theorem digits_ne_underscore (h : c ∈ Nat.toDigits 10 k) : c ≠ '_' := by
  rintro rfl
  exact absurd (isDigit_digits h) (by decide)

theorem begins_unclosed : Begins k ('_' :: '_' :: sentinelName ++ Nat.toDigits 10 i) t ↔
    sentinelOf k <+: '_' :: '_' :: sentinelName ++ (Nat.toDigits 10 i ++ t) := by
  obtain ⟨c, rest, hdigits⟩ := List.exists_cons_of_ne_nil (@Nat.toDigits_ne_nil i 10)
  have hc : c ≠ '_' := digits_ne_underscore (hdigits ▸ List.mem_cons_self)
  rw [begins_append, or_iff_left (not_begins fun c hc => digits_ne_underscore hc), hdigits,
    List.cons_append, begins_words hc]

/-- What stays of a placeholder whose last underscores another one has taken. -/
structure Damaged (i : Nat) (text : Text) : Prop where
  taken : ∃ last digest rest : Text, (last = [] ∨ last = ['_']) ∧ 32 ≤ digest.length ∧
    (∀ c ∈ digest, isHex c = true) ∧
    text = '_' :: '_' :: sentinelName ++ Nat.toDigits 10 i ++ (last ++ (digest ++ rest))

theorem isHex_ne_underscore (h : isHex c = true) : c ≠ '_' := by
  rintro rfl
  exact absurd h (by decide)

variable {digest : Text}

theorem replaceAll_other (hne : k ≠ i) (hhex : ∀ c ∈ digest, isHex c = true)
    (hlength : 32 ≤ digest.length) (hgap : ¬ sentinelOf k <:+: s) :
    if sentinelTail k <+: s ∨ '_' :: sentinelTail k <+: s then
      Damaged i (replaceAll (sentinelOf k) digest (sentinelOf i ++ s))
    else replaceAll (sentinelOf k) digest (sentinelOf i ++ s) = sentinelOf i ++ s := by
  have hsplit : sentinelOf i ++ s =
      ('_' :: '_' :: sentinelName ++ Nat.toDigits 10 i) ++ '_' :: '_' :: s := by
    rw [sentinelOf, List.append_assoc]
    rfl
  have hunclosed : ¬ Begins k ('_' :: '_' :: sentinelName ++ Nat.toDigits 10 i)
      ('_' :: '_' :: s) := by
    rw [begins_unclosed, ← List.append_assoc, ← hsplit]
    exact fun h => hne (eq_of_sentinelOf_starts h)
  rw [hsplit, replaceAll_of_not_begins hunclosed]
  have hfirst : sentinelOf k <+: '_' :: '_' :: s ↔ sentinelTail k <+: s := by
    rw [sentinelOf_eq, List.cons_prefix_cons, List.cons_prefix_cons]
    exact ⟨fun h => h.2.2, fun h => ⟨rfl, rfl, h⟩⟩
  have hsecond : sentinelOf k <+: '_' :: s ↔ '_' :: sentinelTail k <+: s := by
    rw [sentinelOf_eq, List.cons_prefix_cons]
    exact ⟨fun h => h.2, fun h => ⟨rfl, h⟩⟩
  by_cases htail : sentinelTail k <+: s
  · rw [if_pos (.inl htail)]
    obtain ⟨rest, hrest⟩ := hfirst.mpr htail
    rw [← hrest, replaceAll_append sentinelOf_ne_nil]
    exact ⟨[], digest, _, .inl rfl, hlength, hhex, rfl⟩
  · rw [replaceAll_cons (mt hfirst.mp htail)]
    by_cases hlast : '_' :: sentinelTail k <+: s
    · rw [if_pos (.inr hlast)]
      obtain ⟨rest, hrest⟩ := hsecond.mpr hlast
      rw [← hrest, replaceAll_append sentinelOf_ne_nil]
      exact ⟨['_'], digest, _, .inr rfl, hlength, hhex, rfl⟩
    · rw [if_neg (not_or.mpr ⟨htail, hlast⟩), replaceAll_cons (mt hsecond.mp hlast),
        replaceAll_eq_self hgap]

theorem replaceAll_own (hgap : ¬ sentinelOf i <:+: s) :
    replaceAll (sentinelOf i) digest (sentinelOf i ++ s) = digest ++ s := by
  rw [replaceAll_append sentinelOf_ne_nil, replaceAll_eq_self hgap]

theorem digits_not_start (hk : k < 10 ^ 32) {last : Text} (hlast : last = [] ∨ last = ['_'])
    (hhex : ∀ c ∈ digest, isHex c = true) (hlength : 32 ≤ digest.length) :
    ¬ Nat.toDigits 10 k ++ ['_', '_'] <+: Nat.toDigits 10 i ++ (last ++ (digest ++ t)) := by
  intro hstarts
  rcases hlast with rfl | rfl
  · -- the digits and the digest are longer than the digits of the index
    have hshort : (Nat.toDigits 10 k).length ≤ 32 :=
      (Nat.length_toDigits_le_iff (by decide) (by decide)).mpr hk
    have hpos : 0 < (Nat.toDigits 10 i).length := Nat.length_toDigits_pos
    rw [List.nil_append, ← List.append_assoc] at hstarts
    have hclosed : Nat.toDigits 10 k ++ ['_'] <+: Nat.toDigits 10 i ++ digest ++ t :=
      List.IsPrefix.trans ⟨['_'], by simp⟩ hstarts
    have hinside : Nat.toDigits 10 k ++ ['_'] <+: Nat.toDigits 10 i ++ digest := by
      refine List.prefix_of_prefix_length_le hclosed (List.prefix_append _ _) ?_
      rw [List.length_append, List.length_append, List.length_singleton]
      omega
    have hmem := hinside.subset (List.mem_append_right _ (List.mem_singleton_self '_'))
    rcases List.mem_append.mp hmem with h | h
    · exact digits_ne_underscore h rfl
    · exact isHex_ne_underscore (hhex _ h) rfl
  · -- the digits end at the underscore that is left
    have hdigits := digits_of_starts hstarts
    rw [List.singleton_append, takeWhile_digits_underscore _ fun c hc => isDigit_digits hc]
      at hdigits
    rw [← hdigits, List.prefix_append_right_inj, List.singleton_append, List.cons_prefix_cons]
      at hstarts
    obtain ⟨c, rest, rfl⟩ := List.exists_cons_of_ne_nil
      (List.ne_nil_of_length_pos (by omega : 0 < digest.length))
    rw [List.cons_append, List.cons_prefix_cons] at hstarts
    exact isHex_ne_underscore (hhex c List.mem_cons_self) hstarts.2.1.symm

theorem Damaged.replaceAll {text new : Text} (h : Damaged i text) (hk : k < 10 ^ 32) :
    Damaged i (replaceAll (sentinelOf k) new text) := by
  obtain ⟨last, digest, rest, hlast, hlength, hhex, rfl⟩ := h.taken
  have hunclosed : ¬ Begins k ('_' :: '_' :: sentinelName ++ Nat.toDigits 10 i)
      (last ++ (digest ++ rest)) := by
    rw [begins_unclosed]
    unfold sentinelOf
    rw [List.append_assoc, List.prefix_append_right_inj]
    exact digits_not_start hk hlast hhex hlength
  have hdigest : ¬ Begins k digest rest := not_begins fun c hc => isHex_ne_underscore (hhex c hc)
  have hleft : ¬ Begins k last (digest ++ rest) := by
    rcases hlast with rfl | rfl
    · exact not_begins_nil
    · rw [begins_cons, or_iff_left not_begins_nil, List.nil_append, sentinelOf_eq]
      obtain ⟨c, tail, rfl⟩ := List.exists_cons_of_ne_nil
        (List.ne_nil_of_length_pos (by omega : 0 < digest.length))
      rw [List.cons_prefix_cons, List.cons_append, List.cons_prefix_cons]
      exact fun h => isHex_ne_underscore (hhex c List.mem_cons_self) h.2.1.symm
  rw [replaceAll_of_not_begins hunclosed, replaceAll_of_not_begins hleft,
    replaceAll_of_not_begins hdigest]
  exact ⟨last, digest, _, hlast, hlength, hhex, rfl⟩

theorem Damaged.append {text : Text} (h : Damaged i text) : Damaged i (text ++ t) := by
  obtain ⟨last, digest, rest, hlast, hlength, hhex, rfl⟩ := h.taken
  exact ⟨last, digest, rest ++ t, hlast, hlength, hhex, by simp only [List.append_assoc]⟩

theorem Damaged.not_digest {text : Text} (h : Damaged i text)
    (hhex : ∀ c ∈ digest, isHex c = true) (hlength : 32 ≤ digest.length) : text ≠ digest ++ s := by
  rintro rfl
  obtain ⟨last, other, rest, _, _, _, heq⟩ := h.taken
  obtain ⟨c, tail, rfl⟩ := List.exists_cons_of_ne_nil
    (List.ne_nil_of_length_pos (by omega : 0 < digest.length))
  have hhead := (List.cons.inj heq).1
  exact isHex_ne_underscore (hhex c List.mem_cons_self) hhead

/-! ## Fresh indices -/

variable {value : Text} {sentinels : List Text}

/-- Whether the placeholder of an index is in the value or in use. -/
def Taken (value : Text) (sentinels : List Text) (index : Nat) : Prop :=
  sentinelOf index <:+: value ∨ sentinelOf index ∈ sentinels

theorem card_occurring (indices : Finset Nat) (h : ∀ k ∈ indices, sentinelOf k <:+: value) :
    indices.card ≤ value.length := by
  have hplace : ∀ k ∈ indices, ∃ place < value.length, sentinelOf k <+: value.drop place := by
    intro k hk
    obtain ⟨u, v, rfl⟩ := h k hk
    refine ⟨u.length, ?_, v, ?_⟩
    · rw [List.length_append, List.length_append, sentinelOf_eq, List.length_cons]
      omega
    · rw [List.append_assoc, List.drop_left]
  choose! place hlt hstarts using hplace
  rw [← Finset.card_range value.length]
  refine Finset.card_le_card_of_injOn place (fun k hk => ?_) fun k hk l hl heq => ?_
  · exact Finset.mem_coe.mpr (Finset.mem_range.mpr (hlt k hk))
  · obtain ⟨t, ht⟩ := hstarts l hl
    have hkl := hstarts k hk
    rw [heq, ← ht] at hkl
    exact eq_of_sentinelOf_starts hkl

theorem card_taken (indices : Finset Nat) (h : ∀ k ∈ indices, Taken value sentinels k) :
    indices.card ≤ value.length + sentinels.length := by
  classical
  have hused : (indices.filter fun k => ¬ sentinelOf k <:+: value).card ≤ sentinels.length := by
    refine le_trans (Finset.card_le_card_of_injOn sentinelOf (t := sentinels.toFinset) ?_ ?_)
      (List.toFinset_card_le sentinels)
    · intro k hk
      obtain ⟨hmem, hout⟩ := Finset.mem_filter.mp (Finset.mem_coe.mp hk)
      exact Finset.mem_coe.mpr (List.mem_toFinset.mpr ((h k hmem).resolve_left hout))
    · exact fun k _ l _ heq => sentinelOf_injective heq
  have hinside := card_occurring (indices.filter fun k => sentinelOf k <:+: value)
    fun k hk => (Finset.mem_filter.mp hk).2
  have hsum := Finset.card_filter_add_card_filter_not (s := indices)
    (fun k => sentinelOf k <:+: value)
  omega

theorem freshFrom_spec (fuel index : Nat) : index ≤ freshFrom value sentinels fuel index ∧
      freshFrom value sentinels fuel index ≤ index + fuel ∧
      (∀ k, index ≤ k → k < freshFrom value sentinels fuel index → Taken value sentinels k) ∧
      (freshFrom value sentinels fuel index < index + fuel →
        ¬ Taken value sentinels (freshFrom value sentinels fuel index)) := by
  induction fuel generalizing index with
  | zero =>
    refine ⟨le_rfl, le_rfl, fun k hle hlt => ?_, fun hlt => ?_⟩
    · exact absurd hlt (Nat.not_lt.mpr hle)
    · exact absurd hlt (lt_irrefl _)
  | succ fuel ih =>
    unfold freshFrom
    split
    · rename_i htaken
      obtain ⟨hle, hge, hpassed, hfree⟩ := ih (index + 1)
      refine ⟨by omega, by omega, fun k hk hlt => ?_, fun hlt => hfree (by omega)⟩
      rcases Nat.eq_or_lt_of_le hk with rfl | hk
      · exact htaken
      · exact hpassed k hk hlt
    · rename_i hfree
      exact ⟨le_rfl, by omega, fun k hle hlt => absurd hlt (Nat.not_lt.mpr hle), fun _ => hfree⟩

theorem freshIndex_fresh : ¬ Taken value sentinels (freshIndex value sentinels) := by
  obtain ⟨hle, hge, hpassed, hfree⟩ := @freshFrom_spec value sentinels
    (value.length + sentinels.length) sentinels.length
  rcases Nat.lt_or_eq_of_le hge with hlt | heq
  · exact hfree hlt
  · -- so many indices have been passed over that no other is taken
    intro htaken
    have htaken' : ∀ k ∈ Finset.Icc sentinels.length (freshIndex value sentinels),
        Taken value sentinels k := by
      intro k hk
      obtain ⟨hk, hlast⟩ := Finset.mem_Icc.mp hk
      rcases Nat.lt_or_eq_of_le hlast with hlt | rfl
      · exact hpassed k hk hlt
      · exact htaken
    have hcard := card_taken _ htaken'
    rw [Nat.card_Icc] at hcard
    unfold freshIndex at hcard
    omega

theorem freshIndex_le : freshIndex value sentinels ≤ value.length + 2 * sentinels.length := by
  have hle := (@freshFrom_spec value sentinels (value.length + sentinels.length)
    sentinels.length).2.1
  unfold freshIndex
  omega

end LocalMoe.Secrets
