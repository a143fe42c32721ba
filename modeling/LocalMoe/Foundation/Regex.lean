/-
  Regular expressions that backtrack.

  An expression returns the cursors at which its matches end, in the order in which they are
  tried; the first is the match.
-/
import Mathlib.Data.List.Basic

namespace LocalMoe.Foundation

/-- A place in a text: the character before it, and what follows. -/
structure Cursor where
  previous : Option Char
  rest : List Char
  deriving DecidableEq

/-- Regular expressions. -/
inductive Regex where
  | empty
  | chars (p : Char → Bool)
  | seq (first second : Regex)
  | alt (first second : Regex)
  /-- As often as possible. -/
  | star (body : Regex)
  /-- As seldom as possible. -/
  | lazyStar (body : Regex)
  | ahead (body : Regex)
  | notAhead (body : Regex)
  /-- A condition on the characters before and behind the cursor. -/
  | assert (p : Option Char → Option Char → Bool)

namespace Regex

/-- Up to `n` rounds of a step, the most first. -/
def rounds (step : Cursor → List Cursor) : Nat → Cursor → List Cursor
  | 0, s => [s]
  | n + 1, s => (step s).flatMap (rounds step n) ++ [s]

/-- Up to `n` rounds of a step, the fewest first. -/
def lazyRounds (step : Cursor → List Cursor) : Nat → Cursor → List Cursor
  | 0, s => [s]
  | n + 1, s => s :: (step s).flatMap (lazyRounds step n)

def next (p : Char → Bool) : Cursor → List Cursor
  | ⟨_, []⟩ => []
  | ⟨_, c :: rest⟩ => if p c then [⟨some c, rest⟩] else []

/-- The ends of the matches, in their order. A round that matches anything matches a character,
so no text allows more rounds than it has characters. -/
def run : Regex → Cursor → List Cursor
  | .empty, s => [s]
  | .chars p, s => next p s
  | .seq first second, s => (first.run s).flatMap second.run
  | .alt first second, s => first.run s ++ second.run s
  | .star body, s => rounds body.run s.rest.length s
  | .lazyStar body, s => lazyRounds body.run s.rest.length s
  | .ahead body, s => if body.run s = [] then [] else [s]
  | .notAhead body, s => if body.run s = [] then [s] else []
  | .assert p, s => if p s.previous s.rest.head? then [s] else []

/-- `e?`. -/
def opt (e : Regex) : Regex := .alt e .empty

/-- `e+`. -/
def plus (e : Regex) : Regex := .seq e (.star e)

/-- One after another. -/
def all : List Regex → Regex
  | [] => .empty
  | [e] => e
  | e :: es => .seq e (all es)

/-- The first that matches. -/
def oneOf : List Regex → Regex
  | [] => .chars fun _ => false
  | [e] => e
  | e :: es => .alt e (oneOf es)

/-- `e{n}`. -/
def times (e : Regex) : Nat → Regex
  | 0 => .empty
  | n + 1 => .seq e (times e n)

/-- `e{0,n}`. -/
def upTo (e : Regex) : Nat → Regex
  | 0 => .empty
  | n + 1 => opt (.seq e (upTo e n))

/-- The letters of a word, one after another. -/
def literal (p : Char → Char → Bool) : List Char → Regex
  | [] => .empty
  | letter :: word => .seq (.chars (p letter)) (literal p word)

/-! ## What a match spans -/

/-- The texts that an expression may span; conditions span nothing. -/
def Spans : Regex → List Char → Prop
  | .empty, m => m = []
  | .chars p, m => ∃ c, m = [c] ∧ p c = true
  | .seq first second, m => ∃ x y, m = x ++ y ∧ first.Spans x ∧ second.Spans y
  | .alt first second, m => first.Spans m ∨ second.Spans m
  | .star body, m => ∃ parts : List (List Char), m = parts.flatten ∧ ∀ x ∈ parts, body.Spans x
  | .lazyStar body, m => ∃ parts : List (List Char), m = parts.flatten ∧ ∀ x ∈ parts, body.Spans x
  | .ahead _, m => m = []
  | .notAhead _, m => m = []
  | .assert _, m => m = []

variable {step : Cursor → List Cursor}

theorem rounds_spans {spans : List Char → Prop}
    (h : ∀ s, ∀ t ∈ step s, ∃ m, s.rest = m ++ t.rest ∧ spans m) (n : Nat) :
    ∀ s, ∀ t ∈ rounds step n s, ∃ parts : List (List Char),
      s.rest = parts.flatten ++ t.rest ∧ ∀ x ∈ parts, spans x := by
  induction n with
  | zero =>
    intro s t ht
    rw [List.mem_singleton.mp ht]
    exact ⟨[], rfl, nofun⟩
  | succ n ih =>
    intro s t ht
    rcases List.mem_append.mp ht with ht | ht
    · obtain ⟨u, hu, ht⟩ := List.mem_flatMap.mp ht
      obtain ⟨m, hm, hspans⟩ := h s u hu
      obtain ⟨parts, hparts, hall⟩ := ih u t ht
      refine ⟨m :: parts, ?_, List.forall_mem_cons.mpr ⟨hspans, hall⟩⟩
      rw [hm, hparts, List.flatten_cons, List.append_assoc]
    · rw [List.mem_singleton.mp ht]
      exact ⟨[], rfl, nofun⟩

theorem mem_lazyRounds {n : Nat} :
    ∀ {s t : Cursor}, t ∈ lazyRounds step n s ↔ t ∈ rounds step n s := by
  induction n with
  | zero => exact fun {s t} => Iff.rfl
  | succ n ih =>
    intro s t
    unfold lazyRounds rounds
    rw [List.mem_cons, List.mem_append, List.mem_singleton, or_comm, List.mem_flatMap,
      List.mem_flatMap]
    exact or_congr (exists_congr fun u => and_congr Iff.rfl ih) Iff.rfl

theorem run_spans (e : Regex) : ∀ s, ∀ t ∈ e.run s, ∃ m, s.rest = m ++ t.rest ∧ e.Spans m := by
  induction e with
  | empty =>
    intro s t ht
    rw [List.mem_singleton.mp ht]
    exact ⟨[], rfl, rfl⟩
  | chars p =>
    rintro ⟨previous, _ | ⟨c, rest⟩⟩ t ht
    · cases ht
    · unfold run next at ht
      dsimp only at ht
      split at ht
      · rename_i hp
        rw [List.mem_singleton.mp ht]
        exact ⟨[c], rfl, c, rfl, hp⟩
      · cases ht
  | seq first second ih1 ih2 =>
    intro s t ht
    obtain ⟨u, hu, ht⟩ := List.mem_flatMap.mp ht
    obtain ⟨x, hx, hfirst⟩ := ih1 s u hu
    obtain ⟨y, hy, hsecond⟩ := ih2 u t ht
    exact ⟨x ++ y, by rw [hx, hy, List.append_assoc], x, y, rfl, hfirst, hsecond⟩
  | alt first second ih1 ih2 =>
    intro s t ht
    rcases List.mem_append.mp ht with ht | ht
    · obtain ⟨m, hm, hspans⟩ := ih1 s t ht
      exact ⟨m, hm, .inl hspans⟩
    · obtain ⟨m, hm, hspans⟩ := ih2 s t ht
      exact ⟨m, hm, .inr hspans⟩
  | star body ih =>
    intro s t ht
    obtain ⟨parts, hparts, hall⟩ := rounds_spans ih _ s t ht
    exact ⟨parts.flatten, hparts, parts, rfl, hall⟩
  | lazyStar body ih =>
    intro s t ht
    obtain ⟨parts, hparts, hall⟩ := rounds_spans ih _ s t (mem_lazyRounds.mp ht)
    exact ⟨parts.flatten, hparts, parts, rfl, hall⟩
  | ahead body _ =>
    intro s t ht
    unfold run at ht
    split at ht
    · cases ht
    · rw [List.mem_singleton.mp ht]
      exact ⟨[], rfl, rfl⟩
  | notAhead body _ | assert p =>
    intro s t ht
    unfold run at ht
    split at ht
    · rw [List.mem_singleton.mp ht]
      exact ⟨[], rfl, rfl⟩
    · cases ht

variable {s t : Cursor}

theorem run_notAhead {e : Regex} (h : t ∈ (notAhead e).run s) : t = s ∧ e.run s = [] := by
  unfold run at h
  split at h
  · rename_i hnone
    exact ⟨List.mem_singleton.mp h, hnone⟩
  · cases h

theorem mem_run_seq {first second : Regex} :
    t ∈ (seq first second).run s ↔ ∃ u ∈ first.run s, t ∈ second.run u := List.mem_flatMap

theorem mem_run_chars {p : Char → Bool} :
    t ∈ (chars p).run s ↔ ∃ c, p c = true ∧ s.rest = c :: t.rest ∧ t.previous = some c := by
  rcases s with ⟨previous, _ | ⟨c, rest⟩⟩
  · exact ⟨nofun, fun ⟨_, _, h, _⟩ => nomatch h⟩
  · change t ∈ (if p c = true then [(⟨some c, rest⟩ : Cursor)] else []) ↔ _
    constructor
    · intro ht
      split at ht
      · rename_i hp
        rw [List.mem_singleton.mp ht]
        exact ⟨c, hp, rfl, rfl⟩
      · cases ht
    · rintro ⟨d, hp, hrest, hprevious⟩
      obtain ⟨rfl, rfl⟩ := List.cons.inj hrest
      rw [if_pos hp, List.mem_singleton, ← hprevious]

variable {m : List Char}

theorem spans_oneOf {es : List Regex} : (oneOf es).Spans m ↔ ∃ e ∈ es, e.Spans m := by
  induction es with
  | nil =>
    refine ⟨?_, nofun⟩
    rintro ⟨c, _, h⟩
    cases h
  | cons e es ih =>
    cases es with
    | nil => simp only [oneOf, List.mem_singleton, exists_eq_left]
    | cons e' es => simp only [oneOf, Spans, ih, List.mem_cons, exists_eq_or_imp]

theorem mem_run_oneOf {es : List Regex} : t ∈ (oneOf es).run s ↔ ∃ e ∈ es, t ∈ e.run s := by
  induction es with
  | nil =>
    refine ⟨fun h => ?_, nofun⟩
    rcases s with ⟨previous, _ | ⟨c, rest⟩⟩ <;> cases h
  | cons e es ih =>
    cases es with
    | nil => simp only [oneOf, List.mem_singleton, exists_eq_left]
    | cons e' es =>
      simp only [oneOf, run, List.mem_append, ih, List.mem_cons, exists_eq_or_imp]

theorem spans_literal {p : Char → Char → Bool} {word : List Char} :
    (literal p word).Spans m ↔ List.Forall₂ (fun letter c => p letter c = true) word m := by
  induction word generalizing m with
  | nil =>
    constructor
    · intro h
      cases (h : m = [])
      exact .nil
    · intro h
      cases h
      rfl
  | cons letter word ih =>
    constructor
    · rintro ⟨x, y, rfl, ⟨c, rfl, hc⟩, hy⟩
      exact .cons hc (ih.mp hy)
    · rintro (_ | ⟨hc, hrest⟩)
      exact ⟨[_], _, rfl, ⟨_, rfl, hc⟩, ih.mpr hrest⟩

/-- The character before the cursor, once a text has been passed. -/
def passed (previous : Option Char) (m : List Char) : Option Char :=
  m.foldl (fun _ c => some c) previous

theorem passed_append (previous : Option Char) (m rest : List Char) :
    passed previous (m ++ rest) = passed (passed previous m) rest := List.foldl_append

theorem mem_run_literal {p : Char → Char → Bool} {word : List Char}
    (h : List.Forall₂ (fun letter c => p letter c = true) word m) (previous : Option Char)
    (rest : List Char) :
    ⟨passed previous m, rest⟩ ∈ (literal p word).run ⟨previous, m ++ rest⟩ := by
  induction h generalizing previous with
  | nil => exact List.mem_singleton_self _
  | @cons letter c word m hc _ ih =>
    refine mem_run_seq.mpr ⟨⟨some c, m ++ rest⟩, ?_, ih (some c)⟩
    change _ ∈ (if p letter c = true then _ else _)
    rw [if_pos hc]
    exact List.mem_singleton_self _

theorem mem_run_opt_empty (e : Regex) (s : Cursor) : s ∈ (opt e).run s :=
  List.mem_append_right _ (List.mem_singleton_self s)

theorem mem_run_opt {e : Regex} (h : t ∈ e.run s) : t ∈ (opt e).run s := List.mem_append_left _ h

end Regex

/-! ## Rules -/

/-- What a rule matches behind its lead. -/
structure Branch where
  opening : Regex
  secret : Regex
  closing : Regex

/-- An expression with a group that is replaced. -/
structure Rule where
  lead : Regex
  branches : List Branch

/-- A match: where its group begins and ends, and where it ends. -/
structure Found where
  opened : Cursor
  closed : Cursor
  finish : Cursor

namespace Rule

variable (rule : Rule)

/-- The matches from a cursor on, in their order. -/
def matchesAt (s : Cursor) : List Found :=
  (rule.lead.run s).flatMap fun a => rule.branches.flatMap fun branch =>
    (branch.opening.run a).flatMap fun b => (branch.secret.run b).flatMap fun c =>
      (branch.closing.run c).map fun d => ⟨b, c, d⟩

def between (text rest : List Char) : List Char := text.take (text.length - rest.length)

/-- `regex.subn`, once `skip` characters of a match are passed over. No rule matches nothing. -/
def subnFrom (replacement : List Char) : Nat → Option Char → List Char → List Char × Nat
  | _, _, [] => ([], 0)
  | skip + 1, _, c :: rest => subnFrom replacement skip (some c) rest
  | 0, previous, c :: rest =>
    match (rule.matchesAt ⟨previous, c :: rest⟩).head? with
    | some found =>
      let tail := subnFrom replacement ((c :: rest).length - found.finish.rest.length - 1)
        (some c) rest
      (between (c :: rest) found.opened.rest ++ replacement ++
        between found.closed.rest found.finish.rest ++ tail.1, tail.2 + 1)
    | none =>
      let tail := subnFrom replacement 0 (some c) rest
      (c :: tail.1, tail.2)

theorem subnFrom_cases (replacement : List Char) (previous : Option Char) (text : List Char) :
    rule.subnFrom replacement 0 previous text = (text, 0) ∨
      (rule.subnFrom replacement 0 previous text).2 ≠ 0 ∧
        ∃ before behind previous', text = before ++ behind ∧
          rule.matchesAt ⟨previous', behind⟩ ≠ [] := by
  induction text generalizing previous with
  | nil => exact .inl rfl
  | cons c rest ih =>
    unfold subnFrom
    cases hfound : (rule.matchesAt ⟨previous, c :: rest⟩).head? with
    | some found =>
      refine .inr ⟨Nat.succ_ne_zero _, [], c :: rest, previous, rfl, fun hnil => ?_⟩
      rw [hnil] at hfound
      cases hfound
    | none =>
      dsimp only
      rcases ih (some c) with hsame | ⟨hcount, before, behind, previous', hrest, hmatch⟩
      · exact .inl (by rw [hsame])
      · exact .inr ⟨hcount, c :: before, behind, previous', by rw [hrest]; rfl, hmatch⟩

theorem exists_match {replacement text : List Char}
    (h : (rule.subnFrom replacement 0 none text).1 ≠ text) :
    ∃ before behind previous, text = before ++ behind ∧
      rule.matchesAt ⟨previous, behind⟩ ≠ [] := by
  rcases rule.subnFrom_cases replacement none text with hsame | ⟨_, hmatch⟩
  · exact absurd (congrArg Prod.fst hsame) h
  · exact hmatch

theorem subnFrom_unchanged {replacement text : List Char}
    (h : (rule.subnFrom replacement 0 none text).2 = 0) :
    (rule.subnFrom replacement 0 none text).1 = text := by
  rcases rule.subnFrom_cases replacement none text with hsame | ⟨hcount, _⟩
  · exact congrArg Prod.fst hsame
  · exact absurd h hcount

end Rule

end LocalMoe.Foundation
