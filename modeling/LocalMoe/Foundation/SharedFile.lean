/-
  Operations on one file, interleaved step by step.
-/
import Mathlib.Data.List.Nodup

namespace LocalMoe.Foundation.SharedFile

variable {α ε : Type} {good : α → Prop}

/-- What an operation makes of the lines that it has read. -/
inductive Decision (α ε : Type) where
  | write (lines : List α)
  | keep
  | raise (error : ε)

/-- An operation on the file; `good` holds of the lines that are appended. -/
inductive Operation (α ε : Type) (good : α → Prop) where
  /-- Append lines, each in a step of its own. -/
  | append (first : α) (rest : List α) (fine : ∀ line ∈ first :: rest, good line)
  /-- Replace the lines, whatever they are. -/
  | overwrite (lines : List α)
  /-- Replace the lines by what is made of them.  Where nothing is written, good lines at the
  end make no difference. -/
  | rewrite (decide : List α → Decision α ε)
      (stable : ∀ lines added, (∀ line ∈ added, good line) →
        (∀ new, decide (lines ++ added) ≠ .write new) → decide lines = decide (lines ++ added))

/-- How an operation ends. -/
inductive Outcome (ε : Type) where
  | returned
  | raised (error : ε)
  /-- There is no temporary file to rename. -/
  | noTemporary
  deriving DecidableEq, Repr

inductive Phase (α ε : Type) where
  | idle
  /-- It has read the file, and will write these lines. -/
  | read (new : List α)
  /-- It has written these lines to the temporary file. -/
  | written (new : List α)
  | appending (next : α) (rest : List α)
  | ended (outcome : Outcome ε)
  deriving DecidableEq, Repr

/-- The two files and the operations, by number. -/
structure State (α ε : Type) where
  file : Option (List α)
  temporary : Option (List α)
  phase : Nat → Phase α ε

def State.lines (s : State α ε) : List α := s.file.getD []

/-- The operation goes to a phase. -/
def State.enter (s : State α ε) (i : Nat) (phase : Phase α ε) : State α ε :=
  { s with phase := Function.update s.phase i phase }

def State.appendLine (s : State α ε) (i : Nat) (line : α) (rest : List α) : State α ε :=
  { s with file := some (s.lines ++ [line]) }.enter i <|
    match rest with
    | [] => .ended .returned
    | next :: more => .appending next more

def advance (ops : Nat → Operation α ε good) (s : State α ε) (i : Nat) : State α ε :=
  match s.phase i with
  | .idle =>
    match ops i with
    | .append first rest _ => s.appendLine i first rest
    | .overwrite lines => { s with temporary := some lines }.enter i (.written lines)
    | .rewrite decide _ =>
      match decide s.lines with
      | .write new => s.enter i (.read new)
      | .keep => s.enter i (.ended .returned)
      | .raise error => s.enter i (.ended (.raised error))
  | .read new => { s with temporary := some new }.enter i (.written new)
  | .written _ =>
    match s.temporary with
    | some new => { s with file := some new, temporary := none }.enter i (.ended .returned)
    | none => s.enter i (.ended .noTemporary)
  | .appending next rest => s.appendLine i next rest
  | .ended _ => s

/-- On its way: begun, and not ended. -/
def Phase.Busy : Phase α ε → Prop
  | .idle | .ended _ => False
  | .read _ | .written _ | .appending _ _ => True

/-- Part of the lines are appended. -/
def Phase.Appending : Phase α ε → Prop
  | .appending _ _ => True
  | _ => False

/-- No other operation is on its way. -/
def State.Alone (s : State α ε) (i : Nat) : Prop := ∀ j, j ≠ i → ¬(s.phase j).Busy

/-- The next step changes the file. -/
def Alters (ops : Nat → Operation α ε good) (s : State α ε) (i : Nat) : Prop :=
  match s.phase i with
  | .idle => ∃ first rest fine, ops i = .append first rest fine
  | .written _ | .appending _ _ => True
  | .read _ | .ended _ => False

/-- An operation may take a step: it has not ended, and it begins only when the object that
it belongs to has no other one on its way. -/
def Enabled (owner : Nat → Nat) (s : State α ε) (i : Nat) : Prop :=
  (∀ outcome, s.phase i ≠ .ended outcome) ∧
    (s.phase i = .idle → ∀ j, j ≠ i → owner j = owner i → ¬(s.phase j).Busy)

/-- Nothing has begun. -/
def start (file : Option (List α)) : State α ε := ⟨file, none, fun _ => .idle⟩

/-- The states of the runs whose steps meet a condition. -/
inductive Reached (ops : Nat → Operation α ε good) (owner : Nat → Nat)
    (condition : State α ε → Nat → Prop) (file : Option (List α)) : State α ε → Prop where
  | start : Reached ops owner condition file (start file)
  | step {s : State α ε} {i : Nat} : Reached ops owner condition file s → Enabled owner s i →
      condition s i → Reached ops owner condition file (advance ops s i)

/-- No step changes the file while another operation is on its way. -/
def Undisturbed (ops : Nat → Operation α ε good) (s : State α ε) (i : Nat) : Prop :=
  Alters ops s i → s.Alone i

/-! ## One after another -/

def apply (op : Operation α ε good) (lines : List α) : List α × Outcome ε :=
  match op with
  | .append first rest _ => (lines ++ first :: rest, .returned)
  | .overwrite new => (new, .returned)
  | .rewrite decide _ =>
    match decide lines with
    | .write new => (new, .returned)
    | .keep => (lines, .returned)
    | .raise error => (lines, .raised error)

/-- Operations one after another. -/
def serial (ops : Nat → Operation α ε good) (lines : List α) (order : List Nat) : List α :=
  order.foldl (fun lines i => (apply (ops i) lines).1) lines

/-- The order explains the state: it is of the operations that have ended, and each of them
ended as it does where the ones before it have gone first. -/
structure Explains (ops : Nat → Operation α ε good) (lines : List α) (s : State α ε)
    (order : List Nat) : Prop where
  distinct : order.Nodup
  ended : ∀ i, i ∈ order ↔ ∃ outcome, s.phase i = .ended outcome
  outcome : ∀ before i after, order = before ++ i :: after →
    s.phase i = .ended (apply (ops i) (serial ops lines before)).2

/-- Some serial order explains the state, and gives its lines once no operation has appended
only a part of its own. -/
def Serializable (ops : Nat → Operation α ε good) (lines : List α) (s : State α ε) : Prop :=
  ∃ order, Explains ops lines s order ∧
    ((∀ i, ¬(s.phase i).Appending) → s.lines = serial ops lines order)

/-! ## What the condition keeps -/

/-- The lines are those of a serial order, and of what one operation has appended so far. -/
structure Kept (ops : Nat → Operation α ε good) (lines : List α) (s : State α ε) (order : List Nat)
    (part : List α) : Prop where
  explains : Explains ops lines s order
  lines : s.lines = serial ops lines order ++ part
  part : (part = [] ∧ ∀ i, ¬(s.phase i).Appending) ∨
    ∃ i first rest fine next more, ops i = .append first rest fine ∧ s.phase i = .appending next more ∧
      first :: rest = part ++ next :: more ∧ ∀ j, j ≠ i → ¬(s.phase j).Appending
  decided : ∀ i new, s.phase i = .read new ∨ s.phase i = .written new →
    ops i = .overwrite new ∨
      ∃ decide stable, ops i = .rewrite decide stable ∧ decide s.lines = .write new
  temporary : ∀ i new, s.phase i = .written new → s.Alone i → s.temporary = some new

section Enter

variable {s : State α ε} {i j : Nat} {phase : Phase α ε}

@[simp] theorem enter_phase_self : (s.enter i phase).phase i = phase := by
  simp [State.enter]

theorem enter_phase_of_ne (h : j ≠ i) : (s.enter i phase).phase j = s.phase j := by
  simp [State.enter, h]

@[simp] theorem enter_lines : (s.enter i phase).lines = s.lines := rfl

end Enter

theorem serial_append (ops : Nat → Operation α ε good) (lines : List α) (order : List Nat) (i : Nat) :
    serial ops lines (order ++ [i]) = (apply (ops i) (serial ops lines order)).1 := by
  simp [serial]

variable {t : State α ε}

/-- The order goes on with an operation that ends. -/
theorem Explains.append {ops : Nat → Operation α ε good} {lines : List α} {s : State α ε}
    {order : List Nat} {i : Nat} (h : Explains ops lines s order)
    (hopen : ∀ outcome, s.phase i ≠ .ended outcome)
    (hend : t.phase i = .ended (apply (ops i) (serial ops lines order)).2)
    (hothers : ∀ j, j ≠ i → t.phase j = s.phase j) : Explains ops lines t (order ++ [i]) := by
  have hnew : i ∉ order := fun hi => by
    obtain ⟨outcome, houtcome⟩ := (h.ended i).mp hi
    exact hopen outcome houtcome
  refine ⟨?_, fun j => ?_, fun before j after heq => ?_⟩
  · exact List.nodup_append.mpr ⟨h.distinct, List.nodup_singleton i, fun a ha b hb => by
      rw [List.mem_singleton.mp hb]
      exact fun hab => hnew (hab ▸ ha)⟩
  · by_cases hj : j = i
    · subst hj
      simp [hend]
    · rw [List.mem_append, hothers j hj, ← h.ended j, List.mem_singleton]
      exact ⟨fun hmem => hmem.resolve_right hj, .inl⟩
  · rcases List.eq_nil_or_concat after with rfl | ⟨more, last, rfl⟩
    · obtain ⟨rfl, hi⟩ := List.append_inj' heq rfl
      cases hi
      exact hend
    · have hsplit : order ++ [i] = (before ++ j :: more) ++ [last] := by
        rw [heq]
        simp
      obtain ⟨horder, -⟩ := List.append_inj' hsplit rfl
      have hj : j ≠ i := fun hji => hnew (by rw [horder, hji]; simp)
      rw [hothers j hj]
      exact h.outcome before j more horder

/-- The order stays as long as no operation ends. -/
theorem Explains.stay {ops : Nat → Operation α ε good} {lines : List α} {s : State α ε}
    {order : List Nat} {i : Nat} (h : Explains ops lines s order)
    (hopen : ∀ outcome, s.phase i ≠ .ended outcome) (hopen' : ∀ outcome, t.phase i ≠ .ended outcome)
    (hothers : ∀ j, j ≠ i → t.phase j = s.phase j) : Explains ops lines t order := by
  refine ⟨h.distinct, fun j => ?_, fun before j after heq => ?_⟩
  · by_cases hj : j = i
    · subst hj
      rw [h.ended j]
      exact ⟨fun ⟨outcome, ho⟩ => absurd ho (hopen outcome),
        fun ⟨outcome, ho⟩ => absurd ho (hopen' outcome)⟩
    · rw [h.ended j, hothers j hj]
  · have hphase := h.outcome before j after heq
    have hj : j ≠ i := fun hji => hopen _ (hji ▸ hphase)
    rw [hothers j hj]
    exact hphase

section Steps

variable {ops : Nat → Operation α ε good} {lines : List α} {s : State α ε} {order : List Nat}
  {part : List α} {i : Nat}

/-- Where no other operation is on its way, no other one has appended a part of its lines. -/
theorem Kept.part_nil (h : Kept ops lines s order part) (halone : s.Alone i)
    (hi : ¬(s.phase i).Appending) : part = [] ∧ ∀ j, ¬(s.phase j).Appending := by
  rcases h.part with hnone | ⟨j, -, -, -, next, more, -, hphase, -, -⟩
  · exact hnone
  · by_cases hj : j = i
    · subst hj
      exact absurd (by rw [hphase]; trivial) hi
    · exact absurd (by rw [hphase]; trivial) (halone j hj)

/-- No operation but one that has just ended has read the file or written the temporary one. -/
theorem Kept.ended_alone (halone : s.Alone i) {outcome : Outcome ε}
    (hend : t.phase i = .ended outcome) (hothers : ∀ j, j ≠ i → t.phase j = s.phase j) (j : Nat) :
    ¬(t.phase j).Busy := by
  by_cases hj : j = i
  · subst hj
    rw [hend]
    exact id
  · rw [hothers j hj]
    exact halone j hj

/-- The serial order explains a state that an operation ends in, alone. -/
theorem Kept.finish (h : Kept ops lines s order part) (halone : s.Alone i)
    (hopen : ∀ outcome, s.phase i ≠ .ended outcome)
    (hend : t.phase i = .ended (apply (ops i) (serial ops lines order)).2)
    (hothers : ∀ j, j ≠ i → t.phase j = s.phase j)
    (hlines : t.lines = (apply (ops i) (serial ops lines order)).1) :
    Kept ops lines t (order ++ [i]) [] := by
  have hidle := Kept.ended_alone halone hend hothers
  refine ⟨h.explains.append hopen hend hothers, ?_, .inl ⟨rfl, fun j hj => ?_⟩,
    fun j new hj => ?_, fun j new hj _ => ?_⟩
  · rw [serial_append, List.append_nil, hlines]
  · refine hidle j ?_
    cases hphase : t.phase j <;> rw [hphase] at hj <;> trivial
  · exact absurd (by rcases hj with hj | hj <;> rw [hj] <;> trivial) (hidle j)
  · exact absurd (by rw [hj]; trivial) (hidle j)

/-- The next line is appended, alone: `done` are the lines before it. -/
theorem Kept.appendLine (h : Kept ops lines s order part) (halone : s.Alone i)
    (hopen : ∀ outcome, s.phase i ≠ .ended outcome) {first : α} {rest : List α}
    {fine : ∀ line ∈ first :: rest, good line} (hop : ops i = .append first rest fine) {next : α} {more : List α}
    (hsplit : first :: rest = part ++ next :: more) (hlines : s.lines = serial ops lines order ++ part) :
    ∃ order' part', Kept ops lines (s.appendLine i next more) order' part' := by
  cases more with
  | nil =>
    refine ⟨_, _, h.finish halone hopen ?_ (fun j hj => enter_phase_of_ne hj) ?_⟩
    · simp [State.appendLine, hop, apply]
    · have : (s.appendLine i next []).lines = s.lines ++ [next] := rfl
      rw [this, hlines, hop, apply, hsplit, List.append_assoc]
  | cons after more =>
    have hothers : ∀ j, j ≠ i → (s.appendLine i next (after :: more)).phase j = s.phase j :=
      fun j hj => enter_phase_of_ne hj
    have hi : (s.appendLine i next (after :: more)).phase i = .appending after more :=
      enter_phase_self
    refine ⟨order, part ++ [next], h.explains.stay hopen (by simp [hi]) hothers, ?_,
      .inr ⟨i, first, rest, fine, after, more, hop, hi, by simpa using hsplit, fun j hj happ => ?_⟩,
      fun j new hj => ?_, fun j new hj hothersAlone => ?_⟩
    · have : (s.appendLine i next (after :: more)).lines = s.lines ++ [next] := rfl
      rw [this, hlines, List.append_assoc]
    · rw [hothers j hj] at happ
      refine halone j hj ?_
      cases hphase : s.phase j <;> rw [hphase] at happ <;> trivial
    · by_cases hji : j = i
      · subst hji
        rw [hi] at hj
        simp at hj
      · rw [hothers j hji] at hj
        exact absurd (by rcases hj with hj | hj <;> rw [hj] <;> trivial) (halone j hji)
    · by_cases hji : j = i
      · subst hji
        rw [hi] at hj
        cases hj
      · exact absurd (by rw [hi]; trivial) (hothersAlone i (Ne.symm hji))

/-- An operation goes on without changing the file, and is on its way to write it. -/
theorem Kept.prepare (h : Kept ops lines s order part) {new : List α}
    (hphase : t.phase i = .read new ∨ t.phase i = .written new ∧ t.temporary = some new)
    (hopen : ∀ outcome, s.phase i ≠ .ended outcome) (hi : ¬(s.phase i).Appending)
    (hothers : ∀ j, j ≠ i → t.phase j = s.phase j) (hlines : t.lines = s.lines)
    (hdecided : ops i = .overwrite new ∨ ∃ decide stable, ops i = .rewrite decide stable ∧
      decide s.lines = .write new) : Kept ops lines t order part := by
  have hbusy : (t.phase i).Busy := by
    rcases hphase with hi | ⟨hi, -⟩ <;> rw [hi] <;> trivial
  have hopen' : ∀ outcome, t.phase i ≠ .ended outcome := fun outcome ho => by
    rw [ho] at hbusy
    exact hbusy
  have hnot : ¬(t.phase i).Appending := fun happ => by
    rcases hphase with hi | ⟨hi, -⟩ <;> rw [hi] at happ <;> exact happ
  refine ⟨h.explains.stay hopen hopen' hothers, hlines ▸ h.lines, ?_, fun j other hj => ?_,
    fun j other hj halone => ?_⟩
  · rcases h.part with ⟨hnil, hnone⟩ | ⟨k, first, rest, fine, next, more, hop, hk, hsplit, hunique⟩
    · refine .inl ⟨hnil, fun j hj => ?_⟩
      by_cases hji : j = i
      · exact hnot (hji ▸ hj)
      · exact hnone j (hothers j hji ▸ hj)
    · have hki : k ≠ i := fun hki => hi (by rw [← hki, hk]; trivial)
      refine .inr ⟨k, first, rest, fine, next, more, hop, (hothers k hki).trans hk, hsplit,
        fun j hj happ => ?_⟩
      by_cases hji : j = i
      · exact hnot (hji ▸ happ)
      · exact hunique j hj (hothers j hji ▸ happ)
  · rw [hlines]
    by_cases hji : j = i
    · subst hji
      obtain rfl : new = other := by
        rcases hphase with hphase | ⟨hphase, -⟩ <;> rw [hphase] at hj <;> simpa using hj
      exact hdecided
    · exact h.decided j other (hothers j hji ▸ hj)
  · by_cases hji : j = i
    · subst hji
      rcases hphase with hphase | ⟨hphase, htemporary⟩
      · rw [hphase] at hj
        cases hj
      · rw [hphase] at hj
        cases hj
        exact htemporary
    · exact absurd hbusy (halone i (Ne.symm hji))

/-- An operation ends with its read. -/
theorem Kept.leave (h : Kept ops lines s order part) (hidle : s.phase i = .idle)
    {decide : List α → Decision α ε} {stable : ∀ lines added, (∀ line ∈ added, good line) →
      (∀ new, decide (lines ++ added) ≠ .write new) → decide lines = decide (lines ++ added)}
    (hop : ops i = .rewrite decide stable) (hwrite : ∀ new, decide s.lines ≠ .write new) :
    Kept ops lines (s.enter i (.ended (apply (ops i) s.lines).2)) (order ++ [i]) part := by
  have hgood : ∀ line ∈ part, good line := by
    rcases h.part with ⟨rfl, -⟩ | ⟨-, first, rest, fine, next, more, -, -, hsplit, -⟩
    · exact fun _ hline => absurd hline List.not_mem_nil
    · exact fun line hline => fine line (hsplit ▸ List.mem_append_left _ hline)
  have hsame : decide (serial ops lines order) = decide s.lines := by
    rw [h.lines]
    exact stable _ _ hgood (h.lines ▸ hwrite)
  have hopen : ∀ outcome, s.phase i ≠ .ended outcome := by simp [hidle]
  have hthere : (apply (ops i) s.lines).2 = (apply (ops i) (serial ops lines order)).2 := by
    rw [hop]
    simp only [apply, hsame]
    split <;> rfl
  have hlines : (apply (ops i) (serial ops lines order)).1 = serial ops lines order := by
    rw [hop]
    simp only [apply, hsame]
    split
    · next new heq => exact absurd heq (hwrite new)
    · rfl
    · rfl
  have hothers : ∀ j, j ≠ i → (s.enter i (.ended (apply (ops i) s.lines).2)).phase j =
      s.phase j := fun j hj => enter_phase_of_ne hj
  refine ⟨h.explains.append hopen (by rw [enter_phase_self, hthere]) hothers, ?_, ?_,
    fun j new hj => ?_, fun j new hj halone => ?_⟩
  · rw [serial_append, hlines, enter_lines, h.lines]
  · rcases h.part with ⟨hnil, hnone⟩ | ⟨k, first, rest, fine, next, more, hop', hk, hsplit, hunique⟩
    · refine .inl ⟨hnil, fun j hj => ?_⟩
      by_cases hji : j = i
      · subst hji
        rw [enter_phase_self] at hj
        exact hj
      · exact hnone j (hothers j hji ▸ hj)
    · have hki : k ≠ i := fun hki => by rw [hki, hidle] at hk; cases hk
      refine .inr ⟨k, first, rest, fine, next, more, hop', (hothers k hki).trans hk, hsplit,
        fun j hj happ => ?_⟩
      by_cases hji : j = i
      · subst hji
        rw [enter_phase_self] at happ
        exact happ
      · exact hunique j hj (hothers j hji ▸ happ)
  · by_cases hji : j = i
    · subst hji
      rw [enter_phase_self] at hj
      simp at hj
    · exact h.decided j new (hothers j hji ▸ hj)
  · by_cases hji : j = i
    · subst hji
      rw [enter_phase_self] at hj
      cases hj
    · refine h.temporary j new (hothers j hji ▸ hj) fun k hk hbusy => ?_
      by_cases hki : k = i
      · subst hki
        rw [hidle] at hbusy
        exact hbusy
      · exact halone k hk (by rwa [hothers k hki])

theorem Kept.step (h : Kept ops lines s order part) (hundisturbed : Undisturbed ops s i) :
    ∃ order' part', Kept ops lines (advance ops s i) order' part' := by
  cases hphase : s.phase i with
  | idle =>
    have hopen : ∀ outcome, s.phase i ≠ .ended outcome := by simp [hphase]
    have hnot : ¬(s.phase i).Appending := by simp [hphase, Phase.Appending]
    cases hop : ops i with
    | append first rest fine =>
      have halone : s.Alone i := hundisturbed (by
        rw [Alters, hphase]
        exact ⟨first, rest, fine, hop⟩)
      obtain ⟨rfl, -⟩ := h.part_nil halone hnot
      have happend : ∃ order' part', Kept ops lines (s.appendLine i first rest) order' part' :=
        h.appendLine halone hopen hop rfl h.lines
      simpa [advance, hphase, hop] using happend
    | overwrite new =>
      refine ⟨order, part, ?_⟩
      simp only [advance, hphase, hop]
      exact h.prepare (.inr ⟨enter_phase_self, rfl⟩) hopen hnot
        (fun j hj => enter_phase_of_ne hj) rfl (.inl hop)
    | rewrite decide stable =>
      cases hdecide : decide s.lines with
      | write new =>
        refine ⟨order, part, ?_⟩
        simp only [advance, hphase, hop, hdecide]
        exact h.prepare (.inl enter_phase_self) hopen hnot
          (fun j hj => enter_phase_of_ne hj) rfl (.inr ⟨decide, stable, hop, hdecide⟩)
      | keep | raise error =>
        refine ⟨order ++ [i], part, ?_⟩
        simp only [advance, hphase, hop, hdecide]
        simpa [hop, apply, hdecide] using h.leave hphase hop (by simp [hdecide])
  | read new =>
    refine ⟨order, part, ?_⟩
    simp only [advance, hphase]
    exact h.prepare (.inr ⟨enter_phase_self, rfl⟩) (by simp [hphase])
      (by simp [hphase, Phase.Appending]) (fun j hj => enter_phase_of_ne hj) rfl
      (h.decided i new (.inl hphase))
  | written new =>
    have halone : s.Alone i := hundisturbed (by simp [Alters, hphase])
    obtain ⟨rfl, -⟩ := h.part_nil halone (by simp [hphase, Phase.Appending])
    have hlines : s.lines = serial ops lines order := by simpa using h.lines
    have happly : apply (ops i) (serial ops lines order) = (new, .returned) := by
      rcases h.decided i new (.inr hphase) with hop | ⟨decide, stable, hop, hdecide⟩
      · rw [hop, apply]
      · rw [hop, apply, ← hlines, hdecide]
    refine ⟨order ++ [i], [], ?_⟩
    simp only [advance, hphase, h.temporary i new hphase halone]
    exact h.finish halone (by simp [hphase]) (by rw [enter_phase_self, happly])
      (fun j hj => enter_phase_of_ne hj) (by rw [happly]; rfl)
  | appending next rest =>
    have halone : s.Alone i := hundisturbed (by simp [Alters, hphase])
    rcases h.part with ⟨-, hnone⟩ | ⟨k, first, others, fine, next', more, hop, hk, hsplit, -⟩
    · exact absurd (by rw [hphase]; trivial) (hnone i)
    · obtain rfl : k = i := by
        by_contra hki
        exact halone k hki (by rw [hk]; trivial)
      obtain ⟨rfl, rfl⟩ : next = next' ∧ rest = more := by
        rw [hphase] at hk
        simpa using hk
      simpa only [advance, hphase] using h.appendLine halone (by simp [hphase]) hop hsplit h.lines
  | ended outcome => exact ⟨order, part, by simpa only [advance, hphase] using h⟩

end Steps

/-- Where no step changes the file while another operation is on its way, a serial order
explains every state. -/
theorem serializable {ops : Nat → Operation α ε good} {owner : Nat → Nat} {file : Option (List α)}
    {s : State α ε} (h : Reached ops owner (Undisturbed ops) file s) :
    Serializable ops (file.getD []) s := by
  suffices hkept : ∃ order part, Kept ops (file.getD []) s order part by
    obtain ⟨order, part, hkept⟩ := hkept
    refine ⟨order, hkept.explains, fun hnone => ?_⟩
    rcases hkept.part with ⟨hnil, -⟩ | ⟨i, -, -, -, next, more, -, hi, -, -⟩
    · rw [hkept.lines, hnil, List.append_nil]
    · exact absurd (by rw [hi]; trivial) (hnone i)
  induction h with
  | start =>
    exact ⟨[], [], ⟨List.nodup_nil, by simp [SharedFile.start], by simp⟩,
      by simp [State.lines, SharedFile.start, serial],
      .inl ⟨rfl, fun i => id⟩, by simp [SharedFile.start], by simp [SharedFile.start]⟩
  | step _ _ hcondition ih =>
    obtain ⟨order, part, hkept⟩ := ih
    exact hkept.step hcondition

end LocalMoe.Foundation.SharedFile
