/-
  The directory locks of the ledger and of the workspace.
-/
import LocalMoe.Foundation.Machine
import Mathlib.Algebra.Order.Field.Rat

namespace LocalMoe.Bridge.DirectoryLock

open Foundation

/-! ## The directory and the processes -/

/-- The two users of the protocol. -/
inductive Protocol where
  /-- `BridgeStateLedger._file_lock` with `_recover_stale_lock`. -/
  | ledger
  /-- `_acquire_transaction_lock` with `_release_transaction_lock`. -/
  | workspace
  deriving DecidableEq, Repr

/-- A process; the numbers stand for positive process ids. -/
abbrev Pid := Nat

/-- The directory under the name of the lock. -/
structure Directory where
  /-- Who made it; no code reads this. -/
  creator : Pid
  mtime : ℚ
  /-- The `pid` in `owner.json`. -/
  owner : Option Pid
  deriving DecidableEq

/-- What a process does next; `now` is the observation time of a ledger call. -/
inductive Phase where
  | outside
  /-- `mkdir`. -/
  | acquiring (now : ℚ)
  /-- `stat`, as the directory exists. -/
  | contended (now : ℚ)
  /-- Reading `owner.json`. -/
  | aged (now : ℚ) (stale : Bool)
  /-- `process_is_alive`. -/
  | ownerRead (now : ℚ) (stale : Bool) (pid : Option Pid)
  /-- Renaming the directory away. -/
  | condemned (now : ℚ)
  /-- Removing what was renamed. -/
  | renamed (now : ℚ)
  /-- Sleeping before the next `mkdir`. -/
  | waiting (now : ℚ)
  /-- The second `mkdir` of the workspace. -/
  | remaking
  /-- Writing `owner.json`, as the directory has been made. -/
  | made
  | inside
  /-- Unlinking `owner.json`. -/
  | releasing
  /-- `rmdir`. -/
  | unlinked
  | crashed
  deriving DecidableEq

/-- From the `mkdir` that succeeded to the end of the release. -/
def Phase.Holding : Phase → Prop
  | .made | .inside | .releasing | .unlinked => True
  | _ => False

instance : DecidablePred Phase.Holding
  | .made | .inside | .releasing | .unlinked => isTrue trivial
  | .outside | .acquiring _ | .contended _ | .aged _ _ | .ownerRead _ _ _ | .condemned _
  | .renamed _ | .waiting _ | .remaking | .crashed => isFalse id

structure State where
  lock : Option Directory
  phase : Pid → Phase

def State.init : State := ⟨none, fun _ => .outside⟩

/-- The state once a process goes on to another phase. -/
def State.goTo (s : State) (p : Pid) (phase : Phase) : State :=
  { s with phase := Function.update s.phase p phase }

@[simp] theorem State.goTo_phase (s : State) (p : Pid) (phase : Phase) :
    (s.goTo p phase).phase = Function.update s.phase p phase := rfl

/-- `process_is_alive`; a missing record is read as the pid -1, which no process has. -/
def State.processIsAlive (s : State) : Option Pid → Bool
  | none => false
  | some pid => s.phase pid ≠ .crashed

/-! ## The steps -/

section Steps

variable (protocol : Protocol) (staleSeconds : ℚ)

/-- After a lock that is not free: the ledger retries, the workspace raises. -/
def busy (now : ℚ) : Phase :=
  match protocol with
  | .ledger => .waiting now
  | .workspace => .outside

/-- `mkdir`: the lock when it succeeds. -/
def State.mkdir (s : State) (p : Pid) (time : ℚ) (exists_ : Phase) : State :=
  match s.lock with
  | none => { s.goTo p .made with lock := some ⟨p, time, none⟩ }
  | some _ => s.goTo p exists_

/-- The `stat` and the comparison of the age. -/
def State.judge (s : State) (p : Pid) (time now : ℚ) : State :=
  match s.lock with
  | none => s.goTo p (busy protocol now)
  | some d =>
    match protocol with
    | .ledger =>
      if now - d.mtime ≤ staleSeconds then s.goTo p (.waiting now)
      else s.goTo p (.aged now true)
    | .workspace => s.goTo p (.aged now (staleSeconds < time - d.mtime))

/-- Writing `owner.json`: the ledger overwrites a record, the workspace refuses to. -/
def State.writeOwner (s : State) (p : Pid) (time : ℚ) : State :=
  match protocol, s.lock with
  | .ledger, none => s.goTo p .releasing
  | .ledger, some d =>
    let mtime := if d.owner.isSome then d.mtime else time
    { s.goTo p .inside with lock := some { d with owner := some p, mtime := mtime } }
  | .workspace, none => s.goTo p .outside
  | .workspace, some d =>
    if d.owner.isSome then s.goTo p .outside
    else { s.goTo p .inside with lock := some { d with owner := some p, mtime := time } }

/-- `(lock / "owner.json").unlink(missing_ok=True)`; the workspace also syncs the
directory. -/
def State.unlinkOwner (s : State) (p : Pid) (time : ℚ) : State :=
  match protocol, s.lock with
  | .ledger, none => s.goTo p .unlinked
  | .workspace, none => s.goTo p .outside
  | _, some d =>
    let mtime := if d.owner.isSome then time else d.mtime
    { s.goTo p .unlinked with lock := some { d with owner := none, mtime := mtime } }

/-- `rmdir`, which only removes an empty directory. -/
def State.rmdir (s : State) (p : Pid) : State :=
  match s.lock with
  | some d => if d.owner.isSome then s.goTo p .outside
      else { s.goTo p .outside with lock := none }
  | none => s.goTo p .outside

/-- The rename of the takeover; the new name is fresh. -/
def State.takeAway (s : State) (p : Pid) (now : ℚ) : State :=
  match s.lock with
  | none => s.goTo p (busy protocol now)
  | some _ => { s.goTo p (.renamed now) with lock := none }

/-- The next system call of a process, at a time of its clock. -/
def State.advance (s : State) (p : Pid) (time : ℚ) : State :=
  match s.phase p with
  | .acquiring now => s.mkdir p time (.contended now)
  | .contended now => s.judge protocol staleSeconds p time now
  | .aged now stale => s.goTo p (.ownerRead now stale (s.lock.bind Directory.owner))
  | .ownerRead now stale pid =>
    if stale && !s.processIsAlive pid then s.goTo p (.condemned now)
    else s.goTo p (busy protocol now)
  | .condemned now => s.takeAway protocol p now
  | .renamed now =>
    match protocol with
    | .ledger => s.goTo p (.acquiring now)
    | .workspace => s.goTo p .remaking
  | .waiting now => s.goTo p (.acquiring now)
  | .remaking => s.mkdir p time .outside
  | .made => s.writeOwner protocol p time
  | .releasing => s.unlinkOwner protocol p time
  | .unlinked => s.rmdir p
  | .outside | .inside | .crashed => s

/-- The next system call of a process raises `OSError`. -/
def State.fail (s : State) (p : Pid) : State :=
  match s.phase p with
  | .acquiring now | .contended now | .condemned now | .renamed now =>
    s.goTo p (busy protocol now)
  | .aged now stale => s.goTo p (.ownerRead now stale none)
  | .made =>
    match protocol with
    | .ledger => s.goTo p .releasing
    | .workspace => s.goTo p .outside
  | .remaking | .releasing | .unlinked => s.goTo p .outside
  | .outside | .ownerRead _ _ _ | .waiting _ | .inside | .crashed => s

/-- What the scheduler may choose. -/
inductive Input where
  /-- A process asks for the lock. -/
  | start (p : Pid) (now : ℚ)
  | advance (p : Pid) (time : ℚ)
  | fail (p : Pid)
  /-- The body under the lock ends, normally or not. -/
  | leave (p : Pid)
  /-- The deadline of the ledger has passed. -/
  | giveUp (p : Pid)
  | crash (p : Pid)
  deriving DecidableEq

/-- The processes that share one lock. -/
def system : Machine State Input Unit where
  init := .init
  step s
    | .start p now => ((), match s.phase p with
        | .outside => s.goTo p (.acquiring now)
        | _ => s)
    | .advance p time => ((), s.advance protocol staleSeconds p time)
    | .fail p => ((), s.fail protocol p)
    | .leave p => ((), match s.phase p with
        | .inside => s.goTo p .releasing
        | _ => s)
    | .giveUp p => ((), match s.phase p with
        | .waiting _ => s.goTo p .outside
        | _ => s)
    | .crash p => ((), s.goTo p .crashed)

end Steps

/-! ## What a step does -/

/-- Who made the directory that has the name. -/
def State.maker (s : State) : Option Pid := s.lock.map Directory.creator

/-- The effects of a step on the directory and on the process that takes it. -/
inductive Effect (s : State) (i : Input) (s' : State) : Prop where
  /-- The directory stays, and nobody comes to hold the lock. -/
  | kept (p : Pid) (maker : s'.maker = s.maker)
      (others : ∀ q, q ≠ p → s'.phase q = s.phase q)
      (holding : (s'.phase p).Holding → (s.phase p).Holding) : Effect s i s'
  /-- The name was free and a process made the directory. -/
  | made (p : Pid) (free : s.lock = none) (maker : s'.maker = some p)
      (others : ∀ q, q ≠ p → s'.phase q = s.phase q) : Effect s i s'
  /-- A release removed the directory. -/
  | removed (p : Pid) (phase : s.phase p = .unlinked)
      (others : ∀ q, q ≠ p → s'.phase q = s.phase q)
      (left : ¬ (s'.phase p).Holding) : Effect s i s'
  /-- A takeover renamed the directory away. -/
  | taken (p : Pid) (time now : ℚ) (d : Directory) (input : i = .advance p time)
      (phase : s.phase p = .condemned now) (found : s.lock = some d)
      (others : ∀ q, q ≠ p → s'.phase q = s.phase q)
      (left : ¬ (s'.phase p).Holding) : Effect s i s'

section Effects

variable {protocol : Protocol} {staleSeconds : ℚ} {s : State} {i : Input} {p : Pid}

theorem effect_refl (p : Pid) : Effect s i s := .kept p rfl (fun _ _ => rfl) id

variable {phase : Phase}

theorem effect_goTo (h : phase.Holding → (s.phase p).Holding) : Effect s i (s.goTo p phase) := by
  refine .kept p rfl (fun q hq => Function.update_of_ne hq _ _) ?_
  rw [State.goTo_phase, Function.update_self]
  exact h

theorem effect_goTo_free (h : ¬ phase.Holding) : Effect s i (s.goTo p phase) :=
  effect_goTo fun hphase => absurd hphase h

theorem busy_not_holding (now : ℚ) : ¬ (busy protocol now).Holding := by
  cases protocol <;> exact id

theorem effect_relabel {d d' : Directory} (hlock : s.lock = some d)
    (hcreator : d'.creator = d.creator) (h : (s.phase p).Holding) :
    Effect s i { s.goTo p phase with lock := some d' } := by
  refine .kept p ?_ (fun q hq => Function.update_of_ne hq _ _) fun _ => h
  unfold State.maker
  rw [hlock, Option.map_some, Option.map_some, hcreator]

variable {time : ℚ}

theorem effect_mkdir (h : ¬ phase.Holding) : Effect s i (s.mkdir p time phase) := by
  unfold State.mkdir
  split
  · rename_i hfree
    exact .made p hfree rfl fun q hq => Function.update_of_ne hq _ _
  · exact effect_goTo_free h

theorem effect_judge {now : ℚ} : Effect s i (s.judge protocol staleSeconds p time now) := by
  unfold State.judge
  split
  · exact effect_goTo_free (busy_not_holding now)
  · split
    · split <;> exact effect_goTo_free id
    · exact effect_goTo_free id

theorem effect_writeOwner (h : s.phase p = .made) : Effect s i (s.writeOwner protocol p time) := by
  have hholding : (s.phase p).Holding := by
    rw [h]
    trivial
  unfold State.writeOwner
  split
  · exact effect_goTo fun _ => hholding
  · rename_i hlock
    exact effect_relabel hlock rfl hholding
  · exact effect_goTo_free id
  · rename_i hlock
    split
    · exact effect_goTo_free id
    · exact effect_relabel hlock rfl hholding

theorem effect_unlinkOwner (h : s.phase p = .releasing) :
    Effect s i (s.unlinkOwner protocol p time) := by
  have hholding : (s.phase p).Holding := by
    rw [h]
    trivial
  unfold State.unlinkOwner
  split
  · exact effect_goTo fun _ => hholding
  · exact effect_goTo_free id
  · rename_i hlock
    exact effect_relabel hlock rfl hholding

theorem effect_rmdir (h : s.phase p = .unlinked) : Effect s i (s.rmdir p) := by
  unfold State.rmdir
  split
  · split
    · exact effect_goTo_free id
    · refine .removed p h (fun q hq => Function.update_of_ne hq _ _) ?_
      change ¬ (Function.update s.phase p Phase.outside p).Holding
      rw [Function.update_self]
      exact id
  · exact effect_goTo_free id

theorem effect_takeAway {now : ℚ} (h : s.phase p = .condemned now) :
    Effect s (.advance p time) (s.takeAway protocol p now) := by
  unfold State.takeAway
  split
  · exact effect_goTo_free (busy_not_holding now)
  · rename_i d hlock
    refine .taken p time now d rfl h hlock (fun q hq => Function.update_of_ne hq _ _) ?_
    change ¬ (Function.update s.phase p (Phase.renamed now) p).Holding
    rw [Function.update_self]
    exact id

theorem effect_advance (time : ℚ) :
    Effect s (.advance p time) (s.advance protocol staleSeconds p time) := by
  unfold State.advance
  split
  case h_1 => exact effect_mkdir id
  case h_2 => exact effect_judge
  case h_3 => exact effect_goTo_free id
  case h_4 =>
    split
    · exact effect_goTo_free id
    · exact effect_goTo_free (busy_not_holding _)
  case h_5 => exact effect_takeAway ‹_›
  case h_6 => split <;> exact effect_goTo_free id
  case h_7 => exact effect_goTo_free id
  case h_8 => exact effect_mkdir id
  case h_9 => exact effect_writeOwner ‹_›
  case h_10 => exact effect_unlinkOwner ‹_›
  case h_11 => exact effect_rmdir ‹_›
  all_goals exact effect_refl p

theorem effect_fail : Effect s (.fail p) (s.fail protocol p) := by
  unfold State.fail
  split
  case h_5 => exact effect_goTo_free id
  case h_6 hmade =>
    split
    · refine effect_goTo fun _ => ?_
      rw [hmade]
      trivial
    · exact effect_goTo_free id
  all_goals first
    | exact effect_goTo_free (busy_not_holding _)
    | exact effect_goTo_free id
    | exact effect_refl p

theorem step_effect (protocol : Protocol) (staleSeconds : ℚ) (s : State) (i : Input) :
    Effect s i ((system protocol staleSeconds).next s i) := by
  cases i with
  | start p now =>
    change Effect s _ (match s.phase p with
      | .outside => s.goTo p (.acquiring now)
      | _ => s)
    split
    · exact effect_goTo_free id
    · exact effect_refl p
  | advance p time => exact effect_advance time
  | fail p => exact effect_fail
  | leave p =>
    change Effect s _ (match s.phase p with
      | .inside => s.goTo p .releasing
      | _ => s)
    split
    · rename_i hinside
      refine effect_goTo fun _ => ?_
      rw [hinside]
      trivial
    · exact effect_refl p
  | giveUp p =>
    change Effect s _ (match s.phase p with
      | .waiting _ => s.goTo p .outside
      | _ => s)
    split
    · exact effect_goTo_free id
    · exact effect_refl p
  | crash p => exact effect_goTo_free id

end Effects

/-! ## Mutual exclusion -/

/-- At most one process is between its acquisition and the end of its release. -/
def State.Exclusive (s : State) : Prop :=
  ∀ p q, (s.phase p).Holding → (s.phase q).Holding → p = q

/-- The process holds the lock and the directory is the one it made. -/
def State.Owns (s : State) (p : Pid) : Prop := (s.phase p).Holding ∧ s.maker = some p

/-- A process that releases leaves the directory of any other holder alone. -/
def ReleasesOwn (M : Machine State Input Unit) (s : State) : Prop :=
  ∀ p q time, s.phase p = .releasing ∨ s.phase p = .unlinked → q ≠ p → s.Owns q →
    (M.next s (.advance p time)).lock = s.lock

/-- The step is a takeover that renames away the directory of a process that still holds
the lock. -/
def takesLive (s : State) : Input → Bool
  | .advance p _ =>
    match s.phase p, s.lock with
    | .condemned _, some d => (s.phase d.creator).Holding
    | _, _ => false
  | _ => false

/-- No step of that kind. -/
def Orderly (s : State) (i : Input) : Prop := takesLive s i = false

instance (s : State) (i : Input) : Decidable (Orderly s i) :=
  inferInstanceAs (Decidable (takesLive s i = false))

/-- Whoever holds the lock made the directory. -/
def State.Sound (s : State) : Prop := ∀ p, (s.phase p).Holding → s.maker = some p

theorem State.Sound.exclusive {s : State} (h : s.Sound) : s.Exclusive := by
  intro p q hp hq
  have hsame := h p hp
  rw [h q hq] at hsame
  exact (Option.some.inj hsame).symm

theorem State.Sound.releasesOwn {s : State} (h : s.Sound) (M : Machine State Input Unit) :
    ReleasesOwn M s := by
  rintro p q time hphase hne ⟨hq, -⟩
  have hp : (s.phase p).Holding := by
    rcases hphase with hphase | hphase <;> rw [hphase] <;> trivial
  exact absurd (h.exclusive q p hq hp) hne

theorem State.Sound.step {protocol : Protocol} {staleSeconds : ℚ} {s : State} (h : s.Sound)
    {i : Input} (hi : Orderly s i) : ((system protocol staleSeconds).next s i).Sound := by
  have heffect := step_effect protocol staleSeconds s i
  generalize (system protocol staleSeconds).next s i = s' at heffect ⊢
  intro q hq
  cases heffect with
  | kept p hmaker hothers hholding =>
    rw [hmaker]
    by_cases hqp : q = p
    · subst hqp
      exact h q (hholding hq)
    · rw [hothers q hqp] at hq
      exact h q hq
  | made p hfree hmaker hothers =>
    by_cases hqp : q = p
    · rw [hqp]
      exact hmaker
    · rw [hothers q hqp] at hq
      have hnone := h q hq
      rw [State.maker, hfree] at hnone
      cases hnone
  | removed p hphase hothers hleft =>
    by_cases hqp : q = p
    · exact absurd (hqp ▸ hq) hleft
    · rw [hothers q hqp] at hq
      have hp : (s.phase p).Holding := by
        rw [hphase]
        trivial
      exact absurd (h.exclusive q p hq hp) hqp
  | taken p time now d hinput hphase hfound hothers hleft =>
    by_cases hqp : q = p
    · exact absurd (hqp ▸ hq) hleft
    · rw [hothers q hqp] at hq
      have hmaker := h q hq
      rw [State.maker, hfound, Option.map_some] at hmaker
      have hcreator : d.creator = q := Option.some.inj hmaker
      rw [hinput] at hi
      simp only [Orderly, takesLive, hphase, hfound, decide_eq_false_iff_not] at hi
      exact absurd (hcreator ▸ hq) hi

/-- In every run in which no takeover renames away the directory of a process that still
holds the lock, every state is exclusive and every release leaves the others alone. -/
theorem orderly_run_exclusive (protocol : Protocol) (staleSeconds : ℚ)
    (before after : List Input)
    (h : (system protocol staleSeconds).Admits Orderly .init (before ++ after)) :
    ((system protocol staleSeconds).exec .init before).Exclusive ∧
      ReleasesOwn (system protocol staleSeconds)
        ((system protocol staleSeconds).exec .init before) := by
  have hbefore := ((system protocol staleSeconds).admits_append Orderly _ _ _).mp h
  have hsound : ((system protocol staleSeconds).exec .init before).Sound :=
    hbefore.1.exec (fun s i hi hs => hs.step hi) nofun
  exact ⟨hsound.exclusive, hsound.releasesOwn _⟩

/-! ### Two takers -/

/-- Process 2 crashed inside; processes 0 and 1 find its lock stale, 0 takes it over and
makes its own, and 1 renames that one away. -/
def twoTakers : List Input :=
  let inspect (p : Pid) : List Input :=
    [.start p 100, .advance p 100, .advance p 100, .advance p 100, .advance p 100]
  [.start 2 0, .advance 2 0, .advance 2 0, .crash 2] ++ inspect 0 ++ inspect 1 ++
    [.advance 0 100, .advance 0 100, .advance 0 100, .advance 0 100] ++
    [.advance 1 100, .advance 1 100, .advance 1 100, .advance 1 100]

theorem twoTakers_break (protocol : Protocol) :
    ¬ ((system protocol 60).exec .init twoTakers).Exclusive ∧
      ¬ ReleasesOwn (system protocol 60)
        ((system protocol 60).exec .init (twoTakers ++ [.leave 0])) := by
  constructor
  · intro h
    have hsame := h 0 1 (by cases protocol <;> decide +kernel)
      (by cases protocol <;> decide +kernel)
    cases hsame
  · intro h
    have hkept := h 0 1 200 (.inl (by cases protocol <;> decide +kernel)) (by decide)
      ⟨by cases protocol <;> decide +kernel, by cases protocol <;> decide +kernel⟩
    revert hkept
    cases protocol <;> decide +kernel

/-- Neither lock excludes, and neither release looks at the owner. -/
theorem lock_not_exclusive :
    ¬ (∀ inputs, ((system .ledger 60).exec .init inputs).Exclusive) ∧
    ¬ (∀ inputs, ReleasesOwn (system .ledger 60) ((system .ledger 60).exec .init inputs)) ∧
    ¬ (∀ inputs, ((system .workspace 60).exec .init inputs).Exclusive) ∧
    ¬ (∀ inputs,
      ReleasesOwn (system .workspace 60) ((system .workspace 60).exec .init inputs)) := by
  obtain ⟨hledger, hledger'⟩ := twoTakers_break .ledger
  obtain ⟨hworkspace, hworkspace'⟩ := twoTakers_break .workspace
  exact ⟨fun h => hledger (h _), fun h => hledger' (h _), fun h => hworkspace (h _),
    fun h => hworkspace' (h _)⟩

/-- The run in which only process 0 takes the stale lock over. -/
def oneTaker : List Input := twoTakers.take 9 ++ List.replicate 4 (.advance 0 100)

theorem oneTaker_exclusive : ((system .ledger 60).exec .init oneTaker).Exclusive := by
  have h : (system .ledger 60).Admits Orderly .init (oneTaker ++ []) := by decide +kernel
  exact (orderly_run_exclusive .ledger 60 oneTaker [] h).1

end LocalMoe.Bridge.DirectoryLock
