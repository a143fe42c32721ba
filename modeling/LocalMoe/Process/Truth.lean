/-
  The permit, the cleanup and the result of a call tell the truth.
-/
import LocalMoe.Process.Execute

namespace LocalMoe.Process

open Foundation Foundation.Effect

/-! ## Streams -/

/-- A stream keeps the beginning of what it received, and counts and digests all of it. -/
structure BoundedStream.Sound (s : BoundedStream) : Prop where
  count : s.count = s.hashed.length
  retained : s.retained = s.hashed.take s.limit
  overflowed : s.overflowed = decide (s.limit < s.count)

theorem BoundedStream.sound_new (limit : Nat) : (BoundedStream.new limit).Sound where
  count := rfl
  retained := by simp [BoundedStream.new]
  overflowed := by simp [BoundedStream.new]

theorem BoundedStream.Sound.update {s : BoundedStream} (h : s.Sound) (chunk : List UInt8) :
    (s.update chunk).Sound where
  count := by
    change s.count + chunk.length = (s.hashed ++ chunk).length
    rw [List.length_append, h.count]
  retained := by
    change s.retained ++ chunk.take (s.limit - s.retained.length) = (s.hashed ++ chunk).take s.limit
    rw [h.retained, List.take_append, List.length_take]
    congr 2
    omega
  overflowed := by
    change (s.overflowed || decide (s.limit < s.count + chunk.length)) =
      decide (s.limit < s.count + chunk.length)
    rw [h.overflowed]
    by_cases hlimit : s.limit < s.count
    · have hmore : s.limit < s.count + chunk.length := Nat.lt_add_right _ hlimit
      rw [decide_eq_true hmore, Bool.or_true]
    · rw [decide_eq_false hlimit, Bool.false_or]

/-- Every stream is sound, and the writer's length is that of the content. -/
structure Sound (p : Policy) (s : State) : Prop where
  streams : ∀ reader, (s.streams reader).Sound
  expected : s.stdin.expected = p.stdinBytes

variable {s : State}

theorem Sound.frame {p : Policy} {t : State} (h : Sound p s) (hstreams : t.streams = s.streams)
    (hexpected : t.stdin.expected = s.stdin.expected) : Sound p t :=
  ⟨hstreams ▸ h.streams, hexpected.trans h.expected⟩

theorem sound_initial (p : Policy) : Sound p (initial p) where
  streams
    | .stdout | .stderr => BoundedStream.sound_new _
  expected := rfl

theorem Sound.onStream {p : Policy} (h : Sound p s) (reader : Reader)
    {f : BoundedStream → BoundedStream}
    (hf : ∀ stream : BoundedStream, stream.Sound → (f stream).Sound) :
    Sound p (s.onStream reader f) := by
  refine ⟨fun other => ?_, h.expected⟩
  change (Function.update s.streams reader (f (s.streams reader)) other).Sound
  by_cases hother : other = reader
  · subst hother
    rw [Function.update_self]
    exact hf _ (h.streams other)
  · rw [Function.update_of_ne hother]
    exact h.streams other

/-! ## Steps of the workers -/

/-- What no step of a worker touches. -/
structure Untouched (s t : State) : Prop where
  log : t.log = s.log
  returncode : t.returncode = s.returncode
  sound : ∀ {p : Policy}, Sound p s → Sound p t

theorem untouched_ite {c : Prop} [Decidable c] {t : State} (h : Untouched s t) :
    Untouched s (if c then t else s) := by
  split
  · exact h
  · exact ⟨rfl, rfl, id⟩

theorem untouched_step (s : State) (step : WorkerStep) : Untouched s (s.step step) := by
  cases step with
  | chunk reader bytes =>
    exact untouched_ite ⟨rfl, rfl, fun h => h.onStream reader fun _ hs => hs.update bytes⟩
  | endOfFile reader =>
    exact untouched_ite ⟨rfl, rfl, fun h => (h.onStream reader (f := BoundedStream.finish)
      fun _ hs => ⟨hs.count, hs.retained, hs.overflowed⟩).frame rfl rfl⟩
  | readFailed reader =>
    exact untouched_ite ⟨rfl, rfl, fun h => (h.onStream reader (f := BoundedStream.fail)
      fun _ hs => ⟨hs.count, hs.retained, hs.overflowed⟩).frame rfl rfl⟩
  | wrote count | writeFailed | flushed => exact untouched_ite ⟨rfl, rfl, fun h => h.frame rfl rfl⟩
  | ended worker => exact ⟨rfl, rfl, fun h => h.frame rfl rfl⟩

theorem untouched_steps (steps : List WorkerStep) (s : State) : Untouched s (s.steps steps) := by
  induction steps generalizing s with
  | nil => exact ⟨rfl, rfl, id⟩
  | cons step rest ih =>
    have hstep := untouched_step s step
    have hrest := ih (s.step step)
    exact ⟨hrest.log.trans hstep.log, hrest.returncode.trans hstep.returncode,
      fun h => hrest.sound (hstep.sound h)⟩

theorem joined_iff : s.joined = true ↔ ∀ worker, s.alive worker = false := by
  unfold State.joined
  constructor
  · intro h worker
    simp only [Bool.and_eq_true, Bool.not_eq_true'] at h
    rcases worker with (_ | _) | _
    · exact h.1.1
    · exact h.1.2
    · exact h.2
  · intro h
    simp only [h, Bool.not_false, Bool.and_self]

theorem steps_of_joined (steps : List WorkerStep) (h : s.joined = true) : s.steps steps = s := by
  have hdead := joined_iff.mp h
  induction steps with
  | nil => rfl
  | cons step rest ih =>
    have hstep : s.step step = s := by
      cases step with
      | chunk reader bytes | endOfFile reader | readFailed reader | wrote count | writeFailed
      | flushed => exact if_neg (by simp [hdead])
      | ended worker =>
        change { s with alive := Function.update s.alive worker false } = s
        rw [Function.update_eq_self_iff.mpr (hdead worker).symm]
    change (s.step step).steps rest = s
    rw [hstep]
    exact ih

/-! ## What the pieces keep -/

/-- A property that the workers, their starts and the polls keep. -/
structure Kept (I : State → Prop) : Prop where
  untouched : ∀ {s t : State}, Untouched s t → I s → I t
  returncode : ∀ {s : State} (code : Option Int), I s → I { s with returncode := s.returncode.or code }

/-- Sound streams, with something said of the trace. -/
def Traced (p : Policy) (P : List Touch → Prop) (s : State) : Prop := Sound p s ∧ P s.log

theorem kept_traced (p : Policy) (P : List Touch → Prop) : Kept (Traced p P) where
  untouched := fun h hs => ⟨h.sound hs.1, h.log ▸ hs.2⟩
  returncode := fun _ hs => ⟨hs.1.frame rfl rfl, hs.2⟩

theorem kept_returncode (value : Int) : Kept fun s => s.returncode = some value where
  untouched := fun h hs => h.returncode.trans hs
  returncode := fun code hs => by
    change Option.or _ code = _
    rw [hs]
    rfl

theorem Kept.and {I J : State → Prop} (hI : Kept I) (hJ : Kept J) : Kept fun s => I s ∧ J s where
  untouched := fun h hs => ⟨hI.untouched h hs.1, hJ.untouched h hs.2⟩
  returncode := fun code hs => ⟨hI.returncode code hs.1, hJ.returncode code hs.2⟩

theorem Kept.imp {I : State → Prop} (hI : Kept I) (c : Prop) : Kept fun s => c → I s where
  untouched := fun h hs hc => hI.untouched h (hs hc)
  returncode := fun code hs hc => hI.returncode code (hs hc)

section Kept

variable {I : State → Prop} {p : Policy}

theorem workers_kept (hI : Kept I) (steps : List WorkerStep) :
    Triple I (workers steps) (fun _ => I) (fun _ => I) :=
  .modify fun s h => hI.untouched (untouched_steps steps s) h

theorem keepReturncode_kept (hI : Kept I) (code : Option Int) :
    Triple I (keepReturncode code) (fun _ => I) (fun _ => I) :=
  .modify fun _ h => hI.returncode code h

theorem poll_spec (hI : Kept I) (outcome : Except Exc (Option Int)) :
    Triple I (poll outcome) (fun code s => I s ∧ s.returncode = code) (fun _ => I) :=
  .bind .ofExcept_kept fun code => .bind (keepReturncode_kept hI code) fun _ =>
    .bind (R := fun now s => I s ∧ now = s) (.get fun _ h => ⟨h, rfl⟩) fun _ =>
      .pure fun _ h => ⟨h.1, h.2 ▸ rfl⟩

theorem startWorker_kept (hI : Kept I) {script : SupervisionScript} (worker : Worker) :
    Triple I (startWorker script worker) (fun _ => I) (fun _ => I) :=
  .bind .ofExcept_kept fun _ => .bind
    (.modify fun s h => hI.untouched (show Untouched s (s.setAlive worker true) from
      ⟨rfl, rfl, fun h => h.frame rfl rfl⟩) h) fun _ => workers_kept hI _

theorem pollLoop_spec (hI : Kept I) (interruption : Exc) (rounds : List Round)
    (rootExitedAt : Option Nat) : Triple I (pollLoop p interruption rounds rootExitedAt)
      (fun terminal s => I s ∧ (terminal = .completed → s.returncode = some 0)) (fun _ => I) := by
  induction rounds generalizing rootExitedAt with
  | nil => exact .fail fun _ h => h
  | cons round rest ih =>
    have hother {terminal : Terminal} (hne : terminal ≠ .completed) :
        Triple I (Pure.pure terminal : Act Terminal)
          (fun terminal s => I s ∧ (terminal = .completed → s.returncode = some 0))
          (fun _ => I) := .pure fun _ h => ⟨h, fun heq => absurd heq hne⟩
    have hgoOn (exitedAt : Option Nat) : Triple I (do
          Effect.ofExcept round.wait
          workers round.during
          pollLoop p interruption rest exitedAt)
        (fun terminal s => I s ∧ (terminal = .completed → s.returncode = some 0)) (fun _ => I) :=
      .bind .ofExcept_kept fun _ => .bind (workers_kept hI _) fun _ => ih exitedAt
    unfold pollLoop
    refine .bind .ofExcept_kept fun observed => .ite (fun _ => .fail fun _ h => h) fun _ =>
      .bind (workers_kept hI _) fun _ => .bind .get_kept fun _ =>
      .ite (fun _ => hother (by decide)) fun _ => .bind (workers_kept hI _) fun _ =>
      .bind .get_kept fun _ => .ite (fun _ => hother (by decide)) fun _ =>
      .bind (workers_kept hI _) fun _ => .bind .get_kept fun _ =>
      .ite (fun _ => hother (by decide)) fun _ => .ite (fun _ => hother (by decide)) fun _ =>
      .bind (poll_spec hI _) fun code => ?_
    cases code with
    | none =>
      exact .bind ((workers_kept hI _).weaken (fun _ h => h.1) (fun _ _ h => h) fun _ _ h => h)
        fun _ => .bind .get_kept fun _ => hgoOn rootExitedAt
    | some code =>
      have hcode : Kept fun s => I s ∧ s.returncode = some code := hI.and (kept_returncode code)
      have hweaken {α : Type} {x : Act α} {Q : α → State → Prop} (h : Triple I x Q fun _ => I) :
          Triple (fun s => I s ∧ s.returncode = some code) x Q fun _ => I :=
        h.weaken (fun _ h => h.1) (fun _ _ h => h) fun _ _ h => h
      have hended : Triple (fun s => I s ∧ s.returncode = some code)
          (Pure.pure (if code = 0 then Terminal.completed else .nonzeroExit) : Act Terminal)
          (fun terminal s => I s ∧ (terminal = .completed → s.returncode = some 0))
          (fun _ => I) := by
        refine .pure fun s h => ⟨h.1, fun hcompleted => ?_⟩
        split at hcompleted
        · rename_i hzero
          rw [h.2, hzero]
        · cases hcompleted
      have hgoOn' (exitedAt : Option Nat) := hweaken (hgoOn exitedAt)
      refine .bind (R := fun _ s => I s ∧ s.returncode = some code)
        ((workers_kept hcode _).weaken (fun _ h => h) (fun _ _ h => h) fun _ _ h => h.1)
        fun _ => .bind (R := fun _ s => I s ∧ s.returncode = some code) (.get fun _ h => h)
        fun now => .ite (fun _ => hended) fun _ => ?_
      cases rootExitedAt with
      | none => exact hgoOn' (some round.now)
      | some exitedAt => exact .ite (fun _ => hended) fun _ => hgoOn' (some exitedAt)

theorem cleanupCalls_kept (hI : Kept I) (calls : List CleanupCall) :
    Triple I (cleanupCalls calls) (fun _ => I) (fun _ => I) := by
  induction calls with
  | nil => exact .pure fun _ h => h
  | cons call rest ih =>
    exact .bind (workers_kept hI _) fun _ => .bind .ofExcept_kept fun _ =>
      .bind (keepReturncode_kept hI _) fun _ => ih

theorem emergencyCalls_kept (hI : Kept I) (calls : List CleanupCall) {E : Exc → State → Prop} :
    Triple I (emergencyCalls calls) (fun _ => I) E := by
  induction calls with
  | nil => exact .pure fun _ h => h
  | cons call rest ih =>
    exact .bind (.modify fun s h => hI.untouched (untouched_steps _ s) h) fun _ =>
      .bind (.modify fun _ h => hI.returncode _ h) fun _ => ih

end Kept

/-! ## The trace of a call -/

/-- The traces after a launch that had a permit or not, before the cleanup. -/
def Owned (permit : Bool) (log : List Touch) : Prop :=
  let launched := if permit then [Touch.reserve true, .popen none] else [.popen none]
  log = launched ∨ (permit = true ∧ log = launched ++ [.commit])

/-- An owned trace, and the reports of the cleanups after it. -/
def Cleaned (permit : Bool) (log : List Touch) : Prop :=
  ∃ owned reports, Owned permit owned ∧ (∀ touch ∈ reports, ∃ verified, touch = .report verified) ∧
    log = owned ++ reports

variable {permit : Bool}

theorem Owned.cleaned {log : List Touch} (h : Owned permit log) : Cleaned permit log :=
  ⟨log, [], h, fun _ h => (by cases h), (List.append_nil log).symm⟩

theorem Cleaned.report {permit : Bool} {log : List Touch} (h : Cleaned permit log)
    (verified : Bool) : Cleaned permit (log ++ [.report verified]) := by
  obtain ⟨owned, reports, howned, hreports, rfl⟩ := h
  refine ⟨owned, reports ++ [.report verified], howned, fun touch htouch => ?_,
    List.append_assoc _ _ _⟩
  rcases List.mem_append.mp htouch with htouch | htouch
  · exact hreports touch htouch
  · exact ⟨verified, List.mem_singleton.mp htouch⟩

theorem commitPermit_spec {p : Policy} {script : SupervisionScript} :
    Triple (Traced p fun log => log = if permit then [Touch.reserve true, .popen none] else [.popen none])
      (commitPermit permit script) (fun _ => Traced p (Owned permit))
      (fun _ => Traced p (Owned permit)) := by
  unfold commitPermit
  refine .ite (fun hpermit => ?_) fun _ => .pure fun _ h => ⟨h.1, .inl h.2⟩
  refine .bind (R := fun _ => Traced p (Owned permit)) (.modify fun s h =>
    ⟨h.1.frame rfl rfl, .inr ⟨hpermit, ?_⟩⟩)
    fun _ => ?_
  · change s.log ++ [.commit] = _
    rw [h.2]
  · split
    · exact .pure fun _ h => h
    · exact .fail fun _ h => h

theorem supervise_spec {p : Policy} {script : SupervisionScript} :
    Triple (Traced p fun log => log = if permit then [Touch.reserve true, .popen none] else [.popen none])
      (supervise p permit script)
      (fun terminal s => Traced p (Owned permit) s ∧ (terminal = .completed → s.returncode = some 0))
      (fun _ => Traced p (Owned permit)) := by
  have hkept : Kept (Traced p (Owned permit)) := kept_traced _ _
  unfold supervise
  refine .bind (.ofExcept (fun _ _ _ h => h) fun _ _ _ h => ⟨h.1, .inl h.2⟩) fun observed =>
    .ite (fun _ => .fail fun _ h => ⟨h.1, .inl h.2⟩) fun _ => .bind commitPermit_spec fun _ => ?_
  exact .bind (.handle .ofExcept_kept fun _ => .fail fun _ h => h) fun _ => .bind .ofExcept_kept
    fun _ => .bind (startWorker_kept hkept _) fun _ => .bind (startWorker_kept hkept _) fun _ =>
    .bind (startWorker_kept hkept _) fun _ => pollLoop_spec hkept _ _ _

/-! ## Cleanups -/

/-- A trace with a verified report. -/
def Verified (permit : Bool) (log : List Touch) : Prop :=
  Cleaned permit log ∧ Touch.report true ∈ log

theorem emergencyCleanup_spec {p : Policy} {tracker : Bool} {script : CleanupScript}
    {E : Exc → State → Prop} :
    Triple (Traced p (Cleaned permit)) (emergencyCleanup p tracker script)
      (fun report s => Traced p (Cleaned permit) s ∧
        (report.verified = true → Touch.report true ∈ s.log)) E := by
  have hkept : Kept (Traced p (Cleaned permit)) := kept_traced _ _
  unfold emergencyCleanup
  refine .bind (emergencyCalls_kept hkept _) fun _ =>
    .bind (.modify fun _ h => hkept.returncode _ h) fun _ =>
    .bind (.modify fun s h => hkept.untouched (untouched_steps _ s) h) fun _ =>
    .bind (R := fun _ => Traced p (Cleaned permit)) (.get fun _ h => h) fun now => ?_
  refine .bind (R := fun _ s => Traced p (Cleaned permit) s ∧ Touch.report _ ∈ s.log)
    (.modify fun s h => ⟨⟨h.1.frame rfl rfl, h.2.report _⟩, List.mem_append_right _ List.mem_cons_self⟩)
    fun _ => .pure fun s h => ⟨h.1, fun hverified => ?_⟩
  change emergencyVerified _ _ _ _ _ = true at hverified
  rw [← hverified]
  exact h.2

theorem abandon_spec {p : Policy} {tracker : Bool} {script : CleanupScript} {e : Exc}
    {Q : Terminal → State → Prop} : Triple (Traced p (Owned permit)) (abandon p tracker script e) Q
      (fun e s => Traced p (Cleaned permit) s ∧
        (e ≠ .runtime .cleanup → Touch.report true ∈ s.log)) := by
  unfold abandon
  refine .bind (emergencyCleanup_spec.weaken (fun _ h => ⟨h.1, h.2.cleaned⟩) (fun _ _ h => h)
    fun _ _ h => h) fun report => .ite (fun hverified => .fail fun _ h => ?_) fun _ =>
    .fail fun _ h => ⟨h.1, fun hne => absurd rfl hne⟩
  exact ⟨h.1, fun _ => h.2 hverified⟩

theorem cleanupProcessTree_spec {p : Policy} {script : CleanupScript} {c : Prop} :
    Triple (fun s => Traced p (Owned permit) s ∧ (c → s.returncode = some 0))
      (cleanupProcessTree p script)
      (fun _ s => (Traced p (Verified permit) s ∧ (c → s.returncode = some 0)) ∧ s.joined = true)
      (fun _ => Traced p (Cleaned permit)) := by
  have hkept : Kept fun s => Traced p (Owned permit) s ∧ (c → s.returncode = some 0) :=
    (kept_traced _ _).and ((kept_returncode 0).imp c)
  have herror {α : Type} {x : Act α} {Q : α → State → Prop}
      (h : Triple (fun s => Traced p (Owned permit) s ∧ (c → s.returncode = some 0)) x Q
        fun _ s => Traced p (Owned permit) s ∧ (c → s.returncode = some 0)) :
      Triple (fun s => Traced p (Owned permit) s ∧ (c → s.returncode = some 0)) x Q
        fun _ => Traced p (Cleaned permit) :=
    h.weaken (fun _ h => h) (fun _ _ h => h) fun _ _ h => ⟨h.1.1, h.1.2.cleaned⟩
  unfold cleanupProcessTree
  refine .bind (herror (cleanupCalls_kept hkept _)) fun _ =>
    .bind ((herror (poll_spec hkept _)).weaken (fun _ h => h) (fun _ _ h => h.1) fun _ _ h => h)
    fun code => .bind (herror .ofExcept_kept) fun groupAlive =>
    .bind (herror .ofExcept_kept) fun live => .bind (herror (workers_kept hkept _)) fun _ =>
    .bind (herror .ofExcept_kept) fun _ =>
    .bind (R := fun now s => now = s ∧ Traced p (Owned permit) s ∧ (c → s.returncode = some 0))
      (.get fun _ h => ⟨rfl, h⟩) fun now => ?_
  dsimp only
  generalize hverdict : primaryVerified _ _ _ _ = verified
  refine .bind (R := fun _ s => (Traced p (Cleaned permit) s ∧ (c → s.returncode = some 0)) ∧
      Touch.report verified ∈ s.log ∧ s.joined = now.joined)
    (.modify ?_) fun _ => .ite (fun htrue => .pure fun s h => ?_) fun _ => .fail fun _ h => h.1.1
  · rintro s ⟨rfl, h⟩
    exact ⟨⟨⟨h.1.1.frame rfl rfl, h.1.2.cleaned.report _⟩, h.2⟩, List.mem_append_right _ List.mem_cons_self, rfl⟩
  · subst htrue
    refine ⟨⟨⟨h.1.1.1, h.1.1.2, h.2.1⟩, h.1.2⟩, ?_⟩
    rw [h.2.2]
    unfold primaryVerified at hverdict
    exact (Bool.and_eq_true_iff.mp hverdict).2

theorem cleanupOwnedProcess_spec {p : Policy} {primary emergency : CleanupScript} {c : Prop} :
    Triple (fun s => Traced p (Owned permit) s ∧ (c → s.returncode = some 0))
      (cleanupOwnedProcess p primary emergency)
      (fun _ s => (Traced p (Verified permit) s ∧ (c → s.returncode = some 0)) ∧ s.joined = true)
      (fun e s => Traced p (Cleaned permit) s ∧ e = .runtime .cleanup) := by
  unfold cleanupOwnedProcess
  exact .handle cleanupProcessTree_spec fun _ => .bind emergencyCleanup_spec fun _ =>
    .fail fun _ h => ⟨h.1, rfl⟩

/-! ## Launches -/

/-- The traces of a launch in which `Popen` did not return. -/
inductive Unlaunched (script : LaunchScript) : List Touch → Prop
  | early : Unlaunched script []
  | refused : Unlaunched script [.reserve false]
  | unpermitted (e : Exc) : Unlaunched script [.popen (some e)]
  | permitted (e : Exc) (hdirectory : script.directory = .ok ())
      (hreserve : script.reserve = some (.ok .permit)) (hpopen : script.popen = .error e) :
      Unlaunched script ([.reserve true, .popen (some e)] ++ if e = .os then [.release] else [])

/-- What the permit of a launch leaves in the trace. -/
def reservedLog (permit : Bool) : List Touch := if permit then [.reserve true] else []

theorem reserveLaunch_spec {p : Policy} {script : LaunchScript} :
    Triple (Traced p fun log => log = []) (reserveLaunch script)
      (fun permit s => Traced p (fun log => log = reservedLog permit) s ∧
        (permit = true → script.reserve = some (.ok .permit)))
      (fun _ => Traced p (Unlaunched script)) := by
  have hnote {P : List Touch → Prop} {touch : Touch} (hP : P [touch]) :
      Triple (Traced p fun log => log = []) (note touch) (fun _ => Traced p P)
        (fun _ => Traced p (Unlaunched script)) := by
    refine .modify fun s h => ⟨h.1.frame rfl rfl, ?_⟩
    change P (s.log ++ [touch])
    rw [h.2]
    exact hP
  unfold reserveLaunch
  split
  · exact .pure fun _ h => ⟨h, fun h => by cases h⟩
  · exact .bind (hnote .refused) fun _ => .fail fun _ h => h
  · exact .bind (hnote .refused) fun _ => .fail fun _ h => h
  · exact .bind (hnote .refused) fun _ => .fail fun _ h => h
  · rename_i hreserve
    exact .bind (hnote (P := fun log => log = reservedLog true) rfl) fun _ =>
      .pure fun _ h => ⟨h, fun _ => hreserve⟩

theorem launch_spec {p : Policy} {script : LaunchScript} :
    Triple (Traced p fun log => log = []) (launch script) (fun permit => Traced p fun log =>
        log = if permit then [Touch.reserve true, .popen none] else [.popen none])
      (fun _ => Traced p (Unlaunched script)) := by
  intro s hs
  unfold launch
  cases hdirectory : script.directory with
  | error e =>
    refine Triple.bind (R := fun _ _ => False) (P := Traced p fun log => log = [])
      (.ofExcept (fun _ h => (by cases h)) fun _ _ _ h => ⟨h.1, h.2 ▸ .early⟩)
      (fun _ _ h => h.elim) s hs
  | ok u =>
    refine Triple.bind (R := fun _ => Traced p fun log => log = [])
      (P := Traced p fun log => log = []) (.ofExcept (fun _ _ _ h => h) fun _ h => (by cases h))
      (fun _ => .bind reserveLaunch_spec fun permit => ?_) s hs
    have hnote (seen : Option Exc) : Triple (fun s => Traced p (fun log => log = reservedLog permit) s ∧
          (permit = true → script.reserve = some (.ok .permit))) (note (.popen seen))
        (fun _ s => Traced p (fun log => log = reservedLog permit ++ [.popen seen]) s ∧
          (permit = true → script.reserve = some (.ok .permit)))
        (fun _ => Traced p (Unlaunched script)) :=
      .modify fun s h => ⟨⟨h.1.1.frame rfl rfl, congrArg (· ++ [_]) h.1.2⟩, h.2⟩
    refine .bind (hnote _) fun _ => ?_
    cases hpopen : script.popen with
    | ok v =>
      refine .pure fun s h => ⟨h.1.1, h.1.2.trans ?_⟩
      cases permit <;> rfl
    | error e =>
      have hraised {s : State} (h : Traced p (fun log => log = reservedLog permit ++
            [.popen (some e)]) s ∧ (permit = true → script.reserve = some (.ok .permit)))
          (he : e ≠ .os) : Traced p (Unlaunched script) s := by
        refine ⟨h.1.1, h.1.2 ▸ ?_⟩
        cases permit with
        | false => exact .unpermitted e
        | true =>
          have hlog := Unlaunched.permitted e hdirectory (h.2 rfl) hpopen
          rwa [if_neg he] at hlog
      cases e with
      | os =>
        refine .bind (R := fun _ => Traced p (Unlaunched script)) ?_ fun _ => .fail fun _ h => h
        unfold releasePermit
        refine .ite (fun hpermit => ?_) fun hpermit => .pure fun s h => ?_
        · subst hpermit
          refine .bind (R := fun _ => Traced p (Unlaunched script)) (.modify fun s h => ?_)
            fun _ => ?_
          · refine ⟨h.1.1.frame rfl rfl, ?_⟩
            change Unlaunched script (s.log ++ [.release])
            rw [h.1.2]
            exact .permitted .os hdirectory (h.2 rfl) hpopen
          · split
            · exact .pure fun _ h => h
            · exact .fail fun _ h => h
        · cases permit with
          | false => exact ⟨h.1.1, h.1.2 ▸ .unpermitted .os⟩
          | true => exact absurd rfl hpermit
      | interrupt | otherBase => exact .fail fun _ h => hraised h (by decide)
      | runtime error => exact .fail fun _ h => hraised h (fun h => by cases h)
      | other => exact .fail fun _ h => hraised h (by decide)

end LocalMoe.Process
