/-
  A call keeps the discipline of its permit and its process exactly when `Popen` does not raise
  what the launch fails to handle.
-/
import LocalMoe.Process.Truth

namespace LocalMoe.Process

open Foundation Foundation.Effect

/-! ## The discipline -/

def Touch.isReserve : Touch → Bool
  | .reserve _ => true
  | _ => false

def Touch.isPopen : Touch → Bool
  | .popen _ => true
  | _ => false

structure Result.Truthful (p : Policy) (r : Result) : Prop where
  /-- What is retained is the beginning of what was received, and the rest is about all of it. -/
  sound : ∀ reader, (r.streams reader).Sound
  exited : r.code = .completed → r.returncode = some 0
  written : r.code = .completed → r.stdin.count = p.stdinBytes ∧ r.stdin.flushed = true ∧
    r.stdin.failed = false
  whole : r.code = .completed → ∀ reader, (r.streams reader).reachedEof = true ∧
    (r.streams reader).failed = false ∧ (r.streams reader).overflowed = false ∧
    (r.streams reader).retained = (r.streams reader).hashed

/-- The discipline of a call, by its trace and its end. -/
structure Disciplined (p : Policy) (log : List Touch) (outcome : Except Exc Result) : Prop where
  /-- No reservation comes after a reservation or after `Popen`. -/
  reserved : log.Pairwise fun before after =>
    after.isReserve = true → before.isReserve = false ∧ before.isPopen = false
  /-- A permit whose `Popen` raised an exception is released once, and never committed. -/
  released : Touch.reserve true ∈ log → ∀ e, Touch.popen (some e) ∈ log → e.isException = true →
    log.count .release = 1 ∧ Touch.commit ∉ log
  /-- After a launch a permit is never released, and committed at most once. -/
  committed : Touch.popen none ∈ log → Touch.release ∉ log ∧ log.count .commit ≤ 1
  /-- A launched process is left behind a verified cleanup, or by a cleanup error or an
  interrupt. -/
  cleaned : Touch.popen none ∈ log → outcome ≠ .error (.runtime .cleanup) →
    outcome ≠ .error .interrupt → Touch.report true ∈ log
  truthful : ∀ r, outcome = .ok r → r.Truthful p

/-- `Popen`, under a permit, raises an exception that is no `OSError`. -/
def PopenSlips (script : Script) : Prop :=
  script.preflight = .ok () ∧ script.launch.directory = .ok () ∧
    script.launch.reserve = some (.ok .permit) ∧
    ∃ e, script.launch.popen = .error e ∧ e.isException = true ∧ e ≠ .os

/-! ## Traces -/

variable {p : Policy}

theorem Unlaunched.disciplined {script : Script} {log : List Touch}
    (h : Unlaunched script.launch log) (hpreflight : script.preflight = .ok ())
    (hslips : ¬ PopenSlips script) {outcome : Except Exc Result} (hout : ∀ r, outcome ≠ .ok r) :
    Disciplined p log outcome := by
  have htruthful : ∀ r, outcome = .ok r → r.Truthful p := fun r hr => absurd hr (hout r)
  cases h with
  | early =>
    exact ⟨.nil, fun h => (by cases h), fun h => (by cases h), fun h => (by cases h), htruthful⟩
  | refused | unpermitted e =>
    refine ⟨List.pairwise_singleton _ _, ?_, ?_, ?_, htruthful⟩
    · intro h
      cases List.mem_singleton.mp h
    · intro h
      cases List.mem_singleton.mp h
    · intro h
      cases List.mem_singleton.mp h
  | permitted e hdirectory hreserve hpopen =>
    by_cases he : e = .os
    · subst he
      rw [if_pos rfl]
      refine ⟨?_, fun _ _ _ _ => ⟨by decide, by decide⟩, fun h => ?_, fun h => ?_, htruthful⟩
      · simp [Touch.isReserve]
      · exact absurd h (by decide)
      · exact absurd h (by decide)
    · rw [if_neg he, List.append_nil]
      refine ⟨?_, fun _ raised hraised hexception => ?_, fun h => ?_, fun h => ?_, htruthful⟩
      · simp [Touch.isReserve]
      · have hsame : raised = e := by simpa using hraised
        subst hsame
        exact absurd ⟨hpreflight, hdirectory, hreserve, raised, hpopen, hexception, he⟩ hslips
      · simp at h
      · simp at h

theorem Cleaned.disciplined {permit : Bool} {log : List Touch} (h : Cleaned permit log)
    {outcome : Except Exc Result}
    (hreport : outcome ≠ .error (.runtime .cleanup) → outcome ≠ .error .interrupt →
      Touch.report true ∈ log)
    (htruthful : ∀ r, outcome = .ok r → r.Truthful p) : Disciplined p log outcome := by
  obtain ⟨owned, reports, howned, hreports, rfl⟩ := h
  have hreserve : ∀ touch ∈ reports, touch.isReserve = false := fun touch htouch => by
    obtain ⟨_, rfl⟩ := hreports touch htouch
    rfl
  have hfree {touch : Touch} (hne : ∀ verified, touch ≠ .report verified) : touch ∉ reports :=
    fun htouch => by
      obtain ⟨verified, hverified⟩ := hreports touch htouch
      exact hne verified hverified
  have hpopen (e : Exc) : Touch.popen (some e) ∉ owned ∧ Touch.release ∉ owned ∧
      owned.count .commit ≤ 1 ∧ owned.Pairwise (fun before after =>
        after.isReserve = true → before.isReserve = false ∧ before.isPopen = false) := by
    rcases howned with rfl | ⟨rfl, rfl⟩
    · cases permit
      · simp
      · simp [Touch.isReserve]
    · simp [Touch.isReserve]
  refine ⟨?_, fun _ e he _ => ?_, fun _ => ⟨?_, ?_⟩, fun _ => hreport, htruthful⟩
  · refine List.pairwise_append.mpr ⟨(hpopen .os).2.2.2, ?_, fun before _ after hafter htrue => ?_⟩
    · exact List.pairwise_of_forall_mem_list fun before _ after hafter htrue => by
        rw [hreserve after hafter] at htrue
        cases htrue
    · rw [hreserve after hafter] at htrue
      cases htrue
  · rcases List.mem_append.mp he with he | he
    · exact absurd he (hpopen e).1
    · exact absurd he (hfree fun _ h => by cases h)
  · intro h
    rcases List.mem_append.mp h with h | h
    · exact (hpopen .os).2.1 h
    · exact hfree (fun _ h => by cases h) h
  · rw [List.count_append, List.count_eq_zero_of_not_mem (hfree fun _ h => by cases h)]
    exact (hpopen .os).2.2.1

/-! ## Results -/

theorem reclassify_completed {terminal : Terminal} {s : State}
    (h : reclassify terminal s = .completed) :
    terminal = .completed ∧ (s.streams .stdout).overflowed = false ∧
      (s.streams .stderr).overflowed = false ∧ (s.streams .stdout).failed = false ∧
      (s.streams .stderr).failed = false ∧ (s.streams .stdout).reachedEof = true ∧
      (s.streams .stderr).reachedEof = true ∧ s.stdin.complete = true := by
  unfold reclassify at h
  split at h
  · split at h
    · cases h
    · rename_i hstdout
      split at h
      · cases h
      · rename_i hstderr
        split at h
        · cases h
        · rename_i hio
          simp only [not_or, Bool.not_eq_true, Bool.not_eq_false] at hstdout hstderr hio
          exact ⟨h, hstdout, hstderr, hio⟩
  · rename_i hother
    exact absurd (.inl h) hother

theorem resultOf_truthful {terminal : Terminal} {report : CleanupReport} {s : State}
    (hsound : Sound p s) (hcode : terminal = .completed → s.returncode = some 0) :
    (resultOf terminal report s).Truthful p := by
  refine ⟨hsound.streams, fun h => ?_, fun h => ?_, fun h reader => ?_⟩
  · exact hcode (reclassify_completed h).1
  · obtain ⟨_, _, _, _, _, _, _, hstdin⟩ := reclassify_completed h
    unfold StdinState.complete at hstdin
    simp only [Bool.and_eq_true, Bool.not_eq_true', decide_eq_true_eq] at hstdin
    exact ⟨hstdin.1.2.trans hsound.expected, hstdin.2, hstdin.1.1⟩
  · obtain ⟨_, hstdout, hstderr, hfailed, hfailed', heof, heof', _⟩ := reclassify_completed h
    have hwhole {stream : BoundedStream} (hs : stream.Sound) (hover : stream.overflowed = false) :
        stream.retained = stream.hashed := by
      rw [hs.overflowed, decide_eq_false_iff_not, hs.count] at hover
      rw [hs.retained]
      exact List.take_of_length_le (Nat.le_of_not_lt hover)
    cases reader with
    | stdout => exact ⟨heof, hfailed, hstdout, hwhole (hsound.streams _) hstdout⟩
    | stderr => exact ⟨heof', hfailed', hstderr, hwhole (hsound.streams _) hstderr⟩

/-! ## The call -/

theorem executeProcess_spec {script : Script} :
    Triple (Traced p fun log => log = []) (executeProcess p script)
      (fun r s => ∃ permit, Verified permit s.log ∧ r.Truthful p)
      (fun e s => (script.preflight = .error e ∧ s.log = []) ∨
        (script.preflight = .ok () ∧ Unlaunched script.launch s.log) ∨
        ∃ permit, Cleaned permit s.log ∧
          (e ≠ .runtime .cleanup → Touch.report true ∈ s.log)) := by
  intro s hs
  unfold executeProcess
  cases hpreflight : script.preflight with
  | error e =>
    exact Triple.bind (R := fun _ _ => False) (P := Traced p fun log => log = [])
      (.ofExcept (fun _ h => (by cases h)) fun _ h _ hs => .inl ⟨h, hs.2⟩)
      (fun _ _ h => h.elim) s hs
  | ok u =>
    refine Triple.bind (R := fun _ => Traced p fun log => log = [])
      (P := Traced p fun log => log = []) (.ofExcept (fun _ _ _ h => h) fun _ h => (by cases h))
      (fun _ => ?_) s hs
    refine .bind (.handle launch_spec fun e => .fail fun s h => .inr (.inl ⟨rfl, h.2⟩))
      fun permit => .bind (.handle supervise_spec fun e =>
        abandon_spec.weaken (fun _ h => h) (fun _ _ h => h) fun _ _ h =>
          .inr (.inr ⟨permit, h.1.2, h.2⟩)) fun terminal =>
      .bind (.handle (@cleanupOwnedProcess_spec permit _ _ _ _) fun e =>
        .fail fun s h => .inr (.inr ⟨permit, h.1.2, ?_⟩)) fun report => ?_
    · rw [h.2]
      exact fun hne => absurd rfl hne
    · refine .bind (R := fun _ s => (Traced p (Verified permit) s ∧
          (terminal = .completed → s.returncode = some 0)) ∧ s.joined = true)
        (.modify fun s h => by rwa [steps_of_joined _ h.2]) fun _ => ?_
      exact .bind (R := fun now s => now = s ∧ Traced p (Verified permit) s ∧
          (terminal = .completed → s.returncode = some 0)) (.get fun _ h => ⟨rfl, h.1⟩)
        fun now => .pure fun s h => ⟨permit, h.2.1.2, h.1 ▸ resultOf_truthful h.2.1.1 h.2.2⟩

theorem executeProcess_slips {script : Script} (h : PopenSlips script) :
    ∃ e, e.isException = true ∧ (executeProcess p script (initial p)).1.log =
      [.reserve true, .popen (some e)] := by
  obtain ⟨hpreflight, hdirectory, hreserve, e, hpopen, hexception, he⟩ := h
  refine ⟨e, hexception, ?_⟩
  obtain ⟨preflight, ⟨directory, reserve, popen, release⟩, supervision, cleanup, emergency,
    afterwards⟩ := script
  cases hpreflight
  cases hdirectory
  cases hreserve
  cases hpopen
  cases e with
  | os => exact absurd rfl he
  | interrupt | otherBase => cases hexception
  | runtime error => rfl
  | other => rfl

/-- A call is disciplined exactly when `Popen` does not slip. -/
theorem disciplined_iff (p : Policy) (script : Script) :
    Disciplined p (executeProcess p script (initial p)).1.log
      (executeProcess p script (initial p)).2 ↔ ¬ PopenSlips script := by
  constructor
  · intro h hslips
    obtain ⟨e, hexception, hlog⟩ := executeProcess_slips (p := p) hslips
    rw [hlog] at h
    have hreleased := (h.released List.mem_cons_self e
      (List.mem_cons_of_mem _ List.mem_cons_self) hexception).1
    exact absurd hreleased (by simp)
  · intro hslips
    rcases executeProcess_spec.outcome (P := Traced p fun log => log = []) (s := initial p)
      ⟨sound_initial p, rfl⟩ with
      ⟨r, hr, permit, hverified, htruthful⟩ | ⟨e, he, hend⟩
    · rw [hr]
      refine hverified.1.disciplined (fun _ _ => hverified.2) fun r' hr' => ?_
      cases hr'
      exact htruthful
    · rw [he]
      rcases hend with ⟨_, hlog⟩ | ⟨hpreflight, hunlaunched⟩ | ⟨permit, hcleaned, hreport⟩
      · rw [hlog]
        exact ⟨.nil, fun h => (by cases h), fun h => (by cases h), fun h => (by cases h),
          fun r hr => by cases hr⟩
      · exact hunlaunched.disciplined hpreflight hslips fun r hr => by cases hr
      · refine hcleaned.disciplined (fun hne _ => hreport fun h => hne (h ▸ rfl))
          fun r hr => by cases hr

/-! ## A launch that slips -/

/-- A host where everything else goes well. -/
def quietPolicy : Policy := ⟨true, true, true, true, 16, 16, 0, 100, 5⟩

/-- `Popen` raises a `ValueError` under a permit. -/
def slippingScript : Script where
  preflight := .ok ()
  launch := ⟨.ok (), some (.ok .permit), .error .other, .ok ()⟩
  supervision := ⟨.ok true, .ok (), .ok (), .ok (), fun _ => .ok (), fun _ => [], [], .interrupt⟩
  cleanup := ⟨[], ⟨.ok (some 0), .ok false, .ok false, true, [], .ok ()⟩⟩
  emergency := ⟨[], ⟨.ok (some 0), .ok false, .ok false, true, [], .ok ()⟩⟩
  afterwards := []

/-- The permit of a slipping launch is never released, and the call speaks of a process that
does not exist. -/
theorem slipping_permit_lost :
    ¬ Disciplined quietPolicy (executeProcess quietPolicy slippingScript (initial quietPolicy)).1.log
        (executeProcess quietPolicy slippingScript (initial quietPolicy)).2 ∧
      (executeProcess quietPolicy slippingScript (initial quietPolicy)).1.log =
        [.reserve true, .popen (some .other)] := by
  refine ⟨fun h => ?_, rfl⟩
  have hreleased := (h.released List.mem_cons_self .other
    (List.mem_cons_of_mem _ List.mem_cons_self) rfl).1
  exact absurd hreleased (by decide)

end LocalMoe.Process
