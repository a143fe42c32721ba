/-
  Jobs keep their schedule over calls.
-/
import LocalMoe.Scheduler.Cron

namespace LocalMoe.Scheduler

/-! ## What is due -/

section Due

variable {jobs : List CronJob} {times : RunTimes} {now : ℚ} {job : CronJob} {reason : String}

/-- When a job may run: it is enabled, and it has not run, or not within its interval. -/
def Due (times : RunTimes) (now : ℚ) (job : CronJob) : Prop :=
  job.enabled = true ∧
    match job.schedule with
    | .manual => False
    | .startup => times job.id = none
    | .interval seconds => 0 < seconds ∧ seconds ≤ now - (times job.id).getD 0

theorem due_of_mem (h : (job, reason) ∈ dueJobs jobs times now) : job ∈ jobs ∧ Due times now job := by
  obtain ⟨other, hmem, hother⟩ := List.mem_filterMap.mp h
  obtain ⟨found, hfound, heq⟩ := Option.map_eq_some_iff.mp hother
  obtain ⟨rfl, rfl⟩ := Prod.mk.inj heq
  refine ⟨hmem, ?_⟩
  unfold dueReason at hfound
  unfold Due
  rcases henabled : other.enabled with _ | _
  · simp [henabled] at hfound
  · refine ⟨rfl, ?_⟩
    rcases hschedule : other.schedule with _ | _ | seconds
    · simp [henabled, hschedule] at hfound
    · rcases htime : times other.id with _ | time
      · rfl
      · simp [henabled, hschedule, htime] at hfound
    · by_cases hpositive : seconds ≤ 0
      · simp [henabled, hschedule, hpositive] at hfound
      · by_cases hwait : seconds ≤ now - (times other.id).getD 0
        · exact ⟨not_le.mp hpositive, hwait⟩
        · simp [henabled, hschedule, hpositive, hwait] at hfound

end Due

/-! ## The loop -/

section Loop

variable (call : Call)

/-- The jobs that a call executes, once they are due. -/
def Runnable (job : CronJob) : Bool :=
  !call.dryRun && (isAllowlistedAction job &&
    (!requiresWriteConfirmation job.riskClass || call.confirmWrites))

/-- What a stretch of the loop adds to the progress. -/
structure Advances (before after : Progress) (due : List (CronJob × String)) : Prop where
  executed : ∀ job ∈ after.executed, job ∈ before.executed ∨
    ∃ reason, (job, reason) ∈ due ∧ Runnable call job = true
  files : ∀ file ∈ after.files, file ∈ before.files ∨
    ∃ job reason, (job, reason) ∈ due ∧ Runnable call job = true ∧
      file ∈ (runAllowedJob job reason).files
  times : ∀ id, after.times id = before.times id ∨
    after.times id = some call.now ∧ ∃ job reason, (job, reason) ∈ due ∧ job.id = id

/-- What it adds where no job raises. -/
structure Completes (before after : Progress) (due : List (CronJob × String)) : Prop where
  results : after.results.map CronRunResult.id =
    before.results.map CronRunResult.id ++ due.map fun entry => entry.1.id
  executed : after.executed =
    before.executed ++ (due.map Prod.fst).filter (Runnable call)
  recorded : ∀ result ∈ after.results, result ∈ before.results ∨
    (result.status = .ok → after.times result.id = some call.now)

variable {call} {before middle after : Progress} {job : CronJob} {reason : String}
  {due more : List (CronJob × String)}

theorem runAllowedJob_id (job : CronJob) (reason : String) :
    (runAllowedJob job reason).result.id = job.id := by
  unfold runAllowedJob
  split
  · rfl
  · dsimp only
    repeat' split
    all_goals rfl

theorem runJob_cases (call : Call) (before : Progress) (job : CronJob) (reason : String) :
    (Runnable call job = false ∧ ∃ result : CronRunResult, result.id = job.id ∧
      result.status ≠ .ok ∧ runJob call before job reason =
        ({ before with results := before.results ++ [result] }, false)) ∨
    (Runnable call job = true ∧ call.raises job = true ∧ runJob call before job reason =
      ({ before with
          executed := before.executed ++ [job]
          files := before.files ++ (runAllowedJob job reason).files }, true)) ∨
    (Runnable call job = true ∧ call.raises job = false ∧ runJob call before job reason =
      (⟨if (runAllowedJob job reason).result.status = .ok then
          Function.update before.times job.id (some call.now) else before.times,
        before.executed ++ [job], before.files ++ (runAllowedJob job reason).files,
        before.results ++ [(runAllowedJob job reason).result]⟩, false)) := by
  unfold runJob Runnable
  rcases hdry : call.dryRun with _ | _
  · rcases hlisted : isAllowlistedAction job with _ | _
    · exact .inl ⟨rfl, cronError job reason ("Unsupported cron action: " ++ job.command.headD ""),
        rfl, by simp [cronError], by simp⟩
    · rcases hneeds : requiresWriteConfirmation job.riskClass && !call.confirmWrites with _ | _
      · have hrun : (!requiresWriteConfirmation job.riskClass || call.confirmWrites) = true := by
          revert hneeds
          cases requiresWriteConfirmation job.riskClass <;> cases call.confirmWrites <;> decide
        rcases hraises : call.raises job with _ | _
        · exact .inr (.inr ⟨by simpa using hrun, rfl, by simp⟩)
        · exact .inr (.inl ⟨by simpa using hrun, rfl, by simp⟩)
      · have hrun : (!requiresWriteConfirmation job.riskClass || call.confirmWrites) = false := by
          revert hneeds
          cases requiresWriteConfirmation job.riskClass <;> cases call.confirmWrites <;> decide
        refine .inl ⟨by simpa using hrun, ⟨job.id, .needsConfirmation, reason, job.command,
          "Job writes local files and requires confirm_writes=true."⟩, rfl, by simp, by simp⟩
  · exact .inl ⟨rfl, ⟨job.id, .dryRun, reason, job.command,
      "Job is due but was not executed."⟩, rfl, by simp, by simp⟩

theorem Advances.refl : Advances call before before [] :=
  ⟨fun _ h => .inl h, fun _ h => .inl h, fun _ => .inl rfl⟩

theorem Advances.trans (h : Advances call before middle due) (h' : Advances call middle after more) :
    Advances call before after (due ++ more) := by
  refine ⟨fun job hjob => ?_, fun file hfile => ?_, fun id => ?_⟩
  · rcases h'.executed job hjob with hjob | ⟨reason, hmem, hrun⟩
    · exact (h.executed job hjob).imp_right fun ⟨reason, hmem, hrun⟩ =>
        ⟨reason, List.mem_append_left _ hmem, hrun⟩
    · exact .inr ⟨reason, List.mem_append_right _ hmem, hrun⟩
  · rcases h'.files file hfile with hfile | ⟨job, reason, hmem, hrest⟩
    · exact (h.files file hfile).imp_right fun ⟨job, reason, hmem, hrest⟩ =>
        ⟨job, reason, List.mem_append_left _ hmem, hrest⟩
    · exact .inr ⟨job, reason, List.mem_append_right _ hmem, hrest⟩
  · rcases h'.times id with hid | ⟨hid, job, reason, hmem, hjob⟩
    · rw [hid]
      exact (h.times id).imp_right fun ⟨hnow, job, reason, hmem, hjob⟩ =>
        ⟨hnow, job, reason, List.mem_append_left _ hmem, hjob⟩
    · exact .inr ⟨hid, job, reason, List.mem_append_right _ hmem, hjob⟩

theorem runJob_advances (call : Call) (before : Progress) (job : CronJob) (reason : String) :
    Advances call before (runJob call before job reason).1 [(job, reason)] := by
  have hself : (job, reason) ∈ [(job, reason)] := List.mem_singleton.mpr rfl
  rcases runJob_cases call before job reason with ⟨-, result, -, -, hstep⟩ | ⟨hrun, -, hstep⟩ |
    ⟨hrun, -, hstep⟩
  · rw [hstep]
    exact ⟨fun _ h => .inl h, fun _ h => .inl h, fun _ => .inl rfl⟩
  · rw [hstep]
    refine ⟨fun other h => ?_, fun file h => ?_, fun _ => .inl rfl⟩
    · exact (List.mem_append.mp h).imp_right fun h => by
        rw [List.mem_singleton.mp h]
        exact ⟨reason, hself, hrun⟩
    · exact (List.mem_append.mp h).imp_right fun h => ⟨job, reason, hself, hrun, h⟩
  · rw [hstep]
    refine ⟨fun other h => ?_, fun file h => ?_, fun id => ?_⟩
    · exact (List.mem_append.mp h).imp_right fun h => by
        rw [List.mem_singleton.mp h]
        exact ⟨reason, hself, hrun⟩
    · exact (List.mem_append.mp h).imp_right fun h => ⟨job, reason, hself, hrun, h⟩
    · dsimp only
      split
      · by_cases hid : id = job.id
        · exact .inr ⟨by rw [hid, Function.update_self], job, reason, hself, hid.symm⟩
        · exact .inl (Function.update_of_ne hid _ _)
      · exact .inl rfl

theorem runJobs_advances (call : Call) (before : Progress) (due : List (CronJob × String)) :
    Advances call before (runJobs call before due).1 due := by
  induction due generalizing before with
  | nil => exact .refl
  | cons entry rest ih =>
    obtain ⟨job, reason⟩ := entry
    have hstep := runJob_advances call before job reason
    rw [runJobs]
    rcases hrun : runJob call before job reason with ⟨next, raised⟩
    rw [hrun] at hstep
    cases raised with
    | true =>
      refine ⟨fun other h => ?_, fun file h => ?_, fun id => ?_⟩
      · exact (hstep.executed other h).imp_right fun ⟨r, hmem, hr⟩ =>
          ⟨r, List.mem_append_left rest hmem, hr⟩
      · exact (hstep.files file h).imp_right fun ⟨j, r, hmem, hr⟩ =>
          ⟨j, r, List.mem_append_left rest hmem, hr⟩
      · exact (hstep.times id).imp_right fun ⟨hnow, j, r, hmem, hr⟩ =>
          ⟨hnow, j, r, List.mem_append_left rest hmem, hr⟩
    | false => exact hstep.trans (ih next)

theorem runJobs_completes (call : Call) (before : Progress) (due : List (CronJob × String))
    (h : (runJobs call before due).2 = false) :
    Completes call before (runJobs call before due).1 due := by
  induction due generalizing before with
  | nil => exact ⟨by simp [runJobs], by simp [runJobs], fun _ hresult => .inl hresult⟩
  | cons entry rest ih =>
    obtain ⟨job, reason⟩ := entry
    rw [runJobs] at h ⊢
    rcases runJob_cases call before job reason with ⟨hrun, result, hid, hstatus, hstep⟩ |
      ⟨-, -, hstep⟩ | ⟨hrun, -, hstep⟩
    · rw [hstep] at h ⊢
      have hrest := ih _ h
      refine ⟨by simpa [hid] using hrest.results, by simpa [hrun] using hrest.executed,
        fun other hother => ?_⟩
      rcases hrest.recorded other hother with hmem | hrecorded
      · rcases List.mem_append.mp hmem with hmem | hmem
        · exact .inl hmem
        · rw [List.mem_singleton.mp hmem]
          exact .inr fun hok => absurd hok hstatus
      · exact .inr hrecorded
    · rw [hstep] at h
      cases h
    · rw [hstep] at h ⊢
      have hrest := ih _ h
      refine ⟨by simpa [runAllowedJob_id] using hrest.results,
        by simpa [hrun] using hrest.executed, fun other hother => ?_⟩
      rcases hrest.recorded other hother with hmem | hrecorded
      · rcases List.mem_append.mp hmem with hmem | hmem
        · exact .inl hmem
        · rw [List.mem_singleton.mp hmem]
          refine .inr fun hok => ?_
          rw [runAllowedJob_id]
          rcases (runJobs_advances call _ rest).times job.id with hsame | ⟨hnow, -⟩
          · rw [hsame]
            simp [hok]
          · exact hnow
      · exact .inr hrecorded

end Loop

/-! ## A call, and calls -/

/-- What a call promises by itself. -/
structure CallKeeps (call : Call) (file : StateFile) : Prop where
  /-- Where it returns, every due job has a result, those that may run were executed, whatever
  the others answered, and each that is `ok` is recorded. -/
  complete : ∀ times results, (runDueJobs call file).summary = some (times, results) →
    ∃ before, file = some before ∧
      results.map CronRunResult.id =
        (dueJobs call.jobs before call.now).map (fun entry => entry.1.id) ∧
      (runDueJobs call file).executed =
        ((dueJobs call.jobs before call.now).map Prod.fst).filter (Runnable call) ∧
      (∀ result ∈ results, result.status = .ok → times result.id = some call.now) ∧
      (call.dryRun = false → (runDueJobs call file).file = some times)
  dryRun : call.dryRun = true → (runDueJobs call file).executed = [] ∧
    (runDueJobs call file).files = [] ∧ (runDueJobs call file).file = file
  /-- Without confirmation, a job whose declared class needs one is not executed, and files are
  written only by the two actions that do not look at the class. -/
  gated : call.confirmWrites = false →
    (∀ job ∈ (runDueJobs call file).executed, requiresWriteConfirmation job.riskClass = false) ∧
    ∀ path ∈ (runDueJobs call file).files, ∃ job ∈ call.jobs,
      requiresWriteConfirmation job.riskClass = false ∧
      (job.command.head? = some "memory.prune_expired" ∨ job.command.head? = some "router.distill")

section Calls

variable {call : Call} {file : StateFile} {job : CronJob}

theorem not_runnable_of_dryRun (h : call.dryRun = true) : Runnable call job = false := by
  simp [Runnable, h]

theorem not_requires_of_runnable (h : Runnable call job = true) (hwrites : call.confirmWrites = false) :
    requiresWriteConfirmation job.riskClass = false := by
  simp only [Runnable, hwrites, Bool.or_false, Bool.and_eq_true, Bool.not_eq_eq_eq_not,
    Bool.not_true] at h
  exact h.2.2

theorem writes_of_not_requires {reason path : String}
    (hrequires : requiresWriteConfirmation job.riskClass = false)
    (h : path ∈ (runAllowedJob job reason).files) :
    job.command.head? = some "memory.prune_expired" ∨
      job.command.head? = some "router.distill" := by
  unfold runAllowedJob at h
  split at h
  · cases h
  · next action rest heq =>
    rw [heq, List.head?_cons]
    dsimp only at h
    split at h
    · cases h
    · split at h
      · next hprune => exact .inl (congrArg some hprune)
      · split at h
        · cases h
        · split at h
          · cases h
          · split at h
            · split at h
              · cases h
              · cases h
              · rw [hrequires] at h
                cases h
            · split at h
              · next hdistill => exact .inr (congrArg some hdistill)
              · cases h

theorem runDueJobs_some (call : Call) (times : RunTimes) : (runDueJobs call (some times)).executed =
      (runJobs call ⟨times, [], [], []⟩ (dueJobs call.jobs times call.now)).1.executed ∧
    (runDueJobs call (some times)).files =
      (runJobs call ⟨times, [], [], []⟩ (dueJobs call.jobs times call.now)).1.files ∧
    ((runDueJobs call (some times)).file = some times ∨
      (runDueJobs call (some times)).file = none ∨
      (runDueJobs call (some times)).file = some
        (runJobs call ⟨times, [], [], []⟩ (dueJobs call.jobs times call.now)).1.times) := by
  unfold runDueJobs
  dsimp only
  split
  · exact ⟨rfl, rfl, .inl rfl⟩
  · split
    · exact ⟨rfl, rfl, .inl rfl⟩
    · split
      · exact ⟨rfl, rfl, .inr (.inl rfl)⟩
      · exact ⟨rfl, rfl, .inr (.inr rfl)⟩

theorem executed_due {times : RunTimes} (h : job ∈ (runDueJobs call (some times)).executed) :
    job ∈ call.jobs ∧ Due times call.now job ∧ Runnable call job = true := by
  rw [(runDueJobs_some call _).1] at h
  rcases (runJobs_advances call _ _).executed job h with h | ⟨reason, hmem, hrun⟩
  · cases h
  · obtain ⟨hjob, hdue⟩ := due_of_mem hmem
    exact ⟨hjob, hdue, hrun⟩

theorem callKeeps (call : Call) (file : StateFile) : CallKeeps call file := by
  rcases file with _ | times
  · exact ⟨nofun, fun _ => ⟨rfl, rfl, rfl⟩, fun _ => ⟨nofun, nofun⟩⟩
  · have hadvances := runJobs_advances call ⟨times, [], [], []⟩ (dueJobs call.jobs times call.now)
    obtain ⟨hexecuted, hfiles, hfile⟩ := runDueJobs_some call times
    refine ⟨fun after results h => ⟨times, rfl, ?_⟩, fun hdry => ⟨?_, ?_, ?_⟩,
      fun hwrites => ⟨fun job hjob => ?_, fun path hpath => ?_⟩⟩
    · rcases hraised : (runJobs call ⟨times, [], [], []⟩ (dueJobs call.jobs times call.now)).2
        with _ | _
      · have hcompletes := runJobs_completes call ⟨times, [], [], []⟩ _ hraised
        have hsummary : after = (runJobs call ⟨times, [], [], []⟩
              (dueJobs call.jobs times call.now)).1.times ∧
            results = (runJobs call ⟨times, [], [], []⟩
              (dueJobs call.jobs times call.now)).1.results ∧
            (call.dryRun = false → (runDueJobs call (some times)).file = some after) := by
          unfold runDueJobs at h ⊢
          simp only [hraised, Bool.false_eq_true, if_false] at h ⊢
          rcases hdry : call.dryRun with _ | _
          · rcases hinterrupted : call.interrupted with _ | _
            · simp only [hdry, hinterrupted, Bool.false_eq_true, if_false, Option.some.injEq,
                Prod.mk.injEq] at h ⊢
              exact ⟨h.1.symm, h.2.symm, fun _ => h.1⟩
            · simp [hdry, hinterrupted] at h
          · simp only [hdry, if_true, Option.some.injEq, Prod.mk.injEq] at h
            exact ⟨h.1.symm, h.2.symm, by simp⟩
        obtain ⟨rfl, rfl, hsaved⟩ := hsummary
        refine ⟨by simpa using hcompletes.results, ?_, fun result hresult hok => ?_, hsaved⟩
        · rw [hexecuted]
          simpa using hcompletes.executed
        · exact (hcompletes.recorded result hresult).resolve_left List.not_mem_nil hok
      · simp [runDueJobs, hraised] at h
    · rw [List.eq_nil_iff_forall_not_mem]
      intro job hjob
      exact absurd (executed_due hjob).2.2 (by simp [not_runnable_of_dryRun hdry])
    · rw [hfiles, List.eq_nil_iff_forall_not_mem]
      intro path hpath
      rcases hadvances.files path hpath with h | ⟨job, reason, -, hrun, -⟩
      · cases h
      · rw [not_runnable_of_dryRun hdry] at hrun
        cases hrun
    · unfold runDueJobs
      dsimp only
      rw [hdry]
      split <;> rfl
    · exact not_requires_of_runnable (executed_due hjob).2.2 hwrites
    · rw [hfiles] at hpath
      rcases hadvances.files path hpath with h | ⟨job, reason, hmem, hrun, hwritten⟩
      · cases h
      · have hrequires := not_requires_of_runnable hrun hwrites
        exact ⟨job, (due_of_mem hmem).1, hrequires, writes_of_not_requires hrequires hwritten⟩

/-- The state file has a run of the job at that time or later, unless it cannot be read. -/
def Since (id : String) (time : ℚ) (file : StateFile) : Prop :=
  ∀ times, file = some times → ∃ last, times id = some last ∧ time ≤ last

theorem Since.step {id : String} {time : ℚ} (h : Since id time file) (call : Call) :
    Since id time (runDueJobs call file).file := by
  rcases file with _ | times
  · exact h
  · obtain ⟨last, hlast, hle⟩ := h times rfl
    intro after hafter
    obtain ⟨-, -, hfile⟩ := runDueJobs_some call times
    rcases hfile with hsame | hnone | hsaved
    · rw [hsame] at hafter
      cases hafter
      exact ⟨last, hlast, hle⟩
    · rw [hnone] at hafter
      cases hafter
    · rw [hsaved] at hafter
      cases hafter
      rcases (runJobs_advances call ⟨times, [], [], []⟩
        (dueJobs call.jobs times call.now)).times id with hid | ⟨hid, job, reason, hmem, hjob⟩
      · exact ⟨last, hid.trans hlast, hle⟩
      · refine ⟨call.now, hid, ?_⟩
        obtain ⟨-, -, hdue⟩ := due_of_mem hmem
        rcases hschedule : job.schedule with _ | _ | seconds
        · simp [hschedule] at hdue
        · simp [hschedule, hjob, hlast] at hdue
        · simp only [hschedule, hjob, hlast, Option.getD_some] at hdue
          linarith [hdue.1, hdue.2]

theorem Since.calls {id : String} {time : ℚ} (h : Since id time file) (calls : List Call) :
    Since id time (fileAfter file calls) := by
  induction calls generalizing file with
  | nil => exact h
  | cons call rest ih => exact ih (h.step call)

theorem not_due_since {times : RunTimes} {now time : ℚ} (h : Since job.id time (some times))
    (hdue : Due times now job) :
    ∃ seconds, job.schedule = .interval seconds ∧ time + seconds ≤ now := by
  obtain ⟨last, hlast, hle⟩ := h times rfl
  obtain ⟨-, hdue⟩ := hdue
  rcases hschedule : job.schedule with _ | _ | seconds
  · simp [hschedule] at hdue
  · simp [hschedule, hlast] at hdue
  · simp only [hschedule, hlast, Option.getD_some] at hdue
    exact ⟨seconds, rfl, by linarith [hdue.2]⟩

end Calls

def sampleJob : CronJob := ⟨"audit", true, .interval 5, ["extension.audit"], "compute_only"⟩

def sampleCall (jobs : List CronJob) (now : ℚ) : Call :=
  ⟨jobs, now, false, false, fun _ => false, false⟩

end LocalMoe.Scheduler
