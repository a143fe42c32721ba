/-
  `scheduler.py`: jobs that are due, and running them.

  What an action does beside answering is left open: it completes, or it raises. Which files it
  writes is read off the command. Times are numbers; how floats round them is not modelled.
-/
import Mathlib.Data.Rat.Floor

namespace LocalMoe.Scheduler

/-! ## Jobs -/

/-- `schedule["type"]`, with the seconds of an interval. -/
inductive Schedule where
  | manual
  | startup
  | interval (seconds : ℚ)
  deriving DecidableEq

structure CronJob where
  id : String
  enabled : Bool
  schedule : Schedule
  command : List String
  riskClass : String
  deriving DecidableEq

def writeConfirmationRiskClasses : List String :=
  ["write_local", "write_internal", "write_external", "destructive", "process_execution",
    "privileged_admin"]

def requiresWriteConfirmation (riskClass : String) : Bool :=
  writeConfirmationRiskClasses.contains riskClass

def autoRunnableJobs (jobs : List CronJob) (confirmWrites : Bool) : List CronJob :=
  if confirmWrites then jobs.filter CronJob.enabled
  else jobs.filter fun job => job.enabled && !requiresWriteConfirmation job.riskClass

abbrev RunTimes := String → Option ℚ

def dueReason (times : RunTimes) (now : ℚ) (job : CronJob) : Option String :=
  if !job.enabled then none
  else
    match job.schedule with
    | .manual => none
    | .startup => if (times job.id).isNone then some "startup" else none
    | .interval seconds =>
      if seconds ≤ 0 then none
      else if seconds ≤ now - (times job.id).getD 0 then some s!"interval:{seconds.floor}"
      else none

/-- `due_jobs`: the jobs that are due, with the reasons. -/
def dueJobs (jobs : List CronJob) (times : RunTimes) (now : ℚ) : List (CronJob × String) :=
  jobs.filterMap fun job => (dueReason times now job).map fun reason => (job, reason)

/-! ## Actions -/

/-- `_parse_command_args`: the last value of an option counts. -/
def parseCommandArgs : List String → List (String × String)
  | item :: value :: rest =>
    if item.startsWith "--" then
      parseCommandArgs rest ++ [((item.drop 2).toString, value)]
    else parseCommandArgs (value :: rest)
  | _ => []

def arg (args : List (String × String)) (name : String) : Option String :=
  (args.find? fun entry => entry.1 = name).map Prod.snd

def isAllowlistedAction (job : CronJob) : Bool :=
  match job.command with
  | [] => false
  | action :: _ =>
    ["memory.maintenance", "memory.prune_expired", "extension.audit", "storage.inspect",
      "runtime.optimizer", "router.distill"].contains action

inductive Status where
  | ok | error | needsConfirmation | dryRun
  deriving DecidableEq, Repr

structure CronRunResult where
  id : String
  status : Status
  reason : String
  command : List String
  message : String
  deriving DecidableEq, Repr

def cronError (job : CronJob) (reason message : String) : CronRunResult :=
  ⟨job.id, .error, reason, job.command, message⟩

/-- A result with status `ok`. -/
def cronOk (job : CronJob) (reason message : String) : CronRunResult :=
  ⟨job.id, .ok, reason, job.command, message⟩

/-- What an action answers, and the files that it may have written. -/
structure Acted where
  result : CronRunResult
  files : List String
  deriving DecidableEq, Repr

/-- `_run_allowed_job`, where nothing raises. -/
def runAllowedJob (job : CronJob) (reason : String) : Acted :=
  match job.command with
  | [] => ⟨cronError job reason "Cron job has no command.", []⟩
  | action :: rest =>
    let args := parseCommandArgs rest
    if action = "memory.maintenance" then
      ⟨cronOk job reason "Memory maintenance completed.", []⟩
    else if action = "memory.prune_expired" then
      ⟨cronOk job reason "Expired memory records pruned.",
        [(arg args "memory-path").getD "work/runtime/memory.jsonl"]⟩
    else if action = "extension.audit" then
      ⟨cronOk job reason "Extension registry audit completed.", []⟩
    else if action = "storage.inspect" then
      ⟨cronOk job reason "Storage diagnostics completed.", []⟩
    else if action = "runtime.optimizer" then
      match arg args "out" with
      | none | some "" => ⟨cronOk job reason "Runtime optimizer report completed.", []⟩
      | some out =>
        if !requiresWriteConfirmation job.riskClass then
          ⟨cronError job reason "runtime.optimizer --out requires a write-local risk class.",
            []⟩
        else ⟨cronOk job reason "Runtime optimizer report completed.", [out]⟩
    else if action = "router.distill" then
      match (arg args "eval").getD "", (arg args "labels").getD "",
        (arg args "artifact").getD "" with
      | "", _, _ | _, "", _ | _, _, "" =>
        ⟨cronError job reason "router.distill requires --eval, --labels, and --artifact.", []⟩
      | _, labels, artifact =>
        ⟨cronOk job reason "Router distillation completed.", [labels, artifact]⟩
    else ⟨cronError job reason s!"Unsupported cron action: {action}", []⟩

/-! ## A call -/

/-- `run_due_jobs`: its arguments, and what happens to it. -/
structure Call where
  jobs : List CronJob
  now : ℚ
  dryRun : Bool
  confirmWrites : Bool
  /-- The actions that raise. -/
  raises : CronJob → Bool
  /-- The save is interrupted, and leaves a file that cannot be read. -/
  interrupted : Bool

/-- The jobs that have been looked at: the run times, the jobs that were executed, the files
that they may have written, and the results. -/
structure Progress where
  times : RunTimes
  executed : List CronJob
  files : List String
  results : List CronRunResult

/-- One turn of the loop; it may raise. -/
def runJob (call : Call) (progress : Progress) (job : CronJob) (reason : String) :
    Progress × Bool :=
  let answer (result : CronRunResult) : Progress × Bool :=
    ({ progress with results := progress.results ++ [result] }, false)
  if call.dryRun then
    answer ⟨job.id, .dryRun, reason, job.command, "Job is due but was not executed."⟩
  else if !isAllowlistedAction job then
    answer (cronError job reason ("Unsupported cron action: " ++ job.command.headD ""))
  else if requiresWriteConfirmation job.riskClass && !call.confirmWrites then
    answer ⟨job.id, .needsConfirmation, reason, job.command,
      "Job writes local files and requires confirm_writes=true."⟩
  else
    let acted := runAllowedJob job reason
    let executed := progress.executed ++ [job]
    let files := progress.files ++ acted.files
    if call.raises job then ({ progress with executed := executed, files := files }, true)
    else
      (⟨if acted.result.status = .ok then Function.update progress.times job.id (some call.now)
        else progress.times, executed, files, progress.results ++ [acted.result]⟩, false)

/-- The loop, up to the first job that raises. -/
def runJobs (call : Call) : Progress → List (CronJob × String) → Progress × Bool
  | progress, [] => (progress, false)
  | progress, (job, reason) :: rest =>
    match runJob call progress job reason with
    | (next, true) => (next, true)
    | (next, false) => runJobs call next rest

/-- The scheduler's state file: its run times, unless it cannot be read.  A file that is not
there has none. -/
abbrev StateFile := Option RunTimes

/-- What a call leaves: the state file, the jobs that it executed, the files that they may
have written, and the summary if it returns. -/
structure Outcome where
  file : StateFile
  executed : List CronJob
  files : List String
  summary : Option (RunTimes × List CronRunResult)

def runDueJobs (call : Call) (file : StateFile) : Outcome :=
  match file with
  | none => ⟨none, [], [], none⟩
  | some times =>
    let (progress, raised) :=
      runJobs call ⟨times, [], [], []⟩ (dueJobs call.jobs times call.now)
    if raised then ⟨file, progress.executed, progress.files, none⟩
    else if call.dryRun then
      ⟨file, progress.executed, progress.files, some (progress.times, progress.results)⟩
    else if call.interrupted then ⟨none, progress.executed, progress.files, none⟩
    else ⟨some progress.times, progress.executed, progress.files,
      some (progress.times, progress.results)⟩

def fileAfter (file : StateFile) (calls : List Call) : StateFile :=
  calls.foldl (fun file call => (runDueJobs call file).file) file

end LocalMoe.Scheduler
