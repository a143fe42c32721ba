/-
  What the runner is called for.
-/
import LocalMoe.Agent.Loop

namespace LocalMoe.Agent

open Contracts

/-! ## The promise -/

def Event.isModel : Event → Bool
  | .model _ => true
  | _ => false

/-- A call of the runner. -/
def Event.isRun : Event → Bool
  | .run _ _ _ => true
  | _ => false

section Promise

variable (py : Language) (registry : AgentToolRegistry)

/-- A call of the runner is allowed, after what has happened before it. -/
structure Allowed (before : History) (call : AgentToolCall) (spec : AgentToolSpec)
    (arguments : Arg) : Prop where
  /-- The model has been shown the spec, and no other one under the name that it called. -/
  shown : Event.model registry.shown ∈ before ∧ spec ∈ registry.shown
  named : registry.resolve call.name = some spec ∧
    ∀ other ∈ registry.specs, other.exposedName = call.name → other = spec
  valid : validateJsonArguments py spec.inputSchema call.arguments = .ok []
  noSecret : call.arguments.isJson = true ∧ containsSecretKey py call.arguments = false
  notDenied : spec.name ∉ registry.policy.deniedTools ∧
    spec.riskClass ∉ registry.policy.deniedRisks
  /-- The policy allows it, or this very call was approved just before, as it is. -/
  authorized : (registry.policy.decision spec = .allow ∧ arguments = call.arguments) ∨
    (registry.policy.decision spec = .approvalRequired ∧
      (∃ earlier reason, before = earlier ++ [.approval ⟨call.id, spec.name, call.arguments,
        py.digest call.arguments, spec.riskClass, spec.sideEffects⟩ (.decided true reason)]) ∧
      ∃ entries, call.arguments = .dict entries ∧
        arguments = .dict (updateWith entries (localToolConfirmations spec.name)))

/-- Every call of the runner in a history is allowed. -/
def Authorized (history : History) : Prop :=
  ∀ before call spec arguments after, history = before ++ .run call spec arguments :: after →
    Allowed py registry before call spec arguments

/-- What a run promises. -/
structure Authority (budget : AgentLoopBudget) (history : History) : Prop where
  models : history.countP Event.isModel ≤ budget.maxModelTurns
  runs : history.countP Event.isRun ≤ budget.maxToolCalls
  authorized : Authorized py registry history

/-- The two maps of names do not cross: what is visible as one spec is not the canonical name
of another. -/
def NamesApart : Prop :=
  ∀ spec ∈ registry.specs, ∀ other ∈ registry.specs, spec.name = other.exposedName → spec = other

end Promise

/-! ## Resolving -/

section Resolve

variable {registry : AgentToolRegistry} {name : String} {spec : AgentToolSpec}

theorem mem_of_resolve (h : registry.resolve name = some spec) : spec ∈ registry.specs := by
  rcases Option.or_eq_some_iff.mp h with hfound | ⟨-, hfound⟩
  · exact List.mem_of_find?_eq_some hfound
  · exact List.mem_of_find?_eq_some hfound

theorem exposed_of_resolve (hapart : NamesApart registry) (h : registry.resolve name = some spec) :
    ∀ other ∈ registry.specs, other.exposedName = name → other = spec := by
  intro other hother hname
  rcases Option.or_eq_some_iff.mp h with hfound | ⟨-, hfound⟩
  · have hspec : spec.name = name := by simpa using List.find?_some hfound
    exact (hapart spec (List.mem_of_find?_eq_some hfound) other hother (hspec.trans hname.symm)).symm
  · have hspec : spec.exposedName = name := by simpa using List.find?_some hfound
    exact List.inj_on_of_nodup_map registry.uniqueExposed hother
      (List.mem_of_find?_eq_some hfound) (hname.trans hspec.symm)

theorem namesApart_iff : NamesApart registry ↔
    ∀ spec ∈ registry.specs, registry.resolve spec.exposedName = some spec := by
  constructor
  · intro hapart spec hspec
    rcases hresolve : registry.resolve spec.exposedName with _ | found
    · have hnone := (Option.or_eq_none_iff.mp hresolve).2
      exact absurd (List.find?_eq_none.mp hnone spec hspec) (by simp)
    · rw [exposed_of_resolve hapart hresolve spec hspec rfl]
  · intro hresolve spec hspec other hother hname
    have hother := hresolve other hother
    rcases Option.or_eq_some_iff.mp hother with hfound | ⟨hnone, -⟩
    · have hfoundName : other.name = other.exposedName := by simpa using List.find?_some hfound
      exact List.inj_on_of_nodup_map registry.uniqueNames hspec
        (List.mem_of_find?_eq_some hfound) (hname.trans hfoundName.symm)
    · exact absurd (List.find?_eq_none.mp hnone spec hspec) (by simp [hname])

end Resolve

/-! ## Histories -/

section Histories

variable {py : Language} {registry : AgentToolRegistry} {history : History} {event : Event}

theorem Authorized.nil : Authorized py registry [] := by
  intro before call spec arguments after h
  simp at h

theorem Authorized.append (h : Authorized py registry history) (hevent : event.isRun = false) :
    Authorized py registry (history ++ [event]) := by
  intro before call spec arguments after heq
  rcases List.eq_nil_or_concat after with rfl | ⟨rest, last, rfl⟩
  · obtain ⟨-, hlast⟩ := List.append_inj' heq rfl
    obtain rfl : event = .run call spec arguments := List.singleton_inj.mp hlast
    cases hevent
  · have hsplit : history ++ [event] = (before ++ .run call spec arguments :: rest) ++ [last] := by
      rw [heq]
      simp
    obtain ⟨hhistory, -⟩ := List.append_inj' hsplit rfl
    exact h before call spec arguments rest hhistory

theorem Authorized.run {call : AgentToolCall} {spec : AgentToolSpec} {arguments : Arg}
    (h : Authorized py registry history)
    (hallowed : Allowed py registry history call spec arguments) :
    Authorized py registry (history ++ [.run call spec arguments]) := by
  intro before call' spec' arguments' after heq
  rcases List.eq_nil_or_concat after with rfl | ⟨rest, last, rfl⟩
  · obtain ⟨rfl, hlast⟩ := List.append_inj' heq rfl
    cases List.singleton_inj.mp hlast
    exact hallowed
  · have hsplit : history ++ [.run call spec arguments] =
        (before ++ .run call' spec' arguments' :: rest) ++ [last] := by
      rw [heq]
      simp
    obtain ⟨hhistory, -⟩ := List.append_inj' hsplit rfl
    exact h before call' spec' arguments' rest hhistory

/-- What a piece of a run adds to the history: so many calls of the model and of the runner. -/
structure Extends (py : Language) (registry : AgentToolRegistry) (models runs : Nat)
    (before after : History) : Prop where
  models : after.countP Event.isModel ≤ before.countP Event.isModel + models
  runs : after.countP Event.isRun ≤ before.countP Event.isRun + runs
  shown : Event.model registry.shown ∈ before → Event.model registry.shown ∈ after
  authorized : Authorized py registry before → Authorized py registry after

theorem Extends.refl : Extends py registry 0 0 history history := ⟨le_refl _, le_refl _, id, id⟩

theorem Extends.trans {models runs models' runs' : Nat} {before middle after : History}
    (h : Extends py registry models runs before middle)
    (h' : Extends py registry models' runs' middle after) :
    Extends py registry (models + models') (runs + runs') before after := by
  refine ⟨?_, ?_, h'.shown ∘ h.shown, h'.authorized ∘ h.authorized⟩
  · have := h.models
    have := h'.models
    omega
  · have := h.runs
    have := h'.runs
    omega

theorem Extends.clock : Extends py registry 0 0 history (history ++ [.clock]) :=
  ⟨by simp [Event.isModel], by simp [Event.isRun], List.mem_append_left _, fun h => h.append rfl⟩

theorem Extends.model {shown : List AgentToolSpec} :
    Extends py registry 1 0 history (history ++ [.model shown]) :=
  ⟨by simp [Event.isModel], by simp [Event.isRun], List.mem_append_left _, fun h => h.append rfl⟩

theorem Extends.approval {request : ApprovalRequest} {answer : Approval} :
    Extends py registry 0 0 history (history ++ [.approval request answer]) :=
  ⟨by simp [Event.isModel], by simp [Event.isRun], List.mem_append_left _, fun h => h.append rfl⟩

theorem Extends.run {call : AgentToolCall} {spec : AgentToolSpec} {arguments : Arg}
    (hallowed : Allowed py registry history call spec arguments) :
    Extends py registry 0 1 history (history ++ [.run call spec arguments]) :=
  ⟨by simp [Event.isModel], by simp [Event.isRun], List.mem_append_left _, fun h => h.run hallowed⟩

theorem Extends.weaken {models runs models' runs' : Nat} {before after : History}
    (h : Extends py registry models runs before after) (hmodels : models ≤ models')
    (hruns : runs ≤ runs') : Extends py registry models' runs' before after := by
  refine ⟨?_, ?_, h.shown, h.authorized⟩
  · have := h.models
    omega
  · have := h.runs
    omega

end Histories

/-! ## One call -/

section Calls

variable {py : Language} {parties : Parties} {registry : AgentToolRegistry}
  {budget : AgentLoopBudget} {call : AgentToolCall} {history : History}

theorem not_denied {spec : AgentToolSpec} (h : registry.policy.decision spec ≠ .deny) :
    spec.name ∉ registry.policy.deniedTools ∧ spec.riskClass ∉ registry.policy.deniedRisks := by
  unfold AgentPermissionPolicy.decision at h
  by_cases htool : spec.name ∈ registry.policy.deniedTools
  · simp [htool] at h
  · by_cases hrisk : spec.riskClass ∈ registry.policy.deniedRisks
    · simp [htool, hrisk] at h
    · exact ⟨htool, hrisk⟩

theorem mem_shown {spec : AgentToolSpec} (h : spec ∈ registry.specs) : spec ∈ registry.shown :=
  List.mem_mergeSort.mpr h

theorem execute_extends (hapart : NamesApart registry) (hjson : call.arguments.isJson = true)
    (hshown : Event.model registry.shown ∈ history) :
    Extends py registry 0 1 history (execute py parties registry call history).1 := by
  have hnothing : Extends py registry 0 1 history history := Extends.refl.weaken (le_refl _) zero_le_one
  unfold execute
  split
  · exact hnothing
  · next spec hresolve =>
    split
    · exact hnothing
    · exact hnothing
    · next hvalid =>
      split
      · next entries harguments =>
        split
        · exact hnothing
        · split
          · exact hnothing
          · next hsecret =>
            rw [Bool.not_eq_true] at hsecret
            have hmem := mem_shown (mem_of_resolve hresolve)
            have hnamed := exposed_of_resolve hapart hresolve
            have hfree : containsSecretKey py call.arguments = false := by
              rw [harguments]
              exact hsecret
            split
            · exact hnothing
            · next hallow =>
              refine Extends.run ⟨⟨hshown, hmem⟩, ⟨hresolve, hnamed⟩, hvalid,
                ⟨hjson, hfree⟩, not_denied (by simp [hallow]), .inl ⟨hallow, ?_⟩⟩
              exact harguments.symm
            · next hrequired =>
              unfold approveTool
              split
              · exact hnothing
              · dsimp only
                have hasked : ∀ answer, Extends py registry 0 1 history (history ++
                    [.approval (approvalRequest py call spec) answer]) := fun _ =>
                  Extends.approval.weaken (le_refl _) zero_le_one
                split
                · exact hasked _
                · exact hasked _
                · exact hasked _
                · next handler hhandler reason hanswer =>
                  have hrequest : approvalRequest py call spec =
                      ⟨call.id, spec.name, call.arguments, py.digest call.arguments,
                        spec.riskClass, spec.sideEffects⟩ := by
                    rw [approvalRequest, sanitize_eq_self py hjson hfree]
                  refine (Extends.approval.trans (Extends.run ⟨⟨?_, hmem⟩,
                    ⟨hresolve, hnamed⟩, hvalid, ⟨hjson, hfree⟩,
                    not_denied (by simp [hrequired]),
                    .inr ⟨hrequired, ⟨history, reason, ?_⟩, entries, harguments, rfl⟩⟩)).weaken
                    (le_refl _) (le_refl _)
                  · exact List.mem_append_left _ hshown
                  · rw [hanswer, hrequest]
      · exact hnothing

end Calls

/-! ## Runs -/

section Runs

variable {py : Language} {parties : Parties} {registry : AgentToolRegistry}
  {budget : AgentLoopBudget}

/-- A run so far, in which the model was called so often at most. -/
structure Within (py : Language) (registry : AgentToolRegistry) (budget : AgentLoopBudget)
    (models : Nat) (progress : Progress) : Prop where
  models : progress.history.countP Event.isModel ≤ models
  runs : progress.history.countP Event.isRun ≤ progress.used
  used : progress.used ≤ budget.maxToolCalls
  authorized : Authorized py registry progress.history

variable {models : Nat} {progress : Progress}

theorem Within.extend {more runs total : Nat} {next : Progress}
    (h : Within py registry budget models progress)
    (hextends : Extends py registry more runs progress.history next.history)
    (hmodels : models + more ≤ total) (hused : progress.used + runs ≤ next.used)
    (hle : next.used ≤ budget.maxToolCalls) : Within py registry budget total next := by
  refine ⟨?_, ?_, hle, hextends.authorized h.authorized⟩
  · have := h.models
    have := hextends.models
    omega
  · have := h.runs
    have := hextends.runs
    omega

theorem Within.mono {models' : Nat} (h : Within py registry budget models progress)
    (hle : models ≤ models') : Within py registry budget models' progress :=
  ⟨h.models.trans hle, h.runs, h.used, h.authorized⟩

theorem Within.promise (h : Within py registry budget models progress)
    (hmodels : models ≤ budget.maxModelTurns) : Authority py registry budget progress.history :=
  ⟨h.models.trans hmodels, h.runs.trans h.used, h.authorized⟩

theorem runCall_within {turn : Nat} {call : AgentToolCall} (hapart : NamesApart registry)
    (hjson : call.arguments.isJson = true) (hshown : Event.model registry.shown ∈ progress.history)
    (h : Within py registry budget models progress) :
    Within py registry budget models (runCall py parties registry budget turn call progress).1 ∧
      Event.model registry.shown ∈
        (runCall py parties registry budget turn call progress).1.history := by
  have hclock : Extends py registry 0 0 progress.history (progress.history ++ [.clock]) :=
    Extends.clock
  have hshown' : Event.model registry.shown ∈ progress.history ++ [.clock] := hclock.shown hshown
  unfold runCall
  dsimp only
  split
  · exact ⟨h.extend hclock (le_refl _) (le_refl _) h.used, hshown'⟩
  · split
    · exact ⟨h.extend hclock (le_refl _) (le_refl _) h.used, hshown'⟩
    · split
      · exact ⟨h.extend hclock (le_refl _) (le_refl _) h.used, hshown'⟩
      · next hfree =>
        rw [not_le] at hfree
        split
        · exact ⟨h.extend hclock (le_refl _) (Nat.le_succ _) hfree, hshown'⟩
        · have hran : Extends py registry 0 1 (progress.history ++ [.clock])
              (execute py parties registry call (progress.history ++ [.clock])).1 :=
            execute_extends hapart hjson hshown'
          split
          · next history execution heq =>
            rw [heq] at hran
            exact ⟨h.extend (hclock.trans hran) (le_refl _) (le_refl _) hfree, hran.shown hshown'⟩
          · next history error heq =>
            rw [heq] at hran
            exact ⟨h.extend (hclock.trans hran) (le_refl _) (le_refl _) hfree, hran.shown hshown'⟩

theorem runCalls_within {turn : Nat} {calls : List AgentToolCall} (hapart : NamesApart registry)
    (hjson : ∀ call ∈ calls, call.arguments.isJson = true)
    (hshown : Event.model registry.shown ∈ progress.history)
    (h : Within py registry budget models progress) : Within py registry budget models
      (runCalls py parties registry budget turn calls progress).1 := by
  induction calls generalizing progress with
  | nil => exact h
  | cons call rest ih =>
    have hrest : ∀ other ∈ rest, other.arguments.isJson = true := fun other hother =>
      hjson other (List.mem_cons_of_mem _ hother)
    obtain ⟨hnext, hshown'⟩ := runCall_within hapart (hjson call List.mem_cons_self) hshown h
    exact ih hrest hshown' hnext

theorem normalizeCalls_arguments {correlationId : String} {turn : Nat} :
    ∀ {index : Nat} {seen : List String} {calls : List AgentToolCall},
      ((normalizeCalls py correlationId turn index seen calls).1.map AgentToolCall.arguments) =
        calls.map AgentToolCall.arguments
  | _, _, [] => rfl
  | index, seen, call :: rest => by
    rw [normalizeCalls, List.map_cons, normalizeCalls_arguments, List.map_cons]

theorem finishRun_within {output : ModelOutput} (h : Within py registry budget models progress) :
    Within py registry budget models (finishRun py parties output progress).1 := by
  have hclock : Within py registry budget models
      { progress with history := progress.history ++ [.clock] } :=
    h.extend Extends.clock (le_refl _) (le_refl _) h.used
  unfold finishRun
  split
  · exact h
  · dsimp only
    split
    · exact hclock
    · split
      · exact hclock
      · exact hclock

theorem runTurns_within {correlationId : String} (hapart : NamesApart registry)
    (hjson : ∀ history output, parties.model history = .ok output →
      ∀ call ∈ output.toolCalls, call.arguments.isJson = true) :
    ∀ {left turn models : Nat} {seen : List String} {progress : Progress},
      Within py registry budget models progress → Within py registry budget (models + left)
        (runTurns py parties registry budget correlationId left turn seen progress).1
  | 0, _, _, _, _, h => h
  | left + 1, turn, models, seen, progress, h => by
    have hclock : Extends py registry 0 0 progress.history (progress.history ++ [.clock]) :=
      Extends.clock
    have hmodel : Extends py registry 1 0 progress.history
        (progress.history ++ [.clock] ++ [.model registry.shown]) :=
      hclock.trans Extends.model
    have hshown : Event.model registry.shown ∈
        progress.history ++ [.clock] ++ [.model registry.shown] := by simp
    have hone : Within py registry budget (models + 1) { progress with
        history := progress.history ++ [.clock] ++ [.model registry.shown] } :=
      h.extend hmodel (le_refl _) (le_refl _) h.used
    have hmore : models + 1 ≤ models + (left + 1) := by omega
    unfold runTurns
    dsimp only
    split
    · exact h.extend hclock (by omega) (le_refl _) h.used
    · split
      · exact hone.mono hmore
      · next output houtput =>
        split
        · exact (finishRun_within hone).mono hmore
        · split
          · exact hone.mono hmore
          · have hcalls : ∀ call ∈ (normalizeCalls py correlationId turn 1 seen
                output.toolCalls).1, call.arguments.isJson = true := by
              intro call hcall
              have hmem : call.arguments ∈ output.toolCalls.map AgentToolCall.arguments := by
                rw [← normalizeCalls_arguments]
                exact List.mem_map_of_mem hcall
              obtain ⟨proposed, hproposed, harguments⟩ := List.mem_map.mp hmem
              rw [← harguments]
              exact hjson _ _ houtput proposed hproposed
            have hran : Within py registry budget (models + 1) (runCalls py parties registry
                budget turn (normalizeCalls py correlationId turn 1 seen output.toolCalls).1
                { progress with
                  history := progress.history ++ [.clock] ++ [.model registry.shown] }).1 :=
              runCalls_within hapart hcalls hshown hone
            split
            · exact hran.mono hmore
            · split
              · exact hran.mono hmore
              · exact (runTurns_within hapart hjson hran).mono (by omega)

end Runs

/-! ## Two specs of one name -/

/-- A language in which nothing is secret. -/
def plain : Language :=
  { redact := id
    shown := fun | .str text => text | _ => ""
    equals := fun _ _ => false
    less := fun _ _ => .error "TypeError"
    int := fun | .int n => .ok n | _ => .error "TypeError"
    fullmatch := fun _ _ => .error "error"
    overflows := fun _ => false
    stripped := id
    sha256Text := id
    digest := fun _ => ""
    size := fun _ => 2
    depth := 10 }

/-- A tool that takes nothing. -/
def toolNamed (name modelName : String) (named : strip name ≠ "")
    (visible : isToolName (exposedNameOf name modelName) = true) : AgentToolSpec where
  name := name
  description := ""
  inputSchema := [(⟨"type", true⟩, .str "object"), (⟨"additionalProperties", true⟩, .bool false)]
  riskClass := "read_only"
  sideEffects := "none"
  modelName := modelName
  approvalRequired := false
  named := named
  visible := visible
  object := rfl
  closed := rfl
  classified := by decide +kernel

/-- It is shown as `notes`. -/
def notesList : AgentToolSpec :=
  toolNamed "notes.list" "notes" (by decide +kernel) (by decide +kernel)

/-- It is named `notes`, and shown as `clear`. -/
def notesClear : AgentToolSpec :=
  toolNamed "notes" "clear" (by decide +kernel) (by decide +kernel)

/-- Both maps are unique, and the registry takes them. -/
def crossedRegistry : AgentToolRegistry where
  policy := ⟨["read_only"], [], [], [], []⟩
  specs := [notesList, notesClear]
  uniqueNames := by decide +kernel
  uniqueExposed := by decide +kernel

/-- The first one alone. -/
def listRegistry : AgentToolRegistry where
  policy := ⟨["read_only"], [], [], [], []⟩
  specs := [notesList]
  uniqueNames := by decide +kernel
  uniqueExposed := by decide +kernel

/-- The model calls `notes` once, and then answers. -/
def callNotes : Parties where
  model history :=
    if history.countP Event.isModel = 1 then .ok ⟨none, [⟨"c", "notes", .dict []⟩], ""⟩
    else .ok ⟨some "done", [], ""⟩
  expired _ := false
  handler := none
  runner _ _ _ := .result "ok" "done" false

def smallBudget : AgentLoopBudget :=
  ⟨2, 1, 1, 10, 10, by decide, by decide, by decide, by decide, by decide⟩

end LocalMoe.Agent
