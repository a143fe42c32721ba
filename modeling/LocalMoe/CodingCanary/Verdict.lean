/-
  Runs of the hook, what the loader says of them, and the three verdicts after calls that all
  gates approved.
-/
import LocalMoe.CodingCanary.Contract
import LocalMoe.Foundation.Checked

namespace LocalMoe.CodingCanary

open Contracts Foundation

variable {f : Fixture} {s : HookState} {r : Request} {tool : String} {value : Entries}

/-! ## One request of the hook -/

namespace Request

def call : Request → Option Call
  | .payload value => toolCall value
  | _ => none

/-- The request is counted as an error before any gate sees it. -/
def faulty : Request → Bool
  | .payload _ => false
  | _ => true

def category (r : Request) : Option Category := r.call.map fun call => Category.of call.1

end Request

def RaisesOn (f : Fixture) (s : HookState) (r : Request) : Prop :=
  ∃ call, r.call = some call ∧ Raises f s.progress call.1 call.2

@[simp] theorem count_apply (counter : Counter) (c d : Category) :
    count counter c d = counter d + if d = c then 1 else 0 := by
  by_cases h : d = c <;> simp [count, h]

theorem hookMain_none (h : r.call = none) : ∃ reason, hookMain f s r =
    ((false, reason), { s with errors := s.errors + if r.faulty then 1 else 0 }) := by
  cases r with
  | payload value =>
    have hcall : toolCall value = none := h
    exact ⟨"malformed", by simp [hookMain, hookDecide, hcall, Request.faulty]⟩
  | _ => exact ⟨_, rfl⟩

theorem hookMain_call (h : r.call = some (tool, value)) :
    (Raises f s.progress tool value ∧ hookMain f s r = ((false, "hook_payload_invalid"),
      { s with observed := count s.observed (Category.of tool), errors := s.errors + 1 })) ∨
    (¬ Raises f s.progress tool value ∧ contractStep f s.progress tool value = none ∧
      hookMain f s r = ((false, "tool_outside_contract"),
        { s with
          observed := count s.observed (Category.of tool)
          denied := count s.denied (Category.of tool) })) ∨
    (¬ Raises f s.progress tool value ∧ ∃ q reason,
      contractStep f s.progress tool value = some q ∧ hookMain f s r = ((true, reason),
        { s with
          progress := q
          observed := count s.observed (Category.of tool)
          approved := count s.approved (Category.of tool) })) := by
  cases r with
  | payload payload =>
    have hcall : toolCall payload = some (tool, value) := h
    simp only [← hookGrant_eq_none, ← hookGrant_join, hookMain, hookDecide, hcall]
    rcases hookGrant f s.progress tool value with _ | _ | ⟨q, reason⟩
    · exact .inl ⟨rfl, rfl⟩
    · exact .inr (.inl ⟨nofun, rfl, rfl⟩)
    · exact .inr (.inr ⟨nofun, q, reason, rfl, rfl⟩)
  | _ => cases h

/-! ## Runs of the hook -/

def approvedCalls (f : Fixture) : HookState → List Request → List Call
  | _, [] => []
  | s, r :: rest =>
    (if (hookMain f s r).1.1 then r.call.toList else []) ++ approvedCalls f (hookMain f s r).2 rest

theorem Ran.run (requests : List Request) {reads last : List Call}
    (h : Ran f s.progress reads last) :
    ∃ reads' last', Ran f ((hook f).exec s requests).progress reads' last' ∧
      reads' ++ last' = reads ++ last ++ approvedCalls f s requests := by
  induction requests generalizing s reads last with
  | nil => exact ⟨reads, last, h, (List.append_nil _).symm⟩
  | cons r rest ih =>
    have hnext : ∃ reads' last', Ran f (hookMain f s r).2.progress reads' last' ∧
        reads' ++ last' =
          reads ++ last ++ if (hookMain f s r).1.1 then r.call.toList else [] := by
      cases hcall : r.call with
      | none =>
        obtain ⟨reason, hmain⟩ := hookMain_none (f := f) (s := s) hcall
        rw [hmain]
        exact ⟨reads, last, h, by simp⟩
      | some call =>
        rcases hookMain_call (f := f) (s := s) hcall with ⟨-, hmain⟩ | ⟨-, -, hmain⟩ |
          ⟨-, q, reason, hstep, hmain⟩
        · rw [hmain]
          exact ⟨reads, last, h, by simp⟩
        · rw [hmain]
          exact ⟨reads, last, h, by simp⟩
        · rw [hmain]
          exact h.step hstep
    obtain ⟨reads', last', hran, hcalls⟩ := hnext
    obtain ⟨reads'', last'', hran, hcalls'⟩ := ih hran
    exact ⟨reads'', last'', hran, by rw [hcalls', hcalls, approvedCalls, List.append_assoc]⟩

def Reconciled (s : HookState) : Prop := ∀ c, s.observed c = s.approved c + s.denied c

theorem hookMain_books (hsound : ∀ c, s.approved c + s.denied c ≤ s.observed c) :
    let t := (hookMain f s r).2
    (∀ c, t.approved c + t.denied c ≤ t.observed c) ∧
      (Reconciled t ↔ Reconciled s ∧ ¬ RaisesOn f s r) ∧
      (∀ c, t.observed c = s.observed c + if r.category = some c then 1 else 0) ∧
      (¬ RaisesOn f s r → t.errors = s.errors + if r.faulty then 1 else 0) := by
  cases hcall : r.call with
  | none =>
    obtain ⟨reason, hmain⟩ := hookMain_none (f := f) (s := s) hcall
    rw [hmain]
    refine ⟨hsound, ?_, fun c => ?_, fun _ => rfl⟩
    · simp [Reconciled, RaisesOn, hcall]
    · simp [Request.category, hcall]
  | some call =>
    have hfaulty : r.faulty = false := by cases r <;> first | rfl | cases hcall
    have hraises : RaisesOn f s r ↔ Raises f s.progress call.1 call.2 := by
      simp [RaisesOn, hcall]
    rcases hookMain_call (f := f) (s := s) hcall with ⟨h, hmain⟩ | ⟨h, -, hmain⟩ |
      ⟨h, q, reason, -, hmain⟩
    · refine ⟨fun c => ?_, iff_of_false (fun hall => ?_) fun hno => hno.2 (hraises.mpr h),
        fun c => ?_, fun hno => absurd (hraises.mpr h) hno⟩
      · rw [hmain]
        exact (hsound c).trans (by simp)
      · have hcategory := hall (Category.of call.1)
        have := hsound (Category.of call.1)
        simp only [hmain, count_apply, if_true] at hcategory
        omega
      · simp [hmain, Request.category, hcall, eq_comm]
    all_goals
      refine ⟨fun c => ?_, ?_, fun c => ?_, fun _ => ?_⟩
      · have := hsound c
        simp only [hmain, count_apply]
        omega
      · rw [hraises, hmain, and_iff_left h]
        refine forall_congr' fun c => ?_
        simp only [count_apply]
        omega
      · simp [hmain, Request.category, hcall, eq_comm]
      · rw [hmain, hfaulty]
        rfl

theorem books_run (requests : List Request)
    (hsound : ∀ c, s.approved c + s.denied c ≤ s.observed c) :
    let t := (hook f).exec s requests
    (Reconciled t ↔
      Reconciled s ∧ (hook f).Admits (fun s r => ¬ RaisesOn f s r) s requests) ∧
      (∀ c, t.observed c = s.observed c + requests.countP fun r => r.category = some c) ∧
      ((hook f).Admits (fun s r => ¬ RaisesOn f s r) s requests →
        t.errors = s.errors + requests.countP (·.faulty)) := by
  induction requests generalizing s with
  | nil => exact ⟨by simp, fun _ => rfl, fun _ => rfl⟩
  | cons r rest ih =>
    obtain ⟨hsound', hreconciled, hobserved, herrors⟩ := hookMain_books (f := f) (r := r) hsound
    obtain ⟨hreconciled', hobserved', herrors'⟩ := ih hsound'
    refine ⟨?_, fun c => ?_, fun hadmits => ?_⟩
    · exact hreconciled'.trans (by rw [hreconciled, Machine.admits_cons, and_assoc]; rfl)
    · refine (hobserved' c).trans ?_
      rw [hobserved, List.countP_cons]
      simp only [decide_eq_true_eq]
      omega
    · refine (herrors' hadmits.2).trans ?_
      rw [herrors hadmits.1, List.countP_cons]
      omega

/-! ## The loader -/

theorem loadHookGate_isSome : (loadHookGate f s).isSome ↔
    (s.progress.sequence.length ≤ 4 ∧ .otherTool ∉ s.progress.sequence ∧
      s.progress.readPaths ⊆ f.paths ∧ s.progress.readPaths.card ≤ 2) ∧ s.errors ≤ 100 ∧
      (∀ c, s.observed c ≤ 32 ∧ s.approved c ≤ 32 ∧ s.denied c ≤ 32) ∧
        ∀ c, s.observed c = s.approved c + s.denied c := by
  unfold loadHookGate brokerRequestLimit
  split_ifs with hshape hbound hall hpaths <;> simp_all <;> grind

theorem scanItems_subset {refused : Entries → Bool} {files : List Value} {seen paths : List String}
    (h : scanItems f refused seen files = some paths) (hseen : ∀ path ∈ seen, path ∈ f.paths) :
    ∀ path ∈ paths, path ∈ f.paths := by
  fun_induction scanItems f refused seen files with
  | case1 seen =>
    cases h
    exact hseen
  | case3 seen item rest hkeys path hpath hfresh ih =>
    refine ih h (List.forall_mem_append.mpr ⟨hseen, List.forall_mem_singleton.mpr ?_⟩)
    by_contra hout
    exact hfresh (.inl hout)
  | _ => cases h

theorem coverage_subset {reads : List Call} (h : ∀ call ∈ reads, IsRead f call) :
    coverage f reads ⊆ f.paths := by
  intro path hpath
  obtain ⟨call, hcall, hmem⟩ := List.mem_flatMap.mp (List.mem_toFinset.mp hpath)
  obtain ⟨paths, hpaths⟩ := Option.isSome_iff_exists.mp (h call hcall).2
  rw [pathsOf, hpaths] at hmem
  rw [contractRead_eq] at hpaths
  obtain ⟨files, -, hscan⟩ := Option.bind_eq_some_iff.mp hpaths
  exact scanItems_subset hscan (List.forall_mem_nil _) path hmem

theorem Ran.shape {p : Progress} {reads last : List Call} (h : Ran f p reads last) :
    p.sequence.length ≤ 4 ∧ .otherTool ∉ p.sequence ∧ p.readPaths ⊆ f.paths ∧
      p.readPaths.card ≤ 2 := by
  have hsubset : p.readPaths ⊆ f.paths := by
    rw [h.paths]
    exact coverage_subset h.isRead
  have hreads := h.reads_le
  refine ⟨?_, ?_, hsubset, (Finset.card_le_card hsubset).trans Finset.card_le_two⟩
  · rw [h.sequence]
    cases p.phase <;> simp [Phase.tail] <;> omega
  · rw [h.sequence]
    cases p.phase <;> simp [Phase.tail]

theorem loads_iff (requests : List Request) :
    (loadHookGate f ((hook f).exec {} requests)).isSome ↔
      (hook f).Admits (fun s r => ¬ RaisesOn f s r) {} requests ∧
        (∀ c, (requests.countP fun r => r.category = some c) ≤ 32) ∧
          requests.countP (·.faulty) ≤ 100 := by
  obtain ⟨reads, last, hran, -⟩ := Ran.run (s := {}) requests (Ran.initial (f := f))
  obtain ⟨hreconciled, hobserved, herrors⟩ :=
    books_run (f := f) (s := {}) requests fun _ => Nat.zero_le _
  rw [loadHookGate_isSome, and_iff_right hran.shape]
  constructor
  · rintro ⟨hfew, hbounds, hall⟩
    have hadmits := (hreconciled.mp hall).2
    refine ⟨hadmits, fun c => ?_, ?_⟩
    · rw [← Nat.zero_add (requests.countP _)]
      exact (hobserved c).symm.trans_le (hbounds c).1
    · rwa [herrors hadmits, Nat.zero_add] at hfew
  · rintro ⟨hadmits, hcounts, hfew⟩
    have hall := hreconciled.mpr ⟨fun _ => rfl, hadmits⟩
    refine ⟨by rwa [herrors hadmits, Nat.zero_add], fun c => ?_, hall⟩
    have hcount : ((hook f).exec {} requests).observed c ≤ 32 := by
      rw [hobserved, Nat.zero_add]
      exact hcounts c
    have := hall c
    omega

/-! ## The three gates together -/

/-- A tool request as each gate gets it. -/
structure ToolRequest where
  tool : String
  input : Entries
  payload : Value
  payload_call : toolCall payload = some (tool, input)
  envelope : Entries
  envelope_keys : keySet envelope = envelopeKeys
  envelope_tool : Value.field "toolName" envelope = some (.str tool)
  envelope_input : Value.field "input" envelope = some (.dict input)

/-- The states of the gates. -/
structure Parties where
  hook : HookState := {}
  broker : Broker := {}
  contract : InputContract := {}

namespace Parties

def hookAllows (f : Fixture) (p : Parties) (r : ToolRequest) : Prop :=
  (hookDecide f p.hook r.payload).1.map Prod.fst = some true

def brokerAllows (f : Fixture) (p : Parties) (r : ToolRequest) : Prop :=
  (p.broker.decide f r.envelope).1.approved = true

def contractAllows (f : Fixture) (p : Parties) (r : ToolRequest) : Prop :=
  (p.contract.observe f r.tool (.dict r.input)).valid = true

def next (f : Fixture) (p : Parties) (r : ToolRequest) : Parties where
  hook := (hookDecide f p.hook r.payload).2
  broker := (p.broker.decide f r.envelope).2
  contract := p.contract.observe f r.tool (.dict r.input)

/-- The states after requests that all gates approved. -/
inductive Common (f : Fixture) : Parties → Prop where
  | initial : Common f {}
  | approve {p : Parties} (hp : Common f p) (r : ToolRequest) (hhook : p.hookAllows f r)
      (hbroker : p.brokerAllows f r) (hcontract : p.contractAllows f r) : Common f (p.next f r)

/-- The gates agree on what has been approved. -/
structure Agreed (f : Fixture) (p : Parties) (k : Progress) : Prop where
  contract : p.contract = ⟨k, true⟩
  hook : p.hook.progress = k
  observed : p.hook.observed = p.hook.approved
  approved : p.hook.approved = fun c => k.sequence.count c
  denied : p.hook.denied = fun _ => 0
  errors : p.hook.errors = 0
  brokerPaths : p.broker.approvedReadPaths = k.readPaths
  brokerApproved : p.broker.approved = p.hook.approved
  ran : ∃ reads last, Ran f k reads last

end Parties

open Parties

/-- A read that only the broker approves: the fixture has been read, or a range ends before
it starts. -/
def Loose (f : Fixture) (p : Progress) (tool : String) (value : Entries) : Prop :=
  Category.of tool = .readFiles ∧ p.sequence.length < 2 ∧ ∃ files, filesOf value = some files ∧
    (scanItems f badBounds [] files).isSome ∧
      (p.phase = .editing ∨ ∃ item, .dict item ∈ files ∧ inverted item = true)

variable {p : Parties} {k q : Progress}

theorem Parties.Agreed.counts (h : p.Agreed f k) :
    k.sequence.length ≤ 4 ∧
    (k.phase = .reading ∨ k.phase = .editing →
      p.broker.approved .readFiles = k.sequence.length) ∧
    (p.broker.approved .editor = if k.phase = .testing ∨
      k.phase = .complete then 1 else 0) ∧
    (p.broker.approved .runCommands = if k.phase = .complete then 1 else 0) ∧
    (p.broker.approvedReadPaths = f.paths ↔ k.phase ≠ .reading) := by
  obtain ⟨reads, last, hran⟩ := h.ran
  have happroved := h.brokerApproved.trans h.approved
  rw [hran.sequence] at happroved
  refine ⟨hran.shape.1, ?_, ?_, ?_, ?_⟩
  · rw [happroved, hran.sequence]
    rintro (hphase | hphase) <;> simp [hphase, Phase.tail]
  · rw [happroved]
    cases k.phase <;> simp [Phase.tail, List.count_replicate]
  · rw [happroved]
    cases k.phase <;> simp [Phase.tail, List.count_replicate]
  · rw [h.brokerPaths, hran.paths]
    exact ⟨fun hcover hphase => hran.reading.mp hphase hcover, hran.covered⟩

theorem readDecision_eq_ok {b : Broker} {paths : Finset String} :
    b.readDecision f value = .ok paths ↔
      (b.approved .editor = 0 ∧ b.approved .runCommands = 0 ∧ b.approved .readFiles < 2) ∧
        ∃ files observed, filesOf value = some files ∧
          scanItems f badBounds [] files = some observed ∧
            paths = b.approvedReadPaths ∪ observed.toFinset := by
  unfold Broker.readDecision filesOf
  cases hfiles : Value.field "files" value with
  | none => grind
  | some v =>
    cases v with
    | list files =>
      have hscan := brokerScan_toOption (f := f) files []
      cases hb : brokerScan f [] files with
      | error reason =>
        have hnone : scanItems f badBounds [] files = none := by rw [← hscan, hb]; rfl
        simp only [bind, Except.bind]
        grind
      | ok observed =>
        have hsome : scanItems f badBounds [] files = some observed := by rw [← hscan, hb]; rfl
        simp only [bind, Except.bind]
        grind
    | _ => grind

theorem editorDecision_eq_ok {b : Broker} : b.editorDecision f value = .ok () ↔
    b.approved .editor = 0 ∧ b.approvedReadPaths = f.paths ∧ contractEdit f value = true := by
  unfold Broker.editorDecision contractEdit
  split_ifs <;> simp_all
  omega

theorem commandDecision_eq_ok {b : Broker} : b.commandDecision value = .ok () ↔
    b.approved .runCommands = 0 ∧ b.approved .editor = 1 ∧ exactCommand value = true := by
  unfold Broker.commandDecision
  split_ifs <;> simp_all
  omega

theorem Parties.Agreed.toolDecision (h : p.Agreed f k)
    (hstep : contractStep f k tool value = some q) :
    ∃ reason, p.broker.toolDecision f value tool = .ok (q.readPaths, reason) := by
  obtain ⟨-, hreads, heditor, hcommand, hpaths⟩ := h.counts
  rcases contractStep_cases hstep with ⟨hof, hphase, hlength, paths, hread, rfl⟩ |
    ⟨hof, hphase, hedit, rfl⟩ | ⟨hof, hphase, hexact, rfl⟩
  · rw [contractRead_eq] at hread
    obtain ⟨files, hfiles, hscan⟩ := Option.bind_eq_some_iff.mp hread
    have hdecision : p.broker.readDecision f value = .ok (k.read f paths).readPaths :=
      readDecision_eq_ok.mpr ⟨⟨by simp [heditor, hphase], by simp [hcommand, hphase],
        by rwa [hreads (.inl hphase)]⟩, files, paths, hfiles, (scanItems_badLines.mp hscan).1,
        by rw [h.brokerPaths]; rfl⟩
    exact ⟨_, by rw [Broker.toolDecision, hof]; simp only [hdecision]; rfl⟩
  · have hdecision := editorDecision_eq_ok.mpr
      ⟨by simp [heditor, hphase], hpaths.mpr (by rw [hphase]; nofun), hedit⟩
    exact ⟨_, by rw [Broker.toolDecision, hof]; simp only [hdecision, h.brokerPaths]; rfl⟩
  · have hdecision := commandDecision_eq_ok.mpr
      ⟨by rw [hcommand, hphase]; rfl, by rw [heditor, hphase]; rfl, hexact⟩
    exact ⟨_, by rw [Broker.toolDecision, hof]; simp only [hdecision, h.brokerPaths]; rfl⟩

theorem Parties.Agreed.step_or_loose (h : p.Agreed f k) {out : Finset String × String}
    (hdecision : p.broker.toolDecision f value tool = .ok out) :
    (contractStep f k tool value).isSome ∨
      Loose f k tool value := by
  obtain ⟨-, hreads, heditor, hcommand, hpaths⟩ := h.counts
  unfold Broker.toolDecision at hdecision
  unfold contractStep
  split at hdecision
  · next hof =>
    obtain ⟨paths, hread, -⟩ := map_eq_ok.mp hdecision
    obtain ⟨⟨-, -, hlength⟩, files, observed, hfiles, hscan, -⟩ := readDecision_eq_ok.mp hread
    have hphase : k.phase = .reading ∨ k.phase = .editing := by
      have := (readDecision_eq_ok.mp hread).1.1
      cases hphase : k.phase <;> simp_all
    rw [hreads hphase] at hlength
    have hloose (hwhy : k.phase = .editing ∨
        ∃ item, .dict item ∈ files ∧ inverted item = true) :
        Loose f k tool value :=
      ⟨hof, hlength, files, hfiles, by rw [hscan]; rfl, hwhy⟩
    rcases hphase with hphase | hphase
    · by_cases hinverted : ∃ item, .dict item ∈ files ∧ inverted item = true
      · exact .inr (hloose (.inr hinverted))
      · have hstrict := scanItems_badLines.mpr ⟨hscan, hinverted⟩
        exact .inl (by simp [hphase, contractRead_eq, hfiles, hstrict, not_le.mpr hlength])
    · exact .inr (hloose (.inl hphase))
  · next hof =>
    obtain ⟨_, hedit, _⟩ := map_eq_ok.mp hdecision
    obtain ⟨hbudget, hcover, hexact⟩ := editorDecision_eq_ok.mp hedit
    have hphase : k.phase = .editing := by
      have := hpaths.mp hcover
      cases hphase : k.phase <;> simp_all
    exact .inl (by simp [hphase, hexact])
  · next hof =>
    obtain ⟨_, hrun, _⟩ := map_eq_ok.mp hdecision
    obtain ⟨hbudget, hedited, hexact⟩ := commandDecision_eq_ok.mp hrun
    have hphase : k.phase = .testing := by
      cases hphase : k.phase <;> simp_all
    exact .inl (by simp [hphase, hexact])
  · cases hdecision

theorem contractAllows_iff (h : p.contract = ⟨k, true⟩) (r : ToolRequest) :
    p.contractAllows f r ↔ (contractStep f k r.tool r.input).isSome := by
  unfold Parties.contractAllows InputContract.observe
  rw [h]
  dsimp only
  rw [if_pos rfl]
  cases contractStep f k r.tool r.input <;> simp

theorem hookAllows_iff (r : ToolRequest) :
    p.hookAllows f r ↔ (contractStep f p.hook.progress r.tool r.input).isSome := by
  unfold Parties.hookAllows hookDecide
  rw [r.payload_call, ← hookGrant_join]
  dsimp only
  rcases hookGrant f p.hook.progress r.tool r.input with _ | _ | out <;> simp

theorem broker_decide (r : ToolRequest) :
    p.broker.decide f r.envelope = match p.broker.toolDecision f r.input r.tool with
      | .ok (approvedReadPaths, reason) => (⟨true, Category.of r.tool, reason⟩,
          { approved := count p.broker.approved (Category.of r.tool), approvedReadPaths })
      | .error reason => (⟨false, Category.of r.tool, reason⟩, p.broker) := by
  unfold Broker.decide
  rewrite [if_pos r.envelope_keys, r.envelope_tool, r.envelope_input]
  rfl

theorem brokerAllows_iff (r : ToolRequest) :
    p.brokerAllows f r ↔ ∃ out, p.broker.toolDecision f r.input r.tool = .ok out := by
  unfold Parties.brokerAllows
  rw [broker_decide]
  cases p.broker.toolDecision f r.input r.tool <;> simp

theorem Parties.Agreed.initial : Agreed f {} .initial :=
  ⟨rfl, rfl, rfl, rfl, rfl, rfl, rfl, rfl, [], [], .initial⟩

theorem Parties.Agreed.next (h : p.Agreed f k) {r : ToolRequest}
    (hstep : contractStep f k r.tool r.input = some q) : (p.next f r).Agreed f q := by
  obtain ⟨reads, last, hran⟩ := h.ran
  obtain ⟨reads', last', hran', -⟩ := hran.step hstep
  obtain ⟨brokerReason, hdecision⟩ := h.toolDecision hstep
  have hsequence : q.sequence = k.sequence ++ [Category.of r.tool] := by
    rcases contractStep_cases hstep with ⟨hof, -, -, paths, -, rfl⟩ | ⟨hof, -, -, rfl⟩ |
      ⟨hof, -, -, rfl⟩
    all_goals rw [hof]; rfl
  have hcount : count (fun c => k.sequence.count c) (Category.of r.tool) =
      fun c => q.sequence.count c := by
    funext c
    rw [hsequence, List.count_append, List.count_singleton, count_apply]
    by_cases hc : c = Category.of r.tool
    · simp [hc]
    · simp [hc, Ne.symm hc]
  have hcontract : (p.next f r).contract = ⟨q, true⟩ := by
    simp only [Parties.next, InputContract.observe, h.contract, hstep, if_true]
  have hbroker : (p.next f r).broker =
      { approved := count p.broker.approved (Category.of r.tool)
        approvedReadPaths := q.readPaths } := by
    simp only [Parties.next, broker_decide, hdecision]
  obtain ⟨reason, hgrant⟩ : ∃ reason,
      hookGrant f p.hook.progress r.tool r.input = some (some (q, reason)) := by
    rw [← h.hook, ← hookGrant_join] at hstep
    rcases hg : hookGrant f p.hook.progress r.tool r.input with _ | _ | ⟨q', reason⟩
    all_goals
      rw [hg] at hstep
      cases hstep
    exact ⟨reason, rfl⟩
  have hhook : (p.next f r).hook =
      { p.hook with
        progress := q
        observed := count p.hook.observed (Category.of r.tool)
        approved := count p.hook.approved (Category.of r.tool) } := by
    simp only [Parties.next, hookDecide, r.payload_call, hgrant]
  rw [← h.approved] at hcount
  refine ⟨hcontract, ?_, ?_, ?_, ?_, ?_, ?_, ?_, reads', last', hran'⟩
  · rw [hhook]
  · rw [hhook]
    exact congrArg (count · _) h.observed
  · rw [hhook]
    exact hcount
  · rw [hhook]
    exact h.denied
  · rw [hhook]
    exact h.errors
  · rw [hbroker]
  · rw [hhook, hbroker]
    exact congrArg (count · _) h.brokerApproved

theorem Parties.Common.agreed (h : Common f p) : ∃ k, p.Agreed f k := by
  induction h with
  | initial => exact ⟨_, .initial⟩
  | approve hp r hhook hbroker hcontract ih =>
    obtain ⟨k, hk⟩ := ih
    obtain ⟨q, hstep⟩ :=
      Option.isSome_iff_exists.mp ((contractAllows_iff hk.contract r).mp hcontract)
    exact ⟨q, hk.next hstep⟩

theorem ne_nil_of_covers {reads : List Call} (h : coverage f reads = f.paths) : reads ≠ [] := by
  rintro rfl
  have hmem : f.source ∈ coverage f [] := by rw [h]; exact Finset.mem_insert_self _ _
  cases hmem

theorem Ran.complete {p : Progress} {reads last : List Call} (h : Ran f p reads last)
    (hphase : p.phase = .complete) : p.readPaths = f.paths ∧ 3 ≤ p.sequence.length ∧
      p.sequence.length ≤ 4 ∧ finished p.sequence = true := by
  have hcover : coverage f reads = f.paths := h.covered (by rw [hphase]; nofun)
  have hsequence : p.sequence =
      List.replicate reads.length .readFiles ++ [.editor, .runCommands] := by
    rw [h.sequence, hphase]
    rfl
  have hpos := List.length_pos_of_ne_nil (ne_nil_of_covers hcover)
  have hle := h.reads_le
  refine ⟨h.paths.trans hcover, ?_, ?_, ?_⟩
  · rw [hsequence, List.length_append, List.length_replicate]
    exact Nat.add_le_add_right hpos 2
  · rw [hsequence, List.length_append, List.length_replicate]
    exact Nat.add_le_add_right hle 2
  · simp [finished, hsequence]

theorem Parties.Agreed.verdicts (h : p.Agreed f k) :
    (∃ gate, loadHookGate f p.hook = some gate ∧
      (gate.contractComplete = true ↔ k.phase = .complete)) ∧
    (p.broker.contractComplete f = true ↔ k.phase = .complete) ∧
    (p.contract.status f = .complete ↔ k.phase = .complete) := by
  obtain ⟨reads, last, hran⟩ := h.ran
  refine ⟨?_, ?_, ?_⟩
  · have hloads : (loadHookGate f p.hook).isSome := by
      have hlength := hran.shape.1
      have hcount (c : Category) := (List.count_le_length (a := c)).trans hlength
      rw [loadHookGate_isSome, h.hook, h.errors, h.observed, h.denied, h.approved]
      refine ⟨hran.shape, Nat.zero_le 100, fun c => ?_, fun c => rfl⟩
      exact ⟨(hcount c).trans (by decide), (hcount c).trans (by decide), Nat.zero_le 32⟩
    obtain ⟨gate, hgate⟩ := Option.isSome_iff_exists.mp hloads
    refine ⟨gate, hgate, ?_⟩
    unfold loadHookGate at hgate
    rw [h.errors, if_pos rfl] at hgate
    split_ifs at hgate
    obtain rfl := Option.some.inj hgate
    simp only [HookGate.contractComplete, h.hook, h.denied]
    constructor
    · intro hcomplete
      simp only [Bool.and_eq_true, decide_eq_true_eq] at hcomplete
      exact hcomplete.1.1.1.1.1
    · intro hphase
      obtain ⟨hpaths, hlong, hshort, hfinished⟩ := hran.complete hphase
      simp [hphase, hpaths, hfinished]
      omega
  · obtain ⟨-, -, heditor, hcommand, hpaths⟩ := h.counts
    simp only [Broker.contractComplete, Bool.and_eq_true, decide_eq_true_eq, hpaths, heditor,
      hcommand]
    cases k.phase <;> simp
  · unfold InputContract.status
    rw [h.contract]
    constructor
    · intro hstatus
      split at hstatus
      · cases hstatus
      · split at hstatus
        · next hcomplete => exact hcomplete.1
        · cases hstatus
    · intro hphase
      obtain ⟨hpaths, hlong, hshort, hfinished⟩ := hran.complete hphase
      simp [hphase, hpaths, hlong, hshort, hfinished]

/-! ## The contract -/

/-- One or two reads that cover the fixture, the exact edit and the exact command. -/
def CompleteCalls (f : Fixture) (calls : List Call) : Prop :=
  ∃ reads edit command, calls = reads ++ [edit, command] ∧ reads ≠ [] ∧ reads.length ≤ 2 ∧
    (∀ call ∈ reads, IsRead f call) ∧ coverage f reads = f.paths ∧ IsEdit f edit ∧ IsCommand command

/-- The read of both files, the edit and the command of a run without detours. -/
def readBoth (f : Fixture) : Call :=
  ("read_files", [("files", .list
    [.dict [("path", .str f.source)], .dict [("path", .str f.test)]])])

def fullEdit (f : Fixture) : Call :=
  ("editor", [("path", .str f.source), ("old_text", .str brokenSource),
    ("new_text", .str fixedSource)])

def testRun : Call := ("run_commands", [("commands", .list [.str allowedCommand])])

theorem isRead_readBoth : IsRead f (readBoth f) ∧ pathsOf f (readBoth f) = [f.source, f.test] := by
  have hfiles : filesOf (readBoth f).2 =
      some [.dict [("path", .str f.source)], .dict [("path", .str f.test)]] := rfl
  have hitem (path : String) : itemKeys [("path", .str path)] = true ∧
      badLines [("path", .str path)] = false ∧
        Value.field "path" [("path", .str path)] = some (.str path) := ⟨rfl, rfl, rfl⟩
  have hread : contractRead f (readBoth f).2 = some [f.source, f.test] := by
    rw [contractRead_eq, hfiles]
    simp [scanItems, hitem, Fixture.paths, f.distinct.symm]
  exact ⟨⟨rfl, by rw [hread]; rfl⟩, by rw [pathsOf, hread]; rfl⟩

theorem isEdit_fullEdit : IsEdit f (fullEdit f) := by
  refine ⟨rfl, ?_⟩
  have hpath : isText f.source (Value.field "path" (fullEdit f).2) = true := decide_eq_true rfl
  have hedit : allowedEdit (fullEdit f).2 = true := rfl
  simp only [contractEdit, hpath, hedit]
  rfl

theorem isCommand_testRun : IsCommand testRun := ⟨rfl, rfl⟩

theorem Ran.completed {p : Progress} {reads last : List Call} (h : Ran f p reads last) :
    (∃ all, CompleteCalls f all ∧ reads ++ last <+: all) ∨
      ∃ first second, reads ++ last = [first, second] ∧ IsRead f first ∧ IsRead f second ∧
        coverage f [first, second] ≠ f.paths := by
  by_cases hcover : coverage f reads = f.paths
  · have hcomplete (edit command : Call) (hedit : IsEdit f edit) (hcommand : IsCommand command) :
        CompleteCalls f (reads ++ [edit, command]) :=
      ⟨reads, edit, command, rfl, ne_nil_of_covers hcover, h.reads_le, h.isRead, hcover, hedit,
        hcommand⟩
    have hfollowed := h.followed
    left
    cases hphase : p.phase with
    | reading => exact absurd hcover (h.reading.mp hphase)
    | editing =>
      rw [hphase] at hfollowed
      obtain rfl := hfollowed
      exact ⟨_, hcomplete _ _ isEdit_fullEdit isCommand_testRun, by simp⟩
    | testing =>
      rw [hphase] at hfollowed
      obtain ⟨edit, hedit, rfl⟩ := hfollowed
      exact ⟨_, hcomplete _ _ hedit isCommand_testRun,
        (List.prefix_append_right_inj _).mpr ⟨[testRun], rfl⟩⟩
    | complete =>
      rw [hphase] at hfollowed
      obtain ⟨edit, command, hedit, hcommand, rfl⟩ := hfollowed
      exact ⟨_, hcomplete _ _ hedit hcommand, List.prefix_rfl⟩
  · have hlast : last = [] := by
      have hfollowed := h.followed
      rwa [h.reading.mpr hcover] at hfollowed
    rw [hlast, List.append_nil]
    by_cases htwo : reads.length = 2
    · obtain ⟨first, second, rfl⟩ := List.length_eq_two.mp htwo
      exact .inr ⟨first, second, rfl, h.isRead _ (by simp), h.isRead _ (by simp), hcover⟩
    · have hle := h.reads_le
      obtain ⟨hboth, hpaths⟩ := isRead_readBoth (f := f)
      refine .inl ⟨reads ++ [readBoth f] ++ [fullEdit f, testRun],
        ⟨_, _, _, rfl, by simp, ?_, ?_, ?_, isEdit_fullEdit, isCommand_testRun⟩, by simp⟩
      · rw [List.length_append]
        have : reads.length < 2 := by omega
        exact this
      · exact List.forall_mem_append.mpr ⟨h.isRead, List.forall_mem_singleton.mpr hboth⟩
      · have hall : ([f.source, f.test].toFinset : Finset String) = f.paths := by
          simp [Fixture.paths]
        rw [coverage_concat, hpaths, hall]
        exact Finset.union_eq_right.mpr (coverage_subset h.isRead)

def sampleFixture : Fixture := ⟨"/w/calculator.py", "/w/test_calculator.py", by decide⟩

/-- A call as the hook and the broker get it. -/
def toolRequest (call : Call) : ToolRequest where
  tool := call.1
  input := call.2
  payload := .dict [("tool_call", .dict [("name", .str call.1), ("input", .dict call.2)])]
  payload_call := rfl
  envelope := [("requestId", .none), ("sessionId", .none), ("createdAt", .none),
    ("toolCallId", .none), ("toolName", .str call.1), ("input", .dict call.2),
    ("iteration", .none), ("agentId", .none), ("conversationId", .none)]
  envelope_keys := rfl
  envelope_tool := rfl
  envelope_input := rfl

def readOf (item : Entries) : Call := ("read_files", [("files", .list [.dict item])])

end LocalMoe.CodingCanary
