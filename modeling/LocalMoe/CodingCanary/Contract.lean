/-
  What the three gates have in common.
-/
import LocalMoe.CodingCanary.Gates

namespace LocalMoe.CodingCanary

open Contracts Foundation

variable {f : Fixture} {p q : Progress} {tool : String} {value : Entries}

/-! ## The scans -/

/-- The lines that the hook and the input contract refuse. -/
def badLines (item : Entries) : Bool := badBounds item || inverted item

theorem hookScan_join (files : List Value) (paths : List String) :
    (hookScan f paths files).join = scanItems f badLines paths files := by
  fun_induction hookScan f paths files <;> simp_all [scanItems, badLines]
  all_goals grind [unhashable]

theorem brokerScan_toOption (files : List Value) (observed : List String) :
    (brokerScan f observed files).toOption = scanItems f badBounds observed files := by
  fun_induction brokerScan f observed files <;> simp_all [scanItems, Except.toOption]
  grind

theorem scanItems_badLines {files : List Value} {seen paths : List String} :
    scanItems f badLines seen files = some paths ↔
      scanItems f badBounds seen files = some paths ∧
        ¬ ∃ item, .dict item ∈ files ∧ inverted item = true := by
  fun_induction scanItems f badBounds seen files <;> simp_all [scanItems, badLines]
  all_goals grind

/-! ## The branches -/

theorem hashable_of_allowedEdit (h : allowedEdit value = true) :
    ¬ (unhashable (Value.field "old_text" value) = true ∨
      unhashable (Value.field "new_text" value) = true) := by
  have htext {text : String} {v : Option Value} (hv : isText text v = true) :
      ¬ unhashable v = true := by
    unfold isText at hv
    split at hv
    · nofun
    · cases hv
  simp only [allowedEdit, Bool.or_eq_true, Bool.and_eq_true] at h
  rcases h with ⟨hold, hnew⟩ | ⟨hold, hnew⟩
  all_goals exact not_or.mpr ⟨htext hold, htext hnew⟩

theorem contractRead_eq : contractRead f value =
    (filesOf value).bind fun files => scanItems f badLines [] files := rfl

theorem hookGrant_join :
    (hookGrant f p tool value).join.map Prod.fst = contractStep f p tool value := by
  unfold hookGrant contractStep
  split
  · next hof hphase =>
    rw [hof, hphase, contractRead_eq]
    cases filesOf value with
    | none => rfl
    | some files =>
      simp only [Option.bind_some, if_true, ← hookScan_join]
      rcases hookScan f [] files with _ | _ | paths
      · rfl
      · rfl
      · by_cases hlength : p.sequence.length < 2
        · simp [hlength, not_le.mpr hlength]
        · simp [hlength, not_lt.mp hlength]
  · next hof hphase =>
    rw [hof, hphase]
    by_cases hedit : allowedEdit value = true
    · simp only [hashable_of_allowedEdit hedit, contractEdit, hedit]
      by_cases hkeys : editKeys value = true
      · simp only [hkeys, Bool.true_and, Bool.and_true, Bool.and_eq_true, true_and, if_true,
          if_false]
        by_cases hpath : isText f.source (Value.field "path" value) = true ∧
          isNone (Value.field "insert_line" value) = true
        · rw [if_pos hpath, if_pos hpath]
          rfl
        · rw [if_neg hpath, if_neg hpath]
          rfl
      · simp [hkeys]
    · simp only [contractEdit, hedit]
      split
      · split
        · split <;> simp
        · simp
      · simp
  · next hof hphase =>
    rw [hof, hphase]
    by_cases hcommand : exactCommand value = true <;> simp [hcommand]
  · next hread hedit hcommand =>
    cases hof : Category.of tool with
    | readFiles => exact (if_neg (hread hof)).symm
    | editor => exact (if_neg fun h => hedit hof h.1).symm
    | runCommands => exact (if_neg fun h => hcommand hof h.1).symm
    | otherTool => rfl

/-- The hook comes to a path that it cannot look up, or to a text that it cannot hash. -/
def Raises (f : Fixture) (p : Progress) (tool : String) (value : Entries) : Prop :=
  match Category.of tool, p.phase with
  | .readFiles, .reading => ∃ files, filesOf value = some files ∧ hookScan f [] files = none
  | .editor, .editing =>
    editKeys value = true ∧ isText f.source (Value.field "path" value) = true ∧
      isNone (Value.field "insert_line" value) = true ∧
        (unhashable (Value.field "old_text" value) = true ∨
          unhashable (Value.field "new_text" value) = true)
  | _, _ => False

theorem hookGrant_eq_none : hookGrant f p tool value = none ↔ Raises f p tool value := by
  unfold hookGrant Raises
  split
  · next hof hphase =>
    rw [hof, hphase]
    cases filesOf value with
    | none => simp
    | some files =>
      simp only [Option.some.injEq, exists_eq_left']
      rcases hookScan f [] files with _ | _ | paths
      · simp
      · simp
      · by_cases hlength : p.sequence.length < 2 <;> simp [hlength]
  · next hof hphase =>
    rw [hof, hphase]
    by_cases hkeys : editKeys value = true
    · rw [if_pos hkeys]
      split
      · split
        · simp_all
        · split <;> simp_all
      · simp_all
    · simp [hkeys]
  · next hof hphase =>
    rw [hof, hphase]
    by_cases hcommand : exactCommand value = true <;> simp [hcommand]
  · next hread hedit hcommand =>
    refine iff_of_false nofun ?_
    split
    · next hof hphase => exact absurd hphase (hread hof)
    · next hof hphase => exact absurd hphase (hedit hof)
    · nofun

theorem contractStep_cases (h : contractStep f p tool value = some q) :
    (Category.of tool = .readFiles ∧ p.phase = .reading ∧ p.sequence.length < 2 ∧
      ∃ paths, contractRead f value = some paths ∧ q = p.read f paths) ∨
    (Category.of tool = .editor ∧ p.phase = .editing ∧ contractEdit f value = true ∧
      q = p.edit) ∨
    (Category.of tool = .runCommands ∧ p.phase = .testing ∧ exactCommand value = true ∧
      q = p.command) := by
  unfold contractStep at h
  split at h
  · next hof =>
    split at h
    · next hphase =>
      obtain ⟨paths, hpaths, h⟩ := Option.bind_eq_some_iff.mp h
      split at h
      · cases h
      · next hlength =>
        exact .inl ⟨hof, hphase, not_le.mp hlength, paths, hpaths, (Option.some.inj h).symm⟩
    · cases h
  · next hof =>
    split at h
    · next hedit => exact .inr (.inl ⟨hof, hedit.1, hedit.2, (Option.some.inj h).symm⟩)
    · cases h
  · next hof =>
    split at h
    · next hcommand => exact .inr (.inr ⟨hof, hcommand.1, hcommand.2, (Option.some.inj h).symm⟩)
    · cases h
  · cases h

/-! ## What has been approved -/

def pathsOf (f : Fixture) (call : Call) : List String := (contractRead f call.2).getD []

def coverage (f : Fixture) (calls : List Call) : Finset String :=
  (calls.flatMap (pathsOf f)).toFinset

def IsRead (f : Fixture) (call : Call) : Prop :=
  Category.of call.1 = .readFiles ∧ (contractRead f call.2).isSome

def IsEdit (f : Fixture) (call : Call) : Prop :=
  Category.of call.1 = .editor ∧ contractEdit f call.2 = true

def IsCommand (call : Call) : Prop :=
  Category.of call.1 = .runCommands ∧ exactCommand call.2 = true

/-- What follows the reads in a phase: what the state file has of it. -/
def Phase.tail : Phase → List Category
  | .reading | .editing => []
  | .testing => [.editor]
  | .complete => [.editor, .runCommands]

def Followed (f : Fixture) : Phase → List Call → Prop
  | .reading, last | .editing, last => last = []
  | .testing, last => ∃ edit, IsEdit f edit ∧ last = [edit]
  | .complete, last => ∃ edit command, IsEdit f edit ∧ IsCommand command ∧ last = [edit, command]

/-- The progress after some reads and the calls that followed them. -/
structure Ran (f : Fixture) (p : Progress) (reads last : List Call) : Prop where
  reads_le : reads.length ≤ 2
  isRead : ∀ call ∈ reads, IsRead f call
  paths : p.readPaths = coverage f reads
  sequence : p.sequence = List.replicate reads.length .readFiles ++ p.phase.tail
  reading : p.phase = .reading ↔ coverage f reads ≠ f.paths
  followed : Followed f p.phase last

theorem coverage_concat (reads : List Call) (call : Call) :
    coverage f (reads ++ [call]) = coverage f reads ∪ (pathsOf f call).toFinset := by
  simp [coverage]

theorem Ran.initial : Ran f .initial [] [] where
  reads_le := Nat.zero_le 2
  isRead := nofun
  paths := rfl
  sequence := rfl
  reading := by simp [Progress.initial, coverage, Fixture.paths, eq_comm (a := (∅ : Finset _))]
  followed := rfl

theorem Ran.covered {reads last : List Call} (h : Ran f p reads last)
    (hphase : p.phase ≠ .reading) : coverage f reads = f.paths := by
  by_contra hne
  exact hphase (h.reading.mpr hne)

theorem Ran.step {reads last : List Call} (h : Ran f p reads last)
    (hstep : contractStep f p tool value = some q) :
    ∃ reads' last', Ran f q reads' last' ∧ reads' ++ last' = reads ++ last ++ [(tool, value)] := by
  rcases contractStep_cases hstep with ⟨hof, hphase, hlength, paths, hpaths, rfl⟩ |
    ⟨hof, hphase, hedit, rfl⟩ | ⟨hof, hphase, hcommand, rfl⟩
  · have hlast : last = [] := by simpa only [Followed, hphase] using h.followed
    have hcovered : coverage f (reads ++ [(tool, value)]) = p.readPaths ∪ paths.toFinset := by
      rw [coverage_concat, h.paths, pathsOf, hpaths]
      rfl
    have hsequence := h.sequence
    rw [hphase] at hsequence
    have hreads : reads.length < 2 := by simpa [hsequence, Phase.tail] using hlength
    refine ⟨reads ++ [(tool, value)], [],
      ⟨by rw [List.length_append]; exact hreads, ?_, hcovered.symm, ?_, ?_, ?_⟩, ?_⟩
    · exact List.forall_mem_append.mpr ⟨h.isRead,
        List.forall_mem_singleton.mpr ⟨hof, by rw [hpaths]; rfl⟩⟩
    · simp only [Progress.read, hsequence, hphase]
      split <;> simp [Phase.tail, List.replicate_succ']
    · rw [hcovered]
      simp only [Progress.read, hphase]
      split <;> simp [*]
    · simp only [Progress.read, hphase]
      split <;> rfl
    · simp [hlast]
  · have hlast : last = [] := by simpa only [Followed, hphase] using h.followed
    refine ⟨reads, [(tool, value)], ⟨h.reads_le, h.isRead, h.paths, ?_, ?_, ?_⟩, by simp [hlast]⟩
    · simp [Progress.edit, h.sequence, hphase, Phase.tail]
    · exact ⟨nofun, fun hne => absurd (h.covered (by rw [hphase]; nofun)) hne⟩
    · exact ⟨(tool, value), ⟨hof, hedit⟩, rfl⟩
  · obtain ⟨edit, hedit, rfl⟩ : ∃ edit, IsEdit f edit ∧ last = [edit] := by
      simpa only [Followed, hphase] using h.followed
    refine ⟨reads, [edit, (tool, value)], ⟨h.reads_le, h.isRead, h.paths, ?_, ?_, ?_⟩, by simp⟩
    · simp [Progress.command, h.sequence, hphase, Phase.tail]
    · exact ⟨nofun, fun hne => absurd (h.covered (by rw [hphase]; nofun)) hne⟩
    · exact ⟨edit, (tool, value), hedit, ⟨hof, hcommand⟩, rfl⟩

end LocalMoe.CodingCanary
