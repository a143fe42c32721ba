/-
  What becomes of an answer when experts fail.
-/
import LocalMoe.Experts.Orchestrator

namespace LocalMoe.Experts

open Foundation

/-! ## What an expert answers -/

section Loops

variable (invoke : String → Except Exc ExpertResult)

def success (id : String) : Option ExpertResult :=
  match invoke id with
  | .ok result => some result
  | .error _ => none

/-- The line in `errors` of an expert that fails. -/
def message (id : String) : Option String :=
  match invoke id with
  | .error (.provider message) => some s!"{id}: {message}"
  | _ => none

/-- The expert fails with a `ProviderError`. -/
def failed (id : String) : Bool := (message invoke id).isSome

/-- Asking the expert ends the answer. -/
def aborts (id : String) : Bool := !failed invoke id && (success invoke id).isNone

/-- The fallbacks that are asked until so many have not failed. -/
def reached : Nat → List String → List String
  | 0, _ => []
  | _, [] => []
  | limit + 1, id :: rest =>
    id :: if failed invoke id then reached (limit + 1) rest else reached limit rest

variable {invoke} {id : String}

theorem answer_cases (invoke : String → Except Exc ExpertResult) (id : String) :
    (∃ result, invoke id = .ok result ∧ success invoke id = some result ∧
      message invoke id = none ∧ failed invoke id = false ∧ aborts invoke id = false) ∨
    (∃ text, invoke id = .error (.provider text) ∧ success invoke id = none ∧
      message invoke id = some s!"{id}: {text}" ∧ failed invoke id = true ∧
      aborts invoke id = false) ∨
    (∃ e, invoke id = .error e ∧ success invoke id = none ∧ message invoke id = none ∧
      failed invoke id = false ∧ aborts invoke id = true ∧
      attempt invoke id = fun asked => (asked ++ [id], .error e)) := by
  rcases hanswer : invoke id with e | result
  · rcases e with text | detail | name
    · exact .inr (.inl ⟨text, rfl, by simp [success, message, failed, aborts, hanswer]⟩)
    · refine .inr (.inr ⟨_, rfl, by simp [success, hanswer], by simp [message, hanswer],
        by simp [failed, message, hanswer], by simp [aborts, failed, message, success, hanswer], ?_⟩)
      funext asked
      simp [attempt, ask, Effect.handle, Effect.bind_run, hanswer, Effect.fail]
    · refine .inr (.inr ⟨_, rfl, by simp [success, hanswer], by simp [message, hanswer],
        by simp [failed, message, hanswer], by simp [aborts, failed, message, success, hanswer], ?_⟩)
      funext asked
      simp [attempt, ask, Effect.handle, Effect.bind_run, hanswer, Effect.fail]
  · exact .inl ⟨result, rfl, by simp [success, message, failed, aborts, hanswer]⟩

theorem aborts_error (h : aborts invoke id = true) : ∃ e, invoke id = .error e := by
  rcases hanswer : invoke id with e | result
  · exact ⟨e, rfl⟩
  · simp [aborts, success, hanswer] at h

theorem attempt_ok {result : ExpertResult} (h : invoke id = .ok result) (asked : List String) :
    attempt invoke id asked = (asked ++ [id], .ok (.ok result)) := by
  simp [attempt, ask, Effect.handle, Effect.bind_run, h, Effect.pure_run]

theorem attempt_failed {text : String} (h : invoke id = .error (.provider text))
    (asked : List String) :
    attempt invoke id asked = (asked ++ [id], .ok (.error s!"{id}: {text}")) := by
  simp [attempt, ask, Effect.handle, Effect.bind_run, h, Effect.pure_run]

/-! ## The loops, computed -/

variable (order : List String)

theorem generateBest_run (asked : List String) : generateBest invoke order asked =
      match order.find? fun id => !failed invoke id with
      | none => (asked ++ order, .ok ([], order.filterMap (message invoke)))
      | some id =>
        (asked ++ (order.takeWhile (failed invoke) ++ [id]), (invoke id).map fun result =>
            ([result], (order.takeWhile (failed invoke)).filterMap (message invoke))) := by
  induction order generalizing asked with
  | nil => simp [generateBest, Effect.pure_run]
  | cons id rest ih =>
    rw [generateBest, Effect.bind_run]
    rcases answer_cases invoke id with
      ⟨result, hanswer, -, -, hfailed, -⟩ | ⟨text, hanswer, -, hmessage, hfailed, -⟩ |
      ⟨e, hanswer, -, -, hfailed, -, hattempt⟩
    · simp [attempt_ok hanswer, hfailed, hanswer, Effect.pure_run, Except.map]
    · rw [attempt_failed hanswer]
      simp only [Effect.bind_run, ih]
      rcases hfound : rest.find? fun id => !failed invoke id with _ | found
      · simp [hfailed, hfound, hmessage, Effect.pure_run]
      · rcases hfoundAnswer : invoke found with e | result
        · simp [hfailed, hfound, hfoundAnswer, Except.map]
        · simp [hfailed, hfound, hfoundAnswer, hmessage, Except.map, Effect.pure_run]
    · simp [hattempt, hfailed, hanswer, Except.map]

theorem collect_run (completed : List String) : collect invoke completed =
      match completed.find? (aborts invoke) with
      | none => .ok (completed.filterMap (success invoke), completed.filterMap (message invoke))
      | some id => (invoke id).map fun _ => ([], []) := by
  induction completed with
  | nil => simp [collect]
  | cons id rest ih =>
    rw [collect]
    rcases answer_cases invoke id with
      ⟨result, hanswer, hsuccess, hmessage, -, haborts⟩ |
      ⟨text, hanswer, hsuccess, hmessage, -, haborts⟩ |
      ⟨e, hanswer, -, -, hfailed, haborts, -⟩
    · rw [ih]
      rcases hfound : rest.find? (aborts invoke) with _ | found
      · simp [hanswer, haborts, hfound, hsuccess, hmessage, Except.map]
      · obtain ⟨e, herror⟩ := aborts_error (List.find?_some hfound)
        simp [hanswer, haborts, hfound, herror, Except.map]
    · rw [ih]
      rcases hfound : rest.find? (aborts invoke) with _ | found
      · simp [hanswer, haborts, hfound, hsuccess, hmessage, Except.map]
      · obtain ⟨e, herror⟩ := aborts_error (List.find?_some hfound)
        simp [hanswer, haborts, hfound, herror, Except.map]
    · have hnot : ∀ text, e ≠ .provider text := fun text he => by
        simp [failed, message, hanswer, he] at hfailed
      rcases e with text | detail | name
      · exact absurd rfl (hnot text)
      · simp [hanswer, haborts, Except.map]
      · simp [hanswer, haborts, Except.map]

theorem generateFallbacks_run (limit : Nat) (asked : List String) :
    generateFallbacks invoke (limit + 1) order asked =
      match (reached invoke (limit + 1) order).find? (aborts invoke) with
      | none => (asked ++ reached invoke (limit + 1) order,
          .ok ((reached invoke (limit + 1) order).filterMap (success invoke),
            (reached invoke (limit + 1) order).filterMap (message invoke)))
      | some id =>
        (asked ++ ((reached invoke (limit + 1) order).takeWhile (fun id => !aborts invoke id) ++
          [id]), (invoke id).map fun _ => ([], [])) := by
  induction order generalizing asked limit with
  | nil => simp [generateFallbacks, reached, Effect.pure_run]
  | cons id rest ih =>
    rw [generateFallbacks, Effect.bind_run, reached]
    rcases answer_cases invoke id with
      ⟨result, hanswer, hsuccess, hmessage, hfailed, haborts⟩ |
      ⟨text, hanswer, hsuccess, hmessage, hfailed, haborts⟩ |
      ⟨e, hanswer, -, -, hfailed, haborts, hattempt⟩
    · rw [attempt_ok hanswer]
      cases limit with
      | zero => simp [hfailed, haborts, hsuccess, hmessage, reached, Effect.pure_run]
      | succ limit =>
        simp only [Effect.bind_run, hfailed, Nat.add_sub_cancel, ih,
          if_neg (show ¬limit + 1 + 1 ≤ 1 by omega)]
        rcases hfound : (reached invoke (limit + 1) rest).find? (aborts invoke) with _ | found
        · simp [haborts, hfound, hsuccess, hmessage, Effect.pure_run]
        · obtain ⟨e, herror⟩ := aborts_error (List.find?_some hfound)
          simp [haborts, hfound, herror, Except.map]
    · rw [attempt_failed hanswer]
      simp only [Effect.bind_run, hfailed, ih]
      rcases hfound : (reached invoke (limit + 1) rest).find? (aborts invoke) with _ | found
      · simp [haborts, hfound, hsuccess, hmessage, Effect.pure_run]
      · obtain ⟨e, herror⟩ := aborts_error (List.find?_some hfound)
        simp [haborts, hfound, herror, Except.map]
    · simp [hattempt, hfailed, haborts, hanswer, Except.map]

theorem reached_success (limit : Nat)
    (h : (reached invoke limit order).find? (aborts invoke) = none) :
    (reached invoke limit order).filterMap (success invoke) =
      (order.filterMap (success invoke)).take limit := by
  induction order generalizing limit with
  | nil => cases limit <;> simp [reached]
  | cons id rest ih =>
    cases limit with
    | zero => simp [reached]
    | succ limit =>
      rw [reached] at h ⊢
      rcases answer_cases invoke id with
        ⟨result, -, hsuccess, -, hfailed, haborts⟩ | ⟨text, -, hsuccess, -, hfailed, haborts⟩ |
        ⟨e, -, -, -, -, haborts, -⟩
      · rw [List.find?_cons_of_neg (by simp [haborts]), hfailed] at h
        simpa [hsuccess, hfailed] using ih limit h
      · rw [List.find?_cons_of_neg (by simp [haborts]), hfailed] at h
        simpa [hsuccess, hfailed] using ih (limit + 1) h
      · rw [List.find?_cons_of_pos haborts] at h
        cases h

theorem reached_sublist (limit : Nat) : (reached invoke limit order).Sublist order := by
  induction order generalizing limit with
  | nil => cases limit <;> simp [reached]
  | cons id rest ih =>
    cases limit with
    | zero => simp [reached]
    | succ limit =>
      rw [reached]
      split
      · exact (ih _).cons_cons id
      · exact (ih _).cons_cons id

/-! ## The selection order -/

theorem pairwise_idxOf {ids : List String} (h : ids.Nodup) :
    ids.Pairwise fun a b => ids.idxOf a ≤ ids.idxOf b := by
  rw [List.pairwise_iff_getElem]
  intro i j hi hj hij
  rw [h.idxOf_getElem i hi, h.idxOf_getElem j hj]
  exact hij.le

theorem mergeSort_success {selected completed : List String}
    (hids : ∀ id result, invoke id = .ok result → result.expertId = id)
    (hdistinct : selected.Nodup) (hperm : completed.Perm selected) :
    ((completed.filterMap (success invoke)).mergeSort fun a b =>
      decide (selected.idxOf a.expertId ≤ selected.idxOf b.expertId)) =
      selected.filterMap (success invoke) := by
  have hresult : ∀ id result, success invoke id = some result →
      invoke id = .ok result ∧ result.expertId = id := by
    intro id result h
    rcases answer_cases invoke id with ⟨found, hanswer, hsuccess, -⟩ | ⟨_, -, hsuccess, -⟩ |
      ⟨_, -, hsuccess, -⟩
    · obtain rfl : found = result := Option.some.inj (hsuccess.symm.trans h)
      exact ⟨hanswer, hids id found hanswer⟩
    · simp [hsuccess] at h
    · simp [hsuccess] at h
  have hsorted : ((completed.filterMap (success invoke)).mergeSort fun a b =>
      decide (selected.idxOf a.expertId ≤ selected.idxOf b.expertId)).Pairwise fun a b =>
      decide (selected.idxOf a.expertId ≤ selected.idxOf b.expertId) = true :=
    List.pairwise_mergeSort (fun a b c hab hbc => by simp only [decide_eq_true_eq] at *; omega)
      (fun a b => by simp only [Bool.or_eq_true, decide_eq_true_eq]; omega) _
  have hselected : (selected.filterMap (success invoke)).Pairwise fun a b =>
      decide (selected.idxOf a.expertId ≤ selected.idxOf b.expertId) = true := by
    refine List.Pairwise.filterMap _ (fun a b hab result hr result' hr' => ?_)
      (pairwise_idxOf hdistinct)
    rw [decide_eq_true_eq, (hresult a result hr).2, (hresult b result' hr').2]
    exact hab
  refine List.Perm.eq_of_pairwise (fun a b ha hb hab hba => ?_) hsorted hselected
    ((List.mergeSort_perm _ _).trans (hperm.filterMap _))
  rw [List.mem_mergeSort, List.mem_filterMap] at ha
  obtain ⟨id, hid, ha⟩ := ha
  obtain ⟨id', -, hb⟩ := List.mem_filterMap.mp hb
  obtain ⟨hanswer, hexpert⟩ := hresult id a ha
  obtain ⟨hanswer', hexpert'⟩ := hresult id' b hb
  rw [decide_eq_true_eq, hexpert, hexpert'] at hab hba
  have heq : id = id' := (List.idxOf_inj (hperm.mem_iff.mp hid)).mp (Nat.le_antisymm hab hba)
  rw [heq, hanswer'] at hanswer
  exact (Except.ok.inj hanswer).symm

end Loops

end LocalMoe.Experts
