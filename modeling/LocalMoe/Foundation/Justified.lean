/-
  Traces in which every event is justified by what was before.
-/
import Mathlib.Data.List.Basic

namespace LocalMoe.Foundation

variable {ε : Type*}

/-- Every event of the trace follows the rule on the events before it. -/
def Justified (rule : List ε → ε → Prop) (trace : List ε) : Prop :=
  ∀ before event after, trace = before ++ event :: after → rule before event

theorem justified_nil (rule : List ε → ε → Prop) : Justified rule [] := by
  intro before event after h
  have hlength := congrArg List.length h
  simp at hlength

theorem Justified.concat {rule : List ε → ε → Prop} {trace : List ε} {event : ε}
    (h : Justified rule trace) (hevent : rule trace event) : Justified rule (trace ++ [event]) := by
  intro before other after htrace
  rcases List.eq_nil_or_concat after with rfl | ⟨rest, last, rfl⟩
  · obtain ⟨rfl, hlast⟩ := List.append_inj' htrace rfl
    obtain ⟨rfl, -⟩ := List.cons.inj hlast
    exact hevent
  · have hsplit : trace ++ [event] = (before ++ other :: rest) ++ [last] := by
      rw [htrace, List.append_assoc, List.cons_append, List.concat_eq_append]
    exact h before other rest (List.append_inj' hsplit rfl).1

end LocalMoe.Foundation
