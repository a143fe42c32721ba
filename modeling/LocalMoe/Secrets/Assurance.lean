/-
  An outbound object is redacted and counted when the detector answers consistently.
-/
import LocalMoe.Secrets.Outbound

namespace LocalMoe.Secrets

open Foundation

variable (lower : String → String) (policy : SecretRedactionPolicy)

/-- A safe result: it has the shape of the payload, its counters are not negative, and it is
the payload when nothing is counted. -/
structure Safe (detector : Option Detector) (payload : Obj) (result : SecretRedactionResult) :
    Prop where
  follows : Follows lower policy (ResultLeaf policy detector) false [] [] payload result.value
  residual_nonneg : ∃ q, result.residualRedactionCount = .finite q ∧ 0 ≤ q
  counted : result.redactionCount = .finite 0 → result.value = payload

variable {lower policy}

theorem Counted.nonneg {after : Counters} {unchanged : Prop}
    (h : Counted ⟨0, 0, .finite 0, 0⟩ after unchanged) : ∃ q, after.residual = .finite q ∧ 0 ≤ q ∧
      ((after.structured : ℚ) + after.pattern + q = 0 → unchanged) := by
  obtain ⟨q, hq, hle, _, _, hsame⟩ := h 0 rfl
  refine ⟨q, hq, hle, fun hsum => ?_⟩
  have hs : (0 : ℚ) ≤ after.structured := by exact_mod_cast Nat.zero_le after.structured
  have hp : (0 : ℚ) ≤ after.pattern := by exact_mod_cast Nat.zero_le after.pattern
  refine hsame (by linarith) ?_ ?_
  · have h0 : (after.structured : ℚ) = 0 := by linarith
    exact_mod_cast h0
  · have h0 : (after.pattern : ℚ) = 0 := by linarith
    exact_mod_cast h0

variable {result : SecretRedactionResult}

theorem redactObject_none {payload : Obj}
    (h : redactObject lower policy none payload = .ok result) :
    Safe lower policy none payload result := by
  obtain ⟨first, hfirst, h⟩ := bind_eq_ok.mp h
  obtain ⟨scanned, hscanned, h⟩ := bind_eq_ok.mp h
  cases hscanned
  cases h
  obtain ⟨hfollows, hcounted⟩ := redactStructure_follows false [] [] payload
    (fun d hd => by cases hd) hfirst
  obtain ⟨q, hq, hle, hsame⟩ := hcounted.nonneg
  refine ⟨?_, ⟨q, hq, hle⟩, fun hcount => hsame ?_⟩
  · have hleaf : ResultLeaf policy none = fun _ => FirstLeaf policy none := by
      funext exempt position value text
      exact propext ⟨fun h => h.elim And.right id, .inr⟩
    rw [hleaf]
    exact hfollows
  · rw [SecretRedactionResult.redactionCount, hq] at hcount
    exact Number.finite.inj hcount

theorem redactObject_some {detector : Detector} {payload : Obj}
    (hanswers : Answers lower policy detector [] [] payload)
    (h : redactObject lower policy (some detector) payload = .ok result) :
    Safe lower policy (some detector) payload result := by
  obtain ⟨first, hfirst, h⟩ := bind_eq_ok.mp h
  obtain ⟨scanned, hscanned, h⟩ := bind_eq_ok.mp h
  cases h
  obtain ⟨hmid, hcountedFirst⟩ := redactStructure_follows false [] [] payload
    (fun d hd => by cases hd; exact hanswers) hfirst
  obtain ⟨hfollows, hcountedSecond⟩ := scanResidualOutbound_follows false [] [] payload hanswers
    hmid hscanned
  have hcounted := (hcountedFirst.trans hcountedSecond).imp fun h => h.2.trans h.1
  obtain ⟨q, hq, hle, hsame⟩ := hcounted.nonneg
  refine ⟨hfollows, ⟨q, hq, hle⟩, fun hcount => hsame ?_⟩
  rw [SecretRedactionResult.redactionCount, hq] at hcount
  exact Number.finite.inj hcount

def samplePolicy : SecretRedactionPolicy where
  userControlledFields := ["*"]
  sensitiveKeys := ["password"]
  generatedMetadataFields := ["sha256"]
  patterns := []
  replacement := "[REDACTED]"
  requireResidualAssurance := true
  replacement_nonempty := by decide

def knowing : Detector := fun _ _ text =>
  if text = "hunter2" then .returned (.str "[REDACTED]") (.int 1)
  else .returned (.str text) (.int 0)

def samplePayload : Obj :=
  .dict [(.text "password", .str "x"), (.text "notes", .list [.str "hunter2", .int 4])]

/-- A detector that replaces a text without counting it in the first pass, and keeps what
it sees in the second. -/
def uncounted : Detector
  | .first, _, _ => .returned (.str "bye") (.int 0)
  | .final, _, text => .returned (.str text) (.int 0)

theorem knowing_consistent {pass : Pass} {position : Position} {text : String} {redacted count : Obj}
    (h : knowing pass position text = .returned redacted count) : Consistent text redacted count := by
  unfold knowing at h
  split at h
  · rename_i htext
    cases h
    exact ⟨_, _, rfl, rfl, by decide, fun h => absurd h (by decide), fun h => by
      rw [htext] at h
      exact absurd h (by decide)⟩
  · cases h
    exact ⟨_, _, rfl, rfl, le_rfl, fun _ => rfl, fun _ => rfl⟩

end LocalMoe.Secrets
