/-
  The state diagram of a lease, and that the ledger follows it.
-/
import LocalMoe.Lease.Effects

namespace LocalMoe.Lease

open Foundation Contracts

/-- A lease as the diagram sees it: `none` before admission and after release. -/
abbrev Slot := Option LeaseState

inductive Cause where
  /-- An admission is acquired. -/
  | grant
  /-- The delivery is armed. -/
  | arm
  /-- The holder reports that nothing was attempted. -/
  | withdraw
  /-- The holder reports a response. -/
  | respond
  /-- The owner died before arming. -/
  | reap
  /-- The delivery or the owner is in doubt. -/
  | fence
  deriving DecidableEq, Repr

inductive Arrow : Cause → Slot → Slot → Prop where
  | grant : Arrow .grant none (some .reserved)
  | arm : Arrow .arm (some .reserved) (some .deliveryArmed)
  | withdraw : Arrow .withdraw (some .reserved) none
  | respond : Arrow .respond (some .deliveryArmed) none
  | reap : Arrow .reap (some .reserved) none
  | fence (state : LeaseState) (free : state ≠ .unknownBlocking) :
      Arrow .fence (some state) (some .unknownBlocking)

/-- Some arrow, or no change. -/
def Moves (before after : Slot) : Prop := before = after ∨ ∃ cause, Arrow cause before after

theorem Arrow.reserved {cause : Cause} {before : Slot}
    (h : Arrow cause before (some .reserved)) : cause = .grant ∧ before = none := by
  cases h
  exact ⟨rfl, rfl⟩

/-! ## The ledger follows the diagram -/

variable {ε τ : Type} {S : Stdlib} {coordinationDomainSha256 : String}

/-- The diagram's view of a lease. -/
def Domain.slot (d : Domain) (leaseId : String) : Slot := (d.row leaseId).map LeaseRow.state

theorem Effect.moves {d : Domain} {leaseId : String} {call : Call ε τ}
    {before after : Option LeaseRow} (h : Effect S d leaseId call before after) :
    Moves (before.map LeaseRow.state) (after.map LeaseRow.state) := by
  cases h with
  | kept => exact .inl rfl
  | admitted _ row _ hreserved =>
    refine .inr ⟨.grant, ?_⟩
    rw [Option.map_some, hreserved]
    exact .grant
  | reaped _ row hreserved =>
    refine .inr ⟨.reap, ?_⟩
    rw [Option.map_some, hreserved]
    exact .reap
  | lost _ row hfree => exact .inr ⟨.fence, .fence row.state hfree⟩
  | armed _ row _ _ hreserved =>
    refine .inr ⟨.arm, ?_⟩
    rw [Option.map_some, hreserved]
    exact .arm
  | fenced _ row _ _ _ hfree => exact .inr ⟨.fence, .fence row.state hfree⟩
  | released _ row _ _ hsettles =>
    rcases hsettles with ⟨hreserved, -⟩ | ⟨harmed, -⟩
    · refine .inr ⟨.withdraw, ?_⟩
      rw [Option.map_some, hreserved]
      exact .withdraw
    · refine .inr ⟨.respond, ?_⟩
      rw [Option.map_some, harmed]
      exact .respond

theorem moves_next (S : Stdlib) (coordinationDomainSha256 : String) {d : Domain}
    (hu : Table.UniqueKeys LeaseRow.leaseId d.rows) (call : Call ε τ) (leaseId : String) :
    Moves (d.slot leaseId) (((ledger S coordinationDomainSha256 ε τ).next d call).slot leaseId) :=
  (effect S coordinationDomainSha256 hu call leaseId).moves

end LocalMoe.Lease
