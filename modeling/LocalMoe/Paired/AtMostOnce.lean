/-
  A slot is claimed, planned and run at most once.
-/
import LocalMoe.Paired.Calls

namespace LocalMoe.Paired

open Foundation Contracts Canary

/-! ## Forks -/

/-- The call of the parent that the child goes on with, if any. -/
def World.resumed (w : World) (parent : Nat) (call : Option Nat) : Option Runner :=
  (call.bind w.runners).filter fun runner => runner.store = parent

/-- A fork gives the child another process id than the owner the store object has recorded,
and is not inside a call that is about to ask the executor. -/
def Unshared (w : World) : Input → Prop
  | .fork parent pid call =>
    (∀ m ∈ w.stores parent, pid ≠ m.ownerPid) ∧
      ∀ runner ∈ w.resumed parent call, runner.phase.asks = false
  | _ => True

instance decidableUnshared (w : World) : (i : Input) → Decidable (Unshared w i)
  | .fork parent pid call =>
    inferInstanceAs (Decidable ((∀ m ∈ w.stores parent, pid ≠ m.ownerPid) ∧
      ∀ runner ∈ w.resumed parent call, runner.phase.asks = false))
  | .create _ | .crash _ | .prepare .. | .claim .. | .bindingFor .. | .complete ..
  | .abandon .. | .start .. | .advance .. => isTrue trivial

section Steps

variable {w : World}

theorem resume_eq (parent child : Nat) (call : Option Nat) :
    w.resume parent child call =
      match w.resumed parent call with
      | none => w
      | some runner => w.addRunner { runner with store := child } := by
  unfold World.resume World.resumed
  cases call.bind w.runners with
  | none => rfl
  | some runner =>
    by_cases h : runner.store = parent
    · simp [Option.filter, h]
    · simp [Option.filter, h]

theorem Journal.resume (hw : Journal w) (parent child : Nat) (call : Option Nat) :
    Journal (w.resume parent child call) := by
  rw [resume_eq]
  cases w.resumed parent call with
  | none => exact hw
  | some runner => exact hw.of_eq rfl rfl rfl rfl

theorem Journal.step (hw : Journal w) {i : Input} (hi : Unshared w i) :
    Journal (w.step i).2 := by
  cases i with
  | create pid => exact (hw.addStore fun _ => rfl).of_eq rfl rfl rfl rfl
  | fork parent pid call =>
    refine World.onFound_induct hw ?_
    intro m hm
    have hadd : Journal (w.addStore { m with pid := pid }) :=
      hw.addStore fun hpid => absurd hpid (hi.1 m hm)
    exact hadd.resume parent w.storeCount call
  | crash k => exact hw.crash k
  | prepare k root storage =>
    exact World.onFound_induct hw fun _ _ =>
      hw.prepare root storage
  | claim k slot storage =>
    exact World.onFound_induct hw fun _ hm =>
      hw.claim hm slot storage
  | bindingFor k claim storage =>
    exact World.onFound_induct hw fun m _ =>
      hw.bindingFor m claim storage
  | complete k binding evidence storage =>
    exact World.onFound_induct hw fun _ hm =>
      hw.complete hm binding evidence storage
  | abandon k claim => exact hw.abandon k claim
  | start k root => exact hw.of_eq rfl rfl rfl rfl
  | advance r storage raises evidence =>
    refine World.onFound_induct hw fun runner _ => ?_
    exact World.onFound_induct hw fun m hm =>
      hw.advance hm storage raises evidence

theorem Calls.fork (hc : Calls w) (hw : Journal w) {parent : Nat} {m : Memory}
    {call : Option Nat}
    (hcall : ∀ runner ∈ w.resumed parent call, runner.phase.asks = false) :
    Calls ((w.addStore m).resume parent w.storeCount call) := by
  have hadd : Calls (w.addStore m) := hc.grow ⟨rfl, rfl, rfl, .inl rfl⟩
  rw [resume_eq]
  cases hresumed : (w.addStore m).resumed parent call with
  | none => exact hadd
  | some runner =>
    obtain ⟨hrunner, _⟩ := Option.filter_eq_some_iff.mp hresumed
    obtain ⟨r, _, hr⟩ := Option.bind_eq_some_iff.mp hrunner
    refine hadd.addRunner (hc.known r runner · hr ·) 
      (not_armed_of_asks (hcall runner hresumed)) ?_
    rintro claim ⟨_, nonce, hwrote⟩
    exact absurd (hw.writers _ hwrote) (Nat.lt_irrefl _)

theorem Calls.step (hc : Calls w) (hw : Journal w) {i : Input} (hi : Unshared w i) :
    Calls (w.step i).2 := by
  cases i with
  | create pid => exact hc.grow ⟨rfl, rfl, rfl, .inl rfl⟩
  | fork parent pid call => exact World.onFound_induct hc fun _ _ => hc.fork hw hi.2
  | crash k => exact hc.grow ⟨rfl, rfl, rfl, .inl rfl⟩
  | prepare k root storage =>
    exact World.onFound_induct hc fun _ _ =>
      hc.grow (Grows.prepare w root storage)
  | claim k slot storage =>
    exact World.onFound_induct hc fun _ hm =>
      hc.grow (Grows.claim hw hm slot storage)
  | bindingFor k claim storage =>
    exact World.onFound_induct hc fun m _ =>
      hc.grow (Grows.bindingFor w m claim storage)
  | complete k binding evidence storage =>
    exact World.onFound_induct hc fun m _ =>
      hc.grow (Grows.complete w k m binding evidence storage)
  | abandon k claim => exact hc.grow ((Grows.refl w).abandon k claim)
  | start k root =>
    refine hc.addRunner nofun ?_ ?_
    · rintro binding (h | h) <;> cases h
    · rintro claim ⟨h, _⟩
      cases h
  | advance r storage raises evidence =>
    refine World.onFound_induct hc fun runner hr => ?_
    exact World.onFound_induct hc fun m hm =>
      hc.advance hw hr hm storage raises evidence

end Steps

/-! ## A claim that its writer has lost -/

/-- The claim is open and its writer, or the authority of its writer, is gone. -/
def World.Deserted (w : World) : Prop :=
  ∃ e claim, w.entries.getLast? = some e ∧ e.event = .claim claim ∧
    ∀ m, w.stores e.writer = some m → m.ownsClaim claim = false

/-- No store object owns the claim. -/
def World.Unowned (w : World) (claim : PairedRunClaim) : Prop :=
  ∀ k m, w.stores k = some m → m.ownsClaim claim = false

/-- The claim is open and nobody owns it. -/
def World.Stalled (w : World) (claim : PairedRunClaim) : Prop :=
  w.events.getLast? = some (.claim claim) ∧ w.Unowned claim

/-- Nothing has been claimed, bound or checkpointed, and nobody owns the claim. -/
structure Silent (w w' : World) (claim : PairedRunClaim) : Prop where
  root : w'.root = w.root
  entries : w'.entries = w.entries
  issued : w'.issued = w.issued
  unowned : w'.Unowned claim

section Stall

variable {w w' : World} {claim : PairedRunClaim}

theorem World.Deserted.stalled (h : w.Deserted) (hw : Journal w) :
    ∃ claim, w.Stalled claim := by
  obtain ⟨e, claim, hlast, hevent, hlost⟩ := h
  refine ⟨claim, ?_, ?_⟩
  · rw [World.events, List.getLast?_map, hlast, Option.map_some, hevent]
  · intro k m hm
    cases howns : m.ownsClaim claim with
    | false => rfl
    | true =>
      have hwrote := hw.owner_wrote hm howns
      have heq : e = ⟨.claim claim, k, m.ownerNonce⟩ :=
        hw.entry_unique (List.mem_of_getLast? hlast) hwrote hevent
      rw [heq] at hlost
      rw [← howns]
      exact hlost m hm

theorem World.Stalled.silent (h : w.Stalled claim) : Silent w w claim :=
  ⟨rfl, rfl, rfl, h.2⟩

theorem Silent.stalled (h : Silent w w' claim) (hs : w.Stalled claim) : w'.Stalled claim := by
  refine ⟨?_, h.unowned⟩
  rw [World.events, h.entries]
  exact hs.1

theorem World.Stalled.openClaim (h : w.Stalled claim) (hw : Journal w)
    {root : PairedRunRoot} {s : JournalState} (hroot : w.root = some root)
    (hread : readUnlocked root w.events = .ok s) : s.openClaim = some claim :=
  (hw.prepared hroot hread).openClaim_last.mpr h.1

variable {k : Nat}

theorem Silent.keep (h : Silent w w' claim) {m : Memory} (hm : m.ownsClaim claim = false) :
    Silent w (w'.keep k m) claim := by
  refine ⟨h.root, h.entries, h.issued, ?_⟩
  intro j m' hj
  rcases some_of_update hj with ⟨_, rfl⟩ | hj
  · exact hm
  · exact h.unowned j m' hj

theorem Silent.of_eq (h : Silent w w' claim) {w'' : World} (hroot : w''.root = w'.root)
    (hentries : w''.entries = w'.entries) (hissued : w''.issued = w'.issued)
    (hstores : w''.stores = w'.stores) : Silent w w'' claim := by
  refine ⟨hroot.trans h.root, hentries.trans h.entries, hissued.trans h.issued, ?_⟩
  rw [World.Unowned, hstores]
  exact h.unowned

theorem ownsClaim_refresh {m : Memory} (h : m.ownsClaim claim = false) (nonce : Nat) :
    (m.refresh nonce).ownsClaim claim = false := by
  unfold Memory.refresh
  by_cases hpid : m.pid = m.ownerPid
  · rw [if_pos hpid]
    exact h
  · rw [if_neg hpid]
    rfl

theorem authority_abandon (m : Memory) (other : PairedRunClaim) :
    (m.abandon other).authority claim =
      if claim = other then none else m.authority claim := by
  unfold Memory.authority Memory.abandon
  dsimp only
  rw [List.find?_filter]
  by_cases h : claim = other
  · rw [if_pos h, Option.map_eq_none_iff, List.find?_eq_none]
    intro active _
    subst h
    simp
  · rw [if_neg h]
    congr 2
    funext active
    by_cases hactive : active.1 = claim
    · simp [hactive, h]
    · simp [hactive]

theorem ownsClaim_abandon {m : Memory} (h : m.ownsClaim claim = false)
    (other : PairedRunClaim) : (m.abandon other).ownsClaim claim = false := by
  unfold Memory.ownsClaim at h ⊢
  rw [authority_abandon]
  by_cases hother : claim = other
  · rw [if_pos hother]
  · rw [if_neg hother]
    exact h

theorem Silent.abandon (h : Silent w w' claim) (k : Nat) (other : PairedRunClaim) :
    Silent w (w'.abandon k other) claim := by
  unfold World.abandon
  split
  · exact h
  · next m hm => exact h.keep (ownsClaim_abandon (h.unowned k m hm) other)

theorem Silent.on_prepare (hs : w.Stalled claim) (hw : Journal w) (root : PairedRunRoot)
    (storage : Storage) : Silent w (w.prepare root storage).2 claim := by
  have hinstall : ∀ new, w.prepareAnswer root = .ok new →
      Silent w (if new then { w with root := some root } else w) claim := by
    intro new h
    cases new with
    | false => exact hs.silent
    | true =>
      -- a root is installed only where there is none, and so no event either
      obtain ⟨state, hread, hrest⟩ := bind_eq_ok.mp h
      cases state with
      | some state => exact absurd (check_bind_eq_ok.mp hrest).2 (by simp)
      | none =>
        unfold World.read at hread
        split at hread
        · next hroot =>
          have hempty := hw.unprepared hroot
          have hlast := hs.1
          rw [World.events, hempty] at hlast
          cases hlast
        · obtain ⟨_, _, hnone⟩ := bind_eq_ok.mp hread
          cases hnone
  exact Storage.commit_induct (P := (Silent w · claim)) hs.silent hinstall hinstall

theorem Silent.on_claim (hs : w.Stalled claim) (hw : Journal w) {m : Memory}
    (hm : w.stores k = some m) (slot : SlotArgument) (storage : Storage) :
    Silent w (w.claim k m slot storage).2 claim := by
  have hrefresh : Silent w (w.refresh k m) claim :=
    (hs.silent.keep (ownsClaim_refresh (hs.2 k m hm) _)).of_eq rfl rfl rfl rfl
  have hnever : ∀ c, (w.refresh k m).claimAnswer (m.refresh w.nonceCount) slot ≠ .ok c := by
    intro c h
    obtain ⟨root, s, _, hroot, hread, hopen, _⟩ := claimAnswer_eq_ok h
    have hstalled := (hrefresh.stalled hs).openClaim (hw.refresh hm) hroot hread
    rw [hopen] at hstalled
    cases hstalled
  exact Storage.commit_induct (P := (Silent w · claim)) hrefresh
    (fun c h => absurd h (hnever c)) fun c h => absurd h (hnever c)

theorem Silent.on_bindingFor (hs : w.Stalled claim) (hw : Journal w) {m : Memory}
    (hm : w.stores k = some m) (other : PairedRunClaim) (storage : Storage) :
    Silent w (w.bindingFor m other storage).2 claim := by
  refine Storage.commit_induct (P := (Silent w · claim)) hs.silent (fun _ _ => hs.silent) ?_
  intro binding h
  obtain ⟨_, howns, root, s, hroot, hread, hopen⟩ := bindingAnswer_eq_ok h
  cases hopen.symm.trans (hs.openClaim hw hroot hread)
  rw [hs.2 k m hm] at howns
  cases howns

theorem Silent.on_complete (hs : w.Stalled claim) (hw : Journal w) {m : Memory}
    (hm : w.stores k = some m) (binding : PairedOutcomeBinding) (evidence : Evidence)
    (storage : Storage) : Silent w (w.complete k m binding evidence storage).2 claim := by
  have hnever : ∀ c, w.completeAnswer m binding evidence ≠ .ok (c, true) := by
    intro c h
    obtain ⟨_, _, howns, root, s, hroot, hread, hopen, _⟩ := completeAnswer_eq_ok h
    rw [← Option.some.inj (hopen.symm.trans (hs.openClaim hw hroot hread)).symm] at howns
    rw [hs.2 k m hm] at howns
    cases howns
  refine Storage.commit_induct (P := (Silent w · claim)) hs.silent ?_ ?_
  all_goals
    rintro ⟨checkpoint, new⟩ h
    cases new with
    | false => exact hs.silent
    | true => exact absurd h (hnever checkpoint)

theorem Silent.settle {α : Type} {r : Nat} {cleanup : World → World} {next : α → Phase}
    {result : Except PairedError α × World} (hresult : Silent w result.2 claim)
    (hcleanup : Silent w (cleanup result.2) claim) :
    Silent w (World.settle r cleanup next result).2 claim := by
  unfold World.settle
  cases result.1 with
  | error e => exact hcleanup.of_eq rfl rfl rfl rfl
  | ok a => exact hresult.of_eq rfl rfl rfl rfl

theorem Silent.advance (hs : w.Stalled claim) (hw : Journal w) {r : Nat} {runner : Runner}
    {m : Memory} (hm : w.stores runner.store = some m) (storage : Storage)
    (raises : Option PairedError) (evidence : Evidence) :
    Silent w (w.advance r runner m storage raises evidence).2 claim := by
  have hgo : ∀ {w'}, Silent w w' claim → ∀ phase, Silent w (w'.goTo r phase) claim :=
    fun h _ => h.of_eq rfl rfl rfl rfl
  have habandon : ∀ other, Silent w (w.abandon runner.store other) claim := fun other =>
    hs.silent.abandon _ other
  unfold World.advance
  cases runner.phase with
  | preparing =>
    have h := Silent.on_prepare hs hw runner.root storage
    exact Silent.settle h h
  | looking =>
    have h : Silent w (storage.commit (w.resumable m runner.root) w (fun _ => w)
        fun _ => w).2 claim :=
      Storage.commit_induct (P := (Silent w · claim)) hs.silent (fun _ _ => hs.silent)
        fun _ _ => hs.silent
    exact Silent.settle h h
  | ready slot =>
    cases raises with
    | some e => exact hgo hs.silent _
    | none =>
      have h := Silent.on_claim hs hw hm (.slot slot) storage
      exact Silent.settle h h
  | claimed other =>
    have h := Silent.on_bindingFor hs hw hm other storage
    exact Silent.settle h (h.abandon _ _)
  | bound binding => exact hs.silent.of_eq rfl rfl rfl rfl
  | planned binding =>
    cases raises with
    | some e => exact hgo (habandon _) _
    | none => exact hs.silent.of_eq rfl rfl rfl rfl
  | ran binding =>
    cases raises with
    | some e => exact hgo (habandon _) _
    | none =>
      have h := Silent.on_complete hs hw hm binding evidence storage
      exact Silent.settle h (h.abandon _ _)
  | ended => exact hs.silent

theorem Silent.addStore (hs : w.Stalled claim) {m : Memory}
    (hm : m.ownsClaim claim = false) : Silent w (w.addStore m) claim :=
  (hs.silent.keep (k := w.storeCount) hm).of_eq rfl rfl rfl rfl

theorem Silent.crash (hs : w.Stalled claim) (k : Nat) :
    Silent w { w with stores := Function.update w.stores k none } claim :=
  ⟨rfl, rfl, rfl, fun j m hj => hs.2 j m (store_of_crash hj)⟩

theorem ownsClaim_fork {m : Memory} {pid : Nat} (h : pid ≠ m.ownerPid) :
    Memory.ownsClaim { m with pid := pid } claim = false := by
  cases howns : Memory.ownsClaim { m with pid := pid } claim with
  | false => rfl
  | true => exact absurd (ownsClaim_eq_true howns).1 h

theorem World.Stalled.step (hs : w.Stalled claim) (hw : Journal w) {i : Input}
    (hi : Unshared w i) : Silent w (w.step i).2 claim := by
  cases i with
  | create pid => exact (Silent.addStore hs rfl).of_eq rfl rfl rfl rfl
  | fork parent pid call =>
    refine World.onFound_induct (P := (Silent w · claim)) hs.silent ?_
    intro m hm
    have hadd := Silent.addStore hs (ownsClaim_fork (hi.1 m hm))
    rw [resume_eq]
    split
    · exact hadd
    · exact hadd.of_eq rfl rfl rfl rfl
  | crash k => exact Silent.crash hs k
  | prepare k root storage =>
    exact World.onFound_induct (P := (Silent w · claim)) hs.silent fun _ _ =>
      Silent.on_prepare hs hw root storage
  | claim k slot storage =>
    exact World.onFound_induct (P := (Silent w · claim)) hs.silent fun _ hm =>
      Silent.on_claim hs hw hm slot storage
  | bindingFor k other storage =>
    exact World.onFound_induct (P := (Silent w · claim)) hs.silent fun _ hm =>
      Silent.on_bindingFor hs hw hm other storage
  | complete k binding evidence storage =>
    exact World.onFound_induct (P := (Silent w · claim)) hs.silent fun _ hm =>
      Silent.on_complete hs hw hm binding evidence storage
  | abandon k other => exact hs.silent.abandon k other
  | start k root => exact hs.silent.of_eq rfl rfl rfl rfl
  | advance r storage raises evidence =>
    refine World.onFound_induct (P := (Silent w · claim)) hs.silent fun runner _ => ?_
    exact World.onFound_induct (P := (Silent w · claim)) hs.silent fun m hm =>
      Silent.advance hs hw hm storage raises evidence

theorem deserted_crash {nonce : Nat} (h : w.entries.getLast? = some ⟨.claim claim, k, nonce⟩) :
    (paired.next w (.crash k)).Deserted := by
  refine ⟨_, claim, h, rfl, ?_⟩
  intro m hm
  change Function.update w.stores k none k = some m at hm
  rw [Function.update_self] at hm
  cases hm

end Stall

/-! ## Runs -/

def Event.claimedSlot : Event → Option SlotId
  | .claim c => some c.slot.slot
  | .checkpoint _ => none

/-- The journal is in the order of the root and can be read, no slot is claimed, planned or
run twice, and the writer of a claim is the writer of its checkpoint. -/
structure AtMostOnce (w : World) : Prop where
  unprepared : w.root = none → w.entries = []
  accepted : ∀ root, w.root = some root →
    ∃ s, Shape root w.events s ∧ readUnlocked root w.events = .ok s
  claimed : (w.events.filterMap Event.claimedSlot).Nodup
  invoked : (w.invocations.map fun i => (i.1, i.2.slot.slot)).Nodup
  checkpointed : ∀ e ∈ w.entries, ∀ c, e.event = .checkpoint c →
    w.Wrote e.writer e.nonce c.binding.claim

theorem claim_of_slot {root : PairedRunRoot} {i j : Fin 2}
    (h : (root.claim i).slot.slot = (root.claim j).slot.slot) : i = j := by
  change root.order.slotAt i = root.order.slotAt j at h
  revert h
  cases root.order <;> revert i j <;> decide

section Runs

variable {w : World}

theorem Journal.claimed (hw : Journal w) : (w.events.filterMap Event.claimedSlot).Nodup := by
  cases hroot : w.root with
  | none =>
    rw [World.events, hw.unprepared hroot]
    exact List.nodup_nil
  | some root =>
    obtain ⟨s, hshape⟩ := hw.shape root hroot
    have hne : (root.claim 0).slot.slot ≠ (root.claim 1).slot.slot := fun h =>
      absurd (claim_of_slot h) (by decide)
    generalize w.events = events at hshape ⊢
    cases hshape <;> simp [Event.claimedSlot, List.filterMap_cons, hne]

theorem Calls.invoked (hc : Calls w) (hw : Journal w) :
    (w.invocations.map fun i => (i.1, i.2.slot.slot)).Nodup := by
  refine List.Nodup.map_on ?_ hc.once
  intro i hi j hj heq
  obtain ⟨hcall, hslot⟩ := Prod.mk.inj heq
  cases hroot : w.root with
  | none =>
    have hempty := hc.recorded i hi
    rw [World.events, hw.unprepared hroot] at hempty
    cases hempty
  | some root =>
    obtain ⟨s, hshape⟩ := hw.shape root hroot
    obtain ⟨a, ha⟩ := hshape.claim_mem (hc.recorded i hi)
    obtain ⟨b, hb⟩ := hshape.claim_mem (hc.recorded j hj)
    rw [ha, hb] at hslot
    rw [claim_of_slot hslot, ← hb] at ha
    exact Prod.ext hcall ha

theorem Journal.atMostOnce (hw : Journal w) (hc : Calls w) : AtMostOnce w where
  unprepared := hw.unprepared
  accepted root hroot := by
    obtain ⟨s, hshape⟩ := hw.shape root hroot
    exact ⟨s, hshape, hshape.read⟩
  claimed := hw.claimed
  invoked := hc.invoked hw
  checkpointed := hw.checkpoints

theorem run_invariant {is : List Input} (hadmits : paired.Admits Unshared w is)
    (hw : Journal w) (hc : Calls w) :
    Journal (paired.exec w is) ∧ Calls (paired.exec w is) :=
  Machine.Admits.exec (M := paired) (P := fun w => Journal w ∧ Calls w)
    (fun _ _ hi h => ⟨h.1.step hi, h.2.step h.1 hi⟩) hadmits ⟨hw, hc⟩

theorem run_silent {is : List Input} {claim : PairedRunClaim}
    (hadmits : paired.Admits Unshared w is) (hw : Journal w) (hs : w.Stalled claim) :
    (paired.exec w is).entries = w.entries ∧ (paired.exec w is).issued = w.issued := by
  have hrun := Machine.Admits.exec (M := paired)
    (P := fun w' => Journal w' ∧ w'.Stalled claim ∧ w'.entries = w.entries ∧
      w'.issued = w.issued)
    (fun w' i hi h => by
      have hstep := h.2.1.step h.1 hi
      exact ⟨h.1.step hi, hstep.stalled h.2.1, hstep.entries.trans h.2.2.1,
        hstep.issued.trans h.2.2.2⟩)
    hadmits ⟨hw, hs, rfl, rfl⟩
  exact hrun.2.2

end Runs

/-- In a run whose forks share no authority, every slot is claimed, planned and run at most
once, and a claim that its writer has lost is the last thing that is claimed, bound or
checkpointed. -/
theorem paired_at_most_once (is later : List Input)
    (h : paired.Admits Unshared .init (is ++ later)) :
    AtMostOnce (paired.exec .init is) ∧
      ((paired.exec .init is).Deserted →
        (paired.exec .init (is ++ later)).entries = (paired.exec .init is).entries ∧
        (paired.exec .init (is ++ later)).issued = (paired.exec .init is).issued) := by
  obtain ⟨hfirst, hlater⟩ := (Machine.admits_append _ _ _ _).mp h
  obtain ⟨hw, hc⟩ := run_invariant hfirst .init .init
  refine ⟨hw.atMostOnce hc, ?_⟩
  intro hdeserted
  obtain ⟨claim, hstalled⟩ := hdeserted.stalled hw
  rw [Machine.exec_append]
  exact run_silent hlater hw hstalled

/-! ## A fork that takes the authority with it -/

def sampleRoot : PairedRunRoot where
  runId := "paired-run"
  order := .ab
  baselineRoute := .premium
  candidateRoute := .localOnly
  lessPremium := Nat.succ_pos _

def sampleSha256 : String := String.ofList (List.replicate 64 'a')

def sampleEvidence : Evidence :=
  ⟨"outcome-" ++ sampleSha256, "receipt", sampleSha256, sampleSha256⟩

def sampleClaim : List Input :=
  [.create 100, .prepare 0 sampleRoot .works, .claim 0 (.name "A") .works,
    .fork 0 101 none, .crash 0]

theorem sampleClaim_at_most_once :
    let is := sampleClaim
    let later : List Input := [.bindingFor 1 (sampleRoot.claim 0) .works,
      .complete 1 ⟨sampleRoot, sampleRoot.claim 0, none⟩ sampleEvidence .works,
      .claim 1 (.name "A") .works]
    AtMostOnce (paired.exec .init is) ∧
      ((paired.exec .init is).Deserted →
        (paired.exec .init (is ++ later)).entries = (paired.exec .init is).entries ∧
        (paired.exec .init (is ++ later)).issued = (paired.exec .init is).issued) :=
  paired_at_most_once _ _ (by decide +kernel)

local instance neZero_two : NeZero 2 := ⟨by decide⟩

def sampleReuse : List Input :=
  sampleClaim ++ [.fork 1 100 none,
    .complete 2 ⟨sampleRoot, sampleRoot.claim 0, none⟩ sampleEvidence .works]

/-- The claim was written by the first process and its checkpoint by the last one. -/
theorem grandchild_checkpoints : ¬ AtMostOnce (paired.exec .init sampleReuse) ∧
    (paired.exec .init sampleClaim).Deserted ∧
    (paired.exec .init sampleReuse).entries.length =
      (paired.exec .init sampleClaim).entries.length + 1 := by
  have hentries : (paired.exec .init sampleReuse).entries =
      [⟨.claim (sampleRoot.claim 0), 0, 0⟩,
        ⟨.checkpoint ⟨⟨sampleRoot, sampleRoot.claim 0, none⟩, "outcome-" ++ sampleSha256,
          "receipt", sampleSha256, sampleSha256⟩, 2, 0⟩] := by
    decide +kernel
  refine ⟨?_, ?_, by decide +kernel⟩
  · intro h
    have hlast := List.mem_cons_of_mem (⟨.claim (sampleRoot.claim 0), 0, 0⟩ : Entry)
      (List.mem_singleton_self (⟨.checkpoint ⟨⟨sampleRoot, sampleRoot.claim 0, none⟩,
        "outcome-" ++ sampleSha256, "receipt", sampleSha256, sampleSha256⟩, 2, 0⟩ : Entry))
    rw [← hentries] at hlast
    have hwrote := h.checkpointed _ hlast _ rfl
    rw [World.Wrote, hentries] at hwrote
    simp at hwrote
  · have hlast : (paired.exec .init sampleClaim.dropLast).entries.getLast? =
        some ⟨.claim (sampleRoot.claim 0), 0, 0⟩ := rfl
    exact deserted_crash hlast

end LocalMoe.Paired
