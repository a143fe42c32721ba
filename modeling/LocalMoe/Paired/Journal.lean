/-
  The journal under any interleaving.
-/
import LocalMoe.Paired.Store

namespace LocalMoe.Paired

open Foundation Contracts Canary

/-! ## What an operation answers -/

section Commit

variable {α : Type} {storage : Storage} {answer : Except PairedError α} {w : World}
  {durable kept : α → World}

theorem Storage.commit_induct {P : World → Prop} (hw : P w)
    (hdurable : ∀ a, answer = .ok a → P (durable a))
    (hkept : ∀ a, answer = .ok a → P (kept a)) :
    P (storage.commit answer w durable kept).2 := by
  cases storage with
  | fails e => exact hw
  | works =>
    cases answer with
    | error e => exact hw
    | ok a => exact hkept a rfl
  | unanswered e =>
    cases answer with
    | error e' => exact hw
    | ok a => exact hdurable a rfl

theorem Storage.commit_ok {a : α} (h : (storage.commit answer w durable kept).1 = .ok a) :
    answer = .ok a ∧ (storage.commit answer w durable kept).2 = kept a := by
  cases storage with
  | fails e => cases h
  | unanswered e => cases answer <;> cases h
  | works =>
    cases answer with
    | error e => cases h
    | ok b =>
      cases h
      exact ⟨rfl, rfl⟩

end Commit

/-! ## The next event -/

section Shapes

variable {root : PairedRunRoot} {events : List Event} {s : JournalState}

theorem Shape.read_unique (h : Shape root events s) {s' : JournalState}
    (hread : readUnlocked root events = .ok s') : s' = s := by
  rw [h.read] at hread
  exact (Except.ok.inj hread).symm

theorem Shape.claim_next (h : Shape root events s) (hopen : s.openClaim = none)
    {slot : PairedRunSlot} (hslot : root.slots[s.checkpoints.length]? = some slot) :
    Event.claim ⟨root.runId, slot⟩ ∉ events ∧
      ∃ s', Shape root (events ++ [.claim ⟨root.runId, slot⟩]) s' := by
  cases h with
  | ready =>
    cases hslot
    exact ⟨List.not_mem_nil, _, .firstOpen⟩
  | firstOpen => cases hopen
  | half c hc =>
    cases hslot
    refine ⟨?_, _, .secondOpen c hc⟩
    intro hmem
    rcases List.mem_cons.mp hmem with heq | hmem
    · exact claim_ne (Event.claim.inj heq).symm
    · exact absurd (List.mem_singleton.mp hmem) (by simp)
  | secondOpen c hc => cases hopen
  | complete c d hc hd => cases hslot

theorem Shape.checkpoint_next (h : Shape root events s) {checkpoint : PairedRunCheckpoint}
    (hopen : s.openClaim = some checkpoint.binding.claim)
    (hbinding : checkpoint.binding = ⟨root, checkpoint.binding.claim, s.previous⟩)
    (houtcome : isOutcomeId checkpoint.outcomeRecordId = true) :
    ∃ s', Shape root (events ++ [.checkpoint checkpoint]) s' := by
  cases h with
  | ready => cases hopen
  | firstOpen =>
    rw [← Option.some.inj hopen] at hbinding
    exact ⟨_, .half checkpoint ⟨hbinding, houtcome⟩⟩
  | half c hc => cases hopen
  | secondOpen c hc =>
    rw [← Option.some.inj hopen] at hbinding
    exact ⟨_, .complete c checkpoint hc ⟨hbinding, houtcome⟩⟩
  | complete c d hc hd => cases hopen

theorem Shape.nodup (h : Shape root events s) : events.Nodup := by
  have hclaims : Event.claim (root.claim 0) ≠ .claim (root.claim 1) := fun heq =>
    claim_ne (Event.claim.inj heq)
  have hcheckpoints : ∀ {c d : PairedRunCheckpoint}, Closes root 0 none c →
      Closes root 1 (some c.outcomeRecordId) d → Event.checkpoint c ≠ .checkpoint d := by
    intro c d hc hd heq
    have hbinding := hc.1
    rw [Event.checkpoint.inj heq, hd.1] at hbinding
    exact absurd (congrArg PairedOutcomeBinding.previousRecordId hbinding) (by simp)
  cases h with
  | ready => exact List.nodup_nil
  | firstOpen => exact List.nodup_singleton _
  | half c hc => simp
  | secondOpen c hc => simp [hclaims]
  | complete c d hc hd => simp [hclaims, hcheckpoints hc hd]

theorem Shape.openClaim_last (h : Shape root events s) {claim : PairedRunClaim} :
    s.openClaim = some claim ↔ events.getLast? = some (.claim claim) := by
  cases h <;> simp

theorem Shape.claim_mem (h : Shape root events s) {claim : PairedRunClaim}
    (hmem : Event.claim claim ∈ events) : ∃ ordinal, claim = root.claim ordinal := by
  have hclaim : claim = root.claim 0 ∨ claim = root.claim 1 := by
    cases h <;> simp at hmem <;> tauto
  rcases hclaim with rfl | rfl
  · exact ⟨0, rfl⟩
  · exact ⟨1, rfl⟩

end Shapes

/-! ## What an answer says -/

section Answers

variable {w : World} {m : Memory}

theorem prepared_eq_ok {root : PairedRunRoot} {s : JournalState}
    (h : w.prepared = .ok (root, s)) :
    w.root = some root ∧ readUnlocked root w.events = .ok s := by
  obtain ⟨state, hread, hrest⟩ := bind_eq_ok.mp h
  cases state with
  | none => cases hrest
  | some state =>
    cases hrest
    unfold World.read at hread
    split at hread
    · obtain ⟨_, _, hnone⟩ := bind_eq_ok.mp hread
      cases hnone
    · next root' hroot =>
      obtain ⟨s', hs', heq⟩ := bind_eq_ok.mp hread
      cases heq
      exact ⟨hroot, hs'⟩

theorem nextClaim_eq_ok {slot : SlotArgument} {root : PairedRunRoot} {s : JournalState}
    {claim : PairedRunClaim} (h : nextClaim m slot root s = .ok claim) :
    s.openClaim = none ∧ ∃ expected, root.slots[s.checkpoints.length]? = some expected ∧
      claim = ⟨root.runId, expected⟩ := by
  unfold nextClaim at h
  split at h
  · split at h <;> cases h
  · next hopen =>
    split at h
    · cases h
    · next expected hexpected =>
      obtain ⟨requested, _, h⟩ := bind_eq_ok.mp h
      cases (check_bind_eq_ok.mp h).2
      exact ⟨hopen, expected, hexpected, rfl⟩

theorem claimAnswer_eq_ok {slot : SlotArgument} {claim : PairedRunClaim}
    (h : w.claimAnswer m slot = .ok claim) :
    ∃ root s expected, w.root = some root ∧ readUnlocked root w.events = .ok s ∧
      s.openClaim = none ∧ root.slots[s.checkpoints.length]? = some expected ∧
      claim = ⟨root.runId, expected⟩ := by
  obtain ⟨⟨root, s⟩, hprepared, h⟩ := bind_eq_ok.mp h
  obtain ⟨hroot, hread⟩ := prepared_eq_ok hprepared
  obtain ⟨hopen, expected, hexpected, hclaim⟩ := nextClaim_eq_ok h
  exact ⟨root, s, expected, hroot, hread, hopen, hexpected, hclaim⟩

variable {binding : PairedOutcomeBinding}

theorem build_eq_ok {root : PairedRunRoot} {claim : PairedRunClaim} {previous : Option String}
    (h : PairedOutcomeBinding.build root claim previous = .ok binding) :
    binding = ⟨root, claim, previous⟩ := by
  obtain ⟨_, h⟩ := check_bind_eq_ok.mp h
  obtain ⟨_, h⟩ := check_bind_eq_ok.mp h
  split at h
  · exact (Except.ok.inj (check_bind_eq_ok.mp h).2).symm
  · exact (Except.ok.inj (check_bind_eq_ok.mp h).2).symm

theorem bindingAnswer_eq_ok {claim : PairedRunClaim} (h : w.bindingAnswer m claim = .ok binding) :
    binding.claim = claim ∧ m.ownsClaim claim = true ∧
      ∃ root s, w.root = some root ∧ readUnlocked root w.events = .ok s ∧
        s.openClaim = some claim := by
  obtain ⟨_, _, h⟩ := bind_eq_ok.mp h
  obtain ⟨⟨root, s⟩, hprepared, h⟩ := bind_eq_ok.mp h
  obtain ⟨hroot, hread⟩ := prepared_eq_ok hprepared
  obtain ⟨hopen, h⟩ := check_bind_eq_ok.mp h
  obtain ⟨howns, h⟩ := check_bind_eq_ok.mp h
  cases build_eq_ok h
  exact ⟨rfl, howns, root, s, hroot, hread, hopen⟩

theorem validateBinding_eq_ok {root : PairedRunRoot} {claim : PairedRunClaim} {u : Unit}
    (h : validateBinding root claim binding = .ok u) :
    binding = ⟨root, claim, binding.previousRecordId⟩ := by
  obtain ⟨expected, hbuild, hcheck⟩ := bind_eq_ok.mp h
  rw [build_eq_ok hbuild] at hcheck
  exact check_eq_ok.mp hcheck

theorem checkpoint_build_eq_ok {evidence : Evidence} {checkpoint : PairedRunCheckpoint}
    (h : PairedRunCheckpoint.build binding evidence = .ok checkpoint) :
    checkpoint.binding = binding ∧ isOutcomeId checkpoint.outcomeRecordId = true := by
  simp only [PairedRunCheckpoint.build, bind_eq_ok, check_eq_ok, pure_eq_ok_iff] at h
  obtain ⟨_, houtcome, _, _, _, _, _, _, _, _, rfl⟩ := h
  exact ⟨rfl, houtcome⟩

theorem nextCheckpoint_eq_ok {root : PairedRunRoot} {s : JournalState}
    {built checkpoint : PairedRunCheckpoint}
    (h : nextCheckpoint m binding built root s = .ok (checkpoint, true)) :
    checkpoint = built ∧ m.ownsClaim binding.claim = true ∧
      s.openClaim = some binding.claim ∧ binding = ⟨root, binding.claim, s.previous⟩ := by
  unfold nextCheckpoint at h
  split at h
  · obtain ⟨_, h⟩ := check_bind_eq_ok.mp h
    cases h
  · split at h
    · cases h
    · next claim hopen =>
      obtain ⟨rfl, h⟩ := check_bind_eq_ok.mp h
      obtain ⟨_, hvalid, h⟩ := bind_eq_ok.mp h
      obtain ⟨hprevious, h⟩ := check_bind_eq_ok.mp h
      obtain ⟨howns, h⟩ := check_bind_eq_ok.mp h
      cases h
      have hexact := validateBinding_eq_ok hvalid
      rw [hprevious] at hexact
      exact ⟨rfl, howns, hopen, hexact⟩

theorem completeAnswer_eq_ok {evidence : Evidence} {checkpoint : PairedRunCheckpoint}
    (h : w.completeAnswer m binding evidence = .ok (checkpoint, true)) :
    checkpoint.binding = binding ∧ isOutcomeId checkpoint.outcomeRecordId = true ∧
      m.ownsClaim binding.claim = true ∧
      ∃ root s, w.root = some root ∧ readUnlocked root w.events = .ok s ∧
        s.openClaim = some binding.claim ∧ binding = ⟨root, binding.claim, s.previous⟩ := by
  obtain ⟨_, _, h⟩ := bind_eq_ok.mp h
  obtain ⟨built, hbuild, h⟩ := bind_eq_ok.mp h
  obtain ⟨⟨root, s⟩, hprepared, h⟩ := bind_eq_ok.mp h
  obtain ⟨hroot, hread⟩ := prepared_eq_ok hprepared
  obtain ⟨rfl, howns, hopen, hexact⟩ := nextCheckpoint_eq_ok h
  obtain ⟨hbinding, houtcome⟩ := checkpoint_build_eq_ok hbuild
  exact ⟨hbinding, houtcome, howns, root, s, hroot, hread, hopen, hexact⟩

theorem ownsClaim_eq_true {claim : PairedRunClaim} (h : m.ownsClaim claim = true) :
    m.pid = m.ownerPid ∧ ∃ a, (claim, a) ∈ m.activeClaims ∧ a.nonce = m.ownerNonce := by
  unfold Memory.ownsClaim at h
  split at h
  · cases h
  · next authority hauthority =>
    obtain ⟨active, hfind, rfl⟩ := Option.map_eq_some_iff.mp hauthority
    have hclaim := List.find?_some hfind
    have hmem := List.mem_of_find?_eq_some hfind
    simp only [Bool.and_eq_true, decide_eq_true_eq] at h hclaim
    refine ⟨h.1.1, active.2, ?_, h.2.symm⟩
    rw [← hclaim]
    exact hmem

end Answers

/-! ## The invariant -/

/-- The store object appended the claim under the nonce. -/
def World.Wrote (w : World) (k nonce : Nat) (claim : PairedRunClaim) : Prop :=
  (⟨.claim claim, k, nonce⟩ : Entry) ∈ w.entries

/-- The claims a store object remembers, in the process that made it, are the claims it
wrote. -/
def World.Honest (w : World) (k : Nat) (m : Memory) : Prop :=
  m.pid = m.ownerPid → ∀ claim a, (claim, a) ∈ m.activeClaims → w.Wrote k a.nonce claim

/-- What every operation keeps. -/
structure Journal (w : World) : Prop where
  unprepared : w.root = none → w.entries = []
  shape : ∀ root, w.root = some root → ∃ s, Shape root w.events s
  writers : ∀ e ∈ w.entries, e.writer < w.storeCount
  stores : ∀ k m, w.stores k = some m → k < w.storeCount
  authority : ∀ k m, w.stores k = some m → w.Honest k m
  checkpoints : ∀ e ∈ w.entries, ∀ c, e.event = .checkpoint c →
    w.Wrote e.writer e.nonce c.binding.claim

theorem Journal.init : Journal World.init where
  unprepared _ := rfl
  shape root h := by cases h
  writers e h := by cases h
  stores k m h := by cases h
  authority k m h := by cases h
  checkpoints e h := by cases h

section Invariant

variable {w : World}

theorem Journal.prepared (hw : Journal w) {root : PairedRunRoot} {s : JournalState}
    (hroot : w.root = some root) (hread : readUnlocked root w.events = .ok s) :
    Shape root w.events s := by
  obtain ⟨s', hshape⟩ := hw.shape root hroot
  cases hshape.read_unique hread
  exact hshape

theorem Journal.entry_unique (hw : Journal w) {e e' : Entry} (he : e ∈ w.entries)
    (he' : e' ∈ w.entries) (h : e.event = e'.event) : e = e' := by
  cases hroot : w.root with
  | none =>
    rw [hw.unprepared hroot] at he
    cases he
  | some root =>
    obtain ⟨s, hshape⟩ := hw.shape root hroot
    exact List.inj_on_of_nodup_map hshape.nodup he he' h

variable {k nonce : Nat}

theorem wrote_append {k' nonce' : Nat} {claim : PairedRunClaim} {event : Event}
    (h : w.Wrote k nonce claim) : (w.append k' nonce' event).Wrote k nonce claim :=
  List.mem_append_left _ h

theorem Journal.owner_wrote (hw : Journal w) {m : Memory} {claim : PairedRunClaim}
    (hm : w.stores k = some m) (h : m.ownsClaim claim = true) :
    w.Wrote k m.ownerNonce claim := by
  obtain ⟨hpid, a, hactive, hnonce⟩ := ownsClaim_eq_true h
  rw [← hnonce]
  exact hw.authority k m hm hpid claim a hactive

theorem Journal.of_eq (hw : Journal w) {w' : World} (hroot : w'.root = w.root)
    (hentries : w'.entries = w.entries) (hstores : w'.stores = w.stores)
    (hcount : w'.storeCount = w.storeCount) : Journal w' := by
  cases w
  cases w'
  cases hroot
  cases hentries
  cases hstores
  cases hcount
  exact ⟨hw.unprepared, hw.shape, hw.writers, hw.stores, hw.authority, hw.checkpoints⟩

theorem some_of_update {α : Type} {f : Nat → Option α} {j k : Nat} {a b : α}
    (h : Function.update f k (some a) j = some b) : (j = k ∧ b = a) ∨ f j = some b := by
  by_cases hj : j = k
  · rw [hj, Function.update_self] at h
    exact .inl ⟨hj, (Option.some.inj h).symm⟩
  · rw [Function.update_of_ne hj] at h
    exact .inr h

theorem Journal.keep (hw : Journal w) {m : Memory} (hk : k < w.storeCount) (hm : w.Honest k m) :
    Journal (w.keep k m) where
  unprepared := hw.unprepared
  shape := hw.shape
  writers := hw.writers
  stores j m' h := by
    rcases some_of_update h with ⟨rfl, _⟩ | h
    · exact hk
    · exact hw.stores j m' h
  authority j m' h := by
    rcases some_of_update h with ⟨rfl, rfl⟩ | h
    · exact hm
    · exact hw.authority j m' h
  checkpoints := hw.checkpoints

theorem Journal.append (hw : Journal w) {k nonce : Nat} {event : Event} (hk : k < w.storeCount)
    {root : PairedRunRoot} (hroot : w.root = some root)
    (hshape : ∃ s, Shape root (w.events ++ [event]) s)
    (hwrote : ∀ c, event = .checkpoint c → w.Wrote k nonce c.binding.claim) :
    Journal (w.append k nonce event) where
  unprepared h := by
    rw [show (w.append k nonce event).root = w.root from rfl, hroot] at h
    cases h
  shape root' h := by
    have heq : root' = root := Option.some.inj (h.symm.trans hroot)
    rw [heq, show (w.append k nonce event).events = w.events ++ [event] by
      simp [World.events, World.append]]
    exact hshape
  writers := List.forall_mem_append.mpr ⟨hw.writers, List.forall_mem_singleton.mpr hk⟩
  stores := hw.stores
  authority j m' h hpid claim a hactive := wrote_append (hw.authority j m' h hpid claim a hactive)
  checkpoints e he c hc := by
    rcases List.mem_append.mp he with he | he
    · exact wrote_append (hw.checkpoints e he c hc)
    · rw [List.mem_singleton.mp he] at hc ⊢
      exact wrote_append (hwrote c hc)

theorem Journal.addStore (hw : Journal w) {m : Memory}
    (hm : m.pid = m.ownerPid → m.activeClaims = []) : Journal (w.addStore m) where
  unprepared := hw.unprepared
  shape := hw.shape
  writers e he := Nat.lt_succ_of_lt (hw.writers e he)
  stores j m' h := by
    rcases some_of_update h with ⟨rfl, _⟩ | h
    · exact Nat.lt_succ_self _
    · exact Nat.lt_succ_of_lt (hw.stores j m' h)
  authority j m' h := by
    rcases some_of_update h with ⟨_, rfl⟩ | h
    · intro hpid claim a hactive
      rw [hm hpid] at hactive
      cases hactive
    · exact hw.authority j m' h
  checkpoints := hw.checkpoints

theorem store_of_crash {m : Memory} {j k : Nat}
    (h : Function.update w.stores k none j = some m) : w.stores j = some m := by
  by_cases hj : j = k
  · subst hj
    rw [Function.update_self] at h
    cases h
  · rwa [Function.update_of_ne hj] at h

theorem Journal.crash (hw : Journal w) (k : Nat) :
    Journal { w with stores := Function.update w.stores k none } where
  unprepared := hw.unprepared
  shape := hw.shape
  writers := hw.writers
  stores j m' h := hw.stores j m' (store_of_crash h)
  authority j m' h := hw.authority j m' (store_of_crash h)
  checkpoints := hw.checkpoints

/-! ## The operations keep it -/

theorem honest_refresh {m : Memory} (h : w.Honest k m) : w.Honest k (m.refresh nonce) := by
  unfold Memory.refresh
  by_cases hpid : m.pid = m.ownerPid
  · rw [if_pos hpid]
    exact h
  · rw [if_neg hpid]
    intro _ claim a hactive
    cases hactive

theorem honest_abandon {m : Memory} (h : w.Honest k m) (claim : PairedRunClaim) :
    w.Honest k (m.abandon claim) :=
  fun hpid claim' a hactive => h hpid claim' a (List.mem_filter.mp hactive).1

theorem honest_activate {m : Memory} (h : w.Honest k m) {claim : PairedRunClaim}
    (hwrote : w.Wrote k m.ownerNonce claim) : w.Honest k (m.activate claim) := by
  intro hpid claim' a hactive
  rcases List.mem_cons.mp hactive with heq | hactive
  · cases heq
    exact hwrote
  · exact honest_abandon h claim hpid claim' a hactive

theorem honest_append {k' : Nat} {event : Event} {m : Memory} (h : w.Honest k' m) :
    (w.append k nonce event).Honest k' m :=
  fun hpid claim a hactive => wrote_append (h hpid claim a hactive)

theorem Journal.prepare (hw : Journal w) (root : PairedRunRoot) (storage : Storage) :
    Journal (w.prepare root storage).2 := by
  have hinstall : ∀ new, w.prepareAnswer root = .ok new →
      Journal (if new then { w with root := some root } else w) := by
    intro new h
    cases new with
    | false => exact hw
    | true =>
      obtain ⟨state, hread, hrest⟩ := bind_eq_ok.mp h
      cases state with
      | some state => exact absurd (check_bind_eq_ok.mp hrest).2 (by simp)
      | none =>
        have hroot : w.root = none := by
          unfold World.read at hread
          split at hread
          · assumption
          · obtain ⟨_, _, hnone⟩ := bind_eq_ok.mp hread
            cases hnone
        have hempty := hw.unprepared hroot
        refine ⟨fun h => (by cases h), ?_, hw.writers, hw.stores, hw.authority,
          hw.checkpoints⟩
        intro root' hroot'
        cases Option.some.inj hroot'
        refine ⟨⟨[], [], none⟩, ?_⟩
        change Shape root (w.entries.map Entry.event) _
        rw [hempty]
        exact .ready
  exact Storage.commit_induct (P := Journal) hw hinstall hinstall

theorem Journal.claim (hw : Journal w) {k : Nat} {m : Memory} (hm : w.stores k = some m)
    (slot : SlotArgument) (storage : Storage) : Journal (w.claim k m slot storage).2 := by
  have hk := hw.stores k m hm
  have hrefresh : w.Honest k (m.refresh w.nonceCount) := honest_refresh (hw.authority k m hm)
  have hkeep : Journal (w.refresh k m) := (hw.keep hk hrefresh).of_eq rfl rfl rfl rfl
  have happend : ∀ claim,
      (w.refresh k m).claimAnswer (m.refresh w.nonceCount) slot = .ok claim →
      Journal ((w.refresh k m).append k (m.refresh w.nonceCount).ownerNonce
        (.claim claim)) := by
    intro claim h
    obtain ⟨root, s, expected, hroot, hread, hopen, hexpected, rfl⟩ := claimAnswer_eq_ok h
    have hshape := hkeep.prepared hroot hread
    exact hkeep.append hk hroot (hshape.claim_next hopen hexpected).2 (fun c hc => by cases hc)
  refine Storage.commit_induct (P := Journal) hkeep happend ?_
  intro claim h
  refine (happend claim h).keep hk (honest_activate (honest_append hrefresh) ?_)
  exact List.mem_append_right _ (List.mem_singleton.mpr rfl)

theorem Journal.bindingFor (hw : Journal w) (m : Memory) (claim : PairedRunClaim)
    (storage : Storage) : Journal (w.bindingFor m claim storage).2 :=
  Storage.commit_induct (P := Journal) hw (fun _ _ => hw) fun _ _ =>
    ⟨hw.unprepared, hw.shape, hw.writers, hw.stores, hw.authority, hw.checkpoints⟩

theorem Journal.complete (hw : Journal w) {m : Memory} (hm : w.stores k = some m)
    (binding : PairedOutcomeBinding) (evidence : Evidence) (storage : Storage) :
    Journal (w.complete k m binding evidence storage).2 := by
  have hk := hw.stores k m hm
  have happend : ∀ checkpoint, w.completeAnswer m binding evidence = .ok (checkpoint, true) →
      Journal (w.append k m.ownerNonce (.checkpoint checkpoint)) := by
    intro checkpoint h
    obtain ⟨rfl, houtcome, howns, root, s, hroot, hread, hopen, hexact⟩ :=
      completeAnswer_eq_ok h
    refine hw.append hk hroot
      ((hw.prepared hroot hread).checkpoint_next hopen hexact houtcome) ?_
    intro c hc
    rw [← Event.checkpoint.inj hc]
    exact hw.owner_wrote hm howns
  refine Storage.commit_induct (P := Journal) hw ?_ ?_
  · rintro ⟨checkpoint, new⟩ h
    cases new with
    | false => exact hw
    | true => exact happend checkpoint h
  · rintro ⟨checkpoint, new⟩ h
    cases new with
    | false => exact hw
    | true =>
      exact (happend checkpoint h).keep hk
        (honest_append (honest_abandon (hw.authority k m hm) _))

theorem Journal.abandon (hw : Journal w) (k : Nat) (claim : PairedRunClaim) :
    Journal (w.abandon k claim) := by
  unfold World.abandon
  split
  · exact hw
  · next m hm =>
    exact hw.keep (hw.stores k m hm) (honest_abandon (hw.authority k m hm) claim)

theorem Journal.goTo (hw : Journal w) (r : Nat) (phase : Phase) : Journal (w.goTo r phase) :=
  hw.of_eq rfl rfl rfl rfl

theorem Journal.invoke (hw : Journal w) (call : ExecutorCall) (claim : PairedRunClaim) :
    Journal (w.invoke call claim) :=
  hw.of_eq rfl rfl rfl rfl

theorem Journal.settle {α : Type} {r : Nat} {cleanup : World → World} {next : α → Phase}
    {result : Except PairedError α × World} (hresult : Journal result.2)
    (hcleanup : Journal (cleanup result.2)) :
    Journal (World.settle r cleanup next result).2 := by
  unfold World.settle
  cases result.1 with
  | error e => exact hcleanup.goTo r _
  | ok a => exact hresult.goTo r _

theorem Journal.advance (hw : Journal w) {r : Nat} {runner : Runner} {m : Memory}
    (hm : w.stores runner.store = some m) (storage : Storage) (raises : Option PairedError)
    (evidence : Evidence) :
    Journal (w.advance r runner m storage raises evidence).2 := by
  unfold World.advance
  cases runner.phase with
  | preparing =>
    have h := hw.prepare runner.root storage
    exact Journal.settle h h
  | looking =>
    have h : Journal (storage.commit (w.resumable m runner.root) w (fun _ => w)
        fun _ => w).2 := Storage.commit_induct (P := Journal) hw (fun _ _ => hw) fun _ _ => hw
    exact Journal.settle h h
  | ready slot =>
    cases raises with
    | some e => exact hw.goTo r _
    | none =>
      have h := hw.claim hm (.slot slot) storage
      exact Journal.settle h h
  | claimed claim =>
    have h := hw.bindingFor m claim storage
    exact Journal.settle h (h.abandon _ _)
  | bound binding => exact (hw.invoke _ _).goTo r _
  | planned binding =>
    cases raises with
    | some e => exact (hw.abandon _ _).goTo r _
    | none => exact (hw.invoke _ _).goTo r _
  | ran binding =>
    cases raises with
    | some e => exact (hw.abandon _ _).goTo r _
    | none =>
      have h := hw.complete hm binding evidence storage
      exact Journal.settle h (h.abandon _ _)
  | ended => exact hw

end Invariant

end LocalMoe.Paired
