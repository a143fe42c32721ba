/-
  The run directory only grows.
-/
import LocalMoe.Paired.Journal

namespace LocalMoe.Paired

open Foundation

/-- The directory is empty, or has a root and a journal in one of its shapes. -/
def Legible (w : World) : Prop :=
  (w.root = none → w.entries = []) ∧ ∀ root, w.root = some root → ∃ s, Shape root w.events s

/-- The root stays, the journal grows, and the directory can be read if it could before. -/
structure Kept (w w' : World) : Prop where
  root : ∀ root, w.root = some root → w'.root = some root
  entries : w.entries <+: w'.entries
  legible : Legible w → Legible w'

variable {w w' w'' : World}

theorem Kept.refl : Kept w w := ⟨fun _ h => h, List.prefix_rfl, fun h => h⟩

theorem Kept.trans (h : Kept w w') (h' : Kept w' w'') : Kept w w'' :=
  ⟨fun root hroot => h'.root root (h.root root hroot), h.entries.trans h'.entries,
    fun hw => h'.legible (h.legible hw)⟩

theorem Kept.of_eq (h : Kept w w') (hroot : w''.root = w'.root)
    (hentries : w''.entries = w'.entries) : Kept w w'' := by
  refine h.trans ⟨fun _ h => hroot.trans h, hentries ▸ List.prefix_rfl, fun hw => ?_⟩
  rwa [Legible, World.events, hroot, hentries]

theorem Kept.append {root : PairedRunRoot} {s : JournalState} {k nonce : Nat} {event : Event}
    (hroot : w.root = some root) (hread : readUnlocked root w.events = .ok s)
    (hnext : Shape root w.events s → ∃ s', Shape root (w.events ++ [event]) s') :
    Kept w (w.append k nonce event) := by
  refine ⟨fun _ h => h, List.prefix_append _ _, fun ⟨_, hshape⟩ => ⟨fun h => ?_, fun found h => ?_⟩⟩
  · cases hroot.symm.trans h
  · cases hroot.symm.trans h
    obtain ⟨s', hs'⟩ := hshape root hroot
    cases hs'.read_unique hread
    have hevents : (w.append k nonce event).events = w.events ++ [event] := List.map_append
    exact hevents ▸ hnext hs'

theorem Kept.prepare (w : World) (root : PairedRunRoot) (storage : Storage) :
    Kept w (w.prepare root storage).2 := by
  have hinstall : ∀ new, w.prepareAnswer root = .ok new →
      Kept w (if new then { w with root := some root } else w) := by
    intro new h
    cases new with
    | false => exact .refl
    | true =>
      obtain ⟨state, hread, hrest⟩ := bind_eq_ok.mp h
      cases state with
      | some state => exact absurd (check_bind_eq_ok.mp hrest).2 (by simp)
      | none =>
        have hroot : w.root = none := by
          unfold World.read at hread
          split at hread
          · assumption
          · obtain ⟨_, _, hnone⟩ := bind_eq_ok.mp hread
            cases hnone
        refine ⟨fun _ h => (by cases hroot.symm.trans h), List.prefix_rfl, fun hw => ?_⟩
        refine ⟨fun h => (by cases h), fun found _ => ⟨⟨[], [], none⟩, ?_⟩⟩
        change Shape found (w.entries.map Entry.event) _
        rw [hw.1 hroot]
        exact .ready
  exact Storage.commit_induct (P := Kept w) .refl hinstall hinstall

theorem Kept.claim (w : World) (k : Nat) (m : Memory) (slot : SlotArgument) (storage : Storage) :
    Kept w (w.claim k m slot storage).2 := by
  have hrefresh : Kept w (w.refresh k m) := Kept.refl.of_eq rfl rfl
  have happend : ∀ claim,
      (w.refresh k m).claimAnswer (m.refresh w.nonceCount) slot = .ok claim →
      Kept w ((w.refresh k m).append k (m.refresh w.nonceCount).ownerNonce (.claim claim)) := by
    intro claim h
    obtain ⟨root, s, expected, hroot, hread, hopen, hexpected, rfl⟩ := claimAnswer_eq_ok h
    exact hrefresh.trans (.append hroot hread fun hs => (hs.claim_next hopen hexpected).2)
  exact Storage.commit_induct (P := Kept w) hrefresh happend fun claim h =>
    (happend claim h).of_eq rfl rfl

theorem Kept.complete (w : World) (k : Nat) (m : Memory) (binding : PairedOutcomeBinding)
    (evidence : Evidence) (storage : Storage) :
    Kept w (w.complete k m binding evidence storage).2 := by
  have happend : ∀ answer, w.completeAnswer m binding evidence = .ok answer →
      Kept w (if answer.2 then w.append k m.ownerNonce (.checkpoint answer.1) else w) := by
    rintro ⟨checkpoint, new⟩ h
    cases new with
    | false => exact .refl
    | true =>
      obtain ⟨rfl, houtcome, -, root, s, hroot, hread, hopen, hexact⟩ := completeAnswer_eq_ok h
      exact .append hroot hread fun hs => hs.checkpoint_next hopen hexact houtcome
  refine Storage.commit_induct (P := Kept w) .refl happend ?_
  rintro ⟨checkpoint, new⟩ h
  cases new with
  | false => exact .refl
  | true => exact (happend _ h).of_eq rfl rfl

theorem Kept.unwritten {α : Type} {answer : Except PairedError α} {storage : Storage}
    {kept : α → World} (hkept : ∀ a, Kept w (kept a)) :
    Kept w (storage.commit answer w (fun _ => w) kept).2 :=
  Storage.commit_induct (P := Kept w) .refl (fun _ _ => .refl) fun a _ => hkept a

theorem Kept.bindingFor (w : World) (m : Memory) (claim : PairedRunClaim) (storage : Storage) :
    Kept w (w.bindingFor m claim storage).2 := .unwritten fun _ => Kept.refl.of_eq rfl rfl

theorem Kept.abandon (h : Kept w w') (k : Nat) (claim : PairedRunClaim) :
    Kept w (w'.abandon k claim) := by
  unfold World.abandon
  split
  · exact h
  · exact h.of_eq rfl rfl

theorem Kept.settle {α : Type} {r : Nat} {cleanup : World → World} {next : α → Phase}
    {result : Except PairedError α × World} (hresult : Kept w result.2)
    (hcleanup : Kept w (cleanup result.2)) : Kept w (World.settle r cleanup next result).2 := by
  unfold World.settle
  cases result.1 with
  | error e => exact hcleanup.of_eq rfl rfl
  | ok a => exact hresult.of_eq rfl rfl

theorem Kept.advance (w : World) (r : Nat) (runner : Runner) (m : Memory) (storage : Storage)
    (raises : Option PairedError) (evidence : Evidence) :
    Kept w (w.advance r runner m storage raises evidence).2 := by
  unfold World.advance
  cases runner.phase with
  | preparing => exact .settle (.prepare w runner.root storage) (.prepare w runner.root storage)
  | looking => exact .settle (.unwritten fun _ => .refl) (.unwritten fun _ => .refl)
  | ready slot =>
    cases raises with
    | some e => exact Kept.refl.of_eq rfl rfl
    | none => exact .settle (.claim w _ m _ storage) (.claim w _ m _ storage)
  | claimed claim =>
    have h := Kept.bindingFor w m claim storage
    exact .settle h (h.abandon _ _)
  | bound binding => exact Kept.refl.of_eq rfl rfl
  | planned binding =>
    cases raises with
    | some e => exact (Kept.refl.abandon _ _).of_eq rfl rfl
    | none => exact Kept.refl.of_eq rfl rfl
  | ran binding =>
    cases raises with
    | some e => exact (Kept.refl.abandon _ _).of_eq rfl rfl
    | none =>
      have h := Kept.complete w runner.store m binding evidence storage
      exact .settle h (h.abandon _ _)
  | ended => exact .refl

theorem Kept.step (w : World) (i : Input) : Kept w (w.step i).2 := by
  cases i with
  | create | crash | start => exact Kept.refl.of_eq rfl rfl
  | fork parent pid call =>
    refine World.onFound_induct .refl fun m _ => ?_
    dsimp only
    unfold World.resume
    split
    · exact Kept.refl.of_eq rfl rfl
    · split <;> exact Kept.refl.of_eq rfl rfl
  | prepare k root storage => exact World.onFound_induct .refl fun _ _ => .prepare w root storage
  | claim k slot storage => exact World.onFound_induct .refl fun m _ => .claim w k m slot storage
  | bindingFor k claim storage =>
    exact World.onFound_induct .refl fun m _ => .bindingFor w m claim storage
  | complete k binding evidence storage =>
    exact World.onFound_induct .refl fun m _ => .complete w k m binding evidence storage
  | abandon k claim => exact Kept.refl.abandon k claim
  | advance r storage raises evidence =>
    exact World.onFound_induct .refl fun runner _ => World.onFound_induct .refl fun m _ =>
      .advance w r runner m storage raises evidence

theorem Kept.exec (w : World) (is : List Input) : Kept w (paired.exec w is) := by
  induction is generalizing w with
  | nil => exact .refl
  | cons i rest ih => exact (Kept.step w i).trans (ih _)

end LocalMoe.Paired
