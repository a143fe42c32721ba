/-
  An endpoint has one lease, and unknown ownership is sticky.
-/
import LocalMoe.Foundation.Loops
import LocalMoe.Supervisor.Ledger

namespace LocalMoe.Supervisor.Ledger

open Foundation Contracts

variable {digest : Receipt → String} {cfg : Config}

/-! ## Chains of receipts -/

structure SameLease (r r' : Receipt) : Prop where
  leaseId : r'.leaseId = r.leaseId
  leaseToken : r'.leaseToken = r.leaseToken
  bindingSha256 : r'.bindingSha256 = r.bindingSha256
  endpoint : r'.endpointAuthoritySha256 = r.endpointAuthoritySha256
  ownerPid : r'.ownerPid = r.ownerPid

theorem SameLease.refl (r : Receipt) : SameLease r r := ⟨rfl, rfl, rfl, rfl, rfl⟩

theorem SameLease.trans {r r' r'' : Receipt} (h : SameLease r r') (h' : SameLease r' r'') :
    SameLease r r'' :=
  ⟨h'.leaseId.trans h.leaseId, h'.leaseToken.trans h.leaseToken,
    h'.bindingSha256.trans h.bindingSha256, h'.endpoint.trans h.endpoint,
    h'.ownerPid.trans h.ownerPid⟩

/-- A receipt that comes directly after another. -/
structure Follows (digest : Receipt → String) (previous r : Receipt) : Prop where
  lease : SameLease previous r
  names : r.previousReceiptSha256 = some (digest previous)
  index : r.transitionIndex = previous.transitionIndex + 1
  allowed : transitionAllowed previous.state r.state = true
  wellFormed : r.wellFormed = true

inductive HeadOf (digest : Receipt → String) (committed : List Receipt) : Receipt → Prop
  | first {r : Receipt} (hcommitted : r ∈ committed) (hstate : r.state = .prepared)
      (hindex : r.transitionIndex = 0) (hprevious : r.previousReceiptSha256 = none)
      (hwell : r.wellFormed = true) : HeadOf digest committed r
  | next {previous r : Receipt} (hprevious : HeadOf digest committed previous)
      (hfollows : Follows digest previous r) (hcommitted : r ∈ committed) :
      HeadOf digest committed r

variable {committed' : List Receipt} {r : Receipt}

theorem HeadOf.mono {committed : List Receipt} (hsub : committed ⊆ committed')
    (h : HeadOf digest committed r) : HeadOf digest committed' r := by
  induction h with
  | first hcommitted hstate hindex hprevious hwell =>
    exact .first (hsub hcommitted) hstate hindex hprevious hwell
  | next _ hfollows hcommitted ih => exact .next ih hfollows (hsub hcommitted)

/-- What a step does to a row that stays. -/
def Moved (digest : Receipt → String) (committed : List Receipt) (r r' : Receipt) : Prop :=
  r' = r ∨ (Follows digest r r' ∧ r' ∈ committed ∧ r'.state ≠ .stopped)

theorem Moved.lease {committed : List Receipt} {r r' : Receipt}
    (h : Moved digest committed r r') : SameLease r r' := by
  rcases h with rfl | ⟨hfollows, _⟩
  · exact .refl _
  · exact hfollows.lease

variable {r' : Receipt}

theorem Moved.unknown {committed : List Receipt} (h : Moved digest committed r r')
    (hr : r.state = .unknownBlocking) :
    r'.state = .unknownBlocking := by
  rcases h with rfl | ⟨hfollows, _⟩
  · exact hr
  · have hallowed := hfollows.allowed
    rw [hr] at hallowed
    exact of_decide_eq_true hallowed

theorem Moved.head {committed : List Receipt} (hsub : committed ⊆ committed')
    (h : Moved digest committed' r r') (hr : HeadOf digest committed r) :
    HeadOf digest committed' r' := by
  rcases h with rfl | ⟨hfollows, hmem, _⟩
  · exact hr.mono hsub
  · exact .next (hr.mono hsub) hfollows hmem

/-! ## Rows that move -/

/-- Rows of which each stays or moves on. -/
def Kept (digest : Receipt → String) (committed : List Receipt) (rows rows' : List Receipt) : Prop :=
  List.Forall₂ (Moved digest committed) rows rows'

section Kept

variable {committed rows rows' : List Receipt}

theorem Kept.map_eq {β : Type} {f : Receipt → β} (hf : ∀ r r', SameLease r r' → f r' = f r)
    (h : Kept digest committed rows rows') : rows'.map f = rows.map f := by
  induction h with
  | nil => rfl
  | cons hmoved _ ih => rw [List.map_cons, List.map_cons, hf _ _ hmoved.lease, ih]

theorem Kept.left (h : Kept digest committed rows rows') (hr : r ∈ rows) :
    ∃ r' ∈ rows', Moved digest committed r r' :=
  forall₂_mem h hr

theorem Kept.right (h : Kept digest committed rows rows') (hr : r' ∈ rows') :
    ∃ r ∈ rows, Moved digest committed r r' :=
  forall₂_mem (List.Forall₂.flip h) hr

theorem Kept.countP_le (h : Kept digest committed rows rows') :
    rows'.countP isActive ≤ rows.countP isActive := by
  induction h with
  | nil => exact le_rfl
  | @cons r r' rest rest' hmoved _ ih =>
    rw [List.countP_cons, List.countP_cons]
    refine Nat.add_le_add ih ?_
    split
    · rename_i hactive
      rw [if_pos]
      have hknown : r'.state ≠ .unknownBlocking := of_decide_eq_true hactive
      exact decide_eq_true fun hunknown => hknown (hmoved.unknown hunknown)
    · exact Nat.zero_le _

theorem Kept.refl (committed rows : List Receipt) : Kept digest committed rows rows :=
  List.forall₂_same.mpr fun _ _ => .inl rfl

theorem Kept.mono (hsub : committed ⊆ committed') (h : Kept digest committed rows rows') :
    Kept digest committed' rows rows' :=
  h.imp fun _ _ hmoved => hmoved.imp id fun ⟨hfollows, hmem, hstate⟩ => ⟨hfollows, hsub hmem, hstate⟩

end Kept

/-! ## The operations -/

theorem make_eq_ok (h : r.make = .ok r') : r' = r ∧ r.wellFormed = true := by
  obtain ⟨_, hcheck, h⟩ := bind_eq_ok.mp h
  exact ⟨(pure_eq_ok_iff.mp h).symm, check_eq_ok.mp hcheck⟩

theorem allowed_unknown {state : LeaseState} (h : state ≠ .stopped) :
    transitionAllowed state .unknownBlocking = true := by
  cases state <;> first | rfl | exact absurd rfl h

variable {inspection : Inspection}

theorem markAbandonedRow_eq_ok {sentinels : List String} {current : Receipt}
    (hstopped : current.state ≠ .stopped)
    (h : markAbandonedRow digest sentinels inspection current = .ok r) :
    (r = current ∨ (Follows digest current r ∧ r.state ≠ .stopped)) ∧
      (current.leaseId ∉ sentinels → r.state = .unknownBlocking) := by
  unfold markAbandonedRow at h
  split at h
  · rename_i hunknown
    cases pure_eq_ok_iff.mp h
    exact ⟨.inl rfl, fun _ => hunknown⟩
  · split at h
    · rename_i hactive
      cases pure_eq_ok_iff.mp h
      refine ⟨.inl rfl, fun hfree => ?_⟩
      unfold probeOwner at hactive
      split at hactive
      · cases hactive
      · rename_i hnot
        exact absurd ⟨hactive, hfree⟩ hnot
    · obtain ⟨now, _, h⟩ := bind_eq_ok.mp h
      obtain ⟨rfl, hwell⟩ := make_eq_ok h
      exact ⟨.inr ⟨⟨⟨rfl, rfl, rfl, rfl, rfl⟩, rfl, rfl, allowed_unknown hstopped, hwell⟩,
        fun h => by cases h⟩, fun _ => rfl⟩

variable {s : Store}

theorem markAbandonedRows_kept {rows : List Receipt} (hstopped : ∀ r ∈ s.rows, r.state ≠ .stopped)
    (h : s.markAbandonedRows digest inspection = .ok rows) :
    Kept digest (s.marked rows).committed s.rows rows ∧
      ∀ r ∈ rows, r.leaseId ∉ s.sentinels → r.state = .unknownBlocking := by
  obtain ⟨hlength, hrounds⟩ := List.forall₂_iff_zip.mp (mapM_ok_iff.mp h)
  have hkept : Kept digest (s.marked rows).committed s.rows rows := by
    refine List.forall₂_iff_zip.mpr ⟨hlength, fun {r r'} hmem => ?_⟩
    have hr := hstopped r (List.of_mem_zip hmem).1
    rcases (markAbandonedRow_eq_ok hr (hrounds hmem)).1 with rfl | ⟨hfollows, hstate⟩
    · exact .inl rfl
    · by_cases heq : r' = r
      · exact .inl heq
      · refine .inr ⟨hfollows, List.mem_append_right _ (List.mem_map.mpr ⟨(r, r'), ?_, rfl⟩), hstate⟩
        exact List.mem_filter.mpr ⟨hmem, decide_eq_true fun h => heq h.symm⟩
  refine ⟨hkept, fun r' hr' hfree => ?_⟩
  obtain ⟨r, hr, hround⟩ := mapM_ok_right h hr'
  obtain ⟨hmoved, hunknown⟩ := markAbandonedRow_eq_ok (hstopped r hr) hround
  refine hunknown ?_
  rcases hmoved with rfl | ⟨hfollows, _⟩
  · exact hfree
  · rwa [hfollows.lease.leaseId] at hfree

variable {receipt : Receipt}

theorem admit_eq_ok {acquisition : Acquisition} {token : Token} {rows : List Receipt}
    (h : admitRows cfg acquisition token rows = .ok (.ok receipt)) :
    rows.countP isActive < cfg.maxActiveLeases ∧
      acquisition.binding.endpointAuthoritySha256 ∉ rows.map Receipt.endpointAuthoritySha256 ∧
      acquisition.leaseId ∉ rows.map Receipt.leaseId ∧
      ∃ now, receipt = initialReceipt cfg acquisition token now ∧ receipt.wellFormed = true := by
  unfold admitRows at h
  split at h
  · cases h
  · rename_i hlimit
    split at h
    · cases h
    · rename_i hendpoint
      obtain ⟨now, _, h⟩ := bind_eq_ok.mp h
      obtain ⟨made, hmade, h⟩ := bind_eq_ok.mp h
      obtain ⟨hlease, h⟩ := check_bind_eq_ok.mp h
      cases h
      obtain ⟨rfl, hwell⟩ := make_eq_ok hmade
      exact ⟨not_le.mp hlimit, hendpoint, hlease, now, rfl, hwell⟩

theorem authorize_eq_ok {handle : Handle} {target : LeaseState} {evidence : Evidence}
    {current : Receipt}
    (h : s.authorize digest cfg handle target evidence = .ok (current, receipt)) :
    handle.released = false ∧
      Table.lookup Receipt.leaseId s.rows handle.leaseId = some current ∧
      current.leaseToken = handle.token ∧ transitionAllowed current.state target = true ∧
      receipt.state = target ∧ Follows digest current receipt := by
  obtain ⟨hreleased, h⟩ := check_bind_eq_ok.mp h
  split at h
  · cases h
  · rename_i found hfound
    obtain ⟨hauthentic, h⟩ := check_bind_eq_ok.mp h
    obtain ⟨hallowed, h⟩ := check_bind_eq_ok.mp h
    obtain ⟨now, _, h⟩ := bind_eq_ok.mp h
    obtain ⟨reasonCodes, _, h⟩ := bind_eq_ok.mp h
    obtain ⟨made, hmade, h⟩ := bind_eq_ok.mp h
    cases h
    obtain ⟨rfl, hwell⟩ := make_eq_ok hmade
    exact ⟨hreleased, hfound, hauthentic.1, hallowed, rfl,
      ⟨⟨rfl, rfl, rfl, rfl, rfl⟩, rfl, rfl, hallowed, hwell⟩⟩

/-! ## Steps -/

/-- The holder of a row's token stops it. -/
def StoppedBy (r : Receipt) (call : Call) : Prop :=
  ∃ handle evidence, call = .transition handle .stopped evidence ∧ handle.released = false ∧
    handle.leaseId = r.leaseId ∧ handle.token = r.leaseToken ∧
    (r.state = .prepared ∨ r.state = .stopping)

/-- What a step can do to the rows. -/
inductive Change (digest : Receipt → String) (cfg : Config) (s : Store) (call : Call) :
    Except String Output → Store → Prop
  | kept {out : Except String Output} {s' : Store}
      (hrows : Kept digest s'.committed s.rows s'.rows) (hsub : s.committed ⊆ s'.committed)
      (hdrawn : s.drawn ≤ s'.drawn) (hout : ∀ receipt handle, out ≠ .ok (.acquired receipt handle)) :
      Change digest cfg s call out s'
  | granted {rows : List Receipt} {receipt : Receipt} {s' : Store}
      (hrows : Kept digest s'.committed s.rows rows) (hsub : s.committed ⊆ s'.committed)
      (hnew : s'.rows = rows ++ [receipt]) (hdrawn : s'.drawn = s.drawn + 1)
      (hlimit : rows.countP isActive < cfg.maxActiveLeases)
      (hendpoint : receipt.endpointAuthoritySha256 ∉ rows.map Receipt.endpointAuthoritySha256)
      (hlease : receipt.leaseId ∉ rows.map Receipt.leaseId)
      (htoken : receipt.leaseToken = .drawn s.drawn) (hstate : receipt.state = .prepared)
      (hcall : ∃ acquisition, call = .acquire acquisition ∧
        receipt.endpointAuthoritySha256 = acquisition.binding.endpointAuthoritySha256)
      (hfirst : HeadOf digest s'.committed receipt) :
      Change digest cfg s call (.ok (.acquired receipt (handleOf receipt))) s'
  | removed {current receipt : Receipt} {s' : Store} (hmem : current ∈ s.rows)
      (hstopped : StoppedBy current call)
      (hrows : s'.rows = Table.delete Receipt.leaseId s.rows current.leaseId)
      (hsub : s.committed ⊆ s'.committed) (hdrawn : s.drawn ≤ s'.drawn) :
      Change digest cfg s call (.ok (.transitioned receipt)) s'

theorem acquire_change (hstopped : ∀ r ∈ s.rows, r.state ≠ .stopped) (acquisition : Acquisition) :
    Change digest cfg s (.acquire acquisition) (s.acquire digest cfg acquisition).1
      (s.acquire digest cfg acquisition).2 := by
  have hnothing (code : String) : Change digest cfg s (.acquire acquisition)
      (.error code) s.drawToken :=
    .kept (.refl _ _) (List.Subset.refl _) (Nat.le_succ _) fun _ _ h => by cases h
  unfold Store.acquire
  split
  · exact hnothing _
  · split
    · exact hnothing _
    · rename_i rows code h
      obtain ⟨marked, hmarked, h⟩ := bind_eq_ok.mp h
      obtain ⟨answer, _, h⟩ := bind_eq_ok.mp h
      cases h
      have hkept := (markAbandonedRows_kept hstopped hmarked).1
      exact .kept hkept (List.subset_append_left _ _) (Nat.le_succ _) fun _ _ h => by cases h
    · rename_i rows receipt h
      obtain ⟨marked, hmarked, h⟩ := bind_eq_ok.mp h
      obtain ⟨answer, hanswer, h⟩ := bind_eq_ok.mp h
      cases h
      have hkept := (markAbandonedRows_kept hstopped hmarked).1
      obtain ⟨hlimit, hendpoint, hlease, now, rfl, hwell⟩ := admit_eq_ok hanswer
      exact .granted (hkept.mono (List.subset_append_left _ _))
        (fun _ hr => List.mem_append_left _ (List.mem_append_left _ hr)) rfl rfl hlimit hendpoint
        hlease rfl rfl ⟨acquisition, rfl, rfl⟩ (.first (List.mem_append_right _ (List.mem_singleton.mpr rfl)) rfl rfl rfl hwell)

theorem transition_change (hunique : Table.UniqueKeys Receipt.leaseId s.rows) (handle : Handle)
    (target : LeaseState) (evidence : Evidence) :
    Change digest cfg s (.transition handle target evidence)
      (s.transition digest cfg handle target evidence).1
      (s.transition digest cfg handle target evidence).2 := by
  unfold Store.transition
  split
  · exact .kept (.refl _ _) (List.Subset.refl _) le_rfl fun _ _ h => by cases h
  · rename_i current receipt h
    obtain ⟨hreleased, hfound, htoken, hallowed, hstate, hfollows⟩ := authorize_eq_ok h
    obtain ⟨hmem, hlease⟩ := Table.mem_of_lookup hfound
    by_cases htarget : target = .stopped
    · subst htarget
      refine .removed hmem ⟨handle, evidence, rfl, hreleased, hlease.symm, htoken.symm, ?_⟩
        rfl (List.subset_append_left _ _) le_rfl
      revert hallowed
      cases current.state <;> decide
    · refine .kept ?_ (List.subset_append_left _ _) le_rfl fun _ _ h => by cases h
      change Kept digest _ s.rows (if target = .stopped then _ else _)
      rw [if_neg htarget]
      refine List.forall₂_map_right_iff.mpr (List.forall₂_same.mpr fun r hr => ?_)
      by_cases hr' : r.leaseId = current.leaseId
      · rw [if_pos hr']
        have heq : r = current := by
          have hlookup := Table.lookup_eq_some_of_mem hunique hr
          rw [hr', Table.lookup_eq_some_of_mem hunique hmem] at hlookup
          exact (Option.some.inj hlookup).symm
        exact .inr ⟨heq ▸ hfollows, List.mem_append_right _ (List.mem_singleton.mpr rfl),
          fun h => htarget (hstate.symm.trans h)⟩
      · rw [if_neg hr']
        exact .inl rfl

variable {answer : List Receipt → Output}

theorem inspect_change (hstopped : ∀ r ∈ s.rows, r.state ≠ .stopped) (inspection : Inspection)
    (call : Call) (hanswer : ∀ rows receipt handle, answer rows ≠ .acquired receipt handle) :
    Change digest cfg s call (s.inspect digest inspection answer).1
      (s.inspect digest inspection answer).2 := by
  unfold Store.inspect
  split
  · exact .kept (.refl _ _) (List.Subset.refl _) le_rfl fun _ _ h => by cases h
  · rename_i rows hmarked
    refine .kept (markAbandonedRows_kept hstopped hmarked).1 (List.subset_append_left _ _) le_rfl
      fun receipt handle h => hanswer rows receipt handle (Except.ok.inj h)

/-! ## The invariant -/

/-- What holds of every reachable store. -/
structure Lawful (digest : Receipt → String) (cfg : Config) (s : Store) : Prop where
  leases : Table.UniqueKeys Receipt.leaseId s.rows
  endpoints : Table.UniqueKeys Receipt.endpointAuthoritySha256 s.rows
  tokens : Table.UniqueKeys Receipt.leaseToken s.rows
  issued : ∀ r ∈ s.rows, ∃ n < s.drawn, r.leaseToken = .drawn n
  limit : s.rows.countP isActive ≤ cfg.maxActiveLeases
  heads : ∀ r ∈ s.rows, HeadOf digest s.committed r
  active : ∀ r ∈ s.rows, r.state ≠ .stopped

theorem lawful_init : Lawful digest cfg (ledger digest cfg).init where
  leases := List.nodup_nil
  endpoints := List.nodup_nil
  tokens := List.nodup_nil
  issued := fun _ h => by cases h
  limit := Nat.zero_le _
  heads := fun _ h => by cases h
  active := fun _ h => by cases h

theorem perform_change (h : Lawful digest cfg s) (call : Call) :
    Change digest cfg s call (s.perform digest cfg call).1 (s.perform digest cfg call).2 := by
  cases call with
  | acquire acquisition => exact acquire_change h.active acquisition
  | transition handle target evidence => exact transition_change h.leases handle target evidence
  | get leaseId inspection
  | listActive inspection => exact inspect_change h.active inspection _ fun _ _ _ h => by cases h
  | markAbandonedOwners inspection =>
    exact inspect_change h.active inspection _ fun _ _ _ h => by cases h
  | dropSentinel leaseId =>
    exact .kept (.refl _ _) (List.Subset.refl _) le_rfl fun _ _ h => by cases h

theorem Lawful.kept {s' : Store} (h : Lawful digest cfg s) {rows : List Receipt}
    (hrows : Kept digest s'.committed s.rows rows) (hsub : s.committed ⊆ s'.committed)
    (hdrawn : s.drawn ≤ s'.drawn) : Lawful digest cfg { s' with rows := rows } where
  leases := by
    unfold Table.UniqueKeys
    rw [hrows.map_eq fun _ _ h => h.leaseId]
    exact h.leases
  endpoints := by
    unfold Table.UniqueKeys
    rw [hrows.map_eq fun _ _ h => h.endpoint]
    exact h.endpoints
  tokens := by
    unfold Table.UniqueKeys
    rw [hrows.map_eq fun _ _ h => h.leaseToken]
    exact h.tokens
  issued := fun r' hr' => by
    obtain ⟨r, hr, hmoved⟩ := hrows.right hr'
    obtain ⟨n, hn, htoken⟩ := h.issued r hr
    exact ⟨n, lt_of_lt_of_le hn hdrawn, hmoved.lease.leaseToken.trans htoken⟩
  limit := hrows.countP_le.trans h.limit
  heads := fun r' hr' => by
    obtain ⟨r, hr, hmoved⟩ := hrows.right hr'
    exact hmoved.head hsub (h.heads r hr)
  active := fun r' hr' => by
    obtain ⟨r, hr, rfl | ⟨_, _, hstate⟩⟩ := hrows.right hr'
    · exact h.active r' hr
    · exact hstate

theorem uniqueKeys_concat {β : Type} [DecidableEq β] {f : Receipt → β} {rows : List Receipt}
    (h : Table.UniqueKeys f rows) (hnew : f receipt ∉ rows.map f) :
    Table.UniqueKeys f (rows ++ [receipt]) :=
  h.append_single (Table.lookup_eq_none_iff.mpr hnew)

variable {call : Call}

theorem Lawful.change {s' : Store} {out : Except String Output} (h : Lawful digest cfg s)
    (hchange : Change digest cfg s call out s') :
    Lawful digest cfg s' := by
  cases hchange with
  | kept hrows hsub hdrawn _ => exact h.kept hrows hsub hdrawn
  | @granted rows receipt _ hrows hsub hnew hdrawn hlimit hendpoint hlease htoken hstate _
      hfirst =>
      have hold := h.kept hrows hsub (hdrawn ▸ Nat.le_succ _)
      have hfresh : receipt.leaseToken ∉ rows.map Receipt.leaseToken := by
        rw [hrows.map_eq fun _ _ h => h.leaseToken, htoken]
        intro hmem
        obtain ⟨r, hr, heq⟩ := List.mem_map.mp hmem
        obtain ⟨n, hn, htok⟩ := h.issued r hr
        rw [htok] at heq
        cases heq
        exact absurd hn (lt_irrefl _)
      refine ⟨hnew ▸ uniqueKeys_concat hold.leases hlease,
        hnew ▸ uniqueKeys_concat hold.endpoints hendpoint,
        hnew ▸ uniqueKeys_concat hold.tokens hfresh, ?_, ?_, ?_, ?_⟩
      · exact hnew ▸ List.forall_mem_append.mpr ⟨hold.issued,
          List.forall_mem_singleton.mpr ⟨s.drawn, hdrawn ▸ Nat.lt_succ_self _, htoken⟩⟩
      · rw [hnew, List.countP_append, List.countP_singleton]
        split
        · exact hlimit
        · exact hlimit.le
      · exact hnew ▸ List.forall_mem_append.mpr ⟨hold.heads, List.forall_mem_singleton.mpr hfirst⟩
      · refine hnew ▸ List.forall_mem_append.mpr ⟨hold.active, List.forall_mem_singleton.mpr ?_⟩
        rw [hstate]
        exact fun h => by cases h
  | @removed current receipt _ hmem hstopped hrows hsub hdrawn =>
    have hsubrows : ∀ r ∈ s'.rows, r ∈ s.rows := fun r hr => by
      rw [hrows] at hr
      exact List.mem_of_mem_filter hr
    refine ⟨hrows ▸ h.leases.delete _, ?_, ?_, fun r hr => ?_, ?_, fun r hr => ?_, fun r hr =>
      h.active r (hsubrows r hr)⟩
    · rw [hrows]
      exact List.Nodup.sublist (List.Sublist.map _ List.filter_sublist) h.endpoints
    · rw [hrows]
      exact List.Nodup.sublist (List.Sublist.map _ List.filter_sublist) h.tokens
    · obtain ⟨n, hn, htoken⟩ := h.issued r (hsubrows r hr)
      exact ⟨n, lt_of_lt_of_le hn hdrawn, htoken⟩
    · rw [hrows]
      exact (List.Sublist.countP_le List.filter_sublist).trans h.limit
    · exact (h.heads r (hsubrows r hr)).mono hsub

theorem lawful_stable : (ledger digest cfg).Stable (Lawful digest cfg) :=
  fun _ call h => h.change (perform_change h call)

/-! ## One row in a run -/

theorem row_next (h : Lawful digest cfg s) (hr : r ∈ s.rows) (call : Call) :
    (∃ r' ∈ ((ledger digest cfg).next s call).rows,
      Moved digest ((ledger digest cfg).next s call).committed r r') ∨ StoppedBy r call := by
  have hchange := perform_change h call
  change Change digest cfg s call ((ledger digest cfg).output s call)
    ((ledger digest cfg).next s call) at hchange
  generalize (ledger digest cfg).output s call = out at hchange
  generalize (ledger digest cfg).next s call = s' at hchange ⊢
  cases hchange with
  | kept hrows _ _ _ => exact .inl (hrows.left hr)
  | granted hrows _ hnew _ _ _ _ _ _ _ _ =>
    obtain ⟨r', hr', hmoved⟩ := hrows.left hr
    exact .inl ⟨r', hnew ▸ List.mem_append_left _ hr', hmoved⟩
  | @removed current _ _ hmem hstopped hrows _ _ =>
    by_cases heq : r.leaseId = current.leaseId
    · have hsame : r = current := by
        have hlookup := Table.lookup_eq_some_of_mem h.leases hr
        rw [heq, Table.lookup_eq_some_of_mem h.leases hmem] at hlookup
        exact (Option.some.inj hlookup).symm
      exact .inr (hsame ▸ hstopped)
    · exact .inl ⟨r, hrows ▸ List.mem_filter.mpr ⟨hr, decide_eq_true heq⟩, .inl rfl⟩

/-- Someone presents the token of a row, by a handle that is not released. -/
def Presents (r : Receipt) (call : Call) : Prop :=
  ∃ handle target evidence, call = .transition handle target evidence ∧
    handle.released = false ∧ handle.token = r.leaseToken

theorem StoppedBy.presents (h : StoppedBy r call) : Presents r call := by
  obtain ⟨handle, evidence, hcall, hreleased, _, htoken, _⟩ := h
  exact ⟨handle, .stopped, evidence, hcall, hreleased, htoken⟩

theorem StoppedBy.known (h : StoppedBy r call) : r.state ≠ .unknownBlocking := by
  obtain ⟨_, _, _, _, _, _, hstate⟩ := h
  rcases hstate with hstate | hstate
  · rw [hstate]
    exact fun h => by cases h
  · rw [hstate]
    exact fun h => by cases h

theorem row_exec (h : Lawful digest cfg s) (hr : r ∈ s.rows) (later : List Call)
    (hsilent : r.state = .unknownBlocking ∨ ∀ call ∈ later, ¬ Presents r call) :
    ∃ r' ∈ ((ledger digest cfg).exec s later).rows, SameLease r r' ∧
      (r.state = .unknownBlocking → r'.state = .unknownBlocking) := by
  induction later generalizing s r with
  | nil => exact ⟨r, hr, .refl r, id⟩
  | cons call later ih =>
    rcases row_next h hr call with ⟨r₁, hr₁, hmoved⟩ | hstopped
    · have hsilent₁ : r₁.state = .unknownBlocking ∨ ∀ call ∈ later, ¬ Presents r₁ call := by
        refine hsilent.imp hmoved.unknown fun hquiet call hcall hpresents => ?_
        obtain ⟨handle, target, evidence, heq, hreleased, htoken⟩ := hpresents
        exact hquiet call (List.mem_cons_of_mem _ hcall)
          ⟨handle, target, evidence, heq, hreleased, htoken.trans hmoved.lease.leaseToken⟩
      obtain ⟨r', hr', hsame, hunknown⟩ := ih (lawful_stable s call h) hr₁ hsilent₁
      exact ⟨r', hr', hmoved.lease.trans hsame, fun hstate => hunknown (hmoved.unknown hstate)⟩
    · rcases hsilent with hunknown | hquiet
      · exact absurd hunknown hstopped.known
      · exact absurd hstopped.presents (hquiet call List.mem_cons_self)

theorem acquire_refused (h : Lawful digest cfg s) (hr : r ∈ s.rows) {acquisition : Acquisition}
    (hendpoint : acquisition.binding.endpointAuthoritySha256 = r.endpointAuthoritySha256)
    (receipt : Receipt) (handle : Handle) :
    (ledger digest cfg).output s (.acquire acquisition) ≠ .ok (.acquired receipt handle) := by
  intro hout
  have hchange := perform_change h (.acquire acquisition)
  change Change digest cfg s _ ((ledger digest cfg).output s (.acquire acquisition))
    ((ledger digest cfg).next s (.acquire acquisition)) at hchange
  rw [hout] at hchange
  generalize (ledger digest cfg).next s (.acquire acquisition) = s' at hchange
  cases hchange with
  | kept _ _ _ hnot => exact hnot receipt handle rfl
  | granted hrows _ _ _ _ hfree _ _ _ hcall _ =>
    obtain ⟨made, hmade, hsame⟩ := hcall
    cases hmade
    obtain ⟨r', hr', hmoved⟩ := hrows.left hr
    refine hfree (List.mem_map.mpr ⟨r', hr', ?_⟩)
    rw [hmoved.lease.endpoint, hsame, hendpoint]

def Call.inspects : Call → Bool
  | .get _ _ | .listActive _ | .markAbandonedOwners _ => true
  | _ => false

theorem inspect_marks (h : Lawful digest cfg s) {out : Output}
    (hout : (s.inspect digest inspection answer).1 = .ok out) :
    ∀ r ∈ (s.inspect digest inspection answer).2.rows, r.leaseId ∉ s.sentinels →
      r.state = .unknownBlocking := by
  unfold Store.inspect at hout ⊢
  split at hout
  · cases hout
  · rename_i rows hmarked
    exact (markAbandonedRows_kept h.active hmarked).2

theorem unheld_unknown (h : Lawful digest cfg s) (hcall : call.inspects = true) {out : Output}
    (hout : (ledger digest cfg).output s call = .ok out) :
    ∀ r ∈ ((ledger digest cfg).next s call).rows, r.leaseId ∉ s.sentinels →
      r.state = .unknownBlocking := by
  cases call with
  | get leaseId inspection | listActive inspection
  | markAbandonedOwners inspection => exact inspect_marks h hout
  | acquire acquisition | transition handle target evidence | dropSentinel leaseId => cases hcall

/-! ## Runs -/

/-- In every run: one row an endpoint, and no more known rows than the policy admits; every row
heads a chain of committed receipts; a row goes only when the holder of its token stops it; an
unknown row stays unknown, and its endpoint is not acquired again; an inspection makes the rows
of owners that are heard of no more unknown. -/
theorem ledger_law (digest : Receipt → String) (cfg : Config) (calls : List Call) :
    let M := ledger digest cfg
    let s := M.exec M.init calls
    Table.UniqueKeys Receipt.endpointAuthoritySha256 s.rows ∧
      s.rows.countP isActive ≤ cfg.maxActiveLeases ∧
      (∀ r ∈ s.rows, HeadOf digest s.committed r) ∧
      (∀ r ∈ s.rows, ∀ call, (∀ r' ∈ (M.next s call).rows, ¬ SameLease r r') →
        StoppedBy r call) ∧
      (∀ r ∈ s.rows, ∀ later,
        r.state = .unknownBlocking ∨ (∀ call ∈ later, ¬ Presents r call) →
        (∃ r' ∈ (M.exec s later).rows, SameLease r r' ∧
          (r.state = .unknownBlocking → r'.state = .unknownBlocking)) ∧
        ∀ acquisition receipt handle,
          acquisition.binding.endpointAuthoritySha256 = r.endpointAuthoritySha256 →
          M.output (M.exec s later) (.acquire acquisition) ≠ .ok (.acquired receipt handle)) ∧
      (∀ call out, call.inspects = true → M.output s call = .ok out →
        ∀ r ∈ (M.next s call).rows, r.leaseId ∉ s.sentinels → r.state = .unknownBlocking) := by
  intro M s
  have hlawful : Lawful digest cfg s := lawful_stable.exec lawful_init calls
  refine ⟨hlawful.endpoints, hlawful.limit, hlawful.heads, ?_, ?_, ?_⟩
  · intro r hr call hgone
    rcases row_next hlawful hr call with ⟨r', hr', hmoved⟩ | hstopped
    · exact absurd hmoved.lease (hgone r' hr')
    · exact hstopped
  · intro r hr later hsilent
    obtain ⟨r', hr', hsame, hunknown⟩ := row_exec hlawful hr later hsilent
    refine ⟨⟨r', hr', hsame, hunknown⟩, fun acquisition receipt handle hendpoint => ?_⟩
    exact acquire_refused (lawful_stable.exec hlawful later) hr'
      (hendpoint.trans hsame.endpoint.symm) receipt handle
  · intro call out hcall hout
    exact unheld_unknown hlawful hcall hout

end LocalMoe.Supervisor.Ledger
