/-
  A premium budget is granted once.
-/
import LocalMoe.Bridge.Ledger
import Mathlib.Tactic.Linarith

namespace LocalMoe.Bridge

open Foundation Contracts

/-! ## Entries -/

def LedgerState.budget (s : LedgerState) (key : String) : Option Budget :=
  Table.lookup Budget.keySha256 s.budgets key

/-- The entry stands for exactly one grant. -/
def Budget.Single (b : Budget) : Prop := b.used + b.pending.length = 1

/-- One entry a key, and each of them one grant. -/
structure LedgerState.Sound (s : LedgerState) : Prop where
  keys : Table.UniqueKeys Budget.keySha256 s.budgets
  single : ∀ b ∈ s.budgets, b.Single

variable {b : Budget}

theorem Budget.Single.cases (h : b.Single) :
    (b.used = 1 ∧ b.pending = []) ∨ ∃ r, b.used = 0 ∧ b.pending = [r] := by
  unfold Budget.Single at h
  match hp : b.pending with
  | [] =>
    rw [hp, List.length_nil] at h
    exact .inl ⟨h, rfl⟩
  | [r] =>
    rw [hp, List.length_singleton] at h
    exact .inr ⟨r, by omega, rfl⟩
  | r :: r' :: rest =>
    rw [hp, List.length_cons, List.length_cons] at h
    omega

/-- The entry once its reservation counts as used. -/
def Budget.spend (b : Budget) (now : ℚ) : Budget :=
  { b with used := b.used + 1, updatedAt := now, pending := [] }

theorem Budget.Single.promote {b : Budget} (h : b.Single) (now : ℚ) :
    b.promote now = b ∧ (∀ r ∈ b.pending, now < r.expiresAt) ∨
      ∃ r, b.pending = [r] ∧ r.expiresAt ≤ now ∧ b.promote now = b.spend now := by
  unfold Budget.promote Budget.expired
  rcases h.cases with ⟨-, hp⟩ | ⟨r, -, hp⟩
  · simp [hp]
  · by_cases hdue : r.expiresAt ≤ now
    · exact .inr ⟨r, hp, hdue, by simp [hp, hdue, Budget.spend]⟩
    · exact .inl ⟨by simp [hp, hdue], by simpa [hp] using hdue⟩

theorem Budget.Single.spend (h : b.Single) {r : Reservation} (hp : b.pending = [r]) (now : ℚ) :
    (b.spend now).Single := by
  unfold Budget.Single at h ⊢
  rw [hp, List.length_singleton] at h
  exact h

theorem Budget.promote_keySha256 (b : Budget) (now : ℚ) :
    (b.promote now).keySha256 = b.keySha256 := by
  unfold Budget.promote
  split <;> rfl

/-! ## What an operation does to the entry of a key -/

/-- The time and the retention of an operation that maintains all budgets. -/
def Call.sweeps : Call → Option (ℚ × ℚ)
  | .reserveBudget call =>
    match call.now with
    | .seconds t => some (t, call.config.budgetRetentionSeconds)
    | _ => none
  | .consumeBudget call =>
    match call.now with
    | .seconds t => some (t, call.config.budgetRetentionSeconds)
    | _ => none
  | _ => none

/-- A reservation a ledger has handed out, or a use it has allowed. -/
structure Grant where
  key : String
  reservation : Option Reservation
  time : ℚ

def Grant.entry (g : Grant) : Budget where
  keySha256 := g.key
  used := if g.reservation.isSome then 0 else 1
  updatedAt := g.time
  pending := g.reservation.toList

section Effects

variable (S : Stdlib)

def Call.grant : Call → ℚ → Option Grant
  | .reserveBudget call, t => some ⟨call.keySha256, some (call.reservation S t), t⟩
  | .consumeBudget call, t => some ⟨call.keySha256, none, t⟩
  | _, _ => none

def Call.Releases (call : Call) (key : String) (r : Reservation) : Prop :=
  ∃ c t, call = .releaseBudget c ∧ c.lease.keySha256 = key ∧
    sha256Text S c.lease.token = r.tokenSha256 ∧ c.now = .seconds t ∧ t < r.expiresAt

/-- An entry without a reservation that is older than the retention of a sweep. -/
def Budget.Lapsed (b : Budget) (t retentionSeconds : ℚ) : Prop :=
  b.pending = [] ∧ b.updatedAt + retentionSeconds < t

/-- What one operation does to the entry of a key. -/
inductive Effect (key : String) (call : Call) : Option Budget → Option Budget → Prop where
  /-- Nothing. -/
  | kept (b : Option Budget) : Effect key call b b
  /-- Its reservation counts as used. -/
  | spent (b : Budget) (r : Reservation) (t : ℚ) (pending : b.pending = [r])
      (later : b.updatedAt ≤ t) : Effect key call (some b) (some (b.spend t))
  /-- It is dropped for its age. -/
  | dropped (b : Budget) (t retentionSeconds : ℚ)
      (sweep : call.sweeps = some (t, retentionSeconds)) (lapsed : b.Lapsed t retentionSeconds) :
      Effect key call (some b) none
  /-- Its reservation is given back. -/
  | released (b : Budget) (r : Reservation) (pending : b.pending = [r])
      (release : call.Releases S key r) : Effect key call (some b) none
  /-- The key had no entry, or an old one, and is granted. -/
  | granted (before : Option Budget) (g : Grant) (t retentionSeconds : ℚ)
      (sweep : call.sweeps = some (t, retentionSeconds)) (grant : call.grant S t = some g)
      (id : g.key = key) (free : ∀ b ∈ before, b.Lapsed t retentionSeconds) :
      Effect key call before (some g.entry)

variable {S}

variable {key : String} {call : Call}

theorem Effect.single {before after : Option Budget} (h : Effect S key call before after)
    (hbefore : ∀ b ∈ before, b.Single) : ∀ b ∈ after, b.Single := by
  intro b hb
  cases h with
  | kept => exact hbefore b hb
  | spent old r t hp => cases hb; exact (hbefore old rfl).spend hp t
  | dropped | released => cases hb
  | granted _ g =>
    cases hb
    unfold Budget.Single Grant.entry
    cases g.reservation <;> simp

theorem Budget.Single.maintain {b : Budget} (h : b.Single) (t : ℚ) {retentionSeconds : ℚ}
    (hret : 1 ≤ retentionSeconds) : b.maintain t retentionSeconds = some b ∨
      (∃ r, b.pending = [r] ∧ b.updatedAt ≤ t ∧
        b.maintain t retentionSeconds = some (b.spend t)) ∨
      b.Lapsed t retentionSeconds ∧ b.maintain t retentionSeconds = none := by
  unfold Budget.maintain
  by_cases hearly : t < b.updatedAt
  · exact .inl (if_pos hearly)
  · rw [if_neg hearly]
    dsimp only
    rcases h.promote t with ⟨hsame, -⟩ | ⟨r, hp, -, hspent⟩
    · rw [hsame]
      by_cases hold : b.pending = [] ∧ b.updatedAt < t - retentionSeconds
      · exact .inr (.inr ⟨⟨hold.1, by linarith [hold.2]⟩, if_pos hold⟩)
      · exact .inl (if_neg hold)
    · rw [hspent]
      have hfresh : ¬ ((b.spend t).pending = [] ∧
          (b.spend t).updatedAt < t - retentionSeconds) := by
        rintro ⟨-, hold⟩
        change t < t - retentionSeconds at hold
        linarith
      exact .inr (.inl ⟨r, hp, not_lt.mp hearly, if_neg hfresh⟩)

theorem keepsKeys_maintain (t retentionSeconds : ℚ) :
    Table.KeepsKeys Budget.keySha256 (Budget.maintain t retentionSeconds) := by
  intro b b' h
  unfold Budget.maintain at h
  split at h
  · cases h
    rfl
  · dsimp only at h
    split at h
    · cases h
    · cases h
      exact b.promote_keySha256 t

/-- What the operation makes of the budgets: keys stay unique, and every entry suffers one
of the effects. -/
def Explains (S : Stdlib) (call : Call) (s s' : LedgerState) : Prop :=
  Table.UniqueKeys Budget.keySha256 s'.budgets ∧
    ∀ key, Effect S key call (s.budget key) (s'.budget key)

variable {s : LedgerState}

theorem Explains.refl (h : s.Sound) : Explains S call s s := ⟨h.keys, fun _ => .kept _⟩

variable {t : ℚ}

theorem explains_maintain (h : s.Sound) {retentionSeconds : ℚ} (hret : 1 ≤ retentionSeconds)
    (hsweep : call.sweeps = some (t, retentionSeconds)) : Explains S call s
      { s with budgets := s.budgets.filterMap (Budget.maintain t retentionSeconds) } := by
  refine ⟨h.keys.filterMap (keepsKeys_maintain t retentionSeconds), fun key => ?_⟩
  change Effect S key call _ (Table.lookup Budget.keySha256 (s.budgets.filterMap _) key)
  rw [Table.lookup_filterMap h.keys (keepsKeys_maintain t retentionSeconds)]
  change Effect S key call (s.budget key) ((s.budget key).bind _)
  cases hb : s.budget key with
  | none => exact .kept _
  | some b =>
    rw [Option.bind_some]
    have hsingle := h.single b (Table.mem_of_lookup hb).1
    rcases hsingle.maintain t hret with hsame | ⟨r, hp, hlater, hspent⟩ | ⟨hlapsed, hnone⟩
    · rw [hsame]
      exact .kept _
    · rw [hspent]
      exact .spent b r t hp hlater
    · rw [hnone]
      exact .dropped b t retentionSeconds hsweep hlapsed

theorem free_of_maintain (h : s.Sound) {retentionSeconds : ℚ} (hret : 1 ≤ retentionSeconds)
    (hnone : Table.lookup Budget.keySha256
      (s.budgets.filterMap (Budget.maintain t retentionSeconds)) key = none) :
    ∀ b ∈ s.budget key, b.Lapsed t retentionSeconds := by
  intro b hb
  rw [Table.lookup_filterMap h.keys (keepsKeys_maintain t retentionSeconds)] at hnone
  change (s.budget key).bind _ = none at hnone
  rw [hb, Option.bind_some] at hnone
  rcases (h.single b (Table.mem_of_lookup hb).1).maintain t hret with
    hsame | ⟨r, -, -, hspent⟩ | ⟨hlapsed, -⟩
  · rw [hsame] at hnone
    cases hnone
  · rw [hspent] at hnone
    cases hnone
  · exact hlapsed

variable {g : Grant}

theorem explains_granted (h : s.Sound) {retentionSeconds : ℚ} (hret : 1 ≤ retentionSeconds)
    (hsweep : call.sweeps = some (t, retentionSeconds)) (hgrant : call.grant S t = some g)
    (hfree : Table.lookup Budget.keySha256
      (s.budgets.filterMap (Budget.maintain t retentionSeconds)) g.key = none)
    {budgets : List Budget} (hkeys : Table.UniqueKeys Budget.keySha256 budgets)
    (hfound : ∀ key, Table.lookup Budget.keySha256 budgets key =
      if g.key = key then some g.entry else Table.lookup Budget.keySha256
      (s.budgets.filterMap (Budget.maintain t retentionSeconds)) key) :
    Explains S call s { s with budgets := budgets } := by
  refine ⟨hkeys, fun key => ?_⟩
  change Effect S key call _ (Table.lookup Budget.keySha256 budgets key)
  rw [hfound]
  by_cases hkey : g.key = key
  · rw [if_pos hkey]
    exact .granted _ g t retentionSeconds hsweep hgrant hkey (hkey ▸ free_of_maintain h hret hfree)
  · rw [if_neg hkey]
    exact (explains_maintain h hret hsweep).2 key

/-! ### The operations -/

theorem limit_eq_one {limit : Int} (hvalid : 0 ≤ limit ∧ limit ≤ 1) (hzero : limit ≠ 0) :
    limit = 1 := by omega

theorem explained_of_body {α : Type} (call : Call) (h : s.Sound) (env : Surroundings)
    (label : String) (Answers : ℚ → α → LedgerState → Prop)
    {body : ℚ → Except LedgerError (α × LedgerState)}
    (hbody : ∀ t a s', env.now = .seconds t → body t = .ok (a, s') → Explains S call s s' ∧
      Answers t a s') : Explains S call s (lockedState env label s body).2 ∧
      ∀ a, (lockedState env label s body).1 = .ok a → ∃ t, env.now = .seconds t ∧
        Answers t a (lockedState env label s body).2 := by
  rcases lockedState_cases env label s body with
    ⟨hsame, e, herror⟩ | ⟨t, a, hnow, -, hok, hanswer⟩
  · rw [hsame, herror]
    exact ⟨.refl h, nofun⟩
  · obtain ⟨hexplained, hanswers⟩ := hbody t a _ hnow hok
    refine ⟨hexplained, fun a' ha' => ⟨t, hnow, ?_⟩⟩
    rcases hanswer with hsome | ⟨e, herror⟩
    · rw [hsome] at ha'
      rw [← Except.ok.inj ha']
      exact hanswers
    · rw [herror] at ha'
      cases ha'

theorem reserveBudget_explained (call : ReserveCall) (h : s.Sound) :
    Explains S (.reserveBudget call) s (reserveBudget S call s).2 ∧
      ∀ lease, (reserveBudget S call s).1 = .ok (some lease) → ∃ t,
        call.now = .seconds t ∧ lease = call.lease t ∧
        (reserveBudget S call s).2.budget call.keySha256 = some
          (Grant.entry ⟨call.keySha256, some (call.reservation S t), t⟩) ∧
        ∀ b ∈ s.budget call.keySha256, b.Lapsed t call.config.budgetRetentionSeconds := by
  unfold reserveBudget
  split
  · exact ⟨.refl h, fun _ h => by cases h⟩
  rename_i hhead
  simp only [bind_eq_ok, validateBudgetLimit, check_eq_ok] at hhead
  obtain ⟨-, -, hlimit⟩ := hhead
  split
  · exact ⟨.refl h, fun _ h => by cases h⟩
  rename_i hzero
  split
  · exact ⟨.refl h, fun _ h => by cases h⟩
  have hone := limit_eq_one hlimit hzero
  refine And.imp_right (fun hanswers lease hlease => ?_)
    (explained_of_body (S := S) (.reserveBudget call) h _ _
      (fun t a s' => ∀ lease, a = some lease → lease = call.lease t ∧
        s'.budget call.keySha256 = some
          (Grant.entry ⟨call.keySha256, some (call.reservation S t), t⟩) ∧
        ∀ b ∈ s.budget call.keySha256, b.Lapsed t call.config.budgetRetentionSeconds) ?_)
  · obtain ⟨t, hnow, hanswer⟩ := hanswers (some lease) hlease
    exact ⟨t, hnow, hanswer lease rfl⟩
  intro t a s' hnow hbody
  have hret := call.config.budgetRetention.1
  have hsweep : (Call.reserveBudget call).sweeps =
      some (t, call.config.budgetRetentionSeconds) := by
    simp only [Call.sweeps, hnow]
  simp only [maintainBudgets, bind_eq_ok, pure_eq_ok_iff] at hbody
  obtain ⟨_, ⟨_, -, rfl⟩, ⟨budgets, raw⟩, hopen, _, -, _, -, hbody⟩ := hbody
  unfold openBudget at hopen
  split at hopen
  · rename_i found hfound
    cases hopen
    have hmaintained := explains_maintain (S := S) h hret hsweep
    have hsingle : raw.Single := by
      have heffect := hmaintained.2 call.keySha256
      refine heffect.single (fun b hb => h.single b (Table.mem_of_lookup hb).1) raw ?_
      exact hfound
    have hfull : call.limit ≤ raw.used + raw.pending.length := by
      unfold Budget.Single at hsingle
      omega
    rw [if_pos hfull, pure_eq_ok_iff] at hbody
    cases hbody
    exact ⟨hmaintained, fun _ h => by cases h⟩
  · rename_i hfree
    obtain ⟨_, -, hopen⟩ := bind_eq_ok.mp hopen
    cases hopen
    have hempty : ¬ call.limit ≤ ((0 : Nat) : Int) + (([] : List Reservation).length : Nat) := by
      rw [hone]
      decide
    rw [if_neg hempty, pure_eq_ok_iff] at hbody
    cases hbody
    have hmissing : Table.lookup Budget.keySha256 (s.budgets.filterMap
        (Budget.maintain t call.config.budgetRetentionSeconds)) call.keySha256 = none := hfree
    have hkeys := (h.keys.filterMap (keepsKeys_maintain t
      call.config.budgetRetentionSeconds)).append_single (r := ⟨call.keySha256, 0, t, []⟩)
      hmissing
    have hfound : ∀ key, Table.lookup Budget.keySha256 (Table.put Budget.keySha256
        (s.budgets.filterMap (Budget.maintain t call.config.budgetRetentionSeconds) ++
          [⟨call.keySha256, 0, t, []⟩])
        (Grant.entry ⟨call.keySha256, some (call.reservation S t), t⟩)) key =
        if call.keySha256 = key then
          some (Grant.entry ⟨call.keySha256, some (call.reservation S t), t⟩)
        else Table.lookup Budget.keySha256 (s.budgets.filterMap
          (Budget.maintain t call.config.budgetRetentionSeconds)) key := by
      intro key
      rw [Table.lookup_put hkeys, Table.lookup_append_single]
      change (if call.keySha256 = key then _ else
        Option.or _ (if call.keySha256 = key then _ else none)) = _
      by_cases hkey : call.keySha256 = key
      · rw [if_pos hkey, if_pos hkey]
      · rw [if_neg hkey, if_neg hkey, if_neg hkey, Option.or_none]
    refine ⟨explains_granted h hret hsweep rfl hmissing (hkeys.put _) hfound, ?_⟩
    intro lease hlease
    refine ⟨(Option.some.inj hlease).symm, ?_, free_of_maintain h hret hmissing⟩
    exact (hfound _).trans (if_pos rfl)

theorem promote_maintained {b' : Budget} {retentionSeconds : ℚ}
    (h : b.maintain t retentionSeconds = some b') (hlater : b'.updatedAt ≤ t) :
    b'.promote t = b' := by
  unfold Budget.maintain at h
  split at h
  · rename_i hearly
    cases h
    exact absurd hlater (not_le.mpr hearly)
  · dsimp only at h
    split at h
    · cases h
    · cases h
      unfold Budget.promote
      by_cases hnone : b.expired t = []
      · rw [if_pos hnone, if_pos hnone]
      · rw [if_neg hnone]
        refine if_pos ?_
        simp [Budget.expired, List.filter_filter]

theorem consumeBudget_explained (call : ConsumeBudgetCall) (h : s.Sound) :
    Explains S (.consumeBudget call) s (consumeBudget call s).2 ∧
      ((consumeBudget call s).1 = .ok true → ∃ t, call.now = .seconds t ∧
        (consumeBudget call s).2.budget call.keySha256 =
          some (Grant.entry ⟨call.keySha256, none, t⟩) ∧
        ∀ b ∈ s.budget call.keySha256, b.Lapsed t call.config.budgetRetentionSeconds) := by
  unfold consumeBudget
  split
  · exact ⟨.refl h, fun h => by cases h⟩
  rename_i hhead
  simp only [bind_eq_ok, validateBudgetLimit, check_eq_ok] at hhead
  obtain ⟨-, -, hlimit⟩ := hhead
  split
  · exact ⟨.refl h, fun h => by cases h⟩
  rename_i hzero
  have hone := limit_eq_one hlimit hzero
  refine And.imp_right (fun hanswers hgranted => ?_)
    (explained_of_body (S := S) (.consumeBudget call) h _ _
      (fun t a s' => a = true → s'.budget call.keySha256 =
          some (Grant.entry ⟨call.keySha256, none, t⟩) ∧
        ∀ b ∈ s.budget call.keySha256, b.Lapsed t call.config.budgetRetentionSeconds) ?_)
  · obtain ⟨t, hnow, hanswer⟩ := hanswers true hgranted
    exact ⟨t, hnow, hanswer rfl⟩
  intro t a s' hnow hbody
  have hret := call.config.budgetRetention.1
  have hsweep : (Call.consumeBudget call).sweeps =
      some (t, call.config.budgetRetentionSeconds) := by
    simp only [Call.sweeps, hnow]
  have hmaintained := explains_maintain (S := S) h hret hsweep
  simp only [maintainBudgets, bind_eq_ok, pure_eq_ok_iff] at hbody
  obtain ⟨_, ⟨_, -, rfl⟩, ⟨budgets, used, pending⟩, hopen, hbody⟩ := hbody
  unfold consumableBudget at hopen
  split at hopen
  · rename_i hfree
    cases hopen
    have hempty : ¬ call.limit ≤ ((0 : Nat) : Int) + (([] : List Reservation).length : Nat) := by
      rw [hone]
      decide
    simp only [if_neg hempty, bind_eq_ok, pure_eq_ok_iff] at hbody
    obtain ⟨_, -, hbody⟩ := hbody
    cases hbody
    have hfound := Table.lookup_put hmaintained.1 (⟨call.keySha256, 0 + 1, t, []⟩ : Budget)
    refine ⟨explains_granted (g := ⟨call.keySha256, none, t⟩) h hret hsweep rfl hfree
      (hmaintained.1.put _) hfound, fun _ => ⟨?_, free_of_maintain h hret hfree⟩⟩
    exact (hfound _).trans (if_pos rfl)
  · rename_i raw hfound
    simp only [promoteExpiredPending, requireNonRegressingClock, bind_eq_ok, check_eq_ok,
      pure_eq_ok_iff] at hopen
    obtain ⟨_, -, _, hlater, _, ⟨_, -, _, -, rfl⟩, hopen⟩ := hopen
    cases hopen
    have hraw := hfound
    rw [Table.lookup_filterMap h.keys (keepsKeys_maintain _ _)] at hraw
    obtain ⟨b, hb, hkept⟩ := Option.bind_eq_some_iff.mp hraw
    have hsame := promote_maintained hkept hlater
    have hsingle : raw.Single := (hmaintained.2 call.keySha256).single
      (fun b hb => h.single b (Table.mem_of_lookup hb).1) raw hfound
    have hfull : call.limit ≤ ((raw.promote t).used : Int) +
        ((raw.promote t).pending.length : Nat) := by
      rw [hsame, hone]
      unfold Budget.Single at hsingle
      omega
    rw [if_pos hfull, pure_eq_ok_iff] at hbody
    cases hbody
    refine ⟨⟨hmaintained.1.put _, fun key => ?_⟩, fun h => by cases h⟩
    have heffect := hmaintained.2 key
    change Effect S key _ _ (Table.lookup Budget.keySha256 _ key)
    rw [Table.lookup_put hmaintained.1, hsame]
    by_cases hkey : raw.keySha256 = key
    · rw [if_pos hkey, ← hfound, ← (Table.mem_of_lookup hfound).2, hkey]
      exact heffect
    · rw [if_neg hkey]
      exact heffect

theorem leasedBudget_eq_ok {budgets : List Budget} {raw : Budget} {promoted : List String}
    (h : leasedBudget budgets key t = .ok (raw, promoted)) :
    ∃ b, Table.lookup Budget.keySha256 budgets key = some b ∧ b.updatedAt ≤ t ∧
      raw = b.promote t := by
  unfold leasedBudget at h
  split at h
  · cases h
  · rename_i b hb
    simp only [promoteExpiredPending, requireNonRegressingClock, bind_eq_ok, check_eq_ok,
      pure_eq_ok_iff] at h
    obtain ⟨_, -, _, hlater, _, -, _, -, h⟩ := h
    cases h
    exact ⟨b, hb, hlater, rfl⟩

theorem explains_put (h : s.Sound) {b' : Budget} (hkey : b'.keySha256 = b.keySha256)
    (hb : s.budget b.keySha256 = some b) (heffect : Effect S b.keySha256 call (some b) (some b')) :
    Explains S call s { s with budgets := Table.put Budget.keySha256 s.budgets b' } := by
  refine ⟨h.keys.put _, fun key => ?_⟩
  change Effect S key call _ (Table.lookup Budget.keySha256 _ key)
  rw [Table.lookup_put h.keys, hkey]
  by_cases hk : b.keySha256 = key
  · rw [if_pos hk, ← hk, hb]
    exact heffect
  · rw [if_neg hk]
    exact .kept _

theorem effect_promote (h : b.Single) (hlater : b.updatedAt ≤ t) (key : String) :
    Effect S key call (some b) (some (b.promote t)) := by
  rcases h.promote t with ⟨hsame, -⟩ | ⟨r, hp, -, hspent⟩
  · rw [hsame]
    exact .kept _
  · rw [hspent]
    exact .spent b r t hp hlater

theorem pending_of_promote (h : b.Single) {token : String}
    (hfound : Table.lookup Reservation.tokenSha256 (b.promote t).pending token ≠ none) :
    b.promote t = b ∧ ∃ r, b.used = 0 ∧ b.pending = [r] ∧ r.tokenSha256 = token ∧
      t < r.expiresAt := by
  rcases h.promote t with ⟨hsame, hfresh⟩ | ⟨r, -, -, hspent⟩
  · refine ⟨hsame, ?_⟩
    rw [hsame] at hfound
    rcases h.cases with ⟨-, hp⟩ | ⟨r, hused, hp⟩
    · rw [hp] at hfound
      exact absurd rfl hfound
    · rw [hp, Table.lookup_cons] at hfound
      by_cases htoken : r.tokenSha256 = token
      · exact ⟨r, hused, hp, htoken, hfresh r (by rw [hp]; exact List.mem_singleton.mpr rfl)⟩
      · rw [if_neg htoken] at hfound
        exact absurd rfl hfound
  · rw [hspent] at hfound
    exact absurd rfl hfound

theorem validateLease_eq_ok {lease : PremiumBudgetLease} {token : String}
    (h : validateLease S lease = .ok (key, token)) :
    key = lease.keySha256 ∧ token = sha256Text S lease.token := by
  simp only [validateLease, bind_eq_ok, pure_eq_ok_iff, Prod.mk.injEq] at h
  obtain ⟨_, -, _, -, _, -, _, -, _, -, rfl, rfl⟩ := h
  exact ⟨rfl, rfl⟩

theorem commitBudget_explained (call : LeaseCall) (h : s.Sound) :
    Explains S (.commitBudget call) s (commitBudget S call s).2 := by
  unfold commitBudget
  split
  · exact .refl h
  rename_i key token hlease
  refine (explained_of_body (S := S) (.commitBudget call) h _ _ (fun _ _ _ => True) ?_).1
  intro t a s' hnow hbody
  refine ⟨?_, trivial⟩
  simp only [bind_eq_ok] at hbody
  obtain ⟨⟨raw, promoted⟩, hleased, hbody⟩ := hbody
  obtain ⟨b, hb, hlater, rfl⟩ := leasedBudget_eq_ok hleased
  obtain ⟨hmem, rfl⟩ := Table.mem_of_lookup hb
  have hsingle := h.single b hmem
  by_cases hmissing : Table.lookup Reservation.tokenSha256 (b.promote t).pending token = none
  · simp only [hmissing, Option.isNone_none, if_true, pure_eq_ok_iff] at hbody
    cases hbody
    exact explains_put h (b.promote_keySha256 t) hb (effect_promote hsingle hlater _)
  · obtain ⟨hsame, r, hused, hp, htoken, -⟩ := pending_of_promote hsingle hmissing
    rw [← Option.isNone_iff_eq_none] at hmissing
    rw [if_neg hmissing, pure_eq_ok_iff] at hbody
    cases hbody
    have hspent : ({ b.promote t with
        used := (b.promote t).used + 1
        updatedAt := t
        pending := Table.delete Reservation.tokenSha256 (b.promote t).pending token } : Budget) =
        b.spend t := by
      rw [hsame, hp, Budget.spend]
      simp [Table.delete, htoken]
    rw [hspent]
    exact explains_put (b := b) h rfl hb (.spent b r t hp hlater)

theorem releaseBudget_explained (call : LeaseCall) (h : s.Sound) :
    Explains S (.releaseBudget call) s (releaseBudgetAfterPopenFailure S call s).2 := by
  unfold releaseBudgetAfterPopenFailure
  split
  · exact .refl h
  rename_i key token hlease
  obtain ⟨hkey, rfl⟩ := validateLease_eq_ok hlease
  refine (explained_of_body (S := S) (.releaseBudget call) h _ _ (fun _ _ _ => True) ?_).1
  intro t a s' hnow hbody
  refine ⟨?_, trivial⟩
  simp only [bind_eq_ok] at hbody
  obtain ⟨⟨raw, promoted⟩, hleased, hbody⟩ := hbody
  obtain ⟨b, hb, hlater, rfl⟩ := leasedBudget_eq_ok hleased
  obtain ⟨hmem, hid⟩ := Table.mem_of_lookup hb
  have hsingle := h.single b hmem
  by_cases hmissing : Table.lookup Reservation.tokenSha256 (b.promote t).pending
      (sha256Text S call.lease.token) = none
  · simp only [hmissing, Option.isNone_none, if_true, pure_eq_ok_iff] at hbody
    cases hbody
    subst hid
    exact explains_put h (b.promote_keySha256 t) hb (effect_promote hsingle hlater _)
  · obtain ⟨hsame, r, hused, hp, htoken, hearly⟩ := pending_of_promote hsingle hmissing
    rw [← Option.isNone_iff_eq_none] at hmissing
    rw [if_neg hmissing] at hbody
    have hempty : (b.promote t).used = 0 ∧ Table.delete Reservation.tokenSha256
        (b.promote t).pending (sha256Text S call.lease.token) = [] := by
      rw [hsame, hp]
      exact ⟨hused, by simp [Table.delete, htoken]⟩
    simp only [if_pos hempty, pure_eq_ok_iff] at hbody
    cases hbody
    refine ⟨h.keys.delete _, fun other => ?_⟩
    change Effect S other _ _ (Table.lookup Budget.keySha256 (Table.delete _ _ _) other)
    rw [Table.lookup_delete h.keys]
    by_cases hother : other = key
    · rw [if_pos hother, hother, show s.budget key = some b from hb]
      exact .released b r hp ⟨call, t, rfl, hkey.symm, htoken.symm, hnow, hearly⟩
    · rw [if_neg hother]
      exact .kept _

theorem confirmation_budgets (S : Stdlib) (s : LedgerState) :
    (∀ call, (issueConfirmation S call s).2.budgets = s.budgets) ∧
      ∀ call, (consumeConfirmation S call s).2.budgets = s.budgets := by
  constructor
  · intro call
    unfold issueConfirmation
    split
    · rfl
    · refine lockedState_keeps LedgerState.budgets fun t a s' hbody => ?_
      simp only [bind_eq_ok, pure_eq_ok_iff] at hbody
      obtain ⟨_, -, hbody⟩ := hbody
      cases hbody
      rfl
  · intro call
    unfold consumeConfirmation
    split
    · rfl
    · refine lockedState_keeps LedgerState.budgets fun t a s' hbody => ?_
      dsimp only at hbody
      split at hbody
      · cases hbody
      · simp only [bind_eq_ok, pure_eq_ok_iff] at hbody
        obtain ⟨_, -, _, -, _, -, _, -, _, -, hbody⟩ := hbody
        cases hbody
        rfl

theorem explained (S : Stdlib) (h : s.Sound) (call : Call) :
    Explains S call s ((ledger S).next s call) := by
  have hsame : ∀ s' : LedgerState, s'.budgets = s.budgets → Explains S call s s' := by
    intro s' hbudgets
    refine ⟨hbudgets ▸ h.keys, fun key => ?_⟩
    rw [LedgerState.budget, LedgerState.budget, hbudgets]
    exact .kept _
  cases call with
  | issueConfirmation call => exact hsame _ ((confirmation_budgets S s).1 call)
  | consumeConfirmation call => exact hsame _ ((confirmation_budgets S s).2 call)
  | reserveBudget call => exact (reserveBudget_explained call h).1
  | commitBudget call => exact commitBudget_explained call h
  | releaseBudget call => exact releaseBudget_explained call h
  | consumeBudget call => exact (consumeBudget_explained call h).1

theorem sound_stable (S : Stdlib) : (ledger S).Stable LedgerState.Sound := by
  intro s call h
  obtain ⟨hkeys, heffect⟩ := explained S h call
  refine ⟨hkeys, fun b hb => ?_⟩
  have hafter := Table.lookup_eq_some_of_mem hkeys hb
  exact (heffect b.keySha256).single (fun b hb => h.single b (Table.mem_of_lookup hb).1) b hafter

theorem sound_of_reachable (S : Stdlib) (h : (ledger S).Reachable s) : s.Sound :=
  (sound_stable S).reachable ⟨List.nodup_nil, nofun⟩ h

/-! ## Grants over whole runs -/

/-- The answer of an operation grants the budget of a key. -/
def Grants (S : Stdlib) (call : Call) (answer : Answer) (g : Grant) : Prop :=
  (∃ lease, answer = .reserved (.ok (some lease)) ∧
      g = ⟨lease.keySha256, some ⟨sha256Text S lease.token, lease.reservedAt, lease.expiresAt⟩,
        lease.reservedAt⟩) ∨
    ∃ c t, call = .consumeBudget c ∧ answer = .consumed (.ok true) ∧ c.now = .seconds t ∧
      g = ⟨c.keySha256, none, t⟩

/-- The entry of the key stands for this grant. -/
def Carries (g : Grant) (s : LedgerState) : Prop :=
  ∃ b, s.budget g.key = some b ∧ b.used + b.pending.length = 1 ∧ g.time ≤ b.updatedAt ∧
    ∀ r ∈ b.pending, g.reservation = some r

/-- The operation observes a time so late that it drops the entry of the key. -/
def Lapses (key : String) (s : LedgerState) (call : Call) : Prop :=
  ∃ b t retentionSeconds, s.budget key = some b ∧ call.sweeps = some (t, retentionSeconds) ∧
    b.updatedAt + retentionSeconds < t

/-- The operation gives the reservation of the grant back before it is due. -/
def Returns (S : Stdlib) (g : Grant) (call : Call) : Prop :=
  ∃ r, g.reservation = some r ∧ call.Releases S g.key r

theorem carries_of_grants (h : s.Sound) (hgrant : Grants S call ((ledger S).output s call) g) :
    Carries g ((ledger S).next s call) := by
  have hcarries : ∀ {reservation} {t : ℚ} {key : String} {s' : LedgerState},
      s'.budget key = some (Grant.entry ⟨key, reservation, t⟩) →
      Carries ⟨key, reservation, t⟩ s' := by
    intro reservation t key s' hentry
    refine ⟨_, hentry, ?_, le_refl _, ?_⟩
    · cases reservation <;> rfl
    · intro r hr
      exact Option.mem_toList.mp hr
  rcases hgrant with ⟨lease, hanswer, rfl⟩ | ⟨c, t, rfl, hanswer, hnow, rfl⟩
  · cases call with
    | reserveBudget c =>
      obtain ⟨-, hleases⟩ := reserveBudget_explained (S := S) c h
      obtain ⟨t, -, rfl, hentry, -⟩ := hleases lease (Answer.reserved.inj hanswer)
      exact hcarries hentry
    | _ => cases hanswer
  · obtain ⟨-, hconsumes⟩ := consumeBudget_explained (S := S) c h
    obtain ⟨t', hnow', hentry, -⟩ := hconsumes (Answer.consumed.inj hanswer)
    rw [hnow'] at hnow
    cases hnow
    exact hcarries hentry

theorem carries_next (h : s.Sound) (hcarries : Carries g s) (call : Call) :
    Carries g ((ledger S).next s call) ∨ Returns S g call ∨
      Lapses g.key s call := by
  obtain ⟨b, hb, hsingle, htime, hpending⟩ := hcarries
  have heffect := (explained S h call).2 g.key
  rw [hb] at heffect
  generalize hafter : ((ledger S).next s call).budget g.key = after at heffect
  cases heffect with
  | kept => exact .inl ⟨b, hafter, hsingle, htime, hpending⟩
  | spent _ r t hp hlater =>
    refine .inl ⟨b.spend t, hafter, ?_, htime.trans hlater, nofun⟩
    rw [hp, List.length_singleton] at hsingle
    exact hsingle
  | dropped _ t ret hsweep hlapsed => exact .inr (.inr ⟨b, t, ret, hb, hsweep, hlapsed.2⟩)
  | released _ r hp hrelease =>
    refine .inr (.inl ⟨r, hpending r ?_, hrelease⟩)
    rw [hp]
    exact List.mem_singleton.mpr rfl
  | granted _ g' t ret hsweep _ _ hfree =>
    exact .inr (.inr ⟨b, t, ret, hb, hsweep, (hfree b rfl).2⟩)

theorem lapses_of_grants (h : s.Sound) (hb : s.budget g.key = some b)
    (hgrant : Grants S call ((ledger S).output s call) g) : Lapses g.key s call := by
  rcases hgrant with ⟨lease, hanswer, rfl⟩ | ⟨c, t, rfl, hanswer, hnow, rfl⟩
  · cases call with
    | reserveBudget c =>
      obtain ⟨-, hleases⟩ := reserveBudget_explained (S := S) c h
      obtain ⟨t, hnow, rfl, -, hfree⟩ := hleases lease (Answer.reserved.inj hanswer)
      refine ⟨b, t, c.config.budgetRetentionSeconds, hb, ?_, (hfree b hb).2⟩
      simp only [Call.sweeps, hnow]
    | _ => cases hanswer
  · obtain ⟨-, hconsumes⟩ := consumeBudget_explained (S := S) c h
    obtain ⟨t', hnow', -, hfree⟩ := hconsumes (Answer.consumed.inj hanswer)
    refine ⟨b, t', c.config.budgetRetentionSeconds, hb, ?_, (hfree b hb).2⟩
    simp only [Call.sweeps, hnow']

theorem carries_until (hs : (ledger S).Reachable s) (hcarries : Carries g s) (calls : List Call) :
    Carries g ((ledger S).exec s calls) ∨ ∃ before call after, calls = before ++ call :: after ∧
      Carries g ((ledger S).exec s before) ∧
      (Returns S g call ∨ Lapses g.key ((ledger S).exec s before) call) :=
  Machine.exec_until (sound_stable S) (fun _ call h hc => carries_next h hc call)
    (sound_of_reachable S hs) hcarries calls

end Effects

end LocalMoe.Bridge
