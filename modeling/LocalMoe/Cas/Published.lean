/-
  `put_bytes` and `get_bytes`, step by step, on one directory.
-/
import LocalMoe.Foundation.Machine

namespace LocalMoe.Cas.Published

open Foundation

/-! ## The directory -/

/-- A file, as `fstat` and `read` show it. -/
structure Inode where
  content : List UInt8
  modified : Nat
  links : Nat
  changed : Nat
  deriving DecidableEq, Repr

/-- `os.stat_result`, as far as calls can change it. -/
structure Stat where
  ino : Nat
  size : Nat
  modified : Nat
  links : Nat
  changed : Nat
  deriving DecidableEq, Repr

/-- A call of the store. -/
inductive Request (δ : Type) where
  | put (value : List UInt8)
  | get (sha256 : δ) (sizeBytes : Nat)
  deriving DecidableEq, Repr

/-- Where a call is.  A reader is `published` when it verifies what it has written itself. -/
inductive Phase where
  | start
  | creating (value : List UInt8)
  | writing (ino : Nat) (rest : List UInt8)
  | linking (ino : Nat)
  | unlinking
  | cleaning
  | looking (published : Bool)
  | opening (published : Bool) (before : Nat)
  | reading (published : Bool) (opened : Stat) (taken : List UInt8)
  | closing (published : Bool) (opened : Stat) (taken : List UInt8)
  | returned (value : List UInt8)
  | failed (message : String)
  deriving DecidableEq, Repr

/-- The names and inodes, and the calls by number; a temporary name belongs to its call. -/
structure State (δ : Type) where
  inode : Nat → Inode
  count : Nat
  object : δ → Option Nat
  temporary : Nat → Option Nat
  phase : Nat → Phase

/-- A call takes a step at a time, and transfers at most so many bytes and one. -/
structure Input where
  call : Nat
  chunk : Nat
  time : Nat

variable {δ : Type}

/-- The call goes to a phase. -/
def State.enter (s : State δ) (c : Nat) (phase : Phase) : State δ :=
  { s with phase := Function.update s.phase c phase }

def State.touch (s : State δ) (ino : Nat) (f : Inode → Inode) : State δ :=
  { s with inode := Function.update s.inode ino (f (s.inode ino)) }

/-- `unlink` of the temporary name of a call. -/
def State.unlink (s : State δ) (c ino time : Nat) : State δ :=
  { s.touch ino fun node => { node with links := node.links - 1, changed := time } with
    temporary := Function.update s.temporary c none }

/-- `stat` of an inode. -/
def State.stat (s : State δ) (ino : Nat) : Stat where
  ino := ino
  size := (s.inode ino).content.length
  modified := (s.inode ino).modified
  links := (s.inode ino).links
  changed := (s.inode ino).changed

def artifactChangedDuringRead (opened after : Stat) : Bool :=
  if opened.ino = after.ino ∧ opened.size = after.size ∧ opened.modified = after.modified then
    if opened.links = after.links ∧ opened.changed = after.changed then false
    else if opened.links = 2 ∧ after.links = 1 then false
    else true
  else true

variable (digest : List UInt8 → δ)

def Request.sha256 : Request δ → δ
  | .put value => digest value
  | .get sha256 _ => sha256

def Request.sizeBytes : Request δ → Nat
  | .put value => value.length
  | .get _ sizeBytes => sizeBytes

/-- What a call makes of the bytes that `get_bytes` returned. -/
def Request.finish (published : Bool) (value : List UInt8) : Request δ → Phase
  | .get _ _ => .returned value
  | .put expected =>
    if value = expected then .returned value
    else if published then .failed "CAS object failed post-write verification."
    else .failed "Existing CAS object does not match its digest."

/-- One step of a call; `1048576` is the size of a chunk that is read. -/
def advance [DecidableEq δ] (ops : Nat → Request δ) (s : State δ) (i : Input) : State δ :=
  let sha := (ops i.call).sha256 digest
  match s.phase i.call with
  | .start =>
    match ops i.call with
    | .get _ _ => s.enter i.call (.looking false)
    | .put value =>
      if (s.object sha).isSome then s.enter i.call (.looking false)
      else s.enter i.call (.creating value)
  | .creating value =>
    { s with
      inode := Function.update s.inode s.count ⟨[], i.time, 1, i.time⟩
      count := s.count + 1
      temporary := Function.update s.temporary i.call (some s.count) }.enter i.call
        (.writing s.count value)
  | .writing ino [] => s.enter i.call (.linking ino)
  | .writing ino (byte :: rest) =>
    (s.touch ino fun node => { node with
      content := node.content ++ (byte :: rest).take (i.chunk + 1)
      modified := i.time
      changed := i.time }).enter i.call (.writing ino ((byte :: rest).drop (i.chunk + 1)))
  | .linking ino =>
    match s.object sha with
    | some _ => s.enter i.call .cleaning
    | none =>
      { s.touch ino fun node => { node with links := node.links + 1, changed := i.time } with
        object := Function.update s.object sha (some ino) }.enter i.call .unlinking
  | .unlinking =>
    match s.temporary i.call with
    | some ino => (s.unlink i.call ino i.time).enter i.call .cleaning
    | none => s.enter i.call (.failed "CAS object could not be persisted.")
  | .cleaning =>
    match s.temporary i.call with
    | some ino => (s.unlink i.call ino i.time).enter i.call (.looking true)
    | none => s.enter i.call (.looking true)
  | .looking published =>
    match s.object sha with
    | none => s.enter i.call (.failed "CAS artifact is unavailable.")
    | some ino =>
      if (s.stat ino).size = (ops i.call).sizeBytes then s.enter i.call (.opening published ino)
      else s.enter i.call (.failed "CAS artifact size binding failed.")
  | .opening published before =>
    match s.object sha with
    | none => s.enter i.call (.failed "CAS artifact could not be read safely.")
    | some ino =>
      if ino = before then s.enter i.call (.reading published (s.stat ino) [])
      else s.enter i.call (.failed "CAS artifact identity changed.")
  | .reading published opened taken =>
    let unread := (s.inode opened.ino).content.drop taken.length
    let remaining := (ops i.call).sizeBytes - taken.length
    if remaining = 0 then
      if unread = [] then s.enter i.call (.closing published opened taken)
      else s.enter i.call (.failed "CAS artifact exceeds its size binding.")
    else if unread = [] then s.enter i.call (.failed "CAS artifact is truncated.")
    else s.enter i.call (.reading published opened
      (taken ++ unread.take (min (i.chunk + 1) (min 1048576 remaining))))
  | .closing published opened taken =>
    if artifactChangedDuringRead opened (s.stat opened.ino) then
      s.enter i.call (.failed "CAS artifact changed while read.")
    else if digest taken ≠ sha then
      s.enter i.call (.failed "CAS artifact digest binding failed.")
    else s.enter i.call ((ops i.call).finish published taken)
  | .returned _ | .failed _ => s

/-- The calls on an empty directory, one step after another. -/
def directory [DecidableEq δ] (ops : Nat → Request δ) : Machine (State δ) Input Unit where
  init := ⟨fun _ => ⟨[], 0, 0, 0⟩, 0, fun _ => none, fun _ => none, fun _ => .start⟩
  step s i := ((), advance digest ops s i)

/-! ## What every step keeps -/

/-- The file has no name but a temporary one. -/
def State.Private (s : State δ) (ino : Nat) : Prop := ino < s.count ∧ ∀ d, s.object d ≠ some ino

/-- The object name leads to a file with the value. -/
def State.Denotes (s : State δ) (d : δ) (value : List UInt8) : Prop :=
  ∃ ino, s.object d = some ino ∧ (s.inode ino).content = value

/-- At most the second link of the file has gone. -/
def Settled (before after : Inode) : Prop :=
  after.content = before.content ∧ after.modified = before.modified ∧
    (after.links = before.links ∧ after.changed = before.changed ∨
      before.links = 2 ∧ after.links = 1)

/-- What a reader has seen of the object file still holds of it. -/
structure State.Reads (s : State δ) (d : δ) (size : Nat) (opened : Stat) (taken : List UInt8) :
    Prop where
  object : s.object d = some opened.ino
  length : (s.inode opened.ino).content.length = size
  stable : opened.size = size ∧ opened.modified = (s.inode opened.ino).modified
  links : opened.links = (s.inode opened.ino).links ∧
      opened.changed = (s.inode opened.ino).changed ∨
    opened.links = 2 ∧ (s.inode opened.ino).links = 1
  taken_prefix : taken <+: (s.inode opened.ino).content

variable (ops : Nat → Request δ)

/-- What holds of a call in a phase. -/
def State.At (s : State δ) (c : Nat) : Phase → Prop
  | .start => s.temporary c = none
  | .creating value => s.temporary c = none ∧ ops c = .put value
  | .writing ino rest => s.temporary c = some ino ∧ s.Private ino ∧ (s.inode ino).links = 1 ∧
      ops c = .put ((s.inode ino).content ++ rest)
  | .linking ino => s.temporary c = some ino ∧ s.Private ino ∧ (s.inode ino).links = 1 ∧
      ops c = .put (s.inode ino).content
  | .unlinking => ∃ ino, s.temporary c = some ino ∧ (s.inode ino).links = 2 ∧
      s.object ((ops c).sha256 digest) = some ino
  | .cleaning => s.object ((ops c).sha256 digest) ≠ none ∧
      ∀ ino, s.temporary c = some ino → s.Private ino
  | .looking _ => s.temporary c = none ∧
      ∀ value, ops c = .put value → s.object (digest value) ≠ none
  | .opening _ before => s.temporary c = none ∧ s.object ((ops c).sha256 digest) = some before ∧
      (s.inode before).content.length = (ops c).sizeBytes
  | .reading _ opened taken => s.temporary c = none ∧
      s.Reads ((ops c).sha256 digest) (ops c).sizeBytes opened taken
  | .closing _ opened taken => s.temporary c = none ∧
      s.Reads ((ops c).sha256 digest) (ops c).sizeBytes opened taken ∧
      taken = (s.inode opened.ino).content
  | .returned value => s.temporary c = none ∧ s.Denotes ((ops c).sha256 digest) value ∧
      ∀ expected, ops c = .put expected → value = expected
  | .failed _ => s.temporary c = none ∧ ∀ value, ops c = .put value →
      ∃ other, s.Denotes (digest value) other ∧ other ≠ value

/-- What holds of a call where it is. -/
def State.CallKept (s : State δ) (c : Nat) : Prop := s.At digest ops c (s.phase c)

/-- The invariant of the directory. -/
structure Kept (s : State δ) : Prop where
  call : ∀ c, s.CallKept digest ops c
  owner : ∀ c c' ino, s.temporary c = some ino → s.temporary c' = some ino → c = c'
  bound : ∀ c ino, s.temporary c = some ino → ino < s.count
  object : ∀ d ino, s.object d = some ino → ino < s.count ∧
    digest (s.inode ino).content = d ∧ ∃ c, ops c = .put (s.inode ino).content

/-- What a step of the call `c` leaves of everything else. -/
structure Frame (c : Nat) (s t : State δ) : Prop where
  phase : ∀ c', c' ≠ c → t.phase c' = s.phase c'
  temporary : ∀ c', c' ≠ c → t.temporary c' = s.temporary c'
  count : s.count ≤ t.count
  kept : ∀ d ino, s.object d = some ino →
    t.object d = some ino ∧ Settled (s.inode ino) (t.inode ino)
  new : ∀ d ino, t.object d = some ino → s.object d = some ino ∨
    s.temporary c = some ino ∧ digest (t.inode ino).content = d ∧ ops c = .put (t.inode ino).content
  other : ∀ ino, ino < s.count → s.temporary c ≠ some ino → t.inode ino = s.inode ino
  own : ∀ ino, t.temporary c = some ino →
    s.temporary c = some ino ∨ ino = s.count ∧ s.count < t.count

section Frame

variable {digest ops} {s t : State δ} {c c' : Nat}

theorem Settled.refl (node : Inode) : Settled node node := ⟨rfl, rfl, .inl ⟨rfl, rfl⟩⟩

theorem Frame.denotes (h : Frame digest ops c s t) {d : δ} {value : List UInt8}
    (hs : s.Denotes d value) : t.Denotes d value := by
  obtain ⟨ino, hobject, hcontent⟩ := hs
  obtain ⟨hkept, hsettled, -⟩ := h.kept d ino hobject
  exact ⟨ino, hkept, hsettled.trans hcontent⟩

theorem Frame.object_ne (h : Frame digest ops c s t) {d : δ} (hs : s.object d ≠ none) :
    t.object d ≠ none := by
  obtain ⟨ino, hobject⟩ := Option.ne_none_iff_exists'.mp hs
  rw [(h.kept d ino hobject).1]
  exact Option.some_ne_none ino

theorem Frame.reads (h : Frame digest ops c s t) {d : δ} {size : Nat} {opened : Stat}
    {taken : List UInt8} (hs : s.Reads d size opened taken) : t.Reads d size opened taken := by
  obtain ⟨hobject, hcontent, hmodified, hlinks⟩ := h.kept d opened.ino hs.object
  refine ⟨hobject, hcontent ▸ hs.length, hmodified ▸ hs.stable, ?_, hcontent ▸ hs.taken_prefix⟩
  rcases hs.links with ⟨h1, h2⟩ | ⟨h1, h2⟩ <;> rcases hlinks with ⟨h3, h4⟩ | ⟨h3, h4⟩
  · exact .inl ⟨h1.trans h3.symm, h2.trans h4.symm⟩
  · exact .inr ⟨h1.trans h3, h4⟩
  · exact .inr ⟨h1, h3.trans h2⟩
  · omega

theorem Frame.private (h : Frame digest ops c s t) (hs : Kept digest ops s) (hc : c' ≠ c)
    {ino : Nat} (htemporary : s.temporary c' = some ino) :
    t.inode ino = s.inode ino ∧ (s.Private ino → t.Private ino) := by
  have hother : s.temporary c ≠ some ino := fun hsame => hc (hs.owner _ _ _ htemporary hsame)
  refine ⟨h.other ino (hs.bound _ _ htemporary) hother, fun hprivate => ?_⟩
  refine ⟨Nat.lt_of_lt_of_le hprivate.1 h.count, fun d hobject => ?_⟩
  rcases h.new d ino hobject with hold | ⟨hsame, -⟩
  · exact hprivate.2 d hold
  · exact hother hsame

theorem Frame.callKept (h : Frame digest ops c s t) (hs : Kept digest ops s) (hc : c' ≠ c) :
    t.CallKept digest ops c' := by
  have hcall := hs.call c'
  have htemp := h.temporary c' hc
  unfold State.CallKept at hcall ⊢
  rw [h.phase c' hc]
  generalize s.phase c' = phase at hcall ⊢
  cases phase with
  | start => exact htemp.trans hcall
  | creating value => exact ⟨htemp.trans hcall.1, hcall.2⟩
  | writing ino rest | linking ino =>
    obtain ⟨hown, hprivate, hlinks, hput⟩ := hcall
    obtain ⟨hsame, hkeeps⟩ := h.private hs hc hown
    exact ⟨htemp.trans hown, hkeeps hprivate, hsame ▸ hlinks, hsame ▸ hput⟩
  | unlinking =>
    obtain ⟨ino, hown, hlinks, hobject⟩ := hcall
    obtain ⟨hsame, -⟩ := h.private hs hc hown
    exact ⟨ino, htemp.trans hown, hsame ▸ hlinks, (h.kept _ _ hobject).1⟩
  | cleaning =>
    refine ⟨h.object_ne hcall.1, fun ino hown => ?_⟩
    rw [htemp] at hown
    exact (h.private hs hc hown).2 (hcall.2 ino hown)
  | looking published =>
    exact ⟨htemp.trans hcall.1, fun value hput => h.object_ne (hcall.2 value hput)⟩
  | opening published before =>
    obtain ⟨hnone, hobject, hsize⟩ := hcall
    obtain ⟨hkept, hcontent, -⟩ := h.kept _ _ hobject
    exact ⟨htemp.trans hnone, hkept, hcontent ▸ hsize⟩
  | reading published opened taken => exact ⟨htemp.trans hcall.1, h.reads hcall.2⟩
  | closing published opened taken =>
    obtain ⟨hnone, hreads, htaken⟩ := hcall
    exact ⟨htemp.trans hnone, h.reads hreads, htaken.trans (h.kept _ _ hreads.object).2.1.symm⟩
  | returned value => exact ⟨htemp.trans hcall.1, h.denotes hcall.2.1, hcall.2.2⟩
  | failed message =>
    refine ⟨htemp.trans hcall.1, fun value hput => ?_⟩
    obtain ⟨other, hdenotes, hne⟩ := hcall.2 value hput
    exact ⟨other, h.denotes hdenotes, hne⟩

theorem Frame.keeps (h : Frame digest ops c s t) (hs : Kept digest ops s)
    (hcall : t.CallKept digest ops c) (hcount : ∀ ino, t.temporary c = some ino → ino < t.count) :
    Kept digest ops t where
  call := fun c' => by
    by_cases hc : c' = c
    · exact hc ▸ hcall
    · exact h.callKept hs hc
  owner := fun c₁ c₂ ino h₁ h₂ => by
    have hown (c' : Nat) (hc : c' ≠ c) (hc' : t.temporary c' = some ino)
        (hmine : t.temporary c = some ino) : False := by
      rw [h.temporary c' hc] at hc'
      rcases h.own ino hmine with hold | ⟨rfl, -⟩
      · exact hc (hs.owner _ _ _ hc' hold)
      · exact Nat.lt_irrefl _ (hs.bound _ _ hc')
    by_cases hc₁ : c₁ = c <;> by_cases hc₂ : c₂ = c
    · exact hc₁.trans hc₂.symm
    · exact (hown c₂ hc₂ h₂ (hc₁ ▸ h₁)).elim
    · exact (hown c₁ hc₁ h₁ (hc₂ ▸ h₂)).elim
    · rw [h.temporary c₁ hc₁] at h₁
      rw [h.temporary c₂ hc₂] at h₂
      exact hs.owner _ _ _ h₁ h₂
  bound := fun c' ino hc' => by
    by_cases hc : c' = c
    · exact hcount ino (hc ▸ hc')
    · rw [h.temporary c' hc] at hc'
      exact Nat.lt_of_lt_of_le (hs.bound _ _ hc') h.count
  object := fun d ino hobject => by
    rcases h.new d ino hobject with hold | ⟨hown, hdigest, hput⟩
    · obtain ⟨hlt, hdigest, c', hput⟩ := hs.object d ino hold
      rw [(h.kept d ino hold).2.1]
      exact ⟨Nat.lt_of_lt_of_le hlt h.count, hdigest, c', hput⟩
    · exact ⟨Nat.lt_of_lt_of_le (hs.bound _ _ hown) h.count, hdigest, c, hput⟩

end Frame

/-! ## The steps -/

section Steps

variable {digest : List UInt8 → δ} {ops : Nat → Request δ} {s : State δ} {c ino : Nat}
  {phase : Phase}

theorem enter_reads {d : δ} {size : Nat} {opened : Stat} {taken : List UInt8} :
    (s.enter c phase).Reads d size opened taken ↔ s.Reads d size opened taken :=
  ⟨fun h => ⟨h.1, h.2, h.3, h.4, h.5⟩, fun h => ⟨h.1, h.2, h.3, h.4, h.5⟩⟩

@[simp] theorem enter_callKept :
    (s.enter c phase).CallKept digest ops c ↔ s.At digest ops c phase := by
  have h : (s.enter c phase).phase c = phase := Function.update_self _ _ _
  unfold State.CallKept
  rw [h]
  cases phase <;> simp only [State.At, enter_reads] <;> exact Iff.rfl

theorem enter_phase_of_ne {c' : Nat} (h : c' ≠ c) : (s.enter c phase).phase c' = s.phase c' :=
  Function.update_of_ne h _ _

@[simp] theorem unlink_temporary {time : Nat} : (s.unlink c ino time).temporary c = none :=
  Function.update_self _ _ _

theorem frame_enter : Frame digest ops c s (s.enter c phase) where
  phase := fun _ hc => enter_phase_of_ne hc
  temporary := fun _ _ => rfl
  count := Nat.le_refl _
  kept := fun _ _ hobject => ⟨hobject, .refl _⟩
  new := fun _ _ hobject => .inl hobject
  other := fun _ _ _ => rfl
  own := fun _ hown => .inl hown

theorem keeps_enter (hs : Kept digest ops s) (hphase : s.At digest ops c phase) :
    Kept digest ops (s.enter c phase) ∧ Frame digest ops c s (s.enter c phase) :=
  ⟨frame_enter.keeps hs (enter_callKept.mpr hphase) fun _ hown => hs.bound _ _ hown, frame_enter⟩

theorem keeps_touch (hs : Kept digest ops s) (hown : s.temporary c = some ino)
    (hprivate : s.Private ino) {f : Inode → Inode}
    (hphase : (s.touch ino f).At digest ops c phase) :
    Kept digest ops ((s.touch ino f).enter c phase) ∧
      Frame digest ops c s ((s.touch ino f).enter c phase) := by
  have hframe : Frame digest ops c s ((s.touch ino f).enter c phase) := by
    refine ⟨fun _ hc => enter_phase_of_ne hc, fun _ _ => rfl, Nat.le_refl _, fun d i hobject => ?_,
      fun _ _ hobject => .inl hobject, fun i _ hi => ?_, fun _ hown => .inl hown⟩
    · have hne : i ≠ ino := fun heq => hprivate.2 d (heq ▸ hobject)
      refine ⟨hobject, ?_⟩
      change Settled _ (Function.update s.inode ino _ i)
      rw [Function.update_of_ne hne]
      exact .refl _
    · exact Function.update_of_ne (fun heq : i = ino => hi (heq ▸ hown)) _ _
  exact ⟨hframe.keeps hs (enter_callKept.mpr hphase) fun _ h => hs.bound _ _ h, hframe⟩

theorem keeps_unlink (hs : Kept digest ops s) (hown : s.temporary c = some ino) (time : Nat)
    (hlinks : ∀ d, s.object d = some ino → (s.inode ino).links = 2)
    (hphase : (s.unlink c ino time).At digest ops c phase) :
    Kept digest ops ((s.unlink c ino time).enter c phase) ∧
      Frame digest ops c s ((s.unlink c ino time).enter c phase) := by
  have hgone : ((s.unlink c ino time).enter c phase).temporary c = none :=
    Function.update_self _ _ _
  have hframe : Frame digest ops c s ((s.unlink c ino time).enter c phase) := by
    refine ⟨fun _ hc => enter_phase_of_ne hc, fun _ hc => Function.update_of_ne hc _ _,
      Nat.le_refl _, fun d i hobject => ⟨hobject, ?_⟩, fun _ _ hobject => .inl hobject,
      fun i _ hi => ?_, fun _ h => ?_⟩
    · change Settled _ (Function.update s.inode ino _ i)
      by_cases hi : i = ino
      · subst hi
        rw [Function.update_self]
        exact ⟨rfl, rfl, .inr ⟨hlinks d hobject, congrArg (· - 1) (hlinks d hobject)⟩⟩
      · rw [Function.update_of_ne hi]
        exact .refl _
    · exact Function.update_of_ne (fun heq : i = ino => hi (heq ▸ hown)) _ _
    · rw [hgone] at h
      cases h
  refine ⟨hframe.keeps hs (enter_callKept.mpr hphase) fun _ h => ?_, hframe⟩
  rw [hgone] at h
  cases h

theorem keeps_creating (hs : Kept digest ops s) {value : List UInt8} (time : Nat)
    (hput : ops c = .put value) :
    let t : State δ := { s with
      inode := Function.update s.inode s.count ⟨[], time, 1, time⟩
      count := s.count + 1
      temporary := Function.update s.temporary c (some s.count) }.enter c (.writing s.count value)
    Kept digest ops t ∧ Frame digest ops c s t := by
  intro t
  have hfresh : t.temporary c = some s.count := Function.update_self _ _ _
  have hinode : t.inode s.count = ⟨[], time, 1, time⟩ := Function.update_self _ _ _
  have hold {i : Nat} (hi : i < s.count) : t.inode i = s.inode i :=
    Function.update_of_ne (Nat.ne_of_lt hi) _ _
  have hframe : Frame digest ops c s t := by
    refine ⟨fun _ hc => enter_phase_of_ne hc, fun _ hc => Function.update_of_ne hc _ _,
      Nat.le_succ _, fun d i hobject => ⟨hobject, ?_⟩, fun _ _ hobject => .inl hobject,
      fun i hi _ => hold hi, fun i h => ?_⟩
    · rw [hold (hs.object d i hobject).1]
      exact .refl _
    · rw [hfresh] at h
      cases h
      exact .inr ⟨rfl, Nat.lt_succ_self _⟩
  refine ⟨hframe.keeps hs (enter_callKept.mpr ⟨hfresh, ⟨Nat.lt_succ_self _, fun d h => ?_⟩, ?_, ?_⟩)
    fun i h => ?_, hframe⟩
  · exact Nat.lt_irrefl _ (hs.object d _ h).1
  · exact congrArg Inode.links hinode
  · change ops c = .put ((t.inode s.count).content ++ value)
    rw [hinode]
    exact hput
  · rw [hfresh] at h
    cases h
    exact Nat.lt_succ_self _

theorem keeps_linking [DecidableEq δ] (hs : Kept digest ops s) (time : Nat)
    (hown : s.temporary c = some ino) (hprivate : s.Private ino) (hlinks : (s.inode ino).links = 1)
    (hput : ops c = .put (s.inode ino).content)
    (hfree : s.object ((ops c).sha256 digest) = none) :
    let t : State δ := { s.touch ino fun node => { node with
        links := node.links + 1, changed := time } with
      object := Function.update s.object ((ops c).sha256 digest) (some ino) }.enter c .unlinking
    Kept digest ops t ∧ Frame digest ops c s t := by
  intro t
  have hinode : t.inode ino =
      { s.inode ino with links := (s.inode ino).links + 1, changed := time } :=
    Function.update_self _ _ _
  have hobject : t.object ((ops c).sha256 digest) = some ino := Function.update_self _ _ _
  have hframe : Frame digest ops c s t := by
    refine ⟨fun _ hc => enter_phase_of_ne hc, fun _ _ => rfl, Nat.le_refl _, fun d i hd => ?_,
      fun d i hd => ?_, fun i _ hi => ?_, fun _ h => .inl h⟩
    · have hdne : d ≠ (ops c).sha256 digest := fun heq => by rw [heq, hfree] at hd; cases hd
      have hine : i ≠ ino := fun heq => hprivate.2 d (heq ▸ hd)
      refine ⟨(Function.update_of_ne hdne _ _).trans hd, ?_⟩
      change Settled _ (Function.update s.inode ino _ i)
      rw [Function.update_of_ne hine]
      exact .refl _
    · by_cases hdeq : d = (ops c).sha256 digest
      · subst hdeq
        rw [hobject] at hd
        cases hd
        rw [hinode]
        refine .inr ⟨hown, ?_, hput⟩
        rw [hput]
        rfl
      · exact .inl ((Function.update_of_ne hdeq _ _).symm.trans hd)
    · exact Function.update_of_ne (fun heq : i = ino => hi (heq ▸ hown)) _ _
  refine ⟨hframe.keeps hs (enter_callKept.mpr ⟨ino, hown, ?_, hobject⟩) fun _ h => hs.bound _ _ h,
    hframe⟩
  exact (congrArg Inode.links hinode).trans (congrArg (· + 1) hlinks)

/-! ## Reading -/

section Reading

variable {d : δ} {size : Nat} {opened : Stat} {taken : List UInt8}

theorem unchanged (h : s.Reads d size opened taken) :
    artifactChangedDuringRead opened (s.stat opened.ino) = false := by
  have hstable : opened.ino = (s.stat opened.ino).ino ∧ opened.size = (s.stat opened.ino).size ∧
      opened.modified = (s.stat opened.ino).modified :=
    ⟨rfl, h.stable.1.trans h.length.symm, h.stable.2⟩
  rw [artifactChangedDuringRead, if_pos hstable]
  rcases h.links with hsame | hgone
  · exact if_pos hsame
  · split
    · rfl
    · exact if_pos hgone

theorem State.Reads.more (h : s.Reads d size opened taken) (n : Nat) :
    s.Reads d size opened (taken ++ ((s.inode opened.ino).content.drop taken.length).take n) := by
  refine ⟨h.object, h.length, h.stable, h.links, ?_⟩
  have hprefix := List.prefix_iff_eq_take.mp h.taken_prefix
  have hmore : (s.inode opened.ino).content.take (taken.length + n) =
      taken ++ ((s.inode opened.ino).content.drop taken.length).take n := by
    rw [List.take_add, ← hprefix]
  exact hmore ▸ List.take_prefix _ _

theorem State.Reads.unread_eq_nil_iff (h : s.Reads d size opened taken) :
    (s.inode opened.ino).content.drop taken.length = [] ↔ size - taken.length = 0 := by
  rw [List.drop_eq_nil_iff, h.length, Nat.sub_eq_zero_iff_le]

end Reading

variable [DecidableEq δ]

theorem keeps_advance (hs : Kept digest ops s) (i : Input) :
    Kept digest ops (advance digest ops s i) ∧
      Frame digest ops i.call s (advance digest ops s i) := by
  have hcall := hs.call i.call
  unfold State.CallKept at hcall
  unfold advance
  cases hphase : s.phase i.call with
  | start =>
    rw [hphase] at hcall
    dsimp only
    cases hop : ops i.call with
    | get sha size => exact keeps_enter hs ⟨hcall, fun _ hput => by cases hop.symm.trans hput⟩
    | put value =>
      dsimp only
      split
      · next hsome =>
        refine keeps_enter hs ⟨hcall, fun value' hput hnone => ?_⟩
        cases hop.symm.trans hput
        change (s.object (digest value)).isSome = true at hsome
        rw [hnone] at hsome
        cases hsome
      · exact keeps_enter hs ⟨hcall, hop⟩
  | creating value =>
    rw [hphase] at hcall
    exact keeps_creating hs i.time hcall.2
  | writing ino rest =>
    rw [hphase] at hcall
    obtain ⟨hown, hprivate, hlinks, hput⟩ := hcall
    cases rest with
    | nil =>
      rw [List.append_nil] at hput
      exact keeps_enter hs ⟨hown, hprivate, hlinks, hput⟩
    | cons byte rest =>
      refine keeps_touch hs hown hprivate ⟨hown, hprivate, ?_, ?_⟩
      · change (Function.update s.inode ino _ ino).links = 1
        rw [Function.update_self]
        exact hlinks
      · change ops i.call = .put ((Function.update s.inode ino _ ino).content ++ _)
        rw [Function.update_self, List.append_assoc, List.take_append_drop]
        exact hput
  | linking ino =>
    rw [hphase] at hcall
    obtain ⟨hown, hprivate, hlinks, hput⟩ := hcall
    dsimp only
    cases hobject : s.object ((ops i.call).sha256 digest) with
    | some _ =>
      refine keeps_enter hs ⟨hobject ▸ Option.some_ne_none _, fun ino' hown' => ?_⟩
      cases hown.symm.trans hown'
      exact hprivate
    | none => exact keeps_linking hs i.time hown hprivate hlinks hput hobject
  | unlinking =>
    rw [hphase] at hcall
    obtain ⟨ino, hown, hlinks, hobject⟩ := hcall
    dsimp only
    rw [hown]
    refine keeps_unlink hs hown i.time (fun _ _ => hlinks) ⟨?_, fun ino' hown' => ?_⟩
    · exact ne_of_eq_of_ne hobject (Option.some_ne_none _)
    · rw [unlink_temporary] at hown'
      cases hown'
  | cleaning =>
    rw [hphase] at hcall
    have hput (value : List UInt8) (h : ops i.call = .put value) :
        s.object (digest value) ≠ none := by
      have hobject := hcall.1
      rwa [h] at hobject
    dsimp only
    cases hown : s.temporary i.call with
    | some ino =>
      refine keeps_unlink hs hown i.time (fun d hd => ((hcall.2 ino hown).2 d hd).elim) ⟨?_, hput⟩
      exact unlink_temporary
    | none => exact keeps_enter hs ⟨hown, hput⟩
  | looking published =>
    rw [hphase] at hcall
    dsimp only
    cases hobject : s.object ((ops i.call).sha256 digest) with
    | none =>
      refine keeps_enter hs ⟨hcall.1, fun value hput => ?_⟩
      rw [hput] at hobject
      exact (hcall.2 value hput hobject).elim
    | some ino =>
      dsimp only
      split
      · next hsize => exact keeps_enter hs ⟨hcall.1, hobject, hsize⟩
      · next hsize =>
        refine keeps_enter hs ⟨hcall.1, fun value hput => ?_⟩
        rw [hput] at hobject hsize
        exact ⟨_, ⟨ino, hobject, rfl⟩, fun heq => hsize (congrArg List.length heq)⟩
  | opening published before =>
    rw [hphase] at hcall
    obtain ⟨hnone, hobject, hsize⟩ := hcall
    dsimp only
    rw [hobject]
    dsimp only
    rw [if_pos rfl]
    exact keeps_enter hs ⟨hnone, hobject, hsize, ⟨hsize, rfl⟩, .inl ⟨rfl, rfl⟩, List.nil_prefix⟩
  | reading published opened taken =>
    rw [hphase] at hcall
    obtain ⟨hnone, hreads⟩ := hcall
    have hend := hreads.unread_eq_nil_iff
    dsimp only
    split
    · next hremaining =>
      rw [if_pos (hend.mpr hremaining)]
      refine keeps_enter hs ⟨hnone, hreads, hreads.taken_prefix.eq_of_length_le ?_⟩
      exact List.drop_eq_nil_iff.mp (hend.mpr hremaining)
    · next hremaining =>
      rw [if_neg fun hnil => hremaining (hend.mp hnil)]
      exact keeps_enter hs ⟨hnone, hreads.more _⟩
  | closing published opened taken =>
    rw [hphase] at hcall
    obtain ⟨hnone, hreads, rfl⟩ := hcall
    obtain ⟨-, hdigest, -⟩ := hs.object _ _ hreads.object
    have hdenotes : s.Denotes ((ops i.call).sha256 digest) (s.inode opened.ino).content :=
      ⟨opened.ino, hreads.object, rfl⟩
    dsimp only
    rw [unchanged hreads, if_neg Bool.false_ne_true, if_neg (not_not_intro hdigest)]
    cases hop : ops i.call with
    | get sha size =>
      exact keeps_enter hs ⟨hnone, hdenotes, fun _ hput => by cases hop.symm.trans hput⟩
    | put value =>
      have hother (hne : (s.inode opened.ino).content ≠ value) (value' : List UInt8)
          (hput : ops i.call = .put value') :
          ∃ other, s.Denotes (digest value') other ∧ other ≠ value' := by
        cases hop.symm.trans hput
        rw [hop] at hdenotes
        exact ⟨_, hdenotes, hne⟩
      unfold Request.finish
      dsimp only
      split
      · next heq =>
        refine keeps_enter hs ⟨hnone, hdenotes, fun expected hput => ?_⟩
        cases hop.symm.trans hput
        exact heq
      · next hne => split <;> exact keeps_enter hs ⟨hnone, hother hne⟩
  | returned value | failed message =>
    exact ⟨hs, fun _ _ => rfl, fun _ _ => rfl, Nat.le_refl _, fun _ _ h => ⟨h, .refl _⟩,
      fun _ _ h => .inl h, fun _ _ _ => rfl, fun _ h => .inl h⟩

/-! ## Termination -/

/-- As many steps as a call of this size takes at most. -/
def Phase.left (size : Nat) : Phase → Nat
  | .start => 2 * size + 10
  | .creating value => size + value.length + 9
  | .writing _ rest => size + rest.length + 8
  | .linking _ => size + 7
  | .unlinking => size + 6
  | .cleaning => size + 5
  | .looking _ => size + 4
  | .opening _ _ => size + 3
  | .reading _ _ taken => size - taken.length + 2
  | .closing _ _ _ => 1
  | .returned _ | .failed _ => 0

omit [DecidableEq δ] in
theorem enter_left (s : State δ) (size : Nat) :
    ((s.enter c phase).phase c).left size = phase.left size :=
  congrArg (Phase.left size) (Function.update_self _ _ _)

theorem left_advance (s : State δ) (i : Input) :
    ((advance digest ops s i).phase i.call).left (ops i.call).sizeBytes ≤
      (s.phase i.call).left (ops i.call).sizeBytes - 1 := by
  unfold advance
  cases hphase : s.phase i.call with
  | start =>
    dsimp only
    cases hop : ops i.call with
    | get sha size => rw [enter_left]; simp only [Phase.left]; omega
    | put value =>
      dsimp only
      split <;> rw [enter_left] <;> simp only [Phase.left, Request.sizeBytes] <;> omega
  | creating value => dsimp only; rw [enter_left]; simp only [Phase.left]; omega
  | writing ino rest =>
    cases rest <;> dsimp only <;> rw [enter_left] <;>
      simp only [Phase.left, List.length_drop, List.length_cons, List.length_nil] <;> omega
  | linking ino | unlinking | cleaning | looking published | opening published before =>
    dsimp only
    split <;> (try split) <;> rw [enter_left] <;> simp only [Phase.left, List.length_nil] <;> omega
  | reading published opened taken =>
    dsimp only
    split
    · split <;> rw [enter_left] <;> simp only [Phase.left] <;> omega
    · next hremaining =>
      split
      · rw [enter_left]; simp only [Phase.left]; omega
      · next hunread =>
        have hlength := List.length_pos_iff.mpr hunread
        rw [enter_left]
        simp only [Phase.left, List.length_append, List.length_take]
        omega
  | closing published opened taken =>
    dsimp only
    split
    · rw [enter_left]; simp only [Phase.left]; omega
    · split
      · rw [enter_left]; simp only [Phase.left]; omega
      · rw [enter_left]
        unfold Request.finish
        repeat' split
        all_goals simp only [Phase.left]; omega
  | returned value | failed message =>
    dsimp only
    rw [hphase]
    exact Nat.zero_le _

/-! ## Existing objects -/

theorem get_advance (hs : Kept digest ops s) {i : Input} {value : List UInt8}
    (hop : ops i.call = .get (digest value) value.length) (hvalue : s.Denotes (digest value) value)
    (hfine : ∀ message, s.phase i.call ≠ .failed message) (message : String) :
    (advance digest ops s i).phase i.call ≠ .failed message := by
  obtain ⟨ino, hobject, rfl⟩ := hvalue
  have henter {t : State δ} {phase : Phase} (hphase : phase ≠ .failed message) :
      (t.enter i.call phase).phase i.call ≠ .failed message :=
    ne_of_eq_of_ne (Function.update_self _ _ _) hphase
  have hcall := hs.call i.call
  unfold State.CallKept at hcall
  unfold advance
  cases hphase : s.phase i.call with
  | start =>
    rw [hop]
    exact henter nofun
  | creating value =>
    rw [hphase] at hcall
    cases hop.symm.trans hcall.2
  | writing ino' rest | linking ino' =>
    rw [hphase] at hcall
    cases hop.symm.trans hcall.2.2.2
  | unlinking =>
    rw [hphase] at hcall
    obtain ⟨ino', hown, -⟩ := hcall
    dsimp only
    rw [hown]
    exact henter nofun
  | cleaning => dsimp only; split <;> exact henter nofun
  | looking published =>
    have hfound : s.object ((ops i.call).sha256 digest) = some ino := by rw [hop]; exact hobject
    have hsize : (s.stat ino).size = (ops i.call).sizeBytes := by rw [hop]; rfl
    dsimp only
    rw [hfound]
    dsimp only
    rw [if_pos hsize]
    exact henter nofun
  | opening published before =>
    rw [hphase] at hcall
    dsimp only
    rw [hcall.2.1]
    dsimp only
    rw [if_pos rfl]
    exact henter nofun
  | reading published opened taken =>
    rw [hphase] at hcall
    have hend := hcall.2.unread_eq_nil_iff
    dsimp only
    split
    · next hremaining =>
      rw [if_pos (hend.mpr hremaining)]
      exact henter nofun
    · next hremaining =>
      rw [if_neg fun hnil => hremaining (hend.mp hnil)]
      exact henter nofun
  | closing published opened taken =>
    rw [hphase] at hcall
    obtain ⟨-, hreads, rfl⟩ := hcall
    obtain ⟨-, hdigest, -⟩ := hs.object _ _ hreads.object
    dsimp only
    rw [unchanged hreads, if_neg Bool.false_ne_true, if_neg (not_not_intro hdigest), hop]
    exact henter nofun
  | returned value => dsimp only; rw [hphase]; nofun
  | failed m => exact (hfine m hphase).elim

end Steps

/-! ## Runs -/

section Runs

variable [DecidableEq δ] (digest : List UInt8 → δ) (ops : Nat → Request δ)

theorem kept_init : Kept digest ops (directory digest ops).init :=
  ⟨fun _ => rfl, nofun, nofun, nofun⟩

variable {digest ops} {s : State δ}

theorem stays {P : State δ → Prop} (hs : Kept digest ops s) (hP : P s)
    (hstep : ∀ s i, Kept digest ops s → P s → P (advance digest ops s i)) (inputs : List Input) :
    Kept digest ops ((directory digest ops).exec s inputs) ∧
      P ((directory digest ops).exec s inputs) :=
  Machine.Stable.exec (M := directory digest ops) (P := fun s => Kept digest ops s ∧ P s)
    (fun s i h => ⟨(keeps_advance h.1 i).1, hstep s i h.1 h.2⟩) ⟨hs, hP⟩ inputs

theorem kept_exec (hs : Kept digest ops s) (inputs : List Input) :
    Kept digest ops ((directory digest ops).exec s inputs) :=
  (stays (P := fun _ => True) hs trivial (fun _ _ _ _ => trivial) inputs).1

theorem left_exec (hs : Kept digest ops s) (c : Nat) (inputs : List Input) :
    (((directory digest ops).exec s inputs).phase c).left (ops c).sizeBytes ≤
      (s.phase c).left (ops c).sizeBytes - inputs.countP (fun i => i.call = c) := by
  induction inputs generalizing s with
  | nil => exact Nat.le_refl _
  | cons i rest ih =>
    rw [Machine.exec_cons, List.countP_cons]
    change (((directory digest ops).exec (advance digest ops s i) rest).phase c).left _ ≤ _
    have hrest := ih (keeps_advance hs i).1
    by_cases hc : i.call = c
    · subst hc
      have hstep := @left_advance _ digest ops _ s i
      rw [if_pos (decide_eq_true rfl)]
      omega
    · rw [(keeps_advance hs i).2.phase c (Ne.symm hc)] at hrest
      rw [if_neg (by simpa using hc)]
      omega

theorem ended_of_left {phase : Phase} {size : Nat} (h : phase.left size = 0) :
    (∃ value, phase = .returned value) ∨ ∃ message, phase = .failed message := by
  cases phase with
  | returned value => exact .inl ⟨value, rfl⟩
  | failed message => exact .inr ⟨message, rfl⟩
  | start | creating | writing | linking | unlinking | cleaning | looking | opening | reading
  | closing => simp only [Phase.left] at h; omega

end Runs

end LocalMoe.Cas.Published
